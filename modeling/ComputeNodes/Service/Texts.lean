/-
The texts of a message.

A message is made of texts and rows of texts.  A single text may be left out, the texts of a row may
not.  A table is found before anything else that is no text, wherever it stands.
-/
import ComputeNodes.Error.Fault
import ComputeNodes.Value

namespace ComputeNodes.Texts

mutual

/-- Whether a value is a table or a list that holds one. -/
def holdsTable : Value → Bool
  | .table _ => true
  | .list items => someHoldsTable items
  | _ => false

def someHoldsTable : List Value → Bool
  | [] => false
  | item :: rest => holdsTable item || someHoldsTable rest

end

/-- Checks a text of a message. -/
def checkText (message : String) : Value → Except MessageFault Unit
  | .text s =>
    match Text.halves? s.toList with
    | some halves => .error (.halves halves)
    | none => .ok ()
  | _ => .error (.notText message)

/-- Checks the texts of a message, single ones and those of a row. -/
def check (message : String) (singles : List Value) (row : List Value := []) :
    Except MessageFault Unit :=
  if someHoldsTable singles || someHoldsTable row then .error .table
  else do
    (singles.filter (· != .null)).forM (checkText message)
    row.forM (checkText message)

end ComputeNodes.Texts
