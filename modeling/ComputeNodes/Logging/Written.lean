/-
Records as lines of a file and on a console.

A file has a line for every record, behind the time: its level, where it comes from, and its words.
Whatever goes on behind the end of that line belongs to the record and is no line of the log, unless
it starts with a time itself.  A record that cannot be written is left out of a file.  On a console
it is an error.
-/
import ComputeNodes.Logging.Record
import ComputeNodes.Text.Digit
import ComputeNodes.Text.Surrogate

namespace ComputeNodes.Logging

/-! ### Moments -/

/-- The seconds that the clock of a system can count to, in both directions. -/
def leastSecond : Int := -67768040609740800

def mostSecond : Int := 67768036191676799

/-- The number of seconds in a day. -/
def daySeconds : Int := 86400

/-- The year of a number of seconds since the beginning of 1970. -/
def yearOfSecond (second : Int) : Int := Date.yearOfDay (second.fdiv daySeconds)

/-- The second in which a value lies that counts them since the beginning of 1970. -/
def secondOf (v : Value) : Except Error Int := do
  let second ← match Message.Part.whole? v, v with
    | some n, _ => pure n
    | none, .float x =>
      if x.isNaN then throw (.clock .notANumber)
      match Binary.truncate? x with
      | some n => pure (if Binary.intLe n x then n else n - 1)
      | none => throw (.clock .outsideClock)
    | none, v => throw (.use (.notWhole v.typeName))
  if second < -0x8000000000000000 ∨ 0x8000000000000000 ≤ second then
    throw (.clock .outsideClock)
  if second < leastSecond ∨ mostSecond < second then
    throw (.clock .outsideSystem)
  return second

/-- Checks that a value counts the seconds to a moment of the calendar, with a day before it. -/
def checkMoment (v : Value) : Except Error Unit := do
  let second ← secondOf v
  let year := yearOfSecond second
  if year < 1 ∨ 9999 < year then
    throw (.clock (.outsideCalendar year))
  let before := yearOfSecond (second - daySeconds)
  if before < 1 then
    throw (.clock (.outsideCalendar before))

/-! ### Lines -/

/-- Whether a character ends a line of a file. -/
def endsLine (c : Char) : Bool := c == '\n' || c == '\r'

/-- The lines of a text. -/
def linesOf (text : String) : List (List Char) :=
  (text.toList.splitBy fun a _ => !endsLine a).map fun line => line.filter (!endsLine ·)

/-- What every time in front of a line looks like, with a zero for every digit. -/
def timeShape : List Char := "0000-00-00 00:00:00.000 | ".toList

/-- What follows a piece of the given shape. -/
def behind? : List Char → List Char → Option (List Char)
  | [], rest => some rest
  | _ :: _, [] => none
  | s :: shape, c :: rest =>
    if (if s = '0' then Text.isDigit c else c = s) then behind? shape rest else none

namespace Record

/-- Checks a text behind the words. -/
def attachment (v : Value) : Except Error String :=
  if v.isNothing then .ok ""
  else match v with
    | .text s => .ok s
    | v => .error (.use (.notJoined v.typeName))

/-- The texts behind the words: the trace and the stack. -/
def attachments (r : Record) : Except Error (List String) := do
  r.ask ["exc_info", "exc_text"]
  let trace ← if r.trace.isGiven && r.traceText.isNothing then do
      r.trace.checkWritten
      pure r.trace.text
    else attachment r.traceText
  r.ask ["stack_info"]
  return [trace, ← attachment r.stack]

/-- How a line says what a record says. -/
def layout : String := "%(levelname)-8s | %(name)s:%(funcName)s:%(lineno)d - %(message)s"

/-- How a line gives the thousandths of a second. -/
def thousandths : String := "%(msecs)03d"

/-- Whether the time in front of a record's line has the usual shape. -/
def hasUsualTime (r : Record) : Except Error Bool := do
  let year : Int ← match r.created with
    | none => pure 2000
    | some .null => pure 2000
    | some v => pure (yearOfSecond (← secondOf v))
  let digits : Nat ← match r.milliseconds with
    | none => pure 3
    | some v => do
      let text ← (Message.Percent.fill thousandths (.table [("msecs", v)])).mapError .percent
      pure (if text.toList.all Char.isDigit then text.length else 0)
  return 1000 ≤ year && year ≤ 9999 && digits == 3

/-- The lines of a log file that a record makes, none of which is written if there is half of a pair
in one. -/
def lines (r : Record) : Except Error (List String) := do
  let words ← r.words
  r.ask ["created", "msecs", "levelname", "name", "funcName", "lineno"]
  let usual ← r.hasUsualTime
  let body ← (Message.Percent.fill layout (.table
    [("levelname", r.level), ("name", r.logger), ("funcName", r.function), ("lineno", r.line),
      ("message", words)])).mapError .percent
  let whole := "\n".intercalate (body :: (← r.attachments))
  if (Text.halves? whole.toList).isSome then
    return []
  let all := linesOf whole
  let first := if usual then all.take 1 else []
  return (first ++ (all.drop 1).filterMap (behind? timeShape)).map String.ofList

/-! ### Consoles -/

/-- Puts a text behind another one, on a line of its own. -/
def attached (text more : String) : String :=
  if more = "" then text
  else if text.toList.getLast? = some '\n' then text ++ more
  else text ++ "\n" ++ more

/-- What a console shows of the words and what is behind them: an error is drawn by itself. -/
def consoleText (r : Record) (words : String) (attachments : List String) : String :=
  match r.trace with
  | .handled (some _) => words
  | _ => attachments.foldl attached words

/-- Whether a console can show a text, which may be marked up. -/
def isTextShown (r : Record) (text : String) : Except Error Bool :=
  if r.markup.isNothing then .ok true
  else ((Markup.Marked.read text.toList).mapError .markup).map Markup.Marked.isShown

/-- Whether a console can show where a record comes from: the name of a file, and the line behind
it, are addresses. -/
def isPlaceShown (path : String) (line : Value) : Bool :=
  let address := "link file://" ++ path
  let isNamed := (path.splitOn "/").any fun name => name != "" && name != "."
  let styles := if line.isNothing then [address] else [address, address ++ "#" ++ line.plain]
  !isNamed || styles.all fun style => Markup.Marked.isStyle style.toList

/-- Whether a console shows a record.  One whose styles make no sense is passed over. -/
def isPrinted (r : Record) : Except Error Bool := do
  let words ← r.words
  let attachments ← r.attachments
  if r.trace.isGiven then
    r.trace.checkDrawn
  let isTextShown ← r.isTextShown (r.consoleText words attachments)
  if let some v := r.highlighter then
    if !v.isNothing then
      throw (.use (.notCallable v.typeName))
  r.ask ["pathname"]
  let path ← match r.path with
    | .text path => pure path
    | v => throw (.use (.notPath v.typeName))
  r.ask ["levelname"]
  match r.level with
  | .text _ => pure ()
  | v => throw (.use (.lacks v.typeName "ljust"))
  r.ask ["created"]
  if let some v := r.created then
    checkMoment v
  r.ask ["lineno"]
  return isTextShown && isPlaceShown path r.line

end Record

end ComputeNodes.Logging
