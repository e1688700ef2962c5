/-
Numbers, dates and times of a TOML document.

A moment is tried before a number, since both begin with a digit; whatever follows a moment or a
number is the business of the statement it stands in.  A date that the calendar does not have is
refused at once.
-/
import ComputeNodes.Toml.Scan
import ComputeNodes.Calendar

namespace ComputeNodes.Toml

/-- The value of a fixed number of decimal digits at the front, with the rest behind them. -/
def splitFixed (count : Nat) (cs : List Char) : Option (Nat × List Char) :=
  let digits := cs.take count
  if digits.length = count ∧ digits.all Char.isDigit then
    some (digitsValue digits, cs.drop count)
  else none

/-- Passes over a given character. -/
def splitChar (c : Char) : List Char → Option (List Char)
  | d :: rest => if d = c then some rest else none
  | [] => none

/-- The microseconds of a fraction of a second: six digits count, all are passed over. -/
def splitFraction (cs : List Char) : Nat × List Char :=
  match cs with
  | '.' :: rest =>
    let digits := rest.takeWhile Char.isDigit
    if digits.isEmpty then (0, cs)
    else
      let counted := digits.take 6
      (digitsValue (counted ++ List.replicate (6 - counted.length) '0'),
        rest.dropWhile Char.isDigit)
  | _ => (0, cs)

/-- A time of day at the front. -/
def splitTime (cs : List Char) : Option (TimeOfDay × List Char) := do
  let (hour, rest) ← splitFixed 2 cs
  let (minute, rest) ← splitFixed 2 (← splitChar ':' rest)
  let (second, rest) ← splitFixed 2 (← splitChar ':' rest)
  guard (hour < 24 && minute < 60 && second < 60)
  let (microsecond, rest) := splitFraction rest
  return ({ hour, minute, second, microsecond }, rest)

/-- How far ahead of universal time a clock is, where the document says so. -/
def splitZone (cs : List Char) : Option Int × List Char :=
  match cs with
  | 'Z' :: rest => (some 0, rest)
  | 'z' :: rest => (some 0, rest)
  | sign :: rest =>
    let ahead? : Option (Int × List Char) := do
      guard (sign == '+' || sign == '-')
      let (hours, rest) ← splitFixed 2 rest
      let (minutes, rest) ← splitFixed 2 (← splitChar ':' rest)
      guard (hours < 24 && minutes < 60)
      return (Binary.signed (sign == '-') (60 * hours + minutes), rest)
    match ahead? with
    | some (ahead, rest) => (some ahead, rest)
    | none => (none, cs)
  | [] => (none, [])

/-- A date at the front, with months and days in the range that some month has. -/
def splitDate (cs : List Char) : Option (Date × List Char) := do
  let (year, rest) ← splitFixed 4 cs
  let (month, rest) ← splitFixed 2 (← splitChar '-' rest)
  let (day, rest) ← splitFixed 2 (← splitChar '-' rest)
  guard (1 ≤ month && month ≤ 12 && 1 ≤ day && day ≤ 31)
  return ({ year, month, day }, rest)

/-- Reads a moment, if there is one. -/
def moment? : Read (Option Moment) := do
  let cs ← get
  match splitDate cs with
  | some (date, rest) =>
    if !date.isValid then refuse
    let time? := match rest with
      | mark :: after =>
        if mark = 'T' ∨ mark = 't' ∨ mark = ' ' then splitTime after else none
      | [] => none
    match time? with
    | some (time, rest) =>
      let (ahead, rest) := splitZone rest
      set rest
      return some (.dateTime date time ahead)
    | none =>
      set rest
      return some (.date date)
  | none =>
    match splitTime cs with
    | some (time, rest) =>
      set rest
      return some (.time time)
    | none => return none

/-- A number: a whole one, or a double. -/
inductive Numeral where
  | whole (n : Int)
  | double (x : Float)

/-- The digits of each base that has a mark of its own. -/
def based? (cs : List Char) : Option (Nat × List Char) :=
  let digit (base : Nat) (c : Char) : Bool :=
    (c.isDigit && c.toNat - 48 < base) ||
      (base == 16 && (('a' ≤ c && c ≤ 'f') || ('A' ≤ c && c ≤ 'F')))
  let value (c : Char) : Nat := if c.isDigit then c.toNat - 48 else c.toLower.toNat - 87
  let read (base : Nat) (rest : List Char) : Option (Nat × List Char) := do
    let (digits, rest) ← splitNumber (digit base) rest
    return (digits.foldl (fun n c => base * n + value c) 0, rest)
  match cs with
  | '0' :: 'x' :: rest => read 16 rest
  | '0' :: 'o' :: rest => read 8 rest
  | '0' :: 'b' :: rest => read 2 rest
  | _ => none

/-- The fraction of a double, without its point. -/
def splitPoint (cs : List Char) : List Char × List Char :=
  match cs with
  | '.' :: rest => (splitNumber Char.isDigit rest).getD ([], cs)
  | _ => ([], cs)

/-- The exponent of a double. -/
def splitExponent (cs : List Char) : Option Int × List Char :=
  match cs with
  | mark :: rest =>
    if mark = 'e' ∨ mark = 'E' then
      let (negative, digits) := Decimal.splitSign rest
      match splitNumber Char.isDigit digits with
      | some (digits, after) => (some (Binary.signed negative (digitsValue digits)), after)
      | none => (none, cs)
    else (none, cs)
  | [] => (none, [])

/-- Reads a number, if there is one. -/
def numeral? : Read (Option Numeral) := do
  let cs ← get
  if let some (n, rest) := based? cs then
    set rest
    return some (.whole n)
  let (negative, unsigned) := Decimal.splitSign cs
  let whole? := match unsigned with
    | '0' :: rest => some (['0'], rest)
    | _ => splitNumber Char.isDigit unsigned
  match whole? with
  | none =>
    if ['i', 'n', 'f'].isPrefixOf unsigned then
      set (unsigned.drop 3)
      return some (.double (Binary.infinity negative))
    else if ['n', 'a', 'n'].isPrefixOf unsigned then
      set (unsigned.drop 3)
      return some (.double (0.0 / 0.0))
    else return none
  | some (whole, rest) =>
    let (fraction, rest) := splitPoint rest
    let (exponent, rest) := splitExponent rest
    set rest
    if fraction.isEmpty && exponent.isNone then
      if Numeral.mostDigits < whole.length then throw (.tooManyDigits whole.length)
      return some (.whole (Binary.signed negative (digitsValue whole)))
    else
      let scale := exponent.getD 0 - fraction.length
      return some (.double (Binary.ofDecimal negative ⟨digitsValue (whole ++ fraction), scale⟩))

end ComputeNodes.Toml
