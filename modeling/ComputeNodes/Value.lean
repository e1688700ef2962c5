/-
Values whose kind is only known when they are looked at.

Settings files, bound log fields and loosely typed replies hold values of any kind.  A
value is shown in two ways: `plain` when it stands on its own, and `shown` inside another value.

Named values come as tables or as records.  A table is looked up by its keys and may be empty; a
record has features, and counts as something even if it has none.
-/
import ComputeNodes.Calendar
import ComputeNodes.Entries
import ComputeNodes.Text.Quoted

namespace ComputeNodes

inductive Value where
  | null
  | bool (b : Bool)
  | int (n : Int)
  | float (x : Float)
  | text (s : String)
  | moment (m : Moment)
  | list (items : List Value)
  | table (entries : List (String × Value))
  | record (features : List (String × Value))
  deriving Inhabited, Repr

/-- A table of settings. -/
abbrev Table := Entries Value

namespace Value

/-- The word for what kind of value this is. -/
def typeName : Value → String
  | .null => "NoneType"
  | .bool _ => "bool"
  | .int _ => "int"
  | .float _ => "float"
  | .text _ => "str"
  | .moment m => m.typeName
  | .list _ => "list"
  | .table _ => "dict"
  | .record _ => "types.SimpleNamespace"

/-- Whether a value counts as nothing: absent, false, zero or empty. -/
def isNothing : Value → Bool
  | .null => true
  | .bool b => !b
  | .int n => n == 0
  | .float x => x == 0.0
  | .text s => s.isEmpty
  | .moment _ => false
  | .list items => items.isEmpty
  | .table entries => entries.isEmpty
  | .record _ => false

/-- A value that counts as something. -/
def something? (v : Value) : Option Value := if v.isNothing then none else some v

/-- A value that counts as something, and null in the place of any other. -/
def orNull (v : Value) : Value := if v.isNothing then .null else v

/-- The text of a truth value. -/
def boolText (b : Bool) : String := if b then "True" else "False"

mutual

/-- A value as it is shown inside another one: texts are in quotation marks.  A feature without a
name is not shown. -/
def shown : Value → String
  | .null => "None"
  | .bool b => boolText b
  | .int n => toString n
  | .float x => doubleText x
  | .text s => Text.quoted s
  | .moment m => m.constructed
  | .list items => "[" ++ ", ".intercalate (shownItems items) ++ "]"
  | .table entries => "\x7b" ++ ", ".intercalate (shownEntries entries) ++ "\x7d"
  | .record features => "namespace(" ++ ", ".intercalate (shownFeatures features) ++ ")"

def shownItems : List Value → List String
  | [] => []
  | item :: rest => shown item :: shownItems rest

def shownEntries : List (String × Value) → List String
  | [] => []
  | (key, value) :: rest => (Text.quoted key ++ ": " ++ shown value) :: shownEntries rest

def shownFeatures : List (String × Value) → List String
  | [] => []
  | (name, value) :: rest =>
    if name = "" then shownFeatures rest
    else (name ++ "=" ++ shown value) :: shownFeatures rest

end

/-- A value as it is shown on its own: a text is itself. -/
def plain : Value → String
  | .text s => s
  | .moment m => m.iso
  | value => value.shown

/-! ### Equality -/

mutual

/-- Whether two values are the same, kind and all. -/
def same : Value → Value → Bool
  | .null, .null => true
  | .bool a, .bool b => a == b
  | .int a, .int b => a == b
  | .float x, .float y => decide (x = y)
  | .text s, .text t => s == t
  | .moment m, .moment n => decide (m = n)
  | .list as, .list bs => sameItems as bs
  | .table as, .table bs => sameEntries as bs
  | .record as, .record bs => sameEntries as bs
  | _, _ => false

def sameItems : List Value → List Value → Bool
  | [], [] => true
  | a :: as, b :: bs => same a b && sameItems as bs
  | _, _ => false

def sameEntries : List (String × Value) → List (String × Value) → Bool
  | [], [] => true
  | (key, a) :: as, (other, b) :: bs => key == other && same a b && sameEntries as bs
  | _, _ => false

end

mutual

theorem same_iff : ∀ a b : Value, same a b = true ↔ a = b
  | .list as, b => by cases b <;> simp [same, sameItems_iff as]
  | .table as, b => by cases b <;> simp [same, sameEntries_iff as]
  | .record as, b => by cases b <;> simp [same, sameEntries_iff as]
  | .null, b => by cases b <;> simp [same]
  | .bool _, b => by cases b <;> simp [same]
  | .int _, b => by cases b <;> simp [same]
  | .float _, b => by cases b <;> simp [same]
  | .text _, b => by cases b <;> simp [same]
  | .moment _, b => by cases b <;> simp [same]

theorem sameItems_iff : ∀ as bs : List Value, sameItems as bs = true ↔ as = bs
  | [], bs => by cases bs <;> simp [sameItems]
  | a :: as, bs => by cases bs <;> simp [sameItems, same_iff a, sameItems_iff as]

theorem sameEntries_iff :
    ∀ as bs : List (String × Value), sameEntries as bs = true ↔ as = bs
  | [], bs => by cases bs <;> simp [sameEntries]
  | (key, a) :: as, bs => by
    cases bs <;> simp [sameEntries, same_iff a, sameEntries_iff as, Prod.ext_iff]

end

instance : DecidableEq Value := fun a b => decidable_of_iff _ (same_iff a b)

end Value

/-- A text is a value. -/
instance : Coe String Value := ⟨.text⟩

end ComputeNodes
