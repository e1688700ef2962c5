/-
Entries by name, in order.

Tables of settings and the metadata of instances are lists of entries in the order in which their
names first appeared.  `find?` and `put` are the only two ways the rest of the library reads and
writes one by name, so entries built by `put` never hold a name twice (`keys_put`).
-/

namespace ComputeNodes

/-- Named entries in the order in which their names first appeared. -/
abbrev Entries (α : Type) := List (String × α)

namespace Entries

variable {α : Type}

/-- The names of the entries, in order. -/
def keys (t : Entries α) : List String := t.map Prod.fst

/-- The value under a name. -/
def find? : Entries α → String → Option α
  | [], _ => none
  | (key, value) :: rest, wanted => if key = wanted then some value else find? rest wanted

/-- Puts a value under a name: in its place when the name is there, at the end when it is new. -/
def put : Entries α → String → α → Entries α
  | [], key, value => [(key, value)]
  | (other, old) :: rest, key, value =>
    if other = key then (other, value) :: rest else (other, old) :: put rest key value

/-- Adds an entry at the end, unless its name is there already. -/
def addNew (t : Entries α) (key : String) (value : α) : Entries α :=
  if key ∈ t.keys then t else t ++ [(key, value)]

/-- Entries from pairs, of which a later one replaces an earlier one in its place. -/
def ofPairs (pairs : List (String × α)) : Entries α :=
  pairs.foldl (fun entries (key, value) => entries.put key value) []

@[simp] theorem keys_cons (key : String) (value : α) (rest : Entries α) :
    keys ((key, value) :: rest) = key :: keys rest := rfl

@[simp] theorem find?_put (t : Entries α) (key wanted : String) (value : α) :
    (t.put key value).find? wanted = if key = wanted then some value else t.find? wanted := by
  induction t with
  | nil => simp [put, find?]
  | cons entry rest ih =>
    obtain ⟨other, old⟩ := entry
    by_cases h : other = key
    · subst h
      by_cases hw : other = wanted <;> simp [put, find?, hw]
    · simp only [put, if_neg h, find?, ih]
      by_cases hw : other = wanted
      · have hk : ¬ key = wanted := fun hk => h (hw.trans hk.symm)
        simp [hw, hk]
      · simp [hw]

theorem find?_eq_none_iff {t : Entries α} {key : String} : t.find? key = none ↔ key ∉ t.keys := by
  induction t with
  | nil => simp [find?, keys]
  | cons entry rest ih =>
    obtain ⟨other, old⟩ := entry
    by_cases h : other = key
    · simp [find?, h]
    · simp [find?, h, ih, Ne.symm h]

theorem keys_put (t : Entries α) (key : String) (value : α) :
    (t.put key value).keys = if key ∈ t.keys then t.keys else t.keys ++ [key] := by
  induction t with
  | nil => simp [put, keys]
  | cons entry rest ih =>
    obtain ⟨other, old⟩ := entry
    by_cases h : other = key
    · simp [put, h]
    · simp only [put, if_neg h, keys_cons, ih]
      by_cases hm : key ∈ keys rest <;> simp [hm, Ne.symm h]

end Entries

end ComputeNodes
