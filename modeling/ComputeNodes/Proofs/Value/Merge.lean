/-
Merged tables, path by path.

What nested tables hold is found along paths of keys (`Value.at?`), and what a merged table holds is
told by what the two others hold there (`Table.IsMergeOf`).  Along a path there are three cases at
every key: both hold a table, and the merge goes on inside; the upper one holds something else, and
that is what is found from there on; or the upper one holds nothing, and the lower one is left as it
is.  The three lemmas about `Table.merge` below are these cases, and the paths are walked by
induction with them.

The upper table is laid over the lower one entry by entry, so a key that it named twice would be
merged twice.  Tables name every key once (`Table.keysOnce`), and so do the tables in them.

The laws of merging come from the same three cases by induction on the tables inside the lower one.
-/
import ComputeNodes.Value.Merge
import Mathlib.Data.List.Nodup

namespace ComputeNodes

/-! ### Entries -/

namespace Entries

variable {α : Type} {t u : Entries α} {key : String} {a : α}

theorem mem_of_find? (h : t.find? key = some a) : (key, a) ∈ t := by
  induction t with
  | nil => cases h
  | cons entry rest ih =>
    obtain ⟨other, b⟩ := entry
    by_cases hkey : other = key
    · rw [find?, if_pos hkey] at h
      cases h
      exact hkey ▸ List.mem_cons_self
    · rw [find?, if_neg hkey] at h
      exact List.mem_cons_of_mem _ (ih h)

theorem nodup_keys_put (hnodup : t.keys.Nodup) (key : String) (a : α) :
    (t.put key a).keys.Nodup := by
  rw [keys_put]
  split
  next => exact hnodup
  next hnew =>
    refine List.nodup_append.mpr ⟨hnodup, List.nodup_singleton _, ?_⟩
    rintro other hother _ hmem rfl
    exact hnew (List.mem_singleton.mp hmem ▸ hother)

/-- Entries that name every key once are told by their keys and by what is under these. -/
theorem ext_find? (hnodup : t.keys.Nodup) (hkeys : t.keys = u.keys)
    (h : ∀ key, t.find? key = u.find? key) : t = u := by
  induction t generalizing u with
  | nil => exact (List.map_eq_nil_iff.mp hkeys.symm).symm
  | cons entry rest ih =>
    obtain ⟨key, a⟩ := entry
    obtain ⟨⟨other, b⟩, rest', rfl, hother, hrest⟩ := List.map_eq_cons_iff.mp hkeys.symm
    obtain rfl : other = key := hother
    obtain ⟨hnew, hnodup⟩ := List.nodup_cons.mp hnodup
    obtain rfl : a = b := by simpa [find?] using h other
    congr 1
    refine ih hnodup hrest.symm fun key => ?_
    by_cases hkey : other = key
    · subst hkey
      have hnew' : other ∉ keys rest' := by rwa [keys, hrest]
      rw [find?_eq_none_iff.mpr hnew, find?_eq_none_iff.mpr hnew']
    · simpa [find?, hkey] using h key

end Entries

/-! ### Paths -/

namespace Value

/-- Whether a value is a table. -/
def IsTable (v : Value) : Prop := ∃ entries, v = .table entries

/-- The value at the end of a path of keys, each of which is looked up in the table before it. -/
def at? : List String → Value → Option Value
  | [], v => some v
  | key :: path, .table entries => (Entries.find? entries key).bind (at? path)
  | _ :: _, _ => none

/-- Whether a path comes to a value that is not a table before it ends. -/
def Blocks (v : Value) (path : List String) : Prop :=
  ∃ front rest found, path = front ++ rest ∧ rest ≠ [] ∧ v.at? front = some found ∧ ¬ found.IsTable

variable {v w : Value} {key : String} {path : List String} {entries : List (String × Value)}

@[simp] theorem isTable_table (entries : List (String × Value)) : (table entries).IsTable :=
  ⟨entries, rfl⟩

@[simp] theorem at?_nil (v : Value) : v.at? [] = some v := by
  cases v <;> rfl

@[simp] theorem at?_table_cons (entries : List (String × Value)) (key : String)
    (path : List String) :
    (table entries).at? (key :: path) = (Entries.find? entries key).bind (at? path) := rfl

theorem at?_cons_of_not_isTable (h : ¬ v.IsTable) (key : String) (path : List String) :
    v.at? (key :: path) = none := by
  cases v with
  | table entries => exact absurd (isTable_table entries) h
  | _ => rfl

/-- Only the empty path leads anywhere from a value that is not a table. -/
theorem eq_nil_of_at? (h : ¬ v.IsTable) (hat : v.at? path = some w) : path = [] := by
  cases path with
  | nil => rfl
  | cons key path =>
    rw [at?_cons_of_not_isTable h] at hat
    cases hat

/-- A path to a table starts at one. -/
theorem isTable_of_at? (h : v.at? path = some (.table entries)) : v.IsTable := by
  by_contra hnot
  obtain rfl := eq_nil_of_at? hnot h
  rw [at?_nil] at h
  exact hnot ⟨entries, Option.some.inj h⟩

theorem blocks_of_not_isTable (h : ¬ v.IsTable) (hpath : path ≠ []) : v.Blocks path :=
  ⟨[], path, v, rfl, hpath, at?_nil v, h⟩

theorem blocks_table_cons :
    (table entries).Blocks (key :: path) ↔
      ∃ v, Entries.find? entries key = some v ∧ v.Blocks path := by
  constructor
  · rintro ⟨front, rest, found, hpath, hrest, hfound, hnot⟩
    cases front with
    | nil =>
      rw [at?_nil] at hfound
      cases hfound
      exact absurd (isTable_table entries) hnot
    | cons other front =>
      obtain ⟨rfl, rfl⟩ := List.cons.inj hpath
      obtain ⟨v, hv, hfound⟩ := Option.bind_eq_some_iff.mp hfound
      exact ⟨v, hv, front, rest, found, rfl, hrest, hfound, hnot⟩
  · rintro ⟨v, hv, front, rest, found, rfl, hrest, hfound, hnot⟩
    refine ⟨key :: front, rest, found, rfl, hrest, ?_, hnot⟩
    rw [at?_table_cons, hv]
    exact hfound

end Value

namespace Table

/-- The value at the end of a path of keys in a table. -/
def at? (t : Table) (path : List String) : Option Value := (Value.table t).at? path

@[simp] theorem at?_nil (t : Table) : t.at? [] = some (.table t) := rfl

@[simp] theorem at?_cons (t : Table) (key : String) (path : List String) :
    t.at? (key :: path) = (t.find? key).bind (Value.at? path) := rfl

end Table

/-! ### Tables that name every key once -/

mutual

/-- Whether a value, if it is a table, names every key once, and so do the tables in it. -/
def Value.keysOnce : Value → Bool
  | .table entries => Table.keysOnce entries
  | _ => true

/-- Whether a table names every key once, and so do the tables in it. -/
def Table.keysOnce : Table → Bool
  | [] => true
  | (key, value) :: rest =>
    !(Entries.keys rest).contains key && value.keysOnce && Table.keysOnce rest

end

@[simp] theorem Value.keysOnce_table (entries : List (String × Value)) :
    (table entries).keysOnce = Table.keysOnce entries := by
  rw [Value.keysOnce]

namespace Table

variable {t lower upper : Table} {key : String} {v : Value}

theorem keysOnce_cons {rest : Table} : keysOnce ((key, v) :: rest) = true ↔
    key ∉ rest.keys ∧ v.keysOnce = true ∧ keysOnce rest = true := by
  simp [keysOnce, and_assoc]

/-- Keys are named once if no two are the same, and there is nothing under them in which one is
named twice. -/
theorem keysOnce_iff : t.keysOnce = true ↔
    t.keys.Nodup ∧ ∀ key v, t.find? key = some v → v.keysOnce = true := by
  induction t with
  | nil => simp [keysOnce, Entries.keys, Entries.find?]
  | cons entry rest ih =>
    obtain ⟨key, value⟩ := entry
    rw [keysOnce_cons, ih, Entries.keys_cons, List.nodup_cons]
    constructor
    · rintro ⟨hnew, hvalue, hnodup, hrest⟩
      refine ⟨⟨hnew, hnodup⟩, fun other v hv => ?_⟩
      by_cases hkey : key = other
      · rw [Entries.find?, if_pos hkey] at hv
        exact Option.some.inj hv ▸ hvalue
      · rw [Entries.find?, if_neg hkey] at hv
        exact hrest other v hv
    · rintro ⟨⟨hnew, hnodup⟩, hvalues⟩
      refine ⟨hnew, hvalues key value (by simp [Entries.find?]), hnodup, fun other v hv => ?_⟩
      have hne : key ≠ other := by
        rintro rfl
        rw [Entries.find?_eq_none_iff.mpr hnew] at hv
        cases hv
      exact hvalues other v (by rwa [Entries.find?, if_neg hne])

theorem nodup_keys_of_keysOnce (h : t.keysOnce = true) : t.keys.Nodup := (keysOnce_iff.mp h).1

theorem keysOnce_under (h : t.keysOnce = true) (hv : t.find? key = some v) : v.keysOnce = true :=
  (keysOnce_iff.mp h).2 key v hv

/-- The tables in a table that names every key once do so themselves. -/
theorem keysOnce_of_find? {inner : Table} (h : t.keysOnce = true)
    (hinner : t.find? key = some (.table inner)) : inner.keysOnce = true := by
  simpa using keysOnce_under h hinner

theorem keysOnce_put (h : t.keysOnce = true) (hv : v.keysOnce = true) (key : String) :
    keysOnce (t.put key v) = true := by
  obtain ⟨hnodup, hvalues⟩ := keysOnce_iff.mp h
  refine keysOnce_iff.mpr ⟨?_, fun other w hw => ?_⟩
  · exact Entries.nodup_keys_put hnodup key v
  · rw [Entries.find?_put] at hw
    split at hw
    next => exact Option.some.inj hw ▸ hv
    next => exact hvalues other w hw

/-! ### What is under a key -/

theorem nodup_keys_append (hlower : lower.keys.Nodup) (hupper : upper.keys.Nodup) :
    (lower.keys ++ upper.keys.filter (· ∉ lower.keys)).Nodup := by
  refine List.nodup_append.mpr ⟨hlower, hupper.filter _, ?_⟩
  rintro key hkey other hother rfl
  simpa [hkey] using (List.mem_filter.mp hother).2

/-- The keys of the lower table keep their places, and the new ones of the upper table follow. -/
theorem keys_merge (h : upper.keys.Nodup) (lower : Table) :
    (lower.merge upper).keys = lower.keys ++ upper.keys.filter (· ∉ lower.keys) := by
  unfold merge
  induction upper generalizing lower with
  | nil => simp [mergeInto, Entries.keys]
  | cons entry rest ih =>
    obtain ⟨key, value⟩ := entry
    obtain ⟨hnew, hrest⟩ := List.nodup_cons.mp h
    rw [mergeInto, ih hrest, Entries.keys_put, Entries.keys_cons]
    by_cases hkey : key ∈ lower.keys
    · simp [hkey]
    · have hcongr : (Entries.keys rest).filter (· ∉ lower.keys ++ [key])
          = (Entries.keys rest).filter (· ∉ lower.keys) := by
        refine List.filter_congr fun other hother => ?_
        have hne : other ≠ key := fun heq => hnew (heq ▸ hother)
        simp [hne]
      rw [if_neg hkey, hcongr, List.filter_cons_of_pos (by simpa using hkey), List.append_assoc]
      rfl

/-- What is under a key of the upper table is laid over what is under it in the lower one. -/
theorem find?_merge (h : upper.keys.Nodup) (lower : Table) (key : String) :
    (lower.merge upper).find? key =
      ((upper.find? key).map (Value.over (lower.find? key))).or (lower.find? key) := by
  unfold merge
  induction upper generalizing lower with
  | nil => simp [mergeInto, Entries.find?]
  | cons entry rest ih =>
    obtain ⟨other, value⟩ := entry
    obtain ⟨hnew, hrest⟩ := List.nodup_cons.mp h
    rw [mergeInto, ih hrest, Entries.find?_put, Entries.find?]
    by_cases hkey : other = key
    · subst hkey
      simp [Entries.find?_eq_none_iff.mpr hnew]
    · simp [hkey]

/-- Where both hold a table under a key, the two are merged. -/
theorem find?_merge_inner (h : upper.keys.Nodup) {a b : Table}
    (ha : lower.find? key = some (.table a)) (hb : upper.find? key = some (.table b)) :
    (lower.merge upper).find? key = some (.table (a.merge b)) := by
  rw [find?_merge h, ha, hb]
  rfl

/-- Anything else under a key of the upper table is what the merged one holds. -/
theorem find?_merge_upper (h : upper.keys.Nodup) (hv : upper.find? key = some v)
    (hnot : ¬ ((∃ a, lower.find? key = some (.table a)) ∧ v.IsTable)) :
    (lower.merge upper).find? key = some v := by
  rw [find?_merge h, hv, Option.map_some, Option.some_or]
  cases v with
  | table b =>
    cases hold : lower.find? key with
    | none => rfl
    | some old =>
      cases old with
      | table a => exact absurd ⟨⟨a, hold⟩, Value.isTable_table b⟩ hnot
      | _ => rfl
  | _ => rfl

/-- Under any other key the lower table stays as it is. -/
theorem find?_merge_lower (h : upper.keys.Nodup) (hnone : upper.find? key = none) :
    (lower.merge upper).find? key = lower.find? key := by
  rw [find?_merge h, hnone]
  rfl

/-! ### What is at the end of a path -/

variable {path : List String}

theorem at?_of_find? (hv : t.find? key = some v) (path : List String) :
    t.at? (key :: path) = v.at? path := by
  rw [at?_cons, hv]
  rfl

theorem blocks_of_find? (hv : t.find? key = some v) :
    (Value.table t).Blocks (key :: path) ↔ v.Blocks path := by
  rw [Value.blocks_table_cons]
  constructor
  · rintro ⟨w, hw, hblocks⟩
    obtain rfl := Option.some.inj (hv.symm.trans hw)
    exact hblocks
  · exact fun hblocks => ⟨v, hv, hblocks⟩

theorem not_blocks_of_find? (hnone : t.find? key = none) (path : List String) :
    ¬ (Value.table t).Blocks (key :: path) := by
  rw [Value.blocks_table_cons]
  rintro ⟨v, hv, -⟩
  rw [hnone] at hv
  cases hv

/-- What a merged table holds, by what is held by a lower and an upper one. -/
structure IsMergeOf (lower upper merged : Table) : Prop where
  /-- Where both hold a table, there is one with the keys of both: first those of the lower table,
  and then the new ones of the upper table. -/
  joined : ∀ path (a b : Table), lower.at? path = some (.table a) →
    upper.at? path = some (.table b) → ∃ c : Table, merged.at? path = some (.table c) ∧
      (∀ key, key ∈ c.keys ↔ key ∈ a.keys ∨ key ∈ b.keys) ∧
      c.keys = a.keys ++ b.keys.filter (· ∉ a.keys)
  /-- Wherever else the upper table holds something, that is what is held. -/
  replaced : ∀ path v, upper.at? path = some v →
    ¬ ((∃ a, lower.at? path = some (.table a)) ∧ v.IsTable) → merged.at? path = some v
  /-- Where only the lower table holds something, that is what is held. -/
  kept : ∀ path v, lower.at? path = some v → upper.at? path = none →
    ¬ (Value.table upper).Blocks path → merged.at? path = some v
  /-- Unless the upper table holds something on the way there that is no table. -/
  hidden : ∀ path v, lower.at? path = some v → upper.at? path = none →
    (Value.table upper).Blocks path → merged.at? path = none

theorem merge_joined (hupper : upper.keysOnce = true) {a b : Table}
    (ha : lower.at? path = some (.table a)) (hb : upper.at? path = some (.table b)) :
    (lower.merge upper).at? path = some (.table (a.merge b)) ∧ b.keysOnce = true := by
  induction path generalizing lower upper with
  | nil =>
    cases ha
    cases hb
    exact ⟨rfl, hupper⟩
  | cons key path ih =>
    have hnodup := nodup_keys_of_keysOnce hupper
    obtain ⟨x, hx, ha⟩ := Option.bind_eq_some_iff.mp ha
    obtain ⟨y, hy, hb⟩ := Option.bind_eq_some_iff.mp hb
    obtain ⟨a', rfl⟩ := Value.isTable_of_at? ha
    obtain ⟨b', rfl⟩ := Value.isTable_of_at? hb
    rw [at?_of_find? (find?_merge_inner hnodup hx hy)]
    exact ih (keysOnce_of_find? hupper hy) ha hb

theorem merge_replaced (hupper : upper.keysOnce = true) (hv : upper.at? path = some v)
    (hnot : ¬ ((∃ a, lower.at? path = some (.table a)) ∧ v.IsTable)) :
    (lower.merge upper).at? path = some v := by
  induction path generalizing lower upper with
  | nil =>
    cases hv
    exact absurd ⟨⟨lower, rfl⟩, Value.isTable_table upper⟩ hnot
  | cons key path ih =>
    have hnodup := nodup_keys_of_keysOnce hupper
    obtain ⟨y, hy, hv⟩ := Option.bind_eq_some_iff.mp hv
    by_cases hboth : (∃ a, lower.find? key = some (.table a)) ∧ y.IsTable
    · obtain ⟨⟨a, ha⟩, b, rfl⟩ := hboth
      rw [at?_of_find? (find?_merge_inner hnodup ha hy)]
      rw [at?_of_find? ha] at hnot
      exact ih (keysOnce_of_find? hupper hy) hv hnot
    · rw [at?_of_find? (find?_merge_upper hnodup hy hboth)]
      exact hv

theorem merge_alone (hupper : upper.keysOnce = true) (hv : lower.at? path = some v)
    (hnone : upper.at? path = none) :
    ((Value.table upper).Blocks path → (lower.merge upper).at? path = none) ∧
      (¬ (Value.table upper).Blocks path → (lower.merge upper).at? path = some v) := by
  induction path generalizing lower upper with
  | nil => cases hnone
  | cons key path ih =>
    have hnodup := nodup_keys_of_keysOnce hupper
    obtain ⟨x, hx, hv⟩ := Option.bind_eq_some_iff.mp hv
    cases hy : upper.find? key with
    | none =>
      refine ⟨fun hblocks => absurd hblocks (not_blocks_of_find? hy path), fun _ => ?_⟩
      rw [at?_of_find? ((find?_merge_lower hnodup hy).trans hx)]
      exact hv
    | some y =>
      rw [at?_of_find? hy] at hnone
      rw [blocks_of_find? hy]
      have hne : path ≠ [] := by
        rintro rfl
        rw [Value.at?_nil] at hnone
        cases hnone
      by_cases htable : y.IsTable
      · -- the path goes on in the lower table, so what it comes to first is a table as well
        obtain ⟨b, rfl⟩ := htable
        obtain ⟨a, rfl⟩ : x.IsTable := by
          by_contra hnot
          exact hne (Value.eq_nil_of_at? hnot hv)
        rw [at?_of_find? (find?_merge_inner hnodup hx hy)]
        exact ih (keysOnce_of_find? hupper hy) hv hnone
      · rw [at?_of_find? (find?_merge_upper hnodup hy fun hboth => htable hboth.2)]
        exact ⟨fun _ => hnone, fun hfree => absurd (Value.blocks_of_not_isTable htable hne) hfree⟩

theorem isMergeOf_merge (hupper : upper.keysOnce = true) :
    IsMergeOf lower upper (lower.merge upper) where
  joined path a b ha hb := by
    obtain ⟨hat, hb⟩ := merge_joined hupper ha hb
    have hkeys := keys_merge (nodup_keys_of_keysOnce hb) a
    refine ⟨a.merge b, hat, fun key => ?_, hkeys⟩
    rw [hkeys, List.mem_append, List.mem_filter]
    by_cases hkey : key ∈ a.keys <;> simp [hkey]
  replaced path v hv hnot := merge_replaced hupper hv hnot
  kept path v hv hnone := (merge_alone hupper hv hnone).2
  hidden path v hv hnone := (merge_alone hupper hv hnone).1

/-! ### Nothing else is the merged table -/

/-- What holds of a table when it holds of the tables in it holds of all tables. -/
theorem inner_induction {motive : Table → Prop}
    (h : ∀ t : Table, (∀ key inner, t.find? key = some (.table inner) → motive inner) → motive t)
    (t : Table) : motive t :=
  h t fun key inner hinner =>
    have hlt : sizeOf inner < sizeOf t := by
      have hmem := List.sizeOf_lt_of_mem (Entries.mem_of_find? hinner)
      simp only [Prod.mk.sizeOf_spec, Value.table.sizeOf_spec] at hmem
      omega
    inner_induction h inner
termination_by sizeOf t

/-- Merged tables are told by what is in them under every key. -/
theorem IsMergeOf.inner {a b c merged : Table} (h : IsMergeOf lower upper merged)
    (ha : lower.find? key = some (.table a)) (hb : upper.find? key = some (.table b))
    (hc : merged.find? key = some (.table c)) : IsMergeOf a b c where
  joined path x y hx hy := by
    have hjoined := h.joined (key :: path) x y
    rw [at?_of_find? ha, at?_of_find? hb, at?_of_find? hc] at hjoined
    exact hjoined hx hy
  replaced path v := by
    have hreplaced := h.replaced (key :: path) v
    rwa [at?_of_find? ha, at?_of_find? hb, at?_of_find? hc] at hreplaced
  kept path v := by
    have hkept := h.kept (key :: path) v
    rwa [at?_of_find? ha, at?_of_find? hb, at?_of_find? hc, blocks_of_find? hb] at hkept
  hidden path v := by
    have hhidden := h.hidden (key :: path) v
    rwa [at?_of_find? ha, at?_of_find? hb, at?_of_find? hc, blocks_of_find? hb] at hhidden

theorem at?_single (t : Table) (key : String) : t.at? [key] = t.find? key := by
  rw [at?_cons]
  cases t.find? key <;> simp

theorem IsMergeOf.eq_merge {merged : Table} (hlower : lower.keysOnce = true)
    (hupper : upper.keysOnce = true) (h : IsMergeOf lower upper merged) :
    merged = lower.merge upper := by
  induction lower using inner_induction generalizing upper merged with
  | h lower ih =>
    have hnodup := nodup_keys_of_keysOnce hupper
    obtain ⟨c, hc, -, hkeys⟩ := h.joined [] lower upper rfl rfl
    cases hc
    have hmerged : merged.keys.Nodup :=
      hkeys ▸ nodup_keys_append (nodup_keys_of_keysOnce hlower) hnodup
    refine Entries.ext_find? hmerged (hkeys.trans (keys_merge hnodup lower).symm) fun key => ?_
    cases hy : upper.find? key with
    | none =>
      rw [find?_merge_lower hnodup hy]
      cases hx : lower.find? key with
      | none =>
        rw [Entries.find?_eq_none_iff] at hx hy ⊢
        simp [hkeys, hx, hy]
      | some x =>
        rw [← at?_single]
        refine h.kept [key] x ?_ ?_ (not_blocks_of_find? hy [])
        · rw [at?_single, hx]
        · rw [at?_single, hy]
    | some y =>
      by_cases hboth : (∃ a, lower.find? key = some (.table a)) ∧ y.IsTable
      · obtain ⟨⟨a, hx⟩, b, rfl⟩ := hboth
        rw [find?_merge_inner hnodup hx hy]
        obtain ⟨c, hc, -⟩ := h.joined [key] a b (by rw [at?_single, hx]) (by rw [at?_single, hy])
        rw [at?_single] at hc
        rw [hc, ih key a hx (keysOnce_of_find? hlower hx) (keysOnce_of_find? hupper hy)
          (h.inner hx hy hc)]
      · rw [find?_merge_upper hnodup hy hboth, ← at?_single]
        refine h.replaced [key] y (by rw [at?_single, hy]) ?_
        rwa [at?_single]

/-! ### Laws -/

theorem nodup_keys_merge (hlower : lower.keys.Nodup) (hupper : upper.keys.Nodup) :
    (lower.merge upper).keys.Nodup := by
  rw [keys_merge hupper]
  exact nodup_keys_append hlower hupper

/-- Merged tables name every key once if those that are merged do. -/
theorem keysOnce_merge (hlower : lower.keysOnce = true) (hupper : upper.keysOnce = true) :
    (lower.merge upper).keysOnce = true := by
  induction lower using inner_induction generalizing upper with
  | h lower ih =>
    have hnodup := nodup_keys_of_keysOnce hupper
    refine keysOnce_iff.mpr ⟨nodup_keys_merge (nodup_keys_of_keysOnce hlower) hnodup,
      fun key v hv => ?_⟩
    cases hy : upper.find? key with
    | none =>
      rw [find?_merge_lower hnodup hy] at hv
      exact keysOnce_under hlower hv
    | some y =>
      by_cases hboth : (∃ a, lower.find? key = some (.table a)) ∧ y.IsTable
      · obtain ⟨⟨a, hx⟩, b, rfl⟩ := hboth
        rw [find?_merge_inner hnodup hx hy] at hv
        obtain rfl := Option.some.inj hv
        have hinner := ih key a hx (keysOnce_of_find? hlower hx) (keysOnce_of_find? hupper hy)
        simpa using hinner
      · rw [find?_merge_upper hnodup hy hboth] at hv
        obtain rfl := Option.some.inj hv
        exact keysOnce_under hupper hy

theorem nil_merge (h : upper.keysOnce = true) : Table.merge [] upper = upper := by
  have hnodup := nodup_keys_of_keysOnce h
  have hkeys : (Table.merge [] upper).keys = upper.keys := by
    rw [keys_merge hnodup]
    simp [Entries.keys]
  refine Entries.ext_find? (hkeys ▸ hnodup) hkeys fun key => ?_
  cases hv : upper.find? key with
  | none => exact find?_merge_lower hnodup hv
  | some v =>
    refine find?_merge_upper hnodup hv ?_
    rintro ⟨⟨a, ha⟩, -⟩
    cases ha

theorem merge_self (h : t.keysOnce = true) : t.merge t = t := by
  induction t using inner_induction with
  | h t ih =>
    have hnodup := nodup_keys_of_keysOnce h
    have hkeys : (t.merge t).keys = t.keys := by simp [keys_merge hnodup]
    refine Entries.ext_find? (hkeys ▸ hnodup) hkeys fun key => ?_
    cases hv : t.find? key with
    | none => rw [find?_merge_lower hnodup hv, hv]
    | some v =>
      by_cases htable : v.IsTable
      · obtain ⟨inner, rfl⟩ := htable
        rw [find?_merge_inner hnodup hv hv, ih key inner hv (keysOnce_of_find? h hv)]
      · exact find?_merge_upper hnodup hv fun hboth => htable hboth.2

/-- What both hold under a key is what the merged table holds. -/
theorem find?_merge_same (hnodup : upper.keys.Nodup) (hx : lower.find? key = some v)
    (hy : upper.find? key = some v) (h : v.keysOnce = true) :
    (lower.merge upper).find? key = some v := by
  by_cases htable : v.IsTable
  · obtain ⟨inner, rfl⟩ := htable
    have hinner : Table.keysOnce inner = true := by simpa using h
    rw [find?_merge_inner hnodup hx hy, merge_self hinner]
  · exact find?_merge_upper hnodup hy fun hboth => htable hboth.2

/-- Laying the upper table over once more changes nothing. -/
theorem merge_upper_again (hlower : lower.keysOnce = true) (hupper : upper.keysOnce = true) :
    (lower.merge upper).merge upper = lower.merge upper := by
  induction lower using inner_induction generalizing upper with
  | h lower ih =>
    have hnodup := nodup_keys_of_keysOnce hupper
    have hkeys : ((lower.merge upper).merge upper).keys = (lower.merge upper).keys := by
      rw [keys_merge hnodup, keys_merge hnodup, List.append_right_eq_self, List.filter_eq_nil_iff]
      intro key hkey
      by_cases hold : key ∈ lower.keys <;> simp [hold, hkey]
    refine Entries.ext_find? ?_ hkeys fun key => ?_
    · exact hkeys ▸ nodup_keys_merge (nodup_keys_of_keysOnce hlower) hnodup
    · cases hy : upper.find? key with
      | none => exact find?_merge_lower hnodup hy
      | some y =>
        by_cases hboth : (∃ a, lower.find? key = some (.table a)) ∧ y.IsTable
        · obtain ⟨⟨a, hx⟩, b, rfl⟩ := hboth
          have hmerged := find?_merge_inner hnodup hx hy
          rw [find?_merge_inner hnodup hmerged hy, hmerged,
            ih key a hx (keysOnce_of_find? hlower hx) (keysOnce_of_find? hupper hy)]
        · have hmerged := find?_merge_upper hnodup hy hboth
          have hvalue := keysOnce_under hupper hy
          rw [find?_merge_same hnodup hmerged hy hvalue, hmerged]

/-- Laying a merged table over the lower one changes nothing. -/
theorem merge_lower_again (hlower : lower.keysOnce = true) (hupper : upper.keysOnce = true) :
    lower.merge (lower.merge upper) = lower.merge upper := by
  induction lower using inner_induction generalizing upper with
  | h lower ih =>
    have hnodup := nodup_keys_of_keysOnce hupper
    have hmerged := nodup_keys_merge (nodup_keys_of_keysOnce hlower) hnodup
    have hkeys : (lower.merge (lower.merge upper)).keys = (lower.merge upper).keys := by
      rw [keys_merge hmerged, keys_merge hnodup, List.filter_append, List.filter_filter]
      simp
    refine Entries.ext_find? (hkeys ▸ hmerged) hkeys fun key => ?_
    cases hy : upper.find? key with
    | none =>
      have hsame : (lower.merge upper).find? key = lower.find? key := find?_merge_lower hnodup hy
      cases hx : lower.find? key with
      | none => rw [find?_merge_lower hmerged (hsame.trans hx), hx, hsame, hx]
      | some x =>
        have hvalue := keysOnce_under hlower hx
        rw [find?_merge_same hmerged hx (hsame.trans hx) hvalue, hsame, hx]
    | some y =>
      by_cases hboth : (∃ a, lower.find? key = some (.table a)) ∧ y.IsTable
      · obtain ⟨⟨a, hx⟩, b, rfl⟩ := hboth
        have hinner := find?_merge_inner hnodup hx hy
        rw [find?_merge_inner hmerged hx hinner, hinner,
          ih key a hx (keysOnce_of_find? hlower hx) (keysOnce_of_find? hupper hy)]
      · have hupper := find?_merge_upper hnodup hy hboth
        rw [find?_merge_upper hmerged hupper hboth, hupper]

/-- **What merging comes to.**  The merged table is the one that holds along every path what the two
tables say it does.  An empty table changes nothing, on either side, and neither does a table that
is merged with itself or once more with what came of it. -/
theorem merge_characterized (hlower : lower.keysOnce = true) (hupper : upper.keysOnce = true) :
    (∀ merged, IsMergeOf lower upper merged ↔ merged = lower.merge upper) ∧
      Table.merge [] lower = lower ∧ lower.merge [] = lower ∧ lower.merge lower = lower ∧
      (lower.merge upper).merge upper = lower.merge upper ∧
      lower.merge (lower.merge upper) = lower.merge upper := by
  refine ⟨fun merged => ⟨fun h => h.eq_merge hlower hupper, ?_⟩, nil_merge hlower, rfl,
    merge_self hlower, merge_upper_again hlower hupper, merge_lower_again hlower hupper⟩
  rintro rfl
  exact isMergeOf_merge hupper

/-- A table with a table, an empty one and a number in it. -/
def lowerClash : Table :=
  [("tools", .table [("a", .int 1), ("b", .table [("deep", .bool false)])]), ("none", .table []),
    ("count", .int 2)]

/-- A table that holds numbers where the other one holds tables, and the other way round. -/
def upperClash : Table :=
  [("new", .text ""), ("count", .table [("x", .int 3)]),
    ("tools", .table [("c", .list []), ("b", .int 4)]), ("none", .table [("y", .null)])]

/-- The two merged. -/
def mergedClash : Table :=
  [("tools", .table [("a", .int 1), ("b", .int 4), ("c", .list [])]),
    ("none", .table [("y", .null)]), ("count", .table [("x", .int 3)]), ("new", .text "")]

theorem merge_characterized_clash :
    (lowerClash.keysOnce = true ∧ upperClash.keysOnce = true) ∧
      IsMergeOf lowerClash upperClash mergedClash ∧ mergedClash.merge upperClash = mergedClash := by
  have hlower : lowerClash.keysOnce = true := by decide
  have hupper : upperClash.keysOnce = true := by decide
  have hmerged : mergedClash = lowerClash.merge upperClash := rfl
  obtain ⟨htold, -, -, -, hagain, -⟩ := merge_characterized hlower hupper
  refine ⟨⟨hlower, hupper⟩, (htold _).mpr hmerged, ?_⟩
  rw [hmerged]
  exact hagain

end Table

end ComputeNodes
