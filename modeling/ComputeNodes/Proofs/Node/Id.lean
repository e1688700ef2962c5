/-
Which texts identify nodes.

Exactly those that are written for a zone and a name that are both there and free of slashes
(`read?_eq_some_iff`), so a text identifies one node at most.

The same can be said without a zone and a name: a text identifies a node if it has one slash, which
neither begins nor ends it (`HasInnerSlash`).  A slash too many, or a part too few, shows in what is
written, so whatever can be read at all was written for the parts it is read into.
-/
import ComputeNodes.Node.Id
import Mathlib.Data.List.Basic

namespace ComputeNodes.NodeId

/-- Whether zone and name are both there and free of slashes. -/
structure IsPlain (id : NodeId) : Prop where
  zone_given : id.zone ≠ ""
  name_given : id.name ≠ ""
  zone_whole : '/' ∉ id.zone.toList
  name_whole : '/' ∉ id.name.toList

variable {text : String} {id : NodeId}

theorem toList_write (id : NodeId) : id.write.toList = id.zone.toList ++ '/' :: id.name.toList := by
  simp [write]

/-- **Reading an identifier undoes writing it**, and takes nothing else. -/
theorem read?_eq_some_iff : read? text = some id ↔ id.IsPlain ∧ id.write = text := by
  rw [← String.toList_inj, toList_write]
  unfold read?
  constructor
  · intro hread
    split at hread
    next zone name hsplit =>
      split at hread
      next => cases hread
      next hgood =>
        obtain rfl := Option.some.inj hread
        obtain ⟨htext, hzone⟩ := Text.splitAt?_eq_some_iff.mp hsplit
        have hparts : (zone ≠ [] ∧ name ≠ []) ∧ '/' ∉ name := by simpa using hgood
        refine ⟨⟨?_, ?_, ?_, ?_⟩, ?_⟩
        · simpa using hparts.1.1
        · simpa using hparts.1.2
        · simpa using hzone
        · simpa using hparts.2
        · simpa using htext.symm
    next => cases hread
  · rintro ⟨hplain, htext⟩
    rw [Text.splitAt?_eq_some_iff.mpr ⟨htext.symm, hplain.zone_whole⟩]
    simp [hplain.zone_given, hplain.name_given, hplain.name_whole]

theorem read?_eq_none_iff : read? text = none ↔ ∀ id : NodeId, id.IsPlain → id.write ≠ text := by
  rw [Option.eq_none_iff_forall_not_mem]
  simp [Option.mem_def, read?_eq_some_iff]

/-! ### Slashes -/

/-- Whether a text has one slash, which neither begins nor ends it. -/
structure HasInnerSlash (text : String) : Prop where
  one : text.toList.count '/' = 1
  not_first : text.toList.head? ≠ some '/'
  not_last : text.toList.getLast? ≠ some '/'

/-- What is written for a zone and a name shows whether both are there and free of slashes. -/
theorem hasInnerSlash_write : HasInnerSlash id.write ↔ id.IsPlain := by
  have hcount : id.write.toList.count '/' = 1 ↔ '/' ∉ id.zone.toList ∧ '/' ∉ id.name.toList := by
    rw [toList_write, List.count_append, List.count_cons_self, ← List.count_eq_zero,
      ← List.count_eq_zero]
    omega
  constructor
  · rintro ⟨hone, hfirst, hlast⟩
    obtain ⟨hzone, hname⟩ := hcount.mp hone
    rw [toList_write] at hfirst hlast
    refine ⟨?_, ?_, hzone, hname⟩
    · rintro hempty
      simp [hempty] at hfirst
    · rintro hempty
      simp [hempty] at hlast
  · intro h
    have hzone : id.zone.toList ≠ [] := by simpa using h.zone_given
    have hname : id.name.toList ≠ [] := by simpa using h.name_given
    refine ⟨hcount.mpr ⟨h.zone_whole, h.name_whole⟩, ?_, ?_⟩
    · rw [toList_write, List.head?_append_of_ne_nil _ hzone]
      exact fun hfirst => h.zone_whole (List.mem_of_mem_head? hfirst)
    · rw [toList_write, List.getLast?_append_of_ne_nil _ (List.cons_ne_nil _ _),
        List.getLast?_cons_of_ne_nil hname]
      exact fun hlast => h.name_whole (List.mem_of_mem_getLast? hlast)

/-- A text with a slash is written for what is in front of it and what is behind. -/
theorem exists_write_of_mem (h : '/' ∈ text.toList) : ∃ id : NodeId, id.write = text := by
  obtain ⟨zone, name, htext⟩ := List.append_of_mem h
  refine ⟨⟨String.ofList zone, String.ofList name⟩, ?_⟩
  rw [← String.toList_inj, toList_write, htext, String.toList_ofList, String.toList_ofList]

theorem read?_write (h : id.IsPlain) : read? id.write = some id :=
  read?_eq_some_iff.mpr ⟨h, rfl⟩

theorem isSome_read?_iff : (read? text).isSome ↔ HasInnerSlash text := by
  constructor
  · intro h
    obtain ⟨id, hread⟩ := Option.isSome_iff_exists.mp h
    obtain ⟨hplain, rfl⟩ := read?_eq_some_iff.mp hread
    exact hasInnerSlash_write.mpr hplain
  · intro h
    have hmem : '/' ∈ text.toList := List.count_pos_iff.mp (by rw [h.one]; decide)
    obtain ⟨id, rfl⟩ := exists_write_of_mem hmem
    rw [read?_write (hasInnerSlash_write.mp h)]
    rfl

/-- **Which texts are read, and as what.**  A text is read if it has one slash, which is neither
first nor last, and then it is what is written for the zone and name that are read.  What was
written for a zone and a name is read if both are there and free of slashes, and then as them. -/
theorem read?_exact (text : String) (id : NodeId) :
    ((read? text).isSome ↔ text.toList.count '/' = 1 ∧ text.toList.head? ≠ some '/' ∧
        text.toList.getLast? ≠ some '/') ∧
      (∀ found, read? text = some found → found.write = text) ∧
      ((read? id.write).isSome ↔ (id.zone ≠ "" ∧ '/' ∉ id.zone.toList) ∧
        id.name ≠ "" ∧ '/' ∉ id.name.toList) ∧
      ∀ found, read? id.write = some found → found = id := by
  have hwritten : (read? id.write).isSome ↔ id.IsPlain :=
    isSome_read?_iff.trans hasInnerSlash_write
  refine ⟨?_, fun found hread => (read?_eq_some_iff.mp hread).2, ?_, fun found hread => ?_⟩
  · rw [isSome_read?_iff]
    exact ⟨fun h => ⟨h.one, h.not_first, h.not_last⟩, fun h => ⟨h.1, h.2.1, h.2.2⟩⟩
  · rw [hwritten]
    exact ⟨fun h => ⟨⟨h.zone_given, h.zone_whole⟩, h.name_given, h.name_whole⟩,
      fun h => ⟨h.1.1, h.2.1, h.1.2, h.2.2⟩⟩
  · -- what can be read at all is plain, and then reading undoes writing
    have hplain : id.IsPlain := hwritten.mp (by rw [hread]; rfl)
    rw [read?_write hplain] at hread
    exact (Option.some.inj hread).symm

end ComputeNodes.NodeId
