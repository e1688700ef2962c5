/-
What is kept of records that count once each.

Records that hold nothing but texts are the same only when they are equal: texts count as the same
only then, and the values of a record together with the lengths of its lists say all there is about
it (`LawfulKeyed`).  So of such records every one is kept, and kept once (`addAll_texts`).
-/
import ComputeNodes.Resource.Distinct
import Mathlib.Data.List.Nodup

namespace ComputeNodes

/-! ### Texts -/

namespace Value

/-- Whether a value is a text, or null in the place of one. -/
def IsText (v : Value) : Prop := v = .null ∨ ∃ s, v = .text s

variable {v w : Value}

theorem IsText.canBeKey (h : v.IsText) : v.canBeKey = true := by
  rcases h with rfl | ⟨s, rfl⟩ <;> rfl

theorem IsText.alike_iff (hv : v.IsText) (hw : w.IsText) : v.alike w = true ↔ v = w := by
  rcases hv with rfl | ⟨s, rfl⟩ <;> rcases hw with rfl | ⟨t, rfl⟩ <;> simp [alike, amount?]

end Value

/-! ### Lists put in a row -/

section

variable {α β γ : Type} {f : α → List β} {size : α → γ}

/-- Lists that are put in a row take up the same space if those of the same size do. -/
theorem length_flatMap_of_size
    (hlength : ∀ a b, size a = size b → (f a).length = (f b).length) {l l' : List α}
    (h : l.map size = l'.map size) : (l.flatMap f).length = (l'.flatMap f).length := by
  induction l generalizing l' with
  | nil => rw [List.map_eq_nil_iff.mp h.symm]
  | cons a l ih =>
    obtain ⟨b, l', rfl, hsize, hrest⟩ := List.map_eq_cons_iff.mp h.symm
    rw [List.flatMap_cons, List.flatMap_cons, List.length_append, List.length_append,
      hlength a b hsize.symm, ih hrest.symm]

/-- Lists that are put in a row can be told apart again by their sizes. -/
theorem flatMap_inj_of_size
    (hlength : ∀ a b, size a = size b → (f a).length = (f b).length)
    (hinj : ∀ a b, size a = size b → f a = f b → a = b) {l l' : List α}
    (h : l.map size = l'.map size) (hrow : l.flatMap f = l'.flatMap f) : l = l' := by
  induction l generalizing l' with
  | nil => exact (List.map_eq_nil_iff.mp h.symm).symm
  | cons a l ih =>
    obtain ⟨b, l', rfl, hsize, hrest⟩ := List.map_eq_cons_iff.mp h.symm
    rw [List.flatMap_cons, List.flatMap_cons] at hrow
    obtain ⟨hfirst, hrow⟩ := List.append_inj hrow (hlength a b hsize.symm)
    rw [hinj a b hsize.symm hfirst, ih hrest.symm hrow]

end

/-! ### Records -/

/-- Records about which their values say everything, once it is known how long their lists are. -/
class LawfulKeyed (α : Type) [Keyed α] : Prop where
  length_values {a b : α} (h : Keyed.lengths a = Keyed.lengths b) :
    (Keyed.values a).length = (Keyed.values b).length
  ext {a b : α} (hlengths : Keyed.lengths a = Keyed.lengths b)
    (hvalues : Keyed.values a = Keyed.values b) : a = b

instance : LawfulKeyed Image where
  length_values _ := rfl
  ext {a b} _ hvalues := by
    cases a
    cases b
    simpa [Keyed.values] using hvalues

theorem NetworkInterface.length_values {n m : NetworkInterface}
    (h : n.accessConfigs.length = m.accessConfigs.length) : n.values.length = m.values.length := by
  simp [values, h]

theorem NetworkInterface.values_inj {n m : NetworkInterface}
    (hlength : n.accessConfigs.length = m.accessConfigs.length) (h : n.values = m.values) :
    n = m := by
  obtain ⟨network, accessConfigs, networkIp⟩ := n
  obtain ⟨network', accessConfigs', networkIp'⟩ := m
  have hsizes : accessConfigs.map (fun _ => ()) = accessConfigs'.map fun _ => () := by
    simpa using hlength
  simp only [values, List.cons_append, List.nil_append, List.cons.injEq] at h
  obtain ⟨rfl, hrow⟩ := h
  obtain ⟨hconfigs, hip⟩ := List.append_inj' hrow rfl
  have haccess : accessConfigs = accessConfigs' :=
    flatMap_inj_of_size (fun _ _ _ => rfl) (fun a b _ hvalues => by cases a; cases b; simp_all)
      hsizes hconfigs
  rw [haccess, List.singleton_inj.mp hip]

instance : LawfulKeyed Instance where
  length_values {a b} h := by
    have hsizes := h
    simp only [Keyed.lengths, List.cons_append, List.nil_append, List.cons.injEq] at hsizes
    obtain ⟨htags, hmetadata, -, hinterfaces⟩ := hsizes
    have hrow := length_flatMap_of_size (fun _ _ => NetworkInterface.length_values) hinterfaces
    simp [Keyed.values, htags, hmetadata, hrow]
  ext {a b} hlengths hvalues := by
    obtain ⟨name, zone, status, id, machineType, selfLink, tags, metadata, interfaces⟩ := a
    obtain ⟨name', zone', status', id', machineType', selfLink', tags', metadata',
      interfaces'⟩ := b
    simp only [Keyed.lengths, List.cons_append, List.nil_append, List.cons.injEq] at hlengths
    obtain ⟨htags, hmetadata, -, hinterfaces⟩ := hlengths
    have hsizes : metadata.map (fun _ => ()) = metadata'.map fun _ => () := by
      simpa using hmetadata
    simp only [Keyed.values, List.cons_append, List.nil_append, List.cons.injEq] at hvalues
    obtain ⟨rfl, rfl, rfl, rfl, rfl, rfl, hrow⟩ := hvalues
    have hpairs := length_flatMap_of_size (f := fun pair : Value × Value => [pair.1, pair.2])
      (fun _ _ _ => rfl) hsizes
    obtain ⟨hrow, hvalues⟩ := List.append_inj hrow (by simp [htags, hmetadata])
    obtain ⟨rfl, hentries⟩ := List.append_inj hrow htags
    have hmetadata : metadata = metadata' :=
      flatMap_inj_of_size (fun _ _ _ => rfl) (fun _ _ _ h => by simpa [Prod.ext_iff] using h)
        hsizes hentries
    have hinterfaces : interfaces = interfaces' :=
      flatMap_inj_of_size (fun _ _ => NetworkInterface.length_values)
        (fun _ _ => NetworkInterface.values_inj) hinterfaces hvalues
    rw [hmetadata, hinterfaces]

namespace Keyed

variable {α : Type} [Keyed α] {a b : α} {others l : List α}

/-- Whether a record holds nothing but texts. -/
def IsTexts (a : α) : Prop := ∀ v ∈ values a, v.IsText

theorem isTexts_of_map {texts : List String} (h : values a = texts.map .text) : IsTexts a := by
  intro v hv
  rw [h] at hv
  obtain ⟨s, -, rfl⟩ := List.mem_map.mp hv
  exact .inr ⟨s, rfl⟩

theorem IsTexts.find?_eq_none (ha : IsTexts a) : (values a).find? (!·.canBeKey) = none := by
  simpa using fun v hv => (ha v hv).canBeKey

/-- Rows of texts that are equally long count as the same only when they are. -/
theorem zip_all_alike_iff {vs ws : List Value} (hlength : vs.length = ws.length)
    (hvs : ∀ v ∈ vs, v.IsText) (hws : ∀ w ∈ ws, w.IsText) :
    ((vs.zip ws).all fun (v, w) => v.alike w) = true ↔ vs = ws := by
  induction vs generalizing ws with
  | nil => simp [List.eq_nil_of_length_eq_zero hlength.symm]
  | cons v vs ih =>
    obtain ⟨w, ws, rfl⟩ := List.exists_cons_of_length_eq_add_one hlength.symm
    obtain ⟨hv, hvs⟩ := List.forall_mem_cons.mp hvs
    obtain ⟨hw, hws⟩ := List.forall_mem_cons.mp hws
    simp [hv.alike_iff hw, ih (Nat.succ.inj hlength) hvs hws]

/-- Records that hold nothing but texts are the same only when they are equal. -/
theorem same_iff [LawfulKeyed α] (ha : IsTexts a) (hb : IsTexts b) : same a b = true ↔ a = b := by
  constructor
  · intro h
    obtain ⟨hlengths, hvalues⟩ := Bool.and_eq_true_iff.mp h
    have hlengths := eq_of_beq hlengths
    exact LawfulKeyed.ext hlengths
      ((zip_all_alike_iff (LawfulKeyed.length_values hlengths) ha hb).mp hvalues)
  · rintro rfl
    exact Bool.and_eq_true_iff.mpr ⟨beq_self_eq_true _, (zip_all_alike_iff rfl ha ha).mpr rfl⟩

theorem add_texts [LawfulKeyed α] (hothers : ∀ b ∈ others, IsTexts b) (hnodup : others.Nodup)
    (ha : IsTexts a) :
    ∃ kept, add others a = .ok kept ∧ kept.Nodup ∧ ∀ b, b ∈ kept ↔ b ∈ others ∨ b = a := by
  have hthere : others.any (same · a) = true ↔ a ∈ others := by
    rw [List.any_eq_true]
    constructor
    · rintro ⟨b, hb, hsame⟩
      exact (same_iff (hothers b hb) ha).mp hsame ▸ hb
    · exact fun h => ⟨a, h, (same_iff ha ha).mpr rfl⟩
  rw [add, ha.find?_eq_none]
  by_cases h : a ∈ others
  · rw [if_pos (hthere.mpr h)]
    refine ⟨others, rfl, hnodup, fun b => ?_⟩
    rw [iff_self_or]
    rintro rfl
    exact h
  · rw [if_neg (hthere.not.mpr h)]
    exact ⟨others ++ [a], rfl, List.concat_eq_append ▸ hnodup.concat h, by simp⟩

theorem addAll_append (l' : List α) :
    addAll others (l ++ l') = (do addAll (← addAll others l) l') :=
  List.foldlM_append

/-- Records that hold nothing but texts can be added to any others. -/
theorem exists_addAll (others : List α) (hl : ∀ a ∈ l, IsTexts a) :
    ∃ kept, addAll others l = .ok kept := by
  induction l generalizing others with
  | nil => exact ⟨others, rfl⟩
  | cons a l ih =>
    obtain ⟨ha, hl⟩ := List.forall_mem_cons.mp hl
    obtain ⟨kept, hkept⟩ := ih (if others.any (same · a) then others else others ++ [a]) hl
    refine ⟨kept, ?_⟩
    rw [addAll, List.foldlM_cons, add, ha.find?_eq_none]
    exact hkept

/-- **Of records that hold nothing but texts, every one is kept, and kept once.** -/
theorem addAll_texts [LawfulKeyed α] (hothers : ∀ b ∈ others, IsTexts b) (hnodup : others.Nodup)
    (hl : ∀ a ∈ l, IsTexts a) :
    ∃ kept, addAll others l = .ok kept ∧ kept.Nodup ∧ ∀ b, b ∈ kept ↔ b ∈ others ∨ b ∈ l := by
  induction l generalizing others with
  | nil => exact ⟨others, rfl, hnodup, by simp⟩
  | cons a l ih =>
    obtain ⟨ha, hl⟩ := List.forall_mem_cons.mp hl
    obtain ⟨sofar, hadd, hnodup, hsofar⟩ := add_texts hothers hnodup ha
    have htexts : ∀ b ∈ sofar, IsTexts b := by
      intro b hb
      rcases (hsofar b).mp hb with hb | rfl
      exacts [hothers b hb, ha]
    obtain ⟨kept, hkept, hnodup, hmem⟩ := ih htexts hnodup hl
    refine ⟨kept, ?_, hnodup, fun b => ?_⟩
    · rw [addAll, List.foldlM_cons, hadd]
      exact hkept
    · rw [hmem, hsofar, List.mem_cons, or_assoc]

end Keyed

end ComputeNodes
