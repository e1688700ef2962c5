/-
Splitting a text at a character.
-/

namespace ComputeNodes.Text

/-- Splits a text at its first occurrence of a character; `none` when it does not occur. -/
def splitAt? (c : Char) : List Char → Option (List Char × List Char)
  | [] => none
  | d :: rest =>
    if d = c then some ([], rest)
    else (splitAt? c rest).map fun (front, back) => (d :: front, back)

/-- A text splits into what is in front of the character, where it is not, and what is behind. -/
theorem splitAt?_eq_some_iff {c : Char} {cs front back : List Char} :
    splitAt? c cs = some (front, back) ↔ cs = front ++ c :: back ∧ c ∉ front := by
  induction cs generalizing front with
  | nil => simp [splitAt?]
  | cons d rest ih =>
    rw [splitAt?]
    by_cases hd : d = c
    · subst hd
      rw [if_pos rfl]
      cases front <;> simp_all [eq_comm]
    · rw [if_neg hd]
      cases front with
      | nil => simp [hd]
      | cons e front =>
        simp only [Option.map_eq_some_iff, Prod.exists, Prod.mk.injEq, List.cons.injEq,
          List.cons_append, List.mem_cons, not_or]
        grind

theorem splitAt?_eq_none_iff {c : Char} {cs : List Char} : splitAt? c cs = none ↔ c ∉ cs := by
  constructor
  · intro hnone hmem
    obtain ⟨front, back, hcs, hfront⟩ := List.eq_append_cons_of_mem hmem
    rw [splitAt?_eq_some_iff.mpr ⟨hcs, hfront⟩] at hnone
    cases hnone
  · intro hmem
    cases hcut : splitAt? c cs with
    | none => rfl
    | some parts =>
      obtain ⟨hcs, -⟩ := splitAt?_eq_some_iff.mp hcut
      rw [hcs] at hmem
      simp at hmem

/-- The text in front of the first occurrence of a character, or all of it. -/
def before (c : Char) (s : String) : String := String.ofList (s.toList.takeWhile (· != c))

theorem before_append {c : Char} {front : String} (h : c ∉ front.toList) (back : String) :
    before c (front ++ String.singleton c ++ back) = front := by
  have hall : ∀ d ∈ front.toList, (d != c) = true := by
    intro d hd
    have hother : d ≠ c := fun heq => h (heq ▸ hd)
    simpa using hother
  simp [before, List.takeWhile_append_of_pos hall]

/-- A text that holds a character is what is in front of its first occurrence, the character, and
something behind it. -/
theorem exists_before {c : Char} {s : String} (h : c ∈ s.toList) :
    ∃ back, s = before c s ++ String.singleton c ++ back ∧ c ∉ (before c s).toList := by
  obtain ⟨front, back, hs, hfront⟩ := List.eq_append_cons_of_mem h
  have htext : s = String.ofList front ++ String.singleton c ++ String.ofList back := by
    rw [← String.toList_inj, hs]
    simp
  have hbefore : before c s = String.ofList front := by
    rw [htext]
    exact before_append (by simpa using hfront) _
  exact ⟨String.ofList back, hbefore ▸ htext, by simpa [hbefore] using hfront⟩

end ComputeNodes.Text
