/-
What the shared name of a group is made of.

A group is cleaned in two steps.  First every maximal run of characters that are in no name becomes
one hyphen, and then the hyphens at both ends go.  `Hyphenated` and `Trimmed` say what each step
comes to without saying how it is done, and each has one outcome only, so together they tell what a
cleaned group is (`isCleaned_iff`).  Cleaning keeps every letter and digit in its place, and leaves
alone what is clean.

What is left begins and ends with a letter or a digit, so the shared name is a resource name if its
lead is one and anything is left at all.  Of a group without letters and digits nothing is left, and
then the name ends with the hyphen behind its lead.
-/
import ComputeNodes.Provider.Create
import Mathlib.Data.List.DropRight

namespace ComputeNodes

/-! ### Characters of names -/

/-- Lower-case letters and digits: the characters of names other than the hyphen. -/
def isLetterOrDigit (c : Char) : Bool := c.isLower || c.isDigit

theorem isNameChar_iff {c : Char} :
    isNameChar c = true ↔ isLetterOrDigit c = true ∨ c = '-' := by
  simp [isNameChar, isLetterOrDigit]

theorem toNat_of_isNameChar {c : Char} (h : isNameChar c = true) :
    (97 ≤ c.toNat ∧ c.toNat ≤ 122) ∨ (48 ≤ c.toNat ∧ c.toNat ≤ 57) ∨ c.toNat = 45 := by
  have hletters : c.isLower = (decide (c.val ≥ 97) && decide (c.val ≤ 122)) := rfl
  have hdigits : c.isDigit = (decide (c.val ≥ 48) && decide (c.val ≤ 57)) := rfl
  simp only [isNameChar, hletters, hdigits, Bool.or_eq_true, Bool.and_eq_true, decide_eq_true_eq,
    beq_iff_eq, ge_iff_le, UInt32.le_iff_toNat_le] at h
  rcases h with (hletter | hdigit) | hhyphen
  · exact .inl hletter
  · exact .inr (.inl hdigit)
  · exact .inr (.inr (by rw [hhyphen]; rfl))

theorem lowerChar_of_isNameChar {c : Char} (h : isNameChar c = true) : Text.lowerChar c = [c] := by
  have hplace := toNat_of_isNameChar h
  have hascii : c.toNat < 128 := by omega
  have hlower : c.toLower = c := by
    refine dif_neg fun hcapital => ?_
    simp only [ge_iff_le, UInt32.le_iff_toNat_le] at hcapital
    have hbounds : 65 ≤ c.toNat ∧ c.toNat ≤ 90 := hcapital
    omega
  rw [Text.lowerChar, if_pos hascii, hlower]

theorem lower_of_isNameChar {cs : List Char} (h : ∀ c ∈ cs, isNameChar c = true) :
    Text.lower cs = cs := by
  induction cs with
  | nil => rfl
  | cons c cs ih =>
    have hfirst : Text.lowerChar c = [c] := lowerChar_of_isNameChar (h c (by simp))
    have hrest : Text.lower cs = cs := ih fun d hd => h d (by simp [hd])
    show Text.lowerChar c ++ Text.lower cs = c :: cs
    rw [hfirst, hrest]
    rfl

theorem filter_ne_hyphen {cs : List Char} (h : ∀ c ∈ cs, isNameChar c = true) :
    cs.filter (· != '-') = cs.filter isLetterOrDigit := by
  refine List.filter_congr fun c hc => ?_
  by_cases hhyphen : c = '-'
  · simp [hhyphen, isLetterOrDigit]
  · have hletter : isLetterOrDigit c = true := (isNameChar_iff.mp (h c hc)).resolve_right hhyphen
    simp [hhyphen, hletter]

/-! ### Runs -/

/-- Whether one text is another one with a hyphen in the place of every maximal run of characters
that are in no name. -/
inductive Hyphenated : List Char → List Char → Prop
  | kept {cs : List Char} (kept : ∀ c ∈ cs, isNameChar c = true) : Hyphenated cs cs
  | run {front run rest out : List Char} (kept : ∀ c ∈ front, isNameChar c = true)
    (foreign : ∀ c ∈ run, isNameChar c = false) (given : run ≠ [])
    (maximal : ∀ c ∈ rest.head?, isNameChar c = true) (behind : Hyphenated rest out) :
    Hyphenated (front ++ run ++ rest) (front ++ '-' :: out)

theorem hyphenateRuns_kept {front : List Char} (h : ∀ c ∈ front, isNameChar c = true)
    (rest : List Char) :
    hyphenateRuns false (front ++ rest) = front ++ hyphenateRuns false rest := by
  induction front with
  | nil => rfl
  | cons c front ih =>
    have hrest := ih fun d hd => h d (by simp [hd])
    simp [hyphenateRuns, h c (by simp), hrest]

theorem hyphenateRuns_foreign {run : List Char} (h : ∀ c ∈ run, isNameChar c = false)
    (rest : List Char) : hyphenateRuns true (run ++ rest) = hyphenateRuns true rest := by
  induction run with
  | nil => rfl
  | cons c run ih =>
    have hrest := ih fun d hd => h d (by simp [hd])
    simp [hyphenateRuns, h c (by simp), hrest]

/-- In front of a character that is kept it does not matter whether a run was there. -/
theorem hyphenateRuns_behind {rest : List Char} (h : ∀ c ∈ rest.head?, isNameChar c = true) :
    hyphenateRuns true rest = hyphenateRuns false rest := by
  cases rest with
  | nil => rfl
  | cons c rest =>
    have hc : isNameChar c = true := h c rfl
    simp [hyphenateRuns, hc]

theorem hyphenateRuns_run {front run rest : List Char} (kept : ∀ c ∈ front, isNameChar c = true)
    (foreign : ∀ c ∈ run, isNameChar c = false) (given : run ≠ [])
    (maximal : ∀ c ∈ rest.head?, isNameChar c = true) :
    hyphenateRuns false (front ++ run ++ rest) = front ++ '-' :: hyphenateRuns false rest := by
  rw [List.append_assoc, hyphenateRuns_kept kept]
  cases run with
  | nil => exact absurd rfl given
  | cons c run =>
    have hc : isNameChar c = false := foreign c (by simp)
    have hrun : hyphenateRuns true (run ++ rest) = hyphenateRuns true rest :=
      hyphenateRuns_foreign (fun d hd => foreign d (List.mem_cons_of_mem c hd)) rest
    simp [hyphenateRuns, hc, hrun, hyphenateRuns_behind maximal]

namespace Hyphenated

variable {cs out : List Char}

theorem eq_hyphenateRuns (h : Hyphenated cs out) : out = hyphenateRuns false cs := by
  induction h with
  | @kept cs kept => simpa [hyphenateRuns] using (hyphenateRuns_kept kept []).symm
  | run kept foreign given maximal behind ih =>
    rw [hyphenateRuns_run kept foreign given maximal, ← ih]

theorem isNameChar_of_mem (h : Hyphenated cs out) : ∀ c ∈ out, isNameChar c = true := by
  induction h with
  | kept kept => exact kept
  | run kept foreign given maximal behind ih =>
    intro c hc
    rcases List.mem_append.mp hc with hfront | hbehind
    · exact kept c hfront
    · rcases List.mem_cons.mp hbehind with hhyphen | hrest
      · rw [hhyphen]; rfl
      · exact ih c hrest

/-- Letters and digits stay where they are. -/
theorem letters_eq (h : Hyphenated cs out) :
    out.filter isLetterOrDigit = cs.filter isLetterOrDigit := by
  induction h with
  | kept kept => rfl
  | @run front run rest out kept foreign given maximal behind ih =>
    have hrun : run.filter isLetterOrDigit = [] := by
      rw [List.filter_eq_nil_iff]
      intro c hc hletter
      have hname : isNameChar c = true := isNameChar_iff.mpr (.inl hletter)
      rw [foreign c hc] at hname
      cases hname
    have hhyphen : isLetterOrDigit '-' = false := rfl
    simp [hrun, hhyphen, ih]

end Hyphenated

/-- What is dropped from the front of a text ends where something stays. -/
theorem head?_dropWhile {p : Char → Bool} {cs : List Char} :
    ∀ c ∈ (cs.dropWhile p).head?, p c = false := by
  intro c hc
  have hstays := List.head?_dropWhile_not p cs
  rw [Option.mem_def.mp hc] at hstays
  exact hstays

/-- A text with something to replace can be cut around the first run. -/
theorem exists_run {cs : List Char} (h : ¬ ∀ c ∈ cs, isNameChar c = true) :
    ∃ front run rest, cs = front ++ run ++ rest ∧ (∀ c ∈ front, isNameChar c = true) ∧
      (∀ c ∈ run, isNameChar c = false) ∧ run ≠ [] ∧ ∀ c ∈ rest.head?, isNameChar c = true := by
  have hmore : cs.dropWhile isNameChar ≠ [] := fun hnil => h (List.dropWhile_eq_nil_iff.mp hnil)
  obtain ⟨c, more, hc⟩ := List.exists_cons_of_ne_nil hmore
  have hforeign : isNameChar c = false := head?_dropWhile c (by rw [hc]; rfl)
  refine ⟨cs.takeWhile isNameChar, (c :: more).takeWhile (!isNameChar ·),
    (c :: more).dropWhile (!isNameChar ·), ?_, fun d hd => List.mem_takeWhile_imp hd, ?_, ?_, ?_⟩
  · rw [List.append_assoc, List.takeWhile_append_dropWhile, ← hc, List.takeWhile_append_dropWhile]
  · intro d hd
    simpa using List.mem_takeWhile_imp hd
  · simp [hforeign]
  · intro d hd
    simpa using head?_dropWhile d hd

/-- Every text can be cut into what is kept and the runs between. -/
theorem exists_hyphenated (cs : List Char) : ∃ out, Hyphenated cs out := by
  -- what is behind the first run is shorter, because a run is not empty
  induction hlength : cs.length using Nat.strong_induction_on generalizing cs with
  | _ n ih =>
    by_cases hall : ∀ c ∈ cs, isNameChar c = true
    · exact ⟨cs, .kept hall⟩
    · obtain ⟨front, run, rest, hcs, kept, foreign, given, maximal⟩ := exists_run hall
      have hshorter : rest.length < n := by
        have hpositive : 0 < run.length := List.length_pos_of_ne_nil given
        rw [← hlength, hcs, List.length_append, List.length_append]
        omega
      obtain ⟨out, hbehind⟩ := ih _ hshorter rest rfl
      rw [hcs]
      exact ⟨_, .run kept foreign given maximal hbehind⟩

/-- **Runs are replaced** as the walk along the text does it, and in no other way. -/
theorem hyphenated_iff {cs out : List Char} : Hyphenated cs out ↔ out = hyphenateRuns false cs := by
  constructor
  · exact Hyphenated.eq_hyphenateRuns
  · intro h
    obtain ⟨other, hother⟩ := exists_hyphenated cs
    rw [h, ← hother.eq_hyphenateRuns]
    exact hother

/-! ### Hyphens at the ends -/

/-- Whether one text is another one without the hyphens that it begins and ends with. -/
structure Trimmed (cs trimmed : List Char) : Prop where
  around : ∃ m n, cs = List.replicate m '-' ++ trimmed ++ List.replicate n '-'
  first : trimmed.head? ≠ some '-'
  last : trimmed.getLast? ≠ some '-'

theorem dropWhile_hyphens {cs : List Char} (h : cs.head? ≠ some '-') (m : Nat) :
    (List.replicate m '-' ++ cs).dropWhile (· == '-') = cs := by
  have hhyphens : ∀ c ∈ List.replicate m '-', (c == '-') = true := by simp
  rw [List.dropWhile_append_of_pos hhyphens]
  cases cs with
  | nil => rfl
  | cons c cs =>
    have hc : c ≠ '-' := by simpa using h
    simp [hc]

theorem exists_hyphens (cs : List Char) :
    ∃ m, cs = List.replicate m '-' ++ cs.dropWhile (· == '-') := by
  refine ⟨(cs.takeWhile (· == '-')).length, ?_⟩
  have hrow : ∀ c ∈ cs.takeWhile (· == '-'), c = '-' := fun c hc => by
    simpa using List.mem_takeWhile_imp hc
  rw [← List.eq_replicate_of_mem hrow]
  exact List.takeWhile_append_dropWhile.symm

namespace Trimmed

variable {cs trimmed : List Char}

theorem eq_trimHyphens (h : Trimmed cs trimmed) : trimmed = trimHyphens cs := by
  obtain ⟨m, n, hcs⟩ := h.around
  by_cases hempty : trimmed = []
  · have hrow : (List.replicate (m + n) '-').dropWhile (· == '-') = [] := by simp
    rw [hcs, hempty, trimHyphens, List.append_nil, List.replicate_append_replicate, hrow]
    rfl
  · have hfirst : (trimmed ++ List.replicate n '-').head? ≠ some '-' := by
      rw [List.head?_append_of_ne_nil _ hempty]
      exact h.first
    have hlast : trimmed.reverse.head? ≠ some '-' := by
      rw [List.head?_reverse]
      exact h.last
    rw [hcs, trimHyphens, List.append_assoc, dropWhile_hyphens hfirst, List.reverse_append,
      List.reverse_replicate, dropWhile_hyphens hlast, List.reverse_reverse]

theorem mem (h : Trimmed cs trimmed) {c : Char} (hc : c ∈ trimmed) : c ∈ cs := by
  obtain ⟨m, n, hcs⟩ := h.around
  rw [hcs]
  simp [hc]

theorem letters_eq (h : Trimmed cs trimmed) :
    trimmed.filter isLetterOrDigit = cs.filter isLetterOrDigit := by
  obtain ⟨m, n, hcs⟩ := h.around
  have hhyphen : isLetterOrDigit '-' = false := rfl
  rw [hcs]
  simp [hhyphen]

end Trimmed

theorem trimmed_trimHyphens (cs : List Char) : Trimmed cs (trimHyphens cs) := by
  obtain ⟨m, hfront⟩ := exists_hyphens cs
  obtain ⟨n, hback⟩ := exists_hyphens (cs.dropWhile (· == '-')).reverse
  have htrimmed : cs.dropWhile (· == '-') = trimHyphens cs ++ List.replicate n '-' := by
    have hreversed := congrArg List.reverse hback
    rw [List.reverse_reverse, List.reverse_append, List.reverse_replicate] at hreversed
    exact hreversed
  refine ⟨⟨m, n, ?_⟩, ?_, ?_⟩
  · rw [List.append_assoc, ← htrimmed]
    exact hfront
  · intro hfirst
    have hhead : (cs.dropWhile (· == '-')).head? = some '-' := by
      rw [htrimmed, List.head?_append, hfirst]
      rfl
    have hstays := head?_dropWhile '-' hhead
    cases hstays
  · intro hlast
    rw [trimHyphens, List.getLast?_reverse] at hlast
    have hstays := head?_dropWhile '-' hlast
    cases hstays

theorem trimmed_iff {cs trimmed : List Char} : Trimmed cs trimmed ↔ trimmed = trimHyphens cs := by
  constructor
  · exact Trimmed.eq_trimHyphens
  · intro h
    rw [h]
    exact trimmed_trimHyphens cs

/-! ### Cleaned groups -/

/-- Whether a text is what cleaning makes of a group. -/
def IsCleaned (group cleaned : String) : Prop :=
  ∃ hyphenated, Hyphenated (Text.lower group.toList) hyphenated ∧
    Trimmed hyphenated cleaned.toList

theorem isCleaned_iff {group cleaned : String} :
    IsCleaned group cleaned ↔ cleaned = String.ofList (cleanGroup group.toList) := by
  rw [← String.toList_inj, String.toList_ofList]
  constructor
  · intro h
    obtain ⟨hyphenated, hruns, htrimmed⟩ := h
    rw [htrimmed.eq_trimHyphens, hruns.eq_hyphenateRuns]
    rfl
  · intro h
    exact ⟨_, hyphenated_iff.mpr rfl, trimmed_iff.mpr h⟩

namespace IsCleaned

variable {group cleaned : String}

theorem isNameChar_of_mem (h : IsCleaned group cleaned) :
    ∀ c ∈ cleaned.toList, isNameChar c = true := by
  obtain ⟨hyphenated, hruns, htrimmed⟩ := h
  intro c hc
  exact hruns.isNameChar_of_mem c (htrimmed.mem hc)

/-- A cleaned group without its hyphens is what letters and digits the group has. -/
theorem letters_eq (h : IsCleaned group cleaned) :
    cleaned.toList.filter (· != '-') = (Text.lower group.toList).filter isLetterOrDigit := by
  rw [filter_ne_hyphen h.isNameChar_of_mem]
  obtain ⟨hyphenated, hruns, htrimmed⟩ := h
  rw [htrimmed.letters_eq, hruns.letters_eq]

theorem first (h : IsCleaned group cleaned) : cleaned.toList.head? ≠ some '-' := by
  obtain ⟨hyphenated, -, htrimmed⟩ := h
  exact htrimmed.first

theorem last (h : IsCleaned group cleaned) : cleaned.toList.getLast? ≠ some '-' := by
  obtain ⟨hyphenated, -, htrimmed⟩ := h
  exact htrimmed.last

/-- What is clean is left alone. -/
theorem again (h : IsCleaned group cleaned) : IsCleaned cleaned cleaned := by
  have hnames := h.isNameChar_of_mem
  refine ⟨cleaned.toList, ?_, ⟨0, 0, by simp⟩, h.first, h.last⟩
  rw [lower_of_isNameChar hnames]
  exact .kept hnames

end IsCleaned

namespace GroupNaming

theorem sharedName_eq {group cleaned : String} (naming : GroupNaming)
    (h : IsCleaned group cleaned) : naming.sharedName group = naming.lead ++ "-" ++ cleaned := by
  rw [isCleaned_iff.mp h]
  rfl

/-- **What the shared name of a group is made of.**  It is the lead, a hyphen and the cleaned group,
which is the group in lower case, with every maximal run of characters that are in no name as one
hyphen, and without the hyphens at its ends.  Without its other hyphens it is the letters and digits
of the group in lower case, and cleaning it again changes nothing. -/
theorem sharedName_cleaned (naming : GroupNaming) (group : String) :
    ∃ cleaned, naming.sharedName group = naming.lead ++ "-" ++ cleaned ∧
      (∀ other, IsCleaned group other ↔ other = cleaned) ∧
      cleaned.toList.filter (· != '-') = (Text.lower group.toList).filter isLetterOrDigit ∧
      cleaned.toList.head? ≠ some '-' ∧ cleaned.toList.getLast? ≠ some '-' ∧
      naming.sharedName cleaned = naming.sharedName group := by
  have hcleaned : IsCleaned group (String.ofList (cleanGroup group.toList)) :=
    isCleaned_iff.mpr rfl
  refine ⟨_, rfl, fun other => isCleaned_iff, hcleaned.letters_eq, hcleaned.first, hcleaned.last,
    ?_⟩
  rw [naming.sharedName_eq hcleaned.again, naming.sharedName_eq hcleaned]

example : ({} : GroupNaming).sharedName " My_Group.1!" = "gcenode-my-group-1" := by decide +kernel

end GroupNaming

/-! ### Resource names -/

/-- Whether a text names a resource: it is made of the characters of names, begins with a letter and
does not end with a hyphen. -/
structure IsResourceName (text : String) : Prop where
  characters : ∀ c ∈ text.toList, isNameChar c = true
  first : ∃ c ∈ text.toList.head?, c.isLower = true
  last : text.toList.getLast? ≠ some '-'

theorem isResourceName_iff {text : String} :
    IsResourceName text ↔ text.toList.all isNameChar = true ∧
      text.toList.head?.any Char.isLower = true ∧ text.toList.getLast? ≠ some '-' := by
  rw [List.all_eq_true, Option.any_eq_true]
  exact ⟨fun h => ⟨h.characters, h.first, h.last⟩, fun h => ⟨h.1, h.2.1, h.2.2⟩⟩

instance (text : String) : Decidable (IsResourceName text) := decidable_of_iff' _ isResourceName_iff

/-- Something is left of a group exactly if it has a letter or a digit. -/
theorem IsCleaned.ne_empty_iff {group cleaned : String} (h : IsCleaned group cleaned) :
    cleaned ≠ "" ↔ ∃ c ∈ Text.lower group.toList, isLetterOrDigit c = true := by
  have hletters := h.letters_eq
  constructor
  · intro hne
    have hgiven : cleaned.toList ≠ [] := by simpa using hne
    obtain ⟨c, more, hc⟩ := List.exists_cons_of_ne_nil hgiven
    -- it begins with a character of names that is no hyphen
    have hhyphen : c ≠ '-' := by
      have hfirst := h.first
      rw [hc] at hfirst
      simpa using hfirst
    have hmem : c ∈ (Text.lower group.toList).filter isLetterOrDigit := by
      rw [← hletters, hc]
      simp [hhyphen]
    exact ⟨c, List.mem_filter.mp hmem⟩
  · intro hsome hempty
    obtain ⟨c, hc, hletter⟩ := hsome
    have hmem : c ∈ (Text.lower group.toList).filter isLetterOrDigit :=
      List.mem_filter.mpr ⟨hc, hletter⟩
    rw [← hletters, hempty] at hmem
    cases hmem

theorem IsResourceName.ne_nil {text : String} (h : IsResourceName text) : text.toList ≠ [] := by
  intro hnil
  obtain ⟨c, hc, -⟩ := h.first
  rw [hnil] at hc
  cases hc

/-- A lead that names a resource does so with a cleaned group behind it, if that is not empty. -/
theorem IsResourceName.join_iff {lead group cleaned : String} (h : IsResourceName lead)
    (hcleaned : IsCleaned group cleaned) :
    IsResourceName (lead ++ "-" ++ cleaned) ↔ cleaned ≠ "" := by
  have hlist : (lead ++ "-" ++ cleaned).toList = lead.toList ++ '-' :: cleaned.toList := by simp
  constructor
  · intro hname hempty
    have hlast := hname.last
    rw [hlist, hempty] at hlast
    simp at hlast
  · intro hne
    have hgiven : cleaned.toList ≠ [] := by simpa using hne
    refine ⟨?_, ?_, ?_⟩
    · rw [hlist]
      intro c hc
      rcases List.mem_append.mp hc with hlead | hbehind
      · exact h.characters c hlead
      · rcases List.mem_cons.mp hbehind with hhyphen | hrest
        · rw [hhyphen]; rfl
        · exact hcleaned.isNameChar_of_mem c hrest
    · rw [hlist, List.head?_append_of_ne_nil _ h.ne_nil]
      exact h.first
    · rw [hlist, List.getLast?_append_of_ne_nil _ (List.cons_ne_nil _ _),
        List.getLast?_cons_of_ne_nil hgiven]
      exact hcleaned.last

namespace GroupNaming

/-- The shared name is among the tags of a group, and the others are those that were given. -/
theorem mem_tags {naming : GroupNaming} {group tag : String} {given : List String} :
    tag ∈ naming.tags group given ↔ tag ∈ given ∨ tag = naming.sharedName group := by
  unfold tags
  by_cases hmem : naming.sharedName group ∈ given
  · simp only [hmem, if_true]
    constructor
    · exact .inl
    · intro h
      rcases h with htag | htag
      · exact htag
      · rw [htag]; exact hmem
  · simp [hmem]

/-- **Which groups are given a resource name**: under a lead that is one, those with a letter or a
digit in lower case.  The shared name of any other group is the lead and a hyphen.  It is among the
tags of an instance of the group, so the same groups are those whose tags are resource names. -/
theorem sharedName_isResourceName_iff {naming : GroupNaming} (hlead : IsResourceName naming.lead)
    (group : String) :
    (IsResourceName (naming.sharedName group) ↔
        ∃ c ∈ Text.lower group.toList, isLetterOrDigit c = true) ∧
      ((∀ c ∈ Text.lower group.toList, isLetterOrDigit c = false) →
        naming.sharedName group = naming.lead ++ "-") ∧
      ∀ given : List String, (∀ tag ∈ given, IsResourceName tag) →
        ((∀ tag ∈ naming.tags group given, IsResourceName tag) ↔
          ∃ c ∈ Text.lower group.toList, isLetterOrDigit c = true) := by
  have hcleaned : IsCleaned group (String.ofList (cleanGroup group.toList)) :=
    isCleaned_iff.mpr rfl
  have hname : naming.sharedName group = naming.lead ++ "-" ++ _ := naming.sharedName_eq hcleaned
  have hiff : IsResourceName (naming.sharedName group) ↔
      ∃ c ∈ Text.lower group.toList, isLetterOrDigit c = true := by
    rw [hname, hlead.join_iff hcleaned, hcleaned.ne_empty_iff]
  refine ⟨hiff, ?_, ?_⟩
  · intro hnone
    have hempty : String.ofList (cleanGroup group.toList) = "" := by
      by_contra hne
      obtain ⟨c, hc, hletter⟩ := hcleaned.ne_empty_iff.mp hne
      rw [hnone c hc] at hletter
      cases hletter
    rw [hname, hempty, String.append_empty]
  · intro given hgiven
    rw [← hiff]
    constructor
    · intro hall
      exact hall _ (mem_tags.mpr (.inr rfl))
    · intro hshared tag htag
      rcases mem_tags.mp htag with hold | hnew
      · exact hgiven tag hold
      · rw [hnew]; exact hshared

theorem sharedName_isResourceName_iff_webServers :
    IsResourceName ({} : GroupNaming).lead ∧
      IsResourceName (({} : GroupNaming).sharedName "Web Servers") :=
  have hlead : IsResourceName ({} : GroupNaming).lead := by decide +kernel
  ⟨hlead, (sharedName_isResourceName_iff hlead "Web Servers").1.mpr ⟨'w', by decide +kernel, rfl⟩⟩

/-- A group of underscores is given a name that ends with a hyphen. -/
theorem sharedName_underscores :
    IsResourceName ({} : GroupNaming).lead ∧
      ({} : GroupNaming).sharedName "___" = "gcenode-" ∧
      ¬ IsResourceName (({} : GroupNaming).sharedName "___") := by
  have hname : ({} : GroupNaming).sharedName "___" = "gcenode-" := by decide +kernel
  refine ⟨by decide +kernel, hname, ?_⟩
  rw [hname]
  decide +kernel

end GroupNaming

end ComputeNodes
