/-
Which name a path leads to.

A path ends with the name of a resource, a text that is not empty and has no slash in it, and any
number of slashes may stand behind.  `LeadsTo` says just that, without saying how the name is found:
a name leads to itself, with or without a path in front of it, and a slash behind changes nothing.
A path of nothing but slashes leads nowhere, which the empty name stands for.

Every path leads somewhere, and `shortName` tells where (`leadsTo_iff`).  The laws of short names
follow from that.  A name leads to itself, so finding it twice is finding it once; and the addresses
that are built from a name lead back to it.
-/
import ComputeNodes.Resource.Uri
import Mathlib.Data.List.DropRight

namespace ComputeNodes.Uri

/-! ### Paths -/

/-- Whether a text can stand between two slashes. -/
structure IsSegment (text : String) : Prop where
  given : text ≠ ""
  whole : '/' ∉ text.toList

/-- A row of slashes. -/
def slashes (n : Nat) : String := String.ofList (List.replicate n '/')

/-- Whether a path leads to the resource of a name. -/
inductive LeadsTo : String → String → Prop
  | nowhere : LeadsTo "" ""
  | bare {name : String} (segment : IsSegment name) : LeadsTo name name
  | under (lead : String) {name : String} (segment : IsSegment name) :
    LeadsTo (lead ++ "/" ++ name) name
  | slash {path name : String} (before : LeadsTo path name) : LeadsTo (path ++ "/") name

/-! ### The last segment -/

/-- The last segment is what is behind the last slash, once those at the end are gone. -/
theorem lastSegment_eq (path : List Char) :
    lastSegment path = (path.rdropWhile (· == '/')).rtakeWhile (· != '/') := by
  rw [List.rtakeWhile, List.rdropWhile, List.reverse_reverse]
  rfl

/-- A slash at the end does not matter. -/
theorem lastSegment_slash (path : List Char) : lastSegment (path ++ ['/']) = lastSegment path := by
  rw [lastSegment_eq, lastSegment_eq, List.rdropWhile_concat_pos _ _ _ rfl]

/-- Neither does a path in front, as long as a slash stands between. -/
theorem lastSegment_append {lead name : List Char} (closed : ∀ c ∈ lead.getLast?, c = '/')
    (given : name ≠ []) (whole : '/' ∉ name) : lastSegment (lead ++ name) = name := by
  have hother : ∀ c ∈ name, c ≠ '/' := by
    intro c hc hslash
    rw [hslash] at hc
    exact whole hc
  have hends : (lead ++ name).rdropWhile (· == '/') = lead ++ name := by
    rw [List.rdropWhile_eq_self_iff]
    intro hne
    rw [List.getLast_append_of_ne_nil hne given]
    simpa using hother _ (List.getLast_mem given)
  have hlead : lead.rtakeWhile (· != '/') = [] := by
    rw [List.rtakeWhile_eq_nil_iff]
    intro hne
    simpa using closed _ (List.getLast?_eq_getLast_of_ne_nil hne)
  have htaken : (lead ++ name).rtakeWhile (· != '/') = lead.rtakeWhile (· != '/') ++ name := by
    have hreversed : ∀ c ∈ name.reverse, (c != '/') = true := by
      intro c hc
      simpa using hother c (List.mem_reverse.mp hc)
    rw [List.rtakeWhile, List.reverse_append, List.takeWhile_append_of_pos hreversed,
      List.reverse_append, List.reverse_reverse]
    rfl
  rw [lastSegment_eq, hends, htaken, hlead, List.nil_append]

/-! ### Where paths lead -/

theorem shortName_slash (path : String) : shortName (path ++ "/") = shortName path := by
  have hlist : (path ++ "/").toList = path.toList ++ ['/'] := by simp
  rw [shortName, hlist, lastSegment_slash]
  rfl

theorem IsSegment.ne_nil {name : String} (h : IsSegment name) : name.toList ≠ [] := by
  simpa using h.given

theorem shortName_append {lead name : String} (closed : ∀ c ∈ lead.toList.getLast?, c = '/')
    (segment : IsSegment name) : shortName (lead ++ name) = name := by
  rw [shortName, String.toList_append, lastSegment_append closed segment.ne_nil segment.whole,
    String.ofList_toList]

/-- A path that the characters of a segment are in is not made of slashes alone. -/
theorem IsSegment.eq_empty_iff {path name : String} (h : IsSegment name)
    (part : ∀ c ∈ name.toList, c ∈ path.toList) : name = "" ↔ ∀ c ∈ path.toList, c = '/' := by
  obtain ⟨c, hc⟩ := List.exists_mem_of_ne_nil _ h.ne_nil
  refine iff_of_false h.given ?_
  intro hall
  have hslash : c = '/' := hall c (part c hc)
  rw [hslash] at hc
  exact h.whole hc

theorem isSegment_append {name : String} (whole : '/' ∉ name.toList) {c : Char} (hc : c ≠ '/') :
    IsSegment (name ++ String.singleton c) := by
  have hlist : (name ++ String.singleton c).toList = name.toList ++ [c] := by simp
  constructor
  · intro hempty
    rw [hempty] at hlist
    simp at hlist
  · rw [hlist]
    simp [whole, hc.symm]

namespace LeadsTo

variable {path name : String}

theorem eq_shortName (h : LeadsTo path name) : name = shortName path := by
  induction h with
  | nowhere => rfl
  | @bare name segment =>
    have hfound : shortName ("" ++ name) = name := shortName_append (by simp) segment
    rw [String.empty_append] at hfound
    exact hfound.symm
  | under lead segment => exact (shortName_append (by simp) segment).symm
  | slash before ih => rw [shortName_slash, ih]

/-- Behind a slash a new name begins; any other character goes on with the last one. -/
theorem extend (h : LeadsTo path name) {c : Char} (hc : c ≠ '/') :
    ∃ other, LeadsTo (path ++ String.singleton c) other := by
  have hnew : IsSegment ("" ++ String.singleton c) := isSegment_append (by simp) hc
  rw [String.empty_append] at hnew
  cases h with
  | nowhere =>
    rw [String.empty_append]
    exact ⟨_, .bare hnew⟩
  | bare segment => exact ⟨_, .bare (isSegment_append segment.whole hc)⟩
  | under lead segment =>
    rw [String.append_assoc]
    exact ⟨_, .under lead (isSegment_append segment.whole hc)⟩
  | slash before => exact ⟨_, .under _ hnew⟩

theorem slashes (h : LeadsTo path name) (n : Nat) : LeadsTo (path ++ Uri.slashes n) name := by
  induction n with
  | zero =>
    show LeadsTo (path ++ "") name
    rw [String.append_empty]
    exact h
  | succ n ih =>
    have hrow : Uri.slashes (n + 1) = Uri.slashes n ++ "/" := by
      rw [Uri.slashes, List.replicate_succ', String.ofList_append]
      rfl
    rw [hrow, ← String.append_assoc]
    exact .slash ih

theorem whole (h : LeadsTo path name) : '/' ∉ name.toList := by
  induction h with
  | nowhere => simp
  | bare segment => exact segment.whole
  | under lead segment => exact segment.whole
  | slash before ih => exact ih

theorem again (h : LeadsTo path name) : LeadsTo name name := by
  induction h with
  | nowhere => exact .nowhere
  | bare segment => exact .bare segment
  | under lead segment => exact .bare segment
  | slash before ih => exact ih

theorem eq_empty_iff (h : LeadsTo path name) : name = "" ↔ ∀ c ∈ path.toList, c = '/' := by
  induction h with
  | nowhere => simp
  | bare segment => exact segment.eq_empty_iff fun c hc => hc
  | under lead segment => exact segment.eq_empty_iff fun c hc => by simp [hc]
  | slash before ih =>
    rw [ih]
    simp [or_imp]

end LeadsTo

/-- Every path leads somewhere. -/
theorem exists_leadsTo (path : String) : ∃ name, LeadsTo path name := by
  rw [← String.ofList_toList (s := path)]
  -- from the right, because what a character means depends on the one in front of it
  induction path.toList using List.reverseRecOn with
  | nil => exact ⟨"", .nowhere⟩
  | append_singleton cs c ih =>
    obtain ⟨name, hname⟩ := ih
    rw [String.ofList_append]
    by_cases hc : c = '/'
    · rw [hc]
      exact ⟨name, .slash hname⟩
    · exact hname.extend hc

/-- **Where a path leads** is its short name, and nowhere else. -/
theorem leadsTo_iff {path name : String} : LeadsTo path name ↔ name = shortName path := by
  constructor
  · exact LeadsTo.eq_shortName
  · intro h
    obtain ⟨other, hother⟩ := exists_leadsTo path
    rw [h, ← hother.eq_shortName]
    exact hother

theorem leadsTo_shortName (path : String) : LeadsTo path (shortName path) := leadsTo_iff.mpr rfl

/-! ### Addresses -/

variable {project collection name : String}

theorem leadsTo_global (h : IsSegment name) : LeadsTo (global project collection name) name :=
  .under _ h

/-- The address of a global resource leads back to its name, if that is one. -/
theorem shortName_global_iff :
    shortName (global project collection name) = name ↔ IsSegment name := by
  have hleads : LeadsTo (global project collection name) _ := leadsTo_shortName _
  constructor
  · intro h
    rw [h] at hleads
    refine ⟨?_, hleads.whole⟩
    intro hempty
    -- an address is more than slashes
    have hslash : 'h' = '/' := hleads.eq_empty_iff.mp hempty 'h' (by simp [global, endpoint])
    cases hslash
  · intro h
    exact (leadsTo_global h).eq_shortName.symm

theorem network_of_mem (h : '/' ∈ name.toList) : network project name = name := if_pos h

theorem network_of_notMem (h : '/' ∉ name.toList) :
    network project name = global project "networks" name := if_neg h

theorem mem_network : '/' ∈ (network project name).toList := by
  by_cases h : '/' ∈ name.toList
  · rw [network_of_mem h]
    exact h
  · rw [network_of_notMem h]
    simp [global]

/-- So does the address of a network. -/
theorem shortName_network_iff : shortName (network project name) = name ↔ IsSegment name := by
  by_cases hmem : '/' ∈ name.toList
  · constructor
    · intro h
      have hleads : LeadsTo (network project name) name := leadsTo_iff.mpr h.symm
      exact absurd hmem hleads.whole
    · intro h
      exact absurd hmem h.whole
  · rw [network_of_notMem hmem]
    exact shortName_global_iff

/-- **Short names, and the addresses that lead to them.**  A short name has no slash in it, is empty
only for a path of slashes, and is its own short name.  A segment is the short name of every path
that ends with it, whatever is in front and however many slashes are behind.  So the address of a
global resource, or of a network, has the name it was built from for its short name exactly if that
is a segment; and to build the address of a network from such an address changes nothing. -/
theorem shortName_leadsBack :
    (∀ path : String, '/' ∉ (shortName path).toList ∧
        (shortName path = "" ↔ ∀ c ∈ path.toList, c = '/') ∧
        shortName (shortName path) = shortName path) ∧
      (∀ name : String, IsSegment name → ∀ (lead : String) (n : Nat),
        shortName (name ++ slashes n) = name ∧
          shortName (lead ++ "/" ++ name ++ slashes n) = name) ∧
      (∀ project collection name : String,
        shortName (global project collection name) = name ↔ IsSegment name) ∧
      (∀ project name : String, shortName (network project name) = name ↔ IsSegment name) ∧
      ∀ project other name : String,
        network project (network other name) = network other name := by
  refine ⟨?_, ?_, fun _ _ _ => shortName_global_iff, fun _ _ => shortName_network_iff,
    fun _ _ _ => network_of_mem mem_network⟩
  · intro path
    have hleads : LeadsTo path (shortName path) := leadsTo_shortName path
    exact ⟨hleads.whole, hleads.eq_empty_iff, hleads.again.eq_shortName.symm⟩
  · intro name hname lead n
    have hbare : LeadsTo (name ++ slashes n) name := (LeadsTo.bare hname).slashes n
    have hunder : LeadsTo (lead ++ "/" ++ name ++ slashes n) name :=
      (LeadsTo.under lead hname).slashes n
    exact ⟨hbare.eq_shortName.symm, hunder.eq_shortName.symm⟩

/-- An empty segment in front of a zone, and two slashes behind. -/
theorem shortName_leadsBack_zonePath :
    IsSegment "us-central1-a" ∧
      shortName ("projects/p//zones/" ++ "/" ++ "us-central1-a" ++ slashes 2) = "us-central1-a" :=
  have hzone : IsSegment "us-central1-a" := ⟨by decide, by decide⟩
  ⟨hzone, (shortName_leadsBack.2.1 _ hzone "projects/p//zones/" 2).2⟩

end ComputeNodes.Uri
