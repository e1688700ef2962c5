/-
Which values are settings.

What is required of settings is stated of a table by itself (`Settings.Admissible`), with the
requirement on lengths of time left open: they are to be positive, and what is turned down are those
that are zero or less.  Numbers are on one side or the other, and not-a-number is on neither
(`Seconds.isZeroOrLess_eq_false_iff`); that is one of the two ways in which `Settings.ofValue` falls
short of what it promises.  The other one is a faulty length that cannot be written out, which is
reported in place of the fault.

Each kind of setting is read in a way of its own, and for each there are the same three lemmas: when
it is read, what it is read as, and what is said otherwise.  The settings as a whole are then six
readings in a row.
-/
import ComputeNodes.Proofs.Number.Double
import ComputeNodes.Settings.Basic

namespace ComputeNodes

/-! ### Lengths of time -/

/-- The length of time that a value gives: that of a number, and a truth value is none. -/
def Value.seconds? : Value → Option Seconds
  | .int n => some (.whole n)
  | .float x => some (.double x)
  | _ => none

namespace Seconds

/-- A length of time as a value. -/
def value : Seconds → Value
  | .whole n => .int n
  | .double x => .float x

def IsPositive : Seconds → Prop
  | .whole n => 0 < n
  | .double x => 0.0 < x

/-- Whether a length of time is not-a-number. -/
def IsNaN : Seconds → Prop
  | .whole _ => False
  | .double x => x.isNaN = true

theorem isZeroOrLess_eq_false_iff {s : Seconds} :
    s.isZeroOrLess = false ↔ s.IsPositive ∨ s.IsNaN := by
  cases s with
  | whole n => simp [isZeroOrLess, IsPositive, IsNaN]
  | double x =>
    rw [isZeroOrLess, decide_eq_false_iff_not]
    exact Double.not_le_zero_iff

@[simp] theorem seconds?_value (s : Seconds) : s.value.seconds? = some s := by
  cases s <;> rfl

theorem isZeroOrLess_of_isPositive {s : Seconds} (h : s.IsPositive) : s.isZeroOrLess = false :=
  isZeroOrLess_eq_false_iff.mpr (.inl h)

theorem not_isPositive_of_isNaN {s : Seconds} (h : s.IsNaN) : ¬ s.IsPositive := by
  cases s with
  | whole n => exact h.elim
  | double x => exact Double.not_zero_lt_of_isNaN h

end Seconds

namespace Settings

/-! ### What is required -/

/-- What a setting is when it is a length of time that `P` holds of. -/
def IsTiming (P : Seconds → Prop) (value : Value) : Prop :=
  ∃ length, value.seconds? = some length ∧ P length

/-- What a setting is when it is a text. -/
def IsText (value : Value) : Prop := ∃ s, value = .text s

/-- What is required of a table of settings, when `P` is required of lengths of time. -/
structure Admissible (P : Seconds → Prop) (t : Table) : Prop where
  known : ∀ key ∈ t.keys, key ∈ names
  timing : ∀ name ∈ ["operation_interval", "operation_timeout"], ∀ value,
    t.find? name = some value → IsTiming P value
  optional : ∀ name ∈ ["identity", "credentials_path"], ∀ value,
    t.find? name = some value → value = .null ∨ IsText value
  required : ∀ name ∈ ["image_project", "group_prefix"], ∀ value,
    t.find? name = some value → IsText value

/-- The settings as entries of a table. -/
def entries (s : Settings) : Table :=
  [("identity", (s.identity.map .text).getD .null),
    ("credentials_path", (s.credentialsPath.map .text).getD .null),
    ("operation_interval", s.operationInterval.value),
    ("operation_timeout", s.operationTimeout.value), ("image_project", .text s.imageProject),
    ("group_prefix", .text s.groupLead)]

/-- Whether a length of time is turned down, and cannot be written out. -/
def IsUnwritten (t : Table) (name : String) : Prop :=
  ∃ value, t.find? name = some value ∧ ¬ IsTiming (·.isZeroOrLess = false) value ∧
    value.isWritable = false

/-! ### Verdicts -/

/-- What comes of something that is accepted when `Good` holds, and where it is not, is turned down
with what is wrong about it, unless `Unwritten` says that it cannot be. -/
structure Verdict {α : Type} (r : Except Error α) (Good Unwritten : Prop) : Prop where
  accepted : Good → ∃ a, r = .ok a
  refused : ¬ Good → ¬ Unwritten → ∃ fault, r = .error (.configuration fault)
  unwritten : Unwritten → r = .error (.whole .noNumeral)

namespace Verdict

variable {α β : Type} {r : Except Error α} {f : α → Except Error β}
  {Good Unwritten Good' Unwritten' : Prop}

theorem good_of_ok (h : Verdict r Good Unwritten) {a : α} (ha : r = .ok a) : Good := by
  by_contra hgood
  by_cases hunwritten : Unwritten
  · rw [h.unwritten hunwritten] at ha
    cases ha
  · obtain ⟨fault, hfault⟩ := h.refused hgood hunwritten
    rw [hfault] at ha
    cases ha

theorem fault_of_error (h : Verdict r Good Unwritten) (hwritten : ¬ Unwritten) {error : Error}
    (herror : r = .error error) : ∃ fault, error = .configuration fault := by
  by_cases hgood : Good
  · obtain ⟨a, ha⟩ := h.accepted hgood
    rw [ha] at herror
    cases herror
  · obtain ⟨fault, hfault⟩ := h.refused hgood hwritten
    rw [hfault] at herror
    cases herror
    exact ⟨fault, rfl⟩

theorem pure (a : α) : Verdict (.ok a) True False where
  accepted _ := ⟨a, rfl⟩
  refused h := absurd trivial h
  unwritten := False.elim

/-- **One verdict behind the other**: the first one that is not good is the one that counts. -/
theorem bind (h : Verdict r Good Unwritten) (hf : ∀ a, Verdict (f a) Good' Unwritten') :
    Verdict (r >>= f) (Good ∧ Good') (Unwritten ∨ Good ∧ Unwritten') where
  accepted := by
    rintro ⟨hgood, hgood'⟩
    obtain ⟨a, rfl⟩ := h.accepted hgood
    exact (hf a).accepted hgood'
  refused hnot hwritten := by
    by_cases hgood : Good
    · obtain ⟨a, rfl⟩ := h.accepted hgood
      exact (hf a).refused (fun hgood' => hnot ⟨hgood, hgood'⟩)
        fun hunwritten' => hwritten (.inr ⟨hgood, hunwritten'⟩)
    · obtain ⟨fault, rfl⟩ := h.refused hgood fun hunwritten => hwritten (.inl hunwritten)
      exact ⟨fault, rfl⟩
  unwritten := by
    rintro (hunwritten | ⟨hgood, hunwritten'⟩)
    · rw [h.unwritten hunwritten]
      rfl
    · obtain ⟨a, rfl⟩ := h.accepted hgood
      exact (hf a).unwritten hunwritten'

theorem congr (h : Verdict r Good Unwritten) (hgood : Good ↔ Good')
    (hunwritten : Unwritten ↔ Unwritten') : Verdict r Good' Unwritten' := by
  rwa [← propext hgood, ← propext hunwritten]

end Verdict

/-! ### Single settings -/

variable {t : Table} {name : String}

/-- How a value that is turned down is reported: with what it is, if it can be written out. -/
def refusal (value : Value) (fault : String → ConfigurationFault) : Error :=
  if value.isWritable then .configuration (fault value.shown) else .whole .noNumeral

theorem throw_shown {α : Type} (value : Value) (fault : String → ConfigurationFault) :
    (do throw (.configuration (fault (← shown value))) : Except Error α)
      = .error (refusal value fault) := by
  unfold shown Value.writable refusal
  cases value.isWritable <;> rfl

theorem seconds_of_none (h : t.find? name = none) (usual : Seconds) :
    seconds t name usual = .ok usual := by
  rw [seconds, h]

theorem seconds_of_length {value : Value} {length : Seconds} (h : t.find? name = some value)
    (hlength : value.seconds? = some length) (usual : Seconds) :
    seconds t name usual = if length.isZeroOrLess then .error (refusal value (.notPositive name))
      else .ok length := by
  rw [seconds, h]
  cases value <;> cases hlength <;> dsimp only <;> split
  · exact throw_shown _ _
  · rfl
  · exact throw_shown _ _
  · rfl

theorem seconds_of_other {value : Value} (h : t.find? name = some value)
    (hlength : value.seconds? = none) (usual : Seconds) :
    seconds t name usual = .error (refusal value (.notSeconds name value.typeName)) := by
  rw [seconds, h]
  cases value <;> first | exact throw_shown _ _ | cases hlength

/-- A length of time is read, or else turned down. -/
theorem seconds_cases (t : Table) (name : String) (usual : Seconds) :
    (t.find? name = none ∧ seconds t name usual = .ok usual) ∨
      ∃ value, t.find? name = some value ∧
        ((∃ length, value.seconds? = some length ∧ length.isZeroOrLess = false ∧
            seconds t name usual = .ok length) ∨
          (¬ IsTiming (·.isZeroOrLess = false) value ∧
            ∃ fault, seconds t name usual = .error (refusal value fault))) := by
  cases h : t.find? name with
  | none => exact .inl ⟨rfl, seconds_of_none h usual⟩
  | some value =>
    refine .inr ⟨value, rfl, ?_⟩
    cases hlength : value.seconds? with
    | none =>
      refine .inr ⟨?_, _, seconds_of_other h hlength usual⟩
      rintro ⟨length, hsome, -⟩
      rw [hlength] at hsome
      cases hsome
    | some length =>
      have hread := seconds_of_length h hlength usual
      cases hzero : length.isZeroOrLess with
      | false =>
        rw [hzero] at hread
        exact .inl ⟨length, rfl, hzero, hread⟩
      | true =>
        rw [hzero] at hread
        refine .inr ⟨?_, _, hread⟩
        rintro ⟨other, hsome, hother⟩
        rw [hlength] at hsome
        cases hsome
        rw [hzero] at hother
        cases hother

theorem seconds_verdict (t : Table) (name : String) (usual : Seconds) :
    Verdict (seconds t name usual)
      (∀ value, t.find? name = some value → IsTiming (·.isZeroOrLess = false) value)
      (IsUnwritten t name) := by
  rcases seconds_cases t name usual with ⟨hnone, hread⟩ | ⟨value, hsome, hcases⟩
  · refine ⟨fun _ => ⟨usual, hread⟩, fun hnot => absurd (by simp [hnone]) hnot, ?_⟩
    rintro ⟨value, hsome, -⟩
    rw [hnone] at hsome
    cases hsome
  · have hgood : (∀ other, t.find? name = some other → IsTiming (·.isZeroOrLess = false) other)
        ↔ IsTiming (·.isZeroOrLess = false) value := by simp [hsome]
    have hunwritten : IsUnwritten t name ↔ ¬ IsTiming (·.isZeroOrLess = false) value ∧
        value.isWritable = false := by simp [IsUnwritten, hsome]
    rw [hgood, hunwritten]
    rcases hcases with ⟨length, hlength, hzero, hread⟩ | ⟨hnot, fault, hread⟩
    · have htiming : IsTiming (·.isZeroOrLess = false) value := ⟨length, hlength, hzero⟩
      exact ⟨fun _ => ⟨length, hread⟩, fun hnot => absurd htiming hnot,
        fun ⟨hnot, _⟩ => absurd htiming hnot⟩
    · rw [hread, refusal]
      cases hwritable : value.isWritable with
      | true => exact ⟨fun htiming => absurd htiming hnot, fun _ _ => ⟨_, rfl⟩, by simp⟩
      | false => exact ⟨fun htiming => absurd htiming hnot, fun _ hwritten =>
          absurd ⟨hnot, rfl⟩ hwritten, fun _ => rfl⟩

theorem text_verdict (t : Table) (name usual : String) :
    Verdict (text t name usual) (∀ value, t.find? name = some value → IsText value) False := by
  rw [text]
  cases hsome : t.find? name with
  | none => exact ⟨fun _ => ⟨usual, rfl⟩, fun hnot => absurd nofun hnot, False.elim⟩
  | some value =>
    cases value with
    | text s =>
      refine ⟨fun _ => ⟨s, rfl⟩, fun hnot => absurd ?_ hnot, False.elim⟩
      rintro _ ⟨⟩
      exact ⟨s, rfl⟩
    | _ =>
      refine ⟨fun hgood => ?_, fun _ _ => ⟨_, rfl⟩, False.elim⟩
      obtain ⟨s, hs⟩ := hgood _ rfl
      cases hs

theorem text?_verdict (t : Table) (name : String) :
    Verdict (text? t name)
      (∀ value, t.find? name = some value → value = .null ∨ IsText value) False := by
  rw [text?]
  cases hsome : t.find? name with
  | none => exact ⟨fun _ => ⟨none, rfl⟩, fun hnot => absurd nofun hnot, False.elim⟩
  | some value =>
    cases value with
    | null =>
      refine ⟨fun _ => ⟨none, rfl⟩, fun hnot => absurd ?_ hnot, False.elim⟩
      rintro _ ⟨⟩
      exact .inl rfl
    | text s =>
      refine ⟨fun _ => ⟨some s, rfl⟩, fun hnot => absurd ?_ hnot, False.elim⟩
      rintro _ ⟨⟩
      exact .inr ⟨s, rfl⟩
    | _ =>
      refine ⟨fun hgood => ?_, fun _ _ => ⟨_, rfl⟩, False.elim⟩
      rcases hgood _ rfl with hnull | ⟨s, hs⟩
      · cases hnull
      · cases hs

/-- A length of time that is read is the one that is given, or the usual one. -/
theorem value_of_seconds {usual length : Seconds} (h : seconds t name usual = .ok length) :
    length.value = (t.find? name).getD usual.value := by
  rcases seconds_cases t name usual with ⟨hnone, hread⟩ | ⟨value, hsome, hcases⟩
  · rw [h] at hread
    cases hread
    rw [hnone]
    rfl
  · rcases hcases with ⟨other, hlength, -, hread⟩ | ⟨-, fault, hread⟩
    · rw [h] at hread
      cases hread
      rw [hsome]
      cases value <;> cases hlength <;> rfl
    · rw [h] at hread
      cases hread

theorem value_of_text {usual s : String} (h : text t name usual = .ok s) :
    Value.text s = (t.find? name).getD (.text usual) := by
  rw [text] at h
  cases hsome : t.find? name with
  | none => rw [hsome] at h; cases h; rfl
  | some value => rw [hsome] at h; cases value <;> cases h; rfl

theorem value_of_text? {s : Option String} (h : text? t name = .ok s) :
    (s.map Value.text).getD .null = (t.find? name).getD .null := by
  rw [text?] at h
  cases hsome : t.find? name with
  | none => rw [hsome] at h; cases h; rfl
  | some value => rw [hsome] at h; cases value <;> cases h <;> rfl

/-! ### All settings -/

/-- The settings hold what is given, and what is usual in place of what is not. -/
theorem entries_of_ofKnown {settings : Settings} (h : ofKnown t = .ok settings) (name : String)
    (hname : name ∈ names) :
    settings.entries.find? name = (t.find? name).or (({} : Settings).entries.find? name) := by
  simp only [ofKnown, Error.bind_eq_ok] at h
  obtain ⟨interval, hinterval, timeout, htimeout, identity, hidentity, path, hpath, project,
    hproject, lead, hlead, hsettings⟩ := h
  cases hsettings
  have hentry {name : String} {value usual : Value} (hvalue : value = (t.find? name).getD usual) :
      some value = (t.find? name).or (some usual) := by
    rw [hvalue]
    cases t.find? name <;> rfl
  simp only [names, List.mem_cons, List.not_mem_nil, or_false] at hname
  rcases hname with rfl | rfl | rfl | rfl | rfl | rfl
  · exact hentry (value_of_text? hpath)
  · exact hentry (value_of_text hlead)
  · exact hentry (value_of_text? hidentity)
  · exact hentry (value_of_text hproject)
  · exact hentry (value_of_seconds hinterval)
  · exact hentry (value_of_seconds htimeout)

/-- Whether the first thing that is wrong with a table of known keys is a length of time that cannot
be written out. -/
def FirstUnwritten (t : Table) : Prop :=
  IsUnwritten t "operation_interval" ∨
    (∀ value, t.find? "operation_interval" = some value →
      IsTiming (·.isZeroOrLess = false) value) ∧ IsUnwritten t "operation_timeout"

theorem ofKnown_verdict (hknown : ∀ key ∈ t.keys, key ∈ names) :
    Verdict (ofKnown t) (Admissible (·.isZeroOrLess = false) t) (FirstUnwritten t) := by
  refine Verdict.congr ((seconds_verdict t "operation_interval" _).bind fun _ =>
    (seconds_verdict t "operation_timeout" _).bind fun _ =>
    (text?_verdict t "identity").bind fun _ =>
    (text?_verdict t "credentials_path").bind fun _ =>
    (text_verdict t "image_project" _).bind fun _ =>
    (text_verdict t "group_prefix" _).bind fun _ => Verdict.pure _) ?_ ?_
  · constructor
    · rintro ⟨hinterval, htimeout, hidentity, hpath, hproject, hlead, -⟩
      exact ⟨hknown, by simpa using And.intro hinterval htimeout,
        by simpa using And.intro hidentity hpath, by simpa using And.intro hproject hlead⟩
    · intro h
      exact ⟨h.timing _ (by simp), h.timing _ (by simp), h.optional _ (by simp),
        h.optional _ (by simp), h.required _ (by simp), h.required _ (by simp), trivial⟩
  · simp only [FirstUnwritten, and_false, or_false]

theorem ofTable_verdict (t : Table) :
    Verdict (ofTable t) (Admissible (·.isZeroOrLess = false) t)
      ((∀ key ∈ t.keys, key ∈ names) ∧ FirstUnwritten t) := by
  have hunknown : (t.keys.filter fun key => !names.contains key).mergeSort Text.inOrder = [] ↔
      ∀ key ∈ t.keys, key ∈ names := by
    rw [← List.length_eq_zero_iff, List.length_mergeSort, List.length_eq_zero_iff,
      List.filter_eq_nil_iff]
    simp
  rw [ofTable]
  by_cases hknown : ∀ key ∈ t.keys, key ∈ names
  · simp only [hunknown.mpr hknown, ne_eq, not_true_eq_false, if_false]
    exact (ofKnown_verdict hknown).congr Iff.rfl ⟨fun h => ⟨hknown, h⟩, And.right⟩
  · rw [← hunknown] at hknown
    simp only [ne_eq, hknown, not_false_eq_true, if_true]
    exact ⟨fun h => absurd (hunknown.mpr h.known) hknown, fun _ _ => ⟨_, rfl⟩,
      fun h => absurd (hunknown.mpr h.1) hknown⟩

theorem ofValue_verdict (raw : Value) :
    Verdict (ofValue raw) (∃ t, raw = .table t ∧ Admissible (·.isZeroOrLess = false) t)
      (∃ t : Table, raw = .table t ∧ (∀ key ∈ t.keys, key ∈ names) ∧ FirstUnwritten t) := by
  cases raw with
  | table t => exact (ofTable_verdict t).congr (by simp) (by simp)
  | _ =>
    refine ⟨?_, fun _ _ => ⟨_, rfl⟩, ?_⟩
    · rintro ⟨t, ht, -⟩
      cases ht
    · rintro ⟨t, ht, -⟩
      cases ht

theorem entries_of_ofTable {settings : Settings} (h : ofTable t = .ok settings) :
    ∀ name ∈ names,
      settings.entries.find? name = (t.find? name).or (({} : Settings).entries.find? name) := by
  rw [ofTable] at h
  dsimp only at h
  split at h
  · cases h
  · exact entries_of_ofKnown h

/-! ### What is promised -/

/-- What is promised of a value that is given as settings: it is accepted exactly if it is a table
of settings in which every length of time is positive, and what is wrong with it is said otherwise.
What is accepted holds what is given, and what is usual in place of what is not. -/
structure AsPromised (raw : Value) : Prop where
  accepts_iff : (∃ settings, ofValue raw = .ok settings) ↔
    ∃ t, raw = .table t ∧ Admissible Seconds.IsPositive t
  refuses : ∀ error, ofValue raw = .error error → ∃ fault, error = .configuration fault
  holds : ∀ settings, ofValue raw = .ok settings → ∃ t : Table, raw = .table t ∧
    ∀ name ∈ names,
      settings.entries.find? name = (t.find? name).or (({} : Settings).entries.find? name)
  positive : ∀ settings, ofValue raw = .ok settings →
    settings.operationInterval.IsPositive ∧ settings.operationTimeout.IsPositive

/-- Whether a table is accepted although one of its lengths of time is not-a-number. -/
structure SlipsThrough (t : Table) : Prop where
  admissible : Admissible (·.isZeroOrLess = false) t
  isNaN : ∃ name ∈ ["operation_interval", "operation_timeout"], ∃ value, t.find? name = some value ∧
    IsTiming Seconds.IsNaN value

theorem Admissible.mono {P Q : Seconds → Prop} (h : Admissible P t)
    (himp : ∀ name ∈ ["operation_interval", "operation_timeout"], ∀ value,
      t.find? name = some value → IsTiming P value → IsTiming Q value) : Admissible Q t where
  known := h.known
  timing name hname value hvalue :=
    himp name hname value hvalue (h.timing name hname value hvalue)
  optional := h.optional
  required := h.required

/-- What is accepted is as it is required to be, unless not-a-number slips through. -/
theorem Admissible.positive_iff :
    Admissible Seconds.IsPositive t ↔
      Admissible (·.isZeroOrLess = false) t ∧ ¬ SlipsThrough t := by
  constructor
  · intro h
    refine ⟨h.mono fun _ _ _ _ ⟨length, hlength, hpositive⟩ =>
      ⟨length, hlength, Seconds.isZeroOrLess_of_isPositive hpositive⟩, ?_⟩
    rintro ⟨-, name, hname, value, hvalue, length, hlength, hnan⟩
    obtain ⟨other, hother, hpositive⟩ := h.timing name hname value hvalue
    rw [hlength] at hother
    cases hother
    exact Seconds.not_isPositive_of_isNaN hnan hpositive
  · rintro ⟨h, hslips⟩
    refine h.mono fun name hname value hvalue ⟨length, hlength, hzero⟩ => ⟨length, hlength, ?_⟩
    rcases Seconds.isZeroOrLess_eq_false_iff.mp hzero with hpositive | hnan
    · exact hpositive
    · exact absurd ⟨h, name, hname, value, hvalue, length, hlength, hnan⟩ hslips

/-- A setting that holds what is given holds a positive length, if those that are given and the
usual one are positive. -/
theorem isPositive_of_entry {given : Option Value} {length usual : Seconds}
    (hentry : some length.value = given.or (some usual.value))
    (hgiven : ∀ value, given = some value → IsTiming Seconds.IsPositive value)
    (husual : usual.IsPositive) : length.IsPositive := by
  have hvalue : ∃ value, some length.value = some value ∧ IsTiming Seconds.IsPositive value := by
    rw [hentry]
    cases given with
    | none => exact ⟨_, rfl, usual, Seconds.seconds?_value usual, husual⟩
    | some value => exact ⟨value, rfl, hgiven value rfl⟩
  obtain ⟨value, hsame, other, hother, hpositive⟩ := hvalue
  cases hsame
  rw [Seconds.seconds?_value] at hother
  cases hother
  exact hpositive

/-- What is accepted was a table of settings, and holds what that gives. -/
theorem given_of_ok {raw : Value} {settings : Settings} (h : ofValue raw = .ok settings) :
    ∃ t : Table, raw = .table t ∧ Admissible (·.isZeroOrLess = false) t ∧ ∀ name ∈ names,
      settings.entries.find? name = (t.find? name).or (({} : Settings).entries.find? name) := by
  obtain ⟨t, rfl, hadmissible⟩ := (ofValue_verdict raw).good_of_ok h
  exact ⟨t, rfl, hadmissible, entries_of_ofTable h⟩

/-- Positive lengths are what settings hold that are given no others. -/
theorem isPositive_of_entries {settings : Settings} (hadmissible : Admissible Seconds.IsPositive t)
    (hentries : ∀ name ∈ names,
      settings.entries.find? name = (t.find? name).or (({} : Settings).entries.find? name)) :
    settings.operationInterval.IsPositive ∧ settings.operationTimeout.IsPositive := by
  have hinterval := hentries "operation_interval" (by simp [names])
  have htimeout := hentries "operation_timeout" (by simp [names])
  have htwo : (Seconds.double 2.0).IsPositive := by unfold Seconds.IsPositive; decide
  have hsixHundred : (Seconds.double 600.0).IsPositive := by unfold Seconds.IsPositive; decide
  exact ⟨isPositive_of_entry hinterval (hadmissible.timing _ (by simp)) htwo,
    isPositive_of_entry htimeout (hadmissible.timing _ (by simp)) hsixHundred⟩

/-- Where nothing slips through and every fault can be written out, all that is promised holds. -/
theorem asPromised_of_not {raw : Value} (hslips : ∀ t, raw = .table t → ¬ SlipsThrough t)
    (hwritten : ∀ t : Table, raw = .table t →
      ¬ ((∀ key ∈ t.keys, key ∈ names) ∧ FirstUnwritten t)) : AsPromised raw where
  accepts_iff := by
    constructor
    · rintro ⟨settings, h⟩
      obtain ⟨t, rfl, hadmissible, -⟩ := given_of_ok h
      exact ⟨t, rfl, Admissible.positive_iff.mpr ⟨hadmissible, hslips t rfl⟩⟩
    · rintro ⟨t, rfl, hadmissible⟩
      exact (ofValue_verdict _).accepted ⟨t, rfl, (Admissible.positive_iff.mp hadmissible).1⟩
  refuses error herror :=
    (ofValue_verdict raw).fault_of_error (fun ⟨t, ht, hunwritten⟩ => hwritten t ht hunwritten)
      herror
  holds settings h := by
    obtain ⟨t, rfl, -, hentries⟩ := given_of_ok h
    exact ⟨t, rfl, hentries⟩
  positive settings h := by
    obtain ⟨t, rfl, hadmissible, hentries⟩ := given_of_ok h
    exact isPositive_of_entries (Admissible.positive_iff.mpr ⟨hadmissible, hslips t rfl⟩) hentries

/-- **Settings are what is promised of them** with two exceptions: not-a-number slips through as a
length of time, and where a length of time is the first thing that is wrong and cannot be written
out, that is all that is said. -/
theorem asPromised_iff (raw : Value) :
    AsPromised raw ↔ ¬ ∃ t : Table, raw = .table t ∧
      (SlipsThrough t ∨ (∀ key ∈ t.keys, key ∈ names) ∧ FirstUnwritten t) := by
  have hverdict := ofValue_verdict raw
  constructor
  · rintro hpromised ⟨t, rfl, hslips | hunwritten⟩
    · obtain ⟨_, htable, hpositive⟩ :=
        hpromised.accepts_iff.mp (hverdict.accepted ⟨t, rfl, hslips.admissible⟩)
      cases htable
      exact (Admissible.positive_iff.mp hpositive).2 hslips
    · obtain ⟨fault, hfault⟩ := hpromised.refuses _ (hverdict.unwritten ⟨t, rfl, hunwritten⟩)
      cases hfault
  · intro hnone
    exact asPromised_of_not (fun t ht hslips => hnone ⟨t, ht, .inl hslips⟩)
      fun t ht hunwritten => hnone ⟨t, ht, .inr hunwritten⟩

/-- An interval that is zero or less and has no numeral is not even said to be wrong. -/
theorem ofValue_endless {n : Int} (hzero : n ≤ 0) (hlong : Numeral.hasNumeral n = false) :
    ofValue (.table [("operation_interval", .int n)]) = .error (.whole .noNumeral) := by
  have hnot : ¬ IsTiming (·.isZeroOrLess = false) (.int n) := by
    rintro ⟨length, hlength, hpositive⟩
    cases hlength
    exact absurd hzero (of_decide_eq_false hpositive)
  exact (ofTable_verdict _).unwritten
    ⟨by simp [Entries.keys, names], .inl ⟨.int n, rfl, hnot, hlong⟩⟩

/-- A table in which the timeout is not-a-number. -/
def notANumberTimeout : Table := [("operation_timeout", .float (0.0 / 0.0))]

/-- It is accepted, with that timeout. -/
theorem not_asPromised_notANumber :
    (∃ settings, ofValue (.table notANumberTimeout) = .ok settings ∧
      settings.operationTimeout.IsNaN) ∧ ¬ AsPromised (.table notANumberTimeout) := by
  have hnan : (Seconds.double (0.0 / 0.0)).IsNaN := by unfold Seconds.IsNaN; decide
  have hadmissible : Admissible (·.isZeroOrLess = false) notANumberTimeout := by
    refine ⟨by decide, ?_, ?_, ?_⟩
    · intro name hname value hvalue
      refine ⟨.double (0.0 / 0.0), ?_, Seconds.isZeroOrLess_eq_false_iff.mpr (.inr hnan)⟩
      fin_cases hname <;> cases hvalue
      rfl
    · intro name hname value hvalue
      fin_cases hname <;> cases hvalue
    · intro name hname value hvalue
      fin_cases hname <;> cases hvalue
  obtain ⟨settings, h⟩ := (ofTable_verdict notANumberTimeout).accepted hadmissible
  have htimeout := entries_of_ofTable h "operation_timeout" (by simp [names])
  have hsettings : settings.operationTimeout.IsNaN := by
    have hvalue : settings.operationTimeout.value = .float (0.0 / 0.0) := Option.some.inj htimeout
    have hlength := Seconds.seconds?_value settings.operationTimeout
    rw [hvalue] at hlength
    exact Option.some.inj hlength ▸ hnan
  refine ⟨⟨settings, h, hsettings⟩, fun hpromised => ?_⟩
  exact Seconds.not_isPositive_of_isNaN hsettings (hpromised.positive settings h).2

end Settings

end ComputeNodes
