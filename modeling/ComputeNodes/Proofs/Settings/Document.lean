/-
Tables that are read from files.

A document that names a key twice is refused, so whatever is read from one is a table that names
every key once, however deep (`Toml.keysOnce_of_read`).  There are two ways in which tables grow
while a document is read.  Entries of the document go into the table of the current header, and
entries of a table in braces go into that.  Either way `enter` looks for the place and `putNew` or
`pushTable` puts something there, so what is shown of `enter` carries both.

A reader may also fail, and how much it reads does not matter here.  So readers are told by a
property of what they return (`Gives`), which is passed on from one statement to the next.

This is what merging asks of the tables it is given, so the merged document holds along every path
what the two files say it does (`SettingsFiles.load_isMergeOf`).
-/
import ComputeNodes.Proofs.Settings.Admission
import ComputeNodes.Proofs.Value.Merge
import ComputeNodes.Settings.Files

namespace ComputeNodes

namespace Toml

/-! ### What readers return -/

/-- Whether what a reader returns has a property, whatever document it is put to. -/
def Gives {α : Type} (x : Read α) (P : α → Prop) : Prop :=
  ∀ cs a rest, x.run cs = .ok (a, rest) → P a

namespace Gives

variable {α β : Type} {P : α → Prop} {Q : β → Prop} {x : Read α} {f : α → Read β}

theorem pure {a : α} (h : P a) : Gives (Pure.pure a) P := by
  intro cs b rest hrun
  cases hrun
  exact h

theorem refuse : Gives (Toml.refuse : Read α) P := by
  intro cs a rest hrun
  cases hrun

theorem bind (hx : Gives x P) (hf : ∀ a, P a → Gives (f a) Q) : Gives (x >>= f) Q := by
  intro cs b rest hrun
  rw [StateT.run_bind] at hrun
  cases hfirst : x.run cs with
  | error fault =>
    rw [hfirst] at hrun
    cases hrun
  | ok read =>
    rw [hfirst] at hrun
    exact hf read.1 (hx cs read.1 read.2 hfirst) read.2 b rest hrun

/-- A reader whose result is of no account passes nothing on. -/
theorem next (hf : ∀ a, Gives (f a) Q) : Gives (x >>= f) Q :=
  bind (P := fun _ => True) (fun _ _ _ _ => trivial) fun a _ => hf a

theorem ite {c : Prop} [Decidable c] {y : Read α} (hx : Gives x P) (hy : Gives y P) :
    Gives (if c then x else y) P := by
  split
  next => exact hx
  next => exact hy

/-- A check refuses the document, or goes on with what comes behind it. -/
theorem unless_refuse {c : Prop} [Decidable c] {y : Unit → Read α} (h : Gives (y ()) P) :
    Gives (if c then Toml.refuse >>= y else y ()) P :=
  ite (bind (P := fun _ => False) refuse fun _ => False.elim) h

theorem require {o : Option α} (h : ∀ a, o = some a → P a) : Gives (Toml.require o) P := by
  cases o with
  | none => exact refuse
  | some a => exact pure (h a rfl)

end Gives

/-! ### Places in tables -/

variable {name : String} {item : Value}

/-- Whether a change keeps to tables that name every key once. -/
def KeepsKeysOnce (change : Table → Option Table) : Prop :=
  ∀ t t', t.keysOnce = true → change t = some t' → t'.keysOnce = true

theorem keepsKeysOnce_some : KeepsKeysOnce some := by
  intro t t' ht hsome
  cases hsome
  exact ht

theorem keepsKeysOnce_putNew (h : item.keysOnce = true) : KeepsKeysOnce (putNew name item) := by
  intro t t' ht hput
  unfold putNew at hput
  split at hput
  next => cases hput
  next =>
    cases hput
    exact Table.keysOnce_put ht h name

theorem keepsKeysOnce_pushTable : KeepsKeysOnce (pushTable name) := by
  intro t t' ht hpush
  unfold pushTable at hpush
  split at hpush
  next =>
    cases hpush
    exact Table.keysOnce_put ht rfl name
  next =>
    cases hpush
    exact Table.keysOnce_put ht rfl name
  next => cases hpush

/-- Changing the table at a place keeps to tables that name every key once if the change does. -/
theorem keepsKeysOnce_enter {change : Table → Option Table} (h : KeepsKeysOnce change)
    (throughArrays : Bool) (place : Path) : KeepsKeysOnce (enter throughArrays change place) := by
  induction place with
  | nil => exact h
  | cons name rest ih =>
    intro t t' ht hchange
    rw [enter] at hchange
    dsimp only at hchange
    split at hchange
    next =>
      obtain ⟨inner, hinner, hput⟩ := Option.bind_eq_some_iff.mp hchange
      cases hput
      exact Table.keysOnce_put ht (by simpa using ih [] inner rfl hinner) name
    next entries hentries =>
      obtain ⟨inner, hinner, hput⟩ := Option.bind_eq_some_iff.mp hchange
      cases hput
      have hkeys := Table.keysOnce_of_find? ht hentries
      exact Table.keysOnce_put ht (by simpa using ih entries inner hkeys hinner) name
    next =>
      -- what is put in place of an array is an array again
      split at hchange
      next =>
        obtain ⟨inner, -, hput⟩ := Option.bind_eq_some_iff.mp hchange
        cases hput
        exact Table.keysOnce_put ht rfl name
      next => cases hchange
    next => cases hchange

theorem gives_enter {change : Table → Option Table} (hchange : KeepsKeysOnce change) {t : Table}
    (h : t.keysOnce = true) (throughArrays : Bool) (place : Path) :
    Gives (require (enter throughArrays change place t)) fun t' => t'.keysOnce = true :=
  Gives.require fun t' => keepsKeysOnce_enter hchange throughArrays place t t' h

/-! ### Values -/

/-- What is read in brackets is an array, whatever is in it. -/
theorem gives_array (room fuel : Nat) (items : List Value) :
    Gives (array room fuel items) fun v => v.keysOnce = true := by
  induction fuel generalizing items with
  | zero => exact Gives.refuse
  | succ fuel ih =>
    rw [array]
    refine Gives.next fun _ => Gives.next fun _ => Gives.next fun _ => ?_
    refine Gives.ite (Gives.pure rfl) (Gives.next fun item => ?_)
    refine Gives.next fun _ => Gives.next fun _ => Gives.next fun _ => ?_
    exact Gives.ite (Gives.pure rfl) (Gives.next fun _ => Gives.ite (ih _) Gives.refuse)

/-- A value that is a table was read in braces, and names every key once. -/
theorem gives_value (fuel : Nat) : ∀ room,
    Gives (value room fuel) (fun v => v.keysOnce = true) ∧
      ∀ marks entries, Table.keysOnce entries = true →
        Gives (inlineTable room fuel marks entries) (fun v => v.keysOnce = true) := by
  induction fuel with
  | zero => exact fun room => ⟨Gives.refuse, fun _ _ _ => Gives.refuse⟩
  | succ fuel ih =>
    refine fun room => ⟨?_, fun marks entries hentries => ?_⟩
    · rw [value]
      refine Gives.next fun next? => ?_
      split
      next => exact Gives.next fun _ => Gives.pure rfl
      next => exact Gives.next fun _ => Gives.pure rfl
      next => exact Gives.next fun _ => Gives.next fun room => gives_array room fuel []
      next =>
        refine Gives.next fun _ => Gives.next fun room => Gives.next fun _ => Gives.next fun _ => ?_
        exact Gives.ite (Gives.pure rfl) ((ih room).2 {} [] rfl)
      next =>
        refine Gives.next fun _ => Gives.ite (Gives.pure rfl) ?_
        refine Gives.next fun _ => Gives.ite (Gives.pure rfl) ?_
        refine Gives.next fun moment? => ?_
        split
        next => exact Gives.pure rfl
        next =>
          refine Gives.next fun numeral? => ?_
          split
          next => exact Gives.pure rfl
          next => exact Gives.pure rfl
          next => exact Gives.refuse
    · rw [inlineTable]
      refine Gives.next fun path => Gives.next fun _ => Gives.bind (ih room).1 fun item hitem => ?_
      refine Gives.unless_refuse ?_
      refine Gives.bind (gives_enter (keepsKeysOnce_putNew hitem) hentries _ _) fun t ht => ?_
      refine Gives.next fun _ => Gives.next fun _ => Gives.ite (Gives.pure ht) ?_
      exact Gives.next fun _ => Gives.unless_refuse (Gives.next fun _ => (ih room).2 _ _ ht)

/-! ### Statements -/

namespace Progress

variable {p : Progress}

theorem gives_entry (h : p.entries.keysOnce = true) :
    Gives p.entry fun p' => p'.entries.keysOnce = true := by
  rw [entry]
  refine Gives.next fun path => Gives.next fun _ => Gives.next fun cs => ?_
  refine Gives.bind (gives_value _ room).1 fun item hitem => ?_
  refine Gives.unless_refuse (Gives.unless_refuse ?_)
  exact Gives.bind (gives_enter (keepsKeysOnce_putNew hitem) h _ _) fun t ht => Gives.pure ht

theorem gives_tableHeader (h : p.entries.keysOnce = true) :
    Gives p.tableHeader fun p' => p'.entries.keysOnce = true := by
  rw [tableHeader]
  refine Gives.next fun _ => Gives.next fun path => Gives.unless_refuse ?_
  refine Gives.bind (gives_enter keepsKeysOnce_some h _ _) fun t ht => ?_
  exact Gives.next fun _ => Gives.unless_refuse (Gives.pure ht)

theorem gives_arrayHeader (h : p.entries.keysOnce = true) :
    Gives p.arrayHeader fun p' => p'.entries.keysOnce = true := by
  rw [arrayHeader]
  refine Gives.next fun _ => Gives.next fun path => Gives.unless_refuse ?_
  refine Gives.bind (gives_enter keepsKeysOnce_pushTable h _ _) fun t ht => ?_
  exact Gives.next fun _ => Gives.unless_refuse (Gives.pure ht)

theorem gives_statement (h : p.entries.keysOnce = true) :
    Gives p.statement fun p' => p'.entries.keysOnce = true := by
  rw [statement]
  refine Gives.next fun next? => ?_
  split
  next =>
    refine Gives.ite (gives_entry h) (Gives.ite ?_ (Gives.ite (Gives.pure h) Gives.refuse))
    refine Gives.next fun _ => Gives.ite (gives_arrayHeader h) (Gives.next fun _ => ?_)
    exact gives_tableHeader h
  next => exact Gives.pure h

theorem gives_lines (fuel : Nat) (h : p.entries.keysOnce = true) :
    Gives (lines fuel p) fun p' => p'.entries.keysOnce = true := by
  induction fuel generalizing p with
  | zero => exact Gives.pure h
  | succ fuel ih =>
    rw [lines]
    refine Gives.next fun _ => Gives.bind (gives_statement h) fun p' hp' => ?_
    refine Gives.next fun _ => Gives.next fun _ => Gives.next fun cs => ?_
    split
    next => exact Gives.pure hp'
    next => exact Gives.next fun _ => ih hp'
    next => exact Gives.refuse

end Progress

/-- **What is read from a document** is a table that names every key once, and so do the tables in
it. -/
theorem keysOnce_of_read {document : String} {t : Table} (h : read document = .ok t) :
    t.keysOnce = true := by
  unfold read at h
  dsimp only at h
  cases hlines : (Progress.lines ((normalized document.toList).length + 1) {}).run
      (normalized document.toList) with
  | error fault =>
    rw [hlines] at h
    cases h
  | ok read =>
    rw [hlines] at h
    cases h
    exact Progress.gives_lines _ rfl _ read.1 read.2 hlines

end Toml

/-! ### Files -/

theorem StoredFile.keysOnce_of_read {file : StoredFile} {name : String} {t : Table}
    (h : file.read name = .ok t) : t.keysOnce = true := by
  unfold StoredFile.read at h
  split at h
  next => cases h; rfl
  next => cases h; rfl
  next =>
    split at h
    next => cases h
    next document _ =>
      cases hread : Toml.read document with
      | error fault => rw [hread] at h; cases h
      | ok t =>
        rw [hread] at h
        cases h
        exact Toml.keysOnce_of_read hread

namespace SettingsFiles

variable {files : SettingsFiles} {document : Table}

/-- **What is loaded from two files** is the table that holds along every path what the two say it
does, with an empty table for the provider if neither says anything about it. -/
theorem load_isMergeOf (h : files.load = .ok document) :
    ∃ shared project merged, files.shared.read sharedName = .ok shared ∧
      files.project.read projectName = .ok project ∧ Table.IsMergeOf shared project merged ∧
      (∀ other, Table.IsMergeOf shared project other → other = merged) ∧
      merged.keysOnce = true ∧ document = merged.addNew "provider" (.table []) := by
  unfold load at h
  obtain ⟨shared, hshared, h⟩ := Error.bind_eq_ok.mp h
  obtain ⟨project, hproject, h⟩ := Error.bind_eq_ok.mp h
  cases h
  have hlower := StoredFile.keysOnce_of_read hshared
  have hupper := StoredFile.keysOnce_of_read hproject
  exact ⟨shared, project, shared.merge project, hshared, hproject, Table.isMergeOf_merge hupper,
    fun _ hother => hother.eq_merge hlower hupper, Table.keysOnce_merge hlower hupper, rfl⟩

end SettingsFiles

end ComputeNodes
