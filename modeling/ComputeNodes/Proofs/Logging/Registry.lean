/-
Which sinks are attached.

What uses do to sinks is a row of changes (`Log.changes`): a sink is added under the number that the
addition gives, the sink of a number is removed, or all are.  The sinks that are attached after any
uses are those that were added and that no later change removed, in the order of the additions.

Removals look a number up in the registry and then search the handlers for it, so all of this rests
on the registry holding what is attached (`Sinks.IsSound`).  Each part of a use keeps it so, and
leads from the sinks before it to the ones behind it (`Sinks.Leads`); what leads is put together one
after the other.  A replacement of all sinks is one use and up to three changes, which is why the
induction is on the parts of uses.

Handlers of others stand in the same row as the sinks and are never looked at.
-/
import ComputeNodes.Proofs.Logging.Use

namespace ComputeNodes.Logging

/-! ### Sinks -/

/-- The name of a handler that someone else attached. -/
def Handler.foreign? : Handler → Option String
  | .own .. => none
  | .foreign name => some name

namespace Sinks

variable {s : Sinks}

/-- The handlers of others that are attached. -/
def others (s : Sinks) : List String := s.attached.filterMap Handler.foreign?

/-- Whether the registry holds the sinks that are attached. -/
def IsSound (s : Sinks) : Prop := s.registry = s.own

theorem own_detach (handlers : List Handler) (ids : List Nat) :
    (detach handlers ids).filterMap Handler.own?
      = (handlers.filterMap Handler.own?).filter fun entry => !ids.contains entry.1 := by
  rw [detach, List.filterMap_filter, List.filter_filterMap]
  congr 1
  funext handler
  cases handler with
  | own id sink => rfl
  | foreign name => rfl

theorem others_detach (handlers : List Handler) (ids : List Nat) :
    (detach handlers ids).filterMap Handler.foreign? = handlers.filterMap Handler.foreign? := by
  rw [detach, List.filterMap_filter]
  congr 1
  funext handler
  cases handler with
  | own id sink => exact ite_self none
  | foreign name => rfl

theorem own_add (s : Sinks) (target : Target) (threshold : Nat) :
    (s.add target threshold).2.own = s.own ++ [(s.lastId + 1, ⟨target, threshold⟩)] := by
  simp [add, own, Handler.own?]

theorem others_add (s : Sinks) (target : Target) (threshold : Nat) :
    (s.add target threshold).2.others = s.others := by
  simp [add, others, Handler.foreign?]

theorem IsSound.add (h : s.IsSound) (target : Target) (threshold : Nat) :
    (s.add target threshold).2.IsSound := by
  rw [IsSound, own_add, ← h]
  rfl

theorem IsSound.mem_ids (h : s.IsSound) : ∀ entry ∈ s.own, entry.1 ∈ s.registry.map Prod.fst := by
  rw [h]
  exact fun entry hentry => List.mem_map_of_mem hentry

/-- Where the sinks of all numbers are detached, the handlers of others are left. -/
theorem detach_all {handlers : List Handler} {ids : List Nat}
    (h : ∀ entry ∈ handlers.filterMap Handler.own?, entry.1 ∈ ids) :
    detach handlers ids = (handlers.filterMap Handler.foreign?).map .foreign := by
  induction handlers with
  | nil => rfl
  | cons handler handlers ih =>
    rw [detach] at ih ⊢
    cases handler with
    | foreign name =>
      rw [List.filter_cons_of_pos rfl, ih h]
      rfl
    | own id sink =>
      change ∀ entry ∈ (id, sink) :: handlers.filterMap Handler.own?, entry.1 ∈ ids at h
      obtain ⟨hid, hlater⟩ := List.forall_mem_cons.mp h
      rw [List.filter_cons_of_neg (by simpa using hid), ih hlater]
      rfl

/-- Behind the removal of all sinks there is none. -/
theorem own_removeAll (h : s.IsSound) : s.removeAll.own = [] := by
  rw [own, Sinks.removeAll, detach_all h.mem_ids]
  simp [Handler.own?]

/-- What is attached behind a replacement: the handlers of others, the sink on the console, and then
the one in a file. -/
theorem attached_replaced (h : s.IsSound) (threshold : Nat) (path : Option String) :
    (s.replaced threshold path).attached = s.others.map .foreign
      ++ (s.replacements threshold path).map fun (id, sink) => .own id sink := by
  rw [replaced, detach_all h.mem_ids]
  rfl

theorem own_replaced (h : s.IsSound) (threshold : Nat) (path : Option String) :
    (s.replaced threshold path).own = s.replacements threshold path := by
  rw [own, attached_replaced h]
  simp [Handler.own?, Function.comp_def]

theorem others_removeAll (s : Sinks) : s.removeAll.others = s.others :=
  others_detach _ _

theorem IsSound.removeAll (h : s.IsSound) : s.removeAll.IsSound :=
  (own_removeAll h).symm

/-- Where no sink has a number, all sinks have another one. -/
theorem filter_ne_of_unknown {entries : List (Nat × Sink)} {id : Nat}
    (hunknown : id ∉ entries.map Prod.fst) :
    (entries.filter fun entry => entry.1 != id) = entries := by
  refine List.filter_eq_self.mpr fun entry hentry => ?_
  have hother : entry.1 ≠ id := fun hid => hunknown (hid ▸ List.mem_map_of_mem hentry)
  simpa using hother

/-- A number that no sink has removes nothing. -/
theorem remove_unknown (h : s.IsSound) {id : Nat} (hunknown : id ∉ s.own.map Prod.fst) :
    s.remove id = s := by
  rw [remove, h, if_neg hunknown]

theorem own_remove (h : s.IsSound) (id : Nat) :
    (s.remove id).own = s.own.filter fun entry => entry.1 != id := by
  by_cases hknown : id ∈ s.own.map Prod.fst
  · rw [remove, h, if_pos hknown]
    show (detach s.attached [id]).filterMap Handler.own? = _
    rw [own_detach]
    refine List.filter_congr fun entry _ => ?_
    by_cases hid : entry.1 = id <;> simp [hid]
  · rw [remove_unknown h hknown, filter_ne_of_unknown hknown]

theorem others_remove (s : Sinks) (id : Nat) : (s.remove id).others = s.others := by
  unfold remove
  split
  · exact others_detach _ _
  · rfl

theorem IsSound.remove (h : s.IsSound) (id : Nat) : (s.remove id).IsSound := by
  rw [IsSound, own_remove h, ← h]
  unfold Sinks.remove
  split
  next => rfl
  next hunknown => exact (filter_ne_of_unknown hunknown).symm

theorem own_attach (s : Sinks) (name : String) : (s.attach name).own = s.own := by
  unfold attach
  split
  · rfl
  · simp [own, Handler.own?]

theorem others_attach (s : Sinks) (name : String) : s.others <+: (s.attach name).others := by
  unfold attach
  split
  · exact List.prefix_refl _
  · simp [others]

theorem IsSound.attach (h : s.IsSound) (name : String) : (s.attach name).IsSound := by
  rw [IsSound, own_attach, ← h]
  unfold Sinks.attach
  split <;> rfl

end Sinks

/-! ### Changes -/

/-- What a use does to the sinks. -/
inductive Change where
  | added (id : Nat) (sink : Sink)
  | removed (id : Nat)
  | removedAll
  deriving DecidableEq, Repr

namespace Change

/-- Whether a change removes the sink of a number. -/
def removes : Change → Nat → Bool
  | .added .., _ => false
  | .removed id, other => other == id
  | .removedAll, _ => true

/-- The sink that was added, with its number. -/
def added? : Change → Option (Nat × Sink)
  | .added id sink => some (id, sink)
  | _ => none

/-- The sinks that none of the changes removes. -/
def survivors (changes : List Change) (sinks : List (Nat × Sink)) : List (Nat × Sink) :=
  sinks.filter fun entry => !changes.any (·.removes entry.1)

/-- The sinks that are added and removed by no later change, in the order in which they are
added. -/
def remaining : List Change → List (Nat × Sink)
  | [] => []
  | change :: later => survivors later change.added?.toList ++ remaining later

/-- The numbers of the sinks that are added. -/
def numbers (changes : List Change) : List Nat := (changes.filterMap added?).map Prod.fst

@[simp] theorem survivors_nil (sinks : List (Nat × Sink)) : survivors [] sinks = sinks := by
  simp [survivors]

theorem survivors_append (changes later : List Change) (sinks : List (Nat × Sink)) :
    survivors (changes ++ later) sinks = survivors later (survivors changes sinks) := by
  simp [survivors, List.filter_filter, Bool.and_comm]

theorem remaining_append (changes later : List Change) :
    remaining (changes ++ later) = survivors later (remaining changes) ++ remaining later := by
  induction changes with
  | nil => simp [remaining, survivors]
  | cons change changes ih =>
    rw [List.cons_append, remaining, ih, survivors_append, remaining]
    simp [survivors]

end Change

/-- The target of a sink, once it is open. -/
def Target.opened : Target → Target
  | .console stream => .console stream
  | .file path => .file (shortestPath path)

/-- The change that a part of a use makes: what is added has the number that the addition gives. -/
def Use.change? (log : Log) : Use → Option Change
  | .add target level =>
    ((Work.add target (.text level)).perform log).1.toOption.map fun id =>
      .added id ⟨target.opened, Level.threshold level⟩
  | .remove .null => some .removedAll
  | .remove number => ((Work.sinkNumber? number).toOption.bind id).map .removed
  | _ => none

namespace Log

/-- The changes that parts of uses make, one after the other. -/
def partChanges (log : Log) : List Use → List Change
  | [] => []
  | part :: later => (part.change? log).toList ++ (log.after part).partChanges later

/-- The changes that uses make, one after the other. -/
def changes (log : Log) (uses : List Use) : List Change := log.partChanges (uses.flatMap Use.parts)

end Log

/-- The parts of a use are made of nothing else. -/
theorem Use.parts_of_mem_parts {use part : Use} (h : part ∈ use.parts) : part.parts = [part] := by
  cases use with
  | configure level path =>
    simp only [parts, List.mem_append, List.mem_cons, List.not_mem_nil, or_false,
      Option.mem_toList, Option.map_eq_some_iff] at h
    rcases h with (rfl | rfl) | ⟨path, -, rfl⟩ <;> rfl
  | add | remove | attach | enable | disable | log =>
    obtain rfl := List.mem_singleton.mp h
    rfl

/-! ### From one step to all -/

/-- Whether changes lead from sinks to others. -/
structure Sinks.Leads (s : Sinks) (changes : List Change) (later : Sinks) : Prop where
  isSound : later.IsSound
  /-- Handlers of others stay. -/
  others : s.others <+: later.others
  lastId : s.lastId ≤ later.lastId
  /-- Numbers are given in order and never again. -/
  numbers : (Change.numbers changes).Pairwise (· < ·)
  new : ∀ id ∈ Change.numbers changes, s.lastId < id ∧ id ≤ later.lastId
  own : later.own = Change.survivors changes s.own ++ Change.remaining changes

namespace Sinks.Leads

variable {s later last : Sinks} {changes more : List Change}

theorem refl (h : s.IsSound) : s.Leads [] s where
  isSound := h
  others := List.prefix_refl _
  lastId := Nat.le_refl _
  numbers := List.Pairwise.nil
  new := by simp [Change.numbers]
  own := by simp [Change.remaining]

theorem trans (h : s.Leads changes later) (hmore : later.Leads more last) :
    s.Leads (changes ++ more) last where
  isSound := hmore.isSound
  others := h.others.trans hmore.others
  lastId := Nat.le_trans h.lastId hmore.lastId
  numbers := by
    rw [Change.numbers, List.filterMap_append, List.map_append, List.pairwise_append]
    refine ⟨h.numbers, hmore.numbers, fun id hid other hother => ?_⟩
    exact Nat.lt_of_le_of_lt (h.new id hid).2 (hmore.new other hother).1
  new := by
    intro id hid
    rw [Change.numbers, List.filterMap_append, List.map_append, List.mem_append] at hid
    rcases hid with hfirst | hsecond
    · exact ⟨(h.new id hfirst).1, Nat.le_trans (h.new id hfirst).2 hmore.lastId⟩
    · exact ⟨Nat.lt_of_le_of_lt h.lastId (hmore.new id hsecond).1, (hmore.new id hsecond).2⟩
  own := by
    rw [hmore.own, h.own, Change.survivors_append, Change.remaining_append]
    simp [Change.survivors]

theorem add (h : s.IsSound) (target : Target) (threshold : Nat) :
    s.Leads [.added (s.lastId + 1) ⟨target, threshold⟩] (s.add target threshold).2 where
  isSound := h.add target threshold
  others := by simp [others_add]
  lastId := Nat.le_succ _
  numbers := List.pairwise_singleton _ _
  new := by simp [Change.numbers, Change.added?, Sinks.add]
  own := by
    have hall : Change.survivors [.added (s.lastId + 1) ⟨target, threshold⟩] s.own = s.own :=
      List.filter_eq_self.mpr fun _ _ => rfl
    rw [hall]
    exact own_add s target threshold

theorem remove (h : s.IsSound) (id : Nat) : s.Leads [.removed id] (s.remove id) where
  isSound := h.remove id
  others := by simp [others_remove]
  lastId := by unfold Sinks.remove; split <;> exact Nat.le_refl _
  numbers := List.Pairwise.nil
  new := by simp [Change.numbers, Change.added?]
  own := by
    simp [own_remove h, Change.survivors, Change.removes, Change.remaining, Change.added?]
    rfl

theorem removeAll (h : s.IsSound) : s.Leads [.removedAll] s.removeAll where
  isSound := h.removeAll
  others := by simp [others_removeAll]
  lastId := Nat.le_refl _
  numbers := List.Pairwise.nil
  new := by simp [Change.numbers, Change.added?]
  own := by
    simp [own_removeAll h, Change.survivors, Change.removes, Change.remaining, Change.added?]

theorem attach (h : s.IsSound) (name : String) : s.Leads [] (s.attach name) where
  isSound := h.attach name
  others := others_attach s name
  lastId := by unfold Sinks.attach; split <;> exact Nat.le_refl _
  numbers := List.Pairwise.nil
  new := by simp [Change.numbers]
  own := by simp [own_attach, Change.remaining]

end Sinks.Leads

/-- **One part of a use changes the sinks as it says.** -/
theorem Log.after_leads {log : Log} (h : log.sinks.IsSound) {part : Use}
    (hpart : part.parts = [part]) :
    log.sinks.Leads (part.change? log).toList (log.after part).sinks := by
  cases part with
  | add target level =>
    rw [Use.change?, after_add]
    cases target with
    | console stream =>
      rw [perform_addConsole]
      exact .add h _ _
    | file path =>
      by_cases hbroken : '\x00' ∈ path.toList
      · rw [perform_addFile_broken log hbroken]
        exact .refl h
      · rw [perform_addFile log hbroken]
        exact .add h _ _
  | remove number =>
    by_cases hnull : number = .null
    · subst hnull
      exact .removeAll h
    · rw [after_remove log hnull, Use.change?]
      · cases Work.sinkNumber? number with
        | error error => exact .refl h
        | ok id? =>
          cases id? with
          | none => exact .refl h
          | some id => exact .remove h id
      · exact hnull
  | configure level path => simp [Use.parts] at hpart
  | attach name =>
    rw [after_attach]
    exact .attach h name
  | enable name =>
    rw [after_enable]
    cases loggerNamed name <;> exact .refl h
  | disable name =>
    rw [after_disable]
    cases loggerNamed name <;> exact .refl h
  | log caller call =>
    rw [after_log]
    exact .refl h

/-- **Uses change the sinks as they say.** -/
theorem Log.through_leads {log : Log} (h : log.sinks.IsSound) (uses : List Use) :
    log.sinks.Leads (log.changes uses) (log.through uses).sinks := by
  have hparts (l : List Use) (hl : ∀ part ∈ l, part.parts = [part]) {log : Log}
      (h : log.sinks.IsSound) : log.sinks.Leads (log.partChanges l) (log.through l).sinks := by
    induction l generalizing log with
    | nil => exact .refl h
    | cons part l ih =>
      have hfirst := after_leads h (hl part List.mem_cons_self)
      exact hfirst.trans (ih (fun other hother => hl other (List.mem_cons_of_mem _ hother))
        hfirst.isSound)
  rw [← through_flatMap_parts]
  refine hparts _ (fun part hpart => ?_) h
  obtain ⟨use, -, hmem⟩ := List.mem_flatMap.mp hpart
  exact Use.parts_of_mem_parts hmem

/-! ### Whole runs -/

/-- A log before any sink was added, with handlers of others. -/
def Log.withOthers (log : Log) (others : List String) : Log :=
  log.withSinks { attached := others.map .foreign }

theorem Log.withOthers_isSound (log : Log) (others : List String) :
    (log.withOthers others).sinks.IsSound := by
  simp [withOthers, withSinks, Sinks.IsSound, Sinks.own, Handler.own?, Function.comp_def]

/-- What there is behind a replacement of all sinks, if the file can be opened. -/
theorem Log.ownSinks_configure {log : Log} (h : log.sinks.IsSound) (level : String)
    {path : Option String} (hopens : ∀ p ∈ path, '\x00' ∉ p.toList) :
    (log.after (.configure level path)).ownSinks
      = ⟨.console .standardError, Level.threshold level⟩ ::
        ((path.bind nonEmpty?).map fun path =>
          ⟨.file (shortestPath path), Level.threshold level⟩).toList := by
  have hafter : log.after (.configure level path)
      = ((Work.configure (.text level) path).perform log).2 :=
    Work.perform_return _ (fun _ => none) log
  rw [hafter, Work.perform_configure, ownSinks]
  cases hpath : path.bind nonEmpty? with
  | none =>
    show ((log.sinks.replaced _ none).own).map Prod.snd = _
    rw [Sinks.own_replaced h]
    rfl
  | some p =>
    have hwhole : '\x00' ∉ p.toList := by
      obtain ⟨given, hgiven, hp⟩ := Option.bind_eq_some_iff.mp hpath
      unfold nonEmpty? at hp
      split at hp
      · cases hp
      · cases hp
        exact hopens p hgiven
    dsimp only
    rw [if_neg hwhole]
    show ((log.sinks.replaced _ (some _)).own).map Prod.snd = _
    rw [Sinks.own_replaced h]
    rfl

/-- Whether the sinks are as they have to be behind uses of a log. -/
structure Log.KeepsSinks (start : Log) (uses : List Use) : Prop where
  /-- Numbers of sinks increase from one addition to the next, so none is given again. -/
  numbers : (Change.numbers (start.changes uses)).Pairwise (· < ·)
  /-- The sinks that are attached are those added and not removed since, in their order. -/
  own : (start.through uses).sinks.own = Change.remaining (start.changes uses)
  /-- The registry holds the same ones. -/
  registry : (start.through uses).sinks.registry = (start.through uses).sinks.own
  /-- A number that no sink has, or has any more, removes nothing. -/
  idle {number : Value} (given : number ≠ .null)
    (unknown : ∀ id, Work.sinkNumber? number = .ok (some id) →
      id ∉ (start.through uses).sinks.own.map Prod.fst) :
    (start.through uses).after (.remove number) = start.through uses
  /-- A handler of someone else is never detached. -/
  others {front back : List Use} (cut : uses = front ++ back) :
    (start.through front).sinks.others <+: (start.through uses).sinks.others
  /-- When sinks are replaced, there is one on the console, and one in a file if there is a path. -/
  configured (level : String) (path : Option String) (opens : ∀ p ∈ path, '\x00' ∉ p.toList) :
    ((start.through uses).after (.configure level path)).ownSinks
      = ⟨.console .standardError, Level.threshold level⟩ ::
        ((path.bind nonEmpty?).map fun path =>
          ⟨.file (shortestPath path), Level.threshold level⟩).toList
  /-- The name of a level stands for it. -/
  named (level : Level) : Level.threshold level.name = level.number
  /-- A name of no level stands for debug. -/
  unnamed {level : String} (unknown : Text.upper level ∉ Level.named.map Prod.fst) :
    Level.threshold level = Level.debug.number
  /-- Records go to the sinks whose level is not above their own, one after the other, up to a
  handler that raises an error over them, and the call ends in that error. -/
  delivers : (start.through uses).Delivers

/-- **Whatever is done with a log keeps its sinks in order**, and records go where they should. -/
theorem Log.keepsSinks (log : Log) (others : List String) (uses : List Use) :
    (log.withOthers others).KeepsSinks uses where
  numbers := (through_leads (log.withOthers_isSound others) uses).numbers
  own := by
    have hnone : (log.withOthers others).sinks.own = [] := (log.withOthers_isSound others).symm
    rw [(through_leads (log.withOthers_isSound others) uses).own, hnone]
    rfl
  registry := (through_leads (log.withOthers_isSound others) uses).isSound
  idle {number} hgiven hunknown := by
    rw [after_remove _ hgiven]
    split
    next id hid =>
      rw [Sinks.remove_unknown (through_leads (log.withOthers_isSound others) uses).isSound
        (hunknown id hid)]
      rfl
    next => rfl
  others {front back} hcut := by
    subst hcut
    rw [through_append]
    exact (through_leads (through_leads (log.withOthers_isSound others) front).isSound back).others
  configured level _ hopens :=
    ownSinks_configure (through_leads (log.withOthers_isSound others) uses).isSound level hopens
  named level := by cases level <;> decide
  unnamed {level} hunknown := by
    have hnone : Level.named.lookup (Text.upper level) = none := by
      rw [List.lookup_eq_none_iff]
      intro entry hentry
      have hother : Text.upper level ≠ entry.1 :=
        fun hname => hunknown (hname ▸ List.mem_map_of_mem hentry)
      simpa using hother
    rw [Level.threshold, hnone]
    rfl
  delivers := delivers _

/-! ### A sink that fails over a record -/

/-- A console, and a file behind it. -/
def consoleAndFile : Log :=
  Log.bare.through [.add (.console .supplied) "INFO", .add (.file "a") "INFO"]

theorem attached_consoleAndFile : consoleAndFile.sinks.attached
    = [.own 1 ⟨.console .supplied, 20⟩, .own 2 ⟨.file (shortestPath "a"), 20⟩] := by
  have hwhole : '\x00' ∉ "a".toList := by decide
  rw [consoleAndFile, Log.through_cons, Log.through_cons, Log.after_add, Log.after_add,
    Log.perform_addConsole, Log.perform_addFile _ hwhole]
  rfl

/-- A call with a bound field that a console takes for a function. -/
def glaringCall : LogCall where
  level := .info
  bound := [("highlighter", .int 5)]
  message := "x"
  arguments := ⟨[], []⟩

/-- The record of the call is for the console, which raises an error over it. -/
theorem delivered_glaringCall : ∃ record error,
    consoleAndFile.delivered emitter glaringCall = .ok (some record) ∧
      record.isFor ⟨.console .supplied, 20⟩ = true ∧
      (record.handing ⟨.console .supplied, 20⟩).result = .error error := by
  have hmade : (consoleAndFile.delivered emitter glaringCall).toOption.join.map (fun record =>
      (record.isFor ⟨.console .supplied, 20⟩,
        (record.handing ⟨.console .supplied, 20⟩).result.toOption)) = some (true, none) := by
    decide +kernel
  obtain ⟨record, hrecord, hends⟩ := Option.map_eq_some_iff.mp hmade
  obtain ⟨hfor, hnone⟩ := Prod.mk.inj hends
  cases hdelivered : consoleAndFile.delivered emitter glaringCall with
  | error error => simp [hdelivered, Except.toOption] at hrecord
  | ok record? =>
    obtain rfl : record? = some record := by simpa [hdelivered, Except.toOption] using hrecord
    cases hresult : (record.handing ⟨.console .supplied, 20⟩).result with
    | ok u => simp [hresult, Except.toOption] at hnone
    | error error => exact ⟨record, error, rfl, hfor, hresult⟩

/-- The record gets to the root, and the error of the console keeps it from the file, whose level is
not above its own. -/
theorem Log.handed_misses_file :
    (∃ record error, consoleAndFile.delivered emitter glaringCall = .ok (some record) ∧
        ((Work.log emitter glaringCall).perform consoleAndFile).1 = .error error ∧
        consoleAndFile.handed emitter glaringCall = [⟨.console .supplied, 20⟩]) ∧
      ¬ ∀ sink ∈ consoleAndFile.ownSinks, sink.threshold ≤ glaringCall.level.number →
        sink ∈ consoleAndFile.handed emitter glaringCall := by
  obtain ⟨record, error, hdelivered, hfor, hraises⟩ := delivered_glaringCall
  have hanswer : (consoleAndFile.answer record (.own 1 ⟨.console .supplied, 20⟩)).result
      = .error error := hraises
  have hhanded : consoleAndFile.handed emitter glaringCall = [⟨.console .supplied, 20⟩] := by
    rw [handed, hdelivered]
    simp [takers, attached_consoleAndFile, Handler.asked_cons_of_error hanswer, Handler.own?, hfor]
  have hresult : ((Work.log emitter glaringCall).perform consoleAndFile).1 = .error error := by
    rw [Work.perform_log, reportOf, hdelivered]
    dsimp only
    rw [delivery_of_attached _ _ (by simp [attached_consoleAndFile]), attached_consoleAndFile,
      Handler.inTurn, Report.andThen_of_error hanswer, hanswer]
  refine ⟨⟨record, error, hdelivered, hresult, hhanded⟩, fun hall => ?_⟩
  have hfile := hall ⟨.file (shortestPath "a"), 20⟩
    (by simp [ownSinks, Sinks.own, attached_consoleAndFile, Handler.own?]) (by decide)
  rw [hhanded] at hfile
  simp at hfile

end ComputeNodes.Logging
