/-
What disabling a logger silences.

A record is taken or not by the logger of the module that logs it, and nothing above that logger has
a say in it.  So a disabled logger silences the module of its own name, until it is enabled again
(`Log.silent_of_disabled`), and no other module: two logs that differ in one logger at most
(`Log.SameBut`) stay like that through all uses, and hand the records of every other logger to the
same sinks.  The modules below a disabled logger therefore log as if it were enabled.
-/
import ComputeNodes.Proofs.Logging.Use

namespace ComputeNodes.Logging

namespace Loggers

@[simp] theorem disabled_named (l : Loggers) (name : String) :
    (l.named name).disabled = l.disabled := by
  unfold named
  split <;> rfl

theorem disabled_takes (l : Loggers) (name : String) (level : Level) :
    (l.takes name level).2.disabled = l.disabled := by
  unfold takes
  dsimp only
  split
  · exact l.disabled_named name
  · split <;> exact l.disabled_named name

theorem takes_of_disabled {l : Loggers} {name : String} (h : name ∈ l.disabled) (level : Level) :
    (l.takes name level).1 = false := by
  simp [takes, h]

end Loggers

/-! ### Loggers that differ in one of them -/

namespace Loggers

variable {name logger : String} {a b c : Loggers}

/-- Whether loggers are the same but for the one of the given name. -/
structure SameBut (name : String) (a b : Loggers) : Prop where
  known : a.known = b.known
  disabled : ∀ other ≠ name, other ∈ a.disabled ↔ other ∈ b.disabled
  decided : ∀ other ≠ name, ∀ level,
    a.decided.lookup (other, level) = b.decided.lookup (other, level)

namespace SameBut

theorem refl (name : String) (a : Loggers) : SameBut name a a :=
  ⟨rfl, fun _ _ => Iff.rfl, fun _ _ _ => rfl⟩

theorem symm (h : SameBut name a b) : SameBut name b a :=
  ⟨h.known.symm, fun other hother => (h.disabled other hother).symm,
    fun other hother level => (h.decided other hother level).symm⟩

theorem trans (h : SameBut name a b) (hlater : SameBut name b c) : SameBut name a c :=
  ⟨h.known.trans hlater.known,
    fun other hother => (h.disabled other hother).trans (hlater.disabled other hother),
    fun other hother level =>
      (h.decided other hother level).trans (hlater.decided other hother level)⟩

/-- What is above a logger hangs on the loggers that exist alone. -/
theorem isBelowRoot (h : SameBut name a b) (logger : String) :
    a.isBelowRoot logger = b.isBelowRoot logger := by
  have hwithin (fuel : Nat) (logger : String) :
      a.isWithin fuel logger = b.isWithin fuel logger := by
    induction fuel generalizing logger with
    | zero => rfl
    | succ fuel ih =>
      have habove : a.above? logger = b.above? logger := by rw [above?, above?, h.known]
      rw [isWithin, isWithin, habove]
      cases b.above? logger with
      | none => rfl
      | some upper =>
        dsimp only
        rw [ih upper]
  exact hwithin _ _

theorem least (h : SameBut name a b) (logger : String) : a.least logger = b.least logger := by
  rw [Loggers.least, Loggers.least, h.isBelowRoot]

theorem named (h : SameBut name a b) (logger : String) :
    SameBut name (a.named logger) (b.named logger) := by
  unfold Loggers.named
  rw [h.known]
  split
  · exact h
  · exact ⟨rfl, h.disabled, h.decided⟩

theorem enable (h : SameBut name a b) (logger : String) :
    SameBut name (a.enable logger) (b.enable logger) where
  known := (h.named logger).known
  disabled other hother := by
    simp only [Loggers.enable, List.mem_filter, h.disabled other hother]
  decided := (h.named logger).decided

theorem disable (h : SameBut name a b) (logger : String) :
    SameBut name (a.disable logger) (b.disable logger) where
  known := (h.named logger).known
  disabled other hother := by
    simp only [Loggers.disable, List.mem_cons, h.disabled other hother]
  decided := (h.named logger).decided

/-- Enabled or disabled, a logger is the only one that differs. -/
theorem disable_enable (name : String) (a : Loggers) :
    SameBut name (a.disable name) (a.enable name) where
  known := rfl
  disabled other hother := by simp [Loggers.disable, Loggers.enable, hother]
  decided _ _ _ := rfl

theorem decided_cons (h : SameBut name a b) (logger : String) (level : Level) (answer : Bool) :
    SameBut name { a with decided := ((logger, level), answer) :: a.decided }
      { b with decided := ((logger, level), answer) :: b.decided } where
  known := h.known
  disabled := h.disabled
  decided other hother asked := by
    rw [List.lookup_cons, List.lookup_cons, h.decided other hother asked]

end SameBut

/-- A logger that is asked about a level is the only one that may differ. -/
theorem takes_sameBut_named (name : String) (level : Level) (a : Loggers) :
    SameBut name (a.takes name level).2 (a.named name) := by
  unfold takes
  dsimp only
  split
  · exact .refl name _
  · split
    · exact .refl name _
    · refine ⟨rfl, fun _ _ => Iff.rfl, fun other hother asked => ?_⟩
      rw [List.lookup_cons]
      have hkey : ((other, asked) == (name, level)) = false := by simp [hother]
      rw [hkey]

/-- Any other logger is asked alike. -/
theorem SameBut.takes_of_ne (h : SameBut name a b) (hother : logger ≠ name) (level : Level) :
    (a.takes logger level).1 = (b.takes logger level).1 ∧
      SameBut name (a.takes logger level).2 (b.takes logger level).2 := by
  have hnamed := h.named logger
  have hdisabled : (a.named logger).disabled.contains logger
      = (b.named logger).disabled.contains logger := by
    simpa using hnamed.disabled logger hother
  unfold takes
  dsimp only
  rw [hdisabled, hnamed.decided logger hother level, hnamed.least]
  split
  · exact ⟨rfl, hnamed⟩
  · split
    · exact ⟨rfl, hnamed⟩
    · exact ⟨rfl, hnamed.decided_cons logger level _⟩

theorem SameBut.takes (h : SameBut name a b) (logger : String) (level : Level) :
    SameBut name (a.takes logger level).2 (b.takes logger level).2 := by
  by_cases hlogger : logger = name
  · subst hlogger
    exact (takes_sameBut_named logger level a).trans
      ((h.named logger).trans (takes_sameBut_named logger level b).symm)
  · exact (h.takes_of_ne hlogger level).2

end Loggers

/-! ### Loggers and sinks change apart -/

/-- The loggers behind a use. -/
def Loggers.after (l : Loggers) : Use → Loggers
  | .enable name =>
    match loggerNamed name with
    | .ok logger => l.enable logger
    | .error _ => l
  | .disable name =>
    match loggerNamed name with
    | .ok logger => l.disable logger
    | .error _ => l
  | .log caller call =>
    match caller.logger with
    | .ok logger => (l.takes logger call.level).2
    | .error _ => l
  | .add .. | .remove .. | .configure .. | .attach .. => l

namespace Log

variable {name : String} {a b : Log}

theorem kept_after_add (log : Log) (target : Target) (level : String) :
    (log.after (.add target level)).loggers = log.loggers ∧
      (log.after (.add target level)).foreign = log.foreign := by
  rw [after_add]
  cases target with
  | console stream =>
    rw [perform_addConsole]
    exact ⟨rfl, rfl⟩
  | file path =>
    by_cases hbroken : '\x00' ∈ path.toList
    · rw [perform_addFile_broken log hbroken]
      exact ⟨rfl, rfl⟩
    · rw [perform_addFile log hbroken]
      exact ⟨rfl, rfl⟩

/-- What becomes of the loggers hangs on nothing else in a log, and what others do with records
stays the same. -/
theorem kept_after (log : Log) (use : Use) :
    (log.after use).loggers = log.loggers.after use ∧ (log.after use).foreign = log.foreign := by
  cases use with
  | add target level => exact kept_after_add log target level
  | remove number =>
    by_cases hnull : number = .null
    · subst hnull
      exact ⟨rfl, rfl⟩
    · rw [after_remove log hnull]
      split <;> exact ⟨rfl, rfl⟩
  | configure level path =>
    rw [← through_parts, Use.parts, through_append, through_cons, through_cons, after_removeAll]
    have hconsole := kept_after_add (log.withSinks log.sinks.removeAll) (.console .standardError)
      level
    cases path.bind nonEmpty? with
    | none => exact hconsole
    | some path =>
      have hfile := kept_after_add ((log.withSinks log.sinks.removeAll).after
        (.add (.console .standardError) level)) (.file path) level
      exact ⟨hfile.1.trans hconsole.1, hfile.2.trans hconsole.2⟩
  | attach name =>
    rw [after_attach]
    exact ⟨rfl, rfl⟩
  | enable name =>
    rw [after_enable, Loggers.after]
    cases loggerNamed name <;> exact ⟨rfl, rfl⟩
  | disable name =>
    rw [after_disable, Loggers.after]
    cases loggerNamed name <;> exact ⟨rfl, rfl⟩
  | log caller call =>
    rw [after_log]
    exact ⟨rfl, rfl⟩

theorem sinks_after_add (h : a.sinks = b.sinks) (target : Target) (level : String) :
    (a.after (.add target level)).sinks = (b.after (.add target level)).sinks := by
  rw [after_add, after_add]
  cases target with
  | console stream =>
    rw [perform_addConsole, perform_addConsole, h]
    rfl
  | file path =>
    by_cases hbroken : '\x00' ∈ path.toList
    · rw [perform_addFile_broken a hbroken, perform_addFile_broken b hbroken]
      exact h
    · rw [perform_addFile a hbroken, perform_addFile b hbroken, h]
      rfl

theorem sinks_after (h : a.sinks = b.sinks) (use : Use) :
    (a.after use).sinks = (b.after use).sinks := by
  cases use with
  | add target level => exact sinks_after_add h target level
  | remove number =>
    by_cases hnull : number = .null
    · subst hnull
      exact congrArg Sinks.removeAll h
    · rw [after_remove a hnull, after_remove b hnull]
      split
      next id _ => exact congrArg (Sinks.remove · id) h
      next => exact h
  | configure level path =>
    have hremoved : (a.withSinks a.sinks.removeAll).sinks = (b.withSinks b.sinks.removeAll).sinks :=
      congrArg Sinks.removeAll h
    rw [← through_parts, ← through_parts, Use.parts, through_append, through_append, through_cons,
      through_cons, through_cons, through_cons, after_removeAll, after_removeAll]
    cases path.bind nonEmpty? with
    | none => exact sinks_after_add hremoved _ _
    | some path => exact sinks_after_add (sinks_after_add hremoved _ _) _ _
  | attach name =>
    rw [after_attach, after_attach, h]
    rfl
  | enable name =>
    rw [after_enable, after_enable]
    cases loggerNamed name <;> exact h
  | disable name =>
    rw [after_disable, after_disable]
    cases loggerNamed name <;> exact h
  | log caller call =>
    rw [after_log, after_log]
    exact h

end Log

theorem Loggers.SameBut.after {name : String} {a b : Loggers} (h : SameBut name a b) (use : Use) :
    SameBut name (a.after use) (b.after use) := by
  cases use with
  | enable given =>
    rw [Loggers.after, Loggers.after]
    cases loggerNamed given with
    | error error => exact h
    | ok logger => exact h.enable logger
  | disable given =>
    rw [Loggers.after, Loggers.after]
    cases loggerNamed given with
    | error error => exact h
    | ok logger => exact h.disable logger
  | log caller call =>
    rw [Loggers.after, Loggers.after]
    cases caller.logger with
    | error error => exact h
    | ok logger => exact h.takes logger call.level
  | add | remove | configure | attach => exact h

/-! ### Logs that differ in one logger -/

namespace Log

variable {name : String} {a b : Log}

/-- Whether logs have the same handlers, and the same loggers but for the one of the given name. -/
structure SameBut (name : String) (a b : Log) : Prop where
  sinks : a.sinks = b.sinks
  foreign : a.foreign = b.foreign
  loggers : a.loggers.SameBut name b.loggers

/-- **Logs that differ in one logger go on like that.** -/
theorem SameBut.through (h : a.SameBut name b) (uses : List Use) :
    (a.through uses).SameBut name (b.through uses) := by
  induction uses generalizing a b with
  | nil => exact h
  | cons use uses ih =>
    refine ih ⟨sinks_after h.sinks use, ?_, ?_⟩
    · rw [(kept_after a use).2, (kept_after b use).2, h.foreign]
    · rw [(kept_after a use).1, (kept_after b use).1]
      exact h.loggers.after use

/-- Every other logger has its records handed to the same sinks. -/
theorem SameBut.handed (h : a.SameBut name b) {caller : Caller} (hother : caller.logger ≠ .ok name)
    (call : LogCall) : a.handed caller call = b.handed caller call := by
  have hdelivered : a.delivered caller call = b.delivered caller call := by
    unfold delivered
    cases hlogger : caller.logger with
    | error error => rfl
    | ok logger =>
      have hne : logger ≠ name := fun heq => hother (heq ▸ hlogger)
      obtain ⟨hanswer, hbehind⟩ := h.loggers.takes_of_ne hne call.level
      dsimp only
      rw [hanswer, hbehind.isBelowRoot]
  have hanswer (r : Record) : a.answer r = b.answer r := by
    funext handler
    cases handler with
    | own id sink => rfl
    | foreign name => rw [answer, answer, h.foreign]
  have htakers (r : Record) : a.takers r = b.takers r := by
    rw [takers, takers, h.sinks, hanswer]
  simp only [Log.handed, hdelivered, htakers]

end Log

/-! ### Modules -/

/-- The logger that the name of a module stands for. -/
def loggerOf (name : String) : String := if name = "" then outermostName else name

theorem loggerNamed_text (name : String) : loggerNamed (.text name) = .ok (loggerOf name) := by
  unfold loggerNamed loggerOf
  by_cases hname : name = "" <;> simp [Value.isNothing, hname]

namespace Caller

variable {caller : Caller} {name : String}

/-- Whether a caller is in the module of the given name. -/
def IsOf (caller : Caller) (name : String) : Prop :=
  caller.module.getD (.text rootName) = .text name

/-- Whether a caller is in a module below the one of the given name. -/
def IsBelow (caller : Caller) (name : String) : Prop :=
  ∃ more, more ≠ "" ∧ caller.IsOf (name ++ "." ++ more)

theorem IsOf.logger (h : caller.IsOf name) : caller.logger = .ok (loggerOf name) := by
  rw [← loggerNamed_text]
  unfold Caller.logger
  unfold IsOf at h
  cases hmodule : caller.module with
  | none =>
    rw [hmodule] at h
    rw [← show Value.text rootName = .text name from h]
    rfl
  | some given =>
    rw [hmodule] at h
    rw [← show given = .text name from h]

/-- A module below another one does not log under the other's name. -/
theorem IsBelow.logger_ne (h : caller.IsBelow name) : caller.logger ≠ .ok (loggerOf name) := by
  obtain ⟨more, -, hof⟩ := h
  have hwhole : name ++ "." ++ more ≠ "" := by
    intro hempty
    simpa using congrArg String.length hempty
  rw [hof.logger, loggerOf, if_neg hwhole, loggerOf]
  split
  next hname =>
    subst hname
    intro hsame
    have hlists := congrArg String.toList (Except.ok.inj hsame)
    simp [outermostName] at hlists
  next =>
    intro hsame
    have hlengths := congrArg String.length (Except.ok.inj hsame)
    rw [String.length_append, String.length_append] at hlengths
    have hdot : ".".length = 1 := rfl
    omega

end Caller

/-- Whether a use enables the logger of a module. -/
def Use.enables (name : String) : Use → Bool
  | .enable given =>
    match loggerNamed given with
    | .ok logger => logger == loggerOf name
    | .error _ => false
  | _ => false

theorem Loggers.mem_disabled_after {l : Loggers} {name : String}
    (h : loggerOf name ∈ l.disabled) {use : Use} (huse : use.enables name = false) :
    loggerOf name ∈ (l.after use).disabled := by
  cases use with
  | enable given =>
    rw [after]
    rw [Use.enables] at huse
    cases hgiven : loggerNamed given with
    | error error => exact h
    | ok logger =>
      have hother : logger ≠ loggerOf name := by simpa [hgiven] using huse
      simpa [enable, h] using hother.symm
  | disable given =>
    rw [after]
    cases loggerNamed given with
    | error error => exact h
    | ok logger => exact List.mem_cons_of_mem _ h
  | log caller call =>
    rw [after]
    cases caller.logger with
    | error error => exact h
    | ok logger =>
      show _ ∈ (l.takes logger call.level).2.disabled
      rwa [l.disabled_takes]
  | add | remove | configure | attach => exact h

/-! ### Silence -/

namespace Log

/-- Whether none of the records that callers of a kind log in the course of uses gets to a sink. -/
def Silent (log : Log) (kind : Caller → Prop) (uses : List Use) : Prop :=
  ∀ {front back : List Use} {caller : Caller} {call : LogCall},
    uses = front ++ .log caller call :: back → kind caller →
      (log.through front).handed caller call = []

variable {log : Log} {name : String}

theorem handed_of_disabled {caller : Caller} {logger : String}
    (hcaller : caller.logger = .ok logger) (h : logger ∈ log.loggers.disabled) (call : LogCall) :
    log.handed caller call = [] := by
  have hnot : (log.loggers.takes logger call.level).1 = false :=
    Loggers.takes_of_disabled h call.level
  have hdelivered : log.delivered caller call = .ok none := by
    rw [delivered, hcaller]
    dsimp only
    rw [hnot]
    rfl
  rw [handed, hdelivered]

/-- **The module of a disabled logger is silent** until the logger is enabled. -/
theorem silent_of_disabled (h : loggerOf name ∈ log.loggers.disabled) {uses : List Use}
    (huses : ∀ use ∈ uses, use.enables name = false) : log.Silent (·.IsOf name) uses := by
  intro front back caller call hcut hof
  refine handed_of_disabled hof.logger ?_ call
  have hfront : ∀ use ∈ front, use.enables name = false :=
    fun use hmem => huses use (hcut ▸ List.mem_append_left _ hmem)
  clear hcut huses
  -- what keeps the module silent is that the logger stays disabled
  induction front generalizing log with
  | nil => exact h
  | cons use front ih =>
    refine ih ?_ fun other hother => hfront other (List.mem_cons_of_mem _ hother)
    rw [(kept_after _ _).1]
    exact Loggers.mem_disabled_after h (hfront use List.mem_cons_self)

/-- The modules below a logger are as silent when it is disabled as when it is enabled. -/
theorem silent_below_iff (log : Log) (name : String) (uses : List Use) :
    (log.after (.disable (.text name))).Silent (·.IsBelow name) uses
      ↔ (log.after (.enable (.text name))).Silent (·.IsBelow name) uses := by
  have hsame : (log.after (.disable (.text name))).SameBut (loggerOf name)
      (log.after (.enable (.text name))) := by
    rw [after_disable, after_enable, loggerNamed_text]
    exact ⟨rfl, rfl, .disable_enable (loggerOf name) log.loggers⟩
  constructor
  · intro h front back caller call hcut hbelow
    rw [← (hsame.through front).handed hbelow.logger_ne]
    exact h hcut hbelow
  · intro h front back caller call hcut hbelow
    rw [(hsame.through front).handed hbelow.logger_ne]
    exact h hcut hbelow

/-- **What a disabled logger silences until it is enabled**: the module of its name, and the modules
below only where they would be silent without that. -/
theorem silent_until_enabled (log : Log) (name : String) (uses : List Use) :
    let disabled := log.after (.disable (.text name))
    let stretch := uses.takeWhile (!·.enables name)
    disabled.Silent (·.IsOf name) stretch ∧
      (disabled.Silent (fun caller => caller.IsOf name ∨ caller.IsBelow name) stretch
        ↔ (log.after (.enable (.text name))).Silent (·.IsBelow name) stretch) := by
  intro disabled stretch
  have hdisabled : loggerOf name ∈ disabled.loggers.disabled := by
    rw [show disabled.loggers = log.loggers.after (.disable (.text name)) from (kept_after _ _).1,
      Loggers.after, loggerNamed_text]
    exact List.mem_cons_self
  have hstretch : ∀ use ∈ stretch, use.enables name = false :=
    fun use hmem => by simpa using List.all_eq_true.mp List.all_takeWhile use hmem
  have hof : disabled.Silent (·.IsOf name) stretch := silent_of_disabled hdisabled hstretch
  refine ⟨hof, Iff.trans ⟨fun h => ?_, fun h => ?_⟩ (silent_below_iff log name stretch)⟩
  · exact fun hcut hbelow => h hcut (.inr hbelow)
  · intro front back caller call hcut hkind
    cases hkind with
    | inl hcaller => exact hof hcut hcaller
    | inr hbelow => exact h hcut hbelow

end Log

/-! ### A record from below -/

/-- A call with nothing but a message. -/
def greeting : LogCall where
  level := .info
  message := "hello"
  arguments := ⟨[], []⟩

/-- With a console attached and the root of this library's loggers disabled, a record of a module
of this library is printed. -/
theorem Log.disabled_root_handed :
    let log := Log.bare.after (.add (.console .supplied) "INFO")
    let disabled := log.after (.disable (.text rootName))
    disabled.handed emitter greeting = [⟨.console .supplied, 20⟩] ∧
      ¬ disabled.Silent (fun caller => caller.IsOf rootName ∨ caller.IsBelow rootName)
        [.log emitter greeting] := by
  intro log disabled
  have hhanded : disabled.handed emitter greeting = [⟨.console .supplied, 20⟩] := by
    decide +kernel
  refine ⟨hhanded, fun hsilent => ?_⟩
  have hbelow : emitter.IsBelow rootName := ⟨"app", by decide, rfl⟩
  have hnone : disabled.handed emitter greeting = [] :=
    @hsilent [] [] emitter greeting rfl (.inr hbelow)
  rw [hhanded] at hnone
  cases hnone

end ComputeNodes.Logging
