/-
Which handlers a record gets to.

Once a record is made, what becomes of it hangs on the record, on the handlers at the root and on
what the others among them do: `Report` holds how that comes out and what is noted of it.  A handler
that fails over a record keeps it from the ones behind it, so the handlers that are asked are all up
to the first one that fails (`Asks`, `Handler.asks_inTurn`).  A sink that is asked takes the record
up only if its level is not above the record's (`Record.isFor`).

A call adds to the log what is reported of its record, if it has one delivered, and to the loggers
that its own one exists and has decided (`Work.perform_log`).  Nothing else about the log changes.
What this comes to for whoever calls is `Log.Delivers`: which handlers see the record, how the call
comes out, and which level the record has.
-/
import ComputeNodes.Proofs.Logging.Work
import Mathlib.Data.List.TakeWhile

namespace ComputeNodes.Logging

/-- A log that knows of more that has become of records. -/
def Log.noted (log : Log) (outcomes : List Outcome) : Log :=
  { log with outcomes := log.outcomes ++ outcomes.toArray }

/-- A log with other loggers. -/
def Log.withLoggers (log : Log) (loggers : Loggers) : Log := { log with loggers }

@[simp] theorem Log.noted_nil (log : Log) : log.noted [] = log := by simp [noted]

@[simp] theorem Log.noted_noted (log : Log) (first later : List Outcome) :
    (log.noted first).noted later = log.noted (first ++ later) := by
  simp [noted]

/-! ### Reports -/

namespace Report

/-- What is done after something else, unless that fails. -/
def andThen (first later : Report) : Report :=
  match first.result with
  | .error _ => first
  | .ok () => { later with noted := first.noted ++ later.noted }

theorem andThen_of_error {first : Report} {error : Error} (h : first.result = .error error)
    (later : Report) : first.andThen later = first := by
  rw [andThen, h]

theorem andThen_of_ok {first : Report} (h : first.result = .ok ()) (later : Report) :
    first.andThen later = { later with noted := first.noted ++ later.noted } := by
  rw [andThen, h]

end Report

namespace Work

/-- Whether a computation adds to a log what a report says, and comes out like that, whatever has
been noted there before. -/
def Reports (work : Work Unit) (log : Log) (report : Report) : Prop :=
  ∀ earlier, work.perform (log.noted earlier)
    = (report.result, log.noted (earlier ++ report.noted))

namespace Reports

variable {log : Log}

theorem nothing : (pure () : Work Unit).Reports log {} := by
  intro earlier
  simp

theorem comesOut (result : Except Error Unit) : (ofExcept result).Reports log { result } := by
  intro earlier
  simp

theorem note (outcome : Outcome) : (Work.note outcome).Reports log ⟨.ok (), [outcome]⟩ := by
  intro earlier
  rw [← Log.noted_noted]
  show (Except.ok (),
    { log.noted earlier with outcomes := (log.noted earlier).outcomes.push outcome }) = _
  rw [Array.push_eq_append]
  rfl

theorem bind {x : Work Unit} {f : Unit → Work Unit} {first later : Report}
    (hx : x.Reports log first) (hf : (f ()).Reports log later) :
    (x >>= f).Reports log (first.andThen later) := by
  intro earlier
  rw [perform_bind, hx earlier]
  cases h : first.result with
  | error error => simp [Report.andThen_of_error h, h]
  | ok u =>
    rw [Report.andThen_of_ok h]
    simp [hf (earlier ++ first.noted)]

/-- Lines, and whatever else is noted one after the other. -/
theorem forM_note {α : Type} (outcome : α → Outcome) (l : List α) :
    (l.forM fun a => Work.note (outcome a)).Reports log ⟨.ok (), l.map outcome⟩ := by
  induction l with
  | nil => exact nothing
  | cons a l ih => exact (note (outcome a)).bind (f := fun _ => l.forM _) ih

theorem report (report : Report) : (Work.report report).Reports log report := by
  have hresult : (ofExcept report.result).Reports log { result := report.result } := comesOut _
  have hdone := (forM_note id report.noted).bind (f := fun _ => ofExcept report.result) hresult
  rw [Report.andThen_of_ok rfl, List.map_id, List.append_nil] at hdone
  exact hdone

end Reports

end Work

/-! ### Records and sinks -/

namespace Record

/-- What a sink does with a record that it takes up. -/
def reaction (r : Record) (sink : Sink) : Report :=
  match sink.target with
  | .console stream =>
    match r.isPrinted with
    | .ok printed => { noted := if printed then [.printed stream] else [] }
    | .error error => { result := .error error }
  | .file path =>
    match r.lines with
    | .ok lines => { noted := lines.map (.written path) }
    | .error _ => {}

/-- A sink takes a record up that its level asks for. -/
def handing (r : Record) (sink : Sink) : Report :=
  match r.reaches sink.threshold with
  | .ok true => r.reaction sink
  | .ok false => {}
  | .error error => { result := .error error }

/-- Whether a record's level is one that a sink asks for. -/
def isFor (r : Record) (sink : Sink) : Bool := (r.reaches sink.threshold).toOption.getD false

variable {r : Record} {level : Int}

theorem reaches_of_whole (hlevel : r.number.bind Message.Part.whole? = some level)
    (threshold : Nat) : r.reaches threshold = .ok (decide ((threshold : Int) ≤ level)) := by
  obtain ⟨number, hnumber, hwhole⟩ := Option.bind_eq_some_iff.mp hlevel
  rw [reaches, hnumber]
  dsimp only
  rw [hwhole]
  rfl

theorem isFor_of_whole (hlevel : r.number.bind Message.Part.whole? = some level) (sink : Sink) :
    r.isFor sink = decide ((sink.threshold : Int) ≤ level) := by
  rw [isFor, reaches_of_whole hlevel]
  rfl

theorem handing_of_whole (hlevel : r.number.bind Message.Part.whole? = some level) (sink : Sink) :
    r.handing sink = if (sink.threshold : Int) ≤ level then r.reaction sink else {} := by
  rw [handing, reaches_of_whole hlevel]
  by_cases hasked : (sink.threshold : Int) ≤ level <;> simp [hasked]

end Record

namespace Work

theorem handToSink_reports (r : Record) (sink : Sink) (log : Log) :
    (handToSink r sink).Reports log (r.handing sink) := by
  unfold handToSink Record.handing
  cases r.reaches sink.threshold with
  | error error => exact .comesOut _
  | ok asked =>
    cases asked with
    | false => exact .nothing
    | true =>
      intro earlier
      rw [perform_ofExcept_bind rfl, if_pos rfl]
      unfold Record.reaction
      cases sink.target with
      | console stream =>
        dsimp only
        cases r.isPrinted with
        | error error => exact Reports.comesOut (.error error) earlier
        | ok printed =>
          cases printed with
          | false => exact Reports.nothing earlier
          | true => exact Reports.note _ earlier
      | file path =>
        dsimp only
        cases r.lines with
        | error error => exact Reports.nothing earlier
        | ok lines => exact Reports.forM_note _ lines earlier

end Work

/-! ### Records and handlers -/

/-- How far a record comes along handlers, when `answer` says what they do with it, and how that
comes out. -/
inductive Asks (answer : Handler → Report) (handlers : List Handler) :
    List Handler → Except Error Unit → Prop
  | all (well : ∀ handler ∈ handlers, (answer handler).result = .ok ()) :
    Asks answer handlers handlers (.ok ())
  /-- The handlers behind one that raises an error are not asked, and the error goes on. -/
  | stopped {front back : List Handler} {last : Handler} {error : Error}
    (cut : handlers = front ++ last :: back)
    (well : ∀ handler ∈ front, (answer handler).result = .ok ())
    (raises : (answer last).result = .error error) :
    Asks answer handlers (front ++ [last]) (.error error)

theorem Asks.cons {answer : Handler → Report} {handlers asked : List Handler}
    {result : Except Error Unit} (h : Asks answer handlers asked result) {handler : Handler}
    (hwell : (answer handler).result = .ok ()) :
    Asks answer (handler :: handlers) (handler :: asked) result := by
  cases h with
  | all well => exact .all (List.forall_mem_cons.mpr ⟨hwell, well⟩)
  | @stopped front back last error cut well raises =>
    have hcut : handler :: handlers = (handler :: front) ++ last :: back := by
      rw [cut, List.cons_append]
    exact .stopped hcut (List.forall_mem_cons.mpr ⟨hwell, well⟩) raises

namespace Handler

variable (answer : Handler → Report)

/-- What becomes of a record in handlers, one after the other. -/
def inTurn : List Handler → Report
  | [] => {}
  | handler :: later => (answer handler).andThen (inTurn later)

/-- The handlers that are asked, one after the other until something fails. -/
def asked : List Handler → List Handler
  | [] => []
  | handler :: later =>
    match (answer handler).result with
    | .ok () => handler :: asked later
    | .error _ => [handler]

variable {answer} {handler : Handler}

theorem asked_cons_of_ok (h : (answer handler).result = .ok ()) (later : List Handler) :
    asked answer (handler :: later) = handler :: asked answer later := by
  rw [asked, h]

theorem asked_cons_of_error {error : Error} (h : (answer handler).result = .error error)
    (later : List Handler) : asked answer (handler :: later) = [handler] := by
  rw [asked, h]

variable (answer)

/-- **The handlers that are asked are those up to the first one that fails.** -/
theorem asks_inTurn (handlers : List Handler) :
    Asks answer handlers (asked answer handlers) (inTurn answer handlers).result := by
  induction handlers with
  | nil => exact .all nofun
  | cons handler later ih =>
    rw [inTurn]
    cases hresult : (answer handler).result with
    | ok u =>
      rw [asked_cons_of_ok hresult, Report.andThen_of_ok hresult]
      exact ih.cons hresult
    | error error =>
      have hcut : handler :: later = [] ++ handler :: later := rfl
      rw [asked_cons_of_error hresult, Report.andThen_of_error hresult, hresult]
      exact .stopped hcut nofun hresult

/-- Where none fails, all of them are asked. -/
theorem asked_of_well {handlers : List Handler}
    (hwell : ∀ handler ∈ handlers, (answer handler).result = .ok ()) :
    asked answer handlers = handlers := by
  induction handlers with
  | nil => rfl
  | cons handler later ih =>
    obtain ⟨hfirst, hlater⟩ := List.forall_mem_cons.mp hwell
    rw [asked_cons_of_ok hfirst, ih hlater]

theorem noted_inTurn (handlers : List Handler) :
    (inTurn answer handlers).noted
      = (asked answer handlers).flatMap fun handler => (answer handler).noted := by
  induction handlers with
  | nil => rfl
  | cons handler later ih =>
    rw [inTurn]
    cases hresult : (answer handler).result with
    | ok u =>
      rw [asked_cons_of_ok hresult, Report.andThen_of_ok hresult, List.flatMap_cons, ih]
    | error error =>
      rw [asked_cons_of_error hresult, Report.andThen_of_error hresult, List.flatMap_singleton]

end Handler

namespace Log

/-- What a handler at the root does with a record. -/
def answer (log : Log) (r : Record) : Handler → Report
  | .own _ sink => r.handing sink
  | .foreign name => log.foreign name r

/-- What becomes of a record at the root. -/
def delivery (log : Log) (r : Record) : Report :=
  match log.sinks.attached with
  | [] => { result := (r.reaches Level.warning.number).map fun _ => () }
  | handlers => Handler.inTurn (log.answer r) handlers

/-- The sinks at the root that take a record up. -/
def takers (log : Log) (r : Record) : List Sink :=
  (((Handler.asked (log.answer r) log.sinks.attached).filterMap Handler.own?).map Prod.snd).filter
    r.isFor

/-- The sinks of a log. -/
def ownSinks (log : Log) : List Sink := log.sinks.own.map Prod.snd

variable (log : Log) (r : Record)

theorem delivery_of_attached (h : log.sinks.attached ≠ []) :
    log.delivery r = Handler.inTurn (log.answer r) log.sinks.attached := by
  unfold delivery
  split
  next hnone => exact absurd hnone h
  next => rfl

theorem delivery_of_nobody (h : log.sinks.attached = []) :
    log.delivery r = { result := (r.reaches Level.warning.number).map fun _ => () } := by
  rw [delivery, h]

end Log

namespace Work

theorem resort_reports (r : Record) (log : Log) : (resort r).Reports log
    { result := (r.reaches Level.warning.number).map fun _ => () } := by
  unfold resort
  cases r.reaches Level.warning.number with
  | error error => exact .comesOut (.error error)
  | ok answer => exact .nothing

theorem handTo_reports (r : Record) (handler : Handler) (log : Log) :
    (handTo r handler).Reports log (log.answer r handler) := by
  cases handler with
  | own id sink => exact handToSink_reports r sink log
  | foreign name => exact Reports.report (log.foreign name r)

theorem handlers_report (r : Record) (log : Log) (handlers : List Handler) :
    (handlers.forM (handTo r)).Reports log (Handler.inTurn (log.answer r) handlers) := by
  induction handlers with
  | nil => exact Reports.nothing
  | cons handler later ih =>
    exact (handTo_reports r handler log).bind (f := fun _ => later.forM _) ih

/-- **What is done with a record is what its delivery reports.** -/
theorem perform_deliver (r : Record) (log : Log) :
    (deliver r).perform log = ((log.delivery r).result, log.noted (log.delivery r).noted) := by
  have hlookup : (deliver r).perform log = (match log.sinks.attached with
      | [] => resort r
      | handlers => handlers.forM (handTo r)).perform log := rfl
  rw [hlookup]
  cases hattached : log.sinks.attached with
  | nil =>
    rw [log.delivery_of_nobody r hattached]
    simpa using resort_reports r log []
  | cons handler later =>
    rw [log.delivery_of_attached r (by simp [hattached]), hattached]
    simpa using handlers_report r log (handler :: later) []

end Work

/-! ### Calls -/

/-- The record that a call makes for a logger. -/
def LogCall.made (call : LogCall) (caller : Caller) (logger : String) : Except Error Record := do
  let message ← call.filled
  call.record caller logger message

namespace LogCall

variable {call : LogCall}

theorem replaced?_eq_none {bound : Table} (h : allFields ∉ bound.keys) :
    replaced? bound = none := by
  have hnone : bound.dropWhile (fun entry => entry.1 != allFields) = [] := by
    rw [List.dropWhile_eq_nil_iff]
    intro entry hentry
    have hother : entry.1 ≠ allFields := fun hname => h (hname ▸ List.mem_map_of_mem hentry)
    simpa using hother
  rw [replaced?, hnone]

/-- A record has the number of its call's level, if no bound field takes the place of that. -/
theorem number_of_made {caller : Caller} {logger : String} {r : Record}
    (hmade : call.made caller logger = .ok r) (hall : allFields ∉ call.bound.keys)
    (hown : "levelno" ∉ call.bound.keys) : r.number = some (.int call.level.number) := by
  obtain ⟨message, -, hrecord⟩ := Error.bind_eq_ok.mp hmade
  obtain ⟨u, -, hfields⟩ := Error.bind_eq_ok.mp hrecord
  cases hfields
  simp [replaced?_eq_none hall, Entries.find?_eq_none_iff.mpr hown]

end LogCall

namespace Log

/-- The loggers behind a call: its own one exists, and may have decided about a level. -/
def loggersBehind (log : Log) (caller : Caller) (call : LogCall) : Loggers :=
  match caller.logger with
  | .ok logger => (log.loggers.takes logger call.level).2
  | .error _ => log.loggers

/-- The record that a call has delivered to the root, if its logger takes it and is below the
root. -/
def delivered (log : Log) (caller : Caller) (call : LogCall) : Except Error (Option Record) :=
  match caller.logger with
  | .error error => .error error
  | .ok logger =>
    if (log.loggers.takes logger call.level).1 then
      (call.made caller logger).bind fun record =>
        if (log.loggers.takes logger call.level).2.isBelowRoot logger then .ok (some record)
        else (record.reaches Level.warning.number).map fun _ => none
    else .ok none

theorem made_of_delivered {log : Log} {caller : Caller} {call : LogCall} {r : Record}
    (harrives : log.delivered caller call = .ok (some r)) :
    ∃ logger, call.made caller logger = .ok r := by
  unfold delivered at harrives
  cases hlogger : caller.logger with
  | error error => simp [hlogger] at harrives
  | ok logger =>
    rw [hlogger] at harrives
    dsimp only at harrives
    split at harrives
    next =>
      obtain ⟨record, hmade, hplaced⟩ := Error.bind_eq_ok.mp harrives
      split at hplaced
      next =>
        cases hplaced
        exact ⟨logger, hmade⟩
      next =>
        cases hlooked : record.reaches Level.warning.number with
        | error error => simp [hlooked, Except.map] at hplaced
        | ok answer => simp [hlooked, Except.map] at hplaced
    next => cases harrives

/-- What becomes of a call. -/
def reportOf (log : Log) (caller : Caller) (call : LogCall) : Report :=
  match log.delivered caller call with
  | .ok (some record) => log.delivery record
  | .ok none => {}
  | .error error => { result := .error error }

/-- The sinks that take the record of a call up. -/
def handed (log : Log) (caller : Caller) (call : LogCall) : List Sink :=
  match log.delivered caller call with
  | .ok (some record) => log.takers record
  | _ => []

end Log

namespace Work

theorem ofExcept_made (caller : Caller) (call : LogCall) (logger : String)
    (f : Record → Work Unit) :
    (do
      let message ← ofExcept call.filled
      let record ← ofExcept (call.record caller logger message)
      f record : Work Unit) = ofExcept (call.made caller logger) >>= f := by
  unfold LogCall.made
  cases call.filled <;> rfl

/-- **What a call does to a log**: what is reported of its record, and to the loggers that its own
one is looked up. -/
theorem perform_log (caller : Caller) (call : LogCall) (log : Log) :
    (Work.log caller call).perform log
      = ((log.reportOf caller call).result,
          (log.withLoggers (log.loggersBehind caller call)).noted
            (log.reportOf caller call).noted) := by
  unfold Work.log Log.reportOf Log.delivered Log.loggersBehind
  cases caller.logger with
  | error error =>
    rw [perform_ofExcept_bind_error rfl]
    exact congrArg (Prod.mk _) (Log.noted_nil _).symm
  | ok logger =>
    have htakes : (takes logger call.level).perform log
        = (.ok (log.loggers.takes logger call.level).1,
            log.withLoggers (log.loggers.takes logger call.level).2) := rfl
    rw [perform_ofExcept_bind rfl, perform_bind_ok htakes]
    dsimp only
    generalize log.loggers.takes logger call.level = decision
    obtain ⟨taken, loggers⟩ := decision
    cases taken with
    | false => exact congrArg (Prod.mk _) (Log.noted_nil _).symm
    | true =>
      rw [if_pos rfl, if_pos rfl, ofExcept_made]
      cases call.made caller logger with
      | error error => exact congrArg (Prod.mk _) (Log.noted_nil _).symm
      | ok record =>
        rw [perform_ofExcept_bind rfl]
        show (if loggers.isBelowRoot logger then deliver record
          else _ : Work Unit).perform (log.withLoggers loggers) = _
        dsimp only [Except.bind]
        by_cases hbelow : loggers.isBelowRoot logger = true
        · rw [if_pos hbelow, if_pos hbelow]
          exact perform_deliver record (log.withLoggers loggers)
        · rw [if_neg hbelow, if_neg hbelow]
          unfold resort
          cases record.reaches Level.warning.number <;>
            exact congrArg (Prod.mk _) (Log.noted_nil _).symm

end Work

/-! ### What a log does with records -/

/-- Whether the records of calls get to the handlers at the root as they have to. -/
structure Log.Delivers (log : Log) : Prop where
  /-- A call whose record gets to the root has the handlers there asked in their order, up to the
  first one that raises an error, and the call comes out like that.  What they note is all that is
  noted, and the sinks among them take the record up that it is for. -/
  attended {caller : Caller} {call : LogCall} {r : Record}
    (arrives : log.delivered caller call = .ok (some r)) (attached : log.sinks.attached ≠ []) :
    ∃ asked result, Asks (log.answer r) log.sinks.attached asked result ∧
      (Work.log caller call).perform log
        = (result, (log.withLoggers (log.loggersBehind caller call)).noted
            (asked.flatMap fun handler => (log.answer r handler).noted)) ∧
      log.handed caller call = ((asked.filterMap Handler.own?).map Prod.snd).filter r.isFor
  /-- Where nobody is at the root, the last resort looks at the level. -/
  deserted {caller : Caller} {call : LogCall} {r : Record}
    (arrives : log.delivered caller call = .ok (some r)) (nobody : log.sinks.attached = []) :
    (Work.log caller call).perform log
        = ((r.reaches Level.warning.number).map fun _ => (),
            log.withLoggers (log.loggersBehind caller call)) ∧
      log.handed caller call = []
  /-- Where no handler raises an error, all sinks that the record is for take it up. -/
  calm {caller : Caller} {call : LogCall} {r : Record}
    (arrives : log.delivered caller call = .ok (some r))
    (well : ∀ handler ∈ log.sinks.attached, (log.answer r handler).result = .ok ()) :
    log.handed caller call = log.ownSinks.filter r.isFor
  /-- The level of a record is the one of its call, if no bound field takes the place of that. -/
  ordinary {caller : Caller} {call : LogCall} {r : Record}
    (arrives : log.delivered caller call = .ok (some r))
    (own : "levelno" ∉ call.bound.keys) (all : LogCall.allFields ∉ call.bound.keys) :
    r.number.bind Message.Part.whole? = some call.level.number
  /-- A record is for the sinks whose level is not above its own, and the others do nothing. -/
  levels {r : Record} {level : Int} (whole : r.number.bind Message.Part.whole? = some level)
    (id : Nat) (sink : Sink) :
    r.isFor sink = decide ((sink.threshold : Int) ≤ level) ∧
      log.answer r (.own id sink)
        = if (sink.threshold : Int) ≤ level then r.reaction sink else {}
  /-- A file raises no error over a record. -/
  files (r : Record) (path : String) (threshold : Nat) :
    (r.reaction ⟨.file path, threshold⟩).result = .ok ()

/-- **Every log delivers the records of calls.** -/
theorem Log.delivers (log : Log) : log.Delivers where
  attended {caller call r} harrives hattached := by
    have hreport : log.reportOf caller call = log.delivery r := by rw [reportOf, harrives]
    refine ⟨_, _, Handler.asks_inTurn (log.answer r) log.sinks.attached, ?_, ?_⟩
    · rw [Work.perform_log, hreport, log.delivery_of_attached r hattached, Handler.noted_inTurn]
    · rw [handed, harrives]
      rfl
  deserted {caller call r} harrives hnobody := by
    have hreport : log.reportOf caller call = log.delivery r := by rw [reportOf, harrives]
    constructor
    · rw [Work.perform_log, hreport, log.delivery_of_nobody r hnobody, noted_nil]
    · rw [handed, harrives]
      simp [takers, hnobody, Handler.asked]
  calm harrives hwell := by
    rw [handed, harrives]
    dsimp only
    rw [takers, Handler.asked_of_well _ hwell]
    rfl
  ordinary {caller call r} harrives hown hall := by
    obtain ⟨logger, hmade⟩ := made_of_delivered harrives
    rw [LogCall.number_of_made hmade hall hown]
    rfl
  levels hwhole id sink := ⟨Record.isFor_of_whole hwhole sink, Record.handing_of_whole hwhole sink⟩
  files r path threshold := by
    rw [Record.reaction]
    cases r.lines <;> rfl

end ComputeNodes.Logging
