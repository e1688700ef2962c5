/-
What computations do to their sessions.

`Act.perform` runs a computation in a session.  It has one equation for every primitive, so a
straight line of primitives is opened by rewriting, and one for `bind`, which is where a computation
that halts passes by everything behind it.

Longer computations are not opened.  `Act.Goes` says of one that it only adds to what has happened
in its session, and what holds of the events it adds, of how it comes out and of the session it
leaves.  There is one rule for every way in which computations are put together, and everything
said about the order of events further on is a chain of these rules.
-/
import ComputeNodes.Run.Session

namespace ComputeNodes

variable {τ σ ε α β : Type}

/-! ### Events -/

namespace Event

/-- The call that an event is. -/
def call? : Event τ ε → Option ε
  | .call what => some what
  | _ => none

/-- The pause that an event is. -/
def pause? : Event τ ε → Option τ
  | .pause length => some length
  | _ => none

/-- The calls among events, in order. -/
def calls (events : List (Event τ ε)) : List ε := events.filterMap call?

/-- The pauses among events, in order. -/
def pauses (events : List (Event τ ε)) : List τ := events.filterMap pause?

@[simp] theorem calls_nil : calls ([] : List (Event τ ε)) = [] := rfl

@[simp] theorem calls_append (l l' : List (Event τ ε)) : calls (l ++ l') = calls l ++ calls l' :=
  List.filterMap_append

@[simp] theorem calls_call (what : ε) : calls [(.call what : Event τ ε)] = [what] := rfl

@[simp] theorem calls_pause (length : τ) : calls [(.pause length : Event τ ε)] = [] := rfl

@[simp] theorem calls_log (entry : Logging.Entry) : calls [(.log entry : Event τ ε)] = [] := rfl

@[simp] theorem calls_log_cons (entry : Logging.Entry) (l : List (Event τ ε)) :
    calls (.log entry :: l) = calls l := rfl

@[simp] theorem pauses_nil : pauses ([] : List (Event τ ε)) = [] := rfl

@[simp] theorem pauses_append (l l' : List (Event τ ε)) :
    pauses (l ++ l') = pauses l ++ pauses l' :=
  List.filterMap_append

@[simp] theorem pauses_call (what : ε) : pauses [(.call what : Event τ ε)] = [] := rfl

@[simp] theorem pauses_pause (length : τ) :
    pauses [(.pause length : Event τ ε)] = [length] := rfl

@[simp] theorem pauses_log (entry : Logging.Entry) :
    pauses [(.log entry : Event τ ε)] = [] := rfl

end Event

/-- A place in a list that was made longer at its end is the new end, or a place it had before. -/
theorem place_of_concat {l before after : List α} {a latest : α}
    (h : l ++ [latest] = before ++ a :: after) :
    (before = l ∧ a = latest ∧ after = []) ∨
      ∃ rest, l = before ++ a :: rest ∧ after = rest ++ [latest] := by
  rcases after.eq_nil_or_concat with rfl | ⟨rest, last, rfl⟩
  · obtain ⟨rfl, hlatest⟩ := List.append_inj' h rfl
    exact .inl ⟨rfl, (List.singleton_inj.mp hlatest).symm, rfl⟩
  · rw [List.concat_eq_append, ← List.cons_append, ← List.append_assoc] at h
    obtain ⟨rfl, hlast⟩ := List.append_inj' h rfl
    obtain rfl := List.singleton_inj.mp hlast
    exact .inr ⟨rest, rfl, List.concat_eq_append⟩

/-! ### Sessions -/

namespace Session

/-- A session in which one more thing has happened. -/
def add (s : Session τ σ ε) (event : Event τ ε) : Session τ σ ε :=
  { s with events := s.events.push event }

/-- A session after a pause. -/
def paused [Clock τ] (s : Session τ σ ε) (length : τ) : Session τ σ ε :=
  { s.add (.pause length) with now := Clock.advance s.now length }

/-- The calls made in a session so far. -/
def calls (s : Session τ σ ε) : List ε := Event.calls s.events.toList

/-- The pauses made in a session so far. -/
def pauses (s : Session τ σ ε) : List τ := Event.pauses s.events.toList

@[simp] theorem events_add (s : Session τ σ ε) (event : Event τ ε) :
    (s.add event).events.toList = s.events.toList ++ [event] := by
  simp [add]

@[simp] theorem now_add (s : Session τ σ ε) (event : Event τ ε) : (s.add event).now = s.now := rfl

@[simp] theorem world_add (s : Session τ σ ε) (event : Event τ ε) :
    (s.add event).world = s.world := rfl

@[simp] theorem events_paused [Clock τ] (s : Session τ σ ε) (length : τ) :
    (s.paused length).events.toList = s.events.toList ++ [.pause length] := by
  simp [paused, add]

@[simp] theorem now_paused [Clock τ] (s : Session τ σ ε) (length : τ) :
    (s.paused length).now = Clock.advance s.now length := rfl

@[simp] theorem world_paused [Clock τ] (s : Session τ σ ε) (length : τ) :
    (s.paused length).world = s.world := rfl

@[simp] theorem calls_add (s : Session τ σ ε) (event : Event τ ε) :
    (s.add event).calls = s.calls ++ Event.calls [event] := by
  simp [calls]

@[simp] theorem pauses_add (s : Session τ σ ε) (event : Event τ ε) :
    (s.add event).pauses = s.pauses ++ Event.pauses [event] := by
  simp [pauses]

/-- What happened later adds its calls to those that were made. -/
theorem calls_of_events {s t : Session τ σ ε} {added : List (Event τ ε)}
    (h : t.events.toList = s.events.toList ++ added) : t.calls = s.calls ++ Event.calls added := by
  rw [calls, h, Event.calls_append, calls]

@[simp] theorem calls_paused [Clock τ] (s : Session τ σ ε) (length : τ) :
    (s.paused length).calls = s.calls := by
  simp [calls]

@[simp] theorem pauses_paused [Clock τ] (s : Session τ σ ε) (length : τ) :
    (s.paused length).pauses = s.pauses ++ [length] := by
  simp [pauses]

end Session

namespace Act

/-! ### Running a computation -/

/-- How a computation comes out in a session, and the session that it leaves. -/
def perform (act : Act τ σ ε α) (s : Session τ σ ε) : Except Halt α × Session τ σ ε :=
  act.run.run s

@[simp] theorem perform_pure (a : α) (s : Session τ σ ε) :
    (pure a : Act τ σ ε α).perform s = (.ok a, s) := rfl

@[simp] theorem perform_throw (halt : Halt) (s : Session τ σ ε) :
    (throw halt : Act τ σ ε α).perform s = (.error halt, s) := rfl

@[simp] theorem perform_fail (error : Error) (s : Session τ σ ε) :
    (fail error : Act τ σ ε α).perform s = (.error (.failed error), s) := rfl

@[simp] theorem perform_ofExcept (r : Except Error α) (s : Session τ σ ε) :
    (ofExcept r : Act τ σ ε α).perform s = (r.mapError .failed, s) := by
  cases r <;> rfl

@[simp] theorem mapError_failed_ok (a : α) :
    (.ok a : Except Error α).mapError Halt.failed = .ok a := rfl

@[simp] theorem mapError_failed_error (error : Error) :
    (.error error : Except Error α).mapError Halt.failed = .error (.failed error) := rfl

theorem mapError_failed_eq_error {r : Except Error α} {error : Error} :
    r.mapError Halt.failed = .error (.failed error) ↔ r = .error error := by
  cases r <;> simp

theorem mapError_failed_eq_ok {r : Except Error α} {a : α} :
    r.mapError Halt.failed = .ok a ↔ r = .ok a := by
  cases r <;> simp

@[simp] theorem perform_orTooLarge_some (a : α) (s : Session τ σ ε) :
    (orTooLarge (some a) : Act τ σ ε α).perform s = (.ok a, s) := rfl

@[simp] theorem perform_orTooLarge_none (s : Session τ σ ε) :
    (orTooLarge none : Act τ σ ε α).perform s = (.error (.failed .tooLargeForDouble), s) := rfl

@[simp] theorem perform_now (s : Session τ σ ε) :
    (now : Act τ σ ε τ).perform s = (.ok s.now, s) := rfl

@[simp] theorem perform_world (s : Session τ σ ε) :
    (world : Act τ σ ε σ).perform s = (.ok s.world, s) := rfl

@[simp] theorem perform_setNow (now : τ) (s : Session τ σ ε) :
    (setNow now : Act τ σ ε Unit).perform s = (.ok (), { s with now }) := rfl

@[simp] theorem perform_setWorld (world : σ) (s : Session τ σ ε) :
    (setWorld world : Act τ σ ε Unit).perform s = (.ok (), { s with world }) := rfl

@[simp] theorem perform_takeTime [Clock τ] (length : τ) (s : Session τ σ ε) :
    (takeTime length : Act τ σ ε Unit).perform s
      = (.ok (), { s with now := Clock.advance s.now length }) := rfl

@[simp] theorem perform_note (event : Event τ ε) (s : Session τ σ ε) :
    (note event : Act τ σ ε Unit).perform s = (.ok (), s.add event) := rfl

@[simp] theorem perform_log (level : Logging.Level) (source : Logging.Source) (text : String)
    (s : Session τ σ ε) :
    (log level source text : Act τ σ ε Unit).perform s
      = (.ok (), s.add (.log { level, source, text })) := rfl

@[simp] theorem perform_pause [Clock τ] (length : τ) (s : Session τ σ ε) :
    (pause length : Act τ σ ε Unit).perform s = (.ok (), s.paused length) := rfl

theorem perform_bind (x : Act τ σ ε α) (f : α → Act τ σ ε β) (s : Session τ σ ε) :
    (x >>= f).perform s = match x.perform s with
      | (.ok a, t) => (f a).perform t
      | (.error halt, t) => (.error halt, t) := by
  simp only [perform, ExceptT.run_bind, StateT.run_bind]
  cases x.run.run s with
  | mk r t => cases r <;> rfl

/-- What comes behind a computation that returns is done in the session it leaves. -/
theorem perform_bind_ok {x : Act τ σ ε α} {f : α → Act τ σ ε β} {s t : Session τ σ ε} {a : α}
    (h : x.perform s = (.ok a, t)) : (x >>= f).perform s = (f a).perform t := by
  rw [perform_bind, h]

/-- What comes behind a computation that halts is not done. -/
theorem perform_bind_error {x : Act τ σ ε α} {f : α → Act τ σ ε β} {s t : Session τ σ ε}
    {halt : Halt} (h : x.perform s = (.error halt, t)) :
    (x >>= f).perform s = (.error halt, t) := by
  rw [perform_bind, h]

theorem perform_tryCatch (x : Act τ σ ε α) (f : Halt → Act τ σ ε α) (s : Session τ σ ε) :
    (tryCatch x f).perform s = match x.perform s with
      | (.ok a, t) => (.ok a, t)
      | (.error halt, t) => (f halt).perform t := by
  simp only [perform, tryCatch, tryCatchThe, MonadExceptOf.tryCatch, ExceptT.tryCatch,
    ExceptT.run, ExceptT.mk, StateT.run_bind]
  cases StateT.run x s with
  | mk r t => cases r <;> rfl

/-- How an answer reads for which "no such thing" is no error. -/
def foundResult : Except Halt α → Except Halt (Option α)
  | .ok a => .ok (some a)
  | .error (.failed error) => if error.isNotFound then .ok none else .error (.failed error)
  | .error .cutOff => .error .cutOff

theorem perform_found? (x : Act τ σ ε α) (s : Session τ σ ε) :
    (found? x).perform s = (foundResult (x.perform s).1, (x.perform s).2) := by
  rw [found?, perform_tryCatch, perform_bind]
  rcases x.perform s with ⟨r, t⟩
  cases r with
  | ok a => rfl
  | error halt =>
    cases halt with
    | failed error => cases he : error.isNotFound <;> simp [foundResult, he]
    | cutOff => rfl

/-- An outcome that is a value by its form is that value. -/
theorem eq_ok_of_toOption {r : Except Halt α} {a : α} (h : r.toOption = some a) : r = .ok a := by
  cases r with
  | ok b => cases h; rfl
  | error halt => cases h

/-! ### What a computation adds to its session -/

/-- In session `s` a computation only adds to what has happened, and `post` holds of the events it
adds, of how it comes out and of the session it leaves. -/
def Goes (act : Act τ σ ε α) (s : Session τ σ ε)
    (post : List (Event τ ε) → Except Halt α → Session τ σ ε → Prop) : Prop :=
  ∃ added, (act.perform s).2.events.toList = s.events.toList ++ added ∧
    post added (act.perform s).1 (act.perform s).2

namespace Goes

variable {s : Session τ σ ε} {x : Act τ σ ε α}
  {post post' : List (Event τ ε) → Except Halt α → Session τ σ ε → Prop}

theorem of_perform {r : Except Halt α} {t : Session τ σ ε} (added : List (Event τ ε))
    (h : x.perform s = (r, t)) (hadded : t.events.toList = s.events.toList ++ added)
    (hpost : post added r t) : x.Goes s post := by
  refine ⟨added, ?_, ?_⟩
  · rw [h]; exact hadded
  · rw [h]; exact hpost

theorem mono (h : x.Goes s post) (himp : ∀ added r t, post added r t → post' added r t) :
    x.Goes s post' := by
  obtain ⟨added, hadded, hpost⟩ := h
  exact ⟨added, hadded, himp _ _ _ hpost⟩

/-- What a computation adds is the same whatever is said of it. -/
theorem and (h : x.Goes s post) (h' : x.Goes s post') :
    x.Goes s fun added r t => post added r t ∧ post' added r t := by
  obtain ⟨added, hadded, hpost⟩ := h
  obtain ⟨added', hadded', hpost'⟩ := h'
  obtain rfl : added = added' := List.append_cancel_left (hadded.symm.trans hadded')
  exact ⟨added, hadded, hpost, hpost'⟩

/-- The events, the outcome and the session that `post` speaks of are those of the run. -/
theorem with_perform (h : x.Goes s post) :
    x.Goes s fun added r t => (x.perform s = (r, t) ∧
      t.events.toList = s.events.toList ++ added) ∧ post added r t := by
  obtain ⟨added, hadded, hpost⟩ := h
  exact ⟨added, hadded, ⟨rfl, hadded⟩, hpost⟩

theorem bind_ok {f : α → Act τ σ ε β} {a : α} {t : Session τ σ ε}
    {post : List (Event τ ε) → Except Halt β → Session τ σ ε → Prop} (added : List (Event τ ε))
    (h : x.perform s = (.ok a, t)) (hadded : t.events.toList = s.events.toList ++ added)
    (hf : (f a).Goes t fun more r u => post (added ++ more) r u) : (x >>= f).Goes s post := by
  obtain ⟨more, hmore, hpost⟩ := hf
  rw [Goes, perform_bind_ok h]
  exact ⟨added ++ more, by rw [hmore, hadded, List.append_assoc], hpost⟩

theorem bind {f : α → Act τ σ ε β}
    {post' : List (Event τ ε) → Except Halt β → Session τ σ ε → Prop} (hx : x.Goes s post)
    (hok : ∀ added a t, post added (.ok a) t →
      (f a).Goes t fun more r u => post' (added ++ more) r u)
    (herror : ∀ added halt t, post added (.error halt) t → post' added (.error halt) t) :
    (x >>= f).Goes s post' := by
  obtain ⟨added, hadded, hpost⟩ := hx
  cases hrun : x.perform s with
  | mk r t =>
    rw [hrun] at hadded hpost
    cases r with
    | error halt =>
      exact of_perform added (perform_bind_error hrun) hadded (herror _ _ _ hpost)
    | ok a => exact bind_ok added hrun hadded (hok _ _ _ hpost)

/-- What only looks at a session adds nothing. -/
theorem bind_silent {f : α → Act τ σ ε β} {a : α}
    {post : List (Event τ ε) → Except Halt β → Session τ σ ε → Prop}
    (h : x.perform s = (.ok a, s)) (hf : (f a).Goes s post) : (x >>= f).Goes s post :=
  bind_ok [] h (by simp) hf

theorem pure {a : α} (h : post [] (.ok a) s) : (Pure.pure a : Act τ σ ε α).Goes s post :=
  of_perform [] (perform_pure a s) (by simp) h

theorem map {f : α → β} {post' : List (Event τ ε) → Except Halt β → Session τ σ ε → Prop}
    (hx : x.Goes s post)
    (himp : ∀ added r t, post added r t → post' added (r.map f) t) :
    (do return f (← x)).Goes s post' :=
  hx.bind (fun added a t h => pure (by rw [List.append_nil]; exact himp added (.ok a) t h))
    fun added halt t h => himp added (.error halt) t h

theorem fail {error : Error} (h : post [] (.error (.failed error)) s) :
    (Act.fail error : Act τ σ ε α).Goes s post :=
  of_perform [] (perform_fail error s) (by simp) h

theorem throw {halt : Halt} (h : post [] (.error halt) s) :
    (MonadExcept.throw halt : Act τ σ ε α).Goes s post :=
  of_perform [] (perform_throw halt s) (by simp) h

theorem ofExcept {r : Except Error α} (h : post [] (r.mapError .failed) s) :
    (Act.ofExcept r : Act τ σ ε α).Goes s post :=
  of_perform [] (perform_ofExcept r s) (by simp) h

theorem found? {post' : List (Event τ ε) → Except Halt (Option α) → Session τ σ ε → Prop}
    (h : x.Goes s post)
    (himp : ∀ added r t, post added r t → post' added (foundResult r) t) :
    (Act.found? x).Goes s post' := by
  obtain ⟨added, hadded, hpost⟩ := h
  exact of_perform added (perform_found? x s) hadded (himp _ _ _ hpost)

end Goes

end Act

end ComputeNodes
