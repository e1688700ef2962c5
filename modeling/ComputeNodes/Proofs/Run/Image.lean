/-
Runs that are images of other runs.

The same program can be run against two outside worlds.  Where one of them is an image of the other,
and so are the calls, the runs may differ in nothing else: same outcome, same pauses, same records.
`Act.Mimics` says so of two computations, in whatever session they begin.  What is put together of
computations that mimic each other does so as well, loops included, so it has to be checked for the
calls only.
-/
import ComputeNodes.Proofs.Run.Act
import ComputeNodes.Run.Poll

namespace ComputeNodes

variable {τ σ σ' ε ε' α β : Type}

/-- The image of something that happened. -/
def Event.image (g : ε → ε') : Event τ ε → Event τ ε'
  | .call what => .call (g what)
  | .pause length => .pause length
  | .log entry => .log entry

/-- The image of a session. -/
def Session.image (f : σ → σ') (g : ε → ε') (s : Session τ σ ε) : Session τ σ' ε' :=
  { now := s.now
    world := f s.world
    events := s.events.map (Event.image g) }

@[simp] theorem Session.image_add (f : σ → σ') (g : ε → ε') (s : Session τ σ ε)
    (event : Event τ ε) : (s.add event).image f g = (s.image f g).add (event.image g) := by
  simp [image, add]

namespace Act

/-- Whether a computation does in the image of a session what another one does in the session. -/
def Mimics (f : σ → σ') (g : ε → ε') (y : Act τ σ' ε' α) (x : Act τ σ ε α) : Prop :=
  ∀ s, y.perform (s.image f g) = ((x.perform s).1, (x.perform s).2.image f g)

namespace Mimics

variable {f : σ → σ'} {g : ε → ε'}

theorem pure (a : α) : (Pure.pure a : Act τ σ' ε' α).Mimics f g (Pure.pure a) :=
  fun _ => rfl

theorem throw (halt : Halt) :
    (MonadExcept.throw halt : Act τ σ' ε' α).Mimics f g (MonadExcept.throw halt) :=
  fun _ => rfl

theorem fail (error : Error) : (Act.fail error : Act τ σ' ε' α).Mimics f g (Act.fail error) :=
  fun _ => rfl

theorem ofExcept (r : Except Error α) :
    (Act.ofExcept r : Act τ σ' ε' α).Mimics f g (Act.ofExcept r) := by
  cases r with
  | ok a => exact pure a
  | error error => exact fail error

theorem orTooLarge (a : Option α) :
    (Act.orTooLarge a : Act τ σ' ε' α).Mimics f g (Act.orTooLarge a) := by
  cases a with
  | some a => exact pure a
  | none => exact fail .tooLargeForDouble

theorem now : (Act.now : Act τ σ' ε' τ).Mimics f g Act.now :=
  fun _ => rfl

theorem log (level : Logging.Level) (source : Logging.Source) (text : String) :
    (Act.log level source text : Act τ σ' ε' Unit).Mimics f g (Act.log level source text) := by
  intro s
  simp [Event.image]

theorem pause [Clock τ] (length : τ) :
    (Act.pause length : Act τ σ' ε' Unit).Mimics f g (Act.pause length) := by
  intro s
  simp [Session.paused, Session.image, Session.add, Event.image]

/-- **What is put together of computations that mimic each other does so as well.** -/
theorem bind {y : Act τ σ' ε' α} {x : Act τ σ ε α} {k' : α → Act τ σ' ε' β} {k : α → Act τ σ ε β}
    (h : y.Mimics f g x) (hk : ∀ a, (k' a).Mimics f g (k a)) :
    (y >>= k').Mimics f g (x >>= k) := by
  intro s
  rw [perform_bind, perform_bind, h s]
  rcases x.perform s with ⟨r, t⟩
  cases r with
  | ok a => exact hk a t
  | error halt => rfl

section

variable [Clock τ] {probe' : Option α → Act τ σ' ε' (Probe α)}
  {probe : Option α → Act τ σ ε (Probe α)}

theorem run (h : ∀ last, (probe' last).Mimics f g (probe last)) (patience : Patience)
    (start length : τ) (fuel made : Nat) (last : Option α) :
    (Poll.run probe' (patience.expired start) (Act.pause length) fuel made last).Mimics f g
      (Poll.run probe (patience.expired start) (Act.pause length) fuel made last) := by
  induction fuel generalizing made last with
  | zero => exact pure none
  | succ fuel ih =>
    rw [Poll.run, Poll.run]
    refine (h last).bind fun seen => ?_
    split
    · exact pure _
    · have hexpired : (patience.expired start : Act τ σ' ε' Bool).Mimics f g
          (patience.expired start) := now.bind fun _ => pure _
      refine hexpired.bind fun expired => ?_
      split
      · exact pure _
      · exact (pause length).bind fun _ => ih (made + 1) _

/-- **So do waits**, if their questions do. -/
theorem retryUntil (h : ∀ last, (probe' last).Mimics f g (probe last)) (patience : Patience)
    (what : String) :
    (ComputeNodes.retryUntil patience what probe').Mimics f g
      (ComputeNodes.retryUntil patience what probe) := by
  rw [ComputeNodes.retryUntil, ComputeNodes.retryUntil]
  refine now.bind fun start => (orTooLarge _).bind fun length => ?_
  refine (run h patience start length patience.limit 0 none).bind fun result => ?_
  cases result with
  | none => exact throw .cutOff
  | some polled =>
    dsimp only
    split
    · exact (log _ _ _).bind fun _ => pure polled
    · refine (orTooLarge _).bind fun seconds => ?_
      exact (log _ _ _).bind fun _ => pure polled

end

end Mimics

end Act

end ComputeNodes
