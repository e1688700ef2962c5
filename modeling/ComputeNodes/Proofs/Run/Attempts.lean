/-
Waits by attempts are waits in a loop.

A wait that hands its question to something else has its parts in five places: the question with its
count, the test of an outcome, the look at the clock, the pause, and what is given in the end.  The
protocol says in which order they come to be used, and that is the order of the plain loop.

A session with a tally is opened by `Tallied.perform`, which keeps the tally of an attempt that
halts.  One round is then taken apart along the loop's own step, and `attempts_perform` follows by
induction on the attempts that are left.
-/
import ComputeNodes.Proofs.Run.Act
import ComputeNodes.Run.Attempts

namespace ComputeNodes

variable {τ σ ε α β γ : Type}

namespace Tallied

/-- How a computation comes out, the tally it leaves, and the session. -/
def perform (act : Tallied τ σ ε α β) (tally : Tally α) (s : Session τ σ ε) :
    (Except Halt β × Tally α) × Session τ σ ε :=
  (act.run.run tally).run s

variable {tally tally' : Tally α} {s t : Session τ σ ε}

@[simp] theorem perform_pure (b : β) (tally : Tally α) (s : Session τ σ ε) :
    (pure b : Tallied τ σ ε α β).perform tally s = ((.ok b, tally), s) := rfl

@[simp] theorem perform_throw (halt : Halt) (tally : Tally α) (s : Session τ σ ε) :
    (throw halt : Tallied τ σ ε α β).perform tally s = ((.error halt, tally), s) := rfl

@[simp] theorem perform_modify (f : Tally α → Tally α) (tally : Tally α) (s : Session τ σ ε) :
    (modify f : Tallied τ σ ε α Unit).perform tally s = ((.ok (), f tally), s) := rfl

@[simp] theorem perform_tally (tally : Tally α) (s : Session τ σ ε) :
    (getThe (Tally α) : Tallied τ σ ε α (Tally α)).perform tally s = ((.ok tally, tally), s) := rfl

theorem perform_bind (x : Tallied τ σ ε α β) (f : β → Tallied τ σ ε α γ) (tally : Tally α)
    (s : Session τ σ ε) :
    (x >>= f).perform tally s = match x.perform tally s with
      | ((.ok b, tally), t) => (f b).perform tally t
      | ((.error halt, tally), t) => ((.error halt, tally), t) := by
  simp only [perform, ExceptT.run_bind, StateT.run_bind]
  rcases (x.run.run tally).run s with ⟨⟨r, tally⟩, t⟩
  cases r <;> rfl

/-- What is done in the session alone leaves the tally as it is. -/
@[simp] theorem perform_tallied (act : Act τ σ ε β) (tally : Tally α) (s : Session τ σ ε) :
    (act.tallied : Tallied τ σ ε α β).perform tally s
      = (((act.perform s).1, tally), (act.perform s).2) := rfl

@[simp] theorem perform_comeOut (r : Except Halt β) (tally : Tally α) (s : Session τ σ ε) :
    (Attempts.comeOut r : Tallied τ σ ε α β).perform tally s = ((r, tally), s) := by
  cases r <;> rfl

/-- An attempt that is caught leaves what it leaves. -/
@[simp] theorem perform_caught (x : Tallied τ σ ε α β) (tally : Tally α) (s : Session τ σ ε) :
    (Attempts.caught x).perform tally s
      = ((.ok (x.perform tally s).1.1, (x.perform tally s).1.2), (x.perform tally s).2) := by
  simp only [perform, Attempts.caught, tryCatch, tryCatchThe, MonadExceptOf.tryCatch,
    ExceptT.tryCatch, ExceptT.run, ExceptT.mk, bind, ExceptT.bind, ExceptT.bindCont, StateT.bind,
    StateT.run]
  rcases x tally s with ⟨⟨r, tally⟩, t⟩
  cases r <;> rfl

theorem perform_counting (act : Tallied τ σ ε α β) (tally : Tally α) (s : Session τ σ ε) :
    (act.counting tally).perform s
      = ((act.perform tally s).1.1.map (·, (act.perform tally s).1.2), (act.perform tally s).2) :=
  rfl

end Tallied

/-! ### A round -/

section

/-- A tally once a question is answered, or has halted. -/
def Tally.after (tally : Tally α) (r : Except Halt (Probe α)) : Tally α where
  asked := tally.asked + 1
  last := match r with
    | .ok seen => some seen.value
    | .error _ => tally.last

theorem Tally.ask_perform (probe : Option α → Act τ σ ε (Probe α)) (tally : Tally α)
    (s : Session τ σ ε) :
    (Tally.ask probe).perform tally s
      = ((((probe tally.last).perform s).1, tally.after ((probe tally.last).perform s).1),
          ((probe tally.last).perform s).2) := by
  simp only [Tally.ask, Tallied.perform_bind, Tallied.perform_modify, Tallied.perform_tally,
    Tallied.perform_tallied]
  rcases (probe tally.last).perform s with ⟨r, t⟩
  cases r <;> rfl

/-- What is made of the last attempt and the tally. -/
def Tally.polled (came : Except Halt (Option (Probe α)) × Tally α) :
    Except Halt (Option (Polled α)) :=
  came.1.map fun last => last.map fun last => ⟨last.done, last.value, came.2.asked⟩

variable [Clock τ] {attempts : Attempts (Tallied τ σ ε α) τ (Probe α)}

/-- **Attempts come out as the loop does**, from any tally and in any session. -/
theorem attempts_perform (hprotocol : attempts.Protocol) (patience : Patience)
    (clock : Act τ σ ε τ) (sleep : τ → Act τ σ ε Unit) (probe : Option α → Act τ σ ε (Probe α))
    (start length : τ) (left : Nat) (tally : Tally α)
    (s : Session τ σ ε) :
    (Poll.run probe (patience.expiredBy clock start) (sleep length) left tally.asked
        tally.last).perform s
      = (Tally.polled ((attempts (patience.policy clock sleep start length) (Tally.ask probe)
            left).perform tally s).1,
          ((attempts (patience.policy clock sleep start length) (Tally.ask probe)
            left).perform tally s).2) := by
  induction left generalizing tally s with
  | zero =>
    rw [hprotocol.none_left]
    rfl
  | succ left ih =>
    rw [hprotocol.some_left, Attempts.round, Tallied.perform_bind, Tallied.perform_caught,
      Tally.ask_perform, Poll.run, Act.perform_bind]
    rcases (probe tally.last).perform s with ⟨r, t⟩
    cases r with
    | error halt => rfl
    | ok seen =>
      obtain ⟨value, done⟩ := seen
      cases done with
      | true => rfl
      | false =>
        -- only now is the clock looked at, and the pause comes last of all
        simp only [Patience.policy, Bool.not_false, if_true, Bool.false_eq_true, if_false,
          Tallied.perform_bind, Tallied.perform_tallied, Act.perform_bind]
        rcases (patience.expiredBy clock start).perform t with ⟨expired, u⟩
        cases expired with
        | error halt => rfl
        | ok late =>
          cases late with
          | true => rfl
          | false =>
            simp only [Bool.false_eq_true, if_false, Tallied.perform_bind, Tallied.perform_tallied,
              Act.perform_bind]
            rcases (sleep length).perform u with ⟨slept, v⟩
            cases slept with
            | error halt => rfl
            | ok _ => exact ih (tally.after (.ok ⟨value, false⟩)) v

/-- **A wait by attempts is a wait in a loop.** -/
theorem waitByAttempts_eq (hprotocol : attempts.Protocol) (patience : Patience) (what : String)
    (clock : Act τ σ ε τ) (sleep : τ → Act τ σ ε Unit) (probe : Option α → Act τ σ ε (Probe α)) :
    waitByAttempts attempts patience what clock sleep probe
      = waitInLoop patience what clock sleep probe := by
  rw [waitByAttempts, waitInLoop]
  congr 1
  funext start length
  have hloop := attempts_perform hprotocol patience clock sleep probe start length patience.limit {}
  funext s
  refine Eq.trans ?_ (hloop s).symm
  change Act.perform _ s = _
  rw [Act.perform_bind, Tallied.perform_counting]
  rcases (attempts _ _ _).perform {} s with ⟨⟨r, tally⟩, t⟩
  cases r <;> rfl

end

end ComputeNodes
