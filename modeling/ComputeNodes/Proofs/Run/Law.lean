/-
Laws that computations keep to.

A law says of a stretch of a run whether it may look as it does: what happened in it, and how it
halted, if it did.  What makes it a law is that it cannot be broken by putting stretches together,
nor by anything that asks for nothing: a stretch that did not halt may be followed by any other that
is admitted, and log records, pauses and errors of the library's own are always admitted.

So a computation keeps to a law as soon as its calls do, whatever it does with their answers.
`Act.Obeys` says so of one, wherever `K` holds of the outside world, and there is one rule for every
way in which computations are put together, the loop of a wait included.
-/
import ComputeNodes.Proofs.Run.Poll

namespace ComputeNodes

variable {τ σ ε α β : Type}

/-- Whether an error is the library's own, and no refusal of the service. -/
def Error.IsOwn (error : Error) : Prop := ∀ status, error.kind ≠ .service status

/-- How a computation halted, if it did. -/
def Halt.ofOutcome? : Except Halt α → Option Halt
  | .ok _ => none
  | .error halt => some halt

theorem Halt.ofOutcome?_eq_some {r : Except Halt α} {halt : Halt} :
    Halt.ofOutcome? r = some halt ↔ r = .error halt := by
  cases r <;> simp [Halt.ofOutcome?]

/-- What may happen in a stretch of a run, and how it may halt. -/
structure Law (τ ε : Type) where
  Admits : List (Event τ ε) → Option Halt → Prop
  nil : Admits [] none
  append : ∀ {l more halt}, Admits l none → Admits more halt → Admits (l ++ more) halt
  log : ∀ entry, Admits [.log entry] none
  pause : ∀ length, Admits [.pause length] none
  cutOff : Admits [] (some .cutOff)
  own : ∀ {error : Error}, error.IsOwn → Admits [] (some (.failed error))

namespace Law

/-- The law that admits whatever happens. -/
def lax : Law τ ε where
  Admits _ _ := True
  nil := trivial
  append _ _ := trivial
  log _ := trivial
  pause _ := trivial
  cutOff := trivial
  own _ := trivial

variable {law : Law τ ε} {l : List (Event τ ε)}

/-- Where a stretch may end well, it may also halt with an error of the library's own. -/
theorem then_own (h : law.Admits l none) {error : Error} (hown : error.IsOwn) :
    law.Admits l (some (.failed error)) := by
  have hafter := law.append h (law.own hown)
  rwa [List.append_nil] at hafter

theorem then_cutOff (h : law.Admits l none) : law.Admits l (some .cutOff) := by
  have hafter := law.append h law.cutOff
  rwa [List.append_nil] at hafter

end Law

namespace Act

/-- Whether a computation keeps to a law wherever `K` holds of the outside world, keeps `K`, and
gives only what `V` holds of. -/
def Obeys (act : Act τ σ ε α) (law : Law τ ε) (K : σ → Prop) (V : α → Prop) : Prop :=
  ∀ s, K s.world → act.Goes s fun added r t =>
    law.Admits added (Halt.ofOutcome? r) ∧ K t.world ∧ ∀ a, r = .ok a → V a

namespace Obeys

variable {law : Law τ ε} {K : σ → Prop} {V : α → Prop} {W : β → Prop}

theorem pure {a : α} (h : V a) : (Pure.pure a : Act τ σ ε α).Obeys law K V := by
  intro s hs
  refine Goes.pure ⟨law.nil, hs, ?_⟩
  intro b hb
  cases hb
  exact h

/-- **What is put together of computations that keep to a law keeps to it.** -/
theorem bind {x : Act τ σ ε α} {f : α → Act τ σ ε β} (hx : x.Obeys law K V)
    (hf : ∀ a, V a → (f a).Obeys law K W) : (x >>= f).Obeys law K W := by
  intro s hs
  refine (hx s hs).bind ?_ ?_
  · intro added a t ⟨hadded, ht, hr⟩
    refine (hf a (hr a rfl) t ht).mono fun more r u ⟨hmore, hu, hr⟩ => ?_
    exact ⟨law.append hadded hmore, hu, hr⟩
  · intro added halt t ⟨hadded, ht, _⟩
    exact ⟨hadded, ht, nofun⟩

theorem map {f : α → β} {x : Act τ σ ε α} (hx : x.Obeys law K V) (hf : ∀ a, V a → W (f a)) :
    (do return f (← x)).Obeys law K W :=
  hx.bind fun a ha => pure (hf a ha)

theorem log (level : Logging.Level) (source : Logging.Source) (text : String) :
    (Act.log level source text : Act τ σ ε Unit).Obeys law K fun _ => True := by
  intro s hs
  exact Goes.of_perform _ (perform_log _ _ _ s) (Session.events_add _ _)
    ⟨law.log _, hs, fun _ _ => trivial⟩

theorem fail {error : Error} (h : error.IsOwn) :
    (Act.fail error : Act τ σ ε α).Obeys law K V := by
  intro s hs
  exact Goes.fail ⟨law.own h, hs, nofun⟩

theorem cutOff : (MonadExcept.throw Halt.cutOff : Act τ σ ε α).Obeys law K V := by
  intro s hs
  exact Goes.throw ⟨law.cutOff, hs, nofun⟩

theorem ofExcept {r : Except Error α} (herror : ∀ error, r = .error error → error.IsOwn)
    (hok : ∀ a, r = .ok a → V a) : (Act.ofExcept r : Act τ σ ε α).Obeys law K V := by
  cases r with
  | error error => exact fail (herror error rfl)
  | ok a => exact pure (hok a rfl)

/-- A list of computations keeps to a law if each of them does. -/
theorem foldlM {step : β → α → Act τ σ ε β}
    (hstep : ∀ b a, (step b a).Obeys law K fun _ => True) (l : List α) (b : β) :
    (l.foldlM step b).Obeys law K fun _ => True := by
  induction l generalizing b with
  | nil => exact pure trivial
  | cons a l ih =>
    rw [List.foldlM_cons]
    exact (hstep b a).bind fun b _ => ih b

variable [Clock τ]

/-- **A wait keeps to a law** if every question of it does. -/
theorem retryUntil {patience : Patience} {what : String}
    {probe : Option α → Act τ σ ε (Probe α)}
    (hprobe : ∀ last, (probe last).Obeys law K fun _ => True) :
    (ComputeNodes.retryUntil patience what probe).Obeys law K fun _ => True := by
  have htooLarge : Error.IsOwn .tooLargeForDouble := nofun
  intro s hs
  refine Poll.retryUntil_goes (fun l _ t => law.Admits l none ∧ K t.world)
    (fun l r t => law.Admits l (Halt.ofOutcome? r) ∧ K t.world) ⟨law.nil, hs⟩ ?_ ?_ ?_ ?_ ?_ ?_
  · intro l last t ⟨hl, ht⟩
    refine (hprobe last t ht).mono fun more r u ⟨hmore, hu, _⟩ => ?_
    exact ⟨law.append hl hmore, hu⟩
  · intro length l seen t _ ⟨hl, ht⟩
    exact ⟨law.append hl (law.pause length), ht⟩
  · intro l last t halt hhalt ⟨hl, ht⟩
    refine ⟨?_, ht, nofun⟩
    rcases hhalt with rfl | rfl
    · exact Law.then_cutOff hl
    · exact Law.then_own hl htooLarge
  · intro l halt t ⟨hl, ht⟩
    exact ⟨hl, ht, nofun⟩
  · intro l seen t _ _ ⟨hl, ht⟩
    exact ⟨Law.then_own hl htooLarge, ht, nofun⟩
  · intro l seen attempts t entry ⟨hl, ht⟩
    exact ⟨law.append hl (law.log entry), ht, fun _ _ => trivial⟩

end Obeys

end Act

end ComputeNodes
