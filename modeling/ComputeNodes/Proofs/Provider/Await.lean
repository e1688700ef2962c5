/-
How waits for operations come out, whatever they are looked up in.

The first turn that ends a wait decides: a question that halts is how the wait halts, and the answer
of any other settles what the wait comes to.  All that comes behind it is log records.
-/
import ComputeNodes.Proofs.Provider.Look
import ComputeNodes.Proofs.Run.Poll

namespace ComputeNodes

namespace Lookup

variable {τ σ ε : Type} [Clock τ] {lookup : Lookup τ σ ε} {patience : Patience}
  {operation : Operation} {length : τ} {s : Session τ σ ε} {n : Nat}

/-- The question that a wait for an operation asks. -/
def again (lookup : Lookup τ σ ε) (operation : Operation) (last : Option Operation) :
    Act τ σ ε (Probe Operation) :=
  lookup.look (last.getD operation)

theorem await_eq (lookup : Lookup τ σ ε) (patience : Patience) (operation : Operation) :
    lookup.await patience operation
      = retryUntil patience ("operation " ++ operation.name.plain) (lookup.again operation)
          >>= conclude patience := rfl

/-- What a wait comes to with the answer that ends it. -/
def settle (patience : Patience) (seen : Probe Operation) : Except Error Operation :=
  if seen.done then seen.value.ended else .error (seen.value.lateError patience.timeout)

/-- Only an answer that is not good settles that a wait was given up. -/
theorem settle_eq_timeout {seen : Probe Operation} {o : Operation} {timeout : Seconds}
    (h : settle patience seen = .error (.operationTimeout o timeout)) :
    seen.done = false ∧ o = seen.value ∧ patience.timeout.tenths?.isSome = true := by
  unfold settle Operation.ended Operation.lateError at h
  cases hdone : seen.done with
  | true =>
    rw [hdone, if_pos rfl] at h
    cases hfailure : seen.value.failure? <;> rw [hfailure] at h <;> cases h
  | false =>
    rw [hdone, if_neg (by simp)] at h
    cases hseconds : patience.timeout.tenths? with
    | none => rw [hseconds] at h; cases h
    | some seconds =>
      rw [hseconds] at h
      cases h
      exact ⟨rfl, rfl, rfl⟩

omit [Clock τ] in
/-- Behind the answer that ends a wait there are only log records. -/
theorem settle_perform (patience : Patience) (what : String) (seen : Probe Operation) (made : Nat)
    {t : Session τ σ ε} {x : Act τ σ ε (Polled Operation)}
    (hx : x.perform s = Poll.report patience what ⟨seen.done, seen.value, made⟩ t) :
    ((x >>= conclude patience).perform s).1 = (settle patience seen).mapError .failed ∧
      ((x >>= conclude patience).perform s).2.calls = t.calls ∧
      ((x >>= conclude patience).perform s).2.pauses = t.pauses := by
  unfold Poll.report at hx
  unfold settle
  cases hdone : seen.done with
  | true =>
    simp only [hdone, if_true] at hx ⊢
    rw [Act.perform_bind_ok hx]
    obtain ⟨entry, hconclude⟩ := conclude_done patience ⟨true, seen.value, made⟩ rfl _
    rw [hconclude]
    simp
  | false =>
    simp only [hdone, Bool.false_eq_true, if_false] at hx ⊢
    cases hseconds : patience.timeout.tenths? with
    | none =>
      rw [hseconds] at hx
      rw [Act.perform_bind_error hx]
      simp [Operation.lateError, hseconds]
    | some seconds =>
      rw [hseconds] at hx
      rw [Act.perform_bind_ok hx, conclude_late patience _ rfl]
      simp

/-- **A wait for an operation comes out as its first turn that ends it.** -/
theorem await_ends (hlength : Clock.pause? patience.interval = some length)
    (h : Poll.Turn.EndsAt (lookup.again operation) length patience s.now ⟨none, s⟩ n)
    (hn : n < patience.limit) {r : Except Halt (Probe Operation)} {t : Session τ σ ε}
    (hask : (Poll.Turn.after (lookup.again operation) length ⟨none, s⟩ n).ask
      (lookup.again operation) = (r, t)) :
    ((lookup.await patience operation).perform s).1
        = r.bind (fun seen => (settle patience seen).mapError .failed) ∧
      ((lookup.await patience operation).perform s).2.calls = t.calls ∧
      ((lookup.await patience operation).perform s).2.pauses = t.pauses := by
  have hwait := Poll.retryUntil_ends ("operation " ++ operation.name.plain) hlength h hn
  rw [hask] at hwait
  rw [await_eq]
  cases r with
  | error halt =>
    rw [Act.perform_bind_error hwait]
    exact ⟨rfl, rfl, rfl⟩
  | ok seen => exact settle_perform patience _ seen (n + 1) hwait

theorem await_cutOff (hlength : Clock.pause? patience.interval = some length)
    (h : ∀ i < patience.limit, ¬ (Poll.Turn.after (lookup.again operation) length ⟨none, s⟩ i).Ends
      (lookup.again operation) patience s.now) :
    ((lookup.await patience operation).perform s).1 = .error .cutOff := by
  rw [await_eq, Act.perform_bind_error (Poll.retryUntil_cutOff _ hlength h)]

theorem await_tooLarge (hlength : Clock.pause? (τ := τ) patience.interval = none) :
    ((lookup.await patience operation).perform s).1 = .error (.failed .tooLargeForDouble) := by
  rw [await_eq, Act.perform_bind_error (Poll.retryUntil_tooLarge _ hlength)]

end Lookup

end ComputeNodes
