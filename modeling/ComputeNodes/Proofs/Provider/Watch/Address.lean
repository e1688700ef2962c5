/-
Where a wait looks.

An operation is looked up where it belongs, in the project of the lookup, in its own zone or else
among the global ones, and by its name.  But it is the kept view that says what zone and name those
are.  So a re-reading that is kept and names another place takes the wait along to that place, and
`await_stays_iff` says that nothing else does.  The project is never left.
-/
import ComputeNodes.Proofs.Provider.Watch.Trail
import ComputeNodes.Service.Request

namespace ComputeNodes

/-- Where a request goes, and what it names there. -/
def Request.address (request : Request) : Endpoint × Entries Value :=
  (request.endpoint, request.texts)

/-- All zones that are nothing are one. -/
theorem Request.address_getOperation {project zone name zone' name' : Value} :
    (getOperation project zone name).address = (getOperation project zone' name').address ↔
      zone.orNull = zone'.orNull ∧ name = name' := by
  have hsomething : ∀ v : Value, v.isNothing = false → v ≠ .null := by
    rintro v hv rfl
    cases hv
  unfold address texts endpoint Value.orNull
  cases hzone : zone.isNothing <;> cases hzone' : zone'.isNothing
  · simp [hzone, hzone']
  · simp [hzone, hzone', hsomething zone hzone]
  · simp [hzone, hzone', (hsomething zone' hzone').symm]
  · simp [hzone, hzone']

/-- Whether two views of an operation say that it is found in one place. -/
def Operation.SamePlace (o o' : Operation) : Prop :=
  o.zone.orNull = o'.zone.orNull ∧ o.name = o'.name

namespace Watch

/-- Where the request of a re-reading goes. -/
def address (call : Value × Value × Value) : Endpoint × Entries Value :=
  (Request.getOperation call.1 call.2.1 call.2.2).address

/-- Whether a re-reading finds a view that is kept, in another place than the operation was. -/
def Strays {τ : Type} (w : Watch τ) (n : Nat) : Prop :=
  ∃ fresh, (w.tape n).answer = .ok (some fresh) ∧
    ¬ fresh.status.place < (w.view n).status.place ∧ ¬ fresh.SamePlace w.operation

section

variable {τ : Type} {w : Watch τ} {n : Nat}

theorem address_call {o : Operation} :
    address (w.call o) = address (w.call w.operation) ↔ o.SamePlace w.operation :=
  Request.address_getOperation

theorem samePlace_view (h : ∀ i < n, ¬ w.Strays i) : (w.view n).SamePlace w.operation := by
  induction n with
  | zero => exact ⟨rfl, rfl⟩
  | succ n ih =>
    have hkept := ih fun i hi => h i (Nat.lt_succ_of_lt hi)
    rw [view]
    cases hanswer : (w.tape n).answer with
    | error error => rwa [Reread.found?, hanswer]
    | ok answer =>
      rw [Reread.found?_of_answer hanswer]
      cases answer with
      | none => exact hkept
      | some fresh =>
        rw [Operation.keep_some]
        split
        next => exact hkept
        next hforward =>
          by_contra hplace
          exact h n (Nat.lt_succ_self n) ⟨fresh, hanswer, hforward, hplace⟩

/-- What is kept leaves its place with a re-reading that strays. -/
theorem not_samePlace_view (h : w.Strays n) : ¬ (w.view (n + 1)).SamePlace w.operation := by
  obtain ⟨fresh, hanswer, hforward, hplace⟩ := h
  rwa [view, Reread.found?_of_answer hanswer, Operation.keep_some, if_neg hforward]

end

variable {τ : Type} [Clock τ]

/-- **When a wait looks in one place only**: just when no re-reading before its last one finds a
view that is kept and names another zone or name.  It looks in one project in any case. -/
theorem await_stays_iff (w : Watch τ) (limit : Nat) :
    (∀ call ∈ (w.wait limit).2.calls, call.1 = w.project) ∧
      ((∀ call ∈ (w.wait limit).2.calls, address call = address (w.call w.operation)) ↔
        ∀ n, n + 1 < (w.wait limit).2.calls.length → ¬ w.Strays n) := by
  have hmem : ∀ call, call ∈ (w.wait limit).2.calls ↔
      ∃ n < (w.wait limit).2.calls.length, w.call (w.view n) = call := by
    intro call
    conv_lhs => rw [(w.wait_trail limit).1]
    simp
  refine ⟨fun call hcall => ?_, fun hsame n hn hstrays => ?_, fun hstays call hcall => ?_⟩
  · obtain ⟨n, -, rfl⟩ := (hmem call).mp hcall
    rfl
  · have hnext := hsame _ ((hmem _).mpr ⟨n + 1, hn, rfl⟩)
    exact not_samePlace_view hstrays (address_call.mp hnext)
  · obtain ⟨n, hn, rfl⟩ := (hmem call).mp hcall
    exact address_call.mpr (samePlace_view fun i hi => hstays i (by omega))

/-- An operation in a zone, whose first re-reading does not say so. -/
def zoneLost : Watch Float where
  project := "p"
  operation := { name := "op-1", status := .pending, zone := "z" }
  tape n := ⟨0.0, .ok (some
    { name := "op-1", status := if n = 0 then .running else .done })⟩
  timeout := .whole 10
  interval := .whole 2
  start := 0.0

/-- It is looked up among the global operations after that. -/
theorem leaves_zone_of_zoneLost :
    (zoneLost.wait 2).2.calls
        = [zoneLost.call zoneLost.operation, ("p", .null, "op-1")] ∧
      address ("p", Value.null, "op-1") ≠ address (zoneLost.call zoneLost.operation) := by
  refine ⟨by decide +kernel, fun hsame => ?_⟩
  have hplace := Request.address_getOperation.mp hsame
  revert hplace
  decide

end Watch

end ComputeNodes
