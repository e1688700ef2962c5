/-
What the errors of the service do to whatever is asked of a provider.

An answer raises an error unless it only says that there is no such thing, and even then when an
instance was to be inserted.  Raising is the end of it: nothing is logged, asked or paused for
behind the call that raised, and its error is how the whole task comes out.  An error of the service
gets out in no other way.

As a law this is `candid`: either no call has raised, and what halts the run is an error of the
library's own, or the last thing that happened is the first call that raised.  The law lets every
request be made, so all tasks keep to it.
-/
import ComputeNodes.Proofs.Provider.Task

namespace ComputeNodes

variable {τ σ : Type}

/-- The error that an exchange raises is the one it was answered with; that there is no such thing
is raised by insertions only. -/
theorem Exchange.raised?_eq_some {e : Exchange} {error : Error} :
    e.raised? = some error ↔ e.answer = .error error ∧
      (error.isNotFound = true → e.request.endpoint = .insertInstance) := by
  obtain ⟨request, answer⟩ := e
  unfold raised?
  cases answer with
  | ok message => simp
  | error raised =>
    simp only [Option.ite_none_left_eq_some, Option.some.injEq, Except.error.injEq, not_and,
      Decidable.not_not]
    exact ⟨fun ⟨hinsert, herror⟩ => ⟨herror, herror ▸ hinsert⟩,
      fun ⟨herror, hinsert⟩ => ⟨herror ▸ hinsert, herror⟩⟩

/-- Whether a stretch of a run passes on the errors of the service that it meets, and no others. -/
inductive Candid (l : List (Event τ Exchange)) (halt : Option Halt) : Prop
  /-- No call raised, so nothing is passed on. -/
  | calm (silent : ∀ e ∈ requests l, e.raised? = none)
    (own : ∀ error, halt = some (.failed error) → error.IsOwn)
  /-- The first call that raised is the last thing that happened. -/
  | raised (before : List (Event τ Exchange)) (e : Exchange) (error : Error)
    (silent : ∀ e ∈ requests before, e.raised? = none) (raises : e.raised? = some error)
    (last : l = before ++ [.call e]) (halted : halt = some (.failed error))

namespace Candid

variable {l more : List (Event τ Exchange)} {halt : Option Halt}

theorem quiet (hcalls : requests l = []) : Candid l none :=
  .calm (by simp [hcalls]) fun _ h => by cases h

theorem append (h : Candid l none) (hmore : Candid more halt) : Candid (l ++ more) halt := by
  cases h with
  | raised before e error silent raises last halted => cases halted
  | calm silent _ =>
    have hall {more : List (Event τ Exchange)} (hmore : ∀ e ∈ requests more, e.raised? = none) :
        ∀ e ∈ requests (l ++ more), e.raised? = none := by
      rw [requests, Event.calls_append, List.forall_mem_append]
      exact ⟨silent, hmore⟩
    cases hmore with
    | calm silent' own => exact .calm (hall silent') own
    | raised before e error silent' raises last halted =>
      refine .raised (l ++ before) e error (hall silent') raises ?_ halted
      rw [last, List.append_assoc]

/-- Wherever a call raises, it is the last thing that happened, and halted the run. -/
theorem ends (h : Candid l halt) {before after : List (Event τ Exchange)} {e : Exchange}
    {error : Error} (hsplit : l = before ++ .call e :: after) (hraises : e.raised? = some error) :
    after = [] ∧ halt = some (.failed error) := by
  have hsilent {more : List (Event τ Exchange)} (hmem : .call e ∈ more)
      (hnone : ∀ e ∈ requests more, e.raised? = none) : False := by
    have hcall : e ∈ requests more := List.mem_filterMap.mpr ⟨_, hmem, rfl⟩
    rw [hnone e hcall] at hraises
    cases hraises
  cases h with
  | calm silent own => exact (hsilent (by simp [hsplit]) silent).elim
  | raised before' e' error' silent raises last halted =>
    rcases place_of_concat (last.symm.trans hsplit) with ⟨-, hcall, rfl⟩ | ⟨rest, hbefore, -⟩
    · cases hcall
      rw [hraises] at raises
      cases raises
      exact ⟨rfl, halted⟩
    · exact (hsilent (by simp [hbefore]) silent).elim

/-- What is not the library's own was raised by the last thing that happened. -/
theorem raises (h : Candid l halt) {error : Error} (hhalt : halt = some (.failed error))
    (hforeign : ¬ error.IsOwn) :
    ∃ before e, l = before ++ [.call e] ∧ e.raised? = some error := by
  cases h with
  | calm silent own => exact absurd (own error hhalt) hforeign
  | raised before e error' silent raises last halted =>
    rw [hhalt] at halted
    cases halted
    exact ⟨before, e, last, raises⟩

end Candid

/-- The law of what may become of the errors of the service. -/
def candid : Law τ Exchange where
  Admits := Candid
  nil := .quiet rfl
  append := Candid.append
  log _ := .quiet rfl
  pause _ := .quiet rfl
  cutOff := .calm (by simp [requests]) fun _ h => by cases h
  own hown := .calm (by simp [requests]) fun _ h => by cases h; exact hown

theorem candid_allows (request : Request) : (candid : Law τ Exchange).Allows request := by
  intro answer
  show Candid _ _
  cases hraised : Exchange.raised? ⟨request, answer⟩ with
  | none => exact .calm (by simpa [requests] using hraised) fun _ h => by cases h
  | some error => exact .raised [] _ error (by simp [requests]) hraised rfl rfl

namespace Provider

variable [Server τ σ] [Clock τ]

/-- **What the errors of the service do to a task.**  The first call that raises is the last thing
that happens in it, and its error is what the task comes out with; no task comes out with an error
of the service otherwise. -/
theorem carryOut_candid (p : Provider) (task : Task) (s : Session τ (Account σ) Exchange) :
    ∃ added, ((p.carryOut task).perform s).2.events.toList = s.events.toList ++ added ∧
      (∀ before e after error, added = before ++ .call e :: after → e.raised? = some error →
        after = [] ∧ ((p.carryOut task).perform s).1 = .error (.failed error)) ∧
      ∀ error status, ((p.carryOut task).perform s).1 = .error (.failed error) →
        error.kind = .service status →
          ∃ before e, added = before ++ [.call e] ∧ e.answer = .error error ∧
            (error.isNotFound = true → e.request.endpoint = .insertInstance) := by
  have hproject : (p.project : Work τ σ Value).Obeys candid (fun _ => True) fun _ => True :=
    Account.projectName_obeys p.identity (candid_allows _)
  have hadmission : p.Admission (σ := σ) candid (fun _ => True) fun _ => True :=
    ⟨fun _ _ _ _ => trivial, hproject, fun _ _ request _ => candid_allows request⟩
  obtain ⟨added, hadded, hcandid, -⟩ :=
    carryOut_obeys task hadmission (fun request _ _ => candid_allows request) s trivial
  refine ⟨added, hadded, ?_, ?_⟩
  · intro before e after error hsplit hraises
    obtain ⟨hlast, hhalt⟩ := Candid.ends hcandid hsplit hraises
    exact ⟨hlast, Halt.ofOutcome?_eq_some.mp hhalt⟩
  · intro error status houtcome hkind
    obtain ⟨before, e, hlast, hraises⟩ := Candid.raises hcandid
      (Halt.ofOutcome?_eq_some.mpr houtcome) fun hown => hown status hkind
    exact ⟨before, e, hlast, Exchange.raised?_eq_some.mp hraises⟩

end Provider

end ComputeNodes
