/-
What is said when an operation fails.

The error of an operation that failed is made of the last view that a wait keeps.  That view was
read from a message: from a re-reading or, where nothing newer was heard, from the answer that the
wait began with (`Operation.exists_message_of_after`).  So the code in the error is the code of a
message of the same run, or 500 where that message has none (`Exchange.Reports`).  Single errors
make a failure of a message whatever its code is, and then the code is handed on even if it is no
code of an error.

Besides waiting for operations, a run does nothing that makes an error of an operation, so no more
has to be known of all that (`Reported.of_traced`).
-/
import ComputeNodes.Proofs.Provider.Destroy
import ComputeNodes.Proofs.Provider.Refusal
import ComputeNodes.Proofs.Provider.Verdict

namespace ComputeNodes

variable {τ σ α β : Type}

/-- The code in an error that says that an operation failed. -/
def Error.failureCode? : Error → Option Value
  | .operationFailed code _ _ => some code
  | _ => none

/-- The message about an operation that a call was answered with. -/
def Exchange.message? : Exchange → Option OperationMessage
  | ⟨.insertInstance .., .ok message⟩ => some message
  | ⟨.deleteInstance .., .ok message⟩ => some message
  | ⟨.getOperation .., .ok message⟩ => some message
  | _ => none

theorem Exchange.exists_message {e : Exchange} {operation : Operation}
    (h : e.operation? = some operation) :
    ∃ m, e.message? = some m ∧ operation = m.toOperation := by
  unfold operation? at h
  split at h
  next message =>
    cases h
    exact ⟨message, rfl, rfl⟩
  next message =>
    cases h
    exact ⟨message, rfl, rfl⟩
  next => cases h

/-- Every view that is kept of an operation was read from a message. -/
theorem Operation.exists_message_of_after (m : OperationMessage) (calls : List Exchange) :
    ∃ m', m.toOperation.after calls = m'.toOperation ∧
      (m' = m ∨ ∃ e ∈ calls, e.message? = some m') := by
  induction calls generalizing m with
  | nil => exact ⟨m, rfl, .inl rfl⟩
  | cons e calls ih =>
    -- the call leaves the view or is where the new one was read
    have hstep : ∃ next, m.toOperation.keep e.operation? = next.toOperation ∧
        (next = m ∨ e.message? = some next) := by
      cases hfound : e.operation? with
      | none => exact ⟨m, rfl, .inl rfl⟩
      | some fresh =>
        obtain ⟨read, hread, rfl⟩ := Exchange.exists_message hfound
        rw [keep_some]
        split
        · exact ⟨m, rfl, .inl rfl⟩
        · exact ⟨read, rfl, .inr hread⟩
    obtain ⟨next, hnext, horigin⟩ := hstep
    obtain ⟨m', hlast, hm'⟩ := ih next
    refine ⟨m', ?_, ?_⟩
    · show (m.toOperation.keep e.operation?).after calls = _
      rw [hnext, hlast]
    · rcases hm' with rfl | ⟨later, hlater, hsome⟩
      · exact horigin.imp_right fun hread => ⟨e, List.mem_cons_self, hread⟩
      · exact .inr ⟨later, List.mem_cons_of_mem _ hlater, hsome⟩

theorem exists_message_of_deletion [Server τ σ] {project zone name : Value}
    {s t : Session τ σ Exchange} {added : List (Event τ Exchange)} {operation : Operation}
    (h : (Request.deleteInstance project zone name).Asked s
      (readAnswer OperationMessage.toOperation) added (.ok (some operation)) t) :
    ∃ m, (∃ e ∈ requests added, e.message? = some m) ∧ operation = m.toOperation := by
  rcases h.requests_eq with ⟨-, fault, hfault⟩ | ⟨answer, hone, hread⟩
  · cases hfault
  · rw [hone]
    cases answer with
    | ok m =>
      cases hread
      exact ⟨m, ⟨_, List.mem_singleton_self _, rfl⟩, rfl⟩
    | error error =>
      cases habsent : error.isNotFound <;> simp [readAnswer, habsent] at hread

/-! ### Errors that are told by messages -/

/-- Whether a call was answered with an error, or with a message of the failure that the error is
about. -/
def Exchange.Reports (e : Exchange) (error : Error) : Prop :=
  e.answer = .error error ∨ ∃ m, e.message? = some m ∧ m.IsFailure ∧ error = m.failureError

/-- Whether an error that says that an operation failed, if calls came to one, was reported by one
of them. -/
def Reported (calls : List Exchange) (r : Except Halt α) : Prop :=
  ∀ error, r = .error (.failed error) → error.kind = .operationFailed →
    ∃ e ∈ calls, e.Reports error

namespace Reported

variable {calls more : List Exchange} {added : List (Event τ Exchange)}

/-- What makes no error of an operation has only those that a call was answered with. -/
theorem of_traced {r : Except Halt α} (h : Traced (·.kind ≠ .operationFailed) added r) :
    Reported (requests added) r := by
  intro error hraised hkind
  rcases h error hraised with hother | ⟨e, he, hanswer⟩
  · exact absurd hkind hother
  · exact ⟨e, he, .inl hanswer⟩

theorem given (calls : List Exchange) (a : α) : Reported calls (.ok a) := nofun

theorem prepend {r : Except Halt α} (h : Reported more r) (calls : List Exchange) :
    Reported (calls ++ more) r := by
  intro error hraised hkind
  obtain ⟨e, he, hreports⟩ := h error hraised hkind
  exact ⟨e, List.mem_append_right _ he, hreports⟩

theorem of_halt {halt : Halt} (h : Reported calls (.error halt : Except Halt α)) :
    Reported calls (.error halt : Except Halt β) := by
  intro error hraised
  cases hraised
  exact h error rfl

end Reported

/-- **A wait that a message began fails with what a message reports.** -/
theorem Ending.reported {p : Provider} {m : OperationMessage} {before calls : List Exchange}
    {r : Except Halt Operation} (h : Ending p m.toOperation calls r)
    (hm : ∃ e ∈ before, e.message? = some m) : Reported (before ++ calls) r := by
  intro error hraised hkind
  cases h with
  | stopped polling stops =>
    cases hraised
    exact absurd hkind stops.kind.2
  | raised polling rereads answered =>
    cases hraised
    exact ⟨_, by simp, .inl answered⟩
  | @settled calls e polling rereads found done =>
    obtain ⟨last, hlast, horigin⟩ := Operation.exists_message_of_after m (calls ++ [e])
    rw [hlast] at hraised done
    have hdone : last.status = "DONE" := last.isDone_toOperation.mp done
    have hended := Act.mapError_failed_eq_error.mp hraised
    have hfails : last.IsFailure := by
      by_contra hworks
      rw [(OperationMessage.ended_toOperation hdone).2 hworks] at hended
      cases hended
    rw [(OperationMessage.ended_toOperation hdone).1 hfails] at hended
    cases hended
    rcases horigin with rfl | ⟨e', he', hread⟩
    · obtain ⟨first, hfirst, hread⟩ := hm
      exact ⟨first, List.mem_append_left _ hfirst, .inr ⟨_, hread, hfails, rfl⟩⟩
    · exact ⟨e', List.mem_append_right _ he', .inr ⟨_, hread, hfails, rfl⟩⟩

namespace Provider

variable [Server τ σ]

theorem kind_unmade_ne (fault : MessageFault) : (Error.unmade fault).kind ≠ .operationFailed := by
  cases fault <;> exact nofun

/-- The operation that makes an instance was read from the answer to the insertion. -/
theorem submit_told (p : Provider) (group name : String) {template : NodeTemplate}
    {checked : CheckedTemplate} (hchecked : template.check = .ok checked)
    (s : Session τ (Account σ) Exchange) :
    (p.submit group name checked).Goes s fun added r _ => ∀ project operation,
      r = .ok (project, operation) →
        ∃ m, (∃ e ∈ requests added, e.message? = some m) ∧ operation = m.toOperation := by
  refine (p.submit_goes group hchecked s).mono ?_
  rintro added r t ⟨resolving, choosing, inserting, _, hcalls, -, hmade⟩ project operation hgiven
  obtain ⟨-, -, e, rfl, hoperation⟩ := hmade _ hgiven
  obtain ⟨m, hm, rfl⟩ := Exchange.exists_message hoperation
  exact ⟨m, ⟨e, by simp [hcalls], hm⟩, rfl⟩

variable [Clock τ] {p : Provider} {s : Session τ (Account σ) Exchange}

/-- A wait for an operation that was read in an earlier call. -/
theorem await_reported {m : OperationMessage} {before : List Exchange}
    (hm : ∃ e ∈ before, e.message? = some m) :
    (p.lookup.await p.patience m.toOperation).Goes s fun added r _ =>
      Reported (before ++ requests added) r :=
  (await_polls p m.toOperation_isSound s).mono fun _ _ _ hending => hending.reported hm

theorem createNode_reported (p : Provider) (group name : String) (template : NodeTemplate)
    (s : Session τ (Account σ) Exchange) :
    (p.createNode group name template).Goes s fun added r _ => Reported (requests added) r := by
  cases hcheck : template.check with
  | error fault =>
    have hfault : (Task.createNode group name template).fault? = some (.template fault) := by
      rw [Task.fault?, hcheck]
    exact Act.Goes.of_perform [] (p.carryOut_faulty hfault s) (by simp)
      fun error herror hkind => by cases herror; cases hkind
  | ok checked =>
    have hsubmit : (p.submit group name checked : Work τ σ _).RaisesOnly
        (·.kind ≠ .operationFailed) :=
      submit_raisesOnly kind_unmade_ne (by simp [Error.kind]) (by simp [Error.kind]) p group name
        checked (by simp [Error.kind])
    have hvisible (project : Value) : (p.awaitVisible project checked.zone name :
        Work τ σ _).RaisesOnly (·.kind ≠ .operationFailed) :=
      awaitVisible_raisesOnly kind_unmade_ne (by simp [Error.kind]) p project checked.zone name
        (by simp [Error.kind])
    unfold createNode
    rw [ofExcept_check hcheck, pure_bind]
    refine ((hsubmit s).and (p.submit_told group name hcheck s)).bind ?_
      fun _ _ _ h => (Reported.of_traced h.1).of_halt
    rintro submitting ⟨project, operation⟩ t ⟨-, htold⟩
    obtain ⟨m, hread, rfl⟩ := htold project operation rfl
    have hwait : (p.awaitNode name checked project m.toOperation).Goes t fun more r _ =>
        Reported (requests (submitting ++ more)) r := by
      unfold awaitNode
      split
      · refine (await_reported hread).bind (fun watching _ u _ => ?_) fun _ _ _ h => ?_
        · refine (hvisible project u).mono fun reading r _ h => ?_
          simpa [requests] using ((Reported.of_traced h).prepend (requests watching)).prepend
            (requests submitting)
        · simpa [requests] using h.of_halt
      · refine (hvisible project t).mono fun reading r _ h => ?_
        simpa [requests] using (Reported.of_traced h).prepend (requests submitting)
    refine hwait.bind (fun waiting node u _ => ?_) fun _ _ _ h => h.of_halt
    exact Act.Goes.bind_ok _ (Act.perform_log _ _ _ u) (Session.events_add _ _)
      (Act.Goes.pure (.given _ _))

theorem destroyNode_reported (p : Provider) (id : String) (s : Session τ (Account σ) Exchange) :
    (p.destroyNode id).Goes s fun added r _ => Reported (requests added) r := by
  cases hfault : Task.idFault? id with
  | some error =>
    refine Act.Goes.of_perform [] (Act.perform_bind_error (perform_readId_of_idFault? hfault s))
      (by simp) fun error' herror hkind => ?_
    unfold Task.idFault? at hfault
    split at hfault
    · cases hfault
    · cases hfault
      cases herror
      cases hkind
  | none =>
    obtain ⟨node, hnode⟩ : ∃ node, (readId id : Work τ σ NodeId) = pure node :=
      readId_of_idFault? hfault
    have hproject : (p.project : Work τ σ Value).RaisesOnly (·.kind ≠ .operationFailed) :=
      project_raisesOnly kind_unmade_ne (by simp [Error.kind]) p
    unfold destroyNode
    rw [hnode, pure_bind]
    refine (hproject s).bind (fun resolving project t _ => ?_)
      fun _ _ _ h => (Reported.of_traced h).of_halt
    have hdeletion : (deleteInstance project node.zone node.name : Work τ σ _).RaisesOnly
        (·.kind ≠ .operationFailed) :=
      .read kind_unmade_ne (.deleteInstance project node.zone node.name) _
    refine ((hdeletion t).and (deleteInstance_goes project node.zone node.name t)).bind ?_
      fun _ _ _ h => ?_
    · rintro deleting found u ⟨-, hasked⟩
      cases found with
      | none =>
        exact Act.Goes.of_perform _ (Act.perform_log _ _ _ u) (Session.events_add _ _)
          (.given _ _)
      | some operation =>
        obtain ⟨m, hm, rfl⟩ := exists_message_of_deletion hasked
        have hread : ∃ e ∈ requests (resolving ++ deleting), e.message? = some m := by
          obtain ⟨e, he, hread⟩ := hm
          exact ⟨e, by simp [he], hread⟩
        refine Act.Goes.bind_ok _ (Act.perform_log _ _ _ u) (Session.events_add _ _) ?_
        refine (await_reported hread).bind (fun _ _ _ _ => Act.Goes.pure (.given _ _))
          fun _ _ _ h => ?_
        simpa [requests] using h.of_halt
    · simpa [requests] using ((Reported.of_traced h.1).of_halt).prepend (requests resolving)

end Provider

/-! ### Codes -/

/-- Whether in all runs of a computation the code in an error that says that an operation failed is
the one of a message that reports the failure, or 500 where the message has none.  So the code is
one of an error, unless the message itself has another one. -/
def Act.TellsCodes [Server τ σ] (act : Calls τ σ α) : Prop :=
  ∀ s, act.Goes s fun added r _ => ∀ error code, r = .error (.failed error) →
    error.failureCode? = some code →
      (∃ e ∈ requests added, e.answer = .error error) ∨
      ∃ e ∈ requests added, ∃ m, e.message? = some m ∧ m.IsFailure ∧ error = m.failureError ∧
        ∃ n : Int, code = .int n ∧ n = (if m.errorCode = 0 then 500 else m.errorCode) ∧
          (400 ≤ n ↔ ¬ (m.errorCode < 400 ∧ m.errorCode ≠ 0))

theorem Act.TellsCodes.of_reported [Server τ σ] {act : Calls τ σ α}
    (h : ∀ s, act.Goes s fun added r _ => Reported (requests added) r) : act.TellsCodes := by
  intro s
  refine (h s).mono fun added r t hreported error code hraised hcode => ?_
  have hkind : error.kind = .operationFailed := by
    cases error <;> cases hcode
    rfl
  obtain ⟨e, he, hanswer | ⟨m, hm, hfails, rfl⟩⟩ := hreported error hraised hkind
  · exact .inl ⟨e, he, hanswer⟩
  · refine .inr ⟨e, he, m, hm, hfails, rfl, _, (Option.some.inj hcode).symm, rfl, ?_⟩
    by_cases hnone : m.errorCode = 0
    · simp [hnone]
    · simp only [hnone, if_false]
      omega

namespace Provider

variable [Server τ σ] [Clock τ]

/-- **What code is told when an operation failed**, by runs that make or destroy a node. -/
theorem node_tellsCodes (p : Provider) :
    (∀ group name template, (p.createNode group name template : Work τ σ _).TellsCodes) ∧
      ∀ id, (p.destroyNode id : Work τ σ _).TellsCodes :=
  ⟨fun group name template => .of_reported (p.createNode_reported group name template),
    fun id => .of_reported (p.destroyNode_reported id)⟩

/-- A caller that knows its project, before a service whose deletion ends in an error under the code
of a success. -/
def misleadingService : Session Float (Account Script) Exchange where
  now := 0.0
  world := {
    project := ⟨some "p"⟩
    server := [
      { endpoint := .deleteInstance,
        answer := .ok { name := "op-1", status := "RUNNING", zone := "z" } },
      { endpoint := .getOperation true,
        answer := .ok { name := "op-1", status := "DONE", zone := "z", errorCode := 200,
                        errors := ["x"] } }] }

theorem destroyNode_misleadingService :
    ∃ error, ((deletingProvider.destroyNode "z/a").perform misleadingService).1
        = .error (.failed error) ∧
      error.failureCode? = some (.int 200) ∧
      ¬ ∀ n : Int, error.failureCode? = some (.int n) → 400 ≤ n := by
  refine ⟨_, rfl, rfl, fun hcodes => ?_⟩
  exact absurd (hcodes 200 rfl) (by decide)

end Provider

end ComputeNodes
