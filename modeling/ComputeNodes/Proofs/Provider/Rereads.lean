/-
What a wait of a provider asks for.

It re-reads its operation, in the project of the provider and nowhere else.  What holds right before
a question of its is that the project is known, so it is not looked up again, and that the kept view
is what the rule for views makes of the answers so far (`Rereads`).  In the end the last view is
given, if it is done and did not fail (`await_goes`).
-/
import ComputeNodes.Proofs.Provider.Look
import ComputeNodes.Proofs.Run.Poll
import ComputeNodes.Proofs.Service.Account
import ComputeNodes.Provider.Basic

namespace ComputeNodes

variable {τ σ : Type}

/-! ### Views by answers -/

/-- The operation that a request was answered with. -/
def Exchange.operation? : Exchange → Option Operation
  | ⟨.insertInstance .., .ok message⟩ => some (OperationMessage.toOperation message)
  | ⟨.getOperation .., .ok message⟩ => some (OperationMessage.toOperation message)
  | _ => none

/-- The view that is kept of an operation after these answers. -/
def Operation.after (operation : Operation) (calls : List Exchange) : Operation :=
  calls.foldl (fun kept e => kept.keep e.operation?) operation

theorem Operation.after_append (operation : Operation) (calls more : List Exchange) :
    operation.after (calls ++ more) = (operation.after calls).after more :=
  List.foldl_append

theorem operation?_of_insertion {project zone : Value} {body : InsertBody} {operation : Operation}
    {answer : Except Error OperationMessage}
    (h : .ok operation = (answer.mapError Halt.failed).map OperationMessage.toOperation) :
    (⟨.insertInstance project zone body, answer⟩ : Exchange).operation? = some operation := by
  cases answer with
  | ok message => cases h; rfl
  | error error => cases h

theorem operation?_of_reread {project zone name : Value} {found : Option Operation}
    {answer : Except Error OperationMessage}
    (h : .ok found = readAnswer OperationMessage.toOperation answer) :
    (⟨.getOperation project zone name, answer⟩ : Exchange).operation? = found := by
  cases answer with
  | ok message => cases h; rfl
  | error error =>
    rw [readAnswer] at h
    split at h
    · cases h; rfl
    · cases h

namespace Provider

variable [Server τ σ] {s : Session τ (Account σ) Exchange} {project : Value}

/-- A re-reading in a project that is known is one request. -/
theorem reread_goes (p : Provider) (hproject : s.world.project = ⟨some project⟩)
    (kept : Operation) :
    (p.lookup.reread kept).Goes s
      ((Request.getOperation project kept.zone kept.name).Asked s
        (readAnswer OperationMessage.toOperation)) :=
  Act.Goes.bind_silent (Account.projectName_known hproject)
    (getOperation_goes project kept.zone kept.name s)

/-- Where a wait for an operation stands: the project is known, and only re-readings were made. -/
structure Rereads (project : Value) (l : List (Event τ Exchange))
    (t : Session τ (Account σ) Exchange) : Prop where
  known : t.world.project = ⟨some project⟩
  rereads : ∀ e ∈ requests l, ∃ zone name, e.request = .getOperation project zone name

theorem Rereads.ask {l more : List (Event τ Exchange)} {t u : Session τ (Account σ) Exchange}
    {zone name : Value} {r : Except Halt (Option Operation)} (h : Rereads project l t)
    (hmore : (Request.getOperation project zone name).Asked t
      (readAnswer OperationMessage.toOperation) more r u) :
    Rereads project (l ++ more) u :=
  ⟨hmore.keeps (Account.keeps_project _) h.known,
    hmore.all (fun request => ∃ zone name, request = .getOperation project zone name) h.rereads
      ⟨zone, name, rfl⟩⟩

omit [Server τ σ] in
theorem Rereads.log {l : List (Event τ Exchange)} {t : Session τ (Account σ) Exchange}
    (h : Rereads project l t) (entry : Logging.Entry) :
    Rereads project (l ++ [.log entry]) (t.add (.log entry)) :=
  ⟨h.known, by simpa [requests] using h.rereads⟩

omit [Server τ σ] in
theorem Rereads.paused [Clock τ] {l : List (Event τ Exchange)}
    {t : Session τ (Account σ) Exchange} (h : Rereads project l t) (length : τ) :
    Rereads project (l ++ [.pause length]) (t.paused length) :=
  ⟨h.known, by simpa [requests] using h.rereads⟩

/-- A question of a wait: what was kept and what is kept are both by the answers so far. -/
theorem again_goes (p : Provider) {operation : Operation} {l : List (Event τ Exchange)}
    {kept : Operation} (h : Rereads project l s)
    (hkept : kept = operation.after (requests l)) :
    (p.lookup.look kept).Goes s fun more r u => Rereads project (l ++ more) u ∧
      ∀ seen, r = .ok seen → seen.value = operation.after (requests (l ++ more)) ∧
        (seen.done = true → seen.value.isDone = true) := by
  refine Lookup.look_goes (p.reread_goes h.known kept) ?_ ?_ ?_
  · intro more answer u entry hmore
    refine ⟨by simpa using (h.ask hmore).log entry, fun seen hseen => ?_⟩
    cases hseen
    refine ⟨?_, fun hdone => (Bool.and_eq_true_iff.mp hdone).2⟩
    rcases hmore.requests_eq with ⟨-, fault, hfault⟩ | ⟨found, hone, hread⟩
    · cases hfault
    · have hcalls : requests (l ++ (more ++ [.log entry])) = requests l ++ requests more := by
        simp [requests]
      rw [hcalls, Operation.after_append, ← hkept, hone, Operation.after, List.foldl_cons,
        List.foldl_nil, operation?_of_reread hread]
      rfl
  · exact fun more answer u error _ hmore => ⟨h.ask hmore, fun seen hseen => by cases hseen⟩
  · exact fun more halt u hmore => ⟨h.ask hmore, fun seen hseen => by cases hseen⟩

variable [Clock τ]

/-- **A wait for an operation re-reads it and does nothing else**, and gives only a view that is
done and did not fail. -/
theorem await_goes (p : Provider) (hproject : s.world.project = ⟨some project⟩)
    (operation : Operation) :
    (p.lookup.await p.patience operation).Goes s fun added r _ =>
      (∀ e ∈ requests added, ∃ zone name, e.request = .getOperation project zone name) ∧
        ∀ o, r = .ok o → (operation.after (requests added)).isDone = true ∧
          (operation.after (requests added)).httpError = none := by
  have hwait : (retryUntil p.patience ("operation " ++ operation.name.plain)
      fun last => p.lookup.look (last.getD operation)).Goes s fun added r _ =>
        (∀ e ∈ requests added, ∃ zone name, e.request = .getOperation project zone name) ∧
          ∀ polled, r = .ok polled → polled.value = operation.after (requests added) ∧
            (polled.succeeded = true → polled.value.isDone = true) := by
    refine Poll.retryUntil_goes
      (fun l last t => Rereads project l t ∧
        last.getD operation = operation.after (requests l))
      (fun l r t => Rereads project l t ∧ ∀ seen, r = .ok seen →
        seen.value = operation.after (requests l) ∧ (seen.done = true → seen.value.isDone = true))
      ?_ ?_ ?_ ?_ ?_ ?_ ?_
    · exact ⟨⟨hproject, by simp [requests]⟩, rfl⟩
    · exact fun l last t ⟨hl, hkept⟩ => p.again_goes hl hkept
    · exact fun length l seen t _ ⟨hl, hseen⟩ =>
        ⟨hl.paused length, by simpa [requests] using (hseen seen rfl).1⟩
    · exact fun l last t halt _ ⟨hl, _⟩ => ⟨hl.rereads, fun _ hpolled => by cases hpolled⟩
    · exact fun l halt t ⟨hl, _⟩ => ⟨hl.rereads, fun _ hpolled => by cases hpolled⟩
    · exact fun l seen t _ _ ⟨hl, _⟩ => ⟨hl.rereads, fun _ hpolled => by cases hpolled⟩
    · intro l seen attempts t entry ⟨hl, hseen⟩
      refine ⟨(hl.log entry).rereads, fun polled hpolled => ?_⟩
      cases hpolled
      simpa [requests] using hseen seen rfl
  refine hwait.bind ?_ fun _ _ _ ⟨hrereads, _⟩ => ⟨hrereads, fun _ ho => by cases ho⟩
  intro added polled t ⟨hrereads, hpolled⟩
  refine (Lookup.conclude_goes p.patience polled t).mono fun more r u ⟨hsilent, hgiven⟩ => ?_
  have hcalls : requests (added ++ more) = requests added := by simp [requests, hsilent]
  rw [hcalls]
  refine ⟨hrereads, fun o ho => ?_⟩
  obtain ⟨rfl, hgood, hfailure⟩ := hgiven o ho
  obtain ⟨hvalue, hdone⟩ := hpolled polled rfl
  rw [← hvalue]
  refine ⟨hdone hgood, ?_⟩
  rwa [Operation.failure?, if_pos (hdone hgood)] at hfailure

end Provider

end ComputeNodes
