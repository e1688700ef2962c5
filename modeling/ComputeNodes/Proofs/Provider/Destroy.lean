/-
What destroying a node comes to.

A text that identifies no node is turned down before anything is asked for.  Of any other, the node
is deleted by one request in the project that was resolved, and the answer to that decides:
`Destruction` has one case for every way in which it can come out.  What is waited for is only what
the deletion was answered with, so destroying a node comes out as that wait does, and reads nothing
but the operation (`Destruction.calls`).
-/
import ComputeNodes.Proofs.Node.Id
import ComputeNodes.Proofs.Provider.Rereads
import ComputeNodes.Proofs.Service.Texts
import ComputeNodes.Provider.Nodes
import ComputeNodes.Service.Script

namespace ComputeNodes

variable {τ σ : Type} [Server τ σ] [Clock τ]

/-- The request that deletes a node of a project. -/
abbrev NodeId.deletion (id : NodeId) (project : Value) : Request :=
  .deleteInstance project id.zone id.name

theorem NodeId.check_deletion {id : NodeId} {project : Value} :
    (id.deletion project).check = .ok () ↔
      ∀ v ∈ [project, (id.zone : Value), (id.name : Value)], v.IsSendable :=
  Texts.check_eq_ok_iff

/-- What destroying a node comes to in a session in which its project is known. -/
inductive Destruction (p : Provider) (id : NodeId) (project : Value)
    (s : Session τ (Account σ) Exchange) :
    Except Halt Unit → Session τ (Account σ) Exchange → Prop
  /-- A deletion that cannot be made is not made. -/
  | refused (fault : MessageFault) (unfit : (id.deletion project).check = .error fault) :
    Destruction p id project s (.error (.failed (.unmade fault))) s
  /-- There is no such node, so nothing is left to do. -/
  | gone (error : Error) (t : Session τ (Account σ) Exchange)
    (made : (id.deletion project).Made s (.error error) t) (absent : error.isNotFound = true) :
    Destruction p id project s (.ok ())
      (t.add (.log ⟨.info, .adapter, "Instance " ++ id.write ++ " already gone"⟩))
  | raised (error : Error) (t : Session τ (Account σ) Exchange)
    (made : (id.deletion project).Made s (.error error) t) (other : error.isNotFound = false) :
    Destruction p id project s (.error (.failed error)) t
  /-- What deletes the node is waited for, and that is how it comes out. -/
  | awaited (message : OperationMessage) (t u : Session τ (Account σ) Exchange)
    (r : Except Halt Operation) (made : (id.deletion project).Made s (.ok message) t)
    (wait : (p.lookup.await p.patience message.toOperation).perform
      (t.add (.log ⟨.info, .adapter, "Deleting instance " ++ id.write⟩)) = (r, u)) :
    Destruction p id project s (r.map fun _ => ()) u

namespace Destruction

variable {p : Provider} {id : NodeId} {project : Value} {s u : Session τ (Account σ) Exchange}
  {r : Except Halt Unit}

/-- **The requests of destroying a node**: the deletion, once if it can be made, and then nothing
but re-readings of its operation. -/
theorem calls (h : Destruction p id project s r u) (hproject : s.world.project = ⟨some project⟩) :
    ∃ deleting watching : List Exchange, u.calls = s.calls ++ deleting ++ watching ∧
      (∀ e ∈ deleting, e.request = id.deletion project) ∧ deleting.length ≤ 1 ∧
      (deleting.length = 1 ↔ (id.deletion project).check = .ok ()) ∧
      ∀ e ∈ watching, ∃ zone name, e.request = .getOperation project zone name := by
  cases h with
  | refused fault unfit => exact ⟨[], [], by simp, by simp, by simp, by simp [unfit], by simp⟩
  | gone error t made absent =>
    exact ⟨[⟨id.deletion project, .error error⟩], [], by simp [made.calls], by simp, by simp,
      by simp [made.fit], by simp⟩
  | raised error t made other =>
    exact ⟨[⟨id.deletion project, .error error⟩], [], by simp [made.calls], by simp, by simp,
      by simp [made.fit], by simp⟩
  | awaited message t u r made wait =>
    -- no request makes the account forget its project, so the wait does not look it up again
    have hknown : t.world.project = ⟨some project⟩ :=
      (Account.keeps_project _).of_respond hproject made.respond
    obtain ⟨added, hadded, hrereads, -⟩ := p.await_goes
      (s := t.add (.log ⟨.info, .adapter, "Deleting instance " ++ id.write⟩)) hknown
      message.toOperation
    rw [wait] at hadded
    refine ⟨[⟨id.deletion project, .ok message⟩], requests added, ?_, by simp, by simp,
      by simp [made.fit], hrereads⟩
    have hcalls : u.calls = t.calls ++ requests added := by
      rw [Session.calls_of_events hadded, Session.calls_add, Event.calls_log, List.append_nil]
    rw [hcalls, made.calls]

end Destruction

namespace Provider

variable {p : Provider} {id : NodeId} {project : Value} {s t : Session τ (Account σ) Exchange}

omit [Server τ σ] [Clock τ] in
theorem perform_readId {text : String} (h : NodeId.read? text = some id) :
    (readId text : Work τ σ NodeId).perform s = (.ok id, s) := by
  rw [readId, h, Act.perform_pure]

theorem destroyNode_malformed (p : Provider) {text : String} (h : NodeId.read? text = none)
    (s : Session τ (Account σ) Exchange) :
    (p.destroyNode text).perform s = (.error (.failed (.malformedNodeId text)), s) := by
  refine Act.perform_bind_error ?_
  rw [readId, h, Act.perform_fail]

theorem destroyNode_unresolved (hplain : id.IsPlain) {halt : Halt}
    (h : p.project.perform s = (.error halt, t)) :
    (p.destroyNode id.write).perform s = (.error halt, t) := by
  rw [destroyNode,
    Act.perform_bind_ok (perform_readId (NodeId.read?_eq_some_iff.mpr ⟨hplain, rfl⟩)),
    Act.perform_bind_error h]

/-- The answer to the deletion decides. -/
theorem destroyNode_resolved (hplain : id.IsPlain) (h : p.project.perform s = (.ok project, t)) :
    ∃ r u, (p.destroyNode id.write).perform s = (r, u) ∧ Destruction p id project t r u := by
  rw [destroyNode,
    Act.perform_bind_ok (perform_readId (NodeId.read?_eq_some_iff.mpr ⟨hplain, rfl⟩)),
    Act.perform_bind_ok h]
  obtain ⟨added, hadded, hasked⟩ := deleteInstance_goes project id.zone id.name t
  rcases hdelete : (deleteInstance project id.zone id.name : Work τ σ _).perform t with ⟨found, v⟩
  rw [hdelete] at hadded hasked
  rcases hasked.refused_or_made hadded with ⟨fault, unfit, rfl, rfl⟩ | ⟨answer, made, rfl⟩
  · exact ⟨_, _, Act.perform_bind_error hdelete, .refused fault unfit⟩
  · cases answer with
    | ok message =>
      have hfound : (deleteInstance project id.zone id.name : Work τ σ _).perform t
          = (.ok (some message.toOperation), v) := hdelete
      rw [Act.perform_bind_ok hfound]
      rcases hwait : (p.lookup.await p.patience message.toOperation).perform
        (v.add (.log ⟨.info, .adapter, "Deleting instance " ++ id.write⟩)) with ⟨r, u⟩
      refine ⟨_, _, ?_, .awaited message v u r made hwait⟩
      refine (Act.perform_bind_ok (Act.perform_log _ _ _ v)).trans ?_
      cases r with
      | ok operation => exact Act.perform_bind_ok hwait
      | error halt => exact Act.perform_bind_error hwait
    | error error =>
      have hfound : (deleteInstance project id.zone id.name : Work τ σ _).perform t
          = (if error.isNotFound then .ok none else .error (.failed error), v) := hdelete
      cases herror : error.isNotFound with
      | true =>
        rw [herror, if_pos rfl] at hfound
        rw [Act.perform_bind_ok hfound]
        exact ⟨_, _, rfl, .gone error v made herror⟩
      | false =>
        rw [herror, if_neg (by simp)] at hfound
        exact ⟨_, _, Act.perform_bind_error hfound, .raised error v made herror⟩

/-- **How destroying a node comes out.**  A text that is not a zone and a name between which there
is the only slash is turned down, and nothing is asked for.  Any other goes by the answer to one
deletion, in the project that was resolved. -/
theorem destroyNode_outcome (p : Provider) (text : String) (s : Session τ (Account σ) Exchange) :
    ((∀ id : NodeId, id.IsPlain → id.write ≠ text) →
      (p.destroyNode text).perform s = (.error (.failed (.malformedNodeId text)), s) ∧
        (Error.malformedNodeId text).kind = .value) ∧
    ∀ id : NodeId, id.IsPlain → id.write = text →
      (∀ halt t, p.project.perform s = (.error halt, t) →
        (p.destroyNode text).perform s = (.error halt, t)) ∧
      ∀ project t, p.project.perform s = (.ok project, t) →
        ∃ r u, (p.destroyNode text).perform s = (r, u) ∧ Destruction p id project t r u ∧
          ∃ resolving deleting watching : List Exchange,
            u.calls = s.calls ++ resolving ++ deleting ++ watching ∧
            (∀ e ∈ resolving, e.request = .getProject (projectId p.identity)) ∧
            (∀ e ∈ deleting, e.request = id.deletion project) ∧ deleting.length ≤ 1 ∧
            (deleting.length = 1 ↔
              ∀ v ∈ [project, (id.zone : Value), (id.name : Value)], v.IsSendable) ∧
            ∀ e ∈ watching, ∃ zone name, e.request = .getOperation project zone name := by
  refine ⟨fun hnone => ⟨p.destroyNode_malformed (NodeId.read?_eq_none_iff.mpr hnone) s, rfl⟩, ?_⟩
  rintro id hplain rfl
  refine ⟨fun halt t => destroyNode_unresolved hplain, fun project t hproject => ?_⟩
  obtain ⟨r, u, hperform, hdestruction⟩ := destroyNode_resolved hplain hproject
  obtain ⟨added, hadded, -, hresolving, hknown⟩ := Account.projectName_goes p.identity s
  have hlookup : (Account.projectName p.identity : Work τ σ Value).perform s = (.ok project, t) :=
    hproject
  rw [hlookup] at hadded hknown
  obtain ⟨deleting, watching, hcalls, hdeleting, honce, hmade, hwatching⟩ :=
    hdestruction.calls (hknown project rfl)
  refine ⟨r, u, hperform, hdestruction, requests added, deleting, watching, ?_, hresolving,
    hdeleting, honce, hmade.trans NodeId.check_deletion, hwatching⟩
  rw [hcalls, Session.calls, hadded, Event.calls_append]
  rfl

/-- A caller that knows its project, before a service that deletes the nodes of a zone. -/
def deletingService : Session Float (Account Script) Exchange where
  now := 0.0
  world := {
    project := ⟨some "p"⟩
    server := [
      { endpoint := .deleteInstance,
        answer := .ok { name := "op-1", status := "RUNNING", zone := "z" } },
      { endpoint := .getOperation true,
        answer := .ok { name := "op-1", status := "DONE", zone := "z" } }] }

/-- A provider for the caller of `deletingService`. -/
def deletingProvider : Provider where
  identity := "p"
  patience := { timeout := .whole 4, interval := .whole 2, limit := 3 }

theorem destroyNode_outcome_deletingService :
    (deletingProvider.destroyNode "z/a/b").perform deletingService
        = (.error (.failed (.malformedNodeId "z/a/b")), deletingService) ∧
      ((deletingProvider.destroyNode "z/a").perform deletingService).1 = .ok () ∧
      ∃ r u, (deletingProvider.destroyNode "z/a").perform deletingService = (r, u) ∧
        Destruction deletingProvider ⟨"z", "a"⟩ "p" deletingService r u := by
  have hmalformed := (destroyNode_outcome deletingProvider "z/a/b" deletingService).1
    (NodeId.read?_eq_none_iff.mp (by decide))
  have hplain : NodeId.IsPlain ⟨"z", "a"⟩ := ⟨by decide, by decide, by decide, by decide⟩
  have hproject : deletingProvider.project.perform deletingService = (.ok "p", deletingService) :=
    rfl
  obtain ⟨r, u, hperform, hdestruction, -⟩ :=
    ((destroyNode_outcome deletingProvider "z/a" deletingService).2 ⟨"z", "a"⟩ hplain rfl).2 "p"
      deletingService hproject
  exact ⟨hmalformed.1, Act.eq_ok_of_toOption (by decide +kernel), r, u, hperform, hdestruction⟩

end Provider

end ComputeNodes
