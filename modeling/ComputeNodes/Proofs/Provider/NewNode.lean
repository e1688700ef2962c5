/-
What the identifier of a new node stands for.

The identifier is put together when a node is made, taken apart when it is read or destroyed, and
compared as a whole when nodes are picked out of a listing.  All three agree on it as long as zone
and name are there and free of slashes: an identifier is taken apart into just what it was put
together of, so two nodes do not share one, and none is the bare name of a node.

The project is the one the node was made in, because an account never forgets it; and since the node
was read in it before it was given, the requests to read or delete it can be made.
-/
import ComputeNodes.Proofs.Provider.Create
import ComputeNodes.Proofs.Provider.Destroy
import ComputeNodes.Proofs.Provider.Outcome
import ComputeNodes.Proofs.Provider.Task

namespace ComputeNodes

variable {τ σ : Type}

/-! ### Identifiers -/

theorem NodeId.eq_of_write_eq {id other : NodeId} (hid : id.IsPlain) (hother : other.IsPlain)
    (h : id.write = other.write) : id = other :=
  Option.some.inj ((read?_eq_some_iff.mpr ⟨hid, h⟩).symm.trans
    (read?_eq_some_iff.mpr ⟨hother, rfl⟩))

theorem Value.eq_of_alike_text {v : Value} {text : String} (h : v.alike (.text text) = true) :
    v = .text text := by
  have htext : (Value.text text).amount? = none := rfl
  unfold alike at h
  rw [htext] at h
  cases hamount : v.amount? with
  | some n => rw [hamount] at h; cases h
  | none => rw [hamount] at h; simpa using h

namespace Instance

variable {i : Instance} {id : NodeId} {ids : List Value}

theorem isNamedBy_of_mem (h : .text i.nodeId.write ∈ ids) : i.isNamedBy ids = true := by
  simp [isNamedBy, h]

/-- An instance that is picked by one identifier has it, for its name is no identifier. -/
theorem nodeId_of_isNamedBy (hid : id.IsPlain) (hi : i.nodeId.IsPlain)
    (hids : ∀ v ∈ ids, v = .text id.write) (h : i.isNamedBy ids = true) : i.nodeId = id := by
  rcases Bool.or_eq_true_iff.mp h with hname | hwhole
  · obtain ⟨v, hv, halike⟩ := List.any_eq_true.mp hname
    rw [hids v hv] at halike
    have hslash : '/' ∈ i.nodeId.name.toList := by
      show '/' ∈ i.name.plain.toList
      rw [Value.eq_of_alike_text halike]
      show '/' ∈ id.write.toList
      simp [NodeId.toList_write]
    exact absurd hslash hi.name_whole
  · have hwritten := hids _ (List.contains_iff_mem.mp hwhole)
    exact NodeId.eq_of_write_eq hi hid (Value.text.inj hwritten)

end Instance

variable [Server τ σ] [Clock τ]

/-- What an identifier stands for in a session, to everything that takes identifiers. -/
structure NodeId.StandsFor (id : NodeId) (p : Provider) (project : Value)
    (s : Session τ (Account σ) Exchange) : Prop where
  /-- The node is read by one request. -/
  read : ∃ answer t, (Request.getInstance project id.zone id.name).Made s answer t ∧
    (p.getNode id.write).perform s = (readAnswer InstanceMessage.toInstance answer, t)
  /-- It is deleted by one request, behind which only the operation is read. -/
  destroyed : ∃ deleting watching,
    ((p.destroyNode id.write).perform s).2.calls = s.calls ++ deleting :: watching ∧
      deleting.request = .deleteInstance project id.zone id.name ∧
      ∀ e ∈ watching, ∃ zone name, e.request = .getOperation project zone name
  /-- Of all nodes, the one of this zone and name is picked wherever the identifier is among those
  asked for, and no other where it is the only one. -/
  picked : ∀ ids : List Value, (∀ v ∈ ids, v.canBeKey = true) → .text id.write ∈ ids →
    (∀ halt t, p.listNodes.perform s = (.error halt, t) →
      (p.listNodesByIds ids).perform s = (.error halt, t)) ∧
    ∀ nodes t, p.listNodes.perform s = (.ok nodes, t) →
      ∃ chosen, (p.listNodesByIds ids).perform s = (.ok chosen, t) ∧ chosen.Sublist nodes ∧
        (∀ i ∈ nodes, i.nodeId = id → i ∈ chosen) ∧
        ((∀ v ∈ ids, v = .text id.write) → ∀ i ∈ chosen, i.nodeId.IsPlain → i.nodeId = id)

namespace Provider

variable {p : Provider} {id : NodeId} {project : Value} {s t : Session τ (Account σ) Exchange}

omit [Clock τ] in
theorem perform_listNodesByIds (p : Provider) {ids : List Value}
    (hkeys : ∀ v ∈ ids, v.canBeKey = true) (s : Session τ (Account σ) Exchange) :
    (p.listNodesByIds ids).perform s = match p.listNodes.perform s with
      | (.ok nodes, t) => (.ok (nodes.filter (·.isNamedBy ids)), t)
      | (.error halt, t) => (.error halt, t) := by
  have hfind : ids.find? (!·.canBeKey) = none := by simpa using hkeys
  rw [listNodesByIds, hfind]
  show (p.listNodes >>= fun nodes => pure (nodes.filter (·.isNamedBy ids))).perform s = _
  rw [Act.perform_bind]
  rcases p.listNodes.perform s with ⟨r, t⟩
  cases r <;> rfl

/-- **What an identifier stands for** once the project is known and its node can be read. -/
theorem standsFor (hplain : id.IsPlain) (hproject : s.world.project = ⟨some project⟩)
    (hfit : (Request.getInstance project id.zone id.name).check = .ok ()) :
    id.StandsFor p project s := by
  have hread : NodeId.read? id.write = some id := NodeId.read?_eq_some_iff.mpr ⟨hplain, rfl⟩
  have hknown : p.project.perform s = (.ok project, s) := Account.projectName_known hproject
  refine ⟨?_, ?_, fun ids hkeys hmem => ?_⟩
  · rw [getNode, Act.perform_bind_ok (perform_readId hread), Act.perform_bind_ok hknown]
    obtain ⟨added, hadded, hasked⟩ := getInstance_goes project id.zone id.name s
    rcases hasked.refused_or_made hadded with ⟨fault, hunfit, -⟩ | ⟨answer, hmade, hanswer⟩
    · rw [hfit] at hunfit
      cases hunfit
    · exact ⟨answer, _, hmade, Prod.ext hanswer rfl⟩
  · obtain ⟨r, u, hperform, hdestruction⟩ := destroyNode_resolved hplain hknown
    obtain ⟨deleting, watching, hcalls, hdeleting, -, hmade, hwatching⟩ :=
      hdestruction.calls hproject
    have hsendable : ∀ v ∈ [project, (id.zone : Value), (id.name : Value)], v.IsSendable :=
      Texts.check_eq_ok_iff.mp hfit
    obtain ⟨e, rfl⟩ := List.length_eq_one_iff.mp (hmade.mpr (NodeId.check_deletion.mpr hsendable))
    refine ⟨e, watching, ?_, hdeleting e (List.mem_singleton_self e), hwatching⟩
    simp [hperform, hcalls]
  · rw [perform_listNodesByIds p hkeys]
    refine ⟨fun halt t hlist => by rw [hlist], fun nodes t hlist => ?_⟩
    refine ⟨_, by rw [hlist], List.filter_sublist, fun i hi hnode => ?_, fun hids i hi hi' => ?_⟩
    · rw [List.mem_filter]
      exact ⟨hi, Instance.isNamedBy_of_mem (hnode ▸ hmem)⟩
    · exact Instance.nodeId_of_isNamedBy hplain hi' hids (List.mem_filter.mp hi).2

/-- **The identifier of a new node stands for that node**, in the project in which it was read
before it was given, whatever is asked of the provider in between. -/
theorem createNode_standsFor {group name : String} {template : NodeTemplate} {new : NewNode}
    (hplain : NodeId.IsPlain ⟨template.location.id, name⟩)
    (hcreate : (p.createNode group name template).perform s = (.ok new, t)) :
    new.id = ⟨template.location.id, name⟩ ∧ ∃ project calls, t.calls = s.calls ++ calls ∧
      (∃ e ∈ calls, e.request = .getInstance project new.id.zone new.id.name) ∧
      (∀ e ∈ calls, e.request.endpoint = .getInstance →
        e.request = .getInstance project new.id.zone new.id.name) ∧
      ∀ tasks : List Task, new.id.StandsFor p project (p.after tasks t) := by
  obtain ⟨added, hadded, c, project, hcalls, hfollows, hnew⟩ :=
    p.createNode_phases group name template s
  rw [hcreate] at hadded hnew
  obtain ⟨hid, hreading, hfit⟩ := hnew new rfl
  obtain ⟨e, he⟩ := List.exists_mem_of_ne_nil _ hreading
  -- the project of the readings is the one that was told, and the account knows it
  obtain ⟨operation, ⟨inserting, hinserting, -⟩, -⟩ := hfollows.settled hreading
  obtain ⟨v, -, -, hproject, -⟩ := hfollows.found (by simp [hinserting])
  obtain ⟨checked, hchecked⟩ : ∃ checked, template.check = .ok checked :=
    hfollows.checked (by simp [Creation.calls, hreading])
  obtain ⟨-, -, htold⟩ := (p.createNode_phased group name hchecked).known s
  rw [hcreate] at htold
  obtain ⟨project', u, hproject', hknown⟩ := htold new rfl
  obtain rfl : project = project' := by
    rw [hproject] at hproject'
    cases hproject'
    rfl
  rw [hid]
  refine ⟨rfl, project, c.calls, ?_, ⟨e, ?_, hfollows.reads e he⟩, fun e he hread => ?_,
    fun tasks => standsFor hplain (p.after_known tasks hknown) hfit⟩
  · rw [← hcalls]
    exact Session.calls_of_events hadded
  · simp [Creation.calls, he]
  · rcases List.mem_append.mp he with he | he
    · exact absurd hread (hfollows.unread e he)
    · exact hfollows.reads e he

/-- The node that is made at `slowService`. -/
def slowNode : NewNode := newNode "a" smallNode { name := "a", zone := "z", id := "0" }

/-- Where making it leaves the session. -/
def slowMade : Session Float (Account Script) Exchange :=
  ((patientProvider.createNode "g" "a" smallNode).perform slowService).2

theorem createNode_standsFor_slowService :
    (patientProvider.createNode "g" "a" smallNode).perform slowService = (.ok slowNode, slowMade) ∧
      ∃ project, slowNode.id.StandsFor patientProvider project slowMade := by
  have hcreate : (patientProvider.createNode "g" "a" smallNode).perform slowService
      = (.ok slowNode, slowMade) :=
    Prod.ext (Act.eq_ok_of_toOption (by decide +kernel)) (by rw [slowMade])
  have hplain : NodeId.IsPlain ⟨smallNode.location.id, "a"⟩ :=
    ⟨by decide, by decide, by decide, by decide⟩
  obtain ⟨-, project, calls, -, -, -, hstands⟩ := createNode_standsFor hplain hcreate
  exact ⟨hcreate, project, hstands []⟩

end Provider

end ComputeNodes
