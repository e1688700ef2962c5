/-
Which requests making a node makes, and in which order.

A run of `createNode` looks up the project, then the machine type, inserts the instance, re-reads
the operation and reads the instance, and it may end after any request.  `Creation` is a run cut
into these five phases, and `Creation.Follows` says what each phase may hold and what it takes to
come to it.  `createNode_requests` cuts every run.

Each phase is a lemma of its own about the computation behind it.  The two waits are the only loops,
and what the first one asks for is known of every wait of a provider.
-/
import ComputeNodes.Proofs.Provider.Rereads
import ComputeNodes.Provider.Create

namespace ComputeNodes

variable {τ σ : Type}

/-- Whether some events hold no request but one, and hold that one where anything came of it. -/
def Request.IsAlone {β : Type} (request : Request) (l : List (Event τ Exchange))
    (r : Except Halt β) : Prop :=
  (∀ e ∈ requests l, e.request = request) ∧
    ∀ b, r = .ok b → requests l ≠ [] ∧ request.check = .ok ()

namespace Provider

variable [Server τ σ] [Clock τ]

/-- A wait for an instance reads it and does nothing else, and gives only what was read. -/
theorem awaitVisible_goes (p : Provider) (project : Value) (zone name : String)
    (s : Session τ (Account σ) Exchange) :
    (p.awaitVisible project zone name).Goes s fun added r _ =>
      (Request.getInstance project zone name).IsAlone added r := by
  have hwait : (pollUntilPresent p.patience ("instance " ++ zone ++ "/" ++ name)
      (getInstance project zone name)).Goes s fun added r _ =>
        (Request.getInstance project zone name).IsAlone added r := by
    refine Poll.retryUntil_goes
      (fun l _ _ => ∀ e ∈ requests l, e.request = .getInstance project zone name)
      (fun l r _ => (Request.getInstance project zone name).IsAlone l r) (by simp [requests]) ?_ ?_
      (fun _ _ _ _ _ h => ⟨h, nofun⟩) (fun _ _ _ h => ⟨h.1, nofun⟩)
      (fun _ _ _ _ _ h => ⟨h.1, nofun⟩) ?_
    · intro l last t hl
      refine (getInstance_goes project zone name t).bind ?_ ?_
      · intro more value u h
        refine Act.Goes.pure ⟨by simpa using h.all (· = _) hl rfl, fun _ _ => ⟨?_, h.fit_of_ok⟩⟩
        simpa [requests] using fun _ => h.requests_ne_nil
      · exact fun more halt u h => ⟨h.all (· = _) hl rfl, nofun⟩
    · intro length l seen t _ ⟨hl, _⟩
      simpa [requests] using hl
    · intro l seen attempts t entry ⟨hl, hasked⟩
      exact ⟨by simpa [requests] using hl, fun _ _ => by simpa [requests] using hasked seen rfl⟩
  refine hwait.bind ?_ fun _ _ _ h => ⟨h.1, nofun⟩
  intro added visible t ⟨h, hasked⟩
  split
  · exact Act.Goes.pure ⟨by simpa using h, fun _ _ => by simpa using hasked visible rfl⟩
  · unfold Error.visibilityTimeout?
    split
    · exact Act.Goes.bind_silent (Act.perform_ofExcept _ t)
        (Act.Goes.fail ⟨by simpa using h, nofun⟩)
    · exact Act.Goes.of_perform [] (Act.perform_bind_error (Act.perform_ofExcept _ t)) (by simp)
        ⟨by simpa using h, nofun⟩

end Provider

/-- A template that is accepted has a network and an image with an address, and keeps its parts. -/
theorem NodeTemplate.eq_of_check {template : NodeTemplate} {checked : CheckedTemplate}
    (h : template.check = .ok checked) :
    ∃ network imageUri, template.optionSet.options.network.bind nonEmpty? = some network ∧
      template.image.uri.bind nonEmpty? = some imageUri ∧
      checked = { hardware := template.hardware, zone := template.location.id,
                  image := template.image, imageUri, network,
                  options := template.optionSet.options } := by
  unfold check at h
  by_cases hmissing : template.optionSet.missing = []
  · cases hnetwork : template.optionSet.options.network.bind nonEmpty? <;>
      cases hzone : template.location.isZone <;>
      cases huri : template.image.uri.bind nonEmpty? <;>
      simp [hmissing, hnetwork, hzone, huri, throw, throwThe, MonadExceptOf.throw, bind,
        Except.bind, pure, Except.pure] at h
    -- only where nothing is missing is there a template to speak of
    exact ⟨_, _, rfl, rfl, h.symm⟩
  · simp [hmissing, throw, throwThe, MonadExceptOf.throw, bind, Except.bind] at h

theorem NodeTemplate.check_eq_ok {template : NodeTemplate} {checked : CheckedTemplate}
    (h : template.check = .ok checked) :
    checked.hardware = template.hardware ∧ checked.zone = template.location.id ∧
      checked.image = template.image ∧ checked.options = template.optionSet.options := by
  obtain ⟨network, imageUri, -, -, rfl⟩ := eq_of_check h
  exact ⟨rfl, rfl, rfl, rfl⟩

/-! ### Runs in phases -/

/-- The requests of a run, by phases. -/
structure Creation where
  resolving : List Exchange := []
  choosing : List Exchange := []
  inserting : List Exchange := []
  watching : List Exchange := []
  reading : List Exchange := []

namespace Creation

/-- All requests of a run, in order. -/
def calls (c : Creation) : List Exchange :=
  c.resolving ++ c.choosing ++ c.inserting ++ c.watching ++ c.reading

/-- Whether the insertion was made and answered with an operation. -/
def Submits (c : Creation) (operation : Operation) : Prop :=
  ∃ e, c.inserting = [e] ∧ e.operation? = some operation

variable [Server τ σ]

/-- What the phases of a run hold that makes a node in a project, and what it takes to come to
them. -/
structure Follows (c : Creation) (p : Provider) (name : String) (template : NodeTemplate)
    (s : Session τ (Account σ) Exchange) (project : Value) : Prop where
  /-- Nothing is asked for a template that is not accepted. -/
  checked : c.calls ≠ [] → ∃ checked, template.check = .ok checked
  resolves_once : c.resolving.length ≤ 1
  resolves : ∀ e ∈ c.resolving, e.request = .getProject (projectId p.identity)
  /-- Machine types are looked up in a project that was resolved. -/
  resolved : c.choosing ≠ [] → ∃ t, p.project.perform s = (.ok project, t) ∧
    t.calls = s.calls ++ c.resolving
  chooses : ∀ e ∈ c.choosing,
    MachineTypeLookup project template.location.id template.hardware e.request
  /-- An instance is inserted when a machine type was found. -/
  found : c.inserting ≠ [] → ∃ t machineType u, p.project.perform s = (.ok project, t) ∧
    t.calls = s.calls ++ c.resolving ∧
    (getMachineType p.patience.limit project template.location.id template.hardware).perform t
      = (.ok (some machineType), u) ∧
    u.calls = t.calls ++ c.choosing
  inserts_once : c.inserting.length ≤ 1
  inserts : ∀ e ∈ c.inserting, ∃ spec,
    e.request = .insertInstance project template.location.id (.ofSpec name spec)
  /-- The operation is watched where the options say so, once there is one. -/
  watched : c.watching ≠ [] → template.optionSet.options.blockUntilRunning = true ∧
    ∃ operation, c.Submits operation
  rereads : ∀ e ∈ c.watching, ∃ zone name, e.request = .getOperation project zone name
  /-- The instance is read once it was asked for, and where the operation is watched, only when the
  last view of it is done and did not fail. -/
  settled : c.reading ≠ [] → ∃ operation, c.Submits operation ∧
    (template.optionSet.options.blockUntilRunning = true →
      (operation.after c.watching).isDone = true ∧
        (operation.after c.watching).httpError = none)
  reads : ∀ e ∈ c.reading, e.request = .getInstance project template.location.id name

variable {p : Provider} {name : String} {template : NodeTemplate}
  {s : Session τ (Account σ) Exchange} {project : Value}
  {resolving choosing inserting watching reading : List Exchange}

theorem follows_nil (p : Provider) (name : String) (template : NodeTemplate)
    (s : Session τ (Account σ) Exchange) (project : Value) :
    ({} : Creation).Follows p name template s project := by
  constructor <;> simp [calls]

/-- A run comes to its first phase with a template that is accepted. -/
theorem follows_resolving (name : String) (s : Session τ (Account σ) Exchange) (project : Value)
    (hcheck : ∃ checked, template.check = .ok checked) (honce : resolving.length ≤ 1)
    (hlookup : ∀ e ∈ resolving, e.request = .getProject (projectId p.identity)) :
    ({ resolving } : Creation).Follows p name template s project := by
  constructor <;> simp_all [calls]

namespace Follows

theorem choose (h : ({ resolving } : Creation).Follows p name template s project)
    (hcheck : ∃ checked, template.check = .ok checked)
    (hresolved : ∃ t, p.project.perform s = (.ok project, t) ∧ t.calls = s.calls ++ resolving)
    (hlookup : ∀ e ∈ choosing,
      MachineTypeLookup project template.location.id template.hardware e.request) :
    ({ resolving, choosing } : Creation).Follows p name template s project :=
  { h with
    checked := fun _ => hcheck
    resolved := fun _ => hresolved
    chooses := hlookup
    found := fun hnone => absurd rfl hnone }

theorem insert (h : ({ resolving, choosing } : Creation).Follows p name template s project)
    (hcheck : ∃ checked, template.check = .ok checked)
    (hfound : ∃ t machineType u, p.project.perform s = (.ok project, t) ∧
      t.calls = s.calls ++ resolving ∧
      (getMachineType p.patience.limit project template.location.id template.hardware).perform t
        = (.ok (some machineType), u) ∧
      u.calls = t.calls ++ choosing)
    (honce : inserting.length ≤ 1)
    (hinsertion : ∀ e ∈ inserting, ∃ spec,
      e.request = .insertInstance project template.location.id (.ofSpec name spec)) :
    ({ resolving, choosing, inserting } : Creation).Follows p name template s project :=
  { h with
    checked := fun _ => hcheck
    found := fun _ => hfound
    inserts_once := honce
    inserts := hinsertion
    watched := fun hnone => absurd rfl hnone
    settled := fun hnone => absurd rfl hnone }

theorem wait {e : Exchange} {operation : Operation}
    (h : ({ resolving, choosing, inserting := [e] } : Creation).Follows p name template s project)
    (hcheck : ∃ checked, template.check = .ok checked)
    (hoperation : e.operation? = some operation)
    (hblock : watching ≠ [] → template.optionSet.options.blockUntilRunning = true)
    (hreread : ∀ e ∈ watching, ∃ zone name, e.request = .getOperation project zone name)
    (hsettled : reading ≠ [] → template.optionSet.options.blockUntilRunning = true →
      (operation.after watching).isDone = true ∧ (operation.after watching).httpError = none)
    (hread : ∀ e ∈ reading, e.request = .getInstance project template.location.id name) :
    ({ resolving, choosing, inserting := [e], watching, reading } : Creation).Follows p name
      template s project :=
  { h with
    checked := fun _ => hcheck
    watched := fun hsome => ⟨hblock hsome, operation, e, rfl, hoperation⟩
    rereads := hreread
    settled := fun hsome => ⟨operation, ⟨e, rfl, hoperation⟩, hsettled hsome⟩
    reads := hread }

variable {c : Creation}

/-- Only reading goes to the endpoint that instances are read from, and only inserting inserts. -/
theorem endpoint_of_mem (h : c.Follows p name template s project) :
    (∀ e ∈ c.resolving ++ c.choosing, e.request.endpoint ≠ .getInstance ∧
      e.request.endpoint ≠ .insertInstance) ∧
    (∀ e ∈ c.inserting, e.request.endpoint ≠ .getInstance) ∧
    (∀ e ∈ c.watching, e.request.endpoint ≠ .getInstance ∧
      e.request.endpoint ≠ .insertInstance) ∧
    ∀ e ∈ c.reading, e.request.endpoint = .getInstance := by
  refine ⟨fun e he => ?_, fun e he => ?_, fun e he => ?_, fun e he => ?_⟩
  · rcases List.mem_append.mp he with he | he
    · rw [h.resolves e he]
      exact ⟨nofun, nofun⟩
    · cases hrequest : e.request <;> cases hrequest ▸ h.chooses e he <;> exact ⟨nofun, nofun⟩
  · obtain ⟨spec, hrequest⟩ := h.inserts e he
    rw [hrequest]
    exact nofun
  · obtain ⟨zone, name, hrequest⟩ := h.rereads e he
    rw [hrequest]
    exact ⟨nofun, nofun⟩
  · rw [h.reads e he]
    rfl

theorem unread (h : c.Follows p name template s project) :
    ∀ e ∈ c.resolving ++ c.choosing ++ c.inserting ++ c.watching,
      e.request.endpoint ≠ .getInstance := by
  obtain ⟨hbefore, hinserting, hwatching, -⟩ := h.endpoint_of_mem
  rw [List.forall_mem_append, List.forall_mem_append]
  exact ⟨⟨fun e he => (hbefore e he).1, hinserting⟩, fun e he => (hwatching e he).1⟩

theorem inserts_le (h : c.Follows p name template s project) :
    (c.calls.filter fun e => e.request.endpoint = .insertInstance).length ≤ 1 := by
  obtain ⟨hbefore, -, hwatching, hreading⟩ := h.endpoint_of_mem
  have hnone : ∀ calls : List Exchange, (∀ e ∈ calls, e.request.endpoint ≠ .insertInstance) →
      calls.filter (fun e => e.request.endpoint = .insertInstance) = [] := by
    intro calls hcalls
    rw [List.filter_eq_nil_iff]
    exact fun e he => by simpa using hcalls e he
  rw [calls, List.filter_append, List.filter_append, List.filter_append,
    hnone (c.resolving ++ c.choosing) fun e he => (hbefore e he).2,
    hnone c.watching fun e he => (hwatching e he).2,
    hnone c.reading fun e he => by rw [hreading e he]; exact nofun,
    List.nil_append, List.append_nil, List.append_nil]
  exact Nat.le_trans (List.length_filter_le _ _) h.inserts_once

theorem rereads_before_reads (h : c.Follows p name template s project) :
    c.calls.Pairwise fun e later => e.request.endpoint = .getInstance →
      ∀ zonal, later.request.endpoint ≠ .getOperation zonal := by
  obtain ⟨-, -, -, hreading⟩ := h.endpoint_of_mem
  rw [calls, List.pairwise_append]
  refine ⟨?_, ?_, fun e he later _ hread => absurd hread (h.unread e he)⟩
  · exact List.pairwise_of_forall_mem_list fun e he later _ hread => absurd hread (h.unread e he)
  · refine List.pairwise_of_forall_mem_list fun e _ later hlater _ zonal => ?_
    rw [hreading later hlater]
    exact nofun

end Follows

end Creation

namespace Provider

variable [Server τ σ] {name : String} {template : NodeTemplate} {checked : CheckedTemplate}

/-- An insertion is made once at most, and gives the operation of its answer. -/
theorem insertion_goes {project : Value} (zone name : Value) (spec : InstanceSpec)
    {s : Session τ (Account σ) Exchange} (hproject : s.world.project = ⟨some project⟩) :
    (insertInstance project zone name spec).Goes s fun added r t =>
      t.world.project = ⟨some project⟩ ∧ (requests added).length ≤ 1 ∧
        (∀ e ∈ requests added, ∃ spec,
          e.request = .insertInstance project zone (.ofSpec name spec)) ∧
        ∀ operation, r = .ok operation →
          ∃ e, requests added = [e] ∧ e.operation? = some operation := by
  refine (insertInstance_goes project zone name spec s).mono ?_
  rintro added r t ⟨first, u, hasked, hcalls, -, hworld⟩
  rw [hcalls, hworld]
  refine ⟨hasked.keeps (Account.keeps_project _) hproject, hasked.length_le,
    fun e he => ⟨spec, hasked.request_eq e he⟩, fun operation hoperation => ?_⟩
  rcases hasked.requests_eq with ⟨-, fault, hfault⟩ | ⟨answer, hone, hread⟩
  · rw [hfault] at hoperation
    cases hoperation
  · rw [hoperation] at hread
    exact ⟨_, hone, operation?_of_insertion hread⟩

theorem submit_goes (p : Provider) (group : String) (hchecked : template.check = .ok checked)
    (s : Session τ (Account σ) Exchange) :
    (p.submit group name checked).Goes s fun added r t =>
      ∃ (resolving choosing inserting : List Exchange) (project : Value),
        requests added = resolving ++ choosing ++ inserting ∧
        ({ resolving, choosing, inserting } : Creation).Follows p name template s project ∧
        ∀ made, r = .ok made → made.1 = project ∧ t.world.project = ⟨some project⟩ ∧
          ∃ e, inserting = [e] ∧ e.operation? = some made.2 := by
  obtain ⟨hhardware, hzone, -, -⟩ := NodeTemplate.check_eq_ok hchecked
  have hcheck : ∃ checked, template.check = .ok checked := ⟨checked, hchecked⟩
  unfold submit
  refine (Account.projectName_goes p.identity s).with_perform.bind ?_ ?_
  · rintro resolving project t ⟨⟨hproject, hresolving⟩, honce, hlookup, hknown⟩
    have hcalls : t.calls = s.calls ++ requests resolving := Session.calls_of_events hresolving
    have hfollows := Creation.follows_resolving name s project hcheck honce hlookup
    refine (getMachineType_goes (Account.keeps_project ⟨some project⟩) (hknown project rfl)
      p.patience.limit project checked.zone checked.hardware).with_perform.bind ?_ ?_
    · rintro choosing found u ⟨⟨hfound, hchosen⟩, hkept, hchoosing, -⟩
      rw [hzone, hhardware] at hchoosing
      have hchoose := hfollows.choose hcheck ⟨t, hproject, hcalls⟩ hchoosing
      cases found with
      | none =>
        exact Act.Goes.fail ⟨requests resolving, requests choosing, [], project,
          by simp [requests], hchoose, fun _ hmade => by cases hmade⟩
      | some machineType =>
        refine Act.Goes.bind_ok _ (Act.perform_log _ _ _ u) (Session.events_add _ _) ?_
        have hfound' : ∃ t machineType u, p.project.perform s = (.ok project, t) ∧
            t.calls = s.calls ++ requests resolving ∧
            (getMachineType p.patience.limit project template.location.id
              template.hardware).perform t = (.ok (some machineType), u) ∧
            u.calls = t.calls ++ requests choosing := by
          refine ⟨t, machineType, u, hproject, hcalls, ?_, Session.calls_of_events hchosen⟩
          rw [← hzone, ← hhardware]
          exact hfound
        refine (insertion_goes (s := u.add _) checked.zone name _ hkept).map ?_
        rintro inserting r v ⟨hknown', honce', hinsertion, hgiven⟩
        rw [hzone] at hinsertion
        refine ⟨requests resolving, requests choosing, requests inserting, project,
          by simp [requests], hchoose.insert hcheck hfound' honce' hinsertion, fun made hmade => ?_⟩
        cases r with
        | error halt => cases hmade
        | ok operation =>
          cases hmade
          exact ⟨rfl, hknown', hgiven operation rfl⟩
    · rintro choosing halt u ⟨-, -, hchoosing, -⟩
      rw [hzone, hhardware] at hchoosing
      refine ⟨requests resolving, requests choosing, [], project, by simp [requests],
        hfollows.choose hcheck ⟨t, hproject, hcalls⟩ hchoosing, fun _ hmade => by cases hmade⟩
  · rintro resolving halt t ⟨-, honce, hlookup, -⟩
    exact ⟨requests resolving, [], [], .null, by simp,
      Creation.follows_resolving name s .null hcheck honce hlookup, fun _ hmade => by cases hmade⟩

variable [Clock τ]

/-- Waiting for an instance takes the last two phases, and gives one only in the last. -/
theorem awaitNode_goes (p : Provider) (hchecked : template.check = .ok checked)
    {s t : Session τ (Account σ) Exchange} {project : Value} {operation : Operation}
    {resolving choosing : List Exchange} {e : Exchange}
    (hfollows : ({ resolving, choosing, inserting := [e] } : Creation).Follows p name template s
      project)
    (hoperation : e.operation? = some operation) (hproject : t.world.project = ⟨some project⟩) :
    (p.awaitNode name checked project operation).Goes t fun added r _ =>
      ∃ watching reading : List Exchange, requests added = watching ++ reading ∧
        ({ resolving, choosing, inserting := [e], watching, reading } : Creation).Follows p name
          template s project ∧
        ∀ node, r = .ok node → reading ≠ [] ∧
          (Request.getInstance project template.location.id name).check = .ok () := by
  obtain ⟨-, hzone, -, hoptions⟩ := NodeTemplate.check_eq_ok hchecked
  have hcheck : ∃ checked, template.check = .ok checked := ⟨checked, hchecked⟩
  unfold awaitNode
  rw [hoptions, hzone]
  cases hblock : template.optionSet.options.blockUntilRunning with
  | false =>
    refine (p.awaitVisible_goes project template.location.id name t).mono ?_
    intro reading r u ⟨h, hread⟩
    exact ⟨[], requests reading, rfl,
      hfollows.wait hcheck hoperation (by simp) (by simp) (by simp [hblock]) h, hread⟩
  | true =>
    refine (p.await_goes hproject operation).bind ?_ ?_
    · rintro watching o u ⟨hwatching, hsettled⟩
      refine (p.awaitVisible_goes project template.location.id name u).mono ?_
      intro reading r v ⟨h, hread⟩
      exact ⟨requests watching, requests reading, by simp [requests],
        hfollows.wait hcheck hoperation (fun _ => hblock) hwatching (fun _ _ => hsettled o rfl) h,
        hread⟩
    · rintro watching halt u ⟨hwatching, -⟩
      exact ⟨requests watching, [], by simp,
        hfollows.wait hcheck hoperation (fun _ => hblock) hwatching (by simp) (by simp), nofun⟩

/-- Every run of making a node goes through its phases in order, and only one that goes through all
of them gives a node. -/
theorem createNode_phases (p : Provider) (group name : String) (template : NodeTemplate)
    (s : Session τ (Account σ) Exchange) :
    (p.createNode group name template).Goes s fun added r _ =>
      ∃ (c : Creation) (project : Value), requests added = c.calls ∧
        c.Follows p name template s project ∧
        ∀ new, r = .ok new → new.id = ⟨template.location.id, name⟩ ∧ c.reading ≠ [] ∧
          (Request.getInstance project template.location.id name).check = .ok () := by
  unfold createNode
  cases hchecked : template.check with
  | error fault =>
    exact Act.Goes.of_perform [] (Act.perform_bind_error (Act.perform_ofExcept _ s)) (by simp)
      ⟨{}, .null, rfl, Creation.follows_nil p name template s .null, nofun⟩
  | ok checked =>
    refine Act.Goes.bind_silent (Act.perform_ofExcept _ s) ?_
    refine (p.submit_goes group hchecked s).bind ?_ ?_
    · rintro submitting ⟨project, operation⟩ t
        ⟨resolving, choosing, inserting, project, hcalls, hfollows, hmade⟩
      obtain ⟨rfl, hknown, e, rfl, hoperation⟩ := hmade _ rfl
      refine (p.awaitNode_goes hchecked hfollows hoperation hknown).bind ?_ ?_
      · rintro waiting node u ⟨watching, reading, hwaiting, hall, hread⟩
        refine Act.Goes.bind_ok _ (Act.perform_log _ _ _ u) (Session.events_add _ _) ?_
        refine Act.Goes.pure ⟨_, project, ?_, hall, ?_⟩
        · simp_all [requests, Creation.calls]
        · intro new hnew
          cases hnew
          rw [(NodeTemplate.check_eq_ok hchecked).2.1]
          exact ⟨rfl, hread node rfl⟩
      · rintro waiting halt u ⟨watching, reading, hwaiting, hall, -⟩
        refine ⟨_, project, ?_, hall, nofun⟩
        simp_all [requests, Creation.calls]
    · rintro submitting halt t ⟨resolving, choosing, inserting, project, hcalls, hfollows, -⟩
      exact ⟨{ resolving, choosing, inserting }, project, by simp [hcalls, Creation.calls],
        hfollows, nofun⟩

theorem createNode_goes (p : Provider) (group name : String) (template : NodeTemplate)
    (s : Session τ (Account σ) Exchange) :
    (p.createNode group name template).Goes s fun added _ _ =>
      ∃ (c : Creation) (project : Value), requests added = c.calls ∧
        c.Follows p name template s project :=
  (p.createNode_phases group name template s).mono
    fun _ _ _ ⟨c, project, hcalls, hfollows, _⟩ => ⟨c, project, hcalls, hfollows⟩

/-- **The requests of making a node**, whatever they are answered with: a run of phases in order,
with one insertion at most, and no operation read again once the instance was read. -/
theorem createNode_requests (p : Provider) (group name : String) (template : NodeTemplate)
    (s : Session τ (Account σ) Exchange) :
    ∃ (c : Creation) (project : Value),
      ((p.createNode group name template).perform s).2.calls = s.calls ++ c.calls ∧
        c.Follows p name template s project ∧
        (c.calls.filter fun e => e.request.endpoint = .insertInstance).length ≤ 1 ∧
        c.calls.Pairwise fun e later => e.request.endpoint = .getInstance →
          ∀ zonal, later.request.endpoint ≠ .getOperation zonal := by
  obtain ⟨added, hadded, c, project, hcalls, hfollows⟩ := p.createNode_goes group name template s
  refine ⟨c, project, ?_, hfollows, hfollows.inserts_le, hfollows.rereads_before_reads⟩
  rw [Session.calls, hadded, Event.calls_append, ← hcalls]
  rfl

end Provider

end ComputeNodes
