/-
Everything that may be asked of a provider, and the laws it keeps to.

A task is one thing asked of a provider, and tasks are carried out one after the other on one
account.  What is said of every task is said of every row of them, by induction on the row.

A faulty task is turned down before anything else is done (`carryOut_faulty`).  Any other needs the
caller's project first of all.  What it does from then on keeps to any law that allows what belongs
to that project, and so does what its waits do, provided that being told the project again keeps to
the law as well (`Admission`).  Only the two tasks about images turn to another project, and they do
so after they have asked in the caller's own.  `Phased` says all this of a computation, and
`carryOut_phased` says it of every task, so whoever proves something about all tasks has two cases
and no computation to open.
-/
import ComputeNodes.Proofs.Provider.Look
import ComputeNodes.Proofs.Service.Account
import ComputeNodes.Proofs.Service.Law
import ComputeNodes.Provider.Create
import ComputeNodes.Provider.Nodes
import ComputeNodes.Provider.Offers

namespace ComputeNodes

namespace Provider

/-- One thing that may be asked of a provider. -/
inductive Task where
  | project
  | createNode (group name : String) (template : NodeTemplate)
  | destroyNode (id : String)
  | getNode (id : String)
  | listNodes
  | listNodesByIds (ids : List Value)
  | listImages
  | findImage (name : Value)
  | listHardware
  | listLocations
  | refuse (action : LifecycleAction)

namespace Task

/-- What a task gives. -/
abbrev Result : Task → Type
  | .project => Value
  | .createNode .. => NewNode
  | .destroyNode _ => Unit
  | .getNode _ => Option Instance
  | .listNodes => List Instance
  | .listNodesByIds _ => List Instance
  | .listImages => List Image
  | .findImage _ => Option Image
  | .listHardware => List MachineType
  | .listLocations => List Zone
  | .refuse _ => Unit

/-- The error of an identifier that identifies no node. -/
def idFault? (id : String) : Option Error :=
  match NodeId.read? id with
  | some _ => none
  | none => some (.malformedNodeId id)

/-- What is wrong with a task, whatever the service says. -/
def fault? : Task → Option Error
  | .createNode _ _ template =>
    match template.check with
    | .ok _ => none
    | .error fault => some (.template fault)
  | .destroyNode id => idFault? id
  | .getNode id => idFault? id
  | .listNodesByIds ids => (ids.find? (!·.canBeKey)).map fun id => .use (.notKey id.typeName)
  | .refuse action => some (.unsupported action)
  | _ => none

end Task

section

variable {τ σ : Type} [Server τ σ] [Clock τ]

/-- Carries out a task. -/
def carryOut (p : Provider) : (task : Task) → Work τ σ task.Result
  | .project => p.project
  | .createNode group name template => p.createNode group name template
  | .destroyNode id => p.destroyNode id
  | .getNode id => p.getNode id
  | .listNodes => p.listNodes
  | .listNodesByIds ids => p.listNodesByIds ids
  | .listImages => p.listImages
  | .findImage name => p.findImage name
  | .listHardware => p.listHardware
  | .listLocations => p.listLocations
  | .refuse action => refuse action

/-- The session that some tasks leave, however each of them comes out. -/
def after (p : Provider) (tasks : List Task) (s : Session τ (Account σ) Exchange) :
    Session τ (Account σ) Exchange :=
  tasks.foldl (fun s task => ((p.carryOut task).perform s).2) s

end

variable {τ σ : Type} [Server τ σ] {p : Provider} {law : Law τ Exchange} {K : Account σ → Prop}
  {V : Value → Prop}

/-! ### Faults -/

omit [Server τ σ] in
theorem readId_of_idFault? {id : String} (h : Task.idFault? id = none) :
    ∃ node, (readId id : Work τ σ NodeId) = pure node := by
  unfold Task.idFault? at h
  unfold readId
  cases hread : NodeId.read? id with
  | none => rw [hread] at h; cases h
  | some node => exact ⟨node, rfl⟩

omit [Server τ σ] in
theorem perform_readId_of_idFault? {id : String} {error : Error}
    (h : Task.idFault? id = some error) (s : Session τ (Account σ) Exchange) :
    (readId id : Work τ σ NodeId).perform s = (.error (.failed error), s) := by
  unfold Task.idFault? at h
  unfold readId
  cases hread : NodeId.read? id with
  | none => rw [hread] at h; cases h; rfl
  | some node => rw [hread] at h; cases h

/-- **A faulty task is turned down**, and that is all. -/
theorem carryOut_faulty [Clock τ] (p : Provider) {task : Task} {error : Error}
    (h : task.fault? = some error) (s : Session τ (Account σ) Exchange) :
    (p.carryOut task).perform s = (.error (.failed error), s) := by
  cases task with
  | createNode group name template =>
    cases hcheck : template.check with
    | ok checked => rw [Task.fault?, hcheck] at h; cases h
    | error fault =>
      rw [Task.fault?, hcheck] at h
      cases h
      refine Act.perform_bind_error ?_
      rw [hcheck]
      rfl
  | destroyNode id => exact Act.perform_bind_error (perform_readId_of_idFault? h s)
  | getNode id => exact Act.perform_bind_error (perform_readId_of_idFault? h s)
  | listNodesByIds ids =>
    rw [Task.fault?] at h
    rw [carryOut, listNodesByIds]
    cases hfind : ids.find? (!·.canBeKey) with
    | none => rw [hfind] at h; cases h
    | some id => rw [hfind] at h; cases h; rfl
  | refuse action => cases h; rfl
  | _ => cases h

/-! ### Laws -/

/-- Whether a law admits what a provider does, wherever `K` holds of its account: telling the
caller's project, and whatever belongs to a project that may be told. -/
structure Admission (p : Provider) (law : Law τ Exchange) (K : Account σ → Prop)
    (V : Value → Prop) : Prop where
  keeps : Server.Keeps τ K
  resolving : (p.project : Work τ σ Value).Obeys law K V
  allows : ∀ project, V project → law.AllowsIn project

/-- Once the caller's project is known, a law need only allow what belongs to it. -/
theorem admission_known {project : Value} (h : law.AllowsIn project) :
    p.Admission law (fun account : Account σ => account.project = ⟨some project⟩)
      fun name => name = project := by
  refine ⟨Account.keeps_project _, fun s hs => ?_, ?_⟩
  · refine Act.Goes.of_perform [] (Account.projectName_known hs) (by simp) ⟨law.nil, hs, ?_⟩
    intro name hname
    cases hname
    rfl
  · rintro _ rfl
    exact h

theorem admission_lax (p : Provider) (project : Value) :
    p.Admission (.lax : Law τ Exchange)
      (fun account : Account σ => account.project = ⟨some project⟩) fun name => name = project :=
  admission_known fun _ _ _ => trivial

theorem isOwn_placeOf {word : Value} {error : Error} (h : Status.placeOf word = .error error) :
    error.IsOwn := by
  unfold Status.placeOf at h
  split at h
  · split at h
    · cases h
    · cases h
      exact nofun
  · cases h
    exact nofun

theorem isOwn_add {α : Type} [Keyed α] {others : List α} {a : α} {error : Error}
    (h : Keyed.add others a = .error error) : error.IsOwn := by
  unfold Keyed.add at h
  split at h
  · cases h
    exact nofun
  · cases h

theorem isOwn_addAll {α : Type} [Keyed α] {others records : List α} {error : Error}
    (h : Keyed.addAll others records = .error error) : error.IsOwn := by
  unfold Keyed.addAll at h
  induction records generalizing others with
  | nil => cases h
  | cons a records ih =>
    rw [List.foldlM_cons] at h
    cases hadd : Keyed.add others a with
    | error fault =>
      rw [hadd] at h
      cases h
      exact isOwn_add hadd
    | ok more =>
      rw [hadd] at h
      exact ih h

namespace Admission

/-- A question of a wait keeps to a law: the project is told, and the operation read in it. -/
theorem look (h : p.Admission law K V) (kept : Operation) :
    (p.lookup.look kept : Work τ σ _).Obeys law K fun _ => True := by
  have hrank (o : Operation) : (Lookup.rank o : Work τ σ Nat).Obeys law K fun _ => True :=
    .ofExcept (fun _ => isOwn_placeOf) fun _ _ => trivial
  have hreread : (p.lookup.reread kept : Work τ σ _).Obeys law K fun _ => True :=
    h.resolving.bind fun project hproject => .getOperation h.keeps (h.allows project hproject) _ _
  refine hreread.bind fun answer _ => ?_
  cases answer with
  | none => exact (Act.Obeys.log _ _ _).bind fun _ _ => .pure trivial
  | some fresh =>
    refine (hrank fresh).bind fun new _ => (hrank kept).bind fun old _ => ?_
    split
    · exact (Act.Obeys.log _ _ _).bind fun _ _ => .pure trivial
    · exact (Act.Obeys.log _ _ _).bind fun _ _ => .pure trivial

theorem await [Clock τ] (h : p.Admission law K V) (operation : Operation) :
    (p.lookup.await p.patience operation : Work τ σ _).Obeys law K fun _ => True := by
  refine (Act.Obeys.retryUntil fun last => h.look (last.getD operation)).bind fun polled _ => ?_
  intro s hs
  cases hsucceeded : polled.succeeded with
  | true =>
    obtain ⟨entry, hconclude⟩ := Lookup.conclude_done p.patience polled hsucceeded s
    refine Act.Goes.of_perform _ hconclude (Session.events_add _ _) ⟨?_, hs, fun _ _ => trivial⟩
    unfold Operation.ended
    cases polled.value.failure? with
    | none => exact law.log entry
    | some error => exact Law.then_own (law.log entry) nofun
  | false =>
    have hown : (polled.value.lateError p.patience.timeout).IsOwn := by
      unfold Operation.lateError
      cases p.patience.timeout.tenths? <;> exact nofun
    exact Act.Goes.of_perform [] (Lookup.conclude_late p.patience polled hsucceeded s) (by simp)
      ⟨law.own hown, hs, nofun⟩

theorem listAll (h : p.Admission law K V) {what : Listed} {scope : ListScope}
    (hallows : ∀ marker, law.Allows (.list what (.ofScope scope marker))) :
    (p.listAll what scope : Work τ σ _).Obeys law K fun _ => True := by
  refine (Act.Obeys.list h.keeps hallows).bind fun listing hnext => ?_
  exact .foldFrom hnext (fun _ _ => .pure trivial) _ _ _

end Admission

theorem addDistinct_obeys (p : Provider) (hK : Server.Keeps τ K) (what : Listed)
    [Keyed what.Item] (others : List what.Item) (scope : ListScope)
    (hallows : ∀ marker, law.Allows (.list what (.ofScope scope marker))) :
    (p.addDistinct what others scope : Work τ σ _).Obeys law K fun _ => True := by
  refine (Act.Obeys.list hK hallows).bind fun listing hnext => ?_
  refine .foldFrom hnext (fun _ _ => ?_) _ _ _
  exact .ofExcept (fun _ => isOwn_addAll) fun _ _ => trivial

/-- Waiting for an instance keeps to a law that allows what belongs to its project. -/
theorem awaitVisible_obeys [Clock τ] (p : Provider) (hK : Server.Keeps τ K) {project : Value}
    (hallows : law.AllowsIn project) (zone name : String) :
    (p.awaitVisible project zone name : Work τ σ _).Obeys law K fun _ => True := by
  have hprobe (_ : Option (Option Instance)) : (do
      let value ← getInstance project zone name
      return { value, done := value.isSome } : Work τ σ (Probe (Option Instance))).Obeys law K
        fun _ => True :=
    (Act.Obeys.getInstance hK hallows _ _).bind fun _ _ => .pure trivial
  refine (Act.Obeys.retryUntil hprobe).bind fun visible _ => ?_
  split
  · exact .pure trivial
  · have hlate : (Act.ofExcept (Error.visibilityTimeout? zone name p.patience.timeout)
        : Work τ σ Error).Obeys law K Error.IsOwn := by
      unfold Error.visibilityTimeout?
      split
      · exact .pure nofun
      · exact .fail nofun
    exact hlate.bind fun error hown => .fail hown

/-! ### Phases -/

/-- Whether a computation first has the caller's project told, and then keeps to any law that allows
what belongs to it; only behind what it did so far in that project it may turn to the images of the
shared one. -/
inductive Phased (p : Provider) : {α : Type} → Work τ σ α → Prop
  | own {α : Type} {rest : Value → Work τ σ α}
    (obeys : ∀ {law : Law τ Exchange} {K : Account σ → Prop} {V : Value → Prop},
      p.Admission law K V → ∀ project, V project →
        (rest project).Obeys law K fun _ => True) :
    Phased p (p.project >>= rest)
  | shared {α β : Type} {rest : Value → Work τ σ β} {further : β → Work τ σ α}
    (obeys : ∀ {law : Law τ Exchange} {K : Account σ → Prop} {V : Value → Prop},
      p.Admission law K V → ∀ project, V project →
        (rest project).Obeys law K fun _ => True)
    (asks : ∀ project s, (rest project).Goes s fun added r _ =>
      ∀ b, r = .ok b → requests added ≠ [])
    (obeys_further : ∀ {law : Law τ Exchange} {K : Account σ → Prop}, Server.Keeps τ K →
      law.AllowsImagesIn p.imageProject → ∀ b, (further b).Obeys law K fun _ => True) :
    Phased p (p.project >>= fun project => rest project >>= further)

omit [Server τ σ] in
theorem ofExcept_check {template : NodeTemplate} {checked : CheckedTemplate}
    (hcheck : template.check = .ok checked) :
    (Act.ofExcept (template.check.mapError .template) : Work τ σ CheckedTemplate)
      = pure checked := by
  rw [hcheck]
  rfl

theorem createNode_phased [Clock τ] (p : Provider) (group name : String) {template : NodeTemplate}
    {checked : CheckedTemplate} (hcheck : template.check = .ok checked) :
    p.Phased (p.createNode group name template : Work τ σ NewNode) := by
  unfold createNode submit
  rw [ofExcept_check hcheck, pure_bind, bind_assoc]
  refine .own fun {law K V} h project hproject => ?_
  have hallows := h.allows project hproject
  refine .bind (V := fun made : Value × Operation => V made.1) ?_ fun made hmade => ?_
  · refine (Act.Obeys.getMachineType h.keeps hallows _ _ _).bind fun found _ => ?_
    cases found with
    | none => exact .fail nofun
    | some machineType =>
      refine (Act.Obeys.log _ _ _).bind fun _ _ => ?_
      exact (Act.Obeys.insertInstance h.keeps hallows _ _ _).bind fun _ _ => .pure hproject
  · have hvisible := p.awaitVisible_obeys h.keeps (h.allows made.1 hmade) checked.zone name
    have hwait : (p.awaitNode name checked made.1 made.2 : Work τ σ Instance).Obeys law K
        fun _ => True := by
      unfold awaitNode
      split
      · exact (h.await made.2).bind fun _ _ => hvisible
      · exact hvisible
    exact hwait.bind fun node _ => (Act.Obeys.log _ _ _).bind fun _ _ => .pure trivial

theorem destroyNode_phased [Clock τ] (p : Provider) {id : String} (hid : Task.idFault? id = none) :
    p.Phased (p.destroyNode id : Work τ σ Unit) := by
  obtain ⟨node, hread⟩ := readId_of_idFault? (τ := τ) (σ := σ) hid
  unfold destroyNode
  rw [hread, pure_bind]
  refine .own fun h project hproject => ?_
  refine (Act.Obeys.deleteInstance h.keeps (h.allows project hproject) _ _).bind fun found _ => ?_
  cases found with
  | none => exact .log _ _ _
  | some operation =>
    exact (Act.Obeys.log _ _ _).bind fun _ _ => (h.await operation).bind fun _ _ => .pure trivial

theorem getNode_phased (p : Provider) {id : String} (hid : Task.idFault? id = none) :
    p.Phased (p.getNode id : Work τ σ (Option Instance)) := by
  obtain ⟨node, hread⟩ := readId_of_idFault? (τ := τ) (σ := σ) hid
  unfold getNode
  rw [hread, pure_bind]
  exact .own fun h project hproject => .getInstance h.keeps (h.allows project hproject) _ _

theorem listNodes_phased {α : Type} (p : Provider) (f : List Instance → α) :
    p.Phased (do return f (← p.listNodes) : Work τ σ α) := by
  unfold listNodes
  rw [bind_assoc]
  refine .own fun h project hproject => ?_
  have hallows := h.allows project hproject
  refine .map (V := fun _ => True) ?_ fun _ _ => trivial
  refine (Act.Obeys.list h.keeps fun _ => hallows _ rfl).bind fun zones hnext => ?_
  refine .foldFrom hnext (fun nodes page => ?_) _ _ _
  refine .foldlM (fun nodes (zone : Zone) => ?_) _ _
  let scope : ListScope := { project, zone := zone.name }
  exact p.addDistinct_obeys h.keeps .instances nodes scope fun marker =>
    hallows (.list .instances (.ofScope scope marker)) rfl

/-- Where the items of a listing were added, its first page was asked for. -/
theorem addDistinct_asks (p : Provider) {what : Listed} [Keyed what.Item]
    (others : List what.Item) (scope : ListScope) (s : Session τ (Account σ) Exchange) :
    (p.addDistinct what others scope).Goes s fun added r _ =>
      ∀ items, r = .ok items → requests added ≠ [] := by
  refine (Listed.list_goes what scope s).bind ?_ fun _ _ _ _ => nofun
  intro first listing t h
  obtain ⟨page, hadvance⟩ := Listed.advance_of_list h
  have hnext (marker : Value) : (listing.next marker).Obeys .lax (fun _ : Account σ => True)
      fun _ => True := .next (fun _ _ _ _ => trivial) (fun _ _ => trivial) hadvance marker
  have hstep (others : List what.Item) (page : ListPage what.Item) :
      (Act.ofExcept (Keyed.addAll others page.items) : Work τ σ _).Obeys .lax (fun _ => True)
        fun _ => True := .ofExcept (fun _ => isOwn_addAll) fun _ _ => trivial
  have hrest := Act.Obeys.foldFrom hnext hstep p.patience.limit listing.first others
  refine (hrest t trivial).mono fun more r u _ items _ => ?_
  simpa [requests] using fun hnone => absurd hnone h.requests_ne_nil

theorem listImages_phased (p : Provider) : p.Phased (p.listImages : Work τ σ (List Image)) := by
  unfold listImages
  refine .shared (fun h project hproject => ?_) (fun project s => ?_) fun hK himages own => ?_
  · exact p.addDistinct_obeys h.keeps .images [] _ fun _ => h.allows project hproject _ rfl
  · exact p.addDistinct_asks [] _ s
  · exact p.addDistinct_obeys hK .images own _ fun _ => himages _ rfl (.inl rfl)

theorem findImage_phased (p : Provider) (name : Value) :
    p.Phased (p.findImage name : Work τ σ (Option Image)) := by
  unfold findImage
  refine .shared (fun h project hproject => ?_) (fun project s => ?_) fun hK himages own => ?_
  · exact .getImage h.keeps (h.allows project hproject).images name
  · refine (read_goes (.getImage project name) _ s).mono fun added r t h found hfound => ?_
    rw [hfound] at h
    exact h.requests_ne_nil
  · cases own with
    | none => exact .getImage hK himages name
    | some image => exact .pure trivial

/-- **Whatever is asked of a provider that is not faulty goes by phases.** -/
theorem carryOut_phased [Clock τ] (p : Provider) {task : Task} (h : task.fault? = none) :
    p.Phased (p.carryOut task : Work τ σ task.Result) := by
  cases task with
  | project =>
    have htold : p.Phased (p.project >>= pure : Work τ σ Value) := .own fun _ _ _ => .pure trivial
    rwa [bind_pure] at htold
  | createNode group name template =>
    cases hcheck : template.check with
    | error fault => rw [Task.fault?, hcheck] at h; cases h
    | ok checked => exact p.createNode_phased group name hcheck
  | destroyNode id => exact p.destroyNode_phased h
  | getNode id => exact p.getNode_phased h
  | listNodes =>
    have hnodes := p.listNodes_phased (τ := τ) (σ := σ) id
    simp only [id, bind_pure] at hnodes
    exact hnodes
  | listNodesByIds ids =>
    rw [Task.fault?] at h
    rw [carryOut, listNodesByIds]
    cases hfind : ids.find? (!·.canBeKey) with
    | none => exact p.listNodes_phased _
    | some id => rw [hfind] at h; cases h
  | listImages => exact p.listImages_phased
  | findImage name => exact p.findImage_phased name
  | listHardware =>
    exact .own fun h project hproject => h.listAll fun _ => h.allows project hproject _ rfl
  | listLocations =>
    exact .own fun h project hproject => h.listAll fun _ => h.allows project hproject _ rfl
  | refuse action => cases h

/-! ### All tasks -/

/-- What goes by phases keeps to a law that lets them be gone through. -/
theorem Phased.obeys {α : Type} {act : Work τ σ α} (hphased : p.Phased act)
    (h : p.Admission law K V) (himages : law.AllowsImagesIn p.imageProject) :
    act.Obeys law K fun _ => True := by
  cases hphased with
  | own obeys => exact h.resolving.bind (obeys h)
  | shared obeys asks obeys_further =>
    refine h.resolving.bind fun project hproject => ?_
    exact (obeys h project hproject).bind fun b _ => obeys_further h.keeps himages b

theorem isOwn_fault {task : Task} {error : Error} (h : task.fault? = some error) : error.IsOwn := by
  have hid {id : String} (h : Task.idFault? id = some error) : error.IsOwn := by
    unfold Task.idFault? at h
    split at h
    · cases h
    · cases h
      exact nofun
  cases task with
  | createNode group name template =>
    cases hcheck : template.check with
    | ok checked => rw [Task.fault?, hcheck] at h; cases h
    | error fault =>
      rw [Task.fault?, hcheck] at h
      cases h
      exact nofun
  | destroyNode id => exact hid h
  | getNode id => exact hid h
  | listNodesByIds ids =>
    obtain ⟨id, -, rfl⟩ := Option.map_eq_some_iff.mp h
    exact nofun
  | refuse action => cases h; exact nofun
  | _ => cases h

/-- **Every task keeps to a law that admits what its provider does.** -/
theorem carryOut_obeys [Clock τ] (task : Task) (h : p.Admission law K V)
    (himages : law.AllowsImagesIn p.imageProject) :
    (p.carryOut task : Work τ σ task.Result).Obeys law K fun _ => True := by
  cases hfault : task.fault? with
  | none => exact (p.carryOut_phased hfault).obeys h himages
  | some error =>
    intro s hs
    exact Act.Goes.of_perform [] (p.carryOut_faulty hfault s) (by simp)
      ⟨law.own (isOwn_fault hfault), hs, nofun⟩

/-- A project that is known stays known, whatever is asked. -/
theorem after_known [Clock τ] (tasks : List Task) {project : Value}
    {s : Session τ (Account σ) Exchange} (h : s.world.project = ⟨some project⟩) :
    (p.after tasks s).world.project = ⟨some project⟩ := by
  induction tasks generalizing s with
  | nil => exact h
  | cons task tasks ih =>
    obtain ⟨added, -, -, hknown, -⟩ :=
      carryOut_obeys task (p.admission_lax project) (fun _ _ _ _ => trivial) s h
    exact ih hknown

/-- What goes by phases gives something only where it has had the caller's project told. -/
theorem Phased.known {α : Type} {act : Work τ σ α} (hphased : p.Phased act)
    (s : Session τ (Account σ) Exchange) :
    act.Goes s fun _ r t => ∀ a, r = .ok a →
      ∃ project u, p.project.perform s = (.ok project, u) ∧ t.world.project = ⟨some project⟩ := by
  have hrest {rest : Value → Work τ σ α} (hrest : ∀ project, (rest project).Obeys (.lax : Law τ _)
      (fun account => account.project = ⟨some project⟩) fun _ => True) :
      (p.project >>= rest).Goes s fun _ r t => ∀ a, r = .ok a →
        ∃ project u, p.project.perform s = (.ok project, u) ∧
          t.world.project = ⟨some project⟩ := by
    refine (Account.projectName_goes p.identity s).with_perform.bind ?_ fun _ _ _ _ => nofun
    intro added project t ⟨⟨hproject, _⟩, _, _, hknown⟩
    refine (hrest project t (hknown project rfl)).mono fun more r u ⟨_, hu, _⟩ _ _ => ?_
    exact ⟨project, t, hproject, hu⟩
  cases hphased with
  | own obeys => exact hrest fun project => obeys (p.admission_lax project) project rfl
  | shared obeys asks obeys_further =>
    refine hrest fun project => ?_
    refine (obeys (p.admission_lax project) project rfl).bind fun b _ => ?_
    exact obeys_further (Account.keeps_project _) (fun _ _ _ _ => trivial) b

end Provider

end ComputeNodes
