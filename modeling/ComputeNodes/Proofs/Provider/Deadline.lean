/-
How often a node that is being made is looked for.

Whatever a provider does that is no wait makes its requests once.  So the operation that makes a
node, and the node itself, are read as often as their waits ask, and how often that is at most
follows from the patience of the provider (`Patience.Bounds.createNode_within`).  The lookup of the
machine type is the one step that could be longer, and in a zone it is one request.
-/
import ComputeNodes.Proofs.Provider.Outcome
import ComputeNodes.Proofs.Provider.Task
import ComputeNodes.Proofs.Run.Deadline

namespace ComputeNodes

/-- What is read again and again until it is as it should be. -/
inductive Watched where
  | operation
  | node
  deriving DecidableEq, Repr

/-- How often something is read by one reading, of whatever that is. -/
def Watched.times (what : Watched) (read : Option Watched) : Nat :=
  if read = some what then 1 else 0

/-- What a request reads that may have to be read again. -/
def Request.watched? : Request → Option Watched
  | .getOperation .. => some .operation
  | .getInstance .. => some .node
  | _ => none

/-- Whether an exchange is a reading of something watched. -/
def Exchange.reads (what : Watched) (e : Exchange) : Bool := e.request.watched? = some what

/-- Whether a server never answers before it is asked. -/
def Server.GoesForward (σ : Type) [Server ℚ σ] : Prop :=
  ∀ (now : ℚ) (world : σ) (request : Request), now ≤ (Server.respond now world request).2.1

theorem Account.goesForward {σ : Type} [Server ℚ σ] (h : Server.GoesForward σ) :
    Server.GoesForward (Account σ) :=
  fun now account request => h now account.server request

theorem Script.goesForward : Server.GoesForward Script := fun _ _ _ => le_rfl

namespace Act.Within

variable {σ α : Type} [Server ℚ σ] {what : Watched}

/-! ### One request -/

theorem of_asked {request : Request} {x : Calls ℚ σ α}
    {read : Except Error request.Reply → Except Halt α} (hserver : Server.GoesForward σ)
    (hread : ∀ answer, read answer ≠ .error .cutOff) (h : ∀ s, x.Goes s (request.Asked s read)) :
    x.Within (Exchange.reads what) (what.times request.watched?) := by
  intro s
  refine (h s).mono fun added r t hasked => ?_
  cases hasked with
  | refused fault unfit => exact ⟨le_rfl, Nat.zero_le _, nofun⟩
  | made answer t fit respond =>
    refine ⟨?_, ?_, hread answer⟩
    · have hnow := hserver s.now s.world request
      rwa [respond] at hnow
    · simp [Exchange.reads, Watched.times, List.countP_cons]

theorem read (hserver : Server.GoesForward σ) (request : Request) (f : request.Reply → α) :
    (do return (← Act.found? (call request)).map f : Calls ℚ σ (Option α)).Within
      (Exchange.reads what) (what.times request.watched?) := by
  refine of_asked hserver (fun answer hcut => ?_) (read_goes request f)
  obtain ⟨error, -, -, hfailed⟩ := readAnswer_eq_error hcut
  cases hfailed

theorem insertInstance (hserver : Server.GoesForward σ) (project zone name : Value)
    (spec : InstanceSpec) :
    (ComputeNodes.insertInstance project zone name spec : Calls ℚ σ Operation).Within
      (Exchange.reads what) 0 := by
  have hcall : (call (.insertInstance project zone (.ofSpec name spec)) : Calls ℚ σ _).Within
      (Exchange.reads what) 0 := by
    refine of_asked hserver (fun answer => ?_) (call_goes _)
    cases answer <;> exact nofun
  exact hcall.silent_bind fun message => (log _ _ _).silent_bind fun _ => pure _

/-- In a zone a machine type is looked up with one request. -/
theorem getMachineType (hserver : Server.GoesForward σ) (limit : Nat) (project : Value)
    {zone : Value} (hzone : zone.isNothing = false) (name : Value) :
    (ComputeNodes.getMachineType limit project zone name : Calls ℚ σ _).Within
      (Exchange.reads what) 0 := by
  rw [ComputeNodes.getMachineType, hzone]
  exact read hserver (.getMachineType project zone name) _

theorem getProject (hserver : Server.GoesForward σ) (id : Value) :
    (ComputeNodes.getProject id : Calls ℚ σ _).Within (Exchange.reads what) 0 :=
  read hserver (.getProject id) _

theorem getOperation (hserver : Server.GoesForward σ) (project zone name : Value) :
    (ComputeNodes.getOperation project zone name : Calls ℚ σ _).Within (Exchange.reads what)
      (what.times (some .operation)) :=
  read hserver (.getOperation project zone name) _

theorem getInstance (hserver : Server.GoesForward σ) (project zone name : Value) :
    (ComputeNodes.getInstance project zone name : Calls ℚ σ _).Within (Exchange.reads what)
      (what.times (some .node)) :=
  read hserver (.getInstance project zone name) _

/-! ### The caller's project -/

theorem projectName (hserver : Server.GoesForward (Account σ)) (identity : String) :
    (Account.projectName identity : Calls ℚ (Account σ) Value).Within (Exchange.reads what) 0 := by
  have hresolve : (resolveProject identity : Calls ℚ (Account σ) Value).Within
      (Exchange.reads what) 0 := by
    unfold resolveProject
    split
    · exact pure _
    · refine (getProject hserver _).silent_bind fun found => ?_
      cases found with
      | none => exact fail _
      | some project => exact (log _ _ _).silent_bind fun _ => pure _
  have hread : (do return (← Act.world).project : Calls ℚ (Account σ) (Memo Value)).Within
      (Exchange.reads what) 0 := world.silent_bind fun _ => pure _
  have hwrite (project : Memo Value) :
      (do Act.setWorld { ← Act.world with project } : Calls ℚ (Account σ) Unit).Within
        (Exchange.reads what) 0 := world.silent_bind fun _ => setWorld _
  refine hread.silent_bind fun memo => ?_
  split
  · exact pure _
  · exact hresolve.silent_bind fun project => (hwrite _).silent_bind fun _ => pure project

end Act.Within

/-! ### Behind and between waits -/

theorem Lookup.conclude_within {σ : Type} {what : Watched} (patience : Patience)
    (polled : Polled Operation) :
    (conclude patience polled : Calls ℚ σ Operation).Within
      (Exchange.reads what) 0 := by
  intro s
  cases hsucceeded : polled.succeeded with
  | true =>
    obtain ⟨entry, hconclude⟩ := conclude_done patience polled hsucceeded s
    refine Act.Goes.of_perform _ hconclude (Session.events_add _ _) ⟨le_rfl, by simp, ?_⟩
    cases polled.value.ended <;> exact nofun
  | false =>
    exact Act.Goes.of_perform [] (conclude_late patience polled hsucceeded s) (by simp)
      ⟨le_rfl, by simp, nofun⟩

namespace Provider

variable {σ : Type} [Server ℚ σ] {what : Watched}

theorem look_within (p : Provider) (hserver : Server.GoesForward (Account σ)) (kept : Operation) :
    (p.lookup.look kept : Calls ℚ (Account σ) _).Within (Exchange.reads what)
      (what.times (some .operation)) := by
  have hread : (p.lookup.reread kept : Calls ℚ (Account σ) _).Within (Exchange.reads what)
      (what.times (some .operation)) :=
    (Act.Within.projectName hserver p.identity).silent_bind fun project =>
      .getOperation hserver _ _ _
  have hrank (o : Operation) : (Lookup.rank o : Calls ℚ (Account σ) Nat).Within
      (Exchange.reads what) 0 := .ofExcept _
  refine hread.bind_silent fun answer => ?_
  cases answer with
  | none => exact (Act.Within.log _ _ _).silent_bind fun _ => .pure _
  | some fresh =>
    refine (hrank fresh).silent_bind fun new => (hrank kept).silent_bind fun old => ?_
    split
    · exact (Act.Within.log _ _ _).silent_bind fun _ => .pure _
    · exact (Act.Within.log _ _ _).silent_bind fun _ => .pure _

/-- Asking for an instance in a zone takes a few requests, and no waiting. -/
theorem submit_within (p : Provider) (hserver : Server.GoesForward (Account σ))
    (group name : String) {checked : CheckedTemplate} (hzone : checked.zone ≠ "") :
    (p.submit group name checked : Calls ℚ (Account σ) _).Within (Exchange.reads what) 0 := by
  have hgiven : (Value.text checked.zone).isNothing = false := by
    simpa [Value.isNothing] using hzone
  refine (Act.Within.projectName hserver p.identity).silent_bind fun project => ?_
  refine (Act.Within.getMachineType hserver _ project hgiven _).silent_bind fun found => ?_
  cases found with
  | none => exact .fail _
  | some machineType =>
    refine (Act.Within.log _ _ _).silent_bind fun _ => ?_
    exact (Act.Within.insertInstance hserver _ _ _ _).silent_bind fun _ => .pure _

end Provider

/-! ### Waits -/

namespace Patience.Bounds

variable {σ : Type} [Server ℚ σ] {p : Provider} {timeout interval : ℚ} {what : Watched}

theorem await_within (h : p.patience.Bounds timeout interval)
    (hserver : Server.GoesForward (Account σ)) (operation : Operation) :
    (p.lookup.await p.patience operation : Calls ℚ (Account σ) Operation).Within
      (Exchange.reads what) ((⌈timeout / interval⌉₊ + 1) * what.times (some .operation)) :=
  (h.retryUntil_within _ fun last => p.look_within hserver (last.getD operation)).bind_silent
    fun polled => Lookup.conclude_within p.patience polled

theorem awaitVisible_within (h : p.patience.Bounds timeout interval)
    (hserver : Server.GoesForward (Account σ)) (project : Value) (zone name : String) :
    (p.awaitVisible project zone name : Calls ℚ (Account σ) Instance).Within
      (Exchange.reads what) ((⌈timeout / interval⌉₊ + 1) * what.times (some .node)) := by
  have hprobe (_ : Option (Option Instance)) : (do
      let value ← getInstance project zone name
      return { value, done := value.isSome } : Calls ℚ (Account σ) (Probe (Option Instance))).Within
        (Exchange.reads what) (what.times (some .node)) :=
    (Act.Within.getInstance hserver _ _ _).bind_silent fun _ => .pure _
  refine (h.retryUntil_within _ hprobe).bind_silent fun visible => ?_
  split
  · exact .pure _
  · exact (Act.Within.ofExcept _).silent_bind fun error => .fail error

/-- **Making a node ends**, and reads the operation and the node as often as a wait may ask. -/
theorem createNode_within (h : p.patience.Bounds timeout interval)
    (hserver : Server.GoesForward σ) (group name : String) {template : NodeTemplate}
    (hzone : template.location.id ≠ "") (what : Watched) :
    (p.createNode group name template : Calls ℚ (Account σ) NewNode).Within (Exchange.reads what)
      (⌈timeout / interval⌉₊ + 1) := by
  have haccount := Account.goesForward hserver
  unfold Provider.createNode
  cases hcheck : template.check with
  | error fault => exact (Act.Within.fail (.template fault)).mono (Nat.zero_le _)
  | ok checked =>
    have hchecked : checked.zone ≠ "" := (NodeTemplate.check_eq_ok hcheck).2.1 ▸ hzone
    have hvisible (project : Value) :
        (p.awaitVisible project checked.zone name : Calls ℚ (Account σ) Instance).Within
          (Exchange.reads what) _ := h.awaitVisible_within haccount project checked.zone name
    -- an operation is read only by the first wait, and a node only by the second one
    have hnode (project : Value) (operation : Operation) :
        (p.awaitNode name checked project operation : Calls ℚ (Account σ) Instance).Within
          (Exchange.reads what) (⌈timeout / interval⌉₊ + 1) := by
      unfold Provider.awaitNode
      split
      · refine ((h.await_within haccount operation).bind fun _ => hvisible project).mono ?_
        cases what <;> simp [Watched.times]
      · refine (hvisible project).mono ?_
        cases what <;> simp [Watched.times]
    have haccepted : (Act.ofExcept ((Except.ok checked).mapError .template)
        : Calls ℚ (Account σ) CheckedTemplate) = pure checked := rfl
    rw [haccepted, pure_bind]
    refine (p.submit_within haccount group name hchecked).silent_bind fun asked => ?_
    refine (hnode asked.1 asked.2).bind_silent fun node => ?_
    exact (Act.Within.log _ _ _).silent_bind fun _ => .pure _

/-- **What waits with patience ends in time.**  A wait on any course of answers does, and so does
making a node in a zone, for which the operation and the node are each read at most once more than
pauses fit into the timeout. -/
theorem endsInTime {patience : Patience} (h : patience.Bounds timeout interval) :
    (∀ (α : Type) (course : Course α), (∀ n, 0 ≤ course.takes n) → ∀ (what : String) (start : ℚ),
      course.InTime timeout interval start
        ((retryUntil patience what course.question).perform { now := start, world := 0 })) ∧
    ∀ (σ : Type) [Server ℚ σ], Server.GoesForward σ → ∀ p : Provider, p.patience = patience →
      ∀ (group name : String) (template : NodeTemplate), template.location.id ≠ "" →
        ∀ what : Watched,
          (p.createNode group name template : Calls ℚ (Account σ) NewNode).Within
            (Exchange.reads what) (⌈timeout / interval⌉₊ + 1) := by
  refine ⟨fun α course hforward what start => ?_, ?_⟩
  · exact Course.retryUntil_inTime h course hforward what start
  · rintro σ _ hserver p rfl group name template hzone what
    exact h.createNode_within hserver group name hzone what

/-- Questions that are never answered well, though at once. -/
def unanswered : Course Unit where
  answers _ := .ok ⟨(), false⟩
  takes _ := 0

theorem endsInTime_patientProvider :
    Provider.patientProvider.patience.Bounds 4 2 ∧ Server.GoesForward Script ∧
    ((retryUntil Provider.patientProvider.patience "answer" unanswered.question).perform
      { now := 0, world := 0 }).2.calls.length = 3 ∧
    (Provider.patientProvider.createNode "g" "a" Provider.smallNode
      : Calls ℚ (Account Script) NewNode).Within (Exchange.reads .node) 3 := by
  have hceil : ⌈(4 : ℚ) / 2⌉₊ = 2 := by norm_num
  have hbounds : Provider.patientProvider.patience.Bounds 4 2 :=
    ⟨rfl, rfl, by norm_num, by rw [hceil]; decide⟩
  obtain ⟨hwaits, hnodes⟩ := endsInTime hbounds
  refine ⟨hbounds, Script.goesForward, ?_, ?_⟩
  · have hlength := (hwaits Unit unanswered (fun _ => le_rfl) "answer" 0).length_eq
      (fun _ => ⟨(), rfl⟩) (fun _ => rfl) (by norm_num)
    norm_num at hlength
    exact_mod_cast hlength
  · have hnode := hnodes Script Script.goesForward Provider.patientProvider rfl "g" "a"
      Provider.smallNode (by decide) .node
    rwa [hceil] at hnode

end Patience.Bounds

end ComputeNodes
