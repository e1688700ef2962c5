/-
How making a node comes out, once its instance was asked for.

What is left are the two waits, one behind the other.  The first one only decides whether there is a
second: what it gives is not looked at, and what it raises is handed on.  The second one opens its
window in the session that the first one leaves, so its time begins there, and the readings of that
window decide on everything else (`createNode_outcome`).
-/
import ComputeNodes.Proofs.Provider.Create
import ComputeNodes.Proofs.Run.Window
import ComputeNodes.Service.Script

namespace ComputeNodes

namespace Provider

variable {τ σ : Type} [Server τ σ] [Clock τ]

/-- The wait until an instance can be read. -/
def window (p : Provider) (project : Value) (zone name : String) (length : τ)
    (opened : Session τ (Account σ) Exchange) : Window τ (Account σ) Exchange Instance where
  read := getInstance project zone name
  patience := p.patience
  length := length
  opened := opened

/-! ### The second wait -/

section

variable {p : Provider} {project : Value} {zone name : String} {length : τ}
  {opened : Session τ (Account σ) Exchange} {n : Nat}

theorem awaitVisible_settles (hlength : Clock.pause? p.patience.interval = some length)
    (htimeout : p.patience.timeout.tenths?.isSome = true)
    (hmakes : (p.window project zone name length opened).Makes n)
    (hcloses : ¬ (p.window project zone name length opened).StaysOpen n)
    (hlimit : n < p.patience.limit) :
    ((p.awaitVisible project zone name).perform opened).1
      = Window.settle id (.visibilityTimeout zone name p.patience.timeout)
          ((p.window project zone name length opened).reading n).1 := by
  have hwait : (pollUntilPresent p.patience ("instance " ++ zone ++ "/" ++ name)
      (getInstance project zone name)).perform opened
        = (p.window project zone name length opened).wait
            ("instance " ++ zone ++ "/" ++ name) := rfl
  rw [awaitVisible]
  rcases hreading : (p.window project zone name length opened).reading n with ⟨r, t⟩
  match r with
  | .error halt =>
    rw [Window.wait_of_error _ hlength hmakes hlimit hreading] at hwait
    rw [Act.perform_bind_error hwait, Window.settle]
  | .ok (some node) =>
    obtain ⟨entry, hfound⟩ := Window.wait_of_some
      ("instance " ++ zone ++ "/" ++ name) hlength hmakes hlimit hreading
    rw [hfound] at hwait
    rw [Act.perform_bind_ok hwait]
    rfl
  | .ok none =>
    have hlate : (p.window project zone name length opened).IsLate n := by
      by_contra hintime
      exact hcloses ⟨by rw [hreading], hintime⟩
    obtain ⟨entry, hmissed⟩ := Window.wait_of_late
      ("instance " ++ zone ++ "/" ++ name) hlength htimeout hmakes hlimit hreading hlate
    rw [hmissed] at hwait
    obtain ⟨seconds, hseconds⟩ := Option.isSome_iff_exists.mp htimeout
    rw [Act.perform_bind_ok hwait]
    simp [Error.visibilityTimeout?, hseconds, Act.perform_bind, Window.settle]

theorem awaitVisible_cutOff (hlength : Clock.pause? p.patience.interval = some length)
    (hmakes : (p.window project zone name length opened).Makes p.patience.limit) :
    ((p.awaitVisible project zone name).perform opened).1 = .error .cutOff := by
  have hwait := Window.wait_of_makes_limit ("instance " ++ zone ++ "/" ++ name) hlength hmakes
  rw [awaitVisible]
  rcases hrun : (p.window project zone name length opened).wait
    ("instance " ++ zone ++ "/" ++ name) with ⟨r, t⟩
  rw [hrun] at hwait
  obtain rfl : r = .error .cutOff := hwait
  exact congrArg Prod.fst (Act.perform_bind_error hrun)

end

/-! ### The node -/

section

variable {p : Provider} {group name : String} {template : NodeTemplate}
  {checked : CheckedTemplate} {project : Value} {machineType : MachineType}
  {operation : Operation} {s s₁ s₂ s₃ opened : Session τ (Account σ) Exchange}

/-- What is made of an instance that can be read. -/
def newNode (name : String) (template : NodeTemplate) (node : Instance) : NewNode where
  node := node
  id := ⟨template.location.id, name⟩
  credentials :=
    (DerivedCredentials.derive template.image template.optionSet.options).credentials

omit [Clock τ] in
/-- An instance is asked for when the project is resolved, the machine type is found and the
insertion is answered. -/
theorem submit_perform (hproject : p.project.perform s = (.ok project, s₁))
    (hmachineType : (getMachineType p.patience.limit project checked.zone
      checked.hardware).perform s₁ = (.ok (some machineType), s₂))
    (hinsert : (insertInstance project checked.zone name
        (checked.spec p.naming project group machineType checked.derived)).perform
        (s₂.add (.log ⟨.info, .adapter, checked.announcement group name machineType⟩))
      = (.ok operation, s₃)) :
    (p.submit group name checked).perform s = (.ok (project, operation), s₃) := by
  rw [submit, Act.perform_bind_ok hproject, Act.perform_bind_ok hmachineType]
  change (Act.log _ _ _ >>= _ : Work τ σ _).perform s₂ = _
  rw [Act.perform_bind_ok (Act.perform_log _ _ _ _), Act.perform_bind_ok hinsert, Act.perform_pure]

/-- Once the instance was asked for, the node is what comes of the waits. -/
theorem createNode_perform (hchecked : template.check = .ok checked)
    (hsubmit : (p.submit group name checked).perform s = (.ok (project, operation), s₃)) :
    ((p.createNode group name template).perform s).1
      = ((p.awaitNode name checked project operation).perform s₃).1.map
          (newNode name template) := by
  obtain ⟨-, hzone, himage, hoptions⟩ := NodeTemplate.check_eq_ok hchecked
  rw [createNode, hchecked, Act.perform_bind_ok (Act.perform_ofExcept _ s),
    Act.perform_bind_ok hsubmit]
  rcases hawait : (p.awaitNode name checked project operation).perform s₃ with ⟨r, t⟩
  cases r with
  | error halt => exact congrArg Prod.fst (Act.perform_bind_error hawait)
  | ok node =>
    rw [Act.perform_bind_ok hawait]
    rw [hzone, CheckedTemplate.derived, himage, hoptions]
    rfl

theorem createNode_halted (hchecked : template.check = .ok checked)
    (hsubmit : (p.submit group name checked).perform s = (.ok (project, operation), s₃))
    (hblock : checked.options.blockUntilRunning = true) {halt : Halt}
    {t : Session τ (Account σ) Exchange}
    (hhalted : (p.lookup.await p.patience operation).perform s₃ = (.error halt, t)) :
    (p.createNode group name template).perform s = (.error halt, t) := by
  have hawait : (p.awaitNode name checked project operation).perform s₃ = (.error halt, t) := by
    rw [awaitNode, if_pos hblock]
    exact Act.perform_bind_error hhalted
  rw [createNode, hchecked, Act.perform_bind_ok (Act.perform_ofExcept _ s),
    Act.perform_bind_ok hsubmit]
  exact Act.perform_bind_error hawait

/-- Behind the first wait there is only the second one, in the session that the first one leaves. -/
theorem awaitNode_perform (p : Provider) (name : String) (checked : CheckedTemplate)
    (project : Value) (operation : Operation)
    (hopened : (checked.options.blockUntilRunning = false ∧ opened = s₃) ∨
      (checked.options.blockUntilRunning = true ∧
        ∃ o, (p.lookup.await p.patience operation).perform s₃ = (.ok o, opened))) :
    (p.awaitNode name checked project operation).perform s₃
      = (p.awaitVisible project checked.zone name).perform opened := by
  rw [awaitNode]
  rcases hopened with ⟨hblock, rfl⟩ | ⟨hblock, o, hawait⟩
  · rw [hblock]
    rfl
  · rw [if_pos hblock]
    exact Act.perform_bind_ok hawait

end

/-! ### The outcome -/

section

variable [Server Float σ] {p : Provider} {group name : String} {template : NodeTemplate}
  {checked : CheckedTemplate} {project : Value} {machineType : MachineType}
  {operation : Operation} {s s₁ s₂ s₃ : Session Float (Account σ) Exchange}

/-- **How making a node comes out** on a clock of doubles, when the template is accepted, the
project resolved, the machine type found and the insertion answered.  Where the operation is waited
for, what that raises is raised.  In every other case the readings of the instance decide, in a
window that opens when the wait for the operation is over. -/
theorem createNode_outcome (htimeout : p.patience.timeout.toDouble?.isSome = true)
    (hinterval : p.patience.interval.toDouble?.isSome = true)
    (hchecked : template.check = .ok checked)
    (hproject : p.project.perform s = (.ok project, s₁))
    (hmachineType : (getMachineType p.patience.limit project checked.zone
      checked.hardware).perform s₁ = (.ok (some machineType), s₂))
    (hinsert : (insertInstance project checked.zone name
        (checked.spec p.naming project group machineType checked.derived)).perform
        (s₂.add (.log ⟨.info, .adapter, checked.announcement group name machineType⟩))
      = (.ok operation, s₃)) :
    (template.optionSet.options.blockUntilRunning = true → ∀ halt t,
        (p.lookup.await p.patience operation).perform s₃ = (.error halt, t) →
          (p.createNode group name template).perform s = (.error halt, t)) ∧
      ∀ opened : Session Float (Account σ) Exchange,
        (template.optionSet.options.blockUntilRunning = false ∧ opened = s₃) ∨
          (template.optionSet.options.blockUntilRunning = true ∧
            ∃ o, (p.lookup.await p.patience operation).perform s₃ = (.ok o, opened)) →
        (p.window project template.location.id name p.patience.interval.pauseTime opened).Decides
          (newNode name template)
          (.visibilityTimeout template.location.id name p.patience.timeout)
          ((p.createNode group name template).perform s).1 ∧
        ∀ new, ((p.createNode group name template).perform s).1 = .ok new →
          new.id.write = template.location.id ++ "/" ++ name := by
  have hlength := Seconds.pause?_of_toDouble? hinterval
  have hseconds : p.patience.timeout.tenths?.isSome = true := by
    rw [Seconds.tenths?_isSome, htimeout]
  have hsubmit := submit_perform hproject hmachineType hinsert
  obtain ⟨-, hzone, -, hoptions⟩ := NodeTemplate.check_eq_ok hchecked
  rw [← hoptions, ← hzone]
  refine ⟨fun hblock halt t => createNode_halted hchecked hsubmit hblock, fun opened hopened => ?_⟩
  have hresult : ((p.createNode group name template).perform s).1
      = ((p.awaitVisible project checked.zone name).perform opened).1.map
          (newNode name template) := by
    rw [createNode_perform hchecked hsubmit,
      awaitNode_perform p name checked project operation hopened]
  rw [hresult]
  refine ⟨Window.decides_of_settles (fun n hn hmakes hcloses => ?_) fun hmakes => ?_,
    fun new hnew => ?_⟩
  · rw [awaitVisible_settles hlength hseconds hmakes hcloses hn]
    match ((p.window project checked.zone name p.patience.interval.pauseTime
      opened).reading n).1 with
    | .ok (some node) => rfl
    | .ok none => rfl
    | .error halt => rfl
  · rw [awaitVisible_cutOff hlength hmakes]
    rfl
  · cases hnode : ((p.awaitVisible project checked.zone name).perform opened).1 with
    | error halt => rw [hnode] at hnew; cases hnew
    | ok node =>
      rw [hnode] at hnew
      cases hnew
      rw [hzone]
      rfl

end

/-! ### A run -/

/-- A caller that knows its project, before a service that takes its time: the operation is running
at first, and the instance cannot be read at once. -/
def slowService : Session Float (Account Script) Exchange where
  now := 0.0
  world := {
    project := ⟨some "p"⟩
    server := [
      { endpoint := .getMachineType, answer := .ok { name := "n1" } },
      { endpoint := .insertInstance,
        answer := .ok { name := "op-1", status := "RUNNING", zone := "z" } },
      { endpoint := .getOperation true,
        answer := .ok { name := "op-1", status := "DONE", zone := "z" } },
      { endpoint := .getInstance, answer := .error Script.noResponse },
      { endpoint := .getInstance, answer := .ok { name := "a", zone := "z" } }] }

def patientProvider : Provider where
  identity := "p"
  patience := { timeout := .whole 4, interval := .whole 2, limit := 3 }

def smallNode : NodeTemplate where
  hardware := "n1"
  location := { id := "z", scope := "ZONE" }
  image := { id := "i", uri := some "images/i" }
  optionSet := { options := { network := some "default" } }

/-- The same template once it is checked. -/
def smallNodeChecked : CheckedTemplate where
  hardware := "n1"
  zone := "z"
  image := smallNode.image
  imageUri := "images/i"
  network := "default"
  options := smallNode.optionSet.options

/-- The operation that the insertion is answered with. -/
def slowOperation : Operation := { name := "op-1", status := .running, zone := "z" }

/-- Where the insertion leaves the session. -/
def slowSubmitted : Session Float (Account Script) Exchange :=
  ((patientProvider.submit "g" "a" smallNodeChecked).perform slowService).2

/-- Where the wait for the operation leaves it. -/
def slowSettled : Session Float (Account Script) Exchange :=
  ((patientProvider.lookup.await patientProvider.patience slowOperation).perform slowSubmitted).2

/-- The window of the wait for the instance. -/
def slowWindow : Window Float (Account Script) Exchange Instance :=
  patientProvider.window "p" "z" "a" patientProvider.patience.interval.pauseTime slowSettled

theorem createNode_outcome_slowService :
    ((patientProvider.createNode "g" "a" smallNode).perform slowService).1
      = .ok (newNode "a" smallNode { name := "a", zone := "z", id := "0" }) := by
  have hchecked : smallNode.check = .ok smallNodeChecked := by decide +kernel
  have hproject : patientProvider.project.perform slowService = (.ok "p", slowService) := rfl
  have hmachineType : (getMachineType 3 ("p" : Value) ("z" : Value) ("n1" : Value)).perform
      slowService = (.ok (some { name := "n1" }), _) := rfl
  have hinsert : (insertInstance ("p" : Value) ("z" : Value) ("a" : Value)
      (smallNodeChecked.spec patientProvider.naming "p" "g" { name := "n1" }
        smallNodeChecked.derived)).perform
      (((getMachineType 3 ("p" : Value) ("z" : Value) ("n1" : Value)).perform slowService).2.add
        (.log ⟨.info, .adapter, smallNodeChecked.announcement "g" "a" { name := "n1" }⟩))
      = (.ok slowOperation, slowSubmitted) := rfl
  have hawait : (patientProvider.lookup.await patientProvider.patience slowOperation).perform
      slowSubmitted = (.ok { name := "op-1", status := .done, zone := "z" }, slowSettled) :=
    Prod.ext (Act.eq_ok_of_toOption (by decide +kernel)) (by rw [slowSettled])
  have houtcome := createNode_outcome (by decide) (by decide) hchecked hproject hmachineType hinsert
  obtain ⟨hdecides, -⟩ := houtcome.2 slowSettled (.inr ⟨rfl, _, hawait⟩)
  have hmissing : (slowWindow.reading 0).1 = .ok none := Act.eq_ok_of_toOption (by decide +kernel)
  have hintime : ¬ slowWindow.IsLate 0 := by unfold Window.IsLate; decide +kernel
  have hfound : (slowWindow.reading 1).1 = .ok (some { name := "a", zone := "z", id := "0" }) :=
    Act.eq_ok_of_toOption (by decide +kernel)
  refine hdecides.gives 1 (by decide) (fun i hi => ?_) _ hfound
  obtain rfl : i = 0 := by omega
  exact ⟨hmissing, hintime⟩

end Provider

end ComputeNodes
