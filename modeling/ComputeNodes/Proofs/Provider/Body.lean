/-
What a new node is asked for with.

The body of an insertion is put together from the options of the template, from its image, from the
group and from the machine type that was found.  `InsertBody.AsksFor` says field by field what it
holds, in terms of what was handed in; the only choices in it are those between a text of the user's
and one that is derived.

Metadata are where two of these choices meet.  A derived entry is added behind the entries that are
there, unless its key is one of theirs (`Entries.extend_eq`), so the second one could only be kept
out by the first if both had the same key, which they do not.

That this body is the one that is sent, and the only one, is `createNode_body`.
-/
import ComputeNodes.Proofs.Provider.Outcome

namespace ComputeNodes

/-! ### Texts and entries -/

theorem bind_nonEmpty?_eq_some {text : Option String} {s : String} :
    text.bind nonEmpty? = some s ↔ text = some s ∧ s ≠ "" := by
  cases text with
  | none => simp
  | some t =>
    by_cases h : t = ""
    · subst h
      simp [nonEmpty?]
    · simp only [Option.bind_some, nonEmpty?, if_neg h, Option.some.injEq]
      exact ⟨fun hs => ⟨hs, hs ▸ h⟩, And.left⟩

/-- Whether there is no text, or only an empty one. -/
def SaysNothing (text : Option String) : Prop := text = none ∨ text = some ""

instance (text : Option String) : Decidable (SaysNothing text) :=
  inferInstanceAs (Decidable (text = none ∨ text = some ""))

theorem bind_nonEmpty?_eq_none {text : Option String} :
    text.bind nonEmpty? = none ↔ SaysNothing text := by
  cases text with
  | none => simp [SaysNothing]
  | some text => simp [SaysNothing, nonEmpty?]

theorem exists_bind_nonEmpty? {text : Option String} (h : ¬ SaysNothing text) :
    ∃ given, text.bind nonEmpty? = some given :=
  Option.ne_none_iff_exists'.mp fun hnone => h (bind_nonEmpty?_eq_none.mp hnone)

namespace Entries

variable {α : Type}

/-- Adds an entry at the end if there is a value for it, and its key is new. -/
def extend (t : Entries α) (key : String) : Option α → Entries α
  | some a => t.addNew key a
  | none => t

/-- The value that an entry is added with, if it is added. -/
def fresh? (t : Entries α) (key : String) (value : Option α) : Option α :=
  if key ∈ t.keys then none else value

theorem fresh?_eq_some {t : Entries α} {key : String} {value : Option α} {a : α} :
    t.fresh? key value = some a ↔ key ∉ t.keys ∧ value = some a := by
  unfold fresh?
  split <;> simp_all

/-- An entry with its key, or nothing. -/
def single (key : String) (value : Option α) : Entries α := (value.map (key, ·)).toList

/-- What is added comes last, and nothing else changes. -/
theorem extend_eq (t : Entries α) (key : String) (value : Option α) :
    t.extend key value = t ++ single key (t.fresh? key value) := by
  cases value with
  | none => simp [extend, single, fresh?]
  | some a =>
    simp only [extend, addNew, fresh?, single]
    split <;> simp

theorem keys_append (t u : Entries α) : (t ++ u).keys = t.keys ++ u.keys := List.map_append

theorem keys_single (key : String) (value : Option α) :
    (single key value).keys = (value.map fun _ => key).toList := by
  cases value <;> rfl

/-- An entry under another key does not count. -/
theorem fresh?_extend (t : Entries α) {key other : String} (h : key ≠ other)
    (value new : Option α) : (t.extend other value).fresh? key new = t.fresh? key new := by
  have hkey : key ∈ (t.extend other value).keys ↔ key ∈ t.keys := by
    rw [extend_eq, keys_append, keys_single, List.mem_append, or_iff_left]
    simpa using fun _ _ => h.symm
  simp only [fresh?, hkey]

theorem nodup_keys_extend {t : Entries α} (h : t.keys.Nodup) (key : String) (value : Option α) :
    (t.extend key value).keys.Nodup := by
  rw [extend_eq, keys_append, keys_single]
  cases hfresh : t.fresh? key value with
  | none => simpa using h
  | some a =>
    obtain ⟨hkey, -⟩ := fresh?_eq_some.mp hfresh
    refine List.nodup_append.mpr ⟨h, by simp, ?_⟩
    rintro k hk other hother rfl
    rw [List.mem_singleton.mp hother] at hk
    exact hkey hk

end Entries

/-! ### Metadata -/

namespace Metadata

/-- The text that authorizes a public key, if there is one. -/
def authorization? (derived : DerivedCredentials) : Option String :=
  (derived.publicKey.bind nonEmpty?).map fun key =>
    authorizedUser derived.credentials ++ ":" ++ key

theorem authorization?_eq_some {derived : DerivedCredentials} {text : String} :
    authorization? derived = some text ↔ ∃ key, derived.publicKey = some key ∧ key ≠ "" ∧
      text = authorizedUser derived.credentials ++ ":" ++ key := by
  rw [authorization?, Option.map_eq_some_iff]
  refine exists_congr fun key => ?_
  rw [bind_nonEmpty?_eq_some, and_assoc, eq_comm (b := text)]

variable (options : NodeOptions) (derived : DerivedCredentials)

theorem ofOptions_extend : ofOptions options derived
    = (options.userMetadata.extend sshKeys (authorization? derived)).extend startupScript
        (options.startupScript.bind nonEmpty?) := by
  unfold ofOptions authorization?
  cases derived.publicKey.bind nonEmpty? <;> cases options.startupScript.bind nonEmpty? <;> rfl

/-- What is added to the entries of the user: an authorization, and the startup script. -/
theorem ofOptions_eq :
    ofOptions options derived = options.userMetadata
      ++ Entries.single sshKeys (options.userMetadata.fresh? sshKeys (authorization? derived))
      ++ Entries.single startupScript (options.userMetadata.fresh? startupScript
          (options.startupScript.bind nonEmpty?)) := by
  -- the authorization is under another key, so it does not keep the script out
  rw [ofOptions_extend, Entries.extend_eq, Entries.fresh?_extend _ (by decide), Entries.extend_eq]

theorem nodup_keys_ofOptions (h : options.userMetadata.keys.Nodup) :
    (ofOptions options derived).keys.Nodup := by
  rw [ofOptions_extend]
  exact Entries.nodup_keys_extend (Entries.nodup_keys_extend h _ _) _ _

end Metadata

/-! ### The body -/

/-- The credentials that are derived for a template. -/
def NodeTemplate.derived (template : NodeTemplate) : DerivedCredentials :=
  .derive template.image template.optionSet.options

/-- What a body holds that asks for a node of a template, with a name and among the nodes that share
another one, in a project and on machines of some type. -/
structure InsertBody.AsksFor (body : InsertBody) (template : NodeTemplate) (name shared : String)
    (project : Value) (machineType : MachineType) : Prop where
  name : body.name = .text name
  machineType : body.machineType =
    if machineType.selfLink.isNothing then machineType.name else machineType.selfLink
  disks : ∃ uri, template.image.uri = some uri ∧
    body.disks = [{ boot := true, autoDelete := true, sourceImage := .text uri }]
  /-- The network is an address or the name of a network of the project. -/
  networkInterfaces : ∃ network, template.optionSet.options.network = some network ∧
    body.networkInterfaces = [{
      network := .text (if '/' ∈ network.toList then network
        else "https://www.googleapis.com/compute/v1/projects/" ++ project.plain
          ++ "/global/networks/" ++ network)
      accessConfigs := if template.optionSet.options.enableNat then
        [{ name := "External NAT", type := "ONE_TO_ONE_NAT" }] else [] }]
  tags : body.tags = (template.optionSet.options.tags
    ++ if shared ∈ template.optionSet.options.tags then [] else [shared]).map .text
  serviceAccounts : body.serviceAccounts = template.optionSet.options.serviceAccounts.map
    fun account => { email := .text account.email, scopes := account.scopes.map .text }
  /-- The entries of the user come first and as they are.  An authorization follows exactly if there
  is a key that is not empty, and the startup script exactly if it is not empty, and either only if
  the user has no entry of its own under that key. -/
  metadata : ∃ authorization script : Option String,
    body.metadata = (template.optionSet.options.userMetadata
        ++ Entries.single "ssh-keys" authorization
        ++ Entries.single "startup-script" script).map (fun (key, text) => (key, .text text)) ∧
      (∀ text, authorization = some text ↔
        "ssh-keys" ∉ template.optionSet.options.userMetadata.keys ∧
          ∃ key, template.derived.publicKey = some key ∧ key ≠ "" ∧
            text = Metadata.authorizedUser template.derived.credentials ++ ":" ++ key) ∧
      ∀ text, script = some text ↔
        "startup-script" ∉ template.optionSet.options.userMetadata.keys ∧
          template.optionSet.options.startupScript = some text ∧ text ≠ ""
  distinct : template.optionSet.options.userMetadata.keys.Nodup →
    (body.metadata.map Prod.fst).Nodup
  description : body.description = .null

theorem Uri.global_network (project name : String) : Uri.global project "networks" name
    = "https://www.googleapis.com/compute/v1/projects/" ++ project ++ "/global/networks/"
      ++ name := by
  have hprojects : "https://www.googleapis.com/compute/v1/projects/"
      = endpoint ++ "/projects/" := by
    decide
  have hnetworks : "/global/networks/" = "/global/" ++ "networks" ++ "/" := by decide
  simp only [global, hprojects, hnetworks, String.append_assoc]

/-- **The specification of a new node becomes a body that asks for it.** -/
theorem CheckedTemplate.spec_asksFor {template : NodeTemplate} {checked : CheckedTemplate}
    (hchecked : template.check = .ok checked) (naming : GroupNaming) (group name : String)
    (project : Value) (machineType : MachineType) :
    (InsertBody.ofSpec name (checked.spec naming project group machineType checked.derived)).AsksFor
      template name (naming.sharedName group) project machineType := by
  obtain ⟨network, uri, hnetwork, huri, rfl⟩ := NodeTemplate.eq_of_check hchecked
  constructor
  case name => rfl
  case machineType =>
    simp only [InsertBody.ofSpec, spec, Value.something?]
    split <;> rfl
  case disks => exact ⟨uri, (bind_nonEmpty?_eq_some.mp huri).1, rfl⟩
  case networkInterfaces =>
    refine ⟨network, (bind_nonEmpty?_eq_some.mp hnetwork).1, ?_⟩
    simp only [InsertBody.ofSpec, spec, interface, Uri.network, Uri.global_network, List.map_cons,
      List.map_nil]
    cases template.optionSet.options.enableNat <;> rfl
  case tags =>
    simp only [InsertBody.ofSpec, spec, GroupNaming.tags]
    split <;> simp
  case serviceAccounts => rfl
  case metadata =>
    refine ⟨_, _, congrArg _ (Metadata.ofOptions_eq _ _), fun text => ?_, fun text => ?_⟩
    · rw [Entries.fresh?_eq_some, Metadata.authorization?_eq_some]
      rfl
    · rw [Entries.fresh?_eq_some, bind_nonEmpty?_eq_some]
      rfl
  case distinct =>
    intro hdistinct
    have hkeys := Metadata.nodup_keys_ofOptions _ template.derived hdistinct
    rw [show (InsertBody.ofSpec name _).metadata = List.map _ _ from rfl, List.map_map]
    exact hkeys
  case description => rfl

/-! ### The request -/

namespace Provider

variable {τ σ : Type} [Server τ σ] {p : Provider} {group name : String} {template : NodeTemplate}
  {checked : CheckedTemplate} {project : Value} {machineType : MachineType}
  {s s₁ s₂ : Session τ (Account σ) Exchange}

/-- The insertions among some requests. -/
def insertions (calls : List Exchange) : List Exchange :=
  calls.filter fun e => e.request.endpoint = .insertInstance

theorem insertions_append (calls more : List Exchange) :
    insertions (calls ++ more) = insertions calls ++ insertions more :=
  List.filter_append ..

theorem insertions_eq_nil {calls : List Exchange}
    (h : ∀ e ∈ calls, e.request.endpoint ≠ .insertInstance) : insertions calls = [] :=
  List.filter_eq_nil_iff.mpr fun e he => by simpa using h e he

/-- Whether one instance at most is asked for, and with that request: none only where the request
cannot be made, and then nothing comes of it. -/
structure InsertsOnly {α : Type} (request : Request) (calls : List Exchange) (r : Except Halt α) :
    Prop where
  made : request.check = .ok () → ∃ answer, insertions calls = [⟨request, answer⟩]
  refused : ∀ fault, request.check = .error fault →
    insertions calls = [] ∧ r = .error (.failed (.unmade fault))

namespace InsertsOnly

variable {α β : Type} {request : Request} {calls more : List Exchange} {r : Except Halt α}

theorem of_asked {u v : Session τ (Account σ) Exchange} {first : List (Event τ Exchange)}
    {read : Except Error request.Reply → Except Halt α} (h : request.Asked u read first r v)
    (hcalls : insertions calls = requests first) : InsertsOnly request calls r := by
  cases h with
  | refused fault unfit =>
    refine ⟨fun fit => ?_, fun other hother => ⟨hcalls, ?_⟩⟩
    · rw [unfit] at fit
      cases fit
    · rw [unfit] at hother
      cases hother
      rfl
  | made answer t fit respond =>
    refine ⟨fun _ => ⟨answer, hcalls⟩, fun fault unfit => ?_⟩
    rw [fit] at unfit
    cases unfit

omit [Server τ σ] in
theorem map (f : α → β) (h : InsertsOnly request calls r) :
    InsertsOnly request calls (r.map f) where
  made := h.made
  refused fault unfit := by
    obtain ⟨hnone, rfl⟩ := h.refused fault unfit
    exact ⟨hnone, rfl⟩

/-- What comes behind asks for no instance, and for nothing where the request was refused. -/
theorem append {r' : Except Halt β} (h : InsertsOnly request calls r)
    (hmore : insertions more = []) (hok : r.isOk) : InsertsOnly request (calls ++ more) r' where
  made fit := by
    rw [insertions_append, hmore, List.append_nil]
    exact h.made fit
  refused fault unfit := by
    obtain ⟨-, rfl⟩ := h.refused fault unfit
    cases hok

theorem error {halt : Halt} (h : InsertsOnly request calls (.error halt : Except Halt α)) :
    InsertsOnly request calls (.error halt : Except Halt β) where
  made := h.made
  refused fault unfit := by
    obtain ⟨hnone, hhalt⟩ := h.refused fault unfit
    cases hhalt
    exact ⟨hnone, rfl⟩

end InsertsOnly

/-- Asking for an instance asks with its specification. -/
theorem submit_inserts (group name : String)
    (hproject : p.project.perform s = (.ok project, s₁))
    (hmachineType : (getMachineType p.patience.limit project checked.zone
      checked.hardware).perform s₁ = (.ok (some machineType), s₂)) :
    (p.submit group name checked).Goes s fun added r _ =>
      InsertsOnly (.insertInstance project checked.zone (.ofSpec name
        (checked.spec p.naming project group machineType checked.derived))) (requests added) r := by
  obtain ⟨resolving, hresolving, -, hlookup, hknown⟩ := Account.projectName_goes p.identity s
  change (p.project.perform s).2.events.toList = _ at hresolving
  change ∀ project, (p.project.perform s).1 = _ →
    (p.project.perform s).2.world.project = _ at hknown
  rw [hproject] at hresolving hknown
  obtain ⟨choosing, hchoosing, -, htypes, -⟩ := getMachineType_goes
    (Account.keeps_project ⟨some project⟩) (hknown project rfl) p.patience.limit project
    checked.zone checked.hardware
  rw [hmachineType] at hchoosing
  have hresolves : insertions (requests resolving) = [] := insertions_eq_nil fun e he => by
    rw [hlookup e he]
    exact nofun
  have hchooses : insertions (requests choosing) = [] := insertions_eq_nil fun e he => by
    cases hrequest : e.request <;> cases hrequest ▸ htypes e he <;> exact nofun
  unfold submit
  refine Act.Goes.bind_ok resolving hproject hresolving ?_
  refine Act.Goes.bind_ok choosing hmachineType hchoosing ?_
  refine Act.Goes.bind_ok _ (Act.perform_log _ _ _ s₂) (Session.events_add _ _) ?_
  refine (insertInstance_goes _ _ _ _ _).map fun added r t ⟨first, u, hasked, hcalls, _⟩ => ?_
  refine (InsertsOnly.of_asked hasked ?_).map _
  have hone : insertions (requests first) = requests first := by
    refine List.filter_eq_self.mpr fun e he => ?_
    rw [hasked.request_eq e he]
    rfl
  simp only [requests, Event.calls_append, Event.calls_log, insertions_append] at *
  rw [hresolves, hchooses, hcalls, hone]
  rfl

variable [Clock τ]

/-- Waiting for an instance asks for none. -/
theorem awaitNode_insertions {t : Session τ (Account σ) Exchange} {operation : Operation}
    {resolving choosing : List Exchange} {e : Exchange} (hchecked : template.check = .ok checked)
    (hfollows : ({ resolving, choosing, inserting := [e] } : Creation).Follows p name template s
      project)
    (hoperation : e.operation? = some operation) (hproject : t.world.project = ⟨some project⟩) :
    (p.awaitNode name checked project operation).Goes t fun added _ _ =>
      insertions (requests added) = [] := by
  refine (p.awaitNode_goes hchecked hfollows hoperation hproject).mono ?_
  rintro added r u ⟨watching, reading, hcalls, hall, -⟩
  obtain ⟨-, -, hwatching, hreading⟩ := hall.endpoint_of_mem
  refine insertions_eq_nil fun e he => ?_
  rw [hcalls, List.mem_append] at he
  rcases he with he | he
  · exact (hwatching e he).2
  · rw [hreading e he]
    exact nofun

/-- Making a node asks for one instance and no other, with the specification of the template. -/
theorem createNode_inserts (hchecked : template.check = .ok checked)
    (hproject : p.project.perform s = (.ok project, s₁))
    (hmachineType : (getMachineType p.patience.limit project template.location.id
      template.hardware).perform s₁ = (.ok (some machineType), s₂)) :
    ∃ made, ((p.createNode group name template).perform s).2.calls = s.calls ++ made ∧
      InsertsOnly (.insertInstance project template.location.id (.ofSpec name
        (checked.spec p.naming project group machineType checked.derived))) made
        ((p.createNode group name template).perform s).1 := by
  obtain ⟨hhardware, hzone, -, -⟩ := NodeTemplate.check_eq_ok hchecked
  rw [← hzone, ← hhardware] at hmachineType
  have hrun : (p.createNode group name template).Goes s fun added r _ =>
      InsertsOnly (.insertInstance project checked.zone (.ofSpec name
        (checked.spec p.naming project group machineType checked.derived))) (requests added) r := by
    rw [createNode, hchecked]
    refine Act.Goes.bind_silent (Act.perform_ofExcept _ s) ?_
    refine ((submit_inserts group name hproject hmachineType).and
      (p.submit_goes group hchecked s)).bind ?_ ?_
    · rintro added ⟨project, operation⟩ t ⟨h, resolving, choosing, inserting, _, -, hfollows, hmade⟩
      obtain ⟨rfl, hknown, e, rfl, hoperation⟩ := hmade _ rfl
      refine (awaitNode_insertions hchecked hfollows hoperation hknown).bind ?_ ?_
      · intro waiting node u hnone
        refine Act.Goes.bind_ok _ (Act.perform_log _ _ _ u) (Session.events_add _ _) ?_
        refine Act.Goes.pure ?_
        rw [requests, Event.calls_append]
        exact h.append (by simpa [requests] using hnone) rfl
      · intro waiting halt u hnone
        rw [requests, Event.calls_append]
        exact h.append hnone rfl
    · rintro added halt t ⟨h, -⟩
      exact h.error
  obtain ⟨added, hadded, hinserts⟩ := hrun
  rw [hzone] at hinserts
  exact ⟨requests added, Session.calls_of_events hadded, hinserts⟩

/-- **The request for a new node**: when the template is accepted, the project resolved and the
machine type found, one instance is asked for and no other, and the body says so. -/
theorem createNode_body (hchecked : template.check = .ok checked)
    (hproject : p.project.perform s = (.ok project, s₁))
    (hmachineType : (getMachineType p.patience.limit project template.location.id
      template.hardware).perform s₁ = (.ok (some machineType), s₂)) :
    ∃ (body : InsertBody) (made : List Exchange),
      body.AsksFor template name (p.naming.sharedName group) project machineType ∧
        ((p.createNode group name template).perform s).2.calls = s.calls ++ made ∧
        InsertsOnly (.insertInstance project template.location.id body) made
          ((p.createNode group name template).perform s).1 := by
  obtain ⟨made, hcalls, hinserts⟩ := createNode_inserts hchecked hproject hmachineType
  exact ⟨_, made, CheckedTemplate.spec_asksFor hchecked p.naming group name project machineType,
    hcalls, hinserts⟩

/-! ### A run -/

/-- A template with keys of the user's own, a startup script, and the shared name among its tags. -/
def ownKeysNode : NodeTemplate :=
  { smallNode with optionSet := { options := { smallNode.optionSet.options with
      tags := ["web", "gcenode-g"]
      publicKey := some "key"
      userMetadata := [("ssh-keys", "mine")]
      startupScript := some "run" } } }

/-- What is asked for with it: the shared name is not repeated, and nothing is put in the place of
the keys. -/
def ownKeysBody : InsertBody where
  name := "a"
  machineType := "n1"
  disks := [{ boot := true, autoDelete := true, sourceImage := "images/i" }]
  networkInterfaces := [{
    network := "https://www.googleapis.com/compute/v1/projects/p/global/networks/default"
    accessConfigs := [{ name := "External NAT", type := "ONE_TO_ONE_NAT" }] }]
  metadata := [("ssh-keys", "mine"), ("startup-script", "run")]
  tags := ["web", "gcenode-g"]
  serviceAccounts := []
  description := .null

theorem eq_ownKeysBody {body : InsertBody}
    (h : body.AsksFor ownKeysNode "a" (patientProvider.naming.sharedName "g") "p"
      { name := "n1" }) : body = ownKeysBody := by
  have hshared : patientProvider.naming.sharedName "g" = "gcenode-g" := by decide +kernel
  rw [hshared] at h
  obtain ⟨uri, huri, hdisks⟩ := h.disks
  obtain ⟨network, hnetwork, hinterfaces⟩ := h.networkInterfaces
  obtain ⟨authorization, script, hmetadata, hauthorization, hscript⟩ := h.metadata
  cases huri
  cases hnetwork
  obtain rfl : authorization = none := by
    cases authorization with
    | none => rfl
    | some text => exact absurd (by decide) ((hauthorization text).mp rfl).1
  obtain rfl : script = some "run" := (hscript "run").mpr (by decide)
  cases body
  have hname := h.name
  have hmachineType := h.machineType
  have htags := h.tags
  have haccounts := h.serviceAccounts
  have hdescription := h.description
  dsimp only at *
  subst hname hmachineType htags haccounts hdescription hdisks hinterfaces hmetadata
  decide +kernel

theorem createNode_body_ownKeys : ∃ answer,
    insertions ((patientProvider.createNode "g" "a" ownKeysNode).perform slowService).2.calls
      = [⟨.insertInstance "p" "z" ownKeysBody, answer⟩] := by
  have hchecked : ownKeysNode.check = .ok { smallNodeChecked with
      options := ownKeysNode.optionSet.options } := by decide +kernel
  have hproject : patientProvider.project.perform slowService = (.ok "p", slowService) := rfl
  have hmachineType : (getMachineType 3 ("p" : Value) ("z" : Value) ("n1" : Value)).perform
      slowService = (.ok (some { name := "n1" }), _) := rfl
  obtain ⟨body, made, hasks, hcalls, honly⟩ : ∃ body made, InsertBody.AsksFor body ownKeysNode "a"
      (patientProvider.naming.sharedName "g") "p" { name := "n1" } ∧
        ((patientProvider.createNode "g" "a" ownKeysNode).perform slowService).2.calls
          = slowService.calls ++ made ∧ _ :=
    createNode_body hchecked hproject hmachineType
  obtain rfl := eq_ownKeysBody hasks
  rw [hcalls]
  exact honly.made (by decide +kernel)

end Provider

end ComputeNodes
