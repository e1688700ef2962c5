/-
Which account a new node lets in, and which one its credentials name.

Both come from the same derived credentials.  The metadata authorize the user of these credentials,
and where that says nothing an account of their own; the credentials are handed back as they are.
So the two agree wherever the credentials name a user at all.
-/
import ComputeNodes.Proofs.Provider.Body

namespace ComputeNodes

namespace Metadata

theorem authorizedUser_of_user {credentials : LoginCredentials} {user : String}
    (h : credentials.user = some user) (huser : user ≠ "") : authorizedUser credentials = user := by
  rw [authorizedUser, bind_nonEmpty?_eq_some.mpr ⟨h, huser⟩, Option.getD_some]

theorem authorizedUser_of_saysNothing {credentials : LoginCredentials}
    (h : SaysNothing credentials.user) : authorizedUser credentials = "gcenode" := by
  rw [authorizedUser, bind_nonEmpty?_eq_none.mpr h]
  rfl

/-- **The credentials name the account that is authorized** exactly when they name a user. -/
theorem user_eq_authorizedUser_iff (credentials : LoginCredentials) :
    credentials.user = some (authorizedUser credentials) ↔ ¬ SaysNothing credentials.user := by
  by_cases hnothing : SaysNothing credentials.user
  · refine iff_of_false ?_ (not_not.mpr hnothing)
    rw [authorizedUser_of_saysNothing hnothing]
    rcases hnothing with hnone | hempty
    · simp [hnone]
    · simp [hempty]
  · obtain ⟨user, hgiven⟩ := exists_bind_nonEmpty? hnothing
    obtain ⟨huser, hne⟩ := bind_nonEmpty?_eq_some.mp hgiven
    rw [authorizedUser_of_user huser hne]
    exact iff_of_true huser hnothing

end Metadata

theorem Entries.mem_single {α : Type} {key other : String} {value : Option α} {a : α} :
    (other, a) ∈ single key value ↔ other = key ∧ value = some a := by
  cases value <;> simp [single, eq_comm]

/-- What a body holds under the key of authorizations, where the user put nothing there. -/
theorem InsertBody.AsksFor.authorization_iff {body : InsertBody} {template : NodeTemplate}
    {name shared : String} {project : Value} {machineType : MachineType}
    (h : body.AsksFor template name shared project machineType)
    (hfree : "ssh-keys" ∉ template.optionSet.options.userMetadata.keys) (v : Value) :
    ("ssh-keys", v) ∈ body.metadata ↔ ∃ key, template.derived.publicKey = some key ∧ key ≠ "" ∧
      v = .text (Metadata.authorizedUser template.derived.credentials ++ ":" ++ key) := by
  obtain ⟨authorization, script, hmetadata, hauthorization, -⟩ := h.metadata
  have hown : ∀ text, ("ssh-keys", text) ∉ template.optionSet.options.userMetadata :=
    fun text hmem => hfree (List.mem_map_of_mem hmem)
  have hentry (text : String) : ("ssh-keys", text) ∈
      template.optionSet.options.userMetadata ++ Entries.single "ssh-keys" authorization
        ++ Entries.single "startup-script" script ↔ authorization = some text := by
    rw [List.mem_append, List.mem_append, Entries.mem_single, Entries.mem_single]
    simp [hown]
  rw [hmetadata, List.mem_map]
  constructor
  · rintro ⟨⟨key, text⟩, hin, hpair⟩
    cases hpair
    obtain ⟨-, key, hkey, hne, rfl⟩ := (hauthorization text).mp ((hentry text).mp hin)
    exact ⟨key, hkey, hne, rfl⟩
  · rintro ⟨key, hkey, hne, rfl⟩
    exact ⟨_, (hentry _).mpr ((hauthorization _).mpr ⟨hfree, key, hkey, hne, rfl⟩), rfl⟩

namespace Provider

variable {τ σ : Type} [Server τ σ] [Clock τ] {p : Provider} {group name : String}
  {template : NodeTemplate} {new : NewNode} {s t : Session τ (Account σ) Exchange}

theorem accepted_of_created
    (hcreate : (p.createNode group name template).perform s = (.ok new, t)) :
    ∃ checked, template.check = .ok checked := by
  obtain ⟨added, -, c, _, -, hfollows, hnew⟩ := p.createNode_phases group name template s
  rw [hcreate] at hnew
  exact hfollows.checked (by simp [Creation.calls, (hnew new rfl).2.1])

theorem createNode_credentials
    (hcreate : (p.createNode group name template).perform s = (.ok new, t)) :
    new.credentials = template.derived.credentials := by
  obtain ⟨checked, hchecked⟩ := accepted_of_created hcreate
  have hresult : ((p.createNode group name template).perform s).1 = .ok new := by rw [hcreate]
  rcases hsubmit : (p.submit group name checked).perform s with ⟨r, u⟩
  cases r with
  | error halt =>
    have hhalted : (p.createNode group name template).perform s = (.error halt, u) := by
      rw [createNode, hchecked, Act.perform_bind_ok (Act.perform_ofExcept _ s)]
      exact Act.perform_bind_error hsubmit
    rw [hhalted] at hcreate
    cases hcreate
  | ok made =>
    rw [createNode_perform hchecked hsubmit] at hresult
    cases hnode : ((p.awaitNode name checked made.1 made.2).perform u).1 with
    | error halt => rw [hnode] at hresult; cases hresult
    | ok node => rw [hnode] at hresult; cases hresult; rfl

/-- A run that makes a node has asked for one instance, with what its template says. -/
theorem createNode_asked (hcreate : (p.createNode group name template).perform s = (.ok new, t)) :
    ∃ (project : Value) (machineType : MachineType) (body : InsertBody) (made : List Exchange)
      (answer : Except Error OperationMessage),
      t.calls = s.calls ++ made ∧
        insertions made = [⟨.insertInstance project template.location.id body, answer⟩] ∧
        body.AsksFor template name (p.naming.sharedName group) project machineType := by
  obtain ⟨checked, hchecked⟩ := accepted_of_created hcreate
  obtain ⟨added, -, c, _, -, hfollows, hnew⟩ := p.createNode_phases group name template s
  rw [hcreate] at hnew
  -- the instance was read, so it was asked for, and before that the machine type was found
  obtain ⟨operation, ⟨e, hinserting, -⟩, -⟩ := hfollows.settled (hnew new rfl).2.1
  obtain ⟨u, machineType, v, hproject, -, hmachineType, -⟩ := hfollows.found (by simp [hinserting])
  obtain ⟨made, hcalls, hinserts⟩ := createNode_inserts hchecked hproject hmachineType
  rw [hcreate] at hcalls hinserts
  cases hfit : (Request.insertInstance _ _ _).check with
  | error fault =>
    obtain ⟨-, hhalted⟩ := hinserts.refused fault hfit
    cases hhalted
  | ok _ =>
    obtain ⟨answer, hone⟩ := hinserts.made hfit
    exact ⟨_, machineType, _, made, answer, hcalls, hone,
      CheckedTemplate.spec_asksFor hchecked ..⟩

/-- **The account of a new node.**  Where the user has no entry of its own for authorizations, the
instance is asked for with one exactly if there is a key that is not empty, and it authorizes that
key for one account.  The account is the user of the credentials handed back where they name one,
and a fixed one otherwise, so the credentials name the account exactly when they name a user. -/
theorem createNode_login (hcreate : (p.createNode group name template).perform s = (.ok new, t)) :
    ∃ (project : Value) (body : InsertBody) (made : List Exchange)
      (answer : Except Error OperationMessage) (account : String),
      t.calls = s.calls ++ made ∧
        insertions made = [⟨.insertInstance project template.location.id body, answer⟩] ∧
        ("ssh-keys" ∉ template.optionSet.options.userMetadata.keys →
          ∀ v, ("ssh-keys", v) ∈ body.metadata ↔ ∃ key,
            (template.optionSet.options.publicKey <|>
              (KeyPair.ofMaterial template.image.defaultCredentials.privateKey).publicKey)
                = some key ∧ key ≠ "" ∧ v = .text (account ++ ":" ++ key)) ∧
        new.credentials.user = (template.optionSet.options.loginUser <|>
          template.image.defaultCredentials.user) ∧
        (∀ user, new.credentials.user = some user → user ≠ "" → account = user) ∧
        (SaysNothing new.credentials.user → account = "gcenode") ∧
        (new.credentials.user = some account ↔ ¬ SaysNothing new.credentials.user) := by
  obtain ⟨project, machineType, body, made, answer, hcalls, hone, hasks⟩ := createNode_asked hcreate
  refine ⟨project, body, made, answer, Metadata.authorizedUser new.credentials, hcalls, hone, ?_,
    ?_, fun user huser hne => Metadata.authorizedUser_of_user huser hne,
    Metadata.authorizedUser_of_saysNothing, Metadata.user_eq_authorizedUser_iff _⟩
  · intro hfree v
    rw [createNode_credentials hcreate]
    exact hasks.authorization_iff hfree v
  · rw [createNode_credentials hcreate]
    rfl

/-! ### Two runs -/

/-- A template whose image brings a user and a pair of keys. -/
def debianNode : NodeTemplate :=
  { smallNode with image := { smallNode.image with
      defaultCredentials := { user := some "debian", privateKey := some "ssh-rsa AAAA:PRIVATE" } } }

/-- What becomes of a template at `slowService`. -/
def slowNew (template : NodeTemplate) : NewNode :=
  newNode "a" template { name := "a", zone := "z", id := "0" }

theorem createNode_login_debianNode :
    ((patientProvider.createNode "g" "a" debianNode).perform slowService).1
        = .ok (slowNew debianNode) ∧
      (slowNew debianNode).credentials.user = some "debian" ∧
      ∃ project body answer,
        insertions ((patientProvider.createNode "g" "a" debianNode).perform slowService).2.calls
            = [⟨.insertInstance project "z" body, answer⟩] ∧
          ("ssh-keys", .text "debian:ssh-rsa AAAA") ∈ body.metadata := by
  have hnew : ((patientProvider.createNode "g" "a" debianNode).perform slowService).1
      = .ok (slowNew debianNode) := Act.eq_ok_of_toOption (by decide +kernel)
  rcases hcreate : (patientProvider.createNode "g" "a" debianNode).perform slowService with ⟨r, t⟩
  rw [hcreate] at hnew
  obtain rfl : r = .ok (slowNew debianNode) := hnew
  obtain ⟨project, body, made, answer, account, hcalls, hone, hauthorized, -, haccount, -, -⟩ :=
    createNode_login hcreate
  obtain rfl : account = "debian" := haccount "debian" rfl (by decide)
  refine ⟨rfl, rfl, project, body, answer, ?_, ?_⟩
  · show insertions t.calls = _
    rw [hcalls]
    exact hone
  · exact (hauthorized (by decide) _).mpr ⟨"ssh-rsa AAAA", by decide +kernel, by decide, by decide⟩

/-- A template with a public key that neither its options nor its image name a user for. -/
def keyedNode : NodeTemplate :=
  { smallNode with optionSet := { options := { smallNode.optionSet.options with
      publicKey := some "key" } } }

/-- The key is authorized, for an account that the credentials do not name. -/
theorem createNode_keyedNode :
    ((patientProvider.createNode "g" "a" keyedNode).perform slowService).1
        = .ok (slowNew keyedNode) ∧
      (slowNew keyedNode).credentials.user = none ∧
      "ssh-keys" ∉ keyedNode.optionSet.options.userMetadata.keys ∧
      ∃ body answer,
        insertions ((patientProvider.createNode "g" "a" keyedNode).perform slowService).2.calls
            = [⟨.insertInstance "p" "z" body, answer⟩] ∧
          ("ssh-keys", .text "gcenode:key") ∈ body.metadata ∧
          ¬ ∃ user, (slowNew keyedNode).credentials.user = some user ∧
            ("ssh-keys", .text (user ++ ":" ++ "key")) ∈ body.metadata := by
  have hnone : (slowNew keyedNode).credentials.user = none := rfl
  have hchecked : keyedNode.check = .ok { smallNodeChecked with
      options := keyedNode.optionSet.options } := by decide +kernel
  have hproject : patientProvider.project.perform slowService = (.ok "p", slowService) := rfl
  have hmachineType : (getMachineType 3 ("p" : Value) ("z" : Value) ("n1" : Value)).perform
      slowService = (.ok (some { name := "n1" }), _) := rfl
  obtain ⟨made, hcalls, honly⟩ : ∃ made,
      ((patientProvider.createNode "g" "a" keyedNode).perform slowService).2.calls
        = slowService.calls ++ made ∧ InsertsOnly _ made _ :=
    createNode_inserts hchecked hproject hmachineType
  obtain ⟨answer, hone⟩ := honly.made (by decide +kernel)
  refine ⟨Act.eq_ok_of_toOption (by decide +kernel), hnone, by decide, _, answer, ?_, ?_, ?_⟩
  · rw [hcalls]
    exact hone
  · decide +kernel
  · rintro ⟨user, huser, -⟩
    rw [hnone] at huser
    cases huser

end Provider

end ComputeNodes
