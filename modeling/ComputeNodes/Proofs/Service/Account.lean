/-
What finding the name of a caller's project does to a session.

An account that knows the name gives it and does nothing (`projectName_known`).  One that does not
asks for it once at most, and knows it from then on if it was found (`Resolution`); no other request
makes it forget (`keeps_project`).
-/
import ComputeNodes.Proofs.Service.Law
import ComputeNodes.Service.Account

namespace ComputeNodes

variable {τ σ : Type} [Server τ σ]

/-- Whether an identity holds the id of a project: the id is all that is in front of the first
`@`. -/
def IsProjectIdOf (id identity : String) : Prop :=
  ∃ rest, identity = id ++ "@" ++ rest ∧ '@' ∉ id.toList

/-- The id of the project in an identity. -/
def projectId (identity : String) : Value := .text (Text.before identitySeparator identity)

theorem IsProjectIdOf.projectId_eq {id identity : String} (h : IsProjectIdOf id identity) :
    projectId identity = .text id := by
  obtain ⟨rest, rfl, hid⟩ := h
  exact congrArg Value.text (Text.before_append hid rest)

theorem isProjectIdOf_before {identity : String} (h : '@' ∈ identity.toList) :
    IsProjectIdOf (Text.before identitySeparator identity) identity :=
  Text.exists_before h

/-- How the caller's project is resolved: it is known, or else it takes one request, which is for
the id in the identity. -/
inductive Resolution (identity : String) : (known : Option Value) → List Exchange →
    Except Error Value → Prop
  | known (project : Value) : Resolution identity (some project) [] (.ok project)
  /-- The request for the project cannot be made. -/
  | refused {id : String} {fault : MessageFault} (cut : IsProjectIdOf id identity)
    (unfit : (Request.getProject (.text id)).check = .error fault) :
    Resolution identity none [] (.error (.unmade fault))
  | told {id : String} (cut : IsProjectIdOf id identity) (message : ProjectMessage) :
    Resolution identity none [⟨.getProject (.text id), .ok message⟩] (.ok message.name)
  | missing {id : String} {error : Error} (cut : IsProjectIdOf id identity)
    (absent : error.isNotFound = true) :
    Resolution identity none [⟨.getProject (.text id), .error error⟩]
      (.error (.configuration (.projectNotFound id identity)))
  | raised {id : String} {error : Error} (cut : IsProjectIdOf id identity)
    (other : error.isNotFound = false) :
    Resolution identity none [⟨.getProject (.text id), .error error⟩] (.error error)

/-- The name of a project that an identity tells by itself. -/
def ownProject? (identity : String) : Option Value :=
  if '@' ∉ identity.toList then some (.text identity) else none

/-- It takes one request at most, and that is for the project in the identity. -/
theorem Resolution.requests {identity : String} {known : Option Value} {resolving : List Exchange}
    {outcome : Except Error Value} (h : Resolution identity known resolving outcome) :
    resolving.length ≤ 1 ∧ ∀ e ∈ resolving, e.request = .getProject (projectId identity) := by
  cases h with
  | known project | refused cut unfit => simp
  | told cut message => simp [cut.projectId_eq]
  | missing cut absent => simp [cut.projectId_eq]
  | raised cut other => simp [cut.projectId_eq]

namespace Account

theorem keeps_project (known : Memo Value) :
    Server.Keeps τ fun account : Account σ => account.project = known :=
  fun _ _ _ h => h

omit [Server τ σ] in
theorem perform_project (s : Session τ (Account σ) Exchange) :
    (do return (← Act.world).project : Calls τ (Account σ) (Memo Value)).perform s
      = (.ok s.world.project, s) := rfl

theorem projectName_known {identity : String} {project : Value}
    {s : Session τ (Account σ) Exchange} (h : s.world.project = ⟨some project⟩) :
    (projectName identity).perform s = (.ok project, s) := by
  rw [projectName, Memo.force, Act.perform_bind_ok (perform_project s), h]
  rfl

/-- An identity that is no name is resolved by asking. -/
theorem resolveProject_goes (identity : String) (s : Session τ (Account σ) Exchange) :
    (resolveProject identity).Goes s fun added r t => t.world.project = s.world.project ∧
        ∃ outcome, Resolution identity (ownProject? identity) (requests added) outcome ∧
          r = outcome.mapError .failed := by
  unfold resolveProject ownProject? identitySeparator
  by_cases hplain : '@' ∉ identity.toList
  · rw [if_pos hplain, if_pos hplain]
    exact Act.Goes.pure ⟨rfl, .ok _, .known _, rfl⟩
  · rw [if_neg hplain, if_neg hplain]
    have hcut := isProjectIdOf_before (not_not.mp hplain)
    refine (getProject_goes (.text (Text.before '@' identity)) s).bind ?_ ?_
    · intro added found t h
      have hkept : t.world.project = s.world.project := h.keeps (keeps_project _) rfl
      rcases h.requests_eq with ⟨-, fault, hfault⟩ | ⟨answer, hone, hread⟩
      · cases hfault
      · cases answer with
        | ok message =>
          cases hread
          refine Act.Goes.bind_ok _ (Act.perform_log _ _ _ t) (Session.events_add _ _) ?_
          refine Act.Goes.pure ⟨hkept, .ok message.name, ?_, rfl⟩
          simpa [requests, hone] using .told hcut message
        | error error =>
          cases habsent : error.isNotFound with
          | true =>
            obtain rfl : found = none := by simpa [readAnswer, habsent] using hread
            refine Act.Goes.fail ⟨hkept, .error _, ?_, rfl⟩
            simpa [requests, hone] using .missing hcut habsent
          | false => simp [readAnswer, habsent] at hread
    · intro added halt t h
      refine ⟨h.keeps (keeps_project s.world.project) rfl, ?_⟩
      generalize hhalted : Except.error halt = r at h
      cases h with
      | refused fault unfit => cases hhalted; exact ⟨_, .refused hcut unfit, rfl⟩
      | made answer t fit respond =>
        obtain ⟨error, rfl, hother, rfl⟩ := readAnswer_eq_error hhalted.symm
        exact ⟨_, .raised hcut hother, rfl⟩

/-- The name of the caller's project, as far as it is known. -/
def known? (identity : String) (account : Account σ) : Option Value :=
  account.project.value.or (ownProject? identity)

/-- **How the name of a project is found**, and that it is known from then on. -/
theorem projectName_resolves (identity : String) (s : Session τ (Account σ) Exchange) :
    (projectName identity).Goes s fun added r t =>
      ∃ outcome, Resolution identity (s.world.known? identity) (requests added) outcome ∧
        r = outcome.mapError .failed ∧
        (∀ project, outcome = .ok project → t.world.project = ⟨some project⟩) ∧
        ∀ error, outcome = .error error → t.world.project = s.world.project := by
  rw [projectName, Memo.force]
  refine Act.Goes.bind_silent (perform_project s) ?_
  unfold known?
  cases hvalue : s.world.project.value with
  | some project =>
    refine Act.Goes.pure ⟨.ok project, .known project, rfl, fun _ hproject => ?_,
      fun _ herror => by cases herror⟩
    cases hproject
    rw [← hvalue]
  | none =>
    rw [Option.none_or]
    refine (resolveProject_goes identity s).bind ?_ ?_
    · intro added project t ⟨_, outcome, hresolution, houtcome⟩
      obtain rfl := Act.mapError_failed_eq_ok.mp houtcome.symm
      refine Act.Goes.bind_ok []
        (t := { t with world := { t.world with project := ⟨some project⟩ } }) rfl (by simp) ?_
      refine Act.Goes.pure ⟨.ok project, by simpa using hresolution, rfl, fun _ hproject => ?_,
        fun _ herror => by cases herror⟩
      cases hproject
      rfl
    · intro added halt t ⟨hkept, outcome, hresolution, houtcome⟩
      refine ⟨outcome, hresolution, houtcome, fun project hproject => ?_, fun error herror => ?_⟩
      · rw [hproject] at houtcome
        cases houtcome
      · exact hkept

/-- **A name is asked for once at most, and known from then on.** -/
theorem projectName_goes (identity : String) (s : Session τ (Account σ) Exchange) :
    (projectName identity).Goes s fun added r t =>
      (requests added).length ≤ 1 ∧
        (∀ e ∈ requests added, e.request = .getProject (projectId identity)) ∧
        ∀ project, r = .ok project → t.world.project = ⟨some project⟩ := by
  refine (projectName_resolves identity s).mono ?_
  intro added r t ⟨outcome, hresolution, houtcome, hknown, _⟩
  refine ⟨hresolution.requests.1, hresolution.requests.2, fun project hproject => ?_⟩
  rw [hproject] at houtcome
  exact hknown project (Act.mapError_failed_eq_ok.mp houtcome.symm)

theorem projectName_obeys {law : Law τ Exchange} (identity : String)
    (hallows : law.Allows (.getProject (projectId identity))) :
    (projectName identity : Calls τ (Account σ) Value).Obeys law (fun _ => True)
      fun _ => True := by
  have hresolve : (resolveProject identity : Calls τ (Account σ) Value).Obeys law (fun _ => True)
      fun _ => True := by
    unfold resolveProject
    split
    · exact .pure trivial
    · have hread : (getProject (projectId identity) : Calls τ (Account σ) _).Obeys law
          (fun _ => True) fun _ => True := .read (fun _ _ _ _ => trivial) hallows nofun _
      refine hread.bind fun found _ => ?_
      cases found with
      | none => exact .fail nofun
      | some project => exact (Act.Obeys.log _ _ _).bind fun _ _ => .pure trivial
  intro s hs
  rw [projectName, Memo.force]
  refine Act.Goes.bind_silent (perform_project s) ?_
  split
  · exact Act.Goes.pure ⟨law.nil, hs, fun _ _ => trivial⟩
  · refine (hresolve s hs).bind (fun added project t h => ?_) fun _ _ _ h => ⟨h.1, trivial, nofun⟩
    refine Act.Goes.bind_ok [] (t := { t with world := { t.world with project := ⟨some project⟩ } })
      rfl (by simp) ?_
    exact Act.Goes.pure ⟨by simpa using h.1, trivial, fun _ _ => trivial⟩

end Account

end ComputeNodes
