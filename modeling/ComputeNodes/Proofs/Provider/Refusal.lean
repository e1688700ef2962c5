/-
Which templates are refused, and what that costs.

`NodeTemplate.FirstFault` says what a template is refused for without saying how it is checked: each
fault counts only where none of those before it applies.  A refusal is all that happens in its run,
so the session is left as it was.

That no other run ends in a refusal is a matter of all the errors behind the check.
`Error.OfCreation` lists those that the library makes there; any other is the answer to a call
(`createNode_raisesOnly`), and the service does not answer with a refusal of its own.
-/
import ComputeNodes.Proofs.Provider.Body
import ComputeNodes.Proofs.Provider.Task
import ComputeNodes.Proofs.Service.Origin

namespace ComputeNodes

/-! ### What a template is refused for -/

namespace NodeTemplate

/-- The fault that a template is refused for: of those it has, the first one in this order. -/
inductive FirstFault (t : NodeTemplate) : TemplateFault → Prop
  | lacksCapabilities {capability : Capability} (lacks : capability ∈ t.optionSet.missing) :
    FirstFault t (.lacksCapabilities t.optionSet.typeName)
  | noNetwork (capable : t.optionSet.missing = [])
    (absent : SaysNothing t.optionSet.options.network) : FirstFault t .noNetwork
  | notZone (capable : t.optionSet.missing = [])
    (connected : ¬ SaysNothing t.optionSet.options.network) (wide : t.location.scope ≠ "ZONE") :
    FirstFault t (.notZone t.location)
  | imageWithoutUri (capable : t.optionSet.missing = [])
    (connected : ¬ SaysNothing t.optionSet.options.network) (zonal : t.location.scope = "ZONE")
    (absent : SaysNothing t.image.uri) :
    FirstFault t (.imageWithoutUri t.image.id)

/-- A template has a first fault if it has any. -/
theorem exists_firstFault {t : NodeTemplate} :
    (∃ fault, t.FirstFault fault) ↔
      (∃ capability, capability ∈ t.optionSet.missing) ∨ SaysNothing t.optionSet.options.network ∨
        t.location.scope ≠ "ZONE" ∨ SaysNothing t.image.uri := by
  constructor
  · rintro ⟨fault, hfault⟩
    cases hfault with
    | lacksCapabilities lacks => exact .inl ⟨_, lacks⟩
    | noNetwork _ absent => exact .inr (.inl absent)
    | notZone _ _ wide => exact .inr (.inr (.inl wide))
    | imageWithoutUri _ _ _ absent => exact .inr (.inr (.inr absent))
  · intro hany
    by_cases hcapable : t.optionSet.missing = []
    · by_cases hnetwork : SaysNothing t.optionSet.options.network
      · exact ⟨_, .noNetwork hcapable hnetwork⟩
      · by_cases hscope : t.location.scope = "ZONE"
        · refine ⟨_, .imageWithoutUri hcapable hnetwork hscope ?_⟩
          simpa [hcapable, hnetwork, hscope] using hany
        · exact ⟨_, .notZone hcapable hnetwork hscope⟩
    · obtain ⟨capability, hlacks⟩ := List.exists_mem_of_ne_nil _ hcapable
      exact ⟨_, .lacksCapabilities hlacks⟩

/-- The check as nested cases. -/
theorem check_eq (t : NodeTemplate) : t.check =
    if t.optionSet.missing ≠ [] then .error (.lacksCapabilities t.optionSet.typeName)
    else match t.optionSet.options.network.bind nonEmpty? with
      | none => .error .noNetwork
      | some network =>
        if t.location.scope ≠ "ZONE" then .error (.notZone t.location)
        else match t.image.uri.bind nonEmpty? with
          | none => .error (.imageWithoutUri t.image.id)
          | some imageUri => .ok
            { hardware := t.hardware, zone := t.location.id, image := t.image, imageUri, network,
              options := t.optionSet.options } := by
  have hzone : (!t.location.isZone) = true ↔ t.location.scope ≠ "ZONE" := by
    simp [Location.isZone]
  unfold check
  by_cases hcapable : t.optionSet.missing = []
  · rw [if_neg (not_not.mpr hcapable), if_neg (not_not.mpr hcapable)]
    dsimp only
    cases t.optionSet.options.network.bind nonEmpty? with
    | none => rfl
    | some network =>
      dsimp only
      by_cases hscope : t.location.scope = "ZONE"
      · rw [if_neg (hzone.not.mpr (not_not.mpr hscope)), if_neg (not_not.mpr hscope)]
        cases t.image.uri.bind nonEmpty? <;> rfl
      · rw [if_pos (hzone.mpr hscope), if_pos hscope]
        rfl
  · rw [if_pos hcapable, if_pos hcapable]
    rfl

/-- A template is turned down for its first fault. -/
theorem check_of_firstFault {t : NodeTemplate} {fault : TemplateFault} (h : t.FirstFault fault) :
    t.check = .error fault := by
  rw [check_eq]
  cases h with
  | lacksCapabilities lacks => rw [if_pos (List.ne_nil_of_mem lacks)]
  | noNetwork capable absent =>
    rw [if_neg (not_not.mpr capable), bind_nonEmpty?_eq_none.mpr absent]
  | notZone capable connected wide =>
    obtain ⟨network, hnetwork⟩ := exists_bind_nonEmpty? connected
    rw [if_neg (not_not.mpr capable), hnetwork]
    exact if_pos wide
  | imageWithoutUri capable connected zonal absent =>
    obtain ⟨network, hnetwork⟩ := exists_bind_nonEmpty? connected
    rw [if_neg (not_not.mpr capable), hnetwork, bind_nonEmpty?_eq_none.mpr absent]
    exact if_neg (not_not.mpr zonal)

theorem exists_check {t : NodeTemplate} (h : ¬ ∃ fault, t.FirstFault fault) :
    ∃ checked, t.check = .ok checked := by
  simp only [exists_firstFault, not_or, not_exists, not_not] at h
  obtain ⟨hcapable, hconnected, hzonal, himage⟩ := h
  obtain ⟨network, hnetwork⟩ := exists_bind_nonEmpty? hconnected
  obtain ⟨uri, huri⟩ := exists_bind_nonEmpty? himage
  rw [check_eq, if_neg (not_not.mpr (List.eq_nil_iff_forall_not_mem.mpr hcapable)), hnetwork, huri]
  exact ⟨_, if_neg (not_not.mpr hzonal)⟩

end NodeTemplate

/-! ### What goes wrong behind the check -/

/-- The errors that the library makes while it makes a node of a template that is accepted. -/
inductive Error.OfCreation : Error → Prop
  | unmade (fault : MessageFault) : OfCreation (.unmade fault)
  | paging (fault : PagingFault) : OfCreation (.paging fault)
  | configuration (fault : ConfigurationFault) : OfCreation (.configuration fault)
  | machineTypeNotFound (name project zone : String) :
    OfCreation (.machineTypeNotFound name project zone)
  | operationFailed (code message : Value) (operation : Option Operation) :
    OfCreation (.operationFailed code message operation)
  | operationTimeout (operation : Operation) (timeout : Seconds) :
    OfCreation (.operationTimeout operation timeout)
  | visibilityTimeout (zone name : String) (timeout : Seconds) :
    OfCreation (.visibilityTimeout zone name timeout)
  | unknownStatus (word : Value) : OfCreation (.unknownKey word)
  | unfitStatus (typeName : String) : OfCreation (.use (.notKey typeName))
  | tooLargeForDouble : OfCreation .tooLargeForDouble

namespace Error

theorem OfCreation.kind_ne {error : Error} (h : error.OfCreation) :
    error.kind ≠ .invalidTemplate := by
  cases h with
  | unmade fault => cases fault <;> exact nofun
  | _ => exact nofun

theorem ofCreation_placeOf {word : Value} {error : Error} (h : Status.placeOf word = .error error) :
    error.OfCreation := by
  unfold Status.placeOf at h
  split at h
  · split at h
    · cases h
    · cases h
      exact .unknownStatus _
  · cases h
    exact .unfitStatus _

end Error

/-- What a project cannot be resolved for is the library's, or what the service answered. -/
theorem Resolution.traced {Own : Error → Prop} (hunmade : ∀ fault, Own (.unmade fault))
    (hconfiguration : ∀ fault, Own (.configuration fault)) {identity : String}
    {known : Option Value} {resolving : List Exchange} {outcome : Except Error Value}
    {error : Error} (h : Resolution identity known resolving outcome)
    (herror : outcome = .error error) : Own error ∨ ∃ e ∈ resolving, e.answer = .error error := by
  cases h with
  | known project => cases herror
  | told cut message => cases herror
  | refused cut unfit => cases herror; exact .inl (hunmade _)
  | missing cut absent => cases herror; exact .inl (hconfiguration _)
  | raised cut other => cases herror; exact .inr ⟨_, List.mem_singleton_self _, rfl⟩

namespace Provider

open Act (RaisesOnly)

variable {τ σ : Type} [Server τ σ]

/-! The hypotheses list what a part of the run makes; whatever holds of these errors holds of all
that the part makes. -/

section

variable {Own : Error → Prop} (hunmade : ∀ fault, Own (.unmade fault))
include hunmade

theorem project_raisesOnly (hconfiguration : ∀ fault, Own (.configuration fault)) (p : Provider) :
    (p.project : Work τ σ Value).RaisesOnly Own := by
  intro s
  refine (Account.projectName_resolves p.identity s).mono ?_
  rintro added r t ⟨outcome, hresolution, rfl, -⟩ error herror
  exact hresolution.traced hunmade hconfiguration (Act.mapError_failed_eq_error.mp herror)

theorem submit_raisesOnly (hconfiguration : ∀ fault, Own (.configuration fault))
    (hpaging : ∀ fault, Own (.paging fault)) (p : Provider) (group name : String)
    (checked : CheckedTemplate)
    (hmissing : ∀ project, Own (.machineTypeNotFound checked.hardware project checked.zone)) :
    (p.submit group name checked : Work τ σ _).RaisesOnly Own := by
  refine (project_raisesOnly hunmade hconfiguration p).bind fun project => ?_
  refine (RaisesOnly.getMachineType hunmade hpaging _ _ _ _).bind fun found => ?_
  cases found with
  | none => exact .fail (hmissing _)
  | some machineType =>
    refine (RaisesOnly.log _ _ _).bind fun _ => ?_
    exact (RaisesOnly.insertInstance hunmade _ _ _ _).bind fun _ => .pure _

theorem awaitVisible_raisesOnly [Clock τ] (htooLarge : Own .tooLargeForDouble) (p : Provider)
    (project : Value) (zone name : String)
    (hlate : Own (.visibilityTimeout zone name p.patience.timeout)) :
    (p.awaitVisible project zone name : Work τ σ _).RaisesOnly Own := by
  have hread : (getInstance project zone name : Work τ σ _).RaisesOnly Own :=
    .read hunmade (.getInstance project zone name) _
  have hwait : (pollUntilPresent p.patience ("instance " ++ zone ++ "/" ++ name)
      (getInstance project zone name) : Work τ σ _).RaisesOnly Own :=
    .retryUntil htooLarge fun _ => hread.bind fun _ => .pure _
  refine hwait.bind fun visible => ?_
  split
  · exact .pure _
  · unfold Error.visibilityTimeout?
    split
    · simp only [Act.ofExcept, pure_bind]
      exact .fail hlate
    · exact (RaisesOnly.fail htooLarge).bind_of_perform fun _ _ _ hrun => by cases hrun

end

theorem look_raisesOnly (p : Provider) (kept : Operation) :
    (p.lookup.look kept : Work τ σ _).RaisesOnly Error.OfCreation := by
  have hreread : (p.lookup.reread kept : Work τ σ _).RaisesOnly Error.OfCreation :=
    (project_raisesOnly .unmade .configuration p).bind fun project =>
      .read .unmade (.getOperation project kept.zone kept.name) _
  have hrank (o : Operation) : (Lookup.rank o : Work τ σ Nat).RaisesOnly Error.OfCreation :=
    .ofExcept fun _ => Error.ofCreation_placeOf
  refine hreread.bind fun answer => ?_
  cases answer with
  | none => exact (RaisesOnly.log _ _ _).bind fun _ => .pure _
  | some fresh =>
    refine (hrank fresh).bind fun new => (hrank kept).bind fun old => ?_
    split
    · exact (RaisesOnly.log _ _ _).bind fun _ => .pure _
    · exact (RaisesOnly.log _ _ _).bind fun _ => .pure _

variable [Clock τ]

theorem await_raisesOnly (p : Provider) (operation : Operation) :
    (p.lookup.await p.patience operation : Work τ σ _).RaisesOnly Error.OfCreation := by
  refine (RaisesOnly.retryUntil .tooLargeForDouble fun last =>
    p.look_raisesOnly (last.getD operation)).bind fun polled s => ?_
  cases hsucceeded : polled.succeeded with
  | true =>
    obtain ⟨entry, hconclude⟩ := Lookup.conclude_done p.patience polled hsucceeded s
    refine Act.Goes.of_perform _ hconclude (Session.events_add _ _) fun error herror => ?_
    obtain ⟨fault, -, rfl⟩ := Operation.ended_eq_error (Act.mapError_failed_eq_error.mp herror)
    exact .inl (.operationFailed _ _ _)
  | false =>
    refine Act.Goes.of_perform [] (Lookup.conclude_late p.patience polled hsucceeded s) (by simp)
      (.own ?_)
    unfold Operation.lateError
    cases p.patience.timeout.tenths? with
    | none => exact .tooLargeForDouble
    | some seconds => exact .operationTimeout _ _

/-- **The errors of making a node** of a template that is accepted: those listed, and what the
service answers to a call. -/
theorem createNode_raisesOnly (p : Provider) (group name : String) {template : NodeTemplate}
    {checked : CheckedTemplate} (hcheck : template.check = .ok checked) :
    (p.createNode group name template : Work τ σ NewNode).RaisesOnly Error.OfCreation := by
  have hsubmit : (p.submit group name checked : Work τ σ _).RaisesOnly Error.OfCreation :=
    submit_raisesOnly .unmade .configuration .paging p group name checked fun _ =>
      .machineTypeNotFound _ _ _
  have hvisible (project : Value) : (p.awaitVisible project checked.zone name :
      Work τ σ _).RaisesOnly Error.OfCreation :=
    awaitVisible_raisesOnly .unmade .tooLargeForDouble p _ _ _ (.visibilityTimeout _ _ _)
  unfold createNode
  rw [ofExcept_check hcheck, pure_bind]
  refine hsubmit.bind fun ⟨project, operation⟩ => ?_
  have hwait : (p.awaitNode name checked project operation : Work τ σ _).RaisesOnly
      Error.OfCreation := by
    unfold awaitNode
    split
    · exact (p.await_raisesOnly operation).bind fun _ => hvisible _
    · exact hvisible _
  exact hwait.bind fun node => (RaisesOnly.log _ _ _).bind fun _ => .pure _

/-- A refusal is all that happens in its run. -/
theorem createNode_refused (p : Provider) (group name : String) {template : NodeTemplate}
    {fault : TemplateFault} (h : template.FirstFault fault) (s : Session τ (Account σ) Exchange) :
    (p.createNode group name template).perform s = (.error (.failed (.template fault)), s) := by
  have hfault : (Task.createNode group name template).fault? = some (.template fault) := by
    rw [Task.fault?, NodeTemplate.check_of_firstFault h]
  exact p.carryOut_faulty hfault s

/-- **Which templates are refused.**  Making a node of a template with a fault ends in the refusal
for its first one, before anything happens and whatever the session is like: what is there
afterwards is the session as it was.  Where every error that a call is answered with is one of the
service, a run ends in a refusal only for a template with a fault, and never once it has made a
call. -/
theorem createNode_refusals (p : Provider) (group name : String) (template : NodeTemplate)
    (s : Session τ (Account σ) Exchange) :
    (∀ fault, template.FirstFault fault →
      (p.createNode group name template).perform s = (.error (.failed (.template fault)), s)) ∧
    ∀ made, ((p.createNode group name template).perform s).2.calls = s.calls ++ made →
      (∀ e ∈ made, ∀ error, e.answer = .error error → ∃ status, error.kind = .service status) →
      ((∃ error, ((p.createNode group name template).perform s).1 = .error (.failed error) ∧
          error.kind = .invalidTemplate) ↔
        (∃ capability, capability ∈ template.optionSet.missing) ∨
          SaysNothing template.optionSet.options.network ∨ template.location.scope ≠ "ZONE" ∨
          SaysNothing template.image.uri) ∧
      ∀ error, ((p.createNode group name template).perform s).1 = .error (.failed error) →
        error.kind = .invalidTemplate →
          made = [] ∧ ∃ fault, template.FirstFault fault ∧ error = .template fault := by
  refine ⟨fun fault hfault => p.createNode_refused group name hfault s, ?_⟩
  intro made hmade hservice
  rw [← NodeTemplate.exists_firstFault]
  -- all that is left to show is that an accepted template does not end so
  have hrefusal : ∀ error,
      ((p.createNode group name template).perform s).1 = .error (.failed error) →
      error.kind = .invalidTemplate →
        made = [] ∧ ∃ fault, template.FirstFault fault ∧ error = .template fault := by
    intro error herror hkind
    by_cases hfaulty : ∃ fault, template.FirstFault fault
    · obtain ⟨fault, hfault⟩ := hfaulty
      rw [p.createNode_refused group name hfault s] at herror hmade
      cases herror
      exact ⟨List.self_eq_append_right.mp hmade, fault, hfault, rfl⟩
    · obtain ⟨checked, hchecked⟩ := NodeTemplate.exists_check hfaulty
      obtain ⟨added, hadded, htraced⟩ := p.createNode_raisesOnly group name hchecked s
      have hcalls : made = requests added :=
        List.append_cancel_left (hmade.symm.trans (Session.calls_of_events hadded))
      rcases htraced error herror with hown | ⟨e, he, hanswer⟩
      · exact absurd hkind hown.kind_ne
      · obtain ⟨status, hstatus⟩ := hservice e (hcalls ▸ he) error hanswer
        rw [hkind] at hstatus
        cases hstatus
  refine ⟨⟨?_, ?_⟩, hrefusal⟩
  · rintro ⟨error, herror, hkind⟩
    obtain ⟨-, fault, hfault, -⟩ := hrefusal error herror hkind
    exact ⟨fault, hfault⟩
  · rintro ⟨fault, hfault⟩
    exact ⟨.template fault, by rw [p.createNode_refused group name hfault s], rfl⟩

/-! ### Two runs -/

/-- A caller that knows its project, before a service that forbids new instances. -/
def forbiddingService : Session Float (Account Script) Exchange where
  now := 0.0
  world := {
    project := ⟨some "p"⟩
    server := [
      { endpoint := .getMachineType, answer := .ok { name := "n1" } },
      { endpoint := .insertInstance,
        answer := .error (.raised (.service .forbidden) "quota exceeded") }] }

/-- A template that is wrong in two ways: it is not for a zone, and its image has no address. -/
def regionalNode : NodeTemplate :=
  { smallNode with
    location := { id := "r", scope := "REGION" }
    image := { id := "i", uri := none } }

theorem createNode_refusals_forbiddingService :
    (patientProvider.createNode "g" "a" regionalNode).perform forbiddingService
      = (.error (.failed (.template (.notZone regionalNode.location))), forbiddingService) ∧
    ∃ made, ((patientProvider.createNode "g" "a" smallNode).perform forbiddingService).2.calls
        = forbiddingService.calls ++ made ∧ made.length = 2 ∧
      ¬ ∃ error, ((patientProvider.createNode "g" "a" smallNode).perform forbiddingService).1
          = .error (.failed error) ∧ error.kind = .invalidTemplate := by
  refine ⟨(createNode_refusals _ _ _ _ _).1 _ ?_, ?_⟩
  · exact .notZone rfl (by decide +kernel) (by decide)
  · let made : List Exchange := [
      ⟨.getMachineType "p" "z" "n1", .ok { name := "n1" }⟩,
      ⟨.insertInstance "p" "z" (.ofSpec "a" (smallNodeChecked.spec patientProvider.naming "p" "g"
          { name := "n1" } smallNodeChecked.derived)),
        .error (.raised (.service .forbidden) "quota exceeded")⟩]
    have hmade : ((patientProvider.createNode "g" "a" smallNode).perform forbiddingService).2.calls
        = forbiddingService.calls ++ made := rfl
    have hservice : ∀ e ∈ made, ∀ error, e.answer = .error error →
        ∃ status, error.kind = .service status := by
      intro e he error herror
      obtain rfl | rfl : e = made[0] ∨ e = made[1] := by simpa [made] using he
      · cases herror
      · cases herror
        exact ⟨.forbidden, rfl⟩
    refine ⟨made, hmade, rfl, ?_⟩
    rw [((createNode_refusals patientProvider "g" "a" smallNode forbiddingService).2 made hmade
      hservice).1]
    simp [smallNode, SaysNothing]

end Provider

end ComputeNodes
