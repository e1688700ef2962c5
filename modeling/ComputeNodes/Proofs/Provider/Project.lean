/-
In which project a provider asks for things.

A new account knows no project.  What it knows after some tasks can be told from the calls that were
made: the name is that of the first answer that told it (`toldProject`), and the account keeps just
that name (`Standing`).  So a task that needs the project has it told if and only if no call before
has told it, and tells it to everything it does from then on (`Resolution`, `Course`).

One step keeps `Standing`, and a row of tasks by induction.  With it every single request of a row
is accounted for by the calls before it (`Request.IsDue`).
-/
import ComputeNodes.Proofs.Provider.Task
import ComputeNodes.Service.Script

namespace ComputeNodes

variable {τ σ : Type}

/-! ### What calls tell -/

/-- The name of a project that an exchange told. -/
def Exchange.told? : Exchange → Option Value
  | ⟨.getProject _, .ok message⟩ => some (ProjectMessage.name message)
  | _ => none

theorem Exchange.told?_of_belongs {e : Exchange} {project : Value}
    (h : e.request.project? = some project) : e.told? = none := by
  obtain ⟨request, answer⟩ := e
  cases request with
  | getProject name => cases h
  | _ => rfl

/-- The name of the caller's project, as far as it is known behind some calls. -/
def toldProject (identity : String) (asked : List Exchange) : Option Value :=
  (ownProject? identity).or (asked.findSome? Exchange.told?)

theorem toldProject_append (identity : String) (asked more : List Exchange) :
    toldProject identity (asked ++ more)
      = (toldProject identity asked).or (more.findSome? Exchange.told?) := by
  rw [toldProject, List.findSome?_append, ← Option.or_assoc, toldProject]

/-- What is resolved is what is told from then on. -/
theorem Resolution.toldProject {identity : String} {asked resolving : List Exchange}
    {project : Value}
    (h : Resolution identity (ComputeNodes.toldProject identity asked) resolving (.ok project)) :
    ComputeNodes.toldProject identity (asked ++ resolving) = some project := by
  rw [toldProject_append]
  generalize ComputeNodes.toldProject identity asked = known at h ⊢
  cases h <;> rfl

theorem Resolution.tells_nothing {identity : String} {known : Option Value}
    {resolving : List Exchange} {error : Error}
    (h : Resolution identity known resolving (.error error)) :
    resolving.findSome? Exchange.told? = none := by
  cases h <;> rfl

/-! ### Accounts -/

/-- Whether an account knows the caller's project just as the calls of its session tell it. -/
def Standing (identity : String) (s : Session τ (Account σ) Exchange) : Prop :=
  s.world.known? identity = toldProject identity s.calls

theorem standing_new (identity : String) (now : τ) (server : σ) :
    Standing identity ({ now, world := { server } } : Session τ (Account σ) Exchange) := by
  show Option.or none (ownProject? identity) = toldProject identity []
  rw [toldProject, Option.none_or, List.findSome?_nil, Option.or_none]

namespace Standing

variable {identity : String} {s t : Session τ (Account σ) Exchange}

theorem untold (h : Standing identity s) (hproject : t.world.project = s.world.project)
    {more : List Exchange} (hcalls : t.calls = s.calls ++ more)
    (hmore : more.findSome? Exchange.told? = none) : Standing identity t := by
  unfold Standing Account.known? at h ⊢
  rw [hproject, h, hcalls, toldProject_append, hmore, Option.or_none]

variable [Server τ σ]

/-- **The caller's project is told as the calls so far demand**, and then it is known. -/
theorem projectName_goes (h : Standing identity s) :
    (Account.projectName identity).Goes s fun added r t => Standing identity t ∧
      ∃ outcome, Resolution identity (toldProject identity s.calls) (requests added) outcome ∧
        r = outcome.mapError .failed ∧
        ∀ project, outcome = .ok project → t.world.project = ⟨some project⟩ := by
  refine (Account.projectName_resolves identity s).with_perform.mono ?_
  intro added r t ⟨⟨_, hadded⟩, outcome, hresolution, houtcome, hknown, hkept⟩
  rw [h] at hresolution
  refine ⟨?_, outcome, hresolution, houtcome, hknown⟩
  have hcalls : t.calls = s.calls ++ requests added := Session.calls_of_events hadded
  cases outcome with
  | ok project =>
    unfold Standing Account.known?
    rw [hknown project rfl, hcalls, hresolution.toldProject]
    rfl
  | error error => exact h.untold (hkept error rfl) hcalls hresolution.tells_nothing

end Standing

variable [Server τ σ]

/-! ### Tasks -/

/-- The law of asking for nothing but certain requests. -/
def within (P : Request → Prop) : Law τ Exchange where
  Admits l _ := ∀ e ∈ requests l, P e.request
  nil := by simp [requests]
  append hl hmore := by
    rw [requests, Event.calls_append, List.forall_mem_append]
    exact ⟨hl, hmore⟩
  log := by simp [requests]
  pause := by simp [requests]
  cutOff := by simp [requests]
  own := by simp [requests]

theorem within_allows {P : Request → Prop} {request : Request} (h : P request) :
    (within P : Law τ Exchange).Allows request := by
  intro answer e he
  cases List.mem_singleton.mp he
  exact h

namespace Provider

/-- What a task that is not faulty asks for behind some calls, and how it comes out where the
caller's project cannot be resolved. -/
inductive Course {α : Type} (p : Provider) (asked : List Exchange) :
    List Exchange → Except Halt α → Prop
  | unresolved {resolving : List Exchange} {error : Error}
    (resolution : Resolution p.identity (toldProject p.identity asked) resolving (.error error)) :
    Course p asked resolving (.error (.failed error))
  /-- Whatever is asked for in the caller's project is asked for in the one that was resolved, and
  the shared images are turned to only behind that. -/
  | resolved {resolving own shared : List Exchange} {project : Value} {r : Except Halt α}
    (resolution : Resolution p.identity (toldProject p.identity asked) resolving (.ok project))
    (own_belongs : ∀ e ∈ own, e.request.project? = some project)
    (shared_belongs : ∀ e ∈ shared,
      e.request.IsOfImages ∧ e.request.project? = some p.imageProject)
    (own_first : shared ≠ [] → own ≠ []) :
    Course p asked (resolving ++ own ++ shared) r

variable {p : Provider} {s : Session τ (Account σ) Exchange}

theorem tells_nothing_of_belongs {calls : List Exchange}
    (h : ∀ e ∈ calls, ∃ project, e.request.project? = some project) :
    calls.findSome? Exchange.told? = none := by
  rw [List.findSome?_eq_none_iff]
  intro e he
  obtain ⟨project, hproject⟩ := h e he
  exact Exchange.told?_of_belongs hproject

/-- What is done once the caller's project is known takes its course from there. -/
theorem course_of_known {α : Type} {rest : Value → Work τ σ α} (h : Standing p.identity s)
    (hrest : ∀ project t, t.world.project = ⟨some project⟩ →
      (rest project).Goes t fun more _ u => u.world.project = ⟨some project⟩ ∧
        ∃ own shared, requests more = own ++ shared ∧
          (∀ e ∈ own, e.request.project? = some project) ∧
          (∀ e ∈ shared, e.request.IsOfImages ∧ e.request.project? = some p.imageProject) ∧
          (shared ≠ [] → own ≠ [])) :
    (p.project >>= rest).Goes s fun added r t =>
      Standing p.identity t ∧ p.Course s.calls (requests added) r := by
  refine h.projectName_goes.bind ?_ ?_
  · rintro added project t ⟨ht, outcome, hresolution, houtcome, hknown⟩
    obtain rfl := Act.mapError_failed_eq_ok.mp houtcome.symm
    refine (hrest project t (hknown project rfl)).with_perform.mono ?_
    rintro more r u ⟨⟨-, hmore⟩, hproject, own, shared, hcalls, hown, hshared, hfirst⟩
    have hnothing : (own ++ shared).findSome? Exchange.told? = none := by
      refine tells_nothing_of_belongs fun e he => ?_
      rcases List.mem_append.mp he with he | he
      · exact ⟨_, hown e he⟩
      · exact ⟨_, (hshared e he).2⟩
    refine ⟨?_, ?_⟩
    · refine ht.untold (hproject.trans (hknown project rfl).symm) ?_ hnothing
      rw [← hcalls]
      exact Session.calls_of_events hmore
    · rw [requests, Event.calls_append]
      show p.Course s.calls (requests added ++ requests more) r
      rw [hcalls, ← List.append_assoc]
      exact .resolved hresolution hown hshared hfirst
  · rintro added halt t ⟨ht, outcome, hresolution, houtcome, -⟩
    refine ⟨ht, ?_⟩
    cases outcome with
    | ok project => cases houtcome
    | error error =>
      cases houtcome
      exact .unresolved hresolution

/-- **What goes by phases takes its course**, and leaves the account standing. -/
theorem Phased.goes {α : Type} {act : Work τ σ α} (hphased : p.Phased act)
    (h : Standing p.identity s) :
    act.Goes s fun added r t => Standing p.identity t ∧ p.Course s.calls (requests added) r := by
  have hadmission (project : Value) :
      p.Admission (τ := τ) (σ := σ) (within fun request => request.project? = some project)
        (fun account => account.project = ⟨some project⟩) fun name => name = project :=
    admission_known fun _ hrequest => within_allows hrequest
  cases hphased with
  | own obeys =>
    refine course_of_known h fun project t ht => ?_
    refine (obeys (hadmission project) project rfl t ht).mono fun more r u ⟨hmore, hu, _⟩ => ?_
    exact ⟨hu, requests more, [], by simp, hmore, by simp, by simp⟩
  | shared obeys asks obeys_further =>
    refine course_of_known h fun project t ht => ?_
    refine ((obeys (hadmission project) project rfl t ht).and (asks project t)).bind ?_ ?_
    · intro own b u ⟨⟨hown, hu, _⟩, hasked⟩
      have himages : (within fun request => request.IsOfImages ∧
          request.project? = some (p.imageProject : Value)).AllowsImagesIn (τ := τ)
            p.imageProject :=
        fun request hproject hrequest => within_allows ⟨hrequest, hproject⟩
      refine (obeys_further (Account.keeps_project ⟨some project⟩) himages b u hu).mono ?_
      intro shared r v ⟨hshared, hv, _⟩
      exact ⟨hv, requests own, requests shared, by simp [requests], hown, hshared,
        fun _ => hasked b rfl⟩
    · intro own halt u ⟨⟨hown, hu, _⟩, _⟩
      exact ⟨hu, requests own, [], by simp, hown, by simp, by simp⟩

/-! ### Rows of tasks -/

/-- Whether a request is one to be made behind some calls: the one for the project of the id in the
caller's identity, as long as its name is not known, one that belongs to it, or one for the images
of the shared one. -/
inductive IsDue (p : Provider) (asked : List Exchange) : Request → Prop
  | resolving {id : String} (cut : IsProjectIdOf id p.identity)
    (untold : toldProject p.identity asked = none) : IsDue p asked (.getProject (.text id))
  | own {request : Request} {project : Value}
    (told : toldProject p.identity asked = some project)
    (belongs : request.project? = some project) : IsDue p asked request
  | shared {request : Request} (images : request.IsOfImages)
    (belongs : request.project? = some p.imageProject) : IsDue p asked request

/-- Where every identity is a name, no project is looked up. -/
theorem IsDue.endpoint_ne {asked : List Exchange} {request : Request} (h : p.IsDue asked request)
    (hplain : '@' ∉ p.identity.toList) : request.endpoint ≠ .getProject := by
  have hbelongs {project : Value} (h : request.project? = some project) :
      request.endpoint ≠ .getProject := by
    cases request with
    | getProject name => cases h
    | _ => exact nofun
  cases h with
  | resolving cut untold => rw [toldProject, ownProject?, if_pos hplain] at untold; cases untold
  | own told belongs => exact hbelongs belongs
  | shared images belongs => exact hbelongs belongs

/-- Whether calls were due one after the other, behind those that were made before. -/
def AllDue (p : Provider) (asked calls : List Exchange) : Prop :=
  ∀ before e after, calls = before ++ e :: after → p.IsDue (asked ++ before) e.request

theorem AllDue.append {asked calls more : List Exchange} (h : p.AllDue asked calls)
    (hmore : p.AllDue (asked ++ calls) more) : p.AllDue asked (calls ++ more) := by
  intro before e after hsplit
  rcases List.append_eq_append_iff.mp hsplit with ⟨rest, hbefore, hrest⟩ | ⟨rest, hcalls, hrest⟩
  · rw [hbefore, ← List.append_assoc]
    exact hmore rest e after hrest
  · cases rest with
    | nil =>
      rw [List.append_nil] at hcalls
      have hdue := hmore [] e after hrest.symm
      rwa [List.append_nil, hcalls] at hdue
    | cons e' rest =>
      cases hrest
      exact h before e rest hcalls

theorem AllDue.of_mem {asked calls : List Exchange}
    (h : ∀ e ∈ calls, ∀ before, p.IsDue (asked ++ before) e.request) : p.AllDue asked calls := by
  intro before e after hsplit
  exact h e (by simp [hsplit]) before

theorem resolution_allDue {asked resolving : List Exchange} {outcome : Except Error Value}
    (h : Resolution p.identity (toldProject p.identity asked) resolving outcome) :
    p.AllDue asked resolving := by
  have hone {id : String} (cut : IsProjectIdOf id p.identity)
      (answer : Except Error ProjectMessage) (huntold : toldProject p.identity asked = none) :
      p.AllDue asked [⟨.getProject (.text id), answer⟩] := by
    intro before e after hsplit
    obtain ⟨rfl, rfl, rfl⟩ : before = [] ∧ e = _ ∧ after = [] := by
      simpa [List.append_eq_singleton_iff] using hsplit.symm
    rw [List.append_nil]
    exact .resolving cut huntold
  generalize htold : toldProject p.identity asked = known at h hone
  cases h with
  | known project => exact .of_mem (by simp)
  | refused cut unfit => exact .of_mem (by simp)
  | told cut message => exact hone cut _ rfl
  | missing cut absent => exact hone cut _ rfl
  | raised cut other => exact hone cut _ rfl

theorem Course.allDue {α : Type} {asked calls : List Exchange} {r : Except Halt α}
    (h : p.Course asked calls r) : p.AllDue asked calls := by
  cases h with
  | unresolved resolution => exact resolution_allDue resolution
  | resolved resolution own_belongs shared_belongs own_first =>
    refine ((resolution_allDue resolution).append (.of_mem ?_)).append (.of_mem ?_)
    · exact fun e he before =>
        .own (by rw [toldProject_append, resolution.toldProject]; rfl) (own_belongs e he)
    · exact fun e he before => .shared (shared_belongs e he).1 (shared_belongs e he).2

variable [Clock τ]

/-- One task leaves the account standing, and asks only for what is due. -/
theorem carryOut_standing (task : Task) (h : Standing p.identity s) :
    (p.carryOut task).Goes s fun added _ t =>
      Standing p.identity t ∧ p.AllDue s.calls (requests added) := by
  cases hfault : task.fault? with
  | none =>
    exact ((p.carryOut_phased hfault).goes h).mono fun added r t ⟨ht, hcourse⟩ =>
      ⟨ht, hcourse.allDue⟩
  | some error =>
    exact Act.Goes.of_perform [] (p.carryOut_faulty hfault s) (by simp)
      ⟨h, .of_mem (by simp [requests])⟩

/-- **So does a row of tasks.** -/
theorem after_standing (tasks : List Task) (h : Standing p.identity s)
    (hdue : p.AllDue [] s.calls) :
    Standing p.identity (p.after tasks s) ∧ p.AllDue [] (p.after tasks s).calls := by
  induction tasks generalizing s with
  | nil => exact ⟨h, hdue⟩
  | cons task tasks ih =>
    obtain ⟨added, hadded, ht, hmore⟩ := carryOut_standing task h
    refine ih ht ?_
    rw [Session.calls_of_events hadded]
    exact hdue.append hmore

/-- **In which project a provider asks for things**, whatever it was asked to do before.  Every
single call was due behind those before it.  A task that is faulty asks for nothing; any other takes
its course, which begins with the request for the caller's project if no call has told it. -/
theorem carryOut_course (p : Provider) (past : List Task) (task : Task) (now : τ) (server : σ) :
    let s := p.after past { now, world := { server } }
    (∀ before e after, s.calls = before ++ e :: after → p.IsDue before e.request) ∧
      ('@' ∉ p.identity.toList → ∀ e ∈ s.calls,
        e.request.endpoint ≠ .getProject) ∧
      (∀ error, task.fault? = some error →
        (p.carryOut task).perform s = (.error (.failed error), s)) ∧
      (task.fault? = none → ∃ calls, ((p.carryOut task).perform s).2.calls = s.calls ++ calls ∧
        p.Course s.calls calls ((p.carryOut task).perform s).1) := by
  intro s
  obtain ⟨hstanding, hdue⟩ : Standing p.identity s ∧ p.AllDue [] s.calls :=
    after_standing past (standing_new p.identity now server) (.of_mem (by simp [Session.calls]))
  refine ⟨fun before e after hsplit => ?_, fun hplain e he => ?_, fun error hfault => ?_,
    fun hfault => ?_⟩
  · simpa using hdue before e after hsplit
  · obtain ⟨before, after, hsplit⟩ := List.append_of_mem he
    exact (hdue before e after hsplit).endpoint_ne hplain
  · exact p.carryOut_faulty hfault s
  · obtain ⟨added, hadded, -, hcourse⟩ := (p.carryOut_phased hfault).goes hstanding
    exact ⟨requests added, Session.calls_of_events hadded, hcourse⟩

/-- A provider for a caller whose identity holds two separators. -/
def mailboxProvider : Provider where
  identity := "shop@corp@home"
  patience := { timeout := .whole 4, interval := .whole 2, limit := 2 }

/-- A service that knows the caller's project only when it is asked for the third time. -/
def lateService : Script :=
  [{ endpoint := .getProject, answer := .error Script.noResponse },
   { endpoint := .getProject, answer := .error (.raised (.service .serviceUnavailable) "later") },
   { endpoint := .getProject, answer := .ok { name := "shop-1" } },
   { endpoint := .list .zones, answer := .ok { items := [{ name := "z" }] } }]

theorem carryOut_course_mailbox :
    let s := mailboxProvider.after [.listLocations, .listLocations]
      { now := (0.0 : Float), world := { server := lateService } }
    (s.calls.map Exchange.request = [.getProject "shop", .getProject "shop"] ∧
        ∀ before e after, s.calls = before ++ e :: after →
          mailboxProvider.IsDue before e.request) ∧
      ∃ calls, calls.map Exchange.request
          = [.getProject "shop", .list .zones { project := "shop-1" }] ∧
        ((mailboxProvider.carryOut .listLocations).perform s).2.calls = s.calls ++ calls ∧
        mailboxProvider.Course s.calls calls
          ((mailboxProvider.carryOut .listLocations).perform s).1 := by
  intro s
  have hpast : s.calls.map Exchange.request = [.getProject "shop", .getProject "shop"] := by
    decide +kernel
  have hall : ((mailboxProvider.carryOut .listLocations).perform s).2.calls.map Exchange.request
      = [.getProject "shop", .getProject "shop", .getProject "shop",
        .list .zones { project := "shop-1" }] := by
    decide +kernel
  obtain ⟨hdue, -, -, htask⟩ := carryOut_course mailboxProvider [.listLocations, .listLocations]
    .listLocations (0.0 : Float) lateService
  obtain ⟨calls, hcalls, hcourse⟩ := htask rfl
  refine ⟨⟨hpast, hdue⟩, calls, ?_, hcalls, hcourse⟩
  rw [hcalls, List.map_append, hpast] at hall
  simpa using hall

end Provider

end ComputeNodes
