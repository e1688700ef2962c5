/-
Laws about what is asked of the service.

A law about requests is kept by everything that asks only for what the law allows
(`Law.Allows`).  What an answer does to whoever asked is the same for all requests but one: that
there is no such thing is an answer like any other, except to an insertion (`Exchange.raised?`).

Most laws are about the project that requests belong to, so what a client does for one project keeps
to a law that allows whatever belongs to that project.
-/
import ComputeNodes.Proofs.Run.Law
import ComputeNodes.Proofs.Service.Client

namespace ComputeNodes

variable {τ σ : Type}

theorem Error.isOwn_unmade (fault : MessageFault) : (Error.unmade fault).IsOwn := by
  intro status h
  cases fault <;> cases h

/-- The error that an exchange raises.  That there is no such thing raises nothing, unless an
instance was to be inserted. -/
def Exchange.raised? (e : Exchange) : Option Error :=
  match e.answer with
  | .ok _ => none
  | .error error =>
    if error.isNotFound = true ∧ e.request.endpoint ≠ .insertInstance then none else some error

/-- The project that a request belongs to.  Projects themselves belong to none. -/
def Request.project? : Request → Option Value
  | .list _ query => some query.project
  | .getInstance project .. => some project
  | .insertInstance project .. => some project
  | .deleteInstance project .. => some project
  | .getMachineType project .. => some project
  | .getImage project _ => some project
  | .getZone project _ => some project
  | .getOperation project .. => some project
  | .getProject _ => none

/-- Whether a request is about images. -/
def Request.IsOfImages (request : Request) : Prop :=
  request.endpoint = .list .images ∨ request.endpoint = .getImage

namespace Law

variable (law : Law τ Exchange)

/-- Whether a law lets a request be made, whatever it is answered with. -/
def Allows (request : Request) : Prop :=
  ∀ answer : Except Error request.Reply,
    law.Admits [.call ⟨request, answer⟩] ((Exchange.raised? ⟨request, answer⟩).map .failed)

/-- Whether a law allows whatever belongs to a project. -/
def AllowsIn (project : Value) : Prop :=
  ∀ request : Request, request.project? = some project → law.Allows request

/-- Whether a law allows what is asked about the images of a project. -/
def AllowsImagesIn (project : Value) : Prop :=
  ∀ request : Request, request.project? = some project → request.IsOfImages → law.Allows request

variable {law} {project : Value}

theorem AllowsIn.images (h : law.AllowsIn project) : law.AllowsImagesIn project :=
  fun request hproject _ => h request hproject

end Law

namespace Act.Obeys

variable {law : Law τ Exchange} {K : σ → Prop} {V : Value → Prop} {α β : Type}

/-! ### Walks -/

section

variable {listing : Paged τ σ Exchange α}

/-- A walk page by page keeps to a law if what is done with every page does. -/
theorem foldFrom {step : β → ListPage α → Calls τ σ β}
    (hnext : ∀ marker, (listing.next marker).Obeys law K fun _ => True)
    (hstep : ∀ b page, (step b page).Obeys law K fun _ => True) (limit : Nat) (page : ListPage α)
    (b : β) : (listing.foldFrom step limit page b).Obeys law K fun _ => True := by
  induction limit generalizing page b with
  | zero =>
    cases hmarker : page.nextMarker with
    | none =>
      rw [Paged.foldFrom_last step b 0 hmarker]
      exact hstep b page
    | some marker =>
      rw [Paged.foldFrom_cutOff step b hmarker]
      exact (hstep b page).bind fun _ _ => cutOff
  | succ limit ih =>
    cases hmarker : page.nextMarker with
    | none =>
      rw [Paged.foldFrom_last step b _ hmarker]
      exact hstep b page
    | some marker =>
      rw [Paged.foldFrom_more step b limit hmarker]
      refine (hstep b page).bind fun b _ => ?_
      exact (hnext marker).bind fun page _ => ih page b

theorem head? (hnext : ∀ marker, (listing.next marker).Obeys law K fun _ => True) (limit : Nat) :
    (listing.head? limit).Obeys law K fun _ => True := by
  have hdraw (limit : Nat) (cursor : Cursor α) :
      (listing.draw limit cursor).Obeys law K fun _ => True := by
    fun_induction Paged.draw listing limit cursor with
    | case1 => exact pure trivial
    | case2 => exact pure trivial
    | case3 => exact pure trivial
    | case4 => exact cutOff
    | case5 limit marker ih => exact (hnext marker).bind fun page _ => ih page
  exact (hdraw limit listing.start).bind fun _ _ => pure trivial

end

variable [Server τ σ]

/-! ### One request -/

/-- What is asked for once keeps to a law that allows it, if it halts as the answer raises. -/
theorem of_asked {request : Request} {x : Calls τ σ α}
    {read : Except Error request.Reply → Except Halt α} (hK : Server.Keeps τ K)
    (hallows : law.Allows request)
    (hread : ∀ answer, Halt.ofOutcome? (read answer)
      = (Exchange.raised? ⟨request, answer⟩).map .failed)
    (h : ∀ s, x.Goes s (request.Asked s read)) : x.Obeys law K fun _ => True := by
  intro s hs
  refine (h s).mono fun added r t hasked => ?_
  refine ⟨?_, hasked.keeps hK hs, fun _ _ => trivial⟩
  cases hasked with
  | refused fault unfit => exact law.own (Error.isOwn_unmade fault)
  | made answer t fit respond =>
    rw [hread]
    exact hallows answer

/-- Reading what need not be there halts as the answer raises. -/
theorem ofOutcome?_readAnswer (request : Request) (hinsert : request.endpoint ≠ .insertInstance)
    (f : request.Reply → α) (answer : Except Error request.Reply) :
    Halt.ofOutcome? (readAnswer f answer)
      = (Exchange.raised? ⟨request, answer⟩).map .failed := by
  unfold Exchange.raised?
  cases answer with
  | ok message => rfl
  | error error =>
    cases hmissing : error.isNotFound <;> simp [readAnswer, hmissing, hinsert, Halt.ofOutcome?]

theorem read (hK : Server.Keeps τ K) {request : Request} (hallows : law.Allows request)
    (hinsert : request.endpoint ≠ .insertInstance) (f : request.Reply → α) :
    (do return (← Act.found? (call request)).map f : Calls τ σ (Option α)).Obeys law K
      fun _ => True :=
  of_asked hK hallows (ofOutcome?_readAnswer request hinsert f) (read_goes request f)

theorem page (hK : Server.Keeps τ K) {what : Listed} {scope : ListScope} {marker : Value}
    (hallows : law.Allows (.list what (.ofScope scope marker))) :
    (what.page scope marker : Calls τ σ _).Obeys law K fun _ => True := by
  refine of_asked hK hallows (fun answer => ?_) (Listed.page_goes what scope marker)
  have hread : Halt.ofOutcome? (what.readPage scope.project answer)
      = Halt.ofOutcome? (readAnswer (what.toPage scope.project) answer) := by
    unfold Listed.readPage
    cases readAnswer (what.toPage scope.project) answer <;> rfl
  exact hread.trans (ofOutcome?_readAnswer (.list what (.ofScope scope marker)) nofun
    (what.toPage scope.project) answer)

/-- A listing that keeps to a law goes on to do so. -/
theorem next (hK : Server.Keeps τ K) {what : Listed} {scope : ListScope}
    (hallows : ∀ marker, law.Allows (.list what (.ofScope scope marker)))
    {first : ListPage what.Item} {listing : Paged τ σ Exchange what.Item}
    (h : Paged.advance first scope (fun marker scope => what.page scope marker) = .ok listing)
    (marker : Value) : (listing.next marker).Obeys law K fun _ => True := by
  rcases Paged.next_of_advance h marker with hfail | hfetch
  · rw [hfail]
    exact fail nofun
  · rw [hfetch]
    exact (log _ _ _).bind fun _ _ => page hK (hallows marker)

theorem list (hK : Server.Keeps τ K) {what : Listed} {scope : ListScope}
    (hallows : ∀ marker, law.Allows (.list what (.ofScope scope marker))) :
    (what.list scope : Calls τ σ _).Obeys law K fun listing =>
      ∀ marker, (listing.next marker).Obeys law K fun _ => True := by
  refine (page hK (hallows .null)).bind fun first _ => ofExcept ?_ ?_
  · intro error herror
    unfold Paged.advance at herror
    split at herror
    · cases herror
    · split at herror
      · cases herror
        exact nofun
      · cases herror
  · exact fun listing hlisting => next hK hallows hlisting

/-! ### What a client does in a project -/

section

variable {project : Value}

theorem getInstance (hK : Server.Keeps τ K) (h : law.AllowsIn project) (zone name : Value) :
    (ComputeNodes.getInstance project zone name : Calls τ σ _).Obeys law K fun _ => True :=
  read hK (h (.getInstance project zone name) rfl) nofun _

theorem deleteInstance (hK : Server.Keeps τ K) (h : law.AllowsIn project) (zone name : Value) :
    (ComputeNodes.deleteInstance project zone name : Calls τ σ _).Obeys law K fun _ => True :=
  read hK (h (.deleteInstance project zone name) rfl) nofun _

theorem getOperation (hK : Server.Keeps τ K) (h : law.AllowsIn project) (zone name : Value) :
    (ComputeNodes.getOperation project zone name : Calls τ σ _).Obeys law K fun _ => True :=
  read hK (h (.getOperation project zone name) rfl) nofun _

theorem getImage (hK : Server.Keeps τ K) (h : law.AllowsImagesIn project) (name : Value) :
    (ComputeNodes.getImage project name : Calls τ σ _).Obeys law K fun _ => True :=
  read hK (h (.getImage project name) rfl (.inr rfl)) nofun _

theorem getMachineType (hK : Server.Keeps τ K) (h : law.AllowsIn project) (limit : Nat)
    (zone name : Value) :
    (ComputeNodes.getMachineType limit project zone name : Calls τ σ _).Obeys law K
      fun _ => True := by
  unfold ComputeNodes.getMachineType
  cases zone.isNothing with
  | true =>
    refine (list hK fun marker => h _ rfl).bind fun listing hnext => ?_
    exact head? hnext limit
  | false => exact read hK (h (.getMachineType project zone name) rfl) nofun _

/-- An insertion raises whatever it is not answered well. -/
theorem insertInstance (hK : Server.Keeps τ K) (h : law.AllowsIn project) (zone name : Value)
    (spec : InstanceSpec) :
    (ComputeNodes.insertInstance project zone name spec : Calls τ σ _).Obeys law K
      fun _ => True := by
  have hcall : (call (.insertInstance project zone (.ofSpec name spec)) : Calls τ σ _).Obeys law K
      fun _ => True := by
    refine of_asked hK (h _ rfl) (fun answer => ?_) (call_goes _)
    cases answer with
    | ok message => rfl
    | error error => simp [Exchange.raised?, Request.endpoint, Halt.ofOutcome?]
  exact hcall.bind fun message _ => (log _ _ _).bind fun _ _ => pure trivial

end

end Act.Obeys

end ComputeNodes
