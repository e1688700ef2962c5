/-
Where the errors of a run come from.

An error that a computation halts with was either made by the library, or it is what the service
answered to a call.  A law cannot tell which of its own errors the library makes in which run, since
it admits all of them anywhere; `Act.RaisesOnly` names those that a computation may make.  There is
one rule for every way in which computations are put together, and one for everything that a client
asks for.
-/
import ComputeNodes.Proofs.Run.Poll
import ComputeNodes.Proofs.Service.Client

namespace ComputeNodes

variable {τ σ α β : Type} {Own : Error → Prop}

/-- Whether the error that a stretch of a run halted with, if any, is one of `Own` or the answer to
a call in it. -/
def Traced (Own : Error → Prop) (added : List (Event τ Exchange)) (r : Except Halt α) : Prop :=
  ∀ error, r = .error (.failed error) → Own error ∨ ∃ e ∈ requests added, e.answer = .error error

namespace Traced

variable {added more : List (Event τ Exchange)} {error : Error} {halt : Halt}

theorem own (h : Own error) : Traced Own added (.error (.failed error) : Except Halt α) := by
  intro raised hraised
  cases hraised
  exact .inl h

/-- What a halt comes from does not depend on what would have been given. -/
theorem of_halt (h : Traced Own added (.error halt : Except Halt α)) :
    Traced Own added (.error halt : Except Halt β) := by
  intro error hraised
  cases hraised
  exact h error rfl

theorem prepend {r : Except Halt α} (h : Traced Own more r) (added : List (Event τ Exchange)) :
    Traced Own (added ++ more) r := by
  intro error hraised
  refine (h error hraised).imp_right fun ⟨e, he, hanswer⟩ => ⟨e, ?_, hanswer⟩
  rw [requests, Event.calls_append]
  exact List.mem_append_right _ he

end Traced

namespace Act

/-- Whether the errors that a computation makes are all of `Own`: any other that it halts with is
the answer to one of its calls. -/
def RaisesOnly (act : Calls τ σ α) (Own : Error → Prop) : Prop :=
  ∀ s, act.Goes s fun added r _ => Traced Own added r

namespace RaisesOnly

variable {x : Calls τ σ α}

theorem pure (a : α) : (Pure.pure a : Calls τ σ α).RaisesOnly Own :=
  fun _ => Goes.pure nofun

theorem bind_of_perform {f : α → Calls τ σ β} (hx : x.RaisesOnly Own)
    (hf : ∀ s a t, x.perform s = (.ok a, t) → (f a).RaisesOnly Own) :
    (x >>= f).RaisesOnly Own := by
  intro s
  refine (hx s).with_perform.bind ?_ fun _ _ _ ⟨_, htraced⟩ => htraced.of_halt
  intro added a t ⟨⟨hrun, _⟩, _⟩
  exact (hf s a t hrun t).mono fun _ _ _ htraced => htraced.prepend added

/-- **What is put together of computations makes the errors that they make.** -/
theorem bind {f : α → Calls τ σ β} (hx : x.RaisesOnly Own) (hf : ∀ a, (f a).RaisesOnly Own) :
    (x >>= f).RaisesOnly Own :=
  hx.bind_of_perform fun _ a _ _ => hf a

theorem log (level : Logging.Level) (source : Logging.Source) (text : String) :
    (Act.log level source text : Calls τ σ Unit).RaisesOnly Own :=
  fun s => Goes.of_perform _ (perform_log _ _ _ s) (Session.events_add _ _) nofun

theorem fail {error : Error} (h : Own error) : (Act.fail error : Calls τ σ α).RaisesOnly Own :=
  fun _ => Goes.fail (.own h)

theorem cutOff : (MonadExcept.throw Halt.cutOff : Calls τ σ α).RaisesOnly Own :=
  fun _ => Goes.throw nofun

theorem ofExcept {r : Except Error α} (h : ∀ error, r = .error error → Own error) :
    (Act.ofExcept r : Calls τ σ α).RaisesOnly Own := by
  cases r with
  | error error => exact fail (h error rfl)
  | ok a => exact pure a

/-- **A wait makes the errors that its questions make**, and that of a length which its clock cannot
count. -/
theorem retryUntil [Clock τ] (htooLarge : Own .tooLargeForDouble) {patience : Patience}
    {what : String} {probe : Option α → Calls τ σ (Probe α)}
    (hprobe : ∀ last, (probe last).RaisesOnly Own) :
    (ComputeNodes.retryUntil patience what probe).RaisesOnly Own := by
  intro s
  refine Poll.retryUntil_goes (fun _ _ _ => True) (fun l r _ => Traced Own l r) trivial ?_
    (fun _ _ _ _ _ _ => trivial) ?_ (fun _ _ _ htraced => htraced.of_halt)
    (fun _ _ _ _ _ _ => .own htooLarge) fun _ _ _ _ _ _ => nofun
  · exact fun l last t _ => (hprobe last t).mono fun _ _ _ htraced => htraced.prepend l
  · rintro l last t halt (rfl | rfl) -
    · exact nofun
    · exact .own htooLarge

variable [Server τ σ]

/-! ### What a client asks for -/

section

variable (hunmade : ∀ fault, Own (.unmade fault))
include hunmade

/-- What is asked for once halts with what the answer says, if the request can be made. -/
theorem of_asked {request : Request} {read : Except Error request.Reply → Except Halt α}
    (hread : ∀ answer error, read answer = .error (.failed error) → answer = .error error)
    (h : ∀ s, x.Goes s (request.Asked s read)) : x.RaisesOnly Own := by
  intro s
  refine (h s).mono fun added r t hasked error hraised => ?_
  cases hasked with
  | refused fault unfit =>
    cases hraised
    exact .inl (hunmade fault)
  | made answer t fit respond =>
    exact .inr ⟨⟨request, answer⟩, List.mem_singleton_self _, hread answer error hraised⟩

theorem read (request : Request) (f : request.Reply → β) :
    (do return (← Act.found? (call request)).map f : Calls τ σ (Option β)).RaisesOnly Own := by
  refine of_asked hunmade (fun answer error hraised => ?_) (read_goes request f)
  obtain ⟨_, hanswer, -, hhalt⟩ := readAnswer_eq_error hraised
  cases hhalt
  exact hanswer

theorem insertInstance (project zone name : Value) (spec : InstanceSpec) :
    (ComputeNodes.insertInstance project zone name spec : Calls τ σ _).RaisesOnly Own := by
  have hcall : (call (.insertInstance project zone (.ofSpec name spec)) : Calls τ σ _).RaisesOnly
      Own := of_asked hunmade (fun _ _ => mapError_failed_eq_error.mp) (call_goes _)
  exact hcall.bind fun _ => (log _ _ _).bind fun _ => pure _

theorem page (what : Listed) (scope : ListScope) (marker : Value) :
    (what.page scope marker : Calls τ σ _).RaisesOnly Own := by
  refine of_asked hunmade (fun answer error hraised => ?_) (Listed.page_goes what scope marker)
  unfold Listed.readPage at hraised
  cases hread : readAnswer (what.toPage scope.project) answer with
  | ok page => rw [hread] at hraised; cases hraised
  | error halt =>
    rw [hread] at hraised
    cases hraised
    obtain ⟨_, hanswer, -, hhalt⟩ := readAnswer_eq_error hread
    cases hhalt
    exact hanswer

variable (hpaging : ∀ fault, Own (.paging fault))
include hpaging

theorem next {what : Listed} {scope : ListScope} {first : ListPage what.Item}
    {listing : Paged τ σ Exchange what.Item}
    (h : Paged.advance first scope (fun marker scope => what.page scope marker) = .ok listing)
    (marker : Value) : (listing.next marker).RaisesOnly Own := by
  rcases Paged.next_of_advance h marker with hfail | hfetch
  · rw [hfail]
    exact fail (hpaging _)
  · rw [hfetch]
    exact (log _ _ _).bind fun _ => page hunmade what scope marker

/-- The first item of a listing, however many pages it takes. -/
theorem first (what : Listed) (scope : ListScope) (limit : Nat) :
    (do let listing ← what.list scope; listing.head? limit : Calls τ σ _).RaisesOnly Own := by
  have hlist : (what.list scope : Calls τ σ _).RaisesOnly Own := by
    refine (page hunmade what scope .null).bind fun first => ofExcept fun error herror => ?_
    unfold Paged.advance at herror
    split at herror
    · cases herror
    · split at herror
      · cases herror
        exact hpaging _
      · cases herror
  refine hlist.bind_of_perform fun s listing t hrun => ?_
  obtain ⟨added, -, hasked⟩ := Listed.list_goes what scope s
  rw [hrun] at hasked
  obtain ⟨page, hadvance⟩ := Listed.advance_of_list hasked
  have hdraw (limit : Nat) (cursor : Cursor what.Item) :
      (listing.draw limit cursor).RaisesOnly Own := by
    fun_induction Paged.draw listing limit cursor with
    | case1 => exact pure _
    | case2 => exact pure _
    | case3 => exact pure _
    | case4 => exact cutOff
    | case5 limit marker ih =>
      exact (next hunmade hpaging hadvance marker).bind fun page => ih page
  exact (hdraw limit listing.start).bind fun _ => pure _

theorem getMachineType (limit : Nat) (project zone name : Value) :
    (ComputeNodes.getMachineType limit project zone name : Calls τ σ _).RaisesOnly Own := by
  unfold ComputeNodes.getMachineType
  cases zone.isNothing with
  | true => exact first hunmade hpaging _ _ limit
  | false => exact read hunmade (.getMachineType project zone name) _

end

end RaisesOnly

end Act

end ComputeNodes
