/-
What walks along a listing do to their session.

A walk fetches a page whenever it is at the end of one, and does nothing else to its session.  So
whatever every fetch keeps is kept by a walk to the next item, however many pages that takes
(`draw_goes`).  A walk page by page does with every page what it is told to do, so what it comes to
is a matter of what holds when a page is there and when it is dealt with (`foldFrom_goes`).
-/
import ComputeNodes.Listing.Paged
import ComputeNodes.Proofs.Run.Act

namespace ComputeNodes

namespace Paged

variable {τ σ ε α : Type}

/-- A listing can be made of a page that is the only one, and of any page in a project. -/
theorem exists_advance {page : ListPage α} {scope : ListScope}
    (h : page.nextMarker = none ∨ scope.project.isNothing = false)
    (fetch : Value → ListScope → Act τ σ ε (ListPage α)) :
    ∃ listing, advance page scope fetch = .ok listing := by
  rw [advance]
  cases hmarker : page.nextMarker with
  | none => exact ⟨_, rfl⟩
  | some marker => simp [h.resolve_left (by simp [hmarker])]

/-- A listing that was made of a page begins with it, and can go on if the page has a marker. -/
theorem of_advance {page : ListPage α} {scope : ListScope}
    {fetch : Value → ListScope → Act τ σ ε (ListPage α)} {listing : Paged τ σ ε α}
    (h : advance page scope fetch = .ok listing) :
    listing.first = page ∧ (page.nextMarker.isSome = true →
      listing.scope = some scope ∧ listing.fetch = some fetch) := by
  unfold advance at h
  cases hmarker : page.nextMarker with
  | none =>
    rw [hmarker] at h
    cases h
    exact ⟨rfl, nofun⟩
  | some marker =>
    rw [hmarker] at h
    cases hproject : scope.project.isNothing with
    | true => simp [hproject] at h
    | false =>
      simp only [hproject, Bool.false_eq_true, if_false] at h
      cases h
      exact ⟨rfl, fun _ => ⟨rfl, rfl⟩⟩

/-- A page that follows is fetched with the scope that the listing was made with, if at all. -/
theorem next_of_advance {page : ListPage α} {scope : ListScope}
    {fetch : Value → ListScope → Act τ σ ε (ListPage α)} {listing : Paged τ σ ε α}
    (h : advance page scope fetch = .ok listing) (marker : Value) :
    listing.next marker = Act.fail (.paging .cannotFetch) ∨
      listing.next marker = (do
        Act.log .trace .paging
          ("Fetching next page project=" ++ scope.project.plain ++ " zone=" ++ scope.zone.plain)
        fetch marker scope) := by
  cases hmarker : page.nextMarker with
  | none =>
    rw [advance, hmarker] at h
    cases h
    exact .inl rfl
  | some following =>
    obtain ⟨-, hmore⟩ := of_advance h
    obtain ⟨hscope, hfetch⟩ := hmore (by rw [hmarker]; rfl)
    refine .inr ?_
    rw [next, hscope, hfetch]

variable {listing : Paged τ σ ε α}

/-! ### Page by page -/

section

variable {β : Type} (step : β → ListPage α → Act τ σ ε β) {page : ListPage α} (before : β)

theorem foldFrom_last (limit : Nat) (h : page.nextMarker = none) :
    listing.foldFrom step limit page before = step before page := by
  rw [foldFrom.eq_def]
  dsimp only
  rw [h]
  exact bind_pure _

theorem foldFrom_more {marker : Value} (limit : Nat) (h : page.nextMarker = some marker) :
    listing.foldFrom step (limit + 1) page before = (do
      let sofar ← step before page
      let page ← listing.next marker
      listing.foldFrom step limit page sofar) := by
  rw [foldFrom, h]

theorem foldFrom_cutOff {marker : Value} (h : page.nextMarker = some marker) :
    listing.foldFrom step 0 page before = (do
      let _ ← step before page
      throw .cutOff) := by
  rw [foldFrom.eq_def]
  dsimp only
  rw [h]

theorem foldFrom_congr {listing' : Paged τ σ ε α}
    (h : ∀ marker, listing.next marker = listing'.next marker) (limit : Nat) (page : ListPage α) :
    listing.foldFrom step limit page before = listing'.foldFrom step limit page before := by
  induction limit generalizing page before with
  | zero =>
    cases hmarker : page.nextMarker with
    | none => rw [foldFrom_last step before 0 hmarker, foldFrom_last step before 0 hmarker]
    | some marker => rw [foldFrom_cutOff step before hmarker, foldFrom_cutOff step before hmarker]
  | succ limit ih =>
    cases hmarker : page.nextMarker with
    | none => rw [foldFrom_last step before _ hmarker, foldFrom_last step before _ hmarker]
    | some marker =>
      rw [foldFrom_more step before limit hmarker, foldFrom_more step before limit hmarker]
      simp only [h, ih]

/-- **A walk page by page**, by what holds in front of a page and behind it.  Nothing is said of a
walk that halts. -/
theorem foldFrom_goes (pending : List (Event τ ε) → β → ListPage α → Session τ σ ε → Prop)
    (inv : List (Event τ ε) → β → Session τ σ ε → Prop)
    (hstep : ∀ l b page t, pending l b page t →
      (step b page).Goes t fun more r u => ∀ b', r = .ok b' → inv (l ++ more) b' u)
    (hnext : ∀ l b marker t, inv l b t →
      (listing.next marker).Goes t
        fun more r u => ∀ page, r = .ok page → pending (l ++ more) b page u)
    (limit : Nat) {l : List (Event τ ε)} {t : Session τ σ ε} (h : pending l before page t) :
    (listing.foldFrom step limit page before).Goes t
      fun more r u => ∀ b, r = .ok b → inv (l ++ more) b u := by
  induction limit generalizing page before l t with
  | zero =>
    cases hmarker : page.nextMarker with
    | none =>
      rw [foldFrom_last step before 0 hmarker]
      exact hstep l before page t h
    | some marker =>
      rw [foldFrom_cutOff step before hmarker]
      refine (hstep l before page t h).bind ?_ fun _ _ _ _ => nofun
      exact fun _ _ _ _ => Act.Goes.throw nofun
  | succ limit ih =>
    cases hmarker : page.nextMarker with
    | none =>
      rw [foldFrom_last step before _ hmarker]
      exact hstep l before page t h
    | some marker =>
      rw [foldFrom_more step before limit hmarker]
      refine (hstep l before page t h).bind ?_ fun _ _ _ _ => nofun
      intro more b u hinv
      refine (hnext (l ++ more) b marker u (hinv b rfl)).bind ?_ fun _ _ _ _ => nofun
      intro more' page v hpending
      refine (ih b (hpending page rfl)).mono fun later r w hw b' hb' => ?_
      rw [← List.append_assoc, ← List.append_assoc]
      exact hw b' hb'

end

/-! ### Item by item -/

/-- What every fetch keeps is kept by a walk to the next item. -/
theorem draw_goes {inv : List (Event τ ε) → Session τ σ ε → Prop}
    (hnext : ∀ l t marker, inv l t →
      (listing.next marker).Goes t fun more _ u => inv (l ++ more) u)
    (limit : Nat) (cursor : Cursor α) (l : List (Event τ ε)) (t : Session τ σ ε) (h : inv l t) :
    (listing.draw limit cursor).Goes t fun more _ u => inv (l ++ more) u := by
  have hhere : inv (l ++ []) t := by rwa [List.append_nil]
  fun_induction draw listing limit cursor generalizing l t with
  | case1 => exact Act.Goes.pure hhere
  | case2 => exact Act.Goes.pure hhere
  | case3 => exact Act.Goes.pure hhere
  | case4 => exact Act.Goes.throw hhere
  | case5 limit marker ih =>
    refine (hnext l t marker h).bind ?_ fun _ _ _ hinv => hinv
    intro more page u hinv
    refine (ih page _ u hinv (by rwa [List.append_nil])).mono fun later r v hv => ?_
    rwa [← List.append_assoc]

theorem head?_goes {inv : List (Event τ ε) → Session τ σ ε → Prop}
    (hnext : ∀ l t marker, inv l t →
      (listing.next marker).Goes t fun more _ u => inv (l ++ more) u)
    (limit : Nat) (l : List (Event τ ε)) (t : Session τ σ ε) (h : inv l t) :
    (listing.head? limit).Goes t fun more _ u => inv (l ++ more) u := by
  refine (draw_goes hnext limit listing.start l t h).bind ?_ fun _ _ _ hinv => hinv
  intro more drawn u hinv
  exact Act.Goes.pure (by rwa [List.append_nil])

end Paged

end ComputeNodes
