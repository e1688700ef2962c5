/-
Chains of pages.

A table has a page or an error behind every marker.  From a first page on, the markers give a chain
of pages, which may end, run into an error, or go on for ever, round in circles or not.  `Leads`
follows it for as many pages as one likes, and `Stops` says what becomes of it behind one of them.
However far one is ready to go, the chain has either stopped by then or goes on (`exists_leads`).
-/
import ComputeNodes.Listing.Paged
import ComputeNodes.Proofs.Run.Act

namespace ComputeNodes

variable {τ σ α : Type}

/-- The items of pages, in order. -/
abbrev ListPage.itemsOf (pages : List (ListPage α)) : List α := pages.flatMap (·.items)

/-- What there is behind every marker. -/
def PageTable (α : Type) : Type := Value → Except Error (ListPage α)

namespace PageTable

/-- Fetches pages out of a table.  Every fetch is noted with its marker and its scope. -/
def fetch (table : PageTable α) (marker : Value) (scope : ListScope) :
    Act τ σ (Value × ListScope) (ListPage α) := do
  Act.note (.call (marker, scope))
  Act.ofExcept (table marker)

/-- The chain from one page to another: the markers that are followed, and the pages that are left
behind. -/
inductive Leads (table : PageTable α) :
    ListPage α → List Value → List (ListPage α) → ListPage α → Prop
  | here (page : ListPage α) : Leads table page [] [] page
  | next {page following last : ListPage α} {marker : Value} {markers : List Value}
    {earlier : List (ListPage α)} (continued : page.nextMarker = some marker)
    (found : table marker = .ok following) (onward : Leads table following markers earlier last) :
    Leads table page (marker :: markers) (page :: earlier) last

/-- How a chain stops behind a page with such a marker: what is followed still, and what comes of
it. -/
inductive Stops (table : PageTable α) : Option Value → List Value → Except Error Unit → Prop
  | ended : Stops table none [] (.ok ())
  | raised {marker : Value} {error : Error} (raises : table marker = .error error) :
    Stops table (some marker) [marker] (.error error)

/-- A chain has stopped after so many markers, or goes on. -/
theorem exists_leads (table : PageTable α) (first : ListPage α) (limit : Nat) :
    ∃ markers earlier last, table.Leads first markers earlier last ∧
      ((∃ more r, table.Stops last.nextMarker more r ∧ (markers ++ more).length ≤ limit) ∨
        markers.length = limit ∧ last.nextMarker.isSome = true) := by
  induction limit generalizing first with
  | zero =>
    refine ⟨[], [], first, .here first, ?_⟩
    cases hmarker : first.nextMarker with
    | none => exact .inl ⟨[], .ok (), .ended, by simp⟩
    | some marker => exact .inr ⟨rfl, rfl⟩
  | succ limit ih =>
    cases hmarker : first.nextMarker with
    | none =>
      refine ⟨[], [], first, .here first, .inl ⟨[], .ok (), ?_, by simp⟩⟩
      rw [hmarker]
      exact .ended
    | some marker =>
      cases hfound : table marker with
      | error error =>
        refine ⟨[], [], first, .here first, .inl ⟨[marker], .error error, ?_, by simp⟩⟩
        rw [hmarker]
        exact .raised hfound
      | ok following =>
        obtain ⟨markers, earlier, last, hleads, hstands⟩ := ih following
        refine ⟨marker :: markers, first :: earlier, last, .next hmarker hfound hleads, ?_⟩
        rcases hstands with ⟨more, r, hstops, hlength⟩ | ⟨hlength, hmore⟩
        · exact .inl ⟨more, r, hstops, Nat.succ_le_succ hlength⟩
        · exact .inr ⟨congrArg Nat.succ hlength, hmore⟩

theorem Leads.eq_nil {table : PageTable α} {page last : ListPage α} {markers : List Value}
    {earlier : List (ListPage α)} (h : table.Leads page markers earlier last)
    (hlast : page.nextMarker = none) : markers = [] ∧ earlier = [] ∧ last = page := by
  cases h with
  | here page => exact ⟨rfl, rfl, rfl⟩
  | next continued found onward => rw [hlast] at continued; cases continued

/-- What remains of a chain from a page on: the items up to some other page, the markers that are
followed to get there, and the marker of that one. -/
inductive Remains (table : PageTable α) :
    ListPage α → List Value → List α → Option Value → Prop
  | here (page : ListPage α) : Remains table page [] page.items page.nextMarker
  | next {page following : ListPage α} {marker : Value} {markers : List Value} {items : List α}
    {next : Option Value} (continued : page.nextMarker = some marker)
    (found : table marker = .ok following) (onward : Remains table following markers items next) :
    Remains table page (marker :: markers) (page.items ++ items) next

/-- What remains from a page on are the items of the pages of its chain. -/
theorem Leads.remains {table : PageTable α} {page last : ListPage α} {markers : List Value}
    {earlier : List (ListPage α)} (h : table.Leads page markers earlier last) :
    table.Remains page markers (ListPage.itemsOf (earlier ++ [last])) last.nextMarker := by
  induction h with
  | here page => simpa using Remains.here page
  | next continued found onward ih => simpa using Remains.next continued found ih

end PageTable

namespace Session

/-- A session after fetches in a scope. -/
def fetched (s : Session τ σ (Value × ListScope)) (scope : ListScope) (markers : List Value) :
    Session τ σ (Value × ListScope) :=
  markers.foldl
    (fun s marker => (s.add (.log ⟨.trace, .paging,
      "Fetching next page project=" ++ scope.project.plain ++ " zone=" ++ scope.zone.plain⟩)).add
        (.call (marker, scope))) s

variable (s : Session τ σ (Value × ListScope)) (scope : ListScope)

@[simp] theorem fetched_nil : s.fetched scope [] = s := rfl

theorem fetched_cons (marker : Value) (markers : List Value) :
    s.fetched scope (marker :: markers) = (s.fetched scope [marker]).fetched scope markers := rfl

theorem fetched_append (markers more : List Value) :
    s.fetched scope (markers ++ more) = (s.fetched scope markers).fetched scope more :=
  List.foldl_append

/-- Every marker is fetched once, in order, and in that scope. -/
theorem calls_fetched (markers : List Value) :
    (s.fetched scope markers).calls = s.calls ++ markers.map fun marker => (marker, scope) := by
  induction markers generalizing s with
  | nil => simp
  | cons marker markers ih =>
    rw [fetched_cons, ih]
    simp [fetched]

end Session

end ComputeNodes
