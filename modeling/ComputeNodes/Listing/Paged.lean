/-
Listings that go on from page to page.

A `Paged` listing holds its first page, and what it takes to fetch the others.  They are fetched
one at a time, and only when something behind the end of the page before is asked for.  Every walk
starts over from the first page.

`Paged.fold` walks the whole listing page by page; a `Cursor` is a walk that stands still between
two items.  Both take the most pages they may fetch, since markers may go round in circles.
-/
import ComputeNodes.Listing.Page
import ComputeNodes.Run.Session

namespace ComputeNodes

/-- A listing: its first page, and how it goes on. -/
structure Paged (τ σ ε α : Type) where
  first : ListPage α
  scope : Option ListScope := none
  fetch : Option (Value → ListScope → Act τ σ ε (ListPage α)) := none

/-- A walk along a listing, between two of its items. -/
inductive Cursor (α : Type) where
  /-- In front of the rest of a page, with the marker of the page behind it. -/
  | reading (rest : List α) (next : Option Value)
  | ended
  deriving Repr

/-- What a walk came upon: some items, and whether there was nothing more when more was asked
for. -/
structure Drawn (α : Type) where
  items : List α
  atEnd : Bool
  deriving Repr

namespace Paged

variable {τ σ ε α β : Type}

/-- Makes a listing of its first page.  Only one with more pages needs a project. -/
def advance (page : ListPage α) (scope : ListScope)
    (fetch : Value → ListScope → Act τ σ ε (ListPage α)) : Except Error (Paged τ σ ε α) :=
  match page.nextMarker with
  | none => .ok { first := page }
  | some _ =>
    if scope.project.isNothing then .error (.paging .noProject)
    else .ok { first := page, scope := some scope, fetch := some fetch }

/-- Fetches the page behind a marker. -/
def next (listing : Paged τ σ ε α) (marker : Value) : Act τ σ ε (ListPage α) :=
  match listing.scope, listing.fetch with
  | some scope, some fetch => do
    Act.log .trace .paging
      ("Fetching next page project=" ++ scope.project.plain ++ " zone=" ++ scope.zone.plain)
    fetch marker scope
  | _, _ => Act.fail (.paging .cannotFetch)

/-- Walks from a page to the last one, and hands every page to `step`. -/
def foldFrom (listing : Paged τ σ ε α) (step : β → ListPage α → Act τ σ ε β) :
    Nat → ListPage α → β → Act τ σ ε β
  | limit, page, before => do
    let sofar ← step before page
    match page.nextMarker, limit with
    | none, _ => return sofar
    | some _, 0 => throw .cutOff
    | some marker, limit + 1 =>
      let page ← listing.next marker
      foldFrom listing step limit page sofar

/-- Walks the whole listing, and hands every page to `step`. -/
def fold (listing : Paged τ σ ε α) (limit : Nat) (start : β)
    (step : β → ListPage α → Act τ σ ε β) : Act τ σ ε β :=
  foldFrom listing step limit listing.first start

/-- All pages, in order. -/
def pages (listing : Paged τ σ ε α) (limit : Nat) : Act τ σ ε (List (ListPage α)) :=
  listing.fold limit [] fun sofar page => return sofar ++ [page]

/-- All items, in order. -/
def concat (listing : Paged τ σ ε α) (limit : Nat) : Act τ σ ε (List α) :=
  listing.fold limit [] fun sofar page => return sofar ++ page.items

/-! ### Item by item -/

/-- A walk that has not begun. -/
def start (listing : Paged τ σ ε α) : Cursor α :=
  .reading listing.first.items listing.first.nextMarker

/-- Takes the next item, fetching pages until there is one. -/
def draw (listing : Paged τ σ ε α) : Nat → Cursor α → Act τ σ ε (Option α × Cursor α)
  | _, .ended => return (none, .ended)
  | _, .reading (item :: rest) next => return (some item, .reading rest next)
  | _, .reading [] none => return (none, .ended)
  | 0, .reading [] (some _) => throw .cutOff
  | limit + 1, .reading [] (some marker) => do
    let page ← listing.next marker
    draw listing limit (.reading page.items page.nextMarker)

/-- Takes up to so many items. -/
def take (listing : Paged τ σ ε α) (limit : Nat) :
    Nat → Cursor α → Act τ σ ε (Drawn α × Cursor α)
  | 0, cursor => return (⟨[], false⟩, cursor)
  | count + 1, cursor => do
    let (item, cursor) ← listing.draw limit cursor
    match item with
    | none => return (⟨[], true⟩, cursor)
    | some item =>
      let (drawn, cursor) ← listing.take limit count cursor
      return (⟨item :: drawn.items, drawn.atEnd⟩, cursor)

/-- Takes up to so many items.  A walk that fails is at its end. -/
def takeOrEnd (listing : Paged τ σ ε α) (limit count : Nat) (cursor : Cursor α) :
    Act τ σ ε (Except Error (Drawn α) × Cursor α) :=
  tryCatch
    (do
      let (drawn, cursor) ← listing.take limit count cursor
      return (.ok drawn, cursor))
    fun
      | .failed error => return (.error error, .ended)
      | .cutOff => throw .cutOff

/-- The first item, if there is one. -/
def head? (listing : Paged τ σ ε α) (limit : Nat) : Act τ σ ε (Option α) := do
  let (item, _) ← listing.draw limit listing.start
  return item

end Paged

end ComputeNodes
