/-
Pages of listings.

A listing is answered page by page.  A page that is not the last one holds a marker, which asks for
the next page together with the scope that the listing was issued with.

Scopes and markers are handed on as they are given.  What counts as nothing is not asked for, and
whether the rest can be asked for is seen when a request is made of it.
-/
import ComputeNodes.Value

namespace ComputeNodes

/-- What is asked of a listing. -/
structure ListOptions where
  filter : Value := .null
  /-- The most items on one page. -/
  maxResults : Value := .null
  deriving DecidableEq, Repr

/-- What a listing was issued with, and is continued with. -/
structure ListScope where
  project : Value
  zone : Value := .null
  options : Option ListOptions := none
  deriving DecidableEq, Repr

/-- One page of a listing. -/
structure ListPage (α : Type) where
  items : List α := []
  nextMarker : Option Value := none
  deriving DecidableEq, Repr

end ComputeNodes
