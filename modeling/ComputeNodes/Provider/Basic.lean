/-
Providers of nodes.

A provider works for one identity on one account of the service, with fixed patience for whatever
has to be waited for.
-/
import ComputeNodes.Node.Group
import ComputeNodes.Provider.Lookup
import ComputeNodes.Resource.Distinct
import ComputeNodes.Service.Account

namespace ComputeNodes

/-- What a provider of nodes goes by. -/
structure Provider where
  identity : String
  patience : Patience
  /-- The project whose images are offered besides those of the caller's own. -/
  imageProject : String := "google"
  naming : GroupNaming := {}

namespace Provider

/-- What a provider does on an account. -/
abbrev Work (τ σ α : Type) := Calls τ (Account σ) α

variable {τ σ : Type} [Server τ σ]

/-- The name of the caller's project. -/
def project (p : Provider) : Work τ σ Value := Account.projectName p.identity

/-- The operations of the caller's project. -/
def lookup (p : Provider) : Lookup τ (Account σ) Exchange :=
  { project := p.project, find := getOperation }

/-- All items of a listing, in order. -/
def listAll (p : Provider) (what : Listed) (scope : ListScope) :
    Work τ σ (List what.Item) := do
  let listing ← what.list scope
  listing.concat p.patience.limit

/-- Adds the items of a listing to others, each record once.  The items of a page are added before
the next page is asked for. -/
def addDistinct (p : Provider) (what : Listed) [Keyed what.Item] (others : List what.Item)
    (scope : ListScope) : Work τ σ (List what.Item) := do
  let listing ← what.list scope
  listing.fold p.patience.limit others fun others page =>
    Act.ofExcept (Keyed.addAll others page.items)

end Provider

end ComputeNodes
