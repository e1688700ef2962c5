/-
Kinds of errors.

Kinds form a hierarchy: whoever is prepared for a kind is prepared for every kind below it
(`Kind.isA`).  The refusals of the service, and the kinds that are not particular to this library,
are kinds like any other.
-/

namespace ComputeNodes

/-- The ways in which the service refuses a request. -/
inductive ServiceStatus where
  | badRequest
  | unauthorized
  | forbidden
  | notFound
  | conflict
  | tooManyRequests
  | internalServerError
  | serviceUnavailable
  | gatewayTimeout
  deriving DecidableEq, Repr

/-- The number of a refusal. -/
def ServiceStatus.code : ServiceStatus → Nat
  | .badRequest => 400
  | .unauthorized => 401
  | .forbidden => 403
  | .notFound => 404
  | .conflict => 409
  | .tooManyRequests => 429
  | .internalServerError => 500
  | .serviceUnavailable => 503
  | .gatewayTimeout => 504

/-- Kinds of errors. -/
inductive Kind where
  /-- Any error of this library. -/
  | library
  | configuration
  | invalidTemplate
  | paginationScope
  | unsupportedOperation
  | provisioning
  | operationFailed
  | pollTimeout
  | operationTimeout
  | visibilityTimeout
  /-- A value that is not acceptable; this kind and the ones below are not particular to this
  library. -/
  | value
  | notImplemented
  | timeout
  | runtime
  | key
  | index
  | type
  | attributeMissing
  | overflow
  | outOfMemory
  | system
  | assertion
  | undecodable
  | unencodable
  | markup
  | recursion
  | service (status : ServiceStatus)
  deriving DecidableEq, Repr

namespace Kind

/-- The kinds right above a kind. -/
def parents : Kind → List Kind
  | .configuration => [.library]
  | .invalidTemplate => [.library, .value]
  | .paginationScope => [.library]
  | .unsupportedOperation => [.library, .notImplemented]
  | .provisioning => [.library]
  | .operationFailed => [.provisioning]
  | .pollTimeout => [.provisioning, .timeout]
  | .operationTimeout => [.pollTimeout]
  | .visibilityTimeout => [.pollTimeout]
  | _ => []

/-- A kind and the kinds above it, up to so many levels. -/
def upTo : Nat → Kind → List Kind
  | 0, k => [k]
  | levels + 1, k => k :: k.parents.flatMap (upTo levels)

/-- A kind and all kinds above it; the hierarchy has four levels. -/
def ancestors (k : Kind) : List Kind := (upTo 3 k).eraseDups

/-- Whether an error of this kind is also one of the other. -/
def isA (k other : Kind) : Bool := k.ancestors.contains other

end Kind

end ComputeNodes
