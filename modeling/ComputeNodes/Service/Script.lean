/-
Servers that follow a script.

A script is a queue of answers for every endpoint.  A request gets the first answer of its
endpoint, which is used up unless it is sticky; where there is none left, there is no such thing.
Answers take no time.
-/
import ComputeNodes.Service.Request

namespace ComputeNodes

/-- An answer of an endpoint. -/
structure Scripted where
  endpoint : Endpoint
  answer : Except Error endpoint.Reply
  sticky : Bool := false

/-- The answers of all endpoints, those of each one in the order in which they are given. -/
abbrev Script := List Scripted

namespace Script

/-- What an endpoint answers that has nothing left to answer. -/
def noResponse : Error := .raised (.service .notFound) "no response"

/-- The first answer of an endpoint, and the script behind it. -/
def take? (endpoint : Endpoint) : Script → Option (Except Error endpoint.Reply × Script)
  | [] => none
  | scripted :: rest =>
    if h : scripted.endpoint = endpoint then
      some (h ▸ scripted.answer, if scripted.sticky then scripted :: rest else rest)
    else
      (take? endpoint rest).map fun (answer, rest) => (answer, scripted :: rest)

instance {τ : Type} : Server τ Script where
  respond now script request :=
    let (answer, script) := (script.take? request.endpoint).getD (.error noResponse, script)
    (answer, now, script)

end Script

end ComputeNodes
