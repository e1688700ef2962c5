/-
Names of resources.

The service names a resource by a path; what the rest of this library works with is its last
segment.  `shortName` finds it, whatever the number of slashes behind it, and `network` goes the
other way for networks given by their bare name.
-/

namespace ComputeNodes.Uri

/-- The address all resources of the service lie under. -/
def endpoint : String := "https://www.googleapis.com/compute/v1"

/-- The last segment of a path. -/
def lastSegment (cs : List Char) : List Char :=
  ((cs.reverse.dropWhile (· == '/')).takeWhile (· != '/')).reverse

/-- The name of the resource that a path leads to. -/
def shortName (uri : String) : String := String.ofList (lastSegment uri.toList)

/-- The address of a global resource of a project. -/
def global (project collection name : String) : String :=
  endpoint ++ "/projects/" ++ project ++ "/global/" ++ collection ++ "/" ++ name

/-- The address of a network; whatever holds a slash is one already. -/
def network (project name : String) : String :=
  if '/' ∈ name.toList then name else global project "networks" name

end ComputeNodes.Uri
