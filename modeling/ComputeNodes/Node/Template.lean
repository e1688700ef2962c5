/-
What a new node is to be like.

A template names a hardware profile, a location, an image and a set of options.  Options may come
from elsewhere and need not offer everything that is asked of them: `OptionSet` says which of the
twelve capabilities are missing, and only a set that lacks none is looked at any further.
-/
import ComputeNodes.Entries
import ComputeNodes.Text.Quoted

namespace ComputeNodes

/-- An account that the programs on an instance may act as. -/
structure ServiceAccount where
  email : String
  scopes : List String := ["https://www.googleapis.com/auth/cloud-platform"]
  deriving DecidableEq, Repr

/-- How to log in to a node.  The private key of an image's default credentials may hold the
public key as well, in front of a colon. -/
structure LoginCredentials where
  user : Option String := none
  privateKey : Option String := none
  password : Option String := none
  authenticateSudo : Bool := false
  deriving DecidableEq, Repr

/-- The image a node is made from. -/
structure TemplateImage where
  id : String
  uri : Option String
  defaultCredentials : LoginCredentials := {}
  deriving DecidableEq, Repr

/-- The options of a node; a login option that is given overrides what the image says. -/
structure NodeOptions where
  network : Option String := none
  enableNat : Bool := true
  tags : List String := []
  serviceAccounts : List ServiceAccount := []
  publicKey : Option String := none
  privateKey : Option String := none
  loginUser : Option String := none
  loginPassword : Option String := none
  authenticateSudo : Option Bool := none
  userMetadata : Entries String := []
  startupScript : Option String := none
  blockUntilRunning : Bool := true
  deriving DecidableEq, Repr

/-- What is asked of a set of options. -/
inductive Capability where
  | network
  | enableNat
  | tags
  | serviceAccounts
  | publicKey
  | privateKey
  | loginUser
  | loginPassword
  | authenticateSudo
  | userMetadata
  | startupScript
  | blockUntilRunning
  deriving DecidableEq, Repr

/-- A set of options as it is handed in: the word for its kind, what it lacks, and its values. -/
structure OptionSet where
  typeName : String := "GCETemplateOptions"
  missing : List Capability := []
  options : NodeOptions
  deriving DecidableEq, Repr

/-- Where a node is to be. -/
structure Location where
  id : String
  /-- How wide the location is; nodes are made in locations whose scope is `ZONE`. -/
  scope : String
  description : String := ""
  deriving DecidableEq, Repr

namespace Location

def isZone (l : Location) : Bool := l.scope == "ZONE"

/-- A location as messages show it. -/
def text (l : Location) : String :=
  "Location(id=" ++ Text.quoted l.id ++ ", scope=" ++ Text.quoted l.scope ++ ", description="
    ++ Text.quoted l.description ++ ")"

end Location

/-- What a new node is to be like. -/
structure NodeTemplate where
  hardware : String
  location : Location
  image : TemplateImage
  optionSet : OptionSet
  deriving DecidableEq, Repr

end ComputeNodes
