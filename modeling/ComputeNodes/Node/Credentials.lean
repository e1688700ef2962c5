/-
The credentials of a new node, and the metadata that lets them in.

An image brings default credentials, whose key material is `public:private` or a bare private key.
Each of user, private key, password, sudo flag and public key is taken from the options where they
give one — an empty text and a false flag are given — and from the image otherwise.

The metadata of an instance are the user's own entries, followed by the entry that authorizes the
public key and the one that holds the startup script.  Neither of the two ever replaces an entry
of the user's.
-/
import ComputeNodes.Entries
import ComputeNodes.Node.Template
import ComputeNodes.Text.Blank
import ComputeNodes.Text.Split

namespace ComputeNodes

/-- A pair of keys, each of which may be missing. -/
structure KeyPair where
  publicKey : Option String
  privateKey : Option String
  deriving DecidableEq, Repr

namespace KeyPair

/-- Splits key material at its first colon; without one it is a private key. -/
def ofMaterial : Option String → KeyPair
  | none => ⟨none, none⟩
  | some material =>
    if material = "" then ⟨none, none⟩
    else match Text.splitAt? ':' material.toList with
      | some (front, back) => ⟨nonEmpty? (String.ofList front), nonEmpty? (String.ofList back)⟩
      | none => ⟨none, some material⟩

end KeyPair

/-- The credentials a node is made with, and the public key to authorize. -/
structure DerivedCredentials where
  credentials : LoginCredentials
  publicKey : Option String
  deriving DecidableEq, Repr

/-- Takes the credentials from the options where they give one, and from the image otherwise. -/
def DerivedCredentials.derive (image : TemplateImage) (options : NodeOptions) :
    DerivedCredentials :=
  let defaults := image.defaultCredentials
  let keys := KeyPair.ofMaterial defaults.privateKey
  { credentials :=
      { user := options.loginUser <|> defaults.user
        privateKey := options.privateKey <|> keys.privateKey
        password := options.loginPassword <|> defaults.password
        authenticateSudo := options.authenticateSudo.getD defaults.authenticateSudo }
    publicKey := options.publicKey <|> keys.publicKey }

namespace Metadata

/-- The key of the entry that authorizes a public key. -/
def sshKeys : String := "ssh-keys"

/-- The key of the entry that holds the startup script. -/
def startupScript : String := "startup-script"

/-- The account that is authorized where the credentials name none. -/
def defaultUser : String := "gcenode"

/-- The account that a public key is authorized for. -/
def authorizedUser (credentials : LoginCredentials) : String :=
  (credentials.user.bind nonEmpty?).getD defaultUser

/-- The metadata of a new instance. -/
def ofOptions (options : NodeOptions) (derived : DerivedCredentials) : Entries String :=
  let authorized := match derived.publicKey.bind nonEmpty? with
    | some key =>
      Entries.addNew options.userMetadata sshKeys (authorizedUser derived.credentials ++ ":" ++ key)
    | none => options.userMetadata
  match options.startupScript.bind nonEmpty? with
  | some script => Entries.addNew authorized startupScript script
  | none => authorized

end Metadata

end ComputeNodes
