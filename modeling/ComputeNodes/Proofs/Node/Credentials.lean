/-
Where the credentials of a node come from.

Key material is split at its first colon, and nothing of it is lost: the two keys with a colon
between them are the material again (`joined_ofMaterial`).  A private key may hold colons of its
own; it comes out whole as long as the public key in front of it holds none.

A login has five parts, and each is settled by itself.  What the options give for it holds, whatever
it is; what the image says holds where they give nothing.  Two of the parts are in one text of the
image, its key material.
-/
import ComputeNodes.Node.Credentials
import Mathlib.Data.List.Basic

namespace ComputeNodes

/-! ### Key material -/

namespace KeyPair

/-- Two keys with a colon between them; one that is missing is empty. -/
def joined (keys : KeyPair) : String :=
  keys.publicKey.getD "" ++ ":" ++ keys.privateKey.getD ""

theorem getD_nonEmpty? (s : String) : (nonEmpty? s).getD "" = s := by
  by_cases h : s = ""
  · simp [nonEmpty?, h]
  · simp [nonEmpty?, h]

theorem nonEmpty?_of_ne {s : String} (h : s ≠ "") : nonEmpty? s = some s := if_neg h

/-- Material is split at a colon that no other one is in front of. -/
theorem ofMaterial_append {front : String} (h : ':' ∉ front.toList) (back : String) :
    ofMaterial (some (front ++ ":" ++ back)) = ⟨nonEmpty? front, nonEmpty? back⟩ := by
  have hlist : (front ++ ":" ++ back).toList = front.toList ++ ':' :: back.toList := by simp
  have hne : front ++ ":" ++ back ≠ "" := by
    intro hempty
    rw [hempty] at hlist
    simp at hlist
  have hsplit : Text.splitAt? ':' (front ++ ":" ++ back).toList
      = some (front.toList, back.toList) := Text.splitAt?_eq_some_iff.mpr ⟨hlist, h⟩
  unfold ofMaterial
  simp only [hne, if_false, hsplit, String.ofList_toList]

theorem ofMaterial_of_notMem {material : String} (h : ':' ∉ material.toList) :
    ofMaterial (some material) = ⟨none, nonEmpty? material⟩ := by
  have hsplit : Text.splitAt? ':' material.toList = none := Text.splitAt?_eq_none_iff.mpr h
  unfold ofMaterial
  by_cases hempty : material = ""
  · simp [nonEmpty?, hempty]
  · simp [nonEmpty?, hempty, hsplit]

/-- Material with a colon is the keys it is split into, with a colon between them. -/
theorem joined_ofMaterial {material : String} (h : ':' ∈ material.toList) :
    (ofMaterial (some material)).joined = material ∧
      ':' ∉ ((ofMaterial (some material)).publicKey.getD "").toList := by
  obtain ⟨front, back, hmaterial, hfront⟩ := List.eq_append_cons_of_mem h
  obtain rfl : material = String.ofList front ++ ":" ++ String.ofList back := by
    rw [← String.toList_inj, hmaterial]
    simp
  rw [← String.toList_ofList (l := front)] at hfront
  rw [ofMaterial_append hfront]
  refine ⟨?_, ?_⟩
  · rw [joined, getD_nonEmpty?, getD_nonEmpty?]
  · rw [getD_nonEmpty?]
    exact hfront

end KeyPair

/-! ### Logins -/

/-- The parts of a login. -/
inductive LoginPart where
  | user
  | privateKey
  | password
  | authenticateSudo
  | publicKey
  deriving DecidableEq, Repr

namespace LoginPart

/-- What options give for a part. -/
abbrev Given : LoginPart → Type
  | .authenticateSudo => Bool
  | _ => String

/-- What a part is, whoever says so. -/
abbrev Settled : LoginPart → Type
  | .authenticateSudo => Bool
  | _ => Option String

/-- What is given for a part holds. -/
def settle : (part : LoginPart) → part.Given → part.Settled
  | .user, s | .privateKey, s | .password, s | .publicKey, s => some s
  | .authenticateSudo, flag => flag

/-- What options give for a part, if they do. -/
def given (options : NodeOptions) : (part : LoginPart) → Option part.Given
  | .user => options.loginUser
  | .privateKey => options.privateKey
  | .password => options.loginPassword
  | .authenticateSudo => options.authenticateSudo
  | .publicKey => options.publicKey

/-- What an image says of a part. -/
def inImage (image : TemplateImage) : (part : LoginPart) → part.Settled
  | .user => image.defaultCredentials.user
  | .privateKey => (KeyPair.ofMaterial image.defaultCredentials.privateKey).privateKey
  | .password => image.defaultCredentials.password
  | .authenticateSudo => image.defaultCredentials.authenticateSudo
  | .publicKey => (KeyPair.ofMaterial image.defaultCredentials.privateKey).publicKey

/-- A part of derived credentials. -/
def of (derived : DerivedCredentials) : (part : LoginPart) → part.Settled
  | .user => derived.credentials.user
  | .privateKey => derived.credentials.privateKey
  | .password => derived.credentials.password
  | .authenticateSudo => derived.credentials.authenticateSudo
  | .publicKey => derived.publicKey

/-- A part is what the options give for it, and what the image says where they give nothing. -/
structure IsSettled (part : LoginPart) (image : TemplateImage) (options : NodeOptions)
    (derived : DerivedCredentials) : Prop where
  given : ∀ v, part.given options = some v → part.of derived = part.settle v
  absent : part.given options = none → part.of derived = part.inImage image

theorem orElse_of_some {α : Type} {given fallback : Option α} {v : α} (h : given = some v) :
    (given <|> fallback) = some v := by
  rw [h]
  rfl

theorem orElse_of_none {α : Type} {given fallback : Option α} (h : given = none) :
    (given <|> fallback) = fallback := by
  rw [h]
  cases fallback <;> rfl

theorem isSettled_derive (part : LoginPart) (image : TemplateImage) (options : NodeOptions) :
    part.IsSettled image options (.derive image options) := by
  cases part with
  | user => exact ⟨fun _ => orElse_of_some, orElse_of_none⟩
  | privateKey => exact ⟨fun _ => orElse_of_some, orElse_of_none⟩
  | password => exact ⟨fun _ => orElse_of_some, orElse_of_none⟩
  | publicKey => exact ⟨fun _ => orElse_of_some, orElse_of_none⟩
  | authenticateSudo =>
    refine ⟨fun flag hflag => ?_, fun hnone => ?_⟩
    · show options.authenticateSudo.getD _ = flag
      rw [show options.authenticateSudo = some flag from hflag, Option.getD_some]
    · show options.authenticateSudo.getD _ = _
      rw [show options.authenticateSudo = none from hnone]
      rfl

variable {part : LoginPart} {image : TemplateImage} {options other : NodeOptions}
  {derived derived' : DerivedCredentials}

/-- What the options give for the other parts does not matter. -/
theorem IsSettled.congr (h : part.IsSettled image options derived)
    (h' : part.IsSettled image other derived') (same : part.given other = part.given options) :
    part.of derived' = part.of derived := by
  cases hgiven : part.given options with
  | none => rw [h.absent hgiven, h'.absent (same.trans hgiven)]
  | some v => rw [h.given v hgiven, h'.given v (same.trans hgiven)]

/-- There is no more to a login than its parts. -/
theorem eq_of_parts (h : ∀ part : LoginPart, part.of derived = part.of derived') :
    derived = derived' := by
  have huser : derived.credentials.user = derived'.credentials.user := h .user
  have hprivate : derived.credentials.privateKey = derived'.credentials.privateKey := h .privateKey
  have hpassword : derived.credentials.password = derived'.credentials.password := h .password
  have hsudo : derived.credentials.authenticateSudo = derived'.credentials.authenticateSudo :=
    h .authenticateSudo
  have hpublic : derived.publicKey = derived'.publicKey := h .publicKey
  obtain ⟨⟨user, privateKey, password, flag⟩, publicKey⟩ := derived
  obtain ⟨⟨user', privateKey', password', flag'⟩, publicKey'⟩ := derived'
  simp_all

end LoginPart

/-- **Where credentials come from.**  Key material with a colon is the two keys it is split into
with a colon between them, the first of them without one; any other material is a private key, if it
is anything.  The credentials that are derived from an image and options are those whose every part
is what the options give for it, or else what the image says, and no part depends on what the
options give for another. -/
theorem DerivedCredentials.derive_settled (image : TemplateImage) (options : NodeOptions) :
    (∀ material : String, ':' ∈ material.toList →
        (KeyPair.ofMaterial (some material)).joined = material ∧
          ':' ∉ ((KeyPair.ofMaterial (some material)).publicKey.getD "").toList) ∧
      (∀ material : String, ':' ∉ material.toList → material ≠ "" →
        KeyPair.ofMaterial (some material) = ⟨none, some material⟩) ∧
      (KeyPair.ofMaterial none = ⟨none, none⟩ ∧ KeyPair.ofMaterial (some "") = ⟨none, none⟩) ∧
      (∀ pub priv : String, ':' ∉ pub.toList → pub ≠ "" → priv ≠ "" →
        KeyPair.ofMaterial (some (pub ++ ":" ++ priv)) = ⟨some pub, some priv⟩) ∧
      (∀ derived, derived = derive image options ↔
        ∀ part : LoginPart, part.IsSettled image options derived) ∧
      ∀ (part : LoginPart) (other : NodeOptions), part.given other = part.given options →
        part.of (derive image other) = part.of (derive image options) := by
  refine ⟨fun material => KeyPair.joined_ofMaterial, ?_, ⟨rfl, rfl⟩, ?_, ?_, ?_⟩
  · intro material hcolon hne
    rw [KeyPair.ofMaterial_of_notMem hcolon, KeyPair.nonEmpty?_of_ne hne]
  · intro pub priv hcolon hpub hpriv
    rw [KeyPair.ofMaterial_append hcolon, KeyPair.nonEmpty?_of_ne hpub,
      KeyPair.nonEmpty?_of_ne hpriv]
  · intro derived
    constructor
    · intro h part
      rw [h]
      exact part.isSettled_derive image options
    · intro h
      exact LoginPart.eq_of_parts fun part =>
        (part.isSettled_derive image options).congr (h part) rfl
  · intro part other same
    exact (part.isSettled_derive image options).congr (part.isSettled_derive image other) same

/-- An image whose private key holds a colon. -/
def colonImage : TemplateImage where
  id := "debian"
  uri := none
  defaultCredentials :=
    { user := some "debian"
      privateKey := some "ssh-rsa AAAA:Proc-Type: 4"
      authenticateSudo := true }

/-- An empty user and a flag that is false are given; the keys are those of the image. -/
theorem DerivedCredentials.derive_settled_colonImage :
    derive colonImage { loginUser := some "", authenticateSudo := some false }
      = { credentials :=
            { user := some "", privateKey := some "Proc-Type: 4", authenticateSudo := false }
          publicKey := some "ssh-rsa AAAA" } := by
  have hmaterial : KeyPair.ofMaterial colonImage.defaultCredentials.privateKey
      = ⟨some "ssh-rsa AAAA", some "Proc-Type: 4"⟩ :=
    (derive_settled colonImage {}).2.2.2.1 "ssh-rsa AAAA" "Proc-Type: 4" (by decide) (by decide)
      (by decide)
  refine (((derive_settled colonImage _).2.2.2.2.1 _).mpr fun part => ?_).symm
  cases part with
  | user => exact ⟨fun v hv => hv, nofun⟩
  | privateKey => exact ⟨nofun, fun _ => (congrArg KeyPair.privateKey hmaterial).symm⟩
  | password => exact ⟨nofun, fun _ => rfl⟩
  | authenticateSudo => exact ⟨fun v hv => Option.some.inj hv, nofun⟩
  | publicKey => exact ⟨nofun, fun _ => (congrArg KeyPair.publicKey hmaterial).symm⟩

end ComputeNodes
