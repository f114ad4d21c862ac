/-
Module: WebHost.Tls.Identity
Purpose: The certificate and the private key with which a server proves who it is.
Main exports:
  Identity, IdentityError, IdentityError.message?, loadIdentity
-/
import WebHost.Files.Tree
import WebHost.Text.Quoted
import WebHost.Tls.Der
import WebHost.Tls.Pem

namespace WebHost

open Text

/-!
A certificate file holds certificates, that of the server first.  A key file
holds one private key, for a curve or for a modulus.  They can be used together
if the public key that belongs to the private one is the one in the first
certificate.
-/

/-- What a server shows and what it signs with. -/
structure Identity where
  certificates : List Bytes
  publicKey : Bytes
deriving Repr, Inhabited, DecidableEq

/-- Why there is no identity. -/
inductive IdentityError where
  | certificateMissing (path : String)
  | keyMissing (path : String)
  | unusable
deriving Repr, Inhabited, DecidableEq

/-- The message of an error about a missing file. -/
def IdentityError.message? : IdentityError → Option String
  | .certificateMissing path => some ("Certificate file not found: " ++ quoteText path)
  | .keyMissing path => some ("Private key file not found: " ++ quoteText path)
  | .unusable => none

/-- The tag of a list of items. -/
def sequenceTag : UInt8 := 0x30

/-- The tag of a whole number. -/
def integerTag : UInt8 := 0x02

/-- The tag of a byte list. -/
def octetsTag : UInt8 := 0x04

/-- The tag of a bit list, whose content starts with the number of unused bits. -/
def bitsTag : UInt8 := 0x03

/-- The tag of a name for a standard. -/
def objectTag : UInt8 := 0x06

/-- The tag of an optional part with this number. -/
def partTag (number : Nat) : UInt8 := UInt8.ofNat (0xA0 + number)

/-- Keys on a curve. -/
def curveKeyName : Bytes := [0x2A, 0x86, 0x48, 0xCE, 0x3D, 0x02, 0x01]

/-- Keys with a modulus. -/
def modulusKeyName : Bytes := [0x2A, 0x86, 0x48, 0x86, 0xF7, 0x0D, 0x01, 0x01, 0x01]

/-- The curves that can be used, of 256, 384 and 521 bits. -/
def curveNames : List Bytes :=
  [[0x2A, 0x86, 0x48, 0xCE, 0x3D, 0x03, 0x01, 0x07], [0x2B, 0x81, 0x04, 0x00, 0x22],
    [0x2B, 0x81, 0x04, 0x00, 0x23]]

/-- The public key in a certificate of the third version, with the name of its
kind. -/
def certificateKey? (certificate : Bytes) : Option Bytes :=
  match derParts? sequenceTag certificate with
  | some [signed, _, _] =>
      match derParts? sequenceTag signed.toBytes with
      | some (version :: _ :: _ :: _ :: _ :: _ :: publicKey :: _) =>
          if version.tag = partTag 0 ∧ version.content = [0x02, 0x01, 0x02] ∧
              publicKey.tag = sequenceTag then
            some publicKey.toBytes
          else
            none
      | _ => none
  | _ => none

/-- A public key: the items that name its kind, and its bits. -/
def publicKeyBytes (kind : List DerItem) (bits : DerItem) : Bytes :=
  let names : DerItem := { tag := sequenceTag, content := kind.flatMap DerItem.toBytes }
  DerItem.toBytes { tag := sequenceTag, content := names.toBytes ++ bits.toBytes }

/-- The items that name keys on a curve. -/
def curveKind (curve : Bytes) : List DerItem :=
  [{ tag := objectTag, content := curveKeyName }, { tag := objectTag, content := curve }]

/-- The public key of a private key on a curve.  The curve is the one given, or
else the one that the key names. -/
def curvePublicKey? (known : Option Bytes) (key : Bytes) : Option Bytes := do
  match ← derParts? sequenceTag key with
  | version :: secret :: options =>
      if version.tag ≠ integerTag ∨ version.content ≠ [1] ∨ secret.tag ≠ octetsTag then none
      else do
        let named := (options.find? (·.tag == partTag 0)).bind fun part =>
          (derItem? part.content).map fun (item, _) => item.content
        let curve ← known.or named
        let bits ← options.find? (·.tag == partTag 1)
        let (item, _) ← derItem? bits.content
        if curve ∈ curveNames ∧ item.tag = bitsTag then
          some (publicKeyBytes (curveKind curve) item)
        else
          none
  | _ => none

/-- The public key of a private key with a modulus of 2048 bits and more. -/
def modulusPublicKey? (key : Bytes) : Option Bytes := do
  match ← derParts? sequenceTag key with
  | version :: modulus :: exponent :: _ =>
      if version.tag ≠ integerTag ∨ version.content ≠ [0] ∨ modulus.tag ≠ integerTag ∨
          exponent.tag ≠ integerTag ∨ modulus.content.length < 257 then none
      else
        let numbers : DerItem :=
          { tag := sequenceTag, content := modulus.toBytes ++ exponent.toBytes }
        some (publicKeyBytes
          [{ tag := objectTag, content := modulusKeyName }, { tag := 0x05, content := [] }]
          { tag := bitsTag, content := 0 :: numbers.toBytes })
  | _ => none

/-- The public key of a private key that comes with the name of its kind. -/
def namedPublicKey? (key : Bytes) : Option Bytes := do
  match ← derParts? sequenceTag key with
  | version :: kind :: secret :: _ =>
      if version.tag ≠ integerTag ∨ version.content.length ≠ 1 ∨ secret.tag ≠ octetsTag then none
      else
        match ← derParts? sequenceTag kind.toBytes with
        | name :: parameters =>
            if name.content = modulusKeyName then modulusPublicKey? secret.content
            else if name.content = curveKeyName then
              curvePublicKey? (parameters.head?.map DerItem.content) secret.content
            else none
        | [] => none
  | _ => none

/-- The section holds a private key. -/
def PemSection.isPrivateKey (part : PemSection) : Bool :=
  ["PRIVATE KEY", "EC PRIVATE KEY", "RSA PRIVATE KEY"].contains part.label

/-- The public key that belongs to the private key of a section. -/
def PemSection.publicKey? (part : PemSection) : Option Bytes :=
  match part.label with
  | "PRIVATE KEY" => namedPublicKey? part.content
  | "EC PRIVATE KEY" => curvePublicKey? none part.content
  | "RSA PRIVATE KEY" => modulusPublicKey? part.content
  | _ => none

/-- The certificates of a file, if no section of it is damaged. -/
def certificatesOf? (content : Bytes) : Option (List Bytes) :=
  ((pemSections content).mapM id).map fun sections =>
    (sections.filter (·.label == "CERTIFICATE")).map PemSection.content

/-- The identity that a certificate file and a key file make. -/
def identityOf? (certificateFile keyFile : Bytes) : Option Identity := do
  let certificates ← certificatesOf? certificateFile
  let first ← certificates.head?
  let shown ← certificateKey? first
  match ((pemSections keyFile).filterMap id).filter PemSection.isPrivateKey with
  | [key] =>
      let publicKey ← key.publicKey?
      if publicKey = shown then
        some { certificates := certificates, publicKey := publicKey }
      else
        none
  | _ => none

/-- The identity in the files at two paths. -/
def loadIdentity (files : FileSystem) (certificatePath keyPath : String) :
    Except IdentityError Identity :=
  if !files.isFile certificatePath then .error (.certificateMissing certificatePath)
  else if !files.isFile keyPath then .error (.keyMissing keyPath)
  else
    match files.read certificatePath, files.read keyPath with
    | .ok certificateFile, .ok keyFile =>
        match identityOf? certificateFile keyFile with
        | some identity => .ok identity
        | none => .error .unusable
    | _, _ => .error .unusable

end WebHost
