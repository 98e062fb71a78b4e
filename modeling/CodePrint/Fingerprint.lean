import CodePrint.Base64
import CodePrint.Digest.Sha256
import CodePrint.Digest.Sha512
import CodePrint.ScanError
import CodePrint.Text.Quoted

/-! # Fingerprints

A fingerprint is the digest of a content under a named algorithm, written in base64 without padding.
The backend chosen for the work is either always there or a module of its own; the digests are the
same.
-/

namespace CodePrint

/-- A digest algorithm. -/
inductive HashAlgorithm where
  | sha256
  | sha512
deriving DecidableEq, Repr

namespace HashAlgorithm

/-- All algorithms, in order. -/
def all : List HashAlgorithm :=
  [.sha256, .sha512]

/-- The name of an algorithm. -/
def name : HashAlgorithm → String
  | .sha256 => "sha_256"
  | .sha512 => "sha_512"

/-- How many octets its digests have. -/
def digestSize : HashAlgorithm → Nat
  | .sha256 => 32
  | .sha512 => 64

/-- The digest of a content. -/
def digest : HashAlgorithm → List UInt8 → List UInt8
  | .sha256 => CodePrint.sha256
  | .sha512 => CodePrint.sha512

/-- The algorithm with a name. -/
def ofName? (name : String) : Option HashAlgorithm :=
  all.find? (·.name == name)

end HashAlgorithm

/-- What computes the digests. -/
inductive HashBackend where
  /-- Part of every installation. -/
  | builtin
  /-- A module that may be missing. -/
  | portable
deriving DecidableEq, Repr

namespace HashBackend

/-- All backends, in order. -/
def all : List HashBackend :=
  [.builtin, .portable]

/-- The name of a backend. -/
def name : HashBackend → String
  | .builtin => "hashlib"
  | .portable => "pycryptodome"

/-- The module that a backend needs. -/
def module? : HashBackend → Option String
  | .builtin => none
  | .portable => some "Crypto"

/-- The backend with a name. -/
def ofName? (name : String) : Option HashBackend :=
  all.find? (·.name == name)

end HashBackend

/-- What fingerprints are made with. -/
structure Hasher where
  algorithm : HashAlgorithm := .sha256
  backend : HashBackend := .builtin
deriving DecidableEq, Repr

/-- The hasher on one line. -/
def Hasher.text (hasher : Hasher) : String :=
  let algorithm := hasher.algorithm.name
  let backend := hasher.backend.name
  s!"Fingerprinter({algorithm}, {backend})"

/-- A digest and the algorithm it was made with. -/
structure Fingerprint where
  algorithm : HashAlgorithm
  digest : List UInt8
deriving DecidableEq, Repr

/-- Why a text is no fingerprint. -/
inductive FingerprintError where
  | notAscii
  | malformed (text : String)
  | wrongSize (algorithm : HashAlgorithm) (size : Nat)
deriving DecidableEq, Repr

/-- What is wrong, in words. -/
def FingerprintError.message : FingerprintError → String
  | .notAscii => "string argument should contain only ASCII characters"
  | .malformed text => "Invalid fingerprint encoding: " ++ Text.quoted text
  | .wrongSize algorithm size =>
    let expected := algorithm.digestSize
    let name := algorithm.name
    s!"Expected {expected} digest bytes for {name}, got {size}"

namespace Fingerprint

/-- The fingerprint of a content. -/
def ofContent (algorithm : HashAlgorithm) (content : List UInt8) : Fingerprint :=
  ⟨algorithm, algorithm.digest content⟩

/-- The digest in base64 without padding. -/
def encoded (fingerprint : Fingerprint) : String :=
  String.ofList (Base64.encode fingerprint.digest)

/-- The digest in hexadecimal. -/
def hex (fingerprint : Fingerprint) : String :=
  String.ofList (fingerprint.digest.flatMap fun octet => Text.hexDigits 2 octet.toNat)

/-- The algorithm and the encoded digest. -/
def text (fingerprint : Fingerprint) : String :=
  fingerprint.algorithm.name ++ ":" ++ fingerprint.encoded

/-- The fingerprint that an encoded digest writes. -/
def decode (algorithm : HashAlgorithm) (text : String) : Except FingerprintError Fingerprint :=
  if text.toList.any fun c => 0x80 ≤ c.toNat then .error .notAscii
  else
    match Base64.decode? text.toList with
    | none => .error (.malformed text)
    | some digest =>
      if digest.length = algorithm.digestSize then .ok ⟨algorithm, digest⟩
      else .error (.wrongSize algorithm digest.length)

end Fingerprint

end CodePrint
