import HolderGate.Crypto.Keccak
import HolderGate.Crypto.Secp256k1
import HolderGate.Identity.Wallet

/-! Whether a wallet signed a message. The digest, the recovery of keys and their check against a
signature are a parameter, so nothing here depends on how the curve is computed with. -/
namespace HolderGate.Auth
open Identity Crypto

inductive SignatureError where
  | notHex (reason : String)
  | wrongLength (n : Nat)
  | badRecoveryByte (v : UInt8)
  | notRecoverable (reason : String)
  deriving DecidableEq, Repr

def signatureLength : Nat := 65

def SignatureError.message : SignatureError → String
  | notHex reason => "signature is not valid hex: " ++ reason
  | wrongLength n =>
    "signature must be " ++ Text.Numeral.decimal signatureLength ++ " bytes, got " ++ Text.Numeral.decimal n
  | badRecoveryByte v => "invalid recovery byte: " ++ Text.Numeral.decimal v.toNat
  | notRecoverable reason => "public key recovery failed: " ++ reason

def quotedOctet (b : UInt8) : String :=
  let c := Char.ofNat b.toNat
  let body :=
    if b = 0 then "\\0"
    else if b = 9 then "\\t"
    else if b = 10 then "\\n"
    else if b = 13 then "\\r"
    else if b = 0x27 ∨ b = 0x5C then "\\" ++ String.singleton c
    else if b < 0x20 ∨ (0x7F ≤ b ∧ b ≤ 0xA0) ∨ b = 0xAD then
      "\\u\x7b" ++ String.ofList (Nat.toDigits 16 b.toNat) ++ "\x7d"
    else String.singleton c
  "'" ++ body ++ "'"

def defectText : Text.Hex.Defect → String
  | .oddLength => "odd number of digits"
  | .badDigit octet index =>
    "invalid character " ++ quotedOctet octet ++ " at position " ++ Text.Numeral.decimal index

structure Scheme where
  digest : Bytes → Bytes
  recover : Bytes → Secp256k1.Signature → Bool → Option Secp256k1.Key
  verifies : Secp256k1.Key → Bytes → Secp256k1.Signature → Bool

def Scheme.standard : Scheme := ⟨Keccak.digest, Secp256k1.recover?, Secp256k1.verifies⟩

def Scheme.address (scheme : Scheme) (key : Secp256k1.Key) : Chain.Address :=
  .ofOctets (scheme.digest key.octets)

inductive Encoding where
  | raw
  | personal
  deriving DecidableEq, Repr

def Encoding.all : List Encoding := [raw, personal]

def Encoding.digest (scheme : Scheme) (encoding : Encoding) (message : Bytes) : Bytes :=
  match encoding with
  | raw => scheme.digest message
  | personal =>
    scheme.digest (utf8 ("\x19Ethereum Signed Message:\n" ++ Text.Numeral.decimal message.length) ++ message)

def recoveryByte (v : UInt8) : Except SignatureError Bool :=
  if v = 0 ∨ v = 27 then .ok false
  else if v = 1 ∨ v = 28 then .ok true
  else .error (.badRecoveryByte v)

def readSignature (text : String) : Except SignatureError (Secp256k1.Signature × Bool) :=
  match Text.Hex.decode (Text.trim text) with
  | .error defect => .error (.notHex (defectText defect))
  | .ok octets =>
    if octets.length ≠ signatureLength then .error (.wrongLength octets.length)
    else do
      let odd ← recoveryByte (octets.getLast?.getD 0)
      match Secp256k1.Signature.parse? (octets.take 64) with
      | some signature => .ok (signature, odd)
      | none => .error (.notRecoverable "signature error")

def signedBy (scheme : Scheme) (claimed : Chain.Address) (signature : Secp256k1.Signature) (odd : Bool)
    (digest : Bytes) : Option Bool :=
  (scheme.recover digest signature odd).map (fun key =>
    scheme.address key == claimed && scheme.verifies key digest signature)

/-- A signature of the message in either encoding counts. It is an error only
if no key can be recovered from either. -/
def verify (scheme : Scheme) (text : String) (message : Bytes) (claimed : Wallet) :
    Except SignatureError Bool := do
  let (signature, odd) ← readSignature text
  let verdicts := Encoding.all.map (fun encoding =>
    signedBy scheme claimed.address signature odd (encoding.digest scheme message))
  if verdicts.contains (some true) then .ok true
  else if verdicts.contains (some false) then .ok false
  else .error (.notRecoverable "signature error")

end HolderGate.Auth
