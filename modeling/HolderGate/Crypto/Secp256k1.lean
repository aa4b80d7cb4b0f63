import HolderGate.Bytes

/-! The curve y² = x³ + 7 over a prime field, and the recovery of signing keys from signatures on it.
Points are computed with in Jacobian coordinates: `(x, y, z)` stands for `(x/z², y/z³)`, and
`z = 0` for the point at infinity. -/
namespace HolderGate.Crypto.Secp256k1

def prime : Nat := Nat.pow 2 256 - Nat.pow 2 32 - 977

def order : Nat := 0xFFFFFFFFFFFFFFFFFFFFFFFFFFFFFFFEBAAEDCE6AF48A03BBFD25E8CD0364141

def power (modulus base exponent : Nat) : Nat :=
  if exponent = 0 then 1
  else
    let half := power modulus (base * base % modulus) (exponent / 2)
    if exponent % 2 = 1 then base * half % modulus else half
termination_by exponent
decreasing_by omega

def inverse (modulus a : Nat) : Nat := power modulus (a % modulus) (modulus - 2)

def add (a b : Nat) : Nat := (a + b) % prime

def sub (a b : Nat) : Nat := (a + prime - b % prime) % prime

def mul (a b : Nat) : Nat := a * b % prime

structure Point where
  x : Nat
  y : Nat
  z : Nat
  deriving DecidableEq, Repr

def infinity : Point := ⟨1, 1, 0⟩

def generator : Point :=
  ⟨0x79BE667EF9DCBBAC55A06295CE870B07029BFCDB2DCE28D959F2815B16F81798,
    0x483ADA7726A3C4655DA4FBFC0E1108A8FD17B448A68554199C47D08FFB10D4B8, 1⟩

def Point.double (p : Point) : Point :=
  if p.z = 0 ∨ p.y = 0 then infinity
  else
    let ySquared := mul p.y p.y
    let s := mul 4 (mul p.x ySquared)
    let m := mul 3 (mul p.x p.x)
    let x := sub (mul m m) (mul 2 s)
    let y := sub (mul m (sub s x)) (mul 8 (mul ySquared ySquared))
    ⟨x, y, mul 2 (mul p.y p.z)⟩

def Point.plus (p q : Point) : Point :=
  if p.z = 0 then q
  else if q.z = 0 then p
  else
    let pz := mul p.z p.z
    let qz := mul q.z q.z
    let u := mul p.x qz
    let s := mul p.y (mul q.z qz)
    let h := sub (mul q.x pz) u
    let r := sub (mul q.y (mul p.z pz)) s
    if h = 0 then (if r = 0 then p.double else infinity)
    else
      let h2 := mul h h
      let h3 := mul h h2
      let v := mul u h2
      let x := sub (sub (mul r r) h3) (mul 2 v)
      let y := sub (mul r (sub v x)) (mul s h3)
      ⟨x, y, mul h (mul p.z q.z)⟩

def Point.times (n : Nat) (p : Point) : Point :=
  if n = 0 then infinity
  else
    let half := Point.times (n / 2) p.double
    if n % 2 = 1 then p.plus half else half
termination_by n
decreasing_by omega

structure Key where
  x : Nat
  y : Nat
  deriving DecidableEq, Repr

def Point.key? (p : Point) : Option Key :=
  if p.z = 0 then none
  else
    let i := inverse prime p.z
    let i2 := mul i i
    some ⟨mul p.x i2, mul p.y (mul i i2)⟩

def Key.octets (k : Key) : Bytes := bigEndian 32 k.x ++ bigEndian 32 k.y

def lift? (x : Nat) (odd : Bool) : Option Point :=
  let square := add (mul x (mul x x)) 7
  let root := power prime square ((prime + 1) / 4)
  if mul root root = square then
    some ⟨x, if (root % 2 = 1) = odd then root else sub 0 root, 1⟩
  else none

structure Signature where
  r : Nat
  s : Nat
  deriving DecidableEq, Repr

def Signature.parse? (octets : Bytes) : Option Signature :=
  let r := ofBigEndian (octets.take 32)
  let s := ofBigEndian (octets.drop 32)
  if 0 < r ∧ r < order ∧ 0 < s ∧ s < order then some ⟨r, s⟩ else none

def verifies (key : Key) (digest : Bytes) (signature : Signature) : Bool :=
  let z := ofBigEndian digest % order
  let inverse := inverse order signature.s
  let u := z * inverse % order
  let v := signature.r * inverse % order
  -- Of the two numbers that would do, only the lower one is taken.
  signature.s ≤ order / 2 &&
    match ((Point.times u generator).plus (Point.times v ⟨key.x, key.y, 1⟩)).key? with
    | some point => point.x % order == signature.r
    | none => false

/-- The key that made a signature of a digest, where `odd` tells which of the two points
that the signature stands for was used. -/
def recover? (digest : Bytes) (signature : Signature) (odd : Bool) : Option Key := do
  let point ← lift? signature.r odd
  let z := ofBigEndian digest % order
  let inverse := inverse order signature.r
  let u := (order - z * inverse % order) % order
  let v := signature.s * inverse % order
  let key ← ((Point.times u generator).plus (Point.times v point)).key?
  if verifies key digest signature then some key else none

end HolderGate.Crypto.Secp256k1
