import HolderGate.Bytes

/-! The Keccak sponge with digests of 256 bits and the padding that begins with a one bit.
The state is an array of 25 lanes; the lane of column `x` and row `y` stands at `x + 5 * y`. -/
namespace HolderGate.Crypto.Keccak

abbrev State := Array UInt64

def lane (s : State) (x y : Nat) : UInt64 := s.getD (x % 5 + 5 * (y % 5)) 0

def build (f : Nat → Nat → UInt64) : State := Array.ofFn (fun i : Fin 25 => f (i.val % 5) (i.val / 5))

def rotate (w : UInt64) (n : Nat) : UInt64 :=
  if n % 64 = 0 then w else (w <<< UInt64.ofNat (n % 64)) ||| (w >>> UInt64.ofNat (64 - n % 64))

def offsets : Array Nat :=
  #[0, 1, 62, 28, 27, 36, 44, 6, 55, 20, 3, 10, 43, 25, 39, 41, 45, 15, 21, 8, 18, 2, 61, 56, 14]

def roundConstants : List UInt64 :=
  [0x0000000000000001, 0x0000000000008082, 0x800000000000808A, 0x8000000080008000,
    0x000000000000808B, 0x0000000080000001, 0x8000000080008081, 0x8000000000008009,
    0x000000000000008A, 0x0000000000000088, 0x0000000080008009, 0x000000008000000A,
    0x000000008000808B, 0x800000000000008B, 0x8000000000008089, 0x8000000000008003,
    0x8000000000008002, 0x8000000000000080, 0x000000000000800A, 0x800000008000000A,
    0x8000000080008081, 0x8000000000008080, 0x0000000080000001, 0x8000000080008008]

def theta (s : State) : State :=
  let columns := Array.ofFn (fun x : Fin 5 =>
    lane s x 0 ^^^ lane s x 1 ^^^ lane s x 2 ^^^ lane s x 3 ^^^ lane s x 4)
  build (fun x y =>
    lane s x y ^^^ columns.getD ((x + 4) % 5) 0 ^^^ rotate (columns.getD ((x + 1) % 5) 0) 1)

def rhoPi (s : State) : State :=
  build (fun x y =>
    let source := (x + 3 * y) % 5
    rotate (lane s source x) (offsets.getD (source + 5 * x) 0))

def chi (s : State) : State :=
  build (fun x y => lane s x y ^^^ (~~~(lane s (x + 1) y) &&& lane s (x + 2) y))

def round (s : State) (constant : UInt64) : State :=
  (chi (rhoPi (theta s))).modify 0 (· ^^^ constant)

def permute (s : State) : State := roundConstants.foldl round s

def rate : Nat := 136

def pad (message : Bytes) : Bytes :=
  let gap := rate - message.length % rate
  if gap = 1 then message ++ [0x81]
  else message ++ 0x01 :: List.replicate (gap - 2) 0 ++ [0x80]

def littleEndian (octets : Bytes) : UInt64 :=
  octets.foldr (fun octet n => (n <<< 8) ||| octet.toUInt64) 0

def absorb (s : State) (block : Bytes) : State :=
  permute ((chunks 8 block).zipIdx.foldl
    (fun s (octets, index) => s.modify index (· ^^^ littleEndian octets)) s)

def laneOctets (w : UInt64) : Bytes :=
  (List.range 8).map (fun i => (w >>> UInt64.ofNat (8 * i)).toUInt8)

def digest (message : Bytes) : Bytes :=
  let s := (chunks rate (pad message)).foldl absorb (Array.replicate 25 0)
  (List.range 4).flatMap (fun i => laneOctets (s.getD i 0))

end HolderGate.Crypto.Keccak
