import ServerlessX.Py.Bytes

/-! SHA-256 on byte strings, with 32-bit words as natural numbers. -/
namespace ServerlessX.Py.Sha256

def wrap (x : Nat) : Nat := x % 4294967296

def rotr (x k : Nat) : Nat := wrap (x >>> k ||| x <<< (32 - k))

def bigSigma0 (x : Nat) : Nat := rotr x 2 ^^^ rotr x 13 ^^^ rotr x 22
def bigSigma1 (x : Nat) : Nat := rotr x 6 ^^^ rotr x 11 ^^^ rotr x 25
def smallSigma0 (x : Nat) : Nat := rotr x 7 ^^^ rotr x 18 ^^^ x >>> 3
def smallSigma1 (x : Nat) : Nat := rotr x 17 ^^^ rotr x 19 ^^^ x >>> 10
def choose (x y z : Nat) : Nat := (x &&& y) ^^^ ((4294967295 ^^^ x) &&& z)
def majority (x y z : Nat) : Nat := (x &&& y) ^^^ (x &&& z) ^^^ (y &&& z)

def roundConstants : List Nat :=
  [0x428a2f98, 0x71374491, 0xb5c0fbcf, 0xe9b5dba5, 0x3956c25b, 0x59f111f1, 0x923f82a4, 0xab1c5ed5,
    0xd807aa98, 0x12835b01, 0x243185be, 0x550c7dc3, 0x72be5d74, 0x80deb1fe, 0x9bdc06a7, 0xc19bf174,
    0xe49b69c1, 0xefbe4786, 0x0fc19dc6, 0x240ca1cc, 0x2de92c6f, 0x4a7484aa, 0x5cb0a9dc, 0x76f988da,
    0x983e5152, 0xa831c66d, 0xb00327c8, 0xbf597fc7, 0xc6e00bf3, 0xd5a79147, 0x06ca6351, 0x14292967,
    0x27b70a85, 0x2e1b2138, 0x4d2c6dfc, 0x53380d13, 0x650a7354, 0x766a0abb, 0x81c2c92e, 0x92722c85,
    0xa2bfe8a1, 0xa81a664b, 0xc24b8b70, 0xc76c51a3, 0xd192e819, 0xd6990624, 0xf40e3585, 0x106aa070,
    0x19a4c116, 0x1e376c08, 0x2748774c, 0x34b0bcb5, 0x391c0cb3, 0x4ed8aa4a, 0x5b9cca4f, 0x682e6ff3,
    0x748f82ee, 0x78a5636f, 0x84c87814, 0x8cc70208, 0x90befffa, 0xa4506ceb, 0xbef9a3f7, 0xc67178f2]

structure State where
  a : Nat
  b : Nat
  c : Nat
  d : Nat
  e : Nat
  f : Nat
  g : Nat
  h : Nat

def initial : State :=
  ⟨0x6a09e667, 0xbb67ae85, 0x3c6ef372, 0xa54ff53a, 0x510e527f, 0x9b05688c, 0x1f83d9ab, 0x5be0cd19⟩

def round (s : State) (kw : Nat × Nat) : State :=
  let t1 := s.h + bigSigma1 s.e + choose s.e s.f s.g + kw.1 + kw.2
  let t2 := bigSigma0 s.a + majority s.a s.b s.c
  ⟨wrap (t1 + t2), s.a, s.b, s.c, wrap (s.d + t1), s.e, s.f, s.g⟩

/-- The words of a block, newest first, `n` of them still to be derived. -/
def schedule : Nat → List Nat → List Nat
  | 0, ws => ws
  | n + 1, ws =>
    let w := wrap (smallSigma1 (ws.getD 1 0) + ws.getD 6 0 + smallSigma0 (ws.getD 14 0) +
      ws.getD 15 0)
    schedule n (w :: ws)

def words : Bytes → List Nat
  | b0 :: b1 :: b2 :: b3 :: rest => unpackQ [b0, b1, b2, b3] :: words rest
  | _ => []

def compress (s : State) (block : Bytes) : State :=
  let ws := (schedule 48 (words block).reverse).reverse
  let r := (roundConstants.zip ws).foldl round s
  ⟨wrap (s.a + r.a), wrap (s.b + r.b), wrap (s.c + r.c), wrap (s.d + r.d), wrap (s.e + r.e),
    wrap (s.f + r.f), wrap (s.g + r.g), wrap (s.h + r.h)⟩

def pad (b : Bytes) : Bytes :=
  b ++ 0x80 :: List.replicate ((119 - b.length % 64) % 64) 0 ++ packQ (8 * b.length)

def absorb : Nat → State → Bytes → State
  | 0, s, _ => s
  | n + 1, s, b => absorb n (compress s (b.take 64)) (b.drop 64)

def hexDigit (n : Nat) : Char := Char.ofNat (if n < 10 then 48 + n else 87 + n)

def hexWord (w : Nat) : List Char :=
  [hexDigit (w >>> 28 % 16), hexDigit (w >>> 24 % 16), hexDigit (w >>> 20 % 16),
    hexDigit (w >>> 16 % 16), hexDigit (w >>> 12 % 16), hexDigit (w >>> 8 % 16),
    hexDigit (w >>> 4 % 16), hexDigit (w % 16)]

/-- `hashlib.sha256(b).hexdigest()`. -/
def hexdigest (b : Bytes) : String :=
  let padded := pad b
  let s := absorb (padded.length / 64) initial padded
  String.ofList (hexWord s.a ++ hexWord s.b ++ hexWord s.c ++ hexWord s.d ++ hexWord s.e ++
    hexWord s.f ++ hexWord s.g ++ hexWord s.h)

theorem hexWord_all {p : Char → Bool} (h : ∀ n < 16, p (hexDigit n) = true) (w : Nat) :
    (hexWord w).all p = true := by
  have hmod (k : Nat) : p (hexDigit (k % 16)) = true := h _ (Nat.mod_lt k (by omega))
  simp [hexWord, hmod]

/-- A digest is 64 hexadecimal digits. -/
theorem hexdigest_form {p : Char → Bool} (h : ∀ n < 16, p (hexDigit n) = true) (b : Bytes) :
    (hexdigest b).toList.length = 64 ∧ (hexdigest b).toList.all p = true := by
  simp only [hexdigest, String.toList_ofList, List.all_append, hexWord_all h, Bool.and_self,
    and_true]
  rfl

example : hexdigest [97, 98, 99] =
    "ba7816bf8f01cfea414140de5dae2223b00361a396177a9cb410ff61f20015ad" := by
  decide +kernel

end ServerlessX.Py.Sha256
