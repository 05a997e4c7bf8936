/-
  File:      Aios/Lib/Sha256.lean
  Subject:   SHA-256, as a function the kernel can run.

  Words are natural numbers below 2^32, so that every operation of a round is one the kernel computes
  on literals. A development that is proved over an arbitrary digest runs its samples on this one.
-/
import Aios.Lib.Digest

namespace Lib.Sha256

def modulus : Nat := 4294967296

/-- A rotation to the right; the complement of `n` is given, so that nothing is computed twice. -/
def rotr (x n m : Nat) : Nat := Nat.lor (Nat.shiftRight x n) (Nat.mod (Nat.shiftLeft x m) modulus)

def xor3 (a b c : Nat) : Nat := Nat.xor (Nat.xor a b) c

/-- The round constants. -/
def constants : List Nat := [
  0x428a2f98, 0x71374491, 0xb5c0fbcf, 0xe9b5dba5, 0x3956c25b, 0x59f111f1, 0x923f82a4, 0xab1c5ed5,
  0xd807aa98, 0x12835b01, 0x243185be, 0x550c7dc3, 0x72be5d74, 0x80deb1fe, 0x9bdc06a7, 0xc19bf174,
  0xe49b69c1, 0xefbe4786, 0x0fc19dc6, 0x240ca1cc, 0x2de92c6f, 0x4a7484aa, 0x5cb0a9dc, 0x76f988da,
  0x983e5152, 0xa831c66d, 0xb00327c8, 0xbf597fc7, 0xc6e00bf3, 0xd5a79147, 0x06ca6351, 0x14292967,
  0x27b70a85, 0x2e1b2138, 0x4d2c6dfc, 0x53380d13, 0x650a7354, 0x766a0abb, 0x81c2c92e, 0x92722c85,
  0xa2bfe8a1, 0xa81a664b, 0xc24b8b70, 0xc76c51a3, 0xd192e819, 0xd6990624, 0xf40e3585, 0x106aa070,
  0x19a4c116, 0x1e376c08, 0x2748774c, 0x34b0bcb5, 0x391c0cb3, 0x4ed8aa4a, 0x5b9cca4f, 0x682e6ff3,
  0x748f82ee, 0x78a5636f, 0x84c87814, 0x8cc70208, 0x90befffa, 0xa4506ceb, 0xbef9a3f7, 0xc67178f2]

/-- The eight working words. -/
structure State where
  a : Nat
  b : Nat
  c : Nat
  d : Nat
  e : Nat
  f : Nat
  g : Nat
  h : Nat

def start : State :=
  ⟨0x6a09e667, 0xbb67ae85, 0x3c6ef372, 0xa54ff53a, 0x510e527f, 0x9b05688c, 0x1f83d9ab, 0x5be0cd19⟩

def choose (e f g : Nat) : Nat := Nat.xor (Nat.land e f) (Nat.land (Nat.xor e 0xffffffff) g)
def majority (a b c : Nat) : Nat := xor3 (Nat.land a b) (Nat.land a c) (Nat.land b c)
def bigSigma0 (a : Nat) : Nat := xor3 (rotr a 2 30) (rotr a 13 19) (rotr a 22 10)
def bigSigma1 (e : Nat) : Nat := xor3 (rotr e 6 26) (rotr e 11 21) (rotr e 25 7)
def smallSigma0 (x : Nat) : Nat := xor3 (rotr x 7 25) (rotr x 18 14) (Nat.shiftRight x 3)
def smallSigma1 (x : Nat) : Nat := xor3 (rotr x 17 15) (rotr x 19 13) (Nat.shiftRight x 10)

def sum4 (a b c d : Nat) : Nat := Nat.add (Nat.add a b) (Nat.add c d)

/-- One round, with the sum of its constant and its word. -/
def round (s : State) (kw : Nat) : State :=
  let t := sum4 s.h (bigSigma1 s.e) (choose s.e s.f s.g) kw
  let u := Nat.add (bigSigma0 s.a) (majority s.a s.b s.c)
  ⟨Nat.mod (Nat.add t u) modulus, s.a, s.b, s.c, Nat.mod (Nat.add s.d t) modulus, s.e, s.f, s.g⟩

/-- The message schedule, the last word first. -/
def extend : Nat → List Nat → List Nat
  | 0, words => words
  | n + 1, words =>
      match words with
      | w15 :: w14 :: w13 :: w12 :: w11 :: w10 :: w9 :: w8 :: w7 :: w6 :: w5 :: w4 :: w3 :: w2 :: w1 ::
          w0 :: rest =>
          let next := Nat.mod (sum4 (smallSigma1 w14) w9 (smallSigma0 w1) w0) modulus
          extend n (next :: w15 :: w14 :: w13 :: w12 :: w11 :: w10 :: w9 :: w8 :: w7 :: w6 :: w5 ::
            w4 :: w3 :: w2 :: w1 :: w0 :: rest)
      | _ => words

def rounds : List Nat → List Nat → State → State
  | k :: ks, w :: ws, s => rounds ks ws (round s (Nat.add k w))
  | _, _, s => s

def block (s : State) (words : List Nat) : State :=
  let t := rounds constants (extend 48 words.reverse).reverse s
  ⟨(s.a + t.a) % modulus, (s.b + t.b) % modulus, (s.c + t.c) % modulus, (s.d + t.d) % modulus,
    (s.e + t.e) % modulus, (s.f + t.f) % modulus, (s.g + t.g) % modulus, (s.h + t.h) % modulus⟩

/-- Four bytes a word. -/
def toWords : List UInt8 → List Nat
  | a :: b :: c :: d :: rest =>
      (a.toNat * 16777216 + b.toNat * 65536 + c.toNat * 256 + d.toNat) :: toWords rest
  | _ => []

def blocks : Nat → List Nat → State → State
  | 0, _, s => s
  | n + 1, words, s => blocks n (words.drop 16) (block s (words.take 16))

/-- A one bit, zeros, and the length in bits. -/
def padded (bytes : List UInt8) : List UInt8 :=
  let zeros := (119 - bytes.length % 64) % 64
  bytes ++ [128] ++ List.replicate zeros 0 ++
    (List.range 8).map fun i => UInt8.ofNat (8 * bytes.length / 256 ^ (7 - i))

def fromWord (w : Nat) : List UInt8 :=
  [UInt8.ofNat (w / 16777216), UInt8.ofNat (w / 65536), UInt8.ofNat (w / 256), UInt8.ofNat w]

def sha256 (bytes : List UInt8) : List UInt8 :=
  let words := toWords (padded bytes)
  let s := blocks (words.length / 16) words start
  fromWord s.a ++ fromWord s.b ++ fromWord s.c ++ fromWord s.d ++ fromWord s.e ++ fromWord s.f ++
    fromWord s.g ++ fromWord s.h

theorem length_sha256 (bytes : List UInt8) : (sha256 bytes).length = 32 := rfl

end Lib.Sha256
