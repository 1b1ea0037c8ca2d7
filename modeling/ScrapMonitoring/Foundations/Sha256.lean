import ScrapMonitoring.Foundations.Frames
import ScrapMonitoring.Foundations.Hex

/-!
# SHA-256

`sha256` is the digest of a byte string as `hashlib.sha256` computes it, on words of 32 bits.
-/

namespace ScrapMonitoring

namespace Sha256

/-- The eight words of the state. -/
structure State where
  a : UInt32
  b : UInt32
  c : UInt32
  d : UInt32
  e : UInt32
  f : UInt32
  g : UInt32
  h : UInt32

def initial : State :=
  ⟨0x6a09e667, 0xbb67ae85, 0x3c6ef372, 0xa54ff53a, 0x510e527f, 0x9b05688c, 0x1f83d9ab, 0x5be0cd19⟩

def constants : List UInt32 :=
  [0x428a2f98, 0x71374491, 0xb5c0fbcf, 0xe9b5dba5, 0x3956c25b, 0x59f111f1, 0x923f82a4,
    0xab1c5ed5, 0xd807aa98, 0x12835b01, 0x243185be, 0x550c7dc3, 0x72be5d74, 0x80deb1fe,
    0x9bdc06a7, 0xc19bf174, 0xe49b69c1, 0xefbe4786, 0x0fc19dc6, 0x240ca1cc, 0x2de92c6f,
    0x4a7484aa, 0x5cb0a9dc, 0x76f988da, 0x983e5152, 0xa831c66d, 0xb00327c8, 0xbf597fc7,
    0xc6e00bf3, 0xd5a79147, 0x06ca6351, 0x14292967, 0x27b70a85, 0x2e1b2138, 0x4d2c6dfc,
    0x53380d13, 0x650a7354, 0x766a0abb, 0x81c2c92e, 0x92722c85, 0xa2bfe8a1, 0xa81a664b,
    0xc24b8b70, 0xc76c51a3, 0xd192e819, 0xd6990624, 0xf40e3585, 0x106aa070, 0x19a4c116,
    0x1e376c08, 0x2748774c, 0x34b0bcb5, 0x391c0cb3, 0x4ed8aa4a, 0x5b9cca4f, 0x682e6ff3,
    0x748f82ee, 0x78a5636f, 0x84c87814, 0x8cc70208, 0x90befffa, 0xa4506ceb, 0xbef9a3f7,
    0xc67178f2]

def rotateRight (x n : UInt32) : UInt32 := (x >>> n) ||| (x <<< (32 - n))

/-- One round, with the sum of its constant and its word of the schedule. -/
def round (s : State) (word : UInt32) : State :=
  let sum1 := rotateRight s.e 6 ^^^ rotateRight s.e 11 ^^^ rotateRight s.e 25
  let choice := (s.e &&& s.f) ^^^ (~~~s.e &&& s.g)
  let t1 := s.h + sum1 + choice + word
  let sum0 := rotateRight s.a 2 ^^^ rotateRight s.a 13 ^^^ rotateRight s.a 22
  let majority := (s.a &&& s.b) ^^^ (s.a &&& s.c) ^^^ (s.b &&& s.c)
  ⟨t1 + sum0 + majority, s.a, s.b, s.c, s.d + t1, s.e, s.f, s.g⟩

/-- The next words of the schedule, from the last sixteen. -/
def schedule : ℕ → List UInt32 → List UInt32
  | 0, _ => []
  | n + 1, words =>
    let w1 := words.getD 1 0
    let w14 := words.getD 14 0
    let sigma0 := rotateRight w1 7 ^^^ rotateRight w1 18 ^^^ (w1 >>> 3)
    let sigma1 := rotateRight w14 17 ^^^ rotateRight w14 19 ^^^ (w14 >>> 10)
    let next := words.getD 0 0 + sigma0 + words.getD 9 0 + sigma1
    words.getD 0 0 :: schedule n (words.drop 1 ++ [next])

def State.add (s t : State) : State :=
  ⟨s.a + t.a, s.b + t.b, s.c + t.c, s.d + t.d, s.e + t.e, s.f + t.f, s.g + t.g, s.h + t.h⟩

/-- The state after a block of sixteen words. -/
def compress (s : State) (block : List UInt32) : State :=
  s.add ((constants.zipWith (· + ·) (schedule 64 block)).foldl round s)

def words : List UInt8 → List UInt32
  | b₀ :: b₁ :: b₂ :: b₃ :: bytes =>
    (b₀.toUInt32 <<< 24 ||| b₁.toUInt32 <<< 16 ||| b₂.toUInt32 <<< 8 ||| b₃.toUInt32) :: words bytes
  | _ => []

/-- The message with a one, zeros up to a full block, and its length in bits. -/
def padded (message : List UInt8) : List UInt8 :=
  message ++ 0x80 :: List.replicate ((119 - message.length % 64) % 64) 0 ++
    toBytes 8 (8 * message.length)

/-- The state after `n` blocks. -/
def compressAll : ℕ → State → List UInt32 → State
  | 0, s, _ => s
  | n + 1, s, message => compressAll n (compress s (message.take 16)) (message.drop 16)

end Sha256

open Sha256 in
/-- `hashlib.sha256(message).hexdigest()` -/
def sha256 (message : List UInt8) : String :=
  let blocks := words (padded message)
  let s := compressAll (blocks.length / 16) initial blocks
  String.ofList ([s.a, s.b, s.c, s.d, s.e, s.f, s.g, s.h].flatMap fun word =>
    padHex 8 word.toNat)

example : sha256 [97, 98, 99] =
    "ba7816bf8f01cfea414140de5dae2223b00361a396177a9cb410ff61f20015ad" := by decide +kernel

end ScrapMonitoring
