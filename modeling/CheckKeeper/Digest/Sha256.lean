import CheckKeeper.Text.Quoted

namespace CheckKeeper.Digest

/-! The hash function SHA-256.

A message is filled up to whole blocks of 64 bytes, and each block is stirred into
a state of eight words.
-/

def roundConstants : List UInt32 :=
  [0x428a2f98, 0x71374491, 0xb5c0fbcf, 0xe9b5dba5, 0x3956c25b, 0x59f111f1, 0x923f82a4, 0xab1c5ed5,
    0xd807aa98, 0x12835b01, 0x243185be, 0x550c7dc3, 0x72be5d74, 0x80deb1fe, 0x9bdc06a7, 0xc19bf174,
    0xe49b69c1, 0xefbe4786, 0x0fc19dc6, 0x240ca1cc, 0x2de92c6f, 0x4a7484aa, 0x5cb0a9dc, 0x76f988da,
    0x983e5152, 0xa831c66d, 0xb00327c8, 0xbf597fc7, 0xc6e00bf3, 0xd5a79147, 0x06ca6351, 0x14292967,
    0x27b70a85, 0x2e1b2138, 0x4d2c6dfc, 0x53380d13, 0x650a7354, 0x766a0abb, 0x81c2c92e, 0x92722c85,
    0xa2bfe8a1, 0xa81a664b, 0xc24b8b70, 0xc76c51a3, 0xd192e819, 0xd6990624, 0xf40e3585, 0x106aa070,
    0x19a4c116, 0x1e376c08, 0x2748774c, 0x34b0bcb5, 0x391c0cb3, 0x4ed8aa4a, 0x5b9cca4f, 0x682e6ff3,
    0x748f82ee, 0x78a5636f, 0x84c87814, 0x8cc70208, 0x90befffa, 0xa4506ceb, 0xbef9a3f7, 0xc67178f2]

/-- The state of the function between two blocks. -/
structure State where
  a : UInt32
  b : UInt32
  c : UInt32
  d : UInt32
  e : UInt32
  f : UInt32
  g : UInt32
  h : UInt32
deriving DecidableEq, Repr

def State.start : State :=
  ⟨0x6a09e667, 0xbb67ae85, 0x3c6ef372, 0xa54ff53a, 0x510e527f, 0x9b05688c, 0x1f83d9ab, 0x5be0cd19⟩

def State.add (s t : State) : State :=
  ⟨s.a + t.a, s.b + t.b, s.c + t.c, s.d + t.d, s.e + t.e, s.f + t.f, s.g + t.g, s.h + t.h⟩

def State.words (s : State) : List UInt32 :=
  [s.a, s.b, s.c, s.d, s.e, s.f, s.g, s.h]

def rotateRight (x n : UInt32) : UInt32 :=
  (x >>> n) ||| (x <<< (32 - n))

/-- One of the 64 rounds, with its constant and its word of the schedule added. -/
def State.round (s : State) (added : UInt32) : State :=
  let sumE := rotateRight s.e 6 ^^^ rotateRight s.e 11 ^^^ rotateRight s.e 25
  let choice := (s.e &&& s.f) ^^^ ((~~~s.e) &&& s.g)
  let first := s.h + sumE + choice + added
  let sumA := rotateRight s.a 2 ^^^ rotateRight s.a 13 ^^^ rotateRight s.a 22
  let majority := (s.a &&& s.b) ^^^ (s.a &&& s.c) ^^^ (s.b &&& s.c)
  ⟨first + (sumA + majority), s.a, s.b, s.c, s.d + first, s.e, s.f, s.g⟩

/-- The next word of a schedule whose last sixteen words are given, latest first. -/
def nextWord (latest : List UInt32) : UInt32 :=
  let near := latest.getD 1 0
  let far := latest.getD 14 0
  let sumFar := rotateRight far 7 ^^^ rotateRight far 18 ^^^ (far >>> 3)
  let sumNear := rotateRight near 17 ^^^ rotateRight near 19 ^^^ (near >>> 10)
  latest.getD 15 0 + sumFar + latest.getD 6 0 + sumNear

/-- Appends `count` words to a schedule that is kept latest first. -/
def extendSchedule : Nat → List UInt32 → List UInt32
  | 0, latest => latest
  | count + 1, latest => extendSchedule count (nextWord latest :: latest)

def wordOfBytes (bytes : List UInt8) : UInt32 :=
  bytes.foldl (fun word byte => (word <<< 8) ||| byte.toUInt32) 0

/-- Cuts a list into `count` parts of `width` items. -/
def cutParts {α : Type} (width : Nat) : Nat → List α → List (List α)
  | 0, _ => []
  | count + 1, items => items.take width :: cutParts width count (items.drop width)

def State.absorb (s : State) (block : List UInt8) : State :=
  let schedule := (extendSchedule 48 ((cutParts 4 16 block).map wordOfBytes).reverse).reverse
  let stirred := (schedule.zip roundConstants).foldl (fun t (word, constant) => t.round (constant + word)) s
  s.add stirred

/-- The `count` lowest bytes of a number, highest first. -/
def bytesOfNat : Nat → Nat → List UInt8
  | 0, _ => []
  | count + 1, n => bytesOfNat count (n / 256) ++ [UInt8.ofNat n]

/-- The message with a one bit, noughts and its length in bits behind it. -/
def pad (message : List UInt8) : List UInt8 :=
  let noughts := (119 - message.length % 64) % 64
  message ++ 0x80 :: List.replicate noughts 0 ++ bytesOfNat 8 (message.length * 8)

def sha256 (message : List UInt8) : State :=
  let padded := pad message
  (cutParts 64 (padded.length / 64) padded).foldl State.absorb State.start

/-- The digest of a text in UTF-8, in hexadecimal digits. -/
def sha256Hex (text : String) : String :=
  String.ofList ((sha256 text.toUTF8.toList).words.flatMap fun word => Text.hexDigits 8 word.toNat)

end CheckKeeper.Digest
