import DuplicateGuard.Number.Double

set_option autoImplicit false

namespace DuplicateGuard.Sha256

def roundConstants : List UInt32 := [
  0x428a2f98, 0x71374491, 0xb5c0fbcf, 0xe9b5dba5, 0x3956c25b, 0x59f111f1, 0x923f82a4, 0xab1c5ed5,
  0xd807aa98, 0x12835b01, 0x243185be, 0x550c7dc3, 0x72be5d74, 0x80deb1fe, 0x9bdc06a7, 0xc19bf174,
  0xe49b69c1, 0xefbe4786, 0x0fc19dc6, 0x240ca1cc, 0x2de92c6f, 0x4a7484aa, 0x5cb0a9dc, 0x76f988da,
  0x983e5152, 0xa831c66d, 0xb00327c8, 0xbf597fc7, 0xc6e00bf3, 0xd5a79147, 0x06ca6351, 0x14292967,
  0x27b70a85, 0x2e1b2138, 0x4d2c6dfc, 0x53380d13, 0x650a7354, 0x766a0abb, 0x81c2c92e, 0x92722c85,
  0xa2bfe8a1, 0xa81a664b, 0xc24b8b70, 0xc76c51a3, 0xd192e819, 0xd6990624, 0xf40e3585, 0x106aa070,
  0x19a4c116, 0x1e376c08, 0x2748774c, 0x34b0bcb5, 0x391c0cb3, 0x4ed8aa4a, 0x5b9cca4f, 0x682e6ff3,
  0x748f82ee, 0x78a5636f, 0x84c87814, 0x8cc70208, 0x90befffa, 0xa4506ceb, 0xbef9a3f7, 0xc67178f2]

structure Words where
  a : UInt32
  b : UInt32
  c : UInt32
  d : UInt32
  e : UInt32
  f : UInt32
  g : UInt32
  h : UInt32

def Words.initial : Words :=
  ⟨0x6a09e667, 0xbb67ae85, 0x3c6ef372, 0xa54ff53a,
   0x510e527f, 0x9b05688c, 0x1f83d9ab, 0x5be0cd19⟩

def Words.add (x y : Words) : Words :=
  ⟨x.a + y.a, x.b + y.b, x.c + y.c, x.d + y.d, x.e + y.e, x.f + y.f, x.g + y.g, x.h + y.h⟩

def Words.toList (x : Words) : List UInt32 :=
  [x.a, x.b, x.c, x.d, x.e, x.f, x.g, x.h]

def rotateRight (x : UInt32) (n : UInt32) : UInt32 :=
  (x >>> n) ||| (x <<< (32 - n))

def round (s : Words) (word constant : UInt32) : Words :=
  let mixE := rotateRight s.e 6 ^^^ rotateRight s.e 11 ^^^ rotateRight s.e 25
  let choice := (s.e &&& s.f) ^^^ ((s.e ^^^ 0xffffffff) &&& s.g)
  let first := s.h + mixE + choice + constant + word
  let mixA := rotateRight s.a 2 ^^^ rotateRight s.a 13 ^^^ rotateRight s.a 22
  let majority := (s.a &&& s.b) ^^^ (s.a &&& s.c) ^^^ (s.b &&& s.c)
  ⟨first + (mixA + majority), s.a, s.b, s.c, s.d + first, s.e, s.f, s.g⟩

/-- The next word of a schedule that is held with its newest word first. -/
def nextWord (newest : List UInt32) : UInt32 :=
  let word (n : Nat) := newest.getD n 0
  let low := rotateRight (word 14) 7 ^^^ rotateRight (word 14) 18 ^^^ (word 14 >>> 3)
  let high := rotateRight (word 1) 17 ^^^ rotateRight (word 1) 19 ^^^ (word 1 >>> 10)
  high + word 6 + low + word 15

def extend : Nat → List UInt32 → List UInt32
  | 0, newest => newest
  | more + 1, newest => extend more (nextWord newest :: newest)

def schedule (block : List UInt32) : List UInt32 :=
  (extend 48 block.reverse).reverse

def compress (words : Words) (block : List UInt32) : Words :=
  let mixed := ((schedule block).zip roundConstants).foldl (fun s (word, k) => round s word k) words
  words.add mixed

def bigEndian (count n : Nat) : List UInt8 :=
  (List.range count).map fun i => UInt8.ofNat (n / twoTo (8 * (count - 1 - i)))

def padded (bytes : List UInt8) : List UInt8 :=
  let fill := (64 - (bytes.length + 9) % 64) % 64
  bytes ++ [0x80] ++ List.replicate fill 0 ++ bigEndian 8 (8 * bytes.length)

def chunks {α : Type} (size : Nat) : Nat → List α → List (List α)
  | 0, _ => []
  | more + 1, items =>
    if items.isEmpty then [] else items.take size :: chunks size more (items.drop size)

def wordOfBytes (bytes : List UInt8) : UInt32 :=
  bytes.foldl (fun word byte => word * 256 + byte.toUInt32) 0

def digest (bytes : List UInt8) : Words :=
  let full := padded bytes
  let words := (chunks 4 full.length full).map wordOfBytes
  (chunks 16 words.length words).foldl compress Words.initial

def hexDigits : List Char :=
  "0123456789abcdef".toList

def wordHex (word : UInt32) : List Char :=
  (List.range 8).map fun i => hexDigits.getD (word.toNat / twoTo (4 * (7 - i)) % 16) '0'

def hexOfText (text : String) : String :=
  String.ofList ((digest text.toUTF8.toList).toList.flatMap wordHex)

end DuplicateGuard.Sha256
