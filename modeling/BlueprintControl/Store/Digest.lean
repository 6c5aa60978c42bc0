import BlueprintControl.Uuid

/-!
# Digests of documents

The version of a stored document is the SHA-256 digest of its octets in hexadecimal.

## Main definitions

* `Digest.sha256`: the digest as eight words.
* `Digest.hex`: the digest of octets as 64 hexadecimal digits.
-/
namespace BlueprintControl.Digest

/-- The constants of the 64 rounds. -/
def roundConstants : List UInt32 :=
  [0x428a2f98, 0x71374491, 0xb5c0fbcf, 0xe9b5dba5, 0x3956c25b, 0x59f111f1, 0x923f82a4,
    0xab1c5ed5, 0xd807aa98, 0x12835b01, 0x243185be, 0x550c7dc3, 0x72be5d74, 0x80deb1fe,
    0x9bdc06a7, 0xc19bf174, 0xe49b69c1, 0xefbe4786, 0x0fc19dc6, 0x240ca1cc, 0x2de92c6f,
    0x4a7484aa, 0x5cb0a9dc, 0x76f988da, 0x983e5152, 0xa831c66d, 0xb00327c8, 0xbf597fc7,
    0xc6e00bf3, 0xd5a79147, 0x06ca6351, 0x14292967, 0x27b70a85, 0x2e1b2138, 0x4d2c6dfc,
    0x53380d13, 0x650a7354, 0x766a0abb, 0x81c2c92e, 0x92722c85, 0xa2bfe8a1, 0xa81a664b,
    0xc24b8b70, 0xc76c51a3, 0xd192e819, 0xd6990624, 0xf40e3585, 0x106aa070, 0x19a4c116,
    0x1e376c08, 0x2748774c, 0x34b0bcb5, 0x391c0cb3, 0x4ed8aa4a, 0x5b9cca4f, 0x682e6ff3,
    0x748f82ee, 0x78a5636f, 0x84c87814, 0x8cc70208, 0x90befffa, 0xa4506ceb, 0xbef9a3f7,
    0xc67178f2]

/-- The eight working words. -/
structure Words where
  a : UInt32
  b : UInt32
  c : UInt32
  d : UInt32
  e : UInt32
  f : UInt32
  g : UInt32
  h : UInt32
  deriving DecidableEq, Repr

/-- The words before the first block. -/
def initial : Words :=
  ⟨0x6a09e667, 0xbb67ae85, 0x3c6ef372, 0xa54ff53a, 0x510e527f, 0x9b05688c, 0x1f83d9ab,
    0x5be0cd19⟩

/-- Rotation to the right. -/
def rotate (x : UInt32) (n : UInt32) : UInt32 := (x >>> n) ||| (x <<< (32 - n))

/-- The octets with a closing bit, zeros up to a multiple of 64, and the length in bits. -/
def padded (content : List UInt8) : List UInt8 :=
  let n := content.length
  let zeros := (119 - n % 64) % 64
  let bits := n * 8
  let length : List UInt8 := (List.range 8).map fun i => Nat.toUInt8 (bits >>> (56 - 8 * i))
  content ++ 0x80 :: List.replicate zeros 0 ++ length

/-- Four octets as a word, highest first. -/
def word (bs : List UInt8) : UInt32 := bs.foldl (fun w b => (w <<< 8) ||| b.toUInt32) 0

/-- Cuts a list into pieces of a length. -/
def pieces {α : Type} (size : Nat) (xs : List α) : Nat → List (List α)
  | 0 => []
  | fuel + 1 =>
    if xs.isEmpty then [] else xs.take size :: pieces size (xs.drop size) fuel

/-- The next word of a message schedule, kept with its latest word first. -/
def nextWord (ws : List UInt32) : UInt32 :=
  let word? (i : Nat) : UInt32 := ws[i]?.getD 0
  let x := word? 14
  let y := word? 1
  let s0 := rotate x 7 ^^^ rotate x 18 ^^^ (x >>> 3)
  let s1 := rotate y 17 ^^^ rotate y 19 ^^^ (y >>> 10)
  word? 15 + s0 + word? 6 + s1

/-- Extends a message schedule, latest word first. -/
def extend (ws : List UInt32) : Nat → List UInt32
  | 0 => ws
  | n + 1 => extend (nextWord ws :: ws) n

/-- One round. -/
def round (s : Words) (kw : UInt32 × UInt32) : Words :=
  let s1 := rotate s.e 6 ^^^ rotate s.e 11 ^^^ rotate s.e 25
  let ch := (s.e &&& s.f) ^^^ (~~~s.e &&& s.g)
  let t1 := s.h + s1 + ch + kw.1 + kw.2
  let s0 := rotate s.a 2 ^^^ rotate s.a 13 ^^^ rotate s.a 22
  let maj := (s.a &&& s.b) ^^^ (s.a &&& s.c) ^^^ (s.b &&& s.c)
  ⟨t1 + (s0 + maj), s.a, s.b, s.c, s.d + t1, s.e, s.f, s.g⟩

/-- Takes in a block of 64 octets. -/
def block (s : Words) (bs : List UInt8) : Words :=
  let ws := (extend ((pieces 4 bs 16).map word).reverse 48).reverse
  let t := (roundConstants.zip ws).foldl round s
  ⟨s.a + t.a, s.b + t.b, s.c + t.c, s.d + t.d, s.e + t.e, s.f + t.f, s.g + t.g, s.h + t.h⟩

/-- The digest of octets. -/
def sha256 (content : List UInt8) : Words :=
  let bs := padded content
  (pieces 64 bs (bs.length / 64)).foldl block initial

/-- Eight hexadecimal digits of a word. -/
def wordText (w : UInt32) : List Char :=
  (List.range 8).map fun i => hexDigit (hexPart (w.toNat / Nat.pow 16 (7 - i)))

/-- The digest of octets as 64 hexadecimal digits. -/
def hex (content : ByteArray) : String :=
  let s := sha256 content.toList
  String.ofList ([s.a, s.b, s.c, s.d, s.e, s.f, s.g, s.h].flatMap wordText)

end BlueprintControl.Digest
