/-!
# SHA-1

The SHA-1 digest of a byte string (FIPS 180-4): the message is padded with a `1` bit,
zeros and its bit length to a whole number of 64-byte blocks, and each block is mixed into
five 32-bit words over eighty rounds. The digest is the twenty bytes of the final words,
most significant byte first.

Name-based identifiers are derived from it (`NameId`); nothing here is used for security.
-/

namespace SlotAllocation.Sha1

/-- The five words the digest starts from. -/
def initial : List UInt32 := [0x67452301, 0xEFCDAB89, 0x98BADCFE, 0x10325476, 0xC3D2E1F0]

/-- Rotates a word left by `n` bits. -/
def rotl (x : UInt32) (n : UInt32) : UInt32 := (x <<< n) ||| (x >>> (32 - n))

/-- The message padded to whole blocks: a `0x80` byte, zeros up to 56 bytes past a block
boundary, and the bit length as eight bytes. -/
def pad (msg : List UInt8) : List UInt8 :=
  let len := msg.length
  let zeros := (119 - len % 64) % 64
  let bits := len * 8
  msg ++ [0x80] ++ List.replicate zeros (0 : UInt8) ++
    (List.range 8).reverse.map fun (i : Nat) => Nat.toUInt8 ((bits >>> (8 * i)) % 256)

/-- The big-endian word at byte `i` of a block. -/
def wordAt (block : Array UInt8) (i : Nat) : UInt32 :=
  (List.range 4).foldl (fun w k => (w <<< 8) ||| (block.getD (i + k) 0).toUInt32) 0

/-- The eighty words of the message schedule of a block. -/
def schedule (block : Array UInt8) : Array UInt32 :=
  let first := (List.range 16).toArray.map fun i => wordAt block (4 * i)
  (List.range' 16 64).foldl (fun w i =>
    w.push (rotl (w.getD (i - 3) 0 ^^^ w.getD (i - 8) 0 ^^^ w.getD (i - 14) 0 ^^^
      w.getD (i - 16) 0) 1)) first

/-- The round function and constant of round `t`. -/
def mix (t : Nat) (b c d : UInt32) : UInt32 × UInt32 :=
  if t < 20 then ((b &&& c) ||| (~~~b &&& d), 0x5A827999)
  else if t < 40 then (b ^^^ c ^^^ d, 0x6ED9EBA1)
  else if t < 60 then ((b &&& c) ||| (b &&& d) ||| (c &&& d), 0x8F1BBCDC)
  else (b ^^^ c ^^^ d, 0xCA62C1D6)

/-- Mixes one block into the five words. -/
def compress (h : List UInt32) (block : Array UInt8) : List UInt32 :=
  let w := schedule block
  match h with
  | [h0, h1, h2, h3, h4] =>
    let (a, b, c, d, e) := (List.range 80).foldl (fun (s : UInt32 × UInt32 × UInt32 × UInt32 × UInt32) t =>
      let (a, b, c, d, e) := s
      let (f, k) := mix t b c d
      let temp := rotl a 5 + f + e + k + w.getD t 0
      (temp, a, rotl b 30, c, d)) (h0, h1, h2, h3, h4)
    [h0 + a, h1 + b, h2 + c, h3 + d, h4 + e]
  | other => other

/-- The twenty-byte digest of a message. -/
def digest (msg : List UInt8) : List UInt8 :=
  let padded := (pad msg).toArray
  let blocks := (List.range (padded.size / 64)).map fun b => padded.extract (64 * b) (64 * b + 64)
  let h := blocks.foldl compress initial
  h.flatMap fun (x : UInt32) => [(x >>> 24).toUInt8, (x >>> 16).toUInt8, (x >>> 8).toUInt8, x.toUInt8]

end SlotAllocation.Sha1
