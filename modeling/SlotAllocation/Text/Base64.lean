/-!
# Base64 and bytes as text

`Base64.decode` reads the standard alphabet (`A-Z a-z 0-9 + /`) with `=` padding. Line
breaks (carriage returns and line feeds) anywhere in the text are skipped. Once they are
gone the text must fall into groups of four characters, the last of which may end in `=` or
`==`; nothing may follow the padding. The bits a short last group leaves over are dropped
whatever they are.

`Text.ofBytes` reads bytes as UTF-8; each byte that does not begin a well-formed sequence
(an overlong form, a surrogate, a value past U+10FFFF, a cut-off sequence) becomes one
replacement character U+FFFD and reading goes on with the next byte.
-/

namespace SlotAllocation

namespace Base64

/-- The value of a character of the alphabet. -/
def digit? (c : Char) : Option Nat :=
  if 'A' ≤ c && c ≤ 'Z' then some (c.toNat - 'A'.toNat)
  else if 'a' ≤ c && c ≤ 'z' then some (c.toNat - 'a'.toNat + 26)
  else if '0' ≤ c && c ≤ '9' then some (c.toNat - '0'.toNat + 52)
  else if c == '+' then some 62
  else if c == '/' then some 63
  else none

/-- The bytes of one group: four characters give three bytes, three characters and one
pad two bytes, two characters and two pads one byte. -/
def group : List Char → Option (List UInt8)
  | [a, b, c, d] => do
    let va ← digit? a
    let vb ← digit? b
    if c == '=' && d == '=' then
      pure [UInt8.ofNat ((va * 4 + vb / 16) % 256)]
    else
      let vc ← digit? c
      if d == '=' then
        pure [UInt8.ofNat ((va * 4 + vb / 16) % 256), UInt8.ofNat ((vb * 16 + vc / 4) % 256)]
      else
        let vd ← digit? d
        pure [UInt8.ofNat ((va * 4 + vb / 16) % 256), UInt8.ofNat ((vb * 16 + vc / 4) % 256),
          UInt8.ofNat ((vc * 64 + vd) % 256)]
  | _ => none

/-- Decodes groups of four; only the last group may carry padding. -/
def groups (fuel : Nat) (cs : List Char) : Option (List UInt8) :=
  match fuel, cs with
  | _, [] => some []
  | 0, _ => none
  | fuel + 1, cs =>
    let g := cs.take 4
    let rest := cs.drop 4
    if g.length != 4 || (!rest.isEmpty && g.contains '=') then none
    else do
      let bytes ← group g
      let more ← groups fuel rest
      pure (bytes ++ more)

/-- Decodes base64 text, or none when it is malformed. -/
def decode (s : String) : Option (List UInt8) :=
  let cs := s.toList.filter fun c => c != '\r' && c != '\n'
  groups (cs.length + 1) cs

end Base64

namespace Text

/-- Whether a byte continues a UTF-8 sequence. -/
def isContinuation (b : UInt8) : Bool := 0x80 ≤ b.toNat && b.toNat ≤ 0xBF

/-- The character at the front of UTF-8 bytes and how many bytes it takes, or none when the
first byte begins no well-formed sequence. -/
def utf8Front : List UInt8 → Option (Char × Nat)
  | b0 :: rest =>
    let n0 := b0.toNat
    let inRange (b : UInt8) (lo hi : Nat) : Bool := lo ≤ b.toNat && b.toNat ≤ hi
    if n0 < 0x80 then some (Char.ofNat n0, 1)
    else if 0xC2 ≤ n0 && n0 ≤ 0xDF then
      match rest with
      | b1 :: _ => if isContinuation b1 then some (Char.ofNat ((n0 % 32) * 64 + b1.toNat % 64), 2) else none
      | _ => none
    else if 0xE0 ≤ n0 && n0 ≤ 0xEF then
      let lo := if n0 == 0xE0 then 0xA0 else 0x80
      let hi := if n0 == 0xED then 0x9F else 0xBF
      match rest with
      | b1 :: b2 :: _ =>
        if inRange b1 lo hi && isContinuation b2 then
          some (Char.ofNat ((n0 % 16) * 4096 + (b1.toNat % 64) * 64 + b2.toNat % 64), 3)
        else none
      | _ => none
    else if 0xF0 ≤ n0 && n0 ≤ 0xF4 then
      let lo := if n0 == 0xF0 then 0x90 else 0x80
      let hi := if n0 == 0xF4 then 0x8F else 0xBF
      match rest with
      | b1 :: b2 :: b3 :: _ =>
        if inRange b1 lo hi && isContinuation b2 && isContinuation b3 then
          some (Char.ofNat ((n0 % 8) * 262144 + (b1.toNat % 64) * 4096 + (b2.toNat % 64) * 64 +
            b3.toNat % 64), 4)
        else none
      | _ => none
    else none
  | [] => none

/-- The characters of UTF-8 bytes, a replacement character for each stray byte. -/
def charsOfBytes (fuel : Nat) (bs : List UInt8) : List Char :=
  match fuel, bs with
  | 0, _ => []
  | _, [] => []
  | fuel + 1, b :: rest =>
    match utf8Front (b :: rest) with
    | some (c, n) => c :: charsOfBytes fuel ((b :: rest).drop n)
    | none => Char.ofNat 0xFFFD :: charsOfBytes fuel rest

/-- Bytes read as UTF-8 text. -/
def ofBytes (bs : List UInt8) : String := String.ofList (charsOfBytes (bs.length + 1) bs)

end Text

end SlotAllocation
