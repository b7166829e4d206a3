import SlotAllocation.Digest.Sha1

/-!
# Name-based identifiers

A name-based identifier (version 5 of RFC 4122) is the first sixteen bytes of the SHA-1
digest of a namespace identifier followed by the name, with the version nibble set to 5 and
the variant bits to `10`. It is written as 32 lower-case hexadecimal digits in groups of 8,
4, 4, 4 and 12. The same name always gives the same identifier, which is what makes
repeated deliveries of one notification recognisable.
-/

namespace SlotAllocation.NameId

/-- The namespace of object identifiers, `6ba7b812-9dad-11d1-80b4-00c04fd430c8`. -/
def objectSpace : List UInt8 :=
  [0x6b, 0xa7, 0xb8, 0x12, 0x9d, 0xad, 0x11, 0xd1, 0x80, 0xb4, 0x00, 0xc0, 0x4f, 0xd4, 0x30, 0xc8]

/-- The bytes of the identifier of `name` in `space`. -/
def bytes (space : List UInt8) (name : List UInt8) : List UInt8 :=
  let d := (Sha1.digest (space ++ name)).take 16
  d.zipIdx.map fun (b, i) =>
    if i == 6 then (b &&& 0x0f) ||| 0x50
    else if i == 8 then (b &&& 0x3f) ||| 0x80
    else b

/-- A hexadecimal digit. -/
def hexDigit (n : Nat) : Char := "0123456789abcdef".toList.getD n '0'

/-- Two hexadecimal digits of a byte. -/
def hexByte (b : UInt8) : String := String.ofList [hexDigit (b.toNat / 16), hexDigit (b.toNat % 16)]

/-- An identifier in its written form. -/
def format (bs : List UInt8) : String :=
  let hex := fun (start stop : Nat) => String.join ((bs.drop start |>.take (stop - start)).map hexByte)
  hex 0 4 ++ "-" ++ hex 4 6 ++ "-" ++ hex 6 8 ++ "-" ++ hex 8 10 ++ "-" ++ hex 10 16

/-- The written identifier of a text name in the namespace of object identifiers. -/
def ofName (name : String) : String := format (bytes objectSpace name.toUTF8.toList)

end SlotAllocation.NameId
