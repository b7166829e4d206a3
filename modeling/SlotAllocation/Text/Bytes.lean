/-!
# Cutting text at a byte count

`byteCut s n` keeps the first `n` bytes of the UTF-8 form of `s`. A character whose bytes are
cut apart leaves one replacement character (U+FFFD) for each of its bytes that was kept, as
a reader of the cut bytes that replaces each invalid byte sees them.
-/

namespace SlotAllocation.Text

/-- The first `n` bytes of `cs`, as characters and replacement characters. -/
def byteCutChars (n : Nat) : List Char → List Char
  | [] => []
  | c :: rest =>
    let w := c.utf8Size
    if w ≤ n then c :: byteCutChars (n - w) rest
    else List.replicate n (Char.ofNat 0xFFFD)

/-- The first `n` bytes of the UTF-8 form of `s`. -/
def byteCut (s : String) (n : Nat) : String := String.ofList (byteCutChars n s.toList)

end SlotAllocation.Text
