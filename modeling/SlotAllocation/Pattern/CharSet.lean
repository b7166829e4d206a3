import SlotAllocation.Text.Unicode

/-!
# Sets of characters

A `CharSet` is a list of inclusive ranges of code points. Patterns build them from literals,
ranges in brackets, the dot, the named classes and their negations; matching asks whether a
character falls in some range.

The named classes:

* the three escapes `\d` (digits), `\s` (tab, line feed, form feed, carriage return and
  space) and `\w` (letters, digits and `_`), all ASCII;
* the bracket names `[:alnum:]`, `[:alpha:]`, `[:ascii:]`, `[:blank:]`, `[:cntrl:]`,
  `[:digit:]`, `[:graph:]`, `[:lower:]`, `[:print:]`, `[:punct:]`, `[:space:]`, `[:upper:]`,
  `[:word:]` and `[:xdigit:]`, all ASCII;
* the Unicode names after `\p`: `Any`, the general categories and the scripts of Unicode
  15.0.0 (`Text.Unicode`).

Case folding maps a set to the set of all characters equal to one of its members under the
simple case folding of Unicode 15.0.0.
-/

namespace SlotAllocation.Pattern

/-- The largest code point. -/
def maxCode : Nat := 0x10FFFF

/-- A set of characters as inclusive ranges of code points. -/
structure CharSet where
  ranges : List (Nat × Nat)
deriving Repr, Inhabited

namespace CharSet

/-- The empty set. -/
def empty : CharSet := ⟨[]⟩

/-- Every character. -/
def any : CharSet := ⟨[(0, maxCode)]⟩

/-- One character. -/
def single (c : Char) : CharSet := ⟨[(c.toNat, c.toNat)]⟩

/-- The characters from `lo` to `hi`. -/
def range (lo hi : Nat) : CharSet := ⟨[(lo, hi)]⟩

/-- The union of two sets. -/
def union (a b : CharSet) : CharSet := ⟨a.ranges ++ b.ranges⟩

/-- Whether a character is in the set. -/
def contains (s : CharSet) (c : Char) : Bool :=
  s.ranges.any fun (lo, hi) => lo ≤ c.toNat && c.toNat ≤ hi

/-- Merges sorted ranges that overlap or touch. -/
def mergeSorted : List (Nat × Nat) → List (Nat × Nat)
  | (a, b) :: (c, d) :: rest =>
    if c ≤ b + 1 then mergeSorted ((a, max b d) :: rest)
    else (a, b) :: mergeSorted ((c, d) :: rest)
  | rs => rs
termination_by rs => rs.length

/-- The ranges in ascending order, disjoint and not touching. -/
def normal (s : CharSet) : List (Nat × Nat) :=
  mergeSorted ((s.ranges.filter fun (lo, hi) => lo ≤ hi).mergeSort fun a b => a.1 ≤ b.1)

/-- The gaps between sorted disjoint ranges, from `start` to the largest code point. -/
def gaps (start : Nat) : List (Nat × Nat) → List (Nat × Nat)
  | [] => if start ≤ maxCode then [(start, maxCode)] else []
  | (lo, hi) :: rest => (if start < lo then [(start, lo - 1)] else []) ++ gaps (hi + 1) rest

/-- The characters not in the set. -/
def complement (s : CharSet) : CharSet := ⟨gaps 0 s.normal⟩

/-- The set with every character added that equals one of its members under simple case
folding. -/
def folded (s : CharSet) : CharSet :=
  let added := Text.foldClasses.filter fun cls =>
    cls.any fun c => s.ranges.any fun (lo, hi) => lo ≤ c && c ≤ hi
  ⟨s.ranges ++ added.flatMap fun cls => cls.map fun c => (c, c)⟩

/-- Digits. -/
def digits : CharSet := range 0x30 0x39

/-- The blanks of `\s`: tab, line feed, form feed, carriage return and space. -/
def perlSpace : CharSet := ⟨[(0x09, 0x0A), (0x0C, 0x0D), (0x20, 0x20)]⟩

/-- Letters, digits and `_`. -/
def wordChars : CharSet := ⟨[(0x30, 0x39), (0x41, 0x5A), (0x5F, 0x5F), (0x61, 0x7A)]⟩

/-- Whether a character counts as part of a word for the word-boundary assertions. -/
def isWordChar (c : Char) : Bool := wordChars.contains c

/-- The class of a letter after a backslash (`d`, `s`, `w`), with whether it is negated
(the upper-case letters `D`, `S`, `W`). -/
def perlClass? : Char → Option (CharSet × Bool)
  | 'd' => some (digits, false)
  | 'D' => some (digits, true)
  | 's' => some (perlSpace, false)
  | 'S' => some (perlSpace, true)
  | 'w' => some (wordChars, false)
  | 'W' => some (wordChars, true)
  | _ => none

/-- The ASCII class of a bracket name. -/
def posixClass? : String → Option CharSet
  | "alnum" => some ⟨[(0x30, 0x39), (0x41, 0x5A), (0x61, 0x7A)]⟩
  | "alpha" => some ⟨[(0x41, 0x5A), (0x61, 0x7A)]⟩
  | "ascii" => some (range 0 0x7F)
  | "blank" => some ⟨[(0x09, 0x09), (0x20, 0x20)]⟩
  | "cntrl" => some ⟨[(0, 0x1F), (0x7F, 0x7F)]⟩
  | "digit" => some digits
  | "graph" => some (range 0x21 0x7E)
  | "lower" => some (range 0x61 0x7A)
  | "print" => some (range 0x20 0x7E)
  | "punct" => some ⟨[(0x21, 0x2F), (0x3A, 0x40), (0x5B, 0x60), (0x7B, 0x7E)]⟩
  | "space" => some ⟨[(0x09, 0x0D), (0x20, 0x20)]⟩
  | "upper" => some (range 0x41 0x5A)
  | "word" => some wordChars
  | "xdigit" => some ⟨[(0x30, 0x39), (0x41, 0x46), (0x61, 0x66)]⟩
  | _ => none

/-- The general category names: the two-letter categories and their one-letter groups (`C`
takes in `Cc`, `Cf`, `Co` and `Cs`, unassigned code points having no category here). -/
def categoryNames : List String :=
  ["C", "Cc", "Cf", "Co", "Cs", "L", "Ll", "Lm", "Lo", "Lt", "Lu", "M", "Mc", "Me", "Mn", "N",
   "Nd", "Nl", "No", "P", "Pc", "Pd", "Pe", "Pf", "Pi", "Po", "Ps", "S", "Sc", "Sk", "Sm", "So",
   "Z", "Zl", "Zp", "Zs"]

/-- The set a Unicode class name stands for, if the name is known: `Any`, a general category
or group of categories, or a script. -/
def unicodeClass? (name : String) : Option CharSet :=
  if name == "Any" then some any
  else if categoryNames.contains name then
    some ⟨(Text.categoryEntries.filter fun (_, _, cat) =>
      cat == name || (name.length == 1 && cat.startsWith name)).map fun (lo, hi, _) => (lo, hi)⟩
  else
    match Text.scriptEntries.filter (fun (_, _, script) => script == name) with
    | [] => none
    | rs => some ⟨rs.map fun (lo, hi, _) => (lo, hi)⟩

end CharSet

end SlotAllocation.Pattern
