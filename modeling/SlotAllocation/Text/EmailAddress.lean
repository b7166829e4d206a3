/-!
# Email addresses

The grammar that settings check addresses against. An address is a local part, an `@` and a
domain. The local part is a run of atoms joined by single dots, or a quoted text; the domain
is a prefix and a last part joined by a dot, optionally followed by one more dot. The prefix
starts and ends with a letter or digit, the last part with a letter, and both may hold
letters, digits, `-`, `.` and `~` in between. Characters of the wide blocks U+00A0–U+D7FF,
U+F900–U+FDCF and U+FDF0–U+FFEF count as letters everywhere. Letters and digits are ASCII
otherwise.

Since no part of a domain holds an `@`, an address splits at its last `@`.
-/

namespace SlotAllocation.EmailAddress

/-- Whether `c` lies in one of the wide blocks that count as letters. -/
def isWide (c : Char) : Bool :=
  let n := c.toNat
  (0xA0 ≤ n && n ≤ 0xD7FF) || (0xF900 ≤ n && n ≤ 0xFDCF) || (0xFDF0 ≤ n && n ≤ 0xFFEF)

/-- The marks that an atom may hold besides letters and digits. -/
def atomMarks : List Char :=
  ['!', '#', '$', '%', '&', '\'', '*', '+', '-', '/', '=', '?', '^', '_', '|', '~',
   '\x7b', '\x7d', Char.ofNat 96]

/-- Whether `c` may stand in an atom of the local part. -/
def isAtomChar (c : Char) : Bool := c.isAlphanum || atomMarks.contains c || isWide c

/-- Whether the local part is non-empty atoms joined by single dots. -/
def isDotAtom (s : List Char) : Bool :=
  (s.splitOn '.').all fun atom => !atom.isEmpty && atom.all isAtomChar

/-- Whether `c` is a space or a tab. -/
def isBlank (c : Char) : Bool := c == ' ' || c == '\t'

/-- Whether `c` may stand in quoted text: an ASCII character other than NUL and line feed, or
a wide one. -/
def isQuotedChar (c : Char) : Bool :=
  (1 ≤ c.toNat && c.toNat ≤ 0x7F && c != '\n') || isWide c

/-- Where the reader of quoted text stands. A line may be folded: blanks, a carriage return
and a line feed, then at least one blank. -/
inductive QuotedAt where
  /-- Between characters of the text. -/
  | text
  /-- In the blanks before a fold's line break. -/
  | beforeBreak
  /-- After the carriage return of a fold. -/
  | carriage
  /-- After a fold's line break, before its first blank. -/
  | broken
  /-- In the blanks that end a fold. -/
  | folded
deriving DecidableEq, Repr

/-- The places the reader may reach from `q` by reading `c`. -/
def QuotedAt.next : QuotedAt → Char → List QuotedAt
  | .text, c =>
    (if isQuotedChar c then [.text] else []) ++
    (if isBlank c then [.beforeBreak, .folded] else []) ++
    (if c == '\r' then [.carriage] else [])
  | .beforeBreak, c =>
    (if isBlank c then [.beforeBreak] else []) ++ (if c == '\r' then [.carriage] else [])
  | .carriage, c => if c == '\n' then [.broken] else []
  | .broken, c => if isBlank c then [.folded] else []
  | .folded, c =>
    (if isBlank c then [.folded] else []) ++ (if isQuotedChar c then [.text] else [])

/-- The places the reader may stand at after reading `s` from any of `places`. -/
def readQuoted (places : List QuotedAt) : List Char → List QuotedAt
  | [] => places
  | c :: rest => readQuoted ((places.flatMap fun q => q.next c).eraseDups) rest

/-- Whether `s` is the inside of a quoted local part: it may end between characters or after
a fold. -/
def isQuotedText (s : List Char) : Bool :=
  (readQuoted [.text] s).any fun q => q == .text || q == .folded

/-- Whether the local part is a quoted text. -/
def isQuotedLocal (s : List Char) : Bool :=
  match s with
  | '"' :: rest =>
    match rest.getLast? with
    | some '"' => isQuotedText rest.dropLast
    | _ => false
  | _ => false

/-- Whether `c` may stand inside a domain. -/
def isDomainChar (c : Char) : Bool :=
  c.isAlphanum || c == '-' || c == '.' || c == '~' || isWide c

/-- Whether `s` is domain characters that start and end with characters `edge` accepts. -/
def isDomainPart (edge : Char → Bool) (s : List Char) : Bool :=
  match s.head?, s.getLast? with
  | some a, some z => edge a && edge z && s.all isDomainChar
  | _, _ => false

/-- Whether `s` is a domain: a prefix and a last part joined by a dot, and at most one more
dot at the end. -/
def isDomain (s : List Char) : Bool :=
  let d := if s.getLast? == some '.' then s.dropLast else s
  (List.range d.length).any fun i =>
    d[i]? == some '.' &&
    isDomainPart (fun c => c.isAlphanum || isWide c) (d.take i) &&
    isDomainPart (fun c => c.isAlpha || isWide c) (d.drop (i + 1))

/-- Whether `s` is an email address. -/
def isValid (s : String) : Bool :=
  let cs := s.toList
  match cs.reverse.idxOf? '@' with
  | none => false
  | some j =>
    let cut := cs.length - 1 - j
    let localPart := cs.take cut
    (isDotAtom localPart || isQuotedLocal localPart) && isDomain (cs.drop (cut + 1))

end SlotAllocation.EmailAddress
