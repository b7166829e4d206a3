import SlotAllocation.Time.Instant
import SlotAllocation.Pattern.Search
import SlotAllocation.Net.Url
import SlotAllocation.Net.MailAddress

/-!
# Formats of strings

`Format.admits name s` tells whether the string `s` has the format `name`:

* `date`: `YYYY-MM-DD`, a day that exists;
* `time`: `h:mm:ss` (one or two hour digits, an optional fraction after `.` or `,`),
  optionally followed by `Z` or `±hh:mm` (offsets up to 24 hours and 60 minutes);
* `date-time`: a time as above, a date, or an RFC 3339 time stamp;
* `hostname`: dot-separated labels of 1 to 63 letters, digits and inner hyphens, fewer than
  256 characters in all;
* `email`, `idn-email`: one mail address;
* `ipv4`, `ipv6`: an address without zone whose text holds a dot, a colon respectively;
* `uri`, `iri`: a URL reference with a scheme; `uri-reference`, `iri-reference`: any URL
  reference; `uri-template`: a URL reference whose path closes every `{` with a `}`; none
  of these may hold a backslash;
* `uuid`: lower-case hexadecimal groups of 8, 4, 4, 4 and 12 digits;
* `regex`: empty or a valid pattern;
* `json-pointer`: steps each starting with `/`, where `~` is followed by `0` or `1`;
  `relative-json-pointer`: a count without leading zeros followed by `#` or a pointer.

Any other name admits every string. A number has none of these formats and every other.
-/

namespace SlotAllocation

namespace Format

/-- The format names that are checked. -/
def known : List String :=
  ["date", "time", "date-time", "hostname", "email", "idn-email", "ipv4", "ipv6", "uri",
   "uri-reference", "iri", "iri-reference", "uri-template", "uuid", "regex", "json-pointer",
   "relative-json-pointer"]

/-- The value of decimal digits. -/
def digitsValue (ds : List Char) : Nat := ds.foldl (fun n d => n * 10 + (d.toNat - '0'.toNat)) 0

/-- A number of one or two digits (exactly two when `fixed`) at the front. -/
def number (fixed : Bool) : List Char → Option (Nat × List Char)
  | a :: b :: rest =>
    if !a.isDigit then none
    else if b.isDigit then some (digitsValue [a, b], rest)
    else if fixed then none
    else some (digitsValue [a], b :: rest)
  | [a] => if a.isDigit && !fixed then some (digitsValue [a], []) else none
  | [] => none

/-- Reads `h:mm:ss` with an optional fraction, giving the rest. -/
def clock (cs : List Char) : Option (List Char) := do
  let (h, rest) ← number false cs
  if h ≥ 24 then none
  let rest ← match rest with
    | ':' :: r => some r
    | _ => none
  let (m, rest) ← number true rest
  if m ≥ 60 then none
  let rest ← match rest with
    | ':' :: r => some r
    | _ => none
  let (s, rest) ← number true rest
  if s ≥ 60 then none
  match rest with
  | p :: d :: more =>
    if (p == '.' || p == ',') && d.isDigit then some (more.dropWhile Char.isDigit) else some rest
  | _ => some rest

/-- Reads a zone: `Z`, or a sign and `hh:mm`. -/
def zone : List Char → Option (List Char)
  | 'Z' :: rest => some rest
  | s :: h1 :: h2 :: ':' :: m1 :: m2 :: rest => do
    let (h, _) ← number true [h1, h2]
    let (m, _) ← number true [m1, m2]
    if h > 24 || m > 60 || (s != '+' && s != '-') then none else some rest
  | _ => none

/-- Whether the text is a time of day. -/
def isClock (cs : List Char) : Bool := clock cs == some []

/-- Whether the text is a time of day with a zone. -/
def isZonedClock (cs : List Char) : Bool := (clock cs).bind zone == some []

/-- Whether the text is a date `YYYY-MM-DD` that exists. -/
def isDate (cs : List Char) : Bool :=
  match cs with
  | y1 :: y2 :: y3 :: y4 :: '-' :: m1 :: m2 :: '-' :: d1 :: d2 :: [] =>
    let year := [y1, y2, y3, y4]
    match number true [m1, m2], number true [d1, d2] with
    | some (m, _), some (d, _) =>
      year.all Char.isDigit && 1 ≤ m && m ≤ 12 && 1 ≤ d && d ≤ Instant.daysIn m (digitsValue year)
    | _, _ => false
  | _ => false

/-- Whether a label of a host name has 1 to 63 letters, digits and inner hyphens. -/
def isLabel (cs : List Char) : Bool :=
  !cs.isEmpty && cs.length ≤ 63 && cs.all (fun c => c.isAlphanum || c == '-') &&
    cs.head? != some '-' && cs.getLast? != some '-'

/-- Whether the text is a host name. -/
def isHostname (s : String) : Bool :=
  (s.toList.splitOn '.').all isLabel && s.utf8ByteSize < 256

/-- Whether the text is lower-case hexadecimal groups of 8, 4, 4, 4 and 12 digits. -/
def isUuid (s : String) : Bool :=
  let groups := s.toList.splitOn '-'
  groups.map List.length == [8, 4, 4, 4, 12] &&
    groups.all (·.all fun c => c.isDigit || ('a' ≤ c && c ≤ 'f'))

/-- Whether every `~` of the text is followed by `0` or `1`. -/
def escapesTilde : List Char → Bool
  | [] => true
  | '~' :: '0' :: rest | '~' :: '1' :: rest => escapesTilde rest
  | '~' :: _ => false
  | _ :: rest => escapesTilde rest

/-- Whether the text is a JSON pointer: empty, or steps each starting with `/`. -/
def isPointer (cs : List Char) : Bool :=
  (cs.isEmpty || cs.head? == some '/') && escapesTilde cs

/-- Whether the text is a relative JSON pointer. -/
def isRelativePointer (cs : List Char) : Bool :=
  let count := cs.takeWhile Char.isDigit
  let rest := cs.drop count.length
  !count.isEmpty && (count == ['0'] || count.head? != some '0') &&
    (rest == ['#'] || isPointer rest)

/-- Whether every `{` is closed by a later `}`. -/
def closesBraces (fuel : Nat) (cs : List Char) : Bool :=
  match fuel, cs with
  | _, [] => true
  | 0, _ => false
  | fuel + 1, '{' :: rest =>
    match rest.dropWhile (· != '}') with
    | [] => false
    | _ :: after => closesBraces fuel after
  | fuel + 1, _ :: rest => closesBraces fuel rest

/-- Whether the string `s` has the format `name`. -/
def admits (name : String) (s : String) : Bool :=
  let cs := s.toList
  let noBackslash := !cs.contains '\\'
  match name with
  | "date" => isDate cs
  | "time" => isZonedClock cs || isClock cs
  | "date-time" =>
    isClock cs || isZonedClock cs || isDate cs ||
      (match Instant.parse s with
       | .ok _ => true
       | .error _ => false)
  | "hostname" => isHostname s
  | "email" | "idn-email" => MailAddress.isValid s
  | "ipv4" => IpAddress.isPlain s && cs.contains '.'
  | "ipv6" => IpAddress.isPlain s && cs.contains ':'
  | "uri" | "iri" =>
    match Url.parse s with
    | .ok u => !u.scheme.isEmpty && noBackslash
    | .error _ => false
  | "uri-reference" | "iri-reference" =>
    match Url.parse s with
    | .ok _ => noBackslash
    | .error _ => false
  | "uri-template" =>
    match Url.parse s with
    | .ok u => noBackslash && closesBraces (u.path.length + 1) u.path.toList
    | .error _ => false
  | "uuid" => isUuid s
  | "regex" =>
    s.isEmpty ||
      (match Pattern.Regex.compile s with
       | .ok _ => true
       | .error _ => false)
  | "json-pointer" => isPointer cs
  | "relative-json-pointer" => isRelativePointer cs
  | _ => true

/-- Whether a number has the format `name`: only when no format of that name is checked. -/
def admitsNumber (name : String) : Bool := !known.contains name

end Format

end SlotAllocation
