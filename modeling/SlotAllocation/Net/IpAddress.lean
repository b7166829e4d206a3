/-!
# IP addresses in text

`IpAddress.parse?` reads an address the strict way:

* IPv4 is four decimal fields separated by dots, each at most 255 and written without
  leading zeros;
* IPv6 is up to eight groups of one to four hexadecimal digits separated by colons, where
  one `::` stands for one or more zero groups, and the last two groups may be an IPv4
  address; a zone may follow a `%`, and must then not be empty.

A text is read as IPv4 when a dot comes before any colon or `%`, and as IPv6 when a colon
comes first; a `%` first, or neither, is refused. `IpAddress.isPlain` also refuses a zone.
-/

namespace SlotAllocation

/-- What kind of address a text holds. -/
inductive IpKind where
  | v4
  | v6 (zoned : Bool)
deriving DecidableEq, Repr

namespace IpAddress

/-- Whether the text is a dotted IPv4 address. -/
def isV4 (cs : List Char) : Bool :=
  let fields := cs.splitOn '.'
  fields.length == 4 && fields.all fun f =>
    !f.isEmpty && f.all Char.isDigit && f.length ≤ 3 && (f.length == 1 || f.head? != some '0') &&
      f.foldl (fun n d => n * 10 + (d.toNat - '0'.toNat)) 0 ≤ 255

/-- Whether a character is a hexadecimal digit. -/
def isHex (c : Char) : Bool := c.isDigit || ('a' ≤ c && c ≤ 'f') || ('A' ≤ c && c ≤ 'F')

/-- Reads the groups of an IPv6 address from `at` (the number of bytes already read):
`ellipsis` tells whether a `::` was read. The result is the number of bytes read and
whether a `::` was read, or none when the text is malformed. -/
def groups (fuel : Nat) (cs : List Char) (at_ : Nat) (ellipsis : Bool) : Option (Nat × Bool) :=
  match fuel with
  | 0 => none
  | fuel + 1 =>
    if at_ ≥ 16 then (if cs.isEmpty then some (at_, ellipsis) else none)
    else
      let digits := cs.takeWhile isHex
      let rest := cs.drop digits.length
      if digits.isEmpty || digits.length > 4 then none
      else match rest with
        | '.' :: _ =>
          -- an embedded IPv4 address ends the text and fills the last four bytes
          if !ellipsis && at_ != 12 then none
          else if at_ + 4 > 16 then none
          else if isV4 cs then some (at_ + 4, ellipsis) else none
        | [] => some (at_ + 2, ellipsis)
        | [':'] => none
        | ':' :: ':' :: more =>
          if ellipsis then none
          else if more.isEmpty then some (at_ + 2, true)
          else groups fuel more (at_ + 2) true
        | ':' :: more => groups fuel more (at_ + 2) ellipsis
        | _ => none

/-- Whether the text (without its zone) is an IPv6 address. -/
def isV6 (cs : List Char) : Bool :=
  let (start, ellipsis) := match cs with
    | ':' :: ':' :: more => (more, true)
    | _ => (cs, false)
  if ellipsis && start.isEmpty then true
  else match groups (cs.length + 1) start 0 ellipsis with
    | some (n, e) => if n < 16 then e else !e
    | none => false

/-- The values of the colon-separated groups of part of an IPv6 address, an embedded IPv4
address giving two groups. -/
def groupValues (cs : List Char) : List Nat :=
  if cs.isEmpty then []
  else (cs.splitOn ':').flatMap fun g =>
    if g.contains '.' then
      match (g.splitOn '.').map (fun f => f.foldl (fun n d => n * 10 + (d.toNat - '0'.toNat)) 0) with
      | [a, b, c, d] => [a * 256 + b, c * 256 + d]
      | _ => []
    else [g.foldl (fun n d => n * 16 + (if d.isDigit then d.toNat - '0'.toNat
      else if 'a' ≤ d && d ≤ 'f' then d.toNat - 'a'.toNat + 10 else d.toNat - 'A'.toNat + 10)) 0]

/-- The text before the first `::` and the text after it, if there is one. -/
def splitEllipsis : List Char → Option (List Char × List Char)
  | ':' :: ':' :: rest => some ([], rest)
  | c :: rest => (splitEllipsis rest).map fun (a, b) => (c :: a, b)
  | [] => none

/-- The eight 16-bit groups of a valid IPv6 address (without its zone), `::` filled with
zeros. -/
def v6Groups (cs : List Char) : List Nat :=
  match splitEllipsis cs with
  | some (a, b) =>
    let ga := groupValues a
    let gb := groupValues b
    ga ++ List.replicate (8 - ga.length - gb.length) 0 ++ gb
  | none => groupValues cs

/-- Whether a valid IPv6 address (without its zone) is an IPv4 address mapped into IPv6:
five zero groups, then `ffff`. -/
def isMappedV4 (cs : List Char) : Bool :=
  (v6Groups cs).take 6 == [0, 0, 0, 0, 0, 0xFFFF]

/-- Reads an address, telling its kind. -/
def parse? (s : String) : Option IpKind :=
  let cs := s.toList
  match cs.find? fun c => c == '.' || c == ':' || c == '%' with
  | some '.' => if isV4 cs then some .v4 else none
  | some ':' =>
    match cs.splitOn '%' with
    | [addr] => if isV6 addr then some (.v6 false) else none
    | addr :: zone =>
      if ("%".intercalate (zone.map String.ofList)).isEmpty then none
      else if isV6 addr then some (.v6 true) else none
    | [] => none
  | _ => none

/-- Whether the text is an address without a zone. -/
def isPlain (s : String) : Bool :=
  match parse? s with
  | some .v4 => true
  | some (.v6 zoned) => !zoned
  | none => false

end IpAddress

end SlotAllocation
