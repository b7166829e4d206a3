import SlotAllocation.Net.IpAddress
import SlotAllocation.Text.Quoted

/-!
# URL references

`Url.parse` reads a URL or a relative reference and reports why it cannot:

1. the fragment is everything after the first `#`;
2. the rest may hold no control character (below the space, or DEL);
3. a scheme is a letter followed by letters, digits, `+`, `-` or `.`, ending at the first
   `:`; a text starting with `:` has a missing scheme; the scheme is kept in lower case;
4. the query is everything after the first `?` (a lone `?` at the end forces an empty
   query);
5. with a scheme and no `/` after it, the rest is a rootless part and nothing more is
   checked; without a scheme, a colon in the first path segment is refused;
6. `//` (with a scheme, or without one when not `///`) opens an authority up to the next
   `/`: user information before the last `@` (letters, digits and `-._:~!$&'()*+,;=%@`),
   then the host, whose port after the last `:` must be digits. A host holding `[` is read
   from its last `[` to its last `]`, which must hold an IPv6 address that is not a mapped
   IPv4 address (a zone may follow as `%25`), followed by nothing or a port. Other host characters are letters, digits, `-._~!$&'()*+,;=:[]<>"`
   and characters beyond ASCII; escapes in a host may only stand for bytes beyond ASCII
   (or `%25`), escapes in a zone only for characters a host may hold (or the space);
7. every `%` in the path, the fragment and the user information starts a two-digit
   hexadecimal escape.

A refusal reads `parse "<text>": <reason>`, the text quoted.
-/

namespace SlotAllocation

/-- A parsed URL reference. Path and fragment are kept unescaped and as written; a scheme
followed by no `/` keeps the rest as its rootless part. -/
structure Url where
  scheme : String := ""
  rootless : String := ""
  user : Option String := none
  host : String := ""
  omitHost : Bool := false
  path : String := ""
  rawPath : String := ""
  rawQuery : String := ""
  forceQuery : Bool := false
  fragment : String := ""
  rawFragment : String := ""
deriving Repr, Inhabited

namespace Url

/-- Where escapes are read: a host, a zone of an IPv6 host, or any other part. -/
inductive Part where
  | host
  | zone
  | other
deriving DecidableEq

/-- Whether an ASCII character may stand unescaped in a host. -/
def hostChar (c : Char) : Bool :=
  c.isAlphanum || "-_.~!$&'()*+,;=:[]<>\"".toList.contains c

/-- The value of a hexadecimal digit. -/
def hexDigit? (c : Char) : Option Nat :=
  if c.isDigit then some (c.toNat - '0'.toNat)
  else if 'a' ≤ c && c ≤ 'f' then some (c.toNat - 'a'.toNat + 10)
  else if 'A' ≤ c && c ≤ 'F' then some (c.toNat - 'A'.toNat + 10)
  else none

/-- Checks the escapes (and, in a host or zone, the characters) of a part, giving the
unescaped text. -/
def unescape (part : Part) (fuel : Nat) (acc : List Char) : List Char → Except String (List Char)
  | [] => .ok acc.reverse
  | '%' :: rest =>
    match fuel with
    | 0 => .ok acc.reverse
    | fuel + 1 =>
      let bad := "invalid URL escape " ++ Text.quote (String.ofList ('%' :: rest.take 2))
      match rest with
      | a :: b :: more =>
        match hexDigit? a, hexDigit? b with
        | some x, some y =>
          let v := x * 16 + y
          let isPercent := x == 2 && y == 5
          if part == .host && x < 8 && !isPercent then .error bad
          else if part == .zone && !isPercent && v != 0x20 && (v ≥ 0x80 || !hostChar (Char.ofNat v)) then
            .error bad
          else unescape part fuel (Char.ofNat v :: acc) more
        | _, _ => .error bad
      | _ => .error bad
  | c :: rest =>
    match fuel with
    | 0 => .ok acc.reverse
    | fuel + 1 =>
      if part != .other && c.toNat < 0x80 && !hostChar c then
        .error ("invalid character " ++ Text.quote (String.singleton c) ++ " in host name")
      else unescape part fuel (c :: acc) rest

/-- Checks a part and gives its unescaped text. -/
def unescaped (part : Part) (s : String) : Except String String :=
  (unescape part (s.length + 1) [] s.toList).map String.ofList

/-- Whether a port text is empty or `:` followed by digits. -/
def validPort (cs : List Char) : Bool :=
  match cs with
  | [] => true
  | ':' :: ds => ds.all Char.isDigit
  | _ => false

/-- The place of the last occurrence of `c`. -/
def lastIndex (c : Char) (cs : List Char) : Option Nat :=
  (cs.zipIdx.filter (·.1 == c)).getLast?.map (·.2)

/-- The place of the first occurrence of `%25`. -/
def zoneStart (cs : List Char) : Option Nat :=
  (List.range cs.length).find? fun i => (cs.drop i).take 3 == ['%', '2', '5']

/-- Checks a host and gives it unescaped. A host holding `[` is read from its last `[` to its
last `]` (what stands before the `[` is dropped): the brackets must hold an IPv6 address
that is not a mapped IPv4 address (a zone may follow as `%25`), and only a port may follow
them. Any other host may end in a port after its last `:`. -/
def parseHost (cs : List Char) : Except String String :=
  match lastIndex '[' cs with
  | some openAt =>
    match lastIndex ']' cs with
    | none => .error "missing ']' in host"
    | some closeAt => do
      let colonPort := cs.drop (closeAt + 1)
      if !validPort colonPort then
        throw ("invalid port " ++ Text.quote (String.ofList colonPort) ++ " after host")
      let port ← unescaped .host (String.ofList colonPort)
      let inside := (cs.drop (openAt + 1)).take (closeAt - (openAt + 1))
      let name ← match zoneStart inside with
        | some z => do
          let h ← unescaped .host (String.ofList (inside.take z))
          let zone ← unescaped .zone (String.ofList (inside.drop z))
          pure (h ++ zone)
        | none => unescaped .host (String.ofList inside)
      let address := name.toList.takeWhile (· != '%')
      match IpAddress.parse? name with
      | some (.v6 _) =>
        if IpAddress.isMappedV4 address then throw "invalid IPv6 host"
        else pure ("[" ++ name ++ "]" ++ port)
      | some .v4 => throw "invalid IPv6 host"
      | none => throw ("invalid host: ParseAddr(" ++ Text.quote name ++ "): unable to parse IP")
  | none =>
    match lastIndex ':' cs with
    | some i =>
      let colonPort := cs.drop i
      if !validPort colonPort then
        .error ("invalid port " ++ Text.quote (String.ofList colonPort) ++ " after host")
      else unescaped .host (String.ofList cs)
    | none => unescaped .host (String.ofList cs)

/-- Whether a character may stand in user information. -/
def userChar (c : Char) : Bool := c.isAlphanum || "-._:~!$&'()*+,;=%@".toList.contains c

/-- Checks an authority (user information and host) and gives the user information as
written, if any, and the host. -/
def parseAuthority (cs : List Char) : Except String (Option String × String) :=
  match lastIndex '@' cs with
  | none => do pure (none, ← parseHost cs)
  | some i => do
    let host ← parseHost (cs.drop (i + 1))
    let user := cs.take i
    if !user.all userChar then throw "net/url: invalid userinfo"
    let _ ← unescaped .other (String.ofList user)
    pure (some (String.ofList user), host)

/-- Splits off a scheme: letters first, then letters, digits, `+`, `-`, `.`, up to `:`. -/
def splitScheme (cs : List Char) : Except String (String × List Char) :=
  let name := cs.takeWhile fun c => c.isAlphanum || c == '+' || c == '-' || c == '.'
  match cs.drop name.length with
  | ':' :: rest =>
    match name with
    | [] => .error "missing protocol scheme"
    | c :: _ => if c.isAlpha then .ok (String.ofList name, rest) else .ok ("", cs)
  | _ => .ok ("", cs)

/-- Reads a reference without its fragment. -/
def parseBase (cs : List Char) : Except String Url := do
  if cs.any fun c => c.toNat < 0x20 || c.toNat == 0x7F then
    throw "net/url: invalid control character in URL"
  if cs == ['*'] then return { path := "*" }
  let (scheme, rest) ← splitScheme cs
  let scheme := scheme.toLower
  let (rest, rawQuery, forceQuery) :=
    if rest.getLast? == some '?' && rest.count '?' == 1 then (rest.dropLast, "", true)
    else match rest.splitOn '?' with
      | before :: after@(_ :: _) => (before, "?".intercalate (after.map String.ofList), false)
      | _ => (rest, "", false)
  if rest.head? != some '/' then
    if !scheme.isEmpty then return { scheme, rootless := String.ofList rest, rawQuery, forceQuery }
    if ((rest.splitOn '/').headD []).contains ':' then
      throw "first path segment in URL cannot contain colon"
  let (user, host, omitHost, rest) ← match rest with
    | '/' :: '/' :: more =>
      if !scheme.isEmpty || more.head? != some '/' then
        let authority := more.takeWhile (· != '/')
        let (user, host) ← parseAuthority authority
        pure (user, host, false, more.drop authority.length)
      else pure (none, "", false, rest)
    | '/' :: _ => pure (none, "", !scheme.isEmpty, rest)
    | _ => pure (none, "", false, rest)
  let path ← unescaped .other (String.ofList rest)
  pure { scheme, user, host, omitHost, path, rawPath := String.ofList rest, rawQuery, forceQuery }

/-- Reads a URL reference. -/
def parse (text : String) : Except String Url :=
  let cs := text.toList
  let (base, fragment) := match cs.splitOn '#' with
    | before :: after@(_ :: _) => (before, some ("#".intercalate (after.map String.ofList)))
    | _ => (cs, none)
  let failed (t : String) (e : String) := "parse " ++ Text.quote t ++ ": " ++ e
  match parseBase base with
  | .error e => .error (failed (String.ofList base) e)
  | .ok u =>
    match fragment with
    | none | some "" => .ok u
    | some f =>
      match unescaped .other f with
      | .ok g => .ok { u with fragment := g, rawFragment := f }
      | .error e => .error (failed text e)

/-- The text of a reference: scheme, authority (written when there is a host, a path or
user information, unless a rootless or host-less form was read), path, query and fragment.
A relative path whose first segment holds a colon is written after `./`. -/
def text (u : Url) : String :=
  let head := if u.scheme.isEmpty then "" else u.scheme ++ ":"
  let body :=
    if !u.rootless.isEmpty then u.rootless
    else
      let authority :=
        if (u.scheme.isEmpty && u.host.isEmpty && u.user.isNone) ||
            (u.omitHost && u.host.isEmpty && u.user.isNone) then ""
        else
          (if !u.host.isEmpty || !u.rawPath.isEmpty || u.user.isSome then "//" else "") ++
            (match u.user with
             | some name => name ++ "@"
             | none => "") ++ u.host
      let p := u.rawPath
      let p := if !p.isEmpty && !p.startsWith "/" && !u.host.isEmpty then "/" ++ p else p
      let p := if head.isEmpty && authority.isEmpty && ((p.splitOn "/").headD "").contains ':' then
          "./" ++ p else p
      authority ++ p
  head ++ body ++ (if u.forceQuery || !u.rawQuery.isEmpty then "?" ++ u.rawQuery else "") ++
    (if u.fragment.isEmpty then "" else "#" ++ u.rawFragment)

/-- Removes `.` and `..` segments from a path that is joined to a base: the result starts
with `/` unless it is empty, and a path ending in `.` or `..` keeps a final `/`. -/
def resolvePath (base ref : String) : String :=
  let full :=
    if ref.isEmpty then base
    else if !ref.startsWith "/" then
      match lastIndex '/' base.toList with
      | some i => String.ofList (base.toList.take (i + 1)) ++ ref
      | none => ref
    else ref
  if full.isEmpty then ""
  else
    let segments := full.splitOn "/"
    let step (acc : String × Bool) (elem : String) : String × Bool :=
      let (dst, first) := acc
      if elem == "." then (dst, false)
      else if elem == ".." then
        let written := (dst.toList.drop 1)
        match lastIndex '/' written with
        | none => ("/", true)
        | some i => ("/" ++ String.ofList (written.take i), first)
      else ((if first then dst else dst ++ "/") ++ elem, false)
    let (dst, _) := segments.foldl step ("/", true)
    let last := segments.getLast?.getD ""
    let dst := if last == "." || last == ".." then dst ++ "/" else dst
    if dst.length > 1 && dst.toList[1]? == some '/' then String.ofList (dst.toList.drop 1) else dst

/-- A reference read against a base (whose fragment is dropped first): a reference with a
scheme or an authority stands alone; otherwise it takes the base's scheme, authority and,
when it has no path, the base's path and query; a relative path is joined to the base's. -/
def inherit (base r : Url) : Url :=
  let base := { base with fragment := "", rawFragment := "" }
  let setPath (u : Url) (p : String) : Url :=
    { u with rawPath := p, path := (unescaped .other p).toOption.getD p }
  let url := if r.scheme.isEmpty then { r with scheme := base.scheme } else r
  if !r.scheme.isEmpty || !r.host.isEmpty || r.user.isSome then setPath url (resolvePath r.rawPath "")
  else if !r.rootless.isEmpty then { url with user := none, host := "", path := "", rawPath := "" }
  else
    let url :=
      if r.rawPath.isEmpty && !r.forceQuery && r.rawQuery.isEmpty then
        let url := { url with rawQuery := base.rawQuery }
        if r.fragment.isEmpty then { url with fragment := base.fragment, rawFragment := base.rawFragment }
        else url
      else url
    if r.rawPath.isEmpty && !base.rootless.isEmpty then
      { url with rootless := base.rootless, user := none, host := "", path := "", rawPath := "" }
    else setPath { url with host := base.host, user := base.user } (resolvePath base.rawPath r.rawPath)

end Url

end SlotAllocation
