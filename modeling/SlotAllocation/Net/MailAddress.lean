import SlotAllocation.Net.IpAddress
import SlotAllocation.Text.Base64

/-!
# Mail addresses

`MailAddress.isValid` tells whether a text is one mail address in the form of message
headers:

* an address is `local@domain`, or a display name followed by `<local@domain>`; the bare
  form may be followed by a comment in parentheses, taken as the display name;
* the local part is a dot-atom (atom characters and single inner dots) or a quoted string
  that is not empty; the domain is a dot-atom or a literal in brackets holding an IP
  address;
* a display name is a phrase: words (atoms, dots allowed anywhere, or quoted strings) with
  blanks and comments between them;
* a display name followed by `:` opens a group, a list of addresses separated by commas and
  ended by `;`; the text must hold exactly one address, so a group must hold one;
* blanks (spaces and tabs) may stand around the parts, comments after the address;
* an encoded word (`=?charset?encoding?text?=`) among the words of a display name or of the
  comment after a bare address is refused when its text decodes but its character set is
  not UTF-8, ISO-8859-1 or US-ASCII; in a display name after its first word, such a word
  ends the name instead.

Atom characters are the printable ASCII characters other than `()<>[]:;@\,"` and the dot,
and every character beyond ASCII. A quoted string holds printable characters and blanks,
a backslash escaping one of them.
-/

namespace SlotAllocation

namespace MailAddress

/-- Whether a character is printable ASCII (not the space) or beyond ASCII. -/
def isVisible (c : Char) : Bool := ('!' ≤ c && c ≤ '~') || c.toNat ≥ 0x80

/-- Whether a character may stand in an atom (`dot` allowing the dot). -/
def isAtomChar (dot : Bool) (c : Char) : Bool :=
  if c == '.' then dot
  else if "()<>[]:;@\\,\"".toList.contains c then false
  else isVisible c

/-- Whether a character is a blank. -/
def isBlank (c : Char) : Bool := c == ' ' || c == '\t'

/-- Drops leading blanks. -/
def skipBlanks (cs : List Char) : List Char := cs.dropWhile isBlank

/-- Reads an atom (a dot-atom when `dot`); unless `loose`, dots may not lead, trail or
repeat. -/
def atom (dot loose : Bool) (cs : List Char) : Option (List Char × List Char) :=
  let a := cs.takeWhile (isAtomChar dot)
  if a.isEmpty then none
  else if !loose && (a.head? == some '.' || a.getLast? == some '.' ||
      (a.zip a.tail).any fun (x, y) => x == '.' && y == '.') then none
  else some (a, cs.drop a.length)

/-- Reads a quoted string after its opening quote. -/
def quotedBody (acc : List Char) : List Char → Option (List Char × List Char)
  | [] => none
  | '"' :: rest => some (acc.reverse, rest)
  | '\\' :: c :: rest => if isVisible c || isBlank c then quotedBody (c :: acc) rest else none
  | ['\\'] => none
  | c :: rest =>
    if (isVisible c && c != '\\' && c != '"') || isBlank c then quotedBody (c :: acc) rest else none

/-- Reads a quoted string. -/
def quoted : List Char → Option (List Char × List Char)
  | '"' :: rest => quotedBody [] rest
  | _ => none

/-- Reads a domain literal in brackets, which must hold an IP address. -/
def domainLiteral : List Char → Option (List Char)
  | '[' :: rest =>
    let body := rest.takeWhile (· != ']')
    match rest.drop body.length with
    | ']' :: after =>
      if body.all (fun c => isVisible c && c != '[' && c != '\\') && IpAddress.isPlain (String.ofList body)
      then some after else none
    | _ => none
  | _ => none

/-- Whether a Q-encoded text is well formed: printable ASCII, blanks and line breaks, `_`,
and `=` followed by two hexadecimal digits. -/
def isQEncoded : List Char → Bool
  | [] => true
  | '=' :: a :: b :: rest => isHexDigit a && isHexDigit b && isQEncoded rest
  | '=' :: _ => false
  | c :: rest => (('\x20' ≤ c && c ≤ '~') || c == '\n' || c == '\r' || c == '\t') && isQEncoded rest
where
  isHexDigit (c : Char) : Bool := c.isDigit || ('a' ≤ c && c ≤ 'f') || ('A' ≤ c && c ≤ 'F')

/-- Whether a word is an encoded word (`=?charset?encoding?text?=`) whose text decodes but
whose character set is not one of UTF-8, ISO-8859-1 and US-ASCII: such a word is refused.
Any other word, well formed or not, is taken as it stands. -/
def isUnreadableEncodedWord (w : List Char) : Bool :=
  let lower (cs : List Char) : String := String.ofList (cs.map Char.toLower)
  if (String.ofList w).utf8ByteSize < 8 || w.take 2 != ['=', '?'] || w.drop (w.length - 2) != ['?', '='] ||
      w.count '?' != 4 then false
  else
    match ((w.drop 2).take (w.length - 4)).splitOn '?' with
    | [charset, encoding, text] =>
      let decodes := match encoding with
        | ['B'] | ['b'] => (Base64.decode (String.ofList text)).isSome
        | ['Q'] | ['q'] => isQEncoded text
        | _ => false
      let known := ["utf-8", "iso-8859-1", "us-ascii"].contains (lower charset)
      !charset.isEmpty && decodes && !known
    | _ => false

/-- The text of a comment after its opening parenthesis, up to the parenthesis that closes
it (a backslash keeps the next character), and what follows. -/
def commentText (fuel : Nat) (depth : Nat) (acc : List Char) (cs : List Char) :
    Option (List Char × List Char) :=
  match fuel with
  | 0 => none
  | fuel + 1 =>
    match cs with
    | [] => none
    | '\\' :: c :: rest => commentText fuel depth (c :: acc) rest
    | '(' :: rest => commentText fuel (depth + 1) ('(' :: acc) rest
    | ')' :: rest =>
      if depth ≤ 1 then some (acc.reverse, rest) else commentText fuel (depth - 1) (')' :: acc) rest
    | c :: rest => commentText fuel depth (c :: acc) rest

/-- Reads `local@domain`, giving the rest of the text. -/
def addrSpec (cs : List Char) : Option (List Char) := do
  let cs := skipBlanks cs
  let rest ← match cs with
    | [] => none
    | '"' :: _ => do
      let (l, rest) ← quoted cs
      if l.isEmpty then none else some rest
    | _ => (atom true false cs).map (·.2)
  let rest ← match rest with
    | '@' :: more => some more
    | _ => none
  match skipBlanks rest with
  | [] => none
  | more@('[' :: _) => domainLiteral more
  | more => (atom true false more).map (·.2)

/-- Reads the rest of a comment after its opening parenthesis (a backslash escapes the
next character), or none when it is not closed. -/
def comment (fuel : Nat) (depth : Nat) (cs : List Char) : Option (List Char) :=
  match fuel with
  | 0 => none
  | fuel + 1 =>
    if depth == 0 then some cs
    else match cs with
      | [] => none
      | '\\' :: _ :: rest => comment fuel depth rest
      | '(' :: rest => comment fuel (depth + 1) rest
      | ')' :: rest => comment fuel (depth - 1) rest
      | _ :: rest => comment fuel depth rest

/-- Skips blanks and comments; none when a comment is not closed. -/
def skipComments (fuel : Nat) (cs : List Char) : Option (List Char) :=
  match fuel with
  | 0 => some cs
  | fuel + 1 =>
    match skipBlanks cs with
    | '(' :: rest => (comment (rest.length + 1) 1 rest).bind (skipComments fuel)
    | rest => some rest

/-- Reads the words of a phrase; `some` with the rest when at least one word was read or
the text ran out, and the comments between words are closed. -/
def phrase (fuel : Nat) (words : Nat) (cs : List Char) : Option (Nat × List Char) :=
  match fuel with
  | 0 => some (words, cs)
  | fuel + 1 => do
    let cs ← if words > 0 then skipComments (cs.length + 1) cs else some cs
    let cs := skipBlanks cs
    if cs.isEmpty then return (words, cs)
    match cs with
    | '"' :: _ =>
      match quoted cs with
      | some (_, rest) => phrase fuel (words + 1) rest
      | none => if words > 0 then some (words, cs) else none
    | _ =>
      match atom true true cs with
      | some (w, rest) =>
        if isUnreadableEncodedWord w then (if words > 0 then some (words, rest) else none)
        else phrase fuel (words + 1) rest
      | none => if words > 0 then some (words, cs) else none

mutual
/-- Reads one address (a group of addresses when `groups`), giving how many addresses it
holds and the rest of the text. -/
def address (fuel : Nat) (groups : Bool) (cs : List Char) : Option (Nat × List Char) :=
  match fuel with
  | 0 => none
  | fuel + 1 =>
    let cs := skipBlanks cs
    if cs.isEmpty then none
    else match addrSpec cs with
      | some rest =>
        match skipBlanks rest with
        | '(' :: more => do
          let (text, after) ← commentText (more.length + 1) 1 [] more
          let words := (text.splitOn ' ').flatMap (·.splitOn '\t')
          if words.any isUnreadableEncodedWord then none else some (1, after)
        | _ => some (1, rest)
      | none => do
        let cs ← if cs.head? == some '<' then some cs else (phrase (cs.length + 1) 0 cs).map (·.2)
        match skipBlanks cs with
        | ':' :: more => if groups then groupList fuel more else none
        | '<' :: more => do
          let rest ← addrSpec more
          match rest with
          | '>' :: after => some (1, after)
          | _ => none
        | _ => none

/-- Reads the addresses of a group after its colon, up to the closing `;`. -/
def groupList (fuel : Nat) (cs : List Char) : Option (Nat × List Char) :=
  match skipBlanks cs with
  | ';' :: rest => (skipComments (rest.length + 1) rest).map fun r => (0, r)
  | _ => groupItems fuel 0 cs

/-- Reads the members of a group, `count` read so far. -/
def groupItems (fuel : Nat) (count : Nat) (cs : List Char) : Option (Nat × List Char) :=
  match fuel with
  | 0 => none
  | fuel + 1 => do
    let (n, rest) ← address fuel false cs
    let rest ← skipComments (rest.length + 1) rest
    match rest with
    | ';' :: after => (skipComments (after.length + 1) after).map fun r => (count + n, r)
    | ',' :: after => groupItems fuel (count + n) after
    | _ => none
end

/-- Whether a text is exactly one mail address. -/
def isValid (s : String) : Bool :=
  let cs := s.toList
  match address (cs.length + 2) true cs with
  | some (n, rest) =>
    match skipComments (rest.length + 1) rest with
    | some [] => n == 1
    | _ => false
  | none => false

end MailAddress

end SlotAllocation
