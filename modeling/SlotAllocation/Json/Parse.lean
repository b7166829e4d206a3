import SlotAllocation.Json.Value
import SlotAllocation.Text.Quoted

/-!
# Parsing JSON text

`Json.parse` reads a whole document. Blanks are space, tab, line feed and carriage return.
The first fault in reading order is reported, with the character that caused it and what
was expected there; text that ends early is reported as such whatever was open.

A character is reported as the first byte of its UTF-8 encoding, read as a code point of its
own (so `é`, whose encoding starts with the byte `0xC3`, is reported as `Ã`), and quoted the
way quoted text is, between single quotes.

At most 10000 arrays and objects may be open at once; the bracket that would open one more
is refused.

String escapes are decoded; a `\u` escape of a lone surrogate becomes U+FFFD, and a pair of
surrogate escapes becomes the character they encode.
-/

namespace SlotAllocation

/-- Where in a document a fault was met. -/
inductive Expecting where
  | value
  | key
  | afterKey
  | afterMember
  | afterItem
  | afterDocument
  | inString
  | inEscape
  | inUnicodeEscape
  | inNumber
  | afterPoint
  | inExponent
  | inLiteral (word : String) (next : Char)
  | beyondDepth

/-- Why a text is not a JSON document. -/
inductive SyntaxError where
  /-- The text ends before the document does. -/
  | truncated
  /-- `c` cannot stand where it does. -/
  | unexpected (c : Char) (context : Expecting)

/-- The first byte of the UTF-8 encoding of `c`, as a character of its own. -/
def leadByteChar (c : Char) : Char :=
  let n := c.toNat
  if n < 0x80 then c
  else if n < 0x800 then Char.ofNat (0xC0 + n / 64)
  else if n < 0x10000 then Char.ofNat (0xE0 + n / 4096)
  else Char.ofNat (0xF0 + n / 262144)

/-- A character between single quotes, escaped as in quoted text. -/
def quoteCharSingly (c : Char) : String :=
  if c = '\'' then "'\\''"
  else if c = '"' then "'\"'"
  else
    let q := Text.quote c.toString
    "'" ++ String.ofList ((q.toList.drop 1).dropLast) ++ "'"

/-- The phrase naming the place of a fault. -/
def Expecting.phrase : Expecting → String
  | .value => "looking for beginning of value"
  | .key => "looking for beginning of object key string"
  | .afterKey => "after object key"
  | .afterMember => "after object key:value pair"
  | .afterItem => "after array element"
  | .afterDocument => "after top-level value"
  | .inString => "in string literal"
  | .inEscape => "in string escape code"
  | .inUnicodeEscape => "in \\u hexadecimal character escape"
  | .inNumber => "in numeric literal"
  | .afterPoint => "after decimal point in numeric literal"
  | .inExponent => "in exponent of numeric literal"
  | .inLiteral word next => "in literal " ++ word ++ " (expecting " ++ quoteCharSingly next ++ ")"
  | .beyondDepth => "exceeded max depth"

/-- The text of a syntax error. -/
def SyntaxError.message : SyntaxError → String
  | .truncated => "unexpected end of JSON input"
  | .unexpected c ctx => "invalid character " ++ quoteCharSingly (leadByteChar c) ++ " " ++ ctx.phrase

/-- Whether `c` is a blank between tokens. -/
def isJsonBlank (c : Char) : Bool := c = ' ' || c = '\t' || c = '\n' || c = '\r'

/-- The value of a hexadecimal digit. -/
def hexDigit? (c : Char) : Option Nat :=
  if c.isDigit then some (c.toNat - '0'.toNat)
  else if 'a' ≤ c && c ≤ 'f' then some (c.toNat - 'a'.toNat + 10)
  else if 'A' ≤ c && c ≤ 'F' then some (c.toNat - 'A'.toNat + 10)
  else none

private abbrev Parsing (α : Type) := Except SyntaxError (α × List Char)

/-- The value of four hexadecimal digits. -/
def hex4? (a b c d : Char) : Except SyntaxError Nat :=
  match hexDigit? a, hexDigit? b, hexDigit? c, hexDigit? d with
  | some va, some vb, some vc, some vd => .ok (((va * 16 + vb) * 16 + vc) * 16 + vd)
  | none, _, _, _ => .error (.unexpected a .inUnicodeEscape)
  | _, none, _, _ => .error (.unexpected b .inUnicodeEscape)
  | _, _, none, _ => .error (.unexpected c .inUnicodeEscape)
  | _, _, _, none => .error (.unexpected d .inUnicodeEscape)

/-- The fault in a `\u` escape cut short by the end of the text. -/
def shortEscape (cs : List Char) : SyntaxError :=
  match cs.find? (fun c => (hexDigit? c).isNone) with
  | some c => .unexpected c .inUnicodeEscape
  | none => .truncated

/-- The character a `\u` escape with value `u` stands for when no low surrogate follows. -/
def loneEscape (u : Nat) : Char :=
  if 0xD800 ≤ u && u < 0xE000 then Char.ofNat 0xFFFD else Char.ofNat u

/-- Reads the characters of a string after its opening quote, up to and including the
closing quote. Escapes are decoded; `acc` holds the characters read so far, reversed. -/
def readStringBody (acc : List Char) : List Char → Parsing String
  | [] => .error .truncated
  | '"' :: rest => .ok (String.ofList acc.reverse, rest)
  | '\\' :: 'u' :: a :: b :: c :: d :: rest =>
    match hex4? a b c d with
    | .error err => .error err
    | .ok u =>
      if 0xD800 ≤ u && u < 0xDC00 then
        match rest with
        | '\\' :: 'u' :: a2 :: b2 :: c2 :: d2 :: more =>
          match hex4? a2 b2 c2 d2 with
          | .ok l =>
            if 0xDC00 ≤ l && l < 0xE000 then
              readStringBody (Char.ofNat (0x10000 + (u - 0xD800) * 0x400 + (l - 0xDC00)) :: acc) more
            else readStringBody (Char.ofNat 0xFFFD :: acc) ('\\' :: 'u' :: a2 :: b2 :: c2 :: d2 :: more)
          | .error _ => readStringBody (Char.ofNat 0xFFFD :: acc) ('\\' :: 'u' :: a2 :: b2 :: c2 :: d2 :: more)
        | other => readStringBody (Char.ofNat 0xFFFD :: acc) other
      else readStringBody (loneEscape u :: acc) rest
  | '\\' :: 'u' :: more => .error (shortEscape more)
  | '\\' :: e :: rest =>
    match e with
    | '"' => readStringBody ('"' :: acc) rest
    | '\\' => readStringBody ('\\' :: acc) rest
    | '/' => readStringBody ('/' :: acc) rest
    | 'b' => readStringBody (Char.ofNat 8 :: acc) rest
    | 'f' => readStringBody (Char.ofNat 12 :: acc) rest
    | 'n' => readStringBody ('\n' :: acc) rest
    | 'r' => readStringBody ('\r' :: acc) rest
    | 't' => readStringBody ('\t' :: acc) rest
    | c => .error (.unexpected c .inEscape)
  | '\\' :: [] => .error .truncated
  | c :: rest =>
    if c.toNat < 0x20 then .error (.unexpected c .inString)
    else readStringBody (c :: acc) rest
termination_by cs => cs.length

/-- The sign of a number, if any, and what follows it. -/
def numberSign : List Char → List Char × List Char
  | '-' :: rest => (['-'], rest)
  | cs => ([], cs)

/-- The integer part of a number: a lone `0`, or digits led by another digit. -/
def numberInteger : List Char → Except SyntaxError (List Char × List Char)
  | [] => .error .truncated
  | '0' :: rest => .ok (['0'], rest)
  | c :: rest =>
    if c.isDigit then .ok ((c :: rest).takeWhile Char.isDigit, (c :: rest).dropWhile Char.isDigit)
    else .error (.unexpected c .inNumber)

/-- The fraction of a number, from its point, if it has one. -/
def numberFraction : List Char → Except SyntaxError (List Char × List Char)
  | '.' :: more =>
    match more with
    | [] => .error .truncated
    | c :: _ =>
      if c.isDigit then .ok ('.' :: more.takeWhile Char.isDigit, more.dropWhile Char.isDigit)
      else .error (.unexpected c .afterPoint)
  | rest => .ok ([], rest)

/-- The exponent of a number, from its `e` or `E`, if it has one. -/
def numberExponent : List Char → Except SyntaxError (List Char × List Char)
  | e :: more =>
    if e = 'e' || e = 'E' then
      let (esign, more) : List Char × List Char := match more with
        | '+' :: m => (['+'], m)
        | '-' :: m => (['-'], m)
        | _ => ([], more)
      match more with
      | [] => .error .truncated
      | c :: _ =>
        if c.isDigit then .ok (e :: esign ++ more.takeWhile Char.isDigit, more.dropWhile Char.isDigit)
        else .error (.unexpected c .inExponent)
    else .ok ([], e :: more)
  | [] => .ok ([], [])

/-- Reads the digits of a number and returns its literal. -/
def readNumber (cs : List Char) : Except SyntaxError (Number × List Char) := do
  let (sign, afterSign) := numberSign cs
  let (intDigits, rest) ← numberInteger afterSign
  let (frac, rest) ← numberFraction rest
  let (ex, rest) ← numberExponent rest
  pure (⟨String.ofList (sign ++ intDigits ++ frac ++ ex)⟩, rest)

/-- Reads the rest of the literal `word` after its first letter. -/
def readWord (word : String) (value : Json) : List Char → List Char → Parsing Json
  | [], rest => .ok (value, rest)
  | w :: ws, [] => let _ := w; let _ := ws; .error .truncated
  | w :: ws, c :: rest =>
    if c = w then readWord word value ws rest
    else .error (.unexpected c (.inLiteral word w))

/-- Drops leading blanks. -/
def skipBlanks (cs : List Char) : List Char := cs.dropWhile isJsonBlank

/-- The most arrays and objects that may be open at once. -/
def maxNesting : Nat := 10000

mutual
/-- Reads one value after optional blanks, `depth` arrays and objects being open; `fuel`
bounds the steps. -/
def readValue (fuel depth : Nat) (cs : List Char) : Parsing Json :=
  match fuel with
  | 0 => .error .truncated
  | fuel + 1 =>
    match skipBlanks cs with
    | [] => .error .truncated
    | c :: rest =>
      match c with
      | '{' =>
        if depth ≥ maxNesting then .error (.unexpected c .beyondDepth)
        else readMembers fuel (depth + 1) true [] rest
      | '[' =>
        if depth ≥ maxNesting then .error (.unexpected c .beyondDepth)
        else readItems fuel (depth + 1) true [] rest
      | '"' => match readStringBody [] rest with
        | .ok (s, r) => .ok (.str s, r)
        | .error e => .error e
      | 't' => readWord "true" (.bool true) ['r', 'u', 'e'] rest
      | 'f' => readWord "false" (.bool false) ['a', 'l', 's', 'e'] rest
      | 'n' => readWord "null" .null ['u', 'l', 'l'] rest
      | _ =>
        if c = '-' || c.isDigit then
          match readNumber (c :: rest) with
          | .ok (n, r) => .ok (.num n, r)
          | .error e => .error e
        else .error (.unexpected c .value)

/-- Reads object members after `{` (or after a comma when `first` is false). -/
def readMembers (fuel depth : Nat) (first : Bool) (acc : List (String × Json)) (cs : List Char) :
    Parsing Json :=
  match fuel with
  | 0 => .error .truncated
  | fuel + 1 =>
    match skipBlanks cs with
    | [] => .error .truncated
    | '}' :: rest => if first then .ok (.obj acc.reverse, rest) else .error (.unexpected '}' .key)
    | '"' :: rest =>
      match readStringBody [] rest with
      | .error e => .error e
      | .ok (k, rest) =>
        match skipBlanks rest with
        | [] => .error .truncated
        | ':' :: rest =>
          match readValue fuel depth rest with
          | .error e => .error e
          | .ok (v, rest) =>
            match skipBlanks rest with
            | [] => .error .truncated
            | ',' :: rest => readMembers fuel depth false ((k, v) :: acc) rest
            | '}' :: rest => .ok (.obj ((k, v) :: acc).reverse, rest)
            | c :: _ => .error (.unexpected c .afterMember)
        | c :: _ => .error (.unexpected c .afterKey)
    | c :: _ => .error (.unexpected c .key)

/-- Reads array items after `[` (or after a comma when `first` is false). -/
def readItems (fuel depth : Nat) (first : Bool) (acc : List Json) (cs : List Char) : Parsing Json :=
  match fuel with
  | 0 => .error .truncated
  | fuel + 1 =>
    let cs := skipBlanks cs
    match cs with
    | ']' :: rest =>
      if first then .ok (.arr acc.reverse, rest) else .error (.unexpected ']' .value)
    | _ =>
      match readValue fuel depth cs with
      | .error e => .error e
      | .ok (v, rest) =>
        match skipBlanks rest with
        | [] => .error .truncated
        | ',' :: rest => readItems fuel depth false (v :: acc) rest
        | ']' :: rest => .ok (.arr (v :: acc).reverse, rest)
        | c :: _ => .error (.unexpected c .afterItem)
end

/-- Reads a whole document: one value, then only blanks. -/
def Json.parse (text : String) : Except SyntaxError Json :=
  let cs := text.toList
  match readValue (2 * cs.length + 2) 0 cs with
  | .error e => .error e
  | .ok (v, rest) =>
    match skipBlanks rest with
    | [] => .ok v
    | c :: _ => .error (.unexpected c .afterDocument)

/-- Reads the first value of a text and ignores what follows it. A text of blanks only is
reported as `EOF`, one that ends inside the value as `unexpected EOF`. -/
def Json.parseFirst (text : String) : Except String Json :=
  let cs := text.toList
  if (skipBlanks cs).isEmpty then .error "EOF"
  else match readValue (2 * cs.length + 2) 0 cs with
    | .ok (v, _) => .ok v
    | .error .truncated => .error "unexpected EOF"
    | .error e => .error e.message

end SlotAllocation
