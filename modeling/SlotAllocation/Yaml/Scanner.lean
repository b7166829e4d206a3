import SlotAllocation.Yaml.Token
import SlotAllocation.Text.Base64

/-!
# Scanning YAML text into tokens

The scanner reads the text once, left to right, and appends tokens. Indentation opens and
closes block collections: a key or an entry further right than the current indentation
opens one (`blockMappingStart`, `blockSequenceStart`), and a line that starts further left
closes the open ones (`blockEnd`). A plain or quoted scalar, an anchor, an alias, a tag or an
opening bracket may turn out to be a key; it is remembered as a simple-key candidate, and
when a `:` follows on the same line, within 1024 characters, the `key` token (and a
`blockMappingStart` where needed) is inserted before it. A candidate in the block context
that stands at the current indentation is required: losing it is a fault.

Scalars are folded as the format prescribes: a single line break between two lines of a
plain or quoted scalar becomes a space, further breaks are kept, and blanks around breaks
are dropped. Double-quoted scalars take backslash escapes, single-quoted ones a doubled quote.

The scanner stops at the first fault and reports the tokens it has so far, with the
positions of the candidates still open, so that the parser can tell whether it would have
met the fault before a problem of its own.
-/

namespace SlotAllocation.Yaml

/-- The mark after one character that is not a line break. -/
def Mark.next (m : Mark) : Mark := { m with index := m.index + 1, column := m.column + 1 }

/-- A place where a key may have begun. -/
structure SimpleKey where
  possible : Bool := false
  required : Bool := false
  tokenNumber : Nat := 0
  mark : Mark := {}
deriving Repr, Inhabited

/-- The scanner's state: the text ahead, the tokens so far, the flow nesting, the stack of
block indentations and of simple-key candidates (innermost flow level first). -/
structure Scanner where
  rest : List Char
  mark : Mark := {}
  tokens : Array Token := #[]
  flowLevel : Nat := 0
  indent : Int := -1
  indents : List Int := []
  keyAllowed : Bool := true
  keys : List SimpleKey := [{}]
  ended : Bool := false

/-- The text of a line break as scalars keep it: carriage returns, line feeds and next-line
characters become a line feed; line and paragraph separators stay. -/
def breakText : List Char → String
  | '\r' :: '\n' :: _ => "\n"
  | c :: _ =>
    if c == '\r' || c == '\n' || c.toNat == 0x85 then "\n"
    else if isBreak c then c.toString else ""
  | [] => ""

/-- Whether the text ahead is `---` or `...` followed by a blank, a break or the end. -/
def documentIndicatorAhead : List Char → Bool
  | '-' :: '-' :: '-' :: r => blankzAhead r
  | '.' :: '.' :: '.' :: r => blankzAhead r
  | _ => false

/-- Whether `c` is a digit or an ASCII letter of a hexadecimal number. -/
def isHexChar (c : Char) : Bool := c.isDigit || ('a' ≤ c && c ≤ 'f') || ('A' ≤ c && c ≤ 'F')

/-- The value of a hexadecimal digit. -/
def hexValue (c : Char) : Nat :=
  if c.isDigit then c.toNat - '0'.toNat
  else if 'a' ≤ c && c ≤ 'f' then c.toNat - 'a'.toNat + 10
  else c.toNat - 'A'.toNat + 10

/-- Whether `c` may stand in an anchor or alias name. -/
def isNameChar (c : Char) : Bool := c.isAlphanum || c == '_' || c == '-'

/-- The characters that close a flow collection or separate its entries. -/
def isFlowIndicator (c : Char) : Bool :=
  c == ',' || c == '[' || c == ']' || c == '{' || c == '}'

namespace Scanner

/-- Steps over one character that is not a line break. -/
def skip (s : Scanner) : Scanner :=
  match s.rest with
  | [] => s
  | _ :: r => { s with rest := r, mark := s.mark.next }

/-- Steps over one line break; a carriage return and line feed count as one. -/
def skipLine (s : Scanner) : Scanner :=
  match s.rest with
  | '\r' :: '\n' :: r => { s with rest := r, mark := ⟨s.mark.index + 2, s.mark.line + 1, 0⟩ }
  | c :: r =>
    if isBreak c then { s with rest := r, mark := ⟨s.mark.index + 1, s.mark.line + 1, 0⟩ }
    else s
  | [] => s

/-- Steps over `n` characters that are not line breaks. -/
def skipN (s : Scanner) : Nat → Scanner
  | 0 => s
  | n + 1 => (s.skip).skipN n

/-- A scanner fault at the current position. -/
def fault (s : Scanner) (context : Option (String × Mark)) (problem : String) : Fault :=
  ⟨.scanner, context, problem, s.mark⟩

/-- Appends a token. -/
def emit (s : Scanner) (kind : TokenKind) (start stop : Mark) : Scanner :=
  { s with tokens := s.tokens.push ⟨kind, start, stop⟩ }

/-- Inserts a token at position `i` of the tokens so far. -/
def insertAt (s : Scanner) (i : Nat) (t : Token) : Scanner :=
  if h : i ≤ s.tokens.size then { s with tokens := s.tokens.insertIdx i t h }
  else { s with tokens := s.tokens.push t }

/-- The candidate of the innermost flow level. -/
def topKey (s : Scanner) : SimpleKey := s.keys.headD {}

/-- Replaces the candidate of the innermost flow level. -/
def setTopKey (s : Scanner) (k : SimpleKey) : Scanner := { s with keys := k :: s.keys.tail }

/-- Drops the current candidate; a required one cannot be dropped. -/
def removeKey (s : Scanner) : Except Fault Scanner :=
  let k := s.topKey
  if k.possible then
    if k.required then
      .error ⟨.scanner, some ("while scanning a simple key", k.mark),
        "could not find expected ':'", s.mark⟩
    else .ok (s.setTopKey { k with possible := false })
  else .ok s

/-- Remembers the current position as a candidate, if a key may start here. -/
def saveKey (s : Scanner) : Except Fault Scanner := do
  let required := s.flowLevel == 0 && s.indent == (s.mark.column : Int)
  if s.keyAllowed then
    let number := s.tokens.size
    let mark := s.mark
    let s ← s.removeKey
    pure (s.setTopKey ⟨true, required, number, mark⟩)
  else pure s

/-- Whether the current candidate still stands: it must lie on this line and within 1024
characters. A required candidate that no longer stands is a fault. -/
def checkKey (s : Scanner) : Except Fault (Bool × Scanner) :=
  let k := s.topKey
  if !k.possible then .ok (false, s)
  else if k.mark.line < s.mark.line || k.mark.index + 1024 < s.mark.index then
    if k.required then
      .error ⟨.scanner, some ("while scanning a simple key", k.mark),
        "could not find expected ':'", s.mark⟩
    else .ok (false, s.setTopKey { k with possible := false })
  else .ok (true, s)

/-- Opens a block collection at `column` if that lies right of the current indentation;
its start token goes to position `at?`, or to the end. -/
def rollIndent (s : Scanner) (column : Int) (at? : Option Nat) (kind : TokenKind) (mark : Mark) :
    Scanner :=
  if s.flowLevel > 0 then s
  else if s.indent < column then
    let s := { s with indents := s.indent :: s.indents, indent := column }
    match at? with
    | some i => s.insertAt i ⟨kind, mark, mark⟩
    | none => s.emit kind mark mark
  else s

/-- Closes the block collections indented further than `column`. -/
def unrollIndent (s : Scanner) (column : Int) (mark : Mark) : Scanner :=
  if s.flowLevel > 0 then s
  else
    let blockMark := { mark with index := mark.index - 1 }
    let rec close (s : Scanner) : List Int → Scanner
      | [] => s
      | outer :: more =>
        if s.indent > column then
          close ({ s with indent := outer, indents := more }.emit .blockEnd blockMark blockMark)
            more
        else s
    close s s.indents

/-- Skips blanks, comments and line breaks up to the next token. Tabs are skipped only in
flow collections and where no key may start. -/
def toNextToken (s : Scanner) : Scanner :=
  let rec go (fuel : Nat) (s : Scanner) : Scanner :=
    match fuel with
    | 0 => s
    | fuel + 1 =>
      let s := if s.mark.column == 0 && s.rest.head? == some (Char.ofNat 0xFEFF) then s.skip else s
      let blanks := s.rest.takeWhile fun c =>
        c == ' ' || ((s.flowLevel > 0 || !s.keyAllowed) && c == '\t')
      let s := s.skipN blanks.length
      let s := if s.rest.head? == some '#' then
          s.skipN (s.rest.takeWhile fun c => !(isBreak c || c.toNat == 0)).length
        else s
      match s.rest with
      | c :: _ =>
        if isBreak c then
          let s := s.skipLine
          go fuel (if s.flowLevel == 0 then { s with keyAllowed := true } else s)
        else s
      | [] => s
  go (s.rest.length + 1) s

/-- The end of the text: closes all blocks and drops the candidate. -/
def fetchStreamEnd (s : Scanner) : Except Fault Scanner := do
  let s := if s.mark.column != 0 then
      { s with mark := { s.mark with column := 0, line := s.mark.line + 1 } }
    else s
  let s := s.unrollIndent (-1) s.mark
  let s ← s.removeKey
  let s := { s with keyAllowed := false, ended := true }
  pure (s.emit .streamEnd s.mark s.mark)

/-- A document start or end marker. -/
def fetchDocumentIndicator (s : Scanner) (kind : TokenKind) : Except Fault Scanner := do
  let s := s.unrollIndent (-1) s.mark
  let s ← s.removeKey
  let s := { s with keyAllowed := false }
  let start := s.mark
  let s := s.skipN 3
  pure (s.emit kind start s.mark)

/-- An opening bracket or brace: it may start a key, and opens a flow level. -/
def fetchFlowStart (s : Scanner) (kind : TokenKind) : Except Fault Scanner := do
  let s ← s.saveKey
  let s := { s with keys := {} :: s.keys, flowLevel := s.flowLevel + 1, keyAllowed := true }
  let start := s.mark
  let s := s.skip
  pure (s.emit kind start s.mark)

/-- A closing bracket or brace: closes a flow level. -/
def fetchFlowEnd (s : Scanner) (kind : TokenKind) : Except Fault Scanner := do
  let s ← s.removeKey
  let s := if s.flowLevel > 0 then { s with flowLevel := s.flowLevel - 1, keys := s.keys.tail }
    else s
  let s := { s with keyAllowed := false }
  let start := s.mark
  let s := s.skip
  pure (s.emit kind start s.mark)

/-- A comma between flow entries. -/
def fetchFlowEntry (s : Scanner) : Except Fault Scanner := do
  let s ← s.removeKey
  let s := { s with keyAllowed := true }
  let start := s.mark
  let s := s.skip
  pure (s.emit .flowEntry start s.mark)

/-- A `-` entry of a block sequence. -/
def fetchBlockEntry (s : Scanner) : Except Fault Scanner := do
  let s ← if s.flowLevel == 0 then
      if !s.keyAllowed then
        Except.error (s.fault none "block sequence entries are not allowed in this context")
      else pure (s.rollIndent s.mark.column none .blockSequenceStart s.mark)
    else pure s
  let s ← s.removeKey
  let s := { s with keyAllowed := true }
  let start := s.mark
  let s := s.skip
  pure (s.emit .blockEntry start s.mark)

/-- A `?` that marks a complex key. -/
def fetchKey (s : Scanner) : Except Fault Scanner := do
  let s ← if s.flowLevel == 0 then
      if !s.keyAllowed then
        Except.error (s.fault none "mapping keys are not allowed in this context")
      else pure (s.rollIndent s.mark.column none .blockMappingStart s.mark)
    else pure s
  let s ← s.removeKey
  let s := { s with keyAllowed := s.flowLevel == 0 }
  let start := s.mark
  let s := s.skip
  pure (s.emit .key start s.mark)

/-- A `:` that marks a value; it turns a standing candidate into a key. -/
def fetchValue (s : Scanner) : Except Fault Scanner := do
  let (valid, s) ← s.checkKey
  let s ← if valid then
      let k := s.topKey
      let s := s.insertAt k.tokenNumber ⟨.key, k.mark, k.mark⟩
      let s := s.rollIndent k.mark.column (some k.tokenNumber) .blockMappingStart k.mark
      pure { s.setTopKey { k with possible := false } with keyAllowed := false }
    else if s.flowLevel == 0 then
      if !s.keyAllowed then
        Except.error (s.fault none "mapping values are not allowed in this context")
      else
        pure { s.rollIndent s.mark.column none .blockMappingStart s.mark with keyAllowed := true }
    else pure { s with keyAllowed := false }
  let start := s.mark
  let s := s.skip
  pure (s.emit .value start s.mark)

/-- An anchor `&name` or an alias `*name`. -/
def fetchAnchor (s : Scanner) (isAlias : Bool) : Except Fault Scanner := do
  let s ← s.saveKey
  let s := { s with keyAllowed := false }
  let start := s.mark
  let s := s.skip
  let name := s.rest.takeWhile isNameChar
  let s := s.skipN name.length
  let endsWell := match s.rest with
    | [] => true
    | c :: _ => isBlank c || isBreak c || c.toNat == 0 || c == '?' || c == ':' || c == ',' ||
      c == ']' || c == '}' || c == '%' || c == '@' || c.toNat == 96
  if name.isEmpty || !endsWell then
    .error (s.fault (some (if isAlias then "while scanning an alias" else "while scanning an anchor",
      start)) "did not find expected alphabetic or numeric character")
  else
    let text := String.ofList name
    pure (s.emit (if isAlias then .alias text else .anchor text) start s.mark)

/-- Whether `c` may stand in a directive name or a tag handle: an ASCII letter or digit, `_`
or `-`. -/
def isWordChar (c : Char) : Bool := c.isAlphanum || c == '_' || c == '-'

/-- Whether `c` may stand in a tag: a word character, one of `;/?:@&=+$.%!~*()'`, and the
flow indicators `[ ] ,` where `indicators` allows them (inside `!<…>`, and outside flow
collections). -/
def isTagChar (indicators : Bool) (c : Char) : Bool :=
  isWordChar c || ";/?:@&=+$.%!~*()'".toList.contains c || (indicators && "[],".toList.contains c)

/-- The number of bytes of a UTF-8 sequence with this leading byte, or 0 when it leads none. -/
def utf8Width (b : Nat) : Nat :=
  if b < 0x80 then 1
  else if b / 32 == 6 then 2
  else if b / 16 == 14 then 3
  else if b / 8 == 30 then 4
  else 0

/-- A fault in a tag or in a `%TAG` directive. -/
def tagFault (s : Scanner) (directive : Bool) (start : Mark) (problem : String) : Fault :=
  s.fault (some (if directive then "while parsing a %TAG directive" else "while parsing a tag", start))
    problem

/-- Reads the `%XX` escapes of one UTF-8 character in a tag, appending its bytes. -/
def uriEscapes (s : Scanner) (directive : Bool) (start : Mark) (acc : List UInt8) :
    Except Fault (List UInt8 × Scanner) :=
  let rec go (fuel : Nat) (s : Scanner) (left : Option Nat) (acc : List UInt8) :
      Except Fault (List UInt8 × Scanner) :=
    match fuel with
    | 0 => .ok (acc, s)
    | fuel + 1 =>
      match s.rest with
      | '%' :: h1 :: h2 :: _ =>
        if !(isHexChar h1 && isHexChar h2) then
          .error (s.tagFault directive start "did not find URI escaped octet")
        else
          let octet := hexValue h1 * 16 + hexValue h2
          let width := match left with
            | none => utf8Width octet
            | some w => w
          if left.isNone && width == 0 then
            .error (s.tagFault directive start "found an incorrect leading UTF-8 octet")
          else if left.isSome && octet / 64 != 2 then
            .error (s.tagFault directive start "found an incorrect trailing UTF-8 octet")
          else
            let acc := acc ++ [UInt8.ofNat octet]
            let s := s.skipN 3
            if width ≤ 1 then .ok (acc, s) else go fuel s (some (width - 1)) acc
      | _ => .error (s.tagFault directive start "did not find URI escaped octet")
  go 5 s none acc

/-- Reads the characters of a tag after `head` (whose leading `!` is dropped); escapes are
decoded. A tag with nothing in it is a fault. -/
def tagUri (s : Scanner) (indicators directive : Bool) (head : String) (start : Mark) :
    Except Fault (String × Scanner) :=
  let rec go (fuel : Nat) (s : Scanner) (acc : List UInt8) (found : Bool) :
      Except Fault (List UInt8 × Scanner × Bool) :=
    match fuel with
    | 0 => .ok (acc, s, found)
    | fuel + 1 =>
      match s.rest with
      | c :: _ =>
        if !isTagChar indicators c then .ok (acc, s, found)
        else if c == '%' then
          match s.uriEscapes directive start acc with
          | .ok (acc, s) => go fuel s acc true
          | .error f => .error f
        else go fuel s.skip (acc ++ (String.singleton c).toUTF8.toList) true
      | [] => .ok (acc, s, found)
  match go (s.rest.length + 1) s (String.ofList (head.toList.drop 1)).toUTF8.toList !head.isEmpty with
  | .error f => .error f
  | .ok (acc, s, found) =>
    if !found then .error (s.tagFault directive start "did not find expected tag URI")
    else .ok (Text.ofBytes acc, s)

/-- Reads a tag handle: `!`, then word characters, then `!` if there is one. In a directive
the handle must be `!` or end with `!`. -/
def tagHandle (s : Scanner) (directive : Bool) (start : Mark) : Except Fault (String × Scanner) :=
  if s.rest.head? != some '!' then .error (s.tagFault directive start "did not find expected '!'")
  else
    let s := s.skip
    let word := s.rest.takeWhile isWordChar
    let s := s.skipN word.length
    if s.rest.head? == some '!' then .ok ("!" ++ String.ofList word ++ "!", s.skip)
    else if directive && !word.isEmpty then
      .error (s.tagFault directive start "did not find expected '!'")
    else .ok ("!" ++ String.ofList word, s)

/-- A tag: `!<uri>` taken as written, `!handle!suffix`, or `!suffix` (the handle `!`); a
lone `!` is the non-specific tag. -/
def fetchTag (s : Scanner) : Except Fault Scanner := do
  let s ← s.saveKey
  let s := { s with keyAllowed := false }
  let start := s.mark
  let (handle, suffix, s) ← match s.rest with
    | '!' :: '<' :: _ => do
      let (uri, s) ← (s.skipN 2).tagUri true false "" start
      if s.rest.head? != some '>' then
        Except.error (s.fault (some ("while scanning a tag", start)) "did not find the expected '>'")
      pure ("", uri, s.skip)
    | _ => do
      let (handle, s) ← s.tagHandle false start
      if handle.length > 1 && handle.endsWith "!" then
        let (suffix, s) ← s.tagUri (s.flowLevel == 0) false "" start
        pure (handle, suffix, s)
      else
        let (suffix, s) ← s.tagUri (s.flowLevel == 0) false handle start
        pure (if suffix.isEmpty then ("", "!", s) else ("!", suffix, s))
  let endsWell := match s.rest with
    | [] => true
    | c :: _ => isBlank c || isBreak c || c.toNat == 0 || (s.flowLevel > 0 && c == ',')
  if !endsWell then
    .error (s.fault (some ("while scanning a tag", start))
      "did not find expected whitespace or line break")
  else pure (s.emit (.tag handle suffix) start s.mark)

/-- One part of a version number: one or two digits. -/
def versionNumber (s : Scanner) (start : Mark) : Except Fault (Nat × Scanner) :=
  let ds := s.rest.takeWhile Char.isDigit
  if ds.length > 2 then
    .error ((s.skipN 2).fault (some ("while scanning a %YAML directive", start))
      "found extremely long version number")
  else if ds.isEmpty then
    .error (s.fault (some ("while scanning a %YAML directive", start))
      "did not find expected version number")
  else .ok (ds.foldl (fun n d => n * 10 + (d.toNat - '0'.toNat)) 0, s.skipN ds.length)

/-- The value of a `%YAML` directive: `major.minor`. -/
def versionValue (s : Scanner) (start : Mark) : Except Fault (TokenKind × Scanner) := do
  let s := s.skipN (s.rest.takeWhile isBlank).length
  let (major, s) ← s.versionNumber start
  if s.rest.head? != some '.' then
    Except.error (s.fault (some ("while scanning a %YAML directive", start))
      "did not find expected digit or '.' character")
  let (minor, s) ← s.skip.versionNumber start
  pure (.versionDirective major minor, s)

/-- The value of a `%TAG` directive: a handle, blanks, a prefix. -/
def tagDirectiveValue (s : Scanner) (start : Mark) : Except Fault (TokenKind × Scanner) := do
  let s := s.skipN (s.rest.takeWhile isBlank).length
  let (handle, s) ← s.tagHandle true start
  if !((s.rest.head?.map isBlank).getD false) then
    Except.error (s.fault (some ("while scanning a %TAG directive", start))
      "did not find expected whitespace")
  let s := s.skipN (s.rest.takeWhile isBlank).length
  let (pfx, s) ← s.tagUri true true "" start
  if !blankzAhead s.rest then
    Except.error (s.fault (some ("while scanning a %TAG directive", start))
      "did not find expected whitespace or line break")
  pure (.tagDirective handle pfx, s)

/-- A directive line, `%YAML` or `%TAG`. It closes every block and takes its own line break,
so the line after it cannot start with a key. -/
def fetchDirective (s : Scanner) : Except Fault Scanner := do
  let s := s.unrollIndent (-1) s.mark
  let s ← s.removeKey
  let s := { s with keyAllowed := false }
  let start := s.mark
  let s := s.skip
  let name := s.rest.takeWhile isWordChar
  let s := s.skipN name.length
  if name.isEmpty then
    Except.error (s.fault (some ("while scanning a directive", start))
      "could not find expected directive name")
  if !blankzAhead s.rest then
    Except.error (s.fault (some ("while scanning a directive", start))
      "found unexpected non-alphabetical character")
  let (kind, s) ← if name == "YAML".toList then s.versionValue start
    else if name == "TAG".toList then s.tagDirectiveValue start
    else Except.error (s.fault (some ("while scanning a directive", start)) "found unknown directive name")
  let stop := s.mark
  let s := s.skipN (s.rest.takeWhile isBlank).length
  let s := if s.rest.head? == some '#' then
      s.skipN (s.rest.takeWhile fun c => !(isBreak c || c.toNat == 0)).length
    else s
  if !breakzAhead s.rest then
    Except.error (s.fault (some ("while scanning a directive", start))
      "did not find expected comment or line break")
  pure ((s.emit kind start stop).skipLine)

/-- Text gathered while folding a scalar: the text so far, the first pending line break,
further pending breaks, pending blanks, and whether the pending part began with a break. -/
structure Folding where
  text : String := ""
  leadingBreak : String := ""
  trailingBreaks : String := ""
  whitespace : String := ""
  leadingBlanks : Bool := false

/-- Joins the pending blanks or breaks to the text before the next character: one line
break becomes a space, several keep all but the first. -/
def Folding.join (f : Folding) : Folding :=
  if f.leadingBlanks then
    let text :=
      if f.leadingBreak.startsWith "\n" then
        if f.trailingBreaks.isEmpty then f.text ++ " " else f.text ++ f.trailingBreaks
      else f.text ++ f.leadingBreak ++ f.trailingBreaks
    { f with text, leadingBreak := "", trailingBreaks := "", leadingBlanks := false }
  else if !f.whitespace.isEmpty then { f with text := f.text ++ f.whitespace, whitespace := "" }
  else f

/-- Reads the non-blank characters of a plain scalar up to an indicator that ends it;
returns the position after the last one read. -/
def plainWord (fuel : Nat) (s : Scanner) (f : Folding) (stop : Mark) : Scanner × Folding × Mark :=
  match fuel with
  | 0 => (s, f, stop)
  | fuel + 1 =>
    match s.rest with
    | [] => (s, f, stop)
    | c :: more =>
      let ends := isBlank c || isBreak c || c.toNat == 0 ||
        (c == ':' && blankzAhead more) ||
        (s.flowLevel > 0 && (isFlowIndicator c ||
          (c == ':' && (more.head?.map isFlowIndicator).getD false)))
      if ends then (s, f, stop)
      else
        let f := f.join
        let s := s.skip
        plainWord fuel s { f with text := f.text.push c } s.mark

/-- Reads the blanks and line breaks after a word of a scalar. A tab in the indentation of
a continued plain scalar is a fault. -/
def foldBlanks (fuel : Nat) (s : Scanner) (f : Folding) (tabCheck : Option (Int × Mark)) :
    Except Fault (Scanner × Folding) :=
  match fuel with
  | 0 => .ok (s, f)
  | fuel + 1 =>
    match s.rest with
    | [] => .ok (s, f)
    | c :: _ =>
      if isBlank c then
        match tabCheck with
        | some (indent, start) =>
          if f.leadingBlanks && (s.mark.column : Int) < indent && c == '\t' then
            .error (s.fault (some ("while scanning a plain scalar", start))
              "found a tab character that violates indentation")
          else if !f.leadingBlanks then
            foldBlanks fuel s.skip { f with whitespace := f.whitespace.push c } tabCheck
          else foldBlanks fuel s.skip f tabCheck
        | none =>
          if !f.leadingBlanks then
            foldBlanks fuel s.skip { f with whitespace := f.whitespace.push c } tabCheck
          else foldBlanks fuel s.skip f tabCheck
      else if isBreak c then
        let b := breakText s.rest
        if !f.leadingBlanks then
          foldBlanks fuel s.skipLine
            { f with whitespace := "", leadingBreak := b, leadingBlanks := true } tabCheck
        else foldBlanks fuel s.skipLine { f with trailingBreaks := f.trailingBreaks ++ b } tabCheck
      else .ok (s, f)

/-- Reads a plain scalar: words separated by blanks and line breaks, while continuation
lines stay right of the current indentation. -/
def plainScalar (fuel : Nat) (s : Scanner) (f : Folding) (stop start : Mark) (indent : Int) :
    Except Fault (Scanner × Folding × Mark) :=
  match fuel with
  | 0 => .ok (s, f, stop)
  | fuel + 1 =>
    if s.mark.column == 0 && documentIndicatorAhead s.rest then .ok (s, f, stop)
    else if s.rest.head? == some '#' then .ok (s, f, stop)
    else
      let (s, f, stop) := plainWord (s.rest.length + 1) s f stop
      match s.rest with
      | c :: _ =>
        if !(isBlank c || isBreak c) then .ok (s, f, stop)
        else do
          let (s, f) ← foldBlanks (s.rest.length + 1) s f (some (indent, start))
          if s.flowLevel == 0 && (s.mark.column : Int) < indent then pure (s, f, stop)
          else plainScalar fuel s f stop start indent
      | [] => .ok (s, f, stop)

/-- A plain scalar token; after one that spans lines a key may start. -/
def fetchPlainScalar (s : Scanner) : Except Fault Scanner := do
  let s ← s.saveKey
  let s := { s with keyAllowed := false }
  let start := s.mark
  let (s, f, stop) ← plainScalar (s.rest.length + 1) s {} start start (s.indent + 1)
  let s := s.emit (.scalar f.text .plain) start stop
  pure (if f.leadingBlanks then { s with keyAllowed := true } else s)

/-- The character a one-letter escape of a double-quoted scalar stands for. -/
def shortEscape : Char → Option Char
  | '0' => some (Char.ofNat 0)
  | 'a' => some (Char.ofNat 7)
  | 'b' => some (Char.ofNat 8)
  | 't' => some '\t'
  | '\t' => some '\t'
  | 'n' => some '\n'
  | 'v' => some (Char.ofNat 11)
  | 'f' => some (Char.ofNat 12)
  | 'r' => some '\r'
  | 'e' => some (Char.ofNat 27)
  | ' ' => some ' '
  | '"' => some '"'
  | '\'' => some '\''
  | '\\' => some '\\'
  | 'N' => some (Char.ofNat 0x85)
  | '_' => some (Char.ofNat 0xA0)
  | 'L' => some (Char.ofNat 0x2028)
  | 'P' => some (Char.ofNat 0x2029)
  | _ => none

/-- The number of hexadecimal digits a numeric escape takes. -/
def escapeWidth : Char → Nat
  | 'x' => 2
  | 'u' => 4
  | 'U' => 8
  | _ => 0

/-- Reads the non-blank characters of a quoted scalar up to its closing quote, a blank or a
break; the flag tells whether an escaped line break was read. -/
def quotedWord (fuel : Nat) (single : Bool) (start : Mark) (s : Scanner) (text : String) :
    Except Fault (Scanner × String × Bool) :=
  match fuel with
  | 0 => .ok (s, text, false)
  | fuel + 1 =>
    match s.rest with
    | [] => .ok (s, text, false)
    | c :: more =>
      if isBlank c || isBreak c || c.toNat == 0 then .ok (s, text, false)
      else if single && c == '\'' && more.head? == some '\'' then
        quotedWord fuel single start (s.skipN 2) (text.push '\'')
      else if single && c == '\'' then .ok (s, text, false)
      else if !single && c == '"' then .ok (s, text, false)
      else if !single && c == '\\' && (more.head?.map isBreak).getD false then
        .ok (s.skip.skipLine, text, true)
      else if !single && c == '\\' then
        let e := more.headD (Char.ofNat 0)
        match shortEscape e with
        | some r => quotedWord fuel single start (s.skipN 2) (text.push r)
        | none =>
          let width := escapeWidth e
          if width == 0 then
            .error (s.fault (some ("while parsing a quoted scalar", start))
              "found unknown escape character")
          else
            let s := s.skipN 2
            let digits := s.rest.take width
            if digits.length < width || !digits.all isHexChar then
              .error (s.fault (some ("while parsing a quoted scalar", start))
                "did not find expected hexdecimal number")
            else
              let code := digits.foldl (fun n d => n * 16 + hexValue d) 0
              if (0xD800 ≤ code && code ≤ 0xDFFF) || 0x10FFFF < code then
                .error (s.fault (some ("while parsing a quoted scalar", start))
                  "found invalid Unicode character escape code")
              else quotedWord fuel single start (s.skipN width) (text.push (Char.ofNat code))
      else quotedWord fuel single start s.skip (text.push c)

/-- Reads the inside of a quoted scalar after its opening quote. -/
def quotedBody (fuel : Nat) (single : Bool) (start : Mark) (s : Scanner) (f : Folding) :
    Except Fault (Scanner × String) :=
  match fuel with
  | 0 => .ok (s, f.text)
  | fuel + 1 =>
    if s.mark.column == 0 && documentIndicatorAhead s.rest then
      .error (s.fault (some ("while scanning a quoted scalar", start))
        "found unexpected document indicator")
    else if s.rest.isEmpty then
      .error (s.fault (some ("while scanning a quoted scalar", start))
        "found unexpected end of stream")
    else do
      let (s, text, escapedBreak) ← quotedWord (s.rest.length + 1) single start s f.text
      let f := { f with text, leadingBlanks := escapedBreak }
      if s.rest.head? == some (if single then '\'' else '"') then pure (s, f.text)
      else
        let (s, f) ← foldBlanks (s.rest.length + 1) s f none
        let f := if f.leadingBlanks then
            let text :=
              if f.leadingBreak.startsWith "\n" then
                if f.trailingBreaks.isEmpty then f.text ++ " " else f.text ++ f.trailingBreaks
              else f.text ++ f.leadingBreak ++ f.trailingBreaks
            { f with text, leadingBreak := "", trailingBreaks := "", leadingBlanks := false }
          else { f with text := f.text ++ f.whitespace, whitespace := "" }
        quotedBody fuel single start s f

/-- A single- or double-quoted scalar token. -/
def fetchQuotedScalar (s : Scanner) (single : Bool) : Except Fault Scanner := do
  let s ← s.saveKey
  let s := { s with keyAllowed := false }
  let start := s.mark
  let (s, text) ← quotedBody (s.rest.length + 1) single start s.skip {}
  let s := s.skip
  pure (s.emit (.scalar text (if single then .singleQuoted else .doubleQuoted)) start s.mark)

/-- Skips the indentation and empty lines before a line of a block scalar; fixes the
indentation from the first non-empty line when no indicator gave it. -/
def blockBreaks (fuel : Nat) (s : Scanner) (indent : Nat) (breaks : String) (maxIndent : Nat)
    (start : Mark) (stop : Mark) : Except Fault (Scanner × Nat × String × Mark) :=
  match fuel with
  | 0 => .ok (s, indent, breaks, stop)
  | fuel + 1 =>
    let spaces := (s.rest.takeWhile (· == ' ')).length
    let take := if indent == 0 then spaces else min spaces (indent - s.mark.column)
    let s := s.skipN take
    let maxIndent := max maxIndent s.mark.column
    if (indent == 0 || s.mark.column < indent) && s.rest.head? == some '\t' then
      .error (s.fault (some ("while scanning a block scalar", start))
        "found a tab character where an indentation space is expected")
    else match s.rest with
      | c :: _ =>
        if isBreak c then
          let b := breakText s.rest
          let s := s.skipLine
          blockBreaks fuel s indent (breaks ++ b) maxIndent start s.mark
        else
          let indent := if indent == 0 then max (max maxIndent (s.indent + 1).toNat) 1 else indent
          .ok (s, indent, breaks, stop)
      | [] =>
        let indent := if indent == 0 then max (max maxIndent (s.indent + 1).toNat) 1 else indent
        .ok (s, indent, breaks, stop)

/-- Reads the lines of a block scalar at its indentation. -/
def blockLines (fuel : Nat) (literal : Bool) (start : Mark) (s : Scanner) (indent : Nat)
    (text leadingBreak trailingBreaks : String) (leadingBlank : Bool) (stop : Mark) :
    Except Fault (Scanner × String × String × String × Mark) :=
  match fuel with
  | 0 => .ok (s, text, leadingBreak, trailingBreaks, stop)
  | fuel + 1 =>
    if s.mark.column != indent || s.rest.isEmpty then
      .ok (s, text, leadingBreak, trailingBreaks, stop)
    else
      let trailingBlank := (s.rest.head?.map isBlank).getD false
      let text :=
        if !literal && !leadingBlank && !trailingBlank && leadingBreak.startsWith "\n" then
          if trailingBreaks.isEmpty then text ++ " " else text
        else text ++ leadingBreak
      let text := text ++ trailingBreaks
      let leadingBlank := (s.rest.head?.map isBlank).getD false
      let line := s.rest.takeWhile fun c => !(isBreak c || c.toNat == 0)
      let s := s.skipN line.length
      let text := text ++ String.ofList line
      let b := breakText s.rest
      let s := s.skipLine
      match blockBreaks (s.rest.length + 1) s indent "" 0 start stop with
      | .error e => .error e
      | .ok (s, indent, trailing, stop) =>
        blockLines fuel literal start s indent text b trailing leadingBlank stop

/-- A literal (`|`) or folded (`>`) block scalar, with its chomping and indentation
indicators. -/
def fetchBlockScalar (s : Scanner) (literal : Bool) : Except Fault Scanner := do
  let s ← s.removeKey
  let s := { s with keyAllowed := true }
  let start := s.mark
  let s := s.skip
  let chompOf (c : Char) : Int := if c == '+' then 1 else -1
  let (chomping, increment, s) ←
    match s.rest with
    | c :: more =>
      if c == '+' || c == '-' then
        match more with
        | d :: _ =>
          if d.isDigit then
            if d == '0' then
              Except.error ((s.skip).fault (some ("while scanning a block scalar", start))
                "found an indentation indicator equal to 0")
            else pure (chompOf c, d.toNat - '0'.toNat, s.skipN 2)
          else pure (chompOf c, 0, s.skip)
        | [] => pure (chompOf c, 0, s.skip)
      else if c.isDigit then
        if c == '0' then
          Except.error (s.fault (some ("while scanning a block scalar", start))
            "found an indentation indicator equal to 0")
        else match more with
          | e :: _ =>
            if e == '+' || e == '-' then pure (chompOf e, c.toNat - '0'.toNat, s.skipN 2)
            else pure (0, c.toNat - '0'.toNat, s.skip)
          | [] => pure (0, c.toNat - '0'.toNat, s.skip)
      else pure (0, 0, s)
    | [] => pure (0, 0, s)
  let s := s.skipN (s.rest.takeWhile isBlank).length
  let s := if s.rest.head? == some '#' then
      s.skipN (s.rest.takeWhile fun c => !(isBreak c || c.toNat == 0)).length
    else s
  if !breakzAhead s.rest then
    .error (s.fault (some ("while scanning a block scalar", start))
      "did not find expected comment or line break")
  else
    let s := s.skipLine
    let stop := s.mark
    let indent : Nat :=
      if increment > 0 then (if s.indent ≥ 0 then s.indent.toNat + increment else increment)
      else 0
    let (s, indent, breaks, stop) ← blockBreaks (s.rest.length + 1) s indent "" 0 start stop
    let (s, text, leadingBreak, trailingBreaks, stop) ←
      blockLines (s.rest.length + 1) literal start s indent "" "" breaks false stop
    let text := if chomping != -1 then text ++ leadingBreak else text
    let text := if chomping == 1 then text ++ trailingBreaks else text
    pure (s.emit (.scalar text (if literal then .literal else .folded)) start stop)

/-- Whether a plain scalar may start at `c`, followed by `more`. -/
def plainStart (flowLevel : Nat) (c : Char) (more : List Char) : Bool :=
  let indicators := "-?:,[]\x7b\x7d#&*!|>'\"%@".toList
  !(isBlank c || isBreak c || c.toNat == 0 || indicators.contains c || c.toNat == 96) ||
    (c == '-' && !((more.head?.map isBlank).getD false)) ||
    (flowLevel == 0 && (c == '?' || c == ':') && !blankzAhead more)

/-- Reads the next token, or the end of the text. -/
def fetchNext (s : Scanner) : Except Fault Scanner :=
  let scanMark := s.mark
  let s := s.toNextToken
  let s := s.unrollIndent s.mark.column scanMark
  match s.rest with
  | [] => s.fetchStreamEnd
  | c :: more =>
    let atLineStart := s.mark.column == 0
    if atLineStart && c == '%' then s.fetchDirective
    else if atLineStart && documentIndicatorAhead s.rest then
      s.fetchDocumentIndicator (if c == '-' then .documentStart else .documentEnd)
    else if c == '[' then s.fetchFlowStart .flowSequenceStart
    else if c == '{' then s.fetchFlowStart .flowMappingStart
    else if c == ']' then s.fetchFlowEnd .flowSequenceEnd
    else if c == '}' then s.fetchFlowEnd .flowMappingEnd
    else if c == ',' then s.fetchFlowEntry
    else if c == '-' && blankzAhead more then s.fetchBlockEntry
    else if c == '?' && (s.flowLevel > 0 || blankzAhead more) then s.fetchKey
    else if c == ':' && (s.flowLevel > 0 || blankzAhead more) then s.fetchValue
    else if c == '*' then s.fetchAnchor true
    else if c == '&' then s.fetchAnchor false
    else if c == '!' then s.fetchTag
    else if c == '|' && s.flowLevel == 0 then s.fetchBlockScalar true
    else if c == '>' && s.flowLevel == 0 then s.fetchBlockScalar false
    else if c == '\'' then s.fetchQuotedScalar true
    else if c == '"' then s.fetchQuotedScalar false
    else if plainStart s.flowLevel c more then s.fetchPlainScalar
    else .error (s.fault (some ("while scanning for the next token", s.mark))
      "found character that cannot start any token")

/-- Reads tokens until the end of the text or the first fault; on a fault, gives the state
before the token that failed. -/
def run : Nat → Scanner → Except (Fault × Scanner) Scanner
  | 0, s => .ok s
  | fuel + 1, s =>
    match s.fetchNext with
    | .error f => .error (f, s)
    | .ok s' => if s'.ended then .ok s' else run fuel s'

end Scanner

/-- The tokens of a text, the fault that stopped the scan if any, and the token positions
of the key candidates still open at that fault. -/
structure Scan where
  tokens : Array Token
  fault : Option Fault
  openKeys : List Nat

/-- Scans a whole text. A character outside the allowed set stops the reading before any
token. -/
def scan (text : String) : Scan :=
  if !text.toList.all isAllowedChar then
    ⟨#[], some ⟨.reader, none, "control characters are not allowed", {}⟩, []⟩
  else
    let start : Scanner := { rest := text.toList }
    let start := start.emit .streamStart {} {}
    match Scanner.run (text.length + 3) start with
    | .ok s => ⟨s.tokens, none, []⟩
    | .error (f, s) =>
      ⟨s.tokens, some f, (s.keys.filter (·.possible)).map (·.tokenNumber)⟩

end SlotAllocation.Yaml
