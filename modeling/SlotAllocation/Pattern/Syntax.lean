import SlotAllocation.Pattern.CharSet

/-!
# Pattern syntax

`Node.parse` reads a regular expression in the RE2 syntax with the Perl extensions:

* literals, `.` (any character but a line feed, unless the `s` flag is on), classes in
  brackets (ranges, negation with `^`, the bracket names, `\d \s \w`, `\p` names), `^` and
  `$` (the ends of the text, or of lines under the `m` flag), `\A`, `\z`, `\b`, `\B`;
* escapes: a backslash before any ASCII character that is not a letter or digit stands for
  that character; `\a \f \n \r \t \v`; octal `\0`, `\12`, `\123` (a lone `\1` to `\7`
  would be a back reference and is refused); hexadecimal `\x7F` and `\x{10FFFF}`;
  `\Q...\E` quotes text;
* groups `(...)`, `(?:...)`, named groups `(?P<name>...)` and `(?<name>...)` (names of
  letters, digits and `_`), and the flags `i`, `m`, `s`, `U` in `(?flags)` and
  `(?flags:...)`, with `-` clearing them; flags hold until the group around them closes;
* alternation `|` and repetition `*`, `+`, `?`, `{n}`, `{n,}`, `{n,m}`, each optionally
  followed by `?`. A brace that does not open a well-formed count is a literal.

It refuses: a repetition with nothing to repeat (at the start, after `(` or `|`), a
repetition directly after another, a count above 1000 or a minimum above the maximum,
nested counts whose product could pass 1000, unbalanced parentheses or brackets, a reversed
range, an unknown class name, a bad escape, a bad group or flag syntax, and a pattern whose
tree (`Node.height`) is more than 1000 levels high.
-/

namespace SlotAllocation.Pattern

/-- A zero-width condition on a place in the text. -/
inductive Anchor where
  | textStart
  | textEnd
  | lineStart
  | lineEnd
  | wordBoundary
  | notWordBoundary
deriving Repr, DecidableEq, Inhabited

/-- A parsed pattern. A literal character keeps the set it matches (its case partners
included when case is ignored); a capturing group is kept as such; a repetition records
whether it was written as a count in braces. -/
inductive Node where
  | empty
  | chars (set : CharSet)
  | literal (set : CharSet)
  | anchor (a : Anchor)
  | seq (items : List Node)
  | alt (branches : List Node)
  | group (sub : Node)
  | repeat (sub : Node) (min : Nat) (max : Option Nat) (counted : Bool)
deriving Repr, Inhabited

/-- Why a pattern is refused. -/
inductive PatternError where
  | trailingBackslash
  | invalidEscape
  | missingBracket
  | invalidClassRange
  | invalidNamedCapture
  | invalidPerlOp
  | missingParen
  | unexpectedParen
  | missingRepeatArgument
  | invalidNestedRepeat
  | invalidRepeatSize
  | nestingDepth
deriving Repr, DecidableEq

/-- The flags in force while reading. -/
structure Flags where
  foldCase : Bool := false
  oneLine : Bool := true
  dotNewline : Bool := false
deriving Repr, DecidableEq

/-- An entry of the parse stack: a finished piece, an open parenthesis with the flags to
restore when it closes and whether it captures, or an alternation bar. -/
inductive Item where
  | node (n : Node)
  | paren (saved : Flags) (capture : Bool)
  | bar

mutual
/-- Whether the counts of a pattern stay within `n`: a count multiplies the budget of what it
repeats, and a count of at most zero repetitions leaves nothing to check. -/
def Node.countsWithin : Node → Nat → Bool
  | .repeat sub min max counted, n =>
    if !counted then sub.countsWithin n
    else match max with
      | some 0 => true
      | _ =>
        let m := max.getD min
        if m > n then false else sub.countsWithin (if m > 0 then n / m else n)
  | .seq items, n => countsWithinAll items n
  | .alt branches, n => countsWithinAll branches n
  | .group sub, n => sub.countsWithin n
  | _, _ => true

/-- Whether the counts of every pattern of a list stay within `n`. -/
def countsWithinAll : List Node → Nat → Bool
  | [], _ => true
  | x :: xs, n => x.countsWithin n && countsWithinAll xs n
end

/-- Whether a pattern is a single character: a literal or a class. -/
def Node.isSingle : Node → Bool
  | .literal _ | .chars _ => true
  | _ => false

/-- Whether a pattern is a literal character. -/
def Node.isLiteral : Node → Bool
  | .literal _ => true
  | _ => false

mutual
/-- The height of the tree a pattern is held as: a run of literals is one string, and
alternatives that are each one character are one class; a group and a repetition add a
level above what they hold, a sequence or an alternation of other patterns one level above
the highest of them. -/
def Node.height : Node → Nat
  | .group sub => sub.height + 1
  | .repeat sub _ _ _ => sub.height + 1
  | .seq items => if items.all Node.isLiteral then 1 else heightAll items + 1
  | .alt branches => if branches.all Node.isSingle then 1 else heightAll branches + 1
  | _ => 1

/-- The greatest height of a list of patterns. -/
def heightAll : List Node → Nat
  | [] => 0
  | x :: xs => max x.height (heightAll xs)
end

/-- The greatest height a pattern's tree may have. -/
def maxHeight : Nat := 1000

/-- Whether a character is an ASCII letter or digit. -/
def isAlnum (c : Char) : Bool := c.isAlpha || c.isDigit

/-- Whether a character is an octal digit. -/
def isOctal (c : Char) : Bool := '0' ≤ c && c ≤ '7'

/-- The value of a hexadecimal digit. -/
def hexValue? (c : Char) : Option Nat :=
  if c.isDigit then some (c.toNat - '0'.toNat)
  else if 'a' ≤ c && c ≤ 'f' then some (c.toNat - 'a'.toNat + 10)
  else if 'A' ≤ c && c ≤ 'F' then some (c.toNat - 'A'.toNat + 10)
  else none

/-- Reads the hexadecimal digits of `\x{...}` up to the closing brace: at least one digit,
the value at most the largest code point. -/
def hexBraced (value count : Nat) : List Char → Except PatternError (Nat × List Char)
  | [] => .error .invalidEscape
  | '}' :: rest => if count == 0 then .error .invalidEscape else .ok (value, rest)
  | c :: rest =>
    match hexValue? c with
    | none => .error .invalidEscape
    | some v =>
      let value := value * 16 + v
      if value > maxCode then .error .invalidEscape else hexBraced value (count + 1) rest

/-- Reads up to `more` further octal digits onto `value`. -/
def octalTail (value : Nat) : Nat → List Char → Nat × List Char
  | 0, cs => (value, cs)
  | more + 1, c :: rest => if isOctal c then octalTail (value * 8 + (c.toNat - '0'.toNat)) more rest else (value, c :: rest)
  | _, [] => (value, [])

/-- Reads one escape after a backslash, as the code point it stands for. -/
def parseEscape : List Char → Except PatternError (Nat × List Char)
  | [] => .error .trailingBackslash
  | c :: rest =>
    if c.toNat < 0x80 && !isAlnum c then .ok (c.toNat, rest)
    else if c == '0' then .ok (octalTail 0 2 rest)
    else if '1' ≤ c && c ≤ '7' then
      match rest with
      | d :: _ => if isOctal d then .ok (octalTail (c.toNat - '0'.toNat) 2 rest) else .error .invalidEscape
      | [] => .error .invalidEscape
    else match c with
      | 'x' =>
        match rest with
        | '{' :: more => hexBraced 0 0 more
        | a :: b :: more =>
          match hexValue? a, hexValue? b with
          | some x, some y => .ok (x * 16 + y, more)
          | _, _ => .error .invalidEscape
        | _ => .error .invalidEscape
      | 'a' => .ok (7, rest)
      | 'f' => .ok (12, rest)
      | 'n' => .ok (10, rest)
      | 'r' => .ok (13, rest)
      | 't' => .ok (9, rest)
      | 'v' => .ok (11, rest)
      | _ => .error .invalidEscape

/-- A named or escaped class under the flags: folded when case is ignored, then negated
when asked. -/
def groupSet (flags : Flags) (base : CharSet) (negated : Bool) : CharSet :=
  let s := if flags.foldCase then base.folded else base
  if negated then s.complement else s

/-- The set of one code point under the flags. -/
def literalSet (flags : Flags) (code : Nat) : CharSet :=
  groupSet flags (CharSet.range code code) false

/-- Splits off the text up to the first occurrence of `c`. -/
def splitAt (c : Char) : List Char → Option (List Char × List Char)
  | [] => none
  | d :: rest => if d == c then some ([], rest) else (splitAt c rest).map fun (a, b) => (d :: a, b)

/-- Splits off the text up to the first `:]`. -/
def splitAtColonBracket : List Char → Option (List Char × List Char)
  | ':' :: ']' :: rest => some ([], rest)
  | d :: rest => (splitAtColonBracket rest).map fun (a, b) => (d :: a, b)
  | [] => none

/-- Reads a Unicode class after `\p` or `\P` (`negated` for `\P`): a one-letter name or a
name in braces, itself negated by a leading `^`. -/
def unicodeClass (flags : Flags) (negated : Bool) (t : List Char) :
    Except PatternError (CharSet × List Char) := do
  let (name, rest) ← match t with
    | '{' :: more => match splitAt '}' more with
      | some r => pure r
      | none => throw .invalidClassRange
    | c :: more => pure ([c], more)
    | [] => throw .invalidClassRange
  let (negated, name) := match name with
    | '^' :: n => (!negated, n)
    | n => (negated, n)
  match CharSet.unicodeClass? (String.ofList name) with
  | some s => pure (groupSet flags s negated, rest)
  | none => throw .invalidClassRange

/-- Reads one character of a bracket class, escaped or plain. -/
def classChar : List Char → Except PatternError (Nat × List Char)
  | [] => .error .missingBracket
  | '\\' :: rest => parseEscape rest
  | c :: rest => .ok (c.toNat, rest)

/-- Reads the end of a range that starts at `lo`: a `-` and a character other than `]`,
or nothing. -/
def rangeEnd (lo : Nat) (t : List Char) : Except PatternError (Nat × List Char) := do
  let (hi, rest) ← match t with
    | '-' :: c :: more => if c == ']' then pure (lo, t) else classChar (c :: more)
    | _ => pure (lo, t)
  if hi < lo then throw .invalidClassRange
  pure (hi, rest)

/-- Reads the members of a bracket class up to its closing bracket (which may come first as
a member), adding their ranges to `acc`. -/
def classItems (flags : Flags) (fuel : Nat) (first : Bool) (acc : CharSet) (t : List Char) :
    Except PatternError (CharSet × List Char) :=
  match fuel with
  | 0 => .error .missingBracket
  | fuel + 1 =>
    let member (lo : Nat) (t : List Char) : Except PatternError (CharSet × List Char) := do
      let (hi, rest) ← rangeEnd lo t
      classItems flags fuel false (acc.union (groupSet flags (CharSet.range lo hi) false)) rest
    match t with
    | ']' :: rest => if first then member ']'.toNat rest else .ok (acc, rest)
    | '[' :: ':' :: more =>
      match splitAtColonBracket more with
      | some (name, after) =>
        let (negated, name) := match name with
          | '^' :: n => (true, n)
          | n => (false, n)
        match CharSet.posixClass? (String.ofList name) with
        | some s => classItems flags fuel false (acc.union (groupSet flags s negated)) after
        | none => .error .invalidClassRange
      | none => member '['.toNat (':' :: more)
    | '\\' :: c :: more =>
      if c == 'p' || c == 'P' then do
        let (s, after) ← unicodeClass flags (c == 'P') more
        classItems flags fuel false (acc.union s) after
      else match CharSet.perlClass? c with
        | some (s, negated) => classItems flags fuel false (acc.union (groupSet flags s negated)) more
        | none => do
          let (lo, after) ← parseEscape (c :: more)
          member lo after
    | c :: more => member c.toNat more
    | [] => .error .missingBracket

/-- Reads a bracket class after its opening bracket. -/
def parseClass (flags : Flags) (t : List Char) : Except PatternError (CharSet × List Char) := do
  let (negated, t) := match t with
    | '^' :: rest => (true, rest)
    | _ => (false, t)
  let (s, rest) ← classItems flags (t.length + 1) true CharSet.empty t
  pure (if negated then s.complement else s, rest)

/-- Reads a decimal count without leading zeros. -/
def countDigits (cs : List Char) : Option (Nat × List Char) :=
  let ds := cs.takeWhile Char.isDigit
  match ds with
  | [] => none
  | '0' :: _ :: _ => none
  | _ => some (ds.foldl (fun n d => n * 10 + (d.toNat - '0'.toNat)) 0, cs.drop ds.length)

/-- Reads a count in braces after `{`: a minimum, and a maximum that is absent when
unbounded. -/
def braceCount (t : List Char) : Option (Nat × Option Nat × List Char) := do
  let (lo, rest) ← countDigits t
  match rest with
  | '}' :: after => some (lo, some lo, after)
  | ',' :: '}' :: after => some (lo, none, after)
  | ',' :: more =>
    let (hi, rest) ← countDigits more
    match rest with
    | '}' :: after => some (lo, some hi, after)
    | _ => none
  | _ => none

/-- The nodes above the nearest parenthesis or bar, topmost first, and the stack below. -/
def takeNodes : List Item → List Node × List Item
  | .node n :: rest => let (ns, below) := takeNodes rest; (n :: ns, below)
  | rest => ([], rest)

/-- A sequence of nodes given topmost first. -/
def seqOf (topFirst : List Node) : Node :=
  match topFirst.reverse with
  | [] => .empty
  | [n] => n
  | ns => .seq ns

/-- The alternatives above the nearest parenthesis, last first, and the stack below. -/
def takeBranches : Nat → List Item → List Node × List Item
  | 0, stack => ([], stack)
  | fuel + 1, stack =>
    let (ns, below) := takeNodes stack
    match below with
    | .bar :: more => let (bs, rest) := takeBranches fuel more; (seqOf ns :: bs, rest)
    | _ => ([seqOf ns], below)

/-- Alternatives as one node. -/
def altOf (branches : List Node) : Node :=
  match branches with
  | [b] => b
  | bs => .alt bs

/-- The state of reading a pattern. -/
structure Reader where
  stack : List Item := []
  flags : Flags := {}

namespace Reader

/-- Pushes a finished piece. -/
def push (r : Reader) (n : Node) : Reader := { r with stack := .node n :: r.stack }

/-- Ends the current alternative. -/
def bar (r : Reader) : Reader :=
  let (ns, below) := takeNodes r.stack
  { r with stack := .bar :: .node (seqOf ns) :: below }

/-- Closes the innermost group and restores the flags it opened with. -/
def close (r : Reader) : Except PatternError Reader :=
  match takeBranches (r.stack.length + 1) r.stack with
  | (bs, .paren saved capture :: below) =>
    let inner := altOf bs.reverse
    .ok { stack := .node (if capture then .group inner else inner) :: below, flags := saved }
  | _ => .error .unexpectedParen

/-- Applies a repetition to the piece on top. -/
def repeatTop (r : Reader) (min : Nat) (max : Option Nat) (counted : Bool) :
    Except PatternError Reader :=
  match r.stack with
  | .node n :: below =>
    let node := Node.repeat n min max counted
    if counted && (min ≥ 2 || max.any (· ≥ 2)) && !node.countsWithin 1000 then
      .error .invalidRepeatSize
    else .ok { r with stack := .node node :: below }
  | _ => .error .missingRepeatArgument

/-- Pushes a literal code point. -/
def literal (r : Reader) (code : Nat) : Reader := r.push (.literal (literalSet r.flags code))

/-- Pushes each character of a quoted text. -/
def literals (r : Reader) (cs : List Char) : Reader := cs.foldl (fun r c => r.literal c.toNat) r

end Reader

/-- Whether a text is a valid group name: letters, digits and `_`, at least one. -/
def isGroupName (cs : List Char) : Bool := !cs.isEmpty && cs.all fun c => c == '_' || isAlnum c

/-- Reads the flags of `(?flags)` or `(?flags:`, starting from `flags`; `cleared` tells
whether a `-` was read and `seen` whether a flag followed it. -/
def flagGroup (r : Reader) (flags : Flags) (cleared seen : Bool) :
    List Char → Except PatternError (Reader × List Char)
  | [] => .error .missingParen
  | c :: rest =>
    let on := !cleared
    match c with
    | 'i' => flagGroup r { flags with foldCase := on } cleared true rest
    | 'm' => flagGroup r { flags with oneLine := !on } cleared true rest
    | 's' => flagGroup r { flags with dotNewline := on } cleared true rest
    | 'U' => flagGroup r flags cleared true rest
    | '-' => if cleared then .error .invalidPerlOp else flagGroup r flags true false rest
    | ':' =>
      if cleared && !seen then .error .invalidPerlOp
      else .ok ({ stack := .paren r.flags false :: r.stack, flags := flags }, rest)
    | ')' =>
      if cleared && !seen then .error .invalidPerlOp
      else .ok ({ r with flags := flags }, rest)
    | _ => .error .invalidPerlOp

/-- Reads a group opened by `(?`: a named group or flags. -/
def perlGroup (r : Reader) (t : List Char) : Except PatternError (Reader × List Char) :=
  let named : Option (List Char) := match t with
    | 'P' :: '<' :: rest@(_ :: _) => some rest
    | '<' :: rest@(_ :: _) => some rest
    | _ => none
  match named with
  | some rest =>
    match splitAt '>' rest with
    | some (name, after) =>
      if isGroupName name then .ok ({ r with stack := .paren r.flags true :: r.stack }, after)
      else .error .invalidNamedCapture
    | none => .error .invalidNamedCapture
  | none => flagGroup r r.flags false false t

/-- Reads a pattern; `repeated` tells whether the previous token was a repetition. -/
def readPattern (fuel : Nat) (r : Reader) (repeated : Bool) (t : List Char) :
    Except PatternError Reader :=
  match fuel with
  | 0 => .ok r
  | fuel + 1 =>
    let repetition (min : Nat) (max : Option Nat) (counted : Bool) (rest : List Char) :
        Except PatternError Reader := do
      let rest := match rest with
        | '?' :: more => more
        | _ => rest
      if repeated then throw .invalidNestedRepeat
      let r ← r.repeatTop min max counted
      readPattern fuel r true rest
    match t with
    | [] => .ok r
    | '(' :: '?' :: rest => do
      let (r, rest) ← perlGroup r rest
      readPattern fuel r false rest
    | '(' :: rest => readPattern fuel { r with stack := .paren r.flags true :: r.stack } false rest
    | '|' :: rest => readPattern fuel r.bar false rest
    | ')' :: rest => do readPattern fuel (← r.close) false rest
    | '^' :: rest =>
      readPattern fuel (r.push (.anchor (if r.flags.oneLine then .textStart else .lineStart))) false rest
    | '$' :: rest =>
      readPattern fuel (r.push (.anchor (if r.flags.oneLine then .textEnd else .lineEnd))) false rest
    | '.' :: rest =>
      let set := if r.flags.dotNewline then CharSet.any else (CharSet.single '\n').complement
      readPattern fuel (r.push (.chars set)) false rest
    | '[' :: rest => do
      let (set, rest) ← parseClass r.flags rest
      readPattern fuel (r.push (.chars set)) false rest
    | '*' :: rest => repetition 0 none false rest
    | '+' :: rest => repetition 1 none false rest
    | '?' :: rest => repetition 0 (some 1) false rest
    | '{' :: rest =>
      match braceCount rest with
      | some (lo, hi, after) =>
        if lo > 1000 || hi.any (· > 1000) || hi.any (· < lo) then .error .invalidRepeatSize
        else repetition lo hi true after
      | none => readPattern fuel (r.literal '{'.toNat) false rest
    | '\\' :: c :: rest =>
      match c with
      | 'A' => readPattern fuel (r.push (.anchor .textStart)) false rest
      | 'z' => readPattern fuel (r.push (.anchor .textEnd)) false rest
      | 'b' => readPattern fuel (r.push (.anchor .wordBoundary)) false rest
      | 'B' => readPattern fuel (r.push (.anchor .notWordBoundary)) false rest
      | 'C' => .error .invalidEscape
      | 'Q' =>
        let (quoted, after) := quotedText rest
        readPattern fuel (r.literals quoted) false after
      | 'p' | 'P' => do
        let (set, rest) ← unicodeClass r.flags (c == 'P') rest
        readPattern fuel (r.push (.chars set)) false rest
      | _ =>
        match CharSet.perlClass? c with
        | some (s, negated) => readPattern fuel (r.push (.chars (groupSet r.flags s negated))) false rest
        | none => do
          let (code, rest) ← parseEscape (c :: rest)
          readPattern fuel (r.literal code) false rest
    | ['\\'] => .error .trailingBackslash
    | c :: rest => readPattern fuel (r.literal c.toNat) false rest
where
  /-- The text up to `\E` (or the end), and what follows the `\E`. -/
  quotedText : List Char → List Char × List Char
    | '\\' :: 'E' :: rest => ([], rest)
    | c :: rest => let (q, after) := quotedText rest; (c :: q, after)
    | [] => ([], [])

/-- Parses a pattern. -/
def Node.parse (text : String) : Except PatternError Node := do
  let cs := text.toList
  let r ← readPattern (cs.length + 1) {} false cs
  match takeBranches (r.stack.length + 1) r.stack with
  | (bs, []) =>
    let node := altOf bs.reverse
    if node.height > maxHeight then throw .nestingDepth
    pure node
  | _ => throw .missingParen

end SlotAllocation.Pattern
