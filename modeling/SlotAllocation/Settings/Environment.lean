/-!
# The process environment

Settings may come from environment variables. This module holds the environment as a list
of names and values, the expansion of `$NAME` and `${NAME}` in setting texts, and the reading
of an environment file (`NAME=value` lines) whose variables are added to the environment
without replacing variables that are already set.

Expansion of a setting text replaces `${NAME}` by the variable's value (the empty text when
it is unset), `$NAME` likewise for a name of letters, digits and underscores, and `$` followed
by one of `* # $ @ ! ? -` or a digit by that one-character variable. `${}` and an unclosed `${`
are dropped; any other `$` stays.

An environment file is a series of statements: blank space and `#` comment lines are
skipped; a statement is an optional `export `, a name, `=` or `:`, and a value. A value in
single quotes is taken as written; one in double quotes may span lines, takes `\n` and `\r`
escapes, drops other backslashes, and expands `$NAME` from the variables defined earlier in
the same file; an unquoted value runs to the end of its line, loses a trailing ` # comment`
and surrounding blanks, and is expanded the same way. A name holding a character other than
letters, digits, `_`, `.` and inner blanks, or a quote that is never closed, makes the whole
file unreadable.
-/

namespace SlotAllocation

/-- Environment variables in the order they were set; names are unique. -/
structure Environment where
  vars : List (String × String)
deriving Inhabited

namespace Environment

/-- The value of a variable, if it is set. -/
def get? (e : Environment) (name : String) : Option String :=
  (e.vars.find? (·.1 == name)).map (·.2)

/-- The value of a variable, the empty text when unset. -/
def getD (e : Environment) (name : String) : String := (e.get? name).getD ""

/-- The value of a variable when it is set and not empty. -/
def present? (e : Environment) (name : String) : Option String :=
  match e.get? name with
  | some v => if v.isEmpty then none else some v
  | none => none

/-- Sets the variables of `more` that are not set yet. -/
def addMissing (e : Environment) (more : List (String × String)) : Environment :=
  ⟨e.vars ++ more.filter fun (k, _) => (e.get? k).isNone && !k.isEmpty⟩

end Environment

/-- Whether `c` names a one-character shell variable. -/
def isShellSpecial (c : Char) : Bool := "*#$@!?-0123456789".toList.contains c

/-- Whether `c` may stand in a shell variable name. -/
def isShellNameChar (c : Char) : Bool := c == '_' || c.isAlphanum

/-- The variable named right after a `$`, and how many characters the reference takes; an
empty name with a positive width is a malformed reference, one with width zero no reference. -/
def shellName (cs : List Char) : String × Nat :=
  match cs with
  | '{' :: s :: '}' :: _ =>
    if isShellSpecial s then (s.toString, 3)
    else braced cs
  | '{' :: _ => braced cs
  | c :: _ =>
    if isShellSpecial c then (c.toString, 1)
    else
      let name := cs.takeWhile isShellNameChar
      (String.ofList name, name.length)
  | [] => ("", 0)
where
  /-- A `${…}` reference: up to the closing brace. -/
  braced (cs : List Char) : String × Nat :=
    let inner := (cs.drop 1).takeWhile (· != '}')
    if (cs.drop (1 + inner.length)).isEmpty then ("", 1)
    else if inner.isEmpty then ("", 2)
    else (String.ofList inner, inner.length + 2)

/-- Expands shell variable references in a text. -/
def expandShell (lookup : String → String) (s : String) : String :=
  let rec go (fuel : Nat) (cs : List Char) (acc : String) : String :=
    match fuel with
    | 0 => acc ++ String.ofList cs
    | fuel + 1 =>
      match cs with
      | [] => acc
      | '$' :: rest =>
        if rest.isEmpty then acc.push '$'
        else
          let (name, width) := shellName rest
          if name.isEmpty && width > 0 then go fuel (rest.drop width) acc
          else if name.isEmpty then go fuel rest (acc.push '$')
          else go fuel (rest.drop width) (acc ++ lookup name)
      | c :: rest => go fuel rest (acc.push c)
  go (s.length + 1) s.toList ""

/-- Blanks that environment files trim around values: tab, vertical tab, form feed, carriage
return, space, next line and no-break space. -/
def isFileBlank (c : Char) : Bool :=
  c == '\t' || c.toNat == 11 || c.toNat == 12 || c == '\r' || c == ' ' || c.toNat == 0x85 ||
    c.toNat == 0xA0

/-- White space in the wide sense, which separates statements of an environment file. -/
def isWideSpace (c : Char) : Bool :=
  let n := c.toNat
  (9 ≤ n && n ≤ 13) || n == 32 || n == 0x85 || n == 0xA0 || n == 0x1680 ||
    (0x2000 ≤ n && n ≤ 0x200A) || n == 0x2028 || n == 0x2029 || n == 0x202F || n == 0x205F ||
    n == 0x3000

/-- Whether a byte, read as a Latin-1 character, is a letter or a number. -/
def isLatinWordByte (b : Nat) : Bool :=
  (0x30 ≤ b && b ≤ 0x39) || (0x41 ≤ b && b ≤ 0x5A) || (0x61 ≤ b && b ≤ 0x7A) || b == 0xAA ||
    b == 0xB5 || b == 0xBA || (0xC0 ≤ b && b ≤ 0xD6) || (0xD8 ≤ b && b ≤ 0xF6) || 0xF8 ≤ b ||
    b == 0xB2 || b == 0xB3 || b == 0xB9 || (0xBC ≤ b && b ≤ 0xBE)

/-- Whether a byte counts as a blank inside a variable name. -/
def isBlankByte (b : Nat) : Bool :=
  b == 9 || b == 11 || b == 12 || b == 13 || b == 32 || b == 0x85 || b == 0xA0

/-- Whether every byte of `c` may stand in a variable name (as a letter, number, `_`, `.`
or an inner blank). -/
def nameCharFits (c : Char) : Bool :=
  (String.singleton c).toUTF8.toList.all fun b =>
    let b := b.toNat
    isBlankByte b || b == 0x5F || b == 0x2E || isLatinWordByte b

/-- Expands `$NAME` and `${NAME}` (names of capitals, digits and `_`) from the variables read
so far; `\$` keeps a literal `$`. -/
def expandFileVars (vars : List (String × String)) (s : String) : String :=
  let lookup := fun (n : String) => ((vars.reverse.find? (·.1 == n)).map (·.2)).getD ""
  let isNameChar := fun (c : Char) => c.isUpper || c.isDigit || c == '_'
  let rec go (fuel : Nat) (cs : List Char) (acc : String) : String :=
    match fuel with
    | 0 => acc ++ String.ofList cs
    | fuel + 1 =>
      match cs with
      | [] => acc
      | '\\' :: '$' :: rest =>
        -- an escaped reference loses its backslash and is kept
        let r1 := match rest with
          | '(' :: r => r
          | r => r
        let r2 := match r1 with
          | '{' :: r => r
          | r => r
        let name := r2.takeWhile isNameChar
        let r3 := r2.drop name.length
        let r4 := match r3 with
          | '}' :: r => r
          | r => r
        let width := rest.length - r4.length
        go fuel r4 (acc ++ "$" ++ String.ofList (rest.take width))
      | '$' :: rest =>
        let r1 := match rest with
          | '(' :: r => r
          | r => r
        let r2 := match r1 with
          | '{' :: r => r
          | r => r
        let name := r2.takeWhile isNameChar
        let r3 := r2.drop name.length
        let r4 := match r3 with
          | '}' :: r => r
          | r => r
        if name.isEmpty then go fuel r4 (acc ++ "$" ++ String.ofList (rest.take (rest.length - r4.length)))
        else go fuel r4 (acc ++ lookup (String.ofList name))
      | c :: rest => go fuel rest (acc.push c)
  go (s.length + 1) s.toList ""

/-- Turns `\n` and `\r` into line breaks and drops the backslash before any other character
but `$`. -/
def unescapeFileText (s : String) : String :=
  let rec first (fuel : Nat) (cs : List Char) (acc : List Char) : List Char :=
    match fuel with
    | 0 => acc.reverse ++ cs
    | fuel + 1 =>
      match cs with
      | '\\' :: 'n' :: r => first fuel r ('\n' :: acc)
      | '\\' :: 'r' :: r => first fuel r ('\r' :: acc)
      | '\\' :: c :: r => if c == '\n' then first fuel (c :: r) ('\\' :: acc)
        else first fuel r (c :: '\\' :: acc)
      | c :: r => first fuel r (c :: acc)
      | [] => acc.reverse
  let rec second (fuel : Nat) (cs : List Char) (acc : List Char) : List Char :=
    match fuel with
    | 0 => acc.reverse ++ cs
    | fuel + 1 =>
      match cs with
      | '\\' :: c :: r => if c == '$' then second fuel (c :: r) ('\\' :: acc)
        else second fuel r (c :: acc)
      | c :: r => second fuel r (c :: acc)
      | [] => acc.reverse
  let once := first (s.length + 1) s.toList []
  String.ofList (second (once.length + 1) once [])

/-- Reads the name of a statement: up to `=` or `:`, skipping an `export ` prefix; gives the
name and the text after the separator, or none when a character cannot stand in a name. -/
def readFileName (cs : List Char) : Option (String × List Char) :=
  let cs := cs.dropWhile isFileBlank
  let cs := match cs with
    | 'e' :: 'x' :: 'p' :: 'o' :: 'r' :: 't' :: r =>
      match r with
      | c :: _ => if isFileBlank c then r.dropWhile isFileBlank else cs
      | [] => cs
    | _ => cs
  let rec scanName (fuel : Nat) (rest : List Char) (name : List Char) :
      Option (List Char × List Char) :=
    match fuel with
    | 0 => none
    | fuel + 1 =>
      match rest with
      | [] => some ([], cs)
      | c :: more =>
        if c == '=' || c == ':' then some (name.reverse, more)
        else if nameCharFits c then scanName fuel more (c :: name)
        else none
  match scanName (cs.length + 1) cs [] with
  | none => none
  | some (name, after) =>
    let trimmed := (name.reverse.dropWhile isWideSpace).reverse
    some (String.ofList trimmed, after.dropWhile isFileBlank)

/-- Reads the value of a statement; gives the value and the text after it, or none for an
unclosed quote. -/
def readFileValue (vars : List (String × String)) (cs : List Char) :
    Option (String × List Char) :=
  match cs with
  | q :: rest =>
    if q == '\'' || q == '"' then
      -- the closing quote is the first one not preceded by a backslash
      let rec closing (fuel : Nat) (prev : Char) (i : Nat) (r : List Char) : Option Nat :=
        match fuel with
        | 0 => none
        | fuel + 1 =>
          match r with
          | [] => none
          | c :: more => if c == q && prev != '\\' then some i else closing fuel c (i + 1) more
      match closing (rest.length + 1) q 0 rest with
      | none => none
      | some i =>
        let inner := (q :: rest.take i).dropWhile (· == q)
        let inner := (inner.reverse.dropWhile (· == q)).reverse
        let text := String.ofList inner
        let value := if q == '"' then expandFileVars vars (unescapeFileText text) else text
        some (value, rest.drop (i + 1))
    else unquoted cs
  | [] => some ("", [])
where
  /-- A value that runs to the end of its line. -/
  unquoted (cs : List Char) : Option (String × List Char) :=
    let line := cs.takeWhile fun c => c != '\n' && c != '\r'
    let after := cs.drop line.length
    let cut := lastComment line
    let body := line.take cut
    let body := (body.dropWhile isFileBlank).reverse.dropWhile isFileBlank |>.reverse
    some (expandFileVars vars (String.ofList body), after)
  /-- Where a trailing comment (a `#` after a blank) starts: the last such `#`. -/
  lastComment (line : List Char) : Nat :=
    let marks := (line.zipIdx.filter fun (c, i) =>
      c == '#' && i > 0 && ((line.drop (i - 1)).head?.map isFileBlank).getD false).map (·.2)
    marks.getLast?.getD line.length

/-- Reads the statements of an environment file; none when it cannot be read. -/
def readEnvFile (text : String) : Option (List (String × String)) :=
  let cs := (text.replace "\r\n" "\n").toList
  let rec statements (fuel : Nat) (cs : List Char) (vars : List (String × String)) :
      Option (List (String × String)) :=
    match fuel with
    | 0 => some vars
    | fuel + 1 =>
      let cs := cs.dropWhile isWideSpace
      match cs with
      | [] => some vars
      | '#' :: _ =>
        let rest := cs.dropWhile (· != '\n')
        if rest.isEmpty then some vars else statements fuel rest vars
      | _ =>
        match readFileName cs with
        | none => none
        | some (name, after) =>
          match readFileValue vars after with
          | none => none
          | some (value, rest) =>
            statements fuel rest ((vars.filter (·.1 != name)) ++ [(name, value)])
  statements (cs.length + 1) cs []

end SlotAllocation
