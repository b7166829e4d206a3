/-!
# Tokens of a YAML text

A YAML text is read in two steps: the scanner cuts it into tokens, the parser builds nodes
from them. This module holds what both share: positions (`Mark`, counted from zero in
characters, lines and columns), the tokens, and the faults either step can meet.

A fault prints as `yaml: line N: <problem>`, where the line is that of the context the
fault names if it lies past the first line, otherwise that of the problem, and is left out
when both lie on the first line. Lines of scanner faults are counted from one, those of
parser faults from zero, as the reader this format follows reports them.
-/

namespace SlotAllocation.Yaml

/-- A position in the text: characters read, line and column, all from zero. -/
structure Mark where
  index : Nat := 0
  line : Nat := 0
  column : Nat := 0
deriving DecidableEq, Repr, Inhabited

/-- How a scalar was written. -/
inductive Style where
  | plain
  | singleQuoted
  | doubleQuoted
  | literal
  | folded
deriving DecidableEq, Repr

/-- The kinds of tokens. -/
inductive TokenKind where
  | streamStart
  | streamEnd
  | documentStart
  | documentEnd
  | blockSequenceStart
  | blockMappingStart
  | blockEnd
  | flowSequenceStart
  | flowSequenceEnd
  | flowMappingStart
  | flowMappingEnd
  | blockEntry
  | flowEntry
  | key
  | value
  | alias (name : String)
  | anchor (name : String)
  | tag (handle suffix : String)
  | versionDirective (major minor : Nat)
  | tagDirective (handle pfx : String)
  | scalar (text : String) (style : Style)
deriving DecidableEq, Repr

/-- A token and where it starts and stops. -/
structure Token where
  kind : TokenKind
  start : Mark
  stop : Mark
deriving DecidableEq, Repr

/-- Which step met a fault. -/
inductive Stage where
  | reader
  | scanner
  | parser
deriving DecidableEq, Repr

/-- A fault: the step, what was being read and where it began, the problem and where. -/
structure Fault where
  stage : Stage
  context : Option (String × Mark)
  problem : String
  mark : Mark
deriving DecidableEq, Repr

/-- The text of a fault. -/
def Fault.message (f : Fault) : String :=
  let shift := if f.stage == .scanner then 1 else 0
  let contextLine := match f.context with
    | some (_, m) => m.line
    | none => 0
  let line :=
    if contextLine != 0 then contextLine + shift
    else if f.mark.line != 0 then f.mark.line + shift
    else 0
  "yaml: " ++ (if line != 0 then "line " ++ toString line ++ ": " else "") ++ f.problem

/-- Whether `c` is a space or a tab. -/
def isBlank (c : Char) : Bool := c == ' ' || c == '\t'

/-- Whether `c` breaks a line: carriage return, line feed, next line, line or paragraph
separator. -/
def isBreak (c : Char) : Bool :=
  c == '\r' || c == '\n' || c.toNat == 0x85 || c.toNat == 0x2028 || c.toNat == 0x2029

/-- Whether the text ahead is empty or starts with a blank or a line break. -/
def blankzAhead : List Char → Bool
  | [] => true
  | c :: _ => isBlank c || isBreak c || c.toNat == 0

/-- Whether the text ahead is empty or starts with a line break. -/
def breakzAhead : List Char → Bool
  | [] => true
  | c :: _ => isBreak c || c.toNat == 0

/-- Whether `c` may appear in a YAML text at all: tab, line feed, carriage return, printable
ASCII, next line, and the printable ranges above. -/
def isAllowedChar (c : Char) : Bool :=
  let n := c.toNat
  n == 0x09 || n == 0x0A || n == 0x0D || (0x20 ≤ n && n ≤ 0x7E) || n == 0x85 ||
    (0xA0 ≤ n && n ≤ 0xD7FF) || (0xE000 ≤ n && n ≤ 0xFFFD) || 0x10000 ≤ n

end SlotAllocation.Yaml
