import SlotAllocation.Text.Quoted

/-!
# Numerals and truth values in text

`readInt` reads a signed 64-bit integer written with an optional sign and a base prefix:
`0x` for sixteen, `0o` for eight, `0b` for two, a bare leading `0` for eight, and ten
otherwise. Underscores may separate digits, and a prefix from the first digit. A numeral
whose value leaves the word range is out of range; the first digit past the unsigned 64-bit
range decides that, before any later character is looked at.

`readBool` reads the twelve spellings `1 t T TRUE true True` and `0 f F FALSE false False`.

Failures carry the reader's name and the text read, and print as
`strconv.<reader>: parsing "<text>": invalid syntax` or `…: value out of range`.
-/

namespace SlotAllocation.Numeral

/-- Why a numeral was refused. -/
inductive Fault where
  /-- The text is not a numeral. -/
  | malformed
  /-- The value does not fit. -/
  | outOfRange
deriving DecidableEq, Repr

/-- A refused numeral: the reader, the text and the fault. -/
structure Failure where
  reader : String
  text : String
  fault : Fault
deriving DecidableEq, Repr

/-- The text of a refused numeral. -/
def Failure.message (f : Failure) : String :=
  "strconv." ++ f.reader ++ ": parsing " ++ Text.quote f.text ++ ": " ++
    (match f.fault with
      | .malformed => "invalid syntax"
      | .outOfRange => "value out of range")

/-- The value of a digit or letter as a digit: letters count from ten, either case. -/
def digitValue (c : Char) : Nat :=
  if c.isDigit then c.toNat - '0'.toNat
  else if c.isAlpha then c.toLower.toNat - 'a'.toNat + 10
  else 99

/-- The base a numeral names and the digits after its prefix. A bare leading `0` names
eight and is itself the prefix. -/
def basePrefix : List Char → Nat × List Char
  | '0' :: m :: d :: rest =>
    if m.toLower == 'b' then (2, d :: rest)
    else if m.toLower == 'o' then (8, d :: rest)
    else if m.toLower == 'x' then (16, d :: rest)
    else (8, m :: d :: rest)
  | '0' :: rest => (8, rest)
  | cs => (10, cs)

/-- Walks a numeral's digits after its prefix; `seen` is the kind of the last character:
`0` a digit or the prefix, `_` an underscore, `!` anything else, `^` nothing yet. An
underscore must follow a digit or the prefix, and a digit must follow it. -/
def underscoreWalk (hex : Bool) (seen : Char) : List Char → Bool
  | [] => seen != '_'
  | c :: rest =>
    if c.isDigit || (hex && c.isHexDigit) then underscoreWalk hex '0' rest
    else if c == '_' then seen == '0' && underscoreWalk hex '_' rest
    else seen != '_' && underscoreWalk hex '!' rest

/-- Whether every underscore of a numeral stands between two digits, or between a base
prefix and a digit. -/
def underscoresFit (cs : List Char) : Bool :=
  let body := match cs with
    | '+' :: r => r
    | '-' :: r => r
    | r => r
  match body with
  | '0' :: m :: r =>
    if m.toLower == 'b' || m.toLower == 'o' || m.toLower == 'x' then
      underscoreWalk (m.toLower == 'x') '0' r
    else underscoreWalk false '^' body
  | _ => underscoreWalk false '^' body

/-- Reads the digits of an unsigned numeral in `base`, accumulating into `n`: the first digit
that carries the value past 2⁶⁴ - 1 gives `outOfRange`, a character that is no digit of the
base gives `malformed`. -/
def readDigits (base : Nat) (n : Nat) : List Char → Except Fault Nat
  | [] => .ok n
  | c :: rest =>
    if c == '_' then readDigits base n rest
    else
      let d := digitValue c
      if base ≤ d then .error .malformed
      else if Nat.pow 2 64 - 1 < n * base + d then .error .outOfRange
      else readDigits base (n * base + d) rest

/-- Reads an unsigned numeral with its base prefix. -/
def readUnsigned (cs : List Char) : Except Fault Nat :=
  if cs.isEmpty then .error .malformed
  else
    let (base, digits) := basePrefix cs
    let underscores := digits.contains '_'
    match readDigits base 0 digits with
    | .error e => .error e
    | .ok n => if underscores && !underscoresFit cs then .error .malformed else .ok n

/-- Reads a signed 64-bit integer numeral. -/
def readInt (s : String) : Except Failure Int :=
  let cs := s.toList
  let fail := fun (f : Fault) => Except.error (Failure.mk "ParseInt" s f)
  let (neg, body) := match cs with
    | '+' :: r => (false, r)
    | '-' :: r => (true, r)
    | r => (false, r)
  match readUnsigned body with
  | .error .malformed => fail .malformed
  | .error .outOfRange => fail .outOfRange
  | .ok n =>
    if !neg && Nat.pow 2 63 ≤ n then fail .outOfRange
    else if neg && Nat.pow 2 63 < n then fail .outOfRange
    else .ok (if neg then -(n : Int) else n)

/-- Reads a truth value. -/
def readBool (s : String) : Except Failure Bool :=
  if ["1", "t", "T", "TRUE", "true", "True"].contains s then .ok true
  else if ["0", "f", "F", "FALSE", "false", "False"].contains s then .ok false
  else .error ⟨"ParseBool", s, .malformed⟩

end SlotAllocation.Numeral
