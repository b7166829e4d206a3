import SlotAllocation.Text.Numeral
import SlotAllocation.Yaml.Timestamp

/-!
# Values of a YAML document

A document is read into loosely typed values: null, truth values, whole numbers (signed
64-bit, or unsigned past the signed range), doubles, strings, timestamps, sequences and
mappings with text keys.

An untagged plain scalar is resolved by its spelling, following the core schema of YAML 1.2
with the additions of the reader this format follows: `true`, `True`, `TRUE` and the three
spellings of `false` are truth values; the empty text, `~` and the three spellings of `null`
are null; a numeral with an optional sign and base prefix (`0x`, `0o`, `0b`, or a leading
`0` for octal), underscores ignored, is a whole number; a decimal with a point or an
exponent is a double unless it overflows, its underscores ignored too, though one that starts
with a point may hold them only between digits; `.inf`, `-.inf` and `.nan` in three
spellings each are the special doubles; a text starting with four digits and a dash may be a timestamp
(`Stamp.parse?`), tried before the numbers. Everything else, and every quoted or block
scalar, is a string.

A scalar with a standard tag (`!!str`, `!!bool`, `!!int`, `!!float`, `!!null`,
`!!timestamp`) is resolved the same way, and its text must then resolve to that tag (a whole
number is also a double); `!!str` takes any text. Any other tag leaves the text a string.
-/

namespace SlotAllocation.Yaml

/-- A loosely typed value. -/
inductive Value where
  | null
  | bool (b : Bool)
  | int (i : Int)
  | float (f : Float)
  | str (s : String)
  | time (t : Stamp)
  | seq (items : List Value)
  | map (entries : List (String × Value))
deriving Inhabited

/-- The digits at the front of `cs`, and what follows them. -/
def splitDigits (cs : List Char) : List Char × List Char :=
  (cs.takeWhile Char.isDigit, cs.dropWhile Char.isDigit)

/-- The value of a run of decimal digits. -/
def digitsValue (ds : List Char) : Nat := ds.foldl (fun n d => n * 10 + (d.toNat - '0'.toNat)) 0

/-- Reads a decimal double: an optional sign, digits with an optional point and fraction,
or a point and fraction digits, then an optional exponent. Gives none for other texts and
for values too large for a double. -/
def readDecimalFloat (s : String) : Option Float :=
  let cs := s.toList
  let (neg, cs) := match cs with
    | '+' :: r => (false, r)
    | '-' :: r => (true, r)
    | r => (false, r)
  let (intDigits, cs) := splitDigits cs
  let (fracDigits, hasPoint, cs) := match cs with
    | '.' :: r => let (f, r) := splitDigits r; (f, true, r)
    | r => ([], false, r)
  let body := if intDigits.isEmpty then hasPoint && !fracDigits.isEmpty else true
  let exponent : Option Int := match cs with
    | [] => some 0
    | e :: r =>
      if e == 'e' || e == 'E' then
        let (eneg, r) := match r with
          | '+' :: q => (false, q)
          | '-' :: q => (true, q)
          | q => (false, q)
        let (ed, rest) := splitDigits r
        if ed.isEmpty || !rest.isEmpty then none
        else some (if eneg then -(digitsValue ed : Int) else digitsValue ed)
      else none
  match exponent with
  | none => none
  | some e =>
    if !body then none
    else
      let m := digitsValue (intDigits ++ fracDigits)
      let exp := e - fracDigits.length
      let f := if exp < 0 then Float.ofScientific m true exp.natAbs
        else Float.ofScientific m false exp.toNat
      if f.isInf then none else some (if neg then -f else f)

/-- The values of the spellings that resolve without reading a number. -/
def namedScalar? (s : String) : Option Value :=
  if ["true", "True", "TRUE"].contains s then some (.bool true)
  else if ["false", "False", "FALSE"].contains s then some (.bool false)
  else if ["", "~", "null", "Null", "NULL"].contains s then some .null
  else if [".nan", ".NaN", ".NAN"].contains s then some (.float (0.0 / 0.0))
  else if [".inf", ".Inf", ".INF", "+.inf", "+.Inf", "+.INF"].contains s then
    some (.float (1.0 / 0.0))
  else if ["-.inf", "-.Inf", "-.INF"].contains s then some (.float (-1.0 / 0.0))
  else none

/-- The short name of the tag a value resolves to. -/
def Value.scalarTag : Value → String
  | .null => "!!null"
  | .bool _ => "!!bool"
  | .int _ => "!!int"
  | .float _ => "!!float"
  | .str _ => "!!str"
  | .time _ => "!!timestamp"
  | .seq _ => "!!seq"
  | .map _ => "!!map"

/-- Whether the tags of this short name are resolved from the text. -/
def resolvableTag (tag : String) : Bool :=
  ["", "!!str", "!!bool", "!!int", "!!float", "!!null", "!!timestamp"].contains tag

/-- Resolves a text by its spelling alone, as an untagged plain scalar; timestamps are tried
only when `stamps`. -/
def resolveSpelling (stamps : Bool) (s : String) : Value :=
  let first := s.toList.headD ' '
  let numeric := first.isDigit || first == '+' || first == '-'
  let named := "yYnNtTfFoO~".toList.contains first
  if s.isEmpty then .null
  else if !(numeric || named || first == '.') then .str s
  else match namedScalar? s with
    | some v => v
    | none =>
      if first == '.' then
        -- underscores may stand between digits here too
        let plain := if Numeral.underscoresFit s.toList then String.ofList (s.toList.filter (· != '_')) else s
        match readDecimalFloat plain with
        | some f => .float f
        | none => .str s
      else if numeric then
        match (if stamps then Stamp.parse? s else none) with
        | some t => .time t
        | none =>
        let plain := String.ofList (s.toList.filter (· != '_'))
        match Numeral.readInt plain with
        | .ok i => .int i
        | .error _ =>
          match Numeral.readUnsigned plain.toList with
          | .ok n => .int n
          | .error _ =>
            match readDecimalFloat plain with
            | some f => .float f
            | none => .str s
      else .str s

/-- The value an untagged plain scalar resolves to. -/
def resolvePlain (s : String) : Value := resolveSpelling true s

/-- Resolves a scalar with the short tag `tag` (empty when untagged): the tag it ends with
and its value, or the problem of a text that does not fit its standard tag. -/
def resolveTagged (tag text : String) : Except String (String × Value) :=
  if !resolvableTag tag then .ok (tag, .str text)
  else if tag == "!!str" then .ok (tag, .str text)
  else
    let v := resolveSpelling (tag.isEmpty || tag == "!!timestamp") text
    let found := v.scalarTag
    if tag.isEmpty || tag == found then .ok (found, v)
    else match tag, v with
      | "!!float", .int i => .ok ("!!float", .float (Float.ofInt i))
      | _, _ => .error ("yaml: cannot decode " ++ found ++ " `" ++ text ++ "` as a " ++ tag)

end SlotAllocation.Yaml
