import SlotAllocation.Json.Value
import SlotAllocation.Decimal.Format

/-!
# Writing JSON

Documents are written the way the services write them:

* a double is written with the fewest digits that read back, positionally when its
  magnitude lies in `[1e-6, 1e21)` and otherwise as `d.ddde±x` with at least one exponent
  digit;
* in strings, `"` and `\` get a backslash, `\b \f \n \r \t` their letter escape, every other
  control character `\u00XX`, and U+2028 and U+2029 their `\u` escape; with markup escaping
  on, `<`, `>` and `&` are written `<`, `>` and `&`;
* members and items come in the order given; with an indent, each member or item stands on
  its own line, nested one indent deeper, and empty arrays and objects stay `[]` and `{}`.
-/

namespace SlotAllocation

/-- The text of a finite double as written into a document. -/
def Float.jsonText (x : Float) : String :=
  if x == 0 then (if x.toBits.toNat ≥ Nat.pow 2 63 then "-0" else "0")
  else
    let neg := x < 0
    let ax := if neg then -x else x
    let (n, e) := Float.shortest ax
    let digits := toString n
    let sign := if neg then "-" else ""
    if ax < 1e-6 || ax ≥ 1e21 then
      -- scientific: d.ddd e±x
      let lead : Int := e + digits.length - 1
      let mant := if digits.length = 1 then digits
        else String.ofList (digits.toList.take 1) ++ "." ++ String.ofList (digits.toList.drop 1)
      let expText := if lead < 0 then "-" ++ toString (-lead) else "+" ++ toString lead
      sign ++ mant ++ "e" ++ expText
    else
      sign ++ placePoint digits (e + digits.length)

/-- A double as a JSON number. -/
def Number.ofFloat (x : Float) : Number := ⟨Float.jsonText x⟩

/-- A double as a JSON value. -/
def Json.float (x : Float) : Json := .num (Number.ofFloat x)

/-- A double or null. -/
def Json.floatOrNull : Option Float → Json
  | some x => .float x
  | none => .null

/-- `n` as four lower-case hexadecimal digits. -/
def hex4 (n : Nat) : String :=
  let d := Nat.toDigits 16 n
  String.ofList (List.replicate (4 - d.length) '0' ++ d)

/-- `\uXXXX` escapes for `c`, a surrogate pair above the Basic Multilingual Plane. -/
def unicodeEscape (c : Char) : String :=
  let n := c.toNat
  if n < 0x10000 then "\\u" ++ hex4 n
  else
    let m := n - 0x10000
    "\\u" ++ hex4 (0xD800 + m / 0x400) ++ "\\u" ++ hex4 (0xDC00 + m % 0x400)

/-- The escaped form of one character inside a written string; with `ascii` on, every
character beyond ASCII is escaped too. -/
def escapeJsonChar (markup : Bool) (ascii : Bool := false) (c : Char) : String :=
  match c with
  | '"' => "\\\""
  | '\\' => "\\\\"
  | '\n' => "\\n"
  | '\r' => "\\r"
  | '\t' => "\\t"
  | _ =>
    if c.toNat = 8 then "\\b"
    else if c.toNat = 12 then "\\f"
    else if c.toNat < 0x20 then "\\u" ++ hex4 c.toNat
    else if c.toNat = 0x2028 || c.toNat = 0x2029 then "\\u" ++ hex4 c.toNat
    else if markup && (c = '<' || c = '>' || c = '&') then "\\u" ++ hex4 c.toNat
    else if ascii && c.toNat ≥ 0x80 then unicodeEscape c
    else c.toString

/-- A string written as a JSON string literal. -/
def jsonString (markup : Bool) (s : String) (ascii : Bool := false) : String :=
  "\"" ++ String.join (s.toList.map (escapeJsonChar markup ascii)) ++ "\""

/-- How a document is laid out. -/
structure Layout where
  /-- The text of one level of indentation; `none` writes everything on one line. -/
  indent : Option String
  /-- Whether `<`, `>` and `&` are escaped in strings. -/
  markup : Bool
  /-- Whether every character beyond ASCII is escaped in strings. -/
  ascii : Bool := false

/-- One line, markup escaped: how documents are stored and sent. -/
def Layout.compact : Layout := ⟨none, true, false⟩

/-- Two spaces per level, markup escaped: how documents are shown to people. -/
def Layout.pretty : Layout := ⟨some "  ", true, false⟩

/-- One line of ASCII only, for channels that split lines on other line breaks. -/
def Layout.asciiLine : Layout := ⟨none, false, true⟩

mutual
/-- Writes `j` at nesting `depth`. -/
def Json.write (layout : Layout) (depth : Nat) : Json → String
  | .null => "null"
  | .bool b => if b then "true" else "false"
  | .num n => n.literal
  | .str s => jsonString layout.markup s layout.ascii
  | .arr [] => "[]"
  | .arr items => "[" ++ writeItems layout (depth + 1) items ++ newline layout depth ++ "]"
  | .obj [] => "\x7b\x7d"
  | .obj ms => "\x7b" ++ writeMembers layout (depth + 1) ms ++ newline layout depth ++ "\x7d"

/-- Writes array items, each on its own line when indenting. -/
def writeItems (layout : Layout) (depth : Nat) : List Json → String
  | [] => ""
  | [j] => newline layout depth ++ j.write layout depth
  | j :: rest => newline layout depth ++ j.write layout depth ++ "," ++ writeItems layout depth rest

/-- Writes object members, each on its own line when indenting. -/
def writeMembers (layout : Layout) (depth : Nat) : List (String × Json) → String
  | [] => ""
  | [(k, v)] => newline layout depth ++ jsonString layout.markup k layout.ascii ++ sep layout ++ v.write layout depth
  | (k, v) :: rest =>
    newline layout depth ++ jsonString layout.markup k layout.ascii ++ sep layout ++ v.write layout depth ++ "," ++
      writeMembers layout depth rest

/-- The break before a member at `depth`: nothing on one line. -/
def newline (layout : Layout) (depth : Nat) : String :=
  match layout.indent with
  | none => ""
  | some ind => "\n" ++ String.join (List.replicate depth ind)

/-- What stands between a key and its value. -/
def sep (layout : Layout) : String :=
  match layout.indent with
  | none => ":"
  | some _ => ": "
end

/-- The text of `j` in `layout`. -/
def Json.render (layout : Layout) (j : Json) : String := j.write layout 0

end SlotAllocation
