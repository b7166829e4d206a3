/-!
# JSON documents

A `Json` value is a parsed JSON document. Numbers keep the text they were written with, so
a number passes through unchanged and a reader can still say which literal it refused.
Objects keep their members in document order, repeats included: what a repeated member
means is decided by whoever reads the object.
-/

namespace SlotAllocation

/-- A JSON number, as the literal that spells it (for instance `-1.50e3`). -/
structure Number where
  literal : String
deriving DecidableEq, Repr, Inhabited

/-- A JSON document. -/
inductive Json where
  | null
  | bool (b : Bool)
  | num (n : Number)
  | str (s : String)
  | arr (items : List Json)
  | obj (members : List (String × Json))
deriving Repr, Inhabited

namespace Number

/-- The decimal literal of an integer. -/
def ofInt (i : Int) : Number := ⟨toString i⟩

/-- The decimal literal of a natural number. -/
def ofNat (n : Nat) : Number := ⟨toString n⟩

/-- The value of a run of decimal digits. -/
def literalDigits (cs : List Char) : Nat :=
  cs.foldl (fun acc c => acc * 10 + (c.toNat - '0'.toNat)) 0

/-- Reads a literal of the JSON number grammar as `m * 10 ^ e`, or `none` when the text is
not such a literal. -/
def decimal? (n : Number) : Option (Int × Int) :=
  let cs := n.literal.toList
  let (neg, cs) := match cs with
    | '-' :: rest => (true, rest)
    | _ => (false, cs)
  let intPart := cs.takeWhile Char.isDigit
  let cs := cs.dropWhile Char.isDigit
  let (fracPart, cs) := match cs with
    | '.' :: rest => (rest.takeWhile Char.isDigit, rest.dropWhile Char.isDigit)
    | _ => ([], cs)
  let expPart : Option (Bool × List Char × List Char) := match cs with
    | 'e' :: rest | 'E' :: rest =>
      let (eneg, rest) := match rest with
        | '-' :: r => (true, r)
        | '+' :: r => (false, r)
        | _ => (false, rest)
      some (eneg, rest.takeWhile Char.isDigit, rest.dropWhile Char.isDigit)
    | _ => none
  if intPart.isEmpty then none
  else
    let mant : Int := literalDigits (intPart ++ fracPart)
    let mant := if neg then -mant else mant
    match expPart with
    | none => if cs.isEmpty then some (mant, -(fracPart.length : Int)) else none
    | some (eneg, digits, rest) =>
      if digits.isEmpty || !rest.isEmpty then none
      else
        let e : Int := literalDigits digits
        let e := if eneg then -e else e
        some (mant, e - fracPart.length)

/-- Whether the number is a whole number (`2.0` and `1e3` are). -/
def isWhole (n : Number) : Bool :=
  match n.decimal? with
  | some (m, e) => decide (0 ≤ e) || m % (Nat.pow 10 (-e).toNat : Nat) == 0
  | none => false

/-- The value as an integer, when it is a whole number. -/
def toInt? (n : Number) : Option Int :=
  match n.decimal? with
  | some (m, e) =>
    if 0 ≤ e then some (m * Int.pow 10 e.toNat)
    else
      let d : Int := Int.pow 10 (-e).toNat
      if m % d == 0 then some (m / d) else none
  | none => none

end Number

namespace Json

/-- The members named `k`, last one first. -/
def field? (j : Json) (k : String) : Option Json :=
  match j with
  | .obj ms => (ms.reverse.find? (fun p => p.1 == k)).map Prod.snd
  | _ => none

mutual
/-- The nesting depth of arrays and objects in a document. -/
def depth : Json → Nat
  | .arr items => depthItems items + 1
  | .obj ms => depthMembers ms + 1
  | _ => 0

/-- The greatest depth among items. -/
def depthItems : List Json → Nat
  | [] => 0
  | j :: rest => max j.depth (depthItems rest)

/-- The greatest depth among member values. -/
def depthMembers : List (String × Json) → Nat
  | [] => 0
  | (_, j) :: rest => max j.depth (depthMembers rest)
end

/-- An integer as a JSON number. -/
def int (i : Int) : Json := .num (Number.ofInt i)

/-- A natural number as a JSON number. -/
def nat (n : Nat) : Json := .num (Number.ofNat n)

/-- A list of strings as a JSON array. -/
def strs (xs : List String) : Json := .arr (xs.map Json.str)

/-- A string, or null. -/
def strOrNull : Option String → Json
  | some s => .str s
  | none => .null

/-- A list of strings as an array, or null. -/
def strsOrNull : Option (List String) → Json
  | some xs => strs xs
  | none => .null

/-- The text of a string value, `""` otherwise. -/
def text : Json → String
  | .str s => s
  | _ => ""

/-- The integer of a whole number, 0 otherwise. -/
def whole : Json → Int
  | .num n => n.toInt?.getD 0
  | _ => 0

/-- The flag of a boolean value, false otherwise. -/
def flag : Json → Bool
  | .bool b => b
  | _ => false

/-- The items of an array, none for null. -/
def items? : Json → Option (List Json)
  | .arr xs => some xs
  | _ => none

/-- The members of an object, none for null. -/
def members? : Json → Option (List (String × Json))
  | .obj ms => some ms
  | _ => none

/-- The value of member `k` of an object, null when absent. -/
def get (j : Json) (k : String) : Json := (j.field? k).getD .null

end Json

end SlotAllocation
