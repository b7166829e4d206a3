import SlotAllocation.Json.Print

/-!
# Canonical texts and pointers

Two values are compared by their canonical text: the text they have once read back as plain
data, where every number is the double nearest to it (written in its shortest form, `-0`
keeping its sign), an object keeps one member per key (the last one given) in ascending
order of keys, and strings are escaped as stored documents escape them. A number beyond the
range of doubles has no canonical text.

A pointer (`/a/0/b~1c`) names a value inside a document: each step names a member of an
object (`~1` standing for `/` and `~0` for `~`) or the index of an item of an array
(decimal, with an optional sign). `Json.atPointer` follows the steps and reports the first
step that names nothing.
-/

namespace SlotAllocation

/-- The members of an object with each key once, at its first place, holding its last value. -/
def Json.distinct (ms : List (String × Json)) : List (String × Json) :=
  ms.foldl (fun acc p =>
    if acc.any (fun q => q.1 == p.1) then acc
    else acc ++ [(p.1, ((ms.reverse.find? (·.1 == p.1)).map Prod.snd).getD p.2)]) []

/-- The double nearest to a number, or none when it lies beyond the largest double. -/
def Number.toFloat? (n : Number) : Option Float :=
  match n.decimal? with
  | some (m, e) =>
    let f := if e < 0 then Float.ofScientific m.natAbs true e.natAbs
      else Float.ofScientific m.natAbs false e.toNat
    let f := if n.literal.startsWith "-" then -f else f
    if f.isInf then none else some f
  | none => none

/-- Keyed entries with each key once, holding its last entry. -/
def distinctEntries {α : Type} (ms : List (String × α)) : List (String × α) :=
  ms.foldl (fun acc p => (acc.filter (·.1 != p.1)) ++ [p]) []

mutual
/-- The canonical text of a value, or the literal of a number beyond the doubles (the first
one in the order of the text). -/
def Json.canonicalText : Json → Except String String
  | .null => .ok "null"
  | .bool b => .ok (if b then "true" else "false")
  | .num n =>
    match n.toFloat? with
    | some f => .ok (Float.jsonText f)
    | none => .error n.literal
  | .str s => .ok (jsonString true s)
  | .arr items => (canonicalItems items).map fun xs => "[" ++ ",".intercalate xs ++ "]"
  | .obj ms => do
    let sorted := (distinctEntries (canonicalMembers ms)).mergeSort fun a b => decide (a.1 ≤ b.1)
    let parts ← sorted.mapM fun (k, t) => t.map fun v => jsonString true k ++ ":" ++ v
    pure ("\x7b" ++ ",".intercalate parts ++ "\x7d")

/-- The canonical texts of array items. -/
def canonicalItems : List Json → Except String (List String)
  | [] => .ok []
  | j :: rest => do
    let t ← j.canonicalText
    let ts ← canonicalItems rest
    pure (t :: ts)

/-- The canonical texts of object members, keys kept. -/
def canonicalMembers : List (String × Json) → List (String × Except String String)
  | [] => []
  | (k, j) :: rest => (k, j.canonicalText) :: canonicalMembers rest
end

/-- The canonical text of a value, if it has one. -/
def Json.canonical? (j : Json) : Option String :=
  match j.canonicalText with
  | .ok t => some t
  | .error _ => none

/-- Reads an array index: decimal digits with an optional sign, within 64-bit integers. -/
def arrayIndex? (token : String) : Option Int :=
  let cs := token.toList
  let (neg, ds) := match cs with
    | '-' :: rest => (true, rest)
    | '+' :: rest => (false, rest)
    | _ => (false, cs)
  if ds.isEmpty || !ds.all Char.isDigit then none
  else
    let v := ds.foldl (fun n d => n * 10 + (d.toNat - '0'.toNat)) 0
    if neg then (if v ≤ Nat.pow 2 63 then some (-(v : Int)) else none)
    else if v < Nat.pow 2 63 then some v else none

/-- A pointer step with `~1` read as `/` and then `~0` as `~`. -/
def decodeStep (token : String) : String :=
  (token.replace "~1" "/").replace "~0" "~"

/-- The value a pointer's steps name inside a document. -/
def Json.atPointer : Json → List String → Except String Json
  | j, [] => .ok j
  | .obj ms, token :: rest =>
    let key := decodeStep token
    match (ms.reverse.find? (·.1 == key)) with
    | some (_, v) => Json.atPointer v rest
    | none => .error ("Object has no key '" ++ key ++ "'")
  | .arr items, token :: rest =>
    match arrayIndex? token with
    | none => .error ("Invalid array index '" ++ token ++ "'")
    | some i =>
      if i < 0 || i ≥ items.length then
        .error ("Out of bound array[0," ++ toString items.length ++ "] index '" ++ toString i ++ "'")
      else match items[i.toNat]? with
        | some v => Json.atPointer v rest
        | none => .error ("Out of bound array[0," ++ toString items.length ++ "] index '" ++ toString i ++ "'")
  | _, token :: _ => .error ("Invalid token reference '" ++ token ++ "'")

/-- The steps of a pointer text: none for the empty pointer, else the parts after each
`/`; a text not starting with `/` names the whole document. -/
def pointerSteps (text : String) : List String :=
  match text.toList with
  | '/' :: _ => (text.splitOn "/").drop 1
  | _ => []

end SlotAllocation
