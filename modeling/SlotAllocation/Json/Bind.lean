import SlotAllocation.Json.Parse

/-!
# Binding documents to declared shapes

A `Shape` declares what a reader expects: text, whole numbers, flags, doubles, anything,
lists, string-keyed maps, records of named fields, and optional (nullable) parts. `bindText`
reads a document and fits it into a shape, starting from the shape's empty value:

* a syntax error of the text wins over everything else;
* a part of the wrong kind is left as it was, and the first such mismatch in reading order
  is reported, with the innermost record being filled, the path of field names that led to
  it, and the declared type;
* a null empties lists, maps, optional parts and "anything", and leaves other parts as they
  were;
* a map keyed by whole numbers reads each key as an optionally signed decimal integer
  within 64 bits and keeps it in canonical decimal form; a key that is not one is reported
  (after its value) and its entry dropped;
* a record member is matched to a field by exact name, else by name ignoring ASCII case;
  unknown members are skipped; a repeated member fills the same field again, so maps merge
  and lists and scalars are replaced;
* a whole number must be written as a decimal integer within 64 bits, and a double within
  range, or the literal is reported.

The bound value is again a `Json`: records are objects listing every field in declaration
order, maps are objects with each key once, and empty values are `""`, `0`, `false` or
`null`.
-/

namespace SlotAllocation

/-- What a reader expects. `name` is the type's name as reported in mismatches. -/
inductive Shape where
  | text (name : String)
  | whole (name : String)
  | flag
  | real
  | anything
  | list (name : String) (item : Shape)
  | dict (name : String) (item : Shape)
  /-- A map whose keys are 64-bit integers written as decimal text; `keyName` is the key
  type's name. -/
  | wholeKeyed (name keyName : String) (item : Shape)
  | record (name : String) (fields : List (String × Shape))
  | optional (inner : Shape)

namespace Shape

/-- The declared type's name. -/
def typeName : Shape → String
  | .text n => n
  | .whole n => n
  | .flag => "bool"
  | .real => "float64"
  | .anything => "interface \x7b\x7d"
  | .list n _ => n
  | .dict n _ => n
  | .wholeKeyed n _ _ => n
  | .record n _ => n
  | .optional s => s.typeName

mutual
/-- The value a reader starts from. -/
def empty : Shape → Json
  | .text _ => .str ""
  | .whole _ => .num ⟨"0"⟩
  | .flag => .bool false
  | .real => .num ⟨"0"⟩
  | .anything => .null
  | .list _ _ => .null
  | .dict _ _ => .null
  | .wholeKeyed _ _ _ => .null
  | .record _ fields => .obj (emptyFields fields)
  | .optional _ => .null

/-- Every field with its empty value. -/
def emptyFields : List (String × Shape) → List (String × Json)
  | [] => []
  | (k, s) :: rest => (k, s.empty) :: emptyFields rest
end

end Shape



/-- A part of a document that does not fit its shape. -/
structure Mismatch where
  /-- What was found: `number`, `number <literal>`, `string`, `bool`, `array` or `object`. -/
  found : String
  /-- The declared type's name. -/
  typeName : String
  /-- The record being filled and the field path that led to the part, when inside one. -/
  place : Option (String × List String)

/-- The text of a mismatch. -/
def Mismatch.message (m : Mismatch) : String :=
  match m.place with
  | some (record, path) =>
    "json: cannot unmarshal " ++ m.found ++ " into Go struct field " ++ record ++ "." ++
      ".".intercalate path ++ " of type " ++ m.typeName
  | none => "json: cannot unmarshal " ++ m.found ++ " into Go value of type " ++ m.typeName

/-- Why a text cannot be read into a shape. -/
inductive BindError where
  | malformed (e : SyntaxError)
  | mismatch (m : Mismatch)

/-- The text of a bind error. -/
def BindError.message : BindError → String
  | .malformed e => e.message
  | .mismatch m => m.message

/-- The last dot-separated part of a qualified type name. -/
def shortName (qualified : String) : String :=
  (qualified.splitOn ".").getLast?.getD qualified

/-- Upper-cases ASCII letters and the two characters whose upper case is an ASCII letter. -/
def foldKeyChar (c : Char) : Char :=
  if c.toNat = 0x17F then 'S' else if c.toNat = 0x212A then 'K' else c.toUpper

/-- The field a member key names: exact match first, else a match ignoring case. -/
def matchField (fields : List (String × Shape)) (key : String) : Option (String × Shape) :=
  match fields.find? (fun f => f.1 == key) with
  | some f => some f
  | none =>
    let fold (s : String) : List Char := s.toList.map foldKeyChar
    fields.find? (fun f => fold f.1 == fold key)

/-- Whether a literal is a decimal integer that fits in 64 bits. -/
def wholeLiteral? (n : Number) : Option Int :=
  let cs := n.literal.toList
  let digits := match cs with
    | '-' :: rest => rest
    | _ => cs
  if digits.isEmpty || !digits.all Char.isDigit then none
  else match n.toInt? with
    | some i => if -(Int.pow 2 63) ≤ i && i < Int.pow 2 63 then some i else none
    | none => none

/-- Whether a literal denotes a finite double: its magnitude does not round above the
largest double. -/
def realLiteralOk (n : Number) : Bool :=
  match n.decimal? with
  | some (m, e) =>
    -- compare |m| * 10^e with the largest double's rounding boundary 2^1024 - 2^970
    let a := m.natAbs
    if a = 0 then true
    else if 0 ≤ e then a * Nat.pow 10 e.toNat < Nat.pow 2 1024 - Nat.pow 2 970
    else a < (Nat.pow 2 1024 - Nat.pow 2 970) * Nat.pow 10 (-e).toNat
  | none => false

/-- A map key read as a decimal integer within 64 bits: an optional sign, then one digit or
more. -/
def decimalKey? (s : String) : Option Int :=
  let (neg, ds) := match s.toList with
    | '-' :: r => (true, r)
    | '+' :: r => (false, r)
    | r => (false, r)
  if ds.isEmpty || !ds.all Char.isDigit then none
  else
    let v : Int := ds.foldl (fun n d => n * 10 + (d.toNat - '0'.toNat)) 0
    let v := if neg then -v else v
    if -9223372036854775808 ≤ v && v ≤ 9223372036854775807 then some v else none

/-- How the keys of a map are read: as they stand, or as whole numbers (with the key type's
name for reports). -/
inductive KeyReading where
  | verbatim
  | whole (keyName : String)

/-- The stored form of a key, or none when it cannot be read. -/
def KeyReading.read : KeyReading → String → Option String
  | .verbatim, k => some k
  | .whole _, k => (decimalKey? k).map toString

/-- Replaces the member `k` of an object, keeping its place, or appends it. -/
def setMember (members : List (String × Json)) (k : String) (v : Json) : List (String × Json) :=
  if members.any (fun p => p.1 == k) then members.map (fun p => if p.1 == k then (k, v) else p)
  else members ++ [(k, v)]

/-- Where a bind is: the record being filled and the field path, if inside one. -/
abbrev Place := Option (String × List String)

/-- Enters field `f` of record `record`. -/
def Place.enter (p : Place) (record : String) (f : String) : Place :=
  match p with
  | some (_, path) => some (shortName record, path ++ [f])
  | none => some (shortName record, [f])

/-- The kind word of a document part, as a mismatch reports it. -/
def Json.kindWord : Json → String
  | .null => "null"
  | .bool _ => "bool"
  | .num _ => "number"
  | .str _ => "string"
  | .arr _ => "array"
  | .obj _ => "object"

/-- Binding state: the first mismatch met. -/
abbrev Binding := StateM (Option Mismatch)

/-- Records a mismatch unless an earlier one is recorded. -/
def noteMismatch (m : Mismatch) : Binding Unit :=
  modify fun s => s.orElse fun _ => some m

mutual
/-- Fits `doc` into `shape`, starting from `current`; `fuel` bounds the nesting. -/
def bindInto (fuel : Nat) (place : Place) (shape : Shape) (current : Json) (doc : Json) :
    Binding Json :=
  match fuel with
  | 0 => pure current
  | fuel + 1 =>
  match shape, doc with
  | .optional _, .null => pure .null
  | .optional inner, d =>
    let start := match current with
      | .null => inner.empty
      | v => v
    bindInto fuel place inner start d
  | .anything, d => pure d
  | .list _ _, .null => pure .null
  | .dict _ _, .null => pure .null
  | .wholeKeyed _ _ _, .null => pure .null
  | _, .null => pure current
  | .text _, .str s => pure (.str s)
  | .whole n, .num lit =>
    match wholeLiteral? lit with
    | some i => pure (.num (Number.ofInt i))
    | none => do noteMismatch ⟨"number " ++ lit.literal, n, place⟩; pure current
  | .real, .num lit =>
    if realLiteralOk lit then pure (.num lit)
    else do noteMismatch ⟨"number " ++ lit.literal, "float64", place⟩; pure current
  | .flag, .bool b => pure (.bool b)
  | .list _ item, .arr items => do
    let vs ← bindItems fuel place item items
    pure (.arr vs)
  | .dict _ item, .obj members => do
    let start := match current with
      | .obj ms => ms
      | _ => []
    let ms ← bindEntries fuel place item .verbatim start members
    pure (.obj ms)
  | .wholeKeyed _ keyName item, .obj members => do
    let start := match current with
      | .obj ms => ms
      | _ => []
    let ms ← bindEntries fuel place item (.whole keyName) start members
    pure (.obj ms)
  | .record name fields, .obj members => do
    let start := match current with
      | .obj ms => ms
      | _ => match Shape.empty (.record name fields) with
        | .obj ms => ms
        | _ => []
    let ms ← bindFields fuel place name fields start members
    pure (.obj ms)
  | s, d => do noteMismatch ⟨d.kindWord, s.typeName, place⟩; pure current
termination_by fuel + sizeOf doc
decreasing_by
  all_goals
    try simp only [Json.arr.sizeOf_spec, Json.obj.sizeOf_spec]
    omega

/-- Fits each item into `item`, each from the empty value. -/
def bindItems (fuel : Nat) (place : Place) (item : Shape) : List Json → Binding (List Json)
  | [] => pure []
  | d :: rest => do
    let v ← bindInto fuel place item item.empty d
    let vs ← bindItems fuel place item rest
    pure (v :: vs)
termination_by items => fuel + sizeOf items
decreasing_by
  all_goals
    simp only [List.cons.sizeOf_spec]
    omega

/-- Fits each member's value into `item`, from the empty value, and sets it under its key
as `keys` reads it; an unreadable key is reported and its entry dropped. -/
def bindEntries (fuel : Nat) (place : Place) (item : Shape) (keys : KeyReading)
    (acc : List (String × Json)) : List (String × Json) → Binding (List (String × Json))
  | [] => pure acc
  | (k, d) :: rest => do
    let v ← bindInto fuel place item item.empty d
    match keys.read k, keys with
    | some key, _ => bindEntries fuel place item keys (setMember acc key v) rest
    | none, .whole keyName => do
      noteMismatch ⟨"number " ++ k, keyName, place⟩
      bindEntries fuel place item keys acc rest
    | none, .verbatim => bindEntries fuel place item keys acc rest
termination_by members => fuel + sizeOf members
decreasing_by
  all_goals
    simp only [List.cons.sizeOf_spec, Prod.mk.sizeOf_spec]
    omega

/-- Fits each member into the field it names, from that field's current value. -/
def bindFields (fuel : Nat) (place : Place) (record : String) (fields : List (String × Shape))
    (acc : List (String × Json)) : List (String × Json) → Binding (List (String × Json))
  | [] => pure acc
  | (k, d) :: rest =>
    match matchField fields k with
    | none => bindFields fuel place record fields acc rest
    | some (f, s) => do
      let cur := ((acc.find? (fun p => p.1 == f)).map Prod.snd).getD s.empty
      let v ← bindInto fuel (place.enter record f) s cur d
      bindFields fuel place record fields (setMember acc f v) rest
termination_by members => fuel + sizeOf members
decreasing_by
  all_goals
    simp only [List.cons.sizeOf_spec, Prod.mk.sizeOf_spec]
    omega
end

/-- A string binds as itself into a text part, whatever the part held. -/
theorem bindInto_text_str (place : Place) (f : Nat) (n : String) (cur : Json) (s : String) :
    bindInto (f + 1) place (.text n) cur (.str s) = pure (.str s) := by
  rw [bindInto]

/-- Fits a parsed document into `shape` as the value of field `field` of a record named
`record`, so that mismatches inside it report the field path from that record. -/
def bindJsonField (record field : String) (shape : Shape) (doc : Json) : Except BindError Json :=
  let (v, err) := (bindInto (3 * doc.depth + 8) (Place.enter none record field) shape shape.empty doc).run none
  match err with
  | some m => .error (.mismatch m)
  | none => .ok v

/-- Fits a parsed document into `shape`, from the shape's empty value. -/
def bindJson (shape : Shape) (doc : Json) : Except BindError Json :=
  let (v, err) := (bindInto (3 * doc.depth + 8) none shape shape.empty doc).run none
  match err with
  | some m => .error (.mismatch m)
  | none => .ok v

/-- Reads `text` and fits it into `shape`. -/
def bindText (shape : Shape) (text : String) : Except BindError Json :=
  match Json.parse text with
  | .error e => .error (.malformed e)
  | .ok doc => bindJson shape doc

end SlotAllocation
