import SlotAllocation.Validation.Verdict
import SlotAllocation.Json.Canonical
import SlotAllocation.Json.Parse
import SlotAllocation.Pattern.Search
import SlotAllocation.Net.Url
import SlotAllocation.Validation.References

/-!
# JSON schemas

A schema document compiles into a `Schema`: a list of rules, one per sub-schema, which name
each other by place, the root first. Compiling follows the keywords in a fixed order and
stops at the first one that is malformed, with a message naming it:

1. a boolean is a schema that passes or fails everything (not before draft 6); anything
   other than an object is refused;
2. `$id` (or `id`), `definitions` (each compiled and kept only for references; a boolean
   there stops compiling with `SchemaError.booleanDefinitions`), `title`, `description`;
3. `$ref`: references are first made absolute (`Json.identified`); a reference seen for
   the first time is followed (`Known.resolve`) and the rest of the object is ignored; a
   reference already followed is linked, and the rest is still compiled. A rule with a
   reference checks nothing else;
4. `type`, `properties`, `additionalProperties`, `patternProperties`, `propertyNames`,
   `dependencies`, `items`, `additionalItems`;
5. `multipleOf`, `minimum`, `exclusiveMinimum`, `maximum`, `exclusiveMaximum` (a flag
   turning the bound exclusive, or itself a bound from draft 6), `minLength`, `maxLength`,
   `pattern`, `format`;
6. `minProperties`, `maxProperties`, `required`, `minItems`, `maxItems`, `uniqueItems`,
   `contains`;
7. `const`, `enum` (values kept as canonical texts), `oneOf`, `anyOf`, `allOf`, `not`, and
   `if`, `then`, `else` from draft 7.

The draft is named by `$schema` (drafts 4, 6 and 7); otherwise the rules of all drafts
apply. Counts must be written as whole numbers without fraction or exponent. Members of an
object that repeat a key count once, with their last value.
-/

namespace SlotAllocation

/-- What a schema says about the members that no property describes, or about the items
past the listed schemas: nothing, a flag, or a schema. -/
inductive Extra where
  | unset
  | allowed (b : Bool)
  | schema (place : Nat)
deriving Repr, Inhabited

/-- What a schema says about the items of an array: nothing, one schema for each item, or
a schema for each place. -/
inductive Items where
  | unset
  | each (place : Nat)
  | listed (places : List Nat)
deriving Repr, Inhabited

/-- What the presence of a member asks for: other members, or a schema for the object. -/
inductive Dependency where
  | members (names : List String)
  | schema (place : Nat)
deriving Repr, Inhabited

/-- The rules of one schema; sub-schemas are named by their place in the compiled list. -/
structure Rule where
  pass : Option Bool := none
  ref : Option Nat := none
  types : List String := []
  properties : List (String × Nat) := []
  additionalProperties : Extra := .unset
  patternProperties : List (Pattern.Regex × Nat) := []
  propertyNames : Option Nat := none
  dependencies : List (String × Dependency) := []
  items : Items := .unset
  additionalItems : Extra := .unset
  multipleOf : Option Number := none
  minimum : Option Number := none
  exclusiveMinimum : Option Number := none
  maximum : Option Number := none
  exclusiveMaximum : Option Number := none
  minLength : Option Nat := none
  maxLength : Option Nat := none
  pattern : Option Pattern.Regex := none
  format : String := ""
  minProperties : Option Nat := none
  maxProperties : Option Nat := none
  required : List String := []
  minItems : Option Nat := none
  maxItems : Option Nat := none
  uniqueItems : Bool := false
  contains : Option Nat := none
  constant : Option String := none
  enum : List String := []
  oneOf : List Nat := []
  anyOf : List Nat := []
  allOf : List Nat := []
  negated : Option Nat := none
  condition : Option Nat := none
  consequent : Option Nat := none
  alternative : Option Nat := none

instance : Inhabited Rule := ⟨{}⟩

/-- A compiled schema: its rules, the root at place `root`. -/
structure Schema where
  rules : Array Rule
  root : Nat := 0

instance : Inhabited Schema := ⟨⟨#[{}], 0⟩⟩

/-- Why a schema text is refused, or why working with it stops. -/
inductive SchemaError where
  /-- The text is not a valid schema. -/
  | invalid (message : String)
  /-- A `definitions` member holds a boolean where schemas by name were expected, which
  stops compiling. -/
  | booleanDefinitions
  /-- A value that `const`, `enum` or `uniqueItems` compares holds a number beyond the
  binary floating-point range, which stops checking. -/
  | incomparable
deriving DecidableEq, Repr

/-- The message of a schema error. -/
def SchemaError.message : SchemaError → String
  | .invalid m => "invalid schema: " ++ m
  | .booleanDefinitions => "interface conversion: interface \x7b\x7d is bool, not map[string]interface \x7b\x7d"
  | .incomparable => "runtime error: invalid memory address or nil pointer dereference"

/-- Whether an error stops the work rather than refusing the schema text. -/
def SchemaError.stops : SchemaError → Bool
  | .invalid _ => false
  | _ => true

/-- A refusal read as an invalid schema. -/
instance : MonadLift (Except String) (Except SchemaError) := ⟨fun x => x.mapError .invalid⟩

/-- The drafts of the rules, in order; `hybrid` applies the rules of all of them. -/
inductive Draft where
  | draft4
  | draft6
  | draft7
  | hybrid
deriving DecidableEq, Repr

/-- The order of drafts. -/
def Draft.rank : Draft → Nat
  | .draft4 => 4
  | .draft6 => 6
  | .draft7 => 7
  | .hybrid => 8

/-- The names of the JSON types, in the order messages list them. -/
def jsonTypeNames : List String := ["array", "boolean", "integer", "number", "null", "object", "string"]

/-- A member of an object, the last one when repeated. -/
def memberOf (ms : List (String × Json)) (k : String) : Option Json :=
  (ms.reverse.find? (fun p => p.1 == k)).map Prod.snd

/-- The draft a schema document names in `$schema`, if any. -/
def draftOf (doc : Json) : Except String (Option Draft) :=
  match doc with
  | .bool _ => .ok none
  | .obj ms =>
    match memberOf ms "$schema" with
    | none => .ok none
    | some (.str s) => do
      let key := (← Url.parse s).text
      pure (if key == "http://json-schema.org/draft-04/schema" then some .draft4
        else if key == "http://json-schema.org/draft-06/schema" then some .draft6
        else if key == "http://json-schema.org/draft-07/schema" then some .draft7
        else none)
    | some _ => .error "$schema must be of type string"
  | _ => .error "schema is invalid"

/-- The value of a count keyword: an integer literal without fraction or exponent, within
64-bit integers. -/
def Number.count? (n : Number) : Option Int :=
  let cs := n.literal.toList
  let (neg, ds) := match cs with
    | '-' :: rest => (true, rest)
    | _ => (false, cs)
  if ds.isEmpty || !ds.all Char.isDigit then none
  else
    let v := ds.foldl (fun acc d => acc * 10 + (d.toNat - '0'.toNat)) 0
    if neg then (if v ≤ Nat.pow 2 63 then some (-(v : Int)) else none)
    else if v < Nat.pow 2 63 then some v else none

/-- The number as an exact fraction `num / den` with its sign, `den` positive. -/
def Number.fraction (n : Number) : Int × Nat :=
  match n.decimal? with
  | some (m, e) => if 0 ≤ e then (m * Int.pow 10 e.toNat, 1) else (m, Nat.pow 10 (-e).toNat)
  | none => (0, 1)

/-- Compares two numbers exactly: negative, zero or positive as `a` is below, equal to or
above `b`. -/
def Number.compare (a b : Number) : Int :=
  let (na, da) := a.fraction
  let (nb, db) := b.fraction
  na * db - nb * da

/-- Whether `a` is a whole multiple of `b` (`b` not zero). -/
def Number.isMultipleOf (a b : Number) : Bool :=
  let (na, da) := a.fraction
  let (nb, db) := b.fraction
  -- a / b = (na * db) / (nb * da)
  nb != 0 && (na * db) % (nb * da) == 0

/-- The canonical text of a value, or the message of the number that has none. -/
def Json.canonicalOrError (j : Json) : Except String String :=
  match j.canonicalText with
  | .ok t => .ok t
  | .error literal => .error ("json: cannot unmarshal number " ++ literal ++ " into Go value of type float64")

/-- The state of compiling: the rules so far and the references already followed. -/
structure Compiling where
  rules : Array Rule := #[]
  refs : List (String × Nat) := []

/-- Compiling, which may fail with a message. -/
abbrev Compile := StateT Compiling (Except SchemaError)

/-- Refuses the schema with a message. -/
def refuse {α : Type} (message : String) : Compile α := throw (.invalid message)

/-- A new empty rule, giving its place. -/
def allocate : Compile Nat :=
  modifyGet fun c => (c.rules.size, { c with rules := c.rules.push {} })

/-- Sets the rule at a place. -/
def setRule (place : Nat) (r : Rule) : Compile Unit :=
  modify fun c => { c with rules := c.rules.set! place r }

/-- What compiling a document knows: the documents known by identifier and the draft. -/
structure Context where
  known : Known
  draft : Draft

/-- The message of a keyword of the wrong kind. -/
def kindProblem (expected keyword : String) : String :=
  "Invalid type. Expected: " ++ expected ++ ", given: " ++ keyword

/-- Whether a value is an object or a boolean, as sub-schemas are. -/
def Json.isSchemaLike : Json → Bool
  | .obj _ | .bool _ => true
  | _ => false

/-- Reads a count keyword: a whole number that is not negative. -/
def countOf (ms : List (String × Json)) (k : String) : Except String (Option Nat) :=
  match memberOf ms k with
  | none => .ok none
  | some (.num n) =>
    match n.count? with
    | some v => if v < 0 then .error (k ++ " must be greater than or equal to 0") else .ok (some v.toNat)
    | none => .error (k ++ " must be of an integer")
  | some _ => .error (k ++ " must be of an integer")

/-- Checks that a lower count is not above an upper one. -/
def countsInOrder (lo hi : Option Nat) (message : String) : Except String Unit :=
  match lo, hi with
  | some a, some b => if a > b then .error message else .ok ()
  | _, _ => .ok ()

/-- Reads the types of `type`. -/
def typesOf (ms : List (String × Json)) : Except String (List String) := do
  let add (acc : List String) (t : String) : Except String (List String) :=
    if !jsonTypeNames.contains t then
      .error ("has a primitive type that is NOT VALID -- given: /" ++ t ++
        "/ Expected valid values are:[" ++ " ".intercalate jsonTypeNames ++ "]")
    else if acc.contains t then .error (t ++ " type is duplicated")
    else .ok (acc ++ [t])
  match memberOf ms "type" with
  | none => pure []
  | some (.str t) => add [] t
  | some (.arr ts) =>
    ts.foldlM (fun acc t => match t with
      | .str s => add acc s
      | _ => .error (kindProblem "string/array of strings" "type")) []
  | some _ => throw (kindProblem "string/array of strings" "type")

/-- Reads `required`: distinct strings. -/
def requiredOf (ms : List (String × Json)) : Except String (List String) :=
  match memberOf ms "required" with
  | none => .ok []
  | some (.arr rs) =>
    rs.foldlM (fun acc r => match r with
      | .str s => if acc.contains s then .error "required items must be unique" else .ok (acc ++ [s])
      | _ => .error "required items must be string") []
  | some _ => .error "required must be of an array"

/-- Reads `enum`: distinct values, as canonical texts. -/
def enumOf (ms : List (String × Json)) : Except String (List String) :=
  match memberOf ms "enum" with
  | none => .ok []
  | some (.arr vs) =>
    vs.foldlM (fun acc v => do
      let t ← v.canonicalOrError
      if acc.contains t then throw "enum items must be unique" else pure (acc ++ [t])) []
  | some _ => .error "enum must be of an array"

/-- Reads a bound keyword. -/
def boundOf (ms : List (String × Json)) (k : String) : Except String (Option Number) :=
  match memberOf ms k with
  | none => .ok none
  | some (.num n) => .ok (some n)
  | some _ => .error (k ++ " must be of a number")

/-- Applies an exclusive keyword to its bound: a flag makes the bound exclusive (and needs
it), a number is an exclusive bound of its own from draft 6. The result is the inclusive
and the exclusive bound. -/
def exclusiveOf (draft : Draft) (ms : List (String × Json)) (k boundName : String)
    (bound : Option Number) : Except String (Option Number × Option Number) :=
  match memberOf ms k with
  | none => .ok (bound, none)
  | some v =>
    let flag (b : Bool) : Except String (Option Number × Option Number) :=
      match bound with
      | none => .error (k ++ " cannot be used without " ++ boundName)
      | some n => if b then .ok (none, some n) else .ok (bound, none)
    match draft, v with
    | .draft4, .bool b => flag b
    | .draft4, _ => .error (kindProblem "boolean" k)
    | .hybrid, .bool b => flag b
    | .hybrid, .num n => .ok (bound, some n)
    | .hybrid, _ => .error (kindProblem "boolean/number" k)
    | _, .num n => .ok (bound, some n)
    | _, _ => .error (kindProblem "number" k)

mutual
/-- Compiles a document into a new rule, giving its place. -/
def compileNew (ctx : Context) (fuel : Nat) (doc : Json) : Compile Nat :=
  match fuel with
  | 0 => refuse "schema nested too deeply"
  | fuel + 1 => do
    let place ← allocate
    compileInto ctx fuel doc place
    pure place

/-- Compiles a document into the rule at `place`. -/
def compileInto (ctx : Context) (fuel : Nat) (doc : Json) (place : Nat) : Compile Unit :=
  match fuel with
  | 0 => refuse "schema nested too deeply"
  | fuel + 1 =>
    match doc with
    | .bool b =>
      if ctx.draft.rank ≥ 6 then setRule place { pass := some b }
      else refuse "Expected: valid schema, given: Invalid JSON"
    | .obj ms0 => do
      let ms := Json.distinct ms0
      let draft := ctx.draft
      let keyId := match draft with
        | .draft4 => "id"
        | .hybrid => if (memberOf ms "id").isSome then "id" else "$id"
        | _ => "$id"
      match memberOf ms keyId with
      | some (.str s) => let _ ← liftM (Url.parse s)
      | some _ => refuse (kindProblem "string" keyId)
      | none => pure ()
      match memberOf ms "definitions" with
      | some (.obj ds) =>
        for (_, d) in Json.distinct ds do
          if d.isSchemaLike then let _ ← compileNew ctx fuel d
          else refuse (kindProblem "array of schemas" "definitions")
      | some (.bool _) => throw .booleanDefinitions
      | none => pure ()
      | some _ => refuse (kindProblem "array of schemas" "definitions")
      for k in ["title", "description"] do
        match memberOf ms k with
        | some (.str _) | none => pure ()
        | some _ => refuse (kindProblem "string" k)
      let mut rule : Rule := {}
      match memberOf ms "$ref" with
      | some (.str ref) =>
        let key := (← liftM (Url.parse ref)).text
        match (← get).refs.lookup key with
        | some target => rule := { rule with ref := some target }
        | none =>
          let target ← allocate
          modify fun c => { c with refs := (key, target) :: c.refs }
          let doc ← liftM (ctx.known.resolve ref)
          if !doc.isSchemaLike then refuse "valid schema must be of type object"
          compileInto ctx fuel doc target
          setRule place { rule with ref := some target }
          return
      | some _ => refuse (kindProblem "string" "$ref")
      | none => pure ()
      rule := { rule with types := ← liftM (typesOf ms) }
      match memberOf ms "properties" with
      | some (.obj ps) =>
        let mut props := []
        for (k, d) in Json.distinct ps do
          props := props ++ [(k, ← compileNew ctx fuel d)]
        rule := { rule with properties := props }
      | some _ => refuse (kindProblem "object" "properties")
      | none => pure ()
      match memberOf ms "additionalProperties" with
      | some (.bool b) => rule := { rule with additionalProperties := .allowed b }
      | some d@(.obj _) => rule := { rule with additionalProperties := .schema (← compileNew ctx fuel d) }
      | some _ => refuse (kindProblem "boolean/valid schema" "additionalProperties")
      | none => pure ()
      match memberOf ms "patternProperties" with
      | some (.obj ps) =>
        let mut pats := []
        for (k, d) in Json.distinct ps do
          match Pattern.Regex.compile k with
          | .ok re => pats := pats ++ [(re, ← compileNew ctx fuel d)]
          | .error _ => refuse ("Invalid regex pattern '" ++ k ++ "'")
        rule := { rule with patternProperties := pats }
      | some _ => refuse (kindProblem "valid schema" "patternProperties")
      | none => pure ()
      if draft.rank ≥ 6 then
        match memberOf ms "propertyNames" with
        | some d =>
          if d.isSchemaLike then rule := { rule with propertyNames := some (← compileNew ctx fuel d) }
          else refuse (kindProblem "valid schema" "patternProperties")
        | none => pure ()
      match memberOf ms "dependencies" with
      | some (.obj ds) =>
        let mut deps := []
        for (k, d) in Json.distinct ds do
          match d with
          | .arr names =>
            let mut found := []
            for n in names do
              match n with
              | .str s => found := found ++ [s]
              | _ => refuse "dependency must be of type schema or array of strings"
            if !found.isEmpty then deps := deps ++ [(k, Dependency.members found)]
          | .obj _ | .bool _ => deps := deps ++ [(k, Dependency.schema (← compileNew ctx fuel d))]
          | _ => refuse "dependency must be of type schema or array of strings"
        rule := { rule with dependencies := deps }
      | some _ => refuse (kindProblem "object" "dependencies")
      | none => pure ()
      match memberOf ms "items" with
      | some (.arr ds) =>
        let mut places := []
        for d in ds do
          if d.isSchemaLike then places := places ++ [← compileNew ctx fuel d]
          else refuse (kindProblem "valid schema/array of schemas" "items")
        rule := { rule with items := .listed places }
      | some d@(.obj _) | some d@(.bool _) => rule := { rule with items := .each (← compileNew ctx fuel d) }
      | some _ => refuse (kindProblem "valid schema/array of schemas" "items")
      | none => pure ()
      match memberOf ms "additionalItems" with
      | some (.bool b) => rule := { rule with additionalItems := .allowed b }
      | some d@(.obj _) => rule := { rule with additionalItems := .schema (← compileNew ctx fuel d) }
      | some _ => refuse (kindProblem "boolean/valid schema" "additionalItems")
      | none => pure ()
      match memberOf ms "multipleOf" with
      | some (.num n) =>
        if Number.compare n ⟨"0"⟩ ≤ 0 then refuse "multipleOf must be strictly greater than 0"
        rule := { rule with multipleOf := some n }
      | some _ => refuse (kindProblem "number" "multipleOf")
      | none => pure ()
      let (minimum, exclusiveMinimum) ←
        liftM (do exclusiveOf draft ms "exclusiveMinimum" "minimum" (← boundOf ms "minimum"))
      let (maximum, exclusiveMaximum) ←
        liftM (do exclusiveOf draft ms "exclusiveMaximum" "maximum" (← boundOf ms "maximum"))
      rule := { rule with minimum, exclusiveMinimum, maximum, exclusiveMaximum }
      let minLength ← liftM (countOf ms "minLength")
      let maxLength ← liftM (countOf ms "maxLength")
      liftM (countsInOrder minLength maxLength "minLength cannot be greater than maxLength")
      rule := { rule with minLength, maxLength }
      match memberOf ms "pattern" with
      | some (.str p) =>
        match Pattern.Regex.compile p with
        | .ok re => rule := { rule with pattern := some re }
        | .error _ => refuse "pattern must be a valid regex"
      | some _ => refuse "pattern must be of a string"
      | none => pure ()
      match memberOf ms "format" with
      | some (.str f) => rule := { rule with format := f }
      | some _ => refuse "format must be of type string"
      | none => pure ()
      let minProperties ← liftM (countOf ms "minProperties")
      let maxProperties ← liftM (countOf ms "maxProperties")
      liftM (countsInOrder minProperties maxProperties "minProperties cannot be greater than maxProperties")
      rule := { rule with minProperties, maxProperties, required := ← liftM (requiredOf ms) }
      let minItems ← liftM (countOf ms "minItems")
      let maxItems ← liftM (countOf ms "maxItems")
      liftM (countsInOrder minItems maxItems "minItems cannot be greater than maxItems")
      rule := { rule with minItems, maxItems }
      match memberOf ms "uniqueItems" with
      | some (.bool b) => rule := { rule with uniqueItems := b }
      | some _ => refuse "uniqueItems must be of a boolean"
      | none => pure ()
      if draft.rank ≥ 6 then
        match memberOf ms "contains" with
        | some d => rule := { rule with contains := some (← compileNew ctx fuel d) }
        | none => pure ()
        match memberOf ms "const" with
        | some v => rule := { rule with constant := some (← liftM v.canonicalOrError) }
        | none => pure ()
      rule := { rule with enum := ← liftM (enumOf ms) }
      for k in ["oneOf", "anyOf", "allOf"] do
        match memberOf ms k with
        | some (.arr ds) =>
          let mut places := []
          for d in ds do
            places := places ++ [← compileNew ctx fuel d]
          rule := if k == "oneOf" then { rule with oneOf := places }
            else if k == "anyOf" then { rule with anyOf := places }
            else { rule with allOf := places }
        | some _ => refuse (k ++ " must be of an array")
        | none => pure ()
      match memberOf ms "not" with
      | some d =>
        if d.isSchemaLike then rule := { rule with negated := some (← compileNew ctx fuel d) }
        else refuse "not must be of an object"
      | none => pure ()
      if draft.rank ≥ 7 then
        for k in ["if", "then", "else"] do
          match memberOf ms k with
          | some d =>
            if d.isSchemaLike then
              let p ← compileNew ctx fuel d
              rule := if k == "if" then { rule with condition := some p }
                else if k == "then" then { rule with consequent := some p }
                else { rule with alternative := some p }
            else refuse (k ++ " must be of an object")
          | none => pure ()
      setRule place rule
    | _ => refuse "Expected: valid schema, given: Invalid JSON"
end

/-- Compiles a schema document. -/
def Schema.ofDocument (doc : Json) (size : Nat) : Except SchemaError Schema :=
  do
    let draft ← draftOf doc
    let (doc, known) := doc.identified
    let ctx : Context := ⟨known, draft.getD .hybrid⟩
    let (_, c) ← (compileNew ctx ((size + 8) * (size + 8)) doc).run {}
    pure ⟨c.rules, 0⟩

/-- Compiles a schema text, of which the first value is read. -/
def Schema.compile (text : String) : Except SchemaError Schema :=
  match Json.parseFirst text with
  | .error e => .error (.invalid e)
  | .ok doc => Schema.ofDocument doc text.length

end SlotAllocation
