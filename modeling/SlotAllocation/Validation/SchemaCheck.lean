import SlotAllocation.Validation.Schema
import SlotAllocation.Validation.Formats
import SlotAllocation.Decimal.Rounded

/-!
# Checking documents against schemas

`Schema.validate` applies a compiled schema to a document. For each value and rule:

1. a boolean rule passes, or fails with `False always fails validation`; a rule with a
   reference applies the rule it names instead;
2. a value of a declared type it does not have is reported alone (a number is an
   `integer` when its value is whole);
3. otherwise the combinations apply (`anyOf`, `oneOf`, `allOf`, `not`, `dependencies`,
   `if`/`then`/`else`), then the keywords of the value's kind (numbers, arrays, objects,
   strings), then `const` and `enum`, and last the members that `properties` describes.

Each check also earns a score: every issue costs 2, and each stage passed, each required
member found and each member matched by a pattern earns 1. When no branch of `anyOf` (or
`oneOf`) passes, the issues of the branch with the highest score (the first of equals) are
reported with the combination's own issue; `contains` reports the best item likewise.
Issues name the path to the value with `.` between steps, the document itself being
`(root)`. String lengths count characters; bounds are written as their binary floating
point values print.

`Schema.check` also stops, with `SchemaError.incomparable`, when `const`, `enum` or
`uniqueItems` had to compare a value holding a number beyond the binary floating-point range.
`Schema.checkText` first reads a document text, taking its first value and reporting a text
that is empty or ends early as such.
-/

namespace SlotAllocation

/-- The issues of a check with its score, and whether a value that had to be compared as
text holds a number beyond the binary floating-point range, which stops the whole check. -/
structure CheckOutcome where
  issues : List Issue := []
  score : Int := 0
  incomparable : Bool := false

namespace CheckOutcome

/-- Adds an issue, which costs 2. -/
def add (o : CheckOutcome) (i : Issue) : CheckOutcome :=
  { o with issues := o.issues ++ [i], score := o.score - 2 }

/-- Earns 1. -/
def bump (o : CheckOutcome) : CheckOutcome := { o with score := o.score + 1 }

/-- Takes in the issues and score of another check. -/
def merge (o p : CheckOutcome) : CheckOutcome :=
  ⟨o.issues ++ p.issues, o.score + p.score, o.incomparable || p.incomparable⟩

/-- Takes in only whether other checks, which were made, met an incomparable value. -/
def absorb (o : CheckOutcome) (ps : List CheckOutcome) : CheckOutcome :=
  { o with incomparable := o.incomparable || ps.any (·.incomparable) }

/-- Whether no issue was found. -/
def valid (o : CheckOutcome) : Bool := o.issues.isEmpty

end CheckOutcome

/-- The field a path names: steps after the root joined by `.`, or `(root)`. -/
def pathField (path : List String) : String :=
  if path.isEmpty then "(root)" else ".".intercalate path

/-- An issue at a path. -/
def issueAt (path : List String) (message code : String) : Issue := ⟨pathField path, message, code⟩

/-- How a declared type list is named in messages: the one name, or `[a,b]`. -/
def typesText (types : List String) : String :=
  match types with
  | [t] => t
  | [] => "undefined"
  | ts => "[" ++ ",".intercalate ts ++ "]"

/-- The JSON type of a value; numbers with a whole value are `integer`. -/
def Json.typeName : Json → String
  | .null => "null"
  | .bool _ => "boolean"
  | .num n => if n.isWhole then "integer" else "number"
  | .str _ => "string"
  | .arr _ => "array"
  | .obj _ => "object"

/-- Whether a declared type list admits a value. -/
def admits (types : List String) (v : Json) : Bool :=
  types.isEmpty ||
    match v with
    | .num n => types.contains "number" || (n.isWhole && types.contains "integer")
    | _ => types.contains v.typeName

/-- A bound as its binary floating-point value prints. -/
def Number.boundText (n : Number) : String :=
  let (num, den) := n.fraction
  roundedText (num < 0) num.natAbs den

/-- The issues of the keywords on numbers. -/
def numberOutcome (r : Rule) (path : List String) (n : Number) : CheckOutcome :=
  let o : CheckOutcome := {}
  let o := match r.multipleOf with
    | some m => if n.isMultipleOf m then o
      else o.add (issueAt path ("Must be a multiple of " ++ m.boundText) "MULTIPLE_OF")
    | none => o
  let o := match r.maximum with
    | some m => if n.compare m > 0 then
        o.add (issueAt path ("Must be less than or equal to " ++ m.boundText) "NUMBER_LTE") else o
    | none => o
  let o := match r.exclusiveMaximum with
    | some m => if n.compare m ≥ 0 then
        o.add (issueAt path ("Must be less than " ++ m.boundText) "NUMBER_LT") else o
    | none => o
  let o := match r.minimum with
    | some m => if n.compare m < 0 then
        o.add (issueAt path ("Must be greater than or equal to " ++ m.boundText) "NUMBER_GTE") else o
    | none => o
  let o := match r.exclusiveMinimum with
    | some m => if n.compare m ≤ 0 then
        o.add (issueAt path ("Must be greater than " ++ m.boundText) "NUMBER_GT") else o
    | none => o
  let o := if !r.format.isEmpty && !Format.admitsNumber r.format then
      o.add (issueAt path ("Does not match format '" ++ r.format ++ "'") "FORMAT") else o
  o.bump

/-- The issues of the keywords on strings. -/
def stringOutcome (r : Rule) (path : List String) (s : String) : CheckOutcome :=
  let o : CheckOutcome := {}
  let o := match r.minLength with
    | some n => if s.length < n then
        o.add (issueAt path ("String length must be greater than or equal to " ++ toString n) "STRING_GTE")
      else o
    | none => o
  let o := match r.maxLength with
    | some n => if s.length > n then
        o.add (issueAt path ("String length must be less than or equal to " ++ toString n) "STRING_LTE")
      else o
    | none => o
  let o := match r.pattern with
    | some re => if re.find s then o
      else o.add (issueAt path ("Does not match pattern '" ++ re.source ++ "'") "PATTERN")
    | none => o
  let o := if !r.format.isEmpty && !Format.admits r.format s then
      o.add (issueAt path ("Does not match format '" ++ r.format ++ "'") "FORMAT") else o
  o.bump

/-- The issues of `const` and `enum`; a value without a canonical text cannot be compared. -/
def commonOutcome (r : Rule) (path : List String) (v : Json) : CheckOutcome :=
  let text := v.canonical?
  let o : CheckOutcome := {}
  let o := match r.constant with
    | some c => if text == some c then o
      else o.add (issueAt path (pathField path ++ " does not match: " ++ c) "CONST")
    | none => o
  let o := if r.enum.isEmpty || text.any r.enum.contains then o
    else o.add (issueAt path (pathField path ++ " must be one of the following: " ++ ", ".intercalate r.enum) "ENUM")
  let compared := r.constant.isSome || !r.enum.isEmpty
  { o.bump with incomparable := compared && text.isNone }

/-- The issues of repeated items: each item equal to an earlier one names the last such. An
item without a canonical text cannot be compared. -/
def uniqueOutcome (path : List String) (items : List Json) : CheckOutcome :=
  let step (acc : CheckOutcome × List (String × Nat)) (x : Json × Nat) : CheckOutcome × List (String × Nat) :=
    let (o, seen) := acc
    let (item, j) := x
    let t := item.canonical?.getD ""
    let o := match seen.lookup t with
      | some i => o.add (issueAt path ("array items[" ++ toString i ++ "," ++ toString j ++ "] must be unique") "UNIQUE")
      | none => o
    (o, (t, j) :: seen.filter (·.1 != t))
  { (items.zipIdx.foldl step ({}, [])).1 with incomparable := items.any (·.canonical?.isNone) }

/-- The best of failed outcomes: the highest score, the first of equals. -/
def best (os : List CheckOutcome) : Option CheckOutcome :=
  os.foldl (fun b o => match b with
    | some x => if o.score > x.score then some o else b
    | none => some o) none

/-- The outcomes of the branches of `anyOf` up to the first that passes. -/
def untilValid : List CheckOutcome → List CheckOutcome
  | [] => []
  | o :: rest => if o.valid then [o] else o :: untilValid rest

/-- How a sub-schema is applied: the rule at a place, to a value at a path. -/
abbrev Checker := Nat → List String → Json → CheckOutcome

/-- The issues of the combinations: `anyOf`, `oneOf`, `allOf`, `not`, `dependencies` and
`if`/`then`/`else`. -/
def combinedOutcome (check : Checker) (r : Rule) (path : List String) (v : Json) : CheckOutcome :=
  let each (places : List Nat) : List CheckOutcome := places.map fun p => check p path v
  let o : CheckOutcome := {}
  let o := if r.anyOf.isEmpty then o
    else
      let tried := untilValid (each r.anyOf)
      let o := o.absorb tried
      if tried.any CheckOutcome.valid then o
      else
        let o := o.add (issueAt path "Must validate at least one schema (anyOf)" "NUMBER_ANY_OF")
        match best tried with
        | some b => o.merge b
        | none => o
  let o := if r.oneOf.isEmpty then o
    else
      let all := each r.oneOf
      let o := o.absorb all
      let passed := (all.filter CheckOutcome.valid).length
      if passed == 1 then o
      else
        let o := o.add (issueAt path "Must validate one and only one schema (oneOf)" "NUMBER_ONE_OF")
        if passed == 0 then
          match best all with
          | some b => o.merge b
          | none => o
        else o
  let o := if r.allOf.isEmpty then o
    else
      let all := each r.allOf
      let o := all.foldl CheckOutcome.merge o
      if all.all CheckOutcome.valid then o
      else o.add (issueAt path "Must validate all the schemas (allOf)" "NUMBER_ALL_OF")
  let o := match r.negated with
    | some n =>
      let found := check n path v
      let o := o.absorb [found]
      if found.valid then o.add (issueAt path "Must not validate the schema (not)" "NUMBER_NOT") else o
    | none => o
  let o := match v with
    | .obj ms =>
      let present := Json.distinct ms
      present.foldl (fun (o : CheckOutcome) (m : String × Json) =>
        match r.dependencies.lookup m.1 with
        | some (.members names) =>
          names.foldl (fun (o : CheckOutcome) n => if present.any (·.1 == n) then o
            else o.add (issueAt path ("Has a dependency on " ++ n) "MISSING_DEPENDENCY")) o
        | some (.schema place) => o.merge (check place path v)
        | none => o) o
    | _ => o
  let o := match r.condition with
    | some c =>
      let found := check c path v
      let holds := found.valid
      let o := o.absorb [found]
      let o := match r.consequent with
        | some t =>
          if holds then
            let t := check t path v
            if t.valid then o.absorb [t]
            else (o.add (issueAt path "Must validate \"then\" as \"if\" was valid" "CONDITION_THEN")).merge t
          else o
        | none => o
      match r.alternative with
      | some e =>
        if !holds then
          let e := check e path v
          if e.valid then o.absorb [e]
          else (o.add (issueAt path "Must validate \"else\" as \"if\" was invalid" "CONDITION_ELSE")).merge e
        else o
      | none => o
    | none => o
  o.bump

/-- The issues of the keywords on arrays. -/
def arrayOutcome (check : Checker) (r : Rule) (path : List String) (items : List Json) : CheckOutcome :=
  let at_ (place : Nat) (x : Json × Nat) : CheckOutcome := check place (path ++ [toString x.2]) x.1
  let indexed := items.zipIdx
  let o : CheckOutcome := {}
  let o := match r.items with
    | .each place => indexed.foldl (fun (o : CheckOutcome) x => o.merge (at_ place x)) o
    | .listed [] => o
    | .listed places =>
      let o := (indexed.zip places).foldl (fun (o : CheckOutcome) (x, place) => o.merge (at_ place x)) o
      if places.length < items.length then
        match r.additionalItems with
        | .allowed false => o.add (issueAt path "No additional items allowed on array" "ARRAY_NO_ADDITIONAL_ITEMS")
        | .schema place => (indexed.drop places.length).foldl (fun (o : CheckOutcome) x => o.merge (at_ place x)) o
        | _ => o
      else o
    | .unset => o
  let o := match r.minItems with
    | some n => if items.length < n then
        o.add (issueAt path ("Array must have at least " ++ toString n ++ " items") "ARRAY_MIN_ITEMS") else o
    | none => o
  let o := match r.maxItems with
    | some n => if items.length > n then
        o.add (issueAt path ("Array must have at most " ++ toString n ++ " items") "ARRAY_MAX_ITEMS") else o
    | none => o
  let o := if r.uniqueItems then o.merge (uniqueOutcome path items) else o
  let o := match r.contains with
    | some place =>
      let tried := untilValid (indexed.map (at_ place))
      let o := o.absorb tried
      if tried.any CheckOutcome.valid then o
      else
        let o := o.add (issueAt path "At least one of the items must match" "CONTAINS")
        match best tried with
        | some b => o.merge b
        | none => o
    | none => o
  o.bump

/-- The issues of a member under the patterns that match its name and, when neither a
property nor a pattern describes it, under `additionalProperties`. -/
def memberOutcome (check : Checker) (r : Rule) (path : List String) (k : String) (x : Json) :
    CheckOutcome :=
  let matching := r.patternProperties.filter fun (re, _) => re.find k
  let o := matching.foldl (fun (o : CheckOutcome) (_, place) => o.merge (check place (path ++ [k]) x)) {}
  let o := if matching.isEmpty then o else o.bump
  if r.properties.any (·.1 == k) || !matching.isEmpty then o
  else match r.additionalProperties with
    | .allowed false =>
      o.add (issueAt path ("Additional property " ++ k ++ " is not allowed") "ADDITIONAL_PROPERTY_NOT_ALLOWED")
    | .schema place => o.merge (check place (path ++ [k]) x)
    | _ => o

/-- The issues of the keywords on objects, whose members are given once each. -/
def objectOutcome (check : Checker) (r : Rule) (path : List String) (ms : List (String × Json)) :
    CheckOutcome :=
  let o : CheckOutcome := {}
  let o := match r.minProperties with
    | some n => if ms.length < n then
        o.add (issueAt path ("Must have at least " ++ toString n ++ " properties") "ARRAY_MIN_PROPERTIES") else o
    | none => o
  let o := match r.maxProperties with
    | some n => if ms.length > n then
        o.add (issueAt path ("Must have at most " ++ toString n ++ " properties") "ARRAY_MAX_PROPERTIES") else o
    | none => o
  let o := r.required.foldl (fun (o : CheckOutcome) k => if ms.any (·.1 == k) then o.bump
    else o.add (issueAt path (k ++ " is required") "REQUIRED")) o
  let o := ms.foldl (fun (o : CheckOutcome) (k, x) => o.merge (memberOutcome check r path k x)) o
  let o := match r.propertyNames with
    | some place => ms.foldl (fun (o : CheckOutcome) (m : String × Json) =>
        let k := m.1
        let found := check place path (.str k)
        if found.valid then o.absorb [found]
        else (o.add (issueAt path ("Property name of \"" ++ k ++ "\" does not match")
          "INVALID_PROPERTY_NAME")).merge found) o
    | none => o
  o.bump

/-- The outcome of `v` at `path` under the rule at `place`; `fuel` bounds the nesting. -/
def Schema.checkAt (s : Schema) : Nat → Checker
  | 0, _, _, _ => {}
  | fuel + 1, place, path, v =>
    let r := s.rules.getD place {}
    match r.pass, r.ref with
    | some true, _ => {}
    | some false, _ => ({} : CheckOutcome).add (issueAt path "False always fails validation" "FALSE")
    | none, some target => s.checkAt fuel target path v
    | none, none =>
      if !admits r.types v then
        ({} : CheckOutcome).add (issueAt path
          ("Invalid type. Expected: " ++ typesText r.types ++ ", given: " ++ v.typeName) "INVALID_TYPE")
      else
        let check := s.checkAt fuel
        let o := combinedOutcome check r path v
        let o := match v with
          | .num n => o.merge (numberOutcome r path n)
          | .arr items => o.merge (arrayOutcome check r path items)
          | .obj ms => o.merge (objectOutcome check r path (Json.distinct ms))
          | _ => o
        let o := o.merge (commonOutcome r path v)
        let o := match v with
          | .str str => o.merge (stringOutcome r path str)
          | .obj ms =>
            let present := Json.distinct ms
            r.properties.foldl (fun (o : CheckOutcome) (k, place) => match memberOf present k with
              | some x => o.merge (check place (path ++ [k]) x)
              | none => o) o
          | _ => o
        o.bump

/-- The outcome of a schema on a document. -/
def Schema.outcome (s : Schema) (doc : Json) : CheckOutcome :=
  s.checkAt ((doc.depth + 2) * (s.rules.size + 2)) s.root [] doc

/-- The verdict of a schema on a document. -/
def Schema.validate (s : Schema) (doc : Json) : Verdict :=
  let o := s.outcome doc
  Verdict.ofIssues o.valid o.issues

/-- The verdict of a schema on a document, or `SchemaError.incomparable` when a value that
had to be compared holds a number beyond the binary floating-point range. -/
def Schema.check (s : Schema) (doc : Json) : Except SchemaError Verdict :=
  let o := s.outcome doc
  if o.incomparable then .error .incomparable else .ok (Verdict.ofIssues o.valid o.issues)

/-- The verdict of a schema on a document text, of which the first value is read. -/
def Schema.checkText (s : Schema) (text : String) : Except SchemaError Verdict :=
  match Json.parseFirst text with
  | .ok doc => s.check doc
  | .error msg => .ok (Verdict.single "(root)" msg "ENCODING")

end SlotAllocation
