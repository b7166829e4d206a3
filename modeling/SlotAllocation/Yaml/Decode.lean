import SlotAllocation.Yaml.Node
import SlotAllocation.Yaml.Value
import SlotAllocation.Text.Quoted
import SlotAllocation.Text.Bytes
import SlotAllocation.Text.Base64
import SlotAllocation.Decimal.Format

/-!
# Decoding a YAML document into a table of values

A configuration file is read as a mapping from text keys to values. Decoding walks the first
document's node tree:

* the document must be a mapping, or null (an empty table); anything else is an error naming
  the node's line and tag;
* a mapping whose keys repeat (same kind, same text) is an error for each repetition and is
  left out;
* the keys of the top mapping are read as text (a null key drops its entry, a collection key
  is an error); a nested mapping whose keys are all strings keeps them as text, any other
  nested mapping keeps its keys as values and writes them as they print (`1`, `true`,
  `<nil>`); a collection key there stops decoding;
* an alias stands for the node last anchored with its name before it; an alias met again
  while its own node is being decoded stops decoding, and so does a document that expands
  aliases far more than it decodes its own nodes;
* a `<<` key merges mappings into the mapping that holds it: the mapping it names, or each
  mapping of the sequence it names, in order. A key is taken from the first place that gives
  it: the mapping's own keys first, then the merged mappings in order;
* a `!!binary` scalar is base64 text and stands for the bytes it encodes.

Errors of the collected kind are gathered, in document order, into one message:
`yaml: unmarshal errors:` followed by one indented line per error. The others stop decoding
at once.
-/

namespace SlotAllocation.Yaml

/-- The short form of a tag: the standard prefix becomes `!!`. -/
def shortTagName (t : String) : String :=
  if t.startsWith "tag:yaml.org,2002:" then "!!" ++ String.ofList (t.toList.drop 18) else t

/-- Whether a tag is given explicitly (not empty and not the non-specific `!`). -/
def explicitTag (t : String) : Bool := !t.isEmpty && t != "!"

/-- The anchored nodes of a tree, in document order. -/
def Node.anchored (fuel : Nat) (n : Node) : List (String × Node) :=
  match fuel with
  | 0 => []
  | fuel + 1 =>
    let own := match n with
      | .scalar _ _ _ a _ => if a.isEmpty then [] else [(a, n)]
      | .sequence _ _ a _ => if a.isEmpty then [] else [(a, n)]
      | .mapping _ _ a _ => if a.isEmpty then [] else [(a, n)]
      | .alias _ _ => []
    let inner := match n with
      | .sequence items _ _ _ => items.flatMap (Node.anchored fuel)
      | .mapping pairs _ _ _ => pairs.flatMap fun (k, v) => k.anchored fuel ++ v.anchored fuel
      | _ => []
    own ++ inner

/-- What decoding knows about a document: its anchored nodes. -/
structure Anchors where
  table : List (String × Node)

/-- The node an alias at text position `at_` names: the last node anchored with its name
that starts before it. -/
def Anchors.find? (a : Anchors) (name : String) (at_ : Nat) : Option Node :=
  (a.table.reverse.find? fun (n, node) => n == name && node.mark.index < at_).map (·.2)

/-- The short tag of a node, as messages show it: its explicit tag, or the tag of its kind,
or for a plain scalar the tag its text resolves to. -/
def Node.shortTag (anchors : Anchors) (fuel : Nat) : Node → String
  | .scalar text style tag _ _ =>
    if explicitTag tag then shortTagName tag
    else if style == .plain then (if text == "<<" then "!!merge" else (resolvePlain text).scalarTag)
    else "!!str"
  | .sequence _ tag _ _ => if explicitTag tag then shortTagName tag else "!!seq"
  | .mapping _ tag _ _ => if explicitTag tag then shortTagName tag else "!!map"
  | .alias name m =>
    match fuel, anchors.find? name m.index with
    | fuel + 1, some n => n.shortTag anchors fuel
    | _, _ => ""

/-- Whether every key of a mapping is a string or the merge key: such a mapping keeps its
keys as text. -/
def isTextKeyed (anchors : Anchors) (pairs : List (Node × Node)) : Bool :=
  pairs.all fun (k, _) =>
    let t := k.shortTag anchors 64
    t == "!!str" || t == "!!merge"

/-- Whether a key is the merge key: a plain `<<` without a tag, or `<<` tagged `!!merge`. -/
def isMergeKey : Node → Bool
  | .scalar text style tag _ _ =>
    text == "<<" && ((style == .plain && !explicitTag tag) || shortTagName tag == "!!merge")
  | _ => false

/-- The text of a node as messages quote it: up to ten bytes whole, longer ones cut to seven
bytes and an ellipsis. -/
def quoteNodeText (text : String) : String :=
  if text.utf8ByteSize > 10 then
    " `" ++ Text.byteCut text 7 ++ "...`"
  else " `" ++ text ++ "`"

/-- The message for a node that cannot be read as `target`. -/
def typeErrorText (anchors : Anchors) (n : Node) (target : String) : String :=
  let tag := n.shortTag anchors 64
  let text := match n with
    | .scalar t _ _ _ _ => t
    | _ => ""
  let shown := if tag == "!!seq" || tag == "!!map" then "" else quoteNodeText text
  "line " ++ toString (n.mark.line + 1) ++ ": cannot unmarshal " ++ tag ++ shown ++ " into " ++
    target

/-- Whether a scalar is a string by how it is written: tagged `!!str`, or quoted or a block
scalar without a tag. -/
def indicatedString (style : Style) (tag : String) : Bool :=
  shortTagName tag == "!!str" || (!explicitTag tag && style != .plain)

/-- The tag a scalar resolves to and its value: a string when so written, the text resolved
by its tag otherwise, and for `!!binary` the bytes its base64 text encodes. -/
def scalarResolved (text : String) (style : Style) (tag : String) : Except String (String × Value) :=
  if indicatedString style tag then .ok ("!!str", .str text)
  else
    match resolveTagged (if explicitTag tag then shortTagName tag else "") text with
    | .error e => .error e
    | .ok (rtag, v) =>
      if rtag == "!!binary" then
        match Base64.decode text with
        | some bytes => .ok (rtag, .str (Text.ofBytes bytes))
        | none => .error "yaml: !!binary value contains invalid base64 data"
      else .ok (rtag, v)

/-- Whether two decoded keys are the same key: equal scalars of one kind. Timestamps with a
fixed offset each carry their own zone and equal no other. -/
def Value.sameKey : Value → Value → Bool
  | .null, .null => true
  | .bool a, .bool b => a == b
  | .int a, .int b => a == b
  | .float a, .float b => a == b
  | .str a, .str b => a == b
  | .time a, .time b =>
    a == b && (match a.zone with
      | .fixed _ => false
      | _ => true)
  | _, _ => false

/-- The text a scalar key is written as once keys become text. -/
def Value.keyText : Value → String
  | .null => "<nil>"
  | .bool b => if b then "true" else "false"
  | .int i => toString i
  | .float f => Float.generalText f
  | .str s => s
  | .time t => t.text
  | .seq _ => ""
  | .map _ => ""

/-- A scalar value as a source expression writes it: strings quoted, unsigned words past the
signed range in hexadecimal, null as a typed nil, timestamps as a date constructor. -/
def Value.scalarSyntax : Value → String
  | .null => "interface \x7b\x7d(nil)"
  | .bool b => if b then "true" else "false"
  | .int i => if i > 9223372036854775807 then "0x" ++ String.ofList (Nat.toDigits 16 i.toNat) else toString i
  | .float f => Float.generalText f
  | .str s => Text.quote s
  | .time t => t.syntaxText
  | .seq _ => ""
  | .map _ => ""

/-- A node's decoded value as a source expression writes it: a sequence as
`[]interface {}{…}`, a mapping as `map[string]interface {}{k:v, …}` (or with
`interface {}` keys when not all keys are strings), entries in order of their keys. -/
def Node.valueSyntax (anchors : Anchors) (fuel : Nat) (n : Node) : String :=
  match fuel with
  | 0 => ""
  | fuel + 1 =>
    match n with
    | .alias name m =>
      match anchors.find? name m.index with
      | some target => target.valueSyntax anchors fuel
      | none => ""
    | .scalar text style tag _ _ =>
      match scalarResolved text style tag with
      | .ok (_, v) => v.scalarSyntax
      | .error _ => ""
    | .sequence items _ _ _ =>
      "[]interface \x7b\x7d\x7b" ++ ", ".intercalate (items.map (Node.valueSyntax anchors fuel)) ++ "\x7d"
    | .mapping pairs _ _ _ =>
      let textKeys := isTextKeyed anchors pairs
      let entries := (pairs.filter (!isMergeKey ·.1)).map fun (k, v) =>
        (k.valueSyntax anchors fuel, k.valueSyntax anchors fuel ++ ":" ++ v.valueSyntax anchors fuel)
      let sorted := entries.mergeSort fun a b => Decidable.decide (a.1 ≤ b.1)
      (if textKeys then "map[string]interface \x7b\x7d\x7b" else "map[interface \x7b\x7d]interface \x7b\x7d\x7b") ++
        ", ".intercalate (sorted.map (·.2)) ++ "\x7d"

/-- The reports for the keys of a mapping that repeat an earlier key (same kind, same
text). -/
def repeatedKeyReports (pairs : List (Node × Node)) : List String :=
  let keyOf : Node → Nat × String := fun n => match n with
    | .scalar t _ _ _ _ => (0, t)
    | .sequence _ _ _ _ => (1, "")
    | .mapping _ _ _ _ => (2, "")
    | .alias name _ => (3, name)
  let indexed := (pairs.map (·.1)).zipIdx
  indexed.flatMap fun (ni, i) =>
    indexed.filterMap fun (nj, j) =>
      if i < j && keyOf ni == keyOf nj then
        some ("line " ++ toString (nj.mark.line + 1) ++ ": mapping key " ++ Text.quote (keyOf nj).2 ++
          " already defined at line " ++ toString (ni.mark.line + 1))
      else none

/-- What a node is decoded into: the top table (a mapping with text keys), a text (a key of
a mapping with text keys), or any value. -/
inductive Target where
  | table
  | text
  | any
deriving DecidableEq

/-- A mapping being filled: whether its keys are text, and its entries so far. -/
structure MapOut where
  textKeys : Bool
  entries : List (Value × Value) := []

/-- Sets the entry of key `k`, replacing the value of the same key. -/
def MapOut.insert (m : MapOut) (k v : Value) : MapOut :=
  if m.entries.any (·.1.sameKey k) then
    { m with entries := m.entries.map fun e => if e.1.sameKey k then (e.1, v) else e }
  else { m with entries := m.entries ++ [(k, v)] }

/-- The filled mapping as a value, its keys written as text. -/
def MapOut.value (m : MapOut) : Value := .map (m.entries.map fun (k, v) => (k.keyText, v))

/-- The state of decoding: the collected errors, the count of nodes decoded and of those
reached through an alias, how deep in aliases decoding is and at which aliases, and the
keys already taken by a merge in progress. -/
structure DecodeState where
  errors : List String := []
  decodes : Nat := 0
  aliased : Nat := 0
  aliasDepth : Nat := 0
  expanding : List Nat := []
  claimed : Option (List Value) := none

/-- Decoding collects errors and may stop with a problem. -/
abbrev Decoding := StateT DecodeState (Except String)

/-- Records a collected error. -/
def note (msg : String) : Decoding Unit :=
  modify fun st => { st with errors := st.errors ++ [msg] }

/-- Records the collected errors of repeated keys; true when there are some. -/
def noteRepeatedKeys (pairs : List (Node × Node)) : Decoding Bool := do
  let reports := repeatedKeyReports pairs
  for r in reports do note r
  pure !reports.isEmpty

/-- The share of decoded nodes that may come from alias expansion: 99% up to 400000 nodes,
10% from 4000000 on, falling evenly between. -/
def allowedAliasRatio (decodes : Nat) : Float :=
  if decodes ≤ 400000 then 0.99
  else if decodes ≥ 4000000 then 0.10
  else 0.99 - 0.89 * (Float.ofNat (decodes - 400000) / 3600000.0)

/-- Counts one node decoded, and stops a document that expands aliases too much. -/
def countDecode : Decoding Unit := do
  let st ← get
  let decodes := st.decodes + 1
  let aliased := if st.aliasDepth > 0 then st.aliased + 1 else st.aliased
  set { st with decodes, aliased }
  if aliased > 100 && decodes > 1000 &&
      Float.ofNat aliased / Float.ofNat decodes > allowedAliasRatio decodes then
    throw "yaml: document contains excessive aliasing"

/-- The node an alias names. -/
def aliasTarget (anchors : Anchors) (name : String) (m : Mark) : Decoding Node :=
  match anchors.find? name m.index with
  | some n => pure n
  | none => throw ("yaml: unknown anchor '" ++ name ++ "' referenced")

/-- Starts decoding through the alias at `m`; meeting it again inside is a problem. -/
def enterAlias (name : String) (m : Mark) : Decoding Unit := do
  let st ← get
  if st.expanding.contains m.index then
    throw ("yaml: anchor '" ++ name ++ "' value contains itself")
  set { st with expanding := m.index :: st.expanding, aliasDepth := st.aliasDepth + 1 }

/-- Ends decoding through the alias at `m`. -/
def leaveAlias (m : Mark) : Decoding Unit :=
  modify fun st => { st with expanding := st.expanding.erase m.index, aliasDepth := st.aliasDepth - 1 }

/-- The problem of a merge key whose value is not a mapping or a sequence of mappings. -/
def wantMapProblem : String := "yaml: map merge requires map or sequence of maps as the value"

/-- A scalar decoded into a target: any value takes the resolved value; a text takes the
scalar's own text (the decoded bytes for `!!binary`) and drops a null; the top table takes a
null as empty and reports anything else. -/
def scalarInto (anchors : Anchors) (target : Target) (n : Node) (text : String) (style : Style)
    (tag : String) : Decoding (Option Value) := do
  let (rtag, v) ← match scalarResolved text style tag with
    | .ok r => pure r
    | .error e => throw e
  match target, v with
  | .any, v => pure (some v)
  | .text, .null => pure none
  | .text, v => pure (some (if rtag == "!!binary" then v else .str text))
  | .table, .null => pure (some (.map []))
  | .table, _ => do
    note (typeErrorText anchors n "map[string]interface \x7b\x7d")
    pure none

mutual

/-- Decodes a node into a target; none when it could not be. -/
def decodeNode (anchors : Anchors) (fuel : Nat) (target : Target) (n : Node) :
    Decoding (Option Value) :=
  match fuel with
  | 0 => pure none
  | fuel + 1 => do
    countDecode
    match n with
    | .alias name m => do
      let node ← aliasTarget anchors name m
      enterAlias name m
      let r ← decodeNode anchors fuel target node
      leaveAlias m
      pure r
    | .scalar text style tag _ _ => scalarInto anchors target n text style tag
    | .sequence items _ _ _ =>
      match target with
      | .any => do
        let mut vs : List Value := []
        for item in items do
          if let some v ← decodeNode anchors fuel .any item then vs := vs ++ [v]
        pure (some (.seq vs))
      | .text => do
        note (typeErrorText anchors n "string")
        pure none
      | .table => do
        note (typeErrorText anchors n "map[string]interface \x7b\x7d")
        pure none
    | .mapping pairs _ _ _ =>
      match target with
      | .text => do
        if ← noteRepeatedKeys pairs then pure none
        else do
          note (typeErrorText anchors n "string")
          pure none
      | .table => do
        let (good, out) ← mappingInto anchors fuel pairs ⟨true, []⟩
        pure (if good then some out.value else none)
      | .any => do
        let (good, out) ← mappingInto anchors fuel pairs ⟨isTextKeyed anchors pairs, []⟩
        pure (if good then some out.value else none)

/-- Decodes a mapping node (or an alias of one) into a mapping being filled. -/
def decodeInto (anchors : Anchors) (fuel : Nat) (n : Node) (out : MapOut) :
    Decoding (Bool × MapOut) :=
  match fuel with
  | 0 => pure (false, out)
  | fuel + 1 => do
    countDecode
    match n with
    | .alias name m => do
      let node ← aliasTarget anchors name m
      enterAlias name m
      let r ← decodeInto anchors fuel node out
      leaveAlias m
      pure r
    | .mapping pairs _ _ _ => mappingInto anchors fuel pairs out
    | _ => pure (false, out)

/-- Fills a mapping with the pairs of a mapping node: keys first (skipping those a merge in
progress has taken), then the mapping its merge key names. -/
def mappingInto (anchors : Anchors) (fuel : Nat) (pairs : List (Node × Node)) (out : MapOut) :
    Decoding (Bool × MapOut) :=
  match fuel with
  | 0 => pure (false, out)
  | fuel + 1 => do
    if ← noteRepeatedKeys pairs then return (false, out)
    let mut claimed := (← get).claimed
    modify fun st => { st with claimed := none }
    let mut out := out
    let mut mergeNode : Option Node := none
    for (k, v) in pairs do
      if isMergeKey k then
        mergeNode := some v
        continue
      let some kv ← decodeNode anchors fuel (if out.textKeys then .text else .any) k | continue
      if let some taken := claimed then
        if taken.any (·.sameKey kv) then continue
        claimed := some (taken ++ [kv])
      match kv with
      | .seq _ | .map _ => throw ("yaml: invalid map key: " ++ k.valueSyntax anchors fuel)
      | _ => pure ()
      if let some value ← decodeNode anchors fuel .any v then
        out := out.insert kv value
    modify fun st => { st with claimed := claimed }
    match mergeNode with
    | some m => do
      let merged ← mergeInto anchors fuel pairs m out
      pure (true, merged)
    | none => pure (true, out)

/-- Merges the mapping (or the mappings of the sequence) that a merge key names into a
mapping being filled; the holding mapping's own keys are taken first. -/
def mergeInto (anchors : Anchors) (fuel : Nat) (parent : List (Node × Node)) (m : Node)
    (out : MapOut) : Decoding MapOut :=
  match fuel with
  | 0 => pure out
  | fuel + 1 => do
    let saved := (← get).claimed
    if saved.isNone then
      let mut taken : List Value := []
      for (k, _) in parent do
        if let some kv ← decodeNode anchors fuel .any k then taken := taken ++ [kv]
      modify fun st => { st with claimed := some taken }
    let out ← match m with
      | .mapping _ _ _ _ => (·.2) <$> decodeInto anchors fuel m out
      | .alias name mk => do
        match ← aliasTarget anchors name mk with
        | .mapping _ _ _ _ => (·.2) <$> decodeInto anchors fuel m out
        | _ => throw wantMapProblem
      | .sequence items _ _ _ => do
        let mut filled := out
        for item in items do
          match item with
          | .mapping _ _ _ _ => pure ()
          | .alias name mk =>
            match ← aliasTarget anchors name mk with
            | .mapping _ _ _ _ => pure ()
            | _ => throw wantMapProblem
          | _ => throw wantMapProblem
          filled := (← decodeInto anchors fuel item filled).2
        pure filled
      | _ => throw wantMapProblem
    modify fun st => { st with claimed := saved }
    pure out

end

/-- Decodes a document into a table of values. -/
def decodeTable (anchors : Anchors) (fuel : Nat) (root : Node) : Decoding (List (String × Value)) := do
  countDecode
  match ← decodeNode anchors fuel .table root with
  | some (.map es) => pure es
  | _ => pure []

/-- Reads a configuration text into a table of values, or the text of the first problem. -/
def readTable (text : String) : Except String (List (String × Value)) :=
  match readDocument text with
  | .error f => .error f.message
  | .ok none => .ok []
  | .ok (some root) =>
    let fuel := 8 * text.length + 64
    let anchors : Anchors := ⟨root.anchored fuel⟩
    match (decodeTable anchors fuel root).run {} with
    | .error e => .error e
    | .ok (table, st) =>
      if st.errors.isEmpty then .ok table
      else .error ("yaml: unmarshal errors:\n  " ++ "\n  ".intercalate st.errors)

end SlotAllocation.Yaml
