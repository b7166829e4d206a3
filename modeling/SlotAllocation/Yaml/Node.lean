import SlotAllocation.Yaml.Scanner

/-!
# Parsing tokens into nodes

The parser reads the first document of a token stream and builds its node tree: scalars,
sequences, mappings and aliases, each with its tag, its anchor and the mark where it starts.
A missing key, value or entry becomes an empty plain scalar at the place it was expected.

When the scanner stopped at a fault, the parser meets it when it runs out of tokens, or when
it stops at a problem of its own too close to the fault: the reader this format follows
scans three tokens ahead of the parser, and further while a key candidate is open.
-/

namespace SlotAllocation.Yaml

/-- A node of a document. -/
inductive Node where
  | scalar (text : String) (style : Style) (tag anchor : String) (mark : Mark)
  | sequence (items : List Node) (tag anchor : String) (mark : Mark)
  | mapping (pairs : List (Node × Node)) (tag anchor : String) (mark : Mark)
  | alias (name : String) (mark : Mark)
deriving Repr, Inhabited

namespace Node

/-- Where the node starts. -/
def mark : Node → Mark
  | .scalar _ _ _ _ m => m
  | .sequence _ _ _ m => m
  | .mapping _ _ _ m => m
  | .alias _ m => m

/-- The empty plain scalar that stands for a missing node. -/
def empty (m : Mark) : Node := .scalar "" .plain "" "" m

end Node

/-- What a parser failure carries: the fault and the position of the token it stopped at. -/
abbrev ParseFailure := Fault × Nat

/-- The tokens being parsed, the fault that ended them if the scanner met one, and the tag
handles in force with their prefixes. -/
structure Tokens where
  items : Array Token
  fault : Option Fault
  handles : List (String × String) := []

/-- The token at position `i`; past the end, the scanner's fault. -/
def Tokens.get (ts : Tokens) (i : Nat) : Except ParseFailure Token :=
  if h : i < ts.items.size then .ok ts.items[i]
  else .error (ts.fault.getD ⟨.parser, none, "did not find expected node content", {}⟩, i)

/-- A parser fault at a token. -/
def parserFault (context : String) (contextMark : Mark) (problem : String) (t : Token) (i : Nat) :
    ParseFailure :=
  (⟨.parser, some (context, contextMark), problem, t.start⟩, i)

/-- The tag handles every document knows: `!` for local tags, `!!` for the standard ones. -/
def defaultHandles : List (String × String) := [("!", "!"), ("!!", "tag:yaml.org,2002:")]

/-- The full tag a tag token names: a verbatim tag as it stands, otherwise the prefix of its
handle followed by the suffix. -/
def Tokens.tagName (ts : Tokens) (handle suffix : String) : Except String String :=
  if handle.isEmpty then .ok suffix
  else match ts.handles.find? (·.1 == handle) with
    | some (_, pfx) => .ok (pfx ++ suffix)
    | none => .error handle

/-- Whether an anchor of this name comes before token `i`. -/
def Tokens.anchorBefore (ts : Tokens) (name : String) (i : Nat) : Bool :=
  (ts.items.toList.take i).any fun t => t.kind == .anchor name

/-- Whether a token kind is `k`. -/
def TokenKind.isOneOf (k : TokenKind) (ks : List TokenKind) : Bool := ks.contains k

mutual

/-- Parses a node at token `i`. In a block context, block collections may start here; where
an indentless sequence is allowed, a `-` entry starts one. -/
def parseNode (ts : Tokens) (fuel : Nat) (block indentless : Bool) (i : Nat) :
    Except ParseFailure (Node × Nat) :=
  match fuel with
  | 0 => .error (⟨.parser, none, "exceeded max depth", {}⟩, i)
  | fuel + 1 => do
    let t ← ts.get i
    match t.kind with
    | .alias name =>
      if ts.anchorBefore name i then pure (.alias name t.start, i + 1)
      else .error (⟨.parser, none, "unknown anchor '" ++ name ++ "' referenced", {}⟩, i)
    | _ =>
      -- an anchor and a tag, in either order
      let (anchor, tagParts, i) ← match t.kind with
        | .anchor a => do
          let t2 ← ts.get (i + 1)
          match t2.kind with
          | .tag h s => pure (a, some (h, s, t2.start), i + 2)
          | _ => pure (a, none, i + 1)
        | .tag h s => do
          let t2 ← ts.get (i + 1)
          match t2.kind with
          | .anchor a => pure (a, some (h, s, t.start), i + 2)
          | _ => pure ("", some (h, s, t.start), i + 1)
        | _ => pure ("", none, i)
      let start := t.start
      let tag ← match tagParts with
        | none => pure ""
        | some (h, s, tagMark) =>
          match ts.tagName h s with
          | .ok name => pure name
          | .error _ =>
            Except.error (⟨.parser, some ("while parsing a node", start),
              "found undefined tag handle", tagMark⟩, i)
      let t ← ts.get i
      match t.kind with
      | .blockEntry =>
        if indentless then
          let (items, j) ← indentlessSequence ts fuel i []
          pure (.sequence items tag anchor start, j)
        else fallback ts block start anchor tag t i
      | .scalar text style => pure (.scalar text style tag anchor start, i + 1)
      | .flowSequenceStart =>
        let (items, j) ← flowSequence ts fuel t.start true (i + 1) []
        pure (.sequence items tag anchor start, j)
      | .flowMappingStart =>
        let (pairs, j) ← flowMapping ts fuel t.start true (i + 1) []
        pure (.mapping pairs tag anchor start, j)
      | .blockSequenceStart =>
        if block then
          let (items, j) ← blockSequence ts fuel t.start (i + 1) []
          pure (.sequence items tag anchor start, j)
        else fallback ts block start anchor tag t i
      | .blockMappingStart =>
        if block then
          let (pairs, j) ← blockMapping ts fuel t.start (i + 1) []
          pure (.mapping pairs tag anchor start, j)
        else fallback ts block start anchor tag t i
      | _ => fallback ts block start anchor tag t i

/-- A node with an anchor or tag and no content is an empty scalar; anything else that
cannot start a node is a fault. -/
def fallback (_ts : Tokens) (block : Bool) (start : Mark) (anchor tag : String) (t : Token)
    (i : Nat) : Except ParseFailure (Node × Nat) :=
  if !anchor.isEmpty || !tag.isEmpty then pure (.scalar "" .plain tag anchor start, i)
  else .error (parserFault (if block then "while parsing a block node" else "while parsing a flow node")
    start "did not find expected node content" t i)

/-- The entries of a block sequence, after its start token. -/
def blockSequence (ts : Tokens) (fuel : Nat) (context : Mark) (i : Nat) (acc : List Node) :
    Except ParseFailure (List Node × Nat) :=
  match fuel with
  | 0 => .ok (acc.reverse, i)
  | fuel + 1 => do
    let t ← ts.get i
    match t.kind with
    | .blockEntry =>
      let t2 ← ts.get (i + 1)
      if t2.kind.isOneOf [.blockEntry, .blockEnd] then
        blockSequence ts fuel context (i + 1) (Node.empty t.stop :: acc)
      else
        let (n, j) ← parseNode ts fuel true false (i + 1)
        blockSequence ts fuel context j (n :: acc)
    | .blockEnd => pure (acc.reverse, i + 1)
    | _ => .error (parserFault "while parsing a block collection" context
        "did not find expected '-' indicator" t i)

/-- The entries of a sequence written without indentation under a mapping key. -/
def indentlessSequence (ts : Tokens) (fuel : Nat) (i : Nat) (acc : List Node) :
    Except ParseFailure (List Node × Nat) :=
  match fuel with
  | 0 => .ok (acc.reverse, i)
  | fuel + 1 => do
    let t ← ts.get i
    match t.kind with
    | .blockEntry =>
      let t2 ← ts.get (i + 1)
      if t2.kind.isOneOf [.blockEntry, .key, .value, .blockEnd] then
        indentlessSequence ts fuel (i + 1) (Node.empty t.stop :: acc)
      else
        let (n, j) ← parseNode ts fuel true false (i + 1)
        indentlessSequence ts fuel j (n :: acc)
    | _ => pure (acc.reverse, i)

/-- The pairs of a block mapping, after its start token. -/
def blockMapping (ts : Tokens) (fuel : Nat) (context : Mark) (i : Nat) (acc : List (Node × Node)) :
    Except ParseFailure (List (Node × Node) × Nat) :=
  match fuel with
  | 0 => .ok (acc.reverse, i)
  | fuel + 1 => do
    let t ← ts.get i
    match t.kind with
    | .key =>
      let t2 ← ts.get (i + 1)
      let (k, j) ← if t2.kind.isOneOf [.key, .value, .blockEnd] then pure (Node.empty t.stop, i + 1)
        else parseNode ts fuel true true (i + 1)
      let t3 ← ts.get j
      let (v, j) ← match t3.kind with
        | .value => do
          let t4 ← ts.get (j + 1)
          if t4.kind.isOneOf [.key, .value, .blockEnd] then pure (Node.empty t3.stop, j + 1)
          else parseNode ts fuel true true (j + 1)
        | _ => pure (Node.empty t3.start, j)
      blockMapping ts fuel context j ((k, v) :: acc)
    | .blockEnd => pure (acc.reverse, i + 1)
    | _ => .error (parserFault "while parsing a block mapping" context "did not find expected key" t i)

/-- The entries of a flow sequence, after its opening bracket. A `key: value` entry is a
mapping of one pair. -/
def flowSequence (ts : Tokens) (fuel : Nat) (context : Mark) (first : Bool) (i : Nat)
    (acc : List Node) : Except ParseFailure (List Node × Nat) :=
  match fuel with
  | 0 => .ok (acc.reverse, i)
  | fuel + 1 => do
    let t ← ts.get i
    if t.kind == .flowSequenceEnd then pure (acc.reverse, i + 1)
    else
      let i ← if first then pure i
        else if t.kind == .flowEntry then pure (i + 1)
        else .error (parserFault "while parsing a flow sequence" context
          "did not find expected ',' or ']'" t i)
      let t ← ts.get i
      match t.kind with
      | .flowSequenceEnd => pure (acc.reverse, i + 1)
      | .key =>
        let t2 ← ts.get (i + 1)
        let (k, j) ← if t2.kind.isOneOf [.value, .flowEntry, .flowSequenceEnd] then
            pure (Node.empty t2.start, i + 1)
          else parseNode ts fuel false false (i + 1)
        let t3 ← ts.get j
        let (v, j) ← match t3.kind with
          | .value => do
            let t4 ← ts.get (j + 1)
            if t4.kind.isOneOf [.flowEntry, .flowSequenceEnd] then pure (Node.empty t4.start, j + 1)
            else parseNode ts fuel false false (j + 1)
          | _ => pure (Node.empty t3.start, j)
        flowSequence ts fuel context false j (.mapping [(k, v)] "" "" t.start :: acc)
      | _ =>
        let (n, j) ← parseNode ts fuel false false i
        flowSequence ts fuel context false j (n :: acc)

/-- The pairs of a flow mapping, after its opening brace. -/
def flowMapping (ts : Tokens) (fuel : Nat) (context : Mark) (first : Bool) (i : Nat)
    (acc : List (Node × Node)) : Except ParseFailure (List (Node × Node) × Nat) :=
  match fuel with
  | 0 => .ok (acc.reverse, i)
  | fuel + 1 => do
    let t ← ts.get i
    if t.kind == .flowMappingEnd then pure (acc.reverse, i + 1)
    else
      let i ← if first then pure i
        else if t.kind == .flowEntry then pure (i + 1)
        else .error (parserFault "while parsing a flow mapping" context
          "did not find expected ',' or '\x7d'" t i)
      let t ← ts.get i
      match t.kind with
      | .flowMappingEnd => pure (acc.reverse, i + 1)
      | .key =>
        let t2 ← ts.get (i + 1)
        let (k, j) ← if t2.kind.isOneOf [.value, .flowEntry, .flowMappingEnd] then
            pure (Node.empty t2.start, i + 1)
          else parseNode ts fuel false false (i + 1)
        let t3 ← ts.get j
        let (v, j) ← match t3.kind with
          | .value => do
            let t4 ← ts.get (j + 1)
            if t4.kind.isOneOf [.flowEntry, .flowMappingEnd] then pure (Node.empty t4.start, j + 1)
            else parseNode ts fuel false false (j + 1)
          | _ => pure (Node.empty t3.start, j)
        flowMapping ts fuel context false j ((k, v) :: acc)
      | _ =>
        let (k, j) ← parseNode ts fuel false false i
        let t3 ← ts.get j
        flowMapping ts fuel context false j ((k, Node.empty t3.start) :: acc)

end

/-- Whether a token ends the content of a document: another document, a directive, or the
end of the stream. -/
def TokenKind.endsContent : TokenKind → Bool
  | .documentStart | .documentEnd | .streamEnd | .versionDirective _ _ | .tagDirective _ _ => true
  | _ => false

/-- Reads the directives before an explicit document, from token `i`: at most one `%YAML`,
which must name version 1.1, and `%TAG` handles each named once. Gives the handles in force
(the default ones unless redefined) and the position after the directives. -/
def readDirectives (ts : Tokens) (fuel i : Nat) (version : Bool) (own : List (String × String)) :
    Except ParseFailure (List (String × String) × Nat) :=
  match fuel with
  | 0 => .ok (own, i)
  | fuel + 1 => do
    let t ← ts.get i
    match t.kind with
    | .versionDirective major minor =>
      if version then .error (⟨.parser, none, "found duplicate %YAML directive", t.start⟩, i)
      else if major != 1 || minor != 1 then
        .error (⟨.parser, none, "found incompatible YAML document", t.start⟩, i)
      else readDirectives ts fuel (i + 1) true own
    | .tagDirective handle pfx =>
      if own.any (·.1 == handle) then
        .error (⟨.parser, none, "found duplicate %TAG directive", t.start⟩, i)
      else readDirectives ts fuel (i + 1) version (own ++ [(handle, pfx)])
    | _ => .ok (own ++ defaultHandles.filter (fun d => !own.any (·.1 == d.1)), i)

/-- Parses the first document: none when the stream holds no document. Gives the node and
the position of the last token looked at. A document that starts with directives or `---`
is explicit: its directives are read, then `---` must follow. -/
def parseDocument (ts : Tokens) : Except ParseFailure (Option Node × Nat) := do
  let fuel := 2 * ts.items.size + 16
  let t ← ts.get 1
  match t.kind with
  | .streamEnd => pure (none, 1)
  | .documentStart | .versionDirective _ _ | .tagDirective _ _ =>
    let (handles, i) ← readDirectives ts (ts.items.size + 1) 1 false []
    let t ← ts.get i
    if t.kind != .documentStart then
      throw (⟨.parser, none, "did not find expected <document start>", t.start⟩, i)
    let ts := { ts with handles }
    let t2 ← ts.get (i + 1)
    let (n, j) ← if t2.kind.endsContent then pure (Node.empty t2.start, i + 1)
      else parseNode ts fuel true false (i + 1)
    let _ ← ts.get j
    pure (some n, j)
  | _ =>
    let ts := { ts with handles := defaultHandles }
    let (n, j) ← parseNode ts fuel true false 1
    let _ ← ts.get j
    pure (some n, j)

/-- Reads the first document of a text. A scanner fault is reported when the parser runs
into it, or when the parser's own problem lies within three tokens of it or at an open key
candidate. -/
def readDocument (text : String) : Except Fault (Option Node) :=
  let sc := scan text
  let ts : Tokens := ⟨sc.tokens, sc.fault, []⟩
  let scannerWins (k : Nat) : Bool :=
    sc.tokens.size < k + 3 || sc.openKeys.any (· ≤ k)
  match sc.fault with
  | some f@{ stage := .reader, .. } => .error f
  | _ =>
  match parseDocument ts with
  | .ok (n, j) =>
    match sc.fault with
    | some f => if scannerWins j then .error f else .ok n
    | none => .ok n
  | .error (p, k) =>
    match sc.fault with
    | some f => if k ≥ sc.tokens.size || scannerWins k then .error f else .error p
    | none => .error p

end SlotAllocation.Yaml
