import SlotAllocation.Pattern.Syntax

/-!
# Searching text for a pattern

A parsed pattern is unfolded into a pattern without counts (a count `{n,m}` becomes `n`
copies followed by `m - n` optional copies, `{n,}` becomes `n` copies and a star), then
compiled into a program of steps: read a character of a set, test an anchor, fork, or
accept. `Regex.find` tells whether the pattern matches somewhere in a text: it runs the
program on all threads at once, character by character, starting a new thread at every
place, and succeeds as soon as a thread accepts. Which match is found, and how long it is,
does not matter here, so greedy and lazy repetitions search alike.
-/

namespace SlotAllocation.Pattern

/-- A pattern without counts. -/
inductive Shape where
  | empty
  | chars (set : CharSet)
  | anchor (a : Anchor)
  | seq (items : List Shape)
  | alt (branches : List Shape)
  | star (sub : Shape)
  | opt (sub : Shape)
deriving Inhabited

mutual
/-- The pattern with its counts spelled out as copies. -/
def Node.unfold : Node → Shape
  | .empty => .empty
  | .chars s => .chars s
  | .literal s => .chars s
  | .group sub => sub.unfold
  | .anchor a => .anchor a
  | .seq items => .seq (unfoldAll items)
  | .alt branches => .alt (unfoldAll branches)
  | .repeat sub min max _ =>
    let s := sub.unfold
    let tail := match max with
      | none => [Shape.star s]
      | some m => List.replicate (m - min) (Shape.opt s)
    .seq (List.replicate min s ++ tail)

/-- The patterns of a list with their counts spelled out. -/
def unfoldAll : List Node → List Shape
  | [] => []
  | n :: ns => n.unfold :: unfoldAll ns
end

/-- One step of a program. -/
inductive Step where
  | read (set : CharSet) (next : Nat)
  | test (a : Anchor) (next : Nat)
  | fork (first second : Nat)
  | accept
deriving Inhabited

/-- Appends a step and gives its place. -/
def emit (s : Step) : StateM (Array Step) Nat :=
  modifyGet fun prog => (prog.size, prog.push s)

/-- Forks to each of the given places. -/
def forkAll : List Nat → Nat → StateM (Array Step) Nat
  | [], k => pure k
  | [e], _ => pure e
  | e :: es, k => do
    let rest ← forkAll es k
    emit (.fork e rest)

mutual
/-- Compiles a pattern that continues at `k` once matched, giving its first place. -/
def Shape.compile : Shape → Nat → StateM (Array Step) Nat
  | .empty, k => pure k
  | .chars s, k => emit (.read s k)
  | .anchor a, k => emit (.test a k)
  | .seq items, k => compileSeq items k
  | .alt branches, k => do forkAll (← compileEach branches k) k
  | .star sub, k => do
    let loop ← emit .accept
    let body ← sub.compile loop
    modify fun prog => prog.set! loop (.fork body k)
    pure loop
  | .opt sub, k => do
    let body ← sub.compile k
    emit (.fork body k)

/-- Compiles a sequence, its last pattern first. -/
def compileSeq : List Shape → Nat → StateM (Array Step) Nat
  | [], k => pure k
  | s :: rest, k => do
    let after ← compileSeq rest k
    s.compile after

/-- Compiles each alternative to continue at `k`. -/
def compileEach : List Shape → Nat → StateM (Array Step) (List Nat)
  | [], _ => pure []
  | s :: rest, k => do
    let e ← s.compile k
    let es ← compileEach rest k
    pure (e :: es)
end

/-- A compiled pattern: its text, the program and the place where it starts. -/
structure Regex where
  source : String
  program : Array Step
  start : Nat

/-- Whether an anchor holds between the characters `before` and `after` (absent at the ends
of the text). -/
def Anchor.holds (a : Anchor) (before after : Option Char) : Bool :=
  let word (c : Option Char) := c.any CharSet.isWordChar
  match a with
  | .textStart => before.isNone
  | .textEnd => after.isNone
  | .lineStart => before.isNone || before == some '\n'
  | .lineEnd => after.isNone || after == some '\n'
  | .wordBoundary => word before != word after
  | .notWordBoundary => word before == word after

namespace Regex

/-- Compiles a pattern text. -/
def compile (text : String) : Except PatternError Regex := do
  let node ← Node.parse text
  let (start, program) := (node.unfold.compile 0).run #[.accept]
  pure ⟨text, program, start⟩

/-- The places reachable from `pending` without reading, between `before` and `after`:
those that read a character or accept. `seen` marks the places already visited. -/
def closure (r : Regex) (before after : Option Char) :
    Nat → List Nat → Array Bool → List Nat → List Nat
  | 0, _, _, found => found
  | _, [], _, found => found
  | fuel + 1, pc :: pending, seen, found =>
    if seen.getD pc true then closure r before after fuel pending seen found
    else
      let seen := seen.set! pc true
      match r.program.getD pc .accept with
      | .fork a b => closure r before after fuel (a :: b :: pending) seen found
      | .test a next =>
        if a.holds before after then closure r before after fuel (next :: pending) seen found
        else closure r before after fuel pending seen found
      | _ => closure r before after fuel pending seen (pc :: found)

/-- The live threads at a place between `before` and `after`, with a new thread started
there. -/
def live (r : Regex) (before after : Option Char) (pcs : List Nat) : List Nat :=
  let size := r.program.size
  closure r before after (4 * size + pcs.length + 4) (r.start :: pcs) (Array.replicate size false) []

/-- Whether one of the threads accepts. -/
def accepts (r : Regex) (pcs : List Nat) : Bool :=
  pcs.any fun pc => match r.program.getD pc .accept with
    | .accept => true
    | _ => false

/-- The threads that read `c`, moved past it. -/
def advance (r : Regex) (c : Char) (pcs : List Nat) : List Nat :=
  pcs.filterMap fun pc => match r.program.getD pc .accept with
    | .read s k => if s.contains c then some k else none
    | _ => none

/-- Runs the threads at `pcs` over the rest of the text, after the character `before`. -/
def run (r : Regex) (before : Option Char) (pcs : List Nat) : List Char → Bool
  | [] => r.accepts (r.live before none pcs)
  | c :: rest =>
    let now := r.live before (some c) pcs
    r.accepts now || run r (some c) (r.advance c now) rest

/-- Whether the pattern matches somewhere in the text. -/
def find (r : Regex) (text : String) : Bool := r.run none [] text.toList

end Regex

end SlotAllocation.Pattern
