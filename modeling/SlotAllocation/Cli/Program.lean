import SlotAllocation.Cli.Completion
import SlotAllocation.Cli.Scripts
import SlotAllocation.Assignment.Engine
import SlotAllocation.Assignment.Document
import SlotAllocation.Assignment.Verify
import SlotAllocation.Validation.Problem
import SlotAllocation.Decimal.Format

/-!
# Running the assignment runner

`execute read args` runs one command line and gives the exit code and what was written to
standard output and standard error. Files are read through `read`, which gives a file's text
or the system's reason for not giving it, so the same program runs against real files or
against a table of them (`Files.read`).

The steps:

1. the command is resolved (`resolve`); a leftover root argument is an unknown command;
2. the command's flags are parsed, its help switch included;
3. a help request, or a command that only groups others, prints the command's help;
4. positional arguments are checked (the completion commands take none), then the required
   flags;
5. the command runs: `run` assigns and prints the result as indented JSON or as text lines,
   `verify` checks a stored result, `help` prints the help of the command it names,
   `completion <shell>` prints the shell's completion script.

The completion request (`__complete` or `__completeNoDesc` as the first word) skips steps 2
to 4: it takes its words as they stand, needs at least one, and prints the completion choices
(`completionOutput`).

Every problem ends the program with exit code 1 and `Error: <problem>` on standard error.
-/

namespace SlotAllocation.Cli

/-- What one command line leaves behind. -/
structure Printout where
  exitCode : Nat
  stdout : String
  stderr : String
deriving Repr

/-- A successful run that printed `text`. -/
def Printout.ok (text : String) : Printout := ⟨0, text, ""⟩

/-- A failed run, with its problem. -/
def Printout.failed (problem : String) : Printout := ⟨1, "", "Error: " ++ problem ++ "\n"⟩

/-- Files by plain name, all in the working directory. -/
abbrev Files := List (String × String)

/-- Where resolving a path has got to. -/
inductive PathPoint where
  /-- A directory: the working one at depth 0, an ancestor of it further up. -/
  | directory (depth : Nat)
  | file (text : String)
  /-- A directory outside the working one whose content is unknown. -/
  | elsewhere

/-- Reads a file of `files` by path, relative to the working directory; the problem is the
system's text: a missing name (the empty path names nothing), a file used as a directory, or
a directory read as a file. -/
def Files.read (files : Files) (path : String) : Except String String :=
  let parts := path.splitOn "/"
  let start : PathPoint := if path.startsWith "/" then .elsewhere else .directory 0
  let rec walk (at_ : PathPoint) : List String → Except String PathPoint
    | [] => .ok at_
    | part :: more =>
      match at_ with
      | .file _ => .error "not a directory"
      | .elsewhere =>
        if part.isEmpty || part == "." || part == ".." then walk .elsewhere more
        else .error "no such file or directory"
      | .directory depth =>
        if part.isEmpty || part == "." then walk (.directory depth) more
        else if part == ".." then walk (.directory (depth + 1)) more
        else if depth = 0 then
          match files.find? (·.1 == part) with
          | some (_, text) => walk (.file text) more
          | none => .error "no such file or directory"
        else .error "no such file or directory"
  let found := if path.isEmpty then .error "no such file or directory"
    else walk start (if path.startsWith "/" then parts.drop 1 else parts)
  match found with
  | .ok (.file text) => .ok text
  | .ok _ => .error ("read " ++ path ++ ": is a directory")
  | .error reason => .error ("open " ++ path ++ ": " ++ reason)

section Actions

variable {m : Type → Type} [Monad m] (read : String → m (Except String String))

/-- Reads and checks the problem file: bound to the problem shape, validated, and its
preference lists cleaned. -/
def loadProblem (path : String) : m (Except String Problem) := do
  match ← read path with
  | .error e => pure (.error ("failed to read input file " ++ path ++ ": " ++ e))
  | .ok text =>
    match bindText problemShape text with
    | .error e => pure (.error ("failed to unmarshal input JSON: " ++ e.message))
    | .ok j =>
      let p := Problem.ofBound j
      let v := p.verdict
      if v.valid then pure (.ok { p with preferences := p.preferences.map Preferences.normalize })
      else pure (.error ("invalid input: " ++ v.text))

/-- Reads a stored result file. -/
def loadResult (path : String) : m (Except String Result) := do
  match ← read path with
  | .error e => pure (.error ("failed to read result file " ++ path ++ ": " ++ e))
  | .ok text =>
    match bindText resultShape text with
    | .error e => pure (.error ("failed to unmarshal result JSON: " ++ e.message))
    | .ok j => pure (.ok (Result.ofBound j))

end Actions

/-- `s` padded with blanks to sixteen characters. -/
def column (s : String) : String := padRight 16 s

/-- The text report of a run: one line per placed applicant in ascending order, with the
phase that placed them, one line per applicant left waiting, and a tally. -/
def textReport (o : Outcome) : String :=
  let r := o.result
  let placed := (r.assignments.getD Table.empty).entries
  let lines := placed.map fun (a, s) =>
    column a ++ " " ++ column s ++ " " ++ ((o.phases.find? a).map Phase.name).getD "" ++ "\n"
  let waiting := (r.unassigned.getD []).map fun a =>
    column a ++ " " ++ column "-" ++ " unassigned\n"
  let average := match r.averageRank with
    | some x => Float.fixedText x 2
    | none => "n/a"
  String.join lines ++ String.join waiting ++
    "\nassigned " ++ toString r.assignedCount ++ "/" ++ toString r.total ++
    " (stable " ++ toString o.stableAssigned ++ ", cascade " ++ toString o.cascadeAssigned ++
    ", forced " ++ toString o.forcedAssigned ++ "), average rank " ++ average ++ "\n"

/-- The JSON report of a run: the result with the count of each phase. -/
def jsonReport (o : Outcome) : String :=
  (Json.obj (o.result.members ++
    [("stableAssigned", .int o.stableAssigned), ("cascadeAssigned", .int o.cascadeAssigned),
     ("forcedAssigned", .int o.forcedAssigned)])).render Layout.pretty ++ "\n"

section Actions

variable {m : Type → Type} [Monad m] (read : String → m (Except String String))

/-- The `run` command. -/
def runCommand (flags : FlagValues) : m Printout := do
  let format := (flags.get? "output").getD "json"
  if format != "json" && format != "text" then
    return .failed ("unknown output format " ++ Text.quote format ++ " (want json or text)")
  match ← loadProblem read ((flags.get? "input").getD "") with
  | .error e => return .failed e
  | .ok p =>
    match runDefault p.prefs p.caps (flags.get? "force" == some "true") with
    | .error e => return .failed ("assignment run failed: " ++ e.message)
    | .ok o => return .ok (if format == "text" then textReport o else jsonReport o)

/-- The `verify` command. -/
def verifyCommand (flags : FlagValues) : m Printout := do
  match ← loadProblem read ((flags.get? "input").getD "") with
  | .error e => return .failed e
  | .ok p =>
    match ← loadResult read ((flags.get? "result").getD "") with
    | .error e => return .failed e
    | .ok r =>
      match checkCapacity (some r) p.caps with
      | some v => return .failed v.message
      | none =>
        match checkPreferences (some r) p.prefs with
        | some v => return .failed v.message
        | none =>
          return .ok ("ok: " ++ toString (r.assignments.getD Table.empty).size ++
            " pairs within capacity and preferences\n")

end Actions

/-- Whether a text can be shown between backquotes: no backquote, no control character but
tab, no byte order mark. -/
def canBackquote (s : String) : Bool :=
  s.toList.all fun c =>
    c != Char.ofNat 96 && c != Char.ofNat 0xFEFF && c != Char.ofNat 0x7F && (c == '\t' || c.toNat ≥ 32)

/-- A text between backquotes when it can be, else quoted. -/
def backquote (s : String) : String :=
  let tick := String.singleton (Char.ofNat 96)
  if canBackquote s then tick ++ s ++ tick else Text.quote s

/-- The `help` command with its positional arguments: the help of the command they name, or
an unknown topic with the root's usage, both on standard error. -/
def helpCommand (topic : List String) : Printout :=
  let (c, rest) := resolve false topic
  let unknown := c == .root && !(stripFlags c.declaredFlags rest).isEmpty
  if unknown then
    ⟨0, "", "Unknown help topic [" ++ " ".intercalate (topic.map backquote) ++ "]\n" ++
      usageText .root false⟩
  else .ok (helpText c)

/-- The problem with the required flags of `c` left unset, if any. -/
def missingFlags (c : Command) (flags : FlagValues) : Option String :=
  let sorted := c.flags.mergeSort fun a b => Decidable.decide (a.name ≤ b.name)
  match (sorted.filter fun f => f.required && !flags.changed f.name).map (·.name) with
  | [] => none
  | names => some ("required flag(s) \"" ++ "\", \"".intercalate names ++ "\" not set")

/-- Runs one command line. -/
def execute {m : Type → Type} [Monad m] (read : String → m (Except String String))
    (args : List String) : m Printout := do
  let (c, rest) := resolve true args
  match stripFlags c.declaredFlags rest with
  | typed :: _ =>
    if c == .root then return .failed (unknownCommand typed)
  | [] => pure ()
  if let .request descriptions := c then
    if rest.isEmpty then return .failed "requires at least 1 arg(s), only received 0"
    let (out, err) := completionOutput descriptions rest
    return ⟨0, out, err⟩
  match parseFlags c.flags rest with
  | .error e => return .failed e
  | .ok parsed =>
    if parsed.flags.get? "help" == some "true" || !c.runnable then return .ok (helpText c)
    if c.refusesArguments then
      if let typed :: _ := parsed.positional then
        return .failed ("unknown command " ++ Text.quote typed ++ " for " ++ Text.quote c.path)
    if let some problem := missingFlags c parsed.flags then return .failed problem
    match c with
    | .run => runCommand read parsed.flags
    | .verify => verifyCommand read parsed.flags
    | .help => return helpCommand parsed.positional
    | .completionFor shell =>
      return .ok (completionScript shell (parsed.flags.get? "no-descriptions" != some "true"))
    | _ => return .ok ""

end SlotAllocation.Cli
