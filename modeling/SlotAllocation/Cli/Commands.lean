import SlotAllocation.Cli.Flags
import SlotAllocation.Text.Case

/-!
# The commands of the assignment runner

The runner has two working commands, `run` and `verify`, and the usual helpers: `help`,
which shows the help of any command, and `completion`, whose subcommands write shell
completion scripts. The root command itself only shows its help. A hidden command,
`__complete` (or `__completeNoDesc`, without descriptions), answers the completion scripts;
it exists only on command lines that call it.

Resolving a command line walks down the tree: the first argument that is not a flag (nor the
value of a flag the current command declares as taking one) names a subcommand, and so on.
An argument left over at the root that names no command is an unknown command, reported
with the commands whose names are close to it.

Help texts follow one layout: the long description (or the short one), then the usage
line, the subcommands, the flags and a pointer to the subcommands' help.
-/

namespace SlotAllocation.Cli

/-- The shells completion scripts are written for. -/
inductive Shell where
  | bash
  | fish
  | powershell
  | zsh
deriving DecidableEq, Repr

/-- The name of a shell. -/
def Shell.name : Shell → String
  | .bash => "bash"
  | .fish => "fish"
  | .powershell => "powershell"
  | .zsh => "zsh"

/-- The commands of the runner. -/
inductive Command where
  | root
  | completion
  | completionFor (shell : Shell)
  | help
  | run
  | verify
  /-- The hidden command that lists completion choices, with or without descriptions. -/
  | request (descriptions : Bool)
deriving DecidableEq, Repr

/-- The name of the program. -/
def programName : String := "assignment-runner"

namespace Command

/-- The name of a command. -/
def name : Command → String
  | .root => programName
  | .completion => "completion"
  | .completionFor s => s.name
  | .help => "help"
  | .run => "run"
  | .verify => "verify"
  | .request _ => "__complete"

/-- The command a command belongs to. -/
def parent? : Command → Option Command
  | .root => none
  | .completionFor _ => some .completion
  | _ => some .root

/-- The subcommands, in order of name. -/
def children : Command → List Command
  | .root => [.completion, .help, .run, .verify]
  | .completion => [.completionFor .bash, .completionFor .fish, .completionFor .powershell,
      .completionFor .zsh]
  | _ => []

/-- The words that call a command, from the root. -/
def path : Command → String
  | .root => programName
  | .completionFor s => programName ++ " completion " ++ s.name
  | c => programName ++ " " ++ c.name

/-- How the usage line shows a command after its parent's path. -/
def use : Command → String
  | .help => "help [command]"
  | .request _ => "__complete [command-line]"
  | c => c.name

/-- The one-line description. -/
def short : Command → String
  | .root => "Run and check slot assignments offline"
  | .completion => "Generate the autocompletion script for the specified shell"
  | .completionFor s => "Generate the autocompletion script for " ++ s.name
  | .help => "Help about any command"
  | .run => "Assign applicants to slots"
  | .verify => "Check a stored result against its inputs"
  | .request _ => "Request shell completion choices for the specified command-line"

/-- How to load the completion script of a shell. -/
def shellLong : Shell → String
  | .bash => "Generate the autocompletion script for the bash shell.\n\n" ++
      "This script depends on the " ++ "'" ++ "bash-completion" ++ "'" ++ " package.\n" ++
      "If it is not installed already, you can install it via your OS" ++ "'" ++ "s package manager.\n\n" ++
      "To load completions in your current shell session:\n\n" ++
      "\tsource <(" ++ programName ++ " completion bash)\n\n" ++
      "To load completions for every new session, execute once:\n\n" ++
      "#### Linux:\n\n" ++
      "\t" ++ programName ++ " completion bash > /etc/bash_completion.d/" ++ programName ++ "\n\n" ++
      "#### macOS:\n\n" ++
      "\t" ++ programName ++ " completion bash > $(brew --prefix)/etc/bash_completion.d/" ++ programName ++ "\n\n" ++
      "You will need to start a new shell for this setup to take effect.\n"
  | .fish => "Generate the autocompletion script for the fish shell.\n\n" ++
      "To load completions in your current shell session:\n\n" ++
      "\t" ++ programName ++ " completion fish | source\n\n" ++
      "To load completions for every new session, execute once:\n\n" ++
      "\t" ++ programName ++ " completion fish > ~/.config/fish/completions/" ++ programName ++ ".fish\n\n" ++
      "You will need to start a new shell for this setup to take effect.\n"
  | .powershell => "Generate the autocompletion script for powershell.\n\n" ++
      "To load completions in your current shell session:\n\n" ++
      "\t" ++ programName ++ " completion powershell | Out-String | Invoke-Expression\n\n" ++
      "To load completions for every new session, add the output of the above command\n" ++
      "to your powershell profile.\n"
  | .zsh => "Generate the autocompletion script for the zsh shell.\n\n" ++
      "If shell completion is not already enabled in your environment you will need\n" ++
      "to enable it.  You can execute the following once:\n\n" ++
      "\techo \"autoload -U compinit; compinit\" >> ~/.zshrc\n\n" ++
      "To load completions in your current shell session:\n\n" ++
      "\tsource <(" ++ programName ++ " completion zsh)\n\n" ++
      "To load completions for every new session, execute once:\n\n" ++
      "#### Linux:\n\n" ++
      "\t" ++ programName ++ " completion zsh > \"$\x7bfpath[1]\x7d/_" ++ programName ++ "\"\n\n" ++
      "#### macOS:\n\n" ++
      "\t" ++ programName ++ " completion zsh > $(brew --prefix)/share/zsh/site-functions/_" ++ programName ++ "\n\n" ++
      "You will need to start a new shell for this setup to take effect.\n"

/-- The long description. -/
def long : Command → String
  | .root => "assignment-runner executes the stable, cascade and forced phases on an exported batch and verifies stored results against capacities and preferences."
  | .completion => "Generate the autocompletion script for " ++ programName ++
      " for the specified shell.\nSee each sub-command" ++ "'" ++ "s help for details on how to use the generated script.\n"
  | .completionFor s => shellLong s
  | .help => "Help provides help for any command in the application.\nSimply type " ++ programName ++
      " help [path to command] for full details."
  | .run => "Runs stable matching and the cascade on a \x7bpreferences, capacities\x7d document, optionally force-filling whoever is left."
  | .verify => "Checks that no slot in the result exceeds its capacity and that every non-forced pair names a slot from the applicant" ++ "'" ++ "s own list."
  | .request _ => "__complete is a special command that is used by the shell completion logic\nto request completion choices for the specified command-line."

/-- Whether a command does something besides showing its help. -/
def runnable : Command → Bool
  | .root | .completion => false
  | _ => true

/-- Whether a command refuses positional arguments. -/
def refusesArguments : Command → Bool
  | .completion | .completionFor _ => true
  | _ => false

/-- The flags a command declares (its help switch aside). -/
def declaredFlags : Command → List FlagSpec
  | .run =>
    [{ name := "input", short := some 'i', kind := .option
       usage := "Path to input JSON file (required)", default := "", required := true },
     { name := "force", short := none, kind := .switch
       usage := "Place remaining applicants in free seats regardless of preference", default := "false" },
     { name := "output", short := some 'o', kind := .option
       usage := "Output format: json or text", default := "json" }]
  | .verify =>
    [{ name := "input", short := some 'i', kind := .option
       usage := "Path to input JSON file (required)", default := "", required := true },
     { name := "result", short := some 'r', kind := .option
       usage := "Path to result JSON file (required)", default := "", required := true }]
  | .completionFor _ =>
    [{ name := "no-descriptions", short := none, kind := .switch
       usage := "disable completion descriptions", default := "false" }]
  | _ => []

/-- All flags of a command, its help switch included. -/
def flags (c : Command) : List FlagSpec := c.declaredFlags ++ [helpFlag c.name]

/-- Whether the command's own arguments are read as flags; the completion request takes its
arguments as they stand. -/
def parsesFlags : Command → Bool
  | .request _ => false
  | _ => true

/-- The subcommand `next` names, if any; at the root the completion request is found too when
`requestable`. -/
def child? (requestable : Bool) (c : Command) (next : String) : Option Command :=
  match c.children.find? (·.name == next) with
  | some child => some child
  | none =>
    if requestable && c == .root && (next == "__complete" || next == "__completeNoDesc") then
      some (.request (next == "__complete"))
    else none

end Command

/-- Whether `s` is a flag that takes the next argument as its value, judged by `flags`:
`--name` or a one-byte `-x`, without `=`, that is not a known switch (an unknown flag counts
as taking one). -/
def takesValue (flags : List FlagSpec) (s : String) : Bool :=
  match s.toList with
  | '-' :: '-' :: name =>
    !name.contains '=' &&
      match findLong flags (String.ofList name) with
      | some f => f.kind == .option
      | none => true
  | ['-', c] =>
    c != '=' && c.toNat < 128 &&
    match findShort flags c with
    | some f => f.kind == .option
    | none => true
  | _ => false

/-- The arguments of `args` that are not flags nor values of flags, up to `--`. -/
def stripFlags (flags : List FlagSpec) (args : List String) : List String :=
  let rec go (fuel : Nat) (args : List String) : List String :=
    match fuel, args with
    | 0, _ => []
    | _, [] => []
    | fuel + 1, s :: rest =>
      if s == "--" then []
      else if takesValue flags s then
        match rest with
        | _ :: rest' :: more => go fuel (rest' :: more)
        | _ => []
      else if !s.isEmpty && !s.startsWith "-" then s :: go fuel rest
      else go fuel rest
  go (args.length + 1) args

/-- `args` without the first `x` that is not a flag's value. -/
def withoutFirst (flags : List FlagSpec) (x : String) (args : List String) : List String :=
  let rec go (fuel : Nat) (before : List String) (args : List String) : List String :=
    match fuel, args with
    | 0, _ => before ++ args
    | _, [] => before
    | fuel + 1, s :: rest =>
      if s == "--" then before ++ args
      else if takesValue flags s then
        match rest with
        | v :: rest' => go fuel (before ++ [s, v]) rest'
        | [] => before ++ [s]
      else if !s.startsWith "-" && s == x then before ++ rest
      else go fuel (before ++ [s]) rest
  go (args.length + 1) [] args

/-- The command a command line names, and the arguments left for it. Only declared flags are
known while resolving; the completion request is found only when `requestable`. -/
def resolve (requestable : Bool) (args : List String) : Command × List String :=
  let rec go (fuel : Nat) (c : Command) (args : List String) : Command × List String :=
    match fuel with
    | 0 => (c, args)
    | fuel + 1 =>
      match stripFlags c.declaredFlags args with
      | [] => (c, args)
      | next :: _ =>
        match c.child? requestable next with
        | some child => go fuel child (withoutFirst c.declaredFlags next args)
        | none => (c, args)
  go 3 .root args

/-- The edit distance between two texts, compared byte by byte after lowering
letters. -/
def editDistance (s t : String) : Nat :=
  let a := (Text.lower s).toUTF8.toList
  let b := (Text.lower t).toUTF8.toList
  let first := List.range (b.length + 1)
  let last := a.zipIdx.foldl (fun (row : List Nat) (x, i) =>
    let next := b.zipIdx.foldl (fun (acc : List Nat) (y, j) =>
      let above := row.getD (j + 1) 0
      let diag := row.getD j 0
      let left := acc.getD j 0
      acc ++ [if x == y then diag else min (min above left) diag + 1]) [i + 1]
    next) first
  last.getD b.length 0

/-- The commands whose names are within two edits of `typed` or start with it, in the order
they were declared (the help command is never suggested). -/
def suggestions (typed : String) : List String :=
  [Command.run, .verify, .completion].filterMap fun c =>
    if editDistance typed c.name ≤ 2 ||
        (Text.lower c.name).startsWith (Text.lower typed) then
      some c.name
    else none

/-- Whether resolving left an argument at the root that names no command. -/
def strayAtRoot (c : Command) (rest : List String) : Bool :=
  c == .root && !(stripFlags c.declaredFlags rest).isEmpty

/-- The problem of a command line whose leftover root argument names no command. -/
def unknownCommand (typed : String) : String :=
  let found := suggestions typed
  "unknown command " ++ Text.quote typed ++ " for " ++ Text.quote programName ++
    (if found.isEmpty then ""
     else "\n\nDid you mean this?\n" ++ String.join (found.map fun n => "\t" ++ n ++ "\n"))

/-- Drops trailing blanks and line breaks. -/
def trimEnd (s : String) : String :=
  String.ofList (s.toList.reverse.dropWhile Char.isWhitespace).reverse

/-- A text padded with blanks to `width` characters. -/
def padRight (width : Nat) (s : String) : String :=
  s ++ String.ofList (List.replicate (width - s.length) ' ')

/-- The usage line of a command. -/
def useLine (c : Command) (showFlags : Bool) : String :=
  let line := match c.parent? with
    | some p => p.path ++ " " ++ c.use
    | none => c.use
  match c with
  | .completionFor _ => line
  | _ => if showFlags then line ++ " [flags]" else line

/-- The usage text of a command; names of subcommands are padded to at least eleven
characters. `withHelpFlag` tells whether its help switch is declared
yet, which decides whether flags are shown. -/
def usageText (c : Command) (withHelpFlag : Bool) : String :=
  let flags := if withHelpFlag then c.flags else c.declaredFlags
  let subs := c.children
  let width := (subs.map (·.name.length)).foldl max 11
  "Usage:" ++ (if c.runnable then "\n  " ++ useLine c (!flags.isEmpty) else "") ++
    (if subs.isEmpty then "" else "\n  " ++ c.path ++ " [command]") ++
    (if subs.isEmpty then "" else "\n\nAvailable Commands:" ++
      String.join (subs.map fun s => "\n  " ++ padRight width s.name ++ " " ++ s.short)) ++
    (if flags.isEmpty then "" else "\n\nFlags:\n" ++ flagUsages flags) ++
    (if subs.isEmpty then "" else
      "\n\nUse \"" ++ c.path ++ " [command] --help\" for more information about a command.") ++
    "\n"

/-- The help text of a command. -/
def helpText (c : Command) : String :=
  let about := trimEnd (if c.long.isEmpty then c.short else c.long)
  (if about.isEmpty then "" else about ++ "\n\n") ++ usageText c true

end SlotAllocation.Cli
