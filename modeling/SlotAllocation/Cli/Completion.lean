import SlotAllocation.Cli.Commands

/-!
# Completion choices

The shell completion scripts call the hidden request command with the words typed so far,
the last one being the word to complete (empty after a space). The answer is one choice per
line, a choice and its description separated by a tab (descriptions are dropped for
`__completeNoDesc`), then `:<directive>`, a set of bits telling the shell what to do next
(4: offer no file names). Standard error names the directive.

How the choices are found:

1. the words before the last one name the command (an unknown root word fails);
2. if the word to complete is the value of a flag (after `--name` or `-x` taking a value, or
   after `=`), the flag is that target; a flag the command does not know fails;
3. the words are parsed as flags; a parse problem fails, a set help switch stops completion;
4. a word starting with `-` completes to the unset required flags, else to every unset flag
   (`--name` and `-x`, each with its usage);
5. otherwise, with no positional words and no flag set, the subcommands whose names start
   with the word, then the unset required flags; `completion` and its shells offer nothing
   more, and `help` offers the subcommands of the command its words name.
-/

namespace SlotAllocation.Cli

/-- What the shell should do with the choices, as bits: 1 an error, 2 no space after the
choice, 4 no file names, 8 filter file names by extension, 16 directories only, 32 keep the
order. -/
abbrev Directive := Nat

/-- The names of a directive's bits, as standard error reports them. -/
def directiveText (d : Directive) : String :=
  let names := [(1, "ShellCompDirectiveError"), (2, "ShellCompDirectiveNoSpace"),
    (4, "ShellCompDirectiveNoFileComp"), (8, "ShellCompDirectiveFilterFileExt"),
    (16, "ShellCompDirectiveFilterDirs"), (32, "ShellCompDirectiveKeepOrder")]
  if d ≥ 64 then "ERROR: unexpected ShellCompDirective value: " ++ toString d
  else
    match names.filterMap (fun (bit, n) => if d / bit % 2 == 1 then some n else none) with
    | [] => "ShellCompDirectiveDefault"
    | ns => ", ".intercalate ns

/-- Words as a bracketed, blank-separated list. -/
def wordList (ws : List String) : String := "[" ++ " ".intercalate ws ++ "]"

/-- The flags of a command in order of name. -/
def sortedFlags (c : Command) : List FlagSpec :=
  c.flags.mergeSort fun a b => Decidable.decide (a.name ≤ b.name)

/-- The flag of a command named by its shorthand (a name of one character) or its name. -/
def flagNamed (c : Command) (name : String) : Option FlagSpec :=
  match name.toList with
  | [ch] => findShort c.flags ch
  | _ => findLong c.flags name

/-- Whether a word looks like a complete flag: `--` and a name, or `-` and a character. -/
def isFlagWord (w : String) : Bool :=
  match w.toList with
  | '-' :: '-' :: _ :: _ => true
  | '-' :: c :: _ => c != '-'
  | _ => false

/-- The last byte of a word, as a word: its last character when that is ASCII, and the
replacement character when the byte is only the end of a longer encoding. -/
def lastByteWord (w : String) : String :=
  match w.toList.getLast? with
  | some c => if c.toNat < 128 then String.singleton c else "\uFFFD"
  | none => ""

/-- Where the word to complete stands: the flag whose value it is (if any), the words left
once that flag's name is removed, the text to complete, and the problem of an unknown flag. -/
structure FlagTarget where
  flag : Option FlagSpec
  words : List String
  toComplete : String
  problem : Option String

/-- Finds whether `last` is the value of a flag of `c`, given the words `words` before it. -/
def flagTarget (c : Command) (words : List String) (last : String) : FlagTarget :=
  if !c.parsesFlags then ⟨none, words, last, none⟩
  else
    -- a word with `=` names its flag before the `=`; another word starting with `-` is a
    -- flag name being typed
    let named : Option (String × String × Bool) :=
      if last.startsWith "-" then
        match last.splitOn "=" with
        | before :: after@(_ :: _) =>
          let name := if before.startsWith "--" then String.ofList (before.toList.drop 2)
            else lastByteWord before
          some (name, "=".intercalate after, true)
        | _ => none
      else some ("", last, false)
    match named with
    | none => ⟨none, words, last, none⟩
    | some (name, text, withEqual) =>
      let (name, trimmed) :=
        if !name.isEmpty then (name, words)
        else match words.getLast? with
          | some prev =>
            if isFlagWord prev && !prev.contains '=' then
              ((if prev.startsWith "--" then String.ofList (prev.toList.drop 2) else lastByteWord prev),
                words.dropLast)
            else ("", words)
          | none => ("", words)
      if name.isEmpty then ⟨none, trimmed, text, none⟩
      else
        match flagNamed c name with
        | none => ⟨none, words, last,
            some ("Subcommand '" ++ c.name ++ "' does not support flag '" ++ name ++ "'")⟩
        | some f =>
          if !withEqual && f.kind == .switch then ⟨none, words, text, none⟩
          else ⟨some f, trimmed, text, none⟩

/-- The completions of a flag's names that start with `prefix`, each with the usage. -/
def flagNameChoices (f : FlagSpec) (prefix_ : String) : List String :=
  (if ("--" ++ f.name).startsWith prefix_ then ["--" ++ f.name ++ "\t" ++ f.usage] else []) ++
  (match f.short with
   | some ch => if ("-" ++ ch.toString).startsWith prefix_ then ["-" ++ ch.toString ++ "\t" ++ f.usage] else []
   | none => [])

/-- The name completions of the required flags of `c` not set in `set`. -/
def requiredChoices (c : Command) (set : FlagValues) (prefix_ : String) : List String :=
  (sortedFlags c).flatMap fun f =>
    if f.required && !set.changed f.name then flagNameChoices f prefix_ else []

/-- The subcommands a command offers for completion, with their descriptions, among those
whose names start with `prefix`. -/
def subcommandChoices (c : Command) (prefix_ : String) : List String :=
  (c.children.filter (·.name.startsWith prefix_)).map fun s => s.name ++ "\t" ++ s.short

/-- The choices a command's own argument completion offers, if it has one. -/
def argumentChoices (c : Command) (words : List String) (prefix_ : String) :
    Option (List String × Directive) :=
  match c with
  | .completion | .completionFor _ => some ([], 4)
  | .help =>
    let (target, rest) := resolve true words
    if strayAtRoot target rest then some ([], 4)
    else some (subcommandChoices target prefix_, 4)
  | _ => none

/-- The completion choices for `typed` (the last word is the one to complete), with the
directive and the problem met, if any. -/
def completionChoices (typed : List String) : List String × Directive × Option String :=
  let last := typed.getLast?.getD ""
  let before := typed.dropLast
  let (c, words) := resolve true before
  if strayAtRoot c words then
    ([], 0, some ("Unable to find a command for arguments: " ++ wordList before))
  else
    let t := flagTarget c words last
    -- the words are parsed twice, once with `--` added: a `--` already given shows as one
    -- more positional word, and then the word to complete is no flag
    let parsed : Except String (FlagValues × List String × Bool) :=
      if c.parsesFlags then
        let (p1, _) := parseFlagsFrom c.flags {} (t.words ++ ["--"])
        match parseFlagsFrom c.flags { flags := p1.flags } t.words with
        | (_, some e) => .error ("Error while parsing flags from args " ++ wordList t.words ++ ": " ++ e)
        | (p2, none) => .ok (p2.flags, p2.positional, p1.positional.length ≤ p2.positional.length)
      else .ok ({}, t.words, true)
    match parsed with
    | .error e => ([], 0, some e)
    | .ok (set, positional, flagCompletion) =>
      match t.problem with
      | some e =>
        if flagCompletion then ([], 0, some e)
        else choicesAfterParse c t set positional flagCompletion
      | none => choicesAfterParse c t set positional flagCompletion
where
  /-- The choices once the words are parsed. -/
  choicesAfterParse (c : Command) (t : FlagTarget) (set : FlagValues) (positional : List String)
      (flagCompletion : Bool) : List String × Directive × Option String :=
    if set.changed "help" then ([], 4, none)
    else
      let prefix_ := t.toComplete
      let naming := t.flag.isNone && prefix_.startsWith "-" && !prefix_.contains '=' && flagCompletion
      let (found, directive) :=
        if naming then
          let required := requiredChoices c set prefix_
          let cs := if required.isEmpty then
              (sortedFlags c).flatMap fun f => if set.changed f.name then [] else flagNameChoices f prefix_
            else required
          (cs, if cs.length == 1 && (cs.headD "").endsWith "=" then 2 else 4)
        else if t.flag.isNone then
          let anySet := c.flags.any fun f => set.changed f.name
          let (subs, d) :=
            if positional.isEmpty && !anySet && !c.children.isEmpty then (subcommandChoices c prefix_, 4)
            else ([], 0)
          (subs ++ requiredChoices c set prefix_, d)
        else ([], 0)
      if naming && c.parsesFlags then (found, directive, none)
      else
        let own := if t.flag.isSome && flagCompletion then none else argumentChoices c positional prefix_
        match own with
        | some (more, d) => (found ++ more, d, none)
        | none => (found, directive, none)

/-- What the completion request prints for `typed`: the choices (without descriptions unless
`descriptions`), each on its first line and trimmed, then the directive; and on standard
error the problem met, if any, and the directive's name. -/
def completionOutput (descriptions : Bool) (typed : List String) : String × String :=
  let (choices, directive, problem) := completionChoices typed
  let shown := choices.map fun ch =>
    let ch := if descriptions then ch else (ch.splitOn "\t").headD ""
    ((ch.splitOn "\n").headD "").trimAscii.copy
  (String.join (shown.map (· ++ "\n")) ++ ":" ++ toString directive ++ "\n",
   (match problem with
    | some e => "[Debug] [Error] " ++ e ++ "\n"
    | none => "") ++ "Completion ended with directive: " ++ directiveText directive ++ "\n")

end SlotAllocation.Cli
