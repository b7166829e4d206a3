import SlotAllocation.Text.Quoted
import SlotAllocation.Text.Numeral

/-!
# Command-line flags

A command declares flags: truth-valued switches and text options, each with a long name, an
optional one-letter shorthand, a usage line and a default. Parsing walks the arguments in
order, flags and positional arguments mixed:

* `--` ends the flags, and every argument after it is positional; `-` and arguments not
  starting with `-` are positional;
* `--name=value` and `--name value` set an option, `--name` sets a switch to true and
  `--name=value` sets it from the value's truth spelling;
* `-abc` is a run of shorthands: `-x=value` gives any flag a value; otherwise a switch
  takes no value and an option takes the rest of the run (`-ivalue`) or else the next
  argument.

The first problem ends parsing: an unknown flag, an option without a value, a malformed
`--` argument, or a switch value that is not a truth spelling. The texts are the ones the
command line reports.
-/

namespace SlotAllocation.Cli

/-- What a flag holds. -/
inductive FlagKind where
  | switch
  | option
deriving DecidableEq, Repr

/-- A declared flag. -/
structure FlagSpec where
  name : String
  short : Option Char
  kind : FlagKind
  usage : String
  /-- The default, as the usage line shows it. -/
  default : String
  required : Bool := false
deriving Repr

/-- The help switch every command has. -/
def helpFlag (commandName : String) : FlagSpec :=
  { name := "help", short := some 'h', kind := .switch, usage := "help for " ++ commandName
    default := "false" }

/-- The flags set on a command line, in the order first set, each with its last value. -/
structure FlagValues where
  values : List (String × String) := []

namespace FlagValues

/-- Sets a flag's value. -/
def set (v : FlagValues) (name value : String) : FlagValues :=
  if v.values.any (·.1 == name) then
    ⟨v.values.map fun (k, x) => if k == name then (k, value) else (k, x)⟩
  else ⟨v.values ++ [(name, value)]⟩

/-- The value of a flag, if it was set. -/
def get? (v : FlagValues) (name : String) : Option String :=
  (v.values.find? (·.1 == name)).map (·.2)

/-- Whether a flag was set. -/
def changed (v : FlagValues) (name : String) : Bool := (v.get? name).isSome

end FlagValues

/-- The outcome of parsing: the flags set and the positional arguments. -/
structure Parsed where
  flags : FlagValues := {}
  positional : List String := []

/-- The flag with a long name. -/
def findLong (specs : List FlagSpec) (name : String) : Option FlagSpec :=
  specs.find? (·.name == name)

/-- The flag with a shorthand. -/
def findShort (specs : List FlagSpec) (c : Char) : Option FlagSpec :=
  specs.find? (·.short == some c)

/-- The name a value problem shows for a flag: `-h, --help` or `--force`. -/
def FlagSpec.shownName (f : FlagSpec) : String :=
  match f.short with
  | some c => "-" ++ c.toString ++ ", --" ++ f.name
  | none => "--" ++ f.name

/-- Gives a flag a value; a switch takes only the truth spellings. -/
def assign (v : FlagValues) (f : FlagSpec) (value : String) : Except String FlagValues :=
  match f.kind with
  | .option => .ok (v.set f.name value)
  | .switch =>
    match Numeral.readBool value with
    | .ok b => .ok (v.set f.name (if b then "true" else "false"))
    | .error e =>
      .error ("invalid argument " ++ Text.quote value ++ " for " ++ Text.quote f.shownName ++
        " flag: " ++ e.message)

/-- A shorthand as a quoted character, the way problems show it: a character beyond ASCII
shows as its first byte. -/
def quoteShort (c : Char) : String :=
  match (String.singleton c).toUTF8.toList with
  | b :: _ :: _ => Text.quoteRune (Char.ofNat b.toNat)
  | _ => Text.quoteRune c

/-- Parses a run of shorthands (`abc` of `-abc`); `rest` are the arguments after it. A problem
names the part of the run not parsed yet. -/
def parseShorts (specs : List FlagSpec) (v : FlagValues) (rest : List String) :
    List Char → Except String (FlagValues × List String)
  | [] => .ok (v, rest)
  | c :: more =>
    let run := String.ofList (c :: more)
    match findShort specs c with
    | none => .error ("unknown shorthand flag: " ++ quoteShort c ++ " in -" ++ run)
    | some f =>
      match more, f.kind with
      | '=' :: value@(_ :: _), _ => do
        let v ← assign v f (String.ofList value)
        .ok (v, rest)
      | _, .switch => do
        let v ← assign v f "true"
        parseShorts specs v rest more
      | _ :: _, .option => do
        let v ← assign v f (String.ofList more)
        .ok (v, rest)
      | [], .option =>
        match rest with
        | value :: rest' => do
          let v ← assign v f value
          .ok (v, rest')
        | [] => .error ("flag needs an argument: " ++ quoteShort c ++ " in -" ++ run)

/-- One step of parsing: the argument `s`, with `rest` after it, read against `specs` into
`p`; gives the new state and the arguments left, or the problem. -/
def parseStep (specs : List FlagSpec) (p : Parsed) (s : String) (rest : List String) :
    Except String (Parsed × List String) :=
  match s.toList with
  | '-' :: '-' :: [] => .ok ({ p with positional := p.positional ++ rest }, [])
  | '-' :: '-' :: name =>
    match name with
    | '-' :: _ | '=' :: _ => .error ("bad flag syntax: " ++ s)
    | _ =>
      let key := String.ofList (name.takeWhile (· != '='))
      let inline := if name.contains '=' then some (String.ofList ((name.dropWhile (· != '=')).drop 1))
        else none
      match findLong specs key with
      | none => .error ("unknown flag: --" ++ key)
      | some f =>
        match inline, f.kind, rest with
        | some value, _, _ => do
          let flags ← assign p.flags f value
          .ok ({ p with flags }, rest)
        | none, .switch, _ => do
          let flags ← assign p.flags f "true"
          .ok ({ p with flags }, rest)
        | none, .option, value :: rest' => do
          let flags ← assign p.flags f value
          .ok ({ p with flags }, rest')
        | none, .option, [] => .error ("flag needs an argument: " ++ s)
  | '-' :: c :: more => do
    let (flags, rest') ← parseShorts specs p.flags rest (c :: more)
    .ok ({ p with flags }, rest')
  | _ => .ok ({ p with positional := p.positional ++ [s] }, rest)

/-- Parses arguments against declared flags, starting from `start`: the state reached, and
the problem that stopped parsing, if any (a run of shorthands that fails adds none of its
flags). -/
def parseFlagsFrom (specs : List FlagSpec) (start : Parsed) (args : List String) :
    Parsed × Option String :=
  let rec go (fuel : Nat) (p : Parsed) (args : List String) : Parsed × Option String :=
    match fuel, args with
    | 0, _ => (p, none)
    | _, [] => (p, none)
    | fuel + 1, s :: rest =>
      match parseStep specs p s rest with
      | .ok (p, rest) => go fuel p rest
      | .error e => (p, some e)
  go (args.length + 1) start args

/-- Parses arguments against declared flags. -/
def parseFlags (specs : List FlagSpec) (args : List String) : Except String Parsed :=
  match parseFlagsFrom specs {} args with
  | (p, none) => .ok p
  | (_, some e) => .error e

/-- The usage lines of flags, in order of name: shorthand and name, the value's kind for an
option, the usage and a default that is not empty or false, aligned in one column. -/
def flagUsages (specs : List FlagSpec) : String :=
  let sorted := specs.mergeSort fun a b => Decidable.decide (a.name ≤ b.name)
  let heads := sorted.map fun f =>
    (match f.short with
      | some c => "  -" ++ c.toString ++ ", --" ++ f.name
      | none => "      --" ++ f.name) ++
    (if f.kind == .option then " string" else "")
  let width := (heads.map String.length).foldl max 0
  let lines := (sorted.zip heads).map fun (f, h) =>
    let shown := match f.kind with
      | .option => if f.default.isEmpty then "" else " (default " ++ Text.quote f.default ++ ")"
      | .switch => if f.default == "false" then "" else " (default " ++ f.default ++ ")"
    h ++ String.ofList (List.replicate (width - h.length + 3) ' ') ++ f.usage ++ shown
  "\n".intercalate lines

end SlotAllocation.Cli
