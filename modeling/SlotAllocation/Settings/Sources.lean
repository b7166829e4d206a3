import SlotAllocation.Yaml.Value
import SlotAllocation.Settings.Environment
import SlotAllocation.Text.Case

/-!
# Where a setting comes from

A setting is named by a dotted key (`database.postgres.host`). Its value is looked up in three
layers, the first that has it winning:

1. texts set after expansion (`overrides`);
2. the environment variable named by the key upper-cased with `.` and `-` turned into `_`
   (`DATABASE_POSTGRES_HOST`), when it is set and not empty;
3. the configuration file, whose keys are lower-cased (by the simple case mapping); a dotted key may also match a file key
   that itself holds dots, the longest such prefix first, and a number may index a list.

A layer that holds a plain value at a proper prefix of the key hides the key from the layers
below it. A null value counts as absent.

Before the settings are read, every text value of the file that holds a `$` is expanded
against the environment and, when that changes it, set as an override. The table the
settings are read from holds, for every key of the file and then every key the settings
structure names, the value that key looks up, nested by its dotted parts.
-/

namespace SlotAllocation

open Yaml

/-- A value with the keys of all its mappings lower-cased, also inside lists. Of keys that
lower to the same text, one that was not in lower case replaces the others, and one already
in lower case replaces none. -/
def Yaml.Value.lowerKeys (fuel : Nat) (v : Value) : Value :=
  match fuel with
  | 0 => v
  | fuel + 1 =>
    match v with
    | .map entries =>
      let lowered := entries.map fun (k, x) => (Text.lower k, k != Text.lower k, x.lowerKeys fuel)
      .map (lowered.foldl (fun acc (k, changed, x) =>
        if !changed && acc.any (·.1 == k) then acc else acc.filter (·.1 != k) ++ [(k, x)]) [])
    | .seq items => .seq (items.map (·.lowerKeys fuel))
    | other => other

mutual
/-- The nesting depth of a value. -/
def Yaml.Value.depth : Value → Nat
  | .map entries => Yaml.Value.depthEntries entries + 1
  | .seq items => Yaml.Value.depthItems items + 1
  | _ => 0

/-- The greatest depth among entries. -/
def Yaml.Value.depthEntries : List (String × Value) → Nat
  | [] => 0
  | (_, x) :: rest => max x.depth (Yaml.Value.depthEntries rest)

/-- The greatest depth among items. -/
def Yaml.Value.depthItems : List Value → Nat
  | [] => 0
  | x :: rest => max x.depth (Yaml.Value.depthItems rest)
end

/-- The entry `k` of a mapping; null counts as absent. -/
def Yaml.Value.member? (v : Value) (k : String) : Option Value :=
  match v with
  | .map entries =>
    match ((entries.reverse.find? (·.1 == k)).map (·.2) : Option Value) with
    | some .null => none
    | other => other
  | _ => none

/-- The value at a path of nested mappings; null counts as absent. -/
def Yaml.Value.at? (v : Value) : List String → Option Value
  | [] => some v
  | k :: rest =>
    match v.member? k with
    | some next => if rest.isEmpty then some next else
        match next with
        | .map _ => next.at? rest
        | _ => none
    | none => none

/-- Whether some proper prefix of `path` holds a plain value (not a mapping) in `v`: that
value hides the path. The search stops at the first prefix that is absent. -/
def Yaml.Value.hides (v : Value) (path : List String) : Bool :=
  let rec go (fuel : Nat) (i : Nat) : Bool :=
    match fuel with
    | 0 => false
    | fuel + 1 =>
      if i ≥ path.length then false
      else match v.at? (path.take i) with
        | none => false
        | some (.map _) => go fuel (i + 1)
        | some _ => true
  go path.length 1

/-- Whether a text is a decimal index (with an optional sign). -/
def indexOf? (s : String) : Option Nat :=
  match s.toList with
  | '+' :: ds => if !ds.isEmpty && ds.all Char.isDigit then some (digitsValue ds) else none
  | ds => if !ds.isEmpty && ds.all Char.isDigit then some (digitsValue ds) else none

mutual
/-- Looks a path up in a file value: at each level the longest prefix of the path, joined by
dots, that names a member (or indexes a list) is taken. -/
def searchPrefixes (fuel : Nat) (v : Value) (path : List String) : Option Value :=
  match fuel with
  | 0 => none
  | fuel + 1 =>
    if path.isEmpty then some v
    else tryPrefix fuel v path path.length

/-- Tries the prefixes of `path` of length `n` and shorter. -/
def tryPrefix (fuel : Nat) (v : Value) (path : List String) : Nat → Option Value
  | 0 => none
  | n + 1 =>
    let key := ".".intercalate (path.take (n + 1))
    let next? : Option Value := match v with
      | .map _ => v.member? key
      | .seq items => (indexOf? key).bind fun i => items[i]?
      | _ => none
    let found := match next? with
      | none => none
      | some .null => none
      | some next =>
        if n + 1 == path.length then some next
        else match next with
          | .map _ => searchPrefixes fuel next (path.drop (n + 1))
          | .seq _ => searchPrefixes fuel next (path.drop (n + 1))
          | _ => none
    match found with
    | some x => some x
    | none => tryPrefix fuel v path n
end

/-- Sets the value at a path, creating mappings on the way and replacing plain values that
stand where a mapping is needed. -/
def Yaml.Value.setAt (v : Value) : List String → Value → Value
  | [], x => x
  | k :: rest, x =>
    let entries := match v with
      | .map es => es
      | _ => []
    let current := match (entries.find? (·.1 == k)).map (·.2) with
      | some c@(.map _) => c
      | _ => .map []
    let updated := if rest.isEmpty then x else current.setAt rest x
    if entries.any (·.1 == k) then .map (entries.map fun (k', y) => if k' == k then (k, updated) else (k', y))
    else .map (entries ++ [(k, updated)])

/-- The dotted keys of the plain values of a file value, in document order; empty mappings
hold none, null values count. -/
def Yaml.Value.leafKeys (fuel : Nat) (prefix_ : String) (v : Value) : List String :=
  match fuel with
  | 0 => []
  | fuel + 1 =>
    match v with
    | .map entries => entries.flatMap fun (k, x) =>
      match x with
      | .map _ => x.leafKeys fuel (prefix_ ++ k ++ ".")
      | _ => [prefix_ ++ k]
    | _ => []

/-- The environment variable that a key reads. -/
def envNameOf (key : String) : String :=
  String.map (fun c => if c == '.' || c == '-' then '_' else Text.upperChar c) key

/-- The layers a setting is looked up in. -/
structure Sources where
  file : Value
  env : Environment
  overrides : Value := .map []

namespace Sources

/-- The value a dotted key looks up, if any. -/
def lookup (s : Sources) (key : String) : Option Value :=
  let path := key.splitOn "."
  let nested := path.length > 1
  match s.overrides.at? path with
  | some v => some v
  | none =>
    if nested && s.overrides.hides path then none
    else match s.env.present? (envNameOf key) with
      | some text => some (.str text)
      | none =>
        let envHides := (List.range path.length).any fun i =>
          0 < i && (s.env.present? (envNameOf (".".intercalate (path.take i)))).isSome
        if nested && envHides then none
        else searchPrefixes (4 * path.length + 8) s.file path

/-- Expands the `$` references of the file's text values against the environment, keeping
each changed text as an override. -/
def expand (s : Sources) : Sources :=
  let keys := s.file.leafKeys (s.file.depth + 1) ""
  keys.foldl (fun s key =>
    match s.lookup key with
    | some (.str text) =>
      if text.contains '$' then
        let expanded := expandShell s.env.getD text
        if expanded != text then { s with overrides := s.overrides.setAt (key.splitOn ".") (.str expanded) }
        else s
      else s
    | _ => s) s

/-- The table settings are read from: the value of every key of the file, then of every key
in `structKeys`, each placed at its dotted path. -/
def table (s : Sources) (structKeys : List String) : Value :=
  let keys := s.file.leafKeys (s.file.depth + 1) "" ++ structKeys
  keys.foldl (fun t key =>
    match s.lookup key with
    | some v => t.setAt (key.splitOn ".") v
    | none => t) (.map [])

end Sources

end SlotAllocation
