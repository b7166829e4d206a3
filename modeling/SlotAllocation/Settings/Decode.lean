import SlotAllocation.Settings.Basic
import SlotAllocation.Settings.Sources
import SlotAllocation.Yaml.Value
import SlotAllocation.Decimal.Format
import SlotAllocation.Word

/-!
# Reading settings from a table of values

The settings are read from a nested table, field by field; a field the table does not hold
keeps its zero value, and so does a field whose value is null. Values are converted loosely:

* a whole number field takes whole numbers (wrapped to 64 bits), doubles (cut toward zero),
  truth values (1 or 0) and numeral texts (`Numeral.readInt`, the empty text reading as 0);
* a text field takes texts, whole numbers and doubles as written, and truth values as `1`
  or `0`;
* a truth value field takes truth values, numbers (true unless zero) and the twelve
  spellings `Numeral.readBool` knows, the empty text reading as false;
* a list of texts takes lists (each item read as text), a text split at commas (the empty
  text giving the empty list), an empty mapping as the empty list, and any other single value
  as a list of one;
* a section takes a mapping, and the workers table a mapping of sections (or a list of such
  mappings, merged).

Every problem is noted with the dotted name of the field (`camunda.connection_timeout`,
`workers[name].timeout`, `database.elasticsearch.addresses[0]`), and reading goes on, so all
problems are reported together.
-/

namespace SlotAllocation

open Yaml

/-- Reading notes its problems. -/
abbrev Reading := StateM (List String)

/-- Notes a problem. -/
def Reading.note (msg : String) : Reading Unit := modify (· ++ [msg])

/-- Whether a whole number lies past the signed 64-bit range (an unsigned word). -/
def isUnsignedWord (i : Int) : Bool := i > maxWord

/-- The type name problems give for a value. -/
def Yaml.Value.typeName : Value → String
  | .null => "<nil>"
  | .bool _ => "bool"
  | .int i => if isUnsignedWord i then "uint64" else "int"
  | .float _ => "float64"
  | .str _ => "string"
  | .time _ => "time.Time"
  | .seq _ => "[]interface \x7b\x7d"
  | .map _ => "map[string]interface \x7b\x7d"

/-- The kind name problems give for a value that should have been a mapping. -/
def Yaml.Value.kindName : Value → String
  | .null => "invalid"
  | .bool _ => "bool"
  | .int i => if isUnsignedWord i then "uint64" else "int"
  | .float _ => "float64"
  | .str _ => "string"
  | .time _ => "struct"
  | .seq _ => "slice"
  | .map _ => "map"

mutual
/-- A value as problems print it: lists in brackets, mappings as `map[k:v …]` with keys in
order. -/
def Yaml.Value.printed : Value → String
  | .null => "<nil>"
  | .bool b => if b then "true" else "false"
  | .int i => toString i
  | .float f => Float.generalText f
  | .str s => s
  | .time t => t.text
  | .seq items => "[" ++ Yaml.Value.printedItems items ++ "]"
  | .map entries =>
    "map[" ++ " ".intercalate ((Yaml.Value.printedEntries entries).mergeSort
      (fun a b => decide (a.1 ≤ b.1)) |>.map (·.2)) ++ "]"

/-- The printed items of a list, separated by blanks. -/
def Yaml.Value.printedItems : List Value → String
  | [] => ""
  | [x] => x.printed
  | x :: rest => x.printed ++ " " ++ Yaml.Value.printedItems rest

/-- The printed entries of a mapping, each with its key. -/
def Yaml.Value.printedEntries : List (String × Value) → List (String × String)
  | [] => []
  | (k, x) :: rest => (k, k ++ ":" ++ x.printed) :: Yaml.Value.printedEntries rest
end

/-- The problem of a value that cannot become `target`. -/
def unconvertible (name target : String) (v : Value) : String :=
  "'" ++ name ++ "' expected type '" ++ target ++ "', got unconvertible type '" ++ v.typeName ++
    "', value: '" ++ v.printed ++ "'"

/-- A double cut toward zero into a 64-bit word; values outside the range and NaN give the
least word. -/
def floatToWord (f : Float) : Int :=
  if f.isNaN || f.isInf || f ≥ 9223372036854775808.0 || f < -9223372036854775808.0 then minWord
  else
    let a := if f < 0 then -f else f
    let n : Int := (a.floor.toUInt64.toNat : Int)
    if f < 0 then -n else n

/-- Reads a whole number field. -/
def readWhole (name : String) (current : Int) : Value → Reading Int
  | .null => pure current
  | .int i => pure (wrap64 i)
  | .float f => pure (floatToWord f)
  | .bool b => pure (if b then 1 else 0)
  | .str s =>
    match Numeral.readInt (if s.isEmpty then "0" else s) with
    | .ok i => pure i
    | .error e => do
      Reading.note ("cannot parse '" ++ name ++ "' as int: " ++ e.message)
      pure current
  | v => do
    Reading.note (unconvertible name "int" v)
    pure current

/-- Reads a text field. -/
def readText (name : String) (current : String) : Value → Reading String
  | .null => pure current
  | .str s => pure s
  | .bool b => pure (if b then "1" else "0")
  | .int i => pure (toString i)
  | .float f => pure (Float.positionalText f)
  | v => do
    Reading.note (unconvertible name "string" v)
    pure current

/-- Reads a truth value field. -/
def readFlag (name : String) (current : Bool) : Value → Reading Bool
  | .null => pure current
  | .bool b => pure b
  | .int i => pure (i != 0)
  | .float f => pure (f != 0)
  | .str s =>
    match Numeral.readBool s with
    | .ok b => pure b
    | .error e =>
      if s.isEmpty then pure false
      else do
        Reading.note ("cannot parse '" ++ name ++ "' as bool: " ++ e.message)
        pure current
  | v => do
    Reading.note (unconvertible name "bool" v)
    pure current

/-- Reads the items of a list of texts, each under its index. -/
def readTextItems (name : String) : List Value → Nat → Reading (List String)
  | [], _ => pure []
  | v :: rest, i => do
    let t ← readText (name ++ "[" ++ toString i ++ "]") "" v
    let ts ← readTextItems name rest (i + 1)
    pure (t :: ts)

/-- Reads a list of texts field. -/
def readTexts (name : String) (current : Option (List String)) : Value →
    Reading (Option (List String))
  | .null => pure current
  | .str s => pure (some (if s.isEmpty then [] else s.splitOn ","))
  | .seq items => some <$> readTextItems name items 0
  | .map [] => pure (some [])
  | v => some <$> readTextItems name [v] 0

/-- The field `key` of a section: the exact key, else one equal up to case. -/
def fieldOf (entries : List (String × Value)) (key : String) : Option Value :=
  match (entries.find? (·.1 == key)).map (·.2) with
  | some v => some v
  | none => (entries.find? fun e => Text.sameFold e.1 key).map (·.2)

/-- The dotted name of field `key` under `name`. -/
def fieldName (name key : String) : String := if name.isEmpty then key else name ++ "." ++ key

/-- The entries of a section, or none (noting a problem) when the value is no mapping; a
timestamp is a record without readable fields, so it gives no entries. -/
def sectionEntries (name : String) : Value → Reading (Option (List (String × Value)))
  | .null => pure none
  | .map entries => pure (some entries)
  | .time _ => pure (some [])
  | v => do
    Reading.note ("'" ++ name ++ "' expected a map, got '" ++ v.kindName ++ "'")
    pure none

/-- A field reader: how to read one field of a section, given its dotted name. -/
abbrev FieldReader (α : Type) := String → α → Value → Reading α

/-- Reads field `key` of a section with `read`, keeping `current` when absent. -/
def readField {α : Type} (entries : List (String × Value)) (name key : String) (current : α)
    (read : FieldReader α) : Reading α :=
  match fieldOf entries key with
  | some v => read (fieldName name key) current v
  | none => pure current

/-- Reads a section with `read`, from its zero value. -/
def readSection {α : Type} (name : String) (zero : α)
    (read : String → List (String × Value) → Reading α) (v : Value) : Reading α := do
  match ← sectionEntries name v with
  | some es => read name es
  | none => pure zero

/-- Reads a worker entry. -/
def readWorker (name : String) (es : List (String × Value)) : Reading WorkerEntry := do
  let enabled ← readField es name "enabled" false readFlag
  let maxJobsActive ← readField es name "max_jobs_active" 0 readWhole
  let timeout ← readField es name "timeout" 0 readWhole
  let maxRetries ← readField es name "max_retries" 0 readWhole
  let retryBackoff ← readField es name "retry_backoff" 0 readWhole
  pure { enabled, maxJobsActive, timeout, maxRetries, retryBackoff }

/-- Reads the entries of a workers table; an entry with a problem is left out. -/
def readWorkerEntries (name : String) : List (String × Value) →
    Reading (List (String × WorkerEntry))
  | [] => pure []
  | (k, v) :: rest => do
    let before := (← get).length
    let entryName := name ++ "[" ++ k ++ "]"
    let w ← readSection entryName {} readWorker v
    let failed := (← get).length > before
    let ws ← readWorkerEntries name rest
    pure (if failed then ws else (k, w) :: ws)

/-- Merges worker entries, a later entry replacing an earlier one of the same name. -/
def mergeWorkers (acc more : List (String × WorkerEntry)) : List (String × WorkerEntry) :=
  more.foldl (fun acc (k, w) => acc.filter (·.1 != k) ++ [(k, w)]) acc

/-- Reads the workers table: a mapping of sections, or a list of such mappings merged in
order (stopping at the first item that is no mapping). -/
def readWorkers (name : String) (current : List (String × WorkerEntry)) :
    Value → Reading (List (String × WorkerEntry))
  | .null => pure current
  | .map entries => do
    let ws ← readWorkerEntries name entries
    pure (mergeWorkers current ws)
  | .seq items =>
    let rec go (i : Nat) (acc : List (String × WorkerEntry)) :
        List Value → Reading (List (String × WorkerEntry))
      | [] => pure acc
      | .map entries :: rest => do
        let ws ← readWorkerEntries (name ++ "[" ++ toString i ++ "]") entries
        go (i + 1) (mergeWorkers acc ws) rest
      | v :: _ => do
        Reading.note ("'" ++ name ++ "[" ++ toString i ++ "]' expected a map, got '" ++
          v.kindName ++ "'")
        pure acc
    go 0 current items
  | .time _ => pure current
  | v => do
    Reading.note ("'" ++ name ++ "' expected a map, got '" ++ v.kindName ++ "'")
    pure current

/-- Reads all settings from a table. -/
def readSettings (es : List (String × Value)) : Reading Settings := do
  let app ← readField es "" "app" ({} : AppSettings) fun name _ v =>
    readSection name {} (fun name es => do
      let name' ← readField es name "name" "" readText
      let version ← readField es name "version" "" readText
      let environment ← readField es name "environment" "" readText
      pure { name := name', version, environment }) v
  let broker ← readField es "" "camunda" ({} : BrokerSettings) fun name _ v =>
    readSection name {} (fun name es => do
      let address ← readField es name "broker_address" "" readText
      let plaintext ← readField es name "use_plaintext" false readFlag
      let connectionTimeout ← readField es name "connection_timeout" 0 readWhole
      let requestTimeout ← readField es name "request_timeout" 0 readWhole
      pure { address, plaintext, connectionTimeout, requestTimeout }) v
  let stores ← readField es "" "database" ({} : StoresSettings) fun name _ v =>
    readSection name {} (fun name es => do
      let relational ← readField es name "postgres" ({} : StoreSettings) fun name _ v =>
        readSection name {} (fun name es => do
          let host ← readField es name "host" "" readText
          let port ← readField es name "port" 0 readWhole
          let database ← readField es name "database" "" readText
          let user ← readField es name "user" "" readText
          let password ← readField es name "password" "" readText
          let maxConnections ← readField es name "max_connections" 0 readWhole
          let maxIdle ← readField es name "max_idle" 0 readWhole
          let sslMode ← readField es name "sslmode" "" readText
          pure { host, port, database, user, password, maxConnections, maxIdle, sslMode }) v
      let search ← readField es name "elasticsearch" ({} : SearchSettings) fun name _ v =>
        readSection name {} (fun name es => do
          let addresses ← readField es name "addresses" none readTexts
          let username ← readField es name "username" "" readText
          let password ← readField es name "password" "" readText
          pure { addresses, username, password }) v
      let cache ← readField es name "redis" ({} : CacheSettings) fun name _ v =>
        readSection name {} (fun name es => do
          let address ← readField es name "address" "" readText
          let password ← readField es name "password" "" readText
          let db ← readField es name "db" 0 readWhole
          pure { address, password, db }) v
      pure { relational, search, cache }) v
  let workers ← readField es "" "workers" [] readWorkers
  let run ← readField es "" "assignment" ({} : RunSettings) fun name _ v =>
    readSection name {} (fun name es => do
      let forceFill ← readField es name "force_fill" false readFlag
      let lockTTL ← readField es name "lock_ttl" 0 readWhole
      let resultTTL ← readField es name "result_ttl" 0 readWhole
      let runTimeout ← readField es name "run_timeout" 0 readWhole
      let reportIndex ← readField es name "report_index" "" readText
      pure { forceFill, lockTTL, resultTTL, runTimeout, reportIndex }) v
  let notices ← readField es "" "notifications" ({} : NoticeSettings) fun name _ v =>
    readSection name {} (fun name es => do
      let mail ← readField es name "email" ({} : MailSettings) fun name _ v =>
        readSection name {} (fun name es => do
          let enabled ← readField es name "enabled" false readFlag
          let fromAddress ← readField es name "from_email" "" readText
          let recipients ← readField es name "recipients" none readTexts
          pure { enabled, fromAddress, recipients }) v
      let topic ← readField es name "topic" ({} : TopicSettings) fun name _ v =>
        readSection name {} (fun name es => do
          let enabled ← readField es name "enabled" false readFlag
          let arn ← readField es name "arn" "" readText
          pure { enabled, arn }) v
      let region ← readField es name "aws" "" fun name _ v =>
        readSection name "" (fun name es => readField es name "region" "" readText) v
      pure { mail, topic, region }) v
  let log ← readField es "" "logging" ({} : LogSettings) fun name _ v =>
    readSection name {} (fun name es => do
      let level ← readField es name "level" "" readText
      let format ← readField es name "format" "" readText
      pure { level, format }) v
  let statusAddress ← readField es "" "http" "" fun name _ v =>
    readSection name "" (fun name es => readField es name "address" "" readText) v
  pure { app, broker, stores, workers := Table.ofList workers, run, notices, log, statusAddress }

/-- The dotted keys of every setting field; `workers` stands for the whole table. -/
def settingKeys : List String :=
  ["app.name", "app.version", "app.environment",
   "camunda.broker_address", "camunda.use_plaintext", "camunda.connection_timeout",
   "camunda.request_timeout",
   "database.postgres.host", "database.postgres.port", "database.postgres.database",
   "database.postgres.user", "database.postgres.password", "database.postgres.max_connections",
   "database.postgres.max_idle", "database.postgres.sslmode",
   "database.elasticsearch.addresses", "database.elasticsearch.username",
   "database.elasticsearch.password",
   "database.redis.address", "database.redis.password", "database.redis.db",
   "workers",
   "assignment.force_fill", "assignment.lock_ttl", "assignment.result_ttl",
   "assignment.run_timeout", "assignment.report_index",
   "notifications.email.enabled", "notifications.email.from_email",
   "notifications.email.recipients", "notifications.topic.enabled", "notifications.topic.arn",
   "notifications.aws.region",
   "logging.level", "logging.format", "http.address"]

/-- Reads settings from a table, or gives every problem met. -/
def Settings.ofTable (t : Value) : Except (List String) Settings :=
  let entries := match t with
    | .map es => es
    | _ => []
  let (s, problems) := (readSettings entries).run []
  if problems.isEmpty then .ok s else .error problems

end SlotAllocation
