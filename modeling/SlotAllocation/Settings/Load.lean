import SlotAllocation.Settings.Decode
import SlotAllocation.Settings.Document
import SlotAllocation.Yaml.Decode

/-!
# Loading the settings

Loading reads the configuration file as YAML, lower-cases its keys, layers the environment
over it and expands `$` references (`Sources`), reads the settings from the resulting table
(`Settings.ofTable`), fills in standard values, takes the conventional secrets from their
short environment variables when still empty, and checks the result (`Settings.problem?`).

Each stage has its own failure, and `LoadError.message` gives the text the service reports.
-/

namespace SlotAllocation

/-- Why the settings could not be loaded. -/
inductive LoadError where
  /-- The configuration file does not exist. -/
  | missing (path : String)
  /-- The configuration file is not valid YAML; `detail` is the reader's message. -/
  | unreadable (path detail : String)
  /-- Values of the file do not fit the settings; one text per problem. -/
  | undecodable (problems : List String)
  /-- The settings are incomplete or wrong. -/
  | invalid (problem : String)
deriving Repr

/-- The text reported for a load failure; decoding problems are listed in byte order. -/
def LoadError.message : LoadError → String
  | .missing path =>
    "failed to read config file " ++ path ++ ": open " ++ path ++ ": no such file or directory"
  | .unreadable path detail =>
    "failed to read config file " ++ path ++ ": While parsing config: " ++ detail
  | .undecodable problems =>
    let points := (problems.map ("* " ++ ·)).mergeSort (fun a b => decide (a ≤ b))
    "failed to unmarshal config: " ++ toString problems.length ++ " error(s) decoding:\n\n" ++
      "\n".intercalate points
  | .invalid problem => "invalid configuration: " ++ problem

/-- Fills the empty secrets of the settings from their short environment variables. -/
def Settings.withSecrets (s : Settings) (env : Environment) : Settings :=
  let fill := fun (v name : String) => if v.isEmpty then env.getD name else v
  let r := s.stores.relational
  let c := s.stores.cache
  let q := s.stores.search
  { s with
    stores := { s.stores with
      relational := { r with user := fill r.user "DB_USER", password := fill r.password "DB_PASSWORD" }
      cache := { c with password := fill c.password "REDIS_PASSWORD" }
      search := { q with
        username := fill q.username "ES_USERNAME", password := fill q.password "ES_PASSWORD" } }
    notices := { s.notices with
      topic := { s.notices.topic with arn := fill s.notices.topic.arn "OPERATOR_TOPIC_ARN" }
      region := fill s.notices.region "AWS_REGION" } }

/-- The environment a load sees: the process environment, with the variables of an
environment file added when the file is given and readable. -/
def loadEnvironment (env : Environment) (envFile : Option String) : Environment :=
  match envFile.bind readEnvFile with
  | some vars => env.addMissing vars
  | none => env

/-- Loads the settings from the configuration file at `path`, whose text is `text` (none
when there is no such file), under the environment `env`. -/
def loadSettings (path : String) (text : Option String) (env : Environment) :
    Except LoadError Settings :=
  match text with
  | none => .error (.missing path)
  | some text =>
    match Yaml.readTable text with
    | .error detail => .error (.unreadable path detail)
    | .ok entries =>
      let file := (Yaml.Value.map entries).lowerKeys ((Yaml.Value.map entries).depth + 1)
      let sources : Sources := ({ file, env } : Sources).expand
      match Settings.ofTable (sources.table settingKeys) with
      | .error problems => .error (.undecodable problems)
      | .ok s =>
        let s := s.withDefaults.withSecrets env
        match s.problem? with
        | some p => .error (.invalid p)
        | none => .ok s

/-- What the service makes of loaded settings, as a document: the settings, the store's
connection text, each worker's settings with their verdict, and which workers run. -/
def Settings.report (s : Settings) : Json :=
  let workers := Task.all.map fun t =>
    let ts := t.settings s
    let verdict := ts.verdict
    let fields := [("config", ts.toJson), ("valid", Json.bool verdict.valid)] ++
      (if verdict.valid then [] else [("message", Json.str verdict.text)])
    (t.typeName, Json.obj fields)
  let enabled := Task.all.map fun t => (t.typeName, Json.bool (s.worker t.typeName).enabled)
  .obj [("config", s.toJson), ("dsn", .str s.connectionText), ("workers", .obj workers),
    ("enabled", .obj enabled)]

end SlotAllocation
