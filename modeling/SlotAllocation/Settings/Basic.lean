import SlotAllocation.Table

/-!
# Service settings

The settings the service runs with: its name, the workflow broker, the relational store, the
search index and the cache, the job workers by task type, the assignment runs, the
notifications, logging and the status address. Times are whole milliseconds.

`Settings.withDefaults` fills every field that is still zero or empty with its standard
value, and every worker entry likewise. `Settings.problem?` names the first setting that is
missing or wrong, in a fixed order of checks; workers are checked in ascending order of
task type. `Settings.worker` gives the entry of a task type, or the standard entry of an
enabled worker when the settings list none.
-/

namespace SlotAllocation

/-- Who the service is. -/
structure AppSettings where
  name : String := ""
  version : String := ""
  environment : String := ""
deriving DecidableEq, Repr

/-- How to reach the workflow broker. -/
structure BrokerSettings where
  address : String := ""
  plaintext : Bool := false
  connectionTimeout : Int := 0
  requestTimeout : Int := 0
deriving DecidableEq, Repr

/-- How to reach the relational store. -/
structure StoreSettings where
  host : String := ""
  port : Int := 0
  database : String := ""
  user : String := ""
  password : String := ""
  maxConnections : Int := 0
  maxIdle : Int := 0
  sslMode : String := ""
deriving DecidableEq, Repr

/-- How to reach the search index; `addresses` is absent when the settings give no list. -/
structure SearchSettings where
  addresses : Option (List String) := none
  username : String := ""
  password : String := ""
deriving DecidableEq, Repr

/-- How to reach the cache. -/
structure CacheSettings where
  address : String := ""
  password : String := ""
  db : Int := 0
deriving DecidableEq, Repr

/-- The three stores. -/
structure StoresSettings where
  relational : StoreSettings := {}
  search : SearchSettings := {}
  cache : CacheSettings := {}
deriving DecidableEq, Repr

/-- One kind of job worker. -/
structure WorkerEntry where
  enabled : Bool := false
  maxJobsActive : Int := 0
  timeout : Int := 0
  maxRetries : Int := 0
  retryBackoff : Int := 0
deriving DecidableEq, Repr

/-- How assignment runs behave. -/
structure RunSettings where
  forceFill : Bool := false
  lockTTL : Int := 0
  resultTTL : Int := 0
  runTimeout : Int := 0
  reportIndex : String := ""
deriving DecidableEq, Repr

/-- Mail to the coordinators; `recipients` is absent when the settings give no list. -/
structure MailSettings where
  enabled : Bool := false
  fromAddress : String := ""
  recipients : Option (List String) := none
deriving DecidableEq, Repr

/-- Messages to the operators' topic. -/
structure TopicSettings where
  enabled : Bool := false
  arn : String := ""
deriving DecidableEq, Repr

/-- Where notifications go. -/
structure NoticeSettings where
  mail : MailSettings := {}
  topic : TopicSettings := {}
  region : String := ""
deriving DecidableEq, Repr

/-- What is logged and how. -/
structure LogSettings where
  level : String := ""
  format : String := ""
deriving DecidableEq, Repr

/-- All settings of the service. -/
structure Settings where
  app : AppSettings := {}
  broker : BrokerSettings := {}
  stores : StoresSettings := {}
  workers : Table WorkerEntry := Table.empty
  run : RunSettings := {}
  notices : NoticeSettings := {}
  log : LogSettings := {}
  statusAddress : String := ""

/-- `v` when it is not zero, `d` otherwise. -/
def orInt (v d : Int) : Int := if v == 0 then d else v

/-- `v` when it is not empty, `d` otherwise. -/
def orText (v d : String) : String := if v.isEmpty then d else v

/-- A worker entry with its zero fields set to their standard values. -/
def WorkerEntry.withDefaults (w : WorkerEntry) : WorkerEntry :=
  { w with
    maxJobsActive := orInt w.maxJobsActive 5
    timeout := orInt w.timeout 30000
    maxRetries := orInt w.maxRetries 3
    retryBackoff := orInt w.retryBackoff 5000 }

/-- The entry of a worker that the settings do not list. -/
def WorkerEntry.standard : WorkerEntry :=
  { enabled := true, maxJobsActive := 5, timeout := 30000, maxRetries := 3, retryBackoff := 5000 }

namespace Settings

/-- The settings with their zero and empty fields set to the standard values. -/
def withDefaults (s : Settings) : Settings :=
  { s with
    app := { s.app with name := orText s.app.name "placement-workers" }
    broker := { s.broker with
      connectionTimeout := orInt s.broker.connectionTimeout 10000
      requestTimeout := orInt s.broker.requestTimeout 30000 }
    stores := { s.stores with
      relational := { s.stores.relational with
        port := orInt s.stores.relational.port 5432
        maxConnections := orInt s.stores.relational.maxConnections 25
        maxIdle := orInt s.stores.relational.maxIdle 5
        sslMode := orText s.stores.relational.sslMode "disable" } }
    run := { s.run with
      lockTTL := orInt s.run.lockTTL 120000
      resultTTL := orInt s.run.resultTTL 86400000
      runTimeout := orInt s.run.runTimeout 60000
      reportIndex := orText s.run.reportIndex "assignment-reports" }
    log := { level := orText s.log.level "info", format := orText s.log.format "json" }
    statusAddress := orText s.statusAddress ":8080"
    workers := s.workers.map WorkerEntry.withDefaults }

/-- The first check the settings fail, in order: broker address, store host, database and
user, cache address, search addresses, mail sender and recipients when mail is on, topic
when the topic is on, and no worker with negative retries. -/
def problem? (s : Settings) : Option String :=
  if s.broker.address.isEmpty then some "camunda.broker_address is required"
  else if s.stores.relational.host.isEmpty then some "database.postgres.host is required"
  else if s.stores.relational.database.isEmpty then some "database.postgres.database is required"
  else if s.stores.relational.user.isEmpty then some "database.postgres.user is required"
  else if s.stores.cache.address.isEmpty then some "database.redis.address is required"
  else if (s.stores.search.addresses.getD []).isEmpty then
    some "database.elasticsearch.addresses is required"
  else if s.notices.mail.enabled && s.notices.mail.fromAddress.isEmpty then
    some "notifications.email.from_email is required when email is enabled"
  else if s.notices.mail.enabled && (s.notices.mail.recipients.getD []).isEmpty then
    some "notifications.email.recipients is required when email is enabled"
  else if s.notices.topic.enabled && s.notices.topic.arn.isEmpty then
    some "notifications.topic.arn is required when the topic is enabled"
  else
    (s.workers.entries.find? fun (_, w) => w.maxRetries < 0).map fun (k, _) =>
      "workers." ++ k ++ ".max_retries must not be negative"

/-- The entry of the workers of `task`. -/
def worker (s : Settings) (task : String) : WorkerEntry :=
  s.workers.findD task WorkerEntry.standard

/-- The connection text of the relational store. -/
def connectionText (s : Settings) : String :=
  let r := s.stores.relational
  "host=" ++ r.host ++ " port=" ++ toString r.port ++ " user=" ++ r.user ++ " password=" ++
    r.password ++ " dbname=" ++ r.database ++ " sslmode=" ++ r.sslMode

end Settings

end SlotAllocation
