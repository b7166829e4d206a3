import SlotAllocation.Settings.Tasks
import SlotAllocation.Json.Bind

/-!
# Settings as documents

The service settings are written as an object with one member per section, named as the
service's configuration structure names them (`App`, `Camunda`, `Database`, …); times stay in
milliseconds. A worker's settings are written with its own field names and times in
nanoseconds, and are read back through a shape with the same names.
-/

namespace SlotAllocation

/-- A worker entry as an object. -/
def WorkerEntry.toJson (w : WorkerEntry) : Json :=
  .obj [("Enabled", .bool w.enabled), ("MaxJobsActive", .int w.maxJobsActive),
    ("Timeout", .int w.timeout), ("MaxRetries", .int w.maxRetries),
    ("RetryBackoff", .int w.retryBackoff)]

/-- The service settings as an object. -/
def Settings.toJson (s : Settings) : Json :=
  let r := s.stores.relational
  .obj [
    ("App", .obj [("Name", .str s.app.name), ("Version", .str s.app.version),
      ("Environment", .str s.app.environment)]),
    ("Camunda", .obj [("BrokerAddress", .str s.broker.address),
      ("UsePlaintext", .bool s.broker.plaintext),
      ("ConnectionTimeout", .int s.broker.connectionTimeout),
      ("RequestTimeout", .int s.broker.requestTimeout)]),
    ("Database", .obj [
      ("Postgres", .obj [("Host", .str r.host), ("Port", .int r.port),
        ("Database", .str r.database), ("User", .str r.user), ("Password", .str r.password),
        ("MaxConnections", .int r.maxConnections), ("MaxIdle", .int r.maxIdle),
        ("SSLMode", .str r.sslMode)]),
      ("Elasticsearch", .obj [("Addresses", .strsOrNull s.stores.search.addresses),
        ("Username", .str s.stores.search.username),
        ("Password", .str s.stores.search.password)]),
      ("Redis", .obj [("Address", .str s.stores.cache.address),
        ("Password", .str s.stores.cache.password), ("DB", .int s.stores.cache.db)])]),
    ("Workers", .obj (s.workers.entries.map fun (k, w) => (k, w.toJson))),
    ("Assignment", .obj [("ForceFill", .bool s.run.forceFill), ("LockTTL", .int s.run.lockTTL),
      ("ResultTTL", .int s.run.resultTTL), ("RunTimeout", .int s.run.runTimeout),
      ("ReportIndex", .str s.run.reportIndex)]),
    ("Notifications", .obj [
      ("Email", .obj [("Enabled", .bool s.notices.mail.enabled),
        ("FromEmail", .str s.notices.mail.fromAddress),
        ("Recipients", .strsOrNull s.notices.mail.recipients)]),
      ("Topic", .obj [("Enabled", .bool s.notices.topic.enabled),
        ("ARN", .str s.notices.topic.arn)]),
      ("AWS", .obj [("Region", .str s.notices.region)])]),
    ("Logging", .obj [("Level", .str s.log.level), ("Format", .str s.log.format)]),
    ("HTTP", .obj [("Address", .str s.statusAddress)])]

/-- A worker's settings as an object. -/
def TaskSettings.toJson : TaskSettings → Json
  | .compute s => .obj [("Timeout", .int s.timeout), ("RunTimeout", .int s.runTimeout),
    ("LockTTL", .int s.lockTTL), ("ResultTTL", .int s.resultTTL),
    ("ForceFill", .bool s.forceFill), ("MaxRetries", .int s.maxRetries),
    ("RetryBackoff", .int s.retryBackoff)]
  | .fill s => .obj [("Timeout", .int s.timeout), ("LockTTL", .int s.lockTTL),
    ("ResultTTL", .int s.resultTTL), ("MaxRetries", .int s.maxRetries),
    ("RetryBackoff", .int s.retryBackoff)]
  | .report s => .obj [("Timeout", .int s.timeout), ("Index", .str s.index),
    ("MaxRetries", .int s.maxRetries), ("RetryBackoff", .int s.retryBackoff)]
  | .notify s => .obj [("Timeout", .int s.timeout), ("EmailEnabled", .bool s.mailEnabled),
    ("FromEmail", .str s.fromAddress), ("Recipients", .strsOrNull s.recipients),
    ("TopicEnabled", .bool s.topicEnabled), ("TopicARN", .str s.topicArn),
    ("DeliveryTTL", .int s.deliveryTTL), ("MaxRetries", .int s.maxRetries),
    ("RetryBackoff", .int s.retryBackoff)]

/-- A time field of a worker's settings. -/
def durationField (name : String) : String × Shape := (name, .whole "time.Duration")

/-- How a worker's settings are read. -/
def Task.shape : Task → Shape
  | .compute => .record "computeassignments.Config"
    [durationField "Timeout", durationField "RunTimeout", durationField "LockTTL",
     durationField "ResultTTL", ("ForceFill", .flag), ("MaxRetries", .whole "int"),
     durationField "RetryBackoff"]
  | .fill => .record "forcefillassignments.Config"
    [durationField "Timeout", durationField "LockTTL", durationField "ResultTTL",
     ("MaxRetries", .whole "int"), durationField "RetryBackoff"]
  | .report => .record "indexassignmentreport.Config"
    [durationField "Timeout", ("Index", .text "string"), ("MaxRetries", .whole "int"),
     durationField "RetryBackoff"]
  | .notify => .record "notifyunassigned.Config"
    [durationField "Timeout", ("EmailEnabled", .flag), ("FromEmail", .text "string"),
     ("Recipients", .list "[]string" (.text "string")), ("TopicEnabled", .flag),
     ("TopicARN", .text "string"), durationField "DeliveryTTL", ("MaxRetries", .whole "int"),
     durationField "RetryBackoff"]

/-- A worker's settings from a value bound to its shape. -/
def Task.settingsOfBound (t : Task) (j : Json) : TaskSettings :=
  let n := fun k => (j.get k).whole
  match t with
  | .compute => .compute
    { timeout := n "Timeout", runTimeout := n "RunTimeout", lockTTL := n "LockTTL"
      resultTTL := n "ResultTTL", forceFill := (j.get "ForceFill").flag
      maxRetries := n "MaxRetries", retryBackoff := n "RetryBackoff" }
  | .fill => .fill
    { timeout := n "Timeout", lockTTL := n "LockTTL", resultTTL := n "ResultTTL"
      maxRetries := n "MaxRetries", retryBackoff := n "RetryBackoff" }
  | .report => .report
    { timeout := n "Timeout", index := (j.get "Index").text, maxRetries := n "MaxRetries"
      retryBackoff := n "RetryBackoff" }
  | .notify => .notify
    { timeout := n "Timeout", mailEnabled := (j.get "EmailEnabled").flag
      fromAddress := (j.get "FromEmail").text
      recipients := (j.get "Recipients").items?.map (List.map Json.text)
      topicEnabled := (j.get "TopicEnabled").flag, topicArn := (j.get "TopicARN").text
      deliveryTTL := n "DeliveryTTL", maxRetries := n "MaxRetries"
      retryBackoff := n "RetryBackoff" }

/-- Reads a worker's settings from a document. -/
def Task.readSettings (t : Task) (doc : Json) : Except BindError TaskSettings :=
  (bindJson t.shape doc).map t.settingsOfBound

end SlotAllocation
