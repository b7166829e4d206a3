import SlotAllocation.Validation.SchemaCheck
import SlotAllocation.Validation.Problem
import SlotAllocation.Json.Bind
import SlotAllocation.Batch.Basic

/-!
# What the job workers are asked

Each worker reads its job's variables into a request: the variables text is bound to the
request's shape (a mismatch or a syntax error is reported as the reader reports it), and the
request is then checked against its schema in its written form, where fields that are empty
and marked as omittable are left out:

* compute: a batch (1 to 128 characters), an optional force-fill override, the rerun and
  dry-run flags, an optional inline problem and a kind (`subjects` or `internships`);
* force-fill: a batch;
* report: a batch and a run (1 to 64 characters);
* notify: a batch, an optional run, an optional list of non-empty applicants and a kind.

An inline problem must also pass the problem rules (`Problem.verdict`).
-/

namespace SlotAllocation

namespace SchemaDoc

/-- A schema document with only a type. -/
def ofType (t : String) : Json := .obj [("type", .str t)]

/-- A string schema document with optional length bounds. -/
def text (minLength maxLength : Option Nat) : Json :=
  .obj ([("type", .str "string")] ++ (minLength.map fun n => ("minLength", Json.nat n)).toList ++
    (maxLength.map fun n => ("maxLength", Json.nat n)).toList)

/-- An object schema document with required members and member schemas. -/
def object (required : List String) (properties : List (String × Json)) : Json :=
  .obj [("type", .str "object"), ("required", Json.strs required), ("properties", .obj properties)]

/-- An object schema document whose members all follow `value` and whose names are not
empty. -/
def dictionary (value : Json) : Json :=
  .obj [("type", .str "object"), ("propertyNames", .obj [("minLength", Json.nat 1)]),
    ("additionalProperties", value)]

end SchemaDoc

/-- A schema compiled from a document of this library, which compiles. -/
def Schema.ofTrusted (doc : Json) : Schema :=
  match Schema.ofDocument doc 256 with
  | .ok s => s
  | .error _ => default

/-- The schema document of an inline problem. -/
def problemSchemaDoc : Json :=
  SchemaDoc.object ["preferences", "capacities"]
    [("preferences", SchemaDoc.dictionary
        (.obj [("type", Json.strs ["array", "null"]), ("items", SchemaDoc.ofType "string")])),
     ("capacities", SchemaDoc.dictionary (.obj [("type", .str "integer"), ("minimum", Json.nat 0)]))]

/-- The schema document of the kinds a request may name. -/
def kindSchemaDoc : Json := .obj [("type", .str "string"), ("enum", Json.strs [kindSubjects, kindInternships])]

/-- A problem in written form: absent tables are null. -/
def Problem.toJson (p : Problem) : Json :=
  .obj [("preferences", match p.preferences with
          | some t => .obj (t.entries.map fun (a, l) => (a, Json.strs l))
          | none => .null),
        ("capacities", match p.capacities with
          | some t => .obj (t.entries.map fun (s, n) => (s, Json.int n))
          | none => .null)]

/-- A member that is written only when `keep` holds. -/
def omittable (keep : Bool) (k : String) (v : Json) : List (String × Json) :=
  if keep then [(k, v)] else []

/-- A request to compute a batch's assignments. -/
structure ComputeRequest where
  batchId : String
  forceFill : Option Bool
  rerun : Bool
  dryRun : Bool
  problem : Option Problem
  kind : String

/-- How compute variables are read. -/
def computeShape : Shape :=
  .record "computeassignments.Input"
    [("batchId", .text "string"), ("forceFill", .optional .flag), ("rerun", .flag),
     ("dryRun", .flag), ("problem", .optional problemShape), ("kind", .text "placement.Kind")]

/-- A compute request from variables bound to `computeShape`. -/
def ComputeRequest.ofBound (j : Json) : ComputeRequest :=
  { batchId := (j.get "batchId").text
    forceFill := match j.get "forceFill" with
      | .bool b => some b
      | _ => none
    rerun := (j.get "rerun").flag
    dryRun := (j.get "dryRun").flag
    problem := match j.get "problem" with
      | .null => none
      | p => some (Problem.ofBound p)
    kind := (j.get "kind").text }

/-- The written form of a compute request. -/
def ComputeRequest.toJson (r : ComputeRequest) : Json :=
  .obj ([("batchId", .str r.batchId)] ++
    (match r.forceFill with
      | some b => [("forceFill", .bool b)]
      | none => []) ++
    omittable r.rerun "rerun" (.bool true) ++ omittable r.dryRun "dryRun" (.bool true) ++
    (match r.problem with
      | some p => [("problem", p.toJson)]
      | none => []) ++
    omittable (!r.kind.isEmpty) "kind" (.str r.kind))

/-- The schema of compute requests. -/
def computeSchema : Schema :=
  Schema.ofTrusted <| SchemaDoc.object ["batchId"]
    [("batchId", SchemaDoc.text (some 1) (some 128)), ("forceFill", SchemaDoc.ofType "boolean"),
     ("rerun", SchemaDoc.ofType "boolean"), ("dryRun", SchemaDoc.ofType "boolean"),
     ("kind", kindSchemaDoc), ("problem", problemSchemaDoc)]

/-- A request to force-fill a committed batch. -/
structure FillRequest where
  batchId : String

/-- How force-fill variables are read. -/
def fillShape : Shape := .record "forcefillassignments.Input" [("batchId", .text "string")]

/-- The schema of force-fill requests. -/
def fillSchema : Schema :=
  Schema.ofTrusted <| SchemaDoc.object ["batchId"] [("batchId", SchemaDoc.text (some 1) (some 128))]

/-- A request to index the report of a committed run. -/
structure ReportRequest where
  batchId : String
  runId : String

/-- How report variables are read. -/
def reportShape : Shape :=
  .record "indexassignmentreport.Input" [("batchId", .text "string"), ("runId", .text "string")]

/-- The schema of report requests. -/
def reportSchema : Schema :=
  Schema.ofTrusted <| SchemaDoc.object ["batchId", "runId"]
    [("batchId", SchemaDoc.text (some 1) (some 128)), ("runId", SchemaDoc.text (some 1) (some 64))]

/-- A request to notify the operators of unassigned applicants; without a list, the list is
taken from the committed rows. -/
structure NotifyRequest where
  batchId : String
  runId : String
  unassigned : Option (List String)
  kind : String

/-- How notify variables are read. -/
def notifyShape : Shape :=
  .record "notifyunassigned.Input"
    [("batchId", .text "string"), ("runId", .text "string"),
     ("unassigned", .list "[]string" (.text "string")), ("kind", .text "placement.Kind")]

/-- A notify request from variables bound to `notifyShape`. -/
def NotifyRequest.ofBound (j : Json) : NotifyRequest :=
  { batchId := (j.get "batchId").text, runId := (j.get "runId").text
    unassigned := (j.get "unassigned").items?.map (List.map Json.text)
    kind := (j.get "kind").text }

/-- The written form of a notify request. -/
def NotifyRequest.toJson (r : NotifyRequest) : Json :=
  let list := r.unassigned.getD []
  .obj ([("batchId", .str r.batchId)] ++ omittable (!r.runId.isEmpty) "runId" (.str r.runId) ++
    omittable (!list.isEmpty) "unassigned" (Json.strs list) ++
    omittable (!r.kind.isEmpty) "kind" (.str r.kind))

/-- The schema of notify requests. -/
def notifySchema : Schema :=
  Schema.ofTrusted <| SchemaDoc.object ["batchId"]
    [("batchId", SchemaDoc.text (some 1) (some 128)), ("runId", SchemaDoc.ofType "string"),
     ("kind", kindSchemaDoc),
     ("unassigned", .obj [("type", Json.strs ["array", "null"]), ("items", SchemaDoc.text (some 1) none)])]

end SlotAllocation
