import SlotAllocation.Service.World

/-!
# The world as documents

What the workers sent and what the stores hold, written as documents: mails with their
sender, recipients, subject (in UTF-8) and body; topic messages with their attributes, each
a `String` attribute; indexed documents with their index and identifier; the batches in
order of identifier and the rows in table order.
-/

namespace SlotAllocation

/-- A mail as a document. -/
def Email.toJson (e : Email) : Json :=
  .obj [("from", .str e.source), ("to", Json.strsOrNull e.recipients), ("subject", .str e.subject),
    ("subjectCharset", .str "UTF-8"), ("body", .str e.body)]

/-- A topic message as a document. -/
def Publication.toJson (p : Publication) : Json :=
  .obj [("topicArn", .str p.topic), ("subject", .str p.subject), ("message", .str p.message),
    ("attributes", .obj (p.attributes.entries.map fun (k, v) =>
      (k, .obj [("dataType", .str "String"), ("stringValue", .str v)]))),
    ("hasAttributes", .bool (p.attributes.size != 0))]

/-- An indexed document with its place. -/
def IndexedDocument.toJson (d : IndexedDocument) : Json :=
  .obj [("index", .str d.index), ("id", .str d.id), ("doc", d.document)]

/-- What was sent, by kind. -/
def Outbox.toJson (o : Outbox) : Json :=
  .obj [("emails", .arr (o.emails.map Email.toJson)),
    ("topics", .arr (o.publications.map Publication.toJson)),
    ("indexed", .arr (o.documents.map IndexedDocument.toJson))]

/-- A batch as a document. -/
def Batch.toJson (b : Batch) : Json :=
  .obj [("id", .str b.id), ("kind", .str b.kind), ("status", .str b.status),
    ("updatedAt", .str b.updatedAt.rfc3339)]

/-- A stored row as a document. -/
def StoredRow.toJson (r : StoredRow) : Json :=
  .obj [("batchId", .str r.batch), ("applicantId", .str r.row.applicant),
    ("slotId", .str r.row.slot), ("phase", .str r.row.phase), ("runId", .str r.row.run)]

/-- The batches, in ascending order of identifier, one batch per identifier. -/
def Database.batchesJson (db : Database) : Json :=
  .arr ((db.batches.mergeSort fun a b => Decidable.decide (a.id ≤ b.id)).map Batch.toJson)

/-- The rows, in table order. -/
def Database.rowsJson (db : Database) : Json := .arr (db.rows.map StoredRow.toJson)

end SlotAllocation
