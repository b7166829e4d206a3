import SlotAllocation.Batch.Basic
import SlotAllocation.Assignment.Document

/-!
# Summaries of a committed run

A summary is what is cached for a batch and reported about it: identifiers, kind and
status, the counts by phase, the applicants left waiting, the rank statistics and the time
of completion. It is built from an engine outcome when a run commits, or rebuilt from the
stored rows, whose preferences are cleaned first so that the ranks agree with the run's.
-/

namespace SlotAllocation

/-- The cached and reported view of a committed run. -/
structure Summary where
  batchId : String
  runId : String
  kind : String
  status : String
  total : Int
  assignedCount : Int
  stableAssigned : Int
  cascadeAssigned : Int
  forcedAssigned : Int
  unassigned : Option (List ApplicantId)
  averageRank : Option Float
  rankDistribution : List (Int × Int)
  completedAt : Instant

namespace Summary

/-- Describes `r` for `batch`, counting only forced pairs by phase. -/
def ofResult (batch : Batch) (runId : String) (r : Result) (completed : Instant) : Summary :=
  { batchId := batch.id, runId := runId, kind := batch.kind, status := batch.status
    total := r.total, assignedCount := r.assignedCount
    stableAssigned := 0, cascadeAssigned := 0, forcedAssigned := r.forced.size
    unassigned := r.unassigned, averageRank := r.averageRank
    rankDistribution := r.rankDistribution, completedAt := completed }

/-- Describes the outcome of a run, with its counts by phase. -/
def ofOutcome (batch : Batch) (runId : String) (o : Outcome) (completed : Instant) : Summary :=
  { ofResult batch runId o.result completed with
    stableAssigned := o.stableAssigned, cascadeAssigned := o.cascadeAssigned
    forcedAssigned := o.forcedAssigned }

/-- Rebuilds the summary of a committed batch from its rows. -/
def ofRows (batch : Batch) (rows : List Row) (prefs : Preferences) (completed : Instant) : Summary :=
  let (pairs, forced) := splitRows rows
  let r := summarize pairs forced prefs.normalize
  { ofResult batch (committedRunId rows) r completed with
    stableAssigned := (rows.filter (fun row => row.phase == Phase.stable.name)).length
    cascadeAssigned := (rows.filter (fun row => row.phase == Phase.cascade.name)).length }

/-- The members of the summary document, in order. -/
def members (s : Summary) : List (String × Json) :=
  [("batchId", .str s.batchId), ("runId", .str s.runId), ("kind", .str s.kind),
   ("status", .str s.status), ("total", .int s.total), ("assignedCount", .int s.assignedCount),
   ("stableAssigned", .int s.stableAssigned), ("cascadeAssigned", .int s.cascadeAssigned),
   ("forcedAssigned", .int s.forcedAssigned),
   ("unassigned", match s.unassigned with
      | some xs => Json.strs xs
      | none => .null),
   ("averageRank", Json.floatOrNull s.averageRank)] ++
  (if s.rankDistribution.isEmpty then [] else [("rankDistribution", rankHistogramJson s.rankDistribution)]) ++
  [("completedAt", .str s.completedAt.rfc3339)]

/-- The summary as a document. -/
def toJson (s : Summary) : Json := .obj s.members

/-- Why the summary cannot be written as a document, if it cannot: its time is out of the
writable range. -/
def jsonProblem? (s : Summary) : Option String := s.completedAt.jsonProblem?

end Summary

end SlotAllocation
