/-!
# Cache keys

The shared cache holds three kinds of entry per batch or notification: the run lock of a
batch, the cached summary of its last committed run, and one delivery mark per
notification and channel.
-/

namespace SlotAllocation

/-- The key of a batch's run lock. -/
def lockKey (batchId : String) : String := "assignment:lock:" ++ batchId

/-- The key of a batch's cached summary. -/
def resultKey (batchId : String) : String := "assignment:result:" ++ batchId

/-- The key marking a notification as sent on a channel. -/
def deliveryKey (notificationId channel : String) : String :=
  "assignment:notified:" ++ notificationId ++ ":" ++ channel

end SlotAllocation
