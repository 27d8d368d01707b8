import TraceAgent.Trace.Merge

/-!
# The counts of the current run

How often each entry was recorded since the run began. `RunLog.snapshot` gives
the counts in the order of the entries.
-/

namespace TraceAgent.Trace

/-- The number of calls of each entry recorded in this run. -/
abbrev RunLog := SortedMap Entry UInt64

namespace RunLog

/-- Counts one call. -/
def record (log : RunLog) (entry : Entry) : RunLog := log.alter entry fun n => n.getD 0 + 1

/-- The calls of an entry so far. -/
def count (log : RunLog) (entry : Entry) : UInt64 := (log.get? entry).getD 0

/-- The counts, in the order of the entries. -/
def snapshot (log : RunLog) : Run := log.entries

end RunLog

end TraceAgent.Trace
