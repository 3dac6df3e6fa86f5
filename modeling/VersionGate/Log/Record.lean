import VersionGate.Log.Level
import VersionGate.Value

/-! One structured log record, and the ordered entry that is written for it. -/
namespace VersionGate.Log

structure Record where
  level : Level
  event : String
  fields : Fields := []
  inSpan : Bool := false
deriving Repr

/-- The record that is made under a name: that of a level, or `exception`, which is an error that
also asks for the failure at hand. -/
def Record.named? (name event : String) (fields : Fields) (inSpan : Bool) : Option Record :=
  if name = "exception" then
    some { level := .error, event, inSpan, fields := fields.putNew ("exc_info", .bool true) }
  else (Level.byName.lookup name).map fun level => { level, event, fields, inSpan }

/-- What the writer of a record adds to it: the time, and the ids of the open span if any. -/
structure Stamp where
  timestamp : String
  traceId : String
  spanId : String
deriving DecidableEq, Repr

/-- The ids of the open span, in place of any that are there. -/
def addTrace (stamp : Stamp) (inSpan : Bool) (entry : Fields) : Fields :=
  if inSpan then
    entry.putAll [("trace_id", .text stamp.traceId), ("span_id", .text stamp.spanId)]
  else entry

/-- Fields as given, the event, the context where it names something new, the level and the time,
and last the ids of the open span. Level, time and ids replace a field of the same name. -/
def Record.entry (r : Record) (stamp : Stamp) (context : Fields) : Fields :=
  let named := Fields.put "event" (.text r.event) r.fields
  let inContext := context.foldl Fields.putNew named
  let marked := Fields.put "level" (.text r.level.name) inContext
  addTrace stamp r.inSpan (Fields.put "timestamp" (.text stamp.timestamp) marked)

end VersionGate.Log
