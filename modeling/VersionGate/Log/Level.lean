import VersionGate.Text.Letters

/-! Severity of log records, and the thresholds that a level name stands for. -/
namespace VersionGate.Log

inductive Level where
  | debug | info | warning | error | critical
deriving DecidableEq, Repr

namespace Level

def name : Level → String
  | .debug => "debug"
  | .info => "info"
  | .warning => "warning"
  | .error => "error"
  | .critical => "critical"

def weight : Level → Nat
  | .debug => 10
  | .info => 20
  | .warning => 30
  | .error => 40
  | .critical => 50

/-- The names that records are made under, each with its level; some levels have a second one. -/
def byName : List (String × Level) :=
  [("debug", .debug), ("info", .info), ("msg", .info), ("warning", .warning), ("warn", .warning),
    ("error", .error), ("critical", .critical), ("fatal", .critical)]

end Level

abbrev Threshold := Nat

/-- The names of thresholds, in capitals; two of them have a second name. -/
def thresholds : List (String × Threshold) :=
  [("CRITICAL", 50), ("FATAL", 50), ("ERROR", 40), ("WARNING", 30), ("WARN", 30), ("INFO", 20),
    ("DEBUG", 10), ("NOTSET", 0)]

structure UnknownLevel where
  name : String
deriving DecidableEq, Repr

def UnknownLevel.message (e : UnknownLevel) : String := "Unknown log level: " ++ e.name

def Threshold.ofName (name : String) : Except UnknownLevel Threshold :=
  match thresholds.lookup (Text.capitals name) with
  | some threshold => .ok threshold
  | none => .error ⟨name⟩

end VersionGate.Log
