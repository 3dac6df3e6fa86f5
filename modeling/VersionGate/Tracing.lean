import VersionGate.Run

/-! Runs within a span. The span ends with the run, whatever its outcome, and takes up the
attributes set on the way. A failure passes through it once its text is taken up; one that has no
text gives way to what came of asking for it. -/
namespace VersionGate.Run
variable {α : Type}

def marks (run : Run α) : Fields :=
  run.effects.filterMap fun | .mark key value => some (key, value) | _ => none

/-- An effect as it stands outside the span around it: records know of the span, and attributes
have gone into it. -/
def enclosed : Effect → Option Effect
  | .record r => some (.record { r with inSpan := true })
  | .mark _ _ => none
  | effect => some effect

/-- A failure marks the span as failed, an interrupt leaves it without a status. -/
def spanStatus : Except Failure α → Span.Status
  | .ok _ => .ok
  | .error failure => if failure.isInterrupt then .unset else .error failure.name

def failureMarks : Except Failure α → Fields
  | .ok _ => []
  | .error failure =>
      if failure.isInterrupt then []
      else ("exception.type", .text failure.name) ::
        failure.print.toOption.toList.map fun text => ("exception.message", .text text)

/-- What a run ends with outside the span around it. -/
def passedOn : Except Failure α → Except Failure α
  | .ok a => .ok a
  | .error failure =>
      if failure.isInterrupt then .error failure
      else match failure.print with
        | .ok _ => .error failure
        | .error inTurn => .error inTurn

/-- The span of a check around `body`. Set in turn are the override flag, overruled by `extra` if
it names the flag, then the rest of `extra`, then what the body sets, then the marks of its
failure. -/
def withinSpan (override : Bool) (extra : Fields) (body : Run α) : Run α :=
  let started := Fields.putAll [(Span.overrideKey, .bool override)] extra
  let attributes := (started ++ body.marks ++ failureMarks body.outcome).foldl Span.put []
  { outcome := passedOn body.outcome
    effects := body.effects.filterMap enclosed ++
      [.span { name := Span.checkName, scope := Span.checkScope
               status := spanStatus body.outcome, attributes }] }

end VersionGate.Run
