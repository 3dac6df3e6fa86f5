import VersionGate.Failure
import VersionGate.Log.Record
import VersionGate.Path
import VersionGate.Span
import VersionGate.Text.Terminal

/-! A run: how it ended, and what it did on the way, in order. Runs compose as computations that
stop at the first failure and keep everything done before it. -/
namespace VersionGate

/-- A step towards a cluster: a configuration that is loaded, or the query of its version. -/
inductive Load where
  | inCluster
  | kubeconfig (file : Option Path) (context : Option String)
  | versionQuery
deriving DecidableEq, Repr

inductive Channel where
  | output | diagnostics
deriving DecidableEq, Repr

inductive Effect where
  | record (r : Log.Record)
  | mark (key : String) (value : Value)
  | span (s : Span)
  | load (l : Load)
  | query
  /-- Text written as it stands, its line end included. -/
  | print (channel : Channel) (text : String)
deriving Repr

structure Run (α : Type) where
  outcome : Except Failure α
  effects : List Effect := []

namespace Run
variable {α β : Type}

def pure (a : α) : Run α := { outcome := .ok a }

def bind (first : Run α) (next : α → Run β) : Run β :=
  match first.outcome with
  | .error failure => ⟨.error failure, first.effects⟩
  | .ok a => ⟨(next a).outcome, first.effects ++ (next a).effects⟩

instance : Monad Run where
  pure := pure
  bind := bind

def fail (failure : Failure) : Run α := { outcome := .error failure }

def perform (effect : Effect) : Run Unit := { outcome := .ok (), effects := [effect] }

def record (level : Log.Level) (event : String) (fields : Fields) : Run Unit :=
  perform (.record { level, event, fields })

def load (l : Load) : Run Unit := perform (.load l)

def mark (key : String) (value : Value) : Run Unit := perform (.mark key value)

/-- Text written with a line end, without control sequences. -/
def print (channel : Channel) (text : String) : Run Unit :=
  perform (.print channel (Text.plain text ++ "\n"))

/-- The outcome as a value, for a caller that goes on after a failure. -/
def attempt (run : Run α) : Run (Except Failure α) := ⟨.ok run.outcome, run.effects⟩

def ofExcept : Except Failure α → Run α
  | .ok a => pure a
  | .error failure => fail failure

def records (run : Run α) : List Log.Record :=
  run.effects.filterMap fun | .record r => some r | _ => none

def spans (run : Run α) : List Span :=
  run.effects.filterMap fun | .span s => some s | _ => none

def loads (run : Run α) : List Load :=
  run.effects.filterMap fun | .load l => some l | _ => none

def queries (run : Run α) : Nat :=
  run.effects.countP fun | .query => true | _ => false

theorem ext {first second : Run α} (outcome : first.outcome = second.outcome)
    (effects : first.effects = second.effects) : first = second := by
  cases first; cases second; simp_all

theorem bind_of_ok {first : Run α} {a : α} (ended : first.outcome = .ok a) (next : α → Run β) :
    (first >>= next) = ⟨(next a).outcome, first.effects ++ (next a).effects⟩ := by
  show bind first next = _
  rw [bind, ended]

theorem bind_of_error {first : Run α} {failure : Failure} (ended : first.outcome = .error failure)
    (next : α → Run β) : (first >>= next) = ⟨.error failure, first.effects⟩ := by
  show bind first next = _
  rw [bind, ended]

/-- A run that does one thing first does it before all else, and ends as the rest does. -/
theorem perform_bind (effect : Effect) (next : Unit → Run β) :
    (perform effect >>= next) = ⟨(next ()).outcome, effect :: (next ()).effects⟩ := rfl

theorem attempt_bind (run : Run α) (next : Except Failure α → Run β) :
    (run.attempt >>= next) =
      ⟨(next run.outcome).outcome, run.effects ++ (next run.outcome).effects⟩ := rfl

theorem loads_bind_of_ok {first : Run α} {a : α} (ended : first.outcome = .ok a)
    (next : α → Run β) : (first >>= next).loads = first.loads ++ (next a).loads := by
  rw [bind_of_ok ended]
  exact List.filterMap_append

theorem bind_assoc {γ : Type} (run : Run α) (next : α → Run β) (after : β → Run γ) :
    run >>= next >>= after = run >>= fun a => next a >>= after := by
  obtain ⟨failure | a, effects⟩ := run
  · rfl
  · show bind (bind _ _) _ = bind _ _
    cases ended : (next a).outcome with
    | error failure => simp [bind, ended, Bind.bind]
    | ok b => simp [bind, ended, Bind.bind]

instance : LawfulMonad Run := LawfulMonad.mk' Run
  (by
    intro α run
    obtain ⟨failure | a, effects⟩ := run
    · rfl
    · exact ext rfl (List.append_nil _))
  (by intros; rfl)
  bind_assoc

end Run

end VersionGate
