import VersionGate.Run

/-! What runs can do. A property of every effect is kept by each way in which runs are put together,
so it holds of a whole run if it holds of the parts. -/
namespace VersionGate

/-- Not a step towards a cluster. -/
def Effect.NoLoad (effect : Effect) : Prop := ∀ l, effect ≠ .load l

/-- Nothing on either channel. -/
def Effect.NoPrint (effect : Effect) : Prop := ∀ channel text, effect ≠ .print channel text

/-- Nothing on the channel for results. -/
def Effect.NoResult (effect : Effect) : Prop := ∀ text, effect ≠ .print .output text

theorem Effect.NoPrint.noResult {effect : Effect} (noPrint : effect.NoPrint) : effect.NoResult :=
  noPrint .output

namespace Run
variable {α β : Type}

/-- Whatever the run does has the property. -/
def Only (p : Effect → Prop) (run : Run α) : Prop := ∀ effect ∈ run.effects, p effect

namespace Only
variable {p q : Effect → Prop}

theorem pure (a : α) : Only p (Pure.pure a : Run α) := List.forall_mem_nil p

theorem fail (failure : Failure) : Only p (Run.fail failure : Run α) := List.forall_mem_nil p

theorem ofExcept (result : Except Failure α) : Only p (Run.ofExcept result) := by
  cases result with
  | ok a => exact pure a
  | error failure => exact fail failure

theorem perform {effect : Effect} (holds : p effect) : Only p (Run.perform effect) :=
  List.forall_mem_singleton.mpr holds

/-- What follows counts only for the outcome that the first run has. -/
theorem bind_of_outcome {run : Run α} {next : α → Run β} (first : run.Only p)
    (rest : ∀ a, run.outcome = .ok a → (next a).Only p) : (run >>= next).Only p := by
  cases ended : run.outcome with
  | ok a =>
    rw [bind_of_ok ended]
    exact List.forall_mem_append.mpr ⟨first, rest a ended⟩
  | error failure =>
    rw [bind_of_error ended]
    exact first

theorem bind {run : Run α} {next : α → Run β} (first : run.Only p) (rest : ∀ a, (next a).Only p) :
    (run >>= next).Only p :=
  bind_of_outcome first fun a _ => rest a

theorem attempt {run : Run α} (only : run.Only p) : run.attempt.Only p := only

theorem mono {run : Run α} (only : run.Only p) (weaker : ∀ effect, p effect → q effect) :
    run.Only q :=
  fun effect member => weaker effect (only effect member)

theorem loads_eq_nil {run : Run α} (only : run.Only Effect.NoLoad) : run.loads = [] := by
  refine List.filterMap_eq_nil_iff.mpr fun effect member => ?_
  cases effect with
  | load l => exact absurd rfl (only _ member l)
  | _ => rfl

end Only

end Run

end VersionGate
