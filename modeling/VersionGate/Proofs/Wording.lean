import Mathlib.Algebra.Ring.Int.Defs
import VersionGate.Proofs.Verdict
import VersionGate.Tracing

/-! Which failures have a text, and what becomes of them in a span. A comparison ends with no failure
but such as has one, so a span around it passes on whatever it ends with. -/
namespace VersionGate

/-- A number is written unless it has more digits than the limit, whatever its sign. -/
theorem Numeral.isWritable_iff (n : Int) : isWritable n = true ↔ n.natAbs < 10 ^ limit := by
  rw [isWritable, decide_eq_true_eq]
  exact Nat.length_toDigits_le_iff (by decide) (by decide)

/-- Asking a failure for its text can end with another failure, but not with this one. -/
theorem Failure.ne_of_print_error {failure inTurn : Failure}
    (untold : failure.print = .error inTurn) : inTurn ≠ failure := by
  rintro rfl
  cases inTurn with
  | fault kind wording =>
    cases wording with
    | silent => contradiction
    | saying argument =>
      rw [print] at untold
      split at untold
      · contradiction
      · rename_i unwritable
        injection untold with same
        injection same with _ saying
        injection saying with text
        subst text
        exact unwritable rfl
    | failing other =>
      have same : other = .fault kind (.failing other) := Except.error.inj untold
      have sizes := congrArg sizeOf same
      simp only [Failure.fault.sizeOf_spec, Wording.failing.sizeOf_spec] at sizes
      omega
  | refusal status reason =>
    rw [print] at untold
    split at untold <;> cases untold
  | invalid e => cases untold
  | missing m => cases untold
  | check e cause =>
    rw [print] at untold
    cases told : e.print <;> rw [told] at untold <;> cases untold

namespace Run
variable {α : Type} {failure : Failure}

theorem failureMarks_of_text (goesOn : failure.isInterrupt = false)
    (told : failure.print = .ok text) : failureMarks (.error failure : Except Failure α) =
      [("exception.type", .text failure.name), ("exception.message", .text text)] := by
  rw [failureMarks, goesOn, if_neg Bool.false_ne_true, told]
  rfl

theorem failureMarks_of_untold (goesOn : failure.isInterrupt = false)
    (untold : failure.print = .error inTurn) : failureMarks (.error failure : Except Failure α) =
      [("exception.type", .text failure.name)] := by
  rw [failureMarks, goesOn, if_neg Bool.false_ne_true, untold]
  rfl

/-- Whether a run ends so that a span around it has no text to ask for, or gets it. -/
def IsTold (result : Except Failure α) : Prop :=
  ∀ failure, result = .error failure → (∀ wording, failure ≠ .fault .interrupt wording) →
    ∃ text, failure.print = .ok text

theorem passedOn_of_text (told : failure.print = .ok text) :
    passedOn (.error failure : Except Failure α) = .error failure := by
  rw [passedOn, told]
  exact ite_self _

theorem passedOn_of_untold (goesOn : failure.isInterrupt = false)
    (untold : failure.print = .error inTurn) :
    passedOn (.error failure : Except Failure α) = .error inTurn := by
  rw [passedOn, goesOn, if_neg Bool.false_ne_true, untold]

theorem passedOn_of_isTold {result : Except Failure α} (told : IsTold result) :
    passedOn result = result := by
  cases result with
  | ok a => rfl
  | error failure =>
    rw [passedOn]
    split
    · rfl
    · rename_i goesOn
      obtain ⟨text, print⟩ := told failure rfl fun wording same => goesOn (same ▸ rfl)
      rw [print]

theorem passedOn_eq_self_iff {result : Except Failure α} :
    passedOn result = result ↔ IsTold result := by
  refine ⟨?_, passedOn_of_isTold⟩
  rintro same failure rfl other
  cases print : failure.print with
  | ok text => exact ⟨text, rfl⟩
  | error inTurn =>
    rw [passedOn_of_untold (Failure.isInterrupt_eq_false other) print] at same
    exact absurd (Except.error.inj same) (Failure.ne_of_print_error print)

end Run

namespace Comparison

theorem Verdict.exists_text {failure : Failure}
    (verdict : Verdict current minimum overrideKey (.error failure)) :
    ∃ text, failure.print = .ok text := by
  cases verdict <;> exact ⟨_, rfl⟩

theorem Verdict.isInterrupt_eq_false {failure : Failure}
    (verdict : Verdict current minimum overrideKey (.error failure)) :
    failure.isInterrupt = false := by
  cases verdict <;> rfl

theorem exists_text_of_error {failure : Failure}
    (failed : (compareVersions current minimum overrideKey).outcome = .error failure) :
    ∃ text, failure.print = .ok text :=
  (verdict_of_outcome failed).exists_text

theorem isTold_compareVersions (current minimum overrideKey : String) :
    Run.IsTold (compareVersions current minimum overrideKey).outcome := by
  intro failure failed _
  exact exists_text_of_error failed

end Comparison

end VersionGate
