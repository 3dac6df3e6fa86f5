import Mathlib.Data.List.TakeWhile
import VersionGate.Text.Terminal

/-! Text that is written without its control sequences. One that starts no sequence is written as it
is. What is added to a text can complete a sequence that the text leaves open, unless it is made of
signs that only stand inside of one. -/
namespace VersionGate

namespace Text
variable {text tail : List Char}

/-- A text that starts no control sequence is written as it is. -/
theorem plain_eq_self {text : String} (noneStarts : '\x1b' ∉ text.toList) : plain text = text := by
  rw [plain, withoutSequences_eq_self noneStarts, String.ofList_toList]

theorem not_parameter_of_intermediate {c : Char} (inner : isSequenceIntermediate c = true) :
    isSequenceParameter c = false := by
  simp only [isSequenceIntermediate, isSequenceParameter, Bool.and_eq_true, Bool.and_eq_false_iff,
    decide_eq_true_eq, decide_eq_false_iff_not, Char.le_def, UInt32.le_iff_toNat_le] at inner ⊢
  left
  change ¬ 48 ≤ c.val.toNat
  have bound : c.val.toNat ≤ 47 := inner.2
  omega

theorem dropWhile_parameter_append
    (inner : ∀ c ∈ tail, isSequenceIntermediate c = true) :
    (text ++ tail).dropWhile isSequenceParameter =
      text.dropWhile isSequenceParameter ++ tail := by
  have kept : tail.dropWhile isSequenceParameter = tail := by
    cases tail with
    | nil => rfl
    | cons c rest =>
      exact List.dropWhile_cons_of_neg (by
        simp [not_parameter_of_intermediate (inner c List.mem_cons_self)])
  rw [List.dropWhile_append, kept]
  split
  · rename_i allDropped
    rw [List.isEmpty_iff.mp allDropped, List.nil_append]
  · rfl

/-- Signs that stand only inside a control sequence complete none, and leave a complete one as it
is. -/
theorem afterSequence?_append (inner : ∀ c ∈ tail, isSequenceIntermediate c = true) :
    afterSequence? (text ++ tail) = (afterSequence? text).map (· ++ tail) := by
  cases text with
  | nil =>
    cases tail with
    | nil => rfl
    | cons c rest =>
      have noBracket : c ≠ '[' := by
        rintro rfl
        exact absurd (inner _ List.mem_cons_self) (by decide)
      simp [afterSequence?, noBracket]
  | cons c rest =>
    by_cases bracket : c = '['
    · subst bracket
      -- where all signs so far stand inside, those that are added are passed over with them
      simp only [List.cons_append, afterSequence?, dropWhile_parameter_append inner,
        List.dropWhile_append, List.dropWhile_eq_nil_iff.mpr inner]
      cases (rest.dropWhile isSequenceParameter).dropWhile isSequenceIntermediate with
      | nil => rfl
      | cons last after =>
        simp only [List.isEmpty_cons, Bool.false_eq_true, if_false, List.cons_append]
        split <;> rfl
    · simp [afterSequence?, bracket]

theorem withoutSequences_append (inner : ∀ c ∈ tail, isSequenceIntermediate c = true) :
    withoutSequences (text ++ tail) = withoutSequences text ++ tail := by
  fun_induction withoutSequences text with
  | case1 =>
    refine withoutSequences_eq_self fun escape => ?_
    exact absurd (inner _ escape) (by decide)
  | case2 rest after found ih =>
    have foundToo : afterSequence? (rest ++ tail) = some (after ++ tail) := by
      rw [afterSequence?_append inner, found, Option.map_some]
    rw [List.cons_append, withoutSequences_of_some foundToo, ih]
  | case3 rest missing ih =>
    have missingToo : afterSequence? (rest ++ tail) = none := by
      rw [afterSequence?_append inner, missing, Option.map_none]
    rw [List.cons_append, withoutSequences_of_none missingToo, ih, List.cons_append]
  | case4 c rest other ih =>
    rw [List.cons_append, withoutSequences, if_neg other, ih, List.cons_append]

theorem plain_append {text tail : String}
    (inner : ∀ c ∈ tail.toList, isSequenceIntermediate c = true) :
    plain (text ++ tail) = plain text ++ tail := by
  rw [plain, String.toList_append, withoutSequences_append inner, String.ofList_append,
    String.ofList_toList, plain]

end Text

end VersionGate
