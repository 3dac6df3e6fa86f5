import Mathlib.Data.List.Lex
import Mathlib.Data.Prod.Lex
import Mathlib.Data.String.Basic
import Mathlib.Data.Sum.Order
import Mathlib.Order.WithBot
import VersionGate.Version.Precedence

/-! Precedence as the order of one key for each version. A key is built from its version alone and
lies in a linear order, so the laws of a total order hold of `compare` without a look at how two
versions are compared. The rules of precedence stand beside it, each as a constructor. -/
namespace VersionGate

theorem compares_cons {α : Type} [Preorder α] {o : Ordering} {x : α} {xs ys : List α}
    (rest : o.Compares xs ys) : o.Compares (x :: xs) (x :: ys) := by
  cases o with
  | lt => exact List.Lex.cons rest
  | eq => exact congrArg (x :: ·) rest
  | gt => exact List.Lex.cons rest

/-- The first components decide, and the second ones if the first are the same. -/
theorem compares_toLex {α β : Type} [LinearOrder α] [Preorder β] {first second : Ordering}
    {x y : α} {u v : β} [Decidable (x ≠ y)] (decides : first.Compares x y)
    (otherwise : x = y → second.Compares u v) :
    (if x ≠ y then first else second).Compares (toLex (x, u)) (toLex (y, v)) := by
  split
  · rename_i apart
    cases first with
    | lt => exact Prod.Lex.left _ _ decides
    | eq => exact absurd decides apart
    | gt => exact Prod.Lex.left _ _ decides
  · rename_i same
    obtain rfl : x = y := not_not.mp same
    have decides := otherwise rfl
    cases second with
    | lt => exact Prod.Lex.right _ decides
    | eq => exact congrArg (fun u => toLex (x, u)) decides
    | gt => exact Prod.Lex.right _ decides

namespace Identifier

/-- Every number is below every word. -/
abbrev Key := ℤ ⊕ₗ String

def key : Identifier → Key
  | .number n => Sum.inlₗ n
  | .word s => Sum.inrₗ s

theorem key_injective : Function.Injective key := by
  rintro (m | s) (n | t) same
  · exact congrArg number (Sum.inl_injective (toLex.injective same))
  · exact absurd (toLex.injective same) Sum.inl_ne_inr
  · exact absurd (toLex.injective same) Sum.inr_ne_inl
  · exact congrArg word (Sum.inr_injective (toLex.injective same))

theorem precedes_iff_key (a b : Identifier) : a.precedes b = true ↔ a.key < b.key := by
  rcases a with m | s <;> rcases b with n | t
  · exact decide_eq_true_iff.trans Sum.Lex.inl_lt_inl_iff.symm
  · exact iff_of_true rfl (Sum.Lex.inl_lt_inr m t)
  · exact iff_of_false Bool.false_ne_true Sum.Lex.not_inr_lt_inl
  · exact decide_eq_true_iff.trans Sum.Lex.inr_lt_inr_iff.symm

/-- Numbers are ordered by value, words by their characters, and a number is below a word. -/
inductive Below : Identifier → Identifier → Prop where
  | numbers : m < n → Below (.number m) (.number n)
  | kinds : Below (.number n) (.word s)
  | words : List.Lex (· < ·) s.toList t.toList → Below (.word s) (.word t)

theorem below_iff_key {a b : Identifier} : a.Below b ↔ a.key < b.key := by
  constructor
  · rintro (less | _ | less)
    · exact Sum.Lex.inl_lt_inl_iff.mpr less
    · exact Sum.Lex.inl_lt_inr _ _
    · exact Sum.Lex.inr_lt_inr_iff.mpr less
  · intro less
    rcases a with m | s <;> rcases b with n | t
    · exact .numbers (Sum.Lex.inl_lt_inl_iff.mp less)
    · exact .kinds
    · exact absurd less Sum.Lex.not_inr_lt_inl
    · exact .words (Sum.Lex.inr_lt_inr_iff.mp less)

/-- The first difference decides, and a list is above its own beginnings. -/
theorem lex_below_iff {as bs : List Identifier} :
    List.Lex Below as bs ↔ as.map key < bs.map key := by
  constructor
  · intro lower
    induction lower with
    | nil => exact .nil
    | cons _ ih => exact .cons ih
    | rel less => exact .rel (below_iff_key.mp less)
  · intro less
    induction as generalizing bs with
    | nil =>
      cases bs with
      | nil => exact absurd less (lt_irrefl _)
      | cons b bs => exact .nil
    | cons a as ih =>
      cases bs with
      | nil => exact absurd less (List.not_lt_nil _)
      | cons b bs =>
        rcases List.cons_lt_cons_iff.mp less with first | ⟨same, rest⟩
        · exact .rel (below_iff_key.mpr first)
        · obtain rfl := key_injective same
          exact .cons (ih rest)

end Identifier

namespace Version

/-- A release is above all its pre-releases. -/
abbrev Key := ℕ ×ₗ ℕ ×ₗ ℕ ×ₗ WithTop (List Identifier.Key)

def prereleaseKey : List Identifier → WithTop (List Identifier.Key)
  | [] => ⊤
  | id :: ids => ↑((id :: ids).map Identifier.key)

def key (v : Version) : Key :=
  toLex (v.major, toLex (v.minor, toLex (v.patch, prereleaseKey v.prerelease)))

theorem compareIdentifiers_compares (as bs : List Identifier) :
    (compareIdentifiers as bs).Compares (as.map Identifier.key) (bs.map Identifier.key) := by
  induction as generalizing bs with
  | nil =>
    cases bs with
    | nil => exact rfl
    | cons b bs => exact List.Lex.nil
  | cons a as ih =>
    cases bs with
    | nil => exact List.Lex.nil
    | cons b bs =>
      rw [compareIdentifiers]
      split
      · rename_i same
        subst same
        exact compares_cons (ih bs)
      · rename_i apart
        have keysApart : b.key ≠ a.key := fun same => apart (Identifier.key_injective same).symm
        split
        · rename_i before
          exact List.Lex.rel ((a.precedes_iff_key b).mp before)
        · rename_i notBefore
          have notLess : ¬ a.key < b.key := mt (a.precedes_iff_key b).mpr notBefore
          exact List.Lex.rel ((not_lt.mp notLess).lt_of_ne keysApart)

theorem comparePrerelease_compares (as bs : List Identifier) :
    (comparePrerelease as bs).Compares (prereleaseKey as) (prereleaseKey bs) := by
  cases as with
  | nil =>
    cases bs with
    | nil => exact rfl
    | cons b bs => exact WithTop.coe_lt_top _
  | cons a as =>
    cases bs with
    | nil => exact WithTop.coe_lt_top _
    | cons b bs =>
      have identifiers := compareIdentifiers_compares (a :: as) (b :: bs)
      rw [comparePrerelease]
      · cases order : compareIdentifiers (a :: as) (b :: bs) <;> rw [order] at identifiers
        · exact WithTop.coe_lt_coe.mpr identifiers
        · exact WithTop.coe_inj.mpr identifiers
        · exact WithTop.coe_lt_coe.mpr identifiers
      all_goals simp

theorem compare_compares (a b : Version) : (a.compare b).Compares a.key b.key := by
  have numbers (m n : ℕ) : (Ord.compare m n).Compares m n := compare_iff m n |>.mp rfl
  exact compares_toLex (numbers _ _) fun _ => compares_toLex (numbers _ _) fun _ =>
    compares_toLex (numbers _ _) fun _ => comparePrerelease_compares _ _

theorem prereleaseKey_injective : Function.Injective prereleaseKey := by
  rintro (_ | ⟨a, as⟩) (_ | ⟨b, bs⟩) same
  · rfl
  · exact absurd same.symm (WithTop.coe_ne_top)
  · exact absurd same (WithTop.coe_ne_top)
  · exact Identifier.key_injective.list_map (WithTop.coe_injective same)

theorem key_eq_iff {a b : Version} : a.key = b.key ↔
    a.major = b.major ∧ a.minor = b.minor ∧ a.patch = b.patch ∧ a.prerelease = b.prerelease := by
  simp [key, prereleaseKey_injective.eq_iff]

theorem same_iff {a b : Version} : a.same b = true ↔ a.key = b.key := by
  simp [same, key_eq_iff, and_assoc]

/-- The rules of precedence. Build metadata is in none of them. -/
inductive Below (a b : Version) : Prop where
  | major : a.major < b.major → Below a b
  | minor : a.major = b.major → a.minor < b.minor → Below a b
  | patch : a.major = b.major → a.minor = b.minor → a.patch < b.patch → Below a b
  | release : a.major = b.major → a.minor = b.minor → a.patch = b.patch →
      a.prerelease ≠ [] → b.prerelease = [] → Below a b
  | identifiers : a.major = b.major → a.minor = b.minor → a.patch = b.patch →
      a.prerelease ≠ [] → List.Lex Identifier.Below a.prerelease b.prerelease → Below a b

theorem prereleaseKey_lt_iff {as bs : List Identifier} : prereleaseKey as < prereleaseKey bs ↔
    as ≠ [] ∧ (bs = [] ∨ List.Lex Identifier.Below as bs) := by
  cases as with
  | nil => simp [prereleaseKey]
  | cons a as =>
    cases bs with
    | nil => simp [prereleaseKey]
    | cons b bs => simp only [prereleaseKey, WithTop.coe_lt_coe, Identifier.lex_below_iff]; simp

theorem key_lt_iff {a b : Version} : a.key < b.key ↔ a.major < b.major ∨
    a.major = b.major ∧ (a.minor < b.minor ∨ a.minor = b.minor ∧ (a.patch < b.patch ∨
      a.patch = b.patch ∧ prereleaseKey a.prerelease < prereleaseKey b.prerelease)) := by
  simp [key, Prod.Lex.toLex_lt_toLex]

theorem below_iff_key {a b : Version} : a.Below b ↔ a.key < b.key := by
  rw [key_lt_iff, prereleaseKey_lt_iff]
  constructor
  · rintro (major | ⟨major, minor⟩ | ⟨major, minor, patch⟩ | ⟨major, minor, patch, someId, none⟩ |
      ⟨major, minor, patch, someId, lower⟩)
    · exact .inl major
    · exact .inr ⟨major, .inl minor⟩
    · exact .inr ⟨major, .inr ⟨minor, .inl patch⟩⟩
    · exact .inr ⟨major, .inr ⟨minor, .inr ⟨patch, someId, .inl none⟩⟩⟩
    · exact .inr ⟨major, .inr ⟨minor, .inr ⟨patch, someId, .inr lower⟩⟩⟩
  · rintro (major | ⟨major, minor | ⟨minor, patch | ⟨patch, someId, none | lower⟩⟩⟩)
    · exact .major major
    · exact .minor major minor
    · exact .patch major minor patch
    · exact .release major minor patch someId none
    · exact .identifiers major minor patch someId lower

theorem precedes_iff_below {a b : Version} : a.precedes b = true ↔ a.Below b := by
  rw [precedes, beq_iff_eq, (compare_compares a b).eq_lt, below_iff_key]

theorem relate_lt_iff_key {a b : Version} : relate .lt a b = true ↔ a.key < b.key :=
  precedes_iff_below.trans below_iff_key

theorem relate_le_iff_key {a b : Version} : relate .le a b = true ↔ a.key ≤ b.key :=
  calc relate .le a b = true
    _ ↔ relate .lt a b = true ∨ a.same b = true := Bool.or_eq_true_iff
    _ ↔ a.key < b.key ∨ a.key = b.key := or_congr relate_lt_iff_key same_iff
    _ ↔ a.key ≤ b.key := le_iff_lt_or_eq.symm

theorem relate_gt_iff_key {a b : Version} : relate .gt a b = true ↔ b.key < a.key := by
  have opposite : relate .gt a b = !relate .le a b := (Bool.not_or _ _).symm
  rw [opposite, Bool.not_eq_true', Bool.eq_false_iff, ne_eq, relate_le_iff_key, not_le]

/-- The three numbers, which are compared from left to right. -/
def numbers (v : Version) : ℕ ×ₗ ℕ ×ₗ ℕ := toLex (v.major, toLex (v.minor, v.patch))

theorem numbers_eq_iff {a b : Version} : a.numbers = b.numbers ↔
    a.major = b.major ∧ a.minor = b.minor ∧ a.patch = b.patch := by
  simp [numbers]

theorem numbers_lt_iff {a b : Version} : a.numbers < b.numbers ↔ a.major < b.major ∨
    a.major = b.major ∧ (a.minor < b.minor ∨ a.minor = b.minor ∧ a.patch < b.patch) := by
  simp [numbers, Prod.Lex.toLex_lt_toLex]

/-- The numbers decide first, and the identifiers only between versions of the same numbers. -/
theorem below_iff_numbers {a b : Version} : a.Below b ↔ a.numbers < b.numbers ∨
    a.numbers = b.numbers ∧ a.prerelease ≠ [] ∧
      (b.prerelease = [] ∨ List.Lex Identifier.Below a.prerelease b.prerelease) := by
  rw [below_iff_key, key_lt_iff, ← prereleaseKey_lt_iff, numbers_lt_iff, numbers_eq_iff]
  tauto

/-- Versions are in a total order up to build metadata, and all six relations are read off it. -/
theorem compare_total_order (a b c : Version) :
    a.compare b = (b.compare a).swap ∧
    (a.compare b ≠ .gt → b.compare c ≠ .gt → a.compare c ≠ .gt) ∧
    (a.compare b = .eq ↔
      a.major = b.major ∧ a.minor = b.minor ∧ a.patch = b.patch ∧ a.prerelease = b.prerelease) ∧
    (relate .lt a b = true ↔ a.compare b = .lt) ∧
    (relate .le a b = true ↔ a.compare b ≠ .gt) ∧
    (relate .gt a b = true ↔ a.compare b = .gt) ∧
    (relate .ge a b = true ↔ a.compare b ≠ .lt) ∧
    (relate .eq a b = true ↔ a.compare b = .eq) ∧
    (relate .ne a b = true ↔ a.compare b ≠ .eq) := by
  have sameEq : a.same b = true ↔ a.compare b = .eq :=
    same_iff.trans (compare_compares a b).eq_eq.symm
  refine ⟨?_, ?_, ?_, ?_⟩
  · exact (compare_compares a b).inj (compare_compares b a).swap
  · rw [(compare_compares a b).ne_gt, (compare_compares b c).ne_gt, (compare_compares a c).ne_gt]
    exact le_trans
  · rw [(compare_compares a b).eq_eq, key_eq_iff]
  · simp only [relate, Relation.holds, precedes, Bool.or_eq_true, Bool.and_eq_true,
      Bool.not_eq_true', Bool.eq_false_iff, ne_eq, beq_iff_eq, sameEq]
    cases a.compare b <;> simp

end Version

end VersionGate
