import VersionGate.Comparison
import VersionGate.Proofs.Precedence
import VersionGate.Proofs.RoundTrip

/-! The four outcomes of a comparison. Whatever both texts are, one of them applies and no other
failure gets out: the floor of a minimum is read back as it was written, and a version that was read
is short enough to be written in the report. -/
namespace VersionGate

namespace Version

/-- A minimum that is a release stands for its own first pre-release. -/
def lowest (minimum : Version) : Version :=
  if minimum.prerelease = [] then { minimum with prerelease := [.number 0] } else minimum

theorem floor_eq (minimum : Version) : minimum.floor = .ok minimum.lowest := by
  cases none : minimum.prerelease with
  | nil =>
    have injected : reread [.number 0] = .ok [.number 0] := by decide
    rw [floor, if_neg (by simp [isPrerelease, none]), lowest, if_pos none, withPrerelease, injected]
    exact ofParts_natCast ..
  | cons id ids =>
    rw [floor, if_pos (by simp [isPrerelease, none]), lowest, if_neg (by simp [none])]

/-- A minimum that has been lowered is not lowered again. -/
theorem lowest_lowest (minimum : Version) : minimum.lowest.lowest = minimum.lowest := by
  by_cases release : minimum.prerelease = [] <;> simp [lowest, release]

theorem WellFormed.lowest (valid : WellFormed v) : v.lowest.WellFormed := by
  rw [Version.lowest]
  split
  · have zero : Identifier.WellFormed (.number 0) := ⟨Int.le_refl 0, by decide⟩
    exact { valid with prerelease := List.forall_mem_singleton.mpr zero }
  · exact valid

theorem isWritable_of_parse (read : parse text = .ok v) : v.isWritable = true := by
  have printed := print_of_parse read
  rw [print] at printed
  split at printed
  · assumption
  · contradiction

theorem isWritable_lowest (writable : isWritable v = true) : v.lowest.isWritable = true := by
  rw [lowest]
  split
  · simp only [isWritable, Bool.and_eq_true] at writable ⊢
    exact ⟨writable.1, by decide⟩
  · exact writable

end Version

namespace Comparison

/-- What a comparison ends with. Errors of the current version come first; a version that is too
low is reported by what it is compared with, not by the minimum that was given. -/
inductive Verdict (current minimum overrideKey : String) : Except Failure Unit → Prop where
  | malformedCurrent : Version.read current = .error e →
      Verdict current minimum overrideKey
        (.error (.check (.malformed current "current" e.message) (some e)))
  | malformedMinimum : Version.read current = .ok c → Version.read minimum = .error e →
      Verdict current minimum overrideKey
        (.error (.check (.malformed minimum "minimum" e.message) (some e)))
  | tooLow : Version.read current = .ok c → Version.read minimum = .ok m → c.Below m.lowest →
      Verdict current minimum overrideKey
        (.error (.check (.incompatible c.render m.lowest.render overrideKey
          (decide (c.prerelease ≠ []))) none))
  | admitted : Version.read current = .ok c → Version.read minimum = .ok m →
      ¬ c.Below m.lowest → Verdict current minimum overrideKey (.ok ())

theorem readAs_of_ok (read : Version.read text = .ok v) : readAs role text = pure v := by
  rw [readAs, read]

theorem outcome_readAs_of_error (read : Version.read text = .error e) :
    (readAs role text).outcome =
      .error (.check (.malformed text role.name e.message) (some e)) := by
  rw [readAs, read]
  rfl

theorem leastAdmitted_eq (minimum : Version) : leastAdmitted minimum = pure minimum.lowest := by
  rw [leastAdmitted, Version.floor_eq]
  rfl

theorem textOf_eq (writable : v.isWritable = true) : textOf v = pure v.render := by
  rw [textOf, Version.print_eq writable]
  rfl

theorem outcome_judge (currentWritable : current.isWritable = true)
    (leastWritable : least.isWritable = true) : (judge current least overrideKey).outcome =
      if current.precedes least then .error (.check
        (.incompatible current.render least.render overrideKey current.isPrerelease) none)
      else .ok () := by
  rw [judge, textOf_eq currentWritable, textOf_eq leastWritable, pure_bind, pure_bind]
  split <;> rfl

theorem compareVersions_of_read (currentRead : Version.read current = .ok c)
    (minimumRead : Version.read minimum = .ok m) :
    compareVersions current minimum overrideKey = judge c m.lowest overrideKey := by
  rw [compareVersions, readAs_of_ok currentRead, pure_bind, readAs_of_ok minimumRead, pure_bind,
    leastAdmitted_eq, pure_bind]

theorem Verdict.outcome (verdict : Verdict current minimum overrideKey result) :
    (compareVersions current minimum overrideKey).outcome = result := by
  have judged (c m : Version) (currentRead : Version.read current = .ok c)
      (minimumRead : Version.read minimum = .ok m) :
      (compareVersions current minimum overrideKey).outcome =
        if c.precedes m.lowest then .error (.check
          (.incompatible c.render m.lowest.render overrideKey c.isPrerelease) none)
        else .ok () := by
    rw [compareVersions_of_read currentRead minimumRead]
    exact outcome_judge (Version.isWritable_of_parse currentRead)
      (Version.isWritable_lowest (Version.isWritable_of_parse minimumRead))
  cases verdict with
  | malformedCurrent currentRead =>
    rw [compareVersions, Run.bind_of_error (outcome_readAs_of_error currentRead)]
    rfl
  | malformedMinimum currentRead minimumRead =>
    rw [compareVersions, readAs_of_ok currentRead, pure_bind,
      Run.bind_of_error (outcome_readAs_of_error minimumRead)]
    rfl
  | @tooLow c m currentRead minimumRead below =>
    rw [judged c m currentRead minimumRead, if_pos (Version.precedes_iff_below.mpr below)]
    have flag : c.isPrerelease = decide (c.prerelease ≠ []) := by
      cases none : c.prerelease <;> simp [Version.isPrerelease, none]
    rw [flag]
  | @admitted c m currentRead minimumRead notBelow =>
    rw [judged c m currentRead minimumRead,
      if_neg (mt Version.precedes_iff_below.mp notBelow)]

theorem verdict_total (current minimum overrideKey : String) :
    ∃ result, Verdict current minimum overrideKey result := by
  cases currentRead : Version.read current with
  | error e => exact ⟨_, .malformedCurrent currentRead⟩
  | ok c =>
    cases minimumRead : Version.read minimum with
    | error e => exact ⟨_, .malformedMinimum currentRead minimumRead⟩
    | ok m =>
      by_cases below : c.Below m.lowest
      · exact ⟨_, .tooLow currentRead minimumRead below⟩
      · exact ⟨_, .admitted currentRead minimumRead below⟩

theorem verdict_of_outcome
    (ended : (compareVersions current minimum overrideKey).outcome = result) :
    Verdict current minimum overrideKey result := by
  obtain ⟨other, verdict⟩ := verdict_total current minimum overrideKey
  rwa [← ended, verdict.outcome]

/-- A comparison of any two texts ends as the verdict says and in no other way. -/
theorem compareVersions_outcome_iff (current minimum overrideKey : String)
    (result : Except Failure Unit) :
    (compareVersions current minimum overrideKey).outcome = result ↔
      Verdict current minimum overrideKey result :=
  ⟨verdict_of_outcome, Verdict.outcome⟩

end Comparison

end VersionGate
