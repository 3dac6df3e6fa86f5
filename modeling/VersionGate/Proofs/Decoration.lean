import VersionGate.Proofs.TextOrder
import VersionGate.Proofs.Verdict

/-! What surrounds a version in its text: a `v` in front and a build list behind. Neither counts in
a comparison. Versions are the same exactly if their texts are up to the first plus, so a text may
get and lose both without a change to any verdict, but for the words in which it is told. -/
namespace VersionGate

namespace Version
open Grammar

/-- The text up to its build list, with any build list or none behind it, and with or without a `v`
in front. -/
inductive Decorates (text other : String) : Prop where
  | bare : Suffix '+' BuildIdentifier behind words →
      other.toList = text.toList.takeWhile (· ≠ '+') ++ behind → Decorates text other
  | prefixed : Suffix '+' BuildIdentifier behind words →
      other.toList = 'v' :: (text.toList.takeWhile (· ≠ '+') ++ behind) → Decorates text other

/-- The front of a text is a text of the grammar by itself. -/
theorem Grammar.WellFormed.derives_front (valid : Grammar.WellFormed o) :
    Derives (front o) { o with build := [] } :=
  derives_iff.mpr ⟨{ valid with build := List.forall_mem_nil _ }, (List.append_nil _).symm⟩

theorem front_eq_iff (validO : Grammar.WellFormed o) (validP : Grammar.WellFormed p) :
    front o = front p ↔
      o.major = p.major ∧ o.minor = p.minor ∧ o.patch = p.patch ∧ o.prerelease = p.prerelease := by
  constructor
  · intro same
    have derivesO := validO.derives_front
    rw [same] at derivesO
    simpa using derives_unique derivesO validP.derives_front
  · rintro ⟨major, minor, patch, prerelease⟩
    rw [front, front, core, core, major, minor, patch, prerelease]

theorem takeWhile_eq_iff_key (first : parse s = .ok a) (second : parse t = .ok b) :
    s.toList.takeWhile (· ≠ '+') = t.toList.takeWhile (· ≠ '+') ↔ a.key = b.key := by
  obtain ⟨o, derivesO, _, rfl⟩ := parse_eq_ok_iff.mp first
  obtain ⟨p, derivesP, _, rfl⟩ := parse_eq_ok_iff.mp second
  obtain ⟨validO, textO⟩ := derives_iff.mp derivesO
  obtain ⟨validP, textP⟩ := derives_iff.mp derivesP
  rw [textO, textP, validO.takeWhile_text, validP.takeWhile_text,
    front_eq_iff validO validP, key_value_eq_iff validO validP]

/-- Another build list behind a text is read in place of its own, and nothing else is. -/
theorem parse_of_front (accepted : parse text = .ok v)
    (suffix : Suffix '+' BuildIdentifier behind words)
    (chars : other.toList = text.toList.takeWhile (· ≠ '+') ++ behind) :
    ∃ w, parse other = .ok w ∧ w.key = v.key := by
  obtain ⟨o, derives, short, rfl⟩ := parse_eq_ok_iff.mp accepted
  obtain ⟨valid, textEq⟩ := derives_iff.mp derives
  obtain ⟨rfl, wordsValid⟩ := suffix_iff.mp suffix
  have otherValid : Grammar.WellFormed { o with build := words } :=
    { valid with build := wordsValid }
  have otherDerives : Derives other.toList { o with build := words } := by
    rw [chars, textEq, valid.takeWhile_text]
    exact derives_iff.mpr ⟨otherValid, rfl⟩
  refine ⟨value { o with build := words },
    parse_eq_ok_iff.mpr ⟨_, otherDerives, short, rfl⟩, ?_⟩
  exact key_eq_iff.mpr ⟨rfl, rfl, rfl, rfl⟩

theorem normalize_of_prefixed (chars : text.toList = 'v' :: rest) :
    normalize text = String.ofList rest := by
  simp only [normalize, chars]

theorem Decorates.read (decorates : Decorates text other) (accepted : parse text = .ok v) :
    ∃ w, Version.read other = .ok w ∧ w.key = v.key := by
  cases decorates with
  | bare suffix chars =>
    obtain ⟨w, parsed, same⟩ := parse_of_front accepted suffix chars
    exact ⟨w, read_of_parse parsed, same⟩
  | prefixed suffix chars =>
    rw [Version.read, normalize_of_prefixed chars]
    exact parse_of_front accepted suffix String.toList_ofList

theorem decorates_self (accepted : parse text = .ok v) : Decorates text text := by
  obtain ⟨o, derives, _⟩ := parse_eq_ok_iff.mp accepted
  obtain ⟨valid, textEq⟩ := derives_iff.mp derives
  refine .bare (suffix_iff.mpr ⟨rfl, valid.build⟩) ?_
  rw [textEq, valid.takeWhile_text]
  rfl

theorem key_lowest_congr {a b : Version} (same : a.key = b.key) : a.lowest.key = b.lowest.key := by
  obtain ⟨major, minor, patch, prerelease⟩ := key_eq_iff.mp same
  rw [lowest, lowest, prerelease]
  split
  · exact key_eq_iff.mpr ⟨major, minor, patch, rfl⟩
  · exact same

theorem read_of_second_prefix (text : String) :
    read ("v" ++ ("v" ++ text)) = .error (.malformed ("v" ++ text)) := by
  have chars : ("v" ++ text).toList = 'v' :: text.toList := String.toList_append
  have twice : ("v" ++ ("v" ++ text)).toList = 'v' :: ("v" ++ text).toList := String.toList_append
  have takenOff : normalize ("v" ++ ("v" ++ text)) = "v" ++ text := by
    rw [normalize_of_prefixed twice, String.ofList_toList]
  have someText : "v" ++ text ≠ "" := by
    intro empty
    simp [empty] at chars
  rw [read, takenOff]
  refine parse_of_not_derives someText fun o derives => ?_
  obtain ⟨c, rest, starts, digit⟩ := derives.exists_digit
  rw [chars] at starts
  obtain rfl := (List.cons.inj starts).1
  exact absurd digit (by decide)

end Version

namespace Comparison
open Version (parse read normalize relate Decorates)
open Version.Grammar (Suffix BuildIdentifier IdentifierCharacter)

/-- Outcomes that differ at most in the versions that they name. -/
inductive Alike : Except Failure Unit → Except Failure Unit → Prop where
  | passed : Alike (.ok ()) (.ok ())
  | refused : Alike
      (.error (.check (.incompatible current least overrideKey prerelease) none))
      (.error (.check (.incompatible current' least' overrideKey prerelease) none))

theorem alike_of_key {c c' m m' : Version}
    (currentRead : read current = .ok c) (otherRead : read current' = .ok c')
    (minimumRead : read minimum = .ok m) (otherMinimum : read minimum' = .ok m')
    (sameCurrent : c.key = c'.key) (sameMinimum : m.key = m'.key) (overrideKey : String) :
    Alike (compareVersions current minimum overrideKey).outcome
      (compareVersions current' minimum' overrideKey).outcome := by
  have sameLeast := Version.key_lowest_congr sameMinimum
  have samePrerelease := (Version.key_eq_iff.mp sameCurrent).2.2.2
  by_cases below : c.Below m.lowest
  · have otherBelow : c'.Below m'.lowest := by
      rwa [Version.below_iff_key, ← sameCurrent, ← sameLeast, ← Version.below_iff_key]
    rw [(Verdict.tooLow currentRead minimumRead below).outcome,
      (Verdict.tooLow otherRead otherMinimum otherBelow).outcome, samePrerelease]
    exact .refused
  · have otherNotBelow : ¬ c'.Below m'.lowest := by
      rwa [Version.below_iff_key, ← sameCurrent, ← sameLeast, ← Version.below_iff_key]
    rw [(Verdict.admitted currentRead minimumRead below).outcome,
      (Verdict.admitted otherRead otherMinimum otherNotBelow).outcome]
    exact .passed

/-- Versions are the same exactly if their texts are the same up to the first plus. So whatever `v`
and build list the two texts of a comparison are given, it ends alike: each text has its own
decoration and any other. The `v` is taken off once, and a second one is an error. -/
theorem decoration_ignored :
    (∀ s t a b, parse s = .ok a → parse t = .ok b →
      (relate .eq a b = true ↔ a.compare b = .eq) ∧
      (a.compare b = .eq ↔
        s.toList.takeWhile (· ≠ '+') = t.toList.takeWhile (· ≠ '+'))) ∧
    (∀ text v, parse text = .ok v → Decorates text text) ∧
    (∀ current minimum c m, parse current = .ok c → parse minimum = .ok m →
      ∀ first second first' second', Decorates current first → Decorates current second →
        Decorates minimum first' → Decorates minimum second' → ∀ overrideKey,
          Alike (compareVersions first first' overrideKey).outcome
            (compareVersions second second' overrideKey).outcome) ∧
    (∀ text v, read text = .ok v → normalize (normalize text) = normalize text) ∧
    ∀ text, read ("v" ++ ("v" ++ text)) = .error (.malformed ("v" ++ text)) := by
  refine ⟨?_, fun _ _ => Version.decorates_self, ?_, ?_, Version.read_of_second_prefix⟩
  · intro s t a b first second
    have same : relate .eq a b = true ↔ a.key = b.key := Version.same_iff
    rw [same, (Version.compare_compares a b).eq_eq, Version.takeWhile_eq_iff_key first second]
    exact ⟨Iff.rfl, Iff.rfl⟩
  · intro current minimum c m currentParsed minimumParsed first second first' second' decorates
      decoratesToo decoratesMinimum decoratesMinimumToo overrideKey
    obtain ⟨_, firstRead, firstKey⟩ := decorates.read currentParsed
    obtain ⟨_, secondRead, secondKey⟩ := decoratesToo.read currentParsed
    obtain ⟨_, firstMinimum, firstMinimumKey⟩ := decoratesMinimum.read minimumParsed
    obtain ⟨_, secondMinimum, secondMinimumKey⟩ := decoratesMinimumToo.read minimumParsed
    exact alike_of_key firstRead secondRead firstMinimum secondMinimum
      (firstKey.trans secondKey.symm) (firstMinimumKey.trans secondMinimumKey.symm)
      overrideKey
  · intro text v accepted
    exact Version.Grammar.normalize_of_parse accepted

/-- The hyphen in a build list starts no pre-release and the zeros in front of a word are no number,
so the refusal stays as it is, that of a pre-release. -/
theorem decoration_ignored_hyphens :
    parse "1.18.0-rc.1" = .ok ⟨1, 18, 0, [.word "rc", .number 1], []⟩ ∧
    parse "1.18.0-rc.2" = .ok ⟨1, 18, 0, [.word "rc", .number 2], []⟩ ∧
    Decorates "1.18.0-rc.1" "v1.18.0-rc.1+k3s-9" ∧ Decorates "1.18.0-rc.2" "1.18.0-rc.2+00.-" ∧
    (compareVersions "1.18.0-rc.1" "1.18.0-rc.2" "MINIMUM").outcome = .error
      (.check (.incompatible "1.18.0-rc.1" "1.18.0-rc.2" "MINIMUM" true) none) ∧
    Alike (compareVersions "1.18.0-rc.1" "1.18.0-rc.2" "MINIMUM").outcome
      (compareVersions "v1.18.0-rc.1+k3s-9" "1.18.0-rc.2+00.-" "MINIMUM").outcome ∧
    relate .eq ⟨1, 18, 0, [.word "rc", .number 1], []⟩
      ⟨1, 18, 0, [.word "rc", .number 1], ["00", "-"]⟩ = true ∧
    normalize (normalize "v1.18.0-rc.1+k3s-9") = normalize "v1.18.0-rc.1+k3s-9" := by
  have currentParsed : parse "1.18.0-rc.1" = .ok ⟨1, 18, 0, [.word "rc", .number 1], []⟩ := by
    decide +kernel
  have minimumParsed : parse "1.18.0-rc.2" = .ok ⟨1, 18, 0, [.word "rc", .number 2], []⟩ := by
    decide +kernel
  have withBuild : parse "1.18.0-rc.1+00.-" =
      .ok ⟨1, 18, 0, [.word "rc", .number 1], ["00", "-"]⟩ := by decide +kernel
  have prefixedRead : read "v1.18.0-rc.1+k3s-9" =
      .ok ⟨1, 18, 0, [.word "rc", .number 1], ["k3s-9"]⟩ := by decide +kernel
  have below : Version.Below ⟨1, 18, 0, [.word "rc", .number 1], []⟩
      (Version.lowest ⟨1, 18, 0, [.word "rc", .number 2], []⟩) :=
    Version.precedes_iff_below.mp (by decide)
  have characters : IdentifierCharacter 'k' ∧ IdentifierCharacter '3' ∧ IdentifierCharacter 's' ∧
      IdentifierCharacter '-' ∧ IdentifierCharacter '9' ∧ IdentifierCharacter '0' := by decide
  have hyphenated : Suffix '+' BuildIdentifier ('+' :: "k3s-9".toList) ["k3s-9".toList] :=
    .present (.single ⟨by decide, by simp [characters]⟩)
  have zeros : Suffix '+' BuildIdentifier ('+' :: ("00".toList ++ '.' :: "-".toList))
      ["00".toList, "-".toList] :=
    .present (.more ⟨by decide, by simp [characters]⟩ (.single ⟨by decide, by simp [characters]⟩))
  have decorated : Decorates "1.18.0-rc.1" "v1.18.0-rc.1+k3s-9" := .prefixed hyphenated (by decide)
  have decoratedMinimum : Decorates "1.18.0-rc.2" "1.18.0-rc.2+00.-" := .bare zeros (by decide)
  obtain ⟨sameTexts, plain, alike, idempotent, _⟩ := decoration_ignored
  obtain ⟨equal, texts⟩ := sameTexts _ _ _ _ currentParsed withBuild
  exact ⟨currentParsed, minimumParsed, decorated, decoratedMinimum,
    (Verdict.tooLow (Version.Grammar.read_of_parse currentParsed)
      (Version.Grammar.read_of_parse minimumParsed) below).outcome,
    alike _ _ _ _ currentParsed minimumParsed _ _ _ _ (plain _ _ currentParsed) decorated
      (plain _ _ minimumParsed) decoratedMinimum "MINIMUM",
    equal.mpr (texts.mpr (by decide)), idempotent _ _ prefixedRead⟩

end Comparison

end VersionGate
