import VersionGate.Proofs.Identifiers
import VersionGate.Proofs.RoundTrip

/-! Another pre-release put into a version that was read. Each identifier is written and read again,
so what gets in is what could be read there. The result has a text, which is that of the version
with the identifiers in place of its own, and reading it gives the result. -/
namespace VersionGate
open Version.Grammar

namespace Identifier

/-- An identifier that can be put into a version: it has a text, and that can be read. -/
def Admissible (given : Identifier) : Prop := ∃ text, given.print = .ok text ∧ Readable text

/-- Why an identifier cannot be put into a version: it is a number with too many digits, or its text
is not read. -/
inductive Offends : Identifier → Version.Error → Prop where
  | tooLarge : 4300 < (Nat.toDigits 10 n.natAbs).length → Offends (.number n) (.tooLarge {})
  | refused : given.print = .ok text → Reads text (.error e) → Offends given (.identifier e)

theorem print_eq_error_iff {given : Identifier} : given.print = .error e ↔
    ∃ n, given = .number n ∧ 4300 < (Nat.toDigits 10 n.natAbs).length := by
  cases given with
  | number n =>
    have writableIff : (number n).isWritable = true ↔ ¬ 4300 < (Nat.toDigits 10 n.natAbs).length :=
      decide_eq_true_iff.trans Nat.not_lt.symm
    by_cases long : 4300 < (Nat.toDigits 10 n.natAbs).length
    · simp [print, writableIff, long]
    · simp [print, writableIff, long]
  | word s => simp [print, isWritable]

theorem admissible_or_offends (given : Identifier) : given.Admissible ∨ ∃ e, given.Offends e := by
  cases written : given.print with
  | error e =>
    obtain ⟨n, rfl, long⟩ := print_eq_error_iff.mp written
    exact .inr ⟨_, .tooLarge long⟩
  | ok text =>
    cases read : parse text with
    | error e => exact .inr ⟨_, .refused written (parse_eq_iff.mp read)⟩
    | ok identifier => exact .inl ⟨text, written, (parse_eq_ok_iff.mp read).1⟩

end Identifier

namespace Version
open Identifier (Admissible Offends Readable)
variable {v w : Version} {given rest before after : List Identifier} {id : Identifier}

theorem reread_cons_of_readable (written : id.print = .ok text) (readable : Readable text) :
    reread (id :: rest) =
      (reread rest).map fun others => identifierValue text.toList :: others := by
  have read : Identifier.parse text = _ := (Identifier.Reads.identifier readable).parse
  rw [reread, written]
  dsimp only
  rw [read]
  cases reread rest <;> rfl

theorem reread_cons_of_offends (offends : id.Offends e) : reread (id :: rest) = .error e := by
  cases offends with
  | tooLarge long =>
    rw [reread, Identifier.print_eq_error_iff.mpr ⟨_, rfl, long⟩]
  | refused written reads =>
    rw [reread, written]
    dsimp only
    rw [reads.parse]

/-- What comes behind the first identifier that cannot be put in is not looked at. -/
theorem reread_of_offends (admissible : ∀ earlier ∈ before, earlier.Admissible)
    (offends : id.Offends e) : reread (before ++ id :: after) = .error e := by
  induction before with
  | nil => exact reread_cons_of_offends offends
  | cons first before ih =>
    obtain ⟨⟨text, written, readable⟩, others⟩ := List.forall_mem_cons.mp admissible
    rw [List.cons_append, reread_cons_of_readable written readable, ih others]
    rfl

theorem reread_of_admissible (admissible : ∀ id ∈ given, id.Admissible) :
    ∃ texts, List.Forall₂ (fun id written => id.print = .ok written) given texts ∧
      (∀ written ∈ texts, Readable written) ∧
      reread given = .ok (texts.map fun written => identifierValue written.toList) := by
  induction given with
  | nil => exact ⟨[], .nil, List.forall_mem_nil _, rfl⟩
  | cons id rest ih =>
    obtain ⟨⟨text, written, readable⟩, others⟩ := List.forall_mem_cons.mp admissible
    obtain ⟨texts, allWritten, allReadable, rereadRest⟩ := ih others
    refine ⟨text :: texts, .cons written allWritten,
      List.forall_mem_cons.mpr ⟨readable, allReadable⟩, ?_⟩
    rw [reread_cons_of_readable written readable, rereadRest]
    rfl

theorem admissible_or_first_offends (given : List Identifier) : (∀ id ∈ given, id.Admissible) ∨
    ∃ before id after e, given = before ++ id :: after ∧
      (∀ earlier ∈ before, earlier.Admissible) ∧ id.Offends e := by
  induction given with
  | nil => exact .inl (List.forall_mem_nil _)
  | cons first rest ih =>
    rcases first.admissible_or_offends with admissible | ⟨e, offends⟩
    · rcases ih with others | ⟨before, id, after, e, rfl, earlier, offends⟩
      · exact .inl (List.forall_mem_cons.mpr ⟨admissible, others⟩)
      · exact .inr ⟨first :: before, id, after, e, rfl,
          List.forall_mem_cons.mpr ⟨admissible, earlier⟩, offends⟩
    · exact .inr ⟨[], first, rest, e, rfl, List.forall_mem_nil _, offends⟩

theorem withPrerelease_eq (v : Version) (given : List Identifier) : v.withPrerelease given =
    (reread given).map fun prerelease => { v with prerelease } := by
  rw [withPrerelease]
  cases reread given with
  | error e => rfl
  | ok prerelease => exact ofParts_natCast ..

theorem withPrerelease_of_admissible (v : Version) (admissible : ∀ id ∈ given, id.Admissible) :
    ∃ texts, List.Forall₂ (fun id written => id.print = .ok written) given texts ∧
      (∀ written ∈ texts, Readable written) ∧ v.withPrerelease given =
        .ok { v with prerelease := texts.map fun written => identifierValue written.toList } := by
  obtain ⟨texts, written, readable, again⟩ := reread_of_admissible admissible
  refine ⟨texts, written, readable, ?_⟩
  rw [withPrerelease_eq, again]
  rfl

theorem withPrerelease_of_offends (v : Version)
    (admissible : ∀ earlier ∈ before, earlier.Admissible) (offends : id.Offends e) :
    v.withPrerelease (before ++ id :: after) = .error e := by
  rw [withPrerelease_eq, reread_of_offends admissible offends]
  rfl

theorem exists_withPrerelease_iff :
    (∃ w, v.withPrerelease given = .ok w) ↔ ∀ id ∈ given, id.Admissible := by
  constructor
  · rintro ⟨w, edited⟩
    rcases admissible_or_first_offends given with admissible |
      ⟨before, id, after, e, rfl, earlier, offends⟩
    · exact admissible
    · rw [withPrerelease_of_offends v earlier offends] at edited
      contradiction
  · intro admissible
    obtain ⟨texts, _, _, edited⟩ := withPrerelease_of_admissible v admissible
    exact ⟨_, edited⟩

theorem withPrerelease_eq_error_iff : v.withPrerelease given = .error e ↔
    ∃ before id after, given = before ++ id :: after ∧
      (∀ earlier ∈ before, earlier.Admissible) ∧ id.Offends e := by
  constructor
  · intro failed
    rcases admissible_or_first_offends given with admissible |
      ⟨before, id, after, other, rfl, earlier, offends⟩
    · obtain ⟨_, _, _, edited⟩ := withPrerelease_of_admissible v admissible
      rw [edited] at failed
      contradiction
    · rw [withPrerelease_of_offends v earlier offends] at failed
      obtain rfl := Except.error.inj failed
      exact ⟨before, id, after, rfl, earlier, offends⟩
  · rintro ⟨before, id, after, rfl, earlier, offends⟩
    exact withPrerelease_of_offends v earlier offends

section
variable {texts : List String}

theorem WellFormed.with_prerelease (valid : v.WellFormed)
    (readable : ∀ written ∈ texts, Readable written) : WellFormed
      { v with prerelease := texts.map fun written => identifierValue written.toList } where
  major := valid.major
  minor := valid.minor
  patch := valid.patch
  prerelease := List.forall_mem_map.mpr fun written member =>
    wellFormed_identifierValue (readable written member).1 fun digits =>
      (readable written member).2 (isNumeric_iff.mp digits)
  build := valid.build

theorem outline_with_prerelease (v : Version) (readable : ∀ written ∈ texts, Readable written) :
    outline { v with prerelease := texts.map fun written => identifierValue written.toList } =
      { v.outline with prerelease := texts.map String.toList } := by
  have chars : (texts.map fun written => identifierValue written.toList).map Identifier.chars =
      texts.map String.toList := by
    rw [List.map_map]
    exact List.map_congr_left fun written member =>
      chars_identifierValue (readable written member).1
  rw [outline, chars]
  rfl

theorem outline_of_parse (accepted : parse text = .ok v) (derives : Derives text.toList o) :
    v.outline = o := by
  obtain ⟨other, otherDerives, _, rfl⟩ := parse_eq_ok_iff.mp accepted
  obtain rfl := derives_unique derives otherDerives
  exact outline_value (derives_iff.mp derives).1

/-- The text of a version with other identifiers is its own text with these in place of those. -/
theorem print_parse_with_prerelease (accepted : parse text = .ok v)
    (derives : Derives text.toList o) (readable : ∀ written ∈ texts, Readable written)
    (edited : w =
      { v with prerelease := texts.map fun written => identifierValue written.toList }) :
    w.print = .ok (String.ofList { o with prerelease := texts.map String.toList }.text) ∧
      parse (String.ofList { o with prerelease := texts.map String.toList }.text) = .ok w := by
  have valid : w.WellFormed := edited ▸ (wellFormed_of_parse accepted).with_prerelease readable
  have textEq :
      w.render = String.ofList { o with prerelease := texts.map String.toList }.text := by
    rw [render, edited, outline_with_prerelease v readable, outline_of_parse accepted derives]
  have read := parse_render valid
  rw [← textEq]
  exact ⟨print_of_parse read, read⟩

end

/-- Other identifiers put into a version that was read. This succeeds exactly if each of them,
written, is one identifier that can be read, and otherwise fails for the first that is not. It
changes the pre-release alone: the result is written as the version was, with the identifiers behind
a hyphen in place of those that it had, and reading that gives the result again. Nothing of it is
left when the pre-release is changed once more. -/
theorem withPrerelease_edits_text (accepted : parse text = .ok v) (given : List Identifier) :
    ((∃ w, v.withPrerelease given = .ok w) ↔ ∀ id ∈ given, id.Admissible) ∧
    (∀ e, v.withPrerelease given = .error e ↔ ∃ before id after, given = before ++ id :: after ∧
      (∀ earlier ∈ before, earlier.Admissible) ∧ id.Offends e) ∧
    ∀ w, v.withPrerelease given = .ok w → ∃ texts o,
      List.Forall₂ (fun id written => id.print = .ok written) given texts ∧
      w = { v with prerelease := texts.map fun written => identifierValue written.toList } ∧
      Derives text.toList o ∧
      w.print = .ok (String.ofList { o with prerelease := texts.map String.toList }.text) ∧
      parse (String.ofList { o with prerelease := texts.map String.toList }.text) = .ok w ∧
      ∀ later, w.withPrerelease later = v.withPrerelease later := by
  refine ⟨exists_withPrerelease_iff, fun e => withPrerelease_eq_error_iff, fun w edited => ?_⟩
  obtain ⟨o, derives, _⟩ := parse_eq_ok_iff.mp accepted
  have admissible := exists_withPrerelease_iff.mp ⟨w, edited⟩
  obtain ⟨texts, written, readable, result⟩ := withPrerelease_of_admissible v admissible
  have same := Except.ok.inj (edited.symm.trans result)
  obtain ⟨printed, read⟩ := print_parse_with_prerelease accepted derives readable same
  refine ⟨texts, o, written, same, derives, printed, read, fun later => ?_⟩
  rw [same, withPrerelease_eq, withPrerelease_eq]

/-- A negative number and a word that starts like a number get in, and the build stays; of two texts
that do not, the first is told. -/
theorem withPrerelease_edits_text_mixed :
    let v : Version := ⟨1, 18, 0, [.word "rc", .number 1], ["k3s", "01"]⟩
    let w : Version := ⟨1, 18, 0, [.word "-5", .word "0a", .number 7], ["k3s", "01"]⟩
    parse "1.18.0-rc.1+k3s.01" = .ok v ∧
    v.withPrerelease [.number (-5), .word "0a", .word "7"] = .ok w ∧
    w.print = .ok "1.18.0--5.0a.7+k3s.01" ∧ parse "1.18.0--5.0a.7+k3s.01" = .ok w ∧
    (∀ later, w.withPrerelease later = v.withPrerelease later) ∧
    v.withPrerelease [.number 0, .word "a.b", .word "00"] =
      .error (.identifier (.characters "a.b")) := by
  intro v w
  have accepted : parse "1.18.0-rc.1+k3s.01" = .ok v := by decide +kernel
  have edited : v.withPrerelease [.number (-5), .word "0a", .word "7"] = .ok w := by decide +kernel
  have spelt : w.print = .ok "1.18.0--5.0a.7+k3s.01" := by decide +kernel
  have zero : Identifier.Admissible (.number 0) := ⟨"0", rfl, .numeric .zero, by simp⟩
  have dotted : Identifier.Offends (.word "a.b") (.identifier (.characters "a.b")) :=
    .refused rfl (.characters (by decide) ⟨'.', by decide, by decide⟩)
  obtain ⟨texts, o, _, _, _, printed, read, replaced⟩ :=
    (withPrerelease_edits_text accepted _).2.2 w edited
  rw [Except.ok.inj (printed.symm.trans spelt)] at read
  refine ⟨accepted, edited, spelt, read, replaced, ?_⟩
  exact ((withPrerelease_edits_text accepted _).2.1 _).mpr
    ⟨[.number 0], .word "a.b", [.word "00"], rfl, List.forall_mem_singleton.mpr zero, dotted⟩

end Version

end VersionGate
