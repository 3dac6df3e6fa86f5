import Mathlib.Tactic.SplitIfs
import VersionGate.Proofs.ControlSequences
import VersionGate.Proofs.Diagnosis

/-! What the errors of a comparison can show. A text that was given is shown between quotes or by
the version that it was read as, and neither lets a control through. So an error stays on its line
and starts no control sequence, whatever it is about. -/
namespace VersionGate

namespace Text

def ControlFree (chars : List Char) : Prop := ∀ c ∈ chars, isControl c = false

instance : DecidablePred ControlFree :=
  fun chars => List.decidableBAll (fun c => isControl c = false) chars

theorem controlFree_cons : ControlFree (c :: rest) ↔ isControl c = false ∧ ControlFree rest :=
  List.forall_mem_cons

theorem controlFree_append {first second : List Char} :
    ControlFree (first ++ second) ↔ ControlFree first ∧ ControlFree second :=
  List.forall_mem_append

theorem controlFree_flatMap {text : List Char} {write : Char → List Char} :
    ControlFree (text.flatMap write) ↔ ∀ c ∈ text, ControlFree (write c) :=
  List.forall_mem_flatMap

theorem controlFree_toList_append {s t : String} :
    ControlFree (s ++ t).toList ↔ ControlFree s.toList ∧ ControlFree t.toList := by
  rw [String.toList_append, controlFree_append]

theorem ControlFree.append {s t : String} (first : ControlFree s.toList)
    (second : ControlFree t.toList) : ControlFree (s ++ t).toList :=
  controlFree_toList_append.mpr ⟨first, second⟩

theorem ControlFree.escape_not_mem (free : ControlFree chars) : '\x1b' ∉ chars := by
  intro member
  have shown := free _ member
  contradiction

theorem isControl_digitChar : ∀ k < 16, isControl (Nat.digitChar k) = false := by decide

theorem controlFree_hexDigits (width n : Nat) : ControlFree (hexDigits width n) := by
  induction width generalizing n with
  | zero => exact List.forall_mem_nil _
  | succ width ih =>
    have digit := isControl_digitChar (n % 16) (Nat.mod_lt _ (by decide))
    exact controlFree_append.mpr ⟨ih _, List.forall_mem_singleton.mpr digit⟩

/-- A backslash, a letter that says what follows, and what follows. -/
theorem controlFree_escape (shown : isControl letter = false) (free : ControlFree rest) :
    ControlFree ('\\' :: letter :: rest) :=
  controlFree_cons.mpr ⟨by decide, controlFree_cons.mpr ⟨shown, free⟩⟩

theorem controlFree_codePointEscape (c : Char) : ControlFree (codePointEscape c) := by
  rw [codePointEscape]
  split_ifs
  · exact controlFree_escape (by decide) (controlFree_hexDigits _ _)
  · exact controlFree_escape (by decide) (controlFree_hexDigits _ _)
  · exact controlFree_escape (by decide) (controlFree_hexDigits _ _)

theorem isControl_quoteFor (text : List Char) : isControl (quoteFor text) = false := by
  rw [quoteFor]
  split <;> decide

theorem controlFree_quotedChar (quoteShown : isControl quote = false) (c : Char) :
    ControlFree (quotedChar quote c) := by
  have nothing : ControlFree [] := List.forall_mem_nil _
  rw [quotedChar]
  split_ifs with mark _ _ _ printable
  · rcases mark with rfl | rfl
    · exact controlFree_escape quoteShown nothing
    · exact controlFree_escape (by decide) nothing
  · exact controlFree_escape (by decide) nothing
  · exact controlFree_escape (by decide) nothing
  · exact controlFree_escape (by decide) nothing
  · refine List.forall_mem_singleton.mpr (Bool.eq_false_iff.mpr fun control => ?_)
    rw [not_isPrintable_of_isControl control] at printable
    contradiction
  · exact controlFree_codePointEscape c

/-- Whatever a text holds, nothing of it is a control once it is quoted. -/
theorem controlFree_quoted (text : String) : ControlFree (quoted text).toList := by
  have quote := isControl_quoteFor text.toList
  have inside : ControlFree (text.toList.flatMap (quotedChar (quoteFor text.toList))) :=
    controlFree_flatMap.mpr fun c _ => controlFree_quotedChar quote c
  rw [quoted, String.toList_ofList, quotedChars]
  exact controlFree_append.mpr
    ⟨controlFree_cons.mpr ⟨quote, inside⟩, List.forall_mem_singleton.mpr quote⟩

theorem isControl_of_between (low : ' ' ≤ c) (high : c ≤ '~') : isControl c = false := by
  rw [Char.le_def, UInt32.le_iff_toNat_le] at low high
  have lower : 0x20 ≤ c.toNat := low
  have upper : c.toNat ≤ 0x7e := high
  simp only [isControl, Bool.or_eq_false_iff, Bool.and_eq_false_iff, decide_eq_false_iff_not]
  omega

end Text

namespace Version
open Grammar Text

theorem isControl_of_identifierCharacter (character : IdentifierCharacter c) :
    isControl c = false := by
  rcases character with ⟨low, high⟩ | (⟨low, high⟩ | ⟨low, high⟩) | rfl
  · exact isControl_of_between (Char.le_trans (by decide) low) (Char.le_trans high (by decide))
  · exact isControl_of_between (Char.le_trans (by decide) low) (Char.le_trans high (by decide))
  · exact isControl_of_between (Char.le_trans (by decide) low) (Char.le_trans high (by decide))
  · decide

theorem controlFree_repr (n : Nat) : ControlFree (Nat.repr n).toList := by
  rw [Nat.repr, String.toList_ofList]
  exact fun c member =>
    isControl_of_identifierCharacter (.inl ((numeric_toDigits n).digits c member))

/-- A version is spelt by its identifiers and the marks between them. -/
theorem WellFormed.controlFree_render (valid : WellFormed v) : ControlFree v.render.toList := by
  rw [render, String.toList_ofList]
  refine fun c member => Bool.eq_false_iff.mpr fun control => ?_
  have other : ¬ IdentifierCharacter c := fun character => by
    rw [isControl_of_identifierCharacter character] at control
    contradiction
  have apart {mark : Char} (shown : isControl mark = false) : c ≠ mark := by
    rintro rfl
    rw [shown] at control
    contradiction
  exact (wellFormed_outline valid).not_mem_text other (apart (by decide)) (apart (by decide)) member

/-- An accepted text is that of its version, but for the leading letter. -/
theorem controlFree_of_read (accepted : read text = .ok v) : ControlFree text.toList := by
  have free := (wellFormed_of_parse accepted).controlFree_render
  rw [render_of_parse accepted, normalize] at free
  split at free
  · rename_i chars
    rw [chars]
    rw [String.toList_ofList] at free
    exact List.forall_mem_cons.mpr ⟨by decide, free⟩
  · exact free

theorem controlFree_tooLong (e : Numeral.TooLong) : ControlFree e.message.toList := by
  rw [tooLong_message]
  exact .append (.append (by decide +kernel) (controlFree_repr e.digits)) (by decide +kernel)

theorem controlFree_tooLarge (e : Numeral.TooLarge) : ControlFree e.message.toList := by
  cases e
  decide +kernel

theorem controlFree_identifierError (e : Identifier.Error) : ControlFree e.message.toList := by
  cases e with
  | empty => decide
  | characters text => exact .append (by decide) (controlFree_quoted text)
  | leadingZeroes text => exact .append (by decide +kernel) (controlFree_quoted text)
  | tooLong e => exact controlFree_tooLong e

theorem Error.controlFree_message (e : Error) : ControlFree e.message.toList := by
  cases e with
  | empty => decide
  | malformed text => exact .append (by decide) (controlFree_quoted text)
  | tooLong e => exact controlFree_tooLong e
  | identifier e => exact controlFree_identifierError e
  | tooLarge e => exact controlFree_tooLarge e
  | negative part => cases part <;> decide

end Version

namespace CheckError
open Text

theorem controlFree_prereleaseNote : ControlFree prereleaseNote.toList := by
  decide +kernel

theorem controlFree_incompatibility (current : ControlFree shown.toList)
    (minimum : ControlFree least.toList) (key : ControlFree overrideKey.toList) :
    ControlFree (incompatibility shown least overrideKey).toList := by
  delta incompatibility
  simp only [controlFree_toList_append, current, minimum, key, and_true]
  decide

theorem controlFree_incompatible (current : ControlFree shown.toList)
    (minimum : ControlFree least.toList) (key : ControlFree overrideKey.toList)
    (prerelease : Bool) :
    ControlFree (incompatible shown least overrideKey prerelease).message.toList := by
  have wording := controlFree_incompatibility current minimum key
  rw [message_incompatible]
  cases prerelease with
  | false => exact .append (.append (by decide) wording) (by decide)
  | true =>
    exact .append (.append (by decide) wording) (.append (by decide) controlFree_prereleaseNote)

end CheckError

namespace Comparison
open Text

theorem Verdict.controlFree {failure : Failure}
    (verdict : Verdict current minimum overrideKey (.error failure))
    (key : ControlFree overrideKey.toList) (told : failure.print = .ok text) :
    ControlFree text.toList := by
  have malformed (text : String) (role : Role) (e : Version.Error) :
      ControlFree (CheckError.malformed text role.name e.message).message.toList := by
    have opening : ControlFree ("invalid " ++ role.name ++ " kubernetes version ").toList := by
      cases role <;> decide
    exact .append (.append (.append opening (controlFree_quoted text)) (by decide))
      e.controlFree_message
  cases verdict with
  | malformedCurrent _ =>
    rw [Failure.print_malformed] at told
    exact Except.ok.inj told ▸ malformed _ .current _
  | malformedMinimum _ _ =>
    rw [Failure.print_malformed] at told
    exact Except.ok.inj told ▸ malformed _ .minimum _
  | tooLow currentRead minimumRead _ =>
    rw [Failure.print_incompatible] at told
    exact Except.ok.inj told ▸ CheckError.controlFree_incompatible
      (Version.wellFormed_of_parse currentRead).controlFree_render
      (Version.wellFormed_of_parse minimumRead).lowest.controlFree_render key _

end Comparison

end VersionGate
