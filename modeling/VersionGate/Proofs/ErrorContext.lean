import VersionGate.Cli.Notice
import VersionGate.Proofs.ControlSequences

/-! What an error line tells of its context. Entries without a value are left out of the brackets, but
they still open them: where nothing else is given, the brackets stand there empty. -/
namespace VersionGate

namespace Cli.Notice
variable {message : String} {context : Fields}

/-- Whether an entry has a value, be it false, zero or empty. -/
def isPresent : String × Value → Bool
  | (_, .null) => false
  | _ => true

def present (context : Fields) : Fields := context.filter isPresent

/-- A context is hollow if entries are given and none of them has a value. -/
def isHollow (context : Fields) : Bool := !context.isEmpty && (present context).isEmpty

theorem isPresent_iff {entry : String × Value} : isPresent entry = true ↔ entry.2 ≠ .null := by
  obtain ⟨name, value⟩ := entry
  cases value <;> simp [isPresent]

theorem isHollow_eq_false_iff :
    isHollow context = false ↔ context = [] ∨ ∃ entry ∈ context, entry.2 ≠ .null := by
  cases context with
  | nil => exact iff_of_true rfl (.inl rfl)
  | cons entry rest =>
    simp only [isHollow, present, List.isEmpty_cons, Bool.not_false, Bool.true_and,
      List.isEmpty_eq_false_iff_exists_mem, List.mem_filter, isPresent_iff, reduceCtorEq, false_or]

def item (entry : String × Value) : String := entry.1 ++ "=" ++ entry.2.shown

/-- The line due to a message: brackets follow it only if there is something to put in them. -/
def dueText (message : String) (context : Fields) : String :=
  "Error: " ++ message ++
    if (present context).isEmpty then ""
    else " (" ++ ", ".intercalate ((present context).map item) ++ ")"

theorem contextItem?_eq (entry : String × Value) :
    contextItem? entry = if isPresent entry then some (item entry) else none := by
  obtain ⟨name, value⟩ := entry
  cases value <;> rfl

theorem present_cons (entry : String × Value) (rest : Fields) :
    present (entry :: rest) = if isPresent entry then entry :: present rest else present rest :=
  List.filter_cons

theorem filterMap_contextItem? (context : Fields) :
    context.filterMap contextItem? = (present context).map item := by
  induction context with
  | nil => rfl
  | cons entry rest ih =>
    rw [List.filterMap_cons, contextItem?_eq, present_cons, ih]
    by_cases hasValue : isPresent entry = true
    · rw [if_pos hasValue, if_pos hasValue, List.map_cons]
    · rw [if_neg hasValue, if_neg hasValue]

theorem present_present (context : Fields) : present (present context) = present context := by
  simp [present]

theorem dueText_present (message : String) (context : Fields) :
    dueText message (present context) = dueText message context := by
  rw [dueText, dueText, present_present]

theorem isHollow_present (context : Fields) : isHollow (present context) = false := by
  rw [isHollow, present_present, Bool.not_and_self]

/-- The brackets are opened by what is given, and filled with what has a value. -/
theorem errorText_eq (message : String) (context : Fields) : errorText message context =
    dueText message context ++ if isHollow context then " ()" else "" := by
  rw [errorText, dueText, isHollow, filterMap_contextItem?]
  cases given : context.isEmpty with
  | true =>
    rw [List.isEmpty_iff.mp given]
    simp [present]
  | false =>
    cases nonePresent : (present context).isEmpty with
    | true =>
      rw [List.isEmpty_iff.mp nonePresent]
      simp [String.append_assoc]
    | false => simp [String.append_assoc]

example : errorText "Failed to connect" [("a", .int 0), ("b", .null), ("c", .bool false)] =
    "Error: Failed to connect (a=0, c=False)" := by decide

theorem isWritable_of_not_isPresent {entry : String × Value} (noValue : isPresent entry = false) :
    isWritable [entry] = true := by
  obtain ⟨name, value⟩ := entry
  cases value with
  | null => rfl
  | _ => contradiction

theorem isWritable_cons (entry : String × Value) (rest : Fields) :
    isWritable (entry :: rest) = (isWritable [entry] && isWritable rest) := by
  simp [isWritable]

theorem isWritable_present (context : Fields) :
    isWritable (present context) = isWritable context := by
  induction context with
  | nil => rfl
  | cons entry rest ih =>
    rw [present_cons, isWritable_cons entry rest]
    cases hasValue : isPresent entry with
    | true => rw [if_pos rfl, isWritable_cons, ih]
    | false =>
      rw [if_neg Bool.false_ne_true, ih, isWritable_of_not_isPresent hasValue, Bool.true_and]

theorem isWritable_of_isHollow (hollow : isHollow context = true) : isWritable context = true := by
  obtain ⟨_, nonePresent⟩ := Bool.and_eq_true_iff.mp hollow
  rw [← isWritable_present, List.isEmpty_iff.mp nonePresent]
  rfl

theorem error_present (solid : isHollow context = false) :
    error message (present context) = error message context := by
  rw [error, error, isWritable_present, errorText_eq, errorText_eq, isHollow_present, solid,
    dueText_present]

theorem intermediate_of_mem_brackets {c : Char} (member : c ∈ " ()".toList) :
    Text.isSequenceIntermediate c = true := by
  rw [show " ()".toList = [' ', '(', ')'] from rfl] at member
  simp only [List.mem_cons, List.not_mem_nil, or_false] at member
  rcases member with rfl | rfl | rfl <;> rfl

/-- What an error shows, up to the end of its line. -/
theorem effects_error (message : String) (context : Fields) : (error message context).effects =
    if isWritable context then
      [.print .diagnostics
        (Text.plain (dueText message context) ++ (if isHollow context then " ()" else "") ++ "\n")]
    else [] := by
  have inner : ∀ c ∈ (if isHollow context then " ()" else "").toList,
      Text.isSequenceIntermediate c = true := by
    intro c member
    split at member
    · exact intermediate_of_mem_brackets member
    · exact absurd member List.not_mem_nil
  rw [error, errorText_eq]
  split
  · rw [← Text.plain_append inner]
    rfl
  · rfl

/-- Empty brackets are seen: control sequences in front do not take them up. -/
theorem effects_error_ne (hollow : isHollow context = true) :
    (error message context).effects ≠ (error message (present context)).effects := by
  rw [effects_error, effects_error, isWritable_present, isWritable_of_isHollow hollow, hollow,
    isHollow_present, dueText_present]
  intro same
  -- both lines are written, and they differ in length
  simp only [if_true, Bool.false_eq_true, if_false, List.cons.injEq, Effect.print.injEq,
    true_and, and_true] at same
  have lengths := congrArg String.length same
  simp only [String.length_append] at lengths
  have brackets : " ()".length = 3 := rfl
  have nothing : "".length = 0 := rfl
  omega

theorem effects_errorExit (message : String) (code : ExitCode) (context : Fields) :
    (errorExit message code context).effects = (error message context).effects := by
  rw [errorExit, error]
  split <;> rfl

theorem error_present_iff (message : String) (context : Fields) :
    error message context = error message (present context) ↔ isHollow context = false := by
  constructor
  · intro same
    apply Bool.eq_false_iff.mpr
    intro hollow
    exact effects_error_ne hollow (congrArg Run.effects same)
  · intro solid
    exact (error_present solid).symm

theorem errorExit_present_iff (message : String) (code : ExitCode) (context : Fields) :
    errorExit message code context = errorExit message code (present context) ↔
      isHollow context = false := by
  constructor
  · intro same
    apply Bool.eq_false_iff.mpr
    intro hollow
    have effects := congrArg Run.effects same
    rw [effects_errorExit, effects_errorExit] at effects
    exact effects_error_ne hollow effects
  · intro solid
    rw [errorExit, errorExit, error_present solid]

/-- Entries without a value make no difference to an error if there is another entry or none at all.
A context of nothing but such entries puts empty brackets behind the message. -/
theorem valueless_entries_untold_iff (message : String) (code : ExitCode) (context : Fields) :
    (error message context = error message (present context) ↔
      context = [] ∨ ∃ entry ∈ context, entry.2 ≠ .null) ∧
    (errorExit message code context = errorExit message code (present context) ↔
      context = [] ∨ ∃ entry ∈ context, entry.2 ≠ .null) ∧
    errorText message context =
      dueText message context ++ (if isHollow context then " ()" else "") ∧
    (error message context).effects =
      (if isWritable context then
        [.print .diagnostics (Text.plain (errorText message context) ++ "\n")]
      else []) ∧
    (errorExit message code context).effects = (error message context).effects := by
  refine ⟨?_, ?_, errorText_eq message context, ?_, effects_errorExit message code context⟩
  · rw [error_present_iff, isHollow_eq_false_iff]
  · rw [errorExit_present_iff, isHollow_eq_false_iff]
  · rw [error]
    split <;> rfl

/-- The brackets of a single entry without a value. -/
theorem valueless_entry_opens_brackets :
    errorText "Failed to connect" [("only", .null)] = "Error: Failed to connect ()" ∧
      errorText "Failed to connect" (present [("only", .null)]) = "Error: Failed to connect" ∧
      error "Failed to connect" [("only", .null)] ≠
        error "Failed to connect" (present [("only", .null)]) := by
  refine ⟨by decide, by decide, ?_⟩
  intro same
  exact effects_error_ne rfl (congrArg Run.effects same)

end Cli.Notice
end VersionGate
