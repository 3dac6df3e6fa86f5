/-! Terminal control sequences: ESC, an opening bracket, parameters, intermediates, one final
character; the three classes are disjoint stretches of ASCII. Text that goes to something other
than a terminal is written without them. -/
namespace VersionGate.Text

/-- Digits, colon, semicolon and the characters from `<` to `?`. -/
def isSequenceParameter (c : Char) : Bool := '0' ≤ c && c ≤ '?'

/-- The blank and the signs from `!` to `/`. -/
def isSequenceIntermediate (c : Char) : Bool := ' ' ≤ c && c ≤ '/'

/-- Letters and the signs among and around them, from `@` to `~`. -/
def isSequenceFinal (c : Char) : Bool := '@' ≤ c && c ≤ '~'

/-- What follows the control sequence that the text, after its ESC, begins with. -/
def afterSequence? : List Char → Option (List Char)
  | '[' :: rest =>
      match (rest.dropWhile isSequenceParameter).dropWhile isSequenceIntermediate with
      | c :: after => if isSequenceFinal c then some after else none
      | [] => none
  | _ => none

theorem length_afterSequence?_lt {text after : List Char}
    (found : afterSequence? text = some after) : after.length < text.length := by
  unfold afterSequence? at found
  split at found
  · rename_i rest
    have shorter := Nat.le_trans
      (List.dropWhile_suffix isSequenceIntermediate
        (l := rest.dropWhile isSequenceParameter)).length_le
      (List.dropWhile_suffix isSequenceParameter (l := rest)).length_le
    split at found
    · rename_i c tail parts
      rw [parts] at shorter
      simp at found
      simp only [List.length_cons] at shorter ⊢
      obtain ⟨_, rfl⟩ := found
      omega
    · simp at found
  · simp at found

/-- The text without its control sequences; an ESC that begins none is kept. -/
def withoutSequences : List Char → List Char
  | [] => []
  | c :: rest =>
      if c = '\x1b' then
        match _found : afterSequence? rest with
        | some after => withoutSequences after
        | none => c :: withoutSequences rest
      else c :: withoutSequences rest
termination_by text => text.length
decreasing_by
  · have := length_afterSequence?_lt _found
    simp only [List.length_cons]
    omega
  all_goals simp

theorem withoutSequences_of_some {rest after : List Char}
    (found : afterSequence? rest = some after) :
    withoutSequences ('\x1b' :: rest) = withoutSequences after := by
  rw [withoutSequences, if_pos rfl]
  split
  · rename_i foundHere
    rw [Option.some.inj (foundHere.symm.trans found)]
  · rename_i missing
    rw [found] at missing
    contradiction

theorem withoutSequences_of_none {rest : List Char} (missing : afterSequence? rest = none) :
    withoutSequences ('\x1b' :: rest) = '\x1b' :: withoutSequences rest := by
  rw [withoutSequences, if_pos rfl]
  split
  · rename_i found
    rw [missing] at found
    contradiction
  · rfl

theorem withoutSequences_eq_self {text : List Char} (noneStarts : '\x1b' ∉ text) :
    withoutSequences text = text := by
  induction text with
  | nil => rw [withoutSequences]
  | cons c rest ih =>
    have apart : c ≠ '\x1b' := fun same => noneStarts (same ▸ List.mem_cons_self)
    have restFree : '\x1b' ∉ rest := fun member => noneStarts (List.mem_cons_of_mem _ member)
    rw [withoutSequences, if_neg apart, ih restFree]

def plain (text : String) : String := String.ofList (withoutSequences text.toList)

end VersionGate.Text
