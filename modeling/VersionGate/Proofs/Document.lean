import Mathlib.Tactic.SplitIfs
import VersionGate.Proofs.ControlFree
import VersionGate.Value.Reader

/-! Objects of flat values as JSON, written and read back. A character is read by the codes that it
is written by, a string by those of its characters, and an object by its entries. Nothing else is in
the document, and no control sequence either: its only controls are the ends of its lines. -/
namespace VersionGate.Value

/-- The values that are a single word or a single string. -/
inductive IsFlat : Value → Prop where
  | null : IsFlat .null
  | bool : IsFlat (.bool b)
  | text : IsFlat (.text s)

theorem isFlat_ofText? (text : Option String) : IsFlat (ofText? text) := by
  cases text with
  | none => exact .null
  | some _ => exact .text

/-- The codes that a written character is read as: its own, or those of two surrogates. -/
def codes (c : Char) : List Nat :=
  if c.toNat < 0x10000 then [c.toNat]
  else [0xd800 + (c.toNat - 0x10000) / 0x400, 0xdc00 + (c.toNat - 0x10000) % 0x400]

theorem hexValue?_digitChar : ∀ k < 16, hexValue? (Nat.digitChar k) = some k := by decide

theorem unit?_hexDigits (small : n < 0x10000) :
    unit? (Nat.digitChar (n / 16 / 16 / 16 % 16)) (Nat.digitChar (n / 16 / 16 % 16))
      (Nat.digitChar (n / 16 % 16)) (Nat.digitChar (n % 16)) = some n := by
  have digit (k : Nat) : hexValue? (Nat.digitChar (k % 16)) = some (k % 16) :=
    hexValue?_digitChar _ (Nat.mod_lt _ (by decide))
  have value : ((n / 16 / 16 / 16 % 16 * 16 + n / 16 / 16 % 16) * 16 + n / 16 % 16) * 16 + n % 16
      = n := by omega
  simp only [unit?, digit, Option.bind_eq_bind, Option.bind_some, Option.pure_def, value]

theorem stringCodes_jsonUnit (small : n < 0x10000)
    (read : stringCodes rest = some (others, after)) :
    stringCodes (jsonUnit n ++ rest) = some (n :: others, after) := by
  simp only [jsonUnit, Text.hexDigits, List.nil_append, List.cons_append]
  rw [stringCodes, if_neg (by decide), if_pos rfl]
  simp only [unit?_hexDigits small, read, before, Option.map_some]

theorem stringCodes_escape (escape : escaped? letter = some c) (other : letter ≠ 'u')
    (read : stringCodes rest = some (others, after)) :
    stringCodes ('\\' :: letter :: rest) = some (c.toNat :: others, after) := by
  rw [stringCodes, if_neg (by decide), if_pos rfl]
  · simp only [escape, read, before, Option.map_some]
  · exact fun _ _ _ _ _ same _ => other same

theorem stringCodes_plain (noQuote : c ≠ '"') (noEscape : c ≠ '\\') (shown : 0x20 ≤ c.toNat)
    (read : stringCodes rest = some (others, after)) :
    stringCodes (c :: rest) = some (c.toNat :: others, after) := by
  unfold stringCodes
  rw [if_neg noQuote, if_neg noEscape, if_neg (Nat.not_lt.mpr shown), read]
  rfl

theorem stringCodes_quote (rest : List Char) : stringCodes ('"' :: rest) = some ([], rest) := by
  unfold stringCodes
  exact if_pos rfl

theorem isScalar (c : Char) : c.toNat < 0xd800 ∨ 0xdfff < c.toNat ∧ c.toNat < 0x110000 := c.valid

theorem codes_of_lt (small : c.toNat < 0x10000) : codes c = [c.toNat] := if_pos small

/-- What is written for a character is read as its codes, whatever stands behind it. -/
theorem stringCodes_jsonChar (c : Char) (read : stringCodes rest = some (others, after)) :
    stringCodes (jsonChar c ++ rest) = some (codes c ++ others, after) := by
  have short {letter : Char} (small : c.toNat < 0x10000) (escape : escaped? letter = some c)
      (other : letter ≠ 'u') :
      stringCodes ('\\' :: letter :: rest) = some (codes c ++ others, after) := by
    rw [stringCodes_escape escape other read, codes_of_lt small]
    rfl
  rw [jsonChar]
  split_ifs with mark newline carriage tab backspace feed shown
  · rcases mark with rfl | rfl
    · exact short (by decide) rfl (by decide)
    · exact short (by decide) rfl (by decide)
  · subst newline
    exact short (by decide) rfl (by decide)
  · subst carriage
    exact short (by decide) rfl (by decide)
  · subst tab
    exact short (by decide) rfl (by decide)
  · subst backspace
    exact short (by decide) rfl (by decide)
  · subst feed
    exact short (by decide) rfl (by decide)
  · rw [not_or] at mark
    rw [codes_of_lt (by omega)]
    exact stringCodes_plain mark.1 mark.2 shown.1 read
  · have valid := isScalar c
    rw [jsonUnits, codes]
    split_ifs with small
    · exact stringCodes_jsonUnit small read
    · rw [List.append_assoc]
      exact stringCodes_jsonUnit (by omega) (stringCodes_jsonUnit (by omega) read)

theorem stringCodes_jsonChars (text rest : List Char) :
    stringCodes (text.flatMap jsonChar ++ '"' :: rest) = some (text.flatMap codes, rest) := by
  induction text with
  | nil => exact stringCodes_quote rest
  | cons c text ih =>
    rw [List.flatMap_cons, List.append_assoc, stringCodes_jsonChar c ih, List.flatMap_cons]

theorem character?_toNat (c : Char) : character? c.toNat = some c := by
  have valid : c.toNat.isValidChar := c.valid
  rw [character?, dif_pos valid]
  rfl

theorem characters?_codes (c : Char) (read : characters? others = some chars) :
    characters? (codes c ++ others) = some (c :: chars) := by
  have valid := isScalar c
  rw [codes]
  split_ifs with small
  · -- a code below the surrogates, or above them, is never taken for half of a character
    have notHigh : isHighSurrogate c.toNat = false := by
      simp only [isHighSurrogate, Bool.and_eq_false_iff, decide_eq_false_iff_not]
      omega
    cases others with
    | nil =>
      obtain rfl := Option.some.inj read
      rw [List.singleton_append, characters?, character?_toNat]
      rfl
    | cons next others =>
      rw [List.singleton_append, characters?, notHigh, Bool.false_and, if_neg Bool.false_ne_true,
        character?_toNat, read]
      rfl
  · have surrogates : isHighSurrogate (0xd800 + (c.toNat - 0x10000) / 0x400) = true ∧
        isLowSurrogate (0xdc00 + (c.toNat - 0x10000) % 0x400) = true := by
      simp only [isHighSurrogate, isLowSurrogate, Bool.and_eq_true, decide_eq_true_eq]
      omega
    have code : 0x10000 + (0xd800 + (c.toNat - 0x10000) / 0x400 - 0xd800) * 0x400
        + (0xdc00 + (c.toNat - 0x10000) % 0x400 - 0xdc00) = c.toNat := by omega
    rw [List.cons_append, List.singleton_append, characters?, surrogates.1, surrogates.2,
      Bool.and_self, if_pos rfl, code, character?_toNat, read]
    rfl

theorem characters?_flatMap_codes (text : List Char) :
    characters? (text.flatMap codes) = some text := by
  induction text with
  | nil => rfl
  | cons c text ih => rw [List.flatMap_cons, characters?_codes c ih]

theorem readString_jsonChars (text rest : List Char) :
    readString (text.flatMap jsonChar ++ '"' :: rest) = some (String.ofList text, rest) := by
  rw [readString, stringCodes_jsonChars]
  simp only [Option.bind_eq_bind, Option.bind_some, characters?_flatMap_codes, Option.pure_def]

theorem jsonString_append (text rest : List Char) :
    jsonString text ++ rest = '"' :: (text.flatMap jsonChar ++ '"' :: rest) := by
  simp [jsonString]

theorem skipBlanks_of_blank (blank : isBlank c = true) (rest : List Char) :
    skipBlanks (c :: rest) = skipBlanks rest := List.dropWhile_cons_of_pos blank

theorem skipBlanks_of_shown (shown : ¬ isBlank c = true) (rest : List Char) :
    skipBlanks (c :: rest) = c :: rest := List.dropWhile_cons_of_neg shown

theorem readValue_of_blank (bound : Nat) (rest : List Char) :
    readValue bound (' ' :: rest) = readValue bound rest := by
  cases bound with
  | zero => rfl
  | succ bound => rw [readValue, readValue, skipBlanks_of_blank rfl]

/-- A flat value is read up to its end and no further, so anything may stand behind it. -/
theorem readValue_jsonChars (flat : IsFlat value) (bound : Nat) (rest : List Char) :
    readValue (bound + 1) (jsonChars value ++ rest) = some (value, rest) := by
  cases flat with
  | null => rfl
  | @bool b => cases b <;> rfl
  | @text s =>
    rw [jsonChars, jsonString_append, readValue, skipBlanks_of_shown (by decide)]
    simp only [readString_jsonChars, Option.map_some, String.ofList_toList]

/-- An entry on a line of its own, up to what stands behind it. -/
def lineChars (name : String) (value : Value) : List Char :=
  "\n  ".toList ++ jsonString name.toList ++ ": ".toList ++ jsonChars value

theorem skipBlanks_lineChars (name : String) (value : Value) (rest : List Char) :
    skipBlanks (lineChars name value ++ rest) = '"' ::
      (name.toList.flatMap jsonChar ++ '"' :: ':' :: ' ' :: (jsonChars value ++ rest)) := by
  have chars : lineChars name value ++ rest = '\n' :: ' ' :: ' ' :: '"' ::
      (name.toList.flatMap jsonChar ++ '"' :: ':' :: ' ' :: (jsonChars value ++ rest)) := by
    simp [lineChars, jsonString]
  rw [chars]
  rfl

/-- A comma behind an entry says that there are others. -/
theorem readEntries_line_of_comma (name : String) (flat : IsFlat value)
    (read : readEntries (bound + 1) rest = some (others, after)) :
    readEntries (bound + 2) (lineChars name value ++ ',' :: rest) =
      some ((name, value) :: others, after) := by
  rw [readEntries, skipBlanks_lineChars]
  simp only [readString_jsonChars, String.ofList_toList, skipBlanks_of_shown (c := ':') (by decide),
    readValue_of_blank, readValue_jsonChars flat, skipBlanks_of_shown (c := ',') (by decide), read,
    Option.bind_eq_bind, Option.bind_some, Option.pure_def]

theorem readEntries_line_of_brace (name : String) (flat : IsFlat value) (bound : Nat)
    (rest : List Char) : readEntries (bound + 2) (lineChars name value ++ '\n' :: '\x7d' :: rest) =
      some ([(name, value)], rest) := by
  rw [readEntries, skipBlanks_lineChars]
  simp only [readString_jsonChars, String.ofList_toList, skipBlanks_of_shown (c := ':') (by decide),
    readValue_of_blank, readValue_jsonChars flat, skipBlanks_of_blank (c := '\n') rfl,
    skipBlanks_of_shown (c := '\x7d') (by decide), Option.bind_eq_bind, Option.bind_some,
    Option.pure_def]

theorem jsonLineEntries_cons (name : String) (value : Value) (next : String × Value)
    (rest : Fields) : jsonLineEntries ((name, value) :: next :: rest) =
      lineChars name value ++ ',' :: jsonLineEntries (next :: rest) := rfl

/-- Entries are read up to the closing brace within any bound above their number. -/
theorem readEntries_jsonLineEntries {fields : Fields} (someField : fields ≠ [])
    (flat : ∀ entry ∈ fields, entry.2.IsFlat) (enough : fields.length < bound) (rest : List Char) :
    readEntries bound (jsonLineEntries fields ++ '\n' :: '\x7d' :: rest) = some (fields, rest) := by
  induction fields generalizing bound with
  | nil => contradiction
  | cons entry fields ih =>
    obtain ⟨name, value⟩ := entry
    obtain ⟨first, others⟩ := List.forall_mem_cons.mp flat
    obtain ⟨bound, rfl⟩ : ∃ k, bound = k + 2 := ⟨bound - 2, by
      simp only [List.length_cons] at enough
      omega⟩
    cases fields with
    | nil => exact readEntries_line_of_brace name first bound rest
    | cons next fields =>
      have fewer : (next :: fields).length < bound + 1 := Nat.lt_of_succ_lt_succ enough
      rw [jsonLineEntries_cons, List.append_assoc]
      exact readEntries_line_of_comma name first (ih (List.cons_ne_nil _ _) others fewer)

theorem length_le_jsonLineEntries (fields : Fields) :
    fields.length ≤ (jsonLineEntries fields).length := by
  induction fields with
  | nil => exact Nat.le_refl 0
  | cons entry fields ih =>
    cases fields with
    | nil => exact Nat.succ_le_succ (Nat.zero_le _)
    | cons next fields =>
      obtain ⟨name, value⟩ := entry
      simp only [jsonLineEntries_cons, List.length_append, List.length_cons] at ih ⊢
      omega

/-- The first entry keeps an object from being taken for an empty one. -/
theorem skipBlanks_jsonLineEntries {fields : Fields} (someField : fields ≠ []) (rest : List Char) :
    ∃ tail, skipBlanks (jsonLineEntries fields ++ rest) = '"' :: tail := by
  match fields with
  | [(name, value)] => exact ⟨_, skipBlanks_lineChars name value rest⟩
  | (name, value) :: next :: fields =>
    rw [jsonLineEntries_cons, List.append_assoc]
    exact ⟨_, skipBlanks_lineChars name value _⟩

/-- The document of an object is read as that object, its line end included. -/
theorem ofJson?_jsonLines {fields : Fields} (flat : ∀ entry ∈ fields, entry.2.IsFlat) :
    ofJson? (jsonLines fields ++ "\n") = some (.object fields) := by
  have chars : (jsonLines fields ++ "\n").toList =
      '\x7b' :: (jsonLineEntries fields ++ '\n' :: '\x7d' :: ['\n']) := by
    simp [jsonLines]
  have enough : fields.length < (jsonLines fields ++ "\n").length := by
    have entries := length_le_jsonLineEntries fields
    rw [← String.length_toList, chars, List.length_cons, List.length_append]
    omega
  have read : readValue ((jsonLines fields ++ "\n").length + 1) (jsonLines fields ++ "\n").toList =
      some (.object fields, ['\n']) := by
    rw [chars, readValue, skipBlanks_of_shown (by decide)]
    by_cases noField : fields = []
    · subst noField
      rfl
    · have entries := readEntries_jsonLineEntries noField flat enough ['\n']
      obtain ⟨tail, starts⟩ := skipBlanks_jsonLineEntries noField ('\n' :: '\x7d' :: ['\n'])
      simp only [starts, entries, Option.map_some]
      rfl
  rw [ofJson?, read]
  rfl

open Text (ControlFree controlFree_cons controlFree_append controlFree_escape)

theorem controlFree_jsonUnit (unit : Nat) : ControlFree (jsonUnit unit) :=
  controlFree_escape (by decide) (Text.controlFree_hexDigits _ _)

theorem controlFree_jsonChar (c : Char) : ControlFree (jsonChar c) := by
  have nothing : ControlFree [] := List.forall_mem_nil _
  rw [jsonChar]
  split_ifs with mark _ _ _ _ _ shown
  · rcases mark with rfl | rfl
    · exact controlFree_escape (by decide) nothing
    · exact controlFree_escape (by decide) nothing
  · exact controlFree_escape (by decide) nothing
  · exact controlFree_escape (by decide) nothing
  · exact controlFree_escape (by decide) nothing
  · exact controlFree_escape (by decide) nothing
  · exact controlFree_escape (by decide) nothing
  · refine List.forall_mem_singleton.mpr ?_
    simp only [Text.isControl, Bool.or_eq_false_iff, Bool.and_eq_false_iff, decide_eq_false_iff_not]
    omega
  · rw [jsonUnits]
    split
    · exact controlFree_jsonUnit _
    · exact controlFree_append.mpr ⟨controlFree_jsonUnit _, controlFree_jsonUnit _⟩

theorem controlFree_jsonString (chars : List Char) : ControlFree (jsonString chars) := by
  have inside : ControlFree (chars.flatMap jsonChar) :=
    Text.controlFree_flatMap.mpr fun c _ => controlFree_jsonChar c
  exact controlFree_append.mpr ⟨controlFree_cons.mpr ⟨by decide, inside⟩, by decide⟩

theorem controlFree_jsonChars (flat : IsFlat value) : ControlFree (jsonChars value) := by
  cases flat with
  | null => exact (by decide : ControlFree "null".toList)
  | @bool b =>
    cases b with
    | false => exact (by decide : ControlFree "false".toList)
    | true => exact (by decide : ControlFree "true".toList)
  | text => exact controlFree_jsonString _

theorem escape_not_mem_lineChars (name : String) (flat : IsFlat value) :
    '\x1b' ∉ lineChars name value := by
  have named := (controlFree_jsonString name.toList).escape_not_mem
  have valued := (controlFree_jsonChars flat).escape_not_mem
  simp [lineChars, named, valued]

theorem escape_not_mem_jsonLineEntries {fields : Fields}
    (flat : ∀ entry ∈ fields, entry.2.IsFlat) : '\x1b' ∉ jsonLineEntries fields := by
  induction fields with
  | nil => exact List.not_mem_nil
  | cons entry fields ih =>
    obtain ⟨first, others⟩ := List.forall_mem_cons.mp flat
    have line := escape_not_mem_lineChars entry.1 first
    cases fields with
    | nil => exact line
    | cons next fields =>
      rw [jsonLineEntries_cons, List.mem_append, not_or]
      exact ⟨line, List.not_mem_cons_of_ne_of_not_mem (by decide) (ih others)⟩

/-- A document has controls only at the ends of its lines, so it is written as it is. -/
theorem plain_jsonLines {fields : Fields} (flat : ∀ entry ∈ fields, entry.2.IsFlat) :
    Text.plain (jsonLines fields) = jsonLines fields := by
  refine Text.plain_eq_self ?_
  rw [jsonLines, String.toList_ofList]
  simp [escape_not_mem_jsonLineEntries flat]

end VersionGate.Value
