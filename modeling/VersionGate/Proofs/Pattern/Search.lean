import VersionGate.Proofs.Pattern.Spelling

/-! The search of a pattern against the texts that the pattern spells. Whatever the search finds is
spelt, and where something is spelt the search finds something; which of several spellings it finds
is left open, so a pattern whose texts are spelt in one way only is matched exactly. -/
namespace VersionGate.Text.Pattern
variable {Name : Type}

/-- What a successful search tells: the beginning it matched, and how it went on behind it. -/
def Found (p : Pattern Name) (next : Search Name) (text : List Char) (groups found : Groups Name) :
    Prop :=
  ∃ s rest gs, text = s ++ rest ∧ Spells p s gs ∧ next rest (groups ++ gs) = some found

theorem afterProgress_eq_some {next : Search Name} (s : List Char)
    (foundBy : afterProgress (s ++ rest) next rest groups = some found) :
    s ≠ [] ∧ next rest groups = some found := by
  rw [afterProgress] at foundBy
  split at foundBy
  · rename_i shorter
    refine ⟨?_, foundBy⟩
    rintro rfl
    exact absurd shorter (Nat.lt_irrefl _)
  · contradiction

theorem afterProgress_append {next : Search Name} {s : List Char} (someText : s ≠ []) :
    afterProgress (s ++ rest) next rest groups = next rest groups := by
  have longer : 0 < s.length := List.length_pos_iff.mpr someText
  rw [afterProgress, if_pos (by rw [List.length_append]; omega)]

theorem closing_append (name : Name) (s : List Char) (next : Search Name) :
    closing name (s ++ rest) next rest groups = next rest (groups ++ [(name, s)]) := by
  simp [closing]

theorem rounds_sound {round : Pattern Name}
    (sound : ∀ next text groups found, round.search next text groups = some found →
      Found round next text groups found)
    (foundBy : rounds round.search next n text groups = some found) :
    Found (.many round) next text groups found := by
  induction n generalizing text groups with
  | zero => exact ⟨[], text, [], rfl, .stop, by simpa [rounds] using foundBy⟩
  | succ n ih =>
    rcases Option.or_eq_some_iff.mp foundBy with further | ⟨_, ended⟩
    · obtain ⟨s, rest, gs, rfl, spelt, continued⟩ := sound _ _ _ _ further
      obtain ⟨someText, continued⟩ := afterProgress_eq_some s continued
      obtain ⟨t, rest, hs, rfl, more, ended⟩ := ih continued
      exact ⟨s ++ t, rest, gs ++ hs, (List.append_assoc ..).symm, .round someText spelt more,
        by rwa [← List.append_assoc]⟩
    · exact ⟨[], text, [], rfl, .stop, by rwa [List.append_nil]⟩

theorem search_sound {p : Pattern Name} (foundBy : p.search next text groups = some found) :
    Found p next text groups found := by
  induction p generalizing next text groups found with
  | character accepts =>
    cases text with
    | nil => contradiction
    | cons c rest =>
      simp only [search] at foundBy
      split at foundBy
      · exact ⟨[c], rest, [], rfl, .character ‹_›, by rwa [List.append_nil]⟩
      · contradiction
  | nothing => exact ⟨[], text, [], rfl, .nothing, by rwa [List.append_nil]⟩
  | sequence first second ih₁ ih₂ =>
    obtain ⟨s, rest, gs, rfl, spelt₁, foundBy⟩ := ih₁ foundBy
    obtain ⟨t, rest, hs, rfl, spelt₂, ended⟩ := ih₂ foundBy
    exact ⟨s ++ t, rest, gs ++ hs, (List.append_assoc ..).symm, .sequence spelt₁ spelt₂,
      by rwa [← List.append_assoc]⟩
  | either first second ih₁ ih₂ =>
    rcases Option.or_eq_some_iff.mp foundBy with foundBy | ⟨_, foundBy⟩
    · obtain ⟨s, rest, gs, cut, spelt, ended⟩ := ih₁ foundBy
      exact ⟨s, rest, gs, cut, .first spelt, ended⟩
    · obtain ⟨s, rest, gs, cut, spelt, ended⟩ := ih₂ foundBy
      exact ⟨s, rest, gs, cut, .second spelt, ended⟩
  | many round ih => exact rounds_sound (fun _ _ _ _ => ih) foundBy
  | named name part ih =>
    obtain ⟨s, rest, gs, rfl, spelt, ended⟩ := ih foundBy
    refine ⟨s, rest, gs ++ [(name, s)], rfl, .named spelt, ?_⟩
    rwa [closing_append, List.append_assoc] at ended

theorem rounds_complete {round : Pattern Name}
    (complete : ∀ s gs next rest groups, Spells round s gs →
      (next rest (groups ++ gs)).isSome → (round.search next (s ++ rest) groups).isSome)
    (spelt : Spells (.many round) s gs) (ends : (next rest (groups ++ gs)).isSome)
    (enough : s.length ≤ n) : (rounds round.search next n (s ++ rest) groups).isSome := by
  generalize manyEq : Pattern.many round = p at spelt
  induction spelt generalizing groups n with
  | stop =>
    rw [List.append_nil] at ends
    cases n with
    | zero => exact ends
    | succ n => exact Option.isSome_or.trans (by rw [List.nil_append, ends, Bool.or_true])
  | @round s inner gs t hs someText first more _ ih =>
    cases manyEq
    have longer : 0 < s.length := List.length_pos_iff.mpr someText
    rw [List.length_append] at enough
    obtain ⟨n, rfl⟩ : ∃ m, n = m + 1 := ⟨n - 1, by omega⟩
    rw [List.append_assoc]
    have continued : (rounds round.search next n (t ++ rest) (groups ++ gs)).isSome :=
      ih (by rwa [List.append_assoc]) (by omega) rfl
    have found := complete s gs (afterProgress (s ++ (t ++ rest)) (rounds round.search next n))
      (t ++ rest) groups first (by rwa [afterProgress_append someText])
    exact Option.isSome_or.trans (by rw [found, Bool.true_or])
  | _ => contradiction

theorem search_complete {p : Pattern Name} (spelt : Spells p s gs)
    (ends : (next rest (groups ++ gs)).isSome) : (p.search next (s ++ rest) groups).isSome := by
  induction p generalizing s gs next rest groups with
  | character accepts =>
    cases spelt with
    | character accepted => simpa [search, accepted] using ends
  | nothing =>
    cases spelt
    rwa [List.append_nil] at ends
  | sequence first second ih₁ ih₂ =>
    cases spelt with
    | @sequence _ s gs _ t hs spelt₁ spelt₂ =>
      rw [List.append_assoc]
      rw [← List.append_assoc] at ends
      exact ih₁ spelt₁ (ih₂ spelt₂ ends)
  | either first second ih₁ ih₂ =>
    refine Option.isSome_or.trans ?_
    cases spelt with
    | first spelt => rw [ih₁ spelt ends, Bool.true_or]
    | second spelt => rw [ih₂ spelt ends, Bool.or_true]
  | many round ih =>
    exact rounds_complete (fun _ _ _ _ _ => ih) spelt ends (by simp)
  | named name part ih =>
    cases spelt with
    | @named _ _ gs _ spelt =>
      refine ih spelt ?_
      rwa [closing_append, List.append_assoc]

theorem spells_of_fullMatch {p : Pattern Name} (matched : p.fullMatch text = some groups) :
    Spells p text groups := by
  obtain ⟨s, rest, gs, rfl, spelt, ended⟩ := search_sound matched
  rw [atEnd] at ended
  split at ended
  · rename_i nothingLeft
    rw [List.isEmpty_iff.mp nothingLeft, List.append_nil]
    exact Option.some.inj ended ▸ spelt
  · contradiction

theorem fullMatch_isSome {p : Pattern Name} (spelt : Spells p text groups) :
    (p.fullMatch text).isSome := by
  have found : (p.search atEnd (text ++ []) []).isSome := search_complete spelt rfl
  rwa [List.append_nil] at found

end VersionGate.Text.Pattern
