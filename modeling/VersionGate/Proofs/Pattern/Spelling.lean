import Mathlib.Data.List.Basic
import VersionGate.Text.Pattern

/-! The texts that a pattern spells, by one rule for each kind of pattern, and the rules read
backwards. Nothing here depends on the order in which alternatives are tried. -/
namespace VersionGate.Text.Pattern
variable {Name : Type}

/-- The texts of a pattern, with the parts they name. -/
inductive Spells : Pattern Name → List Char → Groups Name → Prop where
  | character : accepts c = true → Spells (.character accepts) [c] []
  | nothing : Spells .nothing [] []
  | sequence : Spells first s gs → Spells second t hs →
      Spells (.sequence first second) (s ++ t) (gs ++ hs)
  | first : Spells first s gs → Spells (.either first second) s gs
  | second : Spells second s gs → Spells (.either first second) s gs
  | stop : Spells (.many part) [] []
  | round : s ≠ [] → Spells part s gs → Spells (.many part) t hs →
      Spells (.many part) (s ++ t) (gs ++ hs)
  | named : Spells part s gs → Spells (.named name part) s (gs ++ [(name, s)])

@[simp] theorem spells_character {accepts : Char → Bool} :
    Spells (.character accepts : Pattern Name) text groups ↔
      (∃ c, accepts c = true ∧ text = [c]) ∧ groups = [] := by
  constructor
  · rintro (accepted | _)
    exact ⟨⟨_, accepted, rfl⟩, rfl⟩
  · rintro ⟨⟨c, accepted, rfl⟩, rfl⟩
    exact .character accepted

@[simp] theorem spells_exactly : Spells (.exactly c : Pattern Name) text groups ↔
    text = [c] ∧ groups = [] := by
  simp [exactly, spells_character]

@[simp] theorem spells_sequence {first second : Pattern Name} :
    Spells (.sequence first second) text groups ↔ ∃ s t gs hs, text = s ++ t ∧
      groups = gs ++ hs ∧ Spells first s gs ∧ Spells second t hs := by
  constructor
  · intro spelt
    cases spelt with
    | sequence spelt₁ spelt₂ => exact ⟨_, _, _, _, rfl, rfl, spelt₁, spelt₂⟩
  · rintro ⟨s, t, gs, hs, rfl, rfl, spelt₁, spelt₂⟩
    exact .sequence spelt₁ spelt₂

@[simp] theorem spells_either {first second : Pattern Name} :
    Spells (.either first second) text groups ↔
      Spells first text groups ∨ Spells second text groups := by
  constructor
  · rintro (_ | _ | _ | spelt | spelt)
    · exact .inl spelt
    · exact .inr spelt
  · rintro (spelt | spelt)
    · exact .first spelt
    · exact .second spelt

@[simp] theorem spells_named {part : Pattern Name} : Spells (.named name part) text groups ↔
    ∃ gs, Spells part text gs ∧ groups = gs ++ [(name, text)] := by
  constructor
  · intro spelt
    cases spelt with
    | named spelt => exact ⟨_, spelt, rfl⟩
  · rintro ⟨gs, spelt, rfl⟩
    exact .named spelt

@[simp] theorem spells_optional {part : Pattern Name} : Spells (.optional part) text groups ↔
    Spells part text groups ∨ text = [] ∧ groups = [] := by
  rw [Pattern.optional, spells_either]
  refine or_congr_right ⟨?_, ?_⟩
  · intro spelt
    cases spelt
    exact ⟨rfl, rfl⟩
  · rintro ⟨rfl, rfl⟩
    exact .nothing

/-- A pattern without named parts that spells the texts of a rule. -/
def Stands (p : Pattern Name) (Rule : List Char → Prop) : Prop :=
  ∀ text groups, Spells p text groups ↔ Rule text ∧ groups = []

/-- Rounds that cover nothing are left out, which changes no text. -/
theorem Stands.many {p : Pattern Name} (stands : Stands p Rule) :
    Stands (.many p) fun text => ∃ parts : List (List Char), text = parts.flatten ∧
      ∀ part ∈ parts, part ≠ [] ∧ Rule part := by
  intro text groups
  constructor
  · intro spelt
    generalize manyEq : Pattern.many p = q at spelt
    induction spelt with
    | stop => exact ⟨⟨[], rfl, by simp⟩, rfl⟩
    | @round s _ gs t hs someText first _ _ ih =>
      cases manyEq
      obtain ⟨rule, rfl⟩ := (stands s gs).mp first
      obtain ⟨⟨parts, rfl, rules⟩, rfl⟩ := ih rfl
      exact ⟨⟨s :: parts, rfl, List.forall_mem_cons.mpr ⟨⟨someText, rule⟩, rules⟩⟩, rfl⟩
    | _ => contradiction
  · rintro ⟨⟨parts, rfl, rules⟩, rfl⟩
    induction parts with
    | nil => exact .stop
    | cons part parts ih =>
      obtain ⟨⟨someText, rule⟩, others⟩ := List.forall_mem_cons.mp rules
      exact .round someText ((stands part []).mpr ⟨rule, rfl⟩) (ih others)

theorem Stands.sequence {p q : Pattern Name} (first : Stands p First) (second : Stands q Second) :
    Stands (.sequence p q) fun text => ∃ s t, text = s ++ t ∧ First s ∧ Second t := by
  intro text groups
  rw [spells_sequence]
  constructor
  · rintro ⟨s, t, gs, hs, rfl, rfl, spelt₁, spelt₂⟩
    obtain ⟨rule₁, rfl⟩ := (first s gs).mp spelt₁
    obtain ⟨rule₂, rfl⟩ := (second t hs).mp spelt₂
    exact ⟨⟨s, t, rfl, rule₁, rule₂⟩, rfl⟩
  · rintro ⟨⟨s, t, rfl, rule₁, rule₂⟩, rfl⟩
    exact ⟨s, t, [], [], rfl, rfl, (first s []).mpr ⟨rule₁, rfl⟩, (second t []).mpr ⟨rule₂, rfl⟩⟩

theorem Stands.either {p q : Pattern Name} (first : Stands p First) (second : Stands q Second) :
    Stands (.either p q) fun text => First text ∨ Second text := by
  intro text groups
  rw [spells_either, first text groups, second text groups, or_and_right]

theorem Stands.congr {p : Pattern Name} (stands : Stands p Rule)
    (same : ∀ text, Rule text ↔ Other text) : Stands p Other :=
  fun text groups => (stands text groups).trans (and_congr_left fun _ => same text)

theorem stands_exactly (c : Char) : Stands (.exactly c : Pattern Name) fun text => text = [c] :=
  fun _ _ => spells_exactly

theorem stands_character (accepts : Char → Bool) :
    Stands (.character accepts : Pattern Name) fun text => ∃ c, accepts c = true ∧ text = [c] :=
  fun _ _ => spells_character

theorem stands_many_character (accepts : Char → Bool) :
    Stands (.many (.character accepts) : Pattern Name) fun text =>
      ∀ c ∈ text, accepts c = true := by
  refine (stands_character accepts).many.congr fun text => ?_
  constructor
  · rintro ⟨parts, rfl, rules⟩ c member
    obtain ⟨part, partMem, cMem⟩ := List.mem_flatten.mp member
    obtain ⟨_, d, accepted, rfl⟩ := rules part partMem
    obtain rfl := List.mem_singleton.mp cMem
    exact accepted
  · intro accepted
    refine ⟨text.map ([·]), by rw [← List.flatMap_def, List.flatMap_singleton'], ?_⟩
    intro part member
    obtain ⟨c, cMem, rfl⟩ := List.mem_map.mp member
    exact ⟨List.cons_ne_nil c [], c, accepted c cMem, rfl⟩

end VersionGate.Text.Pattern
