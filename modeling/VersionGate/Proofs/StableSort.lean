import Mathlib.Data.Finset.Card
import Mathlib.Data.List.Forall2
import Mathlib.Order.Lattice

/-! Lists sorted by a key. The sort is stable, so its result is known up to the keys from what is in
the list, and within one key from the list itself. From that follow its first element, its result on
another arrangement, and how many keys there are. -/
namespace VersionGate.StableSort
variable {α β : Type} [LinearOrder β] {key : α → β} {l : List α}

def sortBy (key : α → β) (l : List α) : List α := l.mergeSort fun a b => decide (key a ≤ key b)

theorem sortBy_perm (key : α → β) (l : List α) : (sortBy key l).Perm l := List.mergeSort_perm l _

theorem le_trans_decide (a b c : α) : decide (key a ≤ key b) = true →
    decide (key b ≤ key c) = true → decide (key a ≤ key c) = true := by
  simpa using le_trans

theorem le_total_decide (a b : α) : (decide (key a ≤ key b) || decide (key b ≤ key a)) = true := by
  simpa using le_total _ _

theorem pairwise_sortBy (key : α → β) (l : List α) :
    (sortBy key l).Pairwise fun a b => key a ≤ key b :=
  (List.pairwise_mergeSort le_trans_decide le_total_decide l).imp of_decide_eq_true

/-- Elements of one key are in any order already, so that they stay as they are. -/
theorem filter_sortBy (key : α → β) (l : List α) (k : β) :
    (sortBy key l).filter (key · = k) = l.filter (key · = k) := by
  have alike : (l.filter (key · = k)).Pairwise fun a b => decide (key a ≤ key b) = true := by
    refine List.pairwise_of_forall_mem_list fun a aMem b bMem => ?_
    have aKey : key a = k := by simpa using (List.mem_filter.mp aMem).2
    have bKey : key b = k := by simpa using (List.mem_filter.mp bMem).2
    exact decide_eq_true (aKey.trans bKey.symm).le
  have kept : (l.filter (key · = k)).Sublist (sortBy key l) :=
    List.sublist_mergeSort le_trans_decide le_total_decide alike List.filter_sublist
  have within := kept.filter (key · = k)
  rw [List.filter_filter] at within
  simp only [Bool.and_self] at within
  exact (within.eq_of_length ((sortBy_perm key l).filter _).length_eq.symm).symm

/-- What is sorted by its keys is determined by them, whatever the arrangement was before. -/
theorem map_eq_of_perm {l₁ l₂ : List α} (perm : l₁.Perm l₂)
    (first : l₁.Pairwise fun a b => key a ≤ key b) (second : l₂.Pairwise fun a b => key a ≤ key b) :
    l₁.map key = l₂.map key :=
  List.Perm.eq_of_pairwise (fun _ _ _ _ => le_antisymm) (List.pairwise_map.mpr first)
    (List.pairwise_map.mpr second) (perm.map key)

/-- The first element with the least key. -/
structure IsFirstLeast (key : α → β) (l : List α) (a : α) : Prop where
  le : ∀ b ∈ l, key a ≤ key b
  first : l.find? (key · = key a) = some a

theorem IsFirstLeast.mem {a : α} (least : IsFirstLeast key l a) : a ∈ l :=
  List.mem_of_find?_eq_some least.first

theorem IsFirstLeast.unique {a b : α} (first : IsFirstLeast key l a)
    (second : IsFirstLeast key l b) : a = b := by
  have same : key a = key b := le_antisymm (first.le b second.mem) (second.le a first.mem)
  have found := first.first
  rw [same, second.first] at found
  exact (Option.some.inj found).symm

/-- An element takes the place of the best so far only if its key is less. -/
theorem isFirstLeast_foldl (key : α → β) (a : α) (l : List α) : IsFirstLeast key (a :: l)
    (l.foldl (fun best next => if key next < key best then next else best) a) := by
  induction l generalizing a with
  | nil => exact ⟨by simp, by simp⟩
  | cons next rest ih =>
    rw [List.foldl_cons]
    split
    · rename_i lower
      obtain ⟨le, first⟩ := ih next
      have below := (le next List.mem_cons_self).trans_lt lower
      refine ⟨List.forall_mem_cons.mpr ⟨below.le, le⟩, ?_⟩
      rw [List.find?_cons_of_neg (by simpa using below.ne'), first]
    · rename_i notLower
      obtain ⟨le, first⟩ := ih a
      obtain ⟨aLe, restLe⟩ := List.forall_mem_cons.mp le
      have nextLe := aLe.trans (not_lt.mp notLower)
      refine ⟨List.forall_mem_cons.mpr ⟨aLe, List.forall_mem_cons.mpr ⟨nextLe, restLe⟩⟩, ?_⟩
      by_cases own : key a = key (rest.foldl (fun best next =>
          if key next < key best then next else best) a)
      · rw [List.find?_cons_of_pos (by simpa using own)] at first ⊢
        exact first
      · have nextAbove := (aLe.lt_of_ne' own).trans_le (not_lt.mp notLower)
        rw [List.find?_cons_of_neg (by simpa using own)] at first ⊢
        rw [List.find?_cons_of_neg (by simpa using nextAbove.ne'), first]

theorem isFirstLeast_of_sortBy {a : α} {rest : List α} (starts : sortBy key l = a :: rest) :
    IsFirstLeast key l a := by
  have ordered := pairwise_sortBy key l
  rw [starts, List.pairwise_cons] at ordered
  refine ⟨fun b member => ?_, ?_⟩
  · rw [← (sortBy_perm key l).mem_iff, starts] at member
    rcases List.mem_cons.mp member with rfl | later
    · exact le_rfl
    · exact ordered.1 b later
  · rw [← List.head?_filter, ← filter_sortBy, starts, List.filter_cons_of_pos (by simp),
      List.head?_cons]

theorem head?_sortBy_cons (key : α → β) (a : α) (l : List α) : (sortBy key (a :: l)).head? =
    some (l.foldl (fun best next => if key next < key best then next else best) a) := by
  cases starts : sortBy key (a :: l) with
  | nil =>
    have perm := sortBy_perm key (a :: l)
    rw [starts] at perm
    exact absurd perm.nil_eq (by simp)
  | cons first rest =>
    exact congrArg some ((isFirstLeast_of_sortBy starts).unique (isFirstLeast_foldl key a l))

/-- Behind the first key of a sorted list, a key is new exactly if it is above the one before. -/
theorem card_keys_of_pairwise (ordered : l.Pairwise fun a b => key a ≤ key b)
    (someElement : l ≠ []) : (l.map key).toFinset.card =
      ((l.zip l.tail).countP fun pair => decide (key pair.1 < key pair.2)) + 1 := by
  induction l with
  | nil => contradiction
  | cons a rest ih =>
    obtain ⟨aLe, restOrdered⟩ := List.pairwise_cons.mp ordered
    cases rest with
    | nil => rfl
    | cons b rest =>
      have counted := ih restOrdered (List.cons_ne_nil b rest)
      rw [List.map_cons, List.toFinset_cons, List.tail_cons, List.zip_cons_cons, List.countP_cons]
      by_cases lower : key a < key b
      · have new : key a ∉ ((b :: rest).map key).toFinset := by
          rw [List.mem_toFinset, List.mem_map]
          rintro ⟨c, member, same⟩
          rcases List.mem_cons.mp member with rfl | later
          · exact lower.ne' same
          · exact (lower.trans_le ((List.pairwise_cons.mp restOrdered).1 c later)).ne' same
        rw [Finset.card_insert_of_notMem new, counted, if_pos (decide_eq_true lower)]
        rfl
      · have same : key a = key b := le_antisymm (aLe b List.mem_cons_self) (not_lt.mp lower)
        have known : key a ∈ ((b :: rest).map key).toFinset := by simp [same]
        rw [Finset.insert_eq_of_mem known, counted, if_neg (by simpa using not_lt.mp lower)]
        rfl

/-- As many values in one list as in another, if they fall together in the one as in the other. -/
theorem card_toFinset_congr {γ δ ε ζ : Type} [DecidableEq ε] [DecidableEq ζ] {R : γ → δ → Prop}
    {f : γ → ε} {g : δ → ζ} {l : List γ} {l' : List δ}
    (agree : ∀ {c d c' d'}, R c d → R c' d' → (f c = f c' ↔ g d = g d'))
    (related : List.Forall₂ R l l') :
    (l.map f).toFinset.card = (l'.map g).toFinset.card := by
  have memIff {c : γ} {d : δ} (first : R c d) {l : List γ} {l' : List δ}
      (related : List.Forall₂ R l l') : f c ∈ l.map f ↔ g d ∈ l'.map g := by
    induction related with
    | nil => simp
    | cons second _ ih => simp [agree first second, ih]
  induction related with
  | nil => rfl
  | @cons c d l l' first others ih =>
    rw [List.map_cons, List.map_cons, List.toFinset_cons, List.toFinset_cons]
    by_cases known : f c ∈ l.map f
    · rw [Finset.insert_eq_of_mem (List.mem_toFinset.mpr known),
        Finset.insert_eq_of_mem (List.mem_toFinset.mpr ((memIff first others).mp known)), ih]
    · have new : g d ∉ l'.map g := mt (memIff first others).mpr known
      rw [Finset.card_insert_of_notMem (by simpa using known),
        Finset.card_insert_of_notMem (by simpa using new), ih]

end VersionGate.StableSort
