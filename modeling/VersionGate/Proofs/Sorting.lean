import VersionGate.Proofs.Decoration
import VersionGate.Proofs.StableSort
import VersionGate.Version.Sorting

/-! Sorted versions. Upwards and downwards a list of versions is sorted by their keys, so what is
said of lists sorted by a key holds of both. Versions of the same precedence stay as they were given,
and up to them the result is the same for each arrangement of the list. -/
namespace VersionGate.Version
open StableSort (sortBy)
variable {versions other : List Version}

/-- The versions in an order of theirs: none is lost and none is new, none is behind one that it
comes before, and those of the same precedence are as they were given. -/
structure StablySorted (before : Version → Version → Prop) (given result : List Version) :
    Prop where
  perm : result.Perm given
  ordered : result.Pairwise fun a b => ¬ before b a
  stable : ∀ v, (result.filter fun w => w.same v) = given.filter fun w => w.same v

/-- Downwards, the order of the keys is turned around. -/
def keyDown (v : Version) : Keyᵒᵈ := OrderDual.toDual v.key

theorem precedes_iff_key {a b : Version} : a.precedes b = true ↔ a.key < b.key :=
  precedes_iff_below.trans below_iff_key

theorem same_eq_decide (a b : Version) : a.same b = decide (a.key = b.key) :=
  Bool.eq_iff_iff.mpr (same_iff.trans decide_eq_true_iff.symm)

theorem not_precedes_eq_decide (a b : Version) : (!b.precedes a) = decide (a.key ≤ b.key) := by
  rw [Bool.eq_iff_iff, Bool.not_eq_true', Bool.eq_false_iff, Ne, precedes_iff_key, not_lt,
    decide_eq_true_iff]

theorem sorted_eq (versions : List Version) : sorted versions = sortBy key versions := by
  simp only [sorted, sortBy, not_precedes_eq_decide]

theorem sortedDown_eq (versions : List Version) :
    sortedDown versions = sortBy keyDown versions := by
  simp only [sortedDown, sortBy, not_precedes_eq_decide]
  rfl

/-- What is sorted by a key is stably sorted, if the key decides the order and what is of one
precedence. -/
theorem stablySorted_sortBy {κ : Type} [LinearOrder κ] {order : Version → κ}
    {before : Version → Version → Prop} (beforeIff : ∀ a b, before a b ↔ order a < order b)
    (alikeIff : ∀ a b : Version, a.same b = true ↔ order a = order b) (versions : List Version) :
    StablySorted before versions (sortBy order versions) := by
  refine ⟨StableSort.sortBy_perm order versions, ?_, fun v => ?_⟩
  · refine (StableSort.pairwise_sortBy order versions).imp fun {a b} ordered => ?_
    rw [beforeIff b a]
    exact not_lt.mpr ordered
  · have decides (w : Version) : w.same v = decide (order w = order v) :=
      Bool.eq_iff_iff.mpr ((alikeIff w v).trans decide_eq_true_iff.symm)
    simp only [decides]
    exact StableSort.filter_sortBy order versions (order v)

theorem stablySorted_sorted (versions : List Version) :
    StablySorted Below versions (sorted versions) := by
  rw [sorted_eq]
  have belowIff (a b : Version) : a.Below b ↔ a.key < b.key := below_iff_key
  have alikeIff (a b : Version) : a.same b = true ↔ a.key = b.key := same_iff
  exact stablySorted_sortBy belowIff alikeIff versions

theorem stablySorted_sortedDown (versions : List Version) :
    StablySorted (fun a b => b.Below a) versions (sortedDown versions) := by
  rw [sortedDown_eq]
  have belowIff (a b : Version) : b.Below a ↔ a.keyDown < b.keyDown := below_iff_key
  have alikeIff (a b : Version) : a.same b = true ↔ a.keyDown = b.keyDown := same_iff
  exact stablySorted_sortBy belowIff alikeIff versions

theorem least?_eq (versions : List Version) : least? versions = (sorted versions).head? := by
  cases versions with
  | nil => rw [sorted, List.mergeSort_nil, least?, List.head?_nil]
  | cons v rest =>
    rw [sorted_eq, StableSort.head?_sortBy_cons, least?]
    simp only [precedes_iff_key]

theorem greatest?_eq (versions : List Version) :
    greatest? versions = (sortedDown versions).head? := by
  cases versions with
  | nil => rw [sortedDown, List.mergeSort_nil, greatest?, List.head?_nil]
  | cons v rest =>
    rw [sortedDown_eq, StableSort.head?_sortBy_cons, greatest?]
    simp only [precedes_iff_key]
    rfl

theorem forall₂_same_iff : List.Forall₂ (fun a b => same a b = true) versions other ↔
    versions.map key = other.map key := by
  have keys : List.Forall₂ (· = ·) (versions.map key) (other.map key) ↔
      versions.map key = other.map key := by rw [List.forall₂_eq_eq_eq]
  rw [← keys, List.forall₂_map_left_iff, List.forall₂_map_right_iff]
  simp only [same_iff]

/-- Another arrangement of the list is sorted to the same versions, but for their build metadata. -/
theorem forall₂_same_sorted_of_perm (perm : other.Perm versions) :
    List.Forall₂ (fun a b => same a b = true) (sorted other) (sorted versions) := by
  rw [forall₂_same_iff, sorted_eq, sorted_eq]
  refine StableSort.map_eq_of_perm ?_ (StableSort.pairwise_sortBy key other)
    (StableSort.pairwise_sortBy key versions)
  exact (StableSort.sortBy_perm key other).trans
    (perm.trans (StableSort.sortBy_perm key versions).symm)

theorem forall₂_same_sortedDown (versions : List Version) :
    List.Forall₂ (fun a b => same a b = true) (sortedDown versions) (sorted versions).reverse := by
  rw [forall₂_same_iff, sorted_eq, sortedDown_eq]
  have upwards := List.pairwise_reverse.mpr (StableSort.pairwise_sortBy key versions)
  have perm : (sortBy keyDown versions).Perm (sortBy key versions).reverse :=
    (StableSort.sortBy_perm keyDown versions).trans
      ((StableSort.sortBy_perm key versions).symm.trans (List.reverse_perm _).symm)
  have keys : (sortBy keyDown versions).map keyDown = (sortBy key versions).reverse.map keyDown :=
    StableSort.map_eq_of_perm perm (StableSort.pairwise_sortBy keyDown versions) upwards
  exact keys

theorem mem_keys_distinct_iff : k ∈ (distinct versions).map key ↔ k ∈ versions.map key := by
  induction versions with
  | nil => rfl
  | cons v rest ih =>
    rw [distinct, List.map_cons, List.map_cons, List.mem_cons, List.mem_cons, ← ih]
    by_cases own : k = v.key
    · simp [own]
    · simp only [own, false_or, List.mem_map, List.mem_filter, same_eq_decide]
      constructor
      · rintro ⟨w, ⟨member, _⟩, rfl⟩
        exact ⟨w, member, rfl⟩
      · rintro ⟨w, member, rfl⟩
        exact ⟨w, ⟨member, by simpa using Ne.symm own⟩, rfl⟩

theorem nodup_keys_distinct (versions : List Version) : ((distinct versions).map key).Nodup := by
  induction versions with
  | nil => exact List.nodup_nil
  | cons v rest ih =>
    have sublist : ((distinct rest).filter fun other => !v.same other).Sublist (distinct rest) :=
      List.filter_sublist
    rw [distinct, List.map_cons, List.nodup_cons]
    refine ⟨fun member => ?_, ih.sublist (sublist.map key)⟩
    obtain ⟨w, kept, sameKey⟩ := List.mem_map.mp member
    have apart := (List.mem_filter.mp kept).2
    rw [same_iff.mpr sameKey.symm] at apart
    contradiction

/-- There are as many versions up to build metadata as there are keys. -/
theorem length_distinct (versions : List Version) :
    (distinct versions).length = (versions.map key).toFinset.card := by
  have keys : (versions.map key).toFinset = ((distinct versions).map key).toFinset := by
    ext k
    rw [List.mem_toFinset, List.mem_toFinset, mem_keys_distinct_iff]
  rw [keys, List.toFinset_card_of_nodup (nodup_keys_distinct versions), List.length_map]

theorem length_distinct_sorted (someVersion : versions ≠ []) : (distinct versions).length =
    (((sorted versions).zip (sorted versions).tail).countP fun (a, b) => a.precedes b) + 1 := by
  have perm := (stablySorted_sorted versions).perm
  have someSorted : sorted versions ≠ [] := by
    intro none
    rw [none] at perm
    exact someVersion perm.nil_eq.symm
  have ordered : (sorted versions).Pairwise fun a b => a.key ≤ b.key := by
    rw [sorted_eq]
    exact StableSort.pairwise_sortBy key versions
  rw [length_distinct, ← List.toFinset_eq_of_perm _ _ (perm.map key),
    StableSort.card_keys_of_pairwise ordered someSorted]
  have decides (pair : Version × Version) :
      decide (pair.1.key < pair.2.key) = pair.1.precedes pair.2 :=
    Bool.eq_iff_iff.mpr (decide_eq_true_iff.trans precedes_iff_key.symm)
  simp only [decides]

/-- Texts are as many up to their build lists and a leading letter as their versions are. -/
theorem length_distinct_of_read {texts : List String}
    (accepted : List.Forall₂ (fun text v => Version.read text = .ok v) texts versions) :
    (distinct versions).length =
      (texts.map fun text => (normalize text).toList.takeWhile (· ≠ '+')).toFinset.card := by
  rw [length_distinct]
  refine (StableSort.card_toFinset_congr ?_ accepted).symm
  intro s v t w first second
  exact takeWhile_eq_iff_key first second

theorem same_iff_not_below (a b : Version) : a.same b = true ↔ ¬ a.Below b ∧ ¬ b.Below a := by
  rw [same_iff, below_iff_key, below_iff_key, not_lt, not_lt, and_comm]
  exact le_antisymm_iff

/-- Sorting versions that were read, upwards and downwards. Either way the sort is stable, the one
goes through the precedences as the other does backwards, and the first of each is the least or the
greatest. Up to build metadata there are as many versions as there are texts up to their build lists
and a leading letter, and each but the first is where the precedence increases in the sorted list.
Another arrangement of the list gives the same sorted list up to build metadata. -/
theorem sorting_canonical {texts : List String} {versions : List Version}
    (accepted : List.Forall₂ (fun text v => Version.read text = .ok v) texts versions) :
    (∀ a b : Version, a.same b = true ↔ ¬ a.Below b ∧ ¬ b.Below a) ∧
    StablySorted Below versions (sorted versions) ∧
    StablySorted (fun a b => b.Below a) versions (sortedDown versions) ∧
    List.Forall₂ (fun a b => same a b = true) (sortedDown versions) (sorted versions).reverse ∧
    least? versions = (sorted versions).head? ∧ greatest? versions = (sortedDown versions).head? ∧
    (distinct versions).length =
      (texts.map fun text => (normalize text).toList.takeWhile (· ≠ '+')).toFinset.card ∧
    (versions ≠ [] → (distinct versions).length =
      (((sorted versions).zip (sorted versions).tail).countP fun (a, b) => a.precedes b) + 1) ∧
    ∀ other, other.Perm versions →
      List.Forall₂ (fun a b => same a b = true) (sorted other) (sorted versions) :=
  ⟨same_iff_not_below, stablySorted_sorted versions, stablySorted_sortedDown versions,
    forall₂_same_sortedDown versions, least?_eq versions, greatest?_eq versions,
    length_distinct_of_read accepted, length_distinct_sorted,
    fun _ => forall₂_same_sorted_of_perm⟩

/-- Five texts of three precedences, a number before a word among them. The greatest is the first of
two that differ in build metadata. -/
theorem sorting_canonical_ties :
    let texts := ["v1.0.0+b", "1.0.0-rc.1", "1.0.0+a", "1.0.0-2", "v1.0.0-rc.1+x"]
    let versions : List Version := [⟨1, 0, 0, [], ["b"]⟩, ⟨1, 0, 0, [.word "rc", .number 1], []⟩,
      ⟨1, 0, 0, [], ["a"]⟩, ⟨1, 0, 0, [.number 2], []⟩, ⟨1, 0, 0, [.word "rc", .number 1], ["x"]⟩]
    List.Forall₂ (fun text v => Version.read text = .ok v) texts versions ∧
    StablySorted Below versions (sorted versions) ∧
    (sorted versions).head? = some ⟨1, 0, 0, [.number 2], []⟩ ∧
    (sortedDown versions).head? = some ⟨1, 0, 0, [], ["b"]⟩ ∧
    (texts.map fun text => (normalize text).toList.takeWhile (· ≠ '+')).toFinset.card = 3 ∧
    (((sorted versions).zip (sorted versions).tail).countP fun (a, b) => a.precedes b) + 1 = 3 ∧
    List.Forall₂ (fun a b => same a b = true) (sorted versions.reverse) (sorted versions) := by
  intro texts versions
  have accepted : List.Forall₂ (fun text v => Version.read text = .ok v) texts versions := by
    refine .cons ?_ (.cons ?_ (.cons ?_ (.cons ?_ (.cons ?_ .nil)))) <;> decide +kernel
  have three : (distinct versions).length = 3 := by decide
  have lowest : least? versions = some ⟨1, 0, 0, [.number 2], []⟩ := by decide
  have highest : greatest? versions = some ⟨1, 0, 0, [], ["b"]⟩ := by decide
  obtain ⟨_, upwards, _, _, least, greatest, fronts, increases, arranged⟩ :=
    sorting_canonical accepted
  exact ⟨accepted, upwards, least.symm.trans lowest, greatest.symm.trans highest,
    fronts.symm.trans three, (increases (List.cons_ne_nil _ _)).symm.trans three,
    arranged _ versions.reverse_perm⟩

end VersionGate.Version
