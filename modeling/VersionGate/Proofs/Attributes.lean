import Mathlib.Data.List.Dedup
import Mathlib.Data.List.Induction
import Mathlib.Data.List.Perm.Subperm
import VersionGate.Span

/-! What a row of assignments leaves. One writer overwrites a name in place and the other moves it to
the end, but for both a name holds in the end what was assigned to it last. A span gives up its oldest
attribute only beyond its limit, so as long as no more names than that are assigned, none is lost. -/
namespace VersionGate

namespace Fields
variable {fields assignments first second : Fields} {name : String}

/-- What was assigned to a name last, if anything was. -/
def assigned (name : String) (assignments : Fields) : Option Value := get? name assignments.reverse

/-- Fields that the assignments leave: each name once, with what was assigned to it last. -/
structure LeftBy (fields assignments : Fields) : Prop where
  distinct : (fields.map Prod.fst).Nodup
  get?_eq : ∀ name, fields.get? name = assignments.assigned name

theorem get?_append : get? name (first ++ second) = (first.get? name).or (second.get? name) := by
  induction first with
  | nil => rfl
  | cons entry rest ih =>
    by_cases same : entry.1 = name
    · simp [get?, same]
    · rw [List.cons_append, get?, get?, if_neg same, if_neg same, ih]

theorem get?_eq_none_iff : fields.get? name = none ↔ name ∉ fields.map Prod.fst := by
  induction fields with
  | nil => simp [get?]
  | cons entry rest ih =>
    by_cases same : entry.1 = name
    · simp [get?, same]
    · rw [get?, if_neg same, ih, List.map_cons, List.mem_cons, not_or]
      exact ⟨fun absent => ⟨Ne.symm same, absent⟩, And.right⟩

theorem get?_concat (fields : Fields) (entry : String × Value) : get? name (fields ++ [entry]) =
    (fields.get? name).or (if entry.1 = name then some entry.2 else none) :=
  get?_append

theorem assigned_concat (assignments : Fields) (entry : String × Value) :
    assigned name (assignments ++ [entry]) =
      if entry.1 = name then some entry.2 else assignments.assigned name := by
  rw [assigned, List.reverse_append]
  rfl

theorem assigned_append :
    assigned name (first ++ second) = (second.assigned name).or (first.assigned name) := by
  rw [assigned, List.reverse_append, get?_append]
  rfl

theorem assigned_eq_none_iff :
    assignments.assigned name = none ↔ name ∉ assignments.map Prod.fst := by
  rw [assigned, get?_eq_none_iff, List.map_reverse, List.mem_reverse]

/-- Where each name is assigned once, the order of the assignments is of no account. -/
theorem assigned_of_distinct (distinct : (fields.map Prod.fst).Nodup) :
    fields.assigned name = fields.get? name := by
  induction fields using List.reverseRecOn with
  | nil => rfl
  | append_singleton rest entry ih =>
    rw [List.map_append, List.nodup_append] at distinct
    obtain ⟨restDistinct, _, apart⟩ := distinct
    rw [assigned_concat, get?_concat, ih restDistinct]
    split
    · rename_i same
      have new : name ∉ rest.map Prod.fst := fun known =>
        apart name known entry.1 (by simp) same.symm
      rw [get?_eq_none_iff.mpr new, Option.none_or]
    · rw [Option.or_none]

theorem names_put (name : String) (value : Value) (fields : Fields) :
    (put name value fields).map Prod.fst = if name ∈ fields.map Prod.fst then fields.map Prod.fst
      else fields.map Prod.fst ++ [name] := by
  induction fields with
  | nil => rfl
  | cons entry rest ih =>
    by_cases same : entry.1 = name
    · simp [put, same]
    · rw [put, if_neg same, List.map_cons, ih]
      by_cases known : name ∈ rest.map Prod.fst <;> simp [known, Ne.symm same]

namespace LeftBy

theorem nil : LeftBy [] [] := ⟨List.nodup_nil, fun _ => rfl⟩

/-- Nothing is left of a name but by an assignment, and of each that was assigned something is. -/
theorem mem_names_iff (left : LeftBy fields assignments) :
    name ∈ fields.map Prod.fst ↔ name ∈ assignments.map Prod.fst := by
  rw [← not_iff_not, ← get?_eq_none_iff, ← assigned_eq_none_iff, left.get?_eq]

theorem put (left : LeftBy fields assignments) (entry : String × Value) :
    LeftBy (Fields.put entry.1 entry.2 fields) (assignments ++ [entry]) where
  distinct := by
    rw [names_put]
    split
    · exact left.distinct
    · rename_i new
      exact List.concat_eq_append ▸ left.distinct.concat new
  get?_eq name := by
    rw [assigned_concat]
    split
    · rename_i same
      rw [← same, get?_put_self]
    · rename_i apart
      rw [get?_put_of_ne (Ne.symm apart), left.get?_eq]

theorem putAll (left : LeftBy fields assignments) (more : Fields) :
    LeftBy (fields.putAll more) (assignments ++ more) := by
  induction more generalizing fields assignments with
  | nil => simpa [Fields.putAll] using left
  | cons entry more ih =>
    have split : assignments ++ entry :: more = assignments ++ [entry] ++ more := by simp
    rw [split]
    exact ih (left.put entry)

/-- Assignments whose first part was settled before leave what all of them leave one by one. -/
theorem resettle (settled : LeftBy first assignments) (left : LeftBy fields (first ++ second)) :
    LeftBy fields (assignments ++ second) where
  distinct := left.distinct
  get?_eq name := by
    rw [left.get?_eq, assigned_append, assigned_append, assigned_of_distinct settled.distinct,
      settled.get?_eq]

end LeftBy

end Fields

namespace Span
open Fields (LeftBy)
variable {attributes assignments : Fields} {entry : String × Value}

/-- The attributes that setting a name does not touch. -/
def others (name : String) (attributes : Fields) : Fields :=
  attributes.filter fun known => known.1 ≠ name

theorem put_of_room (named : entry.1 ≠ "") (room : (others entry.1 attributes).length < limit) :
    put attributes entry = others entry.1 attributes ++ [entry] := by
  have notEmpty : ¬ entry.1.isEmpty = true := by rwa [String.isEmpty_iff]
  rw [put, if_neg notEmpty]
  exact congrArg (· ++ [entry]) (if_pos room)

theorem get?_others {name other : String} (apart : name ≠ other) :
    (others other attributes).get? name = attributes.get? name := by
  induction attributes with
  | nil => rfl
  | cons known rest ih =>
    by_cases same : known.1 = other
    · have gone : others other (known :: rest) = others other rest := by simp [others, same]
      rw [gone, ih, Fields.get?, if_neg (same ▸ apart.symm)]
    · have kept : others other (known :: rest) = known :: others other rest := by
        simp [others, same]
      rw [kept, Fields.get?, Fields.get?, ih]

theorem names_others_sublist (name : String) (attributes : Fields) :
    ((others name attributes).map Prod.fst).Sublist (attributes.map Prod.fst) :=
  List.filter_sublist.map Prod.fst

theorem not_mem_names_others (name : String) (attributes : Fields) :
    name ∉ (others name attributes).map Prod.fst := by
  simp [others]

/-- An attribute that is set while there is room is the last assignment to its name, and the last
assignments to all other names stay. -/
theorem leftBy_put (left : LeftBy attributes assignments) (named : entry.1 ≠ "")
    (room : (others entry.1 attributes).length < limit) :
    LeftBy (put attributes entry) (assignments ++ [entry]) := by
  rw [put_of_room named room]
  have new := not_mem_names_others entry.1 attributes
  refine ⟨?_, fun name => ?_⟩
  · have distinct := left.distinct.sublist (names_others_sublist entry.1 attributes)
    rw [List.map_append]
    exact List.concat_eq_append ▸ distinct.concat new
  · rw [Fields.get?_concat, Fields.assigned_concat]
    split
    · rename_i same
      rw [Fields.get?_eq_none_iff.mpr (same ▸ new), Option.none_or]
    · rename_i apart
      rw [get?_others (Ne.symm apart), left.get?_eq, Option.or_none]

/-- With the name that is set now, the names of the other attributes are among the known ones. -/
theorem length_others_lt {known : List String} (left : LeftBy attributes assignments)
    (covers : ∀ other ∈ assignments ++ [entry], other.1 ∈ known) :
    (others entry.1 attributes).length < known.length := by
  have distinct : (entry.1 :: (others entry.1 attributes).map Prod.fst).Nodup :=
    List.nodup_cons.mpr ⟨not_mem_names_others _ _,
      left.distinct.sublist (names_others_sublist _ _)⟩
  have covered : entry.1 :: (others entry.1 attributes).map Prod.fst ⊆ known := by
    refine List.cons_subset.mpr ⟨covers entry (by simp), fun name member => ?_⟩
    have setBefore := left.mem_names_iff.mp ((names_others_sublist _ _).subset member)
    obtain ⟨other, otherMember, rfl⟩ := List.mem_map.mp setBefore
    exact covers other (List.mem_append_left _ otherMember)
  simpa [Nat.succ_le_iff] using (distinct.subperm covered).length_le

/-- As long as all names that are set have room beside each other, setting one attribute after the
other leaves what was set last to each name. -/
theorem leftBy_foldl_put {known : List String} (named : "" ∉ known)
    (covers : ∀ entry ∈ assignments, entry.1 ∈ known) (room : known.length ≤ 128) :
    LeftBy (assignments.foldl put []) assignments := by
  induction assignments using List.reverseRecOn with
  | nil => exact .nil
  | append_singleton before entry ih =>
    have left := ih (List.forall_mem_append.mp covers).1
    have entryNamed : entry.1 ≠ "" := by
      intro empty
      exact named (empty ▸ covers entry (by simp))
    rw [List.foldl_append]
    exact leftBy_put left entryNamed
      (Nat.lt_of_lt_of_le (length_others_lt left covers) room)

end Span

end VersionGate
