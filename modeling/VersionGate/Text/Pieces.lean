/-! Cutting a text at a separator. `pieces` undoes `joined` on a non-empty list of pieces that are
free of the separator. -/
namespace VersionGate.Text

/-- What stands before the first separator, and what follows it if there is one. -/
def cut (sep : Char) : List Char → List Char × Option (List Char)
  | [] => ([], none)
  | c :: rest =>
      if c = sep then ([], some rest)
      else match cut sep rest with
        | (before, after) => (c :: before, after)

/-- The runs of text between separators; a text without one is a single piece. -/
def pieces (sep : Char) : List Char → List (List Char)
  | [] => [[]]
  | c :: rest =>
      if c = sep then [] :: pieces sep rest
      else match pieces sep rest with
        | [] => [[c]]
        | piece :: more => (c :: piece) :: more

def joined (sep : Char) : List (List Char) → List Char
  | [] => []
  | [piece] => piece
  | piece :: next :: more => piece ++ sep :: joined sep (next :: more)

theorem cut_eq_of_not_mem {sep : Char} {text : List Char} (free : sep ∉ text) :
    cut sep text = (text, none) := by
  induction text with
  | nil => rfl
  | cons c rest ih =>
    have apart : c ≠ sep := fun same => free (same ▸ List.mem_cons_self)
    have restFree : sep ∉ rest := fun member => free (List.mem_cons_of_mem _ member)
    simp [cut, apart, ih restFree]

theorem cut_append {sep : Char} {before : List Char} (free : sep ∉ before) (after : List Char) :
    cut sep (before ++ sep :: after) = (before, some after) := by
  induction before with
  | nil => simp [cut]
  | cons c rest ih =>
    have apart : c ≠ sep := fun same => free (same ▸ List.mem_cons_self)
    have restFree : sep ∉ rest := fun member => free (List.mem_cons_of_mem _ member)
    simp [cut, apart, ih restFree]

theorem pieces_of_not_mem {sep : Char} {text : List Char} (free : sep ∉ text) :
    pieces sep text = [text] := by
  induction text with
  | nil => rfl
  | cons c rest ih =>
    have apart : c ≠ sep := fun same => free (same ▸ List.mem_cons_self)
    have restFree : sep ∉ rest := fun member => free (List.mem_cons_of_mem _ member)
    rw [pieces, if_neg apart, ih restFree]

theorem pieces_append {sep : Char} {piece : List Char} (free : sep ∉ piece) (rest : List Char) :
    pieces sep (piece ++ sep :: rest) = piece :: pieces sep rest := by
  induction piece with
  | nil => simp [pieces]
  | cons c more ih =>
    have apart : c ≠ sep := fun same => free (same ▸ List.mem_cons_self)
    have moreFree : sep ∉ more := fun member => free (List.mem_cons_of_mem _ member)
    rw [List.cons_append, pieces, if_neg apart, ih moreFree]

theorem pieces_joined {sep : Char} {parts : List (List Char)} (somePart : parts ≠ [])
    (free : ∀ part ∈ parts, sep ∉ part) : pieces sep (joined sep parts) = parts := by
  induction parts with
  | nil => exact absurd rfl somePart
  | cons part more ih =>
    have partFree := free part List.mem_cons_self
    cases more with
    | nil => exact pieces_of_not_mem partFree
    | cons next more =>
      have moreFree := fun p (member : p ∈ next :: more) => free p (List.mem_cons_of_mem _ member)
      rw [joined, pieces_append partFree, ih (by simp) moreFree]

theorem not_mem_joined {sep c : Char} {parts : List (List Char)} (other : c ≠ sep)
    (free : ∀ part ∈ parts, c ∉ part) : c ∉ joined sep parts := by
  induction parts with
  | nil => simp [joined]
  | cons part more ih =>
    obtain ⟨partFree, moreFree⟩ := List.forall_mem_cons.mp free
    cases more with
    | nil => exact partFree
    | cons next more => simp [joined, partFree, other, ih moreFree]

end VersionGate.Text
