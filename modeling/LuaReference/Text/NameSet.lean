import LuaReference.Text.Blank

/-!
# Sets of names

* `NameSet` : a set of texts, kept in increasing order of code points without repetition;
* `NameSet.insert`, `NameSet.insertAll`, `NameSet.diff` : the operations on it;
* `NameSet.mem_insert` : what an insertion adds.
-/

namespace LuaReference

namespace Text

theorem lt_of_not_lt {a b : Text} (h : ¬ a < b) (hne : a ≠ b) : b < a := by
  by_cases hba : b < a
  · exact hba
  · exact absurd (List.le_antisymm (List.not_lt.1 hba) (List.not_lt.1 h)) hne

/-- Puts a name at its place in an increasing list, unless it is there. -/
def insertSorted (x : Text) : List Text → List Text
  | [] => [x]
  | y :: r => if x < y then x :: y :: r else if x = y then y :: r else y :: insertSorted x r

theorem mem_insertSorted {x y : Text} {names : List Text} :
    y ∈ insertSorted x names ↔ y = x ∨ y ∈ names := by
  induction names with
  | nil => simp [insertSorted]
  | cons z r ih =>
    unfold insertSorted
    split
    · simp
    · split
      · rename_i h
        subst h
        simp
      · simp only [List.mem_cons, ih]
        constructor
        · rintro (h | h | h)
          · exact .inr (.inl h)
          · exact .inl h
          · exact .inr (.inr h)
        · rintro (h | h | h)
          · exact .inr (.inl h)
          · exact .inl h
          · exact .inr (.inr h)

theorem pairwise_insertSorted {x : Text} {names : List Text} (h : names.Pairwise (· < ·)) :
    (insertSorted x names).Pairwise (· < ·) := by
  induction names with
  | nil => simp [insertSorted]
  | cons y r ih =>
    obtain ⟨hy, hr⟩ := List.pairwise_cons.1 h
    unfold insertSorted
    split
    · rename_i hlt
      refine List.pairwise_cons.2 ⟨fun z hz => ?_, h⟩
      rcases List.mem_cons.1 hz with rfl | hz
      · exact hlt
      · exact List.lt_trans hlt (hy z hz)
    · split
      · exact h
      · rename_i hlt hne
        refine List.pairwise_cons.2 ⟨fun z hz => ?_, ih hr⟩
        rcases mem_insertSorted.1 hz with rfl | hz
        · exact lt_of_not_lt hlt hne
        · exact hy z hz

end Text

/-- A set of names, in increasing order. -/
structure NameSet where
  names : List Text
  increasing : names.Pairwise (· < ·)

namespace NameSet

/-- The set without names. -/
def empty : NameSet := ⟨[], .nil⟩

/-- Adds a name. -/
def insert (set : NameSet) (x : Text) : NameSet :=
  ⟨Text.insertSorted x set.names, Text.pairwise_insertSorted set.increasing⟩

/-- Adds all names of a list. -/
def insertAll (set : NameSet) (xs : List Text) : NameSet := xs.foldl insert set

/-- The set of the names in a list. -/
def ofList (xs : List Text) : NameSet := empty.insertAll xs

/-- The names of the first set that are not in the second, in increasing order. -/
def diff (a b : NameSet) : List Text := a.names.filter fun x => !b.names.contains x

@[simp]
theorem mem_insert {set : NameSet} {x y : Text} :
    y ∈ (set.insert x).names ↔ y = x ∨ y ∈ set.names :=
  Text.mem_insertSorted

end NameSet

end LuaReference
