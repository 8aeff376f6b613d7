import LuaReference.Proofs.Files.Growth

/-!
# Paths without dots

* `Path.DotFree`, `Path.names` : a path that only leads down, and the names on it;
* `destination_eq`, `innerTrail_eq`, `newName?_eq` : where it leads, where its last name is looked up,
  and that name;
* `Path.Fits` : no limit of the disk refuses the path;
* `settles_of_directory` : the way to a directory can be walked.
-/

namespace LuaReference

open Text

namespace Path

/-- A path whose pieces are names or nothing. -/
def DotFree (p : Path) : Prop := ∀ piece ∈ p.pieces, piece ≠ "." ∧ piece ≠ ".."

instance (p : Path) : Decidable p.DotFree :=
  inferInstanceAs (Decidable (∀ piece ∈ p.pieces, piece ≠ "." ∧ piece ≠ ".."))

/-- The pieces that are not empty. -/
def solid (pieces : List Text) : List Text := pieces.filter fun piece => !piece.isEmpty

/-- The names on a path without dots. -/
def names (p : Path) : List Text := solid p.pieces

/-- No limit of the disk refuses the path or a name on it. -/
structure Fits (p : Path) : Prop where
  no_nul : '\x00' ∉ p.text
  path_short : byteLength p.text ≤ Disk.longestPath
  name_short : ∀ piece ∈ p.pieces, byteLength piece ≤ Disk.longestName

@[simp] theorem solid_nil : solid [] = [] := rfl

theorem solid_append (front back : List Text) : solid (front ++ back) = solid front ++ solid back :=
  List.filter_append ..

@[simp] theorem solid_cons_nil (pieces : List Text) : solid ([] :: pieces) = solid pieces := rfl

theorem solid_cons {piece : Text} (pieces : List Text) (h : piece ≠ []) :
    solid (piece :: pieces) = piece :: solid pieces :=
  List.filter_cons_of_pos (by simpa using h)

theorem isIdle_iff {piece : Text} (h : piece ≠ ".") : isIdle piece = true ↔ piece = [] := by
  simp only [isIdle, Bool.or_eq_true, List.isEmpty_iff, beq_iff_eq]
  exact or_iff_left h

/-- A piece of a path without dots is empty or a name. -/
theorem isName_of_dotFree {piece : Text} (h : piece ≠ "." ∧ piece ≠ "..") (hne : piece ≠ []) :
    Disk.IsName piece :=
  ⟨Bool.eq_false_iff.2 fun hidle => hne ((isIdle_iff h.1).1 hidle), h.2⟩

end Path

namespace Disk

open LuaReference.Path

/-! ## Trails without dots -/

theorem turn_nil (trail : List Text) : turn trail [] = trail := rfl

theorem foldl_turn_dotFree {pieces : List Text} (h : ∀ piece ∈ pieces, piece ≠ "." ∧ piece ≠ "..")
    (trail : List Text) : pieces.foldl turn trail = (solid pieces).reverse ++ trail := by
  induction pieces generalizing trail with
  | nil => rfl
  | cons piece pieces ih =>
    rw [List.forall_mem_cons] at h
    by_cases hne : piece = []
    · subst hne
      rw [List.foldl_cons, turn_nil, ih h.2, solid_cons_nil]
    · rw [List.foldl_cons, (isName_of_dotFree h.1 hne).turn, ih h.2, solid_cons _ hne,
        List.reverse_cons, List.append_assoc]
      rfl

theorem destination_eq {p : Path} (h : p.DotFree) (disk : Disk) :
    disk.destination p = (disk.startTrail p).reverse ++ p.names := by
  rw [destination, trailOf, foldl_turn_dotFree h, List.reverse_append, List.reverse_reverse, names]

/-- The solid pieces of a path are its pieces up to the last that is not empty. -/
theorem pieces_eq_solidPieces (p : Path) :
    ∃ empties, p.pieces = solidPieces p ++ empties ∧ ∀ piece ∈ empties, piece = [] := by
  refine ⟨(p.pieces.reverse.takeWhile List.isEmpty).reverse, ?_, ?_⟩
  · rw [solidPieces, ← List.reverse_append, List.takeWhile_append_dropWhile, List.reverse_reverse]
  · intro piece hpiece
    simpa using List.all_eq_true.1 List.all_takeWhile piece (List.mem_reverse.1 hpiece)

theorem solid_of_empties {pieces : List Text} (h : ∀ piece ∈ pieces, piece = []) :
    solid pieces = [] := by
  rw [solid, List.filter_eq_nil_iff]
  intro piece hpiece
  simp [h piece hpiece]

theorem names_eq_solidPieces (p : Path) : p.names = solid (solidPieces p) := by
  obtain ⟨empties, hp, hempty⟩ := pieces_eq_solidPieces p
  rw [names, hp, solid_append, solid_of_empties hempty, List.append_nil]

theorem mem_of_mem_solidPieces {p : Path} {piece : Text} (h : piece ∈ solidPieces p) :
    piece ∈ p.pieces := by
  obtain ⟨empties, hp, -⟩ := pieces_eq_solidPieces p
  rw [hp]
  exact List.mem_append_left _ h

/-- The last solid piece is not empty. -/
theorem solidPieces_getLast {p : Path} {front : List Text} {last : Text}
    (h : solidPieces p = front ++ [last]) : last ≠ [] := by
  have hrev : p.pieces.reverse.dropWhile List.isEmpty = last :: front.reverse := by
    rw [← List.reverse_reverse (List.dropWhile _ _), ← solidPieces, h]
    simp
  have hhead := List.head?_dropWhile_not List.isEmpty p.pieces.reverse
  rw [hrev] at hhead
  simpa using hhead

/-- The solid pieces of a path without dots are none, or end in its last name. -/
theorem solidPieces_dotFree {p : Path} (h : p.DotFree) :
    (solidPieces p = [] ∧ p.names = []) ∨
    ∃ front last, solidPieces p = front ++ [last] ∧ IsName last ∧ p.names = solid front ++ [last] := by
  rcases List.eq_nil_or_concat (solidPieces p) with hnil | ⟨front, last, hsolid⟩
  · exact Or.inl ⟨hnil, by rw [names_eq_solidPieces, hnil, solid_nil]⟩
  · rw [List.concat_eq_append] at hsolid
    have hne := solidPieces_getLast hsolid
    have hmem : last ∈ p.pieces := mem_of_mem_solidPieces (by simp [hsolid])
    refine Or.inr ⟨front, last, hsolid, isName_of_dotFree (h last hmem) hne, ?_⟩
    rw [names_eq_solidPieces, hsolid, solid_append, solid_cons _ hne, solid_nil]

theorem mem_of_mem_inner {p : Path} {piece : Text} (h : piece ∈ (solidPieces p).dropLast) :
    piece ∈ p.pieces :=
  mem_of_mem_solidPieces (List.dropLast_subset _ h)

theorem solid_inner {p : Path} (h : p.DotFree) :
    solid (solidPieces p).dropLast = p.names.dropLast := by
  rcases solidPieces_dotFree h with ⟨hs, hn⟩ | ⟨front, last, hs, -, hn⟩
  · rw [hs, hn]
    rfl
  · rw [hs, hn, List.dropLast_concat, List.dropLast_concat]

theorem innerTrail_eq {p : Path} (h : p.DotFree) (disk : Disk) :
    (disk.innerTrail p).reverse = (disk.startTrail p).reverse ++ p.names.dropLast := by
  rw [innerTrail, foldl_turn_dotFree fun piece hpiece => h piece (mem_of_mem_inner hpiece),
    solid_inner h, List.reverse_append, List.reverse_reverse]

theorem newName?_eq {p : Path} (h : p.DotFree) : newName? p = p.names.getLast? := by
  rcases solidPieces_dotFree h with ⟨hs, hn⟩ | ⟨front, last, hs, hname, hn⟩
  · rw [hn, newName?, hs]
    rfl
  · rw [hn, List.getLast?_concat]
    exact newName?_eq_some_iff.2 ⟨hname, front, hs⟩

/-- A path without dots would create what it denotes. -/
theorem site?_eq {p : Path} (h : p.DotFree) {disk : Disk} {here : Location}
    (hsite : disk.site? p = some here) : p.names ≠ [] ∧ here = disk.destination p := by
  rw [site?, newName?_eq h, innerTrail_eq h] at hsite
  obtain ⟨last, hlast, rfl⟩ := Option.map_eq_some_iff.1 hsite
  obtain ⟨front, hn⟩ := List.getLast?_eq_some_iff.1 hlast
  rw [destination_eq h, hn, List.dropLast_concat, List.append_assoc]
  exact ⟨by simp, rfl⟩

/-! ## Ways through directories -/

theorem checkPath_of_fits {p : Path} (hne : p.text ≠ []) (h : p.Fits) : checkPath p = .ok () := by
  have hnul : p.text.contains '\x00' = false := by simpa using h.no_nul
  have hempty : p.text.isEmpty = false := by simpa using hne
  rw [checkPath, hnul, hempty, if_neg (by simp), if_neg (by simp), if_neg]
  exact Nat.not_lt_of_le h.path_short

theorem passable_dotFree {root : Tree} {pieces : List Text}
    (hdots : ∀ piece ∈ pieces, piece ≠ "." ∧ piece ≠ "..")
    (hshort : ∀ piece ∈ pieces, byteLength piece ≤ longestName) (trail : List Text)
    (hdir : root.view (trail.reverse ++ solid pieces) = some .directory) :
    Passable root trail pieces := by
  induction pieces generalizing trail with
  | nil => trivial
  | cons piece pieces ih =>
    rw [List.forall_mem_cons] at hdots hshort
    refine ⟨Tree.view_above_directory hdir (List.prefix_append _ _), hshort.1, ?_⟩
    refine ih hdots.2 hshort.2 (turn trail piece) ?_
    by_cases hne : piece = []
    · subst hne
      exact hdir
    · rw [(isName_of_dotFree hdots.1 hne).turn, List.reverse_cons, List.append_assoc]
      rwa [solid_cons _ hne] at hdir

section Plain
variable {disk : Disk} {p : Path}

theorem settles_of_directory (hdots : p.DotFree) (hne : p.text ≠ []) (hfits : p.Fits)
    (hdir : disk.root.view ((disk.startTrail p).reverse ++ p.names.dropLast) = some .directory) :
    disk.Settles p := by
  refine ⟨checkPath_of_fits hne hfits, ?_, by rwa [innerTrail_eq hdots]⟩
  refine passable_dotFree (fun piece h => hdots piece (mem_of_mem_inner h))
    (fun piece h => hfits.name_short piece (mem_of_mem_inner h)) _ ?_
  rwa [solid_inner hdots]

end Plain

end Disk

end LuaReference
