import LuaReference.Proofs.Files.Lineage
import LuaReference.Proofs.Text.Mark

/-!
# Components of paths

* `components_join` : a name put into a directory is one more component;
* `componentOf_cases`, `firstComponent_cases` : what a piece stands for;
* `root_not_mem_tail` : the root is the first component;
* `not_slash_of_name`, `not_slash_of_stem` : no name on a path holds a slash, nor does its stem.
-/

namespace LuaReference

open Text

namespace Path

/-! ## A name in a directory -/

/-- One more piece, a name, is one more component; idle pieces that it takes the place of were none. -/
theorem components_of_pieces {p q : Path} {name : Text} (front idles : List Text) (hfront : front ≠ [])
    (hidles : ∀ piece ∈ idles, isIdle piece = true) (hname : Disk.IsName name)
    (hp : p.pieces = front ++ idles) (hq : q.pieces = front ++ [name])
    (habs : q.isAbsolute = p.isAbsolute) : q.components = p.components ++ [.name name] := by
  obtain ⟨first, rest, rfl⟩ := List.exists_cons_of_ne_nil hfront
  have hnone : idles.filter (fun piece => !isIdle piece) = [] :=
    List.filter_eq_nil_iff.2 fun piece hpiece => by simp [hidles piece hpiece]
  have hlast : [name].filter (fun piece => !isIdle piece) = [name] :=
    List.filter_eq_self.2 fun piece hpiece => by
      rw [List.mem_singleton.1 hpiece, hname.1]
      rfl
  have hcomponent : componentOf name = .name name := if_neg hname.2
  rw [List.cons_append] at hp hq
  simp only [components, hp, hq, habs, List.filter_append, hnone, hlast, List.append_nil, List.map_append,
    List.map_cons, List.map_nil, hcomponent, List.append_assoc]

theorem startsWith_slash_append {t : Text} (h : t ≠ []) (s : Text) :
    startsWith "/" (t ++ s) = startsWith "/" t := by
  obtain ⟨c, r, rfl⟩ := List.exists_cons_of_ne_nil h
  rw [List.cons_append, startsWith_slash, startsWith_slash]

theorem startsWith_slash_of_not_mem {t : Text} (h : '/' ∉ t) : startsWith "/" t = false := by
  refine Bool.eq_false_iff.2 fun hstart => ?_
  obtain ⟨rest, rfl⟩ := startsWith_iff.1 hstart
  exact h List.mem_cons_self

section Name
variable {name : Text} (hname : Disk.IsName name) (hslash : '/' ∉ name)
include hname hslash

theorem components_name : (⟨name⟩ : Path).components = [.name name] := by
  have hdot : name ≠ "." := fun hdot => absurd (hdot ▸ hname.1) (by decide)
  have hempty : name.isEmpty = false := by simpa using hname.ne_nil
  have hfirst : firstComponent (startsWith "/" name) name = [.name name] := by
    rw [firstComponent, hempty, if_neg Bool.false_ne_true, if_neg hdot, componentOf, if_neg hname.2]
  rw [components, pieces, splitOn_of_not_mem hslash]
  exact (List.append_nil _).trans hfirst

/-- A name put into a directory is one more component. -/
theorem components_join (dir : Path) : (dir.join name).components = dir.components ++ [.name name] := by
  have hsplit : splitOn '/' name = [name] := splitOn_of_not_mem hslash
  obtain ⟨t⟩ := dir
  rw [join, startsWith_slash_of_not_mem hslash, if_neg Bool.false_ne_true]
  rcases List.eq_nil_or_concat t with rfl | ⟨front, last, ht⟩
  · -- the empty path, which has no components
    exact components_name hname hslash
  · rw [List.concat_eq_append] at ht
    have hne : t ≠ [] := by simp [ht]
    split
    · rename_i hend
      have hend : last = '/' := by simpa [ht] using hend
      rw [hend] at ht
      refine components_of_pieces (splitOn '/' front) [[]] (splitOn_ne_nil _ _) (by decide)
        hname ?_ ?_ (startsWith_slash_append hne _)
      · rw [pieces, ht]
        exact splitOn_append_cons '/' front []
      · rw [pieces, ht, List.append_assoc, List.singleton_append, splitOn_append_cons, hsplit]
    · refine components_of_pieces (splitOn '/' t) [] (splitOn_ne_nil _ _) (by decide)
        hname ?_ ?_ (startsWith_slash_append hne _)
      · rw [List.append_nil]
        rfl
      · rw [pieces, splitOn_append_cons, hsplit]

end Name

/-! ## Names on a path -/

theorem componentOf_cases (piece : Text) : componentOf piece = .up ∨ componentOf piece = .name piece := by
  unfold componentOf
  split
  · exact Or.inl rfl
  · exact Or.inr rfl

/-- The first piece is at most one component. -/
theorem firstComponent_cases (absolute : Bool) (piece : Text) :
    firstComponent absolute piece = [] ∨
      ∃ c, firstComponent absolute piece = [c] ∧ (c = .root ∨ c = .here ∨ c = componentOf piece) := by
  unfold firstComponent
  split
  · split
    · exact Or.inr ⟨_, rfl, Or.inl rfl⟩
    · exact Or.inl rfl
  · split
    · exact Or.inr ⟨_, rfl, Or.inr (Or.inl rfl)⟩
    · exact Or.inr ⟨_, rfl, Or.inr (Or.inr rfl)⟩

/-- The root is nothing but the first component. -/
theorem root_not_mem_tail (p : Path) : Component.root ∉ p.components.tail := by
  have hof : ∀ pieces : List Text, Component.root ∉ pieces.map componentOf := by
    intro pieces hmem
    obtain ⟨piece, -, hpiece⟩ := List.mem_map.1 hmem
    rcases componentOf_cases piece with hup | hname
    · exact absurd (hup.symm.trans hpiece) (by simp)
    · exact absurd (hname.symm.trans hpiece) (by simp)
  unfold components
  split
  · exact List.not_mem_nil
  · rename_i first rest _
    intro hmem
    rcases firstComponent_cases p.isAbsolute first with hnone | ⟨c, hc, -⟩
    · rw [hnone] at hmem
      exact hof _ (List.mem_of_mem_tail hmem)
    · rw [hc] at hmem
      exact hof _ hmem

theorem mem_pieces_of_name {p : Path} {n : Text} (h : .name n ∈ p.components) : n ∈ p.pieces := by
  have hof : ∀ piece, Component.name n = componentOf piece → n = piece := by
    intro piece hpiece
    rcases componentOf_cases piece with hup | hname
    · exact absurd (hpiece.trans hup) (by simp)
    · exact Component.name.inj (hpiece.trans hname)
  unfold components at h
  split at h
  · cases h
  · rename_i first rest hpieces
    rw [hpieces]
    rcases List.mem_append.1 h with hfirst | hrest
    · rcases firstComponent_cases p.isAbsolute first with hnone | ⟨c, hc, hkind⟩
      · rw [hnone] at hfirst
        cases hfirst
      · rw [hc, List.mem_singleton] at hfirst
        subst hfirst
        rcases hkind with hroot | hhere | hpiece
        · cases hroot
        · cases hhere
        · exact hof first hpiece ▸ List.mem_cons_self
    · obtain ⟨piece, hpiece, hcomponent⟩ := List.mem_map.1 hrest
      rw [hof piece hcomponent.symm]
      exact List.mem_cons_of_mem first (List.mem_filter.1 hpiece).1

theorem not_slash_of_name {p : Path} {n : Text} (h : .name n ∈ p.components) : '/' ∉ n :=
  not_slash_of_mem (mem_pieces_of_name h)

theorem cutName_subset (name : Text) : (cutName name).1 ⊆ name := by
  unfold cutName
  split
  · rename_i ending front hcut
    split
    · exact List.Subset.refl name
    · intro c hc
      have hreverse : name.reverse = ending ++ ("." ++ front) := (eq_append_of_cut? hcut).1
      rw [← List.mem_reverse, hreverse]
      exact List.mem_append_right _ (List.mem_append_right _ (List.mem_reverse.1 hc))
  · exact List.Subset.refl name

theorem not_slash_of_stem (p : Path) : '/' ∉ p.stem := by
  unfold stem fileName?
  split
  · rename_i n hlast
    have hmem : Component.name n ∈ p.components := List.mem_of_getLast? hlast
    exact fun hslash => not_slash_of_name hmem (cutName_subset n hslash)
  · exact List.not_mem_nil

end Path

end LuaReference
