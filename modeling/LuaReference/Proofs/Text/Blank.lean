import LuaReference.Proofs.Text.Lines

/-!
# Texts without their blanks

* `withoutBlanks t` : the characters of a text that are not blank;
* `withoutBlanks_trim`, `withoutBlanks_join`, `withoutBlanks_lines` : trimming, joining at blanks and
  cutting into lines keep all of them;
* `withoutBlanks_eq_nil_iff` : there are none just in a blank text.
-/

namespace LuaReference.Text

/-- The characters of a text that are not blank. -/
def withoutBlanks (t : Text) : Text := t.filter fun c => !isBlank c

@[simp] theorem withoutBlanks_nil : withoutBlanks [] = [] := rfl

@[simp] theorem withoutBlanks_append (s t : Text) :
    withoutBlanks (s ++ t) = withoutBlanks s ++ withoutBlanks t :=
  List.filter_append s t

theorem withoutBlanks_eq_nil_iff {t : Text} : withoutBlanks t = [] ↔ isBlankText t = true := by
  unfold withoutBlanks isBlankText
  rw [List.filter_eq_nil_iff, List.all_eq_true]
  simp

theorem withoutBlanks_of_blank {t : Text} (h : ∀ c ∈ t, isBlank c = true) : withoutBlanks t = [] :=
  withoutBlanks_eq_nil_iff.2 (List.all_eq_true.2 h)

theorem withoutBlanks_of_solid {t : Text} (h : ∀ c ∈ t, isBlank c = false) : withoutBlanks t = t :=
  List.filter_eq_self.2 fun c hc => by simp [h c hc]

theorem withoutBlanks_trim (t : Text) : withoutBlanks (trim t) = withoutBlanks t := by
  obtain ⟨space, tail, ht, hspace, htail⟩ := exists_append_trim t
  have hall := congrArg withoutBlanks ht
  rw [withoutBlanks_append, withoutBlanks_append, withoutBlanks_of_blank hspace,
    withoutBlanks_of_blank htail, List.nil_append, List.append_nil] at hall
  exact hall.symm

/-- A trimmed text that is not empty is not blank. -/
theorem withoutBlanks_ne_nil {t : Text} (hne : t ≠ []) (htrim : trim t = t) : withoutBlanks t ≠ [] := by
  intro hnil
  obtain ⟨c, rest, rfl⟩ := List.exists_cons_of_ne_nil hne
  have hblank := List.all_eq_true.1 (withoutBlanks_eq_nil_iff.1 hnil) c List.mem_cons_self
  have hsolid := trimStart_eq_self_iff.1 (trim_eq_self_iff.1 htrim).1 c rfl
  rw [hsolid] at hblank
  cases hblank

/-- What is put between pieces is not seen when it is blank. -/
theorem withoutBlanks_join {separator : Text} (h : ∀ c ∈ separator, isBlank c = true)
    (pieces : List Text) : withoutBlanks (join separator pieces) = pieces.flatMap withoutBlanks := by
  induction pieces with
  | nil => rfl
  | cons first rest ih =>
    cases rest with
    | nil => simp [join]
    | cons second rest =>
      rw [join_cons_cons, withoutBlanks_append, withoutBlanks_append, withoutBlanks_of_blank h,
        List.append_nil, ih]
      rfl

theorem withoutBlanks_dropReturn (t : Text) : withoutBlanks (dropEnd ['\r'] t) = withoutBlanks t := by
  rcases dropEnd_cases ['\r'] t with hsame | hcut
  · rw [hsame]
  · have hreturn : withoutBlanks ['\r'] = [] := by decide
    have hall := congrArg withoutBlanks hcut
    rwa [withoutBlanks_append, hreturn, List.append_nil] at hall

theorem withoutBlanks_linesOfPieces (pieces : List Text) :
    (linesOfPieces pieces).flatMap withoutBlanks = pieces.flatMap withoutBlanks := by
  fun_induction linesOfPieces pieces with
  | case1 => rfl
  | case2 last hempty =>
    rw [List.isEmpty_iff.1 hempty]
    rfl
  | case3 last hempty => rfl
  | case4 piece next rest ih =>
    rw [List.flatMap_cons, ih, withoutBlanks_dropReturn]
    rfl

/-- The lines of a text have all of its characters but blanks. -/
theorem withoutBlanks_lines (t : Text) : (lines t).flatMap withoutBlanks = withoutBlanks t := by
  have hnewline : ∀ c ∈ ['\n'], isBlank c = true := by simp [isBlank]
  calc (lines t).flatMap withoutBlanks
      = (splitOn '\n' t).flatMap withoutBlanks := withoutBlanks_linesOfPieces _
    _ = withoutBlanks (join ['\n'] (splitOn '\n' t)) := (withoutBlanks_join hnewline _).symm
    _ = withoutBlanks t := by rw [join_splitOn]

end LuaReference.Text
