import LuaReference.Proofs.Text.LineEnd

/-!
# Trimmed texts and lines

* `exists_append_trim` : trimming takes blanks from the ends and nothing else;
* `isInfix_trim`, `trim_trim`, `trim_eq_nil` : what it leaves;
* `isInfix_of_mem_lines` : a line stands in its text;
* `not_newline_of_mem_lines` : a line holds no newline;
* `pieceLines` : the lines of a text that another line follows;
* `lines_join` : the lines of texts below each other are the lines of each of them.
-/

namespace LuaReference.Text

/-! ## Trimming -/

/-- Trimming takes nothing but blanks from the end. -/
theorem exists_trimEnd_append (t : Text) : ∃ tail, t = trimEnd t ++ tail ∧ ∀ c ∈ tail, isBlank c = true := by
  induction t with
  | nil => exact ⟨[], rfl, by simp⟩
  | cons c t ih =>
    obtain ⟨tail, ht, htail⟩ := ih
    rw [trimEnd_cons]
    split
    · rename_i hblank
      refine ⟨c :: t, rfl, List.forall_mem_cons.2 ⟨hblank.2, ?_⟩⟩
      rw [ht, hblank.1]
      exact htail
    · exact ⟨tail, congrArg (c :: ·) ht, htail⟩

theorem trimEnd_append_of_ne_nil {t : Text} (h : trimEnd t ≠ []) (s : Text) :
    trimEnd (s ++ t) = s ++ trimEnd t := by
  obtain ⟨tail, ht, htail⟩ := exists_trimEnd_append t
  calc trimEnd (s ++ t)
      = trimEnd ((s ++ trimEnd t) ++ tail) := by rw [List.append_assoc, ← ht]
    _ = trimEnd (s ++ trimEnd t) := trimEnd_append_blanks htail _
    _ = s ++ trimEnd t := trimEnd_append h (trimEnd_trimEnd t)

theorem isPrefix_trimEnd (t : Text) : trimEnd t <+: t := by
  obtain ⟨tail, ht, -⟩ := exists_trimEnd_append t
  exact ⟨tail, ht.symm⟩

/-- Trimming takes nothing but blanks from the ends. -/
theorem exists_append_trim (t : Text) :
    ∃ space tail, t = space ++ (trim t ++ tail) ∧ (∀ c ∈ space, isBlank c = true) ∧
      ∀ c ∈ tail, isBlank c = true := by
  obtain ⟨tail, ht, htail⟩ := exists_trimEnd_append (trimStart t)
  refine ⟨t.takeWhile isBlank, tail, ?_, fun c hc => List.all_eq_true.1 List.all_takeWhile c hc, htail⟩
  rw [trim, ← ht]
  exact List.takeWhile_append_dropWhile.symm

theorem isInfix_trim (t : Text) : trim t <:+: t := by
  obtain ⟨space, tail, ht, -⟩ := exists_append_trim t
  exact ⟨space, tail, by rw [List.append_assoc, ← ht]⟩

theorem trim_subset (t : Text) : trim t ⊆ t := (isInfix_trim t).subset

theorem trimStart_trimStart (t : Text) : trimStart (trimStart t) = trimStart t := by
  refine trimStart_eq_self_iff.2 fun c hc => ?_
  have hhead := List.head?_dropWhile_not isBlank t
  rw [trimStart] at hc
  rwa [hc] at hhead

theorem trim_trim (t : Text) : trim (trim t) = trim t := by
  unfold trim
  rw [trimStart_trimEnd, trimStart_trimStart, trimEnd_trimEnd]

/-- A text of which nothing is left is blank. -/
theorem trim_eq_nil {t : Text} (h : trim t = []) : ∀ c ∈ t, isBlank c = true := by
  obtain ⟨space, tail, ht, hspace, htail⟩ := exists_append_trim t
  intro c hc
  rw [ht, h, List.nil_append, List.mem_append] at hc
  exact hc.elim (hspace c) (htail c)

/-! ## Lines -/

theorem dropEnd_cases (ending t : Text) : dropEnd ending t = t ∨ dropEnd ending t ++ ending = t := by
  unfold dropEnd before?
  cases hrest : after? ending.reverse t.reverse with
  | none => exact Or.inl rfl
  | some rest =>
    have ht := congrArg List.reverse (after?_eq_some_iff.1 hrest)
    rw [List.reverse_reverse, List.reverse_append, List.reverse_reverse] at ht
    exact Or.inr ht.symm

theorem isPrefix_dropEnd (ending t : Text) : dropEnd ending t <+: t := by
  rcases dropEnd_cases ending t with hsame | hcut
  · exact hsame.symm ▸ List.prefix_refl t
  · exact ⟨ending, hcut⟩

theorem mem_linesOfPieces {pieces : List Text} {line : Text} (h : line ∈ linesOfPieces pieces) :
    ∃ piece ∈ pieces, line <+: piece := by
  fun_induction linesOfPieces pieces with
  | case1 => cases h
  | case2 last hempty => cases h
  | case3 last hempty => exact ⟨last, by simp, by simp [List.mem_singleton.1 h]⟩
  | case4 piece next rest ih =>
    rcases List.mem_cons.1 h with rfl | hrest
    · exact ⟨piece, by simp, isPrefix_dropEnd _ piece⟩
    · obtain ⟨found, hfound, hpre⟩ := ih hrest
      exact ⟨found, List.mem_cons_of_mem piece hfound, hpre⟩

/-- A line stands in its text. -/
theorem isInfix_of_mem_lines {t line : Text} (h : line ∈ lines t) : line <:+: t := by
  obtain ⟨piece, hpiece, hpre⟩ := mem_linesOfPieces h
  exact hpre.isInfix.trans (isInfix_of_mem_splitOn hpiece)

/-- A line holds no newline. -/
theorem not_newline_of_mem_lines {t line : Text} (h : line ∈ lines t) : '\n' ∉ line := by
  obtain ⟨piece, hpiece, hpre⟩ := mem_linesOfPieces h
  exact fun hmem => not_mem_of_mem_splitOn piece hpiece (hpre.subset hmem)

/-- The lines of a text that has more lines below it. -/
def pieceLines (t : Text) : List Text := (splitOn '\n' t).map (dropEnd ['\r'])

theorem pieceLines_newline (t : Text) : pieceLines (t ++ "\n") = pieceLines t ++ [[]] := by
  unfold pieceLines
  rw [show t ++ ("\n" : Text) = t ++ '\n' :: [] from rfl, splitOn_append_cons, List.map_append]
  rfl

theorem pieceLines_of_single {t : Text} (h : '\n' ∉ t) : pieceLines t = [dropEnd ['\r'] t] := by
  rw [pieceLines, splitOn_of_not_mem h, List.map_singleton]

theorem lines_of_single {t : Text} (h : '\n' ∉ t) (hne : t ≠ []) : lines t = [t] := by
  simp [lines, splitOn_of_not_mem h, linesOfPieces, hne]

/-- An empty piece after the last newline is no line. -/
theorem linesOfPieces_concat_nil (pieces : List Text) :
    linesOfPieces (pieces ++ [[]]) = pieces.map (dropEnd ['\r']) := by
  induction pieces with
  | nil => rfl
  | cons piece pieces ih =>
    cases pieces with
    | nil => rfl
    | cons next rest =>
      rw [List.cons_append, List.cons_append, linesOfPieces, ← List.cons_append, ih]
      rfl

theorem splitOn_join_newline {pieces : List Text} (h : pieces ≠ []) :
    splitOn '\n' (join "\n" pieces) = pieces.flatMap (splitOn '\n') := by
  induction pieces with
  | nil => exact absurd rfl h
  | cons piece pieces ih =>
    cases pieces with
    | nil => simp [join]
    | cons next rest =>
      have hjoin : join "\n" (piece :: next :: rest) = piece ++ '\n' :: join "\n" (next :: rest) := by
        rw [join_cons_cons, List.append_assoc]
        rfl
      rw [hjoin, splitOn_append_cons, ih (by simp)]
      rfl

/-- Texts that stand below each other, with a newline after the last: each brings its own lines. -/
theorem lines_join {pieces : List Text} (h : pieces ≠ []) :
    lines (join "\n" pieces ++ "\n") = pieces.flatMap pieceLines := by
  unfold lines
  rw [show join "\n" pieces ++ ("\n" : Text) = join "\n" pieces ++ '\n' :: [] from rfl,
    splitOn_append_cons, show splitOn '\n' [] = [[]] from rfl, linesOfPieces_concat_nil,
    splitOn_join_newline h, List.map_flatMap]
  rfl

end LuaReference.Text
