import LuaReference.Proofs.Text.Ends
import LuaReference.Proofs.Text.Position
import LuaReference.Text.Indent
import Mathlib.Data.List.Forall2

/-!
# Unindented lines

* `commonIndent_least` : what lines share is the least indentation of those that are not blank;
* `Unindented width line rest` : what is left of a line that loses `width` bytes of indentation, and
  `unindented_unindentLine`, that it is what unindenting leaves;
* `unindentLine_eq` : a line loses nothing but blanks at its start;
* `map_trim_unindent` : up to the blanks around them, the lines stay as they are;
* `exists_solid_head` : a line that is not blank starts without indentation, unless all are blank;
* `unindent_unindent` : lines lose their indentation once;
* `Unindented.of_ascii` : indentation of single bytes goes by characters;
* `unindent_lines` : all of this of the lines of one code.
-/

namespace LuaReference.Text

theorem trim_blanks_append {front : Text} (h : ∀ c ∈ front, isBlank c = true) (t : Text) :
    trim (front ++ t) = trim t := by
  unfold trim trimStart
  rw [List.dropWhile_append_of_pos h]

theorem isBlankText_iff {t : Text} : isBlankText t = true ↔ ∀ c ∈ t, isBlank c = true :=
  List.all_eq_true

/-- After its indentation a line that is not blank starts with another character. -/
theorem exists_code {line : Text} (h : isBlankText line = false) :
    ∃ c rest, line = line.takeWhile isBlank ++ c :: rest ∧ isBlank c = false := by
  have hhead := List.head?_dropWhile_not isBlank line
  cases hcode : line.dropWhile isBlank with
  | nil =>
    have hline : line.takeWhile isBlank = line := by
      rw [← List.append_nil (line.takeWhile isBlank), ← hcode, List.takeWhile_append_dropWhile]
    rw [isBlankText, ← hline, List.all_takeWhile] at h
    cases h
  | cons c rest =>
    rw [hcode] at hhead
    refine ⟨c, rest, ?_, hhead⟩
    rw [← hcode, List.takeWhile_append_dropWhile]

/-! ## The common indentation -/

/-- Unless all lines are blank, what they share is the least indentation that one of the others has. -/
theorem commonIndent_least {code : List Text} (h : ∃ line ∈ code, isBlankText line = false) :
    (∃ line ∈ code, isBlankText line = false ∧ indentWidth line = commonIndent code) ∧
      ∀ line ∈ code, isBlankText line = false → commonIndent code ≤ indentWidth line := by
  have hmem : ∀ n, n ∈ (code.filter fun line => !isBlankText line).map indentWidth ↔
      ∃ line ∈ code, isBlankText line = false ∧ indentWidth line = n := by
    simp [and_assoc]
  unfold commonIndent
  cases hmin : ((code.filter fun line => !isBlankText line).map indentWidth).min? with
  | none =>
    obtain ⟨line, hline, hsolid⟩ := h
    have hwidth := (hmem (indentWidth line)).2 ⟨line, hline, hsolid, rfl⟩
    rw [List.min?_eq_none_iff.1 hmin] at hwidth
    cases hwidth
  | some least =>
    obtain ⟨hin, hle⟩ := List.min?_eq_some_iff.1 hmin
    exact ⟨(hmem least).1 hin, fun line hline hsolid => hle _ ((hmem _).2 ⟨line, hline, hsolid, rfl⟩)⟩

/-- The indentation that lines share is at most that of each of them. -/
theorem commonIndent_le {code : List Text} {line : Text} (hmem : line ∈ code)
    (hline : isBlankText line = false) : commonIndent code ≤ indentWidth line :=
  (commonIndent_least ⟨line, hmem, hline⟩).2 line hmem hline

theorem commonIndent_of_blank {code : List Text} (h : ∀ line ∈ code, isBlankText line = true) :
    commonIndent code = 0 := by
  have hnone : (code.filter fun line => !isBlankText line) = [] := by
    refine List.filter_eq_nil_iff.2 fun line hmem => ?_
    simp [h line hmem]
  rw [commonIndent, hnone]
  rfl

/-! ## One line -/

/-- What is left of a line that loses `width` bytes of indentation. -/
inductive Unindented (width : Nat) : Text → Text → Prop where
  /-- Of a blank line nothing is left. -/
  | blank {line : Text} (hline : isBlankText line = true) : Unindented width line []
  /-- Blanks of that width go. -/
  | cut {front rest : Text} (hfront : ∀ c ∈ front, isBlank c = true)
      (hwidth : byteLength front = width) (hrest : isBlankText rest = false) :
      Unindented width (front ++ rest) rest
  /-- The width ends inside a blank of the indentation, and all of the line stays. -/
  | kept {front rest : Text} {c : Char} (hfront : ∀ c ∈ front, isBlank c = true)
      (hc : isBlank c = true) (hbefore : byteLength front < width)
      (hafter : width < byteLength front + c.utf8Size) (hrest : isBlankText rest = false) :
      Unindented width (front ++ c :: rest) (front ++ c :: rest)

theorem isBlankText_append {front : Text} (h : ∀ c ∈ front, isBlank c = true) (rest : Text) :
    isBlankText (front ++ rest) = isBlankText rest := by
  rw [isBlankText, List.all_append, List.all_eq_true.2 h, Bool.true_and, isBlankText]

theorem isBlankText_append_cons {front : Text} (h : ∀ c ∈ front, isBlank c = true) {c : Char}
    (hc : isBlank c = true) (rest : Text) : isBlankText (front ++ c :: rest) = isBlankText rest := by
  rw [isBlankText_append h, isBlankText, List.all_cons, hc, Bool.true_and, isBlankText]

theorem indentWidth_le (line : Text) : indentWidth line ≤ byteLength line := by
  have hsplit := congrArg byteLength (List.takeWhile_append_dropWhile (p := isBlank) (l := line))
  rw [byteLength_append] at hsplit
  unfold indentWidth
  omega

/-- What a line starts with, where that is no longer than its indentation, is blank, and the indentation
goes on after it. -/
theorem exists_indent_append {front rest : Text}
    (h : byteLength front ≤ indentWidth (front ++ rest)) :
    ∃ more, (front ++ rest).takeWhile isBlank = front ++ more ∧
      rest = more ++ (front ++ rest).dropWhile isBlank ∧ ∀ c ∈ front ++ more, isBlank c = true := by
  obtain ⟨more, hindent, hrest⟩ := append_of_byteLength_le List.takeWhile_append_dropWhile.symm h
  exact ⟨more, hindent, hrest, hindent ▸ List.all_eq_true.1 List.all_takeWhile⟩

theorem unindented_of_append {front rest : Text} (hline : isBlankText (front ++ rest) = false)
    (h : byteLength front ≤ indentWidth (front ++ rest)) :
    Unindented (byteLength front) (front ++ rest) rest := by
  obtain ⟨more, -, -, hblanks⟩ := exists_indent_append h
  have hfront : ∀ c ∈ front, isBlank c = true := fun c hc => hblanks c (List.mem_append_left more hc)
  refine .cut hfront rfl ?_
  rwa [isBlankText_append hfront] at hline

/-- A width within the indentation that ends inside a character ends inside a blank. -/
theorem unindented_of_inside {width : Nat} {front rest : Text} {c : Char}
    (hline : isBlankText (front ++ c :: rest) = false) (h : width ≤ indentWidth (front ++ c :: rest))
    (hbefore : byteLength front < width) (hafter : width < byteLength front + c.utf8Size) :
    Unindented width (front ++ c :: rest) (front ++ c :: rest) := by
  obtain ⟨more, hindent, hrest, hblanks⟩ :=
    exists_indent_append (Nat.le_trans (Nat.le_of_lt hbefore) h)
  -- the indentation is longer than the front, so it goes on with the character after it
  cases more with
  | nil =>
    rw [indentWidth, hindent, List.append_nil] at h
    omega
  | cons d more =>
    obtain ⟨rfl, -⟩ := List.cons.inj hrest
    have hc : isBlank c = true := hblanks c (by simp)
    have hfront : ∀ c ∈ front, isBlank c = true := fun c hmem =>
      hblanks c (List.mem_append_left _ hmem)
    refine .kept hfront hc hbefore hafter ?_
    rwa [isBlankText_append_cons hfront hc] at hline

theorem unindented_unindentLine {width : Nat} {line : Text}
    (h : isBlankText line = false → width ≤ indentWidth line) :
    Unindented width line (unindentLine width line) := by
  unfold unindentLine
  cases hline : isBlankText line with
  | true => exact .blank hline
  | false =>
    specialize h hline
    rw [if_neg (by simp)]
    cases hdrop : dropBytes? width line with
    | some rest =>
      obtain ⟨front, rfl, rfl⟩ := eq_append_of_dropBytes? hdrop
      exact unindented_of_append hline h
    | none =>
      obtain ⟨front, c, rest, rfl, hbefore, hafter⟩ :=
        exists_char_of_dropBytes? hdrop (Nat.le_trans h (indentWidth_le line))
      exact unindented_of_inside hline h hbefore hafter

section Unindented
variable {width : Nat} {line rest : Text} (h : Unindented width line rest)
include h

/-- Only blanks at the start of a line are lost. -/
theorem Unindented.exists_append : ∃ front, line = front ++ rest ∧ ∀ c ∈ front, isBlank c = true := by
  cases h with
  | blank hline => exact ⟨line, by simp, isBlankText_iff.1 hline⟩
  | cut hfront => exact ⟨_, rfl, hfront⟩
  | kept => exact ⟨[], rfl, by simp⟩

theorem Unindented.isBlankText_eq : isBlankText rest = isBlankText line := by
  obtain ⟨front, rfl, hfront⟩ := h.exists_append
  exact (isBlankText_append hfront rest).symm

theorem Unindented.eq_nil (hrest : isBlankText rest = true) : rest = [] := by
  rw [h.isBlankText_eq] at hrest
  cases h with
  | blank => rfl
  | cut hfront _ hrest' =>
    rw [isBlankText_append hfront, hrest'] at hrest
    cases hrest
  | kept hfront hc _ _ hrest' =>
    rw [isBlankText_append_cons hfront hc, hrest'] at hrest
    cases hrest

end Unindented

/-! ## The lines of a code -/

theorem unindented_of_mem {code : List Text} {line : Text} (hmem : line ∈ code) :
    Unindented (commonIndent code) line (unindentLine (commonIndent code) line) :=
  unindented_unindentLine fun hline => commonIndent_le hmem hline

/-- A line loses blanks at its start and nothing else. -/
theorem unindentLine_eq {code : List Text} {line : Text} (hmem : line ∈ code) :
    ∃ front, line = front ++ unindentLine (commonIndent code) line ∧
      ∀ c ∈ front, isBlank c = true :=
  (unindented_of_mem hmem).exists_append

theorem trim_unindentLine {code : List Text} {line : Text} (hmem : line ∈ code) :
    trim (unindentLine (commonIndent code) line) = trim line := by
  obtain ⟨front, hline, hfront⟩ := unindentLine_eq hmem
  calc trim (unindentLine (commonIndent code) line)
      = trim (front ++ unindentLine (commonIndent code) line) := (trim_blanks_append hfront _).symm
    _ = trim line := by rw [← hline]

/-- Up to the blanks around them, unindented lines are the lines that they were. -/
theorem map_trim_unindent (code : List Text) : (unindent code).map trim = code.map trim := by
  unfold unindent
  rw [List.map_map]
  exact List.map_congr_left fun line hmem => trim_unindentLine hmem

theorem unindentLine_suffix {code : List Text} {line : Text} (hmem : line ∈ code) :
    unindentLine (commonIndent code) line <:+ line := by
  obtain ⟨front, hline, -⟩ := unindentLine_eq hmem
  exact ⟨front, hline.symm⟩

/-- The end of a line without blanks at its end has none either. -/
theorem trimEnd_of_suffix {s t : Text} (hs : s <:+ t) (ht : trimEnd t = t) : trimEnd s = s := by
  obtain ⟨front, rfl⟩ := hs
  rw [trimEnd_eq_self_iff] at ht ⊢
  intro c hc
  refine ht c ?_
  rw [List.getLast?_append, hc]
  rfl

/-! ## No indentation is left -/

/-- The line with the least indentation loses all of it. -/
theorem exists_solid_head {code : List Text} (h : ∃ line ∈ code, isBlankText line = false) :
    ∃ c rest, c :: rest ∈ unindent code ∧ isBlank c = false := by
  obtain ⟨line, hmem, hline, hwidth⟩ := (commonIndent_least h).1
  obtain ⟨c, rest, hcode, hc⟩ := exists_code hline
  have hleft : unindentLine (commonIndent code) line = c :: rest := by
    have hdrop := dropBytes?_append (line.takeWhile isBlank) (c :: rest)
    rw [← hcode] at hdrop
    rw [unindentLine, hline, ← hwidth, indentWidth, hdrop]
    rfl
  exact ⟨c, rest, List.mem_map.2 ⟨line, hmem, hleft⟩, hc⟩

theorem commonIndent_unindent (code : List Text) : commonIndent (unindent code) = 0 := by
  by_cases hsolid : ∃ line ∈ code, isBlankText line = false
  · obtain ⟨c, rest, hmem, hc⟩ := exists_solid_head hsolid
    have hle := commonIndent_le hmem (by simp [isBlankText, hc])
    rw [indentWidth, List.takeWhile_cons_of_neg (by simp [hc])] at hle
    exact Nat.le_zero.1 hle
  · refine commonIndent_of_blank fun rest hrest => ?_
    obtain ⟨line, hmem, rfl⟩ := List.mem_map.1 hrest
    rw [(unindented_of_mem hmem).isBlankText_eq]
    exact Bool.of_not_eq_false fun hline => hsolid ⟨line, hmem, hline⟩

/-- Lines lose their indentation once. -/
theorem unindent_unindent (code : List Text) : unindent (unindent code) = unindent code := by
  rw [unindent, commonIndent_unindent]
  refine (List.map_congr_left fun rest hrest => ?_).trans (List.map_id _)
  obtain ⟨line, hmem, rfl⟩ := List.mem_map.1 hrest
  rw [id, unindentLine]
  split
  · rename_i hblank
    exact ((unindented_of_mem hmem).eq_nil hblank).symm
  · rw [dropBytes?, Option.getD_some]

/-! ## Indentation of single bytes -/

/-- How many blanks a line starts with. -/
def indentation (line : Text) : Nat := (line.takeWhile isBlank).length

theorem utf8Size_of_ascii {c : Char} (h : c.toNat < 128) : c.utf8Size = 1 :=
  Char.utf8Size_eq_one_iff.2 (UInt32.le_iff_toNat_le.2 (Nat.le_of_lt_succ h))

theorem byteLength_of_ascii {t : Text} (h : ∀ c ∈ t, c.toNat < 128) : byteLength t = t.length := by
  induction t with
  | nil => rfl
  | cons c t ih =>
    rw [List.forall_mem_cons] at h
    rw [byteLength, utf8Size_of_ascii h.1, ih h.2, List.length_cons, Nat.add_comm]

/-- Where every blank of the indentation is one byte, as many characters go as the width has bytes. -/
theorem Unindented.of_ascii {width : Nat} {line rest : Text} (h : Unindented width line rest)
    (hline : isBlankText line = false) (hascii : ∀ c ∈ line.takeWhile isBlank, c.toNat < 128) :
    rest = line.drop width ∧ indentation line = indentation rest + width := by
  cases h with
  | blank hblank =>
    rw [hblank] at hline
    cases hline
  | @cut front _ hfront hwidth =>
    rw [List.takeWhile_append_of_pos hfront] at hascii
    have hlength := byteLength_of_ascii fun c hc => hascii c (List.mem_append_left _ hc)
    have hdrop : front.length = width := hlength.symm.trans hwidth
    constructor
    · rw [← hdrop, List.drop_left]
    · rw [indentation, List.takeWhile_append_of_pos hfront, List.length_append, hdrop, Nat.add_comm,
        indentation]
  | @kept front rest c hfront hc hbefore hafter =>
    rw [List.takeWhile_append_of_pos hfront, List.takeWhile_cons_of_pos hc] at hascii
    have hsize := utf8Size_of_ascii (hascii c (by simp))
    omega

/-- Unindenting takes one width from all lines. They stay as many and keep all but blanks at their
start; unless all are blank, one of them is left without indentation, and there is none to take a
second time. Where the indentation is made of single bytes, every line that is not blank loses the same
number of characters, so that lines stand to each other as they did. -/
theorem unindent_lines (code : List Text) :
    ∃ width,
      (unindent code).length = code.length ∧
      List.Forall₂ (Unindented width) code (unindent code) ∧
      (unindent code).map trim = code.map trim ∧
      ((∃ line ∈ code, isBlankText line = false) →
        ∃ c rest, c :: rest ∈ unindent code ∧ isBlank c = false) ∧
      unindent (unindent code) = unindent code ∧
      ((∀ line ∈ code, isBlankText line = false → ∀ c ∈ line.takeWhile isBlank, c.toNat < 128) →
        List.Forall₂ (fun line rest => isBlankText line = false →
          rest = line.drop width ∧ indentation line = indentation rest + width) code (unindent code)) := by
  refine ⟨commonIndent code, List.length_map _, ?_, map_trim_unindent code, exists_solid_head,
    unindent_unindent code, fun hascii => ?_⟩
  · rw [unindent, List.forall₂_map_right_iff, List.forall₂_same]
    exact fun line hmem => unindented_of_mem hmem
  · rw [unindent, List.forall₂_map_right_iff, List.forall₂_same]
    exact fun line hmem hline => (unindented_of_mem hmem).of_ascii hline (hascii line hmem hline)

-- the width is the four bytes of the second line, which end inside a blank of the first: it has three
example : unindent ["\u3000\u3000a", "    b", "  ", "\t\t\t\t  c"] = ["\u3000\u3000a", "b", "", "  c"] := by
  decide

end LuaReference.Text
