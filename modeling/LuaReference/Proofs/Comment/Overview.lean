import LuaReference.Comment.Heading
import LuaReference.Proofs.Text.Pieces
import Mathlib.Data.List.Chain

/-!
# The lines of an overview

An overview shows the cleaned lines of its block that are not empty. Where empty ones stood between two
of them, one empty line is left.

* `Squeezed` : a line whose words are one space apart;
* `paragraphs`, `spread` : the runs of lines that are not empty, and such runs as lines again, with one
  empty line between them;
* `shownOf`, `foldl_addLine`, `dropEmptyEnd_shownOf` : what showing line after line leaves of some lines
  are their paragraphs;
* `overviewText_eq`, `overviewText_paragraphs` : an overview is its paragraphs, an empty line between two;
* `Tidy`, `tidy_spread` : lines with no empty one at an end or beside another;
* `Between` : the lines from one that is not empty to the next;
* `marked`, `Between.marked` : what stands before each line, in one pass;
* `overview_lines` : the lines of an overview against those of its block.
-/

namespace LuaReference.Comment

open Text

/-! ## Squeezed lines -/

/-- A line that starts and ends with a word, its words one space apart. -/
def Squeezed (line : Text) : Prop :=
  ∃ ws : List Text, line = join [' '] ws ∧ ∀ w ∈ ws, w ≠ [] ∧ ∀ c ∈ w, isBlank c = false

theorem squeezed_squeeze (t : Text) : Squeezed (squeeze t) := ⟨words t, rfl, fun _ => mem_words⟩

theorem squeezed_nil : Squeezed [] := ⟨[], rfl, by simp⟩

theorem Squeezed.not_newline {line : Text} (h : Squeezed line) : '\n' ∉ line := by
  obtain ⟨ws, rfl, hws⟩ := h
  intro hmem
  rcases mem_of_mem_join hmem with hspace | ⟨w, hw, hnewline⟩
  · exact absurd hspace (by decide)
  · exact absurd ((hws w hw).2 '\n' hnewline) (by decide)

/-! ## Paragraphs -/

/-- The paragraphs of some lines: the runs of lines that are not empty. -/
def paragraphs (cleaned : List Text) : List (List Text) :=
  (splitWhen List.isEmpty cleaned).filter fun paragraph => !paragraph.isEmpty

theorem paragraphs_filled {ls p : List Text} (h : p ∈ paragraphs ls) : p ≠ [] ∧ [] ∉ p := by
  obtain ⟨hpiece, hne⟩ := List.mem_filter.1 h
  exact ⟨by simpa using hne, fun hempty => absurd (of_mem_splitWhen hpiece [] hempty) (by decide)⟩

/-- The lines of some paragraphs, with one empty line between two of them. -/
def spread (ps : List (List Text)) : List Text := [[]].intercalate ps

@[simp] theorem spread_nil : spread [] = [] := rfl

theorem spread_single (p : List Text) : spread [p] = p := by simp [spread]

theorem spread_cons_cons (p q : List Text) (ps : List (List Text)) :
    spread (p :: q :: ps) = p ++ [] :: spread (q :: ps) := by
  simp [spread, List.intercalate_cons_cons]

theorem spread_cons_head (line : Text) (p : List Text) (ps : List (List Text)) :
    spread ((line :: p) :: ps) = line :: spread (p :: ps) := by
  cases ps with
  | nil => rw [spread_single, spread_single]
  | cons q ps => rw [spread_cons_cons, spread_cons_cons, List.cons_append]

/-- Some lines are their runs of lines that are not empty, with one empty line between two runs. -/
theorem spread_splitWhen (ls : List Text) : spread (splitWhen List.isEmpty ls) = ls := by
  have hempty : (List.isEmpty : Text → Bool) = (· == []) := by
    funext line
    cases line <;> rfl
  rw [splitWhen_eq, hempty, ← List.splitOn_eq_splitOnP]
  exact List.intercalate_splitOn []

theorem spread_ne_nil {p : List Text} {ps : List (List Text)} (h : p ≠ []) : spread (p :: ps) ≠ [] := by
  cases ps with
  | nil => rwa [spread_single]
  | cons q ps =>
    rw [spread_cons_cons]
    simp

/-- Before paragraphs, an empty run is an empty line; alone it is nothing. -/
theorem spread_empty_cons {ps : List (List Text)} (h : ∀ p ∈ ps, p ≠ []) :
    spread ([] :: ps) = if spread ps = [] then [] else [] :: spread ps := by
  cases ps with
  | nil => rfl
  | cons p ps =>
    rw [if_neg (spread_ne_nil (h p List.mem_cons_self)), spread_cons_cons, List.nil_append]

/-- Joined paragraphs, joined by an empty line, are joined lines. -/
theorem join_map_join {ps : List (List Text)} (h : ∀ p ∈ ps, p ≠ []) :
    join "\n\n" (ps.map (join "\n")) = join "\n" (spread ps) := by
  induction ps with
  | nil => rfl
  | cons p ps ih =>
    rw [List.forall_mem_cons] at h
    cases ps with
    | nil =>
      rw [spread_single]
      simp [join]
    | cons q ps =>
      have hback : join "\n" ([] :: spread (q :: ps)) = "\n" ++ join "\n" (spread (q :: ps)) := by
        obtain ⟨first, rest, hspread⟩ :=
          List.exists_cons_of_ne_nil (spread_ne_nil (h.2 q List.mem_cons_self))
        rw [hspread, join_cons_cons]
        rfl
      rw [List.map_cons, List.map_cons, join_cons_cons, ← List.map_cons, ih h.2, spread_cons_cons,
        join_append _ h.1 (by simp), hback, List.append_assoc]
      rfl

/-! ## Shown lines -/

/-- The lines that are shown of some lines; `afterGap` says whether an empty one would be superfluous
before them. -/
def shownOf (afterGap : Bool) : List Text → List Text
  | [] => []
  | line :: rest =>
    if line.isEmpty && afterGap then shownOf afterGap rest else line :: shownOf line.isEmpty rest

theorem shownOf_false_empty (ls : List Text) : shownOf false ([] :: ls) = [] :: shownOf true ls := rfl

theorem shownOf_cons_of_ne {line : Text} (h : line ≠ []) (afterGap : Bool) (ls : List Text) :
    shownOf afterGap (line :: ls) = line :: shownOf false ls := by
  have hempty : line.isEmpty = false := by simpa using h
  rw [shownOf, hempty, Bool.false_and, if_neg Bool.false_ne_true]

theorem endsInGap_concat (shown : List Text) (line : Text) :
    endsInGap (shown ++ [line]) = line.isEmpty := by
  rw [endsInGap, List.getLast?_concat, Option.map_some, Option.getD_some]

/-- Lines shown one after another are lines added to what is shown. -/
theorem foldl_addLine (shown ls : List Text) :
    ls.foldl addLine shown = shown ++ shownOf (endsInGap shown) ls := by
  induction ls generalizing shown with
  | nil => rw [List.foldl_nil, shownOf, List.append_nil]
  | cons line ls ih =>
    rw [List.foldl_cons, ih, addLine, shownOf]
    split
    · rfl
    · rw [endsInGap_concat, List.append_assoc, List.singleton_append]

theorem dropEmptyEnd_cons (line : Text) (ls : List Text) :
    dropEmptyEnd (line :: ls) =
      if line = [] ∧ dropEmptyEnd ls = [] then [] else line :: dropEmptyEnd ls := by
  rw [dropEmptyEnd, dropEmptyEnd, List.reverse_cons, List.dropWhile_append]
  cases hback : ls.reverse.dropWhile List.isEmpty with
  | nil => cases line <;> simp
  | cons last back => simp

/-- What is shown of some lines are their paragraphs. After a line that is not empty, the first run goes
on with that line, and also an empty run stands before a gap. -/
theorem dropEmptyEnd_shownOf {ls first : List Text} {rest : List (List Text)}
    (h : splitWhen List.isEmpty ls = first :: rest) :
    dropEmptyEnd (shownOf true ls) = spread (paragraphs ls) ∧
      dropEmptyEnd (shownOf false ls) = spread (first :: rest.filter fun p => !p.isEmpty) := by
  induction ls generalizing first rest with
  | nil =>
    obtain ⟨rfl, rfl⟩ := List.cons.inj h
    exact ⟨rfl, rfl⟩
  | cons line ls ih =>
    obtain ⟨run, runs, hsplit⟩ := List.exists_cons_of_ne_nil (splitWhen_ne_nil List.isEmpty ls)
    obtain ⟨hafter, hwithin⟩ := ih hsplit
    by_cases hline : line = []
    · subst hline
      obtain ⟨rfl, rfl⟩ := List.cons.inj h
      have hgap : dropEmptyEnd (shownOf false ([] :: ls)) = spread ([] :: paragraphs ls) := by
        rw [shownOf_false_empty, dropEmptyEnd_cons, hafter,
          spread_empty_cons fun p hp => (paragraphs_filled hp).1]
        simp only [true_and]
      exact ⟨hafter, hgap⟩
    · have hempty : line.isEmpty = false := by simpa using hline
      have hrun := splitWhen_cons_of_neg hempty hsplit
      obtain ⟨rfl, rfl⟩ := List.cons.inj (hrun.symm.trans h)
      have hshown : ∀ afterGap, dropEmptyEnd (shownOf afterGap (line :: ls)) =
          spread ((line :: run) :: runs.filter fun p => !p.isEmpty) := by
        intro afterGap
        rw [shownOf_cons_of_ne hline, dropEmptyEnd_cons, if_neg fun hboth => hline hboth.1, hwithin,
          spread_cons_head]
      refine ⟨?_, hshown false⟩
      rw [hshown, paragraphs, h, List.filter_cons_of_pos rfl]

/-! ## Tidy lines -/

/-- Not both are empty. -/
def NotEmpties (a b : Text) : Prop := ¬ (a = [] ∧ b = [])

/-- No empty line stands at an end or beside another one. -/
structure Tidy (ls : List Text) : Prop where
  head : ls.head? ≠ some []
  last : ls.getLast? ≠ some []
  single : ls.IsChain NotEmpties

/-- Lines of which none is empty. -/
theorem tidy_of_filled {p : List Text} (h : [] ∉ p) : Tidy p := by
  refine ⟨fun hhead => h (List.mem_of_head? hhead), fun hlast => h (List.mem_of_getLast? hlast), ?_⟩
  induction p with
  | nil => exact .nil
  | cons line p ih =>
    rw [List.mem_cons, not_or] at h
    exact List.isChain_cons.2 ⟨fun _ _ hboth => h.1 hboth.1.symm, ih h.2⟩

theorem tidy_spread {ps : List (List Text)} (h : ∀ p ∈ ps, p ≠ [] ∧ [] ∉ p) : Tidy (spread ps) := by
  induction ps with
  | nil => exact tidy_of_filled List.not_mem_nil
  | cons p ps ih =>
    rw [List.forall_mem_cons] at h
    have hp := tidy_of_filled h.1.2
    cases ps with
    | nil => rwa [spread_single]
    | cons q ps =>
      have hrest := ih h.2
      have hne : spread (q :: ps) ≠ [] := spread_ne_nil (h.2 q List.mem_cons_self).1
      rw [spread_cons_cons]
      refine ⟨?_, ?_, List.isChain_append.2 ⟨hp.single, ?_, fun a ha b _ hboth => ?_⟩⟩
      · rw [List.head?_append_of_ne_nil _ h.1.1]
        exact hp.head
      · rw [List.getLast?_append_of_ne_nil _ (by simp), List.getLast?_cons_of_ne_nil hne]
        exact hrest.last
      · exact List.isChain_cons.2 ⟨fun b hb hboth => hrest.head (hboth.2 ▸ hb), hrest.single⟩
      · exact hp.last (hboth.1 ▸ ha)

/-! ## Gaps -/

/-- The lines that are not empty. -/
def filled (ls : List Text) : List Text := ls.filter fun line => !line.isEmpty

/-- Between the `n`-th of the lines that are not empty, counted from zero, and the next of them stand the
empty lines `gap`. -/
def Between (ls : List Text) (n : Nat) (gap : List Text) : Prop :=
  ∃ front a b back, ls = front ++ a :: (gap ++ b :: back) ∧ (filled front).length = n ∧
    a ≠ [] ∧ b ≠ [] ∧ ∀ line ∈ gap, line = []

/-- The lines that are not empty, each with whether an empty line stands right before it; `afterGap` says
it of the first line. -/
def marked (afterGap : Bool) : List Text → List (Bool × Text)
  | [] => []
  | line :: rest =>
    if line.isEmpty then marked true rest else (afterGap, line) :: marked false rest

theorem marked_cons_empty (afterGap : Bool) (ls : List Text) :
    marked afterGap ([] :: ls) = marked true ls := rfl

theorem marked_cons_of_ne {line : Text} (h : line ≠ []) (afterGap : Bool) (ls : List Text) :
    marked afterGap (line :: ls) = (afterGap, line) :: marked false ls :=
  if_neg (by simpa using h)

theorem map_marked (afterGap : Bool) (ls : List Text) : (marked afterGap ls).map (·.2) = filled ls := by
  induction ls generalizing afterGap with
  | nil => rfl
  | cons line ls ih =>
    by_cases h : line = []
    · subst h
      exact ih true
    · rw [marked_cons_of_ne h, filled, List.filter_cons_of_pos (by simpa using h), List.map_cons, ih]
      rfl

theorem marked_append_empty (afterGap : Bool) (front back : List Text) :
    marked afterGap (front ++ [] :: back) = marked afterGap front ++ marked true back := by
  induction front generalizing afterGap with
  | nil => rfl
  | cons line front ih =>
    by_cases h : line = []
    · subst h
      exact ih true
    · rw [List.cons_append, marked_cons_of_ne h, marked_cons_of_ne h, ih, List.cons_append]

theorem exists_marked_append {a : Text} (h : a ≠ []) (afterGap : Bool) (front back : List Text) :
    ∃ flag, marked afterGap (front ++ a :: back) =
      marked afterGap front ++ (flag, a) :: marked false back := by
  induction front generalizing afterGap with
  | nil => exact ⟨afterGap, marked_cons_of_ne h afterGap back⟩
  | cons line front ih =>
    by_cases hline : line = []
    · subst hline
      exact ih true
    · obtain ⟨flag, hflag⟩ := ih false
      exact ⟨flag, by rw [List.cons_append, marked_cons_of_ne hline, marked_cons_of_ne hline, hflag,
        List.cons_append]⟩

theorem marked_gap {gap : List Text} (hgap : ∀ line ∈ gap, line = []) {b : Text} (hb : b ≠ [])
    (afterGap : Bool) (back : List Text) :
    marked afterGap (gap ++ b :: back) = (afterGap || !gap.isEmpty, b) :: marked false back := by
  induction gap generalizing afterGap with
  | nil => rw [List.nil_append, marked_cons_of_ne hb, List.isEmpty_nil, Bool.not_true, Bool.or_false]
  | cons line gap ih =>
    rw [List.forall_mem_cons] at hgap
    rw [hgap.1, List.cons_append, marked_cons_empty, ih hgap.2]
    simp

/-- Whether there is a gap is what the second of its lines is marked with. -/
theorem Between.marked {ls gap : List Text} {n : Nat} (h : Between ls n gap) (afterGap : Bool) :
    ∃ b, (marked afterGap ls)[n + 1]? = some (!gap.isEmpty, b) := by
  obtain ⟨front, a, b, back, rfl, hn, ha, hb, hgap⟩ := h
  obtain ⟨flag, hfront⟩ := exists_marked_append ha afterGap front (gap ++ b :: back)
  have hlength : (Comment.marked afterGap front).length = n := by
    rw [← hn, ← map_marked afterGap front, List.length_map]
  refine ⟨b, ?_⟩
  rw [hfront, marked_gap hgap hb, List.getElem?_append_right (by omega), hlength,
    Nat.add_sub_cancel_left]
  rfl

theorem marked_spread (ps : List (List Text)) : marked true (spread ps) = ps.flatMap (marked true) := by
  induction ps with
  | nil => rfl
  | cons p ps ih =>
    cases ps with
    | nil => rw [spread_single, List.flatMap_singleton]
    | cons q ps => rw [spread_cons_cons, marked_append_empty, ih, ← List.flatMap_cons]

/-- Paragraphs keep the lines that are not empty, and where there was a gap between them. -/
theorem marked_paragraphs (ls : List Text) : marked true (spread (paragraphs ls)) = marked true ls := by
  have hkept : ∀ pieces : List (List Text),
      (pieces.filter fun p => !p.isEmpty).flatMap (marked true) = pieces.flatMap (marked true) := by
    intro pieces
    induction pieces with
    | nil => rfl
    | cons p pieces ih =>
      cases p with
      | nil => exact ih
      | cons line p => rw [List.filter_cons_of_pos rfl, List.flatMap_cons, List.flatMap_cons, ih]
  rw [marked_spread, paragraphs, hkept, ← marked_spread, spread_splitWhen]

theorem filled_paragraphs (ls : List Text) : filled (spread (paragraphs ls)) = filled ls := by
  rw [← map_marked true, marked_paragraphs, map_marked]

/-! ## Overviews -/

/-- The cleaned lines of a block. -/
def cleanedLines (text : Text) : List Text := (lines (body text)).map cleanLine

theorem squeezed_of_mem_cleanedLines {text line : Text} (h : line ∈ cleanedLines text) :
    Squeezed line := by
  obtain ⟨raw, -, rfl⟩ := List.mem_map.1 h
  exact squeezed_squeeze _

theorem overviewText_eq (text : Text) :
    overviewText text = join "\n" (spread (paragraphs (cleanedLines text))) := by
  obtain ⟨first, rest, hsplit⟩ :=
    List.exists_cons_of_ne_nil (splitWhen_ne_nil List.isEmpty (cleanedLines text))
  rw [overviewText, foldl_addLine, List.nil_append]
  exact congrArg (join "\n") (dropEmptyEnd_shownOf hsplit).1

/-- The text of an overview is that of its paragraphs, an empty line between two of them. -/
theorem overviewText_paragraphs (text : Text) :
    overviewText text = join "\n\n" ((paragraphs (cleanedLines text)).map (join "\n")) := by
  rw [overviewText_eq, join_map_join fun _ hp => (paragraphs_filled hp).1]

theorem squeezed_of_mem_spread {text line : Text} (h : line ∈ spread (paragraphs (cleanedLines text))) :
    Squeezed line := by
  by_cases hne : line = []
  · exact hne ▸ squeezed_nil
  · have hmem : line ∈ filled (cleanedLines text) := by
      rw [← filled_paragraphs]
      exact List.mem_filter.2 ⟨h, by simpa using hne⟩
    exact squeezed_of_mem_cleanedLines (List.mem_of_mem_filter hmem)

theorem overviewText_eq_nil {text : Text} (h : paragraphs (cleanedLines text) = []) :
    overviewText text = [] := by
  rw [overviewText_eq, h]
  rfl

/-- The lines of an overview are those of its paragraphs, where it has any. -/
theorem splitOn_overviewText {text : Text} (h : paragraphs (cleanedLines text) ≠ []) :
    splitOn '\n' (overviewText text) = spread (paragraphs (cleanedLines text)) := by
  obtain ⟨p, ps, hps⟩ := List.exists_cons_of_ne_nil h
  have hp : p ∈ paragraphs (cleanedLines text) := hps ▸ List.mem_cons_self
  have hne : spread (paragraphs (cleanedLines text)) ≠ [] := hps ▸ spread_ne_nil (paragraphs_filled hp).1
  rw [overviewText_eq]
  exact splitOn_join hne fun line hline => (squeezed_of_mem_spread hline).not_newline

/-- Without paragraphs the text is empty, and the one line it has counts for nothing. -/
theorem marked_overview (text : Text) :
    marked true (splitOn '\n' (overviewText text)) = marked true (cleanedLines text) := by
  rw [← marked_paragraphs (cleanedLines text)]
  by_cases h : paragraphs (cleanedLines text) = []
  · rw [overviewText_eq_nil h, h]
    rfl
  · rw [splitOn_overviewText h]

/-- The lines of an overview have no blanks at their ends and single spaces between their words. None at
an end is empty, unless nothing is shown, and no two neighbours are. Those that are not empty are the
cleaned lines of the block that are not, in order, with an empty line between two of them just if there
was one in the block. -/
theorem overview_lines (text : Text) :
    let shown := splitOn '\n' (overviewText text)
    (∀ line ∈ shown, Squeezed line) ∧
      (overviewText text ≠ [] → shown.head? ≠ some [] ∧ shown.getLast? ≠ some []) ∧
      shown.IsChain NotEmpties ∧
      filled shown = filled (cleanedLines text) ∧
      ∀ n gap gap', Between shown n gap → Between (cleanedLines text) n gap' → (gap ≠ [] ↔ gap' ≠ []) := by
  intro shown
  obtain ⟨hsqueezed, hends, hchain⟩ :
      (∀ line ∈ shown, Squeezed line) ∧
        (overviewText text ≠ [] → shown.head? ≠ some [] ∧ shown.getLast? ≠ some []) ∧
        shown.IsChain NotEmpties := by
    by_cases hnone : paragraphs (cleanedLines text) = []
    · have hshown : shown = [[]] := congrArg (splitOn '\n') (overviewText_eq_nil hnone)
      rw [hshown]
      exact ⟨List.forall_mem_singleton.2 squeezed_nil, fun hne => absurd (overviewText_eq_nil hnone) hne,
        .singleton _⟩
    · have hshown : shown = spread (paragraphs (cleanedLines text)) := splitOn_overviewText hnone
      have htidy : Tidy shown := hshown ▸ tidy_spread fun p hp => paragraphs_filled hp
      exact ⟨fun line hline => squeezed_of_mem_spread (hshown ▸ hline), fun _ => ⟨htidy.head, htidy.last⟩,
        htidy.single⟩
  have hmarked : marked true shown = marked true (cleanedLines text) := marked_overview text
  refine ⟨hsqueezed, hends, hchain, ?_, fun n gap gap' hgap hgap' => ?_⟩
  · rw [← map_marked true shown, hmarked, map_marked]
  · obtain ⟨b, hb⟩ := hgap.marked true
    obtain ⟨b', hb'⟩ := hgap'.marked true
    rw [hmarked, hb'] at hb
    have hflag : (!gap'.isEmpty) = !gap.isEmpty := congrArg Prod.fst (Option.some.inj hb)
    have hempty : gap'.isEmpty = gap.isEmpty := by simpa using hflag
    rw [Ne, Ne, ← List.isEmpty_iff, ← List.isEmpty_iff, hempty]

/-- Two labels, of which one has its line for itself, superfluous blanks and comment markers. -/
theorem overview_lines_labelled :
    let text : Text := "--[[\n Overview: The\t lib.\n\n Improvements Done:\n -- Fast.\n --\n Small.\n]]"
    let shown := splitOn '\n' (overviewText text)
    shown = ["The lib.".toList, [], "Fast.".toList, [], "Small.".toList] ∧
      (∀ line ∈ shown, Squeezed line) ∧ overviewText text ≠ [] ∧ shown.getLast? ≠ some [] ∧
      filled shown = filled (cleanedLines text) ∧
      Between shown 0 [[]] ∧ Between (cleanedLines text) 0 [[], []] ∧
      (([[]] : List Text) ≠ [] ↔ ([[], []] : List Text) ≠ []) := by
  intro text shown
  obtain ⟨hsqueezed, hends, -, hfilled, hgaps⟩ := overview_lines text
  have hshown : shown = ["The lib.".toList, [], "Fast.".toList, [], "Small.".toList] := by
    decide +kernel
  have hcleaned : cleanedLines text =
      [[], "The lib.".toList, [], [], "Fast.".toList, [], "Small.".toList] := by
    decide +kernel
  have hne : overviewText text ≠ [] := fun hnil => by
    have hnone : shown = [[]] := congrArg (splitOn '\n') hnil
    rw [hnone] at hshown
    exact absurd hshown (by decide)
  have hgap : Between shown 0 [[]] :=
    ⟨[], "The lib.", "Fast.", [[], "Small.".toList], hshown, rfl, by simp, by simp, by simp⟩
  have hgap' : Between (cleanedLines text) 0 [[], []] :=
    ⟨[[]], "The lib.", "Fast.", [[], "Small.".toList], hcleaned, rfl, by simp, by simp, by simp⟩
  exact ⟨hshown, hsqueezed, hne, (hends hne).2, hfilled, hgap, hgap', hgaps 0 _ _ hgap hgap'⟩

end LuaReference.Comment
