import LuaReference.Text.Basic

/-!
# Pieces of texts

* `splitWhen_eq`, `splitOn_eq` : the pieces are those of `List.splitOnP` and `List.splitOn`;
* `splitOn_join`, `join_splitOn` : splitting and joining undo each other;
* `splitOn_append_cons` : a mark parts the pieces before it from those after it;
* `of_mem_splitWhen`, `not_mem_of_mem_splitOn`, `mem_words` : no piece holds what ends it;
* `getLast?_splitOn` : the last piece is empty just when the text is empty or ends with the mark;
* `join_append` : joined pieces of two lists;
* `mem_of_mem_join`, `isInfix_join` : what pieces and a separator hold is what the whole holds;
* `replaceChar_cons_self`, `replaceChar_cons_of_ne` : replacement, one character after the other.
-/

namespace LuaReference.Text

/-! ## Splitting at a mark -/

theorem splitWhen_eq {α : Type} (p : α → Bool) (t : List α) : splitWhen p t = t.splitOnP p := by
  induction t with
  | nil => rfl
  | cons c r ih =>
    rw [splitWhen, ih, List.splitOnP_cons_eq_if_modifyHead]
    split
    · rfl
    · obtain ⟨piece, rest, h⟩ := List.exists_cons_of_ne_nil (List.splitOnP_ne_nil p r)
      rw [h]
      rfl

theorem splitOn_eq (mark : Char) (t : Text) : splitOn mark t = List.splitOn mark t := by
  rw [splitOn, splitWhen_eq, List.splitOn_eq_splitOnP]

theorem splitWhen_ne_nil {α : Type} (p : α → Bool) (t : List α) : splitWhen p t ≠ [] := by
  rw [splitWhen_eq]
  exact List.splitOnP_ne_nil p t

theorem splitOn_ne_nil (mark : Char) (t : Text) : splitOn mark t ≠ [] := splitWhen_ne_nil _ t

theorem splitWhen_cons_of_neg {α : Type} {p : α → Bool} {c : α} {t piece : List α} {rest : List (List α)}
    (h : p c = false) (hs : splitWhen p t = piece :: rest) :
    splitWhen p (c :: t) = (c :: piece) :: rest := by
  rw [splitWhen, if_neg (by simp [h]), hs]

theorem splitOn_join {mark : Char} {pieces : List Text} (hne : pieces ≠ [])
    (h : ∀ piece ∈ pieces, mark ∉ piece) : splitOn mark (join [mark] pieces) = pieces := by
  rw [splitOn_eq]
  exact List.splitOn_intercalate mark h hne

theorem join_splitOn (mark : Char) (t : Text) : join [mark] (splitOn mark t) = t := by
  rw [splitOn_eq]
  exact List.intercalate_splitOn mark

theorem splitOn_of_not_mem {mark : Char} {t : Text} (h : mark ∉ t) : splitOn mark t = [t] := by
  have hpieces : ∀ piece ∈ [t], mark ∉ piece := by simpa using h
  simpa [join] using splitOn_join (List.cons_ne_nil t []) hpieces

theorem splitOn_cons_mark (mark : Char) (t : Text) :
    splitOn mark (mark :: t) = [] :: splitOn mark t := by
  simp [splitOn, splitWhen]

theorem splitOn_cons_of_ne {mark c : Char} (t : Text) (h : c ≠ mark) :
    ∃ piece rest, splitOn mark t = piece :: rest ∧
      splitOn mark (c :: t) = (c :: piece) :: rest := by
  obtain ⟨piece, rest, hs⟩ := List.exists_cons_of_ne_nil (splitOn_ne_nil mark t)
  exact ⟨piece, rest, hs, splitWhen_cons_of_neg (beq_false_of_ne h) hs⟩

theorem splitOn_append_mark {mark : Char} {front : Text} (t : Text) (h : mark ∉ front) :
    splitOn mark (front ++ mark :: t) = front :: splitOn mark t := by
  rw [splitOn_eq, splitOn_eq, List.splitOn_append_cons_self_of_not_mem h]

/-- The pieces of a text with a mark in it are those before and those after the mark. -/
theorem splitOn_append_cons (mark : Char) (front t : Text) :
    splitOn mark (front ++ mark :: t) = splitOn mark front ++ splitOn mark t := by
  induction front with
  | nil => exact splitOn_cons_mark mark t
  | cons c front ih =>
    by_cases hc : c = mark
    · subst hc
      rw [List.cons_append, splitOn_cons_mark, splitOn_cons_mark, ih, List.cons_append]
    · obtain ⟨piece, rest, hfront, hcons⟩ := splitOn_cons_of_ne front hc
      obtain ⟨piece', rest', hall, hcons'⟩ := splitOn_cons_of_ne (front ++ mark :: t) hc
      rw [ih, hfront, List.cons_append] at hall
      obtain ⟨rfl, rfl⟩ := List.cons.inj hall
      rw [List.cons_append, hcons', hcons, List.cons_append]

/-- No piece holds an element that ends pieces. -/
theorem of_mem_splitWhen {α : Type} {p : α → Bool} {t piece : List α} (h : piece ∈ splitWhen p t) :
    ∀ c ∈ piece, p c = false := by
  induction t generalizing piece with
  | nil =>
    obtain rfl := List.mem_singleton.1 h
    exact fun c hc => absurd hc List.not_mem_nil
  | cons d r ih =>
    rw [splitWhen] at h
    split at h
    · rcases List.mem_cons.1 h with rfl | hrest
      · exact fun c hc => absurd hc List.not_mem_nil
      · exact ih hrest
    · rename_i hd
      have hd : p d = false := Bool.eq_false_iff.2 hd
      split at h
      · obtain rfl := List.mem_singleton.1 h
        exact fun c hc => List.mem_singleton.1 hc ▸ hd
      · rename_i first rest hsplit
        rw [hsplit] at ih
        rcases List.mem_cons.1 h with rfl | hrest
        · exact List.forall_mem_cons.2 ⟨hd, ih List.mem_cons_self⟩
        · exact ih (List.mem_cons_of_mem first hrest)

/-- No piece holds the mark. -/
theorem not_mem_of_mem_splitOn {mark : Char} {t : Text} :
    ∀ piece ∈ splitOn mark t, mark ∉ piece := fun _ hpiece hmark => by
  simpa using of_mem_splitWhen hpiece mark hmark

/-- A word is not empty and holds no blank. -/
theorem mem_words {t w : Text} (h : w ∈ words t) : w ≠ [] ∧ ∀ c ∈ w, isBlank c = false := by
  obtain ⟨hpiece, hne⟩ := List.mem_filter.1 h
  exact ⟨by simpa using hne, of_mem_splitWhen hpiece⟩

/-- The last piece is empty just when the text is empty or ends with the mark. -/
theorem getLast?_splitOn {mark : Char} {t : Text} :
    (splitOn mark t).getLast? = some [] ↔ t = [] ∨ t.getLast? = some mark := by
  induction t with
  | nil => simp [splitOn, splitWhen]
  | cons c r ih =>
    by_cases h : c = mark
    · subst h
      obtain ⟨piece, rest, hr⟩ := List.exists_cons_of_ne_nil (splitOn_ne_nil c r)
      rw [splitOn_cons_mark, hr, List.getLast?_cons_cons, ← hr, ih]
      cases r <;> simp
    · obtain ⟨piece, rest, hr, hc⟩ := splitOn_cons_of_ne r h
      rw [hc]
      cases rest with
      | nil =>
        -- one piece only, so the rest of the text is that piece and has no mark
        have hpiece : r = piece := by
          have hj := join_splitOn mark r
          rw [hr] at hj
          simpa [join] using hj.symm
        have hmark : mark ∉ r := by
          rw [hpiece]
          exact not_mem_of_mem_splitOn piece (hr ▸ List.mem_singleton_self piece)
        have hlast : r.getLast? ≠ some mark := fun hl => hmark (List.mem_of_getLast? hl)
        cases r with
        | nil => simp [h]
        | cons d s => simp [List.getLast?_cons_cons, hlast]
      | cons next more =>
        rw [List.getLast?_cons_cons, ← List.getLast?_cons_cons (a := piece), ← hr, ih]
        cases r with
        | nil => simp [splitOn, splitWhen] at hr
        | cons d s => simp

/-! ## Joined pieces -/

theorem join_cons_cons (separator first second : Text) (rest : List Text) :
    join separator (first :: second :: rest) = first ++ separator ++ join separator (second :: rest) := by
  simp [join, List.intercalate_cons_cons]

theorem join_append (separator : Text) {front back : List Text} (hfront : front ≠ []) (hback : back ≠ []) :
    join separator (front ++ back) = join separator front ++ (separator ++ join separator back) := by
  induction front with
  | nil => exact absurd rfl hfront
  | cons first front ih =>
    cases front with
    | nil =>
      obtain ⟨second, rest, rfl⟩ := List.exists_cons_of_ne_nil hback
      rw [List.singleton_append, join_cons_cons, List.append_assoc]
      simp [join]
    | cons second front =>
      rw [List.cons_append, List.cons_append, join_cons_cons, ← List.cons_append, ih (by simp),
        join_cons_cons]
      simp only [List.append_assoc]

theorem mem_of_mem_join {separator : Text} {pieces : List Text} {c : Char}
    (h : c ∈ join separator pieces) : c ∈ separator ∨ ∃ piece ∈ pieces, c ∈ piece := by
  induction pieces with
  | nil => simp [join] at h
  | cons first rest ih =>
    cases rest with
    | nil => exact Or.inr ⟨first, by simp, by simpa [join] using h⟩
    | cons second rest =>
      rw [join_cons_cons, List.mem_append, List.mem_append] at h
      rcases h with (hfirst | hseparator) | hrest
      · exact Or.inr ⟨first, by simp, hfirst⟩
      · exact Or.inl hseparator
      · rcases ih hrest with hseparator | ⟨piece, hpiece, hc⟩
        · exact Or.inl hseparator
        · exact Or.inr ⟨piece, List.mem_cons_of_mem first hpiece, hc⟩

/-- A piece stands in the whole. -/
theorem isInfix_join {separator piece : Text} {pieces : List Text} (h : piece ∈ pieces) :
    piece <:+: join separator pieces := by
  induction pieces with
  | nil => cases h
  | cons first rest ih =>
    cases rest with
    | nil =>
      obtain rfl := List.mem_singleton.1 h
      simp [join]
    | cons second rest =>
      rw [join_cons_cons, List.append_assoc]
      rcases List.mem_cons.1 h with rfl | hrest
      · exact (List.prefix_append _ _).isInfix
      · have hback : join separator (second :: rest) <:+
            first ++ (separator ++ join separator (second :: rest)) := by
          rw [← List.append_assoc]
          exact List.suffix_append _ _
        exact (ih hrest).trans hback.isInfix

theorem isInfix_of_mem_splitOn {mark : Char} {t piece : Text} (h : piece ∈ splitOn mark t) :
    piece <:+: t := by
  have hpiece : piece <:+: join [mark] (splitOn mark t) := isInfix_join h
  rwa [join_splitOn] at hpiece

theorem subset_of_mem_splitOn {mark : Char} {t piece : Text} (h : piece ∈ splitOn mark t) : piece ⊆ t :=
  (isInfix_of_mem_splitOn h).subset

/-! ## Replacement -/

theorem replaceChar_cons_self (mark : Char) (image t : Text) :
    replaceChar mark image (mark :: t) = image ++ replaceChar mark image t := by
  rw [replaceChar, List.flatMap_cons, if_pos rfl, replaceChar]

theorem replaceChar_cons_of_ne {mark c : Char} (h : c ≠ mark) (image t : Text) :
    replaceChar mark image (c :: t) = c :: replaceChar mark image t := by
  rw [replaceChar, List.flatMap_cons, if_neg h, replaceChar, List.singleton_append]

end LuaReference.Text
