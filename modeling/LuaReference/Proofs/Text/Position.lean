import LuaReference.Text.Position

/-!
# Places in texts

* `byteLength_append`, `append_inj_of_byteLength`, `append_of_byteLength_le` : offsets tell the parts
  of a text apart;
* `dropBytes?_append`, `exists_char_of_dropBytes?` : what follows a number of bytes;
* `takeBytes?`, `slice?` : the text between two offsets, and `slice?_eq_some_iff`;
* `lineAt_eq`, `lineAt_append` : the line of an offset is one more than the newlines before it;
* `lineAt_mono`, `lt_of_lineAt_lt` : lines follow one another as offsets do.
-/

namespace LuaReference.Text

/-! ## Lengths -/

theorem byteLength_append (s t : Text) : byteLength (s ++ t) = byteLength s + byteLength t := by
  induction s with
  | nil => simp [byteLength]
  | cons c s ih => simp only [List.cons_append, byteLength, ih, Nat.add_assoc]

theorem byteLength_reverse (t : Text) : byteLength t.reverse = byteLength t := by
  induction t with
  | nil => rfl
  | cons c t ih =>
    rw [List.reverse_cons, byteLength_append, ih, byteLength, byteLength, byteLength]
    omega

theorem byteLength_pos {t : Text} (h : t ≠ []) : 0 < byteLength t := by
  obtain ⟨c, r, rfl⟩ := List.exists_cons_of_ne_nil h
  have hc := c.utf8Size_pos
  unfold byteLength
  omega

theorem eq_nil_of_byteLength {t : Text} (h : byteLength t = 0) : t = [] := by
  cases t with
  | nil => rfl
  | cons c r =>
    have hpos := byteLength_pos (List.cons_ne_nil c r)
    omega

/-- Of two ways to part a text, the one with the longer front has the other's front in it. -/
theorem append_of_byteLength_le {u v u' v' : Text} (h : u ++ v = u' ++ v')
    (hle : byteLength u ≤ byteLength u') : ∃ w, u' = u ++ w ∧ v = w ++ v' := by
  rcases List.append_eq_append_iff.1 h with ⟨w, hu, hv⟩ | ⟨w, hu, hv⟩
  · exact ⟨w, hu, hv⟩
  · -- the other front is not longer, so nothing stands between the two
    rw [hu, byteLength_append] at hle
    have hw : w = [] := eq_nil_of_byteLength (by omega)
    subst hw
    exact ⟨[], by simpa using hu.symm, by simpa using hv.symm⟩

theorem append_inj_of_byteLength {u v u' v' : Text} (h : u ++ v = u' ++ v')
    (heq : byteLength u = byteLength u') : u = u' ∧ v = v' := by
  obtain ⟨w, hu, hv⟩ := append_of_byteLength_le h (Nat.le_of_eq heq)
  rw [hu, byteLength_append] at heq
  have hw : w = [] := eq_nil_of_byteLength (by omega)
  subst hw
  exact ⟨by simpa using hu.symm, by simpa using hv⟩

/-! ## Slices -/

theorem dropBytes?_append (u v : Text) : dropBytes? (byteLength u) (u ++ v) = some v := by
  induction u with
  | nil => exact dropBytes?.eq_1 v
  | cons c u ih =>
    obtain ⟨n, hn⟩ := Nat.exists_eq_add_one.2 (byteLength_pos (List.cons_ne_nil c u))
    rw [hn, List.cons_append, dropBytes?, ← hn, byteLength, if_pos (by omega), Nat.add_sub_cancel_left]
    exact ih

theorem eq_append_of_dropBytes? {n : Nat} {t v : Text} (h : dropBytes? n t = some v) :
    ∃ u, t = u ++ v ∧ byteLength u = n := by
  fun_induction dropBytes? n t with
  | case1 t => exact ⟨[], by simpa using h, rfl⟩
  | case2 => cases h
  | case3 n c r hle ih =>
    obtain ⟨u, hu, hlen⟩ := ih h
    refine ⟨c :: u, by rw [hu, List.cons_append], ?_⟩
    unfold byteLength
    omega
  | case4 => cases h

/-- Where a text has `n` bytes and none of its characters starts after them, they end inside one. -/
theorem exists_char_of_dropBytes? {n : Nat} {t : Text} (h : dropBytes? n t = none)
    (hle : n ≤ byteLength t) :
    ∃ u c v, t = u ++ c :: v ∧ byteLength u < n ∧ n < byteLength u + c.utf8Size := by
  fun_induction dropBytes? n t with
  | case1 => cases h
  | case2 n => exact absurd hle (Nat.not_succ_le_zero n)
  | case3 n c r hsize ih =>
    rw [byteLength] at hle
    obtain ⟨u, d, v, hr, hlow, hhigh⟩ := ih h (by omega)
    refine ⟨c :: u, d, v, by rw [hr, List.cons_append], ?_, ?_⟩
    · rw [byteLength]
      omega
    · rw [byteLength]
      omega
  | case4 n c r hsize => exact ⟨[], c, r, rfl, Nat.succ_pos n, by rw [byteLength]; omega⟩

/-- The first `n` bytes, or nothing where they end inside a character or past the end. -/
def takeBytes? : Nat → Text → Option Text
  | 0, _ => some []
  | _ + 1, [] => none
  | n + 1, c :: r =>
    if c.utf8Size ≤ n + 1 then (takeBytes? (n + 1 - c.utf8Size) r).map (c :: ·) else none

theorem takeBytes?_append (u v : Text) : takeBytes? (byteLength u) (u ++ v) = some u := by
  induction u with
  | nil => exact takeBytes?.eq_1 v
  | cons c u ih =>
    obtain ⟨n, hn⟩ := Nat.exists_eq_add_one.2 (byteLength_pos (List.cons_ne_nil c u))
    rw [hn, List.cons_append, takeBytes?, ← hn, byteLength, if_pos (by omega),
      Nat.add_sub_cancel_left, ih]
    rfl

theorem eq_append_of_takeBytes? {n : Nat} {t u : Text} (h : takeBytes? n t = some u) :
    ∃ v, t = u ++ v ∧ byteLength u = n := by
  induction t generalizing n u with
  | nil =>
    cases n with
    | zero =>
      cases h
      exact ⟨[], rfl, rfl⟩
    | succ n => cases h
  | cons c r ih =>
    cases n with
    | zero =>
      cases h
      exact ⟨c :: r, rfl, rfl⟩
    | succ n =>
      rw [takeBytes?] at h
      split at h
      · obtain ⟨w, hw, rfl⟩ := Option.map_eq_some_iff.1 h
        obtain ⟨v, hv, hlen⟩ := ih hw
        refine ⟨v, by rw [hv, List.cons_append], ?_⟩
        unfold byteLength
        omega
      · cases h

/-- The text from one offset up to, and not including, another, where characters start at both. -/
def slice? (start stop : Nat) (t : Text) : Option Text :=
  if start ≤ stop then (dropBytes? start t).bind (takeBytes? (stop - start)) else none

theorem slice?_eq_some_iff {start stop : Nat} {t x : Text} :
    slice? start stop t = some x ↔
      ∃ u v, t = u ++ (x ++ v) ∧ byteLength u = start ∧ start + byteLength x = stop := by
  unfold slice?
  constructor
  · intro h
    split at h
    · rename_i hle
      obtain ⟨rest, hdrop, htake⟩ := Option.bind_eq_some_iff.1 h
      obtain ⟨u, hu, hlen⟩ := eq_append_of_dropBytes? hdrop
      obtain ⟨v, hv, hx⟩ := eq_append_of_takeBytes? htake
      exact ⟨u, v, by rw [hu, hv], hlen, by omega⟩
    · cases h
  · rintro ⟨u, v, rfl, rfl, rfl⟩
    rw [if_pos (Nat.le_add_right _ _), dropBytes?_append, Nat.add_sub_cancel_left]
    exact takeBytes?_append x v

/-! ## Lines -/

theorem newlinesBefore_of_le {offset pos : Nat} (h : offset ≤ pos) (t : Text) :
    newlinesBefore offset pos t = 0 := by
  induction t generalizing pos with
  | nil => rfl
  | cons c r ih =>
    rw [newlinesBefore, if_neg (by omega), ih (by omega)]

theorem length_takeWhile_newlineEnds (offset pos : Nat) (t : Text) :
    ((newlineEnds pos t).takeWhile (· ≤ offset)).length = newlinesBefore offset pos t := by
  induction t generalizing pos with
  | nil => rfl
  | cons c r ih =>
    rw [newlineEnds, newlinesBefore]
    by_cases hc : c = '\n'
    · subst hc
      have hsize : Char.utf8Size '\n' = 1 := rfl
      rw [if_pos rfl, hsize]
      by_cases hlt : pos < offset
      · rw [List.takeWhile_cons_of_pos (by simp; omega), List.length_cons, ih, if_pos ⟨rfl, hlt⟩,
          Nat.add_comm]
      · rw [List.takeWhile_cons_of_neg (by simp; omega), if_neg (by simp [hlt]),
          newlinesBefore_of_le (by omega)]
        rfl
    · rw [if_neg hc, ih, if_neg (by simp [hc]), Nat.zero_add]

theorem newlinesBefore_le_of_le {p q : Nat} (h : p ≤ q) (pos : Nat) (t : Text) :
    newlinesBefore p pos t ≤ newlinesBefore q pos t := by
  induction t generalizing pos with
  | nil => exact Nat.le_refl _
  | cons c r ih =>
    have hrest := ih (pos + c.utf8Size)
    rw [newlinesBefore, newlinesBefore]
    split
    · rename_i hp
      rw [if_pos ⟨hp.1, by omega⟩]
      omega
    · omega

/-- The line of an offset is one more than the newlines before it. -/
theorem lineAt_eq (t : Text) (offset : Nat) :
    (LineTable.ofText t).lineAt offset = newlinesBefore offset 0 t + 1 := by
  rw [LineTable.lineAt, LineTable.ofText, List.takeWhile_cons_of_pos (by simp), List.length_cons,
    length_takeWhile_newlineEnds]

theorem lineAt_mono (t : Text) {p q : Nat} (h : p ≤ q) :
    (LineTable.ofText t).lineAt p ≤ (LineTable.ofText t).lineAt q := by
  rw [lineAt_eq, lineAt_eq]
  exact Nat.succ_le_succ (newlinesBefore_le_of_le h 0 t)

/-- An offset on an earlier line is an earlier one. -/
theorem lt_of_lineAt_lt {t : Text} {p q : Nat}
    (h : (LineTable.ofText t).lineAt p < (LineTable.ofText t).lineAt q) : p < q :=
  Nat.lt_of_not_le fun hle => Nat.not_le_of_lt h (lineAt_mono t hle)

theorem newlinesBefore_append (pos : Nat) (u v : Text) :
    newlinesBefore (pos + byteLength u) pos (u ++ v) = u.count '\n' := by
  induction u generalizing pos with
  | nil => exact newlinesBefore_of_le (Nat.le_refl _) v
  | cons c u ih =>
    have hc := c.utf8Size_pos
    rw [List.cons_append, newlinesBefore, byteLength, ← Nat.add_assoc, ih, List.count_cons]
    by_cases heq : c = '\n'
    · rw [if_pos ⟨heq, by omega⟩, if_pos (by simpa using heq), Nat.add_comm]
    · rw [if_neg (by simp [heq]), if_neg (by simpa using heq), Nat.add_comm]

theorem lineAt_append (u v : Text) :
    (LineTable.ofText (u ++ v)).lineAt (byteLength u) = u.count '\n' + 1 := by
  have hcount := newlinesBefore_append 0 u v
  rw [Nat.zero_add] at hcount
  rw [lineAt_eq, hcount]

end LuaReference.Text
