import LuaReference.Proofs.Comment.Grammar
import LuaReference.Proofs.Text.ByteOrder

/-!
# Line numbers

A line number is looked up in the table of a text, but it is a count of newline bytes.

* `newlineByte_mem` : a newline byte belongs to no character but the newline;
* `newlinesBefore_eq_count`, `lineAt_eq_count` : newlines counted by characters and by bytes;
* `lineAt_eq_add` : from one offset to a later one, lines go up by the newline bytes between them;
* `Parts starts offset n` : a search of a table for an offset may end at `n`, and `parts_iff`, that the
  line of the offset is the only such place;
* `lines_count_newlines` : the lines of offsets and of blocks.
-/

namespace LuaReference.Text

/-! ## Newline bytes -/

/-- The byte that ends a line. -/
def newlineByte : UInt8 := 0x0A

theorem ofNat_ne_newlineByte {n : Nat} (h : 128 ≤ n) (hn : n < 256) :
    UInt8.ofNat n ≠ newlineByte := by
  intro heq
  have hnat := congrArg UInt8.toNat heq
  rw [UInt8.toNat_ofNat', Nat.mod_eq_of_lt hn] at hnat
  have hten : newlineByte.toNat = 10 := rfl
  omega

theorem newlineByte_not_mem_digits (k n : Nat) : newlineByte ∉ digits k n := by
  induction k with
  | zero => exact List.not_mem_nil
  | succ k ih =>
    rw [digits, List.mem_cons, not_or]
    have hdigit := Nat.mod_lt (n / 64 ^ k) (show 0 < 64 by decide)
    exact ⟨(ofNat_ne_newlineByte (by omega) (by omega)).symm, ih⟩

/-- Only the newline has a newline byte: all bytes of a longer character are above the ASCII ones. -/
theorem newlineByte_mem {c : Char} (h : newlineByte ∈ String.utf8EncodeChar c) : c = '\n' := by
  have hfits := first_byte_fits (lt_of_char c)
  rw [utf8EncodeChar_eq, List.mem_cons] at h
  rcases h with hfirst | hdigits
  · cases htrailing : trailing c.toNat with
    | zero =>
      have hnat := congrArg UInt8.toNat hfirst
      rw [htrailing] at hfits hnat
      rw [UInt8.toNat_ofNat', Nat.mod_eq_of_lt hfits, lead, Nat.pow_zero, Nat.div_one] at hnat
      exact Char.toNat_inj.1 hnat.symm
    | succ k =>
      have hlead : 128 ≤ lead (trailing c.toNat) := by
        rw [htrailing]
        unfold lead
        split <;> omega
      exact absurd hfirst.symm (ofNat_ne_newlineByte (Nat.le_add_left_of_le hlead) hfits)
  · exact absurd hdigits (newlineByte_not_mem_digits _ _)

theorem count_newlineByte_take (c : Char) (k : Nat) :
    ((String.utf8EncodeChar c).take k).count newlineByte = if c = '\n' ∧ 0 < k then 1 else 0 := by
  by_cases hc : c = '\n'
  · subst hc
    have hbytes : String.utf8EncodeChar '\n' = [newlineByte] := by decide
    cases k with
    | zero => rfl
    | succ k => simp [hbytes]
  · rw [if_neg fun h => hc h.1, List.count_eq_zero]
    exact fun hmem => hc (newlineByte_mem (List.mem_of_mem_take hmem))

theorem newlinesBefore_eq_count (k pos : Nat) (t : Text) :
    newlinesBefore (pos + k) pos t = ((encode t).take k).count newlineByte := by
  induction t generalizing k pos with
  | nil => simp [newlinesBefore, encode]
  | cons c r ih =>
    have hrest : newlinesBefore (pos + k) (pos + c.utf8Size) r =
        ((encode r).take (k - c.utf8Size)).count newlineByte := by
      by_cases hle : c.utf8Size ≤ k
      · rw [← ih (k - c.utf8Size) (pos + c.utf8Size), Nat.add_assoc, Nat.add_sub_cancel' hle]
      · rw [newlinesBefore_of_le (by omega), Nat.sub_eq_zero_of_le (by omega)]
        rfl
    rw [encode_cons, List.take_append, List.count_append, count_newlineByte_take,
      String.length_utf8EncodeChar, newlinesBefore, hrest]
    simp only [Nat.lt_add_right_iff_pos]

/-! ## Lines and newline bytes -/

/-- The line of an offset is one more than the newline bytes before it. -/
theorem lineAt_eq_count (t : Text) (offset : Nat) :
    (LineTable.ofText t).lineAt offset = ((encode t).take offset).count newlineByte + 1 := by
  have hcount := newlinesBefore_eq_count offset 0 t
  rw [Nat.zero_add] at hcount
  rw [lineAt_eq, hcount]

theorem lineAt_eq_add (t : Text) {p q : Nat} (h : p ≤ q) :
    (LineTable.ofText t).lineAt q =
      (LineTable.ofText t).lineAt p + (((encode t).drop p).take (q - p)).count newlineByte := by
  have hsplit : (encode t).take q = (encode t).take p ++ ((encode t).drop p).take (q - p) := by
    rw [← List.take_add, Nat.add_sub_cancel' h]
  rw [lineAt_eq_count, lineAt_eq_count, hsplit, List.count_append]
  omega

/-- Two offsets are on one line just when there is no newline byte from the one up to the other. -/
theorem lineAt_eq_iff (t : Text) {p q : Nat} (h : p ≤ q) :
    (LineTable.ofText t).lineAt p = (LineTable.ofText t).lineAt q ↔
      ∀ o, p ≤ o → o < q → (encode t)[o]? ≠ some newlineByte := by
  rw [lineAt_eq_add t h, Nat.left_eq_add, List.count_eq_zero]
  constructor
  · intro hnone o hlow hhigh hbyte
    refine hnone (List.mem_iff_getElem?.2 ⟨o - p, ?_⟩)
    rw [List.getElem?_take, if_pos (by omega), List.getElem?_drop, Nat.add_sub_cancel' hlow, hbyte]
  · intro hnone hmem
    obtain ⟨i, hi⟩ := List.mem_iff_getElem?.1 hmem
    rw [List.getElem?_take] at hi
    split at hi
    · rename_i hlt
      rw [List.getElem?_drop] at hi
      exact hnone (p + i) (by omega) (by omega) hi
    · cases hi

/-! ## Searching the table -/

/-- A search of a table for an offset may end at `n`: all starts before that place are at or before the
offset, and all others are beyond it. -/
structure Parts (starts : List Nat) (offset n : Nat) : Prop where
  fits : n ≤ starts.length
  reached : ∀ start ∈ starts.take n, start ≤ offset
  beyond : ∀ start ∈ starts.drop n, offset < start

theorem Parts.eq_length {starts : List Nat} {offset n : Nat} (h : Parts starts offset n) :
    n = (starts.takeWhile (· ≤ offset)).length := by
  have hreached : ∀ start ∈ starts.take n, decide (start ≤ offset) = true := by
    simpa using h.reached
  have hstop : (starts.drop n).takeWhile (· ≤ offset) = [] := by
    cases hrest : starts.drop n with
    | nil => rfl
    | cons start rest =>
      have hbeyond := h.beyond start (hrest ▸ List.mem_cons_self)
      exact List.takeWhile_cons_of_neg (by simpa using hbeyond)
  rw [← List.take_append_drop n starts, List.takeWhile_append_of_pos hreached, hstop, List.append_nil,
    List.length_take, Nat.min_eq_left h.fits]

/-- In a table in increasing order a search ends after the starts that are at or before the offset. -/
theorem parts_of_pairwise {starts : List Nat} (h : starts.Pairwise (· < ·)) (offset : Nat) :
    Parts starts offset (starts.takeWhile (· ≤ offset)).length := by
  have hfront : starts.take (starts.takeWhile (· ≤ offset)).length = starts.takeWhile (· ≤ offset) :=
    (List.prefix_iff_eq_take.1 (List.takeWhile_prefix _)).symm
  have hback : starts.drop (starts.takeWhile (· ≤ offset)).length = starts.dropWhile (· ≤ offset) := by
    have hsplit := List.take_append_drop (starts.takeWhile (· ≤ offset)).length starts
    rw [hfront] at hsplit
    exact List.append_cancel_left (hsplit.trans List.takeWhile_append_dropWhile.symm)
  refine ⟨(List.takeWhile_prefix _).length_le, ?_, ?_⟩
  · rw [hfront]
    intro start hmem
    simpa using List.all_eq_true.1 List.all_takeWhile start hmem
  · rw [hback]
    have hhead := List.head?_dropWhile_not (fun start => decide (start ≤ offset)) starts
    have hsorted := h.sublist (List.dropWhile_sublist (fun start => decide (start ≤ offset)))
    cases hrest : starts.dropWhile (· ≤ offset) with
    | nil => simp
    | cons first rest =>
      rw [hrest] at hhead hsorted
      have hfirst : offset < first := by simpa using hhead
      refine List.forall_mem_cons.2 ⟨hfirst, fun start hmem => ?_⟩
      exact Nat.lt_trans hfirst ((List.pairwise_cons.1 hsorted).1 start hmem)

theorem pairwise_newlineEnds (pos : Nat) (t : Text) :
    (pos :: newlineEnds pos t).Pairwise (· < ·) := by
  induction t generalizing pos with
  | nil => exact List.pairwise_singleton _ _
  | cons c r ih =>
    have hlt : pos < pos + c.utf8Size := Nat.lt_add_of_pos_right c.utf8Size_pos
    have hrest := ih (pos + c.utf8Size)
    have hbeyond : ∀ start ∈ newlineEnds (pos + c.utf8Size) r, pos < start := fun start hmem =>
      Nat.lt_trans hlt ((List.pairwise_cons.1 hrest).1 start hmem)
    rw [newlineEnds]
    split
    · exact List.pairwise_cons.2 ⟨List.forall_mem_cons.2 ⟨hlt, hbeyond⟩, hrest⟩
    · exact List.pairwise_cons.2 ⟨hbeyond, (List.pairwise_cons.1 hrest).2⟩

/-- However the table is searched, the line of the offset is found. -/
theorem parts_iff {t : Text} {offset n : Nat} :
    Parts (LineTable.ofText t).starts offset n ↔ n = (LineTable.ofText t).lineAt offset := by
  constructor
  · exact Parts.eq_length
  · rintro rfl
    exact parts_of_pairwise (pairwise_newlineEnds 0 t) offset

end LuaReference.Text

namespace LuaReference.Comment

open Text

/-- The line of an offset, which every search of the table finds, is one more than the newline bytes
before that offset, also past the end of the source. Lines go up with offsets, and two offsets are on one
line just when no newline byte stands from the first up to the second. A block has the line of its start,
and in the order of the source the lines of blocks go up. -/
theorem lines_count_newlines (source : Text) :
    (∀ offset, (LineTable.ofText source).lineAt offset =
        ((encode source).take offset).count newlineByte + 1 ∧
      ∀ n, Parts (LineTable.ofText source).starts offset n ↔
        n = (LineTable.ofText source).lineAt offset) ∧
    (∀ p q, p ≤ q → (LineTable.ofText source).lineAt p ≤ (LineTable.ofText source).lineAt q) ∧
    (∀ p q, p ≤ q → ((LineTable.ofText source).lineAt p = (LineTable.ofText source).lineAt q ↔
      ∀ o, p ≤ o → o < q → (encode source)[o]? ≠ some newlineByte)) ∧
    (∀ b ∈ extract source, b.line = (LineTable.ofText source).lineAt b.start) ∧
    (extract source).Pairwise fun a b => a.start < b.start ∧ a.line ≤ b.line := by
  refine ⟨fun offset => ⟨lineAt_eq_count source offset, fun n => parts_iff⟩,
    fun p q => lineAt_mono source, fun p q => lineAt_eq_iff source, ?_, pairwise_line source⟩
  intro b hb
  exact line_of_mem hb

-- at a newline, right after one, between two, and past the end
example : [0, 1, 2, 5, 6, 40].map (LineTable.ofText "a\nbb\n\nc").lineAt = [1, 1, 2, 3, 4, 4] := by
  decide

end LuaReference.Comment
