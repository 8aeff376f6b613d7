import LuaReference.Proofs.Text.Pieces
import LuaReference.Text.Word

/-!
# The ends of texts

* `after?_eq_some_iff`, `startsWith_iff`, `dropEnd_append` : what stands at the ends of a text;
* `trim_eq_self_iff`, `trimStart_append`, `trimEnd_append`, `trim_of_solid`, `trim_join` : texts without
  blanks at their ends;
* `isBlank_of_isWord`, `isBlank_of_isIdentStart` : words and names have no blanks.
-/

namespace LuaReference.Text

/-! ## Starts -/

@[simp] theorem after?_nil (t : Text) : after? [] t = some t := rfl

theorem after?_cons_cons (c d : Char) (start t : Text) :
    after? (c :: start) (d :: t) = if c == d then after? start t else none := rfl

theorem after?_append (start rest : Text) : after? start (start ++ rest) = some rest := by
  induction start with
  | nil => rfl
  | cons c start ih =>
    rw [List.cons_append, after?_cons_cons, if_pos (beq_self_eq_true c)]
    exact ih

theorem after?_eq_some_iff {start t rest : Text} : after? start t = some rest ↔ t = start ++ rest := by
  refine ⟨fun h => ?_, fun h => h ▸ after?_append start rest⟩
  induction start generalizing t with
  | nil => simpa using h
  | cons c start ih =>
    cases t with
    | nil => cases h
    | cons d t =>
      rw [after?_cons_cons] at h
      split at h
      · rename_i heq
        rw [eq_of_beq heq, ih h, List.cons_append]
      · cases h

theorem startsWith_iff {start t : Text} : startsWith start t = true ↔ ∃ rest, t = start ++ rest := by
  unfold startsWith
  rw [List.isPrefixOf_iff_prefix]
  exact ⟨fun ⟨rest, h⟩ => ⟨rest, h.symm⟩, fun ⟨rest, h⟩ => ⟨rest, h.symm⟩⟩

theorem after?_isSome (start t : Text) : (after? start t).isSome = startsWith start t := by
  rw [Bool.eq_iff_iff, startsWith_iff, Option.isSome_iff_exists]
  simp only [after?_eq_some_iff]

/-- A text does not start with one that begins with another character. -/
theorem startsWith_cons_of_ne {c d : Char} (h : c ≠ d) (start t : Text) :
    startsWith (c :: start) (d :: t) = false := by
  simp [startsWith, List.isPrefixOf_cons_cons, h]

theorem dropStart_append (start t : Text) : dropStart start (start ++ t) = t := by
  rw [dropStart, after?_append]
  rfl

theorem dropEnd_append (t ending : Text) : dropEnd ending (t ++ ending) = t := by
  rw [dropEnd, before?, List.reverse_append, after?_append, Option.map_some, List.reverse_reverse]
  rfl

theorem dropEnd_of_getLast? {c : Char} {t : Text} (h : t.getLast? ≠ some c) : dropEnd [c] t = t := by
  rw [← List.head?_reverse] at h
  unfold dropEnd before?
  rw [List.reverse_singleton]
  cases hrev : t.reverse with
  | nil => rfl
  | cons d s =>
    rw [hrev, List.head?_cons, Ne, Option.some.injEq] at h
    rw [after?_cons_cons, if_neg (by simpa using Ne.symm h)]
    rfl

/-! ## Blanks at the ends -/

theorem trimStart_eq_self_iff {t : Text} :
    trimStart t = t ↔ ∀ c, t.head? = some c → isBlank c = false := by
  unfold trimStart
  cases t with
  | nil => simp
  | cons c t =>
    cases hc : isBlank c with
    | false => simp [hc]
    | true =>
      have hshort := (List.dropWhile_suffix (l := t) isBlank).length_le
      rw [List.dropWhile_cons_of_pos hc]
      simp only [List.head?_cons, Option.some.injEq, forall_eq', hc, Bool.true_eq_false, iff_false]
      intro heq
      rw [heq, List.length_cons] at hshort
      omega

theorem trimEnd_eq_self_iff {t : Text} :
    trimEnd t = t ↔ ∀ c, t.getLast? = some c → isBlank c = false := by
  induction t with
  | nil => simp [trimEnd]
  | cons c t ih =>
    unfold trimEnd
    cases t with
    | nil => cases hc : isBlank c <;> simp [trimEnd, hc]
    | cons d t =>
      rw [List.getLast?_cons_cons, ← ih]
      cases htrim : trimEnd (d :: t) with
      | nil => cases isBlank c <;> simp
      | cons e s => simp

theorem length_trimEnd_le (t : Text) : (trimEnd t).length ≤ t.length := by
  induction t with
  | nil => exact Nat.le_refl _
  | cons c t ih =>
    unfold trimEnd
    cases htrim : trimEnd t with
    | nil => cases isBlank c <;> simp
    | cons d s =>
      rw [htrim] at ih
      simpa using ih

theorem trim_eq_self_iff {t : Text} : trim t = t ↔ trimStart t = t ∧ trimEnd t = t := by
  unfold trim
  constructor
  · intro h
    have hsuffix : trimStart t <:+ t := List.dropWhile_suffix _
    have hle := length_trimEnd_le (trimStart t)
    rw [h] at hle
    have hstart : trimStart t = t := hsuffix.eq_of_length_le hle
    exact ⟨hstart, by rwa [hstart] at h⟩
  · rintro ⟨hstart, hend⟩
    rw [hstart, hend]

theorem trimStart_append {s t : Text} (hne : s ≠ []) (hs : trimStart s = s) :
    trimStart (s ++ t) = s ++ t := by
  rw [trimStart_eq_self_iff] at hs ⊢
  obtain ⟨c, s, rfl⟩ := List.exists_cons_of_ne_nil hne
  exact hs

theorem trimEnd_append {s t : Text} (hne : t ≠ []) (ht : trimEnd t = t) :
    trimEnd (s ++ t) = s ++ t := by
  rw [trimEnd_eq_self_iff] at ht ⊢
  obtain ⟨front, c, rfl⟩ := (List.eq_nil_or_concat t).resolve_left hne
  simpa [← List.append_assoc] using ht

theorem trimStart_blank {c : Char} (hc : isBlank c = true) (t : Text) :
    trimStart (c :: t) = trimStart t :=
  List.dropWhile_cons_of_pos hc

theorem trim_blank {c : Char} (hc : isBlank c = true) (t : Text) : trim (c :: t) = trim t := by
  rw [trim, trimStart_blank hc, trim]

/-- A text that does not end in a blank is not blank, unless it is empty. -/
theorem eq_nil_of_trim {t : Text} (hend : trimEnd t = t) (h : trim t = []) : t = [] := by
  rcases List.eq_nil_or_concat t with hnil | ⟨front, c, rfl⟩
  · exact hnil
  · rw [List.concat_eq_append] at h hend
    have hc : isBlank c = false := trimEnd_eq_self_iff.1 hend c (by simp)
    have hstart : ∃ kept, trimStart (front ++ [c]) = kept ++ [c] := by
      unfold trimStart
      rw [List.dropWhile_append]
      split
      · exact ⟨[], List.dropWhile_cons_of_neg (by simp [hc])⟩
      · exact ⟨_, rfl⟩
    obtain ⟨kept, hkept⟩ := hstart
    have hlast : trimEnd [c] = [c] := trimEnd_eq_self_iff.2 (by simpa using hc)
    rw [trim, hkept, trimEnd_append (by simp) hlast] at h
    simp at h

/-- A text without blanks is trimmed. -/
theorem trim_of_solid {t : Text} (h : ∀ c ∈ t, isBlank c = false) : trim t = t := by
  rw [trim_eq_self_iff, trimStart_eq_self_iff, trimEnd_eq_self_iff]
  exact ⟨fun c hc => h c (List.mem_of_head? hc), fun c hc => h c (List.mem_of_getLast? hc)⟩

/-- Trimmed texts that are not empty are a trimmed text when they are joined. -/
theorem trim_join (separator : Text) {ls : List Text} (h : ∀ line ∈ ls, line ≠ [] ∧ trim line = line)
    (hne : ls ≠ []) : join separator ls ≠ [] ∧ trim (join separator ls) = join separator ls := by
  induction ls with
  | nil => exact absurd rfl hne
  | cons first ls ih =>
    rw [List.forall_mem_cons] at h
    cases ls with
    | nil => simpa [join] using h.1
    | cons second ls =>
      obtain ⟨hjoin, htrim⟩ := ih h.2 (by simp)
      rw [join_cons_cons]
      refine ⟨by simp [h.1.1], trim_eq_self_iff.2 ⟨?_, ?_⟩⟩
      · rw [List.append_assoc]
        exact trimStart_append h.1.1 (trim_eq_self_iff.1 h.1.2).1
      · exact trimEnd_append hjoin (trim_eq_self_iff.1 htrim).2

/-! ## Words -/

/-- The code points of the blanks. -/
def blankCodes : List Nat :=
  List.range' 0x09 5 ++ List.range' 0x2000 11 ++
    [0x20, 0x85, 0xA0, 0x1680, 0x2028, 0x2029, 0x202F, 0x205F, 0x3000]

theorem toNat_mem_blankCodes {c : Char} (h : isBlank c = true) : c.toNat ∈ blankCodes := by
  simp only [isBlank, Bool.or_eq_true, Bool.and_eq_true, decide_eq_true_eq, beq_iff_eq] at h
  simp only [blankCodes, List.mem_append, List.mem_range'_1, List.mem_cons, List.not_mem_nil,
    or_false]
  rcases h with (((((((((h | h) | h) | h) | h) | h) | h) | h) | h) | h) | h <;> omega

theorem isBlank_of_isWord {c : Char} (h : isWord c = true) : isBlank c = false := by
  have hcodes : ∀ n ∈ blankCodes,
      ((letters.has n || wordMarks.has n) && !recentCodes.has n) = false := by
    decide +kernel
  cases hblank : isBlank c with
  | false => rfl
  | true =>
    rw [isWord, isLetter, hcodes _ (toNat_mem_blankCodes hblank)] at h
    cases h

theorem isBlank_of_isIdentStart {c : Char} (h : isIdentStart c = true) : isBlank c = false := by
  have hcode : 65 ≤ c.toNat ∧ c.toNat ≤ 122 := by
    have hrange : (decide (65 ≤ c.val ∧ c.val ≤ 90) || (decide (97 ≤ c.val) && decide (c.val ≤ 122)) ||
        c == '_') = true := h
    simp only [Bool.or_eq_true, Bool.and_eq_true, decide_eq_true_eq, beq_iff_eq,
      UInt32.le_iff_toNat_le] at hrange
    rcases hrange with (h | h) | rfl
    · exact ⟨h.1, Nat.le_trans h.2 (by decide)⟩
    · exact ⟨Nat.le_trans (by decide) h.1, h.2⟩
    · decide
  simp only [isBlank, Bool.or_eq_false_iff, Bool.and_eq_false_iff, decide_eq_false_iff_not,
    beq_eq_false_iff_ne]
  omega

end LuaReference.Text
