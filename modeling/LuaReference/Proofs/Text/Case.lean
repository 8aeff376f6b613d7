import LuaReference.Text.Case

/-!
# What case mappings can write

* `CaseRun.image_cases` : a code point stays as it is or goes where its run says;
* `mem_of_mem_lower`, `newline_of_mem_lower`, `newline_of_mem_titleCase` : no mapping makes a newline, or
  another character below the small letters;
* `lower_ne_nil` : nothing disappears in lower case;
* `lower_of_ascii`, `lower_of_sameName` : ASCII texts go to lower case letter by letter, so that they
  have one lower case in whatever case they are written;
* `isLower_of_mem_lower`, `lower_of_isLower` : what lower case makes it leaves as it is;
* `lower_of_no_sigma` : without a capital sigma it goes character by character.
-/

namespace LuaReference.Text

/-! ## Runs -/

/-- A run has a code point and moves it. -/
def CaseRun.Moves (r : CaseRun) (n : Nat) : Prop :=
  r.first ≤ n ∧ n ≤ r.last ∧ (n - r.first) % r.step = 0

/-- A code point stays as it is, or goes where a run that has it says. -/
theorem CaseRun.image_cases (runs : List CaseRun) (n : Nat) :
    image runs n = n ∨ ∃ r ∈ runs, r.Moves n ∧ image runs n = r.target + (n - r.first) := by
  induction runs with
  | nil => exact Or.inl rfl
  | cons r runs ih =>
    unfold image
    split
    · exact Or.inl rfl
    · rename_i hfirst
      split
      · rename_i hlast
        split
        · rename_i hstep
          exact Or.inr ⟨r, List.mem_cons_self, ⟨Nat.not_lt.1 hfirst, hlast, hstep⟩, rfl⟩
        · exact Or.inl rfl
      · rcases ih with hsame | ⟨q, hq, hmoves, himage⟩
        · exact Or.inl hsame
        · exact Or.inr ⟨q, List.mem_cons_of_mem r hq, hmoves, himage⟩

/-- Whether the images of the run `r` lie before or behind the run `q`, or between the code points that
it moves. -/
def CaseRun.clears (r q : CaseRun) : Bool :=
  Nat.blt (r.target + (r.last - r.first)) q.first || Nat.blt q.last r.target ||
    (r.first == r.last || r.step % q.step == 0) && r.target % q.step != q.first % q.step

theorem CaseRun.not_moves_of_clears {r q : CaseRun} (h : r.clears q = true) {n : Nat} (hn : r.Moves n) :
    ¬ q.Moves (r.target + (n - r.first)) := by
  rintro ⟨hfirst, hlast, hstep⟩
  obtain ⟨hfrom, hto, hin⟩ := hn
  simp only [clears, Nat.blt_eq, Bool.or_eq_true, Bool.and_eq_true, beq_iff_eq, bne_iff_ne] at h
  rcases h with (hbefore | hbehind) | ⟨hsteps, hbetween⟩
  · omega
  · omega
  · have hdist : q.step ∣ n - r.first := by
      rcases hsteps with hsingle | hsteps
      · rw [show n - r.first = 0 by omega]
        exact Nat.dvd_zero _
      · exact Nat.dvd_trans (Nat.dvd_of_mod_eq_zero hsteps) (Nat.dvd_of_mod_eq_zero hin)
    obtain ⟨a, ha⟩ := hdist
    obtain ⟨b, hb⟩ := Nat.dvd_of_mod_eq_zero hstep
    have hplace : r.target + q.step * a = q.first + q.step * b := by omega
    have hmod := congrArg (· % q.step) hplace
    simp only [Nat.add_mul_mod_self_left] at hmod
    exact hbetween hmod

/-! ## Single characters -/

theorem code_of_ofNat {n : Nat} {d : Char} (hd : d ≠ '\x00') (h : Char.ofNat n = d) : n = d.toNat := by
  have hcode := congrArg Char.toNat h
  unfold Char.ofNat at hcode
  by_cases hvalid : n.isValidChar
  · rw [dif_pos hvalid] at hcode
    exact hcode
  · rw [dif_neg hvalid] at hcode
    exact absurd (Char.toNat_inj.1 hcode).symm hd

/-- What runs map to a character that lies before all their targets is that character. -/
theorem eq_of_image {runs : List CaseRun} {d : Char} (hd : d ≠ '\x00')
    (hruns : ∀ r ∈ runs, d.toNat < r.target) {c : Char}
    (hc : Char.ofNat (CaseRun.image runs c.toNat) = d) : c = d := by
  have hcode := code_of_ofNat hd hc
  rcases CaseRun.image_cases runs c.toNat with hsame | ⟨r, hr, -, himage⟩
  · exact Char.toNat_inj.1 (hsame.symm.trans hcode)
  · have := hruns r hr
    omega

/-- Lower case makes no character that lies before its letters. -/
theorem eq_of_mem_lowerChar {c d : Char} (hd : d ≠ '\x00') (hlow : d.toNat < 97)
    (h : d ∈ lowerChar c) : c = d := by
  have hruns : ∀ r ∈ lowerRuns, 97 ≤ r.target := by decide +kernel
  unfold lowerChar at h
  split at h
  · rcases List.mem_cons.1 h with rfl | h
    · exact absurd hlow (by decide)
    · obtain rfl := List.mem_singleton.1 h
      exact absurd hlow (by decide)
  · exact eq_of_image hd (fun r hr => Nat.lt_of_lt_of_le hlow (hruns r hr)) (List.mem_singleton.1 h).symm

theorem newline_of_mem_upperChar {c : Char} (h : '\n' ∈ upperChar c) : c = '\n' := by
  have hruns : ∀ r ∈ upperRuns, 10 < r.target := by decide +kernel
  have hspellings : ∀ spelling ∈ upperSpellings, 10 ∉ spelling.2 := by decide +kernel
  unfold upperChar at h
  split at h
  · rename_i codes hcodes
    obtain ⟨code, hcode, hnewline⟩ := List.mem_map.1 h
    obtain rfl := code_of_ofNat (by decide) hnewline
    obtain ⟨front, back, hmem, -⟩ := List.lookup_eq_some_iff.1 hcodes
    refine absurd hcode (hspellings (c.toNat, codes) ?_)
    rw [hmem]
    simp
  · exact eq_of_image (by decide) hruns (List.mem_singleton.1 h).symm

theorem lowerChar_ne_nil (c : Char) : lowerChar c ≠ [] := by
  unfold lowerChar
  split <;> simp

/-! ## Texts -/

theorem mem_of_mem_lowerAfter {d : Char} (hd : d ≠ '\x00') (hlow : d.toNat < 97) {before t : Text}
    (h : d ∈ lowerAfter before t) : d ∈ t := by
  induction t generalizing before with
  | nil => exact h
  | cons c r ih =>
    rw [lowerAfter, List.mem_append] at h
    rcases h with hfirst | hrest
    · split at hfirst
      · split at hfirst <;> obtain rfl := List.mem_singleton.1 hfirst <;> exact absurd hlow (by decide)
      · rw [eq_of_mem_lowerChar hd hlow hfirst]
        exact List.mem_cons_self
    · exact List.mem_cons_of_mem c (ih hrest)

/-- A character that lies before the letters of lower case is in a text before it is in its lower case. -/
theorem mem_of_mem_lower {d : Char} (hd : d ≠ '\x00') (hlow : d.toNat < 97) {t : Text}
    (h : d ∈ lower t) : d ∈ t :=
  mem_of_mem_lowerAfter hd hlow h

theorem newline_of_mem_lower {t : Text} (h : '\n' ∈ lower t) : '\n' ∈ t :=
  mem_of_mem_lower (by decide) (by decide) h

theorem newline_of_mem_titleFrom {atStart : Bool} {t : Text} (h : '\n' ∈ titleFrom atStart t) :
    '\n' ∈ t := by
  induction t generalizing atStart with
  | nil => exact h
  | cons c r ih =>
    unfold titleFrom at h
    split at h
    · rcases List.mem_append.1 h with hfirst | hrest
      · split at hfirst
        · rw [newline_of_mem_upperChar hfirst]
          exact List.mem_cons_self
        · rw [eq_of_mem_lowerChar (by decide) (by decide) hfirst]
          exact List.mem_cons_self
      · exact List.mem_cons_of_mem c (ih hrest)
    · rcases List.mem_cons.1 h with hfirst | hrest
      · exact hfirst ▸ List.mem_cons_self
      · exact List.mem_cons_of_mem c (ih hrest)

theorem newline_of_mem_titleCase {t : Text} (h : '\n' ∈ titleCase t) : '\n' ∈ t :=
  newline_of_mem_titleFrom h

theorem lower_ne_nil {t : Text} (h : t ≠ []) : lower t ≠ [] := by
  obtain ⟨c, r, rfl⟩ := List.exists_cons_of_ne_nil h
  unfold lower lowerAfter
  split <;> simp [lowerChar_ne_nil]

/-! ## What lower case leaves as it is -/

/-- A character that is its own lower case. -/
def IsLower (c : Char) : Prop := lowerChar c = [c]

instance (c : Char) : Decidable (IsLower c) := inferInstanceAs (Decidable (lowerChar c = [c]))

/-- The images of a run are characters below or above the capital I with a dot, which no run has. -/
theorem lowerRuns_targets :
    ∀ r ∈ lowerRuns,
      r.target + (r.last - r.first) < 0x130 ∨
        0x130 < r.target ∧ r.target + (r.last - r.first) < 0xD800 ∨
        0xDFFF < r.target ∧ r.target + (r.last - r.first) < 0x110000 := by
  decide +kernel

/-- No run moves an image of another one. -/
theorem lowerRuns_clear : ∀ r ∈ lowerRuns, lowerRuns.all r.clears = true := by decide +kernel

theorem isLower_of_image {n : Nat} (h : ∀ r ∈ lowerRuns, ¬ r.Moves n) (hvalid : n.isValidChar)
    (hdot : n ≠ 0x130) : IsLower (Char.ofNat n) := by
  have hcode : (Char.ofNat n).toNat = n := by
    unfold Char.ofNat
    rw [dif_pos hvalid]
    rfl
  have himage : CaseRun.image lowerRuns n = n := by
    rcases CaseRun.image_cases lowerRuns n with hsame | ⟨r, hr, hmoves, -⟩
    · exact hsame
    · exact absurd hmoves (h r hr)
  have hne : Char.ofNat n ≠ '\u0130' := fun hc => hdot (hcode.symm.trans (congrArg Char.toNat hc))
  rw [IsLower, lowerChar, if_neg hne, hcode, himage]

theorem isLower_of_mem_lowerChar {c d : Char} (h : d ∈ lowerChar c) : IsLower d := by
  by_cases hc : c = '\u0130'
  · subst hc
    have hletter : IsLower 'i' := by decide +kernel
    have hdot : IsLower '\u0307' := by decide +kernel
    rcases List.mem_cons.1 h with rfl | hlast
    · exact hletter
    · exact List.mem_singleton.1 hlast ▸ hdot
  · have hd : d = Char.ofNat (CaseRun.image lowerRuns c.toNat) := by
      rw [lowerChar, if_neg hc] at h
      exact List.mem_singleton.1 h
    rcases CaseRun.image_cases lowerRuns c.toNat with hsame | ⟨r, hr, hmoves, himage⟩
    · have hcd : d = c := by rw [hd, hsame, Char.ofNat_toNat]
      rw [hcd, IsLower, lowerChar, if_neg hc, hsame, Char.ofNat_toNat]
    · have hclear := List.all_eq_true.1 (lowerRuns_clear r hr)
      have hplace := lowerRuns_targets r hr
      have hle : c.toNat - r.first ≤ r.last - r.first := Nat.sub_le_sub_right hmoves.2.1 _
      rw [hd, himage]
      refine isLower_of_image (fun q hq => CaseRun.not_moves_of_clears (hclear q hq) hmoves) ?_ (by omega)
      unfold Nat.isValidChar
      omega

/-- Every character that lower case writes is its own lower case. -/
theorem isLower_of_mem_lower {t : Text} {d : Char} (h : d ∈ lower t) : IsLower d := by
  have hafter : ∀ before r, d ∈ lowerAfter before r → IsLower d := by
    intro before r
    induction r generalizing before with
    | nil => exact fun hd => absurd hd List.not_mem_nil
    | cons c r ih =>
      intro hd
      rw [lowerAfter, List.mem_append] at hd
      rcases hd with hfirst | hrest
      · split at hfirst
        · split at hfirst <;> rw [List.mem_singleton.1 hfirst, IsLower] <;> decide +kernel
        · exact isLower_of_mem_lowerChar hfirst
      · exact ih (c :: before) hrest
  exact hafter [] t h

/-- Without a capital sigma, the lower case of a text is that of its characters one by one. -/
theorem lower_of_no_sigma {t : Text} (h : 'Σ' ∉ t) : lower t = t.flatMap lowerChar := by
  have hafter : ∀ before r, 'Σ' ∉ r → lowerAfter before r = r.flatMap lowerChar := by
    intro before r hr
    induction r generalizing before with
    | nil => rfl
    | cons c r ih =>
      rw [List.mem_cons, not_or] at hr
      rw [lowerAfter, if_neg fun hc => hr.1 hc.symm, ih _ hr.2, List.flatMap_cons]
  exact hafter [] t h

theorem lower_of_isLower {t : Text} (h : ∀ c ∈ t, IsLower c) : lower t = t := by
  have hsigma : 'Σ' ∉ t := fun hmem => absurd (h 'Σ' hmem) (by unfold IsLower; decide +kernel)
  rw [lower_of_no_sigma hsigma]
  induction t with
  | nil => rfl
  | cons c r ih =>
    rw [List.forall_mem_cons] at h
    rw [List.flatMap_cons, h.1, ih h.2 fun hmem => hsigma (List.mem_cons_of_mem c hmem)]
    rfl

/-! ## ASCII texts -/

theorem lowerChar_of_ascii {c : Char} (h : c.toNat < 128) : lowerChar c = [c.toLower] := by
  have hcodes : ∀ n < 128, lowerChar (Char.ofNat n) = [(Char.ofNat n).toLower] := by decide +kernel
  have hc := hcodes c.toNat h
  rwa [Char.ofNat_toNat] at hc

theorem lowerAfter_of_ascii {t : Text} (h : ∀ c ∈ t, c.toNat < 128) (before : Text) :
    lowerAfter before t = t.map Char.toLower := by
  induction t generalizing before with
  | nil => rfl
  | cons c r ih =>
    rw [List.forall_mem_cons] at h
    have hsigma : c ≠ 'Σ' := by
      rintro rfl
      exact absurd h.1 (by decide)
    rw [lowerAfter, if_neg hsigma, lowerChar_of_ascii h.1, ih h.2]
    rfl

theorem lower_of_ascii {t : Text} (h : ∀ c ∈ t, c.toNat < 128) : lower t = t.map Char.toLower :=
  lowerAfter_of_ascii h []

theorem toLower_lt_iff {c : Char} : c.toLower.toNat < 128 ↔ c.toNat < 128 := by
  unfold Char.toLower
  split
  · rename_i hupper
    have hcode : c.toNat ≤ 90 := hupper.2
    have hlower : (c.val + ('a'.val - 'A'.val)).toNat = c.toNat + 32 := by
      have hsum : (c.val + ('a'.val - 'A'.val)).toNat = (c.toNat + 32) % 2 ^ 32 := UInt32.toNat_add _ _
      omega
    change (c.val + ('a'.val - 'A'.val)).toNat < 128 ↔ c.toNat < 128
    omega
  · rfl

/-- The lower case of an ASCII text is that of every text that differs from it in case only. -/
theorem lower_of_sameName {a b : Text} (hb : ∀ c ∈ b, c.toNat < 128) (h : sameName a b = true) :
    lower a = lower b := by
  have hmap : a.map Char.toLower = b.map Char.toLower := eq_of_beq h
  have ha : ∀ c ∈ a, c.toNat < 128 := by
    intro c hc
    have hmem : c.toLower ∈ b.map Char.toLower := hmap ▸ List.mem_map_of_mem hc
    obtain ⟨d, hd, hsame⟩ := List.mem_map.1 hmem
    rw [← toLower_lt_iff, ← hsame, toLower_lt_iff]
    exact hb d hd
  rw [lower_of_ascii ha, lower_of_ascii hb, hmap]

end LuaReference.Text
