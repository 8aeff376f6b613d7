import LuaReference.Proofs.Text.Position
import LuaReference.Text.Scan

/-!
# Scanning a text in parts

* `lastOf before t` : the character before what follows `t`;
* `scanFrom_skip`, `scanFrom_nothing`, `scanFrom_present` : one step of a scan, seen from its rest;
* `Recognizer.Takes` : what is taken stands at the start of the text and is not empty;
* `ReadAt`, `readAt_of_mem` : every item that is found was read where it starts;
* `pairwise_scanFrom`, `found_or_inside` : items do not overlap, and none is passed over but by one that
  reaches over it;
* `scanFrom_eq_scan` : a scan from somewhere in a text is a scan of the rest, moved there;
* `scanFrom_append_of_agree` : a scan in two parts, where no reading looks beyond the first part;
* `scanFrom_append_of_stop` : a scan in two parts, where no item of the first part ends in the second.
-/

namespace LuaReference.Text

variable {α : Type} {read : Recognizer α}

/-! ## Steps -/

/-- The character before what follows `t`, where `before` stands before `t`. -/
def lastOf (before : Option Char) (t : Text) : Option Char := t.getLast?.or before

theorem lastOf_cons (before : Option Char) (c : Char) (t : Text) :
    lastOf before (c :: t) = lastOf (some c) t := by
  unfold lastOf
  cases t with
  | nil => rfl
  | cons d t =>
    rw [List.getLast?_cons_cons]
    cases h : (d :: t).getLast? with
    | none => simp at h
    | some e => rfl

theorem lastOf_append (before : Option Char) (s t : Text) :
    lastOf before (s ++ t) = lastOf (lastOf before s) t := by
  induction s generalizing before with
  | nil => rfl
  | cons c s ih => rw [List.cons_append, lastOf_cons, lastOf_cons, ih]

theorem scanFrom_skip (before : Option Char) (pos : Nat) (a b : Text) :
    scanFrom read before pos a.length (a ++ b) =
      scanFrom read (lastOf before a) (pos + byteLength a) 0 b := by
  induction a generalizing before pos with
  | nil => rfl
  | cons c a ih =>
    rw [List.length_cons, List.cons_append, scanFrom, ih, lastOf_cons, byteLength, Nat.add_assoc]

theorem scanFrom_nothing {before : Option Char} {c : Char} {r : Text}
    (h : read before (c :: r) = .nothing) (pos : Nat) :
    scanFrom read before pos 0 (c :: r) = scanFrom read (some c) (pos + c.utf8Size) 0 r := by
  rw [scanFrom, h]

theorem scanFrom_present {before : Option Char} {taken rest : Text} {item : α} (hne : taken ≠ [])
    (h : read before (taken ++ rest) = .present item taken) (pos : Nat) :
    scanFrom read before pos 0 (taken ++ rest) =
      ⟨pos, pos + byteLength taken, item⟩ ::
        scanFrom read (lastOf before taken) (pos + byteLength taken) 0 rest := by
  obtain ⟨c, r, rfl⟩ := List.exists_cons_of_ne_nil hne
  rw [List.cons_append] at h ⊢
  rw [scanFrom, h]
  simp only [List.length_cons, Nat.add_sub_cancel]
  rw [scanFrom_skip, lastOf_cons, byteLength, Nat.add_assoc]

/-- What is taken stands at the start of the text and is not empty. -/
def Recognizer.Takes (read : Recognizer α) : Prop :=
  ∀ before t item taken, read before t = .present item taken → taken ≠ [] ∧ ∃ rest, t = taken ++ rest

/-- An item that was read in `t`, which starts at offset `pos` after the character `before`. -/
def ReadAt (read : Recognizer α) (before : Option Char) (pos : Nat) (t : Text) (f : Found α) : Prop :=
  ∃ u taken v, t = u ++ (taken ++ v) ∧ taken ≠ [] ∧ f.start = pos + byteLength u ∧
    f.stop = f.start + byteLength taken ∧ read (lastOf before u) (taken ++ v) = .present f.item taken

theorem ReadAt.cons {before : Option Char} {pos : Nat} {c : Char} {r : Text} {f : Found α}
    (h : ReadAt read (some c) (pos + c.utf8Size) r f) : ReadAt read before pos (c :: r) f := by
  obtain ⟨u, taken, v, rfl, hne, hstart, hstop, hread⟩ := h
  refine ⟨c :: u, taken, v, rfl, hne, ?_, hstop, ?_⟩
  · rw [hstart, byteLength, Nat.add_assoc]
  · rwa [lastOf_cons]

theorem ReadAt.bounds {before : Option Char} {pos : Nat} {t : Text} {f : Found α}
    (h : ReadAt read before pos t f) :
    pos ≤ f.start ∧ f.start < f.stop ∧ f.stop ≤ pos + byteLength t := by
  obtain ⟨u, taken, v, rfl, hne, hstart, hstop, -⟩ := h
  have hpos := byteLength_pos hne
  rw [byteLength_append, byteLength_append]
  omega

/-- Every item that a scan finds was read where it starts. -/
theorem readAt_of_mem (htakes : read.Takes) {before : Option Char} {pos skip : Nat} {t : Text}
    {f : Found α} (h : f ∈ scanFrom read before pos skip t) : ReadAt read before pos t f := by
  induction t generalizing before pos skip with
  | nil => cases skip <;> simp [scanFrom] at h
  | cons c r ih =>
    cases skip with
    | succ skip => exact (ih h).cons
    | zero =>
      rw [scanFrom] at h
      cases hread : read before (c :: r) with
      | nothing =>
        rw [hread] at h
        exact (ih h).cons
      | never =>
        rw [hread] at h
        cases h
      | present item taken =>
        rw [hread] at h
        rcases List.mem_cons.1 h with rfl | hrest
        · obtain ⟨hne, rest, hrest⟩ := htakes _ _ _ _ hread
          exact ⟨[], taken, rest, hrest, hne, rfl, rfl, hrest ▸ hread⟩
        · exact (ih hrest).cons

/-! ## All items -/

/-- No item starts before the one that was found ahead of it has ended. -/
theorem pairwise_scanFrom (htakes : read.Takes) (before : Option Char) (pos : Nat) (t : Text) :
    (scanFrom read before pos 0 t).Pairwise fun a b => a.stop ≤ b.start := by
  induction hn : t.length using Nat.strongRecOn generalizing before pos t with
  | ind n ih =>
    cases t with
    | nil => exact List.Pairwise.nil
    | cons c r =>
      rw [List.length_cons] at hn
      cases hread : read before (c :: r) with
      | nothing =>
        rw [scanFrom_nothing hread]
        exact ih r.length (by omega) _ _ r rfl
      | never =>
        rw [scanFrom, hread]
        exact List.Pairwise.nil
      | present item taken =>
        obtain ⟨hne, rest, hrest⟩ := htakes _ _ _ _ hread
        have hlen := congrArg List.length hrest
        have hpos := List.length_pos_iff.2 hne
        rw [List.length_cons, List.length_append] at hlen
        rw [hrest] at hread ⊢
        rw [scanFrom_present hne hread, List.pairwise_cons]
        constructor
        · intro f hf
          exact (readAt_of_mem htakes hf).bounds.1
        · exact ih rest.length (by omega) _ _ rest rfl

/-- Two items that were found do not overlap. -/
theorem apart_of_mem (htakes : read.Takes) {t : Text} {f f' : Found α} (hf : f ∈ scan read t)
    (hf' : f' ∈ scan read t) : f = f' ∨ f.stop ≤ f'.start ∨ f'.stop ≤ f.start := by
  obtain ⟨front, back, hsplit⟩ := List.append_of_mem hf
  have hapart := pairwise_scanFrom htakes none 0 t
  rw [← scan, hsplit, List.pairwise_append, List.pairwise_cons] at hapart
  obtain ⟨-, ⟨hafter, -⟩, hbefore⟩ := hapart
  rw [hsplit] at hf'
  rcases List.mem_append.1 hf' with hfront | hrest
  · exact Or.inr (Or.inr (hbefore f' hfront f List.mem_cons_self))
  · rcases List.mem_cons.1 hrest with heq | hback
    · exact Or.inl heq.symm
    · exact Or.inr (Or.inl (hafter f' hback))

/-- What can be read somewhere is found there, or something that was found reaches over that place. -/
theorem found_or_inside (htakes : read.Takes) (hnever : ∀ before t, read before t ≠ .never)
    {before : Option Char} {u t : Text} {item : α} {taken : Text}
    (hread : read (lastOf before u) t = .present item taken) (pos : Nat) :
    ⟨pos + byteLength u, pos + byteLength u + byteLength taken, item⟩ ∈
        scanFrom read before pos 0 (u ++ t) ∨
      ∃ f ∈ scanFrom read before pos 0 (u ++ t),
        f.start < pos + byteLength u ∧ pos + byteLength u < f.stop := by
  -- what is found at the start of `u` goes, so the rest of `u` is shorter
  induction hn : u.length using Nat.strongRecOn generalizing before pos u with
  | ind n ih =>
    cases u with
    | nil =>
      obtain ⟨hne, rest, rfl⟩ := htakes _ _ _ _ hread
      have hhere : read before (taken ++ rest) = .present item taken := hread
      rw [List.nil_append, scanFrom_present hne hhere]
      exact Or.inl List.mem_cons_self
    | cons c u =>
      rw [List.length_cons] at hn
      cases hfirst : read before (c :: (u ++ t)) with
      | never => exact absurd hfirst (hnever _ _)
      | nothing =>
        rw [lastOf_cons] at hread
        rw [List.cons_append, scanFrom_nothing hfirst, byteLength, ← Nat.add_assoc]
        exact ih u.length (by omega) hread _ rfl
      | present first taken' =>
        obtain ⟨hne, rest, hrest⟩ := htakes _ _ _ _ hfirst
        have hpos := byteLength_pos hne
        have hlen := List.length_pos_iff.2 hne
        rw [← List.cons_append] at hrest
        rw [← List.cons_append, hrest] at hfirst
        by_cases hle : byteLength taken' ≤ byteLength (c :: u)
        · obtain ⟨w, hw, rfl⟩ := append_of_byteLength_le hrest.symm hle
          have hshort := congrArg List.length hw
          rw [List.length_cons, List.length_append] at hshort
          rw [hw, lastOf_append] at hread
          rw [hw, List.append_assoc, scanFrom_present hne hfirst, byteLength_append, ← Nat.add_assoc]
          rcases ih w.length (by omega) hread (pos + byteLength taken') rfl with hfound | ⟨f, hf, hover⟩
          · exact Or.inl (List.mem_cons_of_mem _ hfound)
          · exact Or.inr ⟨f, List.mem_cons_of_mem _ hf, hover⟩
        · rw [hrest, scanFrom_present hne hfirst]
          refine Or.inr ⟨_, List.mem_cons_self, ?_, ?_⟩
          · have := byteLength_pos (List.cons_ne_nil c u)
            show pos < pos + byteLength (c :: u)
            omega
          · show pos + byteLength (c :: u) < pos + byteLength taken'
            omega

/-! ## Where a scan starts -/

/-- An item moved by a number of bytes. -/
def Found.shift (n : Nat) (f : Found α) : Found α := ⟨f.start + n, f.stop + n, f.item⟩

theorem scanFrom_shift (before : Option Char) (pos n skip : Nat) (t : Text) :
    scanFrom read before (pos + n) skip t = (scanFrom read before pos skip t).map (Found.shift n) := by
  induction t generalizing before pos skip with
  | nil => cases skip <;> rfl
  | cons c r ih =>
    have hnext : pos + n + c.utf8Size = pos + c.utf8Size + n := by omega
    cases skip with
    | succ skip => rw [scanFrom, scanFrom, hnext, ih]
    | zero =>
      rw [scanFrom, scanFrom]
      cases read before (c :: r) with
      | nothing => simp only [hnext, ih]
      | never => rfl
      | present item taken =>
        have hstop : pos + n + byteLength taken = pos + byteLength taken + n := by omega
        simp only [hnext, hstop, ih, List.map_cons, Found.shift]

theorem scanFrom_before {before before' : Option Char} (h : ∀ t, read before t = read before' t)
    (pos : Nat) (t : Text) : scanFrom read before pos 0 t = scanFrom read before' pos 0 t := by
  cases t with
  | nil => rfl
  | cons c r => rw [scanFrom, scanFrom, h]

/-- A scan from somewhere in a text is a scan of the rest as a text of its own, moved there. -/
theorem scanFrom_eq_scan {before : Option Char} (h : ∀ t, read before t = read none t) (pos : Nat)
    (t : Text) : scanFrom read before pos 0 t = (scan read t).map (Found.shift pos) := by
  rw [scanFrom_before h, ← Nat.zero_add pos, scanFrom_shift, Nat.zero_add]
  rfl

/-! ## Two parts -/

/-- A scan in two parts, where reading in the first part does not look at the second. -/
theorem scanFrom_append_of_agree (htakes : read.Takes) (hnever : ∀ before t, read before t ≠ .never)
    {a b : Text} (hagree : ∀ u x, a = u ++ x → x ≠ [] → ∀ before, read before (x ++ b) = read before x)
    {skip : Nat} (hskip : skip ≤ a.length) (before : Option Char) (pos : Nat) :
    scanFrom read before pos skip (a ++ b) =
      scanFrom read before pos skip a ++ scanFrom read (lastOf before a) (pos + byteLength a) 0 b := by
  induction a generalizing before pos skip with
  | nil =>
    obtain rfl : skip = 0 := by simpa using hskip
    rfl
  | cons c a ih =>
    have hinner : ∀ u x, a = u ++ x → x ≠ [] → ∀ before, read before (x ++ b) = read before x :=
      fun u x hx => hagree (c :: u) x (by rw [hx, List.cons_append])
    rw [lastOf_cons, byteLength, ← Nat.add_assoc]
    cases skip with
    | succ skip => exact ih hinner (by simpa using hskip) (some c) _
    | zero =>
      have hhere := hagree [] (c :: a) rfl (List.cons_ne_nil c a) before
      rw [List.cons_append] at hhere ⊢
      rw [scanFrom, scanFrom, hhere]
      cases hread : read before (c :: a) with
      | nothing => exact ih hinner (Nat.zero_le _) (some c) _
      | never => exact absurd hread (hnever _ _)
      | present item taken =>
        obtain ⟨-, rest, htaken⟩ := htakes _ _ _ _ hread
        have hlen := congrArg List.length htaken
        rw [List.length_cons, List.length_append] at hlen
        simp only
        rw [ih hinner (by omega), List.cons_append]

/-- A scan in two parts, where no item that starts in the first part ends in the second. -/
theorem scanFrom_append_of_stop (htakes : read.Takes) (hnever : ∀ before t, read before t ≠ .never)
    {a b : Text} {skip : Nat} (hskip : skip ≤ a.length) {before : Option Char} {pos : Nat}
    (hstop : ∀ f ∈ scanFrom read before pos skip (a ++ b),
      f.start < pos + byteLength a → f.stop ≤ pos + byteLength a) :
    ∃ found, scanFrom read before pos skip (a ++ b) =
        found ++ scanFrom read (lastOf before a) (pos + byteLength a) 0 b ∧
      ∀ f ∈ found, pos ≤ f.start ∧ f.start < pos + byteLength a := by
  induction a generalizing before pos skip with
  | nil =>
    obtain rfl : skip = 0 := by simpa using hskip
    exact ⟨[], rfl, by simp⟩
  | cons c a ih =>
    have hc := c.utf8Size_pos
    rw [lastOf_cons, byteLength, ← Nat.add_assoc]
    rw [byteLength, ← Nat.add_assoc] at hstop
    cases skip with
    | succ skip =>
      obtain ⟨found, heq, hfound⟩ := ih (by simpa using hskip) (fun f hf => hstop f hf)
      exact ⟨found, heq, fun f hf => ⟨by have := hfound f hf; omega, (hfound f hf).2⟩⟩
    | zero =>
      rw [List.cons_append, scanFrom] at hstop ⊢
      cases hread : read before (c :: (a ++ b)) with
      | never => exact absurd hread (hnever _ _)
      | nothing =>
        rw [hread] at hstop
        obtain ⟨found, heq, hfound⟩ := ih (Nat.zero_le _) hstop
        exact ⟨found, heq, fun f hf => ⟨by have := hfound f hf; omega, (hfound f hf).2⟩⟩
      | present item taken =>
        rw [hread] at hstop
        simp only [List.forall_mem_cons] at hstop
        obtain ⟨hhere, hlater⟩ := hstop
        -- what was taken ends in the first part, so the rest of it is passed there
        have hshort : taken.length - 1 ≤ a.length := by
          obtain ⟨-, rest, htaken⟩ := htakes _ _ _ _ hread
          have hle : byteLength taken ≤ byteLength (c :: a) := by
            have := hhere (by omega)
            rw [byteLength]
            omega
          obtain ⟨w, hw, -⟩ := append_of_byteLength_le htaken.symm hle
          have hlen := congrArg List.length hw
          rw [List.length_cons, List.length_append] at hlen
          omega
        obtain ⟨found, heq, hfound⟩ := ih hshort hlater
        refine ⟨⟨pos, pos + byteLength taken, item⟩ :: found, by simp only [heq, List.cons_append], ?_⟩
        rw [List.forall_mem_cons]
        refine ⟨⟨Nat.le_refl _, ?_⟩, fun f hf => ⟨by have := hfound f hf; omega, (hfound f hf).2⟩⟩
        show pos < pos + c.utf8Size + byteLength a
        omega

end LuaReference.Text
