import LuaReference.Proofs.Text.Ends

/-!
# First occurrences of marks

* `FirstAtEnd mark t` : the first `mark` of `t ++ mark` is the one at its end;
* `cut?_append`, `eq_append_of_cut?`, `cut?_eq_none_iff` : a text is cut at the first mark;
* `occurs_eq`, `occurs_iff` : a part stands in a text that can be cut at it;
* `after?_append_cons`, `dropWhile_append_cons`, `takeWhile_append_cons`, `span_run` : a character that
  a reading cannot take ends it.
-/

namespace LuaReference.Text

/-- The first `mark` of `t ++ mark` is the one at its end. -/
def FirstAtEnd (mark t : Text) : Prop :=
  ∀ front rest, t ++ mark = front ++ (mark ++ rest) → rest = []

theorem FirstAtEnd.of_append {mark front t : Text} (h : FirstAtEnd mark (front ++ t)) :
    FirstAtEnd mark t := by
  intro before rest heq
  refine h (front ++ before) rest ?_
  rw [List.append_assoc, heq, List.append_assoc]

theorem FirstAtEnd.of_cons {mark t : Text} {c : Char} (h : FirstAtEnd mark (c :: t)) :
    FirstAtEnd mark t := by
  have hfront : FirstAtEnd mark ([c] ++ t) := h
  exact hfront.of_append

/-- A mark does not start before the end of such a text, whatever follows. -/
theorem FirstAtEnd.after?_eq_none {mark t : Text} (h : FirstAtEnd mark t) (hne : t ≠ [])
    (rest : Text) : after? mark (t ++ (mark ++ rest)) = none := by
  cases hfound : after? mark (t ++ (mark ++ rest)) with
  | none => rfl
  | some inner =>
    have heq := after?_eq_some_iff.1 hfound
    rw [← List.append_assoc] at heq
    have hlong : mark.length ≤ (t ++ mark).length := by simp
    obtain ⟨back, hback⟩ := List.prefix_of_prefix_length_le ⟨inner, heq.symm⟩
      (List.prefix_append (t ++ mark) rest) hlong
    have hnil := h [] back hback.symm
    rw [hnil, List.append_nil] at hback
    have hlen := congrArg List.length hback
    rw [List.length_append] at hlen
    exact absurd (List.eq_nil_of_length_eq_zero (by omega)) hne

theorem cut?_cons (mark : Text) (c : Char) (r : Text) :
    cut? mark (c :: r) =
      match after? mark (c :: r) with
      | some rest => some ([], rest)
      | none => (cut? mark r).map fun (front, rest) => (c :: front, rest) := rfl

theorem cut?_append {mark t : Text} (h : FirstAtEnd mark t) (rest : Text) :
    cut? mark (t ++ (mark ++ rest)) = some (t, rest) := by
  induction t with
  | nil =>
    rw [List.nil_append]
    cases hwhole : mark ++ rest with
    | nil =>
      obtain ⟨rfl, rfl⟩ := List.append_eq_nil_iff.1 hwhole
      rfl
    | cons c r => rw [cut?_cons, ← hwhole, after?_append]
  | cons c t ih =>
    rw [List.cons_append, cut?_cons, ← List.cons_append, h.after?_eq_none (List.cons_ne_nil c t),
      ih h.of_cons]
    rfl

/-- A text that was cut is what stood before the first mark, the mark, and the rest. -/
theorem eq_append_of_cut? {mark t front rest : Text} (h : cut? mark t = some (front, rest)) :
    t = front ++ (mark ++ rest) ∧ FirstAtEnd mark front := by
  induction t generalizing front with
  | nil =>
    unfold cut? at h
    split at h
    · rename_i hmark
      rw [List.isEmpty_iff] at hmark
      cases h
      refine ⟨by simp [hmark], fun before back heq => ?_⟩
      simpa [hmark] using (List.append_eq_nil_iff.1 (hmark ▸ heq).symm).2
    · cases h
  | cons c r ih =>
    rw [cut?_cons] at h
    cases hstart : after? mark (c :: r) with
    | some inner =>
      rw [hstart] at h
      cases h
      have hwhole : c :: r = mark ++ rest := after?_eq_some_iff.1 hstart
      refine ⟨hwhole, fun before back heq => ?_⟩
      have hlen := congrArg List.length heq
      simp only [List.length_append, List.length_nil] at hlen
      exact List.eq_nil_of_length_eq_zero (by omega)
    | none =>
      rw [hstart] at h
      obtain ⟨⟨front', rest'⟩, hcut, heq⟩ := Option.map_eq_some_iff.1 h
      cases heq
      obtain ⟨hr, hfirst⟩ := ih hcut
      refine ⟨by rw [hr, List.cons_append], fun before back heq => ?_⟩
      cases before with
      | nil =>
        have hwhole : c :: r = mark ++ (back ++ rest) := by
          rw [hr, ← List.append_assoc mark, ← List.nil_append (mark ++ back), ← heq]
          simp
        rw [hwhole, after?_append] at hstart
        cases hstart
      | cons d before =>
        rw [List.cons_append, List.cons_append, List.cons.injEq] at heq
        exact hfirst before back heq.2

theorem cut?_eq_none_iff {mark t : Text} :
    cut? mark t = none ↔ ∀ front rest, t ≠ front ++ (mark ++ rest) := by
  constructor
  · intro h front rest heq
    induction t generalizing front with
    | nil =>
      obtain ⟨-, hmark⟩ := List.append_eq_nil_iff.1 heq.symm
      rw [(List.append_eq_nil_iff.1 hmark).1] at h
      cases h
    | cons c r ih =>
      rw [cut?_cons] at h
      cases hstart : after? mark (c :: r) with
      | some inner =>
        rw [hstart] at h
        cases h
      | none =>
        rw [hstart] at h
        cases front with
        | nil =>
          rw [heq, List.nil_append, after?_append] at hstart
          cases hstart
        | cons d front =>
          rw [List.cons_append, List.cons.injEq] at heq
          exact ih (Option.map_eq_none_iff.1 h) front heq.2
  · intro h
    cases hcut : cut? mark t with
    | none => rfl
    | some found => exact absurd (eq_append_of_cut? hcut).1 (h found.1 found.2)

theorem firstAtEnd_iff {mark t : Text} : FirstAtEnd mark t ↔ cut? mark (t ++ mark) = some (t, []) := by
  constructor
  · intro h
    simpa using cut?_append h []
  · intro h
    exact (eq_append_of_cut? h).2

instance (mark t : Text) : Decidable (FirstAtEnd mark t) := decidable_of_iff _ firstAtEnd_iff.symm

theorem occurs_eq (part t : Text) : occurs part t = (cut? part t).isSome := by
  induction t with
  | nil =>
    rw [occurs, cut?]
    cases part.isEmpty <;> rfl
  | cons c r ih =>
    rw [occurs, cut?_cons, ← after?_isSome, ih]
    cases after? part (c :: r) with
    | some rest => rfl
    | none => rw [Option.isSome_map, Option.isSome_none, Bool.false_or]

theorem occurs_iff {part t : Text} : occurs part t = true ↔ part <:+: t := by
  constructor
  · intro h
    rw [occurs_eq, Option.isSome_iff_exists] at h
    obtain ⟨⟨front, rest⟩, hcut⟩ := h
    refine ⟨front, rest, ?_⟩
    rw [(eq_append_of_cut? hcut).1, List.append_assoc]
  · rintro ⟨front, rest, rfl⟩
    rw [occurs_eq, Option.isSome_iff_ne_none, Ne, cut?_eq_none_iff, List.append_assoc]
    intro h
    exact h front rest rfl

/-! ## Characters that end a reading -/

theorem after?_append_cons {mark : Text} {d : Char} (h : d ∉ mark) (x r : Text) :
    after? mark (x ++ d :: r) = (after? mark x).map (· ++ d :: r) := by
  induction mark generalizing x with
  | nil => rfl
  | cons m mark ih =>
    rw [List.mem_cons, not_or] at h
    cases x with
    | nil =>
      rw [List.nil_append, after?_cons_cons, if_neg (by simpa using Ne.symm h.1)]
      rfl
    | cons c x =>
      rw [List.cons_append, after?_cons_cons, after?_cons_cons]
      split
      · exact ih h.2 x
      · rfl

theorem dropWhile_append_cons {p : Char → Bool} {d : Char} (h : p d = false) (x r : Text) :
    (x ++ d :: r).dropWhile p = x.dropWhile p ++ d :: r := by
  induction x with
  | nil => simp [h]
  | cons c x ih =>
    rw [List.cons_append, List.dropWhile_cons, List.dropWhile_cons, ih]
    split <;> rfl

theorem takeWhile_append_cons {p : Char → Bool} {d : Char} (h : p d = false) (x r : Text) :
    (x ++ d :: r).takeWhile p = x.takeWhile p := by
  induction x with
  | nil => simp [h]
  | cons c x ih => rw [List.cons_append, List.takeWhile_cons, List.takeWhile_cons, ih]

/-- A run of characters goes on up to the first one of another class. -/
theorem span_run {p : Char → Bool} {run : Text} {d : Char} (hrun : ∀ c ∈ run, p c = true)
    (hd : p d = false) (r : Text) :
    (run ++ d :: r).takeWhile p = run ∧ (run ++ d :: r).dropWhile p = d :: r := by
  rw [List.takeWhile_append_of_pos hrun, List.dropWhile_append_of_pos hrun]
  simp [hd]

end LuaReference.Text
