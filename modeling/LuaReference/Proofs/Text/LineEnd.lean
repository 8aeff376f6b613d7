import LuaReference.Proofs.Text.Mark
import LuaReference.Proofs.Text.Pieces
import LuaReference.Proofs.Text.Scan

/-!
# Texts with carriage returns

* `crlf t` : a text with a carriage return before every newline;
* `after?_crlf`, `cut?_crlf`, `occurs_crlf`, `dropEnd_crlf` : marks without line ends stand where they
  stood;
* `takeWhile_crlf`, `dropWhile_crlf` : so do runs of characters among which line ends are all or none;
* `lines_crlf` : the lines are the same up to blanks at their ends;
* `moved t p` : where the offset `p` goes, and `lineAt_moved` : its line stays;
* `ReadsThrough`, `scan_crlf` : a recognizer that reads through line ends finds the same items.
-/

namespace LuaReference.Text

/-- A text with a carriage return before every newline. -/
def crlf (t : Text) : Text := replaceChar '\n' "\r\n" t

@[simp] theorem crlf_nil : crlf [] = [] := rfl

@[simp] theorem crlf_newline (t : Text) : crlf ('\n' :: t) = '\r' :: '\n' :: crlf t := rfl

theorem crlf_cons {c : Char} (h : c ≠ '\n') (t : Text) : crlf (c :: t) = c :: crlf t :=
  replaceChar_cons_of_ne h _ t

theorem crlf_append (s t : Text) : crlf (s ++ t) = crlf s ++ crlf t := List.flatMap_append

theorem crlf_of_not_mem {t : Text} (h : '\n' ∉ t) : crlf t = t := by
  induction t with
  | nil => rfl
  | cons c t ih =>
    rw [List.mem_cons, not_or] at h
    rw [crlf_cons (Ne.symm h.1), ih h.2]

theorem crlf_eq_nil {t : Text} : crlf t = [] ↔ t = [] := by
  cases t with
  | nil => simp
  | cons c t =>
    by_cases hc : c = '\n'
    · simp [hc]
    · simp [crlf_cons hc]

theorem byteLength_crlf (t : Text) : byteLength (crlf t) = byteLength t + t.count '\n' := by
  induction t with
  | nil => rfl
  | cons c t ih =>
    by_cases hc : c = '\n'
    · subst hc
      have hreturn : Char.utf8Size '\r' = 1 := rfl
      simp only [crlf_newline, byteLength, List.count_cons_self, ih, hreturn]
      omega
    · rw [crlf_cons hc, byteLength, byteLength, ih, List.count_cons_of_ne (by simpa using hc)]
      omega

theorem lastOf_crlf (before : Option Char) (t : Text) : lastOf before (crlf t) = lastOf before t := by
  induction t generalizing before with
  | nil => rfl
  | cons c t ih =>
    by_cases hc : c = '\n'
    · subst hc
      rw [crlf_newline, lastOf_cons, lastOf_cons, lastOf_cons, ih]
    · rw [crlf_cons hc, lastOf_cons, lastOf_cons, ih]

/-! ## Marks -/

/-- A text without line ends. -/
def Unbroken (t : Text) : Prop := '\n' ∉ t ∧ '\r' ∉ t

instance (t : Text) : Decidable (Unbroken t) := inferInstanceAs (Decidable (_ ∧ _))

theorem Unbroken.crlf_eq {t : Text} (h : Unbroken t) : crlf t = t := crlf_of_not_mem h.1

theorem Unbroken.head_ne {m c : Char} {t : Text} (h : Unbroken (m :: t)) (hc : c = '\n' ∨ c = '\r') :
    m ≠ c := by
  rintro rfl
  rcases hc with rfl | rfl
  · exact h.1 List.mem_cons_self
  · exact h.2 List.mem_cons_self

theorem after?_replaceChar {mark : Text} {c d : Char} (hc : c ∉ mark) (hd : d ∉ mark) (image t : Text) :
    after? mark (replaceChar c (d :: image) t) = (after? mark t).map (replaceChar c (d :: image)) := by
  induction mark generalizing t with
  | nil => rfl
  | cons m mark ih =>
    rw [List.mem_cons, not_or] at hc hd
    cases t with
    | nil => rfl
    | cons e t =>
      rw [after?_cons_cons]
      by_cases he : e = c
      · subst he
        rw [replaceChar_cons_self, List.cons_append, after?_cons_cons, if_neg (by simpa using Ne.symm hd.1),
          if_neg (by simpa using Ne.symm hc.1)]
        rfl
      · rw [replaceChar_cons_of_ne he, after?_cons_cons]
        split
        · exact ih hc.2 hd.2 t
        · rfl

theorem after?_crlf {mark : Text} (h : Unbroken mark) (t : Text) :
    after? mark (crlf t) = (after? mark t).map crlf :=
  after?_replaceChar h.1 h.2 _ t

theorem dropStart_crlf {mark : Text} (h : Unbroken mark) (t : Text) :
    dropStart mark (crlf t) = crlf (dropStart mark t) := by
  rw [dropStart, dropStart, after?_crlf h]
  cases after? mark t <;> rfl

theorem reverse_crlf (t : Text) : (crlf t).reverse = replaceChar '\n' ['\n', '\r'] t.reverse := by
  induction t with
  | nil => rfl
  | cons c t ih =>
    by_cases hc : c = '\n'
    · subst hc
      simp [ih, replaceChar]
    · simp [crlf_cons hc, ih, replaceChar, hc]

theorem dropEnd_crlf {mark : Text} (h : Unbroken mark) (t : Text) :
    dropEnd mark (crlf t) = crlf (dropEnd mark t) := by
  have hline : '\n' ∉ mark.reverse := by simpa using h.1
  unfold dropEnd before?
  rw [reverse_crlf, after?_replaceChar hline hline]
  cases after? mark.reverse t.reverse with
  | none => rfl
  | some front =>
    simp only [Option.map_some, Option.getD_some]
    rw [← List.reverse_reverse front, ← reverse_crlf, List.reverse_reverse, List.reverse_reverse]

theorem cut?_crlf {mark : Text} (h : Unbroken mark) (hne : mark ≠ []) (t : Text) :
    cut? mark (crlf t) = (cut? mark t).map fun (front, rest) => (crlf front, crlf rest) := by
  obtain ⟨m, rest, rfl⟩ := List.exists_cons_of_ne_nil hne
  have hstart : ∀ {c : Char} (r : Text), c = '\n' ∨ c = '\r' → after? (m :: rest) (c :: r) = none := by
    intro c r hc
    rw [after?_cons_cons, if_neg (by simpa using h.head_ne hc)]
  induction t with
  | nil => rfl
  | cons c t ih =>
    by_cases hc : c = '\n'
    · subst hc
      rw [crlf_newline, cut?_cons, hstart _ (.inr rfl), cut?_cons, hstart _ (.inl rfl), ih, cut?_cons,
        hstart _ (.inl rfl)]
      cases cut? (m :: rest) t <;> rfl
    · have hhere := after?_crlf h (c :: t)
      rw [crlf_cons hc] at hhere ⊢
      rw [cut?_cons, cut?_cons, hhere, ih]
      cases after? (m :: rest) (c :: t) with
      | some inner => rfl
      | none =>
        cases cut? (m :: rest) t with
        | none => rfl
        | some found => simp [crlf_cons hc]

theorem occurs_crlf {mark : Text} (h : Unbroken mark) (hne : mark ≠ []) (t : Text) :
    occurs mark (crlf t) = occurs mark t := by
  rw [occurs_eq, cut?_crlf h hne, Option.isSome_map, occurs_eq]

/-! ## Runs -/

theorem isBlank_return : isBlank '\r' = isBlank '\n' := by decide

theorem takeWhile_crlf {p : Char → Bool} (h : p '\r' = p '\n') (t : Text) :
    (crlf t).takeWhile p = crlf (t.takeWhile p) := by
  induction t with
  | nil => rfl
  | cons c t ih =>
    by_cases hc : c = '\n'
    · subst hc
      rw [crlf_newline, List.takeWhile_cons, List.takeWhile_cons, List.takeWhile_cons, h, ih]
      cases p '\n' <;> rfl
    · rw [crlf_cons hc, List.takeWhile_cons, List.takeWhile_cons, ih]
      cases p c with
      | true => exact (crlf_cons hc _).symm
      | false => rfl

theorem dropWhile_crlf {p : Char → Bool} (h : p '\r' = p '\n') (t : Text) :
    (crlf t).dropWhile p = crlf (t.dropWhile p) := by
  induction t with
  | nil => rfl
  | cons c t ih =>
    by_cases hc : c = '\n'
    · subst hc
      rw [crlf_newline, List.dropWhile_cons, List.dropWhile_cons, List.dropWhile_cons, h, ih]
      cases p '\n' <;> rfl
    · rw [crlf_cons hc, List.dropWhile_cons, List.dropWhile_cons, ih]
      cases p c with
      | true => rfl
      | false => exact (crlf_cons hc _).symm

/-! ## Lines -/

theorem trimEnd_cons (c : Char) (t : Text) :
    trimEnd (c :: t) = if trimEnd t = [] ∧ isBlank c = true then [] else c :: trimEnd t := by
  rw [trimEnd]
  cases trimEnd t with
  | nil => simp
  | cons d s => simp

theorem trimEnd_trimEnd (t : Text) : trimEnd (trimEnd t) = trimEnd t := by
  induction t with
  | nil => rfl
  | cons c t ih =>
    rw [trimEnd_cons]
    split
    · rfl
    · rename_i hkept
      rw [trimEnd_cons, ih, if_neg hkept]

theorem trimStart_trimEnd (t : Text) : trimStart (trimEnd t) = trimEnd (trimStart t) := by
  induction t with
  | nil => rfl
  | cons c t ih =>
    cases hc : isBlank c with
    | false =>
      have hend : trimEnd (c :: t) = c :: trimEnd t := by rw [trimEnd_cons, if_neg (by simp [hc])]
      have hstart : ∀ s, trimStart (c :: s) = c :: s := fun s => List.dropWhile_cons_of_neg (by simp [hc])
      rw [hend, hstart, hstart, hend]
    | true =>
      rw [trimStart_blank hc, ← ih, trimEnd_cons]
      split
      · rename_i hnil
        rw [hnil.1]
      · exact trimStart_blank hc _

theorem trim_trimEnd (t : Text) : trim (trimEnd t) = trim t := by
  rw [trim, trimStart_trimEnd, trimEnd_trimEnd, trim]

theorem trimEnd_concat {c : Char} (hc : isBlank c = true) (t : Text) : trimEnd (t ++ [c]) = trimEnd t := by
  induction t with
  | nil => simp [trimEnd, hc]
  | cons d t ih => rw [List.cons_append, trimEnd, trimEnd, ih]

theorem trimEnd_append_blanks {tail : Text} (h : ∀ c ∈ tail, isBlank c = true) (t : Text) :
    trimEnd (t ++ tail) = trimEnd t := by
  induction tail generalizing t with
  | nil => rw [List.append_nil]
  | cons c tail ih =>
    rw [List.forall_mem_cons] at h
    rw [List.append_cons, ih h.2, trimEnd_concat h.1]

theorem trimEnd_dropReturn (t : Text) : trimEnd (dropEnd ['\r'] t) = trimEnd t := by
  by_cases h : t.getLast? = some '\r'
  · obtain ⟨front, rfl⟩ := List.getLast?_eq_some_iff.1 h
    rw [dropEnd_append, trimEnd_concat (by decide)]
  · rw [dropEnd_of_getLast? h]

/-- The pieces between newlines, with a carriage return at the end of all but the last. -/
def addReturns : List Text → List Text
  | [] => []
  | [last] => [last]
  | piece :: next :: rest => (piece ++ ['\r']) :: addReturns (next :: rest)

theorem splitOn_crlf (t : Text) : splitOn '\n' (crlf t) = addReturns (splitOn '\n' t) := by
  induction t with
  | nil => rfl
  | cons c t ih =>
    obtain ⟨piece, rest, ht⟩ := List.exists_cons_of_ne_nil (splitOn_ne_nil '\n' t)
    by_cases hc : c = '\n'
    · subst hc
      have hreturn : splitOn '\n' (['\r'] ++ '\n' :: crlf t) = ['\r'] :: splitOn '\n' (crlf t) :=
        splitOn_append_mark (crlf t) (by decide)
      rw [List.singleton_append] at hreturn
      rw [crlf_newline, hreturn, ih, splitOn_cons_mark, ht]
      rfl
    · obtain ⟨piece', rest', ht', hcons⟩ := splitOn_cons_of_ne t hc
      obtain ⟨first, more, hfirst, hmore⟩ := splitOn_cons_of_ne (crlf t) hc
      rw [ih, ht'] at hfirst
      rw [crlf_cons hc, hmore, hcons]
      cases rest' with
      | nil =>
        cases hfirst
        rfl
      | cons next rest' =>
        cases hfirst
        rfl

/-- The lines of a text with carriage returns are those of the text, up to blanks at their ends. -/
theorem lines_crlf (t : Text) : (lines (crlf t)).map trimEnd = (lines t).map trimEnd := by
  rw [lines, lines, splitOn_crlf]
  induction splitOn '\n' t with
  | nil => rfl
  | cons piece rest ih =>
    cases rest with
    | nil => rfl
    | cons next rest =>
      have hnext : addReturns (next :: rest) ≠ [] := by cases rest <;> simp [addReturns]
      obtain ⟨next', rest', hcons⟩ := List.exists_cons_of_ne_nil hnext
      rw [addReturns]
      rw [hcons] at ih ⊢
      rw [linesOfPieces, linesOfPieces, List.map_cons, List.map_cons, ih, dropEnd_append,
        trimEnd_dropReturn]

/-- What is made of the lines is the same, where blanks at their ends do not matter. -/
theorem map_lines_crlf {α : Type} {f : Text → α} (hf : ∀ line, f (trimEnd line) = f line) (t : Text) :
    (lines (crlf t)).map f = (lines t).map f := by
  have hmap : ∀ raws : List Text, raws.map f = (raws.map trimEnd).map f := by
    intro raws
    rw [List.map_map]
    exact List.map_congr_left fun line _ => (hf line).symm
  rw [hmap, hmap (lines t), lines_crlf]

theorem foldl_lines_crlf {σ : Type} {f : σ → Text → σ} (hf : ∀ s line, f s (trimEnd line) = f s line)
    (s : σ) (t : Text) : (lines (crlf t)).foldl f s = (lines t).foldl f s := by
  have hfold : ∀ raws : List Text, raws.foldl f s = (raws.map trimEnd).foldl f s := by
    intro raws
    simp only [List.foldl_map, hf]
  rw [hfold, hfold (lines t), lines_crlf]

/-! ## Offsets -/

/-- Where an offset of `t` goes in the text with carriage returns. -/
def moved (t : Text) (p : Nat) : Nat := p + newlinesBefore p 0 t

theorem moved_append (u v : Text) : moved (u ++ v) (byteLength u) = byteLength (crlf u) := by
  have hcount := newlinesBefore_append 0 u v
  rw [Nat.zero_add] at hcount
  rw [moved, hcount, byteLength_crlf]

theorem moved_lt_moved {t : Text} {p q : Nat} : moved t p < moved t q ↔ p < q := by
  unfold moved
  constructor
  · intro h
    by_cases hle : q ≤ p
    · have := newlinesBefore_le_of_le hle 0 t
      omega
    · omega
  · intro h
    have := newlinesBefore_le_of_le (Nat.le_of_lt h) 0 t
    omega

theorem moved_le_moved {t : Text} {p q : Nat} : moved t p ≤ moved t q ↔ p ≤ q := by
  rw [← Nat.not_lt, moved_lt_moved, Nat.not_lt]

/-- `shift` is how far the text was moved before. -/
theorem newlinesBefore_crlf (p pos shift : Nat) (t : Text) :
    newlinesBefore (p + newlinesBefore p pos t + shift) (pos + shift) (crlf t) = newlinesBefore p pos t := by
  induction t generalizing pos shift with
  | nil => rfl
  | cons c r ih =>
    by_cases hc : c = '\n'
    · subst hc
      have hreturn : Char.utf8Size '\r' = 1 := rfl
      have hline : Char.utf8Size '\n' = 1 := rfl
      by_cases hp : pos < p
      · have hrest := ih (pos + 1) (shift + 1)
        have hcount : newlinesBefore p pos ('\n' :: r) = 1 + newlinesBefore p (pos + 1) r := by
          rw [newlinesBefore, if_pos ⟨rfl, hp⟩, hline]
        rw [show p + newlinesBefore p (pos + 1) r + (shift + 1) =
            p + (1 + newlinesBefore p (pos + 1) r) + shift by omega,
          show pos + 1 + (shift + 1) = pos + shift + 1 + 1 by omega] at hrest
        rw [hcount, crlf_newline, newlinesBefore, newlinesBefore, if_neg (by simp), if_pos ⟨rfl, by omega⟩,
          hreturn, hline, hrest, Nat.zero_add]
      · rw [newlinesBefore_of_le (by omega : p ≤ pos), newlinesBefore_of_le (by omega)]
    · have hrest := ih (pos + c.utf8Size) shift
      have hcount : newlinesBefore p pos (c :: r) = newlinesBefore p (pos + c.utf8Size) r := by
        rw [newlinesBefore, if_neg (by simp [hc]), Nat.zero_add]
      rw [crlf_cons hc, hcount, newlinesBefore, if_neg (by simp [hc]), Nat.zero_add,
        show pos + shift + c.utf8Size = pos + c.utf8Size + shift by omega, hrest]

/-- The line of an offset does not change. -/
theorem lineAt_moved (t : Text) (p : Nat) :
    (LineTable.ofText (crlf t)).lineAt (moved t p) = (LineTable.ofText t).lineAt p := by
  rw [lineAt_eq, lineAt_eq, moved]
  exact congrArg (· + 1) (newlinesBefore_crlf p 0 0 t)

/-! ## Scans -/

variable {α : Type}

/-- An item elsewhere. -/
def Found.relocate (place : Nat → Nat) (image : α → α) (f : Found α) : Found α :=
  ⟨place f.start, place f.stop, image f.item⟩

/-- What is read in a text with carriage returns. -/
def Reading.crlf (image : α → α) : Reading α → Reading α
  | .present item taken => .present (image item) (Text.crlf taken)
  | .nothing => .nothing
  | .never => .never

/-- A recognizer starts at no line end, and from anywhere else reads through the carriage returns. -/
structure ReadsThrough (read : Recognizer α) (image : α → α) : Prop where
  takes : read.Takes
  newline : ∀ before r, read before ('\n' :: r) = .nothing
  carriageReturn : ∀ before r, read before ('\r' :: r) = .nothing
  other : ∀ before c r, c ≠ '\n' → read before (crlf (c :: r)) = (read before (c :: r)).crlf image

theorem ReadsThrough.scanFrom_eq {read : Recognizer α} {image : α → α} (h : ReadsThrough read image)
    (u t : Text) (before : Option Char) :
    scanFrom read before (byteLength (crlf u)) 0 (crlf t) =
      (scanFrom read before (byteLength u) 0 t).map (Found.relocate (moved (u ++ t)) image) := by
  -- every step passes a character or what an item took, in both texts
  induction hn : t.length using Nat.strongRecOn generalizing u t before with
  | ind n ih =>
    have hnext : ∀ (v r : Text), t = v ++ r → v ≠ [] → ∀ before,
        scanFrom read before (byteLength (crlf (u ++ v))) 0 (crlf r) =
          (scanFrom read before (byteLength (u ++ v)) 0 r).map (Found.relocate (moved (u ++ t)) image) := by
      intro v r ht hv before
      have hlen := congrArg List.length ht
      rw [List.length_append] at hlen
      have hpos := List.length_pos_iff.2 hv
      have hstep := ih r.length (by omega) (u ++ v) r before rfl
      rwa [List.append_assoc, ← ht] at hstep
    cases t with
    | nil => rfl
    | cons c r =>
      have hone := hnext [c] r rfl (List.cons_ne_nil c [])
      rw [crlf_append, byteLength_append, byteLength_append] at hone
      by_cases hc : c = '\n'
      · subst hc
        rw [crlf_newline, scanFrom_nothing (h.carriageReturn _ _), scanFrom_nothing (h.newline _ _),
          scanFrom_nothing (h.newline _ _)]
        exact hone (some '\n')
      · have hread := h.other before c r hc
        cases hitem : read before (c :: r) with
        | nothing =>
          rw [hitem, crlf_cons hc] at hread
          rw [crlf_cons hc, scanFrom_nothing hread, scanFrom_nothing hitem]
          rw [crlf_cons hc] at hone
          exact hone (some c)
        | never =>
          rw [hitem, crlf_cons hc] at hread
          rw [crlf_cons hc, scanFrom, hread, scanFrom, hitem]
          rfl
        | present item taken =>
          obtain ⟨hne, rest, htaken⟩ := h.takes _ _ _ _ hitem
          have hmore := hnext taken rest htaken hne (lastOf before taken)
          have hstop := moved_append (u ++ taken) rest
          have hstart := moved_append u (c :: r)
          rw [List.append_assoc, ← htaken] at hstop
          rw [hitem, htaken, crlf_append] at hread
          rw [htaken] at hitem
          rw [htaken, crlf_append, scanFrom_present (by rwa [Ne, crlf_eq_nil]) hread,
            scanFrom_present hne hitem, lastOf_crlf, List.map_cons, ← byteLength_append,
            ← byteLength_append, ← crlf_append, ← htaken, hmore]
          simp only [Found.relocate, hstart, hstop]

/-- The items of a text with carriage returns are those of the text, each in its new place. -/
theorem scan_crlf {read : Recognizer α} {image : α → α} (h : ReadsThrough read image) (t : Text) :
    scan read (crlf t) = (scan read t).map (Found.relocate (moved t) image) :=
  h.scanFrom_eq [] t none

end LuaReference.Text
