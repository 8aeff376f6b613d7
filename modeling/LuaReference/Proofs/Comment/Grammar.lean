import LuaReference.Comment.Block
import LuaReference.Proofs.Text.Mark
import LuaReference.Proofs.Text.Scan

/-!
# The grammar of comment blocks

* `ofBody body` : the block with this body;
* `Segmented pos t spans` : a text, which starts at offset `pos`, as gaps, blocks and a tail;
* `Segmented.scanFrom_eq`, `exists_segmented` : a scan for blocks finds those of the segments;
* `Delimits source pos spans` : the conditions on offsets that say which blocks a source has from
  `pos` on;
* `Segmented.delimits`, `Delimits.segmented` : they say the same as the segments;
* `pairwise_extract`, `pairwise_line` : blocks are listed in the order of the source, in which their
  lines do not go down;
* `blocks_delimit` : the blocks of a source meet the conditions, and nothing else does.
-/

namespace LuaReference.Comment

open Text

/-- The block with this body. -/
def ofBody (body : Text) : Text := opening ++ (body ++ closing)

theorem body_ofBody (t : Text) : body (ofBody t) = t := by
  rw [body, ofBody, dropStart_append, dropEnd_append]

theorem ofBody_ne_nil (t : Text) : ofBody t ≠ [] := List.cons_ne_nil _ _

/-! ## Reading one block -/

theorem readBlock_ofBody {body : Text} (h : FirstAtEnd closing body) (before : Option Char) (rest : Text) :
    readBlock before (ofBody body ++ rest) = .present (ofBody body) (ofBody body) := by
  have hcut : cut? closing (body ++ closing ++ rest) = some (body, rest) := by
    rw [List.append_assoc, cut?_append h]
  rw [readBlock, ofBody, List.append_assoc, after?_append]
  simp only [hcut]
  rw [List.append_assoc]

theorem readBlock_takes : Recognizer.Takes readBlock := by
  intro before t item taken h
  unfold readBlock at h
  cases hopen : after? opening t with
  | none => simp [hopen] at h
  | some inner =>
    cases hcut : cut? closing inner with
    | none => simp [hopen, hcut] at h
    | some found =>
      obtain ⟨body, rest⟩ := found
      simp only [hopen, hcut, Reading.present.injEq] at h
      obtain ⟨-, rfl⟩ := h
      refine ⟨by simp [opening], rest, ?_⟩
      rw [after?_eq_some_iff.1 hopen, (eq_append_of_cut? hcut).1]
      simp only [List.append_assoc]

theorem scanFrom_gap {gap : Text} (h : FirstAtEnd opening gap) (before : Option Char) (pos : Nat)
    (x : Text) :
    scanFrom readBlock before pos 0 (gap ++ (opening ++ x)) =
      scanFrom readBlock (lastOf before gap) (pos + byteLength gap) 0 (opening ++ x) := by
  induction gap generalizing before pos with
  | nil => rfl
  | cons c gap ih =>
    have hread : readBlock before (c :: (gap ++ (opening ++ x))) = .nothing := by
      rw [readBlock, ← List.cons_append, h.after?_eq_none (List.cons_ne_nil c gap)]
    rw [List.cons_append, scanFrom_nothing hread, ih h.of_cons, lastOf_cons,
      byteLength, Nat.add_assoc]

/-- A scan passes a gap, finds the block after it and goes on behind it. -/
theorem scanFrom_block {gap body : Text} (hgap : FirstAtEnd opening gap) (hbody : FirstAtEnd closing body)
    (before : Option Char) (pos : Nat) (rest : Text) :
    scanFrom readBlock before pos 0 (gap ++ (ofBody body ++ rest)) =
      ⟨pos + byteLength gap, pos + byteLength gap + byteLength (ofBody body), ofBody body⟩ ::
        scanFrom readBlock none (pos + byteLength gap + byteLength (ofBody body)) 0 rest := by
  have hpass : scanFrom readBlock before pos 0 (gap ++ (ofBody body ++ rest)) =
      scanFrom readBlock (lastOf before gap) (pos + byteLength gap) 0 (ofBody body ++ rest) := by
    rw [ofBody, List.append_assoc]
    exact scanFrom_gap hgap before pos _
  rw [hpass, scanFrom_present (ofBody_ne_nil body) (readBlock_ofBody hbody _ rest)]
  have hsame : ∀ t, readBlock (lastOf (lastOf before gap) (ofBody body)) t = readBlock none t :=
    fun _ => rfl
  rw [scanFrom_before hsame]

/-- No block is closed in a text. -/
def Unclosed (t : Text) : Prop := ∀ front inner, t = front ++ (opening ++ inner) → cut? closing inner = none

theorem Unclosed.of_cons {c : Char} {r : Text} (h : Unclosed (c :: r)) : Unclosed r :=
  fun front inner heq => h (c :: front) inner (by rw [heq, List.cons_append])

theorem scanFrom_unclosed {t : Text} (h : Unclosed t) (before : Option Char) (pos : Nat) :
    scanFrom readBlock before pos 0 t = [] := by
  induction t generalizing before pos with
  | nil => rfl
  | cons c r ih =>
    cases hopen : after? opening (c :: r) with
    | none =>
      have hread : readBlock before (c :: r) = .nothing := by rw [readBlock, hopen]
      rw [scanFrom_nothing hread]
      exact ih h.of_cons _ _
    | some inner =>
      have hwhole : c :: r = opening ++ inner := after?_eq_some_iff.1 hopen
      have hread : readBlock before (c :: r) = .never := by
        simp only [readBlock, hopen, h [] inner hwhole]
      rw [scanFrom, hread]

/-! ## Segments -/

/-- A text that starts at offset `pos`, as gaps, blocks and a tail in which no block is closed. -/
inductive Segmented : Nat → Text → List (Found Text) → Prop
  | tail {pos : Nat} {t : Text} (h : Unclosed t) : Segmented pos t []
  | block {pos : Nat} {gap body rest : Text} {spans : List (Found Text)}
      (hgap : FirstAtEnd opening gap) (hbody : FirstAtEnd closing body)
      (hrest : Segmented (pos + byteLength gap + byteLength (ofBody body)) rest spans) :
      Segmented pos (gap ++ (ofBody body ++ rest))
        (⟨pos + byteLength gap, pos + byteLength gap + byteLength (ofBody body), ofBody body⟩ :: spans)

theorem Segmented.scanFrom_eq {pos : Nat} {t : Text} {spans : List (Found Text)}
    (h : Segmented pos t spans) (before : Option Char) : scanFrom readBlock before pos 0 t = spans := by
  induction h generalizing before with
  | tail h => exact scanFrom_unclosed h before _
  | block hgap hbody _ ih => rw [scanFrom_block hgap hbody, ih]

/-- Where the first opening marker has no closing one after it, no other has. -/
theorem unclosed_of_first {gap inner : Text} (hgap : FirstAtEnd opening gap)
    (hinner : cut? closing inner = none) : Unclosed (gap ++ (opening ++ inner)) := by
  intro front inner' heq
  rw [cut?_eq_none_iff] at hinner ⊢
  rintro body rest rfl
  by_cases hle : byteLength gap ≤ byteLength front
  · obtain ⟨w, rfl, hw⟩ := append_of_byteLength_le heq hle
    -- both openings are opening markers, and what follows the later one follows the first
    obtain ⟨v, hv, hinner'⟩ : ∃ v, opening ++ v = w ++ opening ∧ inner = v ++ (body ++ (closing ++ rest)) := by
      have hshort : byteLength opening ≤ byteLength (w ++ opening) := by
        rw [byteLength_append]
        omega
      obtain ⟨v, hv, hv'⟩ := append_of_byteLength_le
        (by rw [hw, List.append_assoc] : opening ++ inner = (w ++ opening) ++ (body ++ (closing ++ rest)))
        hshort
      exact ⟨v, hv.symm, hv'⟩
    exact hinner (v ++ body) rest (by rw [hinner', List.append_assoc])
  · obtain ⟨w, hgap', hw⟩ := append_of_byteLength_le heq.symm (by omega)
    have hne : w ≠ [] := by
      rintro rfl
      rw [List.append_nil] at hgap'
      rw [hgap'] at hle
      exact hle (Nat.le_refl _)
    have hnone := (hgap' ▸ hgap : FirstAtEnd opening (front ++ w)).of_append.after?_eq_none hne inner
    rw [← hw, after?_append] at hnone
    cases hnone

theorem exists_segmented (pos : Nat) (t : Text) : ∃ spans, Segmented pos t spans := by
  -- a block and the gap before it go, so the rest is shorter
  induction hn : t.length using Nat.strongRecOn generalizing pos t with
  | ind n ih =>
    cases hopen : cut? opening t with
    | none =>
      rw [cut?_eq_none_iff] at hopen
      exact ⟨[], .tail fun front inner heq => absurd heq (hopen front inner)⟩
    | some found =>
      obtain ⟨gap, inner⟩ := found
      obtain ⟨ht, hgap⟩ := eq_append_of_cut? hopen
      cases hclose : cut? closing inner with
      | none =>
        rw [ht]
        exact ⟨[], .tail (unclosed_of_first hgap hclose)⟩
      | some found =>
        obtain ⟨body, rest⟩ := found
        obtain ⟨hinner, hbody⟩ := eq_append_of_cut? hclose
        have hwhole : t = gap ++ (ofBody body ++ rest) := by
          rw [ht, hinner, ofBody]
          simp only [List.append_assoc]
        have hshort : rest.length < n := by
          rw [← hn, hwhole]
          simp only [List.length_append, ofBody, opening]
          simp
          omega
        obtain ⟨spans, hspans⟩ := ih rest.length hshort
          (pos + byteLength gap + byteLength (ofBody body)) rest rfl
        rw [hwhole]
        exact ⟨_, .block hgap hbody hspans⟩

/-! ## Conditions on offsets -/

/-- The bytes of a block, with its text. -/
def Block.span (b : Block) : Found Text := ⟨b.start, b.stop, b.text⟩

/-- A mark stands at an offset. -/
def MarkAt (mark source : Text) (offset : Nat) : Prop :=
  slice? offset (offset + byteLength mark) source = some mark

/-- The gap before each span, from where the last one stops, or from `pos`. -/
def gaps : (pos : Nat) → List (Found Text) → List (Nat × Nat)
  | _, [] => []
  | pos, span :: rest => (pos, span.start) :: gaps span.stop rest

/-- Where the last span stops, or `pos`. -/
def lastStop : (pos : Nat) → List (Found Text) → Nat
  | pos, [] => pos
  | _, span :: rest => lastStop span.stop rest

/-- The spans are those of the blocks of a source from the offset `pos` on. -/
structure Delimits (source : Text) (pos : Nat) (spans : List (Found Text)) : Prop where
  first : ∀ span ∈ spans, pos ≤ span.start
  ordered : spans.Pairwise fun a b => a.start < b.start ∧ a.stop ≤ b.start
  text : ∀ span ∈ spans, slice? span.start span.stop source = some span.item
  /-- Between its markers a block has its body, which no closing marker ends early. -/
  shape : ∀ span ∈ spans, span.item = opening ++ (body span.item ++ closing) ∧
    FirstAtEnd closing (body span.item)
  gap : ∀ gap ∈ gaps pos spans, ∀ p, gap.1 ≤ p → p < gap.2 → ¬ MarkAt opening source p
  tail : ∀ p q, lastStop pos spans ≤ p → MarkAt opening source p → p + byteLength opening ≤ q →
    ¬ MarkAt closing source q

/-- The gaps and the texts of the spans, put together again from the offset `pos` on. -/
def interleaved? (source : Text) : (pos : Nat) → List (Found Text) → Option Text
  | pos, [] => slice? pos (byteLength source) source
  | pos, span :: rest => do
    let gap ← slice? pos span.start source
    let more ← interleaved? source span.stop rest
    return gap ++ (span.item ++ more)

theorem markAt_iff {mark source : Text} {offset : Nat} :
    MarkAt mark source offset ↔ ∃ u v, source = u ++ (mark ++ v) ∧ byteLength u = offset := by
  unfold MarkAt
  rw [slice?_eq_some_iff]
  simp

/-- A mark at or after a place stands in what follows that place. -/
theorem MarkAt.exists_append {mark u t : Text} {p : Nat} (h : MarkAt mark (u ++ t) p)
    (hle : byteLength u ≤ p) : ∃ w v, t = w ++ (mark ++ v) ∧ p = byteLength (u ++ w) := by
  obtain ⟨u', v, heq, rfl⟩ := markAt_iff.1 h
  obtain ⟨w, rfl, ht⟩ := append_of_byteLength_le heq hle
  exact ⟨w, v, ht, rfl⟩

theorem markAt_append {mark u v : Text} : MarkAt mark (u ++ (mark ++ v)) (byteLength u) :=
  markAt_iff.2 ⟨u, v, rfl, rfl⟩

/-- No opening marker starts in a gap. -/
theorem not_markAt_gap {u gap x : Text} (hgap : FirstAtEnd opening gap) {p : Nat}
    (hle : byteLength u ≤ p) (hlt : p < byteLength (u ++ gap)) :
    ¬ MarkAt opening (u ++ (gap ++ (opening ++ x))) p := by
  intro hmark
  obtain ⟨w, v, ht, rfl⟩ := hmark.exists_append hle
  rw [byteLength_append, byteLength_append] at hlt
  obtain ⟨w', rfl, hw'⟩ := append_of_byteLength_le ht.symm (by omega)
  have hne : w' ≠ [] := by
    rintro rfl
    rw [List.append_nil] at hlt
    omega
  have hnone := hgap.of_append.after?_eq_none hne x
  rw [← hw', after?_append] at hnone
  cases hnone

theorem not_markAt_tail {u t : Text} (ht : Unclosed t) {p q : Nat} (hle : byteLength u ≤ p)
    (hopen : MarkAt opening (u ++ t) p) (hpq : p + byteLength opening ≤ q) :
    ¬ MarkAt closing (u ++ t) q := by
  intro hclose
  obtain ⟨w, inner, rfl, rfl⟩ := hopen.exists_append hle
  have hsource : u ++ (w ++ (opening ++ inner)) = (u ++ (w ++ opening)) ++ inner := by
    simp only [List.append_assoc]
  rw [hsource] at hclose
  obtain ⟨front, rest, hinner, -⟩ := hclose.exists_append (by
    simp only [byteLength_append] at hpq ⊢
    omega)
  exact cut?_eq_none_iff.1 (ht w inner rfl) front rest hinner

/-- The blocks of the segments meet the conditions. -/
theorem Segmented.delimits {pos : Nat} {t : Text} {spans : List (Found Text)}
    (h : Segmented pos t spans) {u : Text} (hu : byteLength u = pos) : Delimits (u ++ t) pos spans := by
  induction h generalizing u with
  | tail ht =>
    refine ⟨by simp, .nil, by simp, by simp, by simp [gaps], ?_⟩
    intro p q hle hopen hpq
    exact not_markAt_tail ht (hu ▸ hle) hopen hpq
  | @block pos gap body rest spans hgap hbody _ ih =>
    have hlen : byteLength (u ++ (gap ++ ofBody body)) =
        pos + byteLength gap + byteLength (ofBody body) := by
      rw [byteLength_append, byteLength_append, hu, Nat.add_assoc]
    have hpos := byteLength_pos (ofBody_ne_nil body)
    have hrest := ih hlen
    rw [show u ++ (gap ++ ofBody body) ++ rest = u ++ (gap ++ (ofBody body ++ rest)) by
      simp only [List.append_assoc]] at hrest
    constructor
    · rw [List.forall_mem_cons]
      refine ⟨Nat.le_add_right _ _, fun span hspan => ?_⟩
      have := hrest.first span hspan
      omega
    · rw [List.pairwise_cons]
      refine ⟨fun span hspan => ?_, hrest.ordered⟩
      have := hrest.first span hspan
      exact ⟨by simp only; omega, this⟩
    · rw [List.forall_mem_cons]
      refine ⟨slice?_eq_some_iff.2 ⟨u ++ gap, rest, by rw [List.append_assoc], ?_, rfl⟩, hrest.text⟩
      rw [byteLength_append, hu]
    · rw [List.forall_mem_cons]
      refine ⟨?_, hrest.shape⟩
      simp only [body_ofBody]
      exact ⟨rfl, hbody⟩
    · rw [gaps, List.forall_mem_cons]
      refine ⟨fun p hle hlt => ?_, hrest.gap⟩
      rw [ofBody, List.append_assoc opening]
      refine not_markAt_gap hgap (hu ▸ hle) ?_
      rw [byteLength_append, hu]
      exact hlt
    · exact hrest.tail

/-- Without its first span the conditions hold from where it stops. -/
theorem Delimits.of_cons {source : Text} {pos : Nat} {span : Found Text} {rest : List (Found Text)}
    (h : Delimits source pos (span :: rest)) : Delimits source span.stop rest where
  first other hother := ((List.pairwise_cons.1 h.ordered).1 other hother).2
  ordered := (List.pairwise_cons.1 h.ordered).2
  text := (List.forall_mem_cons.1 h.text).2
  shape := (List.forall_mem_cons.1 h.shape).2
  gap := (List.forall_mem_cons.1 h.gap).2
  tail := h.tail

/-- Spans that meet the conditions are those of the blocks of the segments. -/
theorem Delimits.segmented {u t : Text} {pos : Nat} {spans : List (Found Text)}
    (h : Delimits (u ++ t) pos spans) (hu : byteLength u = pos) : Segmented pos t spans := by
  induction spans generalizing u t pos with
  | nil =>
    refine .tail fun front inner heq => cut?_eq_none_iff.2 fun body rest hinner => ?_
    subst heq hinner
    refine h.tail (byteLength (u ++ front)) (byteLength (u ++ (front ++ (opening ++ body)))) ?_ ?_ ?_ ?_
    · rw [lastStop, byteLength_append, hu]
      exact Nat.le_add_right _ _
    · rw [← List.append_assoc]
      exact markAt_append
    · simp only [byteLength_append]
      omega
    · rw [show u ++ (front ++ (opening ++ (body ++ (closing ++ rest)))) =
        (u ++ (front ++ (opening ++ body))) ++ (closing ++ rest) by simp only [List.append_assoc]]
      exact markAt_append
  | cons span rest ih =>
    obtain ⟨start, stop, item⟩ := span
    obtain ⟨hitem, hbody⟩ := h.shape _ List.mem_cons_self
    obtain ⟨u', v, hsource, hstart, hstop⟩ := slice?_eq_some_iff.1 (h.text _ List.mem_cons_self)
    have hfirst := h.first _ List.mem_cons_self
    simp only at hitem hbody hstart hstop hfirst
    obtain ⟨gap, rfl, rfl⟩ := append_of_byteLength_le hsource (by omega)
    have hgap : FirstAtEnd opening gap := by
      intro front back heq
      -- an opening marker in the gap is ruled out, so the one found is the block's own
      by_cases hlt : byteLength front < byteLength gap
      · refine absurd ?_ (h.gap (pos, start) List.mem_cons_self (byteLength (u ++ front)) ?_ ?_)
        · rw [hitem, List.append_assoc opening, ← List.append_assoc gap, heq,
            show u ++ (front ++ (opening ++ back) ++ (body item ++ closing ++ v)) =
              (u ++ front) ++ (opening ++ (back ++ (body item ++ closing ++ v))) by
              simp only [List.append_assoc]]
          exact markAt_append
        · rw [byteLength_append, hu]
          exact Nat.le_add_right _ _
        · rw [← hstart, byteLength_append, byteLength_append]
          simp only
          omega
      · have hlen := congrArg byteLength heq
        simp only [byteLength_append] at hlen
        exact eq_nil_of_byteLength (by omega)
    have hstart' : start = pos + byteLength gap := by
      rw [← hstart, byteLength_append, hu]
    have hnext : Segmented stop v rest := by
      refine ih (u := u ++ gap ++ item) ?_ ?_
      · rw [List.append_assoc, List.append_assoc]
        exact h.of_cons
      · rw [byteLength_append, hstart]
        exact hstop
    have hofBody : ofBody (body item) = item := hitem.symm
    have hblock : Segmented stop v rest → Segmented pos (gap ++ (item ++ v)) (⟨start, stop, item⟩ :: rest) := by
      rw [← hofBody, ← hstop, hstart', ← hofBody, body_ofBody]
      exact Segmented.block hgap hbody
    exact hblock hnext

theorem Segmented.interleaved? {pos : Nat} {t : Text} {spans : List (Found Text)}
    (h : Segmented pos t spans) {u : Text} (hu : byteLength u = pos) :
    interleaved? (u ++ t) pos spans = some t := by
  induction h generalizing u with
  | tail ht =>
    rw [Comment.interleaved?, slice?_eq_some_iff]
    exact ⟨u, [], by simp, hu, by rw [byteLength_append, hu]⟩
  | @block pos gap body rest spans hgap hbody _ ih =>
    have hlen : byteLength (u ++ (gap ++ ofBody body)) =
        pos + byteLength gap + byteLength (ofBody body) := by
      rw [byteLength_append, byteLength_append, hu, Nat.add_assoc]
    have hrest := ih hlen
    rw [show u ++ (gap ++ ofBody body) ++ rest = u ++ (gap ++ (ofBody body ++ rest)) by
      simp only [List.append_assoc]] at hrest
    have hgap : slice? pos (pos + byteLength gap) (u ++ (gap ++ (ofBody body ++ rest))) = some gap :=
      slice?_eq_some_iff.2 ⟨u, ofBody body ++ rest, rfl, hu, rfl⟩
    simp only [Comment.interleaved?, hgap, hrest]
    rfl

/-! ## The blocks of a source -/

theorem classify_span (table : LineTable) (seen : Seen) (found : List (Found Text)) :
    (classify table seen found).map Block.span = found := by
  induction found generalizing seen with
  | nil => rfl
  | cons f rest ih =>
    rw [classify, List.map_cons, ih]
    rfl

theorem extract_span (source : Text) : (extract source).map Block.span = scan readBlock source :=
  classify_span _ _ _

theorem span_mem {source : Text} {b : Block} (h : b ∈ extract source) : b.span ∈ scan readBlock source := by
  rw [← extract_span]
  exact List.mem_map_of_mem h

theorem line_of_mem_classify {table : LineTable} {seen : Seen} {found : List (Found Text)} {b : Block}
    (h : b ∈ classify table seen found) : b.line = table.lineAt b.start := by
  induction found generalizing seen with
  | nil => cases h
  | cons f rest ih =>
    rcases List.mem_cons.1 h with rfl | hrest
    · rfl
    · exact ih hrest

theorem segmented_extract (source : Text) : Segmented 0 source ((extract source).map Block.span) := by
  obtain ⟨spans, hspans⟩ := exists_segmented 0 source
  rw [extract_span, scan, hspans.scanFrom_eq none]
  exact hspans

/-- The blocks of a source are listed in the order in which they stand there. -/
theorem pairwise_extract (source : Text) :
    (extract source).Pairwise fun a b => a.start < b.start ∧ a.stop ≤ b.start := by
  have hordered := ((segmented_extract source).delimits (u := []) rfl).ordered
  rwa [List.pairwise_map] at hordered

theorem line_of_mem {source : Text} {b : Block} (h : b ∈ extract source) :
    b.line = (LineTable.ofText source).lineAt b.start :=
  line_of_mem_classify h

/-- In that order the lines of blocks do not go down. -/
theorem pairwise_line (source : Text) :
    (extract source).Pairwise fun a b => a.start < b.start ∧ a.line ≤ b.line := by
  refine (pairwise_extract source).imp_of_mem fun ha hb horder => ⟨horder.1, ?_⟩
  rw [line_of_mem ha, line_of_mem hb]
  exact lineAt_mono source (Nat.le_of_lt horder.1)

/-- A block stands in the source between its markers. -/
theorem exists_ofBody_of_mem {source : Text} {b : Block} (h : b ∈ extract source) :
    ∃ u inner v, source = u ++ (ofBody inner ++ v) ∧ b.start = byteLength u ∧
      b.stop = byteLength (u ++ ofBody inner) := by
  have hdelimits := (segmented_extract source).delimits (u := []) rfl
  have hspan : b.span ∈ (extract source).map Block.span := List.mem_map_of_mem h
  obtain ⟨u, v, hsource, hstart, hstop⟩ := slice?_eq_some_iff.1 (hdelimits.text _ hspan)
  rw [(hdelimits.shape _ hspan).1] at hsource hstop
  rw [← hstart, ← byteLength_append] at hstop
  exact ⟨u, _, v, hsource, hstart.symm, hstop.symm⟩

/-- The blocks of a source are where the conditions on its markers say and nowhere else, and with the
gaps between them they make up the source. -/
theorem blocks_delimit (source : Text) :
    Delimits source 0 ((extract source).map Block.span) ∧
      (∀ spans, Delimits source 0 spans → spans = (extract source).map Block.span) ∧
      interleaved? source 0 ((extract source).map Block.span) = some source := by
  have hsegments := segmented_extract source
  refine ⟨hsegments.delimits (u := []) rfl, fun spans hspans => ?_, hsegments.interleaved? (u := []) rfl⟩
  have hother : Segmented 0 source spans := hspans.segmented (u := []) rfl
  rw [← hother.scanFrom_eq none, extract_span]
  rfl

end LuaReference.Comment
