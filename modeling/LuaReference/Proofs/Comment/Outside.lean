import LuaReference.Proofs.Comment.Grammar

/-!
# What stands outside the comments

A source is taken apart at one of its blocks: what comes before it, the block, what comes after it.

* `Balanced t` : every block that a text opens is closed in it;
* `BlockBetween pre body post` : the block with this body is one of those of the whole source, and
  `BlockBetween.balanced` : then nothing before it is left open;
* `covers_front`, `covers_block`, `covers_back` : what lies in a block, part by part;
* `outside read source` : what is read outside the blocks;
* `outside_around` : that is what is read outside the blocks before and after, the latter moved.
-/

namespace LuaReference.Comment

open Text

/-! ## Before a block -/

/-- Every block that a text opens is closed in it. -/
inductive Balanced : Text → Prop
  | gap {t : Text} (h : FirstAtEnd opening t) : Balanced t
  | block {gap body rest : Text} (hgap : FirstAtEnd opening gap) (hbody : FirstAtEnd closing body)
      (hrest : Balanced rest) : Balanced (gap ++ (ofBody body ++ rest))

/-- The block with this body, between these texts, is one of the blocks of the whole. -/
def BlockBetween (pre body post : Text) : Prop :=
  ∃ block ∈ extract (pre ++ (ofBody body ++ post)),
    block.start = byteLength pre ∧ block.stop = byteLength (pre ++ ofBody body)

instance (pre body post : Text) : Decidable (BlockBetween pre body post) :=
  inferInstanceAs (Decidable (∃ block ∈ extract (pre ++ (ofBody body ++ post)),
    block.start = byteLength pre ∧ block.stop = byteLength (pre ++ ofBody body)))

theorem Segmented.balanced {pos : Nat} {t : Text} {spans : List (Found Text)} (h : Segmented pos t spans)
    {pre body post : Text} (ht : t = pre ++ (ofBody body ++ post)) {span : Found Text}
    (hspan : span ∈ spans) (hstart : span.start = pos + byteLength pre)
    (hstop : span.stop = pos + byteLength pre + byteLength (ofBody body)) :
    Balanced pre ∧ FirstAtEnd closing body := by
  induction h generalizing pre with
  | tail _ => simp at hspan
  | @block pos gap inner rest spans hgap hinner hrest ih =>
    rcases List.mem_cons.1 hspan with rfl | hlater
    · simp only at hstart hstop
      obtain ⟨rfl, hback⟩ := append_inj_of_byteLength ht (by omega)
      obtain ⟨hsame, -⟩ := append_inj_of_byteLength hback (by omega)
      have hbody : inner = body := by rw [← body_ofBody inner, hsame, body_ofBody]
      exact ⟨.gap hgap, hbody ▸ hinner⟩
    · -- the block is a later one, so the first one stands before it
      have hbound : pos + byteLength gap + byteLength (ofBody inner) ≤ span.start :=
        (readAt_of_mem readBlock_takes (hrest.scanFrom_eq none ▸ hlater)).bounds.1
      have hlong : byteLength (gap ++ ofBody inner) ≤ byteLength pre := by
        rw [byteLength_append]
        omega
      rw [← List.append_assoc] at ht
      obtain ⟨back, rfl, hback⟩ := append_of_byteLength_le ht hlong
      rw [byteLength_append, byteLength_append] at hstart hstop
      obtain ⟨hbalanced, hbody⟩ := ih hback hlater (by omega) (by omega)
      rw [List.append_assoc]
      exact ⟨.block hgap hinner hbalanced, hbody⟩

theorem BlockBetween.balanced {pre body post : Text} (h : BlockBetween pre body post) :
    Balanced pre ∧ FirstAtEnd closing body := by
  obtain ⟨block, hblock, hstart, hstop⟩ := h
  have hspan := List.mem_map_of_mem (f := Block.span) hblock
  refine (segmented_extract _).balanced rfl hspan ?_ ?_
  · simpa [Block.span] using hstart
  · simpa [Block.span, byteLength_append] using hstop

theorem unclosed_gap {gap : Text} (h : FirstAtEnd opening gap) : Unclosed gap := by
  intro front inner heq
  have hnil := h front (inner ++ opening) (by rw [heq]; simp only [List.append_assoc])
  exact absurd (List.append_eq_nil_iff.1 hnil).2 (by decide)

/-- The blocks of a source are those before a block, the block and those after it. -/
theorem Balanced.scanFrom_eq {pre : Text} (h : Balanced pre) {body : Text} (hbody : FirstAtEnd closing body)
    (before : Option Char) (pos : Nat) (post : Text) :
    scanFrom readBlock before pos 0 (pre ++ (ofBody body ++ post)) =
      scanFrom readBlock before pos 0 pre ++
        ⟨pos + byteLength pre, pos + byteLength pre + byteLength (ofBody body), ofBody body⟩ ::
          scanFrom readBlock none (pos + byteLength pre + byteLength (ofBody body)) 0 post := by
  induction h generalizing before pos with
  | gap hgap => rw [scanFrom_block hgap hbody, scanFrom_unclosed (unclosed_gap hgap), List.nil_append]
  | @block gap inner rest hgap hinner _ ih =>
    have hlen : pos + byteLength gap + byteLength (ofBody inner) + byteLength rest =
        pos + byteLength (gap ++ (ofBody inner ++ rest)) := by
      rw [byteLength_append, byteLength_append]
      omega
    rw [List.append_assoc, List.append_assoc, scanFrom_block hgap hinner, scanFrom_block hgap hinner, ih,
      hlen, List.cons_append]

theorem scan_around {pre body : Text} (hpre : Balanced pre) (hbody : FirstAtEnd closing body)
    (post : Text) :
    scan readBlock (pre ++ (ofBody body ++ post)) =
      scan readBlock pre ++
        ⟨byteLength pre, byteLength (pre ++ ofBody body), ofBody body⟩ ::
          (scan readBlock post).map (Found.shift (byteLength (pre ++ ofBody body))) := by
  have hlen : 0 + byteLength pre + byteLength (ofBody body) = byteLength (pre ++ ofBody body) := by
    rw [byteLength_append, Nat.zero_add]
  have hback : scanFrom readBlock none (byteLength (pre ++ ofBody body)) 0 post =
      (scan readBlock post).map (Found.shift (byteLength (pre ++ ofBody body))) :=
    scanFrom_eq_scan (fun _ => rfl) _ _
  rw [scan, hpre.scanFrom_eq hbody, hlen, hback, Nat.zero_add]
  rfl

/-! ## Inside and outside -/

theorem covers_iff {source : Text} {p : Nat} :
    covers (extract source) p = true ↔
      ∃ span ∈ scan readBlock source, span.start ≤ p ∧ p < span.stop := by
  rw [← extract_span, covers, List.any_eq_true]
  simp only [Block.covers, Bool.and_eq_true, decide_eq_true_eq]
  constructor
  · rintro ⟨block, hblock, hp⟩
    exact ⟨block.span, List.mem_map_of_mem hblock, hp⟩
  · rintro ⟨span, hspan, hp⟩
    obtain ⟨block, hblock, rfl⟩ := List.mem_map.1 hspan
    exact ⟨block, hblock, hp⟩

variable {pre body : Text}

theorem covers_around (hpre : Balanced pre) (hbody : FirstAtEnd closing body) (post : Text) (p : Nat) :
    covers (extract (pre ++ (ofBody body ++ post))) p = true ↔
      covers (extract pre) p = true ∨
        (byteLength pre ≤ p ∧ p < byteLength (pre ++ ofBody body)) ∨
        ∃ span ∈ scan readBlock post, span.start + byteLength (pre ++ ofBody body) ≤ p ∧
          p < span.stop + byteLength (pre ++ ofBody body) := by
  rw [covers_iff, covers_iff, scan_around hpre hbody]
  constructor
  · rintro ⟨span, hspan, hp⟩
    rcases List.mem_append.1 hspan with hfront | hspan
    · exact .inl ⟨span, hfront, hp⟩
    rcases List.mem_cons.1 hspan with rfl | hback
    · exact .inr (.inl hp)
    · obtain ⟨inner, hinner, rfl⟩ := List.mem_map.1 hback
      exact .inr (.inr ⟨inner, hinner, hp⟩)
  · rintro (⟨span, hfront, hp⟩ | hp | ⟨span, hback, hp⟩)
    · exact ⟨span, List.mem_append_left _ hfront, hp⟩
    · exact ⟨_, List.mem_append_right _ List.mem_cons_self, hp⟩
    · exact ⟨_, List.mem_append_right _ (List.mem_cons_of_mem _ (List.mem_map_of_mem hback)), hp⟩

theorem lt_of_covers {p : Nat} (h : covers (extract pre) p = true) : p < byteLength pre := by
  obtain ⟨span, hspan, hp⟩ := covers_iff.1 h
  have hbounds := (readAt_of_mem readBlock_takes hspan).bounds
  omega

theorem covers_front (hpre : Balanced pre) (hbody : FirstAtEnd closing body) (post : Text) {p : Nat}
    (h : p < byteLength pre) :
    covers (extract (pre ++ (ofBody body ++ post))) p = covers (extract pre) p := by
  rw [Bool.eq_iff_iff, covers_around hpre hbody, byteLength_append]
  constructor
  · rintro (hfront | hblock | ⟨span, -, hback⟩)
    · exact hfront
    · omega
    · omega
  · exact .inl

theorem covers_block (hpre : Balanced pre) (hbody : FirstAtEnd closing body) (post : Text) {p : Nat}
    (hle : byteLength pre ≤ p) (hlt : p < byteLength (pre ++ ofBody body)) :
    covers (extract (pre ++ (ofBody body ++ post))) p = true :=
  (covers_around hpre hbody post p).2 (.inr (.inl ⟨hle, hlt⟩))

theorem covers_back (hpre : Balanced pre) (hbody : FirstAtEnd closing body) (post : Text) (p : Nat) :
    covers (extract (pre ++ (ofBody body ++ post))) (p + byteLength (pre ++ ofBody body)) =
      covers (extract post) p := by
  rw [Bool.eq_iff_iff, covers_around hpre hbody, byteLength_append, @covers_iff post]
  constructor
  · rintro (hfront | hblock | ⟨span, hspan, hback⟩)
    · have := lt_of_covers hfront
      omega
    · omega
    · exact ⟨span, hspan, by omega⟩
  · rintro ⟨span, hspan, hp⟩
    exact .inr (.inr ⟨span, hspan, by omega⟩)

/-- The items that are read outside the blocks of a source. -/
def outside {α : Type} (read : Recognizer α) (source : Text) : List (Found α) :=
  (scan read source).filter fun found => !covers (extract source) found.start

/-- What is read outside the blocks of a source is what is read outside those before a block, and
outside those after it, where `inner` is what starts in the block. -/
theorem outside_around {α : Type} {read : Recognizer α} (htakes : read.Takes) (hpre : Balanced pre)
    (hbody : FirstAtEnd closing body) {post : Text} {inner : List (Found α)}
    (hscan : scan read (pre ++ (ofBody body ++ post)) = scan read pre ++
      (inner ++ (scan read post).map (Found.shift (byteLength (pre ++ ofBody body)))))
    (hinner : ∀ found ∈ inner, byteLength pre ≤ found.start ∧
      found.start < byteLength (pre ++ ofBody body)) :
    outside read (pre ++ (ofBody body ++ post)) =
      outside read pre ++ (outside read post).map (Found.shift (byteLength (pre ++ ofBody body))) := by
  have hfront : ∀ found ∈ scan read pre,
      (!covers (extract (pre ++ (ofBody body ++ post))) found.start) =
        !covers (extract pre) found.start := by
    intro found hfound
    have hbounds := (readAt_of_mem htakes hfound).bounds
    rw [covers_front hpre hbody post (by omega)]
  have hgone : inner.filter (fun found =>
      !covers (extract (pre ++ (ofBody body ++ post))) found.start) = [] := by
    rw [List.filter_eq_nil_iff]
    intro found hfound
    rw [covers_block hpre hbody post (hinner found hfound).1 (hinner found hfound).2]
    simp
  unfold outside
  rw [hscan, List.filter_append, List.filter_append, hgone, List.nil_append, List.filter_congr hfront,
    List.filter_map]
  congr 2
  refine List.filter_congr fun found _ => ?_
  simp only [Function.comp, Found.shift, covers_back hpre hbody]

end LuaReference.Comment
