import LuaReference.Entry.Reader
import LuaReference.Proofs.Text.Ends

/-!
# Sections one after the other

* `merge a b` : what two entries say together, the later one first where both have a text;
* `merge_close` : closing a section adds to the later entry only;
* `Reader.feed_extend`, `Reader.foldl_feed_extend` : what was read before a section opened stays as it
  is, whatever lines follow;
* `Reader.feed_section`, `Reader.feed_plain`, `Reader.feed_cases` : a keyword opens its section, any other
  line belongs to the one that is open;
* `Reader.feed_keyword` : a keyword closes all that is open;
* `ofLines_append` : the entry of lines that a keyword parts in two is that of both parts.
-/

namespace LuaReference.Entry

open Text

/-! ## What two entries say together -/

/-- The later text, or the earlier one where the later is empty. -/
def later (old new : Text) : Text := if new.isEmpty then old else new

/-- What two entries say together. -/
def merge (a b : Entry) : Entry where
  purpose := later a.purpose b.purpose
  whenCalled := later a.whenCalled b.whenCalled
  whenUsed := later a.whenUsed b.whenUsed
  parameters := a.parameters ++ b.parameters
  returns := later a.returns b.returns
  realm := later a.realm b.realm
  explanation := later a.explanation b.explanation
  examples := a.examples ++ b.examples

theorem merge_empty (a : Entry) : merge a {} = a := by
  simp [merge, later]

theorem merge_setText (a b : Entry) (field : TextField) {value : Text} (hne : value ≠ []) :
    merge a (b.setText field value) = (merge a b).setText field value := by
  cases field <;> simp [merge, later, setText, hne]

/-- A section that closes goes into the later entry. -/
theorem merge_close (a b : Entry) (current : Open) :
    merge a (b.close current) = (merge a b).close current := by
  cases current with
  | nothing => rfl
  | text field lines =>
    unfold close
    by_cases hvalue : trim (join "\n" lines.reverse) = []
    · simp only [hvalue, List.isEmpty_nil, if_true]
    · have hfull : (trim (join "\n" lines.reverse)).isEmpty = false := by simpa using hvalue
      simp only [hfull, Bool.false_eq_true, if_false]
      exact merge_setText a b field hvalue
  | parameters pending =>
    rcases pending with _ | ⟨name, type⟩
    · rfl
    · simp [close, merge]
  | examples current =>
    cases current with
    | none => rfl
    | some ex => simp [close, merge]

namespace Reader

/-! ## What was read before -/

/-- A reader with an entry that was read before. -/
def extend (a : Entry) (r : Reader) : Reader := ⟨merge a r.entry, r.current⟩

theorem finish_extend (a : Entry) (r : Reader) : (r.extend a).finish = merge a r.finish :=
  (merge_close a r.entry r.current).symm

theorem parameterLine_extend (a e : Entry) (pending : Option (Text × Text)) (raw line : Text) :
    parameterLine (merge a e) pending raw line = (parameterLine e pending raw line).extend a := by
  unfold parameterLine
  split
  · rfl
  · cases Parameter.pending? raw with
    | some next => simp only [extend, merge_close]
    | none => cases pending <;> simp [extend, merge]

theorem exampleLine_extend (a e : Entry) (current : Option OpenExample) (raw line : Text) :
    exampleLine (merge a e) current raw line = (exampleLine e current raw line).extend a := by
  unfold exampleLine
  split
  · cases current <;> rfl
  · split
    · cases Example.level? line <;> rfl
    · cases Example.label? line with
      | some label => simp only [extend, merge_close]
      | none => rfl

theorem blankLine_extend (a : Entry) (r : Reader) : (r.extend a).blankLine = r.blankLine.extend a := by
  unfold blankLine extend
  simp only
  split <;> rfl

theorem openSection_extend (a : Entry) (r : Reader) (sect : Section) (inline : Text) :
    (r.extend a).openSection sect inline = (r.openSection sect inline).extend a := by
  have hclose : (r.extend a).entry.close (r.extend a).current = merge a r.finish := finish_extend a r
  unfold openSection
  rw [hclose]
  cases sect with
  | text field => rfl
  | parameters =>
    cases inline.isEmpty with
    | true => rfl
    | false => exact parameterLine_extend a r.finish none inline inline
  | examples => rfl

theorem plainLine_extend (a : Entry) (r : Reader) (raw line : Text) :
    (r.extend a).plainLine raw line = (r.plainLine raw line).extend a := by
  unfold plainLine
  obtain ⟨e, current⟩ := r
  cases current with
  | nothing => rfl
  | text field lines => rfl
  | parameters pending => exact parameterLine_extend a e pending raw line
  | examples current => exact exampleLine_extend a e current raw line

/-- A line adds to what was read before, and leaves it as it is. -/
theorem feed_extend (a : Entry) (r : Reader) (raw : Text) : (r.extend a).feed raw = (r.feed raw).extend a := by
  unfold feed
  simp only
  split
  · exact blankLine_extend a r
  · split
    · rfl
    · cases keyword? (trim raw) with
      | some found => exact openSection_extend a r found.1 found.2
      | none => exact plainLine_extend a r raw (trim raw)

theorem foldl_feed_extend (a : Entry) (r : Reader) (raws : List Text) :
    raws.foldl feed (r.extend a) = (raws.foldl feed r).extend a := by
  induction raws generalizing r with
  | nil => rfl
  | cons raw raws ih => rw [List.foldl_cons, List.foldl_cons, feed_extend, ih]

/-! ## Keywords -/

/-- A line is no marker of the comment when it begins with none of the characters of the markers. -/
theorem isDelimiter_cons {c : Char} (hdash : c ≠ '-') (hopen : c ≠ '[') (hclose : c ≠ ']') (t : Text) :
    isDelimiter (c :: t) = false := by
  have h₁ : startsWith Comment.opening (c :: t) = false := startsWith_cons_of_ne (Ne.symm hdash) _ t
  have h₂ : startsWith "--]]" (c :: t) = false := startsWith_cons_of_ne (Ne.symm hdash) _ t
  unfold isDelimiter
  rw [h₁, h₂]
  simp [Comment.closing, hopen, hclose]

end Reader

/-- A line, trimmed, starts with a section keyword. -/
def OpensSection (raw : Text) : Prop := ∃ word ∈ keywords.map Prod.fst, startsWith word (trim raw) = true

instance (raw : Text) : Decidable (OpensSection raw) :=
  inferInstanceAs (Decidable (∃ word ∈ keywords.map Prod.fst, startsWith word (trim raw) = true))

theorem keyword?_isSome (line : Text) :
    (keyword? line).isSome = true ↔ ∃ word ∈ keywords.map Prod.fst, startsWith word line = true := by
  unfold keyword?
  rw [List.isSome_findSome?, List.any_eq_true]
  simp only [Option.isSome_map, after?_isSome, List.mem_map]
  constructor
  · rintro ⟨entry, hentry, hstart⟩
    exact ⟨entry.1, ⟨entry, hentry, rfl⟩, hstart⟩
  · rintro ⟨-, ⟨entry, hentry, rfl⟩, hstart⟩
    exact ⟨entry, hentry, hstart⟩

theorem keyword?_eq_none {raw : Text} (h : ¬ OpensSection raw) : keyword? (trim raw) = none := by
  rw [← Option.not_isSome_iff_eq_none, keyword?_isSome]
  exact h

theorem OpensSection.line {raw : Text} (h : OpensSection raw) :
    ∃ c t, trim raw = c :: t ∧ Reader.isDelimiter (c :: t) = false := by
  obtain ⟨word, hword, hstart⟩ := h
  have hletters : ∀ word ∈ keywords.map Prod.fst,
      word ≠ [] ∧ word.head? ≠ some '-' ∧ word.head? ≠ some '[' ∧ word.head? ≠ some ']' := by
    decide
  obtain ⟨hne, hdash, hopen, hclose⟩ := hletters word hword
  obtain ⟨rest, hrest⟩ := startsWith_iff.1 hstart
  obtain ⟨c, tail, rfl⟩ := List.exists_cons_of_ne_nil hne
  rw [List.head?_cons, Ne, Option.some.injEq] at hdash hopen hclose
  exact ⟨c, tail ++ rest, hrest, Reader.isDelimiter_cons hdash hopen hclose _⟩

namespace Reader

theorem feed_section {raw : Text} {sect : Section} {inline : Text}
    (h : keyword? (trim raw) = some (sect, inline)) (r : Reader) :
    r.feed raw = r.openSection sect inline := by
  have hopens : OpensSection raw := (keyword?_isSome (trim raw)).1 (by rw [h]; rfl)
  obtain ⟨c, t, hline, hplain⟩ := hopens.line
  unfold feed
  simp only [h]
  rw [hline, hplain]
  rfl

theorem feed_plain {raw : Text} (hne : trim raw ≠ []) (hmark : isDelimiter (trim raw) = false)
    (hsect : keyword? (trim raw) = none) (r : Reader) : r.feed raw = r.plainLine raw (trim raw) := by
  have hline : (trim raw).isEmpty = false := by simpa using hne
  unfold feed
  simp only [hline, hmark, hsect]
  rfl

/-- A line that opens no section is blank, a marker of the comment, or a line of the open section. -/
theorem feed_cases {raw : Text} (h : ¬ OpensSection raw) (r : Reader) :
    (trim raw = [] ∧ r.feed raw = r.blankLine) ∨
      (trim raw ≠ [] ∧ isDelimiter (trim raw) = true ∧ r.feed raw = r) ∨
      (trim raw ≠ [] ∧ isDelimiter (trim raw) = false ∧ r.feed raw = r.plainLine raw (trim raw)) := by
  by_cases hblank : trim raw = []
  · exact .inl ⟨hblank, by simp [feed, hblank]⟩
  · cases hmark : isDelimiter (trim raw) with
    | true => exact .inr (.inl ⟨hblank, rfl, by simp [feed, hblank, hmark]⟩)
    | false => exact .inr (.inr ⟨hblank, rfl, feed_plain hblank hmark (keyword?_eq_none h) r⟩)

/-- A keyword closes all that is open, and its section starts afresh. -/
theorem feed_keyword {raw : Text} (h : OpensSection raw) (r : Reader) :
    r.feed raw = (feed {} raw).extend r.finish := by
  obtain ⟨⟨sect, inline⟩, hfound⟩ := Option.isSome_iff_exists.1 ((keyword?_isSome (trim raw)).2 h)
  have hfresh : r.openSection sect inline = openSection (extend r.finish {}) sect inline := by
    rw [extend, merge_empty]
    rfl
  rw [feed_section hfound, feed_section hfound, hfresh, openSection_extend]

end Reader

/-- Lines that a keyword parts in two make up what both parts say together. -/
theorem ofLines_append (xs : List Text) {y : Text} (ys : List Text) (hy : OpensSection y) :
    ofLines (xs ++ y :: ys) = merge (ofLines xs) (ofLines (y :: ys)) := by
  unfold ofLines
  rw [List.foldl_append, List.foldl_cons, List.foldl_cons, Reader.feed_keyword hy,
    Reader.foldl_feed_extend, Reader.finish_extend]

/-- A keyword ends an example whose fence is still open. -/
theorem ofLines_append_purpose :
    let front : List Text := ["Parameters:", "- a (number): first", "Example Usage:", "```lua", "x = 1"]
    let back : List Text := ["  what it does", "Parameters:", "- b: second"]
    ofLines (front ++ ("Purpose: says" : Text) :: back) =
      { purpose := "says\nwhat it does",
        parameters := [⟨"a", "number", "first"⟩, ⟨"b", "unknown", "second"⟩],
        examples := [⟨"example", ["x = 1"]⟩] } := by
  intro front back
  rw [ofLines_append front back (by decide)]
  decide

end LuaReference.Entry
