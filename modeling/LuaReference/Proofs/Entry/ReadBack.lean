import LuaReference.Proofs.Entry.ParameterShape

/-!
# Printed entries are read back

* `Parameter.parseLine?_written` : a printed parameter is read back from its line;
* `Example.label?_line` : so is the label of an example;
* `finish_textLines`, `foldl_parameters`, `foldl_examples` : the sections of a printed entry, from
  whatever was read before them;
* `parse_print` : an entry that a block can hold is read back from its block.
-/

namespace LuaReference

open Text

/-! ## Parameters -/

namespace Parameter

/-- A printed parameter is read back. -/
theorem parseLine?_written {p : Parameter} (h : p.Canonical) : parseLine? p.written = some p := by
  have hread := parseLine?_bulletTyped h.name h.type h.description .space .space .nil .space h.type_closed
  simpa [written] using hread

theorem trimStart_line (p : Parameter) : trimStart p.line = p.written := rfl

theorem trim_line {p : Parameter} (h : p.Canonical) : trim p.line = p.written := by
  rw [trim, trimStart_line]
  exact trimEnd_append h.description.ne_nil (trim_eq_self_iff.1 h.description.trimmed).2

/-- A printed parameter does not wait for its description. -/
theorem pending?_line {p : Parameter} (h : p.Canonical) : pending? p.line = none := by
  have hname : name? p.written = none := rfl
  unfold pending?
  simp only [h.intact.2, trimStart_line, hname]
  rfl

end Parameter

/-! ## Labels -/

namespace Example

/-- What follows the label on its line. -/
def labelEnd : Text := " Complexity:"

section Label
variable {ex : Example}

theorem takeWhile_label (h : ex.Canonical) : (ex.label ++ labelEnd).takeWhile isWord = ex.label := by
  have hnone : labelEnd.takeWhile isWord = [] := by decide
  rw [List.takeWhile_append_of_pos (List.all_eq_true.1 h.label_word), hnone, List.append_nil]

theorem dropWhile_label (h : ex.Canonical) : (ex.label ++ labelEnd).dropWhile isWord = labelEnd := by
  rw [List.dropWhile_append_of_pos (List.all_eq_true.1 h.label_word)]
  decide

theorem label?_line (h : ex.Canonical) : label? (ex.label ++ labelEnd) = some ex.label := by
  have hgap : gap? labelEnd = some "Complexity:" := by decide
  have hlabel : ex.label.isEmpty = false := by simpa using h.label_ne
  have hword : complexity? (ex.label ++ labelEnd) = some ex.label := by
    unfold complexity?
    simp only [takeWhile_label h, dropWhile_label h, hgap, hlabel, Option.bind_eq_bind,
      Option.bind_some]
    rfl
  unfold label?
  rw [hword]
  simp [trim_of_solid h.label_solid, h.label_lower]

theorem trim_label (h : ex.Canonical) : trim (ex.label ++ labelEnd) = ex.label ++ labelEnd := by
  have hstart := (trim_eq_self_iff.1 (trim_of_solid h.label_solid)).1
  exact trim_eq_self_iff.2
    ⟨trimStart_append h.label_ne hstart, trimEnd_append (by decide) (by decide)⟩

/-- No keyword is a word with what follows a label. -/
theorem not_opensSection_label (h : ex.Canonical) : ¬ Entry.OpensSection (ex.label ++ labelEnd) := by
  have hwords : ∀ word ∈ Entry.keywords.map Prod.fst, word.dropWhile isWord ≠ [] ∧
      startsWith (word.dropWhile isWord) labelEnd = false := by
    decide +kernel
  rintro ⟨word, hword, hstart⟩
  obtain ⟨rest, hrest⟩ := startsWith_iff.1 hstart
  obtain ⟨hne, hnot⟩ := hwords word hword
  have hdrop := dropWhile_label h
  rw [← trim_label h, hrest, List.dropWhile_append, if_neg (by simpa using hne)] at hdrop
  have hyes : startsWith (word.dropWhile isWord) labelEnd = true := startsWith_iff.2 ⟨rest, hdrop.symm⟩
  rw [hnot] at hyes
  cases hyes

/-- A label begins with none of the characters that have a meaning of their own. -/
theorem label_cons (h : ex.Canonical) :
    ∃ c t, ex.label ++ labelEnd = c :: t ∧ c ≠ '-' ∧ c ≠ '[' ∧ c ≠ ']' ∧ c ≠ '`' := by
  obtain ⟨c, t, hlabel⟩ := List.exists_cons_of_ne_nil h.label_ne
  have hc : isWord c = true := List.all_eq_true.1 h.label_word c (by simp [hlabel])
  refine ⟨c, t ++ labelEnd, by rw [hlabel]; rfl, ?_, ?_, ?_, ?_⟩ <;>
  · rintro rfl
    revert hc
    decide

end Label

end Example

namespace Entry

namespace Reader

/-! ## Free text -/

/-- Lines of text pile up. -/
theorem foldl_text {field : TextField} {ls : List Text}
    (h : ∀ line ∈ ls, (line ≠ [] ∧ trim line = line) ∧ ¬ OpensSection line ∧ isDelimiter line = false)
    (e : Entry) (before : List Text) :
    ls.foldl feed ⟨e, .text field before⟩ = ⟨e, .text field (ls.reverse ++ before)⟩ := by
  induction ls generalizing before with
  | nil => rfl
  | cons line ls ih =>
    rw [List.forall_mem_cons] at h
    obtain ⟨⟨⟨hne, htrim⟩, hsect, hmark⟩, hrest⟩ := h
    have hstep : feed ⟨e, .text field before⟩ line = ⟨e, .text field (line :: before)⟩ := by
      rw [feed_plain (by rwa [htrim]) (by rwa [htrim]) (keyword?_eq_none hsect), htrim]
      rfl
    rw [List.foldl_cons, hstep, ih hrest, List.reverse_cons, List.append_assoc]
    rfl

theorem keyword?_word (field : TextField) (rest : Text) :
    keyword? (field.word ++ rest) = some (.text field, trim rest) := by
  cases field <;> rfl

end Reader

/-- Puts a text that is not empty. -/
def putText (e : Entry) (field : TextField) (value : Text) : Entry :=
  if value.isEmpty then e else e.setText field value

theorem feed_word {first : Text} (hne : first ≠ []) (htrim : trim first = first) (field : TextField)
    (r : Reader) : r.feed (field.word ++ " " ++ first) = ⟨r.finish, .text field [first]⟩ := by
  have hfull : trim (field.word ++ " " ++ first) = field.word ++ " " ++ first := by
    refine trim_eq_self_iff.2 ⟨?_, trimEnd_append hne (trim_eq_self_iff.1 htrim).2⟩
    cases field <;> rfl
  have hinline : trim (" " ++ first) = first := (trim_blank (by decide) first).trans htrim
  have hfound : keyword? (trim (field.word ++ " " ++ first)) = some (.text field, first) := by
    rw [hfull, List.append_assoc, Reader.keyword?_word, hinline]
  have hfirst : first.isEmpty = false := by simpa using hne
  rw [Reader.feed_section hfound, Reader.openSection, hfirst]
  rfl

/-- A printed field is read back, whatever is open before it. -/
theorem finish_textLines {value : Text} (h : CanonicalText value) (field : TextField) (r : Reader) :
    ((textLines field value).foldl Reader.feed r).finish = r.finish.putText field value := by
  unfold textLines putText
  cases hvalue : value.isEmpty with
  | true => rfl
  | false =>
    obtain ⟨hlines, htail⟩ := h.resolve_left (by simpa using hvalue)
    have htrim := trim_join "\n" hlines (splitOn_ne_nil _ _)
    rw [show ("\n" : Text) = ['\n'] from rfl, join_splitOn] at htrim
    obtain ⟨first, rest, hsplit⟩ := List.exists_cons_of_ne_nil (splitOn_ne_nil '\n' value)
    have hjoin : join "\n" (first :: rest) = value := hsplit ▸ join_splitOn '\n' value
    rw [hsplit, List.forall_mem_cons] at hlines
    rw [hsplit, List.tail_cons] at htail
    have hrest : ∀ line ∈ rest, (line ≠ [] ∧ trim line = line) ∧ ¬ OpensSection line ∧
        Reader.isDelimiter line = false := fun line hmem => ⟨hlines.2 line hmem, htail line hmem⟩
    simp only [hsplit, Bool.false_eq_true, if_false]
    rw [List.foldl_cons, feed_word hlines.1.1 hlines.1.2, Reader.foldl_text hrest]
    simp only [Reader.finish, close, List.reverse_append, List.reverse_reverse, List.reverse_singleton,
      List.singleton_append, hjoin, htrim.2, hvalue, Bool.false_eq_true, if_false]

theorem finish_texts {e : Entry} (h : ∀ field, CanonicalText (e.text field)) (fields : List TextField)
    (r : Reader) :
    ((fields.flatMap fun field => textLines field (e.text field)).foldl Reader.feed r).finish =
      fields.foldl (fun read field => read.putText field (e.text field)) r.finish := by
  induction fields generalizing r with
  | nil => rfl
  | cons field fields ih =>
    rw [List.flatMap_cons, List.foldl_append, ih, finish_textLines (h field), List.foldl_cons]

theorem setText_text (e : Entry) (field : TextField) : e.setText field (e.text field) = e := by
  cases field <;> rfl

/-- A text can be put where none is, also an empty one. -/
theorem putText_of_empty {e : Entry} {field : TextField} (h : e.text field = []) (value : Text) :
    e.putText field value = e.setText field value := by
  unfold putText
  cases value with
  | nil => rw [← h, setText_text, h]; rfl
  | cons c value => rfl

theorem text_setText_of_ne {field other : TextField} (h : other ≠ field) (e : Entry) (value : Text) :
    (e.setText field value).text other = e.text other := by
  cases field <;> cases other <;> first | rfl | exact absurd rfl h

theorem foldl_putText {fields : List TextField} (hnodup : fields.Nodup) {read : Entry}
    (hread : ∀ field ∈ fields, read.text field = []) (e : Entry) :
    fields.foldl (fun read field => read.putText field (e.text field)) read =
      fields.foldl (fun read field => read.setText field (e.text field)) read := by
  induction fields generalizing read with
  | nil => rfl
  | cons field fields ih =>
    rw [List.nodup_cons] at hnodup
    rw [List.forall_mem_cons] at hread
    rw [List.foldl_cons, List.foldl_cons, putText_of_empty hread.1]
    refine ih hnodup.2 fun other hother => ?_
    have hne : other ≠ field := by
      rintro rfl
      exact hnodup.1 hother
    rw [text_setText_of_ne hne, hread.2 other hother]

/-! ## Parameters -/

namespace Reader

theorem feed_parameter {p : Parameter} (h : p.Canonical) (e : Entry) :
    feed ⟨e, .parameters none⟩ p.line =
      ⟨{ e with parameters := e.parameters ++ [p] }, .parameters none⟩ := by
  have htrim := Parameter.trim_line h
  have hstep : feed ⟨e, .parameters none⟩ p.line = parameterLine e none p.line p.written := by
    rw [feed_plain (by rw [htrim]; exact List.cons_ne_nil _ _) (by rw [htrim]; rfl)
      (by rw [htrim]; rfl), htrim]
    rfl
  have hcomment : startsWith "--" p.written = false := rfl
  rw [hstep, parameterLine, hcomment, Parameter.pending?_line h, Parameter.parseLine?_written h]
  rfl

theorem foldl_parameters {ps : List Parameter} (h : ∀ p ∈ ps, p.Canonical) (e : Entry) :
    (ps.map Parameter.line).foldl feed ⟨e, .parameters none⟩ =
      ⟨{ e with parameters := e.parameters ++ ps }, .parameters none⟩ := by
  induction ps generalizing e with
  | nil => simp
  | cons p ps ih =>
    rw [List.forall_mem_cons] at h
    rw [List.map_cons, List.foldl_cons, feed_parameter h.1, ih h.2]
    simp

/-! ## Examples -/

theorem feed_code {line : Text} (h : Example.CodeLine line) (e : Entry) (label : Text) (code : List Text) :
    feed ⟨e, .examples (some ⟨label, code, true⟩)⟩ line =
      ⟨e, .examples (some ⟨label, line :: code, true⟩)⟩ := by
  by_cases hblank : trim line = []
  · obtain rfl := eq_nil_of_trim h.trimmed hblank
    rfl
  · rw [feed_plain hblank h.not_delimiter (keyword?_eq_none h.not_section)]
    simp only [plainLine, exampleLine, h.not_fence, h.not_level, h.trimmed]
    rfl

theorem foldl_code {ls : List Text} (h : ∀ line ∈ ls, Example.CodeLine line) (e : Entry) (label : Text)
    (code : List Text) :
    ls.foldl feed ⟨e, .examples (some ⟨label, code, true⟩)⟩ =
      ⟨e, .examples (some ⟨label, ls.reverse ++ code, true⟩)⟩ := by
  induction ls generalizing code with
  | nil => rfl
  | cons line ls ih =>
    rw [List.forall_mem_cons] at h
    rw [List.foldl_cons, feed_code h.1, ih h.2, List.reverse_cons, List.append_assoc]
    rfl

/-- No example is open, or the one that is has closed its fence. -/
def Outside (current : Option OpenExample) : Prop := ∀ ex ∈ current, ex.inCode = false

theorem feed_label {ex : Example} (h : ex.Canonical) {current : Option OpenExample}
    (hout : Outside current) (e : Entry) :
    feed ⟨e, .examples current⟩ (ex.label ++ Example.labelEnd) =
      ⟨e.close (.examples current), .examples (some ⟨ex.label, [], false⟩)⟩ := by
  have htrim := Example.trim_label h
  obtain ⟨c, t, hline, hdash, hopen, hclose, hquote⟩ := Example.label_cons h
  have hmark : isDelimiter (ex.label ++ Example.labelEnd) = false := by
    rw [hline]
    exact isDelimiter_cons hdash hopen hclose t
  have hfence : isFence (ex.label ++ Example.labelEnd) = false := by
    rw [hline]
    exact startsWith_cons_of_ne (Ne.symm hquote) _ t
  rw [feed_plain (by rw [htrim, hline]; exact List.cons_ne_nil c t) (by rwa [htrim])
    (keyword?_eq_none (Example.not_opensSection_label h)), htrim, plainLine]
  simp only [exampleLine, hfence, Example.label?_line h]
  cases current with
  | none => rfl
  | some ex =>
    obtain ⟨label, code, inCode⟩ := ex
    obtain rfl : inCode = false := hout _ rfl
    rfl

/-- A printed example is read to its end, and the one before it is closed. -/
theorem foldl_example {ex : Example} (h : ex.Canonical) {current : Option OpenExample}
    (hout : Outside current) (e : Entry) :
    ex.lines.foldl feed ⟨e, .examples current⟩ =
      ⟨e.close (.examples current), .examples (some ⟨ex.label, ex.code.reverse, false⟩)⟩ := by
  have hfirst : feed ⟨e.close (.examples current), .examples (some ⟨ex.label, [], false⟩)⟩ "```lua" =
      ⟨e.close (.examples current), .examples (some ⟨ex.label, [], true⟩)⟩ := rfl
  have hlabel := feed_label h hout e
  unfold Example.labelEnd at hlabel
  rw [Example.lines, List.foldl_cons, List.foldl_cons, hlabel, hfirst, List.foldl_append,
    foldl_code h.code, List.append_nil]
  rfl

theorem foldl_examples {exs : List Example} (h : ∀ ex ∈ exs, ex.Canonical)
    {current : Option OpenExample} (hout : Outside current) (e : Entry) :
    ((exs.flatMap Example.lines).foldl feed ⟨e, .examples current⟩).finish =
      { e.close (.examples current) with
        examples := (e.close (.examples current)).examples ++ exs } := by
  induction exs generalizing current e with
  | nil => simp [finish]
  | cons ex exs ih =>
    rw [List.forall_mem_cons] at h
    rw [List.flatMap_cons, List.foldl_append, foldl_example h.1 hout, ih h.2 (by simp [Outside])]
    simp [close, OpenExample.close]

end Reader

/-! ## The whole entry -/

theorem feed_parameters_word (r : Reader) :
    r.feed ("Parameters:" : Text) = ⟨r.finish, .parameters none⟩ :=
  Reader.feed_section (by decide : keyword? (trim "Parameters:") = some (.parameters, [])) r

theorem feed_examples_word (r : Reader) :
    r.feed ("Example Usage:" : Text) = ⟨r.finish, .examples none⟩ :=
  Reader.feed_section (by decide : keyword? (trim "Example Usage:") = some (.examples, [])) r

theorem ofLines_printLines {e : Entry} (h : e.Canonical) : ofLines ([] :: e.printLines) = e := by
  have hblank : Reader.feed {} [] = {} := rfl
  have htexts : ((textFields.flatMap fun field => textLines field (e.text field)).foldl Reader.feed
      {}).finish = { e with parameters := [], examples := [] } := by
    rw [finish_texts h.text, foldl_putText (by decide) (by decide)]
    rfl
  rw [ofLines, printLines, List.foldl_cons, hblank, List.foldl_append, List.foldl_append,
    List.foldl_cons, List.foldl_cons, feed_parameters_word, htexts,
    Reader.foldl_parameters h.parameters, feed_examples_word,
    Reader.foldl_examples h.examples (by simp [Reader.Outside])]
  simp [Reader.finish, close]

/-- An entry that a block can hold is read back from its block. -/
theorem parse_print {e : Entry} (h : e.Canonical) : parse e.print = e := by
  rw [parse, lines_body_print h, ofLines_printLines h]

/-- An entry with a field of two lines, a parameter of each kind and an example with an empty line. -/
theorem parse_print_sample :
    let sample : Entry :=
      { purpose := "Adds\ntwo numbers",
        parameters := [⟨"first", "number", "what to add to"⟩, ⟨"...", "any", "what is added"⟩],
        examples := [⟨"low", ["local x = add(1, 2)", "", "  print(x)"]⟩] }
    let written : List Text :=
      ["Purpose: Adds", "two numbers",
       "Parameters:", "    - first (number): what to add to", "    - ... (any): what is added",
       "Example Usage:", "low Complexity:", "```lua", "local x = add(1, 2)", "", "  print(x)", "```"]
    sample.printLines = written ∧ parse sample.print = sample := by
  intro sample written
  have htext : ∀ field, CanonicalText (sample.text field) := fun field => by cases field <;> decide
  exact ⟨by decide +kernel, parse_print ⟨htext, by decide, by decide⟩⟩

end Entry

end LuaReference
