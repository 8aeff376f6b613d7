import LuaReference.Proofs.Text.Indent
import LuaReference.Proofs.Text.Pieces
import LuaReference.Style.Details
import LuaReference.Style.Markdown

/-!
# The code of examples in both styles

A collapsible entry shows code with entities and four spaces in, Markdown shows it between fences. Who
reads the entities and takes the spaces away has the lines between the fences.

* `Escaped` : a text with no other markup than entities;
* `decode` : reads the entities, and `decode_escape` : it undoes `Details.escape`;
* `outdent?` : takes four spaces from every line that holds something;
* `CodeShown` : the code of an example, as it is shown in both styles;
* `codeShown_of_examples` : every example of an entry shows the same code in both.
-/

namespace LuaReference.Style

open Text LuaReference.Types

/-! ## Entities -/

/-- What is written for a character. -/
def entity (c : Char) : Text :=
  if c = '&' then ['&', 'a', 'm', 'p', ';']
  else if c = '<' then ['&', 'l', 't', ';']
  else if c = '>' then ['&', 'g', 't', ';']
  else [c]

/-- A text with no other markup than entities. -/
structure Escaped (t : Text) : Prop where
  opening : '<' ∉ t
  closing : '>' ∉ t
  ampersand : ∀ front rest, t = front ++ '&' :: rest →
    ∃ c ∈ ['&', '<', '>'], entity c <+: '&' :: rest

/-- Reads the entities of a text. -/
def decode : Text → Text
  | '&' :: 'a' :: 'm' :: 'p' :: ';' :: r => '&' :: decode r
  | '&' :: 'l' :: 't' :: ';' :: r => '<' :: decode r
  | '&' :: 'g' :: 't' :: ';' :: r => '>' :: decode r
  | c :: r => c :: decode r
  | [] => []

/-- The three replacements, one after the other, are one replacement of each character: the ampersands
of entities come after those of the text were replaced. -/
theorem escape_cons (c : Char) (t : Text) :
    Details.escape (c :: t) = entity c ++ Details.escape t := by
  by_cases hamp : c = '&'
  · subst hamp
    rfl
  · by_cases hopen : c = '<'
    · subst hopen
      rfl
    · by_cases hclose : c = '>'
      · subst hclose
        rfl
      · rw [Details.escape, replaceChar_cons_of_ne hamp, replaceChar_cons_of_ne hopen,
          replaceChar_cons_of_ne hclose, entity, if_neg hamp, if_neg hopen, if_neg hclose]
        rfl

theorem Escaped.append {s t : Text} (hs : Escaped s) (ht : Escaped t) : Escaped (s ++ t) where
  opening := by simp [hs.opening, ht.opening]
  closing := by simp [hs.closing, ht.closing]
  ampersand front rest h := by
    rcases List.append_eq_append_iff.1 h with ⟨middle, -, hback⟩ | ⟨middle, hfront, hback⟩
    · exact ht.ampersand middle rest hback
    · cases middle with
      | nil => exact ht.ampersand [] rest hback.symm
      | cons c middle =>
        obtain ⟨rfl, hrest⟩ := List.cons.inj hback
        obtain ⟨d, hd, hprefix⟩ := hs.ampersand front middle hfront
        rw [hrest]
        exact ⟨d, hd, hprefix.trans (List.prefix_append _ t)⟩

theorem entity_of_not_mem {c : Char} (h : c ∉ ['&', '<', '>']) : entity c = [c] := by
  simp only [List.mem_cons, List.not_mem_nil, or_false, not_or] at h
  rw [entity, if_neg h.1, if_neg h.2.1, if_neg h.2.2]

theorem escaped_entity (c : Char) : Escaped (entity c) := by
  by_cases hc : c ∈ ['&', '<', '>']
  · have hentities : ∀ c ∈ ['&', '<', '>'], entity c = '&' :: (entity c).tail ∧
        '&' ∉ (entity c).tail ∧ '<' ∉ entity c ∧ '>' ∉ entity c := by
      intro c hc
      simp only [List.mem_cons, List.not_mem_nil, or_false] at hc
      rcases hc with rfl | rfl | rfl <;> decide
    obtain ⟨hhead, htail, hopen, hclose⟩ := hentities c hc
    refine ⟨hopen, hclose, fun front rest h => ⟨c, hc, ?_⟩⟩
    cases front with
    | nil => exact h ▸ List.prefix_refl _
    | cons d front =>
      -- the ampersand of an entity is its first character
      rw [hhead] at h
      have htext : (entity c).tail = front ++ '&' :: rest := (List.cons.inj h).2
      exact absurd (by simp [htext]) htail
  · rw [entity_of_not_mem hc]
    simp only [List.mem_cons, List.not_mem_nil, or_false, not_or] at hc
    refine ⟨by simpa using Ne.symm hc.2.1, by simpa using Ne.symm hc.2.2, fun front rest h => ?_⟩
    have hmem : '&' ∈ [c] := by simp [h]
    exact absurd (List.mem_singleton.1 hmem).symm hc.1

theorem escaped_escape (t : Text) : Escaped (Details.escape t) := by
  induction t with
  | nil => exact ⟨by decide, by decide, fun front rest h => by simp [Details.escape, replaceChar] at h⟩
  | cons c t ih =>
    rw [escape_cons]
    exact (escaped_entity c).append ih

theorem decode_cons_of_ne {c : Char} (h : c ≠ '&') (t : Text) : decode (c :: t) = c :: decode t := by
  simp [decode, h]

theorem decode_entity (c : Char) (t : Text) : decode (entity c ++ t) = c :: decode t := by
  by_cases hc : c ∈ ['&', '<', '>']
  · simp only [List.mem_cons, List.not_mem_nil, or_false] at hc
    rcases hc with rfl | rfl | rfl <;> rfl
  · rw [entity_of_not_mem hc]
    exact decode_cons_of_ne (fun hamp => hc (by simp [hamp])) t

/-- Reading the entities undoes the escaping. -/
theorem decode_escape (t : Text) : decode (Details.escape t) = t := by
  induction t with
  | nil => rfl
  | cons c t ih => rw [escape_cons, decode_entity, ih]

/-! ## Indentation -/

/-- A line of code without its four spaces; an empty line has none. -/
def outdentLine? (line : Text) : Option Text := if line = [] then some [] else after? "    " line

/-- Takes four spaces from every line that holds something. -/
def outdent? (t : Text) : Option Text := ((splitOn '\n' t).mapM outdentLine?).map (join "\n")

/-- A line of code, four spaces in if it holds something. -/
def indented (line : Text) : Text := if line.isEmpty then line else "    ".toList ++ line

theorem exampleCode_eq (code : List Text) :
    Details.exampleCode code = join "\n" ((unindent code).map indented) := rfl

theorem outdentLine?_indented (line : Text) : outdentLine? (indented line) = some line := by
  cases line with
  | nil => rfl
  | cons c line =>
    have hindented : indented (c :: line) = "    " ++ c :: line := rfl
    rw [hindented, outdentLine?, if_neg (by simp), after?_append]

theorem mapM_outdentLine? (code : List Text) : (code.map indented).mapM outdentLine? = some code := by
  induction code with
  | nil => rfl
  | cons line code ih => simp [outdentLine?_indented, ih]

theorem newline_of_mem_indented {line : Text} (h : '\n' ∈ indented line) : '\n' ∈ line := by
  unfold indented at h
  split at h
  · exact h
  · simpa using h

theorem outdent?_exampleCode {code : List Text} (h : ∀ line ∈ code, '\n' ∉ line) :
    outdent? (Details.exampleCode code) = some (join "\n" (unindent code)) := by
  unfold outdent?
  rw [exampleCode_eq]
  by_cases hnil : (unindent code).map indented = []
  · rw [hnil, List.map_eq_nil_iff.1 hnil]
    rfl
  · have hsingle : ∀ line ∈ (unindent code).map indented, '\n' ∉ line := by
      intro line hline hmem
      obtain ⟨short, hshort, rfl⟩ := List.mem_map.1 hline
      obtain ⟨whole, hwhole, rfl⟩ := List.mem_map.1 hshort
      exact h whole hwhole ((unindentLine_suffix hwhole).subset (newline_of_mem_indented hmem))
    have hlines : splitOn '\n' (join "\n" ((unindent code).map indented)) =
        (unindent code).map indented := splitOn_join hnil hsingle
    rw [hlines, mapM_outdentLine?]
    rfl

/-! ## Examples -/

/-- What stands above the code of an example of a collapsible entry. -/
def labelParagraph (ex : Example) : Text :=
  match exampleLabel? ex.label with
  | some label => List.flatten ["<p><strong>", label, "</strong></p>\n"]
  | none => []

/-- The code of an example in both styles: the text between the tags and the lines between the fences. -/
structure CodeShown (ex : Example) (shown : Text) (code : List Text) : Prop where
  tagged : Details.sample ex =
    labelParagraph ex ++ "<pre><code class=\"language-lua\">" ++ shown ++ "</code></pre>\n"
  fenced : Markdown.sample ex =
    Markdown.sampleLabel ex ++ Markdown.fenceOpen :: code ++ [Markdown.fenceClose ++ "\n"]
  escaped : Escaped shown
  same : outdent? (decode shown) = some (join "\n" code)

theorem sample_tagged (ex : Example) :
    Details.sample ex = labelParagraph ex ++ "<pre><code class=\"language-lua\">" ++
      Details.escape (Details.exampleCode ex.code) ++ "</code></pre>\n" := by
  cases hlabel : exampleLabel? ex.label <;>
    simp only [Details.sample, labelParagraph, hlabel, List.flatten_cons, List.flatten_nil,
      List.append_nil, List.append_assoc]

theorem codeShown {ex : Example} (h : ∀ line ∈ ex.code, '\n' ∉ line) :
    CodeShown ex (Details.escape (Details.exampleCode ex.code)) (unindent ex.code) where
  tagged := sample_tagged ex
  fenced := rfl
  escaped := escaped_escape _
  same := by rw [decode_escape, outdent?_exampleCode h]

/-- An example is written in each style in one way, so there is one text and one list of lines. -/
theorem CodeShown.eq {ex : Example} {shown : Text} {code : List Text} (h : CodeShown ex shown code) :
    shown = Details.escape (Details.exampleCode ex.code) ∧ code = unindent ex.code := by
  constructor
  · have htagged := h.tagged.symm.trans (sample_tagged ex)
    exact List.append_cancel_left (List.append_cancel_right htagged)
  · have hfenced := h.fenced
    rw [Markdown.sample] at hfenced
    exact (List.cons.inj (List.append_cancel_left (List.append_cancel_right hfenced))).2.symm

/-- A collapsible entry ends in its examples. -/
theorem details_samples (links : Links) (name : Text) (e : Entry) :
    ∃ above, Details.details links name e =
      above ++ (e.examples.map Details.sample).flatten ++ "</details>\n\n" := by
  have hdetails : ∃ parts, Details.details links name e =
      List.flatten (parts ++ [Details.samples e.examples, "</details>\n\n"]) :=
    ⟨["<details class=\"realm-", e.realmClass.name, "\">\n", "<summary>", Details.escape name, "(",
      Details.signature e, ")</summary>\n", "<a id=\"", slug name, "\"></a>\n",
      Details.paragraph e.purpose, Details.paragraph (e.when?.getD []),
      Details.parameters links e.parameters, Details.returns links e.returns,
      Details.paragraph e.explanation], rfl⟩
  obtain ⟨parts, hparts⟩ := hdetails
  rw [hparts, List.flatten_append]
  cases hexamples : e.examples with
  | nil =>
    exact ⟨parts.flatten, by simp only [Details.samples, List.isEmpty_nil, if_true, List.flatten_cons,
      List.flatten_nil, List.map_nil, List.append_nil, List.nil_append]⟩
  | cons first rest =>
    refine ⟨parts.flatten ++ "<h3>Example Usage:</h3>\n", ?_⟩
    simp only [Details.samples, List.isEmpty_cons, Bool.false_eq_true, if_false, List.flatten_cons,
      List.flatten_nil, List.append_nil, List.append_assoc]

/-- An entry in Markdown ends in the pieces of its examples. -/
theorem markdown_samples (links : Links) (name : Text) (e : Entry) :
    ∃ above, Markdown.markdown links name e =
      join "\n" (above ++ e.examples.flatMap Markdown.sample) ++ "\n" := by
  have hpieces : ∃ above, Markdown.pieces links name e = above ++ Markdown.samples e.examples :=
    ⟨_, rfl⟩
  obtain ⟨above, habove⟩ := hpieces
  unfold Markdown.markdown
  rw [habove]
  cases hexamples : e.examples with
  | nil => exact ⟨above, rfl⟩
  | cons first rest =>
    refine ⟨above ++ [("**Example Usage**\n" : Text)], ?_⟩
    rw [Markdown.samples, if_neg (by simp), List.append_assoc, List.singleton_append]

/-- Every example of an entry shows the same code in both styles, whatever entities, indentation and
blank lines the code holds. -/
theorem codeShown_of_examples (links : Links) (name : Text) (e : Entry)
    (h : ∀ ex ∈ e.examples, ∀ line ∈ ex.code, '\n' ∉ line) :
    (∃ above, Details.details links name e =
      above ++ (e.examples.map Details.sample).flatten ++ "</details>\n\n") ∧
    (∃ above, Markdown.markdown links name e =
      join "\n" (above ++ e.examples.flatMap Markdown.sample) ++ "\n") ∧
    ∀ ex ∈ e.examples, ∃ shown code, CodeShown ex shown code :=
  ⟨details_samples links name e, markdown_samples links name e,
    fun ex hex => ⟨_, _, codeShown (h ex hex)⟩⟩

/-- An entity in the code is shown as an entity of its own, and a line of blanks as an empty line. -/
theorem codeShown_of_examples_entity :
    let ex : Example := ⟨"low", ["  if a < b then", " \t", "    c(\"&lt;\")"]⟩
    let code : List Text := ["if a < b then", "", "  c(\"&lt;\")"]
    (∀ line ∈ ex.code, '\n' ∉ line) ∧
      CodeShown ex "    if a &lt; b then\n\n      c(\"&amp;lt;\")" code := by
  intro ex code
  have hlines : ∀ line ∈ ex.code, '\n' ∉ line := by decide
  refine ⟨hlines, ?_⟩
  obtain ⟨-, -, hshown⟩ :=
    codeShown_of_examples .standard "x" { examples := [ex] } (by simpa using hlines)
  obtain ⟨shown, found, hex⟩ := hshown ex (List.mem_singleton_self ex)
  have hescape : Details.escape (Details.exampleCode ex.code) =
      "    if a &lt; b then\n\n      c(\"&amp;lt;\")" := by decide
  have hunindent : unindent ex.code = code := by decide
  rw [← hescape, ← hunindent, ← hex.eq.1, ← hex.eq.2]
  exact hex

end LuaReference.Style
