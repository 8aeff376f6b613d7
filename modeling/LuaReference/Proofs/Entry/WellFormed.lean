import LuaReference.Proofs.Entry.ReadBack
import LuaReference.Proofs.Text.Case
import LuaReference.Proofs.Text.Lines

/-!
# What reading an entry leaves

Whatever the lines of a block are, its entry is made of clean parts.

* `Trimmed` : a text on at most one line, without blanks at its ends;
* `Parameter.WellFormed`, `Example.WellFormed`, `Entry.WellFormed` : the parts of an entry;
* `Parameter.parseLine?_wellFormed`, `Parameter.pending?_wellFormed` : what a parameter line gives;
* `Example.label?_clean`, `Example.level?_clean` : what a label line gives;
* `Example.SetsLevel`, `Example.level?_isSome_iff` : the comments that set a level;
* `Entry.Open.WellFormed`, `Entry.Reader.WellFormed` : the same for what is being read;
* `Entry.Reader.feed_wellFormed`, `Entry.parse_wellFormed` : one line keeps it, so every block has it;
* `Entry.parse_parts` : the parts of the entry of a block, one by one.
-/

namespace LuaReference

open Text

/-! ## Trimmed texts -/

/-- A text on one line at most, without blanks at its ends. -/
structure Trimmed (t : Text) : Prop where
  single : '\n' ∉ t
  trimmed : trim t = t

theorem Trimmed.of_trim {t : Text} (h : '\n' ∉ t) : Trimmed (trim t) :=
  ⟨fun hmem => h (trim_subset t hmem), trim_trim t⟩

/-! ## Parameters -/

/-- A text that can be the name of a parameter. -/
structure Parameter.NameText (name : Text) : Prop where
  ne_nil : name ≠ []
  solid : ∀ c ∈ name, isBlank c = false

/-- A parameter has a name without blanks, and a type and a description of one line each. -/
structure Parameter.WellFormed (p : Parameter) : Prop where
  name : NameText p.name
  type : Trimmed p.type
  description : Trimmed p.description

namespace Parameter

theorem ofParts_wellFormed {name type description : Text} (hname : NameText name)
    (htype : '\n' ∉ type) (hdescription : '\n' ∉ description) :
    (ofParts name type description).WellFormed where
  name := by
    unfold ofParts
    rw [trim_of_solid hname.solid]
    exact hname
  type := .of_trim htype
  description := .of_trim hdescription

theorem name?_eq {t name rest : Text} (h : name? t = some (name, rest)) :
    t = name ++ rest ∧ NameText name := by
  unfold name? at h
  split at h
  · cases h
  · rename_i c r
    split at h
    · rename_i hc
      obtain ⟨rfl, rfl⟩ := Prod.mk.inj (Option.some.inj h)
      refine ⟨by simp, by simp, ?_⟩
      rw [List.forall_mem_cons]
      refine ⟨isBlank_of_isIdentStart hc, fun d hd => isBlank_of_isWord ?_⟩
      exact List.all_eq_true.1 List.all_takeWhile d hd
    · obtain ⟨rest', hrest, heq⟩ := Option.map_eq_some_iff.1 h
      obtain ⟨rfl, rfl⟩ := Prod.mk.inj heq
      refine ⟨after?_eq_some_iff.1 hrest, by decide, fun c hc => ?_⟩
      obtain rfl : c = '.' := by simpa using hc
      decide

theorem plainName?_eq {t name rest : Text} (h : plainName? t = some (name, rest)) :
    t = name ++ rest ∧ NameText name := by
  simp only [plainName?] at h
  split at h
  · cases h
  · rename_i hne
    obtain ⟨rfl, rfl⟩ := Prod.mk.inj (Option.some.inj h)
    refine ⟨List.takeWhile_append_dropWhile.symm, by simpa using hne, fun c hc => ?_⟩
    have hin := List.all_eq_true.1 List.all_takeWhile c hc
    simpa using (Bool.and_eq_true_iff.1 hin).2

theorem mark?_subset {mark t rest : Text} (h : mark? mark t = some rest) : rest ⊆ t := by
  intro c hc
  have hstart : c ∈ trimStart t := by
    rw [after?_eq_some_iff.1 h]
    exact List.mem_append_right mark hc
  exact List.dropWhile_subset _ hstart

theorem type?_subset {t type rest : Text} (h : type? t = some (type, rest)) : type ⊆ t ∧ rest ⊆ t := by
  unfold type? at h
  obtain ⟨inner, hinner, h⟩ := Option.bind_eq_some_iff.1 h
  obtain ⟨⟨type', rest'⟩, hcut, h⟩ := Option.bind_eq_some_iff.1 h
  have hsub := mark?_subset hinner
  obtain ⟨hsplit, -⟩ := eq_append_of_cut? hcut
  by_cases hempty : type'.isEmpty = true
  · simp [hempty] at h
  · simp only [hempty, Bool.false_eq_true, if_false] at h
    obtain ⟨rfl, rfl⟩ := Prod.mk.inj (Option.some.inj h)
    refine ⟨fun c hc => hsub ?_, fun c hc => hsub ?_⟩
    · rw [hsplit]
      simp [hc]
    · rw [hsplit]
      simp [hc]

theorem description?_subset {t d : Text} (h : description? t = some d) : d ⊆ t := by
  simp only [description?] at h
  split at h
  · split at h
    · cases h
    · split at h
      · cases h
      · cases h
        exact List.nil_subset _
  · split at h
    · cases h
    · cases h
      exact fun c hc => List.dropWhile_subset _ (trim_subset _ hc)

section Shapes
variable {t : Text} {p : Parameter} (hline : '\n' ∉ t)
include hline

theorem typed?_wellFormed {mark : Text} (h : typed? mark t = some p) : p.WellFormed := by
  unfold typed? at h
  obtain ⟨⟨name, rest₁⟩, hread, h⟩ := Option.bind_eq_some_iff.1 h
  obtain ⟨⟨type, rest₂⟩, htype, h⟩ := Option.bind_eq_some_iff.1 h
  obtain ⟨rest₃, hmark, h⟩ := Option.bind_eq_some_iff.1 h
  obtain ⟨description, hdescription, h⟩ := Option.bind_eq_some_iff.1 h
  obtain rfl := Option.some.inj h
  obtain ⟨ht, hname⟩ := name?_eq hread
  obtain ⟨htype, hrest₂⟩ := type?_subset htype
  have hrest : '\n' ∉ rest₁ := fun hmem => hline (ht ▸ List.mem_append_right name hmem)
  refine ofParts_wellFormed hname (fun hmem => hrest (htype hmem)) fun hmem => hrest ?_
  exact hrest₂ (mark?_subset hmark (description?_subset hdescription hmem))

theorem untyped?_wellFormed (h : untyped? t = some p) : p.WellFormed := by
  unfold untyped? at h
  obtain ⟨⟨name, rest⟩, hread, h⟩ := Option.bind_eq_some_iff.1 h
  obtain ⟨rest', hmark, h⟩ := Option.bind_eq_some_iff.1 h
  obtain ⟨description, hdescription, h⟩ := Option.bind_eq_some_iff.1 h
  obtain rfl := Option.some.inj h
  obtain ⟨ht, hname⟩ := name?_eq hread
  refine ofParts_wellFormed hname (by decide) fun hmem => hline (ht ▸ List.mem_append_right name ?_)
  exact mark?_subset hmark (description?_subset hdescription hmem)

theorem dashTyped?_wellFormed (h : dashTyped? t = some p) : p.WellFormed := by
  unfold dashTyped? at h
  obtain ⟨⟨name, rest₁⟩, hread, h⟩ := Option.bind_eq_some_iff.1 h
  obtain ⟨rest₂, hmark, h⟩ := Option.bind_eq_some_iff.1 h
  obtain ⟨⟨type, rest₃⟩, hcut, h⟩ := Option.bind_eq_some_iff.1 h
  by_cases hempty : type.isEmpty = true
  · simp [hempty] at h
  · simp only [hempty, Bool.false_eq_true, if_false] at h
    obtain ⟨description, hdescription, h⟩ := Option.bind_eq_some_iff.1 h
    obtain rfl := Option.some.inj h
    obtain ⟨ht, hname⟩ := plainName?_eq hread
    obtain ⟨hsplit, -⟩ := eq_append_of_cut? hcut
    have hrest : '\n' ∉ rest₂ := fun hmem =>
      hline (ht ▸ List.mem_append_right name (mark?_subset hmark hmem))
    rw [hsplit] at hrest
    simp only [List.mem_append, not_or] at hrest
    exact ofParts_wellFormed hname hrest.1 fun hmem =>
      hrest.2.2 (description?_subset hdescription hmem)

theorem dashUntyped?_wellFormed (h : dashUntyped? t = some p) : p.WellFormed := by
  unfold dashUntyped? at h
  obtain ⟨⟨name, rest⟩, hread, h⟩ := Option.bind_eq_some_iff.1 h
  obtain ⟨rest', hmark, h⟩ := Option.bind_eq_some_iff.1 h
  obtain ⟨description, hdescription, h⟩ := Option.bind_eq_some_iff.1 h
  obtain rfl := Option.some.inj h
  obtain ⟨ht, hname⟩ := plainName?_eq hread
  refine ofParts_wellFormed hname (by decide) fun hmem => hline (ht ▸ List.mem_append_right name ?_)
  exact mark?_subset hmark (description?_subset hdescription hmem)

theorem bullet?_single {rest : Text} (h : bullet? t = some rest) : '\n' ∉ rest := by
  unfold bullet? at h
  obtain ⟨more, hmore, rfl⟩ := Option.map_eq_some_iff.1 h
  intro hmem
  refine hline ?_
  rw [after?_eq_some_iff.1 hmore]
  exact List.mem_append_right _ (List.dropWhile_subset _ hmem)

/-- A parameter that is read from a line is well formed, whatever its shape. -/
theorem parseLine?_wellFormed (h : parseLine? t = some p) : p.WellFormed := by
  unfold parseLine? at h
  simp only [Option.orElse_eq_orElse, Option.orElse_eq_or, Option.or_eq_some_iff] at h
  rcases h with h | ⟨-, h | ⟨-, h | ⟨-, h | ⟨-, h | ⟨-, h⟩⟩⟩⟩⟩
  · obtain ⟨rest, hrest, h⟩ := Option.bind_eq_some_iff.1 h
    exact typed?_wellFormed (bullet?_single hline hrest) h
  · obtain ⟨rest, hrest, h⟩ := Option.bind_eq_some_iff.1 h
    exact untyped?_wellFormed (bullet?_single hline hrest) h
  · exact typed?_wellFormed hline h
  · exact dashTyped?_wellFormed hline h
  · exact dashUntyped?_wellFormed hline h
  · exact typed?_wellFormed hline h

/-- Name and type that await their description. -/
theorem pending?_wellFormed {name type : Text} (h : pending? t = some (name, type)) :
    NameText name ∧ Trimmed type := by
  unfold pending? at h
  obtain ⟨⟨name', rest₁⟩, hread, h⟩ := Option.bind_eq_some_iff.1 h
  obtain ⟨⟨type', rest₂⟩, htype, h⟩ := Option.bind_eq_some_iff.1 h
  dsimp only at h
  split at h
  · obtain ⟨rfl, rfl⟩ := Prod.mk.inj (Option.some.inj h)
    obtain ⟨ht, hname⟩ := name?_eq hread
    have htrim : '\n' ∉ trimStart (trimEnd t) := fun hmem =>
      hline ((isPrefix_trimEnd t).subset (List.dropWhile_subset _ hmem))
    rw [ht] at htrim
    rw [trim_of_solid hname.solid]
    refine ⟨hname, .of_trim fun hmem => htrim (List.mem_append_right name' ?_)⟩
    exact (type?_subset htype).1 hmem
  · cases h

end Shapes

end Parameter

/-! ## Examples -/

/-- The label of an example: something on one line. -/
structure Example.LabelText (label : Text) : Prop where
  ne_nil : label ≠ []
  single : '\n' ∉ label

/-- An example has a label and lines of code. -/
structure Example.WellFormed (ex : Example) : Prop where
  label : LabelText ex.label
  code : ∀ line ∈ ex.code, CodeLine line

namespace Example

theorem complexity?_eq {line word : Text} (h : complexity? line = some word) :
    trim word ≠ [] ∧ word ⊆ line := by
  unfold complexity? at h
  obtain ⟨rest, -, h⟩ := Option.bind_eq_some_iff.1 h
  obtain ⟨rest', -, h⟩ := Option.bind_eq_some_iff.1 h
  split at h
  · cases h
  · rename_i hne
    split at h
    · obtain rfl := Option.some.inj h
      refine ⟨?_, List.takeWhile_subset _⟩
      rw [trim_of_solid fun c hc => isBlank_of_isWord (List.all_eq_true.1 List.all_takeWhile c hc)]
      simpa using hne
    · cases h

theorem isBlank_of_toLower {c : Char} (h : isBlank c = true) : isBlank c.toLower = true := by
  have hcodes : ∀ n ∈ blankCodes, isBlank (Char.ofNat n).toLower = true := by decide +kernel
  have hc := hcodes c.toNat (toNat_mem_blankCodes h)
  rwa [Char.ofNat_toNat] at hc

theorem namedLevel?_eq {line word : Text} (h : namedLevel? line = some word) :
    trim word ≠ [] ∧ word ⊆ line := by
  unfold namedLevel? at h
  obtain ⟨⟨front, rest⟩, hcut, h⟩ := Option.bind_eq_some_iff.1 h
  dsimp only at h
  split at h
  · rename_i hlevel
    obtain rfl := Option.some.inj h
    obtain ⟨hsplit, -⟩ := eq_append_of_cut? hcut
    refine ⟨fun hblank => ?_, fun c hc => by rw [hsplit]; exact List.mem_append_left _ hc⟩
    obtain ⟨level, hmem, hsame⟩ := List.any_eq_true.1 hlevel
    have hletters : ∀ level ∈ levels, (level.map Char.toLower).any (fun c => !isBlank c) = true := by
      decide
    obtain ⟨c, hc, hsolid⟩ := List.any_eq_true.1 (hletters level hmem)
    rw [← eq_of_beq hsame] at hc
    obtain ⟨d, hd, rfl⟩ := List.mem_map.1 hc
    rw [isBlank_of_toLower (trim_eq_nil hblank d hd)] at hsolid
    cases hsolid
  · cases h

theorem named?_eq {line label : Text} (h : named? line = some label) :
    (∃ front c, label = front ++ [c] ∧ isBlank c = false) ∧ label ⊆ line := by
  induction line generalizing label with
  | nil => cases h
  | cons c r ih =>
    unfold named? at h
    split at h
    · rename_i hends
      obtain rfl := Option.some.inj h
      simp only [Bool.and_eq_true, Bool.not_eq_true'] at hends
      exact ⟨⟨[], c, rfl, hends.1⟩, by simp⟩
    · obtain ⟨more, hmore, rfl⟩ := Option.map_eq_some_iff.1 h
      obtain ⟨⟨front, d, rfl, hd⟩, hsub⟩ := ih hmore
      exact ⟨⟨c :: front, d, rfl, hd⟩, List.cons_subset_cons c hsub⟩

/-- A label that a line gives. -/
theorem label?_clean {line label : Text} (hline : '\n' ∉ line) (h : label? line = some label) :
    LabelText label := by
  unfold label? at h
  obtain ⟨word, hword, rfl⟩ := Option.map_eq_some_iff.1 h
  have hclean : trim word ≠ [] ∧ word ⊆ line := by
    simp only [Option.orElse_eq_orElse, Option.orElse_eq_or, Option.or_eq_some_iff] at hword
    rcases hword with hword | ⟨-, hword | ⟨-, hword⟩⟩
    · exact complexity?_eq hword
    · exact namedLevel?_eq hword
    · obtain ⟨⟨front, c, rfl, hc⟩, hsub⟩ := named?_eq hword
      refine ⟨fun hblank => ?_, hsub⟩
      rw [trim_eq_nil hblank c (by simp)] at hc
      cases hc
  refine ⟨lower_ne_nil hclean.1, fun hmem => hline ?_⟩
  exact hclean.2 (trim_subset word (newline_of_mem_lower hmem))

theorem labelText_levels : ∀ level ∈ levels, level ≠ [] ∧ '\n' ∉ level := by decide

/-- A level that a comment sets. -/
theorem level?_clean {line level : Text} (h : level? line = some level) : LabelText level := by
  unfold level? at h
  obtain ⟨rest, -, h⟩ := Option.bind_eq_some_iff.1 h
  dsimp only at h
  split at h
  · rename_i hlevel
    obtain rfl := Option.some.inj h
    rw [Bool.and_eq_true, List.contains_iff_mem] at hlevel
    exact ⟨(labelText_levels _ hlevel.2).1, (labelText_levels _ hlevel.2).2⟩
  · cases h

/-- A comment that sets a level: after the dashes and any blanks stands one of the levels, in any case,
and a colon. -/
def SetsLevel (line : Text) : Prop :=
  ∃ gap word rest : Text, line = "--" ++ (gap ++ (word ++ ':' :: rest)) ∧
    (∀ c ∈ gap, isBlank c = true) ∧ (∀ c ∈ word, isWord c = true) ∧ lower word ∈ levels

theorem ne_nil_of_level {word : Text} (h : lower word ∈ levels) : word ≠ [] := by
  rintro rfl
  exact absurd h (by decide)

theorem level?_isSome_iff (line : Text) : (level? line).isSome = true ↔ SetsLevel line := by
  constructor
  · intro h
    obtain ⟨level, hlevel⟩ := Option.isSome_iff_exists.1 h
    unfold level? at hlevel
    obtain ⟨rest, hrest, hlevel⟩ := Option.bind_eq_some_iff.1 hlevel
    dsimp only at hlevel
    split at hlevel
    · rename_i hfound
      rw [Bool.and_eq_true, List.contains_iff_mem] at hfound
      obtain ⟨more, hmore⟩ := startsWith_iff.1 hfound.1
      refine ⟨rest.takeWhile isBlank, (trimStart rest).takeWhile isWord, more, ?_, ?_, ?_, hfound.2⟩
      · have hword : (trimStart rest).takeWhile isWord ++ ':' :: more = trimStart rest := by
          have hparts := List.takeWhile_append_dropWhile (p := isWord) (l := trimStart rest)
          rwa [hmore] at hparts
        rw [hword, trimStart, List.takeWhile_append_dropWhile]
        exact after?_eq_some_iff.1 hrest
      · exact List.all_eq_true.1 List.all_takeWhile
      · exact List.all_eq_true.1 List.all_takeWhile
    · cases hlevel
  · rintro ⟨gap, word, rest, rfl, hgap, hword, hlevel⟩
    have hcolon : ¬ isWord ':' = true := by decide
    obtain ⟨c, tail, rfl⟩ := List.exists_cons_of_ne_nil (ne_nil_of_level hlevel)
    have hstart : trimStart (gap ++ (c :: tail ++ ':' :: rest)) = c :: tail ++ ':' :: rest := by
      rw [trimStart, List.dropWhile_append_of_pos hgap, List.cons_append, List.dropWhile_cons_of_neg]
      rw [isBlank_of_isWord (hword c (by simp))]
      simp
    have htake : (c :: tail ++ ':' :: rest).takeWhile isWord = c :: tail := by
      rw [List.takeWhile_append_of_pos hword, List.takeWhile_cons_of_neg hcolon, List.append_nil]
    have hdrop : (c :: tail ++ ':' :: rest).dropWhile isWord = ':' :: rest := by
      rw [List.dropWhile_append_of_pos hword, List.dropWhile_cons_of_neg hcolon]
    have hfound : (startsWith ":" (':' :: rest) && levels.contains (lower (c :: tail))) = true := by
      rw [Bool.and_eq_true, List.contains_iff_mem]
      exact ⟨rfl, hlevel⟩
    unfold level?
    rw [after?_append, Option.bind_eq_bind, Option.bind_some]
    simp only [hstart, htake, hdrop]
    rw [if_pos hfound]
    rfl

instance (line : Text) : Decidable (SetsLevel line) := decidable_of_iff _ (level?_isSome_iff line)

end Example

namespace Entry

/-! ## Entries -/

/-- Free text is empty, or made of lines that are not blank and have no blanks at their ends. -/
def CleanText (value : Text) : Prop := value = [] ∨ ∀ line ∈ splitOn '\n' value, OneLine line

/-- An entry is made of clean parts. -/
structure WellFormed (e : Entry) : Prop where
  text : ∀ field, CleanText (e.text field)
  parameters : ∀ p ∈ e.parameters, p.WellFormed
  examples : ∀ ex ∈ e.examples, ex.WellFormed

/-- What is being read is made of clean parts. -/
def Open.WellFormed : Open → Prop
  | .nothing => True
  | .text _ lines => ∀ line ∈ lines, OneLine line
  | .parameters pending => ∀ found, pending = some found → Parameter.NameText found.1 ∧ Trimmed found.2
  | .examples current => ∀ ex, current = some ex → ex.close.WellFormed

/-- A reader that has met clean parts only. -/
structure Reader.WellFormed (r : Reader) : Prop where
  entry : r.entry.WellFormed
  current : r.current.WellFormed

theorem wellFormed_empty : WellFormed {} where
  text field := Or.inl (by cases field <;> rfl)
  parameters := by simp
  examples := by simp

/-- Lines that are not blank make up a text that is trimmed. -/
theorem cleanText_join {lines : List Text} (h : ∀ line ∈ lines, OneLine line) :
    CleanText (trim (join "\n" lines)) := by
  cases lines with
  | nil => exact Or.inl rfl
  | cons line lines =>
    have hsplit : splitOn '\n' (join "\n" (line :: lines)) = line :: lines :=
      splitOn_join (by simp) fun piece hpiece => (h piece hpiece).single
    have hparts : ∀ piece ∈ line :: lines, piece ≠ [] ∧ trim piece = piece := fun piece hpiece =>
      ⟨(h piece hpiece).ne_nil, (h piece hpiece).trimmed⟩
    rw [(trim_join "\n" hparts (by simp)).2]
    refine Or.inr ?_
    rwa [hsplit]

theorem text_setText_self (e : Entry) (field : TextField) (value : Text) :
    (e.setText field value).text field = value := by
  cases field <;> rfl

namespace WellFormed
variable {e : Entry} (h : e.WellFormed)
include h

theorem setText {field : TextField} {value : Text} (hvalue : CleanText value) :
    (e.setText field value).WellFormed where
  text other := by
    by_cases hother : other = field
    · subst hother
      rwa [text_setText_self]
    · rw [text_setText_of_ne hother]
      exact h.text other
  parameters := by
    have hsame : (e.setText field value).parameters = e.parameters := by cases field <;> rfl
    rw [hsame]
    exact h.parameters
  examples := by
    have hsame : (e.setText field value).examples = e.examples := by cases field <;> rfl
    rw [hsame]
    exact h.examples

theorem addParameters {more : List Parameter} (hmore : ∀ p ∈ more, p.WellFormed) :
    WellFormed { e with parameters := e.parameters ++ more } where
  text field := by
    have hfield := h.text field
    cases field <;> exact hfield
  parameters := List.forall_mem_append.2 ⟨h.parameters, hmore⟩
  examples := h.examples

theorem addExample {ex : Example} (hex : ex.WellFormed) :
    WellFormed { e with examples := e.examples ++ [ex] } where
  text field := by
    have hfield := h.text field
    cases field <;> exact hfield
  parameters := h.parameters
  examples := List.forall_mem_append.2 ⟨h.examples, by simpa using hex⟩

/-- What was read of a section goes into the entry. -/
theorem close {current : Open} (hcurrent : current.WellFormed) : (e.close current).WellFormed := by
  cases current with
  | nothing => exact h
  | text field lines =>
    unfold Entry.close
    dsimp only
    split
    · exact h
    · exact h.setText (cleanText_join fun line hline => hcurrent line (List.mem_reverse.1 hline))
  | parameters pending =>
    rcases pending with _ | ⟨name, type⟩
    · exact h
    · obtain ⟨hname, htype⟩ := hcurrent (name, type) rfl
      refine h.addParameters ?_
      rw [List.forall_mem_singleton]
      exact Parameter.ofParts_wellFormed hname htype.single (List.not_mem_nil)
  | examples current =>
    cases current with
    | none => exact h
    | some ex => exact h.addExample (hcurrent ex rfl)

end WellFormed

/-! ## Reading -/

namespace Reader

theorem parameterLine_wellFormed {e : Entry} {pending : Option (Text × Text)} {raw line : Text}
    (he : e.WellFormed) (hpending : Open.WellFormed (.parameters pending)) (hraw : '\n' ∉ raw)
    (hline : '\n' ∉ line) : (parameterLine e pending raw line).WellFormed := by
  have hnone : Open.WellFormed (.parameters none) := fun _ hfound => nomatch hfound
  unfold parameterLine
  split
  · exact ⟨he, hpending⟩
  · split
    · rename_i next hnext
      refine ⟨he.close hpending, fun found hfound => ?_⟩
      obtain rfl := Option.some.inj hfound
      exact Parameter.pending?_wellFormed hraw hnext
    · split
      · rename_i name type
        obtain ⟨hname, htype⟩ := hpending (name, type) rfl
        refine ⟨he.addParameters ?_, hnone⟩
        rw [List.forall_mem_singleton]
        exact Parameter.ofParts_wellFormed hname htype.single hline
      · refine ⟨he.addParameters fun p hp => ?_, hnone⟩
        exact Parameter.parseLine?_wellFormed hline (Option.mem_toList.1 hp)

/-- A line of code that is kept ends without blanks. -/
theorem codeLine_trimEnd {raw : Text} (hraw : '\n' ∉ raw) (hfence : isFence (trim raw) = false)
    (hmark : isDelimiter (trim raw) = false) (hsect : ¬ OpensSection raw)
    (hlevel : Example.level? (trim raw) = none) : Example.CodeLine (trimEnd raw) where
  single hmem := hraw ((isPrefix_trimEnd raw).subset hmem)
  trimmed := trimEnd_trimEnd raw
  not_fence := by rwa [trim_trimEnd]
  not_delimiter := by rwa [trim_trimEnd]
  not_section := by
    unfold OpensSection
    rwa [trim_trimEnd]
  not_level := by rwa [trim_trimEnd]

theorem close_wellFormed_cons {label line : Text} {code : List Text} {inCode : Bool}
    (h : (OpenExample.close ⟨label, code, inCode⟩).WellFormed) (hline : Example.CodeLine line) :
    (OpenExample.close ⟨label, line :: code, inCode⟩).WellFormed where
  label := h.label
  code := by
    have hcode : ∀ other ∈ code.reverse, Example.CodeLine other := h.code
    simp only [OpenExample.close, List.reverse_cons]
    exact List.forall_mem_append.2 ⟨hcode, by simpa using hline⟩

theorem exampleLine_wellFormed {e : Entry} {current : Option OpenExample} {raw : Text}
    (he : e.WellFormed) (hcurrent : Open.WellFormed (.examples current)) (hraw : '\n' ∉ raw)
    (hmark : isDelimiter (trim raw) = false) (hsect : ¬ OpensSection raw) :
    (exampleLine e current raw (trim raw)).WellFormed := by
  unfold exampleLine
  split
  · split
    · rename_i ex
      refine ⟨he, fun found hfound => ?_⟩
      obtain rfl := Option.some.inj hfound
      exact hcurrent ex rfl
    · refine ⟨he, fun found hfound => ?_⟩
      obtain rfl := Option.some.inj hfound
      exact ⟨⟨by decide, by decide⟩, fun line hline => nomatch hline⟩
  · rename_i hfence
    split
    · rename_i label code
      have hex := hcurrent _ rfl
      split
      · rename_i level hlevel
        refine ⟨he, fun found hfound => ?_⟩
        obtain rfl := Option.some.inj hfound
        exact ⟨Example.level?_clean hlevel, hex.code⟩
      · rename_i hlevel
        refine ⟨he, fun found hfound => ?_⟩
        obtain rfl := Option.some.inj hfound
        exact close_wellFormed_cons hex
          (codeLine_trimEnd hraw (by simpa using hfence) hmark hsect hlevel)
    · rename_i other
      split
      · rename_i label hlabel
        refine ⟨he.close hcurrent, fun found hfound => ?_⟩
        obtain rfl := Option.some.inj hfound
        refine ⟨Example.label?_clean ?_ hlabel, fun line hline => nomatch hline⟩
        exact fun hmem => hraw (trim_subset raw hmem)
      · exact ⟨he, hcurrent⟩

theorem blankLine_wellFormed {r : Reader} (h : r.WellFormed) : r.blankLine.WellFormed := by
  obtain ⟨e, current⟩ := r
  unfold blankLine
  dsimp only
  split
  · have hcurrent := h.current
    refine ⟨h.entry, fun found hfound => ?_⟩
    obtain rfl := Option.some.inj hfound
    exact close_wellFormed_cons (hcurrent _ rfl) (by decide)
  · exact h

theorem openSection_wellFormed {r : Reader} {sect : Section} {inline : Text} (h : r.WellFormed)
    (hinline : Trimmed inline) : (r.openSection sect inline).WellFormed := by
  have hclosed := h.entry.close h.current
  have hnone : Open.WellFormed (.parameters none) := fun _ hfound => nomatch hfound
  unfold openSection
  cases sect with
  | text field =>
    refine ⟨hclosed, fun line hline => ?_⟩
    split at hline
    · cases hline
    · rename_i hne
      obtain rfl := List.mem_singleton.1 hline
      exact ⟨by simpa using hne, hinline.trimmed, hinline.single⟩
  | parameters =>
    dsimp only
    split
    · exact ⟨hclosed, hnone⟩
    · exact parameterLine_wellFormed hclosed hnone hinline.single hinline.single
  | examples => exact ⟨hclosed, fun _ hfound => nomatch hfound⟩

theorem plainLine_wellFormed {r : Reader} {raw : Text} (h : r.WellFormed) (hraw : '\n' ∉ raw)
    (hne : trim raw ≠ []) (hmark : isDelimiter (trim raw) = false) (hsect : ¬ OpensSection raw) :
    (r.plainLine raw (trim raw)).WellFormed := by
  have hline : '\n' ∉ trim raw := fun hmem => hraw (trim_subset raw hmem)
  obtain ⟨e, current⟩ := r
  cases current with
  | nothing => exact h
  | text field lines =>
    refine ⟨h.entry, ?_⟩
    change ∀ line ∈ trim raw :: lines, OneLine line
    rw [List.forall_mem_cons]
    exact ⟨⟨hne, trim_trim raw, hline⟩, h.current⟩
  | parameters pending => exact parameterLine_wellFormed h.entry h.current hraw hline
  | examples current => exact exampleLine_wellFormed h.entry h.current hraw hmark hsect

theorem keyword?_trimmed {line inline : Text} {sect : Section} (hline : '\n' ∉ line)
    (h : keyword? line = some (sect, inline)) : Trimmed inline := by
  obtain ⟨⟨word, opened⟩, -, hfound⟩ := List.exists_of_findSome?_eq_some h
  obtain ⟨rest, hrest, heq⟩ := Option.map_eq_some_iff.1 hfound
  obtain ⟨-, rfl⟩ := Prod.mk.inj heq
  refine .of_trim fun hmem => hline ?_
  rw [after?_eq_some_iff.1 hrest]
  exact List.mem_append_right word hmem

/-- One line leaves what was read clean. -/
theorem feed_wellFormed {r : Reader} {raw : Text} (h : r.WellFormed) (hraw : '\n' ∉ raw) :
    (r.feed raw).WellFormed := by
  by_cases hsect : OpensSection raw
  · obtain ⟨⟨sect, inline⟩, hfound⟩ :=
      Option.isSome_iff_exists.1 ((keyword?_isSome (trim raw)).2 hsect)
    rw [feed_section hfound]
    refine openSection_wellFormed h (keyword?_trimmed (fun hmem => hraw ?_) hfound)
    exact trim_subset raw hmem
  · unfold feed
    dsimp only
    split
    · exact blankLine_wellFormed h
    · rename_i hne
      split
      · exact h
      · rename_i hmark
        rw [keyword?_eq_none hsect]
        exact plainLine_wellFormed h hraw (by simpa using hne) (by simpa using hmark) hsect

theorem foldl_feed_wellFormed {r : Reader} {raws : List Text} (h : r.WellFormed)
    (hraws : ∀ raw ∈ raws, '\n' ∉ raw) : (raws.foldl feed r).WellFormed := by
  induction raws generalizing r with
  | nil => exact h
  | cons raw raws ih =>
    rw [List.forall_mem_cons] at hraws
    exact ih (feed_wellFormed h hraws.1) hraws.2

end Reader

/-- The entry of a block is made of clean parts, whatever the block is. -/
theorem parse_wellFormed (block : Text) : (parse block).WellFormed := by
  have hstart : Reader.WellFormed {} := ⟨wellFormed_empty, trivial⟩
  have hread := Reader.foldl_feed_wellFormed hstart
    fun raw (hraw : raw ∈ Text.lines (Comment.body block)) => not_newline_of_mem_lines hraw
  exact hread.entry.close hread.current

/-- Free text is empty or made of lines, parameters have a name without blanks and one line each of type
and description, and examples have a label and lines that cannot be read as anything else than code. -/
theorem parse_parts (block : Text) :
    (∀ field, (parse block).text field = [] ∨
      ∃ ls, (parse block).text field = join "\n" ls ∧ ∀ line ∈ ls, OneLine line) ∧
    (∀ p ∈ (parse block).parameters,
      (p.name ≠ [] ∧ ∀ c ∈ p.name, isBlank c = false) ∧ Trimmed p.type ∧ Trimmed p.description) ∧
    ∀ ex ∈ (parse block).examples, ex.label ≠ [] ∧
      ∀ line ∈ ex.code, '\n' ∉ line ∧ trimEnd line = line ∧ startsWith "```" (trim line) = false ∧
        ¬ OpensSection line ∧ Reader.isDelimiter (trim line) = false ∧ ¬ Example.SetsLevel (trim line) := by
  have hclean := parse_wellFormed block
  refine ⟨fun field => ?_, fun p hp => ?_, fun ex hex => ?_⟩
  · refine (hclean.text field).imp_right fun hlines => ⟨splitOn '\n' ((parse block).text field), ?_, hlines⟩
    exact (join_splitOn '\n' _).symm
  · have hparts := hclean.parameters p hp
    exact ⟨⟨hparts.name.ne_nil, hparts.name.solid⟩, hparts.type, hparts.description⟩
  · have hparts := hclean.examples ex hex
    refine ⟨hparts.label.ne_nil, fun line hline => ?_⟩
    have hcode := hparts.code line hline
    refine ⟨hcode.single, hcode.trimmed, hcode.not_fence, hcode.not_section, hcode.not_delimiter, ?_⟩
    rw [← Example.level?_isSome_iff, hcode.not_level]
    exact Bool.false_ne_true

/-- A block with a field of two lines, a parameter of two lines and an example whose level is set in its
code. -/
theorem parse_parts_sample :
    let block : Text :=
      "--[[\n Purpose: Adds\n  two \nParameters:\n  first (number)\n   to add\n" ++
        "Example Usage:\n```\n-- LOW:\nx = 1  \n\n-- note: kept\n```\n]]"
    let first : Parameter := ⟨"first", "number", "to add"⟩
    let code : List Text := ["x = 1", "", "-- note: kept"]
    let sample : Entry :=
      { purpose := "Adds\ntwo", parameters := [first], examples := [⟨"low", code⟩] }
    parse block = sample ∧ (∃ ls, sample.purpose = join "\n" ls ∧ ∀ line ∈ ls, OneLine line) ∧
      Trimmed first.description ∧ ¬ Example.SetsLevel (trim "-- note: kept") := by
  intro block first code sample
  have hparse : parse block = sample := by decide +kernel
  obtain ⟨htext, hparameters, hexamples⟩ := parse_parts block
  rw [hparse] at htext hparameters hexamples
  refine ⟨hparse, (htext .purpose).resolve_left (by decide), ?_, ?_⟩
  · exact (hparameters first (by simp [sample])).2.2
  · exact ((hexamples ⟨"low", code⟩ (by simp [sample])).2 _ (by simp [code])).2.2.2.2.2

end Entry

end LuaReference
