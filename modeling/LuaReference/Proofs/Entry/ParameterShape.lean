import LuaReference.Proofs.Entry.Print
import LuaReference.Proofs.Text.Indent
import LuaReference.Proofs.Text.LineEnd

/-!
# The shapes of parameter lines

Every part of a parameter line ends where the next mark stands, whatever blanks are between them. So
each shape is read as what it says, unless a shape that is tried earlier takes the line.

* `Gap` : the blanks between two parts;
* `name?_gap`, `type?_gap`, `mark?_gap`, `description?_gap`, `plainName?_run` : the parts of a line;
* `typed?_gaps`, `untyped?_gaps`, `dashTyped?_gaps`, `dashUntyped?_gaps` : the shapes;
* `parseLine?_documented` : the five documented shapes are read as they were written;
* `BreaksOff`, `parseLine?_hook_iff` : when `name (type) - description` is.
-/

namespace LuaReference.Parameter

open Text

/-- Blanks between two parts of a line, or none. -/
structure Gap (t : Text) : Prop where
  blank : ∀ c ∈ t, isBlank c = true
  single : '\n' ∉ t

theorem Gap.nil : Gap [] := ⟨by simp, by simp⟩

theorem Gap.space : Gap [' '] := ⟨List.all_eq_true.1 (by decide), by decide⟩

theorem isWord_of_isBlank {c : Char} (h : isBlank c = true) : isWord c = false := by
  cases hword : isWord c with
  | false => rfl
  | true =>
    rw [isBlank_of_isWord hword] at h
    cases h

/-! ## Marks -/

section Marks
variable {gap : Text} (hgap : Gap gap) {c : Char} (hc : isBlank c = false)
include hgap hc

theorem trimStart_gap (rest : Text) : trimStart (gap ++ c :: rest) = c :: rest :=
  (span_run hgap.blank hc rest).2

theorem mark?_gap (rest : Text) : mark? [c] (gap ++ c :: rest) = some rest := by
  rw [mark?, trimStart_gap hgap hc, after?_cons_cons, if_pos (beq_self_eq_true c), after?_nil]

theorem mark?_gap_of_ne {mark : Char} (h : mark ≠ c) (rest : Text) :
    mark? [mark] (gap ++ c :: rest) = none := by
  rw [mark?, trimStart_gap hgap hc, after?_cons_cons, if_neg (by simpa using h)]

theorem type?_gap_of_ne (h : '(' ≠ c) (rest : Text) : type? (gap ++ c :: rest) = none := by
  have hmark : after? "(" (trimStart (gap ++ c :: rest)) = none := mark?_gap_of_ne hgap hc h rest
  unfold type?
  rw [hmark]
  rfl

end Marks

section Literal
variable {gap : Text} (hgap : Gap gap) (rest : Text)
include hgap

theorem mark?_colon : mark? ":" (gap ++ ':' :: rest) = some rest := mark?_gap hgap (by decide) rest

theorem mark?_dash : mark? "-" (gap ++ '-' :: rest) = some rest := mark?_gap hgap (by decide) rest

theorem not_colon_gap : ':' ∉ gap := fun hmem => absurd (hgap.blank _ hmem) (by decide)

end Literal

/-! ## Types and descriptions -/

theorem cut?_single {mark : Char} {front : Text} (h : mark ∉ front) (rest : Text) :
    cut? [mark] (front ++ mark :: rest) = some (front, rest) := by
  induction front with
  | nil => simp [cut?, after?_cons_cons]
  | cons c front ih =>
    rw [List.mem_cons, not_or] at h
    simp [cut?, after?_cons_cons, h.1, ih h.2]

theorem cut?_of_not_mem {mark : Char} {t : Text} (h : mark ∉ t) : cut? [mark] t = none := by
  refine cut?_eq_none_iff.2 fun front rest heq => h ?_
  simp [heq]

theorem type?_gap {gap type : Text} (hgap : Gap gap) (hne : type ≠ []) (hclosed : ')' ∉ type)
    (rest : Text) : type? (gap ++ '(' :: (type ++ ')' :: rest)) = some (type, rest) := by
  have hinner : after? "(" (trimStart (gap ++ '(' :: (type ++ ')' :: rest))) =
      some (type ++ ')' :: rest) := mark?_gap hgap (by decide) _
  have hcut : cut? ")" (type ++ ')' :: rest) = some (type, rest) := cut?_single hclosed rest
  unfold type?
  simp only [hinner, hcut, Option.bind_eq_bind, Option.bind_some]
  rw [if_neg (by simpa using hne)]
  rfl

theorem description?_gap {gap t : Text} (hgap : Gap gap) (h : OneLine t) :
    description? (gap ++ t) = some t := by
  obtain ⟨c, r, rfl⟩ := List.exists_cons_of_ne_nil h.ne_nil
  have hc := trimStart_eq_self_iff.1 (trim_eq_self_iff.1 h.trimmed).1 c rfl
  unfold description?
  rw [trimStart_gap hgap hc]
  simp [h.single, h.trimmed]

/-- Whatever stands on a line is a description. -/
theorem exists_description? {t : Text} (hne : t ≠ []) (h : '\n' ∉ t) : ∃ d, description? t = some d := by
  unfold description?
  dsimp only
  split
  · obtain ⟨last, hlast⟩ := Option.ne_none_iff_exists'.1 (mt List.getLast?_eq_none_iff.1 hne)
    have hnewline : last ≠ '\n' := by
      rintro rfl
      exact h (List.mem_of_getLast? hlast)
    rw [hlast]
    exact ⟨[], if_neg hnewline⟩
  · have hsingle : '\n' ∉ trimStart t := fun hmem => h (List.dropWhile_subset _ hmem)
    exact ⟨_, if_neg (by simpa using hsingle)⟩

theorem trim_gaps {gap type gap' : Text} (hgap : Gap gap) (htype : OneLine type) (hgap' : Gap gap') :
    trim (gap ++ (type ++ gap')) = type := by
  obtain ⟨hstart, hend⟩ := trim_eq_self_iff.1 htype.trimmed
  rw [trim_blanks_append hgap.blank, trim, trimStart_append htype.ne_nil hstart,
    trimEnd_append_blanks hgap'.blank, hend]

/-! ## Names -/

/-- Whether a character can stand in a plain name. -/
def isPlain (c : Char) : Bool := c != '-' && !isBlank c

theorem plainName?_run {run : Text} (hne : run ≠ []) (hrun : ∀ c ∈ run, isPlain c = true) {d : Char}
    (hd : isPlain d = false) (rest : Text) : plainName? (run ++ d :: rest) = some (run, d :: rest) := by
  obtain ⟨htake, hdrop⟩ := span_run hrun hd rest
  have hread : plainName? (run ++ d :: rest) =
      if ((run ++ d :: rest).takeWhile isPlain).isEmpty then none
      else some ((run ++ d :: rest).takeWhile isPlain, (run ++ d :: rest).dropWhile isPlain) := rfl
  rw [hread, htake, hdrop, if_neg (by simpa using hne)]

theorem trim_of_plain {run : Text} (h : ∀ c ∈ run, isPlain c = true) : trim run = run := by
  refine trim_of_solid fun c hc => ?_
  simpa using (Bool.and_eq_true_iff.1 (h c hc)).2

/-- A plain name goes on up to a dash, also one that stands after blanks. -/
theorem plainName?_dash {run gap : Text} (hne : run ≠ []) (hrun : ∀ c ∈ run, isPlain c = true)
    (hgap : Gap gap) (rest : Text) :
    plainName? (run ++ (gap ++ '-' :: rest)) = some (run, gap ++ '-' :: rest) := by
  cases gap with
  | nil => exact plainName?_run hne hrun (by decide) rest
  | cons d gap =>
    have hd : isPlain d = false := by simp [isPlain, hgap.blank d List.mem_cons_self]
    exact plainName?_run hne hrun hd _

section Names
variable {name : Text} (hname : isName name = true)
include hname

theorem isName_ne_nil : name ≠ [] := by
  rintro rfl
  cases hname

theorem isName_plain : ∀ c ∈ name, isPlain c = true := by
  rcases isName_cases hname with rfl | ⟨c, rest, rfl, hc, hrest⟩
  · exact List.all_eq_true.1 (by decide)
  · have hdash : ∀ d, isWord d = true ∨ isIdentStart d = true → d ≠ '-' := by
      rintro d hd rfl
      revert hd
      decide
    rw [List.forall_mem_cons]
    refine ⟨?_, fun d hd => ?_⟩
    · simp [isPlain, hdash c (.inr hc), isBlank_of_isIdentStart hc]
    · simp [isPlain, hdash d (.inl (hrest d hd)), isBlank_of_isWord (hrest d hd)]

theorem trim_isName : trim name = name := trim_of_plain (isName_plain hname)

/-- A name that no other character of a word follows is read as it stands. -/
theorem name?_append {c : Char} (hc : isWord c = false) (rest : Text) :
    name? (name ++ c :: rest) = some (name, c :: rest) := by
  rcases isName_cases hname with rfl | ⟨d, word, rfl, hd, hword⟩
  · rfl
  · obtain ⟨htake, hdrop⟩ := span_run hword hc rest
    rw [List.cons_append, name?, if_pos hd, htake, hdrop]

theorem name?_gap {gap : Text} (hgap : Gap gap) {c : Char} (hc : isWord c = false) (rest : Text) :
    name? (name ++ (gap ++ c :: rest)) = some (name, gap ++ c :: rest) := by
  cases gap with
  | nil => exact name?_append hname hc rest
  | cons d gap =>
    exact name?_append hname (isWord_of_isBlank (hgap.blank d List.mem_cons_self)) _

theorem bullet?_name (rest : Text) : bullet? (name ++ rest) = none := by
  obtain ⟨c, r, rfl⟩ := List.exists_cons_of_ne_nil (isName_ne_nil hname)
  have hplain := isName_plain hname c List.mem_cons_self
  have hc : '-' ≠ c := by
    rintro rfl
    revert hplain
    decide
  have hsame : ¬ ('-' == c) = true := by simpa using hc
  have hafter : after? "-" ((c :: r) ++ rest) = none := if_neg hsame
  rw [bullet?, hafter]
  rfl

theorem bullet?_gap {gap : Text} (hgap : Gap gap) (rest : Text) :
    bullet? ('-' :: (gap ++ (name ++ rest))) = some (name ++ rest) := by
  have hafter : after? "-" ('-' :: (gap ++ (name ++ rest))) = some (gap ++ (name ++ rest)) := rfl
  have hstart := (trim_eq_self_iff.1 (trim_isName hname)).1
  have hgone : trimStart (gap ++ (name ++ rest)) = name ++ rest := by
    rw [trimStart, List.dropWhile_append_of_pos hgap.blank]
    exact trimStart_append (isName_ne_nil hname) hstart
  rw [bullet?, hafter, Option.map_some, hgone]

end Names

/-! ## Shapes -/

theorem trim_unknownType : trim unknownType = unknownType := by decide

section Shapes
variable {name type description w x y z : Text} (hname : isName name = true) (htype : OneLine type)
  (hdescription : OneLine description) (hw : Gap w) (hx : Gap x) (hy : Gap y) (hz : Gap z)

section Typed
variable (hclosed : ')' ∉ type)
include hname htype hw hx hclosed

include hdescription hy in
theorem typed?_gaps {mark : Char} (hmark : isBlank mark = false) :
    typed? [mark] (name ++ (w ++ '(' :: (type ++ ')' :: (x ++ mark :: (y ++ description))))) =
      some ⟨name, type, description⟩ := by
  have hbracket : isWord '(' = false := by decide
  unfold typed?
  simp only [name?_gap hname hw hbracket, type?_gap hw htype.ne_nil hclosed, mark?_gap hx hmark,
    description?_gap hy hdescription, Option.bind_eq_bind, Option.bind_some]
  simp [ofParts, trim_isName hname, htype.trimmed, hdescription.trimmed]

theorem typed?_of_other_mark {mark other : Char} (hother : isBlank other = false) (hne : mark ≠ other)
    (rest : Text) :
    typed? [mark] (name ++ (w ++ '(' :: (type ++ ')' :: (x ++ other :: rest)))) = none := by
  have hbracket : isWord '(' = false := by decide
  unfold typed?
  simp only [name?_gap hname hw hbracket, type?_gap hw htype.ne_nil hclosed,
    mark?_gap_of_ne hx hother hne, Option.bind_eq_bind, Option.bind_some, Option.bind_none]

end Typed

section Plain
include hname hw

theorem typed?_of_no_type {mark : Text} {c : Char} (hc : isBlank c = false) (hword : isWord c = false)
    (hne : '(' ≠ c) (rest : Text) : typed? mark (name ++ (w ++ c :: rest)) = none := by
  unfold typed?
  simp only [name?_gap hname hw hword, type?_gap_of_ne hw hc hne, Option.bind_eq_bind, Option.bind_some,
    Option.bind_none]

theorem plainName?_name (rest : Text) :
    plainName? (name ++ (w ++ '-' :: rest)) = some (name, w ++ '-' :: rest) :=
  plainName?_dash (isName_ne_nil hname) (isName_plain hname) hw rest

include hx

theorem dashTyped?_of_no_colon (hcolon : ':' ∉ description) :
    dashTyped? (name ++ (w ++ '-' :: (x ++ description))) = none := by
  have hfree : ':' ∉ x ++ description := by simp [not_colon_gap hx, hcolon]
  have hcut : cut? ":" (x ++ description) = none := cut?_of_not_mem hfree
  unfold dashTyped?
  simp only [plainName?_name hname hw, mark?_dash hw, hcut, Option.bind_eq_bind, Option.bind_some,
    Option.bind_none]

include hdescription

theorem untyped?_gaps :
    untyped? (name ++ (w ++ ':' :: (x ++ description))) = some ⟨name, unknownType, description⟩ := by
  have hcolon : isWord ':' = false := by decide
  unfold untyped?
  simp only [name?_gap hname hw hcolon, mark?_colon hw, description?_gap hx hdescription,
    Option.bind_eq_bind, Option.bind_some]
  simp [ofParts, trim_isName hname, trim_unknownType, hdescription.trimmed]

theorem dashUntyped?_gaps :
    dashUntyped? (name ++ (w ++ '-' :: (x ++ description))) =
      some ⟨name, unknownType, description⟩ := by
  unfold dashUntyped?
  simp only [plainName?_name hname hw, mark?_dash hw, description?_gap hx hdescription,
    Option.bind_eq_bind, Option.bind_some]
  simp [ofParts, trim_isName hname, trim_unknownType, hdescription.trimmed]

include htype hy hz in
theorem dashTyped?_gaps (hcolon : ':' ∉ type) :
    dashTyped? (name ++ (w ++ '-' :: (x ++ (type ++ (y ++ ':' :: (z ++ description)))))) =
      some ⟨name, type, description⟩ := by
  have hfree : ':' ∉ x ++ (type ++ y) := by simp [not_colon_gap hx, not_colon_gap hy, hcolon]
  have hcut : cut? ":" (x ++ (type ++ (y ++ ':' :: (z ++ description)))) =
      some (x ++ (type ++ y), z ++ description) := by
    simpa using cut?_single hfree (z ++ description)
  unfold dashTyped?
  simp only [plainName?_name hname hw, mark?_dash hw, hcut, description?_gap hz hdescription,
    Option.bind_eq_bind, Option.bind_some]
  simp [ofParts, trim_isName hname, trim_gaps hx htype hy, hdescription.trimmed, htype.ne_nil]

end Plain

/-! ## Lines -/

/-- Behind a bullet, the shapes with a colon after the name or the type come first. -/
theorem parseLine?_of_bullet (hname : isName name = true) (hw : Gap w) (rest : Text) {p : Parameter}
    (h : (typed? ":" (name ++ rest) <|> untyped? (name ++ rest)) = some p) :
    parseLine? ('-' :: (w ++ (name ++ rest))) = some p := by
  unfold parseLine?
  rw [bullet?_gap hname hw, Option.bind_eq_bind, Option.bind_some, Option.bind_some]
  simp only [Option.orElse_eq_orElse, Option.orElse_eq_or] at h ⊢
  rw [← Option.or_assoc, h, Option.some_or]

/-- A line that begins with a name has no bullet. -/
theorem parseLine?_of_name (hname : isName name = true) (rest : Text) :
    parseLine? (name ++ rest) = (typed? ":" (name ++ rest) <|> dashTyped? (name ++ rest) <|>
      dashUntyped? (name ++ rest) <|> typed? "-" (name ++ rest)) := by
  unfold parseLine?
  rw [bullet?_name hname]
  rfl

/-- A name before a dash has no type in parentheses. -/
theorem parseLine?_of_dash (hname : isName name = true) (hw : Gap w) (rest : Text) :
    parseLine? (name ++ (w ++ '-' :: rest)) =
      (dashTyped? (name ++ (w ++ '-' :: rest)) <|> dashUntyped? (name ++ (w ++ '-' :: rest))) := by
  have htyped : ∀ mark, typed? mark (name ++ (w ++ '-' :: rest)) = none := fun mark =>
    typed?_of_no_type hname hw (by decide) (by decide) (by decide) rest
  rw [parseLine?_of_name hname, htyped, htyped]
  simp

/-- A type in parentheses and a colon behind a name, with a bullet. -/
theorem parseLine?_bulletTyped (hname : isName name = true) (htype : OneLine type)
    (hdescription : OneLine description) (hw : Gap w) (hx : Gap x) (hy : Gap y) (hz : Gap z)
    (hclosed : ')' ∉ type) :
    parseLine? ('-' :: (w ++ (name ++ (x ++ '(' :: (type ++ ')' :: (y ++ ':' :: (z ++ description))))))) =
      some ⟨name, type, description⟩ := by
  have htyped : typed? ":" (name ++ (x ++ '(' :: (type ++ ')' :: (y ++ ':' :: (z ++ description))))) =
      some ⟨name, type, description⟩ :=
    typed?_gaps hname htype hdescription hx hy hz hclosed (by decide)
  exact parseLine?_of_bullet hname hw _ (by rw [htyped]; rfl)

end Shapes

/-- The documented shapes are read as they were written: behind the name, the next mark tells the shape,
and no shape that is tried earlier has this mark there. -/
theorem parseLine?_documented {name type description w x y z : Text} (hname : isName name = true)
    (htype : OneLine type) (hdescription : OneLine description) (hw : Gap w) (hx : Gap x) (hy : Gap y)
    (hz : Gap z) :
    (')' ∉ type →
      parseLine? ("-" ++ w ++ name ++ x ++ "(" ++ type ++ ")" ++ y ++ ":" ++ z ++ description) =
        some ⟨name, type, description⟩) ∧
    parseLine? ("-" ++ w ++ name ++ x ++ ":" ++ y ++ description) =
      some ⟨name, unknownType, description⟩ ∧
    (')' ∉ type →
      parseLine? (name ++ w ++ "(" ++ type ++ ")" ++ x ++ ":" ++ y ++ description) =
        some ⟨name, type, description⟩) ∧
    (':' ∉ type →
      parseLine? (name ++ w ++ "-" ++ x ++ type ++ y ++ ":" ++ z ++ description) =
        some ⟨name, type, description⟩) ∧
    (':' ∉ description →
      parseLine? (name ++ w ++ "-" ++ x ++ description) = some ⟨name, unknownType, description⟩) := by
  refine ⟨fun hclosed => ?bulletTyped, ?bulletUntyped, fun hclosed => ?typed, fun hcolon => ?dashTyped,
    fun hcolon => ?dashUntyped⟩
  case bulletTyped =>
    simpa using parseLine?_bulletTyped hname htype hdescription hw hx hy hz hclosed
  case bulletUntyped =>
    have huntyped := untyped?_gaps hname hdescription hx hy
    have hnone : typed? ":" (name ++ (x ++ ':' :: (y ++ description))) = none :=
      typed?_of_no_type hname hx (by decide) (by decide) (by decide) _
    have hread := parseLine?_of_bullet hname hw _ (by rw [hnone, huntyped]; rfl)
    simpa using hread
  case typed =>
    have htyped : typed? ":" (name ++ (w ++ '(' :: (type ++ ')' :: (x ++ ':' :: (y ++ description))))) =
        some ⟨name, type, description⟩ :=
      typed?_gaps hname htype hdescription hw hx hy hclosed (by decide)
    have hread := parseLine?_of_name hname (w ++ '(' :: (type ++ ')' :: (x ++ ':' :: (y ++ description))))
    rw [htyped] at hread
    simpa using hread
  case dashTyped =>
    have hread := parseLine?_of_dash hname hw (x ++ (type ++ (y ++ ':' :: (z ++ description))))
    rw [dashTyped?_gaps hname htype hdescription hw hx hy hz hcolon] at hread
    simpa using hread
  case dashUntyped =>
    have hread := parseLine?_of_dash hname hw (x ++ description)
    rw [dashTyped?_of_no_colon hname hw hx hcolon, dashUntyped?_gaps hname hdescription hw hx] at hread
    simpa using hread

/-- Dots for a name, a type with a dash in it, a description with all marks but a colon, and gaps of all
kinds. -/
theorem parseLine?_documented_spaced :
    let name : Text := "..."
    let type : Text := "Player - or|nil"
    let description : Text := "who (if any) - nobody"
    let gap : Text := "\t "
    let none : Text := []
    let space : Text := [' ']
    (isName name = true ∧ OneLine type ∧ OneLine description ∧ Gap none ∧ Gap gap ∧ Gap space ∧
      ')' ∉ type ∧ ':' ∉ type ∧ ':' ∉ description) ∧
    parseLine? ("-" ++ none ++ name ++ gap ++ "(" ++ type ++ ")" ++ none ++ ":" ++ space ++ description) =
      some ⟨name, type, description⟩ ∧
    parseLine? ("-" ++ none ++ name ++ gap ++ ":" ++ none ++ description) =
      some ⟨name, unknownType, description⟩ ∧
    parseLine? (name ++ none ++ "(" ++ type ++ ")" ++ gap ++ ":" ++ none ++ description) =
      some ⟨name, type, description⟩ ∧
    parseLine? (name ++ none ++ "-" ++ gap ++ type ++ none ++ ":" ++ space ++ description) =
      some ⟨name, type, description⟩ ∧
    parseLine? (name ++ none ++ "-" ++ gap ++ description) = some ⟨name, unknownType, description⟩ := by
  intro name type description gap none space
  have hname : isName name = true := by decide
  have htype : OneLine type := by decide
  have hdescription : OneLine description := by decide
  have hgap : Gap gap := ⟨List.all_eq_true.1 (by decide), by decide⟩
  have hclosed : ')' ∉ type := by decide
  have hcolon : ':' ∉ type := by decide
  have hplain : ':' ∉ description := by decide
  obtain ⟨h₁, h₂, h₃, h₄, h₅⟩ :=
    parseLine?_documented hname htype hdescription .nil hgap .nil .space
  exact ⟨⟨hname, htype, hdescription, .nil, hgap, .space, hclosed, hcolon, hplain⟩, h₁ hclosed, h₂,
    h₃ hclosed, h₄ hcolon, h₅ hplain⟩

/-! ## A dash behind a type -/

/-- A type of several words, of which the first holds no dash and the second begins with none. A plain
name that runs into such a type breaks off at a blank that no dash follows. -/
def BreaksOff (type : Text) : Prop :=
  ∃ word gap c rest, type = word ++ (gap ++ c :: rest) ∧ (∀ d ∈ word, isPlain d = true) ∧
    gap ≠ [] ∧ (∀ d ∈ gap, isBlank d = true) ∧ isBlank c = false ∧ c ≠ '-'

/-- A plain name takes a type as a whole, runs into a dash of it, or breaks off within it. -/
theorem run_cases {type : Text} (htype : OneLine type) :
    (∀ c ∈ type, isPlain c = true) ∨
      (∃ word gap rest, type = word ++ (gap ++ '-' :: rest) ∧ (∀ c ∈ word, isPlain c = true) ∧
        ∀ c ∈ gap, isBlank c = true) ∨ BreaksOff type := by
  have hword : ∀ c ∈ type.takeWhile isPlain, isPlain c = true :=
    fun c hc => List.all_eq_true.1 List.all_takeWhile c hc
  have hsplit : type = type.takeWhile isPlain ++ type.dropWhile isPlain :=
    List.takeWhile_append_dropWhile.symm
  cases hrest : type.dropWhile isPlain with
  | nil =>
    rw [hrest, List.append_nil] at hsplit
    exact .inl fun c hc => hword c (hsplit ▸ hc)
  | cons d r =>
    have hd : isPlain d = false := by
      have hhead := List.head?_dropWhile_not isPlain type
      rwa [hrest] at hhead
    have hgap : ∀ c ∈ (d :: r).takeWhile isBlank, isBlank c = true :=
      fun c hc => List.all_eq_true.1 List.all_takeWhile c hc
    have hback : d :: r = (d :: r).takeWhile isBlank ++ (d :: r).dropWhile isBlank :=
      List.takeWhile_append_dropWhile.symm
    rw [hrest, hback] at hsplit
    right
    cases hsolid : (d :: r).dropWhile isBlank with
    | nil =>
      have hend := trimEnd_of_suffix (List.dropWhile_suffix isPlain) (trim_eq_self_iff.1 htype.trimmed).2
      rw [hrest] at hend
      have hnil : trim (d :: r) = [] := by rw [trim, trimStart, hsolid, trimEnd]
      exact absurd (eq_nil_of_trim hend hnil) (List.cons_ne_nil d r)
    | cons c s =>
      have hc : isBlank c = false := by
        have hhead := List.head?_dropWhile_not isBlank (d :: r)
        rwa [hsolid] at hhead
      rw [hsolid] at hsplit
      by_cases hdash : c = '-'
      · exact .inl ⟨_, _, s, hdash ▸ hsplit, hword, hgap⟩
      · refine .inr ⟨_, _, c, s, hsplit, hword, fun hnil => hdash ?_, hgap, hc, hdash⟩
        -- without a gap the name would have stopped at a dash
        rw [hnil, hsolid, List.nil_append] at hback
        obtain ⟨rfl, -⟩ := List.cons.inj hback
        simpa [isPlain, hc] using hd

/-- Where a plain name does not break off within a type, it runs on to a dash. -/
theorem exists_run_to_dash {type x : Text} (htype : OneLine type) (hbreaks : ¬ BreaksOff type)
    (hx : Gap x) (tail : Text) :
    ∃ run gap rest, type ++ ')' :: (x ++ '-' :: tail) = run ++ (gap ++ '-' :: rest) ∧
      (∀ c ∈ run, isPlain c = true) ∧ Gap gap ∧ tail <:+ rest := by
  rcases run_cases htype with hplain | ⟨word, gap, rest, rfl, hword, hgap⟩ | hbreaks'
  · refine ⟨type ++ [')'], x, tail, by simp, ?_, hx, List.suffix_refl tail⟩
    rw [List.forall_mem_append, List.forall_mem_singleton]
    exact ⟨hplain, by decide⟩
  · have hsingle : '\n' ∉ gap := fun hmem => htype.single (by simp [hmem])
    refine ⟨word, gap, rest ++ ')' :: (x ++ '-' :: tail), by simp, hword, ⟨hgap, hsingle⟩, ?_⟩
    exact ⟨rest ++ ')' :: (x ++ ['-']), by simp⟩
  · exact absurd hbreaks' hbreaks

section Plain
variable {line name rest : Text} (hname : plainName? line = some (name, rest))
include hname

theorem dash_eq_none (hmark : mark? "-" rest = none) :
    (dashTyped? line <|> dashUntyped? line) = none := by
  unfold dashTyped? dashUntyped?
  simp only [hname, hmark, Option.bind_eq_bind, Option.bind_some, Option.bind_none]
  rfl

theorem name_of_dashTyped? {p : Parameter} (h : dashTyped? line = some p) : p.name = trim name := by
  unfold dashTyped? at h
  obtain ⟨⟨found, rest₁⟩, hfound, h⟩ := Option.bind_eq_some_iff.1 h
  obtain ⟨rest₂, -, h⟩ := Option.bind_eq_some_iff.1 h
  obtain ⟨⟨type, rest₃⟩, -, h⟩ := Option.bind_eq_some_iff.1 h
  obtain ⟨rfl, -⟩ := Prod.mk.inj (Option.some.inj (hname.symm.trans hfound))
  by_cases hempty : type.isEmpty = true
  · simp [hempty] at h
  · simp only [hempty, Bool.false_eq_true, if_false] at h
    obtain ⟨description, -, h⟩ := Option.bind_eq_some_iff.1 h
    obtain rfl := Option.some.inj h
    rfl

/-- A plain name before a dash is the name of a parameter, if something follows on the line. -/
theorem exists_dash {back : Text} (hmark : mark? "-" rest = some back) (hne : back ≠ [])
    (hsingle : '\n' ∉ back) :
    ∃ p, (dashTyped? line <|> dashUntyped? line) = some p ∧ p.name = trim name := by
  obtain ⟨description, hdescription⟩ := exists_description? hne hsingle
  have huntyped : dashUntyped? line = some (.ofParts name unknownType description) := by
    unfold dashUntyped?
    simp only [hname, hmark, hdescription, Option.bind_eq_bind, Option.bind_some]
    rfl
  cases htyped : dashTyped? line with
  | none => exact ⟨_, huntyped, rfl⟩
  | some p => exact ⟨p, rfl, name_of_dashTyped? hname htyped⟩

end Plain

section Hook
variable {name type description w x y : Text} (hname : isName name = true) (htype : OneLine type)
  (hclosed : ')' ∉ type) (hdescription : OneLine description) (hw : Gap w) (hx : Gap x) (hy : Gap y)

include hname htype hclosed hdescription hw hx hy in
/-- A type in parentheses and a dash behind a name: the shapes with a plain name come first. -/
theorem parseLine?_of_hook :
    parseLine? (name ++ (w ++ '(' :: (type ++ ')' :: (x ++ '-' :: (y ++ description))))) =
      ((dashTyped? (name ++ (w ++ '(' :: (type ++ ')' :: (x ++ '-' :: (y ++ description))))) <|>
        dashUntyped? (name ++ (w ++ '(' :: (type ++ ')' :: (x ++ '-' :: (y ++ description)))))) <|>
        some ⟨name, type, description⟩) := by
  have hcolon : typed? ":" (name ++ (w ++ '(' :: (type ++ ')' :: (x ++ '-' :: (y ++ description))))) =
      none := typed?_of_other_mark hname htype hw hx hclosed (by decide) (by decide) _
  have hdash : typed? "-" (name ++ (w ++ '(' :: (type ++ ')' :: (x ++ '-' :: (y ++ description))))) =
      some ⟨name, type, description⟩ :=
    typed?_gaps hname htype hdescription hw hx hy hclosed (by decide)
  rw [parseLine?_of_name hname, hcolon, hdash]
  simp only [Option.orElse_eq_orElse, Option.orElse_eq_or, Option.none_or, Option.or_assoc]

include hname in
theorem isPlain_opening {run : Text} (hrun : ∀ c ∈ run, isPlain c = true) :
    name ++ '(' :: run ≠ [] ∧ ∀ c ∈ name ++ '(' :: run, isPlain c = true := by
  rw [List.forall_mem_append, List.forall_mem_cons]
  exact ⟨by simp, isName_plain hname, by decide, hrun⟩

include hname hw in
/-- A plain name stops at a gap in front of the parenthesis. -/
theorem dash_eq_none_of_gap (hne : w ≠ []) (rest : Text) :
    (dashTyped? (name ++ (w ++ '(' :: rest)) <|> dashUntyped? (name ++ (w ++ '(' :: rest))) = none := by
  obtain ⟨d, w, rfl⟩ := List.exists_cons_of_ne_nil hne
  have hd : isPlain d = false := by simp [isPlain, hw.blank d List.mem_cons_self]
  have hmark : mark? "-" (d :: w ++ '(' :: rest) = none := mark?_gap_of_ne hw (by decide) (by decide) rest
  exact dash_eq_none (plainName?_run (isName_ne_nil hname) (isName_plain hname) hd _) hmark

include hname htype in
/-- A plain name that takes the parenthesis stops where the type breaks off. -/
theorem dash_eq_none_of_breaksOff (hbreaks : BreaksOff type) (rest : Text) :
    (dashTyped? (name ++ '(' :: (type ++ rest)) <|> dashUntyped? (name ++ '(' :: (type ++ rest))) =
      none := by
  obtain ⟨word, gap, c, back, rfl, hword, hne, hgap, hc, hdash⟩ := hbreaks
  obtain ⟨d, gap, rfl⟩ := List.exists_cons_of_ne_nil hne
  have hd : isPlain d = false := by simp [isPlain, hgap d List.mem_cons_self]
  have hread : plainName? (name ++ '(' :: (word ++ (d :: gap ++ c :: back) ++ rest)) =
      some (name ++ '(' :: word, (d :: gap) ++ c :: (back ++ rest)) := by
    simpa using plainName?_run (isPlain_opening hname hword).1 (isPlain_opening hname hword).2 hd
      (gap ++ c :: (back ++ rest))
  have hsingle : '\n' ∉ d :: gap := fun hmem =>
    htype.single (List.mem_append_right word (List.mem_append_left _ hmem))
  exact dash_eq_none hread (mark?_gap_of_ne ⟨hgap, hsingle⟩ hc (Ne.symm hdash) _)

include hname htype hdescription hx hy in
/-- A plain name that takes the parenthesis and does not break off is read as a name. -/
theorem exists_dash_of_hook (hbreaks : ¬ BreaksOff type) :
    ∃ p, (dashTyped? (name ++ '(' :: (type ++ ')' :: (x ++ '-' :: (y ++ description)))) <|>
        dashUntyped? (name ++ '(' :: (type ++ ')' :: (x ++ '-' :: (y ++ description))))) = some p ∧
      p.name ≠ name := by
  obtain ⟨run, gap, rest, hline, hrun, hgap, htail⟩ :=
    exists_run_to_dash htype hbreaks hx (y ++ description)
  obtain ⟨hne, hplain⟩ := isPlain_opening hname hrun
  have hread : plainName? (name ++ '(' :: (type ++ ')' :: (x ++ '-' :: (y ++ description)))) =
      some (name ++ '(' :: run, gap ++ '-' :: rest) := by
    rw [hline]
    simpa using plainName?_dash hne hplain hgap rest
  have hrest : rest ≠ [] := by
    rintro rfl
    exact hdescription.ne_nil (List.append_eq_nil_iff.1 (List.suffix_nil.1 htail)).2
  have hsingle : '\n' ∉ rest := by
    have hwhole : '\n' ∉ type ++ ')' :: (x ++ '-' :: (y ++ description)) := by
      simp [htype.single, hx.single, hy.single, hdescription.single]
    rw [hline] at hwhole
    exact fun hmem => hwhole (by simp [hmem])
  obtain ⟨p, hp, hpname⟩ := exists_dash hread (mark?_dash hgap rest) hrest hsingle
  refine ⟨p, hp, fun heq => ?_⟩
  rw [hpname, trim_of_plain hplain] at heq
  simpa using congrArg List.length heq

end Hook

/-- A type in parentheses and a dash behind a name are read as they were written just if a gap stands
before the parenthesis or the type breaks off. Otherwise the parenthesis goes into a plain name. -/
theorem parseLine?_hook_iff {name type description w x y : Text} (hname : isName name = true)
    (htype : OneLine type) (hclosed : ')' ∉ type) (hdescription : OneLine description) (hw : Gap w)
    (hx : Gap x) (hy : Gap y) :
    parseLine? (name ++ w ++ "(" ++ type ++ ")" ++ x ++ "-" ++ y ++ description) =
        some ⟨name, type, description⟩ ↔ w ≠ [] ∨ BreaksOff type := by
  have hline : name ++ w ++ "(" ++ type ++ ")" ++ x ++ "-" ++ y ++ description =
      name ++ (w ++ '(' :: (type ++ ')' :: (x ++ '-' :: (y ++ description)))) := by simp
  rw [hline, parseLine?_of_hook hname htype hclosed hdescription hw hx hy]
  constructor
  · intro h
    refine Decidable.or_iff_not_imp_left.2 fun hnil => Classical.byContradiction fun hbreaks => ?_
    obtain rfl := Decidable.not_not.1 hnil
    obtain ⟨p, hp, hother⟩ := exists_dash_of_hook hname htype hdescription hx hy hbreaks
    rw [List.nil_append, hp] at h
    exact hother (congrArg Parameter.name (Option.some.inj h))
  · intro h
    have hnone : (dashTyped? (name ++ (w ++ '(' :: (type ++ ')' :: (x ++ '-' :: (y ++ description))))) <|>
        dashUntyped? (name ++ (w ++ '(' :: (type ++ ')' :: (x ++ '-' :: (y ++ description)))))) = none := by
      by_cases hnil : w = []
      · subst hnil
        exact dash_eq_none_of_breaksOff hname htype (h.resolve_left fun hne => hne rfl) _
      · exact dash_eq_none_of_gap hname hw hnil _
    rw [hnone]
    rfl

/-- A type of three words with a dash before the last, behind a name without a gap. -/
theorem parseLine?_hook_iff_words :
    let name : Text := "client"
    let type : Text := "Player or -nil"
    let description : Text := "who: me"
    let none : Text := []
    let space : Text := [' ']
    (isName name = true ∧ OneLine type ∧ ')' ∉ type ∧ OneLine description ∧ Gap none ∧ Gap space ∧
      BreaksOff type) ∧
      parseLine? (name ++ none ++ "(" ++ type ++ ")" ++ none ++ "-" ++ space ++ description) =
        some ⟨name, type, description⟩ := by
  intro name type description none space
  have hname : isName name = true := by decide
  have htype : OneLine type := by decide
  have hclosed : ')' ∉ type := by decide
  have hdescription : OneLine description := by decide
  have hbreaks : BreaksOff type :=
    ⟨"Player", " ", 'o', "r -nil", rfl, List.all_eq_true.1 (by decide), by decide,
      List.all_eq_true.1 (by decide), by decide, by decide⟩
  exact ⟨⟨hname, htype, hclosed, hdescription, .nil, .space, hbreaks⟩,
    (parseLine?_hook_iff hname htype hclosed hdescription .nil .nil .space).2 (.inr hbreaks)⟩

/-- Without a gap before its parenthesis, a type of one word becomes part of the name. -/
theorem parenthesis_joins_name :
    (isName "client" = true ∧ OneLine "Player" ∧ ')' ∉ ("Player" : Text) ∧ OneLine "The caller") ∧
      parseLine? "client(Player) - The caller" =
        some ⟨"client(Player)", "unknown", "The caller"⟩ ∧
      parseLine? "client(Player) - The caller" ≠ some ⟨"client", "Player", "The caller"⟩ := by
  have hread : parseLine? "client(Player) - The caller" =
      some ⟨"client(Player)", "unknown", "The caller"⟩ := by decide +kernel
  refine ⟨by decide, hread, ?_⟩
  rw [hread]
  decide

end LuaReference.Parameter
