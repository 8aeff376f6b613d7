import LuaReference.Proofs.Text.Blank
import LuaReference.Types.Returns

/-!
# What a split of returns keeps

The text of a `Returns:` field is cut into a type and a description. Blanks and at most one dash get
lost on the way.

* `lastDash?_eq_append`, `dashed?_eq_append` : a type and a description part at a dash of their line;
* `solidLines` : the lines that a text is read by;
* `Keeps` : what a split has of its text, whatever the text is;
* `ofText_dashed` : a type, a dash between spaces and a description are told apart;
* `ofText_keeps` : both for every text.
-/

namespace LuaReference.Types

open Text

/-! ## Lines with a dash -/

/-- Inside a run, a type ends at a dash of the run, and there is something on both sides. -/
theorem lastDash?_eq_append {rest run front back : Text} (h : lastDash? rest run = some (front, back)) :
    front ≠ [] ∧ back ≠ [] ∧ ∃ more, run = front ++ '-' :: more ∧ back = more ++ rest := by
  induction run generalizing front with
  | nil => cases h
  | cons c run ih =>
    unfold lastDash? at h
    split at h
    · rename_i front' back' hfound
      obtain ⟨rfl, rfl⟩ := Prod.mk.inj (Option.some.inj h)
      obtain ⟨-, hback, more, hrun, hmore⟩ := ih hfound
      exact ⟨by simp, hback, more, by rw [hrun, List.cons_append], hmore⟩
    · split at h
      · split at h
        · cases h
        · rename_i more _ hmore
          obtain ⟨rfl, rfl⟩ := Prod.mk.inj (Option.some.inj h)
          exact ⟨by simp, by simpa using hmore, more, rfl, rfl⟩
      · cases h

/-- A type without blanks, blanks, a dash and a description make up the line. -/
theorem dashed?_eq_append {line type description : Text} (h : dashed? line = some (type, description)) :
    type ≠ [] ∧ (∀ c ∈ type, isBlank c = false) ∧ description ≠ [] ∧
      ∃ gap, line = type ++ (gap ++ '-' :: description) ∧ ∀ c ∈ gap, isBlank c = true := by
  have hrun : ∀ c ∈ line.takeWhile (fun c => !isBlank c), isBlank c = false := fun c hc => by
    simpa using List.all_eq_true.1 List.all_takeWhile c hc
  have hline : line = line.takeWhile (fun c => !isBlank c) ++ line.dropWhile (fun c => !isBlank c) :=
    List.takeWhile_append_dropWhile.symm
  unfold dashed? at h
  dsimp only at h
  generalize line.takeWhile (fun c => !isBlank c) = run at h hrun hline
  generalize line.dropWhile (fun c => !isBlank c) = rest at h hline
  split at h
  · rename_i c back hdash
    split at h
    · cases h
    · rename_i hne
      obtain ⟨rfl, rfl⟩ := Prod.mk.inj (Option.some.inj h)
      have hrest : rest = rest.takeWhile isBlank ++ '-' :: c :: back := by
        have htrim : rest.dropWhile isBlank = '-' :: c :: back := after?_eq_some_iff.1 hdash
        rw [← htrim, List.takeWhile_append_dropWhile]
      exact ⟨by simpa using hne, hrun, by simp, rest.takeWhile isBlank, by rw [← hrest, hline],
        List.all_eq_true.1 List.all_takeWhile⟩
  · obtain ⟨hne, hback, more, rfl, rfl⟩ := lastDash?_eq_append h
    refine ⟨hne, fun c hc => hrun c (List.mem_append_left _ hc), hback, [], ?_, by simp⟩
    rw [hline, List.append_assoc]
    rfl

theorem dashed?_subset {line type description : Text} (h : dashed? line = some (type, description)) :
    type ⊆ line ∧ description ⊆ line := by
  obtain ⟨-, -, -, gap, rfl, -⟩ := dashed?_eq_append h
  exact ⟨List.subset_append_left _ _, fun c hc => by simp [hc]⟩

/-- The dash after the first run of characters that are not blank parts the line, whatever dashes
stand elsewhere. -/
theorem dashed?_spaced {type : Text} (hne : type ≠ []) (hsolid : ∀ c ∈ type, isBlank c = false)
    (description : Text) :
    dashed? (type ++ (" - " ++ description)) = some (type, ' ' :: description) := by
  have hrun : ∀ c ∈ type, (!isBlank c) = true := fun c hc => by simp [hsolid c hc]
  obtain ⟨htake, hdrop⟩ := span_run hrun (d := ' ') (by decide) ('-' :: ' ' :: description)
  have hdash : after? "-" (trimStart (' ' :: '-' :: ' ' :: description)) = some (' ' :: description) := rfl
  have hline : type ++ (" - " ++ description) = type ++ ' ' :: '-' :: ' ' :: description := rfl
  unfold dashed?
  dsimp only
  rw [hline, htake, hdrop, hdash]
  simp [hne]

/-! ## Types on their own -/

theorem solid_of_isTypeToken {t : Text} (h : isTypeToken t = true) :
    t ≠ [] ∧ ∀ c ∈ t, isBlank c = false := by
  simp only [isTypeToken, Bool.and_eq_true, Bool.not_eq_true', List.isEmpty_eq_false_iff,
    List.all_eq_true, Bool.or_eq_true, beq_iff_eq] at h
  refine ⟨h.1, fun c hc => ?_⟩
  rcases h.2 c hc with (hword | rfl) | rfl
  · exact isBlank_of_isWord hword
  · decide
  · decide

/-! ## The lines of a text -/

/-- The lines of a text that are not blank, trimmed. -/
def solidLines (t : Text) : List Text := ((lines t).map trim).filter fun line => !line.isEmpty

theorem trimmed_of_mem_solidLines {t line : Text} (h : line ∈ solidLines t) :
    line ≠ [] ∧ trim line = line := by
  obtain ⟨hline, hne⟩ := List.mem_filter.1 h
  obtain ⟨whole, -, rfl⟩ := List.mem_map.1 hline
  exact ⟨by simpa using hne, trim_trim whole⟩

theorem withoutBlanks_solidLines (t : Text) : (solidLines t).flatMap withoutBlanks = withoutBlanks t := by
  have hfilter : ∀ ls : List Text, (ls.filter fun line => !line.isEmpty).flatMap withoutBlanks =
      ls.flatMap withoutBlanks := by
    intro ls
    induction ls with
    | nil => rfl
    | cons line ls ih =>
      cases line with
      | nil => exact ih
      | cons c line => exact congrArg (_ ++ ·) ih
  have htrim : (withoutBlanks ∘ trim) = withoutBlanks := funext withoutBlanks_trim
  unfold solidLines
  rw [hfilter, List.flatMap_map]
  exact (congrArg (fun f => (lines t).flatMap f) htrim).trans (withoutBlanks_lines t)

theorem solidLines_eq_nil_iff {t : Text} : solidLines t = [] ↔ isBlankText t = true := by
  rw [← withoutBlanks_eq_nil_iff, ← withoutBlanks_solidLines, List.flatMap_eq_nil_iff]
  constructor
  · intro h
    simp [h]
  · intro h
    refine List.eq_nil_iff_forall_not_mem.2 fun line hline => ?_
    obtain ⟨hne, htrim⟩ := trimmed_of_mem_solidLines hline
    exact withoutBlanks_ne_nil hne htrim (h line hline)

/-! ## The split -/

/-- What a split of a text has of it. -/
structure Keeps (t : Text) (r : Returns) : Prop where
  /-- All characters that are not blank, but for one dash where it parts type and description. -/
  characters : withoutBlanks t = withoutBlanks (r.type.getD []) ++ withoutBlanks r.description ∨
    withoutBlanks t = withoutBlanks (r.type.getD []) ++ '-' :: withoutBlanks r.description
  type : ∀ type, r.type = some type → type ≠ [] ∧ ∀ c ∈ type, isBlank c = false
  description : trim r.description = r.description
  empty : r = {} ↔ isBlankText t = true

theorem keeps_typed {t type description : Text} (htype : type ≠ [] ∧ ∀ c ∈ type, isBlank c = false)
    (hdescription : trim description = description)
    (hall : withoutBlanks t = type ++ withoutBlanks description ∨
      withoutBlanks t = type ++ '-' :: withoutBlanks description) :
    Keeps t ⟨some type, description⟩ where
  characters := by rwa [Option.getD_some, withoutBlanks_of_solid htype.2]
  type := by simpa using htype
  description := hdescription
  empty := by
    have hsolid : withoutBlanks t ≠ [] := by
      rcases hall with hall | hall <;> simp [hall, htype.1]
    rw [← withoutBlanks_eq_nil_iff]
    simp [hsolid]

theorem keeps_untyped {t description : Text} (hne : description ≠ [])
    (hdescription : trim description = description)
    (hall : withoutBlanks t = withoutBlanks description) : Keeps t ⟨none, description⟩ where
  characters := Or.inl hall
  type := by simp
  description := hdescription
  empty := by
    have hsolid : withoutBlanks t ≠ [] := hall ▸ withoutBlanks_ne_nil hne hdescription
    rw [← withoutBlanks_eq_nil_iff]
    simp [hsolid, hne]

theorem keeps_of_line {t line : Text} (hone : solidLines t = [line]) : Keeps t (Returns.ofText t) := by
  have hmem : line ∈ solidLines t := by simp [hone]
  have hline := trimmed_of_mem_solidLines hmem
  have hall : withoutBlanks line = withoutBlanks t := by
    rw [← withoutBlanks_solidLines t, hone, List.flatMap_singleton]
  unfold Returns.ofText
  rw [← solidLines, hone]
  dsimp only
  split
  · rename_i type description hdash
    obtain ⟨hne, hsolid, -, gap, hparts, hgap⟩ := dashed?_eq_append hdash
    rw [trim_of_solid hsolid]
    refine keeps_typed ⟨hne, hsolid⟩ (trim_trim description) (Or.inr ?_)
    rw [← hall, hparts, withoutBlanks_append, withoutBlanks_append, withoutBlanks_of_solid hsolid,
      withoutBlanks_of_blank hgap, withoutBlanks_trim]
    rfl
  · split
    · rename_i htoken
      have hsolid := solid_of_isTypeToken htoken
      refine keeps_typed hsolid rfl (Or.inl ?_)
      rw [← hall, withoutBlanks_of_solid hsolid.2, withoutBlanks_nil, List.append_nil]
    · exact keeps_untyped hline.1 hline.2 hall.symm

theorem keeps_of_lines {t first second : Text} {more : List Text}
    (hmany : solidLines t = first :: second :: more) : Keeps t (Returns.ofText t) := by
  have hlines : ∀ line ∈ first :: second :: more, line ≠ [] ∧ trim line = line := fun line hline =>
    trimmed_of_mem_solidLines (hmany ▸ hline)
  have hall : (first :: second :: more).flatMap withoutBlanks = withoutBlanks t := by
    rw [← hmany, withoutBlanks_solidLines]
  have hspace : ∀ c ∈ (" " : Text), isBlank c = true := by simp [isBlank]
  unfold Returns.ofText
  rw [← solidLines, hmany]
  dsimp only
  split
  · rename_i htoken
    have hsolid := solid_of_isTypeToken htoken
    rw [List.forall_mem_cons] at hlines
    refine keeps_typed hsolid (trim_join " " hlines.2 (List.cons_ne_nil second more)).2 (Or.inl ?_)
    rw [← hall, withoutBlanks_join hspace, List.flatMap_cons, withoutBlanks_of_solid hsolid.2]
  · obtain ⟨hne, htrim⟩ := trim_join " " hlines (List.cons_ne_nil first _)
    refine keeps_untyped hne htrim ?_
    rw [← hall, withoutBlanks_join hspace]

theorem keeps_ofText (t : Text) : Keeps t (Returns.ofText t) := by
  cases hlines : solidLines t with
  | nil =>
    have hblank := solidLines_eq_nil_iff.1 hlines
    unfold Returns.ofText
    rw [← solidLines, hlines]
    exact ⟨Or.inl (withoutBlanks_eq_nil_iff.2 hblank), by simp, rfl, by simp [hblank]⟩
  | cons first rest =>
    cases rest with
    | nil => exact keeps_of_line hlines
    | cons second more => exact keeps_of_lines hlines

/-- A type without blanks and a description on one line are told apart at the dash between them,
whatever dashes they hold. -/
theorem ofText_dashed {type description : Text} (hne : type ≠ []) (hsolid : ∀ c ∈ type, isBlank c = false)
    (hdescription : isBlankText description = false) (hsingle : '\n' ∉ description) :
    Returns.ofText (type ++ (" - " ++ description)) = ⟨some type, trim description⟩ := by
  have hnewline : '\n' ∉ type ++ (" - " ++ description) := by
    have htype : '\n' ∉ type := fun hmem => absurd (hsolid _ hmem) (by decide)
    simp [htype, hsingle]
  have hkept : trimEnd description ≠ [] := by
    intro hnil
    obtain ⟨tail, ht, htail⟩ := exists_trimEnd_append description
    rw [hnil, List.nil_append] at ht
    rw [ht, isBlankText, List.all_eq_true.2 htail] at hdescription
    cases hdescription
  have htrim : trim (type ++ (" - " ++ description)) = type ++ (" - " ++ trimEnd description) := by
    have hstart := trimStart_append (t := " - " ++ description) hne
      (trim_eq_self_iff.1 (trim_of_solid hsolid)).1
    rw [trim, hstart, ← List.append_assoc, trimEnd_append_of_ne_nil hkept, List.append_assoc]
  have hlines : solidLines (type ++ (" - " ++ description)) = [type ++ (" - " ++ trimEnd description)] := by
    rw [solidLines, lines_of_single hnewline (by simp), List.map_singleton, htrim]
    simp
  have hback : trim (' ' :: trimEnd description) = trim description := by
    rw [trim_blank (by decide), trim_trimEnd]
  unfold Returns.ofText
  rw [← solidLines, hlines]
  dsimp only
  rw [dashed?_spaced hne hsolid]
  dsimp only
  rw [trim_of_solid hsolid, hback]

/-- Splitting keeps all of a text but blanks and the dash that parts type and description, and it finds
both where they are written with a dash between spaces. -/
theorem ofText_keeps (t : Text) :
    Keeps t (Returns.ofText t) ∧
      ∀ type description : Text, type ≠ [] → (∀ c ∈ type, isBlank c = false) →
        isBlankText description = false → '\n' ∉ description →
        Returns.ofText (type ++ (" - " ++ description)) = ⟨some type, trim description⟩ :=
  ⟨keeps_ofText t, fun _ _ hne hsolid hdescription hsingle =>
    ofText_dashed hne hsolid hdescription hsingle⟩

/-- Dashes in the type and in the description. -/
theorem ofText_keeps_dashes :
    Keeps "a-b|nil - one - two-three" (Returns.ofText "a-b|nil - one - two-three") ∧
      Returns.ofText "a-b|nil - one - two-three" = ⟨some "a-b|nil", "one - two-three"⟩ := by
  have hsolid : ∀ c ∈ ("a-b|nil" : Text), isBlank c = false := by simp [isBlank]
  obtain ⟨hkeeps, hdashed⟩ := ofText_keeps "a-b|nil - one - two-three"
  exact ⟨hkeeps, hdashed "a-b|nil" "one - two-three" (by decide) hsolid (by decide) (by decide)⟩

end LuaReference.Types
