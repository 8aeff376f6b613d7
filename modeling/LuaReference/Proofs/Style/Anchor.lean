import LuaReference.Proofs.Text.Case
import LuaReference.Style.Anchor
import Mathlib.Data.List.Chain

/-!
# Anchors in normal form

* `IsAnchor` : word characters and hyphens, of which no two are neighbours;
* `isAnchor_collapse`, `collapse_of_isAnchor` : collapsing writes such texts and leaves them as they are;
* `Interspersed` : a text with further characters put in anywhere;
* `Vanishes` : a character that is dropped, in lower case too;
* `slug_normal` : anchors are in normal form, and vanishing characters do not change them.
-/

namespace LuaReference.Style

open Text

/-! ## Normal form -/

/-- Not both are hyphens. -/
def NotHyphens (a b : Char) : Prop := ¬ (a = '-' ∧ b = '-')

/-- Word characters and hyphens, and no two hyphens next to each other. -/
structure IsAnchor (t : Text) : Prop where
  kept : ∀ c ∈ t, isWord c = true ∨ c = '-'
  single : t.IsChain NotHyphens

theorem isDivider_hyphen : isDivider '-' = true := rfl

theorem mem_collapse {inRun : Bool} {t : Text} {c : Char} (h : c ∈ collapse inRun t) :
    c = '-' ∨ c ∈ t ∧ isDivider c = false := by
  induction t generalizing inRun with
  | nil => exact absurd h List.not_mem_nil
  | cons d r ih =>
    have hrest : ∀ b, c ∈ collapse b r → c = '-' ∨ c ∈ d :: r ∧ isDivider c = false := fun b hc =>
      (ih hc).imp_right fun hkept => ⟨List.mem_cons_of_mem d hkept.1, hkept.2⟩
    rw [collapse] at h
    split at h
    · rcases List.mem_append.1 h with hfirst | hc
      · split at hfirst
        · exact absurd hfirst List.not_mem_nil
        · exact Or.inl (List.mem_singleton.1 hfirst)
      · exact hrest true hc
    · rename_i hd
      rcases List.mem_cons.1 h with rfl | hc
      · exact Or.inr ⟨List.mem_cons_self, Bool.eq_false_iff.2 hd⟩
      · exact hrest false hc

/-- Within a run of dividers, which has its hyphen, what follows starts with none. -/
theorem head?_collapse_true (t : Text) : (collapse true t).head? ≠ some '-' := by
  induction t with
  | nil => simp [collapse]
  | cons c r ih =>
    rw [collapse]
    split
    · exact ih
    · rename_i hc
      intro hhead
      obtain rfl := Option.some.inj hhead
      exact hc isDivider_hyphen

theorem isChain_collapse (inRun : Bool) (t : Text) : (collapse inRun t).IsChain NotHyphens := by
  induction t generalizing inRun with
  | nil => exact .nil
  | cons c r ih =>
    rw [collapse]
    split
    · cases inRun with
      | true => exact ih true
      | false =>
        refine List.isChain_cons.2 ⟨fun d hd hboth => ?_, ih true⟩
        exact head?_collapse_true r (hboth.2 ▸ hd)
    · rename_i hc
      refine List.isChain_cons.2 ⟨fun d _ hboth => ?_, ih false⟩
      exact hc (hboth.1 ▸ isDivider_hyphen)

theorem isAnchor_collapse {t : Text} (h : ∀ c ∈ t, isKept c = true) : IsAnchor (collapse false t) := by
  refine ⟨fun c hc => ?_, isChain_collapse false t⟩
  rcases mem_collapse hc with hhyphen | ⟨hmem, hdivider⟩
  · exact Or.inr hhyphen
  · have hkept := h c hmem
    rw [isKept, hdivider, Bool.or_false] at hkept
    exact Or.inl hkept

/-- A text whose only dividers are hyphens, none beside another, has nothing to collapse. -/
theorem collapse_of_isChain {inRun : Bool} {t : Text} (hdivider : ∀ c ∈ t, isDivider c = true → c = '-')
    (hchain : t.IsChain NotHyphens) (hhead : inRun = true → t.head? ≠ some '-') :
    collapse inRun t = t := by
  induction t generalizing inRun with
  | nil => rfl
  | cons c r ih =>
    rw [List.forall_mem_cons] at hdivider
    obtain ⟨hnext, hrest⟩ := List.isChain_cons.1 hchain
    rw [collapse]
    by_cases hc : isDivider c = true
    · obtain rfl := hdivider.1 hc
      have hout : inRun = false := Bool.eq_false_iff.2 fun hin => hhead hin rfl
      rw [if_pos hc, hout, ih hdivider.2 hrest fun _ hmark => hnext '-' hmark ⟨rfl, rfl⟩]
      rfl
    · rw [if_neg hc, ih hdivider.2 hrest fun hfalse => absurd hfalse (by decide)]

theorem slug_isAnchor (name : Text) : IsAnchor (slug name) :=
  isAnchor_collapse fun _ hc => (List.mem_filter.1 hc).2

/-- Lower case has nothing to do in an anchor: its characters come from a text in lower case. -/
theorem isLower_of_mem_slug {name : Text} {c : Char} (h : c ∈ slug name) : IsLower c := by
  rcases mem_collapse h with rfl | ⟨hmem, -⟩
  · exact lowerChar_of_ascii (by decide)
  · exact isLower_of_mem_lower (List.mem_filter.1 hmem).1

theorem slug_slug (name : Text) : slug (slug name) = slug name := by
  have hanchor := slug_isAnchor name
  have hkept : (slug name).filter isKept = slug name := by
    refine List.filter_eq_self.2 fun c hc => ?_
    rcases hanchor.kept c hc with hword | rfl
    · rw [isKept, hword, Bool.true_or]
    · rfl
  have hdivider : ∀ c ∈ slug name, isDivider c = true → c = '-' := fun c hc hdiv =>
    (mem_collapse hc).resolve_right fun hmem => by simp [hmem.2] at hdiv
  rw [slug, lower_of_isLower fun c hc => isLower_of_mem_slug hc, hkept]
  exact collapse_of_isChain hdivider hanchor.single fun hfalse => absurd hfalse (by decide)

/-! ## Characters that leave no trace -/

/-- A character of the kind that anchors drop. -/
def IsDropped (c : Char) : Prop := isWord c = false ∧ isBlank c = false ∧ c ≠ '-'

instance (c : Char) : Decidable (IsDropped c) := inferInstanceAs (Decidable (_ ∧ _))

/-- A character that is dropped and whose lower case is. -/
def Vanishes (c : Char) : Prop := IsDropped c ∧ ∀ d ∈ lowerChar c, IsDropped d

theorem vanishes_of_isLower {c : Char} (h : IsDropped c) (hlower : IsLower c) : Vanishes c := by
  refine ⟨h, fun d hd => ?_⟩
  rw [hlower] at hd
  rwa [List.mem_singleton.1 hd]

/-- The second text is the first with characters that satisfy `p` put in anywhere. -/
inductive Interspersed (p : Char → Prop) : Text → Text → Prop where
  | nil : Interspersed p [] []
  | keep (c : Char) {s t : Text} : Interspersed p s t → Interspersed p (c :: s) (c :: t)
  | put {c : Char} {s t : Text} : p c → Interspersed p s t → Interspersed p s (c :: t)

theorem isKept_eq_false_iff {c : Char} : isKept c = false ↔ IsDropped c := by
  simp [isKept, isDivider, IsDropped, and_comm]

theorem not_sigma_of_interspersed {s t : Text} (h : Interspersed Vanishes s t) (hs : 'Σ' ∉ s) :
    'Σ' ∉ t := by
  induction h with
  | nil => exact hs
  | keep c _ ih =>
    rw [List.mem_cons, not_or] at hs ⊢
    exact ⟨hs.1, ih hs.2⟩
  | put hc _ ih =>
    rw [List.mem_cons, not_or]
    refine ⟨?_, ih hs⟩
    rintro rfl
    have hword : isWord 'Σ' = true := by decide +kernel
    exact absurd hc.1.1 (by rw [hword]; decide)

theorem filter_isKept_of_interspersed {s t : Text} (h : Interspersed Vanishes s t) :
    (t.flatMap lowerChar).filter isKept = (s.flatMap lowerChar).filter isKept := by
  induction h with
  | nil => rfl
  | keep c _ ih => rw [List.flatMap_cons, List.flatMap_cons, List.filter_append, List.filter_append, ih]
  | @put c s t hc _ ih =>
    have hnone : (lowerChar c).filter isKept = [] := by
      refine List.filter_eq_nil_iff.2 fun d hd => ?_
      rw [isKept_eq_false_iff.2 (hc.2 d hd)]
      decide
    rw [List.flatMap_cons, List.filter_append, hnone, List.nil_append, ih]

/-- An anchor is in normal form and is its own anchor. A name without capital sigma keeps its anchor when
characters that vanish are put in anywhere. -/
theorem slug_normal (name : Text) :
    IsAnchor (slug name) ∧ slug (slug name) = slug name ∧
      ∀ t, 'Σ' ∉ name → Interspersed Vanishes name t → slug t = slug name := by
  refine ⟨slug_isAnchor name, slug_slug name, fun t hsigma h => ?_⟩
  rw [slug, slug, lower_of_no_sigma hsigma, lower_of_no_sigma (not_sigma_of_interspersed h hsigma),
    filter_isKept_of_interspersed h]

/-- A name in which one letter has two characters in lower case, without punctuation and with it. -/
theorem slug_normal_punctuated :
    let name : Text := "İtem - Use"
    let t : Text := "İ(t)em. - …Use"
    'Σ' ∉ name ∧ Interspersed Vanishes name t ∧ IsAnchor (slug name) ∧ slug (slug name) = slug name ∧
      slug t = slug name ∧ slug t = "i\u0307tem-use" := by
  intro name t
  have hopen : Vanishes '(' := vanishes_of_isLower (by decide +kernel) (by decide +kernel)
  have hclose : Vanishes ')' := vanishes_of_isLower (by decide +kernel) (by decide +kernel)
  have hdot : Vanishes '.' := vanishes_of_isLower (by decide +kernel) (by decide +kernel)
  have hdots : Vanishes '…' := vanishes_of_isLower (by decide +kernel) (by decide +kernel)
  have hsigma : 'Σ' ∉ name := by decide
  have hput : Interspersed Vanishes name t :=
    .keep 'İ' <| .put hopen <| .keep 't' <| .put hclose <| .keep 'e' <| .keep 'm' <| .put hdot <|
      .keep ' ' <| .keep '-' <| .keep ' ' <| .put hdots <| .keep 'U' <| .keep 's' <| .keep 'e' .nil
  obtain ⟨hanchor, hagain, hsame⟩ := slug_normal name
  exact ⟨hsigma, hput, hanchor, hagain, hsame t hsigma hput, by decide +kernel⟩

end LuaReference.Style
