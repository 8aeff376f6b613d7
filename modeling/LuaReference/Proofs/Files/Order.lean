import LuaReference.Files.Path
import LuaReference.Proofs.Text.ByteOrder
import Mathlib.Data.List.Lex

/-!
# The order of paths

* `Component.Precedes`, `Path.Precedes` : paths in order of their components, and names of their bytes;
* `Component.before_iff`, `Path.before_iff` : the computed order is this one;
* `Path.Precedes.asymm`, `Path.Precedes.trans`, `Path.not_precedes_trans`, `Path.Precedes.components_ne`,
  `Path.components_eq_of_not_precedes` : it is strict and total up to the spelling of a path.
-/

namespace LuaReference

open Text

namespace Component

/-- The order of components: root, dot, dots, names, and of two names the order of their bytes. -/
def Precedes (a b : Component) : Prop :=
  a.rank < b.rank ∨ a.rank = b.rank ∧ encode a.label < encode b.label

theorem precedes_iff {a b : Component} :
    a.Precedes b ↔ a.rank < b.rank ∨ a.rank = b.rank ∧ a.label < b.label := by
  rw [Precedes, encode_lt_iff]

theorem before_iff {a b : Component} : a.before b = true ↔ a.Precedes b := by
  rw [precedes_iff]
  simp [before]

/-- A component is determined by its kind and its name. -/
theorem eq_of_rank_of_label {a b : Component} (hrank : a.rank = b.rank) (hlabel : a.label = b.label) :
    a = b := by
  cases a <;> cases b <;> simp_all [rank, label]

instance : Std.Asymm Precedes where
  asymm a b h h' := by
    rw [precedes_iff] at h h'
    rcases h with hlt | ⟨heq, hlabel⟩ <;> rcases h' with hlt' | ⟨heq', hlabel'⟩
    · omega
    · omega
    · omega
    · exact List.lt_asymm hlabel hlabel'

instance : Std.Trichotomous Precedes where
  trichotomous a b h h' := by
    rw [precedes_iff, not_or, not_and] at h h'
    have hrank : a.rank = b.rank := by omega
    have hle := List.not_lt.1 (h.2 hrank)
    have hge := List.not_lt.1 (h'.2 hrank.symm)
    exact eq_of_rank_of_label hrank (List.le_antisymm hge hle)

instance : IsOrderConnected Component Precedes where
  conn a b c h := by
    simp only [precedes_iff] at h ⊢
    rcases h with hlt | ⟨heq, hlabel⟩
    · by_cases hb : a.rank < b.rank
      · exact Or.inl (Or.inl hb)
      · exact Or.inr (Or.inl (by omega))
    · rcases Nat.lt_trichotomy a.rank b.rank with hb | hb | hb
      · exact Or.inl (Or.inl hb)
      · by_cases hfirst : a.label < b.label
        · exact Or.inl (Or.inr ⟨hb, hfirst⟩)
        · exact Or.inr (Or.inr ⟨hb ▸ heq, List.lt_of_le_of_lt (List.not_lt.1 hfirst) hlabel⟩)
      · exact Or.inr (Or.inl (by omega))

end Component

namespace Path

/-- The order of paths: component by component. -/
def Precedes (p q : Path) : Prop := List.Lex Component.Precedes p.components q.components

theorem before_iff {p q : Path} : p.before q = true ↔ p.Precedes q := by
  simp only [before, List.lex_eq_true_iff_lex, Component.before_iff]
  rfl

theorem same_iff {p q : Path} : p.same q = true ↔ p.components = q.components := beq_iff_eq

instance : DecidableRel Precedes := fun _ _ => decidable_of_iff _ before_iff

theorem Precedes.asymm {p q : Path} (h : p.Precedes q) : ¬ q.Precedes p :=
  Std.Asymm.asymm (r := List.Lex Component.Precedes) _ _ h

instance : Std.Asymm Precedes := ⟨fun _ _ h => h.asymm⟩

theorem Precedes.components_ne {p q : Path} (h : p.Precedes q) : p.components ≠ q.components := by
  intro heq
  have hback : q.Precedes p := by
    rw [Precedes, heq] at h ⊢
    exact h
  exact h.asymm hback

/-- What does not precede a path and is not preceded by it has its components. -/
theorem components_eq_of_not_precedes {p q : Path} (h : ¬ p.Precedes q) (h' : ¬ q.Precedes p) :
    p.components = q.components :=
  Std.Trichotomous.trichotomous (r := List.Lex Component.Precedes) _ _ h h'

theorem not_precedes_trans {p q r : Path} (h : ¬ p.Precedes q) (h' : ¬ q.Precedes r) : ¬ p.Precedes r :=
  IsOrderConnected.neg_trans (r := List.Lex Component.Precedes) h h'

theorem Precedes.trans {p q r : Path} (h : p.Precedes q) (h' : q.Precedes r) : p.Precedes r := by
  have hlex : List.Lex Component.Precedes p.components q.components := h
  exact (IsOrderConnected.conn _ r.components _ hlex).resolve_right (Precedes.asymm h')

end Path

end LuaReference
