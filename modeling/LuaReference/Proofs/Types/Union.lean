import LuaReference.Proofs.Text.Case
import LuaReference.Proofs.Text.Lines
import LuaReference.Proofs.Types.Link
import LuaReference.Types.Union

/-!
# What is shown of a union

The types of parameters and of results are taken from one list of members. What is shown can be taken
apart again, and both link to one page.

* `Member`, `members_join` : what a member is, and that joined members are read back;
* `named`, `shown` : the members of a parameter's type that are not `nil`, and those that it shows;
* `ofParameter_cases` : the three forms of a parameter's type;
* `key_of_isNil` : every spelling of `nil` has one key;
* `shown_unions` : what is shown of both, and where they link.
-/

namespace LuaReference.Types

open Text

/-! ## Members -/

/-- A text that is one member of a union and nothing else. -/
structure Member (m : Text) : Prop where
  ne_nil : m ≠ []
  trimmed : trim m = m
  whole : '|' ∉ m

theorem member_of_mem {t m : Text} (h : m ∈ members t) : Member m := by
  obtain ⟨hm, hne⟩ := List.mem_filter.1 h
  obtain ⟨piece, hpiece, rfl⟩ := List.mem_map.1 hm
  exact ⟨by simpa using hne, trim_trim piece, fun hbar =>
    not_mem_of_mem_splitOn piece hpiece (trim_subset piece hbar)⟩

/-- The parts of a text between bars, of which the empty text has none. -/
def barred (t : Text) : List Text := if t.isEmpty then [] else splitOn '|' t

section Join
variable {ms : List Text} (h : ∀ m ∈ ms, Member m)
include h

theorem barred_join : barred (join "|" ms) = ms := by
  cases ms with
  | nil => rfl
  | cons first rest =>
    have hne : join "|" (first :: rest) ≠ [] :=
      (trim_join "|" (fun m hm => ⟨(h m hm).ne_nil, (h m hm).trimmed⟩) (by simp)).1
    rw [barred, if_neg (by simpa using hne)]
    exact splitOn_join (by simp) fun m hm => (h m hm).whole

/-- Joined members are read back as they were. -/
theorem members_join : members (join "|" ms) = ms := by
  cases ms with
  | nil => rfl
  | cons first rest =>
    have hsplit : splitOn '|' (join "|" (first :: rest)) = first :: rest :=
      splitOn_join (by simp) fun m hm => (h m hm).whole
    have htrim : (first :: rest).map trim = first :: rest :=
      (List.map_congr_left fun m hm => (h m hm).trimmed).trans (List.map_id' _)
    rw [members, hsplit, htrim]
    exact List.filter_eq_self.2 fun m hm => by simpa using (h m hm).ne_nil

end Join

/-! ## Types of parameters -/

/-- The members that are not `nil`. -/
def named (t : Text) : List Text := (members t).filter fun m => !isNil m

/-- What a parameter's type shows: the members that are not `nil`, or `nil` where it is all there
is. -/
def shown (t : Text) : List Text :=
  if (named t).isEmpty then (if (members t).isEmpty then [] else ["nil"]) else named t

theorem isNil_of_named {t : Text} (h : named t = []) : ∀ m ∈ members t, isNil m = true := by
  simpa [named] using h

/-- A parameter's type has members that are not `nil`, or only such that are, or none at all. -/
theorem ofParameter_cases (t : Text) :
    (∃ first rest, named t = first :: rest ∧
        ofParameter t = ⟨join "|" (named t), first, (members t).any isNil⟩) ∨
      (named t = [] ∧ members t ≠ [] ∧ ofParameter t = ⟨"nil", "nil", false⟩) ∨
      (members t = [] ∧ ofParameter t = ⟨[], [], false⟩) := by
  cases hnamed : named t with
  | cons first rest =>
    refine Or.inl ⟨first, rest, rfl, ?_⟩
    unfold ofParameter
    dsimp only
    rw [← named, hnamed]
  | nil =>
    refine Or.inr ?_
    have hnil := isNil_of_named hnamed
    have hother : ofParameter t = if (members t).any isNil then ⟨"nil", "nil", false⟩ else ⟨[], [], false⟩ := by
      unfold ofParameter
      dsimp only
      rw [← named, hnamed]
    cases hmembers : members t with
    | nil => exact Or.inr ⟨rfl, by rw [hother, hmembers]; rfl⟩
    | cons first rest =>
      have hany : (members t).any isNil = true :=
        List.any_eq_true.2 ⟨first, by simp [hmembers], hnil first (by simp [hmembers])⟩
      exact Or.inl ⟨rfl, by simp, by rw [hother, if_pos hany]⟩

theorem member_of_mem_named {t m : Text} (h : m ∈ named t) : Member m :=
  member_of_mem (List.mem_filter.1 h).1

theorem barred_display (t : Text) : barred (ofParameter t).display = shown t := by
  unfold shown
  rcases ofParameter_cases t with ⟨first, rest, hnamed, heq⟩ | ⟨hnamed, hmembers, heq⟩ | ⟨hmembers, heq⟩
  · rw [heq, barred_join fun m hm => member_of_mem_named hm, if_neg (by simp [hnamed])]
  · rw [heq, if_pos (by simp [hnamed]), if_neg (by simpa using hmembers)]
    decide
  · have hnamed : named t = [] := by rw [named, hmembers]; rfl
    rw [heq, if_pos (by simp [hnamed]), if_pos (by simp [hmembers])]
    rfl

theorem optional_iff (t : Text) :
    (ofParameter t).optional = true ↔ named t ≠ [] ∧ (named t).length < (members t).length := by
  rcases ofParameter_cases t with ⟨first, rest, hnamed, heq⟩ | ⟨hnamed, hmembers, heq⟩ | ⟨hmembers, heq⟩
  · have hne : named t ≠ [] := by simp [hnamed]
    rw [heq, named, List.length_filter_lt_length_iff_exists, List.any_eq_true]
    simpa [named] using fun _ _ _ => hne
  · simp [heq, hnamed]
  · simp [heq, hmembers]

/-- What is shown of a parameter's type is a type that shows and links the same. -/
theorem ofParameter_display (t : Text) :
    ofParameter (ofParameter t).display = { ofParameter t with optional := false } := by
  rcases ofParameter_cases t with ⟨first, rest, hnamed, heq⟩ | ⟨hnamed, hmembers, heq⟩ | ⟨hmembers, heq⟩
  · have hmembers : members (join "|" (named t)) = named t :=
      members_join fun m hm => member_of_mem_named hm
    have hsolid : ∀ m ∈ named t, isNil m = false := fun m hm => by
      simpa using (List.mem_filter.1 hm).2
    have hagain : named (join "|" (named t)) = named t := by
      rw [named, hmembers]
      exact List.filter_eq_self.2 fun m hm => by simp [hsolid m hm]
    have hany : (named t).any isNil = false := List.any_eq_false.2 fun m hm => by simp [hsolid m hm]
    rw [heq]
    rcases ofParameter_cases (join "|" (named t)) with ⟨head, tail, hhead, hshown⟩ | ⟨hnil, -⟩ | ⟨hnil, -⟩
    · rw [hagain, hnamed] at hhead
      obtain ⟨rfl, -⟩ := List.cons.inj hhead
      rw [hshown, hagain, hmembers, hany]
    · rw [hagain, hnamed] at hnil
      cases hnil
    · rw [hmembers, hnamed] at hnil
      cases hnil
  · rw [heq]
    decide
  · rw [heq]
    decide

/-! ## Links -/

/-- Every spelling of `nil` has one key. -/
theorem key_of_isNil {m : Text} (htrim : trim m = m) (h : isNil m = true) : key m = key "nil" := by
  have hascii : ∀ c ∈ ("nil" : Text), c.toNat < 128 := by simp
  have hnil : trim "nil" = ("nil" : Text) := by decide
  rw [key, key, htrim, hnil]
  exact lower_of_sameName hascii h

theorem key_linkType (t : Text) : key (ofReturn t).linkType = key (ofParameter t).linkType := by
  have hlink : (ofReturn t).linkType =
      (((members t).find? fun m => !isNil m) <|> (members t).head?).getD [] := rfl
  rcases ofParameter_cases t with ⟨first, rest, hnamed, heq⟩ | ⟨hnamed, hmembers, heq⟩ | ⟨hmembers, heq⟩
  · rw [hlink, heq, ← List.head?_filter, ← named, hnamed]
    rfl
  · obtain ⟨first, rest, hcons⟩ := List.exists_cons_of_ne_nil hmembers
    have hfirst : first ∈ members t := by simp [hcons]
    have hfind : ((members t).find? fun m => !isNil m) = none := by
      rw [← List.head?_filter, ← named, hnamed]
      rfl
    rw [hlink, heq, hfind, hcons]
    exact key_of_isNil (member_of_mem hfirst).trimmed (isNil_of_named hnamed first hfirst)
  · rw [hlink, heq, hmembers]
    rfl

/-! ## Both types -/

/-- A parameter's type shows the members that are not `nil`, and `nil` where nothing else is there; it
is optional just when it leaves some out. A result's type shows all of them. Both link to one page. -/
theorem shown_unions (t : Text) :
    barred (ofParameter t).display = shown t ∧
      ((ofParameter t).optional = true ↔ named t ≠ [] ∧ (named t).length < (members t).length) ∧
      ofParameter (ofParameter t).display = { ofParameter t with optional := false } ∧
      barred (ofReturn t).display = members t ∧
      ∀ links : Links, links.link (ofReturn t).linkType = links.link (ofParameter t).linkType :=
  ⟨barred_display t, optional_iff t, ofParameter_display t,
    barred_join fun _ hm => member_of_mem hm, fun links => links.link_congr (key_linkType t)⟩

end LuaReference.Types
