import LuaReference.Types.Link
import Mathlib.Data.List.Nodup

/-!
# Where the page of a type comes from

Configured pages are added to those of the engine's classes under the keys of their names, so that
names can meet each other and names that are known anyway.

* `lookup_extend_of_last`, `lookup_extend_of_free` : what is found for a key after entries were added;
* `PageOf` : what counts for a key: the last configured entry of that key, or else a class of the
  engine, or else a type of the language, or else the general page;
* `PageOf.link_eq`, `exists_pageOf` : the link is that page, and there always is one;
* `link_congr`, `link_of_other` : what a link does not depend on;
* `link_configured` : all of it for the pages that are linked with any settings.
-/

namespace LuaReference.Types

open Text

/-! ## Entries and keys -/

/-- With no key twice, every entry is found. -/
theorem lookup_of_mem {pages : List (Text × Text)} {k page : Text} (hkeys : (pages.map Prod.fst).Nodup)
    (h : (k, page) ∈ pages) : pages.lookup k = some page := by
  obtain ⟨front, back, rfl⟩ := List.append_of_mem h
  refine List.lookup_eq_some_iff.2 ⟨front, back, rfl, fun entry hentry => ?_⟩
  rw [List.map_append, List.map_cons] at hkeys
  have hfree := (List.nodup_middle.1 hkeys).notMem
  have hname : entry.1 ∈ front.map Prod.fst := List.mem_map_of_mem hentry
  have hne : k ≠ entry.1 := fun hsame => hfree (List.mem_append_left _ (hsame ▸ hname))
  simpa using hne

theorem lookup_eq_none {pages : List (Text × Text)} {k : Text} (h : ∀ entry ∈ pages, entry.1 ≠ k) :
    pages.lookup k = none :=
  List.lookup_eq_none_iff.2 fun entry hentry => by simpa using (h entry hentry).symm

/-- Either some entry is the last of a key, or there is none of that key. -/
theorem exists_last_or_free (types : List (Text × Text)) (k : Text) :
    (∃ front entry back, types = front ++ entry :: back ∧ key entry.1 = k ∧
      ∀ later ∈ back, key later.1 ≠ k) ∨ ∀ entry ∈ types, key entry.1 ≠ k := by
  induction types with
  | nil => exact Or.inr (by simp)
  | cons entry types ih =>
    rcases ih with ⟨front, last, back, rfl, hlast⟩ | hfree
    · exact Or.inl ⟨entry :: front, last, back, rfl, hlast⟩
    · by_cases hkey : key entry.1 = k
      · exact Or.inl ⟨[], entry, types, rfl, hkey, hfree⟩
      · exact Or.inr (List.forall_mem_cons.2 ⟨hkey, hfree⟩)

namespace Links

theorem extend_append (links : Links) (front back : List (Text × Text)) :
    links.extend (front ++ back) = (links.extend front).extend back :=
  List.foldl_append

theorem extend_cons (links : Links) (entry : Text × Text) (types : List (Text × Text)) :
    links.extend (entry :: types) = (links.add entry.1 entry.2).extend types := rfl

theorem lookup_add (links : Links) (name page k : Text) :
    (links.add name page).pages.lookup k = if k = key name then some page else links.pages.lookup k := by
  show List.lookup k ((key name, page) :: links.pages) = _
  rw [List.lookup_cons]
  by_cases h : k = key name
  · simp [h]
  · rw [beq_eq_false_iff_ne.2 h, if_neg h]

/-- Pages that agree on a key still do so when the same entries are added to both. -/
theorem lookup_extend_congr {links links' : Links} {k : Text}
    (h : links.pages.lookup k = links'.pages.lookup k) (types : List (Text × Text)) :
    (links.extend types).pages.lookup k = (links'.extend types).pages.lookup k := by
  induction types generalizing links links' with
  | nil => exact h
  | cons entry types ih =>
    rw [extend_cons, extend_cons]
    refine ih ?_
    rw [lookup_add, lookup_add, h]

theorem lookup_extend_of_free {types : List (Text × Text)} {k : Text}
    (hfree : ∀ entry ∈ types, key entry.1 ≠ k) (links : Links) :
    (links.extend types).pages.lookup k = links.pages.lookup k := by
  induction types generalizing links with
  | nil => rfl
  | cons entry types ih =>
    rw [List.forall_mem_cons] at hfree
    rw [extend_cons, ih hfree.2, lookup_add, if_neg (Ne.symm hfree.1)]

theorem lookup_extend_of_last {front back : List (Text × Text)} {entry : Text × Text}
    (hlast : ∀ later ∈ back, key later.1 ≠ key entry.1) (links : Links) :
    (links.extend (front ++ entry :: back)).pages.lookup (key entry.1) = some entry.2 := by
  rw [extend_append, extend_cons, lookup_extend_of_free hlast, lookup_add, if_pos rfl]

/-! ## The page of a key -/

/-- The page that counts for a key when pages are configured for some types. -/
inductive PageOf (types : List (Text × Text)) (k : Text) : Text → Prop where
  /-- The last configured entry of the key counts before all that is known anyway. -/
  | configured {front back : List (Text × Text)} {entry : Text × Text}
      (hsplit : types = front ++ entry :: back) (hkey : key entry.1 = k)
      (hlast : ∀ later ∈ back, key later.1 ≠ k) : PageOf types k entry.2
  /-- Without one, a class of the engine does. -/
  | engine {name : Text} (hfree : ∀ entry ∈ types, key entry.1 ≠ k) (hname : name ∈ engineTypes)
      (hkey : key name = k) : PageOf types k ("https://wiki.facepunch.com/gmod/" ++ name)
  /-- Then a type of the language. -/
  | base {entry : Text × Text} (hfree : ∀ entry ∈ types, key entry.1 ≠ k)
      (hengine : ∀ name ∈ engineTypes, key name ≠ k) (hbase : entry ∈ baseTypes)
      (hkey : key entry.1 = k) : PageOf types k entry.2
  | general (hfree : ∀ entry ∈ types, key entry.1 ≠ k) (hengine : ∀ name ∈ engineTypes, key name ≠ k)
      (hbase : ∀ entry ∈ baseTypes, key entry.1 ≠ k) : PageOf types k fallback

theorem exists_pageOf (types : List (Text × Text)) (k : Text) : ∃ page, PageOf types k page := by
  rcases exists_last_or_free types k with ⟨front, entry, back, hsplit, hkey, hlast⟩ | hfree
  · exact ⟨_, .configured hsplit hkey hlast⟩
  · by_cases hengine : ∃ name ∈ engineTypes, key name = k
    · obtain ⟨name, hname, hkey⟩ := hengine
      exact ⟨_, .engine hfree hname hkey⟩
    · have hclass : ∀ name ∈ engineTypes, key name ≠ k := fun name hname hkey =>
        hengine ⟨name, hname, hkey⟩
      by_cases hbase : ∃ entry ∈ baseTypes, key entry.1 = k
      · obtain ⟨entry, hentry, hkey⟩ := hbase
        exact ⟨_, .base hfree hclass hentry hkey⟩
      · exact ⟨_, .general hfree hclass fun entry hentry hkey => hbase ⟨entry, hentry, hkey⟩⟩

/-- No two classes of the engine have one key. -/
theorem standard_nodup : (standard.pages.map Prod.fst).Nodup := by decide +kernel

theorem baseTypes_nodup : (baseTypes.map Prod.fst).Nodup := by decide +kernel

/-- The types of the language are listed by their keys. -/
theorem key_of_mem_baseTypes : ∀ entry ∈ baseTypes, key entry.1 = entry.1 := by decide +kernel

theorem lookup_standard_of_free {k : Text} (h : ∀ name ∈ engineTypes, key name ≠ k) :
    standard.pages.lookup k = none := by
  refine lookup_eq_none fun entry hentry => ?_
  obtain ⟨name, hname, rfl⟩ := List.mem_map.1 hentry
  exact h name hname

/-- The link to a type is the page that counts for its key. -/
theorem PageOf.link_eq {types : List (Text × Text)} {name page : Text} (h : PageOf types (key name) page) :
    (standard.extend types).link name = page := by
  unfold link
  cases h with
  | configured hsplit hkey hlast =>
    subst hsplit
    rw [← hkey, lookup_extend_of_last (hkey ▸ hlast)]
    rfl
  | @engine known hfree hname hkey =>
    have hpage : (key name, "https://wiki.facepunch.com/gmod/".toList ++ known) ∈ standard.pages :=
      List.mem_map.2 ⟨known, hname, by rw [hkey]⟩
    rw [lookup_extend_of_free hfree, lookup_of_mem standard_nodup hpage]
    rfl
  | @base entry hfree hengine hbase hkey =>
    rw [key_of_mem_baseTypes entry hbase] at hkey
    have hpage : baseTypes.lookup (key name) = some entry.2 :=
      lookup_of_mem baseTypes_nodup (hkey ▸ hbase)
    rw [lookup_extend_of_free hfree, lookup_standard_of_free hengine, hpage]
    rfl
  | general hfree hengine hbase =>
    have hpage : baseTypes.lookup (key name) = none := lookup_eq_none fun entry hentry =>
      key_of_mem_baseTypes entry hentry ▸ hbase entry hentry
    rw [lookup_extend_of_free hfree, lookup_standard_of_free hengine, hpage]
    rfl

/-! ## What a link depends on -/

theorem link_congr (links : Links) {name other : Text} (h : key name = key other) :
    links.link name = links.link other := by
  rw [link, h, link]

/-- An entry has no effect on types of other keys. -/
theorem link_of_other (links : Links) {front back : List (Text × Text)} {entry : Text × Text}
    {name : Text} (h : key entry.1 ≠ key name) :
    (links.extend (front ++ entry :: back)).link name = (links.extend (front ++ back)).link name := by
  have hadd : ((links.extend front).add entry.1 entry.2).pages.lookup (key name) =
      (links.extend front).pages.lookup (key name) := by
    rw [lookup_add, if_neg h.symm]
  rw [extend_append, extend_append, extend_cons, link, link, lookup_extend_congr hadd]

/-- A link goes to the last configured entry of its key in the order of the names, or else to the class
of the engine, the type of the language or the general page. Nothing but its key matters, and no entry
of another key. -/
theorem link_configured (types : List (Text × Text)) (name : Text) :
    (∀ page, (standard.extend types).link name = page ↔ PageOf types (key name) page) ∧
      (types.Pairwise (fun a b => a.1 < b.1) → ∀ entry ∈ types, key entry.1 = key name →
        (∀ other ∈ types, key other.1 = key name → ¬entry.1 < other.1) →
        (standard.extend types).link name = entry.2) ∧
      (∀ other, key other = key name →
        (standard.extend types).link other = (standard.extend types).link name) ∧
      ∀ front entry back, types = front ++ entry :: back → key entry.1 ≠ key name →
        (standard.extend types).link name = (standard.extend (front ++ back)).link name := by
  refine ⟨fun page => ⟨?_, PageOf.link_eq⟩, ?_, fun other h => link_congr _ h, ?_⟩
  · rintro rfl
    obtain ⟨page, hpage⟩ := exists_pageOf types (key name)
    rwa [hpage.link_eq]
  · intro hincreasing entry hentry hkey hgreatest
    obtain ⟨front, back, rfl⟩ := List.append_of_mem hentry
    refine PageOf.link_eq (.configured rfl hkey fun later hlater hsame => ?_)
    -- a later entry of the key would have a greater name
    have hback := (List.pairwise_cons.1 (List.pairwise_append.1 hincreasing).2.1).1 later hlater
    exact hgreatest later (by simp [hlater]) hsame hback
  · rintro front entry back rfl hkey
    exact link_of_other standard hkey

/-- Two names of one class of the engine, of which the later counts. -/
theorem link_configured_player :
    let types : List (Text × Text) := [(" NUMBER", "#n"), ("Player", "#p"), ("player ", "#q")]
    types.Pairwise (fun a b => a.1 < b.1) ∧ (standard.extend types).link "PLAYER" = "#q" ∧
      (standard.extend types).link "Number" = "#n" := by
  intro types
  have hincreasing : types.Pairwise (fun a b => a.1 < b.1) := by decide
  have hplayer : ∀ other ∈ types, key other.1 = key "PLAYER" →
      ¬("player " : Text) < other.1 := by decide +kernel
  have hnumber : ∀ other ∈ types, key other.1 = key "Number" →
      ¬(" NUMBER" : Text) < other.1 := by decide +kernel
  exact ⟨hincreasing,
    (link_configured types "PLAYER").2.1 hincreasing ("player ", "#q") (by decide) (by decide +kernel)
      hplayer,
    (link_configured types "Number").2.1 hincreasing (" NUMBER", "#n") (by decide) (by decide +kernel)
      hnumber⟩

end Links

end LuaReference.Types
