import LuaReference.Proofs.Site.Heading
import LuaReference.Site.Basic
import Mathlib.Data.List.Forall2

/-!
# Which block documents a function

Blocks are told apart by the lines they start on, and what lies in a block by offsets.

* `Listed source scope? o name` : a function that is to have a site;
* `Documents source function site` : the site of a function, with the block that documents it;
* `nearestDoc?_extract` : the block on the greatest line is the last candidate;
* `start_le_of_nearestDoc?` : the nearest block is the last one that starts on an earlier line;
* `siteAt?` : the site of one declaration that was found, and `locate_eq` : the sites are those;
* `locate_documents` : every function that is to have a site has one, in order, and no other has.
-/

namespace LuaReference.Site

open Text Comment

/-- A function that is to have a site: one that is declared at an offset outside the blocks, within
the namespace, on a line after one that a documenting block starts on. -/
structure Listed (source : Text) (scope? : Option Text) (o : Nat) (name : Text) : Prop where
  declared : DeclaredAt source o name
  outside : covers (extract source) o = false
  inScope : ∀ ns ∈ scope?, ns <+: name
  preceded : ∃ b ∈ extract source, b.kind = .entry ∧
    (LineTable.ofText source).lineAt b.start < (LineTable.ofText source).lineAt o

/-- The site of a function, which is given by its offset and its name. -/
structure Documents (source : Text) (function : Nat × Text) (site : Site) : Prop where
  name_eq : site.name = function.2
  line_eq : site.line = (LineTable.ofText source).lineAt function.1
  doc_mem : site.doc ∈ extract source
  doc_kind : site.doc.kind = .entry
  doc_ends : site.doc.stop ≤ function.1
  doc_earlier : (LineTable.ofText source).lineAt site.doc.start < site.line
  doc_last : ∀ b ∈ extract source, b.kind = .entry →
    (LineTable.ofText source).lineAt b.start < site.line → b.start ≤ site.doc.start

/-! ## The nearest block -/

theorem mem_candidates {source : Text} {line : Nat} {b : Block} :
    b ∈ (entries (extract source)).filter (·.line < line) ↔
      b ∈ extract source ∧ b.kind = .entry ∧ (LineTable.ofText source).lineAt b.start < line := by
  simp only [entries, List.mem_filter, beq_iff_eq, decide_eq_true_eq, and_assoc]
  constructor
  · rintro ⟨hmem, hkind, hline⟩
    rw [line_of_mem hmem] at hline
    exact ⟨hmem, hkind, hline⟩
  · rintro ⟨hmem, hkind, hline⟩
    rw [← line_of_mem hmem] at hline
    exact ⟨hmem, hkind, hline⟩

/-- Where lines do not go down, every later block takes the place of the one kept so far. -/
theorem foldl_laterOf {b : Block} {rest : List Block}
    (h : (b :: rest).Pairwise fun a b => a.line ≤ b.line) :
    some (rest.foldl laterOf b) = (b :: rest).getLast? := by
  induction rest generalizing b with
  | nil => rfl
  | cons c rest ih =>
    obtain ⟨hfirst, hrest⟩ := List.pairwise_cons.1 h
    have hle : b.line ≤ c.line := hfirst c List.mem_cons_self
    rw [List.foldl_cons, laterOf, if_neg (Nat.not_lt.2 hle), ih hrest, List.getLast?_cons_cons]

theorem greatestLine?_eq_getLast? {blocks : List Block}
    (h : blocks.Pairwise fun a b => a.line ≤ b.line) : greatestLine? blocks = blocks.getLast? := by
  cases blocks with
  | nil => rfl
  | cons b rest => exact foldl_laterOf h

/-- The block on the greatest line is the last candidate, since the lines of the blocks of a source do
not go down; of those that share the greatest line it is the last one too. -/
theorem nearestDoc?_extract (source : Text) (line : Nat) :
    nearestDoc? (extract source) line =
      ((entries (extract source)).filter (·.line < line)).getLast? := by
  have hlines : (extract source).Pairwise fun a b => a.line ≤ b.line :=
    (pairwise_line source).imp fun h => h.2
  exact greatestLine?_eq_getLast? ((hlines.filter (·.kind == .entry)).filter (·.line < line))

theorem mem_of_nearestDoc? {source : Text} {line : Nat} {doc : Block}
    (h : nearestDoc? (extract source) line = some doc) :
    doc ∈ extract source ∧ doc.kind = .entry ∧ (LineTable.ofText source).lineAt doc.start < line := by
  rw [nearestDoc?_extract] at h
  exact mem_candidates.1 (List.mem_of_getLast? h)

theorem exists_nearestDoc?_iff {source : Text} {line : Nat} :
    (∃ doc, nearestDoc? (extract source) line = some doc) ↔
      ∃ b ∈ extract source, b.kind = .entry ∧ (LineTable.ofText source).lineAt b.start < line := by
  constructor
  · rintro ⟨doc, hdoc⟩
    exact ⟨doc, mem_of_nearestDoc? hdoc⟩
  · rintro ⟨b, hb⟩
    have hne := List.ne_nil_of_mem (mem_candidates.2 hb)
    rw [nearestDoc?_extract]
    exact ⟨_, List.getLast?_eq_some_getLast hne⟩

/-- The nearest block is the last one of those that start on an earlier line, also where several start
on one line. -/
theorem start_le_of_nearestDoc? {source : Text} {line : Nat} {doc b : Block}
    (h : nearestDoc? (extract source) line = some doc) (hb : b ∈ extract source) (hkind : b.kind = .entry)
    (hline : (LineTable.ofText source).lineAt b.start < line) : b.start ≤ doc.start := by
  have hmem := mem_candidates.2 ⟨hb, hkind, hline⟩
  -- the candidates stand in the order of the source
  have hcandidates := ((pairwise_extract source).filter (·.kind == .entry)).filter (·.line < line)
  rw [nearestDoc?_extract] at h
  obtain ⟨front, hsplit⟩ := List.getLast?_eq_some_iff.1 h
  rw [entries] at hsplit hmem
  rw [hsplit, List.pairwise_append] at hcandidates
  rw [hsplit] at hmem
  rcases List.mem_append.1 hmem with hfront | hlast
  · exact Nat.le_of_lt (hcandidates.2.2 b hfront doc (List.mem_singleton_self doc)).1
  · obtain rfl := List.mem_singleton.1 hlast
    exact Nat.le_refl _

/-! ## One declaration -/

/-- The site of a declaration that was found in a source, where it has one. -/
def siteAt? (source : Text) (scope? : Option Text) (found : Found Declared) : Option Site :=
  if found.item.isLocal || covers (extract source) found.start then none
  else if (scope?.map fun ns => startsWith ns found.item.name).getD true then
    ofDeclaration? (extract source) ⟨found.item.name, (LineTable.ofText source).lineAt found.start⟩
  else none

theorem locate_eq (source : Text) (scope? : Option Text) :
    locate source (extract source) scope? =
      (scan readDeclaration source).filterMap (siteAt? source scope?) := by
  unfold locate declarations
  rw [List.filterMap_filter, List.filterMap_filterMap]
  refine congrArg (List.filterMap · _) (funext fun found => ?_)
  unfold siteAt?
  split <;> rfl

theorem inScope_iff {scope? : Option Text} {name : Text} :
    (scope?.map fun ns => startsWith ns name).getD true = true ↔ ∀ ns ∈ scope?, ns <+: name := by
  cases scope? with
  | none => simp
  | some ns => simp [startsWith]

theorem siteAt?_eq_some_iff {source : Text} {scope? : Option Text} {found : Found Declared} {site : Site} :
    siteAt? source scope? found = some site ↔
      found.item.isLocal = false ∧ covers (extract source) found.start = false ∧
        (∀ ns ∈ scope?, ns <+: site.name) ∧ site.name = found.item.name ∧
        site.line = (LineTable.ofText source).lineAt found.start ∧
        nearestDoc? (extract source) site.line = some site.doc := by
  unfold siteAt?
  constructor
  · intro h
    split at h
    · cases h
    · rename_i hout
      split at h
      · rename_i hscope
        obtain ⟨doc, hdoc, rfl⟩ := Option.map_eq_some_iff.1 h
        rw [Bool.not_eq_true, Bool.or_eq_false_iff] at hout
        exact ⟨hout.1, hout.2, inScope_iff.1 hscope, rfl, rfl, hdoc⟩
      · cases h
  · obtain ⟨name, line, doc⟩ := site
    rintro ⟨hlocal, hout, hscope, rfl, rfl, hdoc⟩
    rw [if_neg (by simp [hlocal, hout]), if_pos (inScope_iff.2 hscope), ofDeclaration?, hdoc]
    rfl

theorem documents_of_siteAt? {source : Text} {scope? : Option Text} {found : Found Declared} {site : Site}
    (h : siteAt? source scope? found = some site) : Documents source (found.start, site.name) site := by
  obtain ⟨-, hout, -, -, hline, hdoc⟩ := siteAt?_eq_some_iff.1 h
  obtain ⟨hmem, hkind, hearlier⟩ := mem_of_nearestDoc? hdoc
  -- the block starts before the function, which does not lie in it
  have hstart : site.doc.start < found.start := lt_of_lineAt_lt (hline ▸ hearlier)
  have hends : site.doc.stop ≤ found.start := by
    have hcover := List.any_eq_false.1 hout site.doc hmem
    simp only [Block.covers, Bool.and_eq_true, decide_eq_true_eq, not_and, Nat.not_lt] at hcover
    exact hcover (Nat.le_of_lt hstart)
  exact ⟨rfl, hline, hmem, hkind, hends, hearlier, fun b hb => start_le_of_nearestDoc? hdoc hb⟩

theorem exists_siteAt?_iff {source : Text} {scope? : Option Text} {o : Nat} {name : Text} :
    (∃ found ∈ scan readDeclaration source, ∃ site, siteAt? source scope? found = some site ∧
        found.start = o ∧ site.name = name) ↔
      Listed source scope? o name := by
  constructor
  · rintro ⟨found, hfound, site, hsite, rfl, rfl⟩
    obtain ⟨hlocal, hout, hscope, hname, hline, hdoc⟩ := siteAt?_eq_some_iff.1 hsite
    refine ⟨exists_found_iff.1 ⟨found, hfound, rfl, ?_⟩, hout, hscope, ?_⟩
    · rw [hname, ← hlocal]
    · rw [← hline]
      exact exists_nearestDoc?_iff.1 ⟨_, hdoc⟩
  · rintro ⟨hdeclared, hout, hscope, hdoc⟩
    obtain ⟨found, hfound, rfl, hitem⟩ := exists_found_iff.2 hdeclared
    obtain ⟨doc, hdoc⟩ := exists_nearestDoc?_iff.2 hdoc
    refine ⟨found, hfound, ⟨name, (LineTable.ofText source).lineAt found.start, doc⟩, ?_, rfl, rfl⟩
    rw [siteAt?_eq_some_iff, hitem]
    exact ⟨rfl, hout, hscope, rfl, rfl, hdoc⟩

/-! ## All declarations -/

theorem forall₂_filterMap {α β γ : Type} {R : β → γ → Prop} {f : α → Option γ} {g : α → γ → β}
    {l : List α} (h : ∀ a ∈ l, ∀ c, f a = some c → R (g a c) c) :
    List.Forall₂ R (l.filterMap fun a => (f a).map (g a)) (l.filterMap f) := by
  induction l with
  | nil => exact .nil
  | cons a l ih =>
    have hrest := ih fun b hb => h b (List.mem_cons_of_mem a hb)
    cases hf : f a with
    | none => simpa [hf] using hrest
    | some c =>
      rw [List.filterMap_cons_some (by rw [hf]; rfl), List.filterMap_cons_some hf]
      exact .cons (h a List.mem_cons_self c hf) hrest

/-- The sites of a source are those of the functions that are to have one, one for each in the order in
which they are declared. The block of each is the last documenting one that starts on an earlier line,
and it ends before the function. -/
theorem locate_documents (source : Text) (scope? : Option Text) :
    ∃ functions : List (Nat × Text), functions.Pairwise (·.1 < ·.1) ∧
      (∀ o name, (o, name) ∈ functions ↔ Listed source scope? o name) ∧
      List.Forall₂ (Documents source) functions (locate source (extract source) scope?) := by
  refine ⟨(scan readDeclaration source).filterMap fun found =>
    (siteAt? source scope? found).map fun site => (found.start, site.name), ?_, fun o name => ?_, ?_⟩
  · have hapart := pairwise_scanFrom readDeclaration_takes none 0 source
    rw [← scan] at hapart
    rw [List.pairwise_filterMap]
    refine hapart.imp_of_mem fun {a b} ha hb hle p hp q hq => ?_
    obtain ⟨-, -, rfl⟩ := Option.map_eq_some_iff.1 hp
    obtain ⟨-, -, rfl⟩ := Option.map_eq_some_iff.1 hq
    have hbounds := (readAt_of_mem readDeclaration_takes ha).bounds
    show a.start < b.start
    omega
  · rw [← exists_siteAt?_iff, List.mem_filterMap]
    simp only [Option.map_eq_some_iff, Prod.mk.injEq]
  · rw [locate_eq]
    exact forall₂_filterMap fun found _ site hsite => documents_of_siteAt? hsite

example :
    let source : Text := "--[[Purpose: a]]--[[Purpose: b]]\nlocal function f()\nfunction g() --[[Purpose: c]]"
    (locate source (extract source) none).map (fun site => (site.name, site.line, site.doc.start)) =
      [(("g" : Text), 3, 16)] := by
  decide +kernel

end LuaReference.Site
