import LuaReference.Run.Generator
import Mathlib.Data.List.Forall2

/-!
# Declared and documented functions

The names that a source declares and the names that its page documents are found on two ways. They
agree: what is documented is what is declared and has an entry with a purpose.

* `Generator.counted` : the declarations that count in a mode;
* `Site.isDocumented` : whether the nearest entry above a declaration has a purpose;
* `Generator.Shows` : the section of a page that is about a declaration;
* `Generator.sections_cases`, `Generator.sections_agree` : the sections of one declaration, and of all
  in order;
* `Generator.documented_agrees` : the report and the page of a source of functions.
-/

namespace LuaReference

open Text

/-- Whether the nearest entry above a declaration has a purpose. -/
def Site.isDocumented (blocks : List Comment.Block) (d : Site.Declaration) : Bool :=
  match nearestDoc? blocks d.line with
  | some doc => !(Entry.parse doc.text).purpose.isEmpty
  | none => false

namespace Generator

/-- The declarations that count in a mode: those under the namespace of a library, or all. -/
def counted (g : Generator) (mode : Mode) (ds : List Site.Declaration) : List Site.Declaration :=
  if mode = .library then ds.filter fun d => startsWith g.scopeFront d.name else ds

/-- A section of the page shows what the nearest entry above a declaration says, under the name that
readers see. -/
def Shows (g : Generator) (mode : Mode) (blocks : List Comment.Block) (d : Site.Declaration)
    (sect : Text) : Prop :=
  ∃ doc, Site.nearestDoc? blocks d.line = some doc ∧
    g.style.fragment? g.links (g.display mode d.name) (Entry.parse doc.text) = some sect

/-- The name and the section of a declaration. -/
def sectionOf? (g : Generator) (mode : Mode) (blocks : List Comment.Block) (d : Site.Declaration) :
    Option (Text × Text) :=
  (Site.ofDeclaration? blocks d).bind (g.section? mode)

variable (g : Generator) (mode : Mode) (blocks : List Comment.Block)

/-! ## Sections -/

theorem fragment?_of_purpose (style : Style) (links : Types.Links) (name : Text) {e : Entry}
    (h : e.purpose ≠ []) : ∃ sect, style.fragment? links name e = some sect := by
  have hcomplete : e.isComplete = true := by simpa [Entry.isComplete] using h
  unfold Style.fragment?
  rw [hcomplete]
  cases style <;> exact ⟨_, rfl⟩

/-- A declaration has a section just when it is documented. -/
theorem sections_cases (d : Site.Declaration) :
    (Site.isDocumented blocks d = false ∧ g.sectionOf? mode blocks d = none) ∨
    (Site.isDocumented blocks d = true ∧ ∃ sect, g.Shows mode blocks d sect ∧
      g.sectionOf? mode blocks d = some (g.display mode d.name, sect)) := by
  unfold Site.isDocumented sectionOf? Site.ofDeclaration? Shows
  cases hdoc : Site.nearestDoc? blocks d.line with
  | none => exact Or.inl ⟨rfl, rfl⟩
  | some doc =>
    simp only [Option.map_some, Option.bind_some, section?]
    by_cases hpurpose : (Entry.parse doc.text).purpose = []
    · refine Or.inl ⟨by simp [hpurpose], ?_⟩
      simp [Style.fragment?, Entry.isComplete, hpurpose]
    · obtain ⟨sect, hsect⟩ :=
        fragment?_of_purpose g.style g.links (g.display mode d.name) hpurpose
      refine Or.inr ⟨by simp [hpurpose], sect, ⟨doc, rfl, hsect⟩, ?_⟩
      rw [hsect]
      rfl

/-- The sections of declarations are about the documented ones, one for each and in order. -/
theorem sections_agree (ds : List Site.Declaration) :
    (ds.filterMap (g.sectionOf? mode blocks)).map (·.1) =
        (ds.filter (Site.isDocumented blocks)).map (fun d => g.display mode d.name) ∧
      List.Forall₂ (g.Shows mode blocks) (ds.filter (Site.isDocumented blocks))
        ((ds.filterMap (g.sectionOf? mode blocks)).map (·.2)) := by
  induction ds with
  | nil => exact ⟨rfl, .nil⟩
  | cons d ds ih =>
    obtain ⟨hnames, hsections⟩ := ih
    rcases g.sections_cases mode blocks d with ⟨hnot, hnone⟩ | ⟨hdoc, sect, hshows, hsome⟩
    · rw [List.filterMap_cons_none hnone, List.filter_cons_of_neg (by simp [hnot])]
      exact ⟨hnames, hsections⟩
    · rw [List.filterMap_cons_some hsome, List.filter_cons_of_pos hdoc]
      simp only [List.map_cons, hnames]
      exact ⟨trivial, .cons hshows hsections⟩

/-! ## Drafts of functions -/

section Draft
variable {mode} (path : Path) (source : Text)

theorem declared_eq (hmode : mode = .library ∨ mode = .methods) :
    g.declared mode source blocks =
      (g.counted mode (Site.declarations source blocks)).map fun d => g.display mode d.name := by
  rcases hmode with rfl | rfl <;> rfl

theorem sites_eq (hmode : mode = .library ∨ mode = .methods) :
    g.sites mode path source blocks =
      (g.counted mode (Site.declarations source blocks)).filterMap (Site.ofDeclaration? blocks) := by
  rcases hmode with rfl | rfl
  · rfl
  · simp [sites, Site.locate, counted]

/-- What goes into the page of a source of functions. -/
theorem sections_eq (hmode : mode = .library ∨ mode = .methods) :
    (g.sites mode path source blocks).filterMap (g.section? mode) =
      (g.counted mode (Site.declarations source blocks)).filterMap (g.sectionOf? mode blocks) := by
  rw [g.sites_eq blocks path source hmode, List.filterMap_filterMap]
  rfl

/-- Under a library's namespace names are shown as they are. -/
theorem display_of_counted {d : Site.Declaration} {ds : List Site.Declaration}
    (h : d ∈ g.counted .library ds) : g.display .library d.name = d.name := by
  have hstart : startsWith (g.layout.scope ++ ".") d.name = true := (List.mem_filter.1 h).2
  unfold display Style.displayName
  simp only [Mode.naming, hstart, if_true]

theorem documented_eq (hmode : (g.draft path source).mode = .library ∨ (g.draft path source).mode = .methods) :
    let blocks := Comment.extract source
    (g.draft path source).documented =
      ((g.counted (g.draft path source).mode (Site.declarations source blocks)).filter
        (Site.isDocumented blocks)).map fun d => g.display (g.draft path source).mode d.name := by
  intro blocks
  rw [← (g.sections_agree _ blocks _).1, ← g.sections_eq blocks path source hmode]
  rfl

/-- The sections of a page; none where there is no page. -/
theorem page_sections (path : Path) (source : Text) :
    (((g.draft path source).page.map Page.sections).getD []) =
      ((g.sites (g.draft path source).mode path source (Comment.extract source)).filterMap
        (g.section? (g.draft path source).mode)).map (·.2) := by
  unfold draft
  dsimp only
  split
  · rename_i hnone
    simp only [Bool.and_eq_true, List.isEmpty_iff] at hnone
    rw [hnone.1.1]
    rfl
  · rfl

end Draft

/-- A source that is processed is reported as its draft has it. -/
theorem report_of_process {g : Generator} {path : Path} {source : Text} {disk : Disk} {report : Report}
    (h : (g.process path source disk).result = .ok report) :
    ∃ outcome, report = (g.draft path source).report outcome := by
  simp only [process] at h
  cases hpage : (g.draft path source).page with
  | none =>
    simp only [hpage] at h
    exact ⟨none, (Except.ok.inj h).symm⟩
  | some page =>
    simp only [hpage] at h
    rcases hwrite : page.write g.force disk with ⟨cause | outcome, done⟩
    · simp only [hwrite] at h
      cases h
    · simp only [hwrite] at h
      exact ⟨some outcome, (Except.ok.inj h).symm⟩

/-- What a source of functions declares and what its page documents: the declarations that count, and
those among them whose nearest entry has a purpose. The page has one section for each of these, and
the style has no say in which they are. -/
theorem documented_agrees (g : Generator) (path : Path) (source : Text) (disk : Disk) (report : Report)
    (hreport : (g.process path source disk).result = .ok report)
    (hmode : report.mode = .library ∨ report.mode = .methods) :
    let blocks := Comment.extract source
    let found := g.counted report.mode (Site.declarations source blocks)
    let shown := found.filter (Site.isDocumented blocks)
    report.declared = found.map (fun d => g.display report.mode d.name) ∧
    report.documented = shown.map (fun d => g.display report.mode d.name) ∧
    report.documented.Sublist report.declared ∧
    List.Forall₂ (g.Shows report.mode blocks) shown
      (((g.draft path source).page.map Page.sections).getD []) ∧
    (∀ (style : Option Style) (disk' : Disk) (other : Report),
      ({ g with chosenStyle := style }.process path source disk').result = .ok other →
        other.documented = report.documented) ∧
    (report.mode = .library →
      report.declared = found.map (·.name) ∧ report.documented = shown.map (·.name)) := by
  intro blocks found shown
  obtain ⟨outcome, rfl⟩ := report_of_process hreport
  have hdeclared : (g.draft path source).declared =
      found.map fun d => g.display (g.draft path source).mode d.name :=
    g.declared_eq blocks source hmode
  have hdocumented : (g.draft path source).documented =
      shown.map fun d => g.display (g.draft path source).mode d.name :=
    g.documented_eq path source hmode
  refine ⟨hdeclared, hdocumented, ?_, ?_, ?_, ?_⟩
  · show (g.draft path source).documented.Sublist (g.draft path source).declared
    rw [hdeclared, hdocumented]
    exact List.filter_sublist.map _
  · have hsections := g.sections_eq blocks path source hmode
    rw [g.page_sections]
    exact hsections ▸ (g.sections_agree _ blocks _).2
  · intro style disk' other hother
    obtain ⟨outcome', rfl⟩ := report_of_process hother
    have hstyled := ({ g with chosenStyle := style } : Generator).documented_eq path source hmode
    exact hstyled.trans hdocumented.symm
  · intro hlibrary
    have hmode : (g.draft path source).mode = .library := hlibrary
    have hfound : ∀ d ∈ found, g.display (g.draft path source).mode d.name = d.name := by
      intro d hd
      have hmem : d ∈ g.counted (g.draft path source).mode (Site.declarations source blocks) := hd
      rw [hmode] at hmem ⊢
      exact g.display_of_counted hmem
    exact ⟨hdeclared.trans (List.map_congr_left hfound),
      hdocumented.trans (List.map_congr_left fun d hd => hfound d (List.mem_of_mem_filter hd))⟩

/-- Of three functions, one is outside the namespace and one has no entry with a purpose. -/
theorem documented_agrees_sample :
    let g : Generator := ⟨.compatibility, none, .standard, ⟨⟨"docs"⟩, ⟨"docs"⟩, "lia"⟩, false⟩
    let source : Text :=
      "--[[Purpose: A]]\nfunction lia.a()\nfunction b()\n--[[Realm:]]\nfunction lia.c()"
    ∃ report, (g.process ⟨"item.lua"⟩ source ⟨.directory [], []⟩).result = .ok report ∧
      report.declared = ["lia.a", "lia.c"] ∧ report.documented = ["lia.a"] := by
  intro g source
  have hmode : (g.process ⟨"item.lua"⟩ source ⟨.directory [], []⟩).result.toOption.map (·.mode) =
      some .library := by decide +kernel
  cases hreport : (g.process ⟨"item.lua"⟩ source ⟨.directory [], []⟩).result with
  | error e =>
    rw [hreport] at hmode
    cases hmode
  | ok report =>
    have hlibrary : report.mode = .library := by
      rw [hreport] at hmode
      exact Option.some.inj hmode
    obtain ⟨hdeclared, hdocumented, -⟩ :=
      documented_agrees g ⟨"item.lua"⟩ source ⟨.directory [], []⟩ report hreport (Or.inl hlibrary)
    rw [hlibrary] at hdeclared hdocumented
    exact ⟨report, rfl, hdeclared.trans (by decide +kernel), hdocumented.trans (by decide +kernel)⟩

end Generator

end LuaReference
