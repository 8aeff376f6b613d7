import LuaReference.Page.Placement
import LuaReference.Proofs.Files.Component
import LuaReference.Proofs.Text.Case

/-!
# Pages without a target

* `ModuleOf`, `LibraryName` : what the page of a library file is named for;
* `moduleName?_eq_some_iff`, `isItem_iff` : the readers of a source's path, by its components;
* `IsPageName` : a single name with the ending of pages;
* `derived_in_outputDir` : a page that no source asks for elsewhere has one such name in the output
  directory, or in the directory of items.
-/

namespace LuaReference.Placement

open Text

/-! ## The path of a source -/

theorem componentText_eq_iff {c : Component} {n : Text} (hroot : n ≠ "/") (hhere : n ≠ ".")
    (hup : n ≠ "..") : componentText c = n ↔ c = .name n := by
  cases c with
  | root => simpa [componentText] using Ne.symm hroot
  | here => simpa [componentText] using Ne.symm hhere
  | up => simpa [componentText] using Ne.symm hup
  | name m => simp [componentText]

theorem isItem_iff {source : Path} : isItem source = true ↔ .name "items" ∈ source.components := by
  simp only [isItem, List.any_eq_true, beq_iff_eq,
    componentText_eq_iff (n := "items") (by decide) (by decide) (by decide), exists_eq_right]

/-- The component right after the first that is called `modules`, when one more follows. -/
def AfterModules (cs : List Component) (c : Component) : Prop :=
  ∃ front next back, cs = front ++ .name "modules" :: c :: next :: back ∧ .name "modules" ∉ front

/-- The module of a source, by the components of its path. -/
def ModuleOf (source : Path) (name : Text) : Prop :=
  ∃ c, AfterModules source.components c ∧ name = componentText c

theorem afterModules_cons_of_ne {d : Component} (h : d ≠ .name "modules") {cs : List Component}
    {c : Component} : AfterModules (d :: cs) c ↔ AfterModules cs c := by
  constructor
  · rintro ⟨front, next, back, hcs, hfront⟩
    cases front with
    | nil => exact absurd (List.cons.inj hcs).1 h
    | cons e front =>
      exact ⟨front, next, back, (List.cons.inj hcs).2, fun hmem => hfront (List.mem_cons_of_mem e hmem)⟩
  · rintro ⟨front, next, back, rfl, hfront⟩
    refine ⟨d :: front, next, back, rfl, fun hmem => ?_⟩
    exact (List.mem_cons.1 hmem).elim (fun hd => h hd.symm) hfront

theorem afterModules_cons_self {cs : List Component} {c : Component} :
    AfterModules (.name "modules" :: cs) c ↔ ∃ next back, cs = c :: next :: back := by
  constructor
  · rintro ⟨front, next, back, hcs, hfront⟩
    cases front with
    | nil => exact ⟨next, back, (List.cons.inj hcs).2⟩
    | cons e front => exact absurd ((List.cons.inj hcs).1 ▸ List.mem_cons_self) hfront
  · rintro ⟨next, back, rfl⟩
    exact ⟨[], next, back, rfl, List.not_mem_nil⟩

theorem moduleAfter?_eq_some_iff {cs : List Component} {name : Text} :
    moduleAfter? (cs.map componentText) = some name ↔ ∃ c, AfterModules cs c ∧ name = componentText c := by
  have hmodules : ∀ {d : Component}, componentText d = "modules" ↔ d = .name "modules" :=
    componentText_eq_iff (by decide) (by decide) (by decide)
  induction cs with
  | nil => simp [moduleAfter?, AfterModules]
  | cons d cs ih =>
    rw [List.map_cons]
    unfold moduleAfter?
    by_cases hd : d = .name "modules"
    · subst hd
      simp only [afterModules_cons_self]
      rw [if_pos (hmodules.2 rfl)]
      rcases cs with _ | ⟨c, _ | ⟨next, back⟩⟩
      · simp
      · simp
      · simp [eq_comm]
    · rw [if_neg fun htext => hd (hmodules.1 htext)]
      simpa only [afterModules_cons_of_ne hd] using ih

theorem moduleName?_eq_some_iff {source : Path} {name : Text} :
    moduleName? source = some name ↔ ModuleOf source name :=
  moduleAfter?_eq_some_iff

/-- What the page of a library file is named for: its module, or the stem of the file where it has
none. -/
def LibraryName (source : Path) (name : Text) : Prop :=
  ModuleOf source name ∨ (∀ other, ¬ ModuleOf source other) ∧ name = source.stem

theorem libraryName_getD (source : Path) : LibraryName source ((moduleName? source).getD source.stem) := by
  cases h : moduleName? source with
  | some name => exact Or.inl (moduleName?_eq_some_iff.1 h)
  | none =>
    refine Or.inr ⟨fun other hother => ?_, rfl⟩
    rw [moduleName?_eq_some_iff.2 hother] at h
    cases h

theorem not_slash_of_moduleOf {source : Path} {name : Text} (h : ModuleOf source name) : '/' ∉ name := by
  obtain ⟨c, ⟨front, next, back, hcs, -⟩, rfl⟩ := h
  have hc : c ∈ source.components := by simp [hcs]
  cases c with
  | root =>
    refine absurd ?_ (Path.root_not_mem_tail source)
    rw [hcs]
    cases front <;> simp
  | here => decide
  | up => decide
  | name n => exact Path.not_slash_of_name hc

/-! ## The name of a page -/

/-- A single name with the ending of pages. -/
structure IsPageName (file : Text) : Prop where
  ending : ".md" <:+ file
  whole : '/' ∉ file
  not_here : file ≠ "."
  not_up : file ≠ ".."

theorem isPageName_append {t : Text} (h : '/' ∉ t) : IsPageName (t ++ ".md") := by
  have hlong : 3 ≤ (t ++ ".md".toList).length := by
    rw [List.length_append]
    exact Nat.le_add_left 3 _
  refine ⟨List.suffix_append t _, fun hslash => ?_, fun hhere => ?_, fun hup => ?_⟩
  · rcases List.mem_append.1 hslash with hmem | hmem
    · exact h hmem
    · exact absurd hmem (by decide)
  · rw [hhere] at hlong
    exact absurd hlong (by decide)
  · rw [hup] at hlong
    exact absurd hlong (by decide)

theorem IsPageName.isName {file : Text} (h : IsPageName file) : Disk.IsName file := by
  refine ⟨Bool.eq_false_iff.2 fun hidle => ?_, h.not_up⟩
  rw [Path.isIdle, Bool.or_eq_true, List.isEmpty_iff, beq_iff_eq] at hidle
  rcases hidle with rfl | hhere
  · exact absurd h.ending (by decide)
  · exact h.not_here hhere

/-- The name of the page of a source that asks for no other. -/
def derivedName (mode : Mode) (source : Path) (layout : Layout) : Text :=
  match mode with
  | .library | .compatibility =>
    layout.scope ++ "." ++ (moduleName? source).getD source.stem ++ ".md"
  | .methods | .hooks => source.stem ++ ".md"
  | .definitions => lower source.stem ++ ".md"

theorem isPageName_derivedName (mode : Mode) (source : Path) {layout : Layout}
    (hscope : '/' ∉ layout.scope) : IsPageName (derivedName mode source layout) := by
  have hstem := Path.not_slash_of_stem source
  have hname : '/' ∉ (moduleName? source).getD source.stem := by
    rcases libraryName_getD source with hmodule | ⟨-, hname⟩
    · exact not_slash_of_moduleOf hmodule
    · rwa [hname]
  have hlibrary : '/' ∉ layout.scope ++ "." ++ (moduleName? source).getD source.stem := by
    simp [hscope, hname]
  cases mode with
  | library => exact isPageName_append hlibrary
  | compatibility => exact isPageName_append hlibrary
  | methods => exact isPageName_append hstem
  | hooks => exact isPageName_append hstem
  | definitions => exact isPageName_append fun hslash => hstem (mem_of_mem_lower (by decide) (by decide) hslash)

/-! ## The directory of a page -/

/-- Whether the page of a source goes to the directory of items. -/
def InItems (mode : Mode) (source : Path) : Prop :=
  mode = .definitions ∧ .name "items" ∈ source.components

instance (mode : Mode) (source : Path) : Decidable (InItems mode source) :=
  inferInstanceAs (Decidable (_ ∧ _))

theorem outputPath_of_no_target {d : Directives} (h : d.folder = none ∨ d.file = none) (mode : Mode)
    (source : Path) (layout : Layout) :
    outputPath mode source d layout =
      (if InItems mode source then layout.outputDir.join "items" else layout.outputDir).join
        (derivedName mode source layout) := by
  have htarget : d.target? = none := by
    unfold Directives.target?
    rcases h with hfolder | hfile
    · rw [hfolder]
    · rw [hfile]
      cases d.folder <;> rfl
  unfold outputPath
  rw [htarget]
  cases mode with
  | definitions =>
    by_cases hitem : isItem source = true
    · have hin : InItems .definitions source := ⟨rfl, isItem_iff.1 hitem⟩
      simp only [if_pos hitem, if_pos hin]
      rfl
    · have hin : ¬ InItems .definitions source := fun hin => hitem (isItem_iff.2 hin.2)
      simp only [if_neg hitem, if_neg hin]
      rfl
  | _ => simp [InItems, derivedName]

/-- The page of a source that asks for no folder and file is one name in the output directory, or in the
directory of items there. -/
theorem derived_in_outputDir (mode : Mode) (source : Path) {d : Directives} {layout : Layout}
    (hd : d.folder = none ∨ d.file = none) (hscope : '/' ∉ layout.scope) :
    ∃ file, IsPageName file ∧
      outputPath mode source d layout =
        (if InItems mode source then layout.outputDir.join "items" else layout.outputDir).join file ∧
      (outputPath mode source d layout).components =
        layout.outputDir.components ++ (if InItems mode source then [.name "items"] else []) ++
          [.name file] ∧
      (mode = .library ∨ mode = .compatibility →
        ∃ name, LibraryName source name ∧ file = layout.scope ++ "." ++ name ++ ".md") := by
  have hfile := isPageName_derivedName mode source hscope
  have hpath := outputPath_of_no_target hd mode source layout
  refine ⟨derivedName mode source layout, hfile, hpath, ?_, ?_⟩
  · rw [hpath, Path.components_join hfile.isName hfile.whole]
    split
    · have hitems : Disk.IsName "items" := ⟨by decide, by decide⟩
      rw [Path.components_join hitems (by decide)]
    · rw [List.append_nil]
  · rintro (rfl | rfl) <;> exact ⟨_, libraryName_getD source, rfl⟩

/-- A path that leads up right after `modules`: the dots are the name of the module, and the page is still
in the output directory. -/
theorem derived_in_outputDir_up :
    let source : Path := ⟨"/srv//modules/../items/a.lua"⟩
    let d : Directives := { folder := some "meta" }
    let layout : Layout := ⟨⟨"docs/"⟩, ⟨"docs"⟩, "lia"⟩
    (d.folder = none ∨ d.file = none) ∧ '/' ∉ layout.scope ∧
      outputPath .library source d layout = ⟨"docs/lia....md"⟩ ∧
      ∃ file name, IsPageName file ∧ LibraryName source name ∧ file = "lia." ++ name ++ ".md" ∧
        (outputPath .library source d layout).components = [.name "docs", .name file] := by
  intro source d layout
  have hd : d.folder = none ∨ d.file = none := Or.inr rfl
  have hscope : '/' ∉ layout.scope := by decide
  obtain ⟨file, hfile, -, hcomponents, hname⟩ := derived_in_outputDir .library source hd hscope
  obtain ⟨name, hlibrary, hwhole⟩ := hname (Or.inl rfl)
  exact ⟨hd, hscope, by decide +kernel, file, name, hfile, hlibrary, hwhole, hcomponents⟩

end LuaReference.Placement
