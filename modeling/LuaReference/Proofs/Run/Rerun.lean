import LuaReference.Proofs.Page.History
import LuaReference.Proofs.Run.Documented

/-!
# Running a batch again

* `Disk.Extends before after` : directories stay, files stay files, and one with content keeps some;
* `Page.write_extends` : every page leaves such a disk;
* `Page.write_again` : on it, a page that does not append is not put a second time;
* `Generator.processAll` : sources one after the other, with what came of each;
* `Generator.Settled`, `Generator.processAll_settled` : sources that were processed before;
* `Generator.processAll_twice` : the second pass over a list changes no file.
-/

namespace LuaReference

open Text

namespace Disk

/-! ## Disks that lose nothing -/

/-- Directories stay, files stay files, and one with content does not become empty. -/
structure Extends (before after : Disk) : Prop where
  cwd : after.cwd = before.cwd
  directory : ∀ here, before.root.view here = some .directory → after.root.view here = some .directory
  file : ∀ here content, before.root.view here = some (.file content) →
    ∃ new, after.root.view here = some (.file new) ∧ (content ≠ [] → new ≠ [])

section Extends
variable {a b c : Disk}

theorem Extends.refl (a : Disk) : Extends a a :=
  ⟨rfl, fun _ h => h, fun _ content h => ⟨content, h, fun hne => hne⟩⟩

theorem Extends.trans (h₁ : Extends a b) (h₂ : Extends b c) : Extends a c := by
  refine ⟨h₂.cwd.trans h₁.cwd, fun here h => h₂.directory here (h₁.directory here h), ?_⟩
  intro here content h
  obtain ⟨mid, hmid, hmidNe⟩ := h₁.file here content h
  obtain ⟨new, hnew, hnewNe⟩ := h₂.file here mid hmid
  exact ⟨new, hnew, fun hne => hnewNe (hmidNe hne)⟩

theorem Grows.extends {W : Location → Prop} (h : Grows a b W) : Extends a b :=
  ⟨h.cwd, fun _ => h.directory, fun _ content hfile => ⟨content, h.file_iff.2 hfile, fun hne => hne⟩⟩

theorem Extends.startTrail (h : Extends a b) (p : Path) : b.startTrail p = a.startTrail p :=
  startTrail_congr h.cwd p

theorem Extends.destination (h : Extends a b) (p : Path) : b.destination p = a.destination p :=
  destination_congr h.cwd p

theorem Extends.start (h : Extends a b) (hstart : a.root.view a.cwd = some .directory) :
    b.root.view b.cwd = some .directory := by
  rw [h.cwd]
  exact h.directory _ hstart

theorem Extends.passable (h : Extends a b) {trail pieces : List Text}
    (hpass : Passable a.root trail pieces) : Passable b.root trail pieces := by
  induction pieces generalizing trail with
  | nil => trivial
  | cons piece rest ih =>
    obtain ⟨hdir, hname, hrest⟩ := hpass
    exact ⟨h.directory _ hdir, hname, ih hrest⟩

theorem Extends.reaches (h : Extends a b) {p : Path} (hreaches : a.Reaches p) : b.Reaches p := by
  refine ⟨hreaches.1, ?_⟩
  rw [h.startTrail]
  exact h.passable hreaches.2

theorem Extends.isOccupied (h : Extends a b) {p : Path} (hocc : a.isOccupied p = true) :
    b.isOccupied p = true := by
  obtain ⟨hreaches, hthere⟩ := isOccupied_iff.1 hocc
  refine isOccupied_iff.2 ⟨h.reaches hreaches, ?_⟩
  rw [h.destination]
  rcases hthere with hdir | ⟨content, hfile, hne⟩
  · exact Or.inl (h.directory _ hdir)
  · obtain ⟨new, hnew, hnewNe⟩ := h.file _ content hfile
    exact Or.inr ⟨new, hnew, hnewNe hne⟩

theorem extends_putFile {disk : Disk} {p : Path} {here : Location} (h : disk.target p = .ok here)
    {content : Bytes} (hcontent : disk.contentAt here ≠ [] → content ≠ []) :
    Extends disk (disk.putFile here content) := by
  obtain ⟨-, -, hfree, rfl⟩ := target_eq_ok_iff.1 h
  refine ⟨rfl, fun there hdir => ?_, fun there old hfile => ?_⟩
  · rw [view_putFile h, if_neg]
    · exact hdir
    · rintro rfl
      exact hfree hdir
  · rw [view_putFile h]
    split
    · rename_i hthere
      subst hthere
      rw [contentAt_of_file hfile] at hcontent
      exact ⟨content, rfl, hcontent⟩
    · exact ⟨old, hfile, fun hne => hne⟩

end Extends

/-- A walk to the last piece passes through directories only. -/
theorem directory_of_passable {root : Tree} {trail front outer : List Text} {name : Text}
    (h : Passable root trail (front ++ [name])) (houter : outer <+: front) :
    root.view (outer.foldl turn trail).reverse = some .directory := by
  obtain ⟨rest, rfl⟩ := houter
  rw [List.append_assoc, passable_append] at h
  cases rest with
  | nil => exact h.2.1
  | cons piece rest => exact h.2.1

theorem short_of_passable {root : Tree} {trail pieces : List Text} (h : Passable root trail pieces) :
    ∀ piece ∈ pieces, byteLength piece ≤ longestName := by
  induction pieces generalizing trail with
  | nil => simp
  | cons piece rest ih =>
    obtain ⟨-, hname, hrest⟩ := h
    rw [List.forall_mem_cons]
    exact ⟨hname, ih hrest⟩

end Disk

namespace Page

open Disk

/-! ## A page that was written before -/

theorem leaves_ne_nil (page : Page) (occupied : Bool) {old : Bytes} (hne : old ≠ []) :
    page.leaves occupied old ≠ [] := by
  unfold leaves
  split
  · simp [hne]
  · exact Call.whole_ne_nil ⟨page, false⟩

theorem write_extends (page : Page) (force : Bool) (disk : Disk) :
    Extends disk (page.write force disk).2 := by
  have hgrows : Grows disk (disk.makeParents page.path).2 fun _ => True :=
    makeParents_grows fun _ _ _ _ => trivial
  rcases page.write_cases force disk with ⟨-, h⟩ | ⟨e, -, h⟩ | ⟨-, -, here, htarget, h⟩
  · rw [h]
    exact Extends.refl disk
  · rw [h]
    exact hgrows.extends
  · rw [h]
    exact hgrows.extends.trans (extends_putFile htarget (page.leaves_ne_nil _))

theorem isOccupied_put {page : Page} {disk : Disk} {here : Location}
    (htarget : disk.target page.path = .ok here) (happend : page.append = false) (occupied : Bool) :
    (disk.putFile here (page.leaves occupied (disk.contentAt here))).isOccupied page.path = true := by
  have hwhole : page.leaves occupied (disk.contentAt here) ≠ [] := by
    unfold leaves
    rw [happend]
    exact Call.whole_ne_nil ⟨page, false⟩
  have hextends := extends_putFile htarget fun _ => hwhole
  obtain ⟨hreaches, -, -, rfl⟩ := target_eq_ok_iff.1 htarget
  refine isOccupied_iff.2 ⟨hextends.reaches hreaches, Or.inr ⟨_, ?_, hwhole⟩⟩
  rw [hextends.destination, view_putFile htarget, if_pos rfl]

section Again
variable {page : Page} {before after : Disk}

/-- Where a page failed and nothing was lost since, it cannot be put. -/
theorem not_put_of_error (hstart : before.root.view before.cwd = some .directory) {e : FileError}
    (herror : (before.makeParents page.path).1 = .error e ∨
      (before.makeParents page.path).2.target page.path = .error e)
    (h : Extends (before.makeParents page.path).2 after) {here : Location} :
    (after.makeParents page.path).2.target page.path ≠ .ok here := by
  intro htarget
  have hbefore : Grows before (before.makeParents page.path).2 fun _ => True :=
    makeParents_grows fun _ _ _ _ => trivial
  have hafter : Grows after (after.makeParents page.path).2 fun _ => True :=
    makeParents_grows fun _ _ _ _ => trivial
  have hall := (hbefore.extends.trans h).trans hafter.extends
  obtain ⟨⟨hcheck, hpass⟩, ⟨front, name, hp, hname⟩, hfree, -⟩ := target_eq_ok_iff.1 htarget
  rw [hall.startTrail, hp] at hpass
  have hshort := short_of_passable hpass
  -- a file on the way would still be there
  have hclear : Unblocked before.root (before.startTrail page.path) front := by
    intro outer houter content hfile
    obtain ⟨new, hnew, -⟩ := hall.file _ content hfile
    rw [directory_of_passable hpass houter] at hnew
    cases hnew
  obtain ⟨hok, harrive⟩ := makeParents_of_clear hname (by simp) hp hcheck (view_startTrail hstart page.path)
    (fun piece hpiece => hshort piece (List.mem_append_left _ hpiece)) hclear
  have hput : (before.makeParents page.path).2.target page.path =
      .ok ((before.makeParents page.path).2.destination page.path) := by
    refine target_eq_ok_iff.2 ⟨?_, ⟨front, name, hp, hname⟩, fun hdir => hfree ?_, rfl⟩
    · obtain ⟨hfront, hdir⟩ := arrive_eq_ok_iff.1 harrive
      refine ⟨hcheck, ?_⟩
      rw [hbefore.startTrail, hp, passable_append]
      exact ⟨hfront, hdir, hshort name (by simp), trivial⟩
    · rw [hafter.destination, h.destination]
      exact hafter.directory (h.directory _ hdir)
  rcases herror with herror | herror
  · rw [hok] at herror
    cases herror
  · rw [hput] at herror
    cases herror

/-- A page that does not append is left alone or fails where it was tried before, as long as nothing
was lost since; no file changes. -/
theorem write_again (happend : page.append = false)
    (hstart : before.root.view before.cwd = some .directory)
    (h : Extends (page.write false before).2 after) :
    ((page.write false after).1 = .ok .skipped ∨ ∃ e, (page.write false after).1 = .error e) ∧
      Grows after (page.write false after).2 fun _ => True := by
  have hafter : Grows after (after.makeParents page.path).2 fun _ => True :=
    makeParents_grows fun _ _ _ _ => trivial
  rcases page.write_cases false after with ⟨-, hw⟩ | ⟨e, -, hw⟩ | ⟨hyield, -, here, htarget, hw⟩
  · rw [hw]
    exact ⟨Or.inl rfl, Grows.refl _ _⟩
  · rw [hw]
    exact ⟨Or.inr ⟨e, rfl⟩, hafter⟩
  · -- it was not put before either, and then there would be content now
    have hfree : after.isOccupied page.path = false := by
      simpa [yields, happend] using hyield
    rcases page.write_cases false before with
      ⟨hyield', hw'⟩ | ⟨e, herror, hw'⟩ | ⟨-, -, there, hthere, hw'⟩
    · rw [hw'] at h
      have hocc : before.isOccupied page.path = true := by
        simpa [yields, happend] using hyield'
      rw [h.isOccupied hocc] at hfree
      cases hfree
    · rw [hw'] at h
      exact absurd htarget (not_put_of_error hstart herror h)
    · rw [hw'] at h
      have hocc := isOccupied_put hthere happend (before.isOccupied page.path)
      rw [h.isOccupied hocc] at hfree
      cases hfree

end Again

end Page

namespace Generator

open Disk

/-! ## One source -/

variable (g : Generator)

theorem process_of_none {path : Path} {source : Text} (h : (g.draft path source).page = none)
    (disk : Disk) :
    (g.process path source disk).disk = disk ∧
      (g.process path source disk).result = .ok ((g.draft path source).report none) := by
  unfold process
  simp only [h, and_self]

/-- What becomes of a source is what becomes of its page. -/
theorem process_of_page {path : Path} {source : Text} {page : Page}
    (h : (g.draft path source).page = some page) (disk : Disk) :
    (g.process path source disk).disk = (page.write g.force disk).2 ∧
      (g.process path source disk).result =
        match (page.write g.force disk).1 with
        | .ok outcome => .ok ((g.draft path source).report (some outcome))
        | .error cause => .error (.unwritable page.path cause) := by
  unfold process
  rcases hwrite : page.write g.force disk with ⟨_ | _, done⟩ <;> simp only [h, hwrite, and_self]

theorem page_append {path : Path} {source : Text} {page : Page}
    (h : (g.draft path source).page = some page) :
    page.append = (Directives.ofBlocks (Comment.extract source)).append := by
  unfold draft at h
  dsimp only at h
  split at h
  · cases h
  · obtain rfl := Option.some.inj h
    rfl

theorem process_extends (path : Path) (source : Text) (disk : Disk) :
    Extends disk (g.process path source disk).disk := by
  cases hpage : (g.draft path source).page with
  | none =>
    rw [(g.process_of_none hpage disk).1]
    exact Extends.refl disk
  | some page =>
    rw [(g.process_of_page hpage disk).1]
    exact page.write_extends g.force disk

/-! ## Sources one after the other -/

/-- Processes sources one after the other: what came of each, and the disk after all. -/
def processAll : List (Path × Text) → Disk → List (Except SourceError Report) × Disk
  | [], disk => ([], disk)
  | (path, source) :: rest, disk =>
    let step := g.process path source disk
    let others := processAll rest step.disk
    (step.result :: others.1, others.2)

/-- A source that was processed on a disk of which nothing was lost since. -/
def Settled (source : Path × Text) (disk : Disk) : Prop :=
  ∃ before : Disk, before.root.view before.cwd = some .directory ∧
    Extends (g.process source.1 source.2 before).disk disk

theorem processAll_extends (sources : List (Path × Text)) (disk : Disk) :
    Extends disk (g.processAll sources disk).2 := by
  induction sources generalizing disk with
  | nil => exact Extends.refl disk
  | cons source rest ih => exact (g.process_extends source.1 source.2 disk).trans (ih _)

/-- After a pass every source is settled. -/
theorem settled_processAll (sources : List (Path × Text)) {disk : Disk}
    (hstart : disk.root.view disk.cwd = some .directory) :
    ∀ source ∈ sources, g.Settled source (g.processAll sources disk).2 := by
  induction sources generalizing disk with
  | nil => simp
  | cons source rest ih =>
    rw [List.forall_mem_cons]
    exact ⟨⟨disk, hstart, g.processAll_extends rest _⟩,
      ih ((g.process_extends source.1 source.2 disk).start hstart)⟩

/-- What a source that does not append comes to when it is settled. -/
theorem process_settled {g : Generator} (hforce : g.force = false) {source : Path × Text} {disk : Disk}
    (happend : (Directives.ofBlocks (Comment.extract source.2)).append = false)
    (h : g.Settled source disk) :
    Grows disk (g.process source.1 source.2 disk).disk (fun _ => True) ∧
      ∀ report, (g.process source.1 source.2 disk).result = .ok report →
        report.outcome = none ∨ report.outcome = some .skipped := by
  obtain ⟨before, hstart, hextends⟩ := h
  cases hpage : (g.draft source.1 source.2).page with
  | none =>
    obtain ⟨hdisk, hresult⟩ := g.process_of_none hpage disk
    rw [hdisk, hresult]
    refine ⟨Grows.refl _ _, fun report hreport => Or.inl ?_⟩
    rw [← Except.ok.inj hreport]
    rfl
  | some page =>
    obtain ⟨hdisk, hresult⟩ := g.process_of_page hpage disk
    rw [(g.process_of_page hpage before).1, hforce] at hextends
    rw [hdisk, hresult, hforce]
    obtain ⟨hagain, hgrows⟩ :=
      Page.write_again ((g.page_append hpage).trans happend) hstart hextends
    refine ⟨hgrows, fun report hreport => ?_⟩
    rcases hagain with hskipped | ⟨e, herror⟩
    · rw [hskipped] at hreport
      rw [← Except.ok.inj hreport]
      exact Or.inr rfl
    · rw [herror] at hreport
      cases hreport

/-- A pass over settled sources makes directories at most, and puts no page. -/
theorem processAll_settled {g : Generator} (hforce : g.force = false) {sources : List (Path × Text)}
    (happend : ∀ source ∈ sources, (Directives.ofBlocks (Comment.extract source.2)).append = false)
    {disk : Disk} (h : ∀ source ∈ sources, g.Settled source disk) :
    Grows disk (g.processAll sources disk).2 (fun _ => True) ∧
      ∀ result ∈ (g.processAll sources disk).1, ∀ report, result = .ok report →
        report.outcome = none ∨ report.outcome = some .skipped := by
  induction sources generalizing disk with
  | nil => exact ⟨Grows.refl _ _, fun _ hresult => nomatch hresult⟩
  | cons source rest ih =>
    rw [List.forall_mem_cons] at happend h
    obtain ⟨hgrows, hfirst⟩ := process_settled hforce happend.1 h.1
    have hrest : ∀ other ∈ rest, g.Settled other (g.process source.1 source.2 disk).disk := by
      intro other hother
      obtain ⟨before, hstart, hextends⟩ := h.2 other hother
      exact ⟨before, hstart, hextends.trans hgrows.extends⟩
    obtain ⟨hall, hothers⟩ := ih happend.2 hrest
    refine ⟨hgrows.trans hall, ?_⟩
    simp only [processAll, List.forall_mem_cons]
    exact ⟨hfirst, hothers⟩

/-- What is said about a source does not depend on the disk. -/
theorem forall₂_processAll (sources : List (Path × Text)) (disk disk' : Disk) :
    List.Forall₂ (fun first second => ∀ r s, first = .ok r → second = .ok s →
        s.mode = r.mode ∧ s.declared = r.declared ∧ s.documented = r.documented ∧
          s.hooksUsed = r.hooksUsed)
      (g.processAll sources disk).1 (g.processAll sources disk').1 := by
  induction sources generalizing disk disk' with
  | nil => exact .nil
  | cons source rest ih =>
    refine .cons ?_ (ih _ _)
    intro r s hr hs
    obtain ⟨outcome, rfl⟩ := report_of_process hr
    obtain ⟨outcome', rfl⟩ := report_of_process hs
    exact ⟨rfl, rfl, rfl, rfl⟩

/-- The second pass over sources that do not append leaves every file as it was, writes and appends
nothing, and says of every source what the first pass said. -/
theorem processAll_twice (g : Generator) (sources : List (Path × Text)) (disk : Disk)
    (hforce : g.force = false)
    (happend : ∀ source ∈ sources, (Directives.ofBlocks (Comment.extract source.2)).append = false)
    (hstart : disk.root.view disk.cwd = some .directory) :
    let first := g.processAll sources disk
    let second := g.processAll sources first.2
    (∀ here content, second.2.root.view here = some (.file content) ↔
      first.2.root.view here = some (.file content)) ∧
    (∀ result ∈ second.1, ∀ report, result = .ok report →
      report.outcome ≠ some .written ∧ report.outcome ≠ some .appended) ∧
    List.Forall₂ (fun before after => ∀ r s, before = .ok r → after = .ok s →
        s.mode = r.mode ∧ s.declared = r.declared ∧ s.documented = r.documented ∧
          s.hooksUsed = r.hooksUsed) first.1 second.1 := by
  intro first second
  obtain ⟨hgrows, hresults⟩ :=
    processAll_settled hforce happend (g.settled_processAll sources hstart)
  refine ⟨fun here content => hgrows.file_iff, fun result hresult report hreport => ?_,
    g.forall₂_processAll sources disk first.2⟩
  rcases hresults result hresult report hreport with hnone | hskipped
  · simp [hnone]
  · simp [hskipped]

/-- Two sources share a page, a third reaches it through a directory that has to be made first, and a
file stands in the way of a fourth. -/
theorem processAll_twice_shared :
    let g : Generator := ⟨.library, none, .standard, ⟨⟨"docs"⟩, ⟨"docs"⟩, "lia"⟩, false⟩
    let sources : List (Path × Text) :=
      [(⟨"a/item.lua"⟩, "--[[Purpose: A]]\nfunction lia.a()"),
       (⟨"b/item.lua"⟩, "--[[Purpose: B]]\nfunction lia.b()"),
       (⟨"c.lua"⟩, "--[[Folder: new/..\nFile: lia.item.md]]\n--[[Purpose: C]]\nfunction lia.c()"),
       (⟨"d.lua"⟩, "--[[Folder: old\nFile: d.md]]\n--[[Purpose: D]]\nfunction lia.d()")]
    let disk : Disk := ⟨.directory [("docs", .directory [("old", .file [0])])], []⟩
    let outcomes := fun (results : List (Except SourceError Report)) =>
      results.map fun result => result.toOption.map (·.outcome)
    outcomes (g.processAll sources disk).1 =
        [some (some .written), some (some .skipped), some (some .written), none] ∧
      ∀ result ∈ (g.processAll sources (g.processAll sources disk).2).1, ∀ report,
        result = .ok report → report.outcome ≠ some .written ∧ report.outcome ≠ some .appended := by
  intro g sources disk outcomes
  have hpass := processAll_twice g sources disk rfl (by decide +kernel) (by decide +kernel)
  exact ⟨by decide +kernel, hpass.2.1⟩

end Generator

end LuaReference
