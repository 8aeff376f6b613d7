import LuaReference.Proofs.Run.Rerun
import LuaReference.Run.Batch

/-!
# Sources that come to nothing

* `Page.write_error`, `Generator.processFile_error` : a source that fails makes directories at most;
* `SourceError.inReading`, `Generator.processFile_unread` : one that cannot be read does not even do
  that;
* `Batch.step_disk`, `Batch.step_coverage` : what one more source does to a batch;
* `Generator.results` : the sources of a run, each with what came of it;
* `Generator.foldl_step_readable` : a run without the sources that could not be read;
* `Generator.failures_isolated` : failures leave files, coverage and all other sources alone.
-/

namespace LuaReference

open Text Disk

/-! ## One source -/

theorem Page.write_error {page : Page} {force : Bool} {disk : Disk} {e : FileError}
    (h : (page.write force disk).1 = .error e) :
    Grows disk (page.write force disk).2 fun _ => True := by
  rcases page.write_cases force disk with ⟨-, hw⟩ | ⟨e', -, hw⟩ | ⟨-, -, here, -, hw⟩
  · rw [hw] at h
    cases h
  · rw [hw]
    apply makeParents_grows
    intro _ _ _ _
    trivial
  · rw [hw] at h
    cases h

/-- Whether it was the source itself that could not be read. -/
def SourceError.inReading : SourceError → Bool
  | .unreadable _ _ => true
  | .badEncoding _ => true
  | .unwritable _ _ => false

namespace Generator

variable (g : Generator)

/-- A source whose text is at hand can only fail at its page. -/
theorem process_error {path : Path} {source : Text} {disk : Disk} {e : SourceError}
    (h : (g.process path source disk).result = .error e) :
    e.inReading = false ∧ Grows disk (g.process path source disk).disk fun _ => True := by
  cases hpage : (g.draft path source).page with
  | none =>
    rw [(g.process_of_none hpage disk).2] at h
    cases h
  | some page =>
    obtain ⟨hdisk, hresult⟩ := g.process_of_page hpage disk
    rw [hresult] at h
    cases hwrite : (page.write g.force disk).1 with
    | ok outcome =>
      rw [hwrite] at h
      cases h
    | error cause =>
      rw [hwrite] at h
      obtain rfl := Except.error.inj h
      rw [hdisk]
      exact ⟨rfl, Page.write_error hwrite⟩

theorem processFile_error {path : Path} {disk : Disk} {e : SourceError}
    (h : (g.processFile path disk).result = .error e) :
    Grows disk (g.processFile path disk).disk fun _ => True := by
  unfold processFile at h ⊢
  cases hread : readSource disk path with
  | error cause => exact Grows.refl disk _
  | ok source =>
    rw [hread] at h
    exact (g.process_error h).2

theorem processFile_unread {path : Path} {disk : Disk} {e : SourceError}
    (h : (g.processFile path disk).result = .error e) (he : e.inReading = true) :
    (g.processFile path disk).disk = disk := by
  unfold processFile at h ⊢
  cases hread : readSource disk path with
  | error cause => rfl
  | ok source =>
    rw [hread] at h
    rw [(g.process_error h).1] at he
    cases he

end Generator

/-! ## One more source in a batch -/

namespace Batch

variable (g : Generator) (b : Batch) (path : Path)

theorem step_disk : (b.step g path).disk = (g.processFile path b.disk).disk := by
  dsimp only [step]
  cases (g.processFile path b.disk).result <;> rfl

theorem step_coverage :
    (b.step g path).coverage =
      match (g.processFile path b.disk).result with
      | .ok report => b.coverage.record report
      | .error _ => b.coverage := by
  dsimp only [step]
  cases (g.processFile path b.disk).result <;> rfl

end Batch

namespace Generator

variable (g : Generator)

/-! ## Runs -/

/-- The sources of a run, each with what came of it. -/
def results : List Path → Disk → List (Path × Except SourceError Report)
  | [], _ => []
  | path :: rest, disk =>
    let step := g.processFile path disk
    (path, step.result) :: results rest step.disk

/-- Whether the text of a source was read, by what came of it. -/
def wasRead : Except SourceError Report → Bool
  | .ok _ => true
  | .error e => !e.inReading

/-- The sources of a run that were read, each with what came of it. -/
def readResults (paths : List Path) (disk : Disk) : List (Path × Except SourceError Report) :=
  (g.results paths disk).filter fun r => wasRead r.2

theorem readResults_cons_read {path : Path} {disk : Disk}
    (h : wasRead (g.processFile path disk).result = true) (rest : List Path) :
    g.readResults (path :: rest) disk =
      (path, (g.processFile path disk).result) ::
        g.readResults rest (g.processFile path disk).disk :=
  List.filter_cons_of_pos h

theorem readResults_cons_unread {path : Path} {disk : Disk}
    (h : wasRead (g.processFile path disk).result = false) (rest : List Path) :
    (g.processFile path disk).disk = disk ∧
      g.readResults (path :: rest) disk = g.readResults rest disk := by
  have hdisk : (g.processFile path disk).disk = disk := by
    cases hresult : (g.processFile path disk).result with
    | ok report =>
      rw [hresult] at h
      cases h
    | error e =>
      rw [hresult] at h
      apply g.processFile_unread hresult
      simpa [wasRead] using h
  refine ⟨hdisk, ?_⟩
  have hfilter : g.readResults (path :: rest) disk =
      g.readResults rest (g.processFile path disk).disk :=
    List.filter_cons_of_neg (by simpa using h)
  rw [hfilter, hdisk]

/-- The sources that were read come to the same in a run of their own. -/
theorem results_readResults (paths : List Path) (disk : Disk) :
    g.results ((g.readResults paths disk).map Prod.fst) disk = g.readResults paths disk := by
  induction paths generalizing disk with
  | nil => rfl
  | cons path rest ih =>
    cases hread : wasRead (g.processFile path disk).result with
    | true =>
      rw [g.readResults_cons_read hread, List.map_cons, results]
      exact congrArg _ (ih _)
    | false =>
      rw [(g.readResults_cons_unread hread rest).2]
      exact ih disk

/-- Batches that agree on disk and coverage, one going through all sources and one through those that
can be read, agree in the end. -/
theorem foldl_step_readable (paths : List Path) {a b : Batch} (hdisk : a.disk = b.disk)
    (hcoverage : a.coverage = b.coverage) :
    let thin := ((g.readResults paths b.disk).map Prod.fst).foldl (Batch.step g) a
    let whole := paths.foldl (Batch.step g) b
    thin.disk = whole.disk ∧ thin.coverage = whole.coverage := by
  induction paths generalizing a b with
  | nil => exact ⟨hdisk, hcoverage⟩
  | cons path rest ih =>
    intro thin whole
    cases hread : wasRead (g.processFile path b.disk).result with
    | true =>
      -- both take the source, from disks that are the same
      have hnext := ih (a := a.step g path) (b := b.step g path)
        (by rw [Batch.step_disk, Batch.step_disk, hdisk])
        (by rw [Batch.step_coverage, Batch.step_coverage, hdisk, hcoverage])
      simp only [thin, g.readResults_cons_read hread]
      rw [Batch.step_disk] at hnext
      exact hnext
    | false =>
      obtain ⟨hsame, hfilter⟩ := g.readResults_cons_unread hread rest
      have hstep : (b.step g path).coverage = b.coverage := by
        rw [Batch.step_coverage]
        cases hresult : (g.processFile path b.disk).result with
        | ok report =>
          rw [hresult] at hread
          cases hread
        | error e => rfl
      have hnext := ih (a := a) (b := b.step g path)
        (by rw [Batch.step_disk, hsame, hdisk]) (by rw [hstep, hcoverage])
      simp only [thin, hfilter]
      rw [Batch.step_disk, hsame] at hnext
      exact hnext

/-- A source that fails, for whatever reason, makes directories at most and is not counted. A run
comes to the same disk and the same coverage without the sources that could not be read, and each of
the others comes to the same. -/
theorem failures_isolated :
    (∀ (b : Batch) (path : Path) (e : SourceError), (g.processFile path b.disk).result = .error e →
      Grows b.disk (g.processFile path b.disk).disk (fun _ => True) ∧
      (b.step g path).disk = (g.processFile path b.disk).disk ∧
      (b.step g path).coverage = b.coverage) ∧
    ∀ (paths : List Path) (disk : Disk),
      let kept := g.readResults paths disk
      let thin := g.runAll (kept.map Prod.fst) disk
      let whole := g.runAll paths disk
      thin.disk = whole.disk ∧ thin.coverage = whole.coverage ∧
        thin.coverage.render = whole.coverage.render ∧ g.results (kept.map Prod.fst) disk = kept := by
  constructor
  · intro b path e herror
    refine ⟨g.processFile_error herror, b.step_disk g path, ?_⟩
    rw [Batch.step_coverage, herror]
  · intro paths disk kept thin whole
    obtain ⟨hdisk, hcoverage⟩ := g.foldl_step_readable paths (a := { disk }) (b := { disk }) rfl rfl
    exact ⟨hdisk, hcoverage, congrArg Coverage.render hcoverage, g.results_readResults paths disk⟩

/-- One source is missing, one is no text, and a file stands in the way of the page of a third. -/
theorem failures_isolated_mixed :
    let g : Generator := ⟨.library, none, .standard, ⟨⟨"docs"⟩, ⟨"docs"⟩, "lia"⟩, false⟩
    let disk : Disk :=
      ⟨.directory
        [("a.lua", .file (encode "--[[Purpose: A]]\nfunction lia.a()")),
         ("b.lua", .file [0x2d, 0xff]),
         ("d.lua", .file (encode "--[[Folder: old\nFile: d.md]]\n--[[D]]")),
         ("docs", .directory [("old", .file [0])])], []⟩
    let paths : List Path := [⟨"b.lua"⟩, ⟨"d.lua"⟩, ⟨"c.lua"⟩, ⟨"a.lua"⟩]
    let kept : List Path := [⟨"d.lua"⟩, ⟨"a.lua"⟩]
    (g.processFile ⟨"d.lua"⟩ disk).result = .error (.unwritable ⟨"docs/old/d.md"⟩ .alreadyExists) ∧
      (({ disk } : Batch).step g ⟨"d.lua"⟩).coverage = {} ∧
      (g.readResults paths disk).map Prod.fst = kept ∧
      (g.runAll kept disk).disk = (g.runAll paths disk).disk ∧
      (g.runAll kept disk).coverage = (g.runAll paths disk).coverage := by
  intro g disk paths kept
  have herror : (g.processFile ⟨"d.lua"⟩ disk).result =
      .error (.unwritable ⟨"docs/old/d.md"⟩ .alreadyExists) := by
    rfl
  have hkept : (g.readResults paths disk).map Prod.fst = kept := by decide +kernel
  obtain ⟨hfail, hruns⟩ := failures_isolated g
  obtain ⟨hdisk, hcoverage, -, -⟩ := hruns paths disk
  rw [hkept] at hdisk hcoverage
  exact ⟨herror, (hfail { disk } ⟨"d.lua"⟩ _ herror).2.2, hkept, hdisk, hcoverage⟩

end Generator

end LuaReference
