import LuaReference.Proofs.Page.Write
import LuaReference.Run.Generator

/-!
# Content that survives a run without force

Whether a page finds content is asked before the directories that it needs are made. A path that goes
through a directory which is not there yet, and climbs out of it again, leads nowhere at that moment
and to an existing file a moment later.

* `Job`, `Job.run` : a source to process or a page to write, without force;
* `Job.Keeps` : no file loses content, and one with content changes only under an appending page;
* `Page.Overruns` : the page is put over content that was not found when it was looked for;
* `Page.Detours` : a path that goes through a missing directory and climbs again;
* `Page.keeps_iff`, `Page.Overruns.detours` : one page keeps all content unless it overruns some, which
  takes a detour;
* `unforced_steps_keep_iff` : the same for every step of every run.
-/

namespace LuaReference

open Text Disk

/-- A step of a run without force: a source to process, or a page to write. -/
inductive Job where
  | process (g : Generator) (unforced : g.force = false) (path : Path) (source : Text)
  | write (page : Page)

namespace Job

/-- The page that a job writes. -/
def page? : Job → Option Page
  | .process g _ path source => (g.draft path source).page
  | .write page => some page

/-- The disk after a job. -/
def run (disk : Disk) : Job → Disk
  | .process g _ path source => (g.process path source disk).disk
  | .write page => (page.write false disk).2

/-- Every file has the content that it had at the start of what it has now, and one that was not
empty changed only under an appending page whose path denotes it. -/
def Keeps (job : Job) (before after : Disk) : Prop :=
  ∀ here content, before.root.view here = some (.file content) →
    ∃ new, after.root.view here = some (.file new) ∧ content <+: new ∧
      (content ≠ [] → new ≠ content → ∃ page, job.page? = some page ∧ page.append = true ∧
        before.destination page.path = here)

/-- Whether something holds of every step of a run. -/
def EachStep (P : Job → Disk → Disk → Prop) : List Job → Disk → Prop
  | [], _ => True
  | job :: rest, disk => P job disk (job.run disk) ∧ EachStep P rest (job.run disk)

theorem run_eq (job : Job) (disk : Disk) :
    job.run disk =
      match job.page? with
      | none => disk
      | some page => (page.write false disk).2 := by
  cases job with
  | write page => rfl
  | process g unforced path source =>
    simp only [run, page?, Generator.process]
    cases (g.draft path source).page with
    | none => rfl
    | some page =>
      simp only [unforced]
      rcases page.write false disk with ⟨result, after⟩
      cases result <;> rfl

end Job

namespace Page

/-- The page is not appended, its path leads nowhere until its directories are made, and then to a
file with other content than the page. -/
def Overruns (page : Page) (disk : Disk) : Prop :=
  page.append = false ∧ disk.find page.path = .error .notFound ∧
    (disk.makeParents page.path).1 = .ok () ∧
    ∃ content, (disk.makeParents page.path).2.find page.path = .ok (.file content) ∧
      content ≠ [] ∧ content ≠ (page.render true).encode

/-- The path of the page goes through a directory that is not there and climbs later. -/
def Detours (page : Page) (disk : Disk) : Prop :=
  ∃ front back, page.path.pieces = front ++ back ∧
    Passable disk.root (disk.startTrail page.path) front ∧
    disk.root.view (front.foldl turn (disk.startTrail page.path)).reverse = none ∧
    (".." : Text) ∈ back

/-! ## One page -/

theorem grows_made (page : Page) (disk : Disk) :
    Grows disk (disk.makeParents page.path).2 fun _ => True :=
  makeParents_grows fun _ _ _ _ => trivial

theorem find_of_not_occupied {disk : Disk} {p : Path} {content : Bytes}
    (h : disk.isOccupied p = false) (hne : content ≠ []) : disk.find p ≠ .ok (.file content) := by
  intro hfind
  simp [isOccupied, hfind, hne] at h

/-- A page that is put over content, and is not appended, overruns it. -/
theorem overruns_of_put {page : Page} {disk : Disk} {here : Location} {content : Bytes}
    (happend : page.append = false)
    (hyield : page.yields false (disk.isOccupied page.path) = false)
    (hmade : (disk.makeParents page.path).1 = .ok ())
    (htarget : (disk.makeParents page.path).2.target page.path = .ok here)
    (hfile : disk.root.view here = some (.file content)) (hne : content ≠ [])
    (hother : content ≠ (page.render true).encode) : page.Overruns disk := by
  have hgrows := page.grows_made disk
  have hfree : disk.isOccupied page.path = false := by
    simpa [yields, happend] using hyield
  have hfind := find_of_target htarget (hgrows.file_iff.2 hfile)
  refine ⟨happend, ?_, hmade, content, hfind, hne, hother⟩
  rcases hgrows.find_file hfind with hbefore | ⟨hbefore, -⟩
  · exact absurd hbefore (find_of_not_occupied hfree hne)
  · exact hbefore

/-- What an overrun leaves: the page alone, where there was other content. -/
theorem Overruns.write {page : Page} {disk : Disk} (h : page.Overruns disk) :
    ∃ here content, disk.root.view here = some (.file content) ∧ content ≠ [] ∧
      content ≠ (page.render true).encode ∧
      (page.write false disk).2.root.view here = some (.file (page.render true).encode) := by
  obtain ⟨happend, hbefore, hmade, content, hafter, hne, hother⟩ := h
  have htarget := target_of_find hafter
  obtain ⟨-, hget⟩ := find_eq_ok_iff.1 hafter
  have hfile := (page.grows_made disk).file_iff.1 (Tree.view_eq_file.2 hget)
  refine ⟨_, content, hfile, hne, hother, ?_⟩
  rcases page.write_cases false disk with ⟨hyield, -⟩ | ⟨e, hfail, -⟩ | ⟨-, -, there, hthere, hw⟩
  · simp [yields, isOccupied, hbefore] at hyield
  · rcases hfail with hfail | hfail
    · rw [hmade] at hfail
      cases hfail
    · rw [htarget] at hfail
      cases hfail
  · obtain rfl := Except.ok.inj (hthere.symm.trans htarget)
    rw [hw, view_putFile hthere, if_pos rfl, leaves, happend]
    rfl

/-- A page that is written without force keeps all content unless it overruns some. -/
theorem keeps_iff (page : Page) (disk : Disk) :
    (Job.write page).Keeps disk (page.write false disk).2 ↔ ¬ page.Overruns disk := by
  constructor
  · intro hkeeps hover
    obtain ⟨here, content, hfile, hne, hother, hafter⟩ := hover.write
    obtain ⟨new, hnew, -, hchanged⟩ := hkeeps here content hfile
    obtain rfl : (page.render true).encode = new := by simpa [hafter] using hnew
    obtain ⟨other, hpage, happend, -⟩ := hchanged hne (Ne.symm hother)
    obtain rfl := Option.some.inj hpage
    rw [hover.1] at happend
    cases happend
  · intro hnot here content hfile
    have hsame := (page.grows_made disk).file_iff.2 hfile
    rcases page.write_cases false disk with ⟨-, hw⟩ | ⟨e, -, hw⟩ | ⟨hyield, hmade, there, htarget, hw⟩
    · rw [hw]
      exact ⟨content, hfile, List.prefix_refl _, fun _ h => absurd rfl h⟩
    · rw [hw]
      exact ⟨content, hsame, List.prefix_refl _, fun _ h => absurd rfl h⟩
    · rw [hw]
      simp only [view_putFile htarget]
      by_cases hhere : here = there
      · subst hhere
        rw [if_pos rfl, contentAt_of_file hsame]
        cases happend : page.append with
        | true =>
          have hdest : disk.destination page.path = here := by
            rw [← (page.grows_made disk).destination, (target_eq_ok_iff.1 htarget).2.2.2]
          refine ⟨_, rfl, ?_, fun _ _ => ⟨page, rfl, happend, hdest⟩⟩
          rw [leaves, if_pos happend]
          exact List.prefix_append _ _
        | false =>
          have hleaves : page.leaves (disk.isOccupied page.path) content = (page.render true).encode := by
            rw [leaves, happend]
            rfl
          rw [hleaves]
          by_cases hne : content = []
          · exact ⟨_, rfl, hne ▸ List.nil_prefix, fun h => absurd hne h⟩
          · by_cases hother : content = (page.render true).encode
            · exact ⟨_, rfl, hother ▸ List.prefix_refl _, fun _ h => absurd hother.symm h⟩
            · exact absurd (overruns_of_put happend hyield hmade htarget hfile hne hother) hnot
      · rw [if_neg hhere]
        exact ⟨content, hsame, List.prefix_refl _, fun _ h => absurd rfl h⟩

/-! ## Detours -/

/-- Content can only be overrun over a detour. -/
theorem Overruns.detours {page : Page} {disk : Disk} (h : page.Overruns disk) :
    page.Detours disk := by
  obtain ⟨-, hbefore, -, content, hafter, -, -⟩ := h
  have hgrows := page.grows_made disk
  obtain ⟨-, hget⟩ := find_eq_ok_iff.1 hafter
  have hfile := hgrows.file_iff.1 (Tree.view_eq_file.2 hget)
  rw [hgrows.destination, destination, trailOf] at hfile
  rcases hgrows.find_file hafter with hfound | ⟨-, front, back, hp, hfront, hnone⟩
  · rw [hbefore] at hfound
    cases hfound
  · refine ⟨front, back, hp, hfront, hnone, ?_⟩
    by_cases hup : (".." : Text) ∈ back
    · exact hup
    · -- without two dots the file would stand below the missing directory
      rw [hp, List.foldl_append, Tree.view_eq_none_above hnone (foldl_turn_down hup _)] at hfile
      cases hfile

end Page

/-! ## Runs -/

namespace Job

/-- Whether the page of a job overruns content. -/
def Overruns (job : Job) (disk : Disk) : Prop := ∃ page, job.page? = some page ∧ page.Overruns disk

/-- Whether the path of a job's page makes a detour. -/
def Detours (job : Job) (disk : Disk) : Prop := ∃ page, job.page? = some page ∧ page.Detours disk

theorem keeps_iff (job : Job) (disk : Disk) :
    job.Keeps disk (job.run disk) ↔ ¬ job.Overruns disk := by
  rw [run_eq]
  unfold Overruns
  cases hpage : job.page? with
  | none =>
    simp only [reduceCtorEq, false_and, exists_false, not_false_eq_true, iff_true]
    intro here content hfile
    exact ⟨content, hfile, List.prefix_refl _, fun _ h => absurd rfl h⟩
  | some page =>
    simp only [Option.some.injEq, exists_eq_left']
    rw [← page.keeps_iff disk]
    have hsame : (Job.write page).page? = job.page? := hpage.symm
    unfold Keeps
    rw [hsame]

theorem eachStep_of_forall {P : Job → Disk → Disk → Prop}
    (h : ∀ job disk, P job disk (job.run disk)) (jobs : List Job) (disk : Disk) :
    EachStep P jobs disk := by
  induction jobs generalizing disk with
  | nil => trivial
  | cons job jobs ih => exact ⟨h job disk, ih (job.run disk)⟩

end Job

/-- Every step of every run without force keeps all content, unless its page overruns a file; and a
page that does so has a path that makes a detour through a missing directory. -/
theorem unforced_steps_keep_iff (jobs : List Job) (disk : Disk) :
    Job.EachStep (fun job before after =>
      (job.Keeps before after ↔ ¬ job.Overruns before) ∧
      (job.Overruns before → job.Detours before)) jobs disk := by
  refine Job.eachStep_of_forall (fun job before => ⟨job.keeps_iff before, ?_⟩) jobs disk
  rintro ⟨page, hpage, hover⟩
  exact ⟨page, hpage, hover.detours⟩

/-- A page in a run without force takes the place of content that was written by hand. -/
theorem detour_replaces_content :
    ¬ Job.EachStep Job.Keeps
      [.write ⟨"T", "S", none, ["new\n\n"], ⟨"a/../x.md"⟩, false⟩]
      ⟨.directory [("x.md", .file (encode "hand edited"))], []⟩ := by
  rintro ⟨hkeeps, -⟩
  have hbefore : (⟨.directory [("x.md", .file (encode "hand edited"))], []⟩ : Disk).root.view ["x.md"] =
      some (.file (encode "hand edited")) := by decide
  obtain ⟨new, hnew, hpre, -⟩ := hkeeps ["x.md"] _ hbefore
  have hafter : (Job.run ⟨.directory [("x.md", .file (encode "hand edited"))], []⟩
      (.write ⟨"T", "S", none, ["new\n\n"], ⟨"a/../x.md"⟩, false⟩)).root.view ["x.md"] =
      some (.file (encode "# T\n\nS\n\n---\n\nnew\n\n---\n\n")) := by decide
  rw [hafter] at hnew
  obtain rfl := Node.file.inj (Option.some.inj hnew)
  exact absurd hpre (by decide)

end LuaReference
