import LuaReference.Proofs.Files.Parents
import LuaReference.Proofs.Page.Write

/-!
# The history of a page

* `Path.Plain` : a path without dots that ends in a name;
* `Call`, `Call.run` : a page to write, with or without force;
* `Call.after`, `Call.history` : the content after one call, and in closed form after many;
* `Call.foldl_after` : the closed form is what the calls come to;
* `Disk.Ready disk here` : no file stands on the way to a location and no directory at it;
* `Disk.Builds`, `Page.write_builds` : what a page without dots in its path can change;
* `Call.run_aimed`, `Call.foldl_run` : a call for a ready location changes its content by `Call.after`,
  and a run of calls does so for those among them that are for it;
* `Call.calls_write_history` : the content after any calls, whatever else they write.
-/

namespace LuaReference

open Text Disk

/-- A path without dots that neither is empty nor ends with a slash. -/
structure Path.Plain (p : Path) : Prop where
  dotFree : p.DotFree
  text_ne : p.text ≠ []
  no_slash : p.text.getLast? ≠ some '/'

instance (p : Path) : Decidable p.Plain :=
  decidable_of_iff (p.DotFree ∧ p.text ≠ [] ∧ p.text.getLast? ≠ some '/')
    ⟨fun ⟨hdots, hne, hslash⟩ => ⟨hdots, hne, hslash⟩, fun h => ⟨h.dotFree, h.text_ne, h.no_slash⟩⟩

/-- A page to write, with or without force. -/
structure Call where
  page : Page
  force : Bool

namespace Call

/-- The disk after a call. -/
def run (disk : Disk) (call : Call) : Disk := (call.page.write call.force disk).2

/-- The page with what stands at its top. -/
def whole (call : Call) : Bytes := (call.page.render true).encode

/-- The sections of the page alone. -/
def part (call : Call) : Bytes := (call.page.render false).encode

/-- Whether a call replaces all content that it finds. -/
def replaces (call : Call) : Bool := call.force && !call.page.append

/-- The content after a call. -/
def after (old : Bytes) (call : Call) : Bytes :=
  if call.page.yields call.force (!old.isEmpty) then old else call.page.leaves (!old.isEmpty) old

/-- The sections that the appended pages among some calls add. -/
def additions (calls : List Call) : Bytes :=
  (calls.filter fun call => call.page.append).flatMap part

/-- The last call that replaces all content, and the calls after it. -/
def lastReplacing? : List Call → Option (Call × List Call)
  | [] => none
  | call :: rest =>
    match lastReplacing? rest with
    | some found => some found
    | none => if call.replaces then some (call, rest) else none

/-- The content after some calls: what the last page that replaced all wrote, or the content that was
there, or else the first page, and after it the sections of the pages that were appended since. -/
def history (initial : Bytes) (calls : List Call) : Bytes :=
  match lastReplacing? calls with
  | some (call, later) => call.whole ++ additions later
  | none =>
    if initial ≠ [] then initial ++ additions calls
    else
      match calls with
      | [] => []
      | first :: later => first.whole ++ additions later

/-! ## The closed form -/

theorem whole_ne_nil (call : Call) : call.whole ≠ [] := by
  have hchar : String.utf8EncodeChar '#' ≠ [] := by decide
  simp [whole, Page.render, Page.preamble, encode, hchar]

/-- Over no content a page is written whole. -/
theorem after_nil (call : Call) : after [] call = call.whole := by
  unfold after Page.yields Page.leaves
  cases happend : call.page.append <;> simp [whole]

theorem after_replacing {call : Call} (h : call.replaces = true) (old : Bytes) :
    after old call = call.whole := by
  simp only [replaces, Bool.and_eq_true, Bool.not_eq_true'] at h
  simp [after, Page.yields, Page.leaves, h.1, h.2, whole]

/-- Over content, a page that does not replace it adds its sections when it is appended. -/
theorem after_of_ne_nil {call : Call} (h : call.replaces = false) {old : Bytes} (hne : old ≠ []) :
    after old call = old ++ additions [call] := by
  have hold : old.isEmpty = false := by simpa using hne
  unfold after Page.yields Page.leaves additions
  cases happend : call.page.append with
  | true => simp [hold, happend, part]
  | false =>
    have hforce : call.force = false := by simpa [replaces, happend] using h
    simp [hold, happend, hforce]

theorem additions_cons (call : Call) (calls : List Call) :
    additions (call :: calls) = additions [call] ++ additions calls := by
  unfold additions
  cases happend : call.page.append <;> simp [happend]

theorem after_ne_nil (old : Bytes) (call : Call) : after old call ≠ [] := by
  by_cases hold : old = []
  · rw [hold, after_nil]
    exact call.whole_ne_nil
  · cases hreplaces : call.replaces with
    | true =>
      rw [after_replacing hreplaces]
      exact call.whole_ne_nil
    | false =>
      rw [after_of_ne_nil hreplaces hold]
      simp [hold]

/-- Calls one after the other come to the closed form. -/
theorem foldl_after (initial : Bytes) (calls : List Call) :
    calls.foldl after initial = history initial calls := by
  induction calls generalizing initial with
  | nil =>
    unfold history
    cases initial <;> simp [lastReplacing?, additions]
  | cons call calls ih =>
    rw [List.foldl_cons, ih]
    unfold history
    rw [show lastReplacing? (call :: calls) = match lastReplacing? calls with
      | some found => some found
      | none => if call.replaces then some (call, calls) else none from rfl]
    cases lastReplacing? calls with
    | some found => rfl
    | none =>
      -- nothing later replaces all, so the content after this call stays and is added to
      simp only [if_pos (after_ne_nil initial call)]
      cases hreplaces : call.replaces with
      | true => simp only [after_replacing hreplaces, if_true]
      | false =>
        by_cases hinitial : initial = []
        · subst hinitial
          simp [after_nil]
        · simp [hinitial, after_of_ne_nil hreplaces hinitial, additions_cons call calls]

theorem history_ne_nil (initial : Bytes) {calls : List Call} (hne : calls ≠ []) :
    history initial calls ≠ [] := by
  rw [← foldl_after]
  obtain ⟨front, last, rfl⟩ := (List.eq_nil_or_concat calls).resolve_left hne
  rw [List.concat_eq_append, List.foldl_append]
  exact after_ne_nil _ last

end Call

namespace Disk

/-! ## Plain paths -/

/-- The working directory is there, and no file stands on the way to a location and no directory at
it. -/
structure Ready (disk : Disk) (here : Location) : Prop where
  start : disk.root.view disk.cwd = some .directory
  above : ∀ front, front <+: here → front ≠ here →
    ∀ content, disk.root.view front ≠ some (.file content)
  not_directory : disk.root.view here ≠ some .directory

theorem ready_empty {here : Location} (hne : here ≠ []) : Ready ⟨.directory [], []⟩ here where
  start := rfl
  above front _ _ content := by
    rw [view_empty_directory]
    split <;> simp
  not_directory := by
    rw [view_empty_directory, if_neg hne]
    simp

section Plain
variable {disk : Disk} {p : Path}

theorem endsInName_of_plain (h : p.Plain) : EndsInName p := by
  have hsolid := solidPieces_of_text h.text_ne h.no_slash
  obtain ⟨front, last, hp⟩ := List.eq_nil_or_concat p.pieces |>.resolve_left (splitOn_ne_nil _ _)
  rw [List.concat_eq_append] at hp
  have hne : last ≠ [] := solidPieces_getLast (hsolid.trans hp)
  exact ⟨front, last, hp, Path.isName_of_dotFree (h.dotFree last (by simp [hp])) hne⟩

theorem target_plain (h : p.Plain) (hfits : p.Fits)
    (hdir : disk.root.view (disk.innerTrail p).reverse = some .directory)
    (hfree : disk.root.view (disk.destination p) ≠ some .directory) :
    disk.target p = .ok (disk.destination p) := by
  obtain ⟨front, name, hp, hname⟩ := endsInName_of_plain h
  rw [innerTrail_eq h.dotFree] at hdir
  have hsettles := settles_of_directory h.dotFree h.text_ne hfits hdir
  have hshort := hfits.name_short name (by simp [hp])
  rw [target_of_settles hp hname hsettles, if_pos hshort, if_neg hfree]

/-- A plain path is occupied when there is content where it leads to. -/
theorem isOccupied_plain (h : p.Plain) (hfits : p.Fits)
    (hfree : disk.root.view (disk.destination p) ≠ some .directory) :
    disk.isOccupied p = !(disk.contentAt (disk.destination p)).isEmpty := by
  obtain ⟨front, name, hp, hname⟩ := endsInName_of_plain h
  have hdest := (destination_of_name disk hp hname).2
  cases hview : disk.root.view (disk.destination p) with
  | none =>
    rw [contentAt_of_none hview]
    unfold isOccupied
    cases hfind : disk.find p with
    | error e => rfl
    | ok t =>
      have hget := (find_eq_ok_iff.1 hfind).2
      rw [Tree.view_eq_none_iff.1 hview] at hget
      cases hget
  | some node =>
    cases node with
    | directory => exact absurd hview hfree
    | file content =>
      have hdir : disk.root.view (disk.innerTrail p).reverse = some .directory := by
        rw [hdest] at hview
        exact Tree.view_of_append hview (by simp)
      rw [contentAt_of_file hview, isOccupied, find_of_target (target_plain h hfits hdir hfree) hview]

/-- The directories that a plain path needs can be made, and then the path can be written to. -/
theorem makeParents_ready (h : p.Plain) (hfits : p.Fits) (hready : disk.Ready (disk.destination p)) :
    (disk.makeParents p).1 = .ok () ∧
      (disk.makeParents p).2.target p = .ok (disk.destination p) := by
  obtain ⟨front, name, hp, hname⟩ := endsInName_of_plain h
  have hgrows := makeParents_dotFree h.dotFree disk
  have hfront : ∀ outer, outer <+: front → ∀ piece ∈ outer, piece ∈ p.pieces := fun outer houter piece hpiece =>
    hp ▸ List.mem_append_left _ (houter.subset hpiece)
  have hclear : Unblocked disk.root (disk.startTrail p) front := by
    intro outer houter
    have hdest : disk.destination p = (disk.startTrail p).reverse ++ Path.solid front ++ [name] := by
      rw [destination_eq h.dotFree, Path.names, hp, Path.solid_append, Path.solid_cons _ hname.ne_nil,
        Path.solid_nil, List.append_assoc]
    obtain ⟨rest, rfl⟩ := houter
    rw [foldl_turn_dotFree fun piece hpiece => h.dotFree piece (hfront outer (List.prefix_append _ _) piece hpiece),
      List.reverse_append, List.reverse_reverse]
    rw [Path.solid_append, ← List.append_assoc, List.append_assoc] at hdest
    refine hready.above _ (hdest ▸ List.prefix_append _ _) ?_
    rw [hdest]
    simp
  obtain ⟨hok, harrive⟩ := makeParents_of_clear hname (by simp) hp
    (checkPath_of_fits h.text_ne hfits) (view_startTrail hready.start p)
    (fun piece hpiece => hfits.name_short piece (hfront front (List.prefix_refl _) piece hpiece)) hclear
  refine ⟨hok, ?_⟩
  rw [← hgrows.destination]
  refine target_plain h hfits ?_ ?_
  · rw [(destination_of_name _ hp hname).1, hgrows.startTrail]
    exact (arrive_eq_ok_iff.1 harrive).2
  · rw [hgrows.destination]
    rcases hgrows.view (disk.destination p) with heq | ⟨⟨-, hne⟩, -⟩
    · rw [heq]
      exact hready.not_directory
    · exact absurd rfl hne

end Plain

/-! ## What a page without dots in its path can change -/

/-- Directories appeared on the way to a location where nothing stood, and a file at it where no
directory stood; all else is as it was. -/
structure Builds (before after : Disk) (dest : Location) : Prop where
  cwd : after.cwd = before.cwd
  view : ∀ there, after.root.view there = before.root.view there ∨
    (there <+: dest ∧ there ≠ dest ∧ before.root.view there = none ∧
      after.root.view there = some .directory) ∨
    (there = dest ∧ before.root.view there ≠ some .directory ∧
      ∃ content, after.root.view there = some (.file content))

theorem Grows.builds {a b : Disk} {dest : Location}
    (h : Grows a b fun there => there <+: dest ∧ there ≠ dest) : Builds a b dest where
  cwd := h.cwd
  view there := (h.view there).imp_right fun ⟨⟨hpre, hne⟩, hrest⟩ => Or.inl ⟨hpre, hne, hrest⟩

section Builds
variable {a b : Disk} {dest here : Location}

theorem Builds.destination (h : Builds a b dest) (p : Path) : b.destination p = a.destination p :=
  destination_congr h.cwd p

theorem Builds.directory (h : Builds a b dest) {there : Location}
    (hdir : a.root.view there = some .directory) : b.root.view there = some .directory := by
  rcases h.view there with heq | ⟨-, -, hnone, -⟩ | ⟨-, hnot, -⟩
  · rw [heq, hdir]
  · rw [hnone] at hdir
    cases hdir
  · exact absurd hdir hnot

theorem Builds.apart (h : Builds a b dest) (hbelow : ¬ here <+: dest) :
    b.root.view here = a.root.view here := by
  rcases h.view here with heq | ⟨hpre, -⟩ | ⟨rfl, -⟩
  · exact heq
  · exact absurd hpre hbelow
  · exact absurd (List.prefix_refl _) hbelow

/-- A location stays ready when something is built at it, or neither above nor below it. -/
theorem Ready.builds (hready : a.Ready here) (h : Builds a b dest)
    (hdest : dest = here ∨ (¬ dest <+: here ∧ ¬ here <+: dest)) : b.Ready here where
  start := by
    rw [h.cwd]
    exact h.directory hready.start
  above front hpre hne content hfile := by
    rcases h.view front with heq | ⟨-, -, -, hdir⟩ | ⟨rfl, -⟩
    · exact hready.above front hpre hne content (heq ▸ hfile)
    · rw [hdir] at hfile
      cases hfile
    · rcases hdest with rfl | ⟨hnot, -⟩
      · exact hne rfl
      · exact hnot hpre
  not_directory hdir := by
    rcases h.view here with heq | ⟨hpre, hne, -⟩ | ⟨-, -, content, hfile⟩
    · exact hready.not_directory (heq ▸ hdir)
    · rcases hdest with rfl | ⟨-, hnot⟩
      · exact hne rfl
      · exact hnot hpre
    · rw [hfile] at hdir
      cases hdir

end Builds

end Disk

theorem Page.write_builds {page : Page} (hdots : page.path.DotFree) (force : Bool) (disk : Disk) :
    Builds disk (page.write force disk).2 (disk.destination page.path) := by
  have hgrows := makeParents_dotFree hdots disk
  rcases page.write_cases force disk with ⟨-, h⟩ | ⟨e, -, h⟩ | ⟨-, -, here, htarget, h⟩
  · rw [h]
    exact (Grows.refl disk _).builds
  · rw [h]
    exact hgrows.builds
  · rw [h]
    refine ⟨hgrows.cwd, fun there => ?_⟩
    obtain ⟨-, -, hfree, rfl⟩ := target_eq_ok_iff.1 htarget
    simp only [view_putFile htarget]
    rw [hgrows.destination] at hfree ⊢
    by_cases hthere : there = disk.destination page.path
    · subst hthere
      exact Or.inr (Or.inr ⟨rfl, fun hdir => hfree (hgrows.directory hdir), _, if_pos rfl⟩)
    · rw [if_neg hthere]
      exact hgrows.builds.view there

namespace Call

/-! ## Runs of calls -/

/-- The page of a call is for a location, and its path is plain. -/
def Aims (disk : Disk) (here : Location) (call : Call) : Prop :=
  call.page.path.Plain ∧ disk.destination call.page.path = here

instance (disk : Disk) (here : Location) (call : Call) : Decidable (Aims disk here call) :=
  inferInstanceAs (Decidable (_ ∧ _))

/-- The page of a call is for a location neither above another one nor below it. -/
def Apart (disk : Disk) (here : Location) (call : Call) : Prop :=
  call.page.path.DotFree ∧ ¬ disk.destination call.page.path <+: here ∧
    ¬ here <+: disk.destination call.page.path

instance (disk : Disk) (here : Location) (call : Call) : Decidable (Apart disk here call) :=
  inferInstanceAs (Decidable (_ ∧ _))

/-- The calls whose page is for a location. -/
def aimedAt (disk : Disk) (here : Location) (calls : List Call) : List Call :=
  calls.filter fun call => disk.destination call.page.path = here

/-- A page for a location that is ready leaves there what is due after it. -/
theorem run_aimed {disk : Disk} {call : Call} (hplain : call.page.path.Plain)
    (hfits : call.page.path.Fits) (hready : disk.Ready (disk.destination call.page.path)) :
    (call.run disk).contentAt (disk.destination call.page.path) =
      after (disk.contentAt (disk.destination call.page.path)) call := by
  obtain ⟨hok, htarget⟩ := makeParents_ready hplain hfits hready
  have hoccupied := isOccupied_plain hplain hfits hready.not_directory
  have hgrows := makeParents_dotFree hplain.dotFree disk
  rcases call.page.write_cases call.force disk with
    ⟨hyields, h⟩ | ⟨e, herror, -⟩ | ⟨hyields, -, here, hhere, h⟩
  · rw [hoccupied] at hyields
    rw [run, h, after, if_pos hyields]
  · rw [hok, htarget] at herror
    rcases herror with herror | herror <;> cases herror
  · rw [hoccupied] at hyields h
    rw [htarget] at hhere
    obtain rfl := Except.ok.inj hhere
    rw [run, h, after, if_neg (by simp [hyields]), hgrows.contentAt]
    refine contentAt_of_file ?_
    rw [view_putFile htarget, if_pos rfl]

theorem run_builds {call : Call} (hdots : call.page.path.DotFree) (disk : Disk) :
    Builds disk (call.run disk) (disk.destination call.page.path) :=
  Page.write_builds hdots call.force disk

section Step
variable {disk : Disk} {here : Location} {call : Call}

theorem dotFree_of_call (h : Aims disk here call ∨ Apart disk here call) : call.page.path.DotFree :=
  h.elim (·.1.dotFree) (·.1)

theorem run_ready (h : Aims disk here call ∨ Apart disk here call) (hready : disk.Ready here) :
    (call.run disk).Ready here :=
  hready.builds (run_builds (dotFree_of_call h) disk) (h.imp (·.2) (·.2))

theorem run_apart (h : Apart disk here call) : (call.run disk).contentAt here = disk.contentAt here := by
  rw [contentAt_eq, contentAt_eq, (run_builds h.1 disk).apart h.2.2]

theorem aimedAt_cons_of_aims (h : Aims disk here call) (calls : List Call) :
    aimedAt disk here (call :: calls) = call :: aimedAt disk here calls :=
  List.filter_cons_of_pos (by simpa using h.2)

theorem aimedAt_cons_of_apart (h : Apart disk here call) (calls : List Call) :
    aimedAt disk here (call :: calls) = aimedAt disk here calls := by
  refine List.filter_cons_of_neg ?_
  simp only [decide_eq_true_eq]
  intro heq
  exact h.2.1 (heq ▸ List.prefix_refl _)

end Step

/-- Calls leave at a ready location what is due after those of them that are for it. -/
theorem foldl_run {here : Location} {calls : List Call} {disk : Disk} (hready : disk.Ready here)
    (hcalls : ∀ call ∈ calls, Aims disk here call ∨ Apart disk here call)
    (hfits : ∀ call ∈ aimedAt disk here calls, call.page.path.Fits) :
    (calls.foldl run disk).Ready here ∧
      (calls.foldl run disk).contentAt here =
        (aimedAt disk here calls).foldl after (disk.contentAt here) := by
  induction calls generalizing disk with
  | nil => exact ⟨hready, rfl⟩
  | cons call calls ih =>
    rw [List.forall_mem_cons] at hcalls
    have hdest := (run_builds (dotFree_of_call hcalls.1) disk).destination
    -- a call leaves the working directory, so the later pages are for the same locations as before
    have haimed : aimedAt (call.run disk) here calls = aimedAt disk here calls := by
      simp only [aimedAt, hdest]
    have hrest := ih (run_ready hcalls.1 hready) (by simpa only [Aims, Apart, hdest] using hcalls.2)
    rw [haimed] at hrest
    rw [List.foldl_cons]
    rcases hcalls.1 with haims | hapart
    · rw [aimedAt_cons_of_aims haims, List.forall_mem_cons] at hfits
      rw [aimedAt_cons_of_aims haims, List.foldl_cons]
      obtain ⟨hplain, rfl⟩ := haims
      rw [← run_aimed hplain hfits.1 hready]
      exact hrest hfits.2
    · rw [aimedAt_cons_of_apart hapart] at hfits ⊢
      rw [← run_apart hapart]
      exact hrest hfits

/-- The content of a page after any calls for it, whatever else is written between them to paths
without dots that lead neither above it nor below it. -/
theorem calls_write_history (disk : Disk) (p : Path) (calls : List Call)
    (hready : disk.Ready (disk.destination p))
    (hcalls : ∀ call ∈ calls, Aims disk (disk.destination p) call ∨ Apart disk (disk.destination p) call)
    (hfits : ∀ call ∈ aimedAt disk (disk.destination p) calls, call.page.path.Fits)
    (hsome : aimedAt disk (disk.destination p) calls ≠ []) :
    (calls.foldl run disk).root.view (disk.destination p) =
      some (.file (history (disk.contentAt (disk.destination p))
        (aimedAt disk (disk.destination p) calls))) := by
  obtain ⟨hafter, hcontent⟩ := foldl_run hready hcalls hfits
  have hne := history_ne_nil (disk.contentAt (disk.destination p)) hsome
  rw [foldl_after] at hcontent
  rw [← hcontent, contentAt_eq] at hne
  rw [← hcontent, contentAt_eq]
  cases hview : (calls.foldl run disk).root.view (disk.destination p) with
  | none => simp [hview] at hne
  | some node =>
    cases node with
    | file content => rfl
    | directory => exact absurd hview hafter.not_directory

/-- Two pages are appended to one file, and a third is written beside it. -/
theorem appended_pages_history :
    let first : Page := ⟨"T", "S", none, ["one\n\n"], ⟨"docs/a.md"⟩, true⟩
    let other : Page := ⟨"U", "S", none, ["two\n\n"], ⟨"docs/b.md"⟩, false⟩
    let second : Page := ⟨"V", "S", none, ["three\n\n"], ⟨"docs/a.md"⟩, true⟩
    ([⟨first, false⟩, ⟨other, true⟩, ⟨second, false⟩].foldl run ⟨.directory [], []⟩).root.view
        ["docs", "a.md"] =
      some (.file (encode "# T\n\nS\n\n---\n\none\n\n---\n\nthree\n\n---\n\n")) := by
  intro first other second
  have hfits : (⟨"docs/a.md"⟩ : Path).Fits := ⟨by decide, by decide, by decide⟩
  refine calls_write_history ⟨.directory [], []⟩ ⟨"docs/a.md"⟩
    [⟨first, false⟩, ⟨other, true⟩, ⟨second, false⟩] (ready_empty (by decide)) (by decide) ?_
    (by decide)
  intro call hcall
  have hpath : call.page.path = ⟨"docs/a.md"⟩ := by
    revert call
    decide
  exact hpath ▸ hfits

/-- A page whose name is too long for the disk is never written. -/
theorem long_name_has_no_history :
    ¬ ∀ (disk : Disk) (p : Path) (calls : List Call), disk.Ready (disk.destination p) →
      (∀ call ∈ calls,
        Aims disk (disk.destination p) call ∨ Apart disk (disk.destination p) call) →
      aimedAt disk (disk.destination p) calls ≠ [] →
      (calls.foldl run disk).root.view (disk.destination p) =
        some (.file (history (disk.contentAt (disk.destination p))
          (aimedAt disk (disk.destination p) calls))) := by
  intro hall
  have h := hall ⟨.directory [], []⟩ ⟨List.replicate 256 'a'⟩
    [⟨⟨"T", "S", none, [], ⟨List.replicate 256 'a'⟩, false⟩, false⟩] (ready_empty (by decide +kernel))
    (by decide +kernel) (by decide +kernel)
  revert h
  decide +kernel

end Call

end LuaReference
