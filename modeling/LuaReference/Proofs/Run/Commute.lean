import LuaReference.Proofs.Coverage
import LuaReference.Proofs.Page.Independent
import LuaReference.Proofs.Run.Rerun

/-!
# Sources in any order

* `Disk.Merged` : a disk under some patches, in whatever order they were put over it;
* `Generator.place?`, `Generator.Apart` : where the page of a source goes, and sources whose pages do
  not get in each other's way;
* `Generator.Effect`, `Generator.exists_effect` : a source puts one patch over all disks that agree on
  the way to its page;
* `Generator.processAll_merges` : sources that are apart come to what each comes to alone;
* `Generator.processAll_perm` : so their order does not matter.
-/

namespace LuaReference

open Text

namespace Disk

/-! ## Patches in any order -/

section Merged
variable {ι : Type} {patch : ι → Location → Option Node} {done : List ι} {base disk : Disk}

/-- Some patches were put over `base`: what each of them says holds, and all else is as it was. -/
structure Merged (patch : ι → Location → Option Node) (done : List ι) (base disk : Disk) : Prop where
  cwd : disk.cwd = base.cwd
  new : ∀ i ∈ done, ∀ there n, patch i there = some n → disk.root.view there = some n
  old : ∀ there, (∀ i ∈ done, patch i there = none) → disk.root.view there = base.root.view there

theorem Merged.nil (patch : ι → Location → Option Node) (base : Disk) : Merged patch [] base base :=
  ⟨rfl, fun _ hi => (nomatch hi), fun _ _ => rfl⟩

theorem untouched_or_patched (patch : ι → Location → Option Node) (done : List ι) (there : Location) :
    (∀ i ∈ done, patch i there = none) ∨ ∃ i ∈ done, ∃ n, patch i there = some n := by
  by_cases h : ∃ i ∈ done, ∃ n, patch i there = some n
  · exact Or.inr h
  · refine Or.inl fun i hi => Option.eq_none_iff_forall_ne_some.2 fun n hn => ?_
    exact h ⟨i, hi, n, hn⟩

/-- Nothing but the set of patches matters. -/
theorem Merged.view_eq {done' : List ι} {disk' : Disk} (h : Merged patch done base disk)
    (h' : Merged patch done' base disk') (hsame : ∀ i, i ∈ done ↔ i ∈ done') (there : Location) :
    disk'.root.view there = disk.root.view there := by
  rcases untouched_or_patched patch done there with hold | ⟨i, hi, n, hn⟩
  · rw [h.old there hold, h'.old there fun i hi => hold i ((hsame i).2 hi)]
  · rw [h.new i hi there n hn, h'.new i ((hsame i).1 hi) there n hn]

/-- One more patch, which contradicts none of those before it. -/
theorem Merged.concat (h : Merged patch done base disk) {i : ι} {after : Disk}
    (hpatched : Patched (patch i) disk after)
    (hsame : ∀ j ∈ done, ∀ there n m, patch j there = some n → patch i there = some m → n = m) :
    Merged patch (done ++ [i]) base after := by
  refine ⟨hpatched.cwd.trans h.cwd, fun j hj there n hn => ?_, fun there hold => ?_⟩
  · rw [hpatched.view]
    rcases List.mem_append.1 hj with hj | hj
    · cases hi : patch i there with
      | none => exact h.new j hj there n hn
      | some m => rw [hsame j hj there n m hn hi, Option.some_or]
    · rw [List.mem_singleton] at hj
      subst hj
      rw [hn, Option.some_or]
  · rw [hpatched.view, hold i (by simp), Option.none_or]
    exact h.old there fun j hj => hold j (List.mem_append_left _ hj)

/-- Patches that only say which directories lead to a location. -/
theorem Merged.agrees (h : Merged patch done base disk) {dest : Location}
    (hway : ∀ i ∈ done, ∀ there n, patch i there = some n → there <+: dest →
      there ≠ dest ∧ n = .directory ∧ ∀ content, base.root.view there ≠ some (.file content)) :
    Agrees base disk dest := by
  refine ⟨h.cwd, fun there hpre => ?_⟩
  rcases untouched_or_patched patch done there with hold | ⟨i, hi, n, hn⟩
  · exact Or.inl (h.old there hold)
  · have hview := h.new i hi there n hn
    obtain ⟨hne, rfl, hfile⟩ := hway i hi there n hn hpre
    cases hbase : base.root.view there with
    | none => exact Or.inr ⟨hne, rfl, hview⟩
    | some node =>
      cases node with
      | file content => exact absurd hbase (hfile content)
      | directory => exact Or.inl hview

end Merged

end Disk

namespace Generator

open Disk

/-! ## Sources and their pages -/

/-- Where the page of a source goes. -/
def place? (g : Generator) (disk : Disk) (source : Path × Text) : Option Location :=
  (g.draft source.1 source.2).page.map fun page => disk.destination page.path

/-- Neither page stands at the other's location or above it. -/
def Apart (g : Generator) (disk : Disk) (a b : Path × Text) : Prop :=
  ∀ here ∈ g.place? disk a, ∀ there ∈ g.place? disk b, ¬ here <+: there ∧ ¬ there <+: here

instance (g : Generator) (disk : Disk) : DecidableRel (g.Apart disk) :=
  fun a b => inferInstanceAs (Decidable
    (∀ here ∈ g.place? disk a, ∀ there ∈ g.place? disk b, ¬ here <+: there ∧ ¬ there <+: here))

/-- All that a source does to disks that agree with `base` on the way to its page. -/
structure Effect (g : Generator) (base : Disk) (source : Path × Text)
    (patch : Location → Option Node) : Prop where
  way : ∀ there n, patch there = some n → ∃ dest ∈ g.place? base source, OnWay base dest there n
  run : ∀ disk, (∀ dest ∈ g.place? base source, Agrees base disk dest) →
    (g.process source.1 source.2 disk).result = (g.process source.1 source.2 base).result ∧
      Patched patch disk (g.process source.1 source.2 disk).disk

section Effect
variable {g : Generator} {base : Disk}

theorem Apart.symm {a b : Path × Text} (h : g.Apart base a b) : g.Apart base b a :=
  fun here hhere there hthere => (h there hthere here hhere).symm

theorem exists_effect {source : Path × Text}
    (hup : ∀ page ∈ (g.draft source.1 source.2).page, (".." : Text) ∉ page.path.pieces)
    (hstart : base.root.view base.cwd = some .directory) : ∃ patch, g.Effect base source patch := by
  cases hpage : (g.draft source.1 source.2).page with
  | none =>
    refine ⟨fun _ => none, fun _ _ h => (nomatch h), fun disk _ => ?_⟩
    obtain ⟨hdisk, hresult⟩ := g.process_of_none hpage disk
    rw [hdisk, hresult, (g.process_of_none hpage base).2]
    exact ⟨rfl, Patched.refl disk⟩
  | some page =>
    have hplace : g.place? base source = some (base.destination page.path) := by
      unfold place?
      rw [hpage, Option.map_some]
    obtain ⟨patch, hway, hall⟩ := page.write_agrees g.force (hup page hpage) hstart
    refine ⟨patch, fun there n hn => ⟨_, hplace, hway there n hn⟩, fun disk hagrees => ?_⟩
    obtain ⟨hsame, hpatched⟩ := hall disk (hagrees _ hplace)
    obtain ⟨hdisk, hresult⟩ := g.process_of_page hpage disk
    rw [hdisk, hresult, (g.process_of_page hpage base).2, hsame]
    exact ⟨rfl, hpatched⟩

/-- A source leaves only directories on the way to the page of another one. -/
theorem Effect.directory {a b : Path × Text} {patch : Location → Option Node}
    (h : g.Effect base a patch) (hapart : g.Apart base a b) {dest : Location}
    (hdest : dest ∈ g.place? base b) {there : Location} {n : Node} (hn : patch there = some n)
    (hpre : there <+: dest) :
    there ≠ dest ∧ n = .directory ∧ ∀ content, base.root.view there ≠ some (.file content) := by
  obtain ⟨here, hhere, hway⟩ := h.way there n hn
  obtain ⟨hbelow, habove⟩ := hapart here hhere dest hdest
  refine ⟨?_, hway.above ?_⟩
  · rintro rfl
    exact habove hway.toward
  · rintro rfl
    exact hbelow hpre

theorem Effect.compatible {a b : Path × Text} {patch patch' : Location → Option Node}
    (h : g.Effect base a patch) (h' : g.Effect base b patch') (hapart : g.Apart base a b)
    {there : Location} {n m : Node} (hn : patch there = some n) (hm : patch' there = some m) :
    n = m := by
  obtain ⟨here, hhere, hway⟩ := h.way there n hn
  obtain ⟨dest, hdest, hway'⟩ := h'.way there m hm
  obtain ⟨-, rfl, -⟩ := h.directory hapart hdest hn hway'.toward
  obtain ⟨-, rfl, -⟩ := h'.directory hapart.symm hhere hm hway.toward
  rfl

/-! ## Sources one after the other -/

/-- Sources that are apart come to what each comes to alone, and every one of their patches ends up
on the disk. -/
theorem processAll_merges {patch : Path × Text → Location → Option Node}
    {done sources : List (Path × Text)} {disk : Disk}
    (heffect : ∀ source ∈ done ++ sources, g.Effect base source (patch source))
    (hapart : (done ++ sources).Pairwise (g.Apart base)) (h : Merged patch done base disk) :
    (g.processAll sources disk).1 =
        sources.map (fun source => (g.process source.1 source.2 base).result) ∧
      Merged patch (done ++ sources) base (g.processAll sources disk).2 := by
  induction sources generalizing done disk with
  | nil =>
    rw [List.append_nil]
    exact ⟨rfl, h⟩
  | cons source rest ih =>
    have hsource := heffect source (by simp)
    have hdone : ∀ other ∈ done, g.Effect base other (patch other) ∧ g.Apart base other source := by
      intro other hother
      exact ⟨heffect other (List.mem_append_left _ hother),
        (List.pairwise_append.1 hapart).2.2 other hother source (by simp)⟩
    obtain ⟨hresult, hpatched⟩ := hsource.run disk fun dest hdest =>
      h.agrees fun other hother there n hn hpre =>
        (hdone other hother).1.directory (hdone other hother).2 hdest hn hpre
    have hnext : Merged patch (done ++ [source]) base (g.process source.1 source.2 disk).disk :=
      h.concat hpatched fun other hother there n m hn hm =>
        (hdone other hother).1.compatible hsource (hdone other hother).2 hn hm
    rw [List.append_cons] at heffect hapart ⊢
    obtain ⟨hresults, hmerged⟩ := ih heffect hapart hnext
    refine ⟨?_, hmerged⟩
    rw [List.map_cons, ← hresult, ← hresults]
    rfl

end Effect

/-- The reports among some results. -/
def reports (results : List (Except SourceError Report)) : List Report :=
  results.filterMap Except.toOption

/-- Sources whose pages are apart may come in any order: the disk is the same in the end, every source
comes to what it comes to alone, and the coverage of all is the same. -/
theorem processAll_perm (g : Generator) {sources sources' : List (Path × Text)} (disk : Disk)
    (hperm : sources.Perm sources')
    (hup : ∀ source ∈ sources, ∀ page ∈ (g.draft source.1 source.2).page,
      (".." : Text) ∉ page.path.pieces)
    (hapart : sources.Pairwise (g.Apart disk))
    (hstart : disk.root.view disk.cwd = some .directory) :
    let alone := fun source : Path × Text => (g.process source.1 source.2 disk).result
    let one := g.processAll sources disk
    let two := g.processAll sources' disk
    (∀ here, two.2.root.view here = one.2.root.view here) ∧
    (one.1 = sources.map alone ∧ two.1 = sources'.map alone) ∧
    Coverage.ofReports (reports two.1) = Coverage.ofReports (reports one.1) ∧
    (Coverage.ofReports (reports two.1)).render = (Coverage.ofReports (reports one.1)).render := by
  intro alone one two
  have hexists : ∀ source, ∃ patch, source ∈ sources → g.Effect disk source patch := by
    intro source
    by_cases hsource : source ∈ sources
    · obtain ⟨patch, heffect⟩ := exists_effect (hup source hsource) hstart
      exact ⟨patch, fun _ => heffect⟩
    · exact ⟨fun _ => none, fun hmem => absurd hmem hsource⟩
  choose patch heffect using hexists
  have hnil := Merged.nil patch disk
  obtain ⟨hone, hmerged⟩ := @processAll_merges g disk patch [] sources disk heffect hapart hnil
  obtain ⟨htwo, hmerged'⟩ := @processAll_merges g disk patch [] sources' disk
    (fun source hsource => heffect source (hperm.mem_iff.2 hsource))
    (hperm.pairwise hapart Apart.symm) hnil
  have hcoverage : Coverage.ofReports (reports two.1) = Coverage.ofReports (reports one.1) := by
    apply Coverage.ofReports_congr
    intro report
    show report ∈ reports (g.processAll sources' disk).1 ↔ report ∈ reports (g.processAll sources disk).1
    rw [hone, htwo]
    exact ((hperm.map alone).filterMap _).mem_iff.symm
  refine ⟨hmerged.view_eq hmerged' fun source => ?_, ⟨hone, htwo⟩, hcoverage, by rw [hcoverage]⟩
  exact hperm.mem_iff

/-- Two pages need the same new directory, a third is added to what is there, and a file stands in the
way of a fourth. -/
theorem processAll_perm_reverse :
    let g : Generator := ⟨.library, none, .standard, ⟨⟨"docs"⟩, ⟨"docs"⟩, "lia"⟩, false⟩
    let sources : List (Path × Text) :=
      [(⟨"a.lua"⟩, "--[[Folder: new/in\nFile: a.md]]\n--[[Purpose: A]]\nfunction lia.a()"),
       (⟨"b.lua"⟩, "--[[Folder: new\nFile: b.md]]\n--[[Purpose: B]]\nfunction lia.b()"),
       (⟨"c.lua"⟩, "--[[Folder: has\nFile: c.md\nAppend: yes]]\n--[[Purpose: C]]\nfunction lia.c()"),
       (⟨"d.lua"⟩, "--[[Folder: old\nFile: d.md]]\n--[[Purpose: D]]\nfunction lia.d()")]
    let disk : Disk :=
      ⟨.directory [("docs", .directory
        [("has", .directory [("c.md", .file [35])]), ("old", .file [0])])], []⟩
    let outcomes := fun (results : List (Except SourceError Report)) =>
      results.map fun result => result.toOption.map (·.outcome)
    let one := g.processAll sources disk
    let two := g.processAll sources.reverse disk
    outcomes one.1 = [some (some .written), some (some .written), some (some .appended), none] ∧
      (∀ here, two.2.root.view here = one.2.root.view here) ∧
      (Coverage.ofReports (reports two.1)).render = (Coverage.ofReports (reports one.1)).render := by
  intro g sources disk outcomes one two
  have hsources : (∀ source ∈ sources, ∀ page ∈ (g.draft source.1 source.2).page,
      (".." : Text) ∉ page.path.pieces) ∧ sources.Pairwise (g.Apart disk) ∧
        outcomes one.1 = [some (some .written), some (some .written), some (some .appended), none] := by
    decide +kernel
  have hall := processAll_perm g disk (List.reverse_perm sources).symm hsources.1 hsources.2.1
    (by decide +kernel)
  exact ⟨hsources.2.2, hall.1, hall.2.2.2⟩

end Generator

end LuaReference
