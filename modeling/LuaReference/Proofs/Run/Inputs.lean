import LuaReference.Proofs.Files.Order
import LuaReference.Run.Inputs
import Mathlib.Data.List.Sort

/-!
# The sources of a run do not depend on how they are named

* `dedup_precedes`, `mem_components_dedup` : of an ordered list one path for each list of components is kept,
  in strictly increasing order;
* `components_arrange_congr` : the arranged paths are determined by the components of the given ones;
* `mem_arrange`, `arrange_eq` : of several spellings of a path, the first is listed;
* `sources?_cases`, `collect_cases` : what arguments stand for, one by one and together;
* `SameSearch` : two ways to look up patterns that find the same;
* `Listed` : what holds of every list of sources;
* `expandWith_of_same_arguments` : arguments in another order, or repeated, stand for the same sources.
-/

namespace LuaReference.Inputs

open Text

/-! ## Ordered lists -/

/-- A path is kept, and takes the place of a first one with its components. -/
theorem dedup_cons_cases (p : Path) (rest : List Path) :
    dedup rest = [] ∧ dedup (p :: rest) = [p] ∨
      ∃ q more, dedup rest = q :: more ∧
        (p.components = q.components ∧ dedup (p :: rest) = p :: more ∨
          p.components ≠ q.components ∧ dedup (p :: rest) = p :: q :: more) := by
  cases hrest : dedup rest with
  | nil => exact Or.inl ⟨rfl, by simp [dedup, hrest]⟩
  | cons q more =>
    refine Or.inr ⟨q, more, rfl, ?_⟩
    by_cases h : p.components = q.components
    · exact Or.inl ⟨h, by simp [dedup, hrest, Path.same, h]⟩
    · exact Or.inr ⟨h, by simp [dedup, hrest, Path.same, h]⟩

/-- The first path is kept, and of those kept of the others all but another spelling of it. -/
theorem exists_dedup_cons (p : Path) (rest : List Path) :
    ∃ more, dedup (p :: rest) = p :: more ∧ more ⊆ dedup rest := by
  rcases dedup_cons_cases p rest with ⟨-, hall⟩ | ⟨q, more, hrest, ⟨-, hall⟩ | ⟨-, hall⟩⟩
  · exact ⟨[], hall, List.nil_subset _⟩
  · exact ⟨more, hall, hrest ▸ List.subset_cons_self q more⟩
  · exact ⟨q :: more, hall, hrest ▸ List.Subset.refl _⟩

/-- Every path is kept, or another spelling of it. -/
theorem mem_components_dedup {paths : List Path} {cs : List Component} :
    cs ∈ (dedup paths).map Path.components ↔ cs ∈ paths.map Path.components := by
  induction paths with
  | nil => rfl
  | cons p rest ih =>
    rw [List.map_cons, List.mem_cons, ← ih]
    rcases dedup_cons_cases p rest with ⟨hrest, hall⟩ | ⟨q, more, hrest, ⟨heq, hall⟩ | ⟨-, hall⟩⟩
    · rw [hrest, hall, List.map_cons, List.mem_cons]
    · rw [hrest, hall, List.map_cons, List.mem_cons, List.map_cons, List.mem_cons, heq, ← or_assoc, or_self]
    · rw [hrest, hall, List.map_cons, List.mem_cons]

theorem dedup_subset (paths : List Path) : dedup paths ⊆ paths := by
  induction paths with
  | nil => exact List.Subset.refl []
  | cons p rest ih =>
    obtain ⟨more, hall, hmore⟩ := exists_dedup_cons p rest
    rw [hall]
    exact List.cons_subset_cons p fun q hq => ih (hmore hq)

/-- Of an ordered list, no two of the paths that are kept have the same components. -/
theorem dedup_precedes {paths : List Path} (h : paths.Pairwise fun p q => ¬ q.Precedes p) :
    (dedup paths).Pairwise Path.Precedes := by
  induction paths with
  | nil => exact .nil
  | cons p rest ih =>
    obtain ⟨hp, hordered⟩ := List.pairwise_cons.1 h
    have hkept := ih hordered
    rcases dedup_cons_cases p rest with ⟨-, hall⟩ | ⟨q, more, hrest, hcases⟩
    · rw [hall]
      exact List.pairwise_singleton _ _
    · rw [hrest] at hkept
      obtain ⟨hq, hmore⟩ := List.pairwise_cons.1 hkept
      rcases hcases with ⟨heq, hall⟩ | ⟨hne, hall⟩ <;> rw [hall]
      · refine List.pairwise_cons.2 ⟨fun r hr => ?_, hmore⟩
        rw [Path.Precedes, heq]
        exact hq r hr
      · have hmem : q ∈ rest := dedup_subset rest (hrest ▸ List.mem_cons_self)
        have hpq : p.Precedes q := by
          by_contra hnot
          exact hne (Path.components_eq_of_not_precedes hnot (hp q hmem))
        refine List.pairwise_cons.2 ⟨fun r hr => ?_, hkept⟩
        rcases List.mem_cons.1 hr with rfl | hr
        · exact hpq
        · exact hpq.trans (hq r hr)

/-! ## Arranged paths -/

theorem not_before_iff {p q : Path} : (!q.before p) = true ↔ ¬ q.Precedes p := by
  rw [Bool.not_eq_true', Bool.eq_false_iff, Ne, Path.before_iff]

theorem not_before_trans (p q r : Path) (hpq : (!q.before p) = true) (hqr : (!r.before q) = true) :
    (!r.before p) = true := by
  rw [not_before_iff] at *
  exact Path.not_precedes_trans hqr hpq

theorem not_before_total (p q : Path) : ((!q.before p) || (!p.before q)) = true := by
  rw [Bool.or_eq_true, not_before_iff, not_before_iff]
  by_cases h : q.Precedes p
  · exact Or.inr h.asymm
  · exact Or.inl h

theorem sorted_mergeSort (paths : List Path) :
    (paths.mergeSort fun p q => !q.before p).Pairwise fun p q => ¬ q.Precedes p :=
  (List.pairwise_mergeSort not_before_trans not_before_total paths).imp not_before_iff.1

theorem arrange_precedes (paths : List Path) : (arrange paths).Pairwise Path.Precedes :=
  dedup_precedes (sorted_mergeSort paths)

theorem arrange_subset (paths : List Path) : arrange paths ⊆ paths := fun _ hp =>
  List.mem_mergeSort.1 (dedup_subset _ hp)

theorem mem_components_arrange {paths : List Path} {cs : List Component} :
    cs ∈ (arrange paths).map Path.components ↔ cs ∈ paths.map Path.components := by
  rw [arrange, mem_components_dedup, List.mem_map, List.mem_map]
  simp only [List.mem_mergeSort]

/-- Two strictly increasing lists of the same components are one. -/
theorem components_arrange_congr {paths paths' : List Path} (h : ∀ p, p ∈ paths ↔ p ∈ paths') :
    (arrange paths).map Path.components = (arrange paths').map Path.components := by
  have hincreasing : ∀ ps : List Path,
      ((arrange ps).map Path.components).Pairwise (List.Lex Component.Precedes) := fun ps =>
    List.pairwise_map.2 (arrange_precedes ps)
  refine (hincreasing paths).eq_of_mem_iff (hincreasing paths') fun cs => ?_
  rw [mem_components_arrange, mem_components_arrange, List.mem_map, List.mem_map]
  simp only [h]

/-- Sorting leaves the first spelling of a path the first. -/
theorem find?_mergeSort (paths : List Path) (p : Path) :
    (paths.mergeSort fun p q => !q.before p).find? p.same = paths.find? p.same := by
  -- spellings of one path are equal in the order, and the sort is stable
  have hspellings : (paths.filter p.same).Pairwise fun q r => (!r.before q) = true := by
    refine List.pairwise_of_forall_mem_list fun q hq r hr => ?_
    have hsame : q.components = r.components :=
      (Path.same_iff.1 (List.mem_filter.1 hq).2).symm.trans (Path.same_iff.1 (List.mem_filter.1 hr).2)
    exact not_before_iff.2 fun h => h.components_ne hsame.symm
  have hkept := (List.sublist_mergeSort not_before_trans not_before_total hspellings
    List.filter_sublist).filter p.same
  rw [List.filter_filter] at hkept
  simp only [Bool.and_self] at hkept
  rw [← List.head?_filter, ← List.head?_filter]
  rw [hkept.eq_of_length ((List.mergeSort_perm paths _).filter p.same).length_eq.symm]

/-- Of an ordered list, the first spelling of each path is kept. -/
theorem find?_of_mem_dedup {paths : List Path} (h : paths.Pairwise fun p q => ¬ q.Precedes p) {p : Path}
    (hp : p ∈ dedup paths) : paths.find? p.same = some p := by
  induction paths with
  | nil => cases hp
  | cons first rest ih =>
    obtain ⟨more, hall, hmore⟩ := exists_dedup_cons first rest
    have hkept := dedup_precedes h
    rw [hall] at hp hkept
    rcases List.mem_cons.1 hp with rfl | hp
    · exact List.find?_cons_of_pos (Path.same_iff.2 rfl)
    · have hfirst : first.Precedes p := (List.pairwise_cons.1 hkept).1 p hp
      have hother : ¬ p.same first = true := fun hsame => hfirst.components_ne (Path.same_iff.1 hsame).symm
      rw [List.find?_cons_of_neg hother]
      exact ih (List.pairwise_cons.1 h).2 (hmore hp)

/-- Of the spellings of a path, the first is listed. -/
theorem mem_arrange {paths : List Path} {p : Path} :
    p ∈ arrange paths ↔ paths.find? p.same = some p := by
  have hfirst : ∀ q, q ∈ arrange paths → paths.find? q.same = some q := by
    intro q hq
    rw [← find?_mergeSort]
    exact find?_of_mem_dedup (sorted_mergeSort paths) hq
  refine ⟨hfirst p, fun hp => ?_⟩
  have hmem : p.components ∈ (arrange paths).map Path.components :=
    mem_components_arrange.2 (List.mem_map_of_mem (List.mem_of_find?_eq_some hp))
  obtain ⟨q, hq, hcomponents⟩ := List.mem_map.1 hmem
  have hsame : q.same = p.same := by
    funext r
    rw [Path.same, hcomponents, Path.same]
  have hqp := hfirst q hq
  rw [hsame, hp] at hqp
  rwa [Option.some.inj hqp]

/-- The arranged paths are the first spellings in increasing order. -/
theorem arrange_eq {paths found : List Path} (hincreasing : found.Pairwise Path.Precedes)
    (hfound : found ⊆ paths) (hfirst : ∀ p ∈ paths, p ∈ found ↔ paths.find? p.same = some p) :
    arrange paths = found := by
  refine (arrange_precedes paths).eq_of_mem_iff hincreasing fun p => ?_
  rw [mem_arrange]
  by_cases hp : p ∈ paths
  · exact (hfirst p hp).symm
  · exact iff_of_false (fun h => hp (List.mem_of_find?_eq_some h)) fun h => hp (hfound h)

/-! ## Arguments -/

/-- The sources that an argument stands for, nothing when it is no pattern. -/
def sources? (search : Search) (disk : Disk) (arg : Text) : Option (List Path) :=
  (ofArgument? search disk arg).map (·.1)

/-- An argument is a file, or a directory with some paths in it, or is looked up as a pattern. -/
theorem sources?_cases (disk : Disk) (arg : Text) :
    (disk.isFile ⟨arg⟩ = true ∧ ∀ search, sources? search disk arg = some [⟨arg⟩]) ∨
      (∃ paths, ∀ search, sources? search disk arg = some (sourceFiles disk paths)) ∨
      ∀ search, sources? search disk arg = (search arg).map (sourceFiles disk) := by
  cases hfind : disk.find ⟨arg⟩ with
  | error e =>
    refine Or.inr (Or.inr fun search => ?_)
    simp only [sources?, ofArgument?, hfind, Option.map_map]
    rfl
  | ok tree =>
    cases tree with
    | file content =>
      exact Or.inl ⟨by simp [Disk.isFile, hfind], fun search => by simp [sources?, ofArgument?, hfind]⟩
    | directory entries =>
      exact Or.inr (Or.inl ⟨_, fun search => by simp only [sources?, ofArgument?, hfind]; rfl⟩)

theorem of_mem_sourceFiles {disk : Disk} {paths : List Path} {p : Path} (h : p ∈ sourceFiles disk paths) :
    disk.isFile p = true ∧ isSource p = true := by
  simpa using (List.mem_filter.1 h).2

/-- A path that an argument stands for is a file: the argument itself, or one with the extension of
sources. -/
theorem of_mem_sources {search : Search} {disk : Disk} {arg : Text} {p : Path}
    (h : p ∈ (sources? search disk arg).getD []) :
    disk.isFile p = true ∧ (p.text = arg ∨ isSource p = true) := by
  rcases sources?_cases disk arg with ⟨hfile, hself⟩ | ⟨paths, hpaths⟩ | hpattern
  · rw [hself] at h
    obtain rfl := List.mem_singleton.1 h
    exact ⟨hfile, Or.inl rfl⟩
  · rw [hpaths] at h
    exact (of_mem_sourceFiles h).imp_right Or.inr
  · rw [hpattern] at h
    cases hsearch : search arg with
    | none =>
      rw [hsearch] at h
      exact absurd h List.not_mem_nil
    | some fitting =>
      rw [hsearch] at h
      exact (of_mem_sourceFiles h).imp_right Or.inr

section Collect
variable (search : Search) (disk : Disk)

/-- One of the arguments is no pattern and is reported, or each of them adds its sources. -/
theorem collect_cases (args : List Text) :
    (∃ arg ∈ args, sources? search disk arg = none ∧ (collect search disk args).2 = .error arg) ∨
      (∀ arg ∈ args, sources? search disk arg ≠ none) ∧
        (collect search disk args).2 = .ok (args.flatMap fun arg => (sources? search disk arg).getD []) := by
  induction args with
  | nil => exact Or.inr ⟨by simp, rfl⟩
  | cons arg args ih =>
    cases harg : ofArgument? search disk arg with
    | none =>
      exact Or.inl ⟨arg, List.mem_cons_self, by simp [sources?, harg], by simp [collect, harg]⟩
    | some found =>
      have hsources : sources? search disk arg = some found.1 := by simp [sources?, harg]
      have hresult : (collect search disk (arg :: args)).2 =
          (collect search disk args).2.map (found.1 ++ ·) := by
        simp [collect, harg]
      rcases ih with ⟨bad, hbad, hnone, herror⟩ | ⟨hall, hok⟩
      · refine Or.inl ⟨bad, List.mem_cons_of_mem arg hbad, hnone, ?_⟩
        rw [hresult, herror]
        rfl
      · refine Or.inr ⟨List.forall_mem_cons.2 ⟨by simp [hsources], hall⟩, ?_⟩
        rw [hresult, hok, List.flatMap_cons, hsources]
        rfl

end Collect

/-! ## Ways to look up patterns -/

/-- Two ways to look up patterns: the same texts are patterns, and the same paths fit them. -/
structure SameSearch (search search' : Search) : Prop where
  valid : ∀ t, search t = none ↔ search' t = none
  found : ∀ t p, p ∈ (search t).getD [] ↔ p ∈ (search' t).getD []

section SameSearch
variable {search search' : Search} (h : SameSearch search search') (disk : Disk) (arg : Text)
include h

theorem SameSearch.sources?_eq_none :
    sources? search disk arg = none ↔ sources? search' disk arg = none := by
  rcases sources?_cases disk arg with ⟨-, hself⟩ | ⟨paths, hpaths⟩ | hpattern
  · rw [hself, hself]
  · rw [hpaths, hpaths]
  · rw [hpattern, hpattern, Option.map_eq_none_iff, Option.map_eq_none_iff, h.valid]

theorem SameSearch.mem_sources (p : Path) :
    p ∈ (sources? search disk arg).getD [] ↔ p ∈ (sources? search' disk arg).getD [] := by
  have hfiles : ∀ found : Option (List Path),
      (found.map (sourceFiles disk)).getD [] = sourceFiles disk (found.getD []) := fun found => by
    cases found <;> rfl
  rcases sources?_cases disk arg with ⟨-, hself⟩ | ⟨paths, hpaths⟩ | hpattern
  · rw [hself, hself]
  · rw [hpaths, hpaths]
  · rw [hpattern, hpattern, hfiles, hfiles, sourceFiles, sourceFiles, List.mem_filter, List.mem_filter,
      h.found]

end SameSearch

/-! ## Expansion -/

theorem expandWith_snd (search : Search) (disk : Disk) (args : List Text) :
    (expandWith search disk args).2 = (collect search disk args).2.map arrange := rfl

/-- What holds of the sources of some arguments: they are in strictly increasing order, they are files,
and those that no argument names have the extension of sources. -/
structure Listed (disk : Disk) (args : List Text) (found : List Path) : Prop where
  increasing : found.Pairwise Path.Precedes
  files : ∀ p ∈ found, disk.isFile p = true
  sources : ∀ p ∈ found, p.text ∉ args → p.extension? = some "lua"

theorem listed_arrange (search : Search) (disk : Disk) (args : List Text) :
    Listed disk args (arrange (args.flatMap fun arg => (sources? search disk arg).getD [])) := by
  have hmem : ∀ p ∈ arrange (args.flatMap fun arg => (sources? search disk arg).getD []),
      ∃ arg ∈ args, p ∈ (sources? search disk arg).getD [] := fun p hp =>
    List.mem_flatMap.1 (arrange_subset _ hp)
  refine ⟨arrange_precedes _, fun p hp => ?_, fun p hp hother => ?_⟩
  · obtain ⟨arg, -, hsource⟩ := hmem p hp
    exact (of_mem_sources hsource).1
  · obtain ⟨arg, harg, hsource⟩ := hmem p hp
    rcases (of_mem_sources hsource).2 with rfl | hlua
    · exact absurd harg hother
    · exact eq_of_beq hlua

/-- Two lists of the same arguments, in any order and with repetitions, are both refused or stand for the
same sources, listed in order and each once. Patterns can be looked up in any two ways that find the
same. -/
theorem expandWith_of_same_arguments {search search' : Search} (hsearch : SameSearch search search')
    (disk : Disk) {args args' : List Text} (hargs : ∀ arg, arg ∈ args ↔ arg ∈ args') :
    (∃ bad bad', (expandWith search disk args).2 = .error bad ∧
        (expandWith search' disk args').2 = .error bad') ∨
      ∃ found found', (expandWith search disk args).2 = .ok found ∧
        (expandWith search' disk args').2 = .ok found' ∧
        found.map Path.components = found'.map Path.components ∧
        Listed disk args found ∧ Listed disk args' found' := by
  have hnone : (∃ arg ∈ args, sources? search disk arg = none) ↔
      ∃ arg ∈ args', sources? search' disk arg = none := by
    simp only [hargs, hsearch.sources?_eq_none disk]
  rcases collect_cases search disk args with ⟨bad, hbad, hrefused, herror⟩ | ⟨hall, hok⟩
  · obtain ⟨other, hother, hrefused'⟩ := hnone.1 ⟨bad, hbad, hrefused⟩
    rcases collect_cases search' disk args' with ⟨bad', -, -, herror'⟩ | ⟨hall', -⟩
    · exact Or.inl ⟨bad, bad', by rw [expandWith_snd, herror]; rfl, by rw [expandWith_snd, herror']; rfl⟩
    · exact absurd hrefused' (hall' other hother)
  · rcases collect_cases search' disk args' with ⟨bad', hbad', hrefused', -⟩ | ⟨-, hok'⟩
    · obtain ⟨other, hother, hrefused⟩ := hnone.2 ⟨bad', hbad', hrefused'⟩
      exact absurd hrefused (hall other hother)
    · refine Or.inr ⟨_, _, by rw [expandWith_snd, hok]; rfl, by rw [expandWith_snd, hok']; rfl, ?_,
        listed_arrange search disk args, listed_arrange search' disk args'⟩
      refine components_arrange_congr fun p => ?_
      simp only [List.mem_flatMap, hargs, hsearch.mem_sources disk]

/-- A directory, a spelling of a file in it and a pattern, in another order and with one of them repeated,
where one lookup finds what the other does from its end. The other spelling comes first there, so that it
is listed. -/
theorem expandWith_of_same_arguments_spellings :
    let disk : Disk := ⟨.directory [("x", .directory [("b.lua", .file []), ("a.lua", .file []),
      ("n.txt", .file [])])], []⟩
    let search : Search := Pattern.search disk
    let search' : Search := fun t => (Pattern.search disk t).map List.reverse
    let args : List Text := ["x", "x//a.lua", "x/n.txt", "x/*.lua"]
    let args' : List Text := ["x//a.lua", "x/*.lua", "x/n.txt", "x", "x/n.txt"]
    let found : List Path := [⟨"x/a.lua"⟩, ⟨"x/b.lua"⟩, ⟨"x/n.txt"⟩]
    let found' : List Path := [⟨"x//a.lua"⟩, ⟨"x/b.lua"⟩, ⟨"x/n.txt"⟩]
    SameSearch search search' ∧ (∀ arg, arg ∈ args ↔ arg ∈ args') ∧
      (expand disk args).2 = .ok found ∧ (expandWith search' disk args').2 = .ok found' ∧
      found.map Path.components = found'.map Path.components ∧
      Listed disk args found ∧ Listed disk args' found' := by
  intro disk search search' args args' found found'
  have hsearch : SameSearch search search' :=
    ⟨fun t => Option.map_eq_none_iff.symm, fun t p => by
      cases h : Pattern.search disk t <;> simp [search, search', h]⟩
  have hargs : ∀ arg, arg ∈ args ↔ arg ∈ args' := fun arg =>
    ⟨fun h => (by decide : args ⊆ args') h, fun h => (by decide : args' ⊆ args) h⟩
  have hfound : (expand disk args).2 = .ok found := by
    have hcollect : (collect search disk args).2 =
        .ok [⟨"x/b.lua"⟩, ⟨"x/a.lua"⟩, ⟨"x//a.lua"⟩, ⟨"x/n.txt"⟩, ⟨"x/b.lua"⟩, ⟨"x/a.lua"⟩] := by
      decide +kernel
    rw [expand, expandWith_snd, hcollect]
    exact congrArg Except.ok (arrange_eq (by decide +kernel) (by decide) (by decide +kernel))
  have hfound' : (expandWith search' disk args').2 = .ok found' := by
    have hcollect : (collect search' disk args').2 =
        .ok [⟨"x//a.lua"⟩, ⟨"x/a.lua"⟩, ⟨"x/b.lua"⟩, ⟨"x/n.txt"⟩, ⟨"x/b.lua"⟩, ⟨"x/a.lua"⟩, ⟨"x/n.txt"⟩] := by
      decide +kernel
    rw [expandWith_snd, hcollect]
    exact congrArg Except.ok (arrange_eq (by decide +kernel) (by decide) (by decide +kernel))
  rcases expandWith_of_same_arguments hsearch disk hargs with
    ⟨bad, -, hbad, -⟩ | ⟨listed, listed', hlisted, hlisted', hsame, hholds, hholds'⟩
  · cases hfound.symm.trans hbad
  · obtain rfl := Except.ok.inj (hfound.symm.trans hlisted)
    obtain rfl := Except.ok.inj (hfound'.symm.trans hlisted')
    exact ⟨hsearch, hargs, hfound, hfound', hsame, hholds, hholds'⟩

end LuaReference.Inputs
