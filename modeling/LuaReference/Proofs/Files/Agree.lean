import LuaReference.Proofs.Files.Parents

/-!
# Disks that agree on the way to a location

* `Disk.Agrees base disk dest` : on the way to `dest` there are at most directories more than on
  `base`;
* `Disk.carve_agrees`, `Disk.makeParents_agrees` : the directories that a path needs come to the same
  on both, if the path never leads up;
* `Disk.isOccupied_agrees`, `Disk.target_congr` : so do the tests on its destination.
-/

namespace LuaReference

open Text

namespace Disk

open LuaReference.Path

/-! ## Disks with other directories on the way -/

/-- On the way to a location there are at most directories more than on `base`. -/
structure Agrees (base disk : Disk) (dest : Location) : Prop where
  cwd : disk.cwd = base.cwd
  view : ∀ there, there <+: dest → disk.root.view there = base.root.view there ∨
    (there ≠ dest ∧ base.root.view there = none ∧ disk.root.view there = some .directory)

section Agrees
variable {base disk : Disk} {dest : Location}

theorem Agrees.refl (base : Disk) (dest : Location) : Agrees base base dest :=
  ⟨rfl, fun _ _ => Or.inl rfl⟩

theorem Agrees.startTrail (h : Agrees base disk dest) (p : Path) :
    disk.startTrail p = base.startTrail p :=
  startTrail_congr h.cwd p

theorem Agrees.destination (h : Agrees base disk dest) (p : Path) :
    disk.destination p = base.destination p :=
  destination_congr h.cwd p

theorem Agrees.view_of_ne_none (h : Agrees base disk dest) {there : Location} (hpre : there <+: dest)
    (hsome : base.root.view there ≠ none) : disk.root.view there = base.root.view there := by
  rcases h.view there hpre with heq | ⟨-, hnone, -⟩
  · exact heq
  · exact absurd hnone hsome

theorem Agrees.view_dest (h : Agrees base disk dest) : disk.root.view dest = base.root.view dest := by
  rcases h.view dest (List.prefix_refl _) with heq | ⟨hne, -⟩
  · exact heq
  · exact absurd rfl hne

theorem Agrees.directory (h : Agrees base disk dest) {there : Location} (hpre : there <+: dest)
    (hdir : base.root.view there = some .directory) : disk.root.view there = some .directory := by
  rw [h.view_of_ne_none hpre (by simp [hdir]), hdir]

theorem Agrees.unblocked (h : Agrees base disk dest) {trail pieces : List Text}
    (hpre : ∀ front, front <+: pieces → (front.foldl turn trail).reverse <+: dest)
    (hclear : Unblocked base.root trail pieces) : Unblocked disk.root trail pieces := by
  intro front hfront content hfile
  rcases h.view _ (hpre front hfront) with heq | ⟨-, -, hdir⟩
  · exact hclear front hfront content (heq ▸ hfile)
  · rw [hdir] at hfile
    cases hfile

end Agrees

/-! ## Ways that never lead up -/

theorem stop_prefix_of_down {pieces front : List Text} (hup : (".." : Text) ∉ pieces)
    (hfront : front <+: pieces) (trail : List Text) :
    (front.foldl turn trail).reverse <+: (pieces.foldl turn trail).reverse := by
  obtain ⟨rest, rfl⟩ := hfront
  rw [List.foldl_append]
  exact foldl_turn_down (fun hmem => hup (List.mem_append_right _ hmem)) _

/-- Below a missing directory there is no file. -/
theorem unblocked_of_missing {root : Tree} {trail : List Text} {piece : Text} {rest : List Text}
    (hup : (".." : Text) ∉ rest) (hdir : root.view trail.reverse = some .directory)
    (hnone : root.view (turn trail piece).reverse = none) : Unblocked root trail (piece :: rest) := by
  intro front hfront content hfile
  cases front with
  | nil =>
    rw [List.foldl_nil, hdir] at hfile
    cases hfile
  | cons other front =>
    obtain ⟨rfl, hrest⟩ := List.cons_prefix_cons.1 hfront
    have hbelow : (turn trail other).reverse <+: (front.foldl turn (turn trail other)).reverse :=
      foldl_turn_down (fun hmem => hup (hrest.subset hmem)) _
    rw [List.foldl_cons, Tree.view_eq_none_above hnone hbelow] at hfile
    cases hfile

/-! ## Directories -/

/-- There is a directory at some places, and all else is as it was. -/
structure Paved (places : List Location) (before after : Disk) : Prop where
  cwd : after.cwd = before.cwd
  view : ∀ there, after.root.view there =
    if there ∈ places then some .directory else before.root.view there

theorem Paved.refl (disk : Disk) : Paved [] disk disk := ⟨rfl, fun _ => by simp⟩

/-- Carving comes to the same on disks that agree, and leaves directories at the same places. -/
theorem carve_agrees {base : Disk} {dest : Location} {trail pieces : List Text}
    (hup : (".." : Text) ∉ pieces) (hdir : base.root.view trail.reverse = some .directory)
    (hdest : (pieces.foldl turn trail).reverse <+: dest) (grown : Bool) :
    ∃ places : List Location,
      (∀ there ∈ places, there <+: (pieces.foldl turn trail).reverse ∧
        ∀ content, base.root.view there ≠ some (.file content)) ∧
      ∀ disk, Agrees base disk dest →
        (carve disk grown trail pieces).1 = (carve base grown trail pieces).1 ∧
          Paved places disk (carve disk grown trail pieces).2 := by
  induction pieces generalizing trail with
  | nil => exact ⟨[], by simp, fun disk _ => ⟨rfl, Paved.refl disk⟩⟩
  | cons piece rest ih =>
    have hrest : (".." : Text) ∉ rest := fun hmem => hup (List.mem_cons_of_mem _ hmem)
    have hstops : ∀ front, front <+: piece :: rest → (front.foldl turn trail).reverse <+: dest :=
      fun front hfront => (stop_prefix_of_down hup hfront trail).trans hdest
    have hnext : (turn trail piece).reverse <+: dest := hstops [piece] (by simp)
    by_cases hname : byteLength piece ≤ longestName
    · cases hview : base.root.view (turn trail piece).reverse with
      | none =>
        have hclear := unblocked_of_missing hrest hdir hview
        refine ⟨stops trail (piece :: rest), fun there hthere => ?_, fun disk hagrees => ?_⟩
        · obtain ⟨front, hfront, rfl⟩ := mem_stops hthere
          exact ⟨stop_prefix_of_down hup hfront trail, hclear front hfront⟩
        · have htrail := hagrees.directory (hstops [] List.nil_prefix) hdir
          have hdisk := carve_unblocked grown htrail (hagrees.unblocked hstops hclear)
          have hbase := carve_unblocked grown hdir hclear
          refine ⟨hdisk.1.trans hbase.1.symm, (carve_grows htrail _).cwd, hdisk.2⟩
      | some node =>
        cases node with
        | file content =>
          refine ⟨[], by simp, fun disk hagrees => ?_⟩
          have hsame := hagrees.view_of_ne_none hnext (by simp [hview])
          rw [carve_file rest hname hview, carve_file rest hname (hsame.trans hview)]
          exact ⟨rfl, Paved.refl disk⟩
        | directory =>
          obtain ⟨places, hplaces, hall⟩ := ih hrest hview hdest
          refine ⟨places, hplaces, fun disk hagrees => ?_⟩
          rw [carve_directory rest hname hview, carve_directory rest hname (hagrees.directory hnext hview)]
          exact hall disk hagrees
    · refine ⟨[], by simp, fun disk _ => ?_⟩
      rw [carve_long rest (Nat.lt_of_not_le hname), carve_long rest (Nat.lt_of_not_le hname)]
      exact ⟨rfl, Paved.refl disk⟩

/-- A path has idle pieces only, or a last name with idle pieces after it. -/
theorem idle_or_name {pieces : List Text} (hup : (".." : Text) ∉ pieces) :
    (∀ piece ∈ pieces, isIdle piece = true) ∨
    ∃ front name idles, pieces = front ++ name :: idles ∧ IsName name ∧
      ∀ piece ∈ idles, isIdle piece = true := by
  induction pieces with
  | nil => exact Or.inl (by simp)
  | cons piece rest ih =>
    rw [List.mem_cons, not_or] at hup
    rcases ih hup.2 with hidle | ⟨front, name, idles, rfl, hname, hidles⟩
    · cases hpiece : isIdle piece with
      | true => exact Or.inl (List.forall_mem_cons.2 ⟨hpiece, hidle⟩)
      | false => exact Or.inr ⟨[], piece, rest, rfl, ⟨hpiece, Ne.symm hup.1⟩, hidle⟩
    · exact Or.inr ⟨piece :: front, name, idles, rfl, hname, hidles⟩

theorem foldl_turn_idle {idles : List Text} (h : ∀ piece ∈ idles, isIdle piece = true)
    (trail : List Text) : idles.foldl turn trail = trail := by
  induction idles with
  | nil => rfl
  | cons piece idles ih =>
    rw [List.forall_mem_cons] at h
    rw [List.foldl_cons, turn, if_pos h.1, ih h.2]

/-- Some places above a location, without files. -/
def FreeAbove (base : Disk) (dest : Location) (places : List Location) : Prop :=
  ∀ there ∈ places, (there <+: dest ∧ there ≠ dest) ∧
    ∀ content, base.root.view there ≠ some (.file content)

theorem FreeAbove.not_mem {base : Disk} {dest : Location} {places : List Location}
    (h : FreeAbove base dest places) : dest ∉ places :=
  fun hmem => (h dest hmem).1.2 rfl

/-- Making what a path needs comes to the same on two disks and leaves directories at the same places;
where it succeeds, they lead to the destination. -/
structure MadeAlike (places : List Location) (base disk : Disk) (p : Path) : Prop where
  result : (disk.makeParents p).1 = (base.makeParents p).1
  paved : Paved places disk (disk.makeParents p).2
  above : (base.makeParents p).1 = .ok () → ∀ there, there <+: base.destination p →
    there ≠ base.destination p → (disk.makeParents p).2.root.view there = some .directory

theorem madeAlike_of_idle {base disk : Disk} {p : Path}
    (hidle : ∀ piece ∈ p.pieces, isIdle piece = true)
    (hstart : base.root.view (base.startTrail p).reverse = some .directory)
    (hagrees : Agrees base disk (base.destination p)) : MadeAlike [] base disk p := by
  have hdest : base.destination p = (base.startTrail p).reverse := by
    rw [destination, trailOf, foldl_turn_idle hidle]
  obtain ⟨first, rest, hp⟩ := List.exists_cons_of_ne_nil (splitOn_ne_nil '/' p.text)
  rw [← pieces] at hp
  rw [hp, List.forall_mem_cons] at hidle
  obtain ⟨-, hmade⟩ := makeParents_of_idle hp hidle.2
  refine ⟨by rw [hmade, hmade], ?_, fun _ there hpre _ => ?_⟩
  · rw [hmade]
    exact Paved.refl disk
  · rw [hmade]
    apply hagrees.directory hpre
    rw [hdest] at hpre
    exact Tree.view_above_directory hstart hpre

section Named
variable {base : Disk} {p : Path} {front idles : List Text} {name : Text}

theorem destination_of_idles (base : Disk) (hp : p.pieces = front ++ name :: idles)
    (hname : IsName name) (hidles : ∀ piece ∈ idles, isIdle piece = true) :
    base.destination p = (front.foldl turn (base.startTrail p)).reverse ++ [name] := by
  rw [destination, trailOf, hp, List.foldl_append, List.foldl_cons, foldl_turn_idle hidles, hname.turn,
    List.reverse_cons]

theorem madeAlike_of_name (hup : (".." : Text) ∉ p.pieces) (hp : p.pieces = front ++ name :: idles)
    (hname : IsName name) (hidles : ∀ piece ∈ idles, isIdle piece = true)
    (hstart : base.root.view (base.startTrail p).reverse = some .directory) :
    ∃ places, FreeAbove base (base.destination p) places ∧
      ∀ disk, Agrees base disk (base.destination p) → MadeAlike places base disk p := by
  have hdest := destination_of_idles base hp hname hidles
  have hfront : (".." : Text) ∉ front := fun hmem => hup (hp ▸ List.mem_append_left _ hmem)
  have hinner : (front.foldl turn (base.startTrail p)).reverse <+: base.destination p := by
    rw [hdest]
    exact List.prefix_append _ _
  have hpre : (base.startTrail p).reverse <+: base.destination p :=
    (foldl_turn_down hfront _).trans hinner
  have hdir : ∀ disk, Agrees base disk (base.destination p) →
      disk.root.view (base.startTrail p).reverse = some .directory := by
    intro disk hagrees
    exact hagrees.directory hpre hstart
  have hmade : ∀ disk, Agrees base disk (base.destination p) →
      (∀ e, checkParent p = .error e → disk.makeParents p = (.error e, disk)) ∧
        (checkParent p = .ok () → disk.makeParents p = carve disk false (base.startTrail p) front) := by
    intro disk hagrees
    have hhere := hdir disk hagrees
    rw [← hagrees.startTrail p] at hhere ⊢
    rw [makeParents_eq_carve hname hidles hp hhere]
    constructor
    · intro e hcheck
      rw [hcheck]
    · intro hcheck
      rw [hcheck]
  have hbase := hmade base (Agrees.refl _ _)
  cases hcheck : checkParent p with
  | error e =>
    refine ⟨[], fun _ hmem => absurd hmem List.not_mem_nil, fun disk hagrees => ?_⟩
    have hdisk := (hmade disk hagrees).1 e hcheck
    refine ⟨by rw [hdisk, hbase.1 e hcheck], ?_, fun hok => ?_⟩
    · rw [hdisk]
      exact Paved.refl disk
    · rw [hbase.1 e hcheck] at hok
      cases hok
  | ok _ =>
    obtain ⟨places, hplaces, hall⟩ := carve_agrees hfront hstart hinner false
    refine ⟨places, fun there hthere => ?_, fun disk hagrees => ?_⟩
    · obtain ⟨habove, hfile⟩ := hplaces there hthere
      refine ⟨⟨habove.trans hinner, ?_⟩, hfile⟩
      rintro rfl
      have hlen := habove.length_le
      rw [hdest, List.length_append, List.length_singleton] at hlen
      omega
    · have hdisk := (hmade disk hagrees).2 hcheck
      obtain ⟨hresult, hpaved⟩ := hall disk hagrees
      refine ⟨by rw [hdisk, hbase.2 hcheck, hresult], by rwa [hdisk], fun hok there hthere hne => ?_⟩
      rw [hbase.2 hcheck] at hok
      have harrive := arrive_of_carve (hdir disk hagrees) (Prod.ext (hresult.trans hok) rfl)
      rw [hdisk]
      apply Tree.view_above_directory (arrive_eq_ok_iff.1 harrive).2
      rw [hdest] at hthere hne
      exact (List.prefix_concat_iff.1 hthere).resolve_left hne

end Named

/-- The directories that a path needs, on all disks that agree on the way to its destination. -/
theorem makeParents_agrees {base : Disk} {p : Path} (hup : (".." : Text) ∉ p.pieces)
    (hstart : base.root.view (base.startTrail p).reverse = some .directory) :
    ∃ places, FreeAbove base (base.destination p) places ∧
      ∀ disk, Agrees base disk (base.destination p) → MadeAlike places base disk p := by
  rcases idle_or_name hup with hidle | ⟨front, name, idles, hp, hname, hidles⟩
  · exact ⟨[], fun _ hmem => absurd hmem List.not_mem_nil, fun disk => madeAlike_of_idle hidle hstart⟩
  · exact madeAlike_of_name hup hp hname hidles hstart

/-! ## Lookups and targets -/

theorem passable_congr {a b : Tree} {trail pieces : List Text}
    (h : ∀ front, front <+: pieces → a.view (front.foldl turn trail).reverse =
      b.view (front.foldl turn trail).reverse) : Passable a trail pieces ↔ Passable b trail pieces := by
  induction pieces generalizing trail with
  | nil => exact Iff.rfl
  | cons piece rest ih =>
    have hhead : a.view trail.reverse = b.view trail.reverse := h [] List.nil_prefix
    have hrest := ih fun front hfront => h (piece :: front) (List.cons_prefix_cons.2 ⟨rfl, hfront⟩)
    rw [Passable, Passable, hhead, hrest]

theorem arrive_congr {a b : Tree} {trail pieces : List Text}
    (h : ∀ front, front <+: pieces → a.view (front.foldl turn trail).reverse =
      b.view (front.foldl turn trail).reverse) : arrive a trail pieces = arrive b trail pieces := by
  induction pieces generalizing trail with
  | nil =>
    have hhead : a.view trail.reverse = b.view trail.reverse := h [] List.nil_prefix
    simp only [arrive, walk, Except.bind, checkDirectory_at, hhead]
  | cons piece rest ih =>
    have hhead : a.view trail.reverse = b.view trail.reverse := h [] List.nil_prefix
    have hrest := ih fun front hfront => h (piece :: front) (List.cons_prefix_cons.2 ⟨rfl, hfront⟩)
    cases hview : b.view trail.reverse with
    | none => rw [arrive_of_none hview, arrive_of_none (hhead.trans hview)]
    | some node =>
      cases node with
      | file content => rw [arrive_of_file hview, arrive_of_file (hhead.trans hview)]
      | directory => rw [arrive_cons hview, arrive_cons (hhead.trans hview), hrest]

/-- A path that never leads up is occupied on both of two disks that agree, or on none. -/
theorem isOccupied_agrees {base disk : Disk} {p : Path} (hup : (".." : Text) ∉ p.pieces)
    (h : Agrees base disk (base.destination p)) : disk.isOccupied p = base.isOccupied p := by
  rw [Bool.eq_iff_iff, isOccupied_iff, isOccupied_iff, h.destination, h.view_dest]
  apply and_congr_left
  intro hthere
  have hsome : base.root.view (base.destination p) ≠ none := by
    rcases hthere with hdir | ⟨content, hfile, -⟩
    · simp [hdir]
    · simp [hfile]
  unfold Reaches
  rw [h.startTrail, passable_congr fun front hfront => ?_]
  have hpre := stop_prefix_of_down hup hfront (base.startTrail p)
  exact h.view_of_ne_none hpre fun hnone => hsome (Tree.view_eq_none_above hnone hpre)

theorem target_eq (disk : Disk) (p : Path) :
    disk.target p =
      (checkPath p).bind fun _ =>
        (arrive disk.root (disk.startTrail p) (solidPieces p).dropLast).bind fun _ =>
          match newName? p with
          | none => .error .isDirectory
          | some name =>
            if p.text.getLast? = some '/' then .error .isDirectory
            else if byteLength name ≤ longestName then
              if disk.root.view ((disk.innerTrail p).reverse ++ [name]) = some .directory then
                .error .isDirectory
              else .ok ((disk.innerTrail p).reverse ++ [name])
            else .error .nameTooLong := by
  unfold target
  cases hcheck : checkPath p with
  | error e =>
    rw [place_eq, hcheck]
    rfl
  | ok _ =>
    rw [place_eq_arrive disk p hcheck]
    cases arrive disk.root (disk.startTrail p) (solidPieces p).dropLast with
    | error e => rfl
    | ok _ =>
      cases newName? p with
      | none => rfl
      | some name =>
        have hchild : (Stop.at disk.root (disk.innerTrail p)).node.bind (·.child? name) =
            disk.root.get? ((disk.innerTrail p).reverse ++ [name]) := by
          rw [Tree.get?_concat]
          rfl
        simp only [Except.map, bind, Except.bind, checkName_eq, hchild]
        by_cases hslash : p.text.getLast? = some '/'
        · rw [if_pos hslash, if_pos hslash]
          rfl
        · rw [if_neg hslash, if_neg hslash]
          by_cases hname : byteLength name ≤ longestName
          · rw [if_pos hname, if_pos hname]
            unfold Tree.view
            cases disk.root.get? ((disk.innerTrail p).reverse ++ [name]) with
            | none => rfl
            | some t => cases t <;> rfl
          · rw [if_neg hname, if_neg hname]

/-- The target of a path that never leads up is decided on the way to its destination. -/
theorem target_congr {a b : Disk} {p : Path} (hup : (".." : Text) ∉ p.pieces) (hcwd : b.cwd = a.cwd)
    (h : ∀ there, there <+: a.destination p → b.root.view there = a.root.view there) :
    b.target p = a.target p := by
  have hstart := startTrail_congr hcwd p
  have hinner : b.innerTrail p = a.innerTrail p := by
    unfold innerTrail
    rw [hstart]
  obtain ⟨empties, hpieces, -⟩ := pieces_eq_solidPieces p
  have hsolid : solidPieces p <+: p.pieces := hpieces ▸ List.prefix_append _ _
  have hview : ∀ front, front <+: solidPieces p →
      b.root.view (front.foldl turn (a.startTrail p)).reverse =
        a.root.view (front.foldl turn (a.startTrail p)).reverse := fun front hfront =>
    h _ (stop_prefix_of_down hup (hfront.trans hsolid) _)
  rw [target_eq, target_eq, hstart, hinner,
    arrive_congr fun front hfront => hview front (hfront.trans (List.dropLast_prefix _))]
  cases hnew : newName? p with
  | none => rfl
  | some name =>
    obtain ⟨hname, front, hlast⟩ := newName?_eq_some_iff.1 hnew
    have hsite : ((solidPieces p).foldl turn (a.startTrail p)).reverse =
        (a.innerTrail p).reverse ++ [name] := by
      rw [innerTrail, hlast, List.foldl_append, List.dropLast_concat, List.foldl_cons, List.foldl_nil,
        hname.turn, List.reverse_cons]
    simp only [← hsite, hview _ (List.prefix_refl _)]

/-- Once the directories are made, disks that agreed look alike on the whole way. -/
theorem MadeAlike.target {places : List Location} {base disk : Disk} {p : Path}
    (h : MadeAlike places base disk p) (hbase : MadeAlike places base base p)
    (hup : (".." : Text) ∉ p.pieces) (hfree : FreeAbove base (base.destination p) places)
    (hagrees : Agrees base disk (base.destination p)) (hok : (base.makeParents p).1 = .ok ()) :
    (disk.makeParents p).2.target p = (base.makeParents p).2.target p := by
  apply target_congr hup ((h.paved.cwd.trans hagrees.cwd).trans hbase.paved.cwd.symm)
  intro there hpre
  rw [destination_congr hbase.paved.cwd] at hpre
  by_cases hthere : there = base.destination p
  · rw [hthere, h.paved.view, hbase.paved.view, if_neg hfree.not_mem, if_neg hfree.not_mem,
      hagrees.view_dest]
  · rw [h.above hok there hpre hthere, hbase.above hok there hpre hthere]

end Disk

end LuaReference
