import LuaReference.Proofs.Files.Agree
import LuaReference.Proofs.Page.Write

/-!
# Pages that do not get in each other's way

* `Disk.Patched` : the changes that one disk has over another;
* `Disk.OnWay` : the changes that a page may leave;
* `Page.write_agrees` : what becomes of a page is the same on all disks that agree on the way to its
  destination, and so are the changes.
-/

namespace LuaReference

open Text

namespace Disk

/-! ## Patches -/

/-- A patch was put over a disk: where it says something, that stands there now. -/
structure Patched (patch : Location → Option Node) (before after : Disk) : Prop where
  cwd : after.cwd = before.cwd
  view : ∀ there, after.root.view there = (patch there).or (before.root.view there)

/-- What a page may leave: something at its destination, and directories on the way where no file
stood. -/
structure OnWay (base : Disk) (dest there : Location) (n : Node) : Prop where
  toward : there <+: dest
  above : there ≠ dest → n = .directory ∧ ∀ content, base.root.view there ≠ some (.file content)

theorem Patched.refl (disk : Disk) : Patched (fun _ => none) disk disk := ⟨rfl, fun _ => rfl⟩

/-- Directories at some places. -/
def paving (places : List Location) (there : Location) : Option Node :=
  if there ∈ places then some .directory else none

theorem Paved.patched {places : List Location} {before after : Disk} (h : Paved places before after) :
    Patched (paving places) before after := by
  refine ⟨h.cwd, fun there => ?_⟩
  rw [h.view, paving]
  split <;> rfl

/-- A file put after directories were made. -/
theorem Paved.put {places : List Location} {before after : Disk} (h : Paved places before after)
    {p : Path} {here : Location} (htarget : after.target p = .ok here) (content : Bytes) :
    Patched (fun there => if there = here then some (.file content) else paving places there) before
      (after.putFile here content) := by
  refine ⟨h.cwd, fun there => ?_⟩
  rw [view_putFile htarget]
  split
  · rfl
  · exact h.patched.view there

theorem onWay_paving {places : List Location} {base : Disk} {dest : Location}
    (h : FreeAbove base dest places) :
    ∀ there n, paving places there = some n → OnWay base dest there n := by
  intro there n hn
  unfold paving at hn
  split at hn
  · rename_i hthere
    obtain ⟨habove, hfile⟩ := h there hthere
    exact ⟨habove.1, fun _ => ⟨(Option.some.inj hn).symm, hfile⟩⟩
  · cases hn

theorem onWay_put {patch : Location → Option Node} {base : Disk} {dest : Location}
    (h : ∀ there n, patch there = some n → OnWay base dest there n) (content : Bytes) :
    ∀ there n, (if there = dest then some (.file content) else patch there) = some n →
      OnWay base dest there n := by
  intro there n hn
  split at hn
  · rename_i hthere
    subst hthere
    exact ⟨List.prefix_refl there, fun hne => absurd rfl hne⟩
  · exact h there n hn

end Disk

namespace Page

open Disk

/-! ## Pages -/

theorem write_of_skip {page : Page} {force : Bool} {disk : Disk}
    (h : page.yields force (disk.isOccupied page.path) = true) :
    page.write force disk = (.ok .skipped, disk) := by
  unfold write
  exact if_pos h

theorem write_of_made {page : Page} {force : Bool} {disk : Disk}
    (h : page.yields force (disk.isOccupied page.path) = false)
    (hmade : (disk.makeParents page.path).1 = .ok ()) :
    page.write force disk =
      match (disk.makeParents page.path).2.target page.path with
      | .error e => (.error e, (disk.makeParents page.path).2)
      | .ok here => (.ok (page.outcome (disk.isOccupied page.path)),
          (disk.makeParents page.path).2.putFile here (page.leaves (disk.isOccupied page.path)
            ((disk.makeParents page.path).2.contentAt here))) := by
  rcases hparents : disk.makeParents page.path with ⟨result, made⟩
  rw [hparents] at hmade
  obtain rfl : result = .ok () := hmade
  unfold write
  simp only [h, hparents, put_eq]
  cases made.target page.path <;> rfl

theorem write_of_unmade {page : Page} {force : Bool} {disk : Disk} {e : FileError}
    (h : page.yields force (disk.isOccupied page.path) = false)
    (hmade : (disk.makeParents page.path).1 = .error e) :
    page.write force disk = (.error e, (disk.makeParents page.path).2) := by
  rcases hparents : disk.makeParents page.path with ⟨result, made⟩
  rw [hparents] at hmade
  obtain rfl : result = .error e := hmade
  unfold write
  simp only [h, hparents]
  rfl

/-- What becomes of a page is the same on all disks that agree on the way to its destination, and the
same patch is put over each of them. -/
theorem write_agrees (page : Page) (force : Bool) {base : Disk} (hup : (".." : Text) ∉ page.path.pieces)
    (hstart : base.root.view base.cwd = some .directory) :
    ∃ patch, (∀ there n, patch there = some n → OnWay base (base.destination page.path) there n) ∧
      ∀ disk, Agrees base disk (base.destination page.path) →
        (page.write force disk).1 = (page.write force base).1 ∧
          Patched patch disk (page.write force disk).2 := by
  obtain ⟨places, hfree, hmade⟩ := makeParents_agrees hup (view_startTrail hstart page.path)
  have hbase := hmade base (Agrees.refl _ _)
  have hocc : ∀ disk, Agrees base disk (base.destination page.path) →
      disk.isOccupied page.path = base.isOccupied page.path := fun disk => isOccupied_agrees hup
  cases hyield : page.yields force (base.isOccupied page.path) with
  | true =>
    refine ⟨fun _ => none, fun _ _ h => (nomatch h), fun disk hagrees => ?_⟩
    rw [write_of_skip hyield, write_of_skip (by rw [hocc disk hagrees, hyield])]
    exact ⟨rfl, Patched.refl disk⟩
  | false =>
    have hyields : ∀ disk, Agrees base disk (base.destination page.path) →
        page.yields force (disk.isOccupied page.path) = false := by
      intro disk hagrees
      rw [hocc disk hagrees, hyield]
    cases hparents : (base.makeParents page.path).1 with
    | error e =>
      refine ⟨paving places, onWay_paving hfree, fun disk hagrees => ?_⟩
      have hdisk := hmade disk hagrees
      rw [write_of_unmade hyield hparents,
        write_of_unmade (hyields disk hagrees) (hdisk.result.trans hparents)]
      exact ⟨rfl, hdisk.paved.patched⟩
    | ok _ =>
      have hwrite := fun disk (hagrees : Agrees base disk (base.destination page.path)) =>
        write_of_made (hyields disk hagrees) ((hmade disk hagrees).result.trans hparents)
      cases hput : (base.makeParents page.path).2.target page.path with
      | error e =>
        refine ⟨paving places, onWay_paving hfree, fun disk hagrees => ?_⟩
        have hdisk := hmade disk hagrees
        have htarget := (hdisk.target hbase hup hfree hagrees hparents).trans hput
        rw [hwrite disk hagrees, htarget, hwrite base (Agrees.refl _ _), hput]
        exact ⟨rfl, hdisk.paved.patched⟩
      | ok here =>
        obtain rfl : here = base.destination page.path := by
          rw [(target_eq_ok_iff.1 hput).2.2.2, destination_congr hbase.paved.cwd]
        refine ⟨_, onWay_put (onWay_paving hfree) (page.leaves (base.isOccupied page.path)
          (base.contentAt (base.destination page.path))), fun disk hagrees => ?_⟩
        have hdisk := hmade disk hagrees
        have htarget := (hdisk.target hbase hup hfree hagrees hparents).trans hput
        have hold : (disk.makeParents page.path).2.contentAt (base.destination page.path) =
            base.contentAt (base.destination page.path) := by
          rw [contentAt_eq, contentAt_eq, hdisk.paved.view, if_neg hfree.not_mem, hagrees.view_dest]
        rw [hwrite disk hagrees, htarget, hwrite base (Agrees.refl _ _), hput, hocc disk hagrees, ← hold]
        exact ⟨rfl, hdisk.paved.put htarget _⟩

end Page

end LuaReference
