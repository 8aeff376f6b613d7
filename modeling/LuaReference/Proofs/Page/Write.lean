import LuaReference.Page.Write
import LuaReference.Proofs.Files.Growth

/-!
# What writing a page can do

* `Disk.view_putFile` : a file put at the target of a path is seen there, and nothing else changes;
* `Disk.target_of_find` : a path that leads to a file opens that file;
* `Page.leaves`, `Page.outcome` : the content that a page leaves where it is put, and what became of it;
* `Page.write_cases` : a page is skipped, fails after directories were made, or is put at its target.
-/

namespace LuaReference

open Text

namespace Disk

/-! ## Putting a file -/

theorem view_putFile {disk : Disk} {p : Path} {here : Location} (h : disk.target p = .ok here)
    (content : Bytes) (there : Location) :
    (disk.putFile here content).root.view there =
      if there = here then some (.file content) else disk.root.view there := by
  obtain ⟨hr, ⟨front, name, hp, hname⟩, hdir, rfl⟩ := target_eq_ok_iff.1 h
  obtain ⟨⟨-, -, hinner⟩, -⟩ := (reaches_iff_settles hp hname).1 hr
  obtain ⟨-, hdest⟩ := destination_of_name disk hp hname
  rw [hdest] at hdir ⊢
  simp only [putFile, Tree.view_put name (.file content) there hinner]
  by_cases hpre : (disk.innerTrail p).reverse ++ [name] <+: there
  · rw [if_pos hpre]
    obtain ⟨rest, rfl⟩ := hpre
    cases rest with
    | nil =>
      rw [List.append_nil, if_pos rfl, List.drop_eq_nil_of_le (by simp)]
      rfl
    | cons next more =>
      -- what stood there was no directory, so nothing stood below it
      have hbelow : disk.root.view ((disk.innerTrail p).reverse ++ [name] ++ next :: more) = none := by
        cases hv : disk.root.view ((disk.innerTrail p).reverse ++ [name] ++ next :: more) with
        | none => rfl
        | some n => exact absurd (Tree.view_of_append hv (by simp)) hdir
      have hdrop : ((disk.innerTrail p).reverse ++ [name] ++ next :: more).drop
          ((disk.innerTrail p).reverse.length + 1) = next :: more :=
        List.drop_left' (by simp)
      rw [if_neg (by simp), hbelow, hdrop]
      rfl
  · rw [if_neg hpre, if_neg]
    rintro rfl
    exact hpre (List.prefix_refl _)

theorem contentAt_eq (disk : Disk) (here : Location) :
    disk.contentAt here =
      match disk.root.view here with
      | some (.file content) => content
      | _ => [] := by
  unfold contentAt Tree.view
  cases disk.root.get? here with
  | none => rfl
  | some t => cases t <;> rfl

theorem contentAt_of_file {disk : Disk} {here : Location} {content : Bytes}
    (h : disk.root.view here = some (.file content)) : disk.contentAt here = content := by
  rw [contentAt_eq, h]

theorem contentAt_of_none {disk : Disk} {here : Location} (h : disk.root.view here = none) :
    disk.contentAt here = [] := by
  rw [contentAt_eq, h]

theorem Grows.contentAt {a b : Disk} {W : Location → Prop} (h : Grows a b W) (here : Location) :
    b.contentAt here = a.contentAt here := by
  rw [contentAt_eq, contentAt_eq]
  rcases h.view here with heq | ⟨-, ha, hb⟩
  · rw [heq]
  · rw [ha, hb]

/-! ## Paths that lead to files -/

/-- A path that leads to a file ends in its name. -/
theorem endsInName_of_find {disk : Disk} {p : Path} {content : Bytes}
    (h : disk.find p = .ok (.file content)) : EndsInName p := by
  obtain ⟨⟨-, hpass⟩, hget⟩ := find_eq_ok_iff.1 h
  obtain ⟨front, last, hp⟩ := List.eq_nil_or_concat p.pieces |>.resolve_left (splitOn_ne_nil _ _)
  rw [List.concat_eq_append] at hp
  refine ⟨front, last, hp, ?_⟩
  by_cases hname : IsName last
  · exact hname
  · rw [hp, passable_append] at hpass
    have hdir := turn_directory hpass.2.1 hname
    have hfile := Tree.view_eq_file.2 hget
    rw [destination, trailOf, hp, List.foldl_append] at hfile
    rw [List.foldl_cons, List.foldl_nil, hdir] at hfile
    cases hfile

theorem target_of_find {disk : Disk} {p : Path} {content : Bytes}
    (h : disk.find p = .ok (.file content)) : disk.target p = .ok (disk.destination p) := by
  obtain ⟨hr, hget⟩ := find_eq_ok_iff.1 h
  refine target_eq_ok_iff.2 ⟨hr, endsInName_of_find h, ?_, rfl⟩
  rw [Tree.view_eq_file.2 hget]
  simp

theorem find_of_target {disk : Disk} {p : Path} {here : Location} {content : Bytes}
    (h : disk.target p = .ok here) (hfile : disk.root.view here = some (.file content)) :
    disk.find p = .ok (.file content) := by
  obtain ⟨hr, -, -, rfl⟩ := target_eq_ok_iff.1 h
  exact find_eq_ok_iff.2 ⟨hr, Tree.view_eq_file.1 hfile⟩

end Disk

namespace Page

/-! ## Writing -/

/-- The content that a page leaves where it is put over some content. -/
def leaves (page : Page) (occupied : Bool) (old : Bytes) : Bytes :=
  if page.append then old ++ (page.render (!occupied)).encode else (page.render true).encode

/-- What becomes of a page that is put. -/
def outcome (page : Page) (occupied : Bool) : Outcome :=
  if page.append && occupied then .appended else .written

theorem put_eq (page : Page) (occupied : Bool) (disk : Disk) :
    page.put occupied disk =
      (disk.target page.path).map fun here =>
        (page.outcome occupied, disk.putFile here (page.leaves occupied (disk.contentAt here))) := by
  unfold put outcome leaves Disk.append Disk.write
  cases page.append <;> cases occupied <;> cases disk.target page.path <;> rfl

/-- A page is skipped, or fails after directories were made, or is put at its target. -/
theorem write_cases (page : Page) (force : Bool) (disk : Disk) :
    let occupied := disk.isOccupied page.path
    let made := (disk.makeParents page.path).2
    (page.yields force occupied = true ∧ page.write force disk = (.ok .skipped, disk)) ∨
    (∃ e, ((disk.makeParents page.path).1 = .error e ∨ made.target page.path = .error e) ∧
      page.write force disk = (.error e, made)) ∨
    (page.yields force occupied = false ∧ (disk.makeParents page.path).1 = .ok () ∧
      ∃ here, made.target page.path = .ok here ∧
        page.write force disk = (.ok (page.outcome occupied),
          made.putFile here (page.leaves occupied (made.contentAt here)))) := by
  intro occupied made
  unfold write
  cases hyield : page.yields force occupied with
  | true => exact Or.inl ⟨rfl, if_pos hyield⟩
  | false =>
    refine Or.inr ?_
    simp only [occupied] at hyield
    simp only [hyield]
    rcases hmade : disk.makeParents page.path with ⟨result, after⟩
    simp only [made, hmade]
    cases result with
    | error e => exact Or.inl ⟨e, Or.inl rfl, rfl⟩
    | ok _ =>
      simp only [put_eq]
      cases htarget : after.target page.path with
      | error e => exact Or.inl ⟨e, Or.inr rfl, rfl⟩
      | ok here => exact Or.inr ⟨trivial, trivial, here, rfl, rfl⟩

end Page

end LuaReference
