import LuaReference.Proofs.Files.Walk

/-!
# Directories that appear

* `Grows before after W` : directories appeared at places in `W` where nothing stood, and all else
  is as it was; `Grows.refl`, `Grows.trans`;
* `Grows.file_iff`, `Grows.directory` : no file comes or goes, and directories stay;
* `Disk.site?` : the location of the directory that a path would create;
* `makeDirectory_eq_ok`, `makeLineage_grows`, `makeParents_grows` : creating directories does nothing
  else, also where it fails halfway;
* `Grows.find_file` : a file that is found after growth was found before it, or its path led
  nowhere.
-/

namespace LuaReference.Disk

open Text

/-- Directories appeared at places in `W` where nothing stood; all else is as it was. -/
structure Grows (before after : Disk) (W : Location → Prop) : Prop where
  cwd : after.cwd = before.cwd
  view : ∀ here, after.root.view here = before.root.view here ∨
    (W here ∧ before.root.view here = none ∧ after.root.view here = some .directory)

section Grows
variable {a b c : Disk} {W : Location → Prop}

theorem Grows.refl (a : Disk) (W : Location → Prop) : Grows a a W := ⟨rfl, fun _ => Or.inl rfl⟩

theorem Grows.trans (h₁ : Grows a b W) (h₂ : Grows b c W) : Grows a c W := by
  refine ⟨h₂.cwd.trans h₁.cwd, fun here => ?_⟩
  rcases h₂.view here with h | ⟨hW, hb, hc⟩
  · rw [h]
    exact h₁.view here
  · rcases h₁.view here with h | ⟨-, -, hb'⟩
    · exact Or.inr ⟨hW, h ▸ hb, hc⟩
    · rw [hb] at hb'
      cases hb'

theorem Grows.file_iff (h : Grows a b W) {here : Location} {content : Bytes} :
    b.root.view here = some (.file content) ↔ a.root.view here = some (.file content) := by
  rcases h.view here with heq | ⟨-, ha, hb⟩
  · rw [heq]
  · simp [ha, hb]

theorem Grows.directory (h : Grows a b W) {here : Location}
    (hdir : a.root.view here = some .directory) : b.root.view here = some .directory := by
  rcases h.view here with heq | ⟨-, ha, -⟩
  · rw [heq, hdir]
  · rw [ha] at hdir
    cases hdir

theorem Grows.startTrail (h : Grows a b W) (p : Path) : b.startTrail p = a.startTrail p :=
  startTrail_congr h.cwd p

theorem Grows.destination (h : Grows a b W) (p : Path) : b.destination p = a.destination p :=
  destination_congr h.cwd p

end Grows

/-! ## One directory -/

/-- The location of the directory that a path would create. -/
def site? (disk : Disk) (p : Path) : Option Location :=
  (newName? p).map fun name => (disk.innerTrail p).reverse ++ [name]

theorem Grows.site? {a b : Disk} {W : Location → Prop} (h : Grows a b W) (p : Path) :
    b.site? p = a.site? p := by
  unfold Disk.site? innerTrail
  rw [h.startTrail]

/-- What becomes of a path whose directory is there. -/
theorem makeDirectory_of_settles {disk : Disk} {p : Path} (h : disk.Settles p) :
    disk.makeDirectory p =
      match newName? p with
      | none => .error .alreadyExists
      | some name =>
        let here := (disk.innerTrail p).reverse ++ [name]
        if byteLength name ≤ longestName then
          if disk.root.view here = none then
            .ok { disk with root := disk.root.put here (.directory []) }
          else .error .alreadyExists
        else .error .nameTooLong := by
  unfold makeDirectory
  rw [place_of_settles h]
  cases newName? p with
  | none => rfl
  | some name =>
    have hchild : (Stop.at disk.root (disk.innerTrail p)).node.bind (·.child? name) =
        disk.root.get? ((disk.innerTrail p).reverse ++ [name]) := by
      rw [Tree.get?_concat]
      rfl
    simp only [bind, Except.bind, checkName_eq, hchild]
    by_cases hlen : byteLength name ≤ longestName
    · rw [if_pos hlen, if_pos hlen]
      unfold Tree.view
      cases disk.root.get? ((disk.innerTrail p).reverse ++ [name]) <;> rfl
    · rw [if_neg hlen, if_neg hlen]

theorem makeDirectory_of_place {disk : Disk} {p : Path} {e : FileError}
    (h : disk.place p = .error e) : disk.makeDirectory p = .error e := by
  unfold makeDirectory
  rw [h]
  rfl

/-- A directory that is created stands in an existing one, where nothing stood. -/
theorem makeDirectory_eq_ok {disk made : Disk} {p : Path} (h : disk.makeDirectory p = .ok made) :
    ∃ name, disk.Settles p ∧ newName? p = some name ∧
      disk.root.view ((disk.innerTrail p).reverse ++ [name]) = none ∧
      made = { disk with
        root := disk.root.put ((disk.innerTrail p).reverse ++ [name]) (.directory []) } := by
  rcases settles_or_error disk p with hs | ⟨e, hplace⟩
  · rw [makeDirectory_of_settles hs] at h
    cases hnew : newName? p with
    | none => rw [hnew] at h; cases h
    | some name =>
      simp only [hnew] at h
      split at h
      · split at h
        · rename_i hview
          exact ⟨name, hs, rfl, hview, (Except.ok.inj h).symm⟩
        · cases h
      · cases h
  · rw [makeDirectory_of_place hplace] at h
    cases h

theorem view_empty_directory (here : Location) :
    (Tree.directory []).view here = if here = [] then some .directory else none := by
  cases here with
  | nil => rfl
  | cons name rest => rfl

theorem makeDirectory_grows {disk made : Disk} {p : Path} {W : Location → Prop}
    (hW : ∀ here, disk.site? p = some here → W here) (h : disk.makeDirectory p = .ok made) :
    Grows disk made W := by
  obtain ⟨name, hs, hnew, hnone, rfl⟩ := makeDirectory_eq_ok h
  refine ⟨rfl, fun here => ?_⟩
  simp only [Tree.view_put name (.directory []) here hs.2.2]
  split
  · rename_i hpre
    obtain ⟨rest, rfl⟩ := hpre
    cases rest with
    | nil =>
      refine Or.inr ⟨hW _ (by rw [List.append_nil, site?, hnew]; rfl), ?_, ?_⟩
      · rw [List.append_nil, hnone]
      · rw [view_empty_directory, if_pos (List.drop_eq_nil_of_le (by simp))]
    | cons next more =>
      refine Or.inl ?_
      rw [Tree.view_eq_none_above hnone ⟨_, rfl⟩, view_empty_directory, if_neg]
      simp
  · exact Or.inl rfl

/-! ## Lineages -/

theorem ensureDirectory_grows {disk made : Disk} {p : Path} {W : Location → Prop}
    (hW : ∀ here, disk.site? p = some here → W here) (h : disk.ensureDirectory p = .ok made) :
    Grows disk made W := by
  unfold ensureDirectory at h
  split at h
  · rename_i done hmade
    obtain rfl := Except.ok.inj h
    exact makeDirectory_grows hW hmade
  · split at h
    · obtain rfl := Except.ok.inj h
      exact Grows.refl _ _
    · cases h

/-- Creating a lineage adds directories only, also where it fails halfway. -/
theorem makeLineage_grows {disk : Disk} {W : Location → Prop} (lineage : List Path)
    (hW : ∀ p ∈ lineage, ∀ here, disk.site? p = some here → W here) :
    Grows disk (disk.makeLineage lineage).2 W := by
  induction lineage with
  | nil => exact Grows.refl _ _
  | cons p outer ih =>
    have hp := hW p List.mem_cons_self
    have houter := ih fun q hq => hW q (List.mem_cons_of_mem p hq)
    unfold makeLineage
    split
    · exact Grows.refl _ _
    · split
      · rename_i made hmade
        exact makeDirectory_grows hp hmade
      · split
        · rename_i hout
          rw [hout] at houter
          exact houter
        · rename_i made hout
          rw [hout] at houter
          split
          · rename_i done hdone
            refine houter.trans (ensureDirectory_grows ?_ hdone)
            rw [houter.site?]
            exact hp
          · exact houter
      · split <;> exact Grows.refl _ _

/-- The directories that a path may create when those it needs are made. -/
def parentLineage (p : Path) : List Path :=
  match p.parent? with
  | none => []
  | some dir => dir.lineage

theorem makeParents_grows {disk : Disk} {p : Path} {W : Location → Prop}
    (hW : ∀ q ∈ parentLineage p, ∀ here, disk.site? q = some here → W here) :
    Grows disk (disk.makeParents p).2 W := by
  unfold makeParents
  unfold parentLineage at hW
  split
  · exact Grows.refl _ _
  · rename_i dir hdir
    rw [hdir] at hW
    unfold makeDirectories
    split
    · exact Grows.refl _ _
    · split
      · exact Grows.refl _ _
      · exact makeLineage_grows dir.lineage hW

/-! ## Files after growth -/

/-- A file that a path leads to after growth was found before it, or the path led nowhere for want
of a directory on the way. -/
theorem Grows.find_file {a b : Disk} {W : Location → Prop} {p : Path} {content : Bytes}
    (h : Grows a b W) (hfind : b.find p = .ok (.file content)) :
    a.find p = .ok (.file content) ∨
    (a.find p = .error .notFound ∧ ∃ front back, p.pieces = front ++ back ∧
      Passable a.root (a.startTrail p) front ∧
      a.root.view (front.foldl turn (a.startTrail p)).reverse = none) := by
  obtain ⟨⟨hcheck, hpass⟩, hget⟩ := find_eq_ok_iff.1 hfind
  rw [h.startTrail] at hpass
  have hfile : a.root.view (a.destination p) = some (.file content) := by
    rw [← h.file_iff, ← h.destination p]
    exact Tree.view_eq_file.2 hget
  cases ha : a.find p with
  | ok t =>
    obtain ⟨-, ht⟩ := find_eq_ok_iff.1 ha
    rw [Tree.view_eq_file.1 hfile] at ht
    exact Or.inl (congrArg Except.ok (Option.some.inj ht).symm)
  | error e =>
    rcases find_eq_error ha with hc | ⟨front, piece, back, hp, hfront, hb⟩ | ⟨-, hnone, -⟩
    · rw [hcheck] at hc
      cases hc
    · -- the way is passable after growth, so the only thing that blocked it was a missing directory
      rw [hp, passable_append] at hpass
      obtain ⟨-, hdir, hname, -⟩ := hpass
      cases e with
      | notFound => exact Or.inr ⟨rfl, front, piece :: back, hp, hfront, hb⟩
      | notDirectory =>
        obtain ⟨c, hc⟩ := hb
        rw [h.file_iff.2 hc] at hdir
        cases hdir
      | nameTooLong => exact absurd hname (Nat.not_le_of_lt hb)
      | isDirectory => exact hb.elim
      | alreadyExists => exact hb.elim
      | nulInName => exact hb.elim
    · rw [hfile] at hnone
      cases hnone

end LuaReference.Disk
