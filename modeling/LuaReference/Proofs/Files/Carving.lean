import LuaReference.Proofs.Files.Growth

/-!
# Making directories from the outside in

* `arrive` : following pieces to a directory;
* `carve` : making the directories along some pieces, one after the other;
* `carve_induction` : the cases of its steps; `carve_grows`, `arrive_of_carve` : it adds directories
  only, and what was carved can be walked;
* `carve_missing`, `carve_blocked` : the pieces before the last one decide, unless a directory is
  missing among them;
* `Unblocked`, `stops`, `carve_unblocked` : what comes of it where no file stands in the way.
-/

namespace LuaReference.Disk

open Text LuaReference.Path

/-! ## Arriving -/

/-- Follows pieces to a directory. -/
def arrive (root : Tree) (trail pieces : List Text) : Except FileError Unit :=
  (walk root (.at root trail) pieces).bind Stop.checkDirectory

section Arrive
variable {root : Tree} {trail : List Text}

theorem arrive_of_none (h : root.view trail.reverse = none) (pieces : List Text) :
    arrive root trail pieces = .error .notFound := by
  unfold arrive
  cases pieces with
  | nil => rw [walk, Except.bind, checkDirectory_at, h]
  | cons piece rest => rw [walk, checkDirectory_at, h]; rfl

theorem arrive_of_file {content : Bytes} (h : root.view trail.reverse = some (.file content))
    (pieces : List Text) : arrive root trail pieces = .error .notDirectory := by
  unfold arrive
  cases pieces with
  | nil => rw [walk, Except.bind, checkDirectory_at, h]
  | cons piece rest => rw [walk, checkDirectory_at, h]; rfl

theorem arrive_nil (h : root.view trail.reverse = some .directory) :
    arrive root trail [] = .ok () := by
  rw [arrive, walk, Except.bind, checkDirectory_at, h]

theorem arrive_cons (h : root.view trail.reverse = some .directory) (piece : Text) (rest : List Text) :
    arrive root trail (piece :: rest) =
      if byteLength piece ≤ longestName then arrive root (turn trail piece) rest
      else .error .nameTooLong := by
  unfold arrive
  split
  · rename_i hname
    rw [walk_cons_of_directory rest h hname]
  · rename_i hname
    rw [walk, checkDirectory_at, h, checkName_eq, if_neg hname]
    rfl

theorem arrive_eq_ok_iff {pieces : List Text} :
    arrive root trail pieces = .ok () ↔
      Passable root trail pieces ∧ root.view (pieces.foldl turn trail).reverse = some .directory := by
  induction pieces generalizing trail with
  | nil =>
    cases hview : root.view trail.reverse with
    | none => simp [arrive_of_none hview, hview]
    | some node =>
      cases node with
      | file content => simp [arrive_of_file hview, hview]
      | directory => simp [arrive_nil hview, hview, Passable]
  | cons piece rest ih =>
    cases hview : root.view trail.reverse with
    | none => simp [arrive_of_none hview, hview, Passable]
    | some node =>
      cases node with
      | file content => simp [arrive_of_file hview, hview, Passable]
      | directory =>
        rw [arrive_cons hview, Passable, List.foldl_cons]
        split
        · rename_i hname
          simp [ih, hview, hname]
        · rename_i hname
          simp [hname]

theorem arrive_append_ok {front back : List Text} :
    arrive root trail (front ++ back) = .ok () ↔
      arrive root trail front = .ok () ∧ arrive root (front.foldl turn trail) back = .ok () := by
  simp only [arrive_eq_ok_iff, passable_append, List.foldl_append]
  constructor
  · rintro ⟨⟨hfront, hback⟩, hdir⟩
    refine ⟨⟨hfront, ?_⟩, hback, hdir⟩
    cases back with
    | nil => exact hdir
    | cons piece rest => exact hback.1
  · rintro ⟨⟨hfront, -⟩, hback, hdir⟩
    exact ⟨⟨hfront, hback⟩, hdir⟩

end Arrive

theorem place_eq_arrive (disk : Disk) (p : Path) (hcheck : checkPath p = .ok ()) :
    disk.place p =
      (arrive disk.root (disk.startTrail p) (solidPieces p).dropLast).map fun _ =>
        (.at disk.root (disk.innerTrail p), newName? p) := by
  rw [place_eq, hcheck]
  unfold arrive
  rcases walk_cases disk.root (disk.startTrail p) (solidPieces p).dropLast with
    ⟨-, hwalk⟩ | ⟨e, _, _, _, hwalk, _⟩
  · rw [hwalk, ← innerTrail]
    simp only [Except.bind]
    cases (Stop.at disk.root (disk.innerTrail p)).checkDirectory <;> rfl
  · rw [hwalk]
    rfl

theorem settles_iff_arrive {disk : Disk} {p : Path} (hcheck : checkPath p = .ok ()) :
    disk.Settles p ↔ arrive disk.root (disk.startTrail p) (solidPieces p).dropLast = .ok () := by
  unfold Settles
  rw [arrive_eq_ok_iff, hcheck, innerTrail]
  simp

theorem isDirectory_iff_arrive {disk : Disk} {p : Path} (hcheck : checkPath p = .ok ()) :
    disk.isDirectory p = true ↔ arrive disk.root (disk.startTrail p) p.pieces = .ok () := by
  rw [arrive_eq_ok_iff]
  constructor
  · intro h
    unfold isDirectory at h
    split at h
    · rename_i entries hfind
      obtain ⟨hreaches, hget⟩ := find_eq_ok_iff.1 hfind
      have hview : disk.root.view (disk.destination p) = some .directory := by
        simp [Tree.view, hget, Tree.node]
      exact ⟨hreaches.2, hview⟩
    · cases h
  · rintro ⟨hpass, hdir⟩
    obtain ⟨entries, hget⟩ := Tree.view_eq_directory hdir
    unfold isDirectory
    rw [find_eq_ok_iff.2 ⟨⟨hcheck, hpass⟩, hget⟩]

/-! ## Carving -/

/-- Creates the directories along some pieces where they are missing, from the outside in. What is
refused where a file stands depends on whether a directory was created before, and on what follows. -/
def carve (disk : Disk) (grown : Bool) (trail : List Text) : List Text → Except FileError Unit × Disk
  | [] => (.ok (), disk)
  | piece :: rest =>
    let next := turn trail piece
    if longestName < byteLength piece then (.error .nameTooLong, disk)
    else
      match disk.root.view next.reverse with
      | some .directory => carve disk grown next rest
      | some (.file _) =>
        (.error (if grown || rest.all isIdle then .alreadyExists else .notDirectory), disk)
      | none =>
        carve { disk with root := disk.root.put next.reverse (.directory []) } true next rest

section Carve
variable {disk : Disk} {grown : Bool} {trail : List Text} {piece : Text} (rest : List Text)

theorem carve_long (h : longestName < byteLength piece) :
    carve disk grown trail (piece :: rest) = (.error .nameTooLong, disk) := by
  rw [carve, if_pos h]

theorem carve_directory (hname : byteLength piece ≤ longestName)
    (h : disk.root.view (turn trail piece).reverse = some .directory) :
    carve disk grown trail (piece :: rest) = carve disk grown (turn trail piece) rest := by
  rw [carve, if_neg (Nat.not_lt_of_le hname), h]

theorem carve_file (hname : byteLength piece ≤ longestName) {content : Bytes}
    (h : disk.root.view (turn trail piece).reverse = some (.file content)) :
    carve disk grown trail (piece :: rest) =
      (.error (if grown || rest.all isIdle then .alreadyExists else .notDirectory), disk) := by
  rw [carve, if_neg (Nat.not_lt_of_le hname), h]

theorem carve_none (hname : byteLength piece ≤ longestName)
    (h : disk.root.view (turn trail piece).reverse = none) :
    carve disk grown trail (piece :: rest) =
      carve { disk with root := disk.root.put (turn trail piece).reverse (.directory []) } true
        (turn trail piece) rest := by
  rw [carve, if_neg (Nat.not_lt_of_le hname), h]

end Carve

/-- A directory that is missing after an existing one has the name of the last piece. -/
theorem isName_of_missing {root : Tree} {trail : List Text} {piece : Text}
    (hdir : root.view trail.reverse = some .directory)
    (hnone : root.view (turn trail piece).reverse = none) : IsName piece := by
  by_cases hname : IsName piece
  · exact hname
  · rw [turn_directory hdir hname] at hnone
    cases hnone

theorem view_putDirectory {root : Tree} {trail : List Text} {piece : Text}
    (hdir : root.view trail.reverse = some .directory)
    (hnone : root.view (turn trail piece).reverse = none) (there : Location) :
    (root.put (turn trail piece).reverse (.directory [])).view there =
      if there = (turn trail piece).reverse then some .directory else root.view there := by
  have hname := isName_of_missing hdir hnone
  rw [hname.turn, List.reverse_cons] at hnone ⊢
  rw [Tree.view_put piece (.directory []) there hdir]
  by_cases hpre : trail.reverse ++ [piece] <+: there
  · rw [if_pos hpre, view_empty_directory]
    obtain ⟨rest, rfl⟩ := hpre
    cases rest with
    | nil => simp
    | cons next more =>
      rw [if_neg (by simp), if_neg (by simp), Tree.view_eq_none_above hnone ⟨_, rfl⟩]
  · rw [if_neg hpre, if_neg]
    rintro rfl
    exact hpre (List.prefix_refl _)

theorem grows_putDirectory {disk : Disk} {trail : List Text} {piece : Text}
    (hdir : disk.root.view trail.reverse = some .directory)
    (hnone : disk.root.view (turn trail piece).reverse = none) :
    Grows disk { disk with root := disk.root.put (turn trail piece).reverse (.directory []) }
      fun _ => True := by
  refine ⟨rfl, fun there => ?_⟩
  simp only [view_putDirectory hdir hnone]
  split
  · rename_i hthere
    exact Or.inr ⟨trivial, hthere ▸ hnone, rfl⟩
  · exact Or.inl rfl

/-- Induction along the pieces that are carved: the place before them is a directory throughout. -/
theorem carve_induction
    {motive : List Text → (disk : Disk) → Bool → (trail : List Text) →
      disk.root.view trail.reverse = some .directory → Prop}
    (nil : ∀ disk grown trail hdir, motive [] disk grown trail hdir)
    (long : ∀ disk grown trail hdir piece rest, longestName < byteLength piece →
      motive (piece :: rest) disk grown trail hdir)
    (directory : ∀ disk grown trail hdir piece rest, byteLength piece ≤ longestName →
      ∀ hview, motive rest disk grown (turn trail piece) hview →
        motive (piece :: rest) disk grown trail hdir)
    (file : ∀ disk grown trail hdir piece rest content, byteLength piece ≤ longestName →
      disk.root.view (turn trail piece).reverse = some (.file content) →
        motive (piece :: rest) disk grown trail hdir)
    (none : ∀ disk grown trail hdir piece rest, byteLength piece ≤ longestName →
      disk.root.view (turn trail piece).reverse = none →
      ∀ hmade, motive rest
        { disk with root := disk.root.put (turn trail piece).reverse (.directory []) } true
        (turn trail piece) hmade → motive (piece :: rest) disk grown trail hdir)
    (pieces : List Text) (disk : Disk) (grown : Bool) (trail : List Text)
    (hdir : disk.root.view trail.reverse = some .directory) :
    motive pieces disk grown trail hdir := by
  induction pieces generalizing disk grown trail with
  | nil => exact nil disk grown trail hdir
  | cons piece rest ih =>
    by_cases hname : byteLength piece ≤ longestName
    · cases hview : disk.root.view (turn trail piece).reverse with
      | none =>
        refine none disk grown trail hdir piece rest hname hview ?_ (ih _ true _ _)
        simp only [view_putDirectory hdir hview, if_pos]
      | some node =>
        cases node with
        | file content => exact file disk grown trail hdir piece rest content hname hview
        | directory =>
          exact directory disk grown trail hdir piece rest hname hview (ih _ grown _ hview)
    · exact long disk grown trail hdir piece rest (Nat.lt_of_not_le hname)

/-- Dots and nothing are short. -/
theorem byteLength_of_not_isName {piece : Text} (h : ¬ IsName piece) : byteLength piece ≤ longestName := by
  by_cases hup : piece = ".."
  · subst hup
    decide
  · by_cases hidle : isIdle piece = true
    · rcases Bool.or_eq_true _ _ ▸ hidle with hempty | hdot
      · rw [List.isEmpty_iff.1 hempty]
        decide
      · rw [eq_of_beq hdot]
        decide
    · exact absurd ⟨by simpa using hidle, hup⟩ h

section Carved
variable {disk : Disk} {grown : Bool} {trail : List Text}
  (hdir : disk.root.view trail.reverse = some .directory)
include hdir

theorem carve_grows (pieces : List Text) :
    Grows disk (carve disk grown trail pieces).2 fun _ => True := by
  induction pieces, disk, grown, trail, hdir using carve_induction with
  | nil disk grown trail hdir => exact Grows.refl _ _
  | long disk grown trail hdir piece rest hlong =>
    rw [carve_long rest hlong]
    exact Grows.refl _ _
  | directory disk grown trail hdir piece rest hname hview ih => rwa [carve_directory rest hname hview]
  | file disk grown trail hdir piece rest content hname hview =>
    rw [carve_file rest hname hview]
    exact Grows.refl _ _
  | none disk grown trail hdir piece rest hname hview hmade ih =>
    rw [carve_none rest hname hview]
    exact (grows_putDirectory hdir hview).trans ih

/-- What was carved can be walked. -/
theorem arrive_of_carve {pieces : List Text} {made : Disk}
    (h : carve disk grown trail pieces = (.ok (), made)) : arrive made.root trail pieces = .ok () := by
  induction pieces, disk, grown, trail, hdir using carve_induction with
  | nil disk grown trail hdir =>
    obtain rfl := (Prod.mk.inj h).2
    exact arrive_nil hdir
  | long disk grown trail hdir piece rest hlong =>
    rw [carve_long rest hlong] at h
    cases (Prod.mk.inj h).1
  | directory disk grown trail hdir piece rest hname hview ih =>
    have hgrows : Grows disk (carve disk grown trail (piece :: rest)).2 fun _ => True :=
      carve_grows hdir _
    rw [h] at hgrows
    rw [carve_directory rest hname hview] at h
    rw [arrive_cons (hgrows.directory hdir), if_pos hname]
    exact ih h
  | file disk grown trail hdir piece rest content hname hview =>
    rw [carve_file rest hname hview] at h
    cases (Prod.mk.inj h).1
  | none disk grown trail hdir piece rest hname hview hmade ih =>
    have hgrows : Grows disk (carve disk grown trail (piece :: rest)).2 fun _ => True :=
      carve_grows hdir _
    rw [h] at hgrows
    rw [carve_none rest hname hview] at h
    rw [arrive_cons (hgrows.directory hdir), if_pos hname]
    exact ih h

/-- Pieces that change nothing can be left out at the end. -/
theorem carve_concat_idle {piece : Text} (hidle : isIdle piece = true) (pieces : List Text) :
    carve disk grown trail (pieces ++ [piece]) = carve disk grown trail pieces := by
  have hturn : ∀ trail, turn trail piece = trail := fun trail => if_pos hidle
  have hshort : byteLength piece ≤ longestName :=
    byteLength_of_not_isName fun hname => Bool.false_ne_true (hname.1.symm.trans hidle)
  induction pieces, disk, grown, trail, hdir using carve_induction with
  | nil disk grown trail hdir =>
    rw [List.nil_append, carve_directory [] hshort (by rwa [hturn]), hturn]
  | long disk grown trail hdir piece rest hlong =>
    rw [List.cons_append, carve_long _ hlong, carve_long _ hlong]
  | directory disk grown trail hdir piece rest hname hview ih =>
    rw [List.cons_append, carve_directory _ hname hview, carve_directory _ hname hview, ih]
  | file disk grown trail hdir piece rest content hname hview =>
    rw [List.cons_append, carve_file _ hname hview, carve_file _ hname hview, List.all_append]
    simp [hidle]
  | none disk grown trail hdir piece rest hname hview hmade ih =>
    rw [List.cons_append, carve_none _ hname hview, carve_none _ hname hview, ih]

theorem carve_append_idle {idles : List Text} (h : ∀ piece ∈ idles, isIdle piece = true)
    (pieces : List Text) :
    carve disk grown trail (pieces ++ idles) = carve disk grown trail pieces := by
  induction idles generalizing pieces with
  | nil => rw [List.append_nil]
  | cons piece idles ih =>
    rw [List.forall_mem_cons] at h
    rw [List.append_cons, ih h.2, carve_concat_idle hdir h.1]

end Carved

/-! ## Carving in two parts -/

/-- Carves on after other pieces were carved, unless that failed. -/
def carveOn (trail pieces : List Text) : Except FileError Unit × Disk → Except FileError Unit × Disk
  | (.ok _, made) => carve made true trail pieces
  | (.error e, made) => (.error e, made)

theorem carve_grown_append (disk : Disk) (trail front back : List Text) :
    carve disk true trail (front ++ back) =
      carveOn (front.foldl turn trail) back (carve disk true trail front) := by
  induction front generalizing disk trail with
  | nil => rfl
  | cons piece front ih =>
    rw [List.cons_append, List.foldl_cons]
    by_cases hname : byteLength piece ≤ longestName
    · cases hview : disk.root.view (turn trail piece).reverse with
      | none => rw [carve_none _ hname hview, carve_none _ hname hview, ih]
      | some node =>
        cases node with
        | file content =>
          rw [carve_file _ hname hview, carve_file _ hname hview]
          rfl
        | directory => rw [carve_directory _ hname hview, carve_directory _ hname hview, ih]
    · rw [carve_long _ (Nat.lt_of_not_le hname), carve_long _ (Nat.lt_of_not_le hname)]
      rfl

section Parts
variable {disk : Disk} {trail : List Text} (hdir : disk.root.view trail.reverse = some .directory)
  {front : List Text}
include hdir

theorem carve_arrived (grown : Bool) (h : arrive disk.root trail front = .ok ()) (back : List Text) :
    carve disk grown trail (front ++ back) = carve disk grown (front.foldl turn trail) back := by
  induction front generalizing trail with
  | nil => rfl
  | cons piece front ih =>
    rw [arrive_cons hdir] at h
    split at h
    · rename_i hname
      have hview : disk.root.view (turn trail piece).reverse = some .directory := by
        cases front with
        | nil => exact (arrive_eq_ok_iff.1 h).2
        | cons next rest => exact (arrive_eq_ok_iff.1 h).1.1
      rw [List.cons_append, carve_directory _ hname hview, ih hview h, List.foldl_cons]
    · cases h

/-- Where a directory is missing on the way to the last piece, all that comes before that piece is
carved first. -/
theorem carve_missing (h : arrive disk.root trail front = .error .notFound) (back : List Text) :
    carve disk false trail (front ++ back) =
      carveOn (front.foldl turn trail) back (carve disk false trail front) := by
  induction front generalizing trail with
  | nil =>
    rw [arrive_nil hdir] at h
    cases h
  | cons piece front ih =>
    rw [arrive_cons hdir] at h
    split at h
    · rename_i hname
      rw [List.cons_append, List.foldl_cons]
      cases hview : disk.root.view (turn trail piece).reverse with
      | none => rw [carve_none _ hname hview, carve_none _ hname hview, carve_grown_append]
      | some node =>
        cases node with
        | file content =>
          rw [arrive_of_file hview] at h
          cases h
        | directory => rw [carve_directory _ hname hview, carve_directory _ hname hview, ih hview h]
    · cases h

/-- What stops the walk to the last piece in any other way also stops the carving, before anything was
created. -/
theorem carve_blocked {e : FileError} (h : arrive disk.root trail front = .error e) (he : e ≠ .notFound)
    {piece : Text} (hpiece : isIdle piece = false) :
    carve disk false trail (front ++ [piece]) = (.error e, disk) := by
  induction front generalizing trail with
  | nil =>
    rw [arrive_nil hdir] at h
    cases h
  | cons other front ih =>
    rw [arrive_cons hdir] at h
    rw [List.cons_append]
    split at h
    · rename_i hname
      cases hview : disk.root.view (turn trail other).reverse with
      | none =>
        rw [arrive_of_none hview] at h
        exact absurd (Except.error.inj h).symm he
      | some node =>
        cases node with
        | file content =>
          rw [arrive_of_file hview] at h
          obtain rfl := Except.error.inj h
          rw [carve_file _ hname hview]
          simp [hpiece]
        | directory => rw [carve_directory _ hname hview, ih hview h]
    · rename_i hname
      obtain rfl := Except.error.inj h
      rw [carve_long _ (Nat.lt_of_not_le hname)]

end Parts

/-! ## Ways without files -/

/-- No file stands at the end of a trail, nor where the pieces after it lead. -/
def Unblocked (root : Tree) (trail pieces : List Text) : Prop :=
  ∀ front, front <+: pieces → ∀ content, root.view (front.foldl turn trail).reverse ≠ some (.file content)

theorem Unblocked.tail {root : Tree} {trail : List Text} {piece : Text} {rest : List Text}
    (h : Unblocked root trail (piece :: rest)) : Unblocked root (turn trail piece) rest :=
  fun front hfront => h (piece :: front) (List.cons_prefix_cons.2 ⟨rfl, hfront⟩)

theorem Grows.unblocked {a b : Disk} {W : Location → Prop} (h : Grows a b W) {trail pieces : List Text}
    (hclear : Unblocked a.root trail pieces) : Unblocked b.root trail pieces :=
  fun front hfront content hfile => hclear front hfront content (h.file_iff.1 hfile)

/-- The places that pieces lead to, up to a name that is too long. -/
def stops : List Text → List Text → List Location
  | _, [] => []
  | trail, piece :: rest =>
    if longestName < byteLength piece then []
    else (turn trail piece).reverse :: stops (turn trail piece) rest

theorem mem_stops {trail pieces : List Text} {there : Location} (h : there ∈ stops trail pieces) :
    ∃ front, front <+: pieces ∧ there = (front.foldl turn trail).reverse := by
  induction pieces generalizing trail with
  | nil => cases h
  | cons piece rest ih =>
    unfold stops at h
    split at h
    · cases h
    · rcases List.mem_cons.1 h with rfl | hrest
      · exact ⟨[piece], by simp, rfl⟩
      · obtain ⟨front, hfront, rfl⟩ := ih hrest
        exact ⟨piece :: front, List.cons_prefix_cons.2 ⟨rfl, hfront⟩, rfl⟩

/-- Where no file stands in the way, only a name can stop the carving, and until then there is a
directory at every place. -/
theorem carve_unblocked {disk : Disk} (grown : Bool) {trail pieces : List Text}
    (hdir : disk.root.view trail.reverse = some .directory)
    (hclear : Unblocked disk.root trail pieces) :
    (carve disk grown trail pieces).1 =
        (if ∀ piece ∈ pieces, byteLength piece ≤ longestName then .ok () else .error .nameTooLong) ∧
      ∀ there, (carve disk grown trail pieces).2.root.view there =
        if there ∈ stops trail pieces then some .directory else disk.root.view there := by
  induction pieces, disk, grown, trail, hdir using carve_induction with
  | nil disk grown trail hdir => simp [carve, stops]
  | long disk grown trail hdir piece rest hlong =>
    rw [carve_long rest hlong, stops, if_pos hlong]
    simp [Nat.not_le_of_lt hlong]
  | directory disk grown trail hdir piece rest hname hview ih =>
    obtain ⟨hresult, hmade⟩ := ih hclear.tail
    rw [carve_directory rest hname hview, stops, if_neg (Nat.not_lt_of_le hname)]
    refine ⟨by simp [hresult, hname], fun there => ?_⟩
    rw [hmade]
    by_cases hthere : there = (turn trail piece).reverse
    · simp [hthere, hview]
    · simp [hthere]
  | file disk grown trail hdir piece rest content hname hview =>
    exact absurd hview (hclear [piece] (by simp) content)
  | none disk grown trail hdir piece rest hname hview hmade ih =>
    obtain ⟨hresult, hafter⟩ := ih ((grows_putDirectory hdir hview).unblocked hclear.tail)
    rw [carve_none rest hname hview, stops, if_neg (Nat.not_lt_of_le hname)]
    refine ⟨by simp [hresult, hname], fun there => ?_⟩
    rw [hafter, view_putDirectory hdir hview]
    by_cases hthere : there = (turn trail piece).reverse
    · simp [hthere]
    · simp [hthere]

end LuaReference.Disk
