import LuaReference.Files.Disk
import LuaReference.Proofs.Files.View
import LuaReference.Proofs.Text.Pieces

/-!
# Where a path leads

There are no links on a disk, so the location that a path denotes can be read off its text; the disk
decides only whether the way there can be walked.

* `turn`, `Disk.trailOf`, `Disk.destination` : the trail after one piece and after all of them, and
  the location that a path denotes;
* `Passable root trail pieces` : every piece is looked up in a directory, under a name that fits;
* `walk_cases`, `walk_eq_ok_iff` : a walk arrives when the way is passable, and stops at the first
  place where it is not;
* `Disk.Reaches`, `find_eq_ok_iff`, `find_eq_error` : what a path leads to;
* `target_eq_ok_iff` : the file that a path opens for writing is the one at its destination.
-/

namespace LuaReference.Disk

open Text

/-! ## Trails -/

/-- The trail after one more piece. -/
def turn (trail : List Text) (piece : Text) : List Text :=
  if Path.isIdle piece then trail else if piece = ".." then trail.tail else piece :: trail

/-- Where a path starts, from the last name back. -/
def startTrail (disk : Disk) (p : Path) : List Text :=
  if p.isAbsolute then [] else disk.cwd.reverse

/-- The trail of a path. -/
def trailOf (disk : Disk) (p : Path) : List Text := p.pieces.foldl turn (disk.startTrail p)

/-- The location that a path denotes. -/
def destination (disk : Disk) (p : Path) : Location := (disk.trailOf p).reverse

/-- Whether every piece is looked up in a directory and fits in it. -/
def Passable (root : Tree) : List Text → List Text → Prop
  | _, [] => True
  | trail, piece :: rest =>
    root.view trail.reverse = some .directory ∧ byteLength piece ≤ longestName ∧
      Passable root (turn trail piece) rest

theorem passable_append {root : Tree} {trail front back : List Text} :
    Passable root trail (front ++ back) ↔
      Passable root trail front ∧ Passable root (front.foldl turn trail) back := by
  induction front generalizing trail with
  | nil => simp [Passable]
  | cons piece front ih =>
    simp only [List.cons_append, Passable, List.foldl_cons, ih, and_assoc]

theorem startTrail_congr {a b : Disk} (hcwd : b.cwd = a.cwd) (p : Path) :
    b.startTrail p = a.startTrail p := by
  unfold startTrail
  rw [hcwd]

theorem destination_congr {a b : Disk} (hcwd : b.cwd = a.cwd) (p : Path) :
    b.destination p = a.destination p := by
  unfold destination trailOf
  rw [startTrail_congr hcwd]

theorem view_startTrail {disk : Disk} (hstart : disk.root.view disk.cwd = some .directory) (p : Path) :
    disk.root.view (disk.startTrail p).reverse = some .directory := by
  unfold startTrail
  split
  · exact Tree.view_above_directory hstart List.nil_prefix
  · rwa [List.reverse_reverse]

/-- Pieces without two dots only lead down. -/
theorem foldl_turn_down {pieces : List Text} (h : (".." : Text) ∉ pieces) (trail : List Text) :
    trail.reverse <+: (pieces.foldl turn trail).reverse := by
  induction pieces generalizing trail with
  | nil => exact List.prefix_refl _
  | cons piece pieces ih =>
    rw [List.mem_cons, not_or] at h
    refine List.IsPrefix.trans ?_ (ih h.2 (turn trail piece))
    unfold turn
    split
    · exact List.prefix_refl _
    · rw [if_neg (Ne.symm h.1), List.reverse_cons]
      exact List.prefix_append _ _

/-! ## Walks -/

theorem checkDirectory_at (root : Tree) (trail : List Text) :
    (Stop.at root trail).checkDirectory =
      match root.view trail.reverse with
      | none => .error .notFound
      | some (.file _) => .error .notDirectory
      | some .directory => .ok () := by
  unfold Stop.checkDirectory Stop.at Tree.view
  cases root.get? trail.reverse with
  | none => rfl
  | some t => cases t <;> rfl

theorem checkName_eq (name : Text) :
    checkName name = if byteLength name ≤ longestName then .ok () else .error .nameTooLong := by
  unfold checkName
  by_cases h : longestName < byteLength name
  · rw [if_pos h, if_neg (by omega)]
  · rw [if_neg h, if_pos (by omega)]

theorem enter_at (root : Tree) (trail : List Text) (piece : Text) :
    (Stop.at root trail).enter root piece = .at root (turn trail piece) := by
  unfold Stop.enter turn
  split
  · rfl
  · split
    · rfl
    · simp only [Stop.at, List.reverse_cons, Tree.get?_concat]

theorem walk_cons_of_directory {root : Tree} {trail : List Text} {piece : Text} (rest : List Text)
    (hdir : root.view trail.reverse = some .directory) (hname : byteLength piece ≤ longestName) :
    walk root (.at root trail) (piece :: rest) = walk root (.at root (turn trail piece)) rest := by
  rw [walk, checkDirectory_at, hdir, checkName_eq, if_pos hname, enter_at]
  rfl

/-- Why a piece cannot be looked up at the end of a trail. -/
def Blocked (root : Tree) (trail : List Text) (piece : Text) : FileError → Prop
  | .notFound => root.view trail.reverse = none
  | .notDirectory => ∃ content, root.view trail.reverse = some (.file content)
  | .nameTooLong => longestName < byteLength piece
  | _ => False

theorem Blocked.not_passable {root : Tree} {trail : List Text} {piece : Text} {e : FileError}
    (h : Blocked root trail piece e) (rest : List Text) : ¬ Passable root trail (piece :: rest) := by
  rintro ⟨hdir, hname, -⟩
  cases e with
  | notFound => rw [Blocked, hdir] at h; cases h
  | notDirectory =>
    obtain ⟨content, hc⟩ := h
    rw [hdir] at hc
    cases hc
  | nameTooLong => exact absurd hname (Nat.not_le_of_lt h)
  | isDirectory => exact h
  | alreadyExists => exact h
  | nulInName => exact h

/-- A walk arrives over a passable way, or stops at a piece that cannot be looked up. -/
theorem walk_cases (root : Tree) (trail pieces : List Text) :
    (Passable root trail pieces ∧
      walk root (.at root trail) pieces = .ok (.at root (pieces.foldl turn trail))) ∨
    ∃ e front piece back, walk root (.at root trail) pieces = .error e ∧
      pieces = front ++ piece :: back ∧ Passable root trail front ∧
      Blocked root (front.foldl turn trail) piece e := by
  induction pieces generalizing trail with
  | nil => exact Or.inl ⟨trivial, rfl⟩
  | cons piece pieces ih =>
    cases hview : root.view trail.reverse with
    | none =>
      refine Or.inr ⟨.notFound, [], piece, pieces, ?_, rfl, trivial, hview⟩
      rw [walk, checkDirectory_at, hview]
      rfl
    | some node =>
      cases node with
      | file content =>
        refine Or.inr ⟨.notDirectory, [], piece, pieces, ?_, rfl, trivial, content, hview⟩
        rw [walk, checkDirectory_at, hview]
        rfl
      | directory =>
        by_cases hname : byteLength piece ≤ longestName
        · rw [walk_cons_of_directory _ hview hname]
          rcases ih (turn trail piece) with ⟨hpass, hwalk⟩ | ⟨e, front, last, back, hwalk, rfl, hpass, hb⟩
          · exact Or.inl ⟨⟨hview, hname, hpass⟩, hwalk⟩
          · exact Or.inr ⟨e, piece :: front, last, back, hwalk, rfl, ⟨hview, hname, hpass⟩, hb⟩
        · refine Or.inr ⟨.nameTooLong, [], piece, pieces, ?_, rfl, trivial, Nat.lt_of_not_le hname⟩
          rw [walk, checkDirectory_at, hview, checkName_eq, if_neg hname]
          rfl

theorem walk_of_passable {root : Tree} {trail pieces : List Text} (h : Passable root trail pieces) :
    walk root (.at root trail) pieces = .ok (.at root (pieces.foldl turn trail)) := by
  rcases walk_cases root trail pieces with ⟨-, hwalk⟩ | ⟨e, front, piece, back, -, rfl, -, hb⟩
  · exact hwalk
  · exact absurd (passable_append.1 h).2 (hb.not_passable back)

theorem walk_eq_ok_iff {root : Tree} {trail pieces : List Text} {s : Stop} :
    walk root (.at root trail) pieces = .ok s ↔
      Passable root trail pieces ∧ s = .at root (pieces.foldl turn trail) := by
  constructor
  · intro h
    rcases walk_cases root trail pieces with ⟨hpass, hwalk⟩ | ⟨e, _, _, _, hwalk, _⟩
    · rw [hwalk] at h
      exact ⟨hpass, (Except.ok.inj h).symm⟩
    · rw [hwalk] at h
      cases h
  · rintro ⟨hpass, rfl⟩
    exact walk_of_passable hpass

/-! ## Lookups -/

/-- Whether the way along a path can be walked up to its last piece. -/
def Reaches (disk : Disk) (p : Path) : Prop :=
  checkPath p = .ok () ∧ Passable disk.root (disk.startTrail p) p.pieces

theorem start_eq (disk : Disk) (p : Path) : disk.start p = .at disk.root (disk.startTrail p) := rfl

theorem locate_eq_ok_iff {disk : Disk} {p : Path} {s : Stop} :
    disk.locate p = .ok s ↔ disk.Reaches p ∧ s = .at disk.root (disk.trailOf p) := by
  unfold locate Reaches
  cases checkPath p with
  | error e => simp [bind, Except.bind]
  | ok _ => simp only [bind, Except.bind, start_eq, walk_eq_ok_iff, true_and]; rfl

theorem find_of_reaches {disk : Disk} {p : Path} (h : disk.Reaches p) :
    disk.find p =
      match disk.root.get? (disk.destination p) with
      | some t => .ok t
      | none => .error .notFound := by
  unfold find
  rw [locate_eq_ok_iff.2 ⟨h, rfl⟩]
  rfl

theorem find_eq_ok_iff {disk : Disk} {p : Path} {t : Tree} :
    disk.find p = .ok t ↔ disk.Reaches p ∧ disk.root.get? (disk.destination p) = some t := by
  constructor
  · intro h
    have hr : disk.Reaches p := by
      unfold find at h
      cases hloc : disk.locate p with
      | error e => rw [hloc] at h; cases h
      | ok s => exact (locate_eq_ok_iff.1 hloc).1
    rw [find_of_reaches hr] at h
    refine ⟨hr, ?_⟩
    split at h
    · rename_i u hu
      rw [hu, Except.ok.inj h]
    · cases h
  · rintro ⟨hr, ht⟩
    rw [find_of_reaches hr, ht]

/-- Why a lookup fails: the path is refused, the way is blocked, or nothing stands at its end. -/
theorem find_eq_error {disk : Disk} {p : Path} {e : FileError} (h : disk.find p = .error e) :
    checkPath p = .error e ∨
    (∃ front piece back, p.pieces = front ++ piece :: back ∧
      Passable disk.root (disk.startTrail p) front ∧
      Blocked disk.root (front.foldl turn (disk.startTrail p)) piece e) ∨
    (disk.Reaches p ∧ disk.root.view (disk.destination p) = none ∧ e = .notFound) := by
  cases hcheck : checkPath p with
  | error e' =>
    unfold find locate at h
    rw [hcheck] at h
    exact Or.inl (congrArg Except.error (Except.error.inj h))
  | ok _ =>
    rcases walk_cases disk.root (disk.startTrail p) p.pieces with
      ⟨hpass, -⟩ | ⟨e', front, piece, back, hwalk, hfail⟩
    · have hr : disk.Reaches p := ⟨hcheck, hpass⟩
      rw [find_of_reaches hr] at h
      split at h
      · cases h
      · rename_i hnone
        exact Or.inr (Or.inr ⟨hr, Tree.view_eq_none_iff.2 hnone, (Except.error.inj h).symm⟩)
    · unfold find locate at h
      rw [hcheck, start_eq, hwalk] at h
      obtain rfl : e' = e := Except.error.inj h
      exact Or.inr (Or.inl ⟨front, piece, back, hfail⟩)

theorem isOccupied_iff {disk : Disk} {p : Path} :
    disk.isOccupied p = true ↔ disk.Reaches p ∧
      (disk.root.view (disk.destination p) = some .directory ∨
        ∃ content, disk.root.view (disk.destination p) = some (.file content) ∧ content ≠ []) := by
  unfold isOccupied
  constructor
  · intro h
    split at h
    · rename_i content hfind
      obtain ⟨hreaches, hget⟩ := find_eq_ok_iff.1 hfind
      exact ⟨hreaches, Or.inr ⟨content, Tree.view_eq_file.2 hget, by simpa using h⟩⟩
    · rename_i entries hfind
      obtain ⟨hreaches, hget⟩ := find_eq_ok_iff.1 hfind
      refine ⟨hreaches, Or.inl ?_⟩
      rw [Tree.view, hget]
      rfl
    · cases h
  · rintro ⟨hreaches, hdir | ⟨content, hfile, hne⟩⟩
    · obtain ⟨entries, hget⟩ := Tree.view_eq_directory hdir
      rw [find_eq_ok_iff.2 ⟨hreaches, hget⟩]
    · rw [find_eq_ok_iff.2 ⟨hreaches, Tree.view_eq_file.1 hfile⟩]
      simpa using hne

/-! ## Places to create something -/

/-- A piece that leads down to the entry with its name. -/
def IsName (piece : Text) : Prop := Path.isIdle piece = false ∧ piece ≠ ".."

theorem IsName.turn {piece : Text} (h : IsName piece) (trail : List Text) :
    turn trail piece = piece :: trail := by
  unfold Disk.turn
  rw [if_neg (by simp [h.1]), if_neg h.2]

theorem IsName.ne_nil {piece : Text} (h : IsName piece) : piece ≠ [] := by
  rintro rfl
  exact absurd h.1 (by decide)

/-- Above an existing directory, and at it, there is a directory. -/
theorem turn_directory {root : Tree} {trail : List Text} {piece : Text}
    (h : root.view trail.reverse = some .directory) (hname : ¬ IsName piece) :
    root.view (turn trail piece).reverse = some .directory := by
  unfold turn
  split
  · exact h
  · rename_i hidle
    split
    · cases trail with
      | nil => exact h
      | cons last trail =>
        rw [List.reverse_cons] at h
        exact Tree.view_of_append h (by simp)
    · rename_i hup
      exact absurd ⟨by simpa using hidle, hup⟩ hname

theorem solidPieces_of_getLast {p : Path} {front : List Text} {last : Text}
    (h : p.pieces = front ++ [last]) (hne : last ≠ []) : solidPieces p = p.pieces := by
  have hlast : List.isEmpty last = false := by simpa using hne
  simp [solidPieces, h, hlast]

/-- The directory that the last solid piece of a path is looked up in. -/
def innerTrail (disk : Disk) (p : Path) : List Text :=
  (solidPieces p).dropLast.foldl turn (disk.startTrail p)

/-- The way to the directory of a path can be walked, and it is there. -/
def Settles (disk : Disk) (p : Path) : Prop :=
  checkPath p = .ok () ∧ Passable disk.root (disk.startTrail p) (solidPieces p).dropLast ∧
    disk.root.view (disk.innerTrail p).reverse = some .directory

/-- The name under which a path would create something. -/
def newName? (p : Path) : Option Text :=
  (solidPieces p).getLast?.bind fun last =>
    if Path.isIdle last || last == ".." then none else some last

theorem place_eq (disk : Disk) (p : Path) :
    disk.place p =
      (checkPath p).bind fun _ =>
        (walk disk.root (.at disk.root (disk.startTrail p)) (solidPieces p).dropLast).bind fun dir =>
          dir.checkDirectory.bind fun _ => .ok (dir, newName? p) := by
  unfold place newName?
  simp only [bind, start_eq]
  cases (solidPieces p).getLast? <;> rfl

theorem place_of_settles {disk : Disk} {p : Path} (h : disk.Settles p) :
    disk.place p = .ok (.at disk.root (disk.innerTrail p), newName? p) := by
  obtain ⟨hcheck, hpass, hdir⟩ := h
  rw [place_eq, hcheck, walk_of_passable hpass, ← innerTrail]
  simp only [Except.bind, checkDirectory_at, hdir]

theorem settles_or_error (disk : Disk) (p : Path) : disk.Settles p ∨ ∃ e, disk.place p = .error e := by
  rw [place_eq]
  unfold Settles
  cases checkPath p with
  | error e => exact Or.inr ⟨e, rfl⟩
  | ok _ =>
    rcases walk_cases disk.root (disk.startTrail p) (solidPieces p).dropLast with
      ⟨hpass, hwalk⟩ | ⟨e, -, -, -, hwalk, -⟩
    · rw [hwalk, ← innerTrail]
      simp only [Except.bind, checkDirectory_at]
      cases hview : disk.root.view (disk.innerTrail p).reverse with
      | none => exact Or.inr ⟨.notFound, rfl⟩
      | some node =>
        cases node with
        | file content => exact Or.inr ⟨.notDirectory, rfl⟩
        | directory => exact Or.inl ⟨trivial, hpass, rfl⟩
    · rw [hwalk]
      exact Or.inr ⟨e, rfl⟩

theorem place_eq_ok {disk : Disk} {p : Path} {dir : Stop} {name? : Option Text}
    (h : disk.place p = .ok (dir, name?)) :
    disk.Settles p ∧ dir = .at disk.root (disk.innerTrail p) ∧ name? = newName? p := by
  rcases settles_or_error disk p with hs | ⟨e, hplace⟩
  · rw [place_of_settles hs] at h
    simp only [Except.ok.injEq, Prod.mk.injEq] at h
    exact ⟨hs, h.1.symm, h.2.symm⟩
  · rw [hplace] at h
    cases h

theorem newName?_eq_some_iff {p : Path} {name : Text} :
    newName? p = some name ↔ IsName name ∧ ∃ front, solidPieces p = front ++ [name] := by
  unfold newName? IsName
  constructor
  · intro h
    obtain ⟨last, hlast, hname⟩ := Option.bind_eq_some_iff.1 h
    split at hname
    · cases hname
    · rename_i hproper
      obtain rfl := Option.some.inj hname
      rw [Bool.or_eq_true, not_or] at hproper
      exact ⟨⟨by simpa using hproper.1, by simpa using hproper.2⟩, List.getLast?_eq_some_iff.1 hlast⟩
  · rintro ⟨⟨hidle, hup⟩, front, hsolid⟩
    rw [hsolid, List.getLast?_concat, Option.bind_some, if_neg]
    rw [Bool.or_eq_true, not_or, beq_iff_eq]
    exact ⟨by simp [hidle], hup⟩

/-! ## Files to write -/

/-- Whether a path ends in the name of something. -/
def EndsInName (p : Path) : Prop := ∃ front name, p.pieces = front ++ [name] ∧ IsName name

theorem text_ne_nil_of_checkPath {p : Path} (h : checkPath p = .ok ()) : p.text ≠ [] := by
  intro hnil
  simp [checkPath, hnil] at h

/-- A path without a slash at its end has no empty pieces there. -/
theorem solidPieces_of_text {p : Path} (hne : p.text ≠ []) (hslash : p.text.getLast? ≠ some '/') :
    solidPieces p = p.pieces := by
  obtain ⟨front, last, hp⟩ := List.eq_nil_or_concat p.pieces |>.resolve_left (splitOn_ne_nil _ _)
  rw [List.concat_eq_append] at hp
  refine solidPieces_of_getLast hp ?_
  rintro rfl
  have hlast : p.pieces.getLast? = some [] := by rw [hp, List.getLast?_concat]
  exact (getLast?_splitOn.1 hlast).elim hne hslash

/-- A path that ends in a name has no slash at its end. -/
theorem EndsInName.no_slash {p : Path} (h : EndsInName p) :
    p.text.getLast? ≠ some '/' ∧ solidPieces p = p.pieces := by
  obtain ⟨front, name, hp, hname⟩ := h
  refine ⟨fun hslash => ?_, solidPieces_of_getLast hp hname.ne_nil⟩
  have hlast : p.pieces.getLast? = some [] := getLast?_splitOn.2 (Or.inr hslash)
  rw [hp, List.getLast?_concat] at hlast
  exact hname.ne_nil (Option.some.inj hlast)

/-- The destination of a path that ends in a name is below its directory. -/
theorem destination_of_name (disk : Disk) {p : Path} {front : List Text} {name : Text}
    (hp : p.pieces = front ++ [name]) (hname : IsName name) :
    disk.innerTrail p = front.foldl turn (disk.startTrail p) ∧
      disk.destination p = (disk.innerTrail p).reverse ++ [name] := by
  have hinner : disk.innerTrail p = front.foldl turn (disk.startTrail p) := by
    rw [innerTrail, solidPieces_of_getLast hp hname.ne_nil, hp, List.dropLast_concat]
  refine ⟨hinner, ?_⟩
  rw [hinner, destination, trailOf, hp, List.foldl_append, List.foldl_cons, List.foldl_nil,
    hname.turn, List.reverse_cons]

theorem reaches_iff_settles {disk : Disk} {p : Path} {front : List Text} {name : Text}
    (hp : p.pieces = front ++ [name]) (hname : IsName name) :
    disk.Reaches p ↔ disk.Settles p ∧ byteLength name ≤ longestName := by
  obtain ⟨hinner, -⟩ := destination_of_name disk hp hname
  unfold Reaches Settles
  rw [hinner, solidPieces_of_getLast hp hname.ne_nil, hp, List.dropLast_concat, passable_append]
  simp only [Passable, and_true, and_assoc]

theorem target_of_settles {disk : Disk} {p : Path} {front : List Text} {name : Text}
    (hp : p.pieces = front ++ [name]) (hname : IsName name) (hs : disk.Settles p) :
    disk.target p =
      if byteLength name ≤ longestName then
        if disk.root.view (disk.destination p) = some .directory then .error .isDirectory
        else .ok (disk.destination p)
      else .error .nameTooLong := by
  have hends : EndsInName p := ⟨front, name, hp, hname⟩
  have hnew : newName? p = some name := newName?_eq_some_iff.2 ⟨hname, front, hends.no_slash.2 ▸ hp⟩
  obtain ⟨-, hdest⟩ := destination_of_name disk hp hname
  have hchild : (Stop.at disk.root (disk.innerTrail p)).node.bind (·.child? name) =
      disk.root.get? (disk.destination p) := by
    rw [hdest, Tree.get?_concat]
    rfl
  unfold target
  rw [place_of_settles hs, hnew]
  simp only [bind, Except.bind, if_neg hends.no_slash.1, checkName_eq, hchild]
  by_cases hlen : byteLength name ≤ longestName
  · rw [if_pos hlen, if_pos hlen]
    unfold Tree.view
    cases disk.root.get? (disk.destination p) with
    | none => simp only [hdest, Stop.at, Stop.location]; rfl
    | some t =>
      cases t with
      | file content => simp only [hdest, Stop.at, Stop.location]; rfl
      | directory entries => rfl
  · rw [if_neg hlen, if_neg hlen]

theorem target_eq_ok_iff {disk : Disk} {p : Path} {here : Location} :
    disk.target p = .ok here ↔
      disk.Reaches p ∧ EndsInName p ∧ disk.root.view (disk.destination p) ≠ some .directory ∧
        here = disk.destination p := by
  constructor
  · intro h
    unfold target at h
    cases hplace : disk.place p with
    | error e => rw [hplace] at h; cases h
    | ok found =>
      obtain ⟨dir, name?⟩ := found
      obtain ⟨hs, rfl, rfl⟩ := place_eq_ok hplace
      cases hnew : newName? p with
      | none => rw [hplace, hnew] at h; cases h
      | some name =>
        obtain ⟨hname, front, hsolid⟩ := newName?_eq_some_iff.1 hnew
        by_cases hslash : p.text.getLast? = some '/'
        · rw [hplace, hnew] at h
          simp only [bind, Except.bind, if_pos hslash] at h
          cases h
        · have hp : p.pieces = front ++ [name] :=
            (solidPieces_of_text (text_ne_nil_of_checkPath hs.1) hslash) ▸ hsolid
          have ht := target_of_settles hp hname hs
          unfold target at ht
          rw [ht] at h
          split at h
          · rename_i hlen
            split at h
            · cases h
            · rename_i hdir
              exact ⟨(reaches_iff_settles hp hname).2 ⟨hs, hlen⟩, ⟨front, name, hp, hname⟩, hdir,
                (Except.ok.inj h).symm⟩
          · cases h
  · rintro ⟨hr, ⟨front, name, hp, hname⟩, hdir, rfl⟩
    obtain ⟨hs, hlen⟩ := (reaches_iff_settles hp hname).1 hr
    rw [target_of_settles hp hname hs, if_pos hlen, if_neg hdir]

end LuaReference.Disk
