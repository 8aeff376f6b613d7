import LuaReference.Proofs.Files.Carving
import LuaReference.Proofs.Files.Lineage
import LuaReference.Proofs.Text.Position

/-!
# The directories that a path needs

They are tried from the inside out: the innermost first, and outer ones only where it lacks them. What
comes of it is the same as carving them along the pieces of the path.

* `makeDirectory_arrived`, `makeLineage_first` : one directory of a lineage;
* `makeLineage_eq_carve`, `makeParents_eq_carve` : creating the directories of a path is carving;
* `makeParents_of_clear` : where no file stands on the way they can all be made.
-/

namespace LuaReference.Disk

open Text LuaReference.Path

/-! ## Lineages -/

theorem checkPath_eq_ok_iff {p : Path} :
    checkPath p = .ok () ↔ '\x00' ∉ p.text ∧ p.text ≠ [] ∧ byteLength p.text ≤ longestPath := by
  unfold checkPath
  by_cases hnul : '\x00' ∈ p.text
  · simp [hnul]
  · by_cases hempty : p.text = []
    · simp [hempty]
    · by_cases hlong : longestPath < byteLength p.text
      · simp [hnul, hempty, hlong]
      · simp [hnul, hempty, Nat.le_of_not_lt hlong, hlong]

theorem checkPath_outer {p q : Path} (h : Outer q p) (hcheck : checkPath p = .ok ()) :
    checkPath q = .ok () := by
  obtain ⟨hnul, -, hshort⟩ := checkPath_eq_ok_iff.1 hcheck
  obtain ⟨rest, hrest⟩ := h.text_start
  rw [← hrest, byteLength_append] at hshort
  refine checkPath_eq_ok_iff.2 ⟨fun hmem => hnul (h.text_start.subset hmem), h.text_ne, ?_⟩
  omega

/-- A directory whose outer directories are there is created, is there, or is refused, as in carving
its last piece. -/
theorem makeDirectory_arrived {disk : Disk} {q : Path} {front : List Text} {piece : Text}
    (hcheck : checkPath q = .ok ()) (hq : q.pieces = front ++ [piece]) (hne : piece ≠ [])
    (harrive : arrive disk.root (disk.startTrail q) front = .ok ()) (grown : Bool) :
    (∃ made, disk.makeDirectory q = .ok made ∧
      carve disk grown (front.foldl turn (disk.startTrail q)) [piece] = (.ok (), made)) ∨
    ∃ e, e ≠ .notFound ∧ disk.makeDirectory q = .error e ∧
      carve disk grown (front.foldl turn (disk.startTrail q)) [piece] =
        if disk.isDirectory q then (.ok (), disk) else (.error e, disk) := by
  have hsolid : solidPieces q = front ++ [piece] := by rw [solidPieces_of_getLast hq hne, hq]
  have hinner : disk.innerTrail q = front.foldl turn (disk.startTrail q) := by
    rw [innerTrail, hsolid, List.dropLast_concat]
  have hsettles : disk.Settles q := by
    rw [settles_iff_arrive hcheck, hsolid, List.dropLast_concat]
    exact harrive
  have hdir := (arrive_eq_ok_iff.1 harrive).2
  have hthere : disk.isDirectory q = true ↔
      byteLength piece ≤ longestName ∧
        disk.root.view (turn (front.foldl turn (disk.startTrail q)) piece).reverse =
          some .directory := by
    rw [isDirectory_iff_arrive hcheck, hq, arrive_append_ok, arrive_cons hdir]
    split
    · rename_i hname
      simp [harrive, hname, arrive_eq_ok_iff, Passable]
    · rename_i hname
      simp [hname]
  rw [makeDirectory_of_settles hsettles, hinner]
  generalize front.foldl turn (disk.startTrail q) = trail at hdir hthere ⊢
  by_cases hname : IsName piece
  · have hnew : newName? q = some piece := newName?_eq_some_iff.2 ⟨hname, front, hsolid⟩
    have hturn : (turn trail piece).reverse = trail.reverse ++ [piece] := by
      rw [hname.turn, List.reverse_cons]
    simp only [hnew]
    by_cases hshort : byteLength piece ≤ longestName
    · rw [← hturn, if_pos hshort]
      cases hview : disk.root.view (turn trail piece).reverse with
      | none => exact Or.inl ⟨_, rfl, carve_none [] hshort hview⟩
      | some node =>
        refine Or.inr ⟨.alreadyExists, by simp, rfl, ?_⟩
        cases node with
        | file content =>
          have hnot : ¬ disk.isDirectory q = true := fun h => by
            rw [(hthere.1 h).2] at hview
            cases hview
          rw [carve_file [] hshort hview, if_neg hnot]
          simp
        | directory => rw [carve_directory [] hshort hview, if_pos (hthere.2 ⟨hshort, hview⟩), carve]
    · have hnot : ¬ disk.isDirectory q = true := fun h => hshort (hthere.1 h).1
      refine Or.inr ⟨.nameTooLong, by simp, if_neg hshort, ?_⟩
      rw [carve_long [] (Nat.lt_of_not_le hshort), if_neg hnot]
  · have hnew : newName? q = none := by
      rw [Option.eq_none_iff_forall_ne_some]
      intro name hsome
      obtain ⟨hother, front', hsolid'⟩ := newName?_eq_some_iff.1 hsome
      obtain ⟨-, hlast⟩ := List.append_inj' (hsolid.symm.trans hsolid') rfl
      obtain rfl := List.singleton_inj.1 hlast
      exact hname hother
    have hview := turn_directory hdir hname
    have hshort := byteLength_of_not_isName hname
    simp only [hnew]
    refine Or.inr ⟨.alreadyExists, by simp, rfl, ?_⟩
    rw [carve_directory [] hshort hview, if_pos (hthere.2 ⟨hshort, hview⟩), carve]

section Lineage
variable {disk : Disk} {p : Path}

theorem pieces_spelling {first piece : Text} {inner : List Text} (hidle : isIdle piece = false)
    (hslash : ∀ other ∈ first :: (piece :: inner).reverse, '/' ∉ other) (absolute : Bool) :
    (spelling absolute first (piece :: inner)).pieces = first :: inner.reverse ++ [piece] := by
  unfold spelling
  rw [List.dropWhile_cons_of_neg (by simp [hidle])]
  simp only [pieces]
  rw [show ("/" : Text) = ['/'] from rfl, splitOn_join (by simp) hslash, List.reverse_cons,
    List.cons_append]

theorem makeLineage_of_error {q : Path} (hne : q.text ≠ []) {e : FileError}
    (h : disk.makeDirectory q = .error e) (he : e ≠ .notFound) (outer : List Path) :
    disk.makeLineage (q :: outer) =
      if disk.isDirectory q then (.ok (), disk) else (.error e, disk) := by
  rw [makeLineage, if_neg (by simpa using hne), h]
  cases e with
  | notFound => exact absurd rfl he
  | notDirectory => rfl
  | isDirectory => rfl
  | alreadyExists => rfl
  | nameTooLong => rfl
  | nulInName => rfl

theorem ensureDirectory_arrived {q : Path} {front : List Text} {piece : Text}
    (hcheck : checkPath q = .ok ()) (hq : q.pieces = front ++ [piece]) (hne : piece ≠ [])
    (harrive : arrive disk.root (disk.startTrail q) front = .ok ()) (grown : Bool) :
    carve disk grown (front.foldl turn (disk.startTrail q)) [piece] =
      match disk.ensureDirectory q with
      | .ok done => (.ok (), done)
      | .error e => (.error e, disk) := by
  unfold ensureDirectory
  rcases makeDirectory_arrived hcheck hq hne harrive grown with ⟨made, hmade, hcarve⟩ | ⟨e, -, hmade, hcarve⟩
  · rw [hmade, hcarve]
  · rw [hmade, hcarve]
    cases disk.isDirectory q <;> rfl

/-- The first path of a lineage is refused, created or there as its last piece in carving, once the
outer ones are there. -/
theorem makeLineage_first {q : Path} {front : List Text} {piece : Text} (outer : List Path)
    (hcheck : checkPath q = .ok ()) (hq : q.pieces = front ++ [piece]) (hne : piece ≠ [])
    (hstart : disk.root.view (disk.startTrail q).reverse = some .directory)
    (houter : arrive disk.root (disk.startTrail q) front ≠ .ok () → isIdle piece = false ∧
      disk.makeLineage outer = carve disk false (disk.startTrail q) front) :
    disk.makeLineage (q :: outer) = carve disk false (disk.startTrail q) (front ++ [piece]) := by
  have htext := (checkPath_eq_ok_iff.1 hcheck).2.1
  cases harrive : arrive disk.root (disk.startTrail q) front with
  | ok =>
    rw [carve_arrived hstart false harrive]
    rcases makeDirectory_arrived hcheck hq hne harrive false with
      ⟨made, hmade, hcarve⟩ | ⟨e, he, hmade, hcarve⟩
    · rw [hcarve, makeLineage, if_neg (by simpa using htext), hmade]
    · rw [hcarve, makeLineage_of_error htext hmade he]
  | error e =>
    obtain ⟨hidle, houter⟩ := houter (by simp [harrive])
    have hmade : disk.makeDirectory q = .error e := by
      apply makeDirectory_of_place
      rw [place_eq_arrive disk q hcheck, solidPieces_of_getLast hq hne, hq, List.dropLast_concat, harrive]
      rfl
    by_cases he : e = .notFound
    · subst he
      rw [carve_missing hstart harrive, makeLineage, if_neg (by simpa using htext), hmade]
      simp only [houter]
      have hgrows : Grows disk (carve disk false (disk.startTrail q) front).2 fun _ => True :=
        carve_grows hstart front
      rcases hfront : carve disk false (disk.startTrail q) front with ⟨_ | _, made⟩
      · rfl
      · rw [hfront] at hgrows
        have harrived := arrive_of_carve hstart hfront
        rw [← hgrows.startTrail q] at harrived ⊢
        exact (ensureDirectory_arrived hcheck hq hne harrived true).symm
    · have hnot : ¬ disk.isDirectory q = true := by
        rw [isDirectory_iff_arrive hcheck, hq, arrive_append_ok, harrive]
        simp
      rw [makeLineage_of_error htext hmade he, if_neg hnot, carve_blocked hstart harrive he hidle]

/-- The root is there. -/
theorem makeLineage_root (hroot : disk.root.view [] = some .directory) (outer : List Path) :
    disk.makeLineage (⟨"/"⟩ :: outer) = (.ok (), disk) := by
  have hcheck : checkPath ⟨"/"⟩ = .ok () := checkPath_eq_ok_iff.2 (by decide)
  have hpieces : (⟨"/"⟩ : Path).pieces = [[], []] := by decide
  have hsolid : solidPieces ⟨"/"⟩ = [] := by decide
  have hstart : disk.startTrail ⟨"/"⟩ = [] := rfl
  have hsettles : disk.Settles ⟨"/"⟩ := by
    rw [settles_iff_arrive hcheck, hsolid, hstart]
    exact arrive_nil hroot
  have hmade : disk.makeDirectory ⟨"/"⟩ = .error .alreadyExists := by
    have hnew : newName? ⟨"/"⟩ = none := by decide
    rw [makeDirectory_of_settles hsettles, hnew]
  have hthere : disk.isDirectory ⟨"/"⟩ = true := by
    rw [isDirectory_iff_arrive hcheck, hpieces, hstart, arrive_eq_ok_iff]
    exact ⟨⟨hroot, by decide, hroot, by decide, trivial⟩, hroot⟩
  rw [makeLineage_of_error (by decide) hmade (by decide), if_pos hthere]

theorem spelling_on_the_way {first : Text} {inner : List Text} (hcheck : checkPath p = .ok ())
    (hin : first :: inner.reverse <+: p.pieces) (disk : Disk) :
    checkPath (spelling p.isAbsolute first inner) = .ok () ∧
      disk.startTrail (spelling p.isAbsolute first inner) = disk.startTrail p := by
  obtain ⟨-, htext, -⟩ := checkPath_eq_ok_iff.1 hcheck
  obtain ⟨houter, -⟩ := spelling_outer htext hin
  exact ⟨checkPath_outer houter hcheck, houter.startTrail disk⟩

/-- Creating a lineage is carving the pieces of its path. -/
theorem makeLineage_eq_carve {first : Text} {inner : List Text} (hcheck : checkPath p = .ok ())
    (hstart : disk.root.view (disk.startTrail p).reverse = some .directory)
    (hin : first :: inner.reverse <+: p.pieces) :
    disk.makeLineage (spellings p.isAbsolute first inner) =
      carve disk false (disk.startTrail p) (first :: inner.reverse) := by
  have hslash : ∀ piece ∈ first :: inner.reverse, '/' ∉ piece := fun piece hpiece =>
    not_slash_of_mem (hin.subset hpiece)
  obtain ⟨hcheck', hsame⟩ := spelling_on_the_way hcheck hin disk
  induction inner with
  | nil =>
    obtain ⟨back, hback⟩ := hin
    have habs : p.isAbsolute = first.isEmpty :=
      isAbsolute_eq (checkPath_eq_ok_iff.1 hcheck).2.1 hback.symm
    by_cases hfirst : first = []
    · subst hfirst
      have htrail : disk.startTrail p = [] := by
        unfold startTrail
        rw [habs]
        rfl
      have hroot : disk.root.view [] = some .directory := by rwa [htrail] at hstart
      have hspell : spelling p.isAbsolute [] [] = ⟨"/"⟩ := by rw [habs]; rfl
      rw [spellings, hspell, makeLineage_root hroot, htrail, carve_directory _ (by decide) hroot]
      rfl
    · have hspell : spelling p.isAbsolute first [] = ⟨first⟩ := by simp [spelling, hfirst]
      have hpieces : (⟨first⟩ : Path).pieces = [] ++ [first] := by
        have hone := splitOn_join (List.cons_ne_nil first []) hslash
        rwa [show Text.join ['/'] [first] = first by simp [Text.join]] at hone
      rw [hspell] at hcheck' hsame
      rw [← hsame] at hstart
      rw [spellings, hspell, ← hsame]
      refine makeLineage_first _ hcheck' hpieces hfirst hstart fun hnot => ?_
      exact absurd (arrive_nil hstart) hnot
  | cons piece inner ih =>
    have hsplit : first :: (piece :: inner).reverse = first :: inner.reverse ++ [piece] := by simp
    have hin' : first :: inner.reverse <+: p.pieces :=
      (hsplit ▸ List.prefix_append (first :: inner.reverse) [piece]).trans hin
    obtain ⟨hcheck'', hsame'⟩ := spelling_on_the_way hcheck hin' disk
    have hinner := ih hin' (fun other hother => not_slash_of_mem (hin'.subset hother)) hcheck'' hsame'
    rw [hsplit, spellings]
    split
    · rename_i hidle
      rw [carve_concat_idle hstart hidle]
      exact hinner
    · rename_i hidle
      have hidle : isIdle piece = false := by simpa using hidle
      have hne : piece ≠ [] := by
        rintro rfl
        cases hidle
      rw [← hsame] at hstart hinner ⊢
      exact makeLineage_first _ hcheck' (pieces_spelling hidle hslash _) hne hstart
        fun _ => ⟨hidle, hinner⟩

end Lineage

/-! ## What a path needs -/

/-- Refuses a path whose directory leads nowhere whatever the disk holds. -/
def checkParent (p : Path) : Except FileError Unit :=
  match p.parent? with
  | none => .ok ()
  | some dir => if dir.text.isEmpty then .ok () else checkPath dir

/-- The pieces of a spelling are those that it was given, up to idle ones at the end. -/
theorem carve_spelling {disk : Disk} {p : Path} {first : Text} {inner : List Text} {trail : List Text}
    (hne : p.text ≠ []) (hin : first :: inner.reverse <+: p.pieces)
    (hdir : disk.root.view trail.reverse = some .directory) (grown : Bool) :
    carve disk grown trail (spelling p.isAbsolute first inner).pieces =
      carve disk grown trail (first :: inner.reverse) := by
  have hslash : ∀ piece ∈ first :: inner.reverse, '/' ∉ piece := fun piece hpiece =>
    not_slash_of_mem (hin.subset hpiece)
  have hinner := reverse_eq_kept_append_idle inner
  have hidle : ∀ piece ∈ (inner.takeWhile isIdle).reverse, isIdle piece = true := fun piece hpiece =>
    List.all_eq_true.1 List.all_takeWhile piece (List.mem_reverse.1 hpiece)
  obtain ⟨back, hback⟩ := hin
  rcases spelling_cases inner (isAbsolute_eq hne hback.symm) with ⟨rfl, hkept, hq⟩ | ⟨-, hq⟩
  · have hroot : (⟨"/"⟩ : Path).pieces = [[]] ++ [[]] := by decide
    rw [hq, hroot, carve_concat_idle hdir rfl, hinner, hkept, List.reverse_nil, List.nil_append]
    exact (carve_append_idle hdir hidle [[]]).symm
  · have hpieces : (⟨Text.join "/" (first :: (inner.dropWhile isIdle).reverse)⟩ : Path).pieces =
        first :: (inner.dropWhile isIdle).reverse := by
      refine splitOn_join (by simp) fun piece hpiece => hslash piece ?_
      rw [hinner, ← List.cons_append]
      exact List.mem_append_left _ hpiece
    rw [hq, hpieces, hinner, ← List.cons_append, carve_append_idle hdir hidle]

theorem dropWhile_reverse_idle {idles : List Text} (h : ∀ piece ∈ idles, isIdle piece = true)
    (rest : List Text) : (rest ++ idles).reverse.dropWhile isIdle = rest.reverse.dropWhile isIdle := by
  rw [List.reverse_append, List.dropWhile_append_of_pos fun piece hpiece =>
    h piece (List.mem_reverse.1 hpiece)]

/-- A path with one name, or with idle pieces only, needs no directory. -/
theorem makeParents_of_idle {p : Path} {first : Text} {idles : List Text}
    (hp : p.pieces = first :: idles) (hidles : ∀ piece ∈ idles, isIdle piece = true) :
    checkParent p = .ok () ∧ ∀ disk : Disk, disk.makeParents p = (.ok (), disk) := by
  have hdrop := dropWhile_reverse_idle hidles []
  rw [List.nil_append, List.reverse_nil, List.dropWhile_nil] at hdrop
  have hparent : p.parent? = if first.isEmpty then none else some ⟨[]⟩ := by
    simp only [parent?, hp, hdrop]
  unfold checkParent makeParents
  rw [hparent]
  cases first.isEmpty with
  | true => exact ⟨rfl, fun _ => rfl⟩
  | false => exact ⟨rfl, fun _ => rfl⟩

section Names
variable {p : Path} {name : Text} {idles : List Text} (hname : IsName name)
  (hidles : ∀ piece ∈ idles, isIdle piece = true)
include hname hidles

theorem parent?_of_cons {first : Text} {more : List Text}
    (hp : p.pieces = first :: more ++ name :: idles) :
    p.parent? = some (spelling p.isAbsolute first more.reverse) ∧
      Outer (spelling p.isAbsolute first more.reverse) p := by
  have hne : p.text ≠ [] := text_ne_nil_of_pieces hp (Or.inr (by simp))
  have hin : first :: more.reverse.reverse <+: p.pieces := by
    rw [List.reverse_reverse, hp]
    exact List.prefix_append _ _
  have hlast : (more ++ name :: idles).reverse.dropWhile isIdle = name :: more.reverse := by
    rw [List.append_cons, dropWhile_reverse_idle hidles, List.reverse_append, List.reverse_singleton,
      List.singleton_append, List.dropWhile_cons_of_neg (by simp [hname.1])]
  refine ⟨?_, (spelling_outer hne hin).1⟩
  simp only [parent?, hp, List.cons_append, hlast]

/-- Creating what a path needs is carving the pieces before its last name. -/
theorem makeParents_eq_carve {disk : Disk} {front : List Text} (hp : p.pieces = front ++ name :: idles)
    (hstart : disk.root.view (disk.startTrail p).reverse = some .directory) :
    disk.makeParents p =
      match checkParent p with
      | .ok _ => carve disk false (disk.startTrail p) front
      | .error e => (.error e, disk) := by
  cases front with
  | nil =>
    obtain ⟨hcheck, hmade⟩ := makeParents_of_idle hp hidles
    rw [hcheck, hmade]
    rfl
  | cons first more =>
    have hne : p.text ≠ [] := text_ne_nil_of_pieces hp (Or.inr (by simp))
    have hin : first :: more.reverse.reverse <+: p.pieces := by
      rw [List.reverse_reverse, hp]
      exact List.prefix_append _ _
    obtain ⟨hparent, houter⟩ := parent?_of_cons hname hidles hp
    have hsame := houter.startTrail disk
    have hcarve := carve_spelling hne hin hstart false
    rw [List.reverse_reverse] at hcarve
    unfold makeParents checkParent
    rw [hparent]
    generalize spelling p.isAbsolute first more.reverse = dir at houter hsame hcarve ⊢
    obtain ⟨first', inner', hdir, hlineage⟩ := dir.exists_lineage
    have htext : dir.text.isEmpty = false := by simpa using houter.text_ne
    simp only [makeDirectories, htext, Bool.false_eq_true, if_false]
    cases hcheck : checkPath dir with
    | error e => rfl
    | ok _ =>
      rw [← hsame] at hstart hcarve ⊢
      simp only [hlineage]
      rw [makeLineage_eq_carve hcheck hstart (hdir ▸ List.prefix_refl _), ← hdir, hcarve]

theorem checkParent_of_checkPath {front : List Text} (hp : p.pieces = front ++ name :: idles)
    (hcheck : checkPath p = .ok ()) : checkParent p = .ok () := by
  cases front with
  | nil => exact (makeParents_of_idle hp hidles).1
  | cons first more =>
    obtain ⟨hparent, houter⟩ := parent?_of_cons hname hidles hp
    unfold checkParent
    rw [hparent]
    simp only [checkPath_outer houter hcheck]
    split <;> rfl

/-- Where no file stands on the way, the directories that a path needs can be made, and the way to
them can be walked. -/
theorem makeParents_of_clear {disk : Disk} {front : List Text} (hp : p.pieces = front ++ name :: idles)
    (hcheck : checkPath p = .ok ())
    (hstart : disk.root.view (disk.startTrail p).reverse = some .directory)
    (hshort : ∀ piece ∈ front, byteLength piece ≤ longestName)
    (hclear : Unblocked disk.root (disk.startTrail p) front) :
    (disk.makeParents p).1 = .ok () ∧
      arrive (disk.makeParents p).2.root (disk.startTrail p) front = .ok () := by
  have hok : (carve disk false (disk.startTrail p) front).1 = .ok () := by
    rw [(carve_unblocked false hstart hclear).1, if_pos hshort]
  rw [makeParents_eq_carve hname hidles hp hstart, checkParent_of_checkPath hname hidles hp hcheck]
  exact ⟨hok, arrive_of_carve hstart (Prod.ext hok rfl)⟩

end Names

end LuaReference.Disk
