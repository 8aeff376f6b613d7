import LuaReference.Proofs.Comment.Outside
import LuaReference.Site.Declaration
import Mathlib.Data.List.Basic

/-!
# Declarations and the comments around them

No declaration holds a dash or a closing bracket, so none reaches into a comment or out of one.

* `Bars d` : a character that stands in no declaration, and `readDeclaration_bar` : reading does not
  look beyond it;
* `readDeclaration_takes` : what is read stands at the start of the text;
* `declarations_around` : the declarations of a source are those before a block and those after it;
* `declarations_of_rewritten` : what a comment says changes none of them.
-/

namespace LuaReference.Site

open Text Comment

/-! ## Where reading ends -/

/-- A character that stands in no declaration. -/
structure Bars (d : Char) : Prop where
  not_blank : isBlank d = false
  not_name : isNameChar d = false
  not_local : d ∉ ("local" : Text)
  not_function : d ∉ ("function" : Text)
  not_paren : d ∉ ("(" : Text)

theorem bars_dash : Bars '-' := ⟨by decide, by decide +kernel, by decide, by decide, by decide⟩

theorem bars_bracket : Bars ']' := ⟨by decide, by decide +kernel, by decide, by decide, by decide⟩

variable {d : Char}

theorem wordThenGap?_bar {word : Text} (hword : d ∉ word) (hblank : isBlank d = false) (x r : Text) :
    wordThenGap? word (x ++ d :: r) =
      (wordThenGap? word x).map fun (front, rest) => (front, rest ++ d :: r) := by
  unfold wordThenGap?
  rw [after?_append_cons hword]
  cases after? word x with
  | none => rfl
  | some rest =>
    simp only [Option.map_some, Option.bind_eq_bind, Option.bind_some, takeWhile_append_cons hblank,
      dropWhile_append_cons hblank]
    split <;> rfl

theorem readFunction?_bar (h : Bars d) (x r : Text) : readFunction? (x ++ d :: r) = readFunction? x := by
  unfold readFunction?
  rw [wordThenGap?_bar h.not_function h.not_blank]
  cases wordThenGap? "function" x with
  | none => rfl
  | some found =>
    obtain ⟨front, rest⟩ := found
    simp only [Option.map_some, Option.bind_eq_bind, Option.bind_some, takeWhile_append_cons h.not_name,
      dropWhile_append_cons h.not_name, dropWhile_append_cons h.not_blank,
      takeWhile_append_cons h.not_blank, after?_append_cons h.not_paren]
    split
    · rfl
    · cases after? "(" ((rest.dropWhile isNameChar).dropWhile isBlank) <;> rfl

theorem readDeclared?_bar (h : Bars d) (x r : Text) : readDeclared? (x ++ d :: r) = readDeclared? x := by
  unfold readDeclared?
  rw [wordThenGap?_bar h.not_local h.not_blank, readFunction?_bar h]
  cases wordThenGap? "local" x with
  | none => rfl
  | some found => simp only [Option.map_some, readFunction?_bar h]

/-- Reading does not look beyond a character that stands in no declaration. -/
theorem readDeclaration_bar (h : Bars d) (before : Option Char) (x r : Text) :
    readDeclaration before (x ++ d :: r) = readDeclaration before x := by
  unfold readDeclaration
  rw [readDeclared?_bar h]

/-! ## What is taken -/

theorem wordThenGap?_takes {word t front rest : Text} (h : wordThenGap? word t = some (front, rest)) :
    t = front ++ rest := by
  unfold wordThenGap? at h
  obtain ⟨inner, hinner, h⟩ := Option.bind_eq_some_iff.1 h
  simp only at h
  split at h
  · cases h
  · cases h
    rw [after?_eq_some_iff.1 hinner, List.append_assoc, List.takeWhile_append_dropWhile]

theorem readFunction?_takes {t name taken : Text} (h : readFunction? t = some (name, taken)) :
    taken ≠ [] ∧ ∃ rest, t = taken ++ rest := by
  unfold readFunction? at h
  obtain ⟨⟨front, rest⟩, hfront, h⟩ := Option.bind_eq_some_iff.1 h
  simp only at h
  split at h
  · cases h
  · obtain ⟨inner, hinner, h⟩ := Option.bind_eq_some_iff.1 h
    have hname : rest.takeWhile isNameChar ++ rest.dropWhile isNameChar = rest :=
      List.takeWhile_append_dropWhile
    have hgap : (rest.dropWhile isNameChar).takeWhile isBlank ++ ("(" ++ inner) =
        rest.dropWhile isNameChar := by
      rw [← after?_eq_some_iff.1 hinner, List.takeWhile_append_dropWhile]
    cases h
    refine ⟨by simp, inner, ?_⟩
    rw [wordThenGap?_takes hfront, List.append_assoc, List.append_assoc, List.append_assoc, hgap, hname]

theorem readDeclared?_takes {t : Text} {item : Declared} {taken : Text}
    (h : readDeclared? t = some (item, taken)) : taken ≠ [] ∧ ∃ rest, t = taken ++ rest := by
  unfold readDeclared? at h
  cases hlocal : wordThenGap? "local" t with
  | none =>
    rw [hlocal] at h
    obtain ⟨⟨name, taken'⟩, hfunction, heq⟩ := Option.map_eq_some_iff.1 h
    cases heq
    exact readFunction?_takes hfunction
  | some found =>
    obtain ⟨front, inner⟩ := found
    rw [hlocal] at h
    obtain ⟨⟨name, taken'⟩, hfunction, heq⟩ := Option.map_eq_some_iff.1 h
    cases heq
    obtain ⟨hne, rest, hrest⟩ := readFunction?_takes hfunction
    refine ⟨by simp [hne], rest, ?_⟩
    rw [wordThenGap?_takes hlocal, hrest, List.append_assoc]

theorem readDeclaration_takes : Recognizer.Takes readDeclaration := by
  intro before t item taken h
  unfold readDeclaration at h
  split at h
  · cases hread : readDeclared? t with
    | none =>
      rw [hread] at h
      cases h
    | some found =>
      rw [hread] at h
      cases h
      exact readDeclared?_takes hread
  · cases h

theorem readDeclaration_ne_never (before : Option Char) (t : Text) :
    readDeclaration before t ≠ .never := by
  unfold readDeclaration
  split
  · cases readDeclared? t <;> simp [Reading.ofOption]
  · simp

/-! ## Around a block -/

/-- The declarations that a scan finds: those before a block, some in it, and those after it. -/
theorem scan_declarations_around (pre body post : Text) :
    ∃ inner, scan readDeclaration (pre ++ (ofBody body ++ post)) = scan readDeclaration pre ++
        (inner ++ (scan readDeclaration post).map (Found.shift (byteLength (pre ++ ofBody body)))) ∧
      ∀ found ∈ inner, byteLength pre ≤ found.start ∧ found.start < byteLength (pre ++ ofBody body) := by
  -- the block starts with a dash and ends with a bracket
  have hfront : ∀ u x, pre = u ++ x → x ≠ [] → ∀ before,
      readDeclaration before (x ++ (ofBody body ++ post)) = readDeclaration before x :=
    fun _ x _ _ before => readDeclaration_bar bars_dash before x _
  have hblock : ∀ u x, ofBody body = u ++ x → x ≠ [] → ∀ before,
      readDeclaration before (x ++ post) = readDeclaration before x := by
    intro u x hx hne before
    obtain ⟨y, rfl⟩ : ∃ y, x = y ++ [']'] := by
      obtain ⟨y, c, rfl⟩ := (List.eq_nil_or_concat x).resolve_left hne
      have hlast := congrArg List.getLast? hx
      simp only [ofBody, closing, List.concat_eq_append, List.getLast?_append, List.getLast?_singleton] at hlast
      obtain rfl : ']' = c := by simpa using hlast
      exact ⟨y, List.concat_eq_append⟩
    rw [List.append_assoc, List.singleton_append, readDeclaration_bar bars_bracket,
      readDeclaration_bar bars_bracket]
  have hback : lastOf (lastOf none pre) (ofBody body) = some ']' := by
    simp [lastOf, ofBody, closing]
  have hfresh : ∀ t, readDeclaration (some ']') t = readDeclaration none t := by
    have hstart : startsAfter (some ']') = startsAfter none := by decide +kernel
    intro t
    unfold readDeclaration
    rw [hstart]
  refine ⟨scanFrom readDeclaration (lastOf none pre) (byteLength pre) 0 (ofBody body), ?_, ?_⟩
  · rw [scan, scanFrom_append_of_agree readDeclaration_takes readDeclaration_ne_never hfront
        (Nat.zero_le _), Nat.zero_add,
      scanFrom_append_of_agree readDeclaration_takes readDeclaration_ne_never hblock (Nat.zero_le _),
      hback, ← byteLength_append, scanFrom_eq_scan hfresh]
    rfl
  · intro found hfound
    have hbounds := (readAt_of_mem readDeclaration_takes hfound).bounds
    rw [byteLength_append]
    omega

/-- The declaration that was found, unless it is local. -/
def declaration? (table : LineTable) (found : Found Declared) : Option Declaration :=
  if found.item.isLocal then none else some ⟨found.item.name, table.lineAt found.start⟩

theorem declarations_eq (source : Text) :
    declarations source (extract source) =
      (outside readDeclaration source).filterMap (declaration? (.ofText source)) := by
  unfold declarations outside declaration?
  rw [List.filterMap_filter]
  refine List.filterMap_congr fun found _ => ?_
  cases found.item.isLocal <;> cases covers (extract source) found.start <;> rfl

/-- A declaration that stands a number of lines further down. -/
def Declaration.down (n : Nat) (d : Declaration) : Declaration := ⟨d.name, d.line + n⟩

/-- The declarations of a source are those before a block, and those after it further down. -/
theorem declarations_around {pre body : Text} (hpre : Balanced pre) (hbody : FirstAtEnd closing body)
    (post : Text) :
    declarations (pre ++ (ofBody body ++ post)) (extract (pre ++ (ofBody body ++ post))) =
      declarations pre (extract pre) ++
        (declarations post (extract post)).map (Declaration.down ((pre ++ ofBody body).count '\n')) := by
  obtain ⟨inner, hscan, hinner⟩ := scan_declarations_around pre body post
  rw [declarations_eq, outside_around readDeclaration_takes hpre hbody hscan hinner, declarations_eq,
    declarations_eq, List.filterMap_append, List.filterMap_map, List.map_filterMap]
  congr 1
  · refine List.filterMap_congr fun found hfound => ?_
    obtain ⟨u, taken, v, rfl, -, hstart, -⟩ :=
      readAt_of_mem readDeclaration_takes (List.mem_filter.1 hfound).1
    rw [Nat.zero_add] at hstart
    unfold declaration?
    rw [hstart, List.append_assoc, lineAt_append, lineAt_append]
  · refine List.filterMap_congr fun found hfound => ?_
    obtain ⟨u, taken, v, rfl, -, hstart, -⟩ :=
      readAt_of_mem readDeclaration_takes (List.mem_filter.1 hfound).1
    have hline : (LineTable.ofText (pre ++ (ofBody body ++ (u ++ (taken ++ v))))).lineAt
        (byteLength u + byteLength (pre ++ ofBody body)) =
        (LineTable.ofText (u ++ (taken ++ v))).lineAt (byteLength u) +
          (pre ++ ofBody body).count '\n' := by
      have hplace : byteLength u + byteLength (pre ++ ofBody body) =
          byteLength (pre ++ ofBody body ++ u) := by
        rw [byteLength_append _ u, Nat.add_comm]
      have hcount : (pre ++ ofBody body ++ u).count '\n' =
          (pre ++ ofBody body).count '\n' + u.count '\n' := List.count_append
      rw [hplace, ← List.append_assoc, ← List.append_assoc, lineAt_append, lineAt_append, hcount]
      omega
    rw [Nat.zero_add] at hstart
    unfold declaration?
    simp only [Function.comp, Found.shift, hstart, hline]
    cases found.item.isLocal <;> rfl

/-- Other words in a comment, over as many lines, leave the declarations as they are. -/
theorem declarations_of_rewritten {pre body post body' : Text} (hblock : BlockBetween pre body post)
    (hlines : body'.count '\n' = body.count '\n') (hbody' : FirstAtEnd closing body') :
    declarations (pre ++ (ofBody body ++ post)) (extract (pre ++ (ofBody body ++ post))) =
      declarations (pre ++ (ofBody body' ++ post)) (extract (pre ++ (ofBody body' ++ post))) := by
  obtain ⟨hpre, hbody⟩ := hblock.balanced
  have hcount : (pre ++ ofBody body').count '\n' = (pre ++ ofBody body).count '\n' := by
    simp only [ofBody, List.count_append, hlines]
  rw [declarations_around hpre hbody, declarations_around hpre hbody', hcount]

/-- A comment that declares a function itself, and ends in the middle of another declaration, hides
nothing that comes after it. -/
theorem declarations_of_rewritten_sample :
    let pre : Text := "function a.b(x)\nlocal "
    let post : Text := " function c:d ()\n"
    let said : Text := "note\n"
    let other : Text := " function e()\n local function f"
    BlockBetween pre said post ∧
      declarations (pre ++ (ofBody other ++ post)) (extract (pre ++ (ofBody other ++ post))) =
        [⟨"a.b", 1⟩, ⟨"c:d", 3⟩] := by
  intro pre post said other
  have hblock : BlockBetween pre said post := by decide
  refine ⟨hblock, ?_⟩
  have hlines : other.count '\n' = said.count '\n' := by decide
  rw [← declarations_of_rewritten hblock hlines (by decide)]
  decide +kernel

end LuaReference.Site
