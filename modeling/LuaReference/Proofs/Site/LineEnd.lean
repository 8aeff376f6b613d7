import LuaReference.Proofs.Comment.LineEnd
import LuaReference.Proofs.Site.Declaration
import LuaReference.Site.Definition

/-!
# Sites with carriage returns

* `readsThrough_readDeclaration`, `declarations_crlf` : a source with carriage returns declares what
  the source declares, on the same lines;
* `greatestLine?_map`, `nearestDoc?_crlf` : the nearest block is the same, since it is a matter of lines;
* `followingCode?_crlf` : the line of code after a place is the same;
* `locate_crlf`, `locateProperties_crlf`, `locatePanels_crlf` : so are the documented sites.
-/

namespace LuaReference.Site

open Text Comment

/-! ## Declarations -/

theorem wordThenGap?_crlf {word : Text} (h : Unbroken word) (t : Text) :
    wordThenGap? word (crlf t) =
      (wordThenGap? word t).map fun (front, rest) => (crlf front, crlf rest) := by
  unfold wordThenGap?
  rw [after?_crlf h]
  cases after? word t with
  | none => rfl
  | some rest =>
    have hempty : (crlf (rest.takeWhile isBlank)).isEmpty = (rest.takeWhile isBlank).isEmpty := by
      rw [Bool.eq_iff_iff, List.isEmpty_iff, List.isEmpty_iff, crlf_eq_nil]
    simp only [Option.map_some, Option.bind_eq_bind, Option.bind_some, takeWhile_crlf isBlank_return,
      dropWhile_crlf isBlank_return, hempty]
    split
    · rfl
    · simp [crlf_append, h.crlf_eq]

theorem readFunction?_crlf (t : Text) :
    readFunction? (crlf t) = (readFunction? t).map fun (name, taken) => (name, crlf taken) := by
  have hname : isNameChar '\r' = isNameChar '\n' := by decide +kernel
  have hline : isNameChar '\n' = false := by decide +kernel
  unfold readFunction?
  rw [wordThenGap?_crlf (by decide)]
  cases wordThenGap? "function" t with
  | none => rfl
  | some found =>
    obtain ⟨front, rest⟩ := found
    have hsame : crlf (rest.takeWhile isNameChar) = rest.takeWhile isNameChar := by
      apply crlf_of_not_mem
      intro hmem
      rw [List.all_eq_true.1 List.all_takeWhile '\n' hmem] at hline
      cases hline
    simp only [Option.map_some, Option.bind_eq_bind, Option.bind_some, takeWhile_crlf hname,
      dropWhile_crlf hname, takeWhile_crlf isBlank_return, dropWhile_crlf isBlank_return, hsame]
    split
    · rfl
    · rw [after?_crlf (by decide)]
      cases after? "(" ((rest.dropWhile isNameChar).dropWhile isBlank) with
      | none => rfl
      | some inner =>
        have hparen : crlf "(" = "(" := by decide
        simp only [Option.map_some, Option.bind_some, Option.pure_def, crlf_append, hsame, hparen]

theorem readDeclared?_crlf (t : Text) :
    readDeclared? (crlf t) = (readDeclared? t).map fun (item, taken) => (item, crlf taken) := by
  unfold readDeclared?
  rw [wordThenGap?_crlf (by decide), readFunction?_crlf]
  cases wordThenGap? "local" t with
  | none => cases readFunction? t <;> rfl
  | some found =>
    obtain ⟨front, rest⟩ := found
    simp only [Option.map_some, readFunction?_crlf]
    cases readFunction? rest with
    | none => rfl
    | some inner => simp [crlf_append]

theorem readsThrough_readDeclaration : ReadsThrough readDeclaration id where
  takes := readDeclaration_takes
  newline before r := by
    unfold readDeclaration
    split <;> rfl
  carriageReturn before r := by
    unfold readDeclaration
    split <;> rfl
  other before c r _ := by
    unfold readDeclaration
    rw [readDeclared?_crlf]
    split
    · cases readDeclared? (c :: r) <;> rfl
    · rfl

theorem declarations_crlf (source : Text) :
    declarations (crlf source) (extract (crlf source)) = declarations source (extract source) := by
  unfold declarations
  rw [scan_crlf readsThrough_readDeclaration, List.filterMap_map]
  refine congrArg (List.filterMap · _) (funext fun found => ?_)
  simp only [Function.comp, Found.relocate, id, covers_crlf, lineAt_moved]

/-- A site of `source` in the source with carriage returns. -/
def relocate (source : Text) (site : Site) : Site := { site with doc := site.doc.relocate source }

/-- Which block is on the greatest line depends on the lines alone. -/
theorem greatestLine?_map {f : Block → Block} (h : ∀ b, (f b).line = b.line) (blocks : List Block) :
    greatestLine? (blocks.map f) = (greatestLine? blocks).map f := by
  cases blocks with
  | nil => rfl
  | cons b rest =>
    rw [List.map_cons, greatestLine?, greatestLine?, Option.map_some, List.foldl_map]
    refine congrArg some (List.foldl_hom f fun a c => ?_)
    rw [laterOf, laterOf, h, h]
    split <;> rfl

theorem nearestDoc?_crlf (source : Text) (blocks : List Block) (line : Nat) :
    nearestDoc? (blocks.map (Block.relocate source)) line =
      (nearestDoc? blocks line).map (Block.relocate source) := by
  have hline : ∀ b, (Block.relocate source b).line = b.line := fun _ => rfl
  rw [nearestDoc?, entries_crlf, List.filter_map, greatestLine?_map hline]
  rfl

theorem locate_crlf (source : Text) (scope? : Option Text) :
    locate (crlf source) (extract (crlf source)) scope? =
      (locate source (extract source) scope?).map (Site.relocate source) := by
  unfold locate
  rw [declarations_crlf, extract_crlf, List.map_filterMap]
  refine congrArg (List.filterMap · _) (funext fun d => ?_)
  rw [ofDeclaration?, nearestDoc?_crlf, ofDeclaration?, Option.map_map, Option.map_map]
  rfl

/-! ## Code after a block -/

theorem code?_return (raw : Text) : code? (raw ++ ['\r']) = code? raw := by
  have htrim : trim (raw ++ ['\r']) = trim raw := by
    rw [← trim_trimEnd, trimEnd_concat (by decide), trim_trimEnd]
  rw [code?, htrim, code?]

/-- The line that is being read starts after `u`, and `front` is what was read of it. -/
theorem firstCode?_crlf (u front t : Text) (hfront : '\n' ∉ front) :
    firstCode? (byteLength (crlf u)) front (crlf t) =
      (firstCode? (byteLength u) front t).map fun (p, line) => (moved (u ++ (front.reverse ++ t)) p, line) := by
  induction t generalizing u front with
  | nil =>
    have hstart := moved_append u (front.reverse ++ [])
    rw [crlf_nil, firstCode?, firstCode?, Option.map_map]
    simp only [Function.comp_def, hstart]
  | cons c r ih =>
    by_cases hc : c = '\n'
    · subst hc
      have hstart := moved_append u (front.reverse ++ '\n' :: r)
      have hreturn : ('\r' :: front).reverse = front.reverse ++ ['\r'] := List.reverse_cons
      rw [crlf_newline, firstCode?, if_neg (by decide), firstCode?, if_pos rfl, firstCode?, if_pos rfl,
        hreturn, code?_return]
      cases code? front.reverse with
      | some line => simp [hstart]
      | none =>
        -- the next line starts behind the newline, in both texts
        have hsame : crlf front.reverse = front.reverse := crlf_of_not_mem (by simpa using hfront)
        have hplain : byteLength u + byteLength ('\n' :: front) = byteLength (u ++ (front.reverse ++ ['\n'])) := by
          simp only [byteLength_append, byteLength_reverse, byteLength]
          omega
        have hmoved : byteLength (crlf u) + byteLength ('\n' :: '\r' :: front) =
            byteLength (crlf (u ++ (front.reverse ++ ['\n']))) := by
          simp only [crlf_append, hsame, crlf_newline, crlf_nil, byteLength_append, byteLength_reverse,
            byteLength]
          omega
        have hrest := ih (u ++ (front.reverse ++ ['\n'])) [] (by simp)
        simp only [hplain, hmoved, hrest, List.reverse_nil, List.nil_append, List.append_assoc,
          List.singleton_append]
    · have hrest := ih u (c :: front) (by simp [hfront, Ne.symm hc])
      rw [List.reverse_cons, List.append_assoc, List.singleton_append] at hrest
      rw [crlf_cons hc, firstCode?, if_neg hc, firstCode?, if_neg hc, hrest]

theorem followingCode?_crlf (u v : Text) :
    followingCode? (crlf (u ++ v)) (byteLength (crlf u)) =
      (followingCode? (u ++ v) (byteLength u)).map fun (p, line) => (moved (u ++ v) p, line) := by
  unfold followingCode?
  rw [crlf_append, dropBytes?_append, dropBytes?_append, Option.bind_some, Option.bind_some]
  exact firstCode?_crlf u [] v (by simp)

theorem ofFollowingCode?_crlf {source : Text} {block : Block} (h : block ∈ extract source)
    (name? : Text → Option Text) :
    ofFollowingCode? (.ofText (crlf source)) (crlf source) name? (block.relocate source) =
      (ofFollowingCode? (.ofText source) source name? block).map (Site.relocate source) := by
  obtain ⟨u, v, hsource, hstop⟩ : ∃ u v, source = u ++ v ∧ block.stop = byteLength u := by
    obtain ⟨u, inner, v, hsource, -, hstop⟩ := exists_ofBody_of_mem h
    exact ⟨u ++ ofBody inner, v, by rw [hsource, List.append_assoc], hstop⟩
  have hcode := followingCode?_crlf u v
  rw [← moved_append u v, ← hsource, ← hstop] at hcode
  unfold ofFollowingCode?
  rw [show (block.relocate source).stop = moved source block.stop from rfl, hcode]
  cases followingCode? source block.stop with
  | none => rfl
  | some found =>
    obtain ⟨p, line⟩ := found
    simp only [Option.map_some, Option.bind_eq_bind, Option.bind_some, lineAt_moved]
    cases name? line <;> rfl

theorem locateFollowing_crlf (source : Text) (picks : Text → Bool)
    (hpicks : ∀ t, picks (crlf t) = picks t) (name? : Text → Option Text) :
    ((entries (extract (crlf source))).filter fun b => picks b.text).filterMap
        (ofFollowingCode? (.ofText (crlf source)) (crlf source) name?) =
      (((entries (extract source)).filter fun b => picks b.text).filterMap
        (ofFollowingCode? (.ofText source) source name?)).map (Site.relocate source) := by
  have hkeep : ((fun b : Block => picks b.text) ∘ Block.relocate source) = fun b => picks b.text :=
    funext fun b => hpicks b.text
  rw [extract_crlf, entries_crlf, List.filter_map, List.filterMap_map, List.map_filterMap, hkeep]
  refine List.filterMap_congr fun block hblock => ?_
  have hmem : block ∈ extract source := (List.mem_filter.1 (List.mem_filter.1 hblock).1).1
  exact ofFollowingCode?_crlf hmem name?

theorem locateProperties_crlf (source : Text) (tables : List Text) :
    locateProperties (crlf source) (extract (crlf source)) tables =
      (locateProperties source (extract source) tables).map (Site.relocate source) := by
  have hsample : ∀ t, (!Entry.mentionsSample (crlf t)) = !Entry.mentionsSample t := by
    intro t
    rw [mentionsSample_crlf]
  exact locateFollowing_crlf source (fun t => !Entry.mentionsSample t) hsample (property? tables)

theorem locatePanels_crlf (source : Text) :
    locatePanels (crlf source) (extract (crlf source)) =
      (locatePanels source (extract source)).map (Site.relocate source) :=
  locateFollowing_crlf source Entry.mentionsPanel mentionsPanel_crlf some

end LuaReference.Site
