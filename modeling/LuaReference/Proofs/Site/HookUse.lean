import LuaReference.Proofs.Comment.Outside
import LuaReference.Site.HookUse

/-!
# Uses of hooks and the comments around them

The name in a call goes on to the next quote, wherever that stands. A call in a comment whose name is
not closed there takes its name out of the code behind the comment, with the calls that stand in it.

* `opensName?`, `closeName?` : the two halves of reading a call;
* `callsClosed t` : every call in a text that opens a name closes it there;
* `readHookUse_dash` : reading such a text does not look beyond a dash;
* `Contained pre body post` : no use that starts in a block ends behind it;
* `outside_hookUses` : under both conditions the uses of a source are those before a block and those
  after it;
* `hooksUsed_of_rewritten` : then what a comment says changes none of them;
* `comment_hides_use` : without the second condition it does.
-/

namespace LuaReference.Site

open Text Comment

/-! ## The two halves of a call -/

/-- What follows the quote that opens the name in a call at the start of a text. -/
def opensName? (t : Text) : Option Text := do
  let rest ← after? "hook.Add" t <|> after? "hook.Run" t
  let rest ← after? "(" (trimStart rest)
  match trimStart rest with
  | [] => none
  | quote :: inner => if isQuote quote then some inner else none

/-- The name up to the quote that closes it, and what follows that quote. -/
def closeName? (inner : Text) : Option (Text × Text) :=
  match inner.dropWhile fun c => !isQuote c with
  | [] => none
  | _ :: rest =>
    if (inner.takeWhile fun c => !isQuote c).isEmpty then none
    else some (inner.takeWhile fun c => !isQuote c, rest)

theorem hookUse?_eq (t : Text) : hookUse? t = (opensName? t).bind closeName? := by
  unfold hookUse? opensName?
  cases (after? "hook.Add" t <|> after? "hook.Run" t) with
  | none => rfl
  | some rest =>
    simp only [Option.bind_eq_bind, Option.bind_some]
    cases after? "(" (trimStart rest) with
    | none => rfl
    | some rest =>
      simp only [Option.bind_some]
      cases trimStart rest with
      | nil => rfl
      | cons quote inner =>
        simp only [quotedName?]
        cases isQuote quote <;> rfl

/-- A dash can only stand in the name of a call. -/
theorem opensName?_dash (x r : Text) :
    opensName? (x ++ '-' :: r) = (opensName? x).map (· ++ '-' :: r) := by
  have hadd : '-' ∉ ("hook.Add" : Text) := by decide
  have hrun : '-' ∉ ("hook.Run" : Text) := by decide
  have hparen : '-' ∉ ("(" : Text) := by decide
  have hblank : isBlank '-' = false := by decide
  have hquote : isQuote '-' = false := by decide
  have hcall : (after? "hook.Add" (x ++ '-' :: r) <|> after? "hook.Run" (x ++ '-' :: r)) =
      (after? "hook.Add" x <|> after? "hook.Run" x).map (· ++ '-' :: r) := by
    rw [after?_append_cons hadd, after?_append_cons hrun]
    cases after? "hook.Add" x <;> rfl
  unfold opensName?
  rw [hcall]
  cases (after? "hook.Add" x <|> after? "hook.Run" x) with
  | none => rfl
  | some rest =>
    simp only [Option.map_some, Option.bind_eq_bind, Option.bind_some, trimStart,
      dropWhile_append_cons hblank, after?_append_cons hparen]
    cases after? "(" (rest.dropWhile isBlank) with
    | none => rfl
    | some rest =>
      simp only [Option.map_some, Option.bind_some, dropWhile_append_cons hblank]
      cases rest.dropWhile isBlank with
      | nil => simp [hquote]
      | cons quote inner =>
        simp only [List.cons_append]
        cases isQuote quote <;> rfl

theorem length_of_opensName? {t inner : Text} (h : opensName? t = some inner) :
    inner.length < t.length := by
  have hblanks : ∀ s : Text, (trimStart s).length ≤ s.length := fun s =>
    (List.dropWhile_suffix isBlank).length_le
  obtain ⟨rest, hcall, h⟩ := Option.bind_eq_some_iff.1 h
  obtain ⟨rest', hparen, h⟩ := Option.bind_eq_some_iff.1 h
  have hlong : rest.length < t.length := by
    cases hadd : after? "hook.Add" t with
    | some inner =>
      rw [hadd] at hcall
      cases hcall
      rw [after?_eq_some_iff.1 hadd, List.length_append]
      exact Nat.lt_add_of_pos_left (by decide)
    | none =>
      rw [hadd] at hcall
      rw [after?_eq_some_iff.1 (hcall : after? "hook.Run" t = some rest), List.length_append]
      exact Nat.lt_add_of_pos_left (by decide)
  have hrest := congrArg List.length (after?_eq_some_iff.1 hparen)
  rw [List.length_append] at hrest
  have h₁ := hblanks rest
  have h₂ := hblanks rest'
  cases hname : trimStart rest' with
  | nil => simp [hname] at h
  | cons quote inner' =>
    rw [hname] at h h₂
    simp only at h
    split at h
    · cases h
      rw [List.length_cons] at h₂
      omega
    · cases h

theorem closeName?_cons {name : Text} (hname : ∀ c ∈ name, isQuote c = false) {quote : Char}
    (hquote : isQuote quote = true) (rest : Text) :
    closeName? (name ++ quote :: rest) = if name.isEmpty then none else some (name, rest) := by
  have hall : ∀ c ∈ name, (!isQuote c) = true := fun c hc => by rw [hname c hc]; rfl
  unfold closeName?
  rw [List.dropWhile_append_of_pos hall, List.takeWhile_append_of_pos hall,
    List.dropWhile_cons_of_neg (by simp [hquote]), List.takeWhile_cons_of_neg (by simp [hquote]),
    List.append_nil]

theorem closeName?_append {inner : Text} (h : inner.any isQuote = true) (r : Text) :
    closeName? (inner ++ r) = (closeName? inner).map fun (name, rest) => (name, rest ++ r) := by
  rw [← List.isSome_find?] at h
  obtain ⟨quote, hfind⟩ := Option.isSome_iff_exists.1 h
  obtain ⟨hquote, name, rest, rfl, hname⟩ := List.find?_eq_some_iff_append.1 hfind
  have hname : ∀ c ∈ name, isQuote c = false := fun c hc => by simpa using hname c hc
  rw [List.append_assoc, List.cons_append, closeName?_cons hname hquote, closeName?_cons hname hquote]
  split <;> rfl

theorem length_of_closeName? {inner name rest : Text} (h : closeName? inner = some (name, rest)) :
    rest.length ≤ inner.length := by
  have hshort : (inner.dropWhile fun c => !isQuote c).length ≤ inner.length :=
    (List.dropWhile_suffix _).length_le
  unfold closeName? at h
  split at h
  · cases h
  · rename_i hdrop
    split at h
    · cases h
    · cases h
      rw [hdrop, List.length_cons] at hshort
      omega

theorem readHookUse_takes : Recognizer.Takes readHookUse := by
  intro before t item taken h
  unfold readHookUse at h
  cases huse : hookUse? t with
  | none =>
    rw [huse] at h
    cases h
  | some found =>
    obtain ⟨name, rest⟩ := found
    rw [huse] at h
    cases h
    rw [hookUse?_eq] at huse
    obtain ⟨inner, hopen, hclose⟩ := Option.bind_eq_some_iff.1 huse
    have hopen := length_of_opensName? hopen
    have hclose := length_of_closeName? hclose
    refine ⟨?_, t.drop (t.length - rest.length), (List.take_append_drop _ t).symm⟩
    intro hnil
    have hlen := congrArg List.length hnil
    rw [List.length_take, List.length_nil] at hlen
    omega

theorem readHookUse_ne_never (before : Option Char) (t : Text) : readHookUse before t ≠ .never := by
  unfold readHookUse
  cases hookUse? t <;> simp [Reading.ofOption]

/-! ## Calls that are closed -/

/-- Whether every call in a text that opens a name closes it in the text. -/
def callsClosed : Text → Bool
  | [] => true
  | c :: r => ((opensName? (c :: r)).all fun inner => inner.any isQuote) && callsClosed r

theorem callsClosed_append {u x : Text} (h : callsClosed (u ++ x) = true) : callsClosed x = true := by
  induction u with
  | nil => exact h
  | cons c u ih =>
    rw [List.cons_append, callsClosed, Bool.and_eq_true] at h
    exact ih h.2

/-- Reading a text in which all names are closed does not look beyond a dash. -/
theorem readHookUse_dash {x : Text} (h : callsClosed x = true) (hne : x ≠ []) (before : Option Char)
    (r : Text) : readHookUse before (x ++ '-' :: r) = readHookUse before x := by
  obtain ⟨c, x, rfl⟩ := List.exists_cons_of_ne_nil hne
  rw [callsClosed, Bool.and_eq_true] at h
  unfold readHookUse
  rw [hookUse?_eq, hookUse?_eq, opensName?_dash]
  cases hopen : opensName? (c :: x) with
  | none => rfl
  | some inner =>
    have hclosed : inner.any isQuote = true := by simpa [hopen] using h.1
    simp only [Option.map_some, Option.bind_some, closeName?_append hclosed]
    cases hclose : closeName? inner with
    | none => rfl
    | some found =>
      obtain ⟨name, rest⟩ := found
      simp only [Option.map_some]
      congr 3
      have hlen : (c :: x ++ '-' :: r).length - (rest ++ '-' :: r).length = (c :: x).length - rest.length := by
        rw [List.length_append, List.length_append]
        omega
      rw [hlen, List.take_append_of_le_length (Nat.sub_le _ _)]

/-! ## Around a block -/

/-- No use that starts in the block between two texts ends behind the block. -/
def Contained (pre body post : Text) : Prop :=
  ∀ use ∈ scan readHookUse (pre ++ (ofBody body ++ post)), byteLength pre ≤ use.start →
    use.start < byteLength (pre ++ ofBody body) → use.stop ≤ byteLength (pre ++ ofBody body)

instance (pre body post : Text) : Decidable (Contained pre body post) :=
  inferInstanceAs (Decidable (∀ use ∈ scan readHookUse (pre ++ (ofBody body ++ post)),
    byteLength pre ≤ use.start → use.start < byteLength (pre ++ ofBody body) →
      use.stop ≤ byteLength (pre ++ ofBody body)))

/-- The uses outside the blocks of a source are those before a block and those after it. -/
theorem outside_hookUses {pre body post : Text} (hpre : Balanced pre) (hbody : FirstAtEnd closing body)
    (hclosed : callsClosed pre = true) (hcontained : Contained pre body post) :
    outside readHookUse (pre ++ (ofBody body ++ post)) = outside readHookUse pre ++
      (outside readHookUse post).map (Found.shift (byteLength (pre ++ ofBody body))) := by
  have hfront : ∀ u x, pre = u ++ x → x ≠ [] → ∀ before,
      readHookUse before (x ++ (ofBody body ++ post)) = readHookUse before x :=
    fun u x hx hne before => readHookUse_dash (callsClosed_append (hx ▸ hclosed)) hne before _
  have hparts : scan readHookUse (pre ++ (ofBody body ++ post)) = scan readHookUse pre ++
      scanFrom readHookUse (lastOf none pre) (byteLength pre) 0 (ofBody body ++ post) := by
    rw [scan, scanFrom_append_of_agree readHookUse_takes readHookUse_ne_never hfront (Nat.zero_le _),
      Nat.zero_add]
    rfl
  have hstop : ∀ use ∈ scanFrom readHookUse (lastOf none pre) (byteLength pre) 0 (ofBody body ++ post),
      use.start < byteLength pre + byteLength (ofBody body) →
        use.stop ≤ byteLength pre + byteLength (ofBody body) := by
    intro use huse hlt
    have hbounds := (readAt_of_mem readHookUse_takes huse).bounds
    rw [← byteLength_append] at hlt ⊢
    refine hcontained use ?_ hbounds.1 hlt
    rw [hparts]
    exact List.mem_append_right _ huse
  obtain ⟨inner, hinner, hplace⟩ :=
    scanFrom_append_of_stop readHookUse_takes readHookUse_ne_never (Nat.zero_le _) hstop
  have hback : ∀ t, readHookUse (lastOf (lastOf none pre) (ofBody body)) t = readHookUse none t :=
    fun _ => rfl
  rw [scanFrom_eq_scan hback] at hinner
  rw [hinner, ← byteLength_append] at hparts
  rw [← byteLength_append] at hplace
  exact outside_around readHookUse_takes hpre hbody hparts hplace

theorem hooksUsed_eq (source : Text) :
    hooksUsed source (extract source) = .ofList ((outside readHookUse source).map (·.item)) := rfl

/-- Other words in a comment leave the uses of hooks as they are, provided that no name runs from the
code before it into the comment, or from the comment into the code after it. -/
theorem hooksUsed_of_rewritten {pre body post body' : Text} (hblock : BlockBetween pre body post)
    (hbody' : FirstAtEnd closing body') (hclosed : callsClosed pre = true)
    (hsaid : Contained pre body post) (hother : Contained pre body' post) :
    hooksUsed (pre ++ (ofBody body ++ post)) (extract (pre ++ (ofBody body ++ post))) =
      hooksUsed (pre ++ (ofBody body' ++ post)) (extract (pre ++ (ofBody body' ++ post))) := by
  obtain ⟨hpre, hbody⟩ := hblock.balanced
  rw [hooksUsed_eq, hooksUsed_eq, outside_hookUses hpre hbody hclosed hsaid,
    outside_hookUses hpre hbody' hclosed hother]
  simp only [List.map_append, List.map_map]
  rfl

/-- A comment with a call of its own, and another with half of one, leave the calls around them. -/
theorem hooksUsed_of_rewritten_sample :
    let pre : Text := "hook.Add('A', f)\n"
    let post : Text := "\nhook.Run(\"B\")"
    let said : Text := " hook.Run(\"C\") "
    let other : Text := " hook.Add(name, "
    BlockBetween pre said post ∧
      (hooksUsed (pre ++ (ofBody other ++ post)) (extract (pre ++ (ofBody other ++ post)))).names =
        (["A", "B"] : List Text) := by
  intro pre post said other
  have hblock : BlockBetween pre said post := by decide
  have hother : Contained pre other post := by decide
  refine ⟨hblock, ?_⟩
  rw [← hooksUsed_of_rewritten hblock (by decide) (by decide) (by decide) hother]
  decide

/-- A name that a comment leaves open takes a call out of the code after the comment. -/
theorem comment_hides_use :
    let post : Text := " hook.Run(\"Real\")"
    let said : Text := " nothing "
    let other : Text := " hook.Add(\" "
    BlockBetween [] said post ∧ FirstAtEnd closing other ∧ callsClosed post = true ∧
      extract post = [] ∧
      (hooksUsed (ofBody said ++ post) (extract (ofBody said ++ post))).names =
        (["Real"] : List Text) ∧
      (hooksUsed (ofBody other ++ post) (extract (ofBody other ++ post))).names = [] := by
  decide

end LuaReference.Site
