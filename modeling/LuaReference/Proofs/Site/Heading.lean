import LuaReference.Proofs.Site.Declaration

/-!
# Where functions are declared

* `FunctionHead head name` : the words that declare a function, from `function` to the parenthesis;
* `Heading d head` : the same with or without `local` before them;
* `readDeclared?_heading`, `heading_of_readDeclared?` : such words are read, and nothing else;
* `FunctionHead.append_inj`, `Heading.inside` : two of them that overlap end at the same place, and one
  of them is local;
* `DeclaredAt source o name` : a function that is not local is declared at an offset;
* `exists_found_iff` : a scan finds just the functions that are declared.
-/

namespace LuaReference.Site

open Text Comment

/-! ## Heads -/

/-- One or more blanks. -/
def IsGap (t : Text) : Prop := t ≠ [] ∧ ∀ c ∈ t, isBlank c = true

/-- The words that declare a function: `function`, a gap, its name, and a parenthesis after blanks. -/
def FunctionHead (head name : Text) : Prop :=
  ∃ gap space, head = "function" ++ (gap ++ (name ++ (space ++ ['(']))) ∧ IsGap gap ∧
    name ≠ [] ∧ (∀ c ∈ name, isNameChar c = true) ∧ ∀ c ∈ space, isBlank c = true

/-- The words that declare a function, with `local` and a gap before them where it is local. -/
inductive Heading : Declared → Text → Prop
  | plain {head name : Text} (h : FunctionHead head name) : Heading ⟨name, false⟩ head
  | inner {gap head name : Text} (hgap : IsGap gap) (h : FunctionHead head name) :
      Heading ⟨name, true⟩ ("local" ++ (gap ++ head))

theorem isBlank_of_isNameChar {c : Char} (h : isNameChar c = true) : isBlank c = false := by
  simp only [isNameChar, Bool.or_eq_true, beq_iff_eq] at h
  rcases h with (hword | rfl) | rfl
  · exact isBlank_of_isWord hword
  · decide
  · decide

theorem not_isNameChar_of_isBlank {c : Char} (h : isBlank c = true) : isNameChar c = false := by
  cases hname : isNameChar c with
  | false => rfl
  | true =>
    rw [isBlank_of_isNameChar hname] at h
    cases h

/-! ## Reading heads -/

theorem wordThenGap?_append {gap : Text} (hgap : IsGap gap) (word : Text) {d : Char}
    (hd : isBlank d = false) (r : Text) :
    wordThenGap? word (word ++ (gap ++ d :: r)) = some (word ++ gap, d :: r) := by
  obtain ⟨htake, hdrop⟩ := span_run hgap.2 hd r
  have hfull : ¬ gap.isEmpty = true := by simpa using hgap.1
  unfold wordThenGap?
  rw [after?_append]
  simp only [Option.bind_eq_bind, Option.bind_some, htake, hdrop]
  rw [if_neg hfull]
  rfl

theorem gap_of_wordThenGap? {word t front rest : Text} (h : wordThenGap? word t = some (front, rest)) :
    ∃ gap, IsGap gap ∧ front = word ++ gap := by
  unfold wordThenGap? at h
  obtain ⟨inner, -, h⟩ := Option.bind_eq_some_iff.1 h
  simp only at h
  split at h
  · cases h
  · rename_i hfull
    obtain ⟨rfl, -⟩ := Prod.mk.inj (Option.some.inj h)
    refine ⟨inner.takeWhile isBlank, ⟨by simpa using hfull, ?_⟩, rfl⟩
    intro c hc
    exact List.all_eq_true.1 List.all_takeWhile c hc

theorem readFunction?_head {head name : Text} (h : FunctionHead head name) (rest : Text) :
    readFunction? (head ++ rest) = some (name, head) := by
  obtain ⟨gap, space, rfl, hgap, hne, hname, hspace⟩ := h
  obtain ⟨c, tail, rfl⟩ := List.exists_cons_of_ne_nil hne
  have hfront : wordThenGap? "function" ("function" ++ (gap ++ (c :: tail ++ (space ++ ['(']))) ++ rest) =
      some ("function" ++ gap, c :: tail ++ (space ++ '(' :: rest)) := by
    have hc := isBlank_of_isNameChar (hname c List.mem_cons_self)
    simpa using wordThenGap?_append hgap "function" hc (tail ++ (space ++ '(' :: rest))
  -- the name ends at a blank or at the parenthesis
  have hafter : ∀ d s, space ++ '(' :: rest = d :: s → isNameChar d = false := by
    intro d s heq
    cases space with
    | nil =>
      obtain ⟨rfl, -⟩ := List.cons.inj heq
      decide +kernel
    | cons e space =>
      obtain ⟨rfl, -⟩ := List.cons.inj heq
      exact not_isNameChar_of_isBlank (hspace e List.mem_cons_self)
  obtain ⟨d, s, hds⟩ := List.exists_cons_of_ne_nil (show space ++ '(' :: rest ≠ [] by simp)
  obtain ⟨htake, hdrop⟩ := span_run hname (hafter d s hds) s
  rw [← hds] at htake hdrop
  obtain ⟨hblank, hparen⟩ := span_run hspace (show isBlank '(' = false by decide) rest
  unfold readFunction?
  rw [hfront]
  simp only [Option.bind_eq_bind, Option.bind_some, htake, hdrop, hblank, hparen]
  have hopen : after? "(" ('(' :: rest) = some rest := after?_append ['('] rest
  rw [hopen]
  simp

theorem head_of_readFunction? {t name taken : Text} (h : readFunction? t = some (name, taken)) :
    FunctionHead taken name := by
  unfold readFunction? at h
  obtain ⟨⟨front, rest⟩, hfront, h⟩ := Option.bind_eq_some_iff.1 h
  obtain ⟨gap, hgap, rfl⟩ := gap_of_wordThenGap? hfront
  simp only at h
  split at h
  · cases h
  · rename_i hfull
    obtain ⟨inner, -, h⟩ := Option.bind_eq_some_iff.1 h
    obtain ⟨rfl, rfl⟩ := Prod.mk.inj (Option.some.inj h)
    refine ⟨gap, (rest.dropWhile isNameChar).takeWhile isBlank, ?_, hgap, by simpa using hfull, ?_, ?_⟩
    · simp only [List.append_assoc]
      rfl
    · intro c hc
      exact List.all_eq_true.1 List.all_takeWhile c hc
    · intro c hc
      exact List.all_eq_true.1 List.all_takeWhile c hc

theorem readDeclared?_heading {d : Declared} {head : Text} (h : Heading d head) (rest : Text) :
    readDeclared? (head ++ rest) = some (d, head) := by
  unfold readDeclared?
  cases h with
  | @plain head name h =>
    have hlocal : wordThenGap? "local" (head ++ rest) = none := by
      obtain ⟨gap, space, rfl, -⟩ := h
      rfl
    rw [hlocal]
    simp [readFunction?_head h]
  | @inner gap head name hgap h =>
    have hlocal : wordThenGap? "local" ("local" ++ (gap ++ head) ++ rest) =
        some ("local" ++ gap, head ++ rest) := by
      obtain ⟨gap', space, rfl, -⟩ := h
      simpa using wordThenGap?_append hgap "local" (show isBlank 'f' = false by decide)
        ("unction" ++ (gap' ++ (name ++ (space ++ ['(']))) ++ rest)
    rw [hlocal]
    simp [readFunction?_head h]

theorem heading_of_readDeclared? {t : Text} {d : Declared} {taken : Text}
    (h : readDeclared? t = some (d, taken)) : Heading d taken := by
  unfold readDeclared? at h
  cases hlocal : wordThenGap? "local" t with
  | none =>
    rw [hlocal] at h
    obtain ⟨⟨name, head⟩, hhead, heq⟩ := Option.map_eq_some_iff.1 h
    obtain ⟨rfl, rfl⟩ := Prod.mk.inj heq
    exact .plain (head_of_readFunction? hhead)
  | some found =>
    obtain ⟨front, inner⟩ := found
    rw [hlocal] at h
    obtain ⟨⟨name, head⟩, hhead, heq⟩ := Option.map_eq_some_iff.1 h
    obtain ⟨rfl, rfl⟩ := Prod.mk.inj heq
    obtain ⟨gap, hgap, rfl⟩ := gap_of_wordThenGap? hlocal
    rw [List.append_assoc]
    exact .inner hgap (head_of_readFunction? hhead)

theorem readDeclaration_iff {before : Option Char} {t : Text} {d : Declared} {head : Text} :
    readDeclaration before t = .present d head ↔
      startsAfter before = true ∧ Heading d head ∧ ∃ rest, t = head ++ rest := by
  unfold readDeclaration
  constructor
  · intro h
    split at h
    · rename_i hstart
      cases hread : readDeclared? t with
      | none =>
        rw [hread] at h
        cases h
      | some found =>
        rw [hread] at h
        obtain ⟨rfl, rfl⟩ := Reading.present.inj h
        exact ⟨hstart, heading_of_readDeclared? hread, (readDeclared?_takes hread).2⟩
    · cases h
  · rintro ⟨hstart, hhead, rest, rfl⟩
    rw [if_pos hstart, readDeclared?_heading hhead]
    rfl

/-! ## Heads that overlap -/

/-- A run at the end of a text starts where the characters of other classes end. -/
theorem append_run_inj {p : Char → Bool} {x y run run' : Text} (hrun : ∀ c ∈ run, p c = true)
    (hrun' : ∀ c ∈ run', p c = true) (hx : ∀ c, x.getLast? = some c → p c = false)
    (hy : ∀ c, y.getLast? = some c → p c = false) (h : x ++ run = y ++ run') : x = y ∧ run = run' := by
  -- what stands between the two starts belongs to a run and ends a text that does not end in one
  have hnil : ∀ {x w run' : Text}, (∀ c ∈ w ++ run', p c = true) →
      (∀ c, (x ++ w).getLast? = some c → p c = false) → w = [] := by
    intro x w run' hall hlast
    rcases List.eq_nil_or_concat w with hw | ⟨front, c, rfl⟩
    · exact hw
    · have htrue := hall c (by simp)
      rw [hlast c (by simp)] at htrue
      cases htrue
  rcases List.append_eq_append_iff.1 h with ⟨w, rfl, rfl⟩ | ⟨w, rfl, rfl⟩
  · obtain rfl := hnil hrun hy
    simp
  · obtain rfl := hnil hrun' hx
    simp

theorem isBlank_of_getLast?_name {x name : Text} {c : Char} (hne : name ≠ [])
    (hname : ∀ c ∈ name, isNameChar c = true) (h : (x ++ name).getLast? = some c) : isBlank c = false := by
  rw [List.getLast?_append_of_ne_nil _ hne] at h
  exact isBlank_of_isNameChar (hname c (List.mem_of_getLast? h))

theorem IsGap.isNameChar_of_getLast? {x gap : Text} {c : Char} (hgap : IsGap gap)
    (h : (x ++ gap).getLast? = some c) : isNameChar c = false := by
  rw [List.getLast?_append_of_ne_nil _ hgap.1] at h
  exact not_isNameChar_of_isBlank (hgap.2 c (List.mem_of_getLast? h))

/-- Where two gaps that follow a word end at the same place, they are the same. -/
theorem IsGap.append_inj {x y word gap gap' : Text} {c : Char} (hlast : word.getLast? = some c)
    (hc : isBlank c = false) (hgap : IsGap gap) (hgap' : IsGap gap')
    (h : x ++ word ++ gap = y ++ word ++ gap') : x = y ∧ gap = gap' := by
  have hword : ∀ (x : Text) d, (x ++ word).getLast? = some d → isBlank d = false := by
    intro x d hd
    rw [List.getLast?_append, hlast, Option.some_or] at hd
    rwa [← Option.some.inj hd]
  obtain ⟨hfront, hsame⟩ := append_run_inj hgap.2 hgap'.2 (hword x) (hword y) h
  exact ⟨List.append_cancel_right hfront, hsame⟩

/-- Where two heads end at the same place, they are the same. -/
theorem FunctionHead.append_inj {x y head head' name name' : Text} (h : FunctionHead head name)
    (h' : FunctionHead head' name') (heq : x ++ head = y ++ head') : x = y ∧ head = head' := by
  obtain ⟨gap, space, rfl, hgap, hne, hname, hspace⟩ := h
  obtain ⟨gap', space', rfl, hgap', hne', hname', hspace'⟩ := h'
  -- from the parenthesis back: the blanks, the name, the gap, the word
  simp only [← List.append_assoc] at heq
  obtain ⟨hnamed, rfl⟩ := append_run_inj hspace hspace'
    (fun _ hc => isBlank_of_getLast?_name hne hname hc)
    (fun _ hc => isBlank_of_getLast?_name hne' hname' hc) (List.append_cancel_right heq)
  obtain ⟨hspaced, rfl⟩ := append_run_inj hname hname' (fun _ hc => hgap.isNameChar_of_getLast? hc)
    (fun _ hc => hgap'.isNameChar_of_getLast? hc) hnamed
  obtain ⟨rfl, rfl⟩ := IsGap.append_inj (c := 'n') rfl (by decide) hgap hgap' hspaced
  exact ⟨rfl, rfl⟩

theorem FunctionHead.ends {head name : Text} (h : FunctionHead head name) :
    ∃ front, head = front ++ ['('] ∧ '(' ∉ front := by
  obtain ⟨gap, space, rfl, hgap, -, hname, hspace⟩ := h
  refine ⟨"function" ++ (gap ++ (name ++ space)), by simp only [List.append_assoc], ?_⟩
  have hparen : isBlank '(' = false ∧ isNameChar '(' = false := by decide +kernel
  simp only [List.mem_append, not_or]
  refine ⟨by decide, fun hmem => ?_, fun hmem => ?_, fun hmem => ?_⟩
  · exact absurd (hgap.2 _ hmem) (by simp [hparen.1])
  · exact absurd (hname _ hmem) (by simp [hparen.2])
  · exact absurd (hspace _ hmem) (by simp [hparen.1])

theorem Heading.ends {d : Declared} {head : Text} (h : Heading d head) :
    ∃ front, head = front ++ ['('] ∧ '(' ∉ front := by
  cases h with
  | plain h => exact h.ends
  | @inner gap head name hgap h =>
    obtain ⟨front, rfl, hfront⟩ := h.ends
    refine ⟨"local" ++ (gap ++ front), by simp only [List.append_assoc], ?_⟩
    simp only [List.mem_append, not_or]
    refine ⟨by decide, fun hmem => ?_, hfront⟩
    exact absurd (hgap.2 _ hmem) (by decide)

/-- A heading that starts within another one ends where that one does: each of them has one parenthesis,
at its end. -/
theorem Heading.ends_together {d d' : Declared} {head head' a b v v' : Text} (h : Heading d head)
    (h' : Heading d' head') (hb : b ≠ []) (hhead : head = a ++ b) (hsame : b ++ v = head' ++ v') :
    b = head' := by
  have hrun : ∀ {front : Text} (r : Text), '(' ∉ front → (front ++ '(' :: r).takeWhile (· != '(') = front := by
    intro front r hnot
    refine (span_run ?_ (by decide) r).1
    intro c hc
    exact bne_iff_ne.2 fun h => hnot (h ▸ hc)
  obtain ⟨front, hfront, hnot⟩ := h.ends
  obtain ⟨front', rfl, hnot'⟩ := h'.ends
  obtain ⟨y, c, rfl⟩ := (List.eq_nil_or_concat b).resolve_left hb
  rw [List.concat_eq_append] at hhead hsame ⊢
  rw [hfront, ← List.append_assoc] at hhead
  obtain ⟨rfl, hc⟩ := List.append_inj' hhead rfl
  obtain rfl : '(' = c := by simpa using hc
  simp only [List.append_assoc, List.singleton_append] at hsame
  have hy := hrun v fun hmem => hnot (List.mem_append_right a hmem)
  rw [hsame, hrun v' hnot'] at hy
  rw [hy]

/-- A heading that starts within another one is that of the same function, without its `local`. -/
theorem Heading.inside {d d' : Declared} {head head' a b v v' : Text} (h : Heading d head)
    (h' : Heading d' head') (ha : a ≠ []) (hb : b ≠ []) (hhead : head = a ++ b)
    (hsame : b ++ v = head' ++ v') :
    d'.isLocal = false ∧ ∃ gap, IsGap gap ∧ a = "local" ++ gap := by
  obtain rfl := h.ends_together h' hb hhead hsame
  cases h with
  | plain h =>
    cases h' with
    | plain h' =>
      obtain ⟨hnil, -⟩ := FunctionHead.append_inj (x := []) h h' hhead
      exact absurd hnil.symm ha
    | @inner gap' head' name' hgap' h' =>
      rw [← List.append_assoc, ← List.append_assoc] at hhead
      obtain ⟨hnil, -⟩ := FunctionHead.append_inj (x := []) h h' hhead
      simp at hnil
  | @inner gap head name hgap h =>
    rw [← List.append_assoc] at hhead
    cases h' with
    | plain h' =>
      obtain ⟨rfl, -⟩ := h.append_inj h' hhead
      exact ⟨rfl, gap, hgap, rfl⟩
    | @inner gap' head' name' hgap' h' =>
      rw [← List.append_assoc, ← List.append_assoc] at hhead
      obtain ⟨hfront, -⟩ := h.append_inj h' hhead
      obtain ⟨hnil, -⟩ := IsGap.append_inj (x := []) (c := 'l') rfl (by decide) hgap hgap' hfront
      exact absurd hnil.symm ha

/-! ## Declarations in a source -/

/-- A text ends with `local` and a gap. -/
def EndsInLocal (front : Text) : Prop :=
  ∃ outer gap, IsGap gap ∧ front = outer ++ ("local" ++ gap) ∧ startsAfter outer.getLast? = true

/-- The words that declare a function stand at an offset of a source, in front of which no word is
cut and no `local` stands. -/
def DeclaredAt (source : Text) (o : Nat) (name : Text) : Prop :=
  ∃ front head rest, source = front ++ (head ++ rest) ∧ byteLength front = o ∧ FunctionHead head name ∧
    startsAfter front.getLast? = true ∧ ¬ EndsInLocal front

/-- What was found is a heading at its place. -/
theorem heading_of_mem {source : Text} {f : Found Declared} (h : f ∈ scan readDeclaration source) :
    ∃ front head rest, source = front ++ (head ++ rest) ∧ f.start = byteLength front ∧
      f.stop = byteLength (front ++ head) ∧ startsAfter front.getLast? = true ∧ Heading f.item head := by
  obtain ⟨front, head, rest, hsource, -, hstart, hstop, hread⟩ := readAt_of_mem readDeclaration_takes h
  obtain ⟨hafter, hhead, -⟩ := readDeclaration_iff.1 hread
  rw [Nat.zero_add] at hstart
  refine ⟨front, head, rest, hsource, hstart, ?_, by simpa [lastOf] using hafter, hhead⟩
  rw [hstop, hstart, byteLength_append]

/-- A heading is found, unless it starts within the heading of the same function as a local one. -/
theorem found_of_heading {front head : Text} {d : Declared}
    (hafter : startsAfter front.getLast? = true) (h : Heading d head) (rest : Text) :
    (∃ f ∈ scan readDeclaration (front ++ (head ++ rest)), f.start = byteLength front ∧
        f.stop = byteLength (front ++ head) ∧ f.item = d) ∨
      d.isLocal = false ∧ EndsInLocal front := by
  have hread : readDeclaration (lastOf none front) (head ++ rest) = .present d head :=
    readDeclaration_iff.2 ⟨by simpa [lastOf] using hafter, h, rest, rfl⟩
  rcases found_or_inside readDeclaration_takes readDeclaration_ne_never hread 0 with
    hfound | ⟨f, hf, hlt, hover⟩
  · refine Or.inl ⟨_, hfound, by simp, by simp [byteLength_append], rfl⟩
  · right
    rw [Nat.zero_add] at hlt hover
    obtain ⟨u, head', v, hsource, hstart, hstop, hafter', hhead'⟩ := heading_of_mem hf
    -- the heading that reaches over this place starts before it and ends after it
    rw [hstart] at hlt
    rw [hstop] at hover
    obtain ⟨a, rfl, ha⟩ := append_of_byteLength_le hsource.symm (Nat.le_of_lt hlt)
    rw [← List.append_assoc] at hsource
    rw [byteLength_append, byteLength_append] at hover
    obtain ⟨b, hb, hsame⟩ := append_of_byteLength_le ha.symm (by omega)
    have hane : a ≠ [] := by
      rintro rfl
      rw [List.append_nil] at hlt
      omega
    have hbne : b ≠ [] := by
      rintro rfl
      rw [List.append_nil] at hb
      rw [hb] at hover
      omega
    obtain ⟨hplain, gap, hgap, rfl⟩ := hhead'.inside h hane hbne hb hsame.symm
    exact ⟨hplain, u, gap, hgap, rfl, hafter'⟩

/-- A scan finds just the functions that are declared. -/
theorem exists_found_iff {source : Text} {o : Nat} {name : Text} :
    (∃ f ∈ scan readDeclaration source, f.start = o ∧ f.item = ⟨name, false⟩) ↔
      DeclaredAt source o name := by
  constructor
  · rintro ⟨f, hf, rfl, hitem⟩
    obtain ⟨front, head, rest, rfl, hstart, hstop, hafter, hhead⟩ := heading_of_mem hf
    rw [hitem] at hhead
    obtain ⟨⟩ := hhead
    rename_i hhead
    refine ⟨front, head, rest, rfl, hstart.symm, hhead, hafter, ?_⟩
    -- with a `local` before it, the local heading would have been found and reach over this one
    rintro ⟨outer, gap, hgap, rfl, houter⟩
    have hlocal : Heading ⟨name, true⟩ ("local" ++ (gap ++ head)) := .inner hgap hhead
    rcases found_of_heading houter hlocal rest with ⟨f', hf', hstart', hstop', -⟩ | ⟨hfalse, -⟩
    · have hsame : outer ++ ("local" ++ (gap ++ head) ++ rest) = outer ++ ("local" ++ gap) ++ (head ++ rest) := by
        simp only [List.append_assoc]
      rw [hsame] at hf'
      have hgap' : 0 < byteLength ("local" ++ gap) := byteLength_pos (by simp)
      have hhead' : 0 < byteLength head := by
        obtain ⟨front, rfl, -⟩ := hhead.ends
        exact byteLength_pos (by simp)
      simp only [byteLength_append] at hstart hstop hstop' hgap'
      rcases apart_of_mem readDeclaration_takes hf hf' with rfl | hle | hle <;> omega
    · cases hfalse
  · rintro ⟨front, head, rest, rfl, rfl, hhead, hafter, hlocal⟩
    rcases found_of_heading hafter (.plain hhead) rest with ⟨f, hf, hstart, -, hitem⟩ | ⟨-, hends⟩
    · exact ⟨f, hf, hstart, hitem⟩
    · exact absurd hends hlocal

end LuaReference.Site
