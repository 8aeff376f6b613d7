import LuaReference.Proofs.Entry.WellFormed
import LuaReference.Proofs.Text.LineEnd

/-!
# The examples of a section

The reader of examples keeps one example open, which labels, fences and the end of the section create
and close. Its code and the number of examples are a matter of how many fences stand before each line.

* `Example.numbered n ls` : the lines with the number of fences before them, of which `n` came earlier;
* `Example.codeOf`, `Example.countOf` : the code of some lines, and how many examples they make up;
* `Entry.ExampleStep` : what one line does to the example that is open, `Entry.Reader.feed_examples` : a
  line that opens no section does that;
* `Entry.ExampleStep.parity`, `code_added`, `length_added` : what a step keeps and what it adds;
* `Entry.Reader.code_foldl_feed`, `length_foldl_feed` : what all lines add;
* `Entry.examples_of_section` : the code of a section and the number of its examples.
-/

namespace LuaReference

open Text

namespace Example

/-! ## Lines by the fences before them -/

/-- Whether a line begins or ends a fence. -/
def isFenceLine (raw : Text) : Bool := Entry.Reader.isFence (trim raw)

/-- A line that is kept as code between fences. -/
def IsCode (raw : Text) : Prop :=
  isFenceLine raw = false ∧ Entry.Reader.isDelimiter (trim raw) = false ∧ ¬ SetsLevel (trim raw)

instance (raw : Text) : Decidable (IsCode raw) := inferInstanceAs (Decidable (_ ∧ _))

/-- A line that can be read as a label and is no marker of the comment. -/
def isLabelLine (raw : Text) : Bool :=
  !Entry.Reader.isDelimiter (trim raw) && (label? (trim raw)).isSome

/-- A line with a label that is no fence. -/
def startsExample (raw : Text) : Bool := !isFenceLine raw && isLabelLine raw

/-- The lines with the number of fences before them, of which `n` came earlier. -/
def numbered (n : Nat) (ls : List Text) : List (Text × Nat) :=
  ls.mapIdx fun i line => (line, n + (ls.take i).countP isFenceLine)

/-- What a line between fences leaves in the code: itself, without the blanks at its end. -/
def codeAt : Text × Nat → Option Text
  | (line, fences) => if fences % 2 = 1 ∧ IsCode line then some (trimEnd line) else none

/-- The code of some lines. -/
def codeOf (n : Nat) (ls : List Text) : List Text := (numbered n ls).filterMap codeAt

/-- Whether a line stands outside the fences and has a label. -/
def labelAt (isLabel : Text → Bool) : Text × Nat → Bool
  | (line, fences) => decide (fences % 2 = 0) && isLabel line

/-- Whether a fence comes before the first label. -/
def fenceFirst (isLabel : Text → Bool) (n : Nat) (ls : List Text) : Bool :=
  ((numbered n ls).takeWhile fun found => !labelAt isLabel found).any fun found => isFenceLine found.1

/-- One example for every label, and one more for a fence before them all. -/
def countOf (isLabel : Text → Bool) (n : Nat) (ls : List Text) : Nat :=
  (numbered n ls).countP (labelAt isLabel) + if fenceFirst isLabel n ls then 1 else 0

theorem numbered_cons (n : Nat) (line : Text) (ls : List Text) :
    numbered n (line :: ls) =
      (line, n) :: numbered (n + if isFenceLine line then 1 else 0) ls := by
  unfold numbered
  rw [List.mapIdx_cons]
  congr 1
  apply congrArg (fun f => List.mapIdx f ls)
  funext i found
  rw [List.take_succ_cons, List.countP_cons, Nat.add_assoc, Nat.add_comm (List.countP _ _)]

theorem codeOf_cons (n : Nat) (line : Text) (ls : List Text) :
    codeOf n (line :: ls) =
      (codeAt (line, n)).toList ++ codeOf (n + if isFenceLine line then 1 else 0) ls := by
  unfold codeOf
  rw [numbered_cons, List.filterMap_cons]
  cases codeAt (line, n) <;> rfl

section Count
variable (isLabel : Text → Bool) (n : Nat) (line : Text) (ls : List Text)

theorem countP_labelAt_cons :
    (numbered n (line :: ls)).countP (labelAt isLabel) =
      (if labelAt isLabel (line, n) then 1 else 0) +
        (numbered (n + if isFenceLine line then 1 else 0) ls).countP (labelAt isLabel) := by
  rw [numbered_cons, List.countP_cons, Nat.add_comm]

theorem fenceFirst_cons :
    fenceFirst isLabel n (line :: ls) =
      (!labelAt isLabel (line, n) &&
        (isFenceLine line || fenceFirst isLabel (n + if isFenceLine line then 1 else 0) ls)) := by
  unfold fenceFirst
  rw [numbered_cons, List.takeWhile_cons]
  cases labelAt isLabel (line, n) <;> simp

end Count

end Example

/-! ## One line -/

namespace Entry

open Example

/-- Whether the example that is open is inside its fence. -/
def isInside : Option OpenExample → Bool
  | none => false
  | some ex => ex.inCode

/-- What a line does to the entry and to the example that is open. -/
inductive ExampleStep (raw : Text) : Entry → Option OpenExample → Entry → Option OpenExample → Prop
  /-- A fence without a label opens an example of its own. -/
  | opens {e : Entry} (hfence : isFenceLine raw = true) :
      ExampleStep raw e none e (some { label := defaultLabel, inCode := true })
  /-- A fence switches between code and text. -/
  | turns {e : Entry} {ex : OpenExample} (hfence : isFenceLine raw = true) :
      ExampleStep raw e (some ex) e (some { ex with inCode := !ex.inCode })
  /-- A line of code. -/
  | code {e : Entry} {label : Text} {code : List Text} (hcode : IsCode raw) :
      ExampleStep raw e (some ⟨label, code, true⟩) e (some ⟨label, trimEnd raw :: code, true⟩)
  /-- A comment in the code that sets the level. -/
  | level {e : Entry} {label level : Text} {code : List Text} (hfence : isFenceLine raw = false)
      (hlevel : level? (trim raw) = some level) :
      ExampleStep raw e (some ⟨label, code, true⟩) e (some ⟨level, code, true⟩)
  /-- A label outside the code closes the example before it. -/
  | starts {e : Entry} {current : Option OpenExample} {label : Text} (hout : isInside current = false)
      (hlabel : startsExample raw = true) (hfound : label? (trim raw) = some label) :
      ExampleStep raw e current (e.close (.examples current)) (some { label, inCode := false })
  /-- Any other line. -/
  | passes {e : Entry} {current : Option OpenExample} (hfence : isFenceLine raw = false)
      (hcode : isInside current = true → ¬ IsCode raw)
      (hlabel : isInside current = false → startsExample raw = false) :
      ExampleStep raw e current e current

namespace Reader

theorem not_isDelimiter_of_fence {raw : Text} (h : isFenceLine raw = true) :
    isDelimiter (trim raw) = false := by
  obtain ⟨rest, hrest⟩ := startsWith_iff.1 h
  rw [hrest]
  exact isDelimiter_cons (by decide) (by decide) (by decide) _

/-- A blank line is a step: code inside a fence, and nothing outside. -/
theorem blankLine_step {raw : Text} (hblank : trim raw = []) (e : Entry) (current : Option OpenExample) :
    ∃ e' current', blankLine ⟨e, .examples current⟩ = ⟨e', .examples current'⟩ ∧
      ExampleStep raw e current e' current' := by
  have hfence : isFenceLine raw = false := by rw [isFenceLine, hblank]; rfl
  have hlabel : startsExample raw = false := by
    have hnone : label? [] = none := rfl
    rw [startsExample, isLabelLine, hblank, hnone]
    simp
  rcases current with _ | ⟨label, code, _ | _⟩
  · exact ⟨e, none, rfl, .passes hfence (fun hin => nomatch hin) fun _ => hlabel⟩
  · exact ⟨e, _, rfl, .passes hfence (fun hin => nomatch hin) fun _ => hlabel⟩
  · have hend : trimEnd raw = [] := eq_nil_of_trim (trimEnd_trimEnd raw) (by rw [trim_trimEnd, hblank])
    refine ⟨e, _, rfl, ?_⟩
    rw [← hend]
    exact .code ⟨hfence, by rw [hblank]; rfl, by rw [hblank]; decide⟩

/-- Outside a fence only labels matter. -/
theorem exampleLine_outside {raw : Text} (hfence : isFenceLine raw = false)
    {current : Option OpenExample} (hout : isInside current = false) (e : Entry) :
    exampleLine e current raw (trim raw) =
      match label? (trim raw) with
      | some label => ⟨e.close (.examples current), .examples (some { label, inCode := false })⟩
      | none => ⟨e, .examples current⟩ := by
  have hno : ¬ isFence (trim raw) = true := Bool.eq_false_iff.1 hfence
  unfold exampleLine
  rw [if_neg hno]
  rcases current with _ | ⟨label, code, _ | _⟩
  · rfl
  · rfl
  · cases hout

/-- Inside a fence a line is kept or sets the level. -/
theorem exampleLine_inside {raw : Text} (hfence : isFenceLine raw = false) (e : Entry) (label : Text)
    (code : List Text) :
    exampleLine e (some ⟨label, code, true⟩) raw (trim raw) =
      match level? (trim raw) with
      | some level => ⟨e, .examples (some ⟨level, code, true⟩)⟩
      | none => ⟨e, .examples (some ⟨label, trimEnd raw :: code, true⟩)⟩ := by
  unfold exampleLine
  exact if_neg (Bool.eq_false_iff.1 hfence)

/-- Any other line that is no marker of the comment is a step. -/
theorem exampleLine_step {raw : Text} (hmark : isDelimiter (trim raw) = false) (e : Entry)
    (current : Option OpenExample) :
    ∃ e' current', exampleLine e current raw (trim raw) = ⟨e', .examples current'⟩ ∧
      ExampleStep raw e current e' current' := by
  by_cases hfence : isFenceLine raw = true
  · rcases current with _ | ex
    · exact ⟨e, _, if_pos hfence, .opens hfence⟩
    · exact ⟨e, _, if_pos hfence, .turns hfence⟩
  rw [Bool.not_eq_true] at hfence
  cases hin : isInside current with
  | false =>
    have hlabel : startsExample raw = (label? (trim raw)).isSome := by
      rw [startsExample, isLabelLine, hfence, hmark]
      rfl
    rw [exampleLine_outside hfence hin]
    cases hfound : label? (trim raw) with
    | some label => exact ⟨_, _, rfl, .starts hin (by rw [hlabel, hfound]; rfl) hfound⟩
    | none =>
      refine ⟨e, current, rfl, .passes hfence (fun hyes => ?_) fun _ => by rw [hlabel, hfound]; rfl⟩
      rw [hin] at hyes
      cases hyes
  | true =>
    rcases current with _ | ⟨label, code, _ | _⟩
    · cases hin
    · cases hin
    rw [exampleLine_inside hfence]
    cases hfound : level? (trim raw) with
    | some level => exact ⟨e, _, rfl, .level hfence hfound⟩
    | none =>
      refine ⟨e, _, rfl, .code ⟨hfence, hmark, ?_⟩⟩
      rw [← level?_isSome_iff, hfound]
      exact Bool.false_ne_true

/-- A line that opens no section is a step. -/
theorem feed_examples {raw : Text} (h : ¬ OpensSection raw) (e : Entry) (current : Option OpenExample) :
    ∃ e' current', feed ⟨e, .examples current⟩ raw = ⟨e', .examples current'⟩ ∧
      ExampleStep raw e current e' current' := by
  rcases feed_cases h ⟨e, .examples current⟩ with ⟨hblank, hfeed⟩ | ⟨-, hmark, hfeed⟩ | ⟨-, hmark, hfeed⟩
  · rw [hfeed]
    exact blankLine_step hblank e current
  · have hfence : isFenceLine raw = false := by
      rw [← Bool.not_eq_true]
      intro hfence
      rw [not_isDelimiter_of_fence hfence] at hmark
      cases hmark
    refine ⟨e, current, hfeed, .passes hfence (fun _ hcode => ?_) fun _ => ?_⟩
    · rw [hcode.2.1] at hmark
      cases hmark
    · rw [startsExample, isLabelLine, hmark]
      simp
  · rw [hfeed]
    exact exampleLine_step hmark e current

end Reader

/-! ## One step as parity, code and number -/

/-- The examples so far, with the one that is open. -/
def examplesSoFar (e : Entry) (current : Option OpenExample) : List Example :=
  (e.close (.examples current)).examples

@[simp] theorem examplesSoFar_none (e : Entry) : examplesSoFar e none = e.examples := rfl

@[simp] theorem examplesSoFar_some (e : Entry) (ex : OpenExample) :
    examplesSoFar e (some ex) = e.examples ++ [ex.close] := rfl

theorem not_startsExample_of_fence {raw : Text} (h : isFenceLine raw = true) : startsExample raw = false := by
  rw [startsExample, h]
  rfl

theorem not_isFenceLine_of_label {raw : Text} (h : startsExample raw = true) : isFenceLine raw = false := by
  cases hfence : isFenceLine raw with
  | false => rfl
  | true =>
    rw [not_startsExample_of_fence hfence] at h
    cases h

theorem not_isCode_of_fence {raw : Text} (h : isFenceLine raw = true) : ¬ IsCode raw := by
  intro hcode
  rw [hcode.1] at h
  cases h

theorem odd_succ (n : Nat) : decide ((n + 1) % 2 = 1) = !decide (n % 2 = 1) := by
  rw [← decide_not]
  exact decide_eq_decide.2 (by omega)

namespace ExampleStep
variable {raw : Text} {e e' : Entry} {current current' : Option OpenExample}
  (h : ExampleStep raw e current e' current') {n : Nat} (hn : isInside current = decide (n % 2 = 1))

include hn in
theorem codeAt_eq : codeAt (raw, n) =
    if isInside current = true ∧ IsCode raw then some (trimEnd raw) else none := by
  simp only [codeAt, hn, decide_eq_true_eq]

include hn in
theorem labelAt_eq (isLabel : Text → Bool) : labelAt isLabel (raw, n) = (!isInside current && isLabel raw) := by
  have heven : decide (n % 2 = 0) = !decide (n % 2 = 1) := by
    rw [← decide_not]
    exact decide_eq_decide.2 (by omega)
  rw [labelAt, heven, hn]

include h hn

/-- The example that is open is inside its fence just if the number of fences so far is odd. -/
theorem parity : isInside current' = decide ((n + if isFenceLine raw then 1 else 0) % 2 = 1) := by
  cases h with
  | opens hfence =>
    rw [if_pos hfence, odd_succ, ← hn]
    rfl
  | turns hfence =>
    rw [if_pos hfence, odd_succ, ← hn]
    rfl
  | code hcode =>
    rw [hcode.1]
    exact hn
  | level hfence =>
    rw [hfence]
    exact hn
  | starts hout hlabel =>
    rw [not_isFenceLine_of_label hlabel]
    exact hout.symm.trans hn
  | passes hfence =>
    rw [hfence]
    exact hn

/-- A step adds the code of its line. -/
theorem code_added : (examplesSoFar e' current').flatMap Example.code =
    (examplesSoFar e current).flatMap Example.code ++ (codeAt (raw, n)).toList := by
  rw [codeAt_eq hn]
  cases h with
  | opens => simp [OpenExample.close, isInside]
  | turns hfence => simp [OpenExample.close, not_isCode_of_fence hfence]
  | code hcode => simp [OpenExample.close, isInside, hcode]
  | level hfence hlevel =>
    have hcode : ¬ IsCode raw := fun hcode => hcode.2.2 ((level?_isSome_iff _).1 (by rw [hlevel]; rfl))
    simp [OpenExample.close, hcode]
  | starts hout hlabel =>
    rw [if_neg (by simp [hout])]
    simp [examplesSoFar, close, OpenExample.close]
  | passes hfence hcode =>
    rw [if_neg fun hyes => hcode hyes.1 hyes.2]
    simp

/-- A step adds an example for a label, and for a fence where no example is open. -/
theorem length_added : (examplesSoFar e' current').length =
    (examplesSoFar e current).length + (if labelAt startsExample (raw, n) then 1 else 0) +
      if isFenceLine raw ∧ current = none then 1 else 0 := by
  rw [labelAt_eq hn]
  cases h with
  | opens hfence => simp [not_startsExample_of_fence hfence, hfence]
  | turns hfence => simp [not_startsExample_of_fence hfence]
  | code => simp [isInside]
  | level => simp [isInside]
  | starts hout hlabel =>
    rw [hout, hlabel, not_isFenceLine_of_label hlabel]
    simp [examplesSoFar, close]
  | passes hfence _ hlabel =>
    cases hin : isInside current with
    | true => simp [hfence]
    | false => simp [hfence, hlabel hin]

/-- No example is open after a step only if none was before and the line opens none. -/
theorem none_iff : current' = none ↔
    current = none ∧ isFenceLine raw = false ∧ labelAt startsExample (raw, n) = false := by
  rw [labelAt_eq hn]
  cases h with
  | opens hfence => simp [hfence]
  | turns hfence => simp [hfence]
  | code => simp
  | level => simp
  | starts hout hlabel => simp [hout, hlabel]
  | passes hfence _ hlabel =>
    cases hin : isInside current with
    | true => simp [hfence]
    | false => simp [hfence, hlabel hin]

end ExampleStep

/-! ## All lines of a section -/

namespace Reader
variable {ls : List Text} (hls : ∀ line ∈ ls, ¬ OpensSection line)
include hls

/-- The lines of a section add the code that stands between fences. -/
theorem code_foldl_feed {e : Entry} {current : Option OpenExample} {n : Nat}
    (hn : isInside current = decide (n % 2 = 1)) :
    (ls.foldl feed ⟨e, .examples current⟩).finish.examples.flatMap Example.code =
      (examplesSoFar e current).flatMap Example.code ++ codeOf n ls := by
  induction ls generalizing e current n with
  | nil => exact (List.append_nil _).symm
  | cons line ls ih =>
    rw [List.forall_mem_cons] at hls
    obtain ⟨e', current', hfeed, hstep⟩ := feed_examples hls.1 e current
    rw [List.foldl_cons, hfeed, ih hls.2 (hstep.parity hn), hstep.code_added hn, codeOf_cons,
      List.append_assoc]

/-- The lines of a section add an example for every label, and one for a fence before them where no
example is open. -/
theorem length_foldl_feed {e : Entry} {current : Option OpenExample} {n : Nat}
    (hn : isInside current = decide (n % 2 = 1)) :
    (ls.foldl feed ⟨e, .examples current⟩).finish.examples.length =
      (examplesSoFar e current).length + (numbered n ls).countP (labelAt startsExample) +
        if current = none ∧ fenceFirst startsExample n ls = true then 1 else 0 := by
  induction ls generalizing e current n with
  | nil => simp [numbered, fenceFirst, finish, examplesSoFar]
  | cons line ls ih =>
    rw [List.forall_mem_cons] at hls
    obtain ⟨e', current', hfeed, hstep⟩ := feed_examples hls.1 e current
    rw [List.foldl_cons, hfeed, ih hls.2 (hstep.parity hn), hstep.length_added hn, countP_labelAt_cons,
      fenceFirst_cons]
    simp only [hstep.none_iff hn]
    cases hfence : isFenceLine line with
    | true =>
      -- a fence is no label, so it comes before the labels that follow it
      have hlabel : labelAt startsExample (line, n) = false := by
        rw [ExampleStep.labelAt_eq hn, not_startsExample_of_fence hfence, Bool.and_false]
      simp [hlabel]
      omega
    | false =>
      cases hlabel : labelAt startsExample (line, n) with
      | true =>
        simp
        omega
      | false => simp

end Reader

/-- The code of the examples of a section is what stands between its fences, and there is one example for
every label outside them and one more for a fence before the first label. -/
theorem examples_of_section {ls : List Text} (h : ∀ line ∈ ls, ¬ OpensSection line) :
    (ofLines (("Example Usage:" : Text) :: ls)).examples.flatMap Example.code = codeOf 0 ls ∧
      (ofLines (("Example Usage:" : Text) :: ls)).examples.length = countOf startsExample 0 ls := by
  have hstart : isInside none = decide (0 % 2 = 1) := rfl
  unfold ofLines
  rw [List.foldl_cons, feed_examples_word]
  constructor
  · rw [Reader.code_foldl_feed h hstart]
    rfl
  · rw [Reader.length_foldl_feed h hstart, countOf]
    simp [examplesSoFar, close, Reader.finish]

/-- Code before the first label, a label inside a fence, a level, a marker of the comment, and a fence
that is never closed. -/
theorem examples_of_section_mixed :
    let ls : List Text :=
      ["```lua", "-- HIGH: this", "a()  ", "Low:", "--[[", "```",
        "Low:", "text", "  ```", "", " -- note: b", "b()"]
    let code : List Text := ["a()", "Low:", "", " -- note: b", "b()"]
    (∀ line ∈ ls, ¬ OpensSection line) ∧
      (ofLines (("Example Usage:" : Text) :: ls)).examples.flatMap Example.code = code ∧
      (ofLines (("Example Usage:" : Text) :: ls)).examples.length = 2 := by
  intro ls code
  have hls : ∀ line ∈ ls, ¬ OpensSection line := by decide +kernel
  obtain ⟨hcode, hlength⟩ := examples_of_section hls
  rw [hcode, hlength]
  exact ⟨hls, by decide +kernel, by decide +kernel⟩

/-- A fence that can be read as a label is a fence. It opens no example of its own, although an even number
of fences stands before it. -/
theorem fence_is_no_label :
    let ls : List Text := ["```lua", "a()", "```", "```lua Second Example:", "b()", "```"]
    (∀ line ∈ ls, ¬ OpensSection line) ∧
      (ofLines (("Example Usage:" : Text) :: ls)).examples.length = 1 ∧ countOf isLabelLine 0 ls = 2 := by
  intro ls
  exact ⟨by decide +kernel, by decide +kernel, by decide +kernel⟩

end Entry

end LuaReference
