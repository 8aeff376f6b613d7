import LuaReference.Proofs.Entry.WellFormed
import Mathlib.Data.List.Forall2

/-!
# The parameters of a section

The reader takes the lines of the parameters one at a time and holds a `name (type)` line back until
it knows its description. The same parameters are found by looking at two lines at once.

* `Parameter.isRead` : the lines of a section that are not passed over;
* `Parameter.readLines` : the parameters of such lines, by the line and the next one;
* `Parameter.readFrom pending` : the same where a name and a type are held back;
* `Entry.Reader.parameters_foldl_feed` : the lines of a section add what is read from them;
* `Parameter.Yields` : what a line can give, `Parameter.exists_shares` : every line has its share;
* `Entry.parameters_of_section` : the parameters of a section.
-/

namespace LuaReference

open Text

namespace Parameter

/-! ## Two lines at once -/

/-- Whether a line of the parameters is read: it is not blank, no marker of the comment and no comment
itself. -/
def isRead (raw : Text) : Bool :=
  !(trim raw).isEmpty && !Entry.Reader.isDelimiter (trim raw) && !startsWith "--" (trim raw)

/-- The parameters of some lines. A `name (type)` line is described by the next line, unless that is
such a line too or there is none; any other line is a parameter of its own or nothing. -/
def readLines : List Text → List Parameter
  | [] => []
  | line :: rest =>
    match pending? line with
    | none => (parseLine? (trim line)).toList ++ readLines rest
    | some (name, type) =>
      match rest with
      | [] => [⟨name, type, []⟩]
      | next :: after =>
        if (pending? next).isSome then ⟨name, type, []⟩ :: readLines (next :: after)
        else ⟨name, type, trim next⟩ :: readLines after

/-- The parameter that is held back, when no description follows. -/
def flushed : Option (Text × Text) → List Parameter
  | none => []
  | some (name, type) => [⟨name, type, []⟩]

/-- What a line that is no `name (type)` gives: the parameter that is held back with its description,
or a parameter of its own. -/
def described (pending : Option (Text × Text)) (line : Text) : List Parameter :=
  match pending with
  | none => (parseLine? (trim line)).toList
  | some (name, type) => [⟨name, type, trim line⟩]

/-- The parameters of some lines, where a name and a type are held back before them. -/
def readFrom (pending : Option (Text × Text)) : List Text → List Parameter
  | [] => flushed pending
  | line :: rest =>
    if (pending? line).isSome then flushed pending ++ readLines (line :: rest)
    else described pending line ++ readLines rest

theorem readFrom_none (ls : List Text) : readFrom none ls = readLines ls := by
  cases ls with
  | nil => rfl
  | cons line rest =>
    rw [readFrom]
    split
    · rfl
    · rename_i hnone
      rw [readLines, Option.not_isSome_iff_eq_none.1 hnone]
      rfl

theorem readLines_cons_pending {line : Text} {found : Text × Text} (h : pending? line = some found)
    (rest : List Text) : readLines (line :: rest) = readFrom (some found) rest := by
  rw [readLines, h]
  cases rest with
  | nil => rfl
  | cons next after =>
    dsimp only [readFrom]
    split <;> rfl

/-! ## What is held back -/

/-- What is held back has no blanks at its ends. -/
def HeldClean (pending : Option (Text × Text)) : Prop :=
  ∀ name type, pending = some (name, type) → trim name = name ∧ trim type = type

theorem heldClean_none : HeldClean none := fun _ _ hfound => nomatch hfound

theorem heldClean_pending? (raw : Text) : HeldClean (pending? raw) := by
  intro name type h
  unfold pending? at h
  obtain ⟨⟨name', rest⟩, -, h⟩ := Option.bind_eq_some_iff.1 h
  obtain ⟨⟨type', rest'⟩, -, h⟩ := Option.bind_eq_some_iff.1 h
  dsimp only at h
  split at h
  · obtain ⟨rfl, rfl⟩ := Prod.mk.inj (Option.some.inj h)
    exact ⟨trim_trim name', trim_trim type'⟩
  · cases h

theorem name?_head {t : Text} (h : (name? t).isSome = true) :
    ∃ c r, t = c :: r ∧ c ≠ '-' ∧ c ≠ '[' ∧ c ≠ ']' := by
  cases t with
  | nil => cases h
  | cons c r =>
    rw [name?] at h
    split at h
    · rename_i hstart
      refine ⟨c, r, rfl, ?_, ?_, ?_⟩ <;>
      · rintro rfl
        exact absurd hstart (by decide)
    · rw [Option.isSome_map, after?_isSome] at h
      obtain ⟨rest, hdots⟩ := startsWith_iff.1 h
      obtain ⟨rfl, -⟩ := List.cons.inj hdots
      exact ⟨'.', r, rfl, by decide, by decide, by decide⟩

/-- A `name (type)` line is never passed over. -/
theorem isRead_of_pending? {raw : Text} (h : (pending? raw).isSome = true) : isRead raw = true := by
  obtain ⟨found, hfound⟩ := Option.isSome_iff_exists.1 h
  unfold pending? at hfound
  obtain ⟨⟨name, rest⟩, hname, -⟩ := Option.bind_eq_some_iff.1 hfound
  rw [trimStart_trimEnd, ← trim] at hname
  obtain ⟨c, r, hline, hdash, hopen, hclose⟩ := name?_head (by rw [hname]; rfl)
  unfold isRead
  rw [hline, Entry.Reader.isDelimiter_cons hdash hopen hclose r]
  have hcomment : startsWith "--" (c :: r) = false := startsWith_cons_of_ne (Ne.symm hdash) _ r
  rw [hcomment]
  rfl

/-! ## Shares -/

/-- What a line can give: a `name (type)` line gives one parameter of that name and type, any other
line what it reads as, or nothing. -/
def Yields (line : Text) (share : List Parameter) : Prop :=
  match pending? line with
  | some (name, type) => ∃ description, share = [⟨name, type, description⟩]
  | none => share = [] ∨ share = (parseLine? (trim line)).toList

theorem yields_nil {line : Text} (h : pending? line = none) : Yields line [] := by
  unfold Yields
  rw [h]
  exact .inl rfl

theorem yields_pending {line name type : Text} (h : pending? line = some (name, type))
    (description : Text) : Yields line [⟨name, type, description⟩] := by
  unfold Yields
  rw [h]
  exact ⟨description, rfl⟩

/-- Every line that is read has its share of the parameters. -/
theorem exists_shares (ls : List Text) :
    ∃ shares, List.Forall₂ Yields ls shares ∧ shares.flatten = readLines ls := by
  fun_induction readLines ls with
  | case1 => exact ⟨[], .nil, rfl⟩
  | case2 line rest hnone ih =>
    obtain ⟨shares, hshares, hflat⟩ := ih
    refine ⟨(parseLine? (trim line)).toList :: shares, .cons ?_ hshares, by simp [hflat]⟩
    unfold Yields
    rw [hnone]
    exact .inr rfl
  | case3 line name type hfound => exact ⟨[[⟨name, type, []⟩]], .cons (yields_pending hfound []) .nil, rfl⟩
  | case4 line name type hfound next after hnext ih =>
    obtain ⟨shares, hshares, hflat⟩ := ih
    exact ⟨[⟨name, type, []⟩] :: shares, .cons (yields_pending hfound []) hshares, by simp [hflat]⟩
  | case5 line name type hfound next after hnext ih =>
    -- the next line is used up as a description, so its own share is empty
    obtain ⟨shares, hshares, hflat⟩ := ih
    have hplain := Option.not_isSome_iff_eq_none.1 hnext
    exact ⟨[⟨name, type, trim next⟩] :: [] :: shares,
      .cons (yields_pending hfound _) (.cons (yields_nil hplain) hshares), by simp [hflat]⟩

/-- Lines that are passed over have an empty share. -/
theorem forall₂_of_read {ls : List Text} {shares : List (List Parameter)}
    (h : List.Forall₂ Yields (ls.filter isRead) shares) :
    ∃ all, List.Forall₂ Yields ls all ∧ all.flatten = shares.flatten := by
  induction ls generalizing shares with
  | nil =>
    cases h
    exact ⟨[], .nil, rfl⟩
  | cons line ls ih =>
    by_cases hread : isRead line = true
    · rw [List.filter_cons_of_pos hread] at h
      obtain ⟨share, rest, hshare, hrest, rfl⟩ := List.forall₂_cons_left_iff.1 h
      obtain ⟨all, hall, hflat⟩ := ih hrest
      exact ⟨share :: all, .cons hshare hall, by rw [List.flatten_cons, List.flatten_cons, hflat]⟩
    · rw [List.filter_cons_of_neg hread] at h
      obtain ⟨all, hall, hflat⟩ := ih h
      have hplain := Option.not_isSome_iff_eq_none.1 fun hsome => hread (isRead_of_pending? hsome)
      exact ⟨[] :: all, .cons (yields_nil hplain) hall, by rw [List.flatten_cons, hflat]; rfl⟩

end Parameter

/-! ## The reader -/

namespace Entry

namespace Reader

/-- A line of the parameters that opens no section is passed over or read. -/
theorem feed_parameters {raw : Text} (h : ¬ OpensSection raw) (e : Entry) (pending : Option (Text × Text)) :
    feed ⟨e, .parameters pending⟩ raw =
      if Parameter.isRead raw then parameterLine e pending raw (trim raw)
      else ⟨e, .parameters pending⟩ := by
  rcases feed_cases h ⟨e, .parameters pending⟩ with
    ⟨hblank, hfeed⟩ | ⟨-, hmark, hfeed⟩ | ⟨hblank, hmark, hfeed⟩
  · simp [hfeed, Parameter.isRead, hblank, blankLine]
  · simp [hfeed, Parameter.isRead, hmark]
  · have hread : Parameter.isRead raw = !startsWith "--" (trim raw) := by
      simp [Parameter.isRead, hblank, hmark]
    have hplain : plainLine ⟨e, .parameters pending⟩ raw (trim raw) =
        parameterLine e pending raw (trim raw) := rfl
    rw [hfeed, hplain, hread]
    cases hcomment : startsWith "--" (trim raw) with
    | true =>
      unfold parameterLine
      exact if_pos hcomment
    | false => rfl

/-- What is held back, when the section is over. -/
theorem parameters_close {pending : Option (Text × Text)} (h : Parameter.HeldClean pending)
    (e : Entry) :
    (e.close (.parameters pending)).parameters = e.parameters ++ Parameter.flushed pending := by
  rcases pending with _ | ⟨name, type⟩
  · exact (List.append_nil _).symm
  · obtain ⟨hname, htype⟩ := h name type rfl
    simp only [close, Parameter.ofParts, Parameter.flushed, hname, htype]
    rfl

/-- One line that is read: either it is held back and what was held back goes into the entry, or it
describes that or stands for itself. -/
theorem parameterLine_cases {raw : Text} (hread : Parameter.isRead raw = true)
    {pending : Option (Text × Text)} (h : Parameter.HeldClean pending) (e : Entry) :
    (∃ next, Parameter.pending? raw = some next ∧
      parameterLine e pending raw (trim raw) = ⟨e.close (.parameters pending), .parameters (some next)⟩) ∨
    (Parameter.pending? raw = none ∧ parameterLine e pending raw (trim raw) =
      ⟨{ e with parameters := e.parameters ++ Parameter.described pending raw }, .parameters none⟩) := by
  have hcomment : startsWith "--" (trim raw) = false := by
    simp only [Parameter.isRead, Bool.and_eq_true, Bool.not_eq_true'] at hread
    exact hread.2
  unfold parameterLine
  rw [hcomment]
  cases hnext : Parameter.pending? raw with
  | some next => exact .inl ⟨next, rfl, rfl⟩
  | none =>
    refine .inr ⟨rfl, ?_⟩
    rcases pending with _ | ⟨name, type⟩
    · rfl
    · obtain ⟨hname, htype⟩ := h name type rfl
      simp [Parameter.ofParts, Parameter.described, hname, htype, trim_trim]

/-- The lines of a section add the parameters that are read from them. -/
theorem parameters_foldl_feed {ls : List Text} (hls : ∀ line ∈ ls, ¬ OpensSection line) (e : Entry)
    {pending : Option (Text × Text)} (h : Parameter.HeldClean pending) :
    (ls.foldl feed ⟨e, .parameters pending⟩).finish.parameters =
      e.parameters ++ Parameter.readFrom pending (ls.filter Parameter.isRead) := by
  induction ls generalizing e pending with
  | nil => exact parameters_close h e
  | cons line ls ih =>
    rw [List.forall_mem_cons] at hls
    rw [List.foldl_cons, feed_parameters hls.1]
    by_cases hread : Parameter.isRead line = true
    · rw [if_pos hread, List.filter_cons_of_pos hread]
      rcases parameterLine_cases hread h e with ⟨next, hnext, hstep⟩ | ⟨hnone, hstep⟩
      · have hclean : Parameter.HeldClean (some next) := hnext ▸ Parameter.heldClean_pending? line
        rw [hstep, ih hls.2 _ hclean, parameters_close h, Parameter.readFrom, if_pos (by rw [hnext]; rfl),
          Parameter.readLines_cons_pending hnext, List.append_assoc]
      · rw [hstep, ih hls.2 _ Parameter.heldClean_none, Parameter.readFrom_none, Parameter.readFrom,
          if_neg (by simp [hnone]), List.append_assoc]
    · rw [if_neg hread, List.filter_cons_of_neg hread]
      exact ih hls.2 e h

end Reader

/-- The parameters of a section are those of its lines, two lines at once. Every line has its share of
them, in order, and that of a `name (type)` line is one parameter. -/
theorem parameters_of_section {ls : List Text} (h : ∀ line ∈ ls, ¬ OpensSection line) :
    (ofLines (("Parameters:" : Text) :: ls)).parameters =
        Parameter.readLines (ls.filter Parameter.isRead) ∧
      ∃ shares, List.Forall₂ Parameter.Yields ls shares ∧
        shares.flatten = (ofLines (("Parameters:" : Text) :: ls)).parameters := by
  have hread : (ofLines (("Parameters:" : Text) :: ls)).parameters =
      Parameter.readLines (ls.filter Parameter.isRead) := by
    rw [ofLines, List.foldl_cons, feed_parameters_word, Reader.parameters_foldl_feed h _ Parameter.heldClean_none,
      Parameter.readFrom_none]
    rfl
  obtain ⟨shares, hshares, hflat⟩ := Parameter.exists_shares (ls.filter Parameter.isRead)
  obtain ⟨all, hall, hsame⟩ := Parameter.forall₂_of_read hshares
  exact ⟨hread, all, hall, by rw [hsame, hflat, hread]⟩

/-- Names and types with lines between them and their descriptions, without a description, and between
lines of other shapes. -/
theorem parameters_of_section_mixed :
    let ls : List Text :=
      ["  client (Player)", "", "  -- who", "    The joining player.", "  silent (boolean)",
       "  reason (string)", "    Why: see below", "no parameter", "- id: The id", "  last (any)"]
    let found : List Parameter :=
      [⟨"client", "Player", "The joining player."⟩, ⟨"silent", "boolean", ""⟩,
       ⟨"reason", "string", "Why: see below"⟩, ⟨"id", "unknown", "The id"⟩, ⟨"last", "any", ""⟩]
    (∀ line ∈ ls, ¬ OpensSection line) ∧ (ofLines (("Parameters:" : Text) :: ls)).parameters = found := by
  intro ls found
  have hls : ∀ line ∈ ls, ¬ OpensSection line := by decide +kernel
  refine ⟨hls, ?_⟩
  rw [(parameters_of_section hls).1]
  decide +kernel

end Entry

end LuaReference
