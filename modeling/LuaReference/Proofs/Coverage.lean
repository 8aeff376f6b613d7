import LuaReference.Coverage
import LuaReference.Proofs.Text.ByteOrder
import Mathlib.Data.List.Sort

/-!
# What coverage depends on

* `NameSet.ext_mem` : a set of names is determined by its members;
* `NameSet.mem_diff`, `NameSet.diff_increasing` : a difference, and its order;
* `Coverage.mem_gather` : what a field of the coverage holds after some reports;
* `Coverage.ofReports`, `Coverage.ofReports_congr` : the coverage of reports in another order, or with
  repetitions, is the same;
* `Coverage.Reflects` : what the lists of a coverage say about its reports;
* `Coverage.Listed`, `Coverage.Rendered` : how a list and the whole report are written;
* `Coverage.coverage_of_reports` : all of it for any reports.
-/

namespace LuaReference

open Text

namespace NameSet

theorem ext_mem {a b : NameSet} (h : ∀ x, x ∈ a.names ↔ x ∈ b.names) : a = b := by
  obtain ⟨xs, hxs⟩ := a
  obtain ⟨ys, hys⟩ := b
  obtain rfl : xs = ys := hxs.eq_of_mem_iff hys h
  rfl

@[simp]
theorem mem_insertAll {set : NameSet} {xs : List Text} {y : Text} :
    y ∈ (set.insertAll xs).names ↔ y ∈ xs ∨ y ∈ set.names := by
  induction xs generalizing set with
  | nil => simp [insertAll]
  | cons x xs ih =>
    show y ∈ ((set.insert x).insertAll xs).names ↔ _
    rw [ih, mem_insert, List.mem_cons, or_left_comm, or_assoc]

theorem mem_diff {a b : NameSet} {x : Text} : x ∈ a.diff b ↔ x ∈ a.names ∧ x ∉ b.names := by
  simp [diff]

/-- The bytes of the names in a difference are in increasing order. -/
theorem diff_increasing (a b : NameSet) : ((a.diff b).map encode).Pairwise (· < ·) :=
  List.pairwise_map.2 ((a.increasing.filter _).imp encode_lt)

end NameSet

attribute [ext] Coverage

namespace Coverage

/-- The coverage of some reports. -/
def ofReports (reports : List Report) : Coverage := reports.foldl record {}

section Gather
variable {field : Coverage → NameSet} {adds : Report → List Text}

/-- A field that every report adds names to. -/
theorem mem_gather (h : ∀ c r, field (c.record r) = (field c).insertAll (adds r))
    (reports : List Report) (c : Coverage) (x : Text) :
    x ∈ (field (reports.foldl record c)).names ↔
      (∃ r ∈ reports, x ∈ adds r) ∨ x ∈ (field c).names := by
  induction reports generalizing c with
  | nil => simp
  | cons r reports ih =>
    rw [List.foldl_cons, ih, h, NameSet.mem_insertAll, List.exists_mem_cons_iff, or_left_comm, or_assoc]

theorem field_congr (h : ∀ c r, field (c.record r) = (field c).insertAll (adds r))
    {reports reports' : List Report} (hsame : ∀ r, r ∈ reports ↔ r ∈ reports') :
    field (ofReports reports) = field (ofReports reports') := by
  apply NameSet.ext_mem
  intro x
  unfold ofReports
  simp only [mem_gather h, hsame]

end Gather

section Record
variable (c : Coverage) (r : Report)

theorem declared_record :
    (c.record r).declared = c.declared.insertAll (if r.mode.isCode then r.declared else []) := by
  show (if r.mode.isCode then _ else _) = _
  split <;> rfl

theorem documented_record : (c.record r).documented = c.documented.insertAll r.documented := rfl

theorem hookDocs_record :
    (c.record r).hookDocs = c.hookDocs.insertAll (if r.mode = .hooks then r.documented else []) := by
  show (if r.mode = .hooks then _ else _) = _
  split <;> rfl

theorem hooksUsed_record : (c.record r).hooksUsed = c.hooksUsed.insertAll r.hooksUsed.names := rfl

end Record

/-- Coverage depends on what is reported, neither on the order nor on how often. -/
theorem ofReports_congr {reports reports' : List Report} (h : ∀ r, r ∈ reports ↔ r ∈ reports') :
    ofReports reports = ofReports reports' :=
  Coverage.ext (field_congr declared_record h) (field_congr documented_record h)
    (field_congr hookDocs_record h) (field_congr hooksUsed_record h)

/-! ## The lists -/

/-- What a field that every report adds names to has after some reports. -/
theorem mem_ofReports {field : Coverage → NameSet} {adds : Report → List Text}
    (h : ∀ c r, field (c.record r) = (field c).insertAll (adds r)) (hempty : field {} = .empty)
    {reports : List Report} {x : Text} :
    x ∈ (field (ofReports reports)).names ↔ ∃ r ∈ reports, x ∈ adds r := by
  rw [ofReports, mem_gather h, hempty]
  simp [NameSet.empty]

/-- What the lists of a coverage say about the reports it is made of. -/
structure Reflects (reports : List Report) (c : Coverage) : Prop where
  missing : ∀ name, name ∈ c.missingHooks ↔
    (∃ r ∈ reports, name ∈ r.hooksUsed.names) ∧ ¬∃ r ∈ reports, r.mode = .hooks ∧ name ∈ r.documented
  undocumented : ∀ name, name ∈ c.undocumented ↔
    (∃ r ∈ reports, (r.mode = .library ∨ r.mode = .methods ∨ r.mode = .compatibility) ∧
      name ∈ r.declared) ∧ ¬∃ r ∈ reports, name ∈ r.documented
  extra : ∀ name, name ∈ c.extraDocumented ↔
    (∃ r ∈ reports, r.mode = .hooks ∧ name ∈ r.documented) ∧ ¬∃ r ∈ reports, name ∈ r.hooksUsed.names
  increasing : ∀ names ∈ [c.missingHooks, c.undocumented, c.extraDocumented],
    (names.map encode).Pairwise (· < ·)

theorem isCode_iff (mode : Mode) :
    mode.isCode = true ↔ mode = .library ∨ mode = .methods ∨ mode = .compatibility := by
  cases mode <;> simp [Mode.isCode]

theorem reflects_ofReports (reports : List Report) : Reflects reports (ofReports reports) := by
  have hdeclared : ∀ name, name ∈ (ofReports reports).declared.names ↔ ∃ r ∈ reports,
      (r.mode = .library ∨ r.mode = .methods ∨ r.mode = .compatibility) ∧ name ∈ r.declared := by
    intro name
    rw [mem_ofReports declared_record rfl]
    refine exists_congr fun r => and_congr_right fun _ => ?_
    rw [← isCode_iff]
    split <;> simp [*]
  have hhookDocs : ∀ name, name ∈ (ofReports reports).hookDocs.names ↔
      ∃ r ∈ reports, r.mode = .hooks ∧ name ∈ r.documented := by
    intro name
    rw [mem_ofReports hookDocs_record rfl]
    refine exists_congr fun r => and_congr_right fun _ => ?_
    split <;> simp [*]
  have hdocumented : ∀ name, name ∈ (ofReports reports).documented.names ↔
      ∃ r ∈ reports, name ∈ r.documented := fun name => mem_ofReports documented_record rfl
  have hused : ∀ name, name ∈ (ofReports reports).hooksUsed.names ↔
      ∃ r ∈ reports, name ∈ r.hooksUsed.names := fun name => mem_ofReports hooksUsed_record rfl
  refine ⟨fun name => ?_, fun name => ?_, fun name => ?_, ?_⟩
  · rw [missingHooks, NameSet.mem_diff, hused, hhookDocs]
  · rw [Coverage.undocumented, NameSet.mem_diff, hdeclared, hdocumented]
  · rw [extraDocumented, NameSet.mem_diff, hhookDocs, hused]
  · simp only [List.forall_mem_cons, List.not_mem_nil, false_implies, implies_true, and_true]
    exact ⟨NameSet.diff_increasing _ _, NameSet.diff_increasing _ _, NameSet.diff_increasing _ _⟩

/-! ## The text -/

/-- How a list is written: a heading with its length, and a bullet for each name in order, or a remark
that there are none. -/
inductive Listed (title : Text) : List Text → Text → Prop where
  | nothing : Listed title [] (List.flatten ["\n## ", title, " (0)\n\nNone.\n"])
  | bullets {names : List Text} (hne : names ≠ []) :
      Listed title names
        (List.flatten ["\n## ", title, " (", (toString names.length).toList, ")\n\n"] ++
          (names.map fun name => List.flatten ["- \x60", name, "\x60\n"]).flatten)

/-- How a report is written: a title and the three lists. -/
def Rendered (c : Coverage) (t : Text) : Prop :=
  ∃ missing undocumented extra : Text,
    Listed "Missing hooks" c.missingHooks missing ∧
      Listed "Undocumented functions" c.undocumented undocumented ∧
      Listed "Extra documented" c.extraDocumented extra ∧
      t = List.flatten ["# Documentation Coverage\n", missing, undocumented, extra]

theorem listed_listing (title : Text) (names : List Text) : Listed title names (listing title names) := by
  cases hnames : names with
  | nil =>
    have hnothing : listing title [] = List.flatten ["\n## ", title, " (0)\n\nNone.\n"] := by
      simp [listing]
    rw [hnothing]
    exact .nothing
  | cons first rest =>
    have hbullets : Listed title (first :: rest) _ := .bullets (List.cons_ne_nil first rest)
    have hsame : listing title (first :: rest) =
        List.flatten ["\n## ", title, " (", (toString (first :: rest).length).toList, ")\n\n"] ++
          ((first :: rest).map fun name => List.flatten ["- \x60", name, "\x60\n"]).flatten := by
      simp [listing, List.flatMap_def]
    rwa [hsame]

theorem rendered_render (c : Coverage) : Rendered c c.render :=
  ⟨_, _, _, listed_listing _ _, listed_listing _ _, listed_listing _ _, rfl⟩

/-- Coverage and the report on it depend on what is reported, neither on the order nor on how often, and
the lists of the report are the differences that they are named after. -/
theorem coverage_of_reports :
    (∀ reports reports' : List Report, (∀ r, r ∈ reports ↔ r ∈ reports') →
        ofReports reports = ofReports reports' ∧
          (ofReports reports).render = (ofReports reports').render) ∧
      ∀ reports : List Report, Reflects reports (ofReports reports) ∧
        Rendered (ofReports reports) (ofReports reports).render := by
  refine ⟨fun reports reports' hsame => ?_, fun reports => ⟨reflects_ofReports reports, rendered_render _⟩⟩
  have heq := ofReports_congr hsame
  exact ⟨heq, congrArg render heq⟩

/-- A source with code and one that documents hooks, in another order and with a repetition. -/
theorem coverage_of_reports_repeated :
    let code : Report := ⟨.library, ["lia.a", "lia.b"], ["lia.a"], .ofList ["Spawn", "Load"], none⟩
    let hooks : Report := ⟨.hooks, ["GM:Spawn"], ["Unused", "Spawn"], .empty, none⟩
    (∀ r, r ∈ [code, hooks] ↔ r ∈ [hooks, code, code]) ∧
      (ofReports [code, hooks]).render = (ofReports [hooks, code, code]).render ∧
      (ofReports [hooks, code, code]).missingHooks = ["Load"] ∧
      (ofReports [hooks, code, code]).undocumented = ["lia.b"] ∧
      (ofReports [hooks, code, code]).extraDocumented = ["Unused"] := by
  intro code hooks
  have hsame : ∀ r, r ∈ [code, hooks] ↔ r ∈ [hooks, code, code] := fun r => by simp [or_comm]
  exact ⟨hsame, (coverage_of_reports.1 _ _ hsame).2, by decide, by decide, by decide⟩

end Coverage

end LuaReference
