import LuaReference.Files.Tree

/-!
# What stands at a location

* `Node` : a file with its content, or a directory without its entries;
* `Tree.view t here` : the node at a location. Two trees with the same view hold the same files and
  directories, whatever the order of their entries;
* `Tree.view_append`, `Tree.view_of_append` : below a node, and above one;
* `Tree.view_put` : a tree put into a directory is seen below its location, and nothing else
  changes.
-/

namespace LuaReference

/-- What stands at a place, without what is below it. -/
inductive Node where
  | file (content : Bytes)
  | directory
  deriving DecidableEq, Repr

namespace Tree

/-- The node at the top of a tree. -/
def node : Tree → Node
  | .file content => .file content
  | .directory _ => .directory

/-- The node at a location. -/
def view (t : Tree) (here : Location) : Option Node := (t.get? here).map node

/-! ## Entries -/

theorem lookup_setEntry (name other : Text) (new : Tree) (entries : List (Text × Tree)) :
    (setEntry name new entries).lookup other =
      if other = name then some new else entries.lookup other := by
  induction entries with
  | nil =>
    by_cases h : other = name
    · simp [setEntry, h]
    · have hne : (other == name) = false := beq_eq_false_iff_ne.2 h
      simp [setEntry, List.lookup_cons, hne, h]
  | cons entry rest ih =>
    obtain ⟨key, old⟩ := entry
    by_cases hkey : key = name
    · subst hkey
      by_cases h : other = key
      · simp [setEntry, h]
      · have hne : (other == key) = false := beq_eq_false_iff_ne.2 h
        simp [setEntry, List.lookup_cons, hne, h]
    · by_cases h : other = name
      · subst h
        have hne : (other == key) = false := beq_eq_false_iff_ne.2 (Ne.symm hkey)
        simp [setEntry, hkey, List.lookup_cons, hne, ih]
      · simp [setEntry, hkey, List.lookup_cons, ih, h]

/-! ## Locations below locations -/

@[simp] theorem get?_nil (t : Tree) : t.get? [] = some t := by
  cases t <;> rfl

theorem get?_cons (t : Tree) (name : Text) (rest : Location) :
    t.get? (name :: rest) = (t.child? name).bind (·.get? rest) := by
  cases t with
  | file content => rfl
  | directory entries => simp only [get?, child?]; cases entries.lookup name <;> rfl

theorem get?_append (t : Tree) (front rest : Location) :
    t.get? (front ++ rest) = (t.get? front).bind (·.get? rest) := by
  induction front generalizing t with
  | nil => simp
  | cons name front ih =>
    rw [List.cons_append, get?_cons, get?_cons, Option.bind_assoc]
    congr 1
    funext child
    exact ih child

theorem get?_concat (t : Tree) (front : Location) (name : Text) :
    t.get? (front ++ [name]) = (t.get? front).bind (·.child? name) := by
  rw [get?_append]
  congr 1
  funext child
  rw [get?_cons]
  cases child.child? name <;> simp

theorem view_append (t : Tree) (front rest : Location) :
    t.view (front ++ rest) = (t.get? front).bind (·.view rest) := by
  rw [view, get?_append, Option.map_bind]
  rfl

@[simp] theorem view_nil (t : Tree) : t.view [] = some t.node := by
  simp [view]

theorem view_cons (t : Tree) (name : Text) (rest : Location) :
    t.view (name :: rest) = (t.child? name).bind (·.view rest) := by
  rw [view, get?_cons, Option.map_bind]
  rfl

theorem view_eq_none_iff {t : Tree} {here : Location} : t.view here = none ↔ t.get? here = none :=
  Option.map_eq_none_iff

theorem view_eq_directory {t : Tree} {here : Location} (h : t.view here = some .directory) :
    ∃ entries, t.get? here = some (.directory entries) := by
  obtain ⟨u, hu, hnode⟩ := Option.map_eq_some_iff.1 h
  cases u with
  | file content => simp [node] at hnode
  | directory entries => exact ⟨entries, hu⟩

theorem view_eq_file {t : Tree} {here : Location} {content : Bytes} :
    t.view here = some (.file content) ↔ t.get? here = some (.file content) := by
  constructor
  · intro h
    obtain ⟨u, hu, hnode⟩ := Option.map_eq_some_iff.1 h
    cases u with
    | file c => simp only [node, Node.file.injEq] at hnode; rw [hu, hnode]
    | directory entries => simp [node] at hnode
  · intro h
    simp [view, h, node]

/-- Below nothing there is nothing. -/
theorem view_eq_none_above {t : Tree} {front here : Location} (h : t.view front = none)
    (hpre : front <+: here) : t.view here = none := by
  obtain ⟨rest, rfl⟩ := hpre
  rw [view_append, view_eq_none_iff.1 h]
  rfl

/-- Below a file there is nothing. -/
theorem view_below_file {t : Tree} {front rest : Location} {content : Bytes}
    (h : t.view front = some (.file content)) (hne : rest ≠ []) : t.view (front ++ rest) = none := by
  rw [view_append, view_eq_file.1 h]
  cases rest with
  | nil => exact absurd rfl hne
  | cons name rest => rfl

/-- What has something below it is a directory. -/
theorem view_of_append {t : Tree} {front rest : Location} {n : Node}
    (h : t.view (front ++ rest) = some n) (hne : rest ≠ []) : t.view front = some .directory := by
  cases hf : t.view front with
  | none => rw [view_eq_none_above hf ⟨rest, rfl⟩] at h; cases h
  | some m =>
    cases m with
    | file content => rw [view_below_file hf hne] at h; cases h
    | directory => rfl

/-- Above a directory there are directories. -/
theorem view_above_directory {t : Tree} {front here : Location}
    (h : t.view here = some .directory) (hpre : front <+: here) :
    t.view front = some .directory := by
  obtain ⟨rest, rfl⟩ := hpre
  cases rest with
  | nil => rwa [List.append_nil] at h
  | cons name rest => exact view_of_append h (by simp)

/-! ## Replacement -/

theorem put_directory_single (entries : List (Text × Tree)) (name : Text) (new : Tree) :
    (Tree.directory entries).put [name] new = .directory (setEntry name new entries) := by
  unfold put
  cases entries.lookup name with
  | none => rfl
  | some child => simp [put]

theorem put_directory_cons {entries : List (Text × Tree)} {name : Text} {child : Tree}
    (rest : Location) (new : Tree) (h : entries.lookup name = some child) :
    (Tree.directory entries).put (name :: rest) new =
      .directory (setEntry name (child.put rest new) entries) := by
  rw [put, h]

/-- A tree put into a directory is seen at its location and below it; elsewhere nothing changes. -/
theorem view_put {t : Tree} {front : Location} (name : Text) (new : Tree) (here : Location)
    (hdir : t.view front = some .directory) :
    (t.put (front ++ [name]) new).view here =
      if front ++ [name] <+: here then new.view (here.drop (front.length + 1)) else t.view here := by
  induction front generalizing t here with
  | nil =>
    obtain ⟨entries, he⟩ := view_eq_directory hdir
    obtain rfl : t = .directory entries := by simpa using he
    rw [List.nil_append, put_directory_single]
    cases here with
    | nil => simp [node]
    | cons other rest =>
      by_cases h : other = name
      · subst h; simp [view_cons, child?, lookup_setEntry]
      · simp [view_cons, child?, lookup_setEntry, h, Ne.symm h]
  | cons first front ih =>
    cases t with
    | file content => simp [view_cons, child?] at hdir
    | directory entries =>
      rw [view_cons] at hdir
      obtain ⟨child, hchild, hview⟩ := Option.bind_eq_some_iff.1 hdir
      rw [List.cons_append, put_directory_cons _ _ hchild]
      cases here with
      | nil => simp [node]
      | cons other rest =>
        by_cases h : other = first
        · subst h
          have hlook : entries.lookup other = some child := hchild
          simp [view_cons, child?, lookup_setEntry, ih rest hview, hlook]
        · simp [view_cons, child?, lookup_setEntry, h, Ne.symm h]

end Tree

end LuaReference
