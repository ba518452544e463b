/-
What stands at a path, and what changes when an entry is put in a directory.

* `Directory.nodeAt?_append` — a path goes on from the directory that its front leads to;
* `Directory.entryAt?_update_set` — when an entry is put somewhere, another one stands at its
  path, and what stands at all other paths stays;
* `Directory.update_self`, `Directory.update_set_update_set` — putting back what is there changes
  nothing, and of two entries put in one place the second stays;
* `Directory.OnTheWay` — what holds of all directories that names lead through;
* `Directory.admits_iff` — names may be looked up if all directories on the way allow it;
* `Directory.obstacle?_append` — obstacles are the same from the top and from further down.
-/
import Mathlib
import NamedSql.Files.Reach

namespace NamedSql.Files

/-- What stands at a path, whatever a directory there holds. -/
inductive Entry where
  | leaf (entry : Leaf)
  | directory (mode : Mode)
  deriving DecidableEq, Repr

/-- A node without what it holds, if it is a directory. -/
def Node.entry : Node → Entry
  | .leaf entry => .leaf entry
  | .dir directory => .directory directory.mode

theorem Node.entry_eq_leaf_iff {node : Node} {entry : Leaf} :
    node.entry = .leaf entry ↔ node = .leaf entry := by
  cases node <;> simp [Node.entry]

theorem Node.entry_eq_directory_iff {node : Node} {mode : Mode} :
    node.entry = .directory mode ↔ ∃ directory, node = .dir directory ∧ directory.mode = mode := by
  cases node <;> simp [Node.entry]

namespace Listing

variable {listing : Listing} {name other : Name}

theorem find?_cons (name other : Name) (node : Node) (rest : Listing) :
    (cons name node rest).find? other = if name = other then some node else rest.find? other := by
  cases node <;> rfl

theorem find?_set (name other : Name) (node : Node) (listing : Listing) :
    (listing.set name node).find? other =
      if name = other then some node else listing.find? other := by
  induction listing with
  | nil => exact find?_cons name other node nil
  | leaf first entry rest ih | dir first mode entries rest _ ih =>
    rw [set]
    by_cases hfirst : first = name
    · rw [if_pos hfirst, find?_cons, find?, hfirst]
      by_cases hname : name = other
      · rw [if_pos hname, if_pos hname]
      · rw [if_neg hname, if_neg hname, if_neg hname]
    · rw [if_neg hfirst, find?, find?, ih]
      by_cases hother : first = other
      · rw [if_pos hother, if_pos hother, if_neg (hother ▸ Ne.symm hfirst)]
      · rw [if_neg hother, if_neg hother]

@[simp] theorem find?_set_self (name : Name) (node : Node) (listing : Listing) :
    (listing.set name node).find? name = some node := by
  rw [find?_set, if_pos rfl]

theorem mem_names_of_find? {node : Node} (h : listing.find? name = some node) :
    name ∈ listing.names := by
  induction listing with
  | nil => cases h
  | leaf first entry rest ih | dir first mode entries rest _ ih =>
    rw [find?] at h
    by_cases hfirst : first = name
    · rw [names, hfirst]
      exact List.mem_cons_self
    · rw [if_neg hfirst] at h
      exact List.mem_cons_of_mem first (ih h)

/-- Putting back what is there changes nothing. -/
theorem set_self {node : Node} (h : listing.find? name = some node) :
    listing.set name node = listing := by
  induction listing with
  | nil => cases h
  | leaf first entry rest ih | dir first mode entries rest _ ih =>
    rw [find?] at h
    rw [set]
    by_cases hfirst : first = name
    · rw [if_pos hfirst] at h ⊢
      cases h
      rw [hfirst, cons]
    · rw [if_neg hfirst] at h ⊢
      rw [ih h]

theorem set_cons_self (name : Name) (node other : Node) (rest : Listing) :
    (cons name other rest).set name node = cons name node rest := by
  cases other with
  | leaf entry => rw [cons, set, if_pos rfl]
  | dir directory => rw [cons, set, if_pos rfl]

/-- Of two entries put under one name the second stays. -/
theorem set_set (name : Name) (node other : Node) (listing : Listing) :
    (listing.set name other).set name node = listing.set name node := by
  induction listing with
  | nil => exact set_cons_self name node other nil
  | leaf first entry rest ih | dir first mode entries rest _ ih =>
    rw [set, set]
    by_cases hfirst : first = name
    · rw [if_pos hfirst, if_pos hfirst, set_cons_self]
    · rw [if_neg hfirst, if_neg hfirst, set, if_neg hfirst, ih]

end Listing

namespace Directory

/-- What stands at a path of names. -/
def entryAt? (directory : Directory) (names : List Name) : Option Entry :=
  (directory.nodeAt? names).map Node.entry

variable {top inner : Directory} {names front : List Name} {name other : Name} {mode : Mode}

/-! ### Paths -/

theorem nodeAt?_cons (top : Directory) (name : Name) (names : List Name) :
    top.nodeAt? (name :: names) =
      match top.entries.find? name with
      | some (.dir inner) => inner.nodeAt? names
      | some (.leaf entry) => if names.isEmpty then some (.leaf entry) else none
      | none => none :=
  rfl

@[simp] theorem nodeAt?_singleton (top : Directory) (name : Name) :
    top.nodeAt? [name] = top.entries.find? name := by
  rw [nodeAt?_cons]
  cases top.entries.find? name with
  | none => rfl
  | some node => cases node <;> rfl

/-- The first name of a path to a directory is that of a directory. -/
theorem exists_dir_of_nodeAt?_cons (h : top.nodeAt? (name :: names) = some (.dir inner)) :
    ∃ first, top.entries.find? name = some (.dir first) ∧
      first.nodeAt? names = some (.dir inner) := by
  rw [nodeAt?_cons] at h
  split at h
  · rename_i first hfirst
    exact ⟨first, hfirst, h⟩
  · split at h <;> cases h
  · cases h

/-- A path goes on from the directory that its front leads to. -/
theorem nodeAt?_append (h : top.nodeAt? front = some (.dir inner)) (names : List Name) :
    top.nodeAt? (front ++ names) = inner.nodeAt? names := by
  induction front generalizing top with
  | nil =>
    cases h
    rfl
  | cons first rest ih =>
    obtain ⟨next, hnext, hrest⟩ := exists_dir_of_nodeAt?_cons h
    rw [List.cons_append, nodeAt?_cons, hnext]
    exact ih hrest

theorem nodeAt?_concat (h : top.nodeAt? front = some (.dir inner)) (name : Name) :
    top.nodeAt? (front ++ [name]) = inner.entries.find? name := by
  rw [nodeAt?_append h, nodeAt?_singleton]

/-- All that is in front of what stands anywhere is a directory. -/
theorem exists_dir_of_nodeAt?_append {node : Node} (hnames : names ≠ [])
    (h : top.nodeAt? (front ++ names) = some node) :
    ∃ inner, top.nodeAt? front = some (.dir inner) ∧ inner.nodeAt? names = some node := by
  induction front generalizing top with
  | nil => exact ⟨top, rfl, h⟩
  | cons first rest ih =>
    rw [List.cons_append, nodeAt?_cons] at h
    rw [nodeAt?_cons]
    split at h
    · exact ih h
    · rw [if_neg (by simp [hnames])] at h
      cases h
    · cases h

/-- What stands anywhere stands in a directory. -/
theorem exists_dir_of_nodeAt?_concat {node : Node}
    (h : top.nodeAt? (front ++ [name]) = some node) :
    ∃ inner, top.nodeAt? front = some (.dir inner) ∧ inner.entries.find? name = some node := by
  obtain ⟨inner, hinner, hnode⟩ := exists_dir_of_nodeAt?_append (List.cons_ne_nil name []) h
  exact ⟨inner, hinner, by rwa [nodeAt?_singleton] at hnode⟩

theorem exists_dir_of_nodeAt?_dropLast (h : top.nodeAt? front = some (.dir inner)) :
    ∃ above, top.nodeAt? front.dropLast = some (.dir above) := by
  rcases List.eq_nil_or_concat front with rfl | ⟨names, name, rfl⟩
  · exact ⟨top, rfl⟩
  · rw [List.concat_eq_append] at h
    obtain ⟨above, habove, -⟩ := exists_dir_of_nodeAt?_concat h
    rw [List.concat_eq_append, List.dropLast_concat]
    exact ⟨above, habove⟩

/-- A path goes along names, and the directories on it are well-formed. -/
theorem wellFormed_nodeAt? {node : Node} (h : top.WellFormed)
    (hnode : top.nodeAt? names = some node) :
    (∀ name ∈ names, isName name = true) ∧ node.WellFormed := by
  induction names generalizing top with
  | nil =>
    cases hnode
    exact ⟨fun _ hname => absurd hname List.not_mem_nil, h⟩
  | cons first rest ih =>
    rw [nodeAt?_cons] at hnode
    rw [List.forall_mem_cons]
    split at hnode
    · rename_i inner hfind
      obtain ⟨hfirst, hinner⟩ := Listing.wellFormed_of_find? h hfind
      obtain ⟨hrest, hformed⟩ := ih hinner hnode
      exact ⟨⟨hfirst, hrest⟩, hformed⟩
    · rename_i entry hfind
      split at hnode
      · rename_i hlast
        cases hnode
        obtain rfl : rest = [] := List.isEmpty_iff.mp hlast
        exact ⟨⟨(Listing.wellFormed_of_find? h hfind).1, List.forall_mem_nil _⟩, trivial⟩
      · cases hnode
    · cases hnode

theorem entryAt?_eq_leaf_iff {entry : Leaf} :
    top.entryAt? names = some (.leaf entry) ↔ top.nodeAt? names = some (.leaf entry) := by
  simp [entryAt?, Node.entry_eq_leaf_iff]

theorem entryAt?_eq_directory_iff :
    top.entryAt? names = some (.directory mode) ↔
      ∃ directory, top.nodeAt? names = some (.dir directory) ∧ directory.mode = mode := by
  simp only [entryAt?, Option.map_eq_some_iff, Node.entry_eq_directory_iff]
  constructor
  · rintro ⟨_, hnode, directory, rfl, hmode⟩
    exact ⟨directory, hnode, hmode⟩
  · rintro ⟨directory, hnode, hmode⟩
    exact ⟨_, hnode, directory, rfl, hmode⟩

theorem entryAt?_of_dir (h : top.nodeAt? names = some (.dir inner)) :
    top.entryAt? names = some (.directory inner.mode) :=
  entryAt?_eq_directory_iff.mpr ⟨inner, h, rfl⟩

/-! ### Putting an entry -/

/-- Below a name, what stands depends on what has the name. -/
theorem entryAt?_cons_congr {top' : Directory}
    (h : top.entries.find? name = top'.entries.find? name) (names : List Name) :
    top.entryAt? (name :: names) = top'.entryAt? (name :: names) := by
  rw [entryAt?, entryAt?, nodeAt?_cons, nodeAt?_cons, h]

theorem entryAt?_cons_dir (h : top.entries.find? name = some (.dir inner)) (names : List Name) :
    top.entryAt? (name :: names) = inner.entryAt? names := by
  rw [entryAt?, nodeAt?_cons, h, entryAt?]

/-- Nothing stands below what is no directory. -/
theorem entryAt?_cons_cons_of_not_dir (h : ∀ inner, top.entries.find? name ≠ some (.dir inner))
    (names : List Name) : top.entryAt? (name :: other :: names) = none := by
  rw [entryAt?, nodeAt?_cons]
  split
  · rename_i inner hfind
    exact absurd hfind (h inner)
  · rfl
  · rfl

theorem update_of_dir {change : Listing → Listing}
    (h : top.entries.find? name = some (.dir inner)) (names : List Name) :
    top.update change (name :: names) =
      { top with entries := top.entries.set name (.dir (inner.update change names)) } := by
  rw [update, h]

theorem update_of_not_dir {change : Listing → Listing}
    (h : ∀ inner, top.entries.find? name ≠ some (.dir inner)) (names : List Name) :
    top.update change (name :: names) = top := by
  rw [update]
  split
  · rename_i inner hinner
    exact absurd hinner (h inner)
  · rfl

/-- When an entry is put somewhere, another one stands at its path, and what stands at all
other paths stays. -/
theorem entryAt?_update_set {entry : Leaf} (hfront : top.nodeAt? front = some (.dir inner))
    (hfree : ∀ below, inner.entries.find? name ≠ some (.dir below)) (names : List Name) :
    (top.update (·.set name (.leaf entry)) front).entryAt? names =
      if names = front ++ [name] then some (.leaf entry) else top.entryAt? names := by
  induction front generalizing top names with
  | nil =>
    obtain rfl : top = inner := Node.dir.inj (Option.some.inj hfront)
    rw [update, List.nil_append]
    cases names with
    | nil => rfl
    | cons first rest =>
      -- nothing lies below the new entry, and nothing did below what it takes the place of
      by_cases hfirst : name = first
      · subst hfirst
        have hset : (top.entries.set name (.leaf entry)).find? name = some (.leaf entry) :=
          Listing.find?_set_self name _ _
        cases rest with
        | nil =>
          rw [entryAt?, nodeAt?_singleton, hset, if_pos rfl]
          rfl
        | cons second rest =>
          rw [if_neg (by simp), entryAt?_cons_cons_of_not_dir hfree,
            entryAt?_cons_cons_of_not_dir (by simp)]
      · rw [if_neg (by rintro ⟨⟩; exact hfirst rfl)]
        exact entryAt?_cons_congr (by rw [Listing.find?_set, if_neg hfirst]) rest
  | cons above front ih =>
    obtain ⟨next, hnext, hbelow⟩ := exists_dir_of_nodeAt?_cons hfront
    rw [update_of_dir hnext, List.cons_append]
    cases names with
    | nil => rfl
    | cons first rest =>
      -- only the directory on the way is another than before
      by_cases hfirst : above = first
      · subst hfirst
        rw [entryAt?_cons_dir (Listing.find?_set_self above _ _), ih hbelow,
          entryAt?_cons_dir hnext]
        simp only [List.cons.injEq, true_and]
      · rw [if_neg (by rintro ⟨⟩; exact hfirst rfl)]
        exact entryAt?_cons_congr (by rw [Listing.find?_set, if_neg hfirst]) rest

/-- A tree stays the same if the listing that is changed does. -/
theorem update_self {change : Listing → Listing} (hfront : top.nodeAt? front = some (.dir inner))
    (hchange : change inner.entries = inner.entries) : top.update change front = top := by
  induction front generalizing top with
  | nil =>
    obtain rfl : top = inner := Node.dir.inj (Option.some.inj hfront)
    rw [update, hchange]
  | cons first rest ih =>
    obtain ⟨next, hnext, hbelow⟩ := exists_dir_of_nodeAt?_cons hfront
    rw [update_of_dir hnext, ih hbelow, Listing.set_self hnext]

/-- Of two entries put in one place the second stays. -/
theorem update_set_update_set (name : Name) (node other : Node) (top : Directory)
    (front : List Name) :
    (top.update (·.set name other) front).update (·.set name node) front =
      top.update (·.set name node) front := by
  induction front generalizing top with
  | nil => rw [update, update, update, Listing.set_set]
  | cons first rest ih =>
    by_cases hdir : ∃ next, top.entries.find? first = some (.dir next)
    · obtain ⟨next, hnext⟩ := hdir
      rw [update_of_dir hnext, update_of_dir (Listing.find?_set_self first _ _), ih,
        Listing.set_set, update_of_dir hnext]
    · rw [not_exists] at hdir
      rw [update_of_not_dir hdir, update_of_not_dir hdir]

/-! ### On the way -/

/-- What holds of all directories that names lead through, and of their modes. -/
def OnTheWay (holds : List Name → Mode → Prop) (top : Directory) (names : List Name) : Prop :=
  ∀ front name behind, names = front ++ name :: behind →
    ∀ mode, top.entryAt? front = some (.directory mode) → holds front mode

variable {holds : List Name → Mode → Prop}

@[simp] theorem onTheWay_nil : OnTheWay holds top [] := by
  intro front name behind hsplit
  cases List.append_eq_nil_iff.mp hsplit.symm with
  | intro _ hcons => cases hcons

theorem onTheWay_cons_iff :
    OnTheWay holds top (name :: names) ↔
      holds [] top.mode ∧ ∀ inner, top.entries.find? name = some (.dir inner) →
        OnTheWay (fun front => holds (name :: front)) inner names := by
  constructor
  · intro h
    refine ⟨h [] name names rfl top.mode rfl, ?_⟩
    intro inner hinner front next behind hsplit mode hmode
    refine h (name :: front) next behind (by rw [hsplit, List.cons_append]) mode ?_
    rwa [entryAt?_cons_dir hinner]
  · rintro ⟨htop, hbelow⟩ front next behind hsplit mode hmode
    -- what stands in front of a name is the directory itself or lies below its first entry
    cases front with
    | nil =>
      cases hmode
      exact htop
    | cons first front =>
      obtain ⟨rfl, rfl⟩ := List.cons.inj hsplit
      obtain ⟨directory, hnode, rfl⟩ := entryAt?_eq_directory_iff.mp hmode
      obtain ⟨inner, hinner, hrest⟩ := exists_dir_of_nodeAt?_cons hnode
      exact hbelow inner hinner front next behind rfl _ (entryAt?_of_dir hrest)

theorem onTheWay_congr {top' : Directory}
    (h : ∀ names mode, top'.entryAt? names = some (.directory mode) ↔
      top.entryAt? names = some (.directory mode)) :
    OnTheWay holds top' names ↔ OnTheWay holds top names := by
  simp only [OnTheWay, h]

/-- Names may be looked up one after the other if every directory on the way allows it. -/
theorem admits_iff :
    top.admits names = true ↔ OnTheWay (fun _ mode => mode.ownerSearches = true) top names := by
  induction names generalizing top with
  | nil => exact iff_of_true rfl onTheWay_nil
  | cons first rest ih =>
    rw [admits, Bool.and_eq_true, onTheWay_cons_iff]
    refine and_congr_right fun _ => ?_
    split
    · rename_i inner hinner
      rw [ih]
      constructor
      · intro h other hother
        rw [hinner] at hother
        cases hother
        exact h
      · exact fun h => h inner hinner
    · rename_i hnone
      -- what is no directory lets every name through: the look-up itself fails
      exact iff_of_true rfl fun inner hinner => absurd hinner (hnone inner)

/-- Whether names may be looked up is decided by the directories and their modes. -/
theorem admits_congr {top' : Directory}
    (h : ∀ names mode, top'.entryAt? names = some (.directory mode) ↔
      top.entryAt? names = some (.directory mode)) (names : List Name) :
    top'.admits names = top.admits names := by
  rw [Bool.eq_iff_iff, admits_iff, admits_iff, onTheWay_congr h]

/-- Names may be looked up one after the other if the front ones may, and the others from where
those lead. -/
theorem admits_append (h : top.nodeAt? front = some (.dir inner)) (names : List Name) :
    top.admits (front ++ names) = (top.admits front && inner.admits names) := by
  induction front generalizing top with
  | nil =>
    cases h
    rfl
  | cons first rest ih =>
    obtain ⟨next, hnext, hrest⟩ := exists_dir_of_nodeAt?_cons h
    rw [List.cons_append, admits, admits, hnext]
    dsimp only
    rw [ih hrest, Bool.and_assoc]

/-- From a directory that can be reached, the same obstacles are met as from the top. -/
theorem obstacle?_append (h : top.nodeAt? front = some (.dir inner))
    (hreached : top.obstacle? [] front = none) (names : List Name) :
    top.obstacle? [] (front ++ names) = inner.obstacle? front names := by
  have hadmits : top.admits front = true := by
    rw [obstacle?] at hreached
    split at hreached
    · cases hreached
    · split at hreached
      · assumption
      · cases hreached
  rw [obstacle?, obstacle?, List.nil_append, admits_append h, hadmits, Bool.true_and]

end Directory

end NamedSql.Files
