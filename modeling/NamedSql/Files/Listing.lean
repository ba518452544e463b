/-
Directories: a mode, and entries under names in the order in which they happen to be listed.

An entry is a file, a symbolic link, a device or a directory with entries of its own.

* `Listing.find?`, `Directory.nodeAt?` — the entry of a name, and the one below a path of names;
* `Listing.set`, `Listing.erase`, `Directory.update` — one entry replaced or removed, here or
  in a directory below;
* `WellFormed` — names are names and distinct, at every depth; `wellFormed_set`,
  `wellFormed_erase` and `wellFormed_update` keep it so.
-/
import NamedSql.Files.File

namespace NamedSql.Files

/-- The name of an entry: bytes, which need not spell a text. -/
abbrev Name := List UInt8

/-- The byte that separates names. -/
abbrev slash : UInt8 := 0x2F

/-- The byte of a dot. -/
abbrev dot : UInt8 := 0x2E

/-- Whether bytes can name an entry: there are some, no slash and no NUL among them, and
they are not the dots that stand for a directory itself and the one above. -/
def isName (name : Name) : Bool :=
  !name.isEmpty && name != [dot] && name != [dot, dot] && !name.contains slash
    && !name.contains 0

/-- The devices a program may write to. -/
inductive Device where
  /-- Takes everything and keeps nothing. -/
  | null
  /-- Takes nothing. -/
  | full
  deriving DecidableEq, Repr

/-- An entry that holds no entries. -/
inductive Leaf where
  | file (file : File)
  | link (target : List UInt8)
  | device (device : Device)
  deriving DecidableEq, Repr

/-- The entries of a directory.  One that is a directory has a mode and entries of its own. -/
inductive Listing where
  | nil
  | leaf (name : Name) (entry : Leaf) (rest : Listing)
  | dir (name : Name) (mode : Mode) (entries rest : Listing)
  deriving DecidableEq, Repr

/-- A directory. -/
structure Directory where
  mode : Mode
  entries : Listing
  deriving DecidableEq, Repr

/-- What stands under a name. -/
inductive Node where
  | leaf (entry : Leaf)
  | dir (directory : Directory)
  deriving DecidableEq, Repr

namespace Listing

/-- The names of a listing. -/
def names : Listing → List Name
  | nil => []
  | leaf name _ rest => name :: rest.names
  | dir name _ _ rest => name :: rest.names

/-- One more entry in front. -/
def cons (name : Name) : Node → Listing → Listing
  | .leaf entry, rest => leaf name entry rest
  | .dir directory, rest => dir name directory.mode directory.entries rest

/-- The entry of a name. -/
def find? (name : Name) : Listing → Option Node
  | nil => none
  | leaf other entry rest => if other = name then some (.leaf entry) else rest.find? name
  | dir other mode entries rest =>
    if other = name then some (.dir { mode, entries }) else rest.find? name

/-- Put an entry in the place of the one that has its name, or at the end. -/
def set (name : Name) (node : Node) : Listing → Listing
  | nil => cons name node nil
  | leaf other entry rest =>
    if other = name then cons name node rest else leaf other entry (rest.set name node)
  | dir other mode entries rest =>
    if other = name then cons name node rest else dir other mode entries (rest.set name node)

/-- The other entries. -/
def erase (name : Name) : Listing → Listing
  | nil => nil
  | leaf other entry rest => if other = name then rest else leaf other entry (rest.erase name)
  | dir other mode entries rest =>
    if other = name then rest else dir other mode entries (rest.erase name)

/-- Every entry has a name that no other entry has, here and in the directories below. -/
def WellFormed : Listing → Prop
  | nil => True
  | leaf name _ rest => isName name = true ∧ name ∉ rest.names ∧ rest.WellFormed
  | dir name _ entries rest =>
    isName name = true ∧ name ∉ rest.names ∧ entries.WellFormed ∧ rest.WellFormed

end Listing

namespace Directory

/-- The entry below a path of names; the directory itself for the empty path. -/
def nodeAt? (directory : Directory) : List Name → Option Node
  | [] => some (.dir directory)
  | name :: rest =>
    match directory.entries.find? name with
    | some (.dir inner) => inner.nodeAt? rest
    | some (.leaf entry) => if rest.isEmpty then some (.leaf entry) else none
    | none => none

/-- Change the entries of the directory below a path of names. -/
def update (change : Listing → Listing) (directory : Directory) : List Name → Directory
  | [] => { directory with entries := change directory.entries }
  | name :: rest =>
    match directory.entries.find? name with
    | some (.dir inner) =>
      { directory with entries := directory.entries.set name (.dir (inner.update change rest)) }
    | _ => directory

/-- A directory with well-formed entries. -/
def WellFormed (directory : Directory) : Prop :=
  directory.entries.WellFormed

end Directory

/-- A well-formed directory, or an entry that is none. -/
def Node.WellFormed : Node → Prop
  | .leaf _ => True
  | .dir directory => directory.WellFormed

namespace Listing

theorem wellFormed_cons {name : Name} {node : Node} {rest : Listing} (hname : isName name = true)
    (hnode : node.WellFormed) (hrest : rest.WellFormed) (hfresh : name ∉ rest.names) :
    (cons name node rest).WellFormed := by
  cases node with
  | leaf entry => exact ⟨hname, hfresh, hrest⟩
  | dir directory => exact ⟨hname, hfresh, hnode, hrest⟩

theorem names_cons (name : Name) (node : Node) (rest : Listing) :
    (cons name node rest).names = name :: rest.names := by
  cases node <;> rfl

theorem mem_names_set {name other : Name} {node : Node} {listing : Listing}
    (h : other ∈ (listing.set name node).names) : other = name ∨ other ∈ listing.names := by
  induction listing with
  | nil => simpa [set, names_cons, names] using h
  | leaf first entry rest ih =>
    by_cases hfirst : first = name
    · simpa [set, hfirst, names_cons, names] using h
    · simp only [set, hfirst, if_false, names, List.mem_cons] at h ⊢
      rcases h with h | h
      · exact .inr (.inl h)
      · exact (ih h).imp id .inr
  | dir first mode entries rest _ ih =>
    by_cases hfirst : first = name
    · simpa [set, hfirst, names_cons, names] using h
    · simp only [set, hfirst, if_false, names, List.mem_cons] at h ⊢
      rcases h with h | h
      · exact .inr (.inl h)
      · exact (ih h).imp id .inr

theorem wellFormed_set {name : Name} {node : Node} {listing : Listing}
    (hname : isName name = true) (hnode : node.WellFormed) (h : listing.WellFormed) :
    (listing.set name node).WellFormed := by
  induction listing with
  | nil => exact wellFormed_cons hname hnode trivial (by simp [names])
  | leaf first entry rest ih =>
    obtain ⟨hfirst, hfresh, hrest⟩ := h
    by_cases heq : first = name
    · rw [set, if_pos heq]
      exact wellFormed_cons hname hnode hrest (heq ▸ hfresh)
    · rw [set, if_neg heq]
      exact ⟨hfirst, fun hmem => (mem_names_set hmem).elim heq hfresh, ih hrest⟩
  | dir first mode entries rest _ ih =>
    obtain ⟨hfirst, hfresh, hentries, hrest⟩ := h
    by_cases heq : first = name
    · rw [set, if_pos heq]
      exact wellFormed_cons hname hnode hrest (heq ▸ hfresh)
    · rw [set, if_neg heq]
      exact ⟨hfirst, fun hmem => (mem_names_set hmem).elim heq hfresh, hentries, ih hrest⟩

theorem mem_names_erase {name other : Name} {listing : Listing}
    (h : other ∈ (listing.erase name).names) : other ∈ listing.names := by
  induction listing with
  | nil => exact h
  | leaf first entry rest ih | dir first mode entries rest _ ih =>
    by_cases hfirst : first = name
    · rw [erase, if_pos hfirst] at h
      exact List.mem_cons_of_mem _ h
    · rw [erase, if_neg hfirst] at h
      rcases List.mem_cons.1 h with h | h
      · exact h ▸ List.mem_cons_self
      · exact List.mem_cons_of_mem _ (ih h)

theorem wellFormed_erase {name : Name} {listing : Listing} (h : listing.WellFormed) :
    (listing.erase name).WellFormed := by
  induction listing with
  | nil => exact h
  | leaf first entry rest ih =>
    obtain ⟨hfirst, hfresh, hrest⟩ := h
    by_cases heq : first = name
    · rwa [erase, if_pos heq]
    · rw [erase, if_neg heq]
      exact ⟨hfirst, fun hmem => hfresh (mem_names_erase hmem), ih hrest⟩
  | dir first mode entries rest _ ih =>
    obtain ⟨hfirst, hfresh, hentries, hrest⟩ := h
    by_cases heq : first = name
    · rwa [erase, if_pos heq]
    · rw [erase, if_neg heq]
      exact ⟨hfirst, fun hmem => hfresh (mem_names_erase hmem), hentries, ih hrest⟩

theorem wellFormed_of_find? {name : Name} {node : Node} {listing : Listing}
    (h : listing.WellFormed) (hfind : listing.find? name = some node) :
    isName name = true ∧ node.WellFormed := by
  induction listing with
  | nil => simp [find?] at hfind
  | leaf first entry rest ih =>
    obtain ⟨hfirst, _, hrest⟩ := h
    by_cases heq : first = name
    · rw [find?, if_pos heq] at hfind
      obtain rfl := Option.some.inj hfind
      exact ⟨heq ▸ hfirst, trivial⟩
    · rw [find?, if_neg heq] at hfind
      exact ih hrest hfind
  | dir first mode entries rest _ ih =>
    obtain ⟨hfirst, _, hentries, hrest⟩ := h
    by_cases heq : first = name
    · rw [find?, if_pos heq] at hfind
      obtain rfl := Option.some.inj hfind
      exact ⟨heq ▸ hfirst, hentries⟩
    · rw [find?, if_neg heq] at hfind
      exact ih hrest hfind

end Listing

theorem Directory.wellFormed_update {change : Listing → Listing}
    (hchange : ∀ listing : Listing, listing.WellFormed → (change listing).WellFormed)
    {directory : Directory} (h : directory.WellFormed) (path : List Name) :
    (directory.update change path).WellFormed := by
  induction path generalizing directory with
  | nil => exact hchange _ h
  | cons name rest ih =>
    rw [update]
    split
    · rename_i inner hfind
      obtain ⟨hname, hinner⟩ := Listing.wellFormed_of_find? h hfind
      exact Listing.wellFormed_set hname (ih hinner) h
    · exact h

end NamedSql.Files
