/-
A search for query files opens none of them.

Two trees may differ in what their files hold and in who may read them.  A path leads to the
same place in both, and the same entries below it are at fault, so a search that fails in one
fails in the other, for the same reason.

* `FileSystem.SameButContents` — the same tree, whatever its files hold;
* `FileSystem.sameButContents_setLeaf` — a tree in which one file has been replaced by another;
* `firstFault_congr` — what a search comes upon first does not depend on what files hold;
* `discover_eq_error_of_sameButContents` — so neither does the error of a search that fails.
-/
import Mathlib
import NamedSql.Proofs.Searching

namespace NamedSql

namespace Files

/-- The entry, with nothing in it and no rights to it if it is a file. -/
def Leaf.emptied : Leaf → Leaf
  | .file _ => .file { content := [], mode := 0 }
  | .link target => .link target
  | .device kind => .device kind

theorem showsLinks_emptied : ShowsLinks Leaf.emptied := by
  intro entry target
  cases entry <;> simp [Leaf.emptied]

namespace FileSystem

variable {files other : FileSystem}

/-- The same entries at the same paths and the same working directory, whatever the files hold
and whoever may read them. -/
structure SameButContents (files other : FileSystem) : Prop where
  entries : files.root.LooksLike Leaf.emptied other.root
  workingDirectory : other.workingDirectory = files.workingDirectory

theorem SameButContents.lookAlike (h : SameButContents files other) :
    LookAlike Leaf.emptied files other where
  shows := showsLinks_emptied
  entries := h.entries
  workingDirectory := h.workingDirectory

/-- A file takes the place of another one. -/
theorem sameButContents_setLeaf {directory : List Name} {name : Name} {old : File} (new : File)
    (h : files.root.nodeAt? (directory ++ [name]) = some (.leaf (.file old))) :
    SameButContents files (files.setLeaf directory name (.file new)) := by
  obtain ⟨inner, hinner, hfind⟩ := Directory.exists_dir_of_nodeAt?_concat h
  rw [setLeaf]
  split
  · refine ⟨fun names => ?_, rfl⟩
    have hfree (below : Directory) : inner.entries.find? name ≠ some (.dir below) := by
      simp [hfind]
    rw [change, Directory.entryAt?_update_set hinner hfree]
    -- at the place itself there is a file before and after, elsewhere the same entry
    by_cases hnames : names = directory ++ [name]
    · rw [if_pos hnames, hnames, Directory.entryAt?_eq_leaf_iff.mpr h]
      rfl
    · rw [if_neg hnames]
  · exact ⟨fun _ => rfl, rfl⟩

end FileSystem

end Files

open Files

variable {top : SearchRoot} {directory : Directory} {suffix : String}

/-- What is wrong with an entry does not depend on what a file there holds. -/
theorem AtFault.of_looksLike (h : top.directory.LooksLike Leaf.emptied directory)
    {names : List Name} {error : DiscoverError} (hfault : AtFault top suffix names error) :
    AtFault { top with directory } suffix names error := by
  obtain ⟨entry, hentry, hfault⟩ := hfault
  have hsame := h names
  rw [hentry] at hsame
  obtain ⟨entry', hentry', hseen⟩ := Option.map_eq_some_iff.mp hsame
  refine ⟨entry', hentry', ?_⟩
  -- a file is seen as a file, and a directory as one with its mode
  have hfile {file : File} (hfile : entry = .leaf (.file file)) :
      ∃ other, entry' = .leaf (.file other) := by
    subst hfile
    rcases entry' with (other | target | device) | mode
    case leaf.file => exact ⟨other, rfl⟩
    all_goals cases hseen
  cases hfault with
  | path htext =>
    obtain ⟨other, rfl⟩ := hfile rfl
    exact .path htext
  | name hpath hextension hname =>
    obtain ⟨other, rfl⟩ := hfile rfl
    exact .name hpath hextension hname
  | closed hcause =>
    obtain rfl := Entry.seen_eq_directory_iff.mp hseen
    rw [← h.obstacle?_eq top.above] at hcause
    exact .closed hcause

theorem atFault_congr (h : top.directory.LooksLike Leaf.emptied directory) (names : List Name)
    (error : DiscoverError) :
    AtFault { top with directory } suffix names error ↔ AtFault top suffix names error := by
  have hback : SearchRoot.directory { top with directory } |>.LooksLike Leaf.emptied
      top.directory := fun names => (h names).symm
  exact ⟨AtFault.of_looksLike hback, AtFault.of_looksLike h⟩

/-- The first entry at fault is the same, whatever files hold. -/
theorem firstFault_congr (h : top.directory.LooksLike Leaf.emptied directory)
    {error : DiscoverError} :
    FirstFault { top with directory } suffix error ↔ FirstFault top suffix error := by
  simp only [FirstFault, atFault_congr h]

/-- What files hold decides nothing in a search that fails. -/
theorem discover_eq_error_of_sameButContents {files other : FileSystem} {root : String}
    {error : DiscoverError} (h : files.SameButContents other)
    (hfails : discover files root suffix = .error error) :
    discover other root suffix = .error error := by
  rcases openRoot_cases h.lookAlike root with
    ⟨cause, hfiles, hother⟩ | ⟨top, directory, hfiles, hother, halike⟩
  · rw [discover, hfiles] at hfails
    rw [discover, hother]
    exact hfails
  · rw [discover_of_openRoot hfiles,
      queryFiles_walk_eq_error_iff (liesIn_of_openRoot hfiles).wellFormed] at hfails
    rw [discover_of_openRoot hother]
    exact (queryFiles_walk_eq_error_iff (liesIn_of_openRoot hother).wellFormed).mpr
      ((firstFault_congr halike).mpr hfails)

end NamedSql
