/-
Paths lead to the same places in trees that look alike.

Two trees look alike if at every path there is nothing in either, or a directory of one mode, or
leaves that a view does not tell apart.  A view may hide anything of a leaf, except where a link
leads to.  With nothing hidden, the trees differ at most in the order in which directories are
listed.

* `Place.seen` — a place as a view shows it, whatever a directory there holds;
* `seen_resolve` — steps come to the same in trees that look alike, or fail for the same reason;
* `FileSystem.LookAlike.canonical` — so do paths;
* `FileSystem.Relisted` — the same file system with its directories listed in other orders.
-/
import Mathlib
import NamedSql.Proofs.Resolving

namespace NamedSql.Files

/-- A view shows links as they are, and nothing else as a link. -/
def ShowsLinks (see : Leaf → Leaf) : Prop :=
  ∀ entry target, see entry = .link target ↔ entry = .link target

/-- An entry as a view shows it. -/
def Entry.seen (see : Leaf → Leaf) : Entry → Entry
  | .leaf entry => .leaf (see entry)
  | .directory mode => .directory mode

/-- The names that lead to a place and what a view shows there. -/
def Place.seen (see : Leaf → Leaf) : Place → List Name × Option Entry
  | .taken names node => (names, some (node.entry.seen see))
  | .free directory name => (directory ++ [name], none)

/-- A view shows the same at every path of two trees. -/
def Directory.LooksLike (see : Leaf → Leaf) (root other : Directory) : Prop :=
  ∀ names, (other.entryAt? names).map (Entry.seen see) = (root.entryAt? names).map (Entry.seen see)

/-- Results with the same image are the same failure, or successes with the same image. -/
theorem map_eq_map_cases {α β ε : Type} {f : α → β} {result other : Except ε α}
    (h : result.map f = other.map f) :
    (∃ error, result = .error error ∧ other = .error error) ∨
      ∃ a b, result = .ok a ∧ other = .ok b ∧ f a = f b := by
  cases result with
  | error error =>
    cases other with
    | error error' =>
      cases h
      exact .inl ⟨error, rfl, rfl⟩
    | ok b => cases h
  | ok a =>
    cases other with
    | error error' => cases h
    | ok b => exact .inr ⟨a, b, rfl, rfl, Except.ok.inj h⟩

section

variable {see : Leaf → Leaf} {root other : Directory} {purpose : Purpose}

theorem Entry.seen_eq_directory_iff {entry : Entry} {mode : Mode} :
    entry.seen see = .directory mode ↔ entry = .directory mode := by
  cases entry <;> simp [Entry.seen]

/-- At every path both trees have nothing, leaves that look alike, or directories of one mode. -/
theorem Directory.LooksLike.nodeAt?_cases (h : root.LooksLike see other) (names : List Name) :
    (root.nodeAt? names = none ∧ other.nodeAt? names = none) ∨
      (∃ entry entry', root.nodeAt? names = some (.leaf entry) ∧
        other.nodeAt? names = some (.leaf entry') ∧ see entry' = see entry) ∨
      ∃ current current', root.nodeAt? names = some (.dir current) ∧
        other.nodeAt? names = some (.dir current') ∧ current'.mode = current.mode := by
  have hsame := h names
  rw [Directory.entryAt?, Directory.entryAt?] at hsame
  cases hroot : root.nodeAt? names with
  | none =>
    rw [hroot] at hsame
    exact .inl ⟨rfl, Option.map_eq_none_iff.mp (Option.map_eq_none_iff.mp hsame)⟩
  | some node =>
    rw [hroot] at hsame
    obtain ⟨entry', hother, hseen⟩ := Option.map_eq_some_iff.mp hsame
    obtain ⟨node', hnode', rfl⟩ := Option.map_eq_some_iff.mp hother
    -- an entry shows whether it is a directory
    cases node with
    | leaf entry =>
      cases node' with
      | leaf entry' => exact .inr (.inl ⟨entry, entry', rfl, hnode', Entry.leaf.inj hseen⟩)
      | dir current' => cases hseen
    | dir current =>
      cases node' with
      | leaf entry' => cases hseen
      | dir current' =>
        exact .inr (.inr ⟨current, current', rfl, hnode', Entry.directory.inj hseen⟩)

theorem Directory.LooksLike.directories (h : root.LooksLike see other) (names : List Name)
    (mode : Mode) :
    other.entryAt? names = some (.directory mode) ↔
      root.entryAt? names = some (.directory mode) := by
  have hseen (top : Directory) : top.entryAt? names = some (.directory mode) ↔
      (top.entryAt? names).map (Entry.seen see) = some (.directory mode) := by
    simp [Entry.seen_eq_directory_iff]
  rw [hseen, hseen, h names]

/-- A view that hides nothing shows the entries themselves. -/
theorem Directory.LooksLike.entryAt?_eq (h : root.LooksLike id other) (names : List Name) :
    other.entryAt? names = root.entryAt? names := by
  have hid : Entry.seen id = id := by
    funext entry
    cases entry <;> rfl
  have hsame := h names
  rwa [hid, Option.map_id_fun, id, id] at hsame

/-- The same stands in the way in both trees. -/
theorem Directory.LooksLike.obstacle?_eq (h : root.LooksLike see other) (above : List Name) :
    other.obstacle? above = root.obstacle? above := by
  funext names
  rw [Directory.obstacle?, Directory.obstacle?, Directory.admits_congr h.directories]

/-- Below a directory, trees that look alike still do. -/
theorem Directory.LooksLike.below (h : root.LooksLike see other) {names : List Name}
    {directory directory' : Directory} (hdirectory : root.nodeAt? names = some (.dir directory))
    (hdirectory' : other.nodeAt? names = some (.dir directory')) :
    directory.LooksLike see directory' := by
  intro below
  have hbelow := h (names ++ below)
  rwa [Directory.entryAt?, Directory.entryAt?, Directory.nodeAt?_append hdirectory,
    Directory.nodeAt?_append hdirectory'] at hbelow

variable (hsee : ShowsLinks see) (halike : root.LooksLike see other)

include hsee halike

/-- Steps come to the same in both trees, if links are followed alike. -/
theorem seen_resolveWith {follow follow' : List Name → List UInt8 → List Step →
      Except FileError Place}
    (hfollow : ∀ directory target rest, (follow' directory target rest).map (Place.seen see) =
      (follow directory target rest).map (Place.seen see))
    (directory : List Name) (stepsLeft : List Step) :
    (resolveWith other purpose follow' directory stepsLeft).map (Place.seen see) =
      (resolveWith root purpose follow directory stepsLeft).map (Place.seen see) := by
  induction stepsLeft generalizing directory with
  | nil =>
    rw [resolveWith, resolveWith]
    rcases halike.nodeAt?_cases directory with
      ⟨hroot, hother⟩ | ⟨entry, entry', hroot, hother, hseen⟩ | ⟨top, top', hroot, hother, hmode⟩
    · rw [hroot, hother]
    · rw [hroot, hother]
      simp only [Except.map, Place.seen, Node.entry, Entry.seen, hseen]
    · rw [hroot, hother]
      simp only [Except.map, Place.seen, Node.entry, Entry.seen, hmode]
  | cons step rest ih =>
    rw [resolveWith, resolveWith, Step.obstacle?_congr halike.directories]
    cases Step.obstacle? root directory purpose step with
    | some cause => rfl
    | none =>
    rcases halike.nodeAt?_cases directory with
      ⟨hroot, hother⟩ | ⟨entry, entry', hroot, hother, -⟩ | ⟨top, top', hroot, hother, -⟩
    · rw [hroot, hother]
    · rw [hroot, hother]
    rw [hroot, hother]
    dsimp only
    cases step with
    | stay => exact ih directory
    | close => exact ih directory
    | up => exact ih directory.dropLast
    | enter name =>
      dsimp only
      by_cases hclose : purpose = .writing ∧ rest = [.close]
      · rw [if_pos hclose, if_pos hclose]
      rw [if_neg hclose, if_neg hclose]
      by_cases hlong : maxName < name.length
      · rw [if_pos hlong, if_pos hlong]
      rw [if_neg hlong, if_neg hlong]
      -- what has the name is nothing, a leaf or a directory, and a link in both trees or in none
      have hname := halike.nodeAt?_cases (directory ++ [name])
      rw [Directory.nodeAt?_concat hroot, Directory.nodeAt?_concat hother] at hname
      rcases hname with
        ⟨hfind, hfind'⟩ | ⟨entry, entry', hfind, hfind', hseen⟩ | ⟨inner, inner', hfind, hfind', -⟩
      · rw [hfind, hfind']
      · rw [hfind, hfind']
        cases entry with
        | link target =>
          obtain rfl : entry' = .link target :=
            (hsee entry' target).mp (hseen.trans ((hsee _ target).mpr rfl))
          exact hfollow directory target rest
        | file file | device device =>
          cases entry' with
          | link target => cases (hsee _ target).mp (hseen.symm.trans ((hsee _ target).mpr rfl))
          | file file' | device device' => exact ih (directory ++ [name])
      · rw [hfind, hfind']
        exact ih (directory ++ [name])

theorem seen_resolve (links : Nat) (directory : List Name) (stepsLeft : List Step) :
    (resolve other purpose links directory stepsLeft).map (Place.seen see) =
      (resolve root purpose links directory stepsLeft).map (Place.seen see) := by
  induction links generalizing directory stepsLeft with
  | zero =>
    rw [resolve, resolve]
    exact seen_resolveWith hsee halike (fun _ _ _ => rfl) directory stepsLeft
  | succ links ih =>
    rw [resolve, resolve]
    refine seen_resolveWith hsee halike (fun directory target rest => ?_) directory stepsLeft
    by_cases htarget : target = [] ∨ 0 ∈ target
    · rw [if_pos htarget, if_pos htarget]
    · rw [if_neg htarget, if_neg htarget]
      exact ih _ _

end

namespace FileSystem

variable {see : Leaf → Leaf} {files other : FileSystem}

/-- A view shows the same at every path, and the working directory is the same. -/
structure LookAlike (see : Leaf → Leaf) (files other : FileSystem) : Prop where
  shows : ShowsLinks see
  entries : files.root.LooksLike see other.root
  workingDirectory : other.workingDirectory = files.workingDirectory

theorem LookAlike.locate (h : LookAlike see files other) (purpose : Purpose)
    (path : List UInt8) :
    (other.locate purpose path).map (Place.seen see) =
      (files.locate purpose path).map (Place.seen see) := by
  rw [FileSystem.locate, FileSystem.locate, h.workingDirectory]
  by_cases hnul : 0 ∈ path
  · rw [if_pos hnul, if_pos hnul]
  rw [if_neg hnul, if_neg hnul]
  by_cases hempty : path = []
  · rw [if_pos hempty, if_pos hempty]
  rw [if_neg hempty, if_neg hempty]
  by_cases hlong : purpose ≠ .existing ∧ maxPath < path.length
  · rw [if_pos hlong, if_pos hlong]
  rw [if_neg hlong, if_neg hlong]
  exact seen_resolve h.shows h.entries maxLinks _ _

/-- A path leads to nothing, to leaves that look alike or to directories, under the same names. -/
theorem LookAlike.canonical (h : LookAlike see files other) (path : List UInt8) :
    (∃ cause, files.canonical path = .error cause ∧ other.canonical path = .error cause) ∨
      (∃ names entry entry', files.canonical path = .ok (names, .leaf entry) ∧
        other.canonical path = .ok (names, .leaf entry')) ∨
      ∃ names directory directory', files.canonical path = .ok (names, .dir directory) ∧
        other.canonical path = .ok (names, .dir directory') := by
  rw [FileSystem.canonical, FileSystem.canonical, find, find]
  rcases map_eq_map_cases (h.locate .existing path) with
    ⟨cause, hplace', hplace⟩ | ⟨place', place, hplace', hplace, hsame⟩
  · rw [hplace, hplace']
    exact .inl ⟨cause, rfl, rfl⟩
  rw [hplace, hplace']
  obtain ⟨hnames, hentry⟩ := Prod.mk.inj hsame
  -- places that look alike are both taken, by the same kind of node, or both free
  cases place with
  | free directory name =>
    cases place' with
    | free directory' name' => exact .inl ⟨.notFound, rfl, rfl⟩
    | taken names' node' => cases hentry
  | taken names node =>
    cases place' with
    | free directory' name' => cases hentry
    | taken names' node' =>
      obtain rfl : names' = names := hnames
      have hnode : node'.entry.seen see = node.entry.seen see := Option.some.inj hentry
      cases node with
      | leaf entry =>
        cases node' with
        | leaf entry' => exact .inr (.inl ⟨names', entry, entry', rfl, rfl⟩)
        | dir directory' => cases hnode
      | dir directory =>
        cases node' with
        | leaf entry' => cases hnode
        | dir directory' => exact .inr (.inr ⟨names', directory, directory', rfl, rfl⟩)

/-- The same entries at the same paths and the same working directory. -/
structure Relisted (files other : FileSystem) : Prop where
  entries : ∀ names, other.root.entryAt? names = files.root.entryAt? names
  workingDirectory : other.workingDirectory = files.workingDirectory

theorem Relisted.lookAlike (h : Relisted files other) : LookAlike id files other where
  shows _ _ := Iff.rfl
  entries names := by rw [h.entries]
  workingDirectory := h.workingDirectory

end FileSystem

end NamedSql.Files
