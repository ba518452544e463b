/-
Where paths lead.

* `Leads` — a walk from a directory along steps, each link replaced by the steps of its target;
* `resolve_eq_ok_iff` — steps are resolved exactly as walks go;
* `Leads.liesIn` — a walk ends at an entry that is no link, or at a free place in a directory;
* `FileSystem.locate_eq_ok_iff` — a path leads to a place by such a walk;
* `Leads.rewrite` — a walk to a file goes the same way once the file has been written;
* `Leads.of_kept` — and so does a walk to a directory.
-/
import Mathlib
import NamedSql.Files.FileSystem
import NamedSql.Proofs.Directories
import NamedSql.Proofs.Separators

namespace NamedSql.Files

/-- A name may be entered before other steps: no slash is put behind the name of a file to be
written, and the name is not too long. -/
def MayEnter (purpose : Purpose) (name : Name) (rest : List Step) : Prop :=
  ¬ (purpose = .writing ∧ rest = [.close]) ∧ name.length ≤ maxName

/-- A step may be taken from where names lead: there is a directory, and no obstacle. -/
structure MayTake (root : Directory) (purpose : Purpose) (names : List Name) (step : Step) :
    Prop where
  obstacle : Step.obstacle? root names purpose step = none
  directory : ∃ mode, root.entryAt? names = some (.directory mode)

/-- A walk from a directory along steps, with a number of links left to follow. -/
inductive Leads (root : Directory) (purpose : Purpose) :
    Nat → List Name → List Step → Place → Prop
  | arrive {links directory node} (h : root.nodeAt? directory = some node) :
      Leads root purpose links directory [] (.taken directory node)
  | stay {links directory rest place} (h : MayTake root purpose directory .stay)
      (hrest : Leads root purpose links directory rest place) :
      Leads root purpose links directory (.stay :: rest) place
  | close {links directory rest place} (h : MayTake root purpose directory .close)
      (hrest : Leads root purpose links directory rest place) :
      Leads root purpose links directory (.close :: rest) place
  | up {links directory rest place} (h : MayTake root purpose directory .up)
      (hrest : Leads root purpose links directory.dropLast rest place) :
      Leads root purpose links directory (.up :: rest) place
  | enter {links directory name entry rest place} (hmay : MayEnter purpose name rest)
      (h : MayTake root purpose directory (.enter name))
      (hentry : root.entryAt? (directory ++ [name]) = some entry)
      (hlink : ∀ target, entry ≠ .leaf (.link target))
      (hrest : Leads root purpose links (directory ++ [name]) rest place) :
      Leads root purpose links directory (.enter name :: rest) place
  | follow {links directory name target rest place} (hmay : MayEnter purpose name rest)
      (h : MayTake root purpose directory (.enter name))
      (hentry : root.entryAt? (directory ++ [name]) = some (.leaf (.link target)))
      (htarget : ¬ (target = [] ∨ 0 ∈ target))
      (hrest : Leads root purpose links (if isAbsolute target then [] else directory)
        (steps target ++ rest) place) :
      Leads root purpose (links + 1) directory (.enter name :: rest) place
  | free {links directory name} (hmay : MayEnter purpose name [])
      (h : MayTake root purpose directory (.enter name))
      (hentry : root.entryAt? (directory ++ [name]) = none) :
      Leads root purpose links directory [.enter name] (.free directory name)

variable {root : Directory} {purpose : Purpose} {links : Nat} {directory : List Name}
  {stepsLeft : List Step} {place : Place}

/-! ### Steps -/

theorem mayTake_iff {names : List Name} {step : Step} :
    MayTake root purpose names step ↔
      Step.obstacle? root names purpose step = none ∧
        ∃ current, root.nodeAt? names = some (.dir current) := by
  constructor
  · rintro ⟨hobstacle, mode, hmode⟩
    obtain ⟨current, hcurrent, -⟩ := Directory.entryAt?_eq_directory_iff.mp hmode
    exact ⟨hobstacle, current, hcurrent⟩
  · rintro ⟨hobstacle, current, hcurrent⟩
    exact ⟨hobstacle, current.mode, Directory.entryAt?_of_dir hcurrent⟩

theorem searchable_iff {names : List Name} :
    root.searchable names = true ↔
      ∀ mode, root.entryAt? names = some (.directory mode) → mode.ownerSearches = true := by
  rw [Directory.searchable, Directory.entryAt?]
  rcases root.nodeAt? names with _ | entry | current <;> simp [Node.entry]

/-- What stands in the way of a step is decided by the directories and their modes. -/
theorem Step.obstacle?_congr {root' : Directory}
    (h : ∀ names mode, root'.entryAt? names = some (.directory mode) ↔
      root.entryAt? names = some (.directory mode)) (names : List Name) (step : Step) :
    Step.obstacle? root' names purpose step = Step.obstacle? root names purpose step := by
  have hobstacle (names : List Name) : root'.obstacle? [] names = root.obstacle? [] names := by
    rw [Directory.obstacle?, Directory.obstacle?, Directory.admits_congr h]
  have hsearchable : root'.searchable names = root.searchable names := by
    rw [Bool.eq_iff_iff, searchable_iff, searchable_iff]
    simp only [h]
  cases purpose <;> cases step <;> simp only [Step.obstacle?, hobstacle, hsearchable]

theorem MayTake.congr {root' : Directory} {names : List Name} {step : Step}
    (hmay : MayTake root purpose names step)
    (h : ∀ names mode, root'.entryAt? names = some (.directory mode) ↔
      root.entryAt? names = some (.directory mode)) : MayTake root' purpose names step := by
  obtain ⟨hobstacle, mode, hmode⟩ := hmay
  exact ⟨by rw [Step.obstacle?_congr h, hobstacle], mode, (h names mode).mpr hmode⟩

/-! ### Walking is resolving -/

theorem entryAt?_concat {current : Directory} (h : root.nodeAt? directory = some (.dir current))
    (name : Name) :
    root.entryAt? (directory ++ [name]) = (current.entries.find? name).map Node.entry := by
  rw [Directory.entryAt?, Directory.nodeAt?_concat h]

/-- Steps are taken as a walk goes, if links are followed as it goes. -/
theorem leads_of_resolveWith
    {follow : List Name → List UInt8 → List Step → Except FileError Place}
    (hfollow : ∀ directory name target rest, MayEnter purpose name rest →
      MayTake root purpose directory (.enter name) →
      root.entryAt? (directory ++ [name]) = some (.leaf (.link target)) →
      follow directory target rest = .ok place →
      Leads root purpose links directory (.enter name :: rest) place)
    (h : resolveWith root purpose follow directory stepsLeft = .ok place) :
    Leads root purpose links directory stepsLeft place := by
  induction stepsLeft generalizing directory with
  | nil =>
    rw [resolveWith] at h
    split at h
    · rename_i node hnode
      cases h
      exact .arrive hnode
    · cases h
  | cons step rest ih =>
    rw [resolveWith] at h
    split at h
    · cases h
    · cases h
    · cases h
    rename_i current hobstacle hcurrent
    have htake : MayTake root purpose directory step :=
      mayTake_iff.mpr ⟨hobstacle, current, hcurrent⟩
    cases step with
    | stay => exact .stay htake (ih h)
    | close => exact .close htake (ih h)
    | up => exact .up htake (ih h)
    | enter name =>
      have hname := entryAt?_concat hcurrent name
      dsimp only at h
      split at h
      · cases h
      split at h
      · cases h
      rename_i hclose hlong
      have hmay : MayEnter purpose name rest := ⟨hclose, Nat.le_of_not_lt hlong⟩
      -- a link has the name, another entry, or none
      split at h
      · rename_i target hfind
        rw [hfind] at hname
        exact hfollow directory name target rest hmay htake hname h
      · rename_i node hlink hfind
        rw [hfind] at hname
        refine .enter hmay htake hname (fun target htarget => ?_) (ih h)
        exact hlink target (Node.entry_eq_leaf_iff.mp htarget)
      · rename_i hfind
        rw [hfind] at hname
        split at h
        · subst_vars
          cases h
          exact .free hmay htake hname
        · cases h

theorem leads_of_resolve (h : resolve root purpose links directory stepsLeft = .ok place) :
    Leads root purpose links directory stepsLeft place := by
  induction links generalizing directory stepsLeft with
  | zero =>
    rw [resolve] at h
    exact leads_of_resolveWith (fun _ _ _ _ _ _ _ hfollow => by cases hfollow) h
  | succ links ih =>
    rw [resolve] at h
    refine leads_of_resolveWith (fun _ _ target _ hmay htake hentry hfollow => ?_) h
    split at hfollow
    · cases hfollow
    · rename_i htarget
      exact .follow hmay htake hentry htarget (ih hfollow)

/-- However many links are left, the first step is taken in the same way. -/
theorem exists_resolveWith (root : Directory) (purpose : Purpose) (links : Nat) :
    ∃ follow, resolve root purpose links = resolveWith root purpose follow := by
  cases links with
  | zero => exact ⟨_, rfl⟩
  | succ links => exact ⟨_, rfl⟩

theorem resolve_of_leads (h : Leads root purpose links directory stepsLeft place) :
    resolve root purpose links directory stepsLeft = .ok place := by
  induction h with
  | @arrive links directory node h =>
    obtain ⟨follow, hresolve⟩ := exists_resolveWith root purpose links
    rw [hresolve, resolveWith, h]
  | @stay links directory rest place h _ ih | @close links directory rest place h _ ih
  | @up links directory rest place h _ ih =>
    obtain ⟨follow, hresolve⟩ := exists_resolveWith root purpose links
    obtain ⟨hobstacle, current, hcurrent⟩ := mayTake_iff.mp h
    rw [hresolve] at ih ⊢
    rw [resolveWith, hobstacle, hcurrent]
    exact ih
  | @enter links directory name entry rest place hmay h hentry hlink _ ih =>
    obtain ⟨follow, hresolve⟩ := exists_resolveWith root purpose links
    obtain ⟨hobstacle, current, hcurrent⟩ := mayTake_iff.mp h
    rw [entryAt?_concat hcurrent] at hentry
    obtain ⟨node, hfind, rfl⟩ := Option.map_eq_some_iff.mp hentry
    rw [hresolve] at ih ⊢
    simp only [resolveWith, hobstacle, hcurrent, hfind, if_neg hmay.1,
      if_neg (Nat.not_lt.mpr hmay.2)]
    split
    · rename_i target hsome
      rw [Option.some.inj hsome] at hlink
      exact absurd rfl (hlink target)
    · exact ih
    · rename_i hnone
      cases hnone
  | @follow links directory name target rest place hmay h hentry htarget _ ih =>
    obtain ⟨hobstacle, current, hcurrent⟩ := mayTake_iff.mp h
    rw [entryAt?_concat hcurrent] at hentry
    obtain ⟨node, hfind, hnode⟩ := Option.map_eq_some_iff.mp hentry
    obtain rfl := Node.entry_eq_leaf_iff.mp hnode
    simp only [resolve, resolveWith, hobstacle, hcurrent, hfind, if_neg hmay.1,
      if_neg (Nat.not_lt.mpr hmay.2), if_neg htarget]
    exact ih
  | @free links directory name hmay h hentry =>
    obtain ⟨follow, hresolve⟩ := exists_resolveWith root purpose links
    obtain ⟨hobstacle, current, hcurrent⟩ := mayTake_iff.mp h
    rw [entryAt?_concat hcurrent, Option.map_eq_none_iff] at hentry
    simp only [hresolve, resolveWith, hobstacle, hcurrent, hentry, if_neg hmay.1,
      if_neg (Nat.not_lt.mpr hmay.2), if_pos]

theorem resolve_eq_ok_iff :
    resolve root purpose links directory stepsLeft = .ok place ↔
      Leads root purpose links directory stepsLeft place :=
  ⟨leads_of_resolve, resolve_of_leads⟩

/-! ### Where walks end -/

/-- An entry of a tree that is no link, or a free place in one of its directories. -/
def Place.LiesIn (root : Directory) : Place → Prop
  | .taken names node => root.nodeAt? names = some node ∧ ∀ target, node ≠ .leaf (.link target)
  | .free directory name =>
    isName name = true ∧ (∃ mode, root.entryAt? directory = some (.directory mode)) ∧
      root.entryAt? (directory ++ [name]) = none

/-- Steps that enter only what can be names. -/
def EntersNames (stepsLeft : List Step) : Prop :=
  ∀ name, .enter name ∈ stepsLeft → isName name = true

theorem Step.ofStretch?_eq_enter {stretch : List UInt8} {name : Name}
    (h : Step.ofStretch? stretch = some (.enter name)) :
    stretch = name ∧ name ≠ [] ∧ name ≠ [dot] ∧ name ≠ [dot, dot] := by
  rw [Step.ofStretch?] at h
  split at h
  · cases h
  split at h
  · cases h
  split at h
  · cases h
  · cases h
    exact ⟨rfl, ‹_›, ‹_›, ‹_›⟩

theorem entersNames_steps {path : List UInt8} (h : 0 ∉ path) : EntersNames (steps path) := by
  intro name hname
  rcases List.mem_append.mp hname with hname | hname
  · obtain ⟨stretch, hstretch, hstep⟩ := List.mem_filterMap.mp hname
    obtain ⟨rfl, hempty, hdot, hdots⟩ := Step.ofStretch?_eq_enter hstep
    have hslash := not_mem_of_mem_splitOn hstretch
    have hnul : 0 ∉ stretch := fun hmem => h (subset_of_mem_splitOn hstretch hmem)
    simp [isName, hempty, hdot, hdots, hslash, hnul]
  · split at hname
    · cases List.mem_singleton.mp hname
    · exact absurd hname List.not_mem_nil

/-- A path takes at least one step. -/
theorem steps_ne_nil {path : List UInt8} (h : path ≠ []) : steps path ≠ [] := by
  intro hnone
  obtain ⟨hstretches, hclose⟩ := List.append_eq_nil_iff.mp hnone
  by_cases hlast : path.getLast h = slash
  · rw [if_pos (List.getLast?_eq_some_getLast h ▸ congrArg some hlast)] at hclose
    cases hclose
  · -- the last byte belongs to a stretch, and that to a step
    obtain ⟨stretch, hstretch, hmem⟩ := exists_mem_splitOn (List.getLast_mem h) hlast
    have hstep := List.filterMap_eq_nil_iff.mp hstretches stretch hstretch
    rw [Step.ofStretch?, if_neg (List.ne_nil_of_mem hmem)] at hstep
    split at hstep
    · cases hstep
    · split at hstep <;> cases hstep

theorem Leads.liesIn (h : Leads root purpose links directory stepsLeft place)
    (hnames : EntersNames stepsLeft)
    (hstart : stepsLeft = [] → ∀ target, root.entryAt? directory ≠ some (.leaf (.link target))) :
    place.LiesIn root := by
  induction h with
  | arrive h =>
    refine ⟨h, fun target hlink => hstart rfl target ?_⟩
    rw [Directory.entryAt?, h, hlink]
    rfl
  | stay h _ ih | close h _ ih =>
    refine ih (fun name hname => hnames name (List.mem_cons_of_mem _ hname)) fun _ target => ?_
    obtain ⟨mode, hmode⟩ := h.directory
    rw [hmode]
    simp
  | up h _ ih =>
    obtain ⟨-, current, hcurrent⟩ := mayTake_iff.mp h
    obtain ⟨above, habove⟩ := Directory.exists_dir_of_nodeAt?_dropLast hcurrent
    refine ih (fun name hname => hnames name (List.mem_cons_of_mem _ hname)) fun _ target => ?_
    rw [Directory.entryAt?_of_dir habove]
    simp
  | enter _ _ hentry hlink _ ih =>
    refine ih (fun name hname => hnames name (List.mem_cons_of_mem _ hname)) fun _ target => ?_
    rw [hentry]
    exact fun h => hlink target (Option.some.inj h)
  | @follow _ directory _ target _ _ _ h _ htarget _ ih =>
    refine ih (fun name hname => ?_) fun _ other => ?_
    · rcases List.mem_append.mp hname with hname | hname
      · exact entersNames_steps (fun hnul => htarget (.inr hnul)) name hname
      · exact hnames name (List.mem_cons_of_mem _ hname)
    · -- the target starts from the root or from the directory that holds the link
      split
      · simp [Directory.entryAt?, Directory.nodeAt?, Node.entry]
      · obtain ⟨mode, hmode⟩ := h.directory
        rw [hmode]
        simp
  | free _ h hentry => exact ⟨hnames _ List.mem_cons_self, h.directory, hentry⟩

/-- A path leads to a place by a walk from the root or from the working directory. -/
theorem FileSystem.locate_eq_ok_iff {files : FileSystem} {path : List UInt8} :
    files.locate purpose path = .ok place ↔
      0 ∉ path ∧ path ≠ [] ∧ ¬ (purpose ≠ .existing ∧ maxPath < path.length) ∧
        Leads files.root purpose maxLinks (if isAbsolute path then [] else files.workingDirectory)
          (steps path) place := by
  -- three kinds of paths are refused before any step is taken
  rw [locate]
  split
  · rename_i hnul
    exact iff_of_false (fun h => by cases h) fun h => h.1 hnul
  split
  · rename_i hempty
    exact iff_of_false (fun h => by cases h) fun h => h.2.1 hempty
  split
  · rename_i hlong
    exact iff_of_false (fun h => by cases h) fun h => h.2.2.1 hlong
  · rename_i hnul hempty hlong
    rw [resolve_eq_ok_iff]
    exact ⟨fun h => ⟨hnul, hempty, hlong, h⟩, fun h => h.2.2.2⟩

theorem FileSystem.find_eq_ok_iff {files : FileSystem} {path : List UInt8} {names : List Name}
    {node : Node} :
    files.find purpose path = .ok (names, node) ↔
      files.locate purpose path = .ok (.taken names node) := by
  rw [find]
  split
  case h_1 hlocate =>
    rw [hlocate, Except.ok.injEq, Except.ok.injEq, Place.taken.injEq, Prod.mk.injEq]
  case h_2 hlocate =>
    rw [hlocate]
    exact iff_of_false (fun h => by cases h) fun h => by cases h
  case h_3 hlocate =>
    rw [hlocate]
    exact iff_of_false (fun h => by cases h) fun h => by cases h

theorem FileSystem.liesIn_of_locate {files : FileSystem} {path : List UInt8}
    (h : files.locate purpose path = .ok place) : place.LiesIn files.root := by
  obtain ⟨hnul, hempty, -, hleads⟩ := locate_eq_ok_iff.mp h
  exact hleads.liesIn (entersNames_steps hnul) fun hnone => absurd hnone (steps_ne_nil hempty)

/-! ### Walking once more -/

/-- The names that lead to a place without links. -/
def Place.names : Place → List Name
  | .taken names _ => names
  | .free directory name => directory ++ [name]

/-- What is no file is still there, if only a file has been put somewhere. -/
theorem entryAt?_kept {root' : Directory} {spot names : List Name} {entry : Entry}
    (hspot : root.entryAt? spot = none ∨
      ∃ old, root.entryAt? spot = some (.leaf (.file old)))
    (hothers : ∀ names, names ≠ spot → root'.entryAt? names = root.entryAt? names)
    (h : root.entryAt? names = some entry) (hfile : ∀ old, entry ≠ .leaf (.file old)) :
    root'.entryAt? names = some entry := by
  rw [hothers names ?_, h]
  rintro rfl
  rcases hspot with hnone | ⟨old, hold⟩
  · rw [hnone] at h
    cases h
  · rw [hold] at h
    exact hfile old (Option.some.inj h).symm

/-- No directory comes or goes, and none changes its mode, when a file is put somewhere. -/
theorem directories_kept {root' : Directory} {spot : List Name} {file : File}
    (hspot : root.entryAt? spot = none ∨
      ∃ old, root.entryAt? spot = some (.leaf (.file old)))
    (hput : root'.entryAt? spot = some (.leaf (.file file)))
    (hothers : ∀ names, names ≠ spot → root'.entryAt? names = root.entryAt? names)
    (names : List Name) (mode : Mode) :
    root'.entryAt? names = some (.directory mode) ↔
      root.entryAt? names = some (.directory mode) := by
  constructor
  · intro h
    rwa [hothers names ?_] at h
    rintro rfl
    rw [hput] at h
    cases h
  · exact fun h => entryAt?_kept hspot hothers h (by simp)

/-- What stands in the way of a step to a file that is to be written stands in the way of any
other step to it, too. -/
theorem Step.obstacle?_of_writing {names : List Name} {step : Step}
    (h : Step.obstacle? root names .writing step = none) :
    Step.obstacle? root names .reading step = none := by
  cases step <;> exact h

/-- A walk to a file that is to be written goes the same way once it has been. -/
theorem Leads.rewrite {root' : Directory} {file : File}
    (hpurpose : purpose ≠ .existing)
    (h : Leads root .writing links directory stepsLeft place)
    (hplace : root.entryAt? place.names = none ∨
      ∃ old, root.entryAt? place.names = some (.leaf (.file old)))
    (hentries : ∀ names, root'.entryAt? names =
      if names = place.names then some (.leaf (.file file)) else root.entryAt? names) :
    Leads root' purpose links directory stepsLeft (.taken place.names (.leaf (.file file))) := by
  have hothers : ∀ names, names ≠ place.names → root'.entryAt? names = root.entryAt? names :=
    fun names hother => by rw [hentries, if_neg hother]
  have hput : root'.entryAt? place.names = some (.leaf (.file file)) := by
    rw [hentries, if_pos rfl]
  -- every directory on the way is still there, and so is every link
  have htake {names : List Name} {step : Step} (h : MayTake root .writing names step) :
      MayTake root' purpose names step := by
    obtain ⟨hobstacle, hdirectory⟩ := h.congr (directories_kept hplace hput hothers)
    refine ⟨?_, hdirectory⟩
    cases purpose with
    | existing => exact absurd rfl hpurpose
    | reading => exact Step.obstacle?_of_writing hobstacle
    | writing => exact hobstacle
  have hsame {names : List Name} {entry : Entry} (h : root.entryAt? names = some entry)
      (hfile : ∀ old, entry ≠ .leaf (.file old)) : root'.entryAt? names = some entry :=
    entryAt?_kept hplace hothers h hfile
  have hmay {name : Name} {rest : List Step} (h : MayEnter .writing name rest) :
      MayEnter purpose name rest := ⟨fun hclose => h.1 ⟨rfl, hclose.2⟩, h.2⟩
  have hwritten : root'.nodeAt? place.names = some (.leaf (.file file)) :=
    Directory.entryAt?_eq_leaf_iff.mp hput
  clear hothers hput
  induction h with
  | arrive h => exact .arrive hwritten
  | stay h _ ih => exact .stay (htake h) (ih hplace hentries hwritten)
  | close h _ ih => exact .close (htake h) (ih hplace hentries hwritten)
  | up h _ ih => exact .up (htake h) (ih hplace hentries hwritten)
  | @enter _ directory name entry rest place hwriting h hentry hlink _ ih =>
    have hrest := ih hplace hentries hwritten
    by_cases hnames : directory ++ [name] = place.names
    · have hfile : root'.entryAt? (directory ++ [name]) = some (.leaf (.file file)) := by
        rw [hentries, if_pos hnames]
      exact .enter (hmay hwriting) (htake h) hfile (by simp) hrest
    · have hentry' : root'.entryAt? (directory ++ [name]) = some entry := by
        rw [hentries, if_neg hnames, hentry]
      exact .enter (hmay hwriting) (htake h) hentry' hlink hrest
  | follow hwriting h hentry htarget _ ih =>
    exact .follow (hmay hwriting) (htake h) (hsame hentry (by simp)) htarget
      (ih hplace hentries hwritten)
  | @free _ directory name hwriting h hentry =>
    have hfile : root'.entryAt? (directory ++ [name]) = some (.leaf (.file file)) :=
      Directory.entryAt?_eq_leaf_iff.mpr hwritten
    exact .enter (hmay hwriting) (htake h) hfile (by simp) (.arrive hwritten)

/-- A walk to a directory starts in one. -/
theorem Leads.exists_mode_start {names : List Name} {inner : Directory}
    (h : Leads root purpose links directory stepsLeft (.taken names (.dir inner))) :
    ∃ mode, root.entryAt? directory = some (.directory mode) := by
  cases h with
  | arrive h => exact ⟨_, Directory.entryAt?_of_dir h⟩
  | stay h | close h | up h => exact h.directory
  | enter _ h | follow _ h => exact h.directory

/-- A walk to a directory goes the same way in a tree that has kept its directories and links. -/
theorem Leads.of_kept {root' : Directory} {names : List Name} {inner inner' : Directory}
    (hdirectories : ∀ names mode, root'.entryAt? names = some (.directory mode) ↔
      root.entryAt? names = some (.directory mode))
    (hlinks : ∀ names target, root.entryAt? names = some (.leaf (.link target)) →
      root'.entryAt? names = some (.leaf (.link target)))
    (hdirectory : root'.nodeAt? names = some (.dir inner'))
    (h : Leads root purpose links directory stepsLeft (.taken names (.dir inner))) :
    Leads root' purpose links directory stepsLeft (.taken names (.dir inner')) := by
  generalize hplace : Place.taken names (.dir inner) = place at h
  induction h with
  | arrive h =>
    cases hplace
    exact .arrive hdirectory
  | stay h _ ih => exact .stay (h.congr hdirectories) (ih hplace)
  | close h _ ih => exact .close (h.congr hdirectories) (ih hplace)
  | up h _ ih => exact .up (h.congr hdirectories) (ih hplace)
  | enter hmay h hentry hlink hrest ih =>
    subst hplace
    -- what is entered is a directory, as the walk behind it starts there
    obtain ⟨mode, hmode⟩ := hrest.exists_mode_start
    rw [hmode] at hentry
    cases hentry
    exact .enter hmay (h.congr hdirectories) ((hdirectories _ mode).mpr hmode) hlink (ih rfl)
  | follow hmay h hentry htarget _ ih =>
    exact .follow hmay (h.congr hdirectories) (hlinks _ _ hentry) htarget (ih hplace)
  | free => cases hplace

end NamedSql.Files
