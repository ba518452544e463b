/-
Catalogs depend on nothing but the query files.

Two directories may differ in anything else: in files with other extensions, in links, in
directories that can be listed and hold no query file.  A walk through one of them comes upon
other files than a walk through the other, but the query files among them come in the same order,
and all that is done with them is the same.

* `SameQueries`, `SameClosed` — two directories with the same query files, and with the same
  directories that stop a search;
* `queryFiles_filter` — files with other extensions might as well not be there;
* `collectOpened_congr` — such directories give the same catalog, or fail alike;
* `Catalog.collect_congr` — so do two trees;
* `Catalog.not_collect_congr_of_sameQueries` — with the same query files alone they need not.
-/
import Mathlib
import NamedSql.Proofs.Grouping
import NamedSql.Proofs.Searching

namespace NamedSql

open Files

section

-- two directories that the names of `above` lead to, in one tree each
variable (above : List Name) (directory directory' : Directory)

/-- Two directories have the same files with an extension, at the same paths, and reading them
there gives the same. -/
def SameQueries (suffix : String) : Prop :=
  ∀ names content, extensionOf? names = some suffix →
    ((∃ file, directory.nodeAt? names = some (.leaf (.file file)) ∧
        readAt (directory.obstacle? above names) file = content) ↔
      ∃ file, directory'.nodeAt? names = some (.leaf (.file file)) ∧
        readAt (directory'.obstacle? above names) file = content)

/-- Walks through two directories come upon the same directories that cannot be listed, and for
the same reasons. -/
def SameClosed : Prop :=
  ∀ names cause,
    Meets (directory.obstacle? above) [] (.dir directory) names (.closed cause) ↔
      Meets (directory'.obstacle? above) [] (.dir directory') names (.closed cause)

end

/-- The paths of all regular files below a directory are texts. -/
def TextPaths (directory : Directory) : Prop :=
  ∀ names file, directory.nodeAt? names = some (.leaf (.file file)) →
    Utf8.IsText (relativePath names)

/-- Whether a search takes notice of what a walk comes upon: of query files, and of directories
that cannot be listed. -/
def Visit.concerns (suffix : String) (visit : Visit) : Bool :=
  match visit.sight with
  | .file _ => extensionOf? visit.names = some suffix
  | .closed _ => true

variable {root suffix : String} {above : List Name} {directory directory' : Directory}

/-! ### What a search takes notice of -/

/-- On the way to a query file, one directory is stopped at where the other is. -/
theorem Opens.congr {names : List Name} (hclosed : SameClosed above directory directory')
    (h : Opens (directory.obstacle? above) [] directory names) :
    Opens (directory'.obstacle? above) [] directory' names := by
  refine (opens_or_exists_closed [] directory' names).resolve_right ?_
  rintro ⟨front, name, behind, mode, cause, hsplit, hmode, hcause, hopens⟩
  -- the directory at which the walk stops is on the way in both trees
  obtain ⟨-, mode', hmode', hcause'⟩ := meets_closed_iff.mp
    ((hclosed front cause).mpr (meets_closed_iff.mpr ⟨hopens, mode, hmode, hcause⟩))
  cases hcause'.symm.trans (h front name behind hsplit mode' hmode')

theorem SameClosed.symm (h : SameClosed above directory directory') :
    SameClosed above directory' directory :=
  fun names cause => (h names cause).symm

/-- Walks come upon the same that concerns a search. -/
theorem mem_filter_walk_congr (h : directory.WellFormed) (h' : directory'.WellFormed)
    (hsame : SameQueries above directory directory' suffix)
    (hclosed : SameClosed above directory directory') {visit : Visit} :
    visit ∈ (walk (directory.obstacle? above) directory).filter (Visit.concerns suffix) ↔
      visit ∈ (walk (directory'.obstacle? above) directory').filter (Visit.concerns suffix) := by
  rw [List.mem_filter, List.mem_filter, mem_walk_iff h, mem_walk_iff h']
  refine and_congr_left fun hconcerns => ?_
  rcases visit with ⟨names, _ | cause⟩
  case closed => exact hclosed names cause
  case file content =>
    have hfiles := hsame names content (of_decide_eq_true hconcerns)
    rw [meets_file_iff, meets_file_iff, hfiles]
    exact and_congr_left fun _ => ⟨Opens.congr hclosed, Opens.congr hclosed.symm⟩

theorem filter_walk_congr (h : directory.WellFormed) (h' : directory'.WellFormed)
    (hsame : SameQueries above directory directory' suffix)
    (hclosed : SameClosed above directory directory') :
    (walk (directory.obstacle? above) directory).filter (Visit.concerns suffix) =
      (walk (directory'.obstacle? above) directory').filter (Visit.concerns suffix) :=
  eq_of_pairwise_names ((pairwise_walk h).filter _) ((pairwise_walk h').filter _)
    fun _ => mem_filter_walk_congr h h' hsame hclosed

/-- Files with other extensions might as well not be there, if their paths are texts. -/
theorem queryFiles_filter {visits : List Visit}
    (h : ∀ visit ∈ visits, ∀ content, visit.sight = .file content →
      Utf8.IsText (relativePath visit.names)) :
    queryFiles root suffix visits =
      queryFiles root suffix (visits.filter (Visit.concerns suffix)) := by
  induction visits with
  | nil => rfl
  | cons first rest ih =>
    obtain ⟨hfirst, hrest⟩ := List.forall_mem_cons.mp h
    by_cases hconcerns : first.concerns suffix = true
    · rw [List.filter_cons_of_pos hconcerns, queryFiles, queryFiles, ih hrest]
    · -- a file that is of no concern has another extension, and its path is a text, so it is no
      -- fault
      have hnone : first.query? root suffix = .ok none := by
        cases hsight : first.sight with
        | closed cause => simp [Visit.concerns, hsight] at hconcerns
        | file content =>
          obtain ⟨path, hpath⟩ := hfirst content hsight
          have hextension : extensionOf? first.names ≠ some suffix := by
            simpa [Visit.concerns, hsight] using hconcerns
          rw [Visit.query?_of_file hsight, queryFile?_of_encode hpath, if_neg hextension]
      rw [List.filter_cons_of_neg hconcerns, queryFiles, hnone]
      exact ih hrest

theorem TextPaths.isText_of_mem_walk (htext : TextPaths directory) (h : directory.WellFormed)
    {visit : Visit} (hvisit : visit ∈ walk (directory.obstacle? above) directory)
    (content : Except FileError (List UInt8)) (hsight : visit.sight = .file content) :
    Utf8.IsText (relativePath visit.names) := by
  have hmeets := (mem_walk_iff h).mp hvisit
  rw [hsight] at hmeets
  obtain ⟨-, file, hfile, -⟩ := meets_file_iff.mp hmeets
  exact htext visit.names file hfile

/-! ### Collecting -/

/-- Directories with the same query files give the same catalog, or fail alike. -/
theorem collectOpened_congr {path : String} {options : Options} (h : directory.WellFormed)
    (h' : directory'.WellFormed) (htext : TextPaths directory) (htext' : TextPaths directory')
    (hsame : SameQueries above directory directory' (trimSuffix options.suffix))
    (hclosed : SameClosed above directory directory') :
    Catalog.collectOpened (.ok { above, path, directory }) options =
      Catalog.collectOpened (.ok { above, path, directory := directory' }) options := by
  rw [Catalog.collectOpened, Catalog.collectOpened, discoverOpened, discoverOpened]
  dsimp only [SearchRoot.walk]
  rw [queryFiles_filter fun _ => htext.isText_of_mem_walk h,
    queryFiles_filter fun _ => htext'.isText_of_mem_walk h', filter_walk_congr h h' hsame hclosed]

/-- **Only query files matter.**  Take two trees in which the root leads to a directory at the
same place, which can be reached by its path in both or in neither, with no regular file below
whose path is no text.  If both have the same files with the extension below it, reading them
gives the same, and a walk is stopped at the same directories in both, then collecting gives the
same catalog or the same error.  All else may differ: other files, links, directories that can be
listed and hold no query file. -/
theorem Catalog.collect_congr {files files' : FileSystem} {options : Options}
    (hroot : files.canonical (Utf8.encode root) = .ok (above, .dir directory))
    (hroot' : files'.canonical (Utf8.encode root) = .ok (above, .dir directory'))
    (hreached : files.root.obstacle? [] above = none ↔ files'.root.obstacle? [] above = none)
    (htext : TextPaths directory) (htext' : TextPaths directory')
    (hsame : SameQueries above directory directory' (trimSuffix options.suffix))
    (hclosed : SameClosed above directory directory') :
    collect files root options = collect files' root options := by
  have hformed : directory.WellFormed :=
    (Directory.wellFormed_nodeAt? files.wellFormed (nodeAt?_of_canonical hroot)).2
  have hformed' : directory'.WellFormed :=
    (Directory.wellFormed_nodeAt? files'.wellFormed (nodeAt?_of_canonical hroot')).2
  rw [collect, collect, openRoot, openRoot, hroot, hroot']
  dsimp only
  cases Utf8.decode? (absolutePath above) with
  | none => rfl
  | some path =>
    -- what keeps the path from leading back does not matter, only whether anything does
    cases hobstacle : files.root.obstacle? [] above with
    | none =>
      rw [hreached.mp hobstacle]
      exact collectOpened_congr hformed hformed' htext htext' hsame hclosed
    | some cause =>
      cases hobstacle' : files'.root.obstacle? [] above with
      | none =>
        rw [hreached.mpr hobstacle'] at hobstacle
        cases hobstacle
      | some cause' => rfl

/-! ### Searches that succeed -/

/-- Below a directory that has been searched, all paths are texts. -/
theorem textPaths_of_queryFiles {top : SearchRoot} {found : List Discovered}
    (h : top.directory.WellFormed)
    (hfound : queryFiles top.path suffix top.walk = .ok found) : TextPaths top.directory := by
  intro names file hnode
  by_contra htext
  have hopens := opens_of_forall_not_closed (not_meets_closed_of_queryFiles h hfound) names
  have hvisit : ⟨names, .file (readAt (top.directory.obstacle? top.above names) file)⟩ ∈
      top.walk := (mem_walk_iff h).mpr (meets_file_iff.mpr ⟨hopens, file, hnode, rfl⟩)
  refine (queryFiles_eq_ok hfound).2 _ hvisit (.invalidPath (shownBelow top.path names)) ?_
  rw [Visit.query?_of_file rfl, queryFile?_of_not_isText htext]

theorem sameClosed_of_queryFiles {top top' : SearchRoot} {suffix' : String}
    {found found' : List Discovered} (h : top.directory.WellFormed)
    (h' : top'.directory.WellFormed) (habove : top'.above = top.above)
    (hfound : queryFiles top.path suffix top.walk = .ok found)
    (hfound' : queryFiles top'.path suffix' top'.walk = .ok found') :
    SameClosed top.above top.directory top'.directory := by
  intro names cause
  refine iff_of_false (not_meets_closed_of_queryFiles h hfound names cause) ?_
  rw [← habove]
  exact not_meets_closed_of_queryFiles h' hfound' names cause

/-- Where a query file is, and what reading it gives. -/
def Discovered.seen (discovered : Discovered) : List Name × Except FileError (List UInt8) :=
  (discovered.names, discovered.content)

/-- What is seen in all query files that are found is all that there is to be seen. -/
theorem Finds.mem_map_seen_iff {top : SearchRoot} {found : List Discovered}
    (h : Finds top suffix found) {names : List Name} {content : Except FileError (List UInt8)} :
    (names, content) ∈ found.map Discovered.seen ↔
      extensionOf? names = some suffix ∧
        ∃ file, top.directory.nodeAt? names = some (.leaf (.file file)) ∧
          readAt (top.directory.obstacle? top.above names) file = content := by
  rw [List.mem_map]
  constructor
  · rintro ⟨file, hfile, hseen⟩
    obtain ⟨rfl, rfl⟩ := Prod.mk.inj hseen
    exact ⟨((h.complete _).mp (List.mem_map_of_mem hfile)).1, h.contents file hfile⟩
  · rintro ⟨hextension, stored, hstored, rfl⟩
    obtain ⟨file, hfile, rfl⟩ := List.mem_map.mp ((h.complete names).mpr ⟨hextension, _, hstored⟩)
    obtain ⟨stored', hstored', hcontent⟩ := h.contents file hfile
    cases hstored.symm.trans hstored'
    exact ⟨file, hfile, Prod.ext rfl hcontent.symm⟩

/-- Two searches that find the same have the same query files below their roots. -/
theorem sameQueries_of_finds {top top' : SearchRoot} {found found' : List Discovered}
    (h : Finds top suffix found) (h' : Finds top' suffix found') (habove : top'.above = top.above)
    (hseen : found.map Discovered.seen = found'.map Discovered.seen) :
    SameQueries top.above top.directory top'.directory suffix := by
  intro names content hextension
  have hmem : (names, content) ∈ found.map Discovered.seen ↔ _ := h.mem_map_seen_iff
  rw [hseen, h'.mem_map_seen_iff, habove] at hmem
  exact ((and_congr_right_iff.mp hmem) hextension).symm

theorem exists_top_of_discover {files : FileSystem}
    {seen : List (List Name × Except FileError (List UInt8))}
    (h : (discover files root suffix).map (List.map Discovered.seen) = .ok seen) :
    ∃ top found, openRoot files root = .ok top ∧
      queryFiles top.path (trimSuffix suffix) top.walk = .ok found ∧
      found.map Discovered.seen = seen := by
  cases hdiscover : discover files root suffix with
  | error error =>
    rw [hdiscover] at h
    cases h
  | ok found =>
    rw [hdiscover] at h
    obtain ⟨top, hopen, hfound⟩ := exists_openRoot_of_discover hdiscover
    exact ⟨top, found, hopen, hfound, Except.ok.inj h⟩

/-- One query file. -/
def plainTree : FileSystem :=
  FileSystem.empty.put (Utf8.encode "/q/users/list.sql") (Utf8.encode "SELECT :a")

/-- The same query file among other files, links and a directory without files. -/
def crowdedTree : FileSystem :=
  ((((FileSystem.empty.put (Utf8.encode "/q/zoo/notes.txt") (Utf8.encode ":b")).link
    (Utf8.encode "/q/admin/list.sql") (Utf8.encode "../users/list.sql")).link
    (Utf8.encode "/q/alias") (Utf8.encode "users")).makeDirectories (Utf8.encode "/q/empty")).put
    (Utf8.encode "/q/users/list.sql") (Utf8.encode "SELECT :a")

theorem collect_crowded_tree :
    Catalog.collect crowdedTree "/q" Catalog.plainOptions =
        Catalog.collect plainTree "/q" Catalog.plainOptions ∧
      (Catalog.collect plainTree "/q" Catalog.plainOptions).map Catalog.size = .ok 1 := by
  have hcrowded : (discover crowdedTree "/q" "sql").map (List.map Discovered.seen) =
      .ok [([Utf8.encode "users", Utf8.encode "list.sql"], .ok (Utf8.encode "SELECT :a"))] := by
    decide +kernel
  have hplain : (discover plainTree "/q" "sql").map (List.map Discovered.seen) =
      .ok [([Utf8.encode "users", Utf8.encode "list.sql"], .ok (Utf8.encode "SELECT :a"))] := by
    decide +kernel
  obtain ⟨top, found, hopen, hfound, hseen⟩ := exists_top_of_discover hcrowded
  obtain ⟨top', found', hopen', hfound', hseen'⟩ := exists_top_of_discover hplain
  have hsameAbove : top'.above = top.above := by
    have habove : (openRoot crowdedTree "/q").map SearchRoot.above =
        (openRoot plainTree "/q").map SearchRoot.above := by
      decide +kernel
    rw [hopen, hopen'] at habove
    exact (Except.ok.inj habove).symm
  have hroot := openRoot_eq_ok_iff.mp hopen
  have hroot' := openRoot_eq_ok_iff.mp hopen'
  rw [hsameAbove] at hroot'
  have htop := liesIn_of_openRoot hopen
  have htop' := liesIn_of_openRoot hopen'
  refine ⟨Catalog.collect_congr hroot.1 hroot'.1 (iff_of_true hroot.2.2 hroot'.2.2)
    (textPaths_of_queryFiles htop.wellFormed hfound)
    (textPaths_of_queryFiles htop'.wellFormed hfound')
    (sameQueries_of_finds (finds_of_queryFiles htop hfound) (finds_of_queryFiles htop' hfound')
      hsameAbove (hseen.trans hseen'.symm))
    (sameClosed_of_queryFiles htop.wellFormed htop'.wellFormed hsameAbove hfound hfound'), ?_⟩
  decide +kernel

/-- `usersFiles` as it is seen from within the directory of the queries, below a root with a
mode. -/
def standingFiles (mode : Mode) : FileSystem :=
  { usersFiles with
    root := { usersFiles.root with mode }
    workingDirectory := [Utf8.encode "q"]
    wellFormed := usersFiles.wellFormed }

theorem canonical_standingFiles (mode : Mode) :
    (standingFiles mode).canonical (Utf8.encode ".") =
      .ok (usersRoot.above, .dir usersRoot.directory) := by
  rfl

theorem textPaths_usersRoot : TextPaths usersRoot.directory := by
  have hfound : (discover usersFiles "/q" "sql").isOk = true := by
    rw [discover, openRoot_usersFiles]
    decide +kernel
  cases hdiscover : discover usersFiles "/q" "sql" with
  | error error =>
    rw [hdiscover] at hfound
    cases hfound
  | ok found =>
    rw [discover_of_openRoot openRoot_usersFiles] at hdiscover
    exact textPaths_of_queryFiles (liesIn_of_openRoot openRoot_usersFiles).wellFormed hdiscover

/-- A directory that cannot be listed stops a search, though it holds no query file. -/
theorem Catalog.not_collect_congr_closedFiles :
    ¬ ∀ (files files' : FileSystem) (root : String) (options : Options) (above : List Name)
      (directory directory' : Directory),
      files.canonical (Utf8.encode root) = .ok (above, .dir directory) →
      files'.canonical (Utf8.encode root) = .ok (above, .dir directory') →
      TextPaths directory → TextPaths directory' →
      SameQueries above directory directory' (trimSuffix options.suffix) →
      collect files root options = collect files' root options := by
  intro h
  have hcollected : (collect usersFiles "/q" plainOptions).isOk = true := by
    decide +kernel
  have hfails : collect closedFiles "/q" plainOptions =
      .error (.discover (.walk "/q" "/q/closed" .permissionDenied)) := by
    have hsuffix : plainOptions.suffix = "sql" := rfl
    rw [collect, collectOpened, ← discover, hsuffix, discover_closedFiles]
  have hfree : usersRoot.directory.entries.find? (Utf8.encode "closed") = none := by
    decide
  have htext' : TextPaths closedRoot.directory := fun names file hnode =>
    textPaths_usersRoot names file ((nodeAt?_set_empty_eq_leaf_iff hfree).mp hnode)
  have hsame : SameQueries usersRoot.above usersRoot.directory closedRoot.directory
      (trimSuffix plainOptions.suffix) := by
    intro names content _
    refine exists_congr fun file => ?_
    have hiff : closedRoot.directory.nodeAt? names = some (.leaf (.file file)) ↔ _ :=
      nodeAt?_set_empty_eq_leaf_iff hfree
    rw [hiff]
    refine and_congr_right fun hnode => ?_
    have hobstacle : closedRoot.directory.obstacle? usersRoot.above names = _ :=
      obstacle?_set_empty hfree hnode usersRoot.above
    rw [hobstacle]
  have hequal := h usersFiles closedFiles "/q" plainOptions usersRoot.above usersRoot.directory
    closedRoot.directory (openRoot_eq_ok_iff.mp openRoot_usersFiles).1
    (openRoot_eq_ok_iff.mp openRoot_closedFiles).1 textPaths_usersRoot htext'
    hsame
  rw [hequal, hfails] at hcollected
  cases hcollected

/-- The same query files do not always give the same catalog: a directory without any may be one
that cannot be listed.  Nor do they if walks are stopped at the same directories: the root may be
the working directory, and its own path may lead through a directory that lets nobody through. -/
theorem Catalog.not_collect_congr_of_sameQueries :
    (¬ ∀ (files files' : FileSystem) (root : String) (options : Options) (above : List Name)
      (directory directory' : Directory),
      files.canonical (Utf8.encode root) = .ok (above, .dir directory) →
      files'.canonical (Utf8.encode root) = .ok (above, .dir directory') →
      TextPaths directory → TextPaths directory' →
      SameQueries above directory directory' (trimSuffix options.suffix) →
      collect files root options = collect files' root options) ∧
    ¬ ∀ (files files' : FileSystem) (root : String) (options : Options) (above : List Name)
      (directory directory' : Directory),
      files.canonical (Utf8.encode root) = .ok (above, .dir directory) →
      files'.canonical (Utf8.encode root) = .ok (above, .dir directory') →
      TextPaths directory → TextPaths directory' →
      SameQueries above directory directory' (trimSuffix options.suffix) →
      SameClosed above directory directory' →
      collect files root options = collect files' root options := by
  constructor
  case left => exact not_collect_congr_closedFiles
  case right =>
    intro h
    have hequal := h (standingFiles 0o755) (standingFiles 0) "." plainOptions _ _ _
      (canonical_standingFiles 0o755) (canonical_standingFiles 0) textPaths_usersRoot
      textPaths_usersRoot (fun _ _ _ => Iff.rfl) fun _ _ => Iff.rfl
    have hcollected : (collect (standingFiles 0o755) "." plainOptions).isOk = true := by
      decide +kernel
    have hfails : (collect (standingFiles 0) "." plainOptions).isOk = false := by
      decide +kernel
    rw [hequal, hfails] at hcollected
    cases hcollected

end NamedSql
