/-
What a search for query files finds, and what stops it.

A search looks at all that a walk comes upon, one by one.  A file is passed over, found, or at
fault; a directory that cannot be listed is at fault.  The first fault ends the search.  As a walk
goes in the order of names, so do the files found, and the fault that is reported is the first in
that order.

* `extensionOf?` — the extension of a file, by the last of the names that lead to it;
* `Visit.query?_cases` — the three things that can come of looking at what is come upon;
* `queryFiles_eq_ok`, `queryFiles_eq_error_iff` — what comes of looking at all of it;
* `AtFault`, `FirstFault` — what is wrong with an entry below a root, and with the first such one;
* `discover_complete_ordered` — a search finds all query files below the root, each once and in
  order, or reports the first fault;
* `not_discover_fails_iff_file` — files alone do not decide whether a search fails.
-/
import Mathlib
import NamedSql.Proofs.Discovery
import NamedSql.Proofs.Naming
import NamedSql.Proofs.Relisting

namespace NamedSql

open Files

/-- The extension of what names lead to, if its name is a text and has one. -/
def extensionOf? (names : List Name) : Option String :=
  (names.getLast?.bind Utf8.decode?).bind Path.extension?

/-- The names along the path of a query file below the root. -/
def Discovered.names (discovered : Discovered) : List Name :=
  (Utf8.encode discovered.file.relativePath).splitOn slash

/-- A query file stands for a file that a walk below a root has come upon: it has its path, the
names that the path gives, and what reading it gives. -/
structure Discovered.StandsFor (root suffix : String) (visit : Visit)
    (discovered : Discovered) : Prop where
  sight : visit.sight = .file discovered.content
  extension : extensionOf? visit.names = some suffix
  relativePath : Utf8.encode discovered.file.relativePath = Files.relativePath visit.names
  path : discovered.file.path = pathBelow root discovered.file.relativePath
  name : QueryName.ofPath discovered.file.relativePath suffix = .ok discovered.file.name

/-! ### Names that are texts -/

/-- If a path is a text, so are the names along it. -/
theorem exists_texts_of_isText {names : List Name} (h : Utf8.IsText (relativePath names)) :
    ∃ texts, names.mapM Utf8.decode? = some texts := by
  induction names with
  | nil => exact ⟨[], rfl⟩
  | cons first rest ih =>
    cases rest with
    | nil =>
      rw [relativePath, List.intercalate_singleton] at h
      obtain ⟨text, htext⟩ := h
      refine ⟨[text], ?_⟩
      rw [List.mapM_cons, Utf8.decode?_eq_some_iff.mpr htext]
      rfl
    | cons second rest =>
      -- the slash between the names cuts the text in two
      rw [relativePath, List.intercalate_cons_cons, List.append_assoc, List.singleton_append] at h
      obtain ⟨⟨text, htext⟩, hrest⟩ := h.cut (by decide)
      obtain ⟨texts, htexts⟩ := ih hrest
      refine ⟨text :: texts, ?_⟩
      rw [List.mapM_cons, Utf8.decode?_eq_some_iff.mpr htext, htexts]
      rfl

theorem extensionOf?_map_encode (texts : List String) :
    extensionOf? (texts.map Utf8.encode) = texts.getLast?.bind Path.extension? := by
  rw [extensionOf?, List.getLast?_map]
  cases texts.getLast? with
  | none => rfl
  | some text =>
    rw [Option.map_some, Option.bind_some, Utf8.decode?_encode]

/-! ### One file -/

section

variable {root suffix : String} {names : List Name} {content : Except FileError (List UInt8)}

theorem queryFile?_of_not_isText (h : ¬ Utf8.IsText (relativePath names)) :
    queryFile? root suffix names content = .error (.invalidPath (shownBelow root names)) := by
  have hnone : names.mapM Utf8.decode? = none := by
    rw [Option.eq_none_iff_forall_ne_some]
    intro texts htexts
    refine h ⟨"/".intercalate texts, ?_⟩
    rw [encode_intercalate, names_of_mapM_decode? htexts]
  rw [queryFile?, hnone]

/-- What comes of looking at a file whose path is a text. -/
theorem queryFile?_of_encode {path : String} (h : Utf8.encode path = relativePath names) :
    queryFile? root suffix names content =
      if extensionOf? names = some suffix then
        match QueryName.ofPath path suffix with
        | .ok name =>
          .ok (some
            { file := { path := pathBelow root path, relativePath := path, name }, content })
        | .error error => .error (.name error)
      else .ok none := by
  obtain ⟨texts, htexts⟩ := exists_texts_of_isText ⟨path, h⟩
  have hnames := names_of_mapM_decode? htexts
  have hpath : "/".intercalate texts = path := by
    refine Utf8.encode_injective ?_
    rw [encode_intercalate, h, hnames]
  rw [queryFile?, htexts, hnames, extensionOf?_map_encode]
  subst hpath
  rfl

variable {visit : Visit}

theorem Visit.query?_of_file (h : visit.sight = .file content) :
    visit.query? root suffix = queryFile? root suffix visit.names content := by
  rw [Visit.query?, h]

theorem Visit.query?_of_closed {cause : FileError} (h : visit.sight = .closed cause) :
    visit.query? root suffix = .error (.walk root (shownBelow root visit.names) cause) := by
  rw [Visit.query?, h]

/-- What is come upon is at fault, passed over, or found. -/
theorem Visit.query?_cases (root suffix : String) (visit : Visit) :
    (∃ error, visit.query? root suffix = .error error) ∨
      (visit.query? root suffix = .ok none ∧ extensionOf? visit.names ≠ some suffix) ∨
      ∃ discovered, visit.query? root suffix = .ok (some discovered) ∧
        discovered.StandsFor root suffix visit := by
  cases hsight : visit.sight with
  | closed cause => exact .inl ⟨_, Visit.query?_of_closed hsight⟩
  | file content =>
    rw [Visit.query?_of_file hsight]
    by_cases htext : Utf8.IsText (relativePath visit.names)
    · obtain ⟨path, hpath⟩ := htext
      rw [queryFile?_of_encode hpath]
      by_cases hextension : extensionOf? visit.names = some suffix
      · rw [if_pos hextension]
        cases hname : QueryName.ofPath path suffix with
        | error error => exact .inl ⟨.name error, rfl⟩
        | ok name => exact .inr (.inr ⟨_, rfl, hsight, hextension, hpath, rfl, hname⟩)
      · rw [if_neg hextension]
        exact .inr (.inl ⟨rfl, hextension⟩)
    · exact .inl ⟨_, queryFile?_of_not_isText htext⟩

/-! ### All that is come upon -/

/-- When nothing is at fault, the files with the extension are found. -/
theorem queryFiles_eq_ok {visits : List Visit} {found : List Discovered}
    (h : queryFiles root suffix visits = .ok found) :
    List.Forall₂ (Discovered.StandsFor root suffix)
        (visits.filter fun visit => extensionOf? visit.names = some suffix) found ∧
      ∀ visit ∈ visits, ∀ error, visit.query? root suffix ≠ .error error := by
  induction visits generalizing found with
  | nil =>
    cases h
    exact ⟨.nil, fun _ hvisit => absurd hvisit List.not_mem_nil⟩
  | cons first rest ih =>
    rw [queryFiles] at h
    rcases first.query?_cases root suffix with
      ⟨error, herror⟩ | ⟨hnone, hextension⟩ | ⟨discovered, hsome, hstands⟩
    · rw [herror] at h
      cases h
    · rw [hnone] at h
      obtain ⟨hothers, hfaults⟩ := ih h
      rw [List.filter_cons_of_neg (by simpa using hextension)]
      exact ⟨hothers, List.forall_mem_cons.mpr ⟨by simp [hnone], hfaults⟩⟩
    · rw [hsome] at h
      dsimp only at h
      split at h
      · rename_i others hrest
        cases h
        obtain ⟨hothers, hfaults⟩ := ih hrest
        rw [List.filter_cons_of_pos (by simpa using hstands.extension)]
        exact ⟨.cons hstands hothers, List.forall_mem_cons.mpr ⟨by simp [hsome], hfaults⟩⟩
      · cases h

/-- The first fault is reported. -/
theorem queryFiles_eq_error_iff {visits : List Visit} {error : DiscoverError} :
    queryFiles root suffix visits = .error error ↔
      ∃ front visit behind, visits = front ++ visit :: behind ∧
        visit.query? root suffix = .error error ∧
        ∀ earlier ∈ front, ∀ other, earlier.query? root suffix ≠ .error other := by
  constructor
  · intro h
    induction visits with
    | nil => cases h
    | cons first rest ih =>
      rw [queryFiles] at h
      -- a fault behind a first entry that is not at fault
      have hbehind {result : Option Discovered} (hfirst : first.query? root suffix = .ok result)
          (hrest : queryFiles root suffix rest = .error error) :
          ∃ front visit behind, first :: rest = front ++ visit :: behind ∧
            visit.query? root suffix = .error error ∧
            ∀ earlier ∈ front, ∀ other, earlier.query? root suffix ≠ .error other := by
        obtain ⟨front, visit, behind, hsplit, hfault, hfront⟩ := ih hrest
        refine ⟨first :: front, visit, behind, by rw [hsplit, List.cons_append], hfault, ?_⟩
        exact List.forall_mem_cons.mpr ⟨by simp [hfirst], hfront⟩
      rcases first.query?_cases root suffix with
        ⟨error', herror⟩ | ⟨hnone, -⟩ | ⟨discovered, hsome, -⟩
      · rw [herror] at h
        cases h
        exact ⟨[], first, rest, rfl, herror, fun _ hearlier => absurd hearlier List.not_mem_nil⟩
      · rw [hnone] at h
        exact hbehind hnone h
      · rw [hsome] at h
        dsimp only at h
        split at h
        · cases h
        · rename_i hrest
          cases h
          exact hbehind hsome hrest
  · rintro ⟨front, visit, behind, rfl, hfault, hfront⟩
    induction front with
    | nil => rw [List.nil_append, queryFiles, hfault]
    | cons first front ih =>
      obtain ⟨hfirst, hothers⟩ := List.forall_mem_cons.mp hfront
      rw [List.cons_append, queryFiles]
      rcases first.query?_cases root suffix with
        ⟨error', herror⟩ | ⟨hnone, -⟩ | ⟨discovered, hsome, -⟩
      · exact absurd herror (hfirst error')
      · rw [hnone]
        exact ih hothers
      · rw [hsome, ih hothers]

end

/-! ### Faults below a root -/

section

variable {top : SearchRoot} {suffix : String}

/-- What is wrong with an entry that names lead to below a root: it is a file and its path is no
text, or it has the extension of a query file but its path gives no names; or it is a directory
that cannot be listed. -/
inductive Fault (top : SearchRoot) (suffix : String) (names : List Name) :
    Entry → DiscoverError → Prop
  | path {file} (h : ¬ Utf8.IsText (relativePath names)) :
      Fault top suffix names (.leaf (.file file)) (.invalidPath (shownBelow top.path names))
  | name {file path error} (hpath : Utf8.encode path = relativePath names)
      (hextension : extensionOf? names = some suffix)
      (hname : QueryName.ofPath path suffix = .error error) :
      Fault top suffix names (.leaf (.file file)) (.name error)
  | closed {mode cause}
      (h : refusal? (top.directory.obstacle? top.above names) mode = some cause) :
      Fault top suffix names (.directory mode)
        (.walk top.path (shownBelow top.path names) cause)

/-- What names lead to below a root is at fault. -/
def AtFault (top : SearchRoot) (suffix : String) (names : List Name) (error : DiscoverError) :
    Prop :=
  ∃ entry, top.directory.entryAt? names = some entry ∧ Fault top suffix names entry error

/-- The first entry at fault below a root, in the order of names, gives an error. -/
def FirstFault (top : SearchRoot) (suffix : String) (error : DiscoverError) : Prop :=
  ∃ names, AtFault top suffix names error ∧
    ∀ earlier < names, ∀ error', ¬ AtFault top suffix earlier error'

/-- What a walk shows of an entry is at fault when the entry is. -/
theorem query?_eq_error_iff {visit : Visit} {entry : Entry} {error : DiscoverError}
    (h : Shows (top.directory.obstacle? top.above) visit.names entry visit.sight) :
    visit.query? top.path suffix = .error error ↔ Fault top suffix visit.names entry error := by
  rcases visit with ⟨names, sight⟩
  dsimp only at h
  cases h with
  | closed hcause =>
    rw [Visit.query?_of_closed rfl]
    constructor
    · rintro ⟨⟩
      exact .closed hcause
    · intro hfault
      cases hfault with
      | closed hother =>
        cases hcause.symm.trans hother
        rfl
  | file =>
    rw [Visit.query?_of_file rfl]
    dsimp only
    constructor
    · intro herror
      by_cases htext : Utf8.IsText (relativePath names)
      · obtain ⟨path, hpath⟩ := htext
        rw [queryFile?_of_encode hpath] at herror
        split at herror
        · rename_i hextension
          split at herror
          · cases herror
          · rename_i hname
            cases herror
            exact .name hpath hextension hname
        · cases herror
      · rw [queryFile?_of_not_isText htext] at herror
        cases herror
        exact .path htext
    · intro hfault
      cases hfault with
      | path htext => exact queryFile?_of_not_isText htext
      | name hpath hextension hname => rw [queryFile?_of_encode hpath, if_pos hextension, hname]

/-- Of all that a walk below a root comes upon there is an entry. -/
theorem exists_entry_of_mem_walk {visit : Visit} (h : top.directory.WellFormed)
    (hvisit : visit ∈ top.walk) :
    ∃ entry, top.directory.entryAt? visit.names = some entry ∧
      Shows (top.directory.obstacle? top.above) visit.names entry visit.sight :=
  (meets_iff.mp ((mem_walk_iff h).mp hvisit)).2

theorem atFault_of_mem_walk {visit : Visit} {error : DiscoverError}
    (h : top.directory.WellFormed) (hvisit : visit ∈ top.walk)
    (herror : visit.query? top.path suffix = .error error) :
    AtFault top suffix visit.names error := by
  obtain ⟨entry, hentry, hshows⟩ := exists_entry_of_mem_walk h hvisit
  exact ⟨entry, hentry, (query?_eq_error_iff hshows).mp herror⟩

/-- If an entry is at fault, the walk comes upon it or upon a fault in front of it. -/
theorem exists_visit_of_atFault {names : List Name} {error : DiscoverError}
    (h : top.directory.WellFormed) (hfault : AtFault top suffix names error) :
    ∃ visit ∈ top.walk, (visit.names < names ∨ visit.names = names) ∧
      ∃ error', visit.query? top.path suffix = .error error' := by
  obtain ⟨entry, hentry, hfault⟩ := hfault
  have hcases : Opens (top.directory.obstacle? top.above) [] top.directory names ∨ _ :=
    opens_or_exists_closed [] top.directory names
  rcases hcases with hopens | ⟨front, name, behind, mode, cause, rfl, hmode, hcause, hopens⟩
  · have hshown : ∃ sight, Shows (top.directory.obstacle? top.above) names entry sight := by
      cases hfault with
      | path | name => exact ⟨_, .file⟩
      | closed hcause => exact ⟨_, .closed hcause⟩
    obtain ⟨sight, hshows⟩ := hshown
    exact ⟨{ names, sight }, (mem_walk_iff h).mpr (meets_iff.mpr ⟨hopens, entry, hentry, hshows⟩),
      .inr rfl, error, (query?_eq_error_iff hshows).mpr hfault⟩
  · have hlt : front ++ [] < front ++ name :: behind :=
      List.append_left_lt (List.nil_lt_cons name behind)
    rw [List.append_nil] at hlt
    exact ⟨{ names := front, sight := .closed cause },
      (mem_walk_iff h).mpr (meets_closed_iff.mpr ⟨hopens, mode, hmode, hcause⟩),
      .inl hlt, _, Visit.query?_of_closed rfl⟩

/-- The first entry at fault is the one that a search reports. -/
theorem queryFiles_walk_eq_error_iff (h : top.directory.WellFormed) {error : DiscoverError} :
    queryFiles top.path suffix top.walk = .error error ↔ FirstFault top suffix error := by
  have hordered : top.walk.Pairwise fun first second => first.names < second.names :=
    pairwise_walk h
  rw [queryFiles_eq_error_iff]
  constructor
  · rintro ⟨front, visit, behind, hsplit, hfault, hfront⟩
    have hvisit : visit ∈ top.walk := by
      rw [hsplit]
      exact List.mem_append_right front List.mem_cons_self
    refine ⟨visit.names, atFault_of_mem_walk h hvisit hfault, ?_⟩
    intro earlier hearlier error' hfault'
    obtain ⟨first, hfirst, hnames, error'', herror⟩ := exists_visit_of_atFault h hfault'
    -- the walk comes upon a fault in front of the first one
    have hlt : first.names < visit.names := by
      rcases hnames with hnames | hnames
      · exact List.lt_trans hnames hearlier
      · exact hnames ▸ hearlier
    rw [hsplit] at hfirst hordered
    obtain ⟨-, hbehind, -⟩ := List.pairwise_append.mp hordered
    rcases List.mem_append.mp hfirst with hmem | hmem
    · exact hfront first hmem error'' herror
    rcases List.mem_cons.mp hmem with rfl | hmem
    · exact List.lt_irrefl _ hlt
    · exact List.lt_asymm hlt ((List.pairwise_cons.mp hbehind).1 first hmem)
  · rintro ⟨names, ⟨entry, hentry, hfault⟩, hfirst⟩
    have hnone (visit : Visit) (hvisit : visit ∈ top.walk) (hlt : visit.names < names)
        (other : DiscoverError) : visit.query? top.path suffix ≠ .error other := fun herror =>
      hfirst _ hlt other (atFault_of_mem_walk h hvisit herror)
    obtain ⟨visit, hvisit, hnames, error', herror⟩ :=
      exists_visit_of_atFault h ⟨entry, hentry, hfault⟩
    obtain rfl : visit.names = names :=
      hnames.resolve_left fun hlt => hnone visit hvisit hlt error' herror
    obtain ⟨entry', hentry', hshows⟩ := exists_entry_of_mem_walk h hvisit
    cases hentry.symm.trans hentry'
    obtain ⟨front, behind, hsplit⟩ := List.append_of_mem hvisit
    refine ⟨front, visit, behind, hsplit, (query?_eq_error_iff hshows).mpr hfault, ?_⟩
    intro earlier hearlier
    refine hnone earlier ?_ ?_
    · rw [hsplit]
      exact List.mem_append_left _ hearlier
    · rw [hsplit] at hordered
      exact (List.pairwise_append.mp hordered).2.2 earlier hearlier visit List.mem_cons_self

theorem exists_error_of_queryFiles_walk_iff (h : top.directory.WellFormed) :
    (∃ error, queryFiles top.path suffix top.walk = .error error) ↔
      ∃ names error, AtFault top suffix names error := by
  constructor
  · rintro ⟨error, herror⟩
    obtain ⟨names, hfault, -⟩ := (queryFiles_walk_eq_error_iff h).mp herror
    exact ⟨names, error, hfault⟩
  · rintro ⟨names, error, hfault⟩
    obtain ⟨visit, hvisit, -, error', herror⟩ := exists_visit_of_atFault h hfault
    cases hresult : queryFiles top.path suffix top.walk with
    | error error'' => exact ⟨error'', rfl⟩
    | ok found => exact absurd herror ((queryFiles_eq_ok hresult).2 visit hvisit error')

/-! ### Query files below a root -/

/-- What a search finds below a root: every regular file with the extension, each once and in the
order of names, with the path that leads to it, its names, and what reading it there gives. -/
structure Finds (top : SearchRoot) (suffix : String) (found : List Discovered) : Prop where
  complete : ∀ names, names ∈ found.map Discovered.names ↔
    extensionOf? names = some suffix ∧
      ∃ file, top.directory.nodeAt? names = some (.leaf (.file file))
  ordered : (found.map Discovered.names).Pairwise (· < ·)
  paths : ∀ file ∈ found, Utf8.encode file.file.path = absolutePath (top.above ++ file.names)
  named : ∀ file ∈ found, QueryName.ofPath file.file.relativePath suffix = .ok file.file.name
  contents : ∀ file ∈ found, ∃ stored,
    top.directory.nodeAt? file.names = some (.leaf (.file stored)) ∧
      readAt (top.directory.obstacle? top.above file.names) stored = file.content

variable {visit : Visit} {discovered : Discovered} {found : List Discovered}

/-- A visit to a file leads to the file. -/
theorem exists_file_of_mem_walk {content : Except FileError (List UInt8)}
    (h : top.directory.WellFormed) (hvisit : visit ∈ top.walk)
    (hsight : visit.sight = .file content) :
    ∃ stored, top.directory.nodeAt? visit.names = some (.leaf (.file stored)) ∧
      readAt (top.directory.obstacle? top.above visit.names) stored = content :=
  (meets_file_iff.mp (hsight ▸ (mem_walk_iff h).mp hvisit)).2

/-- The paths of the files found are those of the files that they stand for. -/
theorem Discovered.StandsFor.names_eq (h : top.directory.WellFormed) (hvisit : visit ∈ top.walk)
    (hstands : discovered.StandsFor top.path suffix visit) :
    discovered.names = visit.names := by
  obtain ⟨stored, hstored, -⟩ := exists_file_of_mem_walk h hvisit hstands.sight
  have hvalid := (Directory.wellFormed_nodeAt? h hstored).1
  rw [Discovered.names, hstands.relativePath, Files.relativePath]
  refine List.splitOn_intercalate slash (fun name hname hslash => ?_) ?_
  · have hname := hvalid name hname
    simp [isName, hslash] at hname
  · rintro hnil
    rw [hnil] at hstored
    cases hstored

theorem map_names_of_queryFiles (h : top.directory.WellFormed)
    (hfound : queryFiles top.path suffix top.walk = .ok found) :
    found.map Discovered.names =
      (top.walk.filter fun visit => extensionOf? visit.names = some suffix).map Visit.names := by
  obtain ⟨hstands, -⟩ := queryFiles_eq_ok hfound
  have hmembers : List.Forall₂
      (fun visit discovered =>
        visit ∈ top.walk ∧ Discovered.StandsFor top.path suffix visit discovered)
      (top.walk.filter fun visit => extensionOf? visit.names = some suffix) found :=
    (List.forall₂_and_left _ _).mpr ⟨fun _ hvisit => List.mem_of_mem_filter hvisit, hstands⟩
  -- the files found stand for the visits one by one, and so have their names
  have hnames : List.Forall₂ (· = ·)
      ((top.walk.filter fun visit => extensionOf? visit.names = some suffix).map Visit.names)
      (found.map Discovered.names) := by
    rw [List.forall₂_map_left_iff, List.forall₂_map_right_iff]
    exact hmembers.imp fun visit discovered hvisit => (hvisit.2.names_eq h hvisit.1).symm
  rw [List.forall₂_eq_eq_eq] at hnames
  exact hnames.symm

/-- The path of a query file leads on from that of the root. -/
theorem Discovered.StandsFor.encode_path {root : String} {above : List Name}
    (habove : Utf8.encode root = absolutePath above) (hvalid : ∀ name ∈ above, name ≠ [])
    (hne : visit.names ≠ []) (hstands : discovered.StandsFor root suffix visit) :
    Utf8.encode discovered.file.path = absolutePath (above ++ visit.names) := by
  obtain ⟨texts, htexts⟩ := exists_texts_of_isText ⟨_, hstands.relativePath⟩
  have hnames := names_of_mapM_decode? htexts
  have hpath : "/".intercalate texts = discovered.file.relativePath := by
    refine Utf8.encode_injective ?_
    rw [encode_intercalate, hstands.relativePath, hnames]
  rw [hstands.path, ← hpath, hnames]
  refine encode_pathBelow habove hvalid ?_
  rintro rfl
  exact hne hnames

variable {files other : FileSystem}

/-- A search that succeeds has come upon no directory that cannot be listed. -/
theorem not_meets_closed_of_queryFiles (h : top.directory.WellFormed)
    (hfound : queryFiles top.path suffix top.walk = .ok found) (names : List Name)
    (cause : FileError) :
    ¬ Meets (top.directory.obstacle? top.above) [] (.dir top.directory) names
      (.closed cause) := by
  intro hmeets
  have hvisit : ⟨names, .closed cause⟩ ∈ top.walk := (mem_walk_iff h).mpr hmeets
  exact (queryFiles_eq_ok hfound).2 _ hvisit _ (Visit.query?_of_closed rfl)

/-- A search that succeeds has been stopped by no directory, so it finds all query files. -/
theorem finds_of_queryFiles (htop : top.LiesIn files)
    (hfound : queryFiles top.path suffix top.walk = .ok found) : Finds top suffix found := by
  have hformed := htop.wellFormed
  have hnames := map_names_of_queryFiles hformed hfound
  obtain ⟨hstandsFor, -⟩ := queryFiles_eq_ok hfound
  have hclosed := not_meets_closed_of_queryFiles hformed hfound
  have hopens := opens_of_forall_not_closed hclosed
  -- every file found stands for one that the walk comes upon
  have hvisited : ∀ discovered ∈ found, ∃ visit ∈ top.walk, discovered.names = visit.names ∧
      discovered.StandsFor top.path suffix visit := by
    intro discovered hdiscovered
    obtain ⟨visit, hmem, hstands⟩ := exists_of_mem_right hstandsFor hdiscovered
    have hwalk := List.mem_of_mem_filter hmem
    exact ⟨visit, hwalk, hstands.names_eq hformed hwalk, hstands⟩
  constructor
  case complete =>
    intro names
    rw [hnames, List.mem_map]
    constructor
    · rintro ⟨visit, hmem, rfl⟩
      obtain ⟨hwalk, hextension⟩ := List.mem_filter.mp hmem
      refine ⟨of_decide_eq_true hextension, ?_⟩
      cases hsight : visit.sight with
      | file content =>
        obtain ⟨stored, hstored, -⟩ := exists_file_of_mem_walk hformed hwalk hsight
        exact ⟨stored, hstored⟩
      | closed cause =>
        exact absurd (hsight ▸ (mem_walk_iff hformed).mp hwalk) (hclosed visit.names cause)
    · rintro ⟨hextension, file, hnode⟩
      have hwalk : ⟨names, .file (readAt (top.directory.obstacle? top.above names) file)⟩ ∈
          top.walk :=
        (mem_walk_iff hformed).mpr (meets_file_iff.mpr ⟨hopens names, file, hnode, rfl⟩)
      exact ⟨_, List.mem_filter.mpr ⟨hwalk, decide_eq_true hextension⟩, rfl⟩
  case ordered =>
    rw [hnames, List.pairwise_map]
    exact (pairwise_walk hformed).filter _
  case paths =>
    intro discovered hdiscovered
    obtain ⟨visit, hwalk, hsame, hstands⟩ := hvisited discovered hdiscovered
    obtain ⟨stored, hstored, -⟩ := exists_file_of_mem_walk hformed hwalk hstands.sight
    rw [hsame]
    refine hstands.encode_path htop.path (fun name => htop.ne_nil_of_mem) fun hnil => ?_
    rw [hnil] at hstored
    cases hstored
  case named =>
    intro discovered hdiscovered
    obtain ⟨visit, -, -, hstands⟩ := hvisited discovered hdiscovered
    exact hstands.name
  case contents =>
    intro discovered hdiscovered
    obtain ⟨visit, hwalk, hsame, hstands⟩ := hvisited discovered hdiscovered
    rw [hsame]
    exact exists_file_of_mem_walk hformed hwalk hstands.sight

variable {root : String}

/-- Where an opened root leads, a search goes through all that a walk comes upon. -/
theorem discover_of_openRoot (h : openRoot files root = .ok top) :
    discover files root suffix = queryFiles top.path (trimSuffix suffix) top.walk := by
  rw [discover, h]
  rfl

theorem exists_openRoot_of_discover (h : discover files root suffix = .ok found) :
    ∃ top, openRoot files root = .ok top ∧
      queryFiles top.path (trimSuffix suffix) top.walk = .ok found := by
  unfold discover discoverOpened at h
  split at h
  · cases h
  · rename_i top hopen
    exact ⟨top, hopen, h⟩

/-- In trees that look alike, the same root is opened, or opening it fails for the same reason. -/
theorem openRoot_cases {see : Leaf → Leaf} (h : files.LookAlike see other) (root : String) :
    (∃ error, openRoot files root = .error error ∧ openRoot other root = .error error) ∨
      ∃ (top : SearchRoot) (directory : Directory), openRoot files root = .ok top ∧
        openRoot other root = .ok { top with directory } ∧
        top.directory.LooksLike see directory := by
  rw [openRoot, openRoot]
  -- the root leads nowhere in both trees, or to no directory in both, or to directories that look
  -- alike
  rcases h.canonical (Utf8.encode root) with
    ⟨cause, hfiles, hother⟩ | ⟨names, entry, entry', hfiles, hother⟩ |
    ⟨names, directory, directory', hfiles, hother⟩
  · rw [hfiles, hother]
    exact .inl ⟨_, rfl, rfl⟩
  · rw [hfiles, hother]
    dsimp only
    cases Utf8.decode? (absolutePath names) with
    | none => exact .inl ⟨_, rfl, rfl⟩
    | some path => exact .inl ⟨_, rfl, rfl⟩
  · rw [hfiles, hother, h.entries.obstacle?_eq]
    dsimp only
    cases Utf8.decode? (absolutePath names) with
    | none => exact .inl ⟨_, rfl, rfl⟩
    | some path =>
      cases files.root.obstacle? [] names with
      | some cause => exact .inl ⟨_, rfl, rfl⟩
      | none =>
        exact .inr ⟨{ above := names, path, directory }, directory', rfl, rfl,
          h.entries.below (nodeAt?_of_canonical hfiles) (nodeAt?_of_canonical hother)⟩

/-- The order in which directories are listed decides nothing. -/
theorem discover_relisted (h : files.Relisted other) :
    discover other root suffix = discover files root suffix := by
  rw [discover, discover]
  rcases openRoot_cases h.lookAlike root with
    ⟨error, hfiles, hother⟩ | ⟨top, directory, hfiles, hother, halike⟩
  · rw [hfiles, hother]
  · rw [hfiles, hother]
    have hwalk : walk (directory.obstacle? top.above) directory =
        walk (top.directory.obstacle? top.above) top.directory := by
      rw [halike.obstacle?_eq]
      exact walk_eq_of_entryAt? (liesIn_of_openRoot hfiles).wellFormed
        (liesIn_of_openRoot hother).wellFormed halike.entryAt?_eq
    dsimp only [discoverOpened, SearchRoot.walk]
    rw [hwalk]

/-- **What a search finds.**  A search that succeeds finds exactly the regular files below the
root with the extension, at any depth and never through a link, each once and in the order of
names, with the canonical root in front of their paths.

Below a root with a path that is a text, a search fails exactly when some entry is at fault: the
path of a regular file is no text, or it has the extension and its path gives no names; or the
root or a directory below it cannot be listed.  The first such entry in the order of names gives
the error.  If the path of the root does not lead back to it, the root is no directory.

The order in which directories are listed decides nothing. -/
theorem discover_complete_ordered (files : FileSystem) (root suffix : String) :
    (∀ found, discover files root suffix = .ok found →
      ∃ top : SearchRoot,
        files.canonical (Utf8.encode root) = .ok (top.above, .dir top.directory) ∧
        Finds top (trimSuffix suffix) found) ∧
    (∀ top : SearchRoot,
      files.canonical (Utf8.encode root) = .ok (top.above, .dir top.directory) →
      Utf8.encode top.path = absolutePath top.above →
      (∀ cause, files.root.obstacle? [] top.above = some cause →
        discover files root suffix = .error (.notADirectory top.path)) ∧
      (files.root.obstacle? [] top.above = none →
        ((∃ error, discover files root suffix = .error error) ↔
          ∃ names error, AtFault top (trimSuffix suffix) names error) ∧
        ∀ error, discover files root suffix = .error error ↔
          FirstFault top (trimSuffix suffix) error)) ∧
    ∀ other, files.Relisted other → discover other root suffix = discover files root suffix := by
  refine ⟨fun found hfound => ?_, fun top hcanonical hpath => ⟨fun cause hcause => ?_,
    fun hreached => ?_⟩, fun other => discover_relisted⟩
  · obtain ⟨top, hopen, hqueries⟩ := exists_openRoot_of_discover hfound
    exact ⟨top, (openRoot_eq_ok_iff.mp hopen).1,
      finds_of_queryFiles (liesIn_of_openRoot hopen) hqueries⟩
  · rw [discover, openRoot, hcanonical]
    dsimp only
    rw [Utf8.decode?_eq_some_iff.mpr hpath, hcause]
    rfl
  · have hopen := openRoot_eq_ok_iff.mpr ⟨hcanonical, hpath, hreached⟩
    have hformed := (liesIn_of_openRoot hopen).wellFormed
    rw [discover_of_openRoot hopen]
    exact ⟨exists_error_of_queryFiles_walk_iff hformed,
      fun error => queryFiles_walk_eq_error_iff hformed⟩

end

/-- Query files in two directories, one with a dot behind the name of the other, and what is no
query file: a file with another extension, a link to a query file and one to a directory. -/
def dottedFiles : FileSystem :=
  ((((FileSystem.empty.put (Utf8.encode "/q/a.b/x.sql") (Utf8.encode "SELECT 1")).put
    (Utf8.encode "/q/a/x.sql") (Utf8.encode "SELECT 2")).put
    (Utf8.encode "/q/a/x.txt") (Utf8.encode "SELECT 3")).link
    (Utf8.encode "/q/a/y.sql") (Utf8.encode "x.sql")).link
    (Utf8.encode "/q/b") (Utf8.encode "a")

/-- A directory with one query file below it. -/
def usersFiles : FileSystem :=
  FileSystem.empty.put (Utf8.encode "/q/users/list.sql") (Utf8.encode "SELECT 1")

/-- The same directory with an empty one in it that grants nothing. -/
def closedFiles : FileSystem :=
  usersFiles.change [Utf8.encode "q"]
    (·.set (Utf8.encode "closed") (.dir { mode := 0, entries := .nil }))
    fun _ => Listing.wellFormed_set (by decide) trivial

/-- The root of a search in `usersFiles`. -/
def usersRoot : SearchRoot :=
  { above := [Utf8.encode "q"]
    path := "/q"
    directory :=
      { mode := 0o755
        entries := .dir (Utf8.encode "users") 0o755
          (.leaf (Utf8.encode "list.sql")
            (.file { content := Utf8.encode "SELECT 1", mode := 0o644 }) .nil) .nil } }

/-- The root of a search in `closedFiles`. -/
def closedRoot : SearchRoot :=
  { usersRoot with
    directory := usersRoot.directory.update
      (·.set (Utf8.encode "closed") (.dir { mode := 0, entries := .nil })) [] }

theorem openRoot_usersFiles : openRoot usersFiles "/q" = .ok usersRoot := by
  decide +kernel

theorem openRoot_closedFiles : openRoot closedFiles "/q" = .ok closedRoot := by
  decide +kernel

theorem discover_closedFiles :
    discover closedFiles "/q" "sql" = .error (.walk "/q" "/q/closed" .permissionDenied) := by
  have hrun : (discover closedFiles "/q" "sql").map List.length =
      .error (.walk "/q" "/q/closed" .permissionDenied) := by
    rw [discover, openRoot_closedFiles]
    decide +kernel
  cases hdiscover : discover closedFiles "/q" "sql" with
  | error error =>
    rw [hdiscover] at hrun
    exact congrArg Except.error (Except.error.inj hrun)
  | ok found =>
    rw [hdiscover] at hrun
    cases hrun

/-- A directory without entries adds no files to a tree. -/
theorem nodeAt?_set_empty_eq_leaf_iff {top : Directory} {name : Name} {mode : Mode}
    (hfree : top.entries.find? name = none) {names : List Name} {entry : Leaf} :
    (top.update (·.set name (.dir { mode, entries := .nil })) []).nodeAt? names =
        some (.leaf entry) ↔
      top.nodeAt? names = some (.leaf entry) := by
  cases names with
  | nil => simp [Directory.update, Directory.nodeAt?]
  | cons first rest =>
    rw [Directory.update, Directory.nodeAt?_cons, Directory.nodeAt?_cons, Listing.find?_set]
    by_cases hfirst : name = first
    · subst hfirst
      rw [if_pos rfl, hfree]
      cases rest <;> simp [Directory.nodeAt?, Listing.find?]
    · rw [if_neg hfirst]

/-- It does not change what stands in the way of the other files. -/
theorem obstacle?_set_empty {top : Directory} {name : Name} {mode : Mode}
    (hfree : top.entries.find? name = none) {names : List Name} {entry : Leaf}
    (hnode : top.nodeAt? names = some (.leaf entry)) (above : List Name) :
    (top.update (·.set name (.dir { mode, entries := .nil })) []).obstacle? above names =
      top.obstacle? above names := by
  cases names with
  | nil => cases hnode
  | cons first rest =>
    have hfirst : name ≠ first := by
      rintro rfl
      rw [Directory.nodeAt?_cons, hfree] at hnode
      cases hnode
    rw [Directory.update, Directory.obstacle?, Directory.obstacle?, Directory.admits,
      Directory.admits, Listing.find?_set, if_neg hfirst]

/-- Names are compared, and not paths: a slash comes behind a dot, but `a` before `a.b`.  An empty
directory that cannot be listed is a fault. -/
theorem discover_dotted_directories :
    (∃ found, ∃ top : SearchRoot, discover dottedFiles "/q" "..sql" = .ok found ∧
      (found.map fun file => file.file.relativePath) = ["a/x.sql", "a.b/x.sql"] ∧
      dottedFiles.canonical (Utf8.encode "/q") = .ok (top.above, .dir top.directory) ∧
      Finds top "sql" found) ∧
    closedFiles.canonical (Utf8.encode "/q") = .ok (closedRoot.above, .dir closedRoot.directory) ∧
    Utf8.encode closedRoot.path = absolutePath closedRoot.above ∧
    closedFiles.root.obstacle? [] closedRoot.above = none ∧
    discover closedFiles "/q" "sql" = .error (.walk "/q" "/q/closed" .permissionDenied) ∧
    FirstFault closedRoot "sql" (.walk "/q" "/q/closed" .permissionDenied) := by
  have hdotted : (discover dottedFiles "/q" "..sql").map
      (fun found => found.map fun file => file.file.relativePath) =
        .ok ["a/x.sql", "a.b/x.sql"] := by
    decide +kernel
  obtain ⟨hcanonical, hpath, hreached⟩ := openRoot_eq_ok_iff.mp openRoot_closedFiles
  refine ⟨?_, hcanonical, hpath, hreached, discover_closedFiles, ?_⟩
  · cases hdiscover : discover dottedFiles "/q" "..sql" with
    | error error =>
      rw [hdiscover] at hdotted
      cases hdotted
    | ok found =>
      rw [hdiscover] at hdotted
      obtain ⟨top, htop, hfinds⟩ :=
        (discover_complete_ordered dottedFiles "/q" "..sql").1 found hdiscover
      exact ⟨found, top, rfl, Except.ok.inj hdotted, htop, hfinds⟩
  · have hfault := ((discover_complete_ordered closedFiles "/q" "sql").2.1 closedRoot hcanonical
      hpath).2 hreached
    exact (hfault.2 _).mp discover_closedFiles

/-- Files alone do not decide whether a search fails: with an empty directory that cannot be
listed it does, though no file is at fault. -/
theorem not_discover_fails_iff_file :
    ¬ ∀ (files : FileSystem) (root suffix : String) (top : SearchRoot),
      files.canonical (Utf8.encode root) = .ok (top.above, .dir top.directory) →
      Utf8.encode top.path = absolutePath top.above →
      ((∃ error, discover files root suffix = .error error) ↔
        ∃ names file error, top.directory.nodeAt? names = some (.leaf (.file file)) ∧
          Fault top (trimSuffix suffix) names (.leaf (.file file)) error) := by
  intro h
  have hfound : (discover usersFiles "/q" "sql").isOk = true := by
    rw [discover, openRoot_usersFiles]
    decide +kernel
  obtain ⟨hcanonical, hpath, -⟩ := openRoot_eq_ok_iff.mp openRoot_closedFiles
  obtain ⟨names, file, error, hnode, hfault⟩ :=
    (h closedFiles "/q" "sql" closedRoot hcanonical hpath).mp ⟨_, discover_closedFiles⟩
  -- the same file is below the other root, where the search finds no fault
  have hnode' : usersRoot.directory.nodeAt? names = some (.leaf (.file file)) :=
    (nodeAt?_set_empty_eq_leaf_iff (by decide)).mp hnode
  have hfault' : Fault usersRoot (trimSuffix "sql") names (.leaf (.file file)) error := by
    cases hfault with
    | path htext => exact .path htext
    | name hpath hextension hname => exact .name hpath hextension hname
  obtain ⟨error', herror⟩ := (exists_error_of_queryFiles_walk_iff
    (liesIn_of_openRoot openRoot_usersFiles).wellFormed).mpr
      ⟨names, error, _, Directory.entryAt?_eq_leaf_iff.mpr hnode', hfault'⟩
  rw [discover_of_openRoot openRoot_usersFiles, herror] at hfound
  cases hfound

end NamedSql
