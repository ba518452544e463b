/-
Discovered files are files of the tree.

* `openRoot_eq_ok_iff` — a root is opened when it leads to a directory, whose path is a text and
  leads there too;
* `exists_ofPath_of_discover` — a discovered file has the names of its path;
* `exists_names_of_discover` — the path of a discovered file leads to it without links.
-/
import Mathlib
import NamedSql.Proofs.Encoding
import NamedSql.Proofs.Resolving
import NamedSql.Proofs.Separators
import NamedSql.Proofs.Walking

namespace NamedSql

open Files

/-! ### The root -/

theorem nodeAt?_of_canonical {files : FileSystem} {path : List UInt8} {names : List Name}
    {node : Node} (h : files.canonical path = .ok (names, node)) :
    files.root.nodeAt? names = some node :=
  (FileSystem.liesIn_of_locate (FileSystem.find_eq_ok_iff.mp h)).1

/-- A root is opened when it leads to a directory, whose path is a text and leads there too. -/
theorem openRoot_eq_ok_iff {files : FileSystem} {root : String} {top : SearchRoot} :
    openRoot files root = .ok top ↔
      files.canonical (Utf8.encode root) = .ok (top.above, .dir top.directory) ∧
        Utf8.encode top.path = absolutePath top.above ∧
        files.root.obstacle? [] top.above = none := by
  rw [openRoot]
  constructor
  · intro h
    split at h
    · cases h
    rename_i names node hcanonical
    split at h
    · cases h
    rename_i path hpath
    split at h
    · rename_i directory hreached
      cases h
      exact ⟨hcanonical, Utf8.decode?_eq_some_iff.mp hpath, hreached⟩
    · cases h
  · rintro ⟨hcanonical, hpath, hreached⟩
    rw [hcanonical]
    dsimp only
    rw [Utf8.decode?_eq_some_iff.mpr hpath]
    dsimp only
    rw [hreached]

/-- What is known of the directory that a search starts from. -/
structure SearchRoot.LiesIn (files : FileSystem) (top : SearchRoot) : Prop where
  node : files.root.nodeAt? top.above = some (.dir top.directory)
  path : Utf8.encode top.path = absolutePath top.above
  reached : files.root.obstacle? [] top.above = none

theorem liesIn_of_openRoot {files : FileSystem} {root : String} {top : SearchRoot}
    (h : openRoot files root = .ok top) : top.LiesIn files := by
  obtain ⟨hcanonical, hpath, hreached⟩ := openRoot_eq_ok_iff.mp h
  exact { node := nodeAt?_of_canonical hcanonical, path := hpath, reached := hreached }

namespace SearchRoot.LiesIn

variable {files : FileSystem} {top : SearchRoot} (h : top.LiesIn files)

include h

theorem ne_nil_of_mem {name : Name} (hname : name ∈ top.above) : name ≠ [] := by
  rintro rfl
  cases (Directory.wellFormed_nodeAt? files.wellFormed h.node).1 [] hname

theorem wellFormed : top.directory.WellFormed :=
  (Directory.wellFormed_nodeAt? files.wellFormed h.node).2

/-- A file that a search comes upon lies below the root, and is read as far as its path and its
mode allow. -/
theorem exists_file_of_mem_walk {visit : Visit} {content : Except FileError (List UInt8)}
    (hvisit : visit ∈ top.walk) (hsight : visit.sight = .file content) :
    ∃ stored, files.root.nodeAt? (top.above ++ visit.names) = some (.leaf (.file stored)) ∧
      readAt (files.root.obstacle? [] (top.above ++ visit.names)) stored = content := by
  have hmeets := (mem_walk_iff h.wellFormed).mp hvisit
  rw [hsight] at hmeets
  obtain ⟨-, hfile⟩ := meets_file_iff.mp hmeets
  rwa [Directory.nodeAt?_append h.node, Directory.obstacle?_append h.node h.reached]

end SearchRoot.LiesIn

/-! ### Paths of query files -/

theorem names_of_mapM_decode? {names : List Name} {texts : List String}
    (h : names.mapM Utf8.decode? = some texts) : names = texts.map Utf8.encode := by
  induction names generalizing texts with
  | nil =>
    cases h
    rfl
  | cons name rest ih =>
    rw [List.mapM_cons] at h
    obtain ⟨text, htext, h⟩ := Option.bind_eq_some_iff.mp h
    obtain ⟨texts, htexts, h⟩ := Option.bind_eq_some_iff.mp h
    cases h
    rw [List.map_cons, Utf8.decode?_eq_some_iff.mp htext, ih htexts]

theorem encode_intercalate (texts : List String) :
    Utf8.encode ("/".intercalate texts) = relativePath (texts.map Utf8.encode) := by
  rw [Utf8.encode, String.toList_intercalate, flatMap_intercalate, List.map_map]
  rfl

theorem absolutePath_eq_flatMap {names : List Name} (h : names ≠ []) :
    absolutePath names = names.flatMap fun name => slash :: name := by
  rw [absolutePath, if_neg (by simpa using h)]

/-- The path below a directory leads on from it. -/
theorem encode_pathBelow {directory : String} {above : List Name} {texts : List String}
    (habove : Utf8.encode directory = absolutePath above)
    (hnames : ∀ name ∈ above, name ≠ []) (htexts : texts ≠ []) :
    Utf8.encode (pathBelow directory ("/".intercalate texts)) =
      absolutePath (above ++ texts.map Utf8.encode) := by
  have hmapped : texts.map Utf8.encode ≠ [] := by simpa using htexts
  have hbelow : slash :: relativePath (texts.map Utf8.encode) =
      (texts.map Utf8.encode).flatMap fun name => slash :: name :=
    cons_intercalate slash hmapped
  rw [absolutePath_eq_flatMap (List.append_ne_nil_of_right_ne_nil above hmapped),
    List.flatMap_append, ← hbelow, pathBelow, Utf8.encode_append, Utf8.encode_append,
    encode_intercalate, List.append_assoc]
  -- the root is the only directory whose path ends with the slash
  have hfront : Utf8.encode (if directory = "/" then "" else directory) =
      above.flatMap fun name => slash :: name := by
    cases above with
    | nil =>
      obtain rfl : directory = "/" := Utf8.encode_injective habove
      rfl
    | cons name rest =>
      rw [absolutePath_eq_flatMap (List.cons_ne_nil name rest)] at habove
      rw [if_neg ?_, habove]
      rintro rfl
      have hname : [] = name ++ rest.flatMap fun name => slash :: name := (List.cons.inj habove).2
      exact hnames name List.mem_cons_self (List.append_eq_nil_iff.mp hname.symm).1
  rw [hfront]
  rfl

/-- A query file has the names of its path, and what reading it gives. -/
theorem queryFile?_eq_ok {root suffix : String} {names : List Name}
    {content : Except FileError (List UInt8)} {discovered : Discovered}
    (h : queryFile? root suffix names content = .ok (some discovered)) :
    ∃ texts, texts ≠ [] ∧ names = texts.map Utf8.encode ∧ discovered.content = content ∧
      discovered.file.path = pathBelow root ("/".intercalate texts) ∧
      QueryName.ofPath ("/".intercalate texts) suffix = .ok discovered.file.name := by
  unfold queryFile? at h
  split at h
  · cases h
  rename_i texts hnames
  split at h
  · rename_i hsuffix
    dsimp only at h
    split at h
    · rename_i name hname
      cases h
      refine ⟨texts, ?_, names_of_mapM_decode? hnames, rfl, rfl, hname⟩
      rintro rfl
      cases hsuffix
    · cases h
  · cases h

theorem exists_visit_of_queryFiles {root suffix : String} {visits : List Visit}
    {found : List Discovered} (h : queryFiles root suffix visits = .ok found) {file : Discovered}
    (hfile : file ∈ found) :
    ∃ visit ∈ visits, visit.query? root suffix = .ok (some file) := by
  induction visits generalizing found with
  | nil =>
    cases h
    exact absurd hfile List.not_mem_nil
  | cons first rest ih =>
    -- what the rest of the visits give comes of one of them
    have hbehind {found : List Discovered} (h : queryFiles root suffix rest = .ok found)
        (hfile : file ∈ found) :
        ∃ visit ∈ first :: rest, visit.query? root suffix = .ok (some file) := by
      obtain ⟨visit, hvisit, hquery⟩ := ih h hfile
      exact ⟨visit, List.mem_cons_of_mem first hvisit, hquery⟩
    rw [queryFiles] at h
    split at h
    · cases h
    · exact hbehind h hfile
    · rename_i hfirst
      split at h
      · rename_i hothers
        cases h
        rcases List.mem_cons.mp hfile with rfl | hmem
        · exact ⟨first, List.mem_cons_self, hfirst⟩
        · exact hbehind hothers hmem
      · cases h

section

variable {files : FileSystem} {root suffix : String} {found : List Discovered} {file : Discovered}

/-- A file that is found is a query file that the walk below the root has come upon. -/
theorem exists_visit_of_discover (h : discover files root suffix = .ok found)
    (hfile : file ∈ found) :
    ∃ top, openRoot files root = .ok top ∧ ∃ visit ∈ top.walk, ∃ content,
      visit.sight = .file content ∧
        queryFile? top.path (trimSuffix suffix) visit.names content = .ok (some file) := by
  unfold discover discoverOpened at h
  split at h
  · cases h
  · rename_i top hopen
    obtain ⟨visit, hvisit, hquery⟩ := exists_visit_of_queryFiles h hfile
    rw [Visit.query?] at hquery
    split at hquery
    · rename_i content hsight
      exact ⟨top, hopen, visit, hvisit, content, hsight, hquery⟩
    · cases hquery

/-- Every file that is found has the names of its path. -/
theorem exists_ofPath_of_discover (h : discover files root suffix = .ok found)
    (hfile : file ∈ found) :
    ∃ path, QueryName.ofPath path (trimSuffix suffix) = .ok file.file.name := by
  obtain ⟨_, -, _, -, _, -, hquery⟩ := exists_visit_of_discover h hfile
  obtain ⟨texts, -, -, -, -, hname⟩ := queryFile?_eq_ok hquery
  exact ⟨_, hname⟩

/-- The path of a file that is found leads to it, without links. -/
theorem exists_names_of_discover (h : discover files root suffix = .ok found)
    (hfile : file ∈ found) :
    ∃ names stored, Utf8.encode file.file.path = absolutePath names ∧
      files.root.nodeAt? names = some (.leaf (.file stored)) ∧
      readAt (files.root.obstacle? [] names) stored = file.content := by
  obtain ⟨top, hopen, visit, hvisit, content, hsight, hquery⟩ := exists_visit_of_discover h hfile
  obtain ⟨texts, htexts, hnames, hcontent, hpath, -⟩ := queryFile?_eq_ok hquery
  have htop := liesIn_of_openRoot hopen
  obtain ⟨stored, hstored, hread⟩ := htop.exists_file_of_mem_walk hvisit hsight
  refine ⟨top.above ++ visit.names, stored, ?_, hstored, hread.trans hcontent.symm⟩
  rw [hpath, hnames]
  exact encode_pathBelow htop.path (fun name => htop.ne_nil_of_mem) htexts

end

end NamedSql
