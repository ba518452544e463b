/-
A collection tells of the first problem, and of nothing else.

A file may be unreadable, hold a text that does not scan, or have the names of an earlier file,
and the first of these is what is wrong with it.  Files are gone through in the order in which
they are found, and the groups that their queries are put into do not change what is found wrong
first.

* `Problem` — what is wrong with a file that is found behind others;
* `Clear`, `FirstProblem` — files without a problem, and the first problem among files;
* `Catalog.addFiles_singleton_eq_error_iff` — one more file is refused for its problem;
* `Catalog.addFiles_eq_error_iff` — adding files ends at the first problem;
* `Catalog.collect_first_problem` — so does collecting, once the files are found.
-/
import Mathlib
import NamedSql.Proofs.Contents
import NamedSql.Proofs.Partition
import NamedSql.Proofs.Rewriting

namespace NamedSql

open Files

/-! ### What a file holds -/

namespace Discovered

/-- The file can be read, and it holds a text. -/
def Holds (file : Discovered) (text : String) : Prop :=
  file.content = .ok (Utf8.encode text)

/-- Why there is no text to read: the file cannot be read, or it holds none. -/
inductive Unreadable (file : Discovered) : FileError → Prop
  | refused {cause} (hcontent : file.content = .error cause) : Unreadable file cause
  | noText {content} (hcontent : file.content = .ok content) (htext : ¬ Utf8.IsText content) :
      Unreadable file .invalidText

variable {file : Discovered} {text : String} {cause : FileError}

theorem holds_or_unreadable (file : Discovered) :
    (∃ text, file.Holds text) ∨ ∃ cause, file.Unreadable cause := by
  cases hcontent : file.content with
  | error cause => exact .inr ⟨cause, .refused hcontent⟩
  | ok content =>
    by_cases htext : Utf8.IsText content
    · obtain ⟨text, rfl⟩ := htext
      exact .inl ⟨text, hcontent⟩
    · exact .inr ⟨_, .noText hcontent htext⟩

theorem Holds.text_eq (h : file.Holds text) : file.text = .ok text :=
  text_eq_ok_iff.mpr h

theorem Unreadable.text_eq (h : file.Unreadable cause) : file.text = .error cause := by
  rw [text]
  cases h with
  | refused hcontent => rw [hcontent]
  | noText hcontent htext =>
    rw [hcontent]
    dsimp only
    split
    · rename_i text hdecode
      exact absurd ⟨text, Utf8.decode?_eq_some_iff.mp hdecode⟩ htext
    · rfl

end Discovered

/-! ### What is wrong with a file -/

/-- The namespace of a query and its accessor there. -/
def QueryName.slot (name : QueryName) : String × String :=
  (name.group, name.accessor)

/-- What is wrong with a file that is found behind others: no text can be read from it; its text
does not scan; or else an earlier file has its namespace and its accessor. -/
inductive Problem (earlier : List Discovered) (file : Discovered) : CollectError → Prop
  | unreadable {cause} (h : file.Unreadable cause) :
      Problem earlier file (.unreadable file.file.path cause)
  | malformed {text error} (h : file.Holds text) (hscan : Sql.scan text = .error error) :
      Problem earlier file
        (.malformed { relativePath := file.file.relativePath, source := text, error })
  | duplicate {text references other} (h : file.Holds text)
      (hscan : Sql.scan text = .ok references) (hother : other ∈ earlier)
      (hslot : other.file.name.slot = file.file.name.slot) :
      Problem earlier file
        (.duplicate
          { path := file.file.relativePath
            other := other.file.relativePath
            group := file.file.name.group
            accessor := file.file.name.accessor })

/-- No file has a problem behind those that come before it. -/
def Clear (found : List Discovered) : Prop :=
  ∀ front file behind, found = front ++ file :: behind → ∀ error, ¬ Problem front file error

/-- A file has a problem, and no file before it has one. -/
def FirstProblem (found : List Discovered) (error : CollectError) : Prop :=
  ∃ front file behind, found = front ++ file :: behind ∧ Clear front ∧ Problem front file error

section

variable {front : List Discovered} {file : Discovered} {error : CollectError}

/-- The file at a place among several is the last of them, or stands among those before it. -/
theorem concat_eq_append_cons_iff {α : Type} {front before behind : List α} {last a : α} :
    front ++ [last] = before ++ a :: behind ↔
      (before = front ∧ a = last ∧ behind = []) ∨
        ∃ rest, behind = rest ++ [last] ∧ front = before ++ a :: rest := by
  constructor
  · intro hsplit
    rcases List.eq_nil_or_concat' behind with rfl | ⟨rest, final, rfl⟩
    · obtain ⟨rfl, rfl⟩ := List.append_singleton_inj.mp hsplit
      exact .inl ⟨rfl, rfl, rfl⟩
    · rw [← List.cons_append, ← List.append_assoc] at hsplit
      obtain ⟨rfl, rfl⟩ := List.append_singleton_inj.mp hsplit
      exact .inr ⟨rest, rfl, rfl⟩
  · rintro (⟨rfl, rfl, rfl⟩ | ⟨rest, rfl, rfl⟩)
    · rfl
    · rw [List.append_assoc, List.cons_append]

@[simp] theorem clear_nil : Clear [] := by
  intro front file behind hsplit
  exact absurd hsplit.symm (List.append_ne_nil_of_right_ne_nil _ (List.cons_ne_nil _ _))

theorem clear_concat :
    Clear (front ++ [file]) ↔ Clear front ∧ ∀ error, ¬ Problem front file error := by
  constructor
  · intro h
    refine ⟨fun before other behind hsplit => ?_, h front file [] rfl⟩
    exact h before other (behind ++ [file])
      (concat_eq_append_cons_iff.mpr (.inr ⟨behind, rfl, hsplit⟩))
  · rintro ⟨hfront, hfile⟩ before other behind hsplit
    rcases concat_eq_append_cons_iff.mp hsplit with ⟨rfl, rfl, rfl⟩ | ⟨rest, rfl, hbefore⟩
    · exact hfile
    · exact hfront before other rest hbefore

theorem not_firstProblem_nil : ¬ FirstProblem [] error := by
  rintro ⟨front, file, behind, hsplit, -, -⟩
  exact absurd hsplit.symm (List.append_ne_nil_of_right_ne_nil _ (List.cons_ne_nil _ _))

theorem firstProblem_concat :
    FirstProblem (front ++ [file]) error ↔
      FirstProblem front error ∨ Clear front ∧ Problem front file error := by
  constructor
  · rintro ⟨before, other, behind, hsplit, hclear, hproblem⟩
    rcases concat_eq_append_cons_iff.mp hsplit with ⟨rfl, rfl, rfl⟩ | ⟨rest, rfl, hbefore⟩
    · exact .inr ⟨hclear, hproblem⟩
    · exact .inl ⟨before, other, rest, hbefore, hclear, hproblem⟩
  · rintro (⟨before, other, rest, hbefore, hclear, hproblem⟩ | ⟨hclear, hproblem⟩)
    · exact ⟨before, other, rest ++ [file],
        concat_eq_append_cons_iff.mpr (.inr ⟨rest, rfl, hbefore⟩), hclear, hproblem⟩
    · exact ⟨front, file, [], rfl, hclear, hproblem⟩

/-- No two files without a problem have both namespace and accessor in common. -/
theorem slots_nodup_of_clear {found : List Discovered} (h : Clear found) :
    (found.map fun file => file.file.name.slot).Nodup := by
  induction found using List.reverseRecOn with
  | nil => exact List.nodup_nil
  | append_singleton front file ih =>
    obtain ⟨hfront, hfile⟩ := clear_concat.mp h
    rw [List.map_append, List.map_singleton]
    refine List.nodup_append.mpr ⟨ih hfront, List.nodup_singleton _, ?_⟩
    rintro slot hslot last hlast rfl
    obtain ⟨other, hother, hsame⟩ := List.mem_map.mp hslot
    rw [List.mem_singleton.mp hlast] at hsame
    -- whatever the last file holds, it has a problem behind one with its names
    rcases file.holds_or_unreadable with ⟨text, htext⟩ | ⟨cause, hcause⟩
    · cases hscan : Sql.scan text with
      | ok references => exact hfile _ (.duplicate htext hscan hother hsame)
      | error error => exact hfile _ (.malformed htext hscan)
    · exact hfile _ (.unreadable hcause)

/-- If any file has a problem, one is the first. -/
theorem clear_iff {found : List Discovered} :
    Clear found ↔ ∀ error, ¬ FirstProblem found error := by
  induction found using List.reverseRecOn with
  | nil => exact ⟨fun _ _ => not_firstProblem_nil, fun _ => clear_nil⟩
  | append_singleton front file ih =>
    rw [clear_concat]
    constructor
    · rintro ⟨hfront, hfile⟩ error hfirst
      rcases firstProblem_concat.mp hfirst with hbefore | ⟨-, hproblem⟩
      · exact ih.mp hfront error hbefore
      · exact hfile error hproblem
    · intro hnone
      have hfront := ih.mpr fun error hbefore =>
        hnone error (firstProblem_concat.mpr (.inl hbefore))
      exact ⟨hfront, fun error hproblem =>
        hnone error (firstProblem_concat.mpr (.inr ⟨hfront, hproblem⟩))⟩

end

/-! ### One more file -/

/-- A file has a query when it holds a text that scans. -/
theorem Discovered.exists_query_iff {compiler : Sql.Compiler} {file : Discovered} :
    (∃ query, file.query compiler = .ok query) ↔
      ∃ text references, file.Holds text ∧ Sql.scan text = .ok references := by
  constructor
  · rintro ⟨query, hquery⟩
    obtain ⟨hread, -, hcompile⟩ := query_eq_ok_iff.mp hquery
    refine ⟨query.rawSql, ?_⟩
    cases hscan : Sql.scan query.rawSql with
    | ok references => exact ⟨references, text_eq_ok_iff.mp hread, rfl⟩
    | error error =>
      rw [Sql.compile_eq_error_iff.mpr hscan] at hcompile
      cases hcompile
  · rintro ⟨text, references, htext, hscan⟩
    obtain ⟨compiled, hcompile⟩ := Sql.exists_compile_of_scan hscan compiler
    rw [query, htext.text_eq]
    dsimp only
    rw [Query.ofSource, hcompile]
    exact ⟨_, rfl⟩

/-- A file without a query cannot be read, or holds a text that does not scan. -/
theorem Discovered.query_eq_error_iff {compiler : Sql.Compiler} {file : Discovered}
    {error : CollectError} :
    file.query compiler = .error error ↔
      (∃ cause, file.Unreadable cause ∧ error = .unreadable file.file.path cause) ∨
        ∃ text fault, file.Holds text ∧ Sql.scan text = .error fault ∧
          error = .malformed
            { relativePath := file.file.relativePath, source := text, error := fault } := by
  constructor
  · intro h
    -- the file cannot be read, or it holds a text that the scanner refuses
    rcases file.holds_or_unreadable with ⟨text, htext⟩ | ⟨cause, hcause⟩
    · rw [query, htext.text_eq] at h
      dsimp only at h
      rw [Query.ofSource] at h
      cases hcompile : compiler.compile text with
      | ok compiled =>
        rw [hcompile] at h
        cases h
      | error fault =>
        rw [hcompile] at h
        cases h
        exact .inr ⟨text, fault, htext, Sql.compile_eq_error_iff.mp hcompile, rfl⟩
    · rw [query, hcause.text_eq] at h
      cases h
      exact .inl ⟨cause, hcause, rfl⟩
  · rintro (⟨cause, hcause, rfl⟩ | ⟨text, fault, htext, hscan, rfl⟩)
    · rw [query, hcause.text_eq]
    · rw [query, htext.text_eq]
      dsimp only
      rw [Query.ofSource, Sql.compile_eq_error_iff.mpr hscan]

namespace Catalog

variable {compiler : Sql.Compiler} {catalog : Catalog} {queries : List Query} {query : Query}

/-- The queries of a namespace are those that have it. -/
theorem Partitions.getD_get? (h : catalog.Partitions queries) (group : String) :
    (catalog.get? group).getD [] = queries.filter fun query => query.name.group = group := by
  rw [get?, h.groups, groupsOf]
  by_cases hmem : group ∈ (queries.map fun query => query.name.group).eraseDups
  · rw [List.lookup_graph _ hmem]
    rfl
  · have hlookup : ((queries.map fun query => query.name.group).eraseDups.map fun key =>
        (key, queries.filter fun query => query.name.group = key)).lookup group = none := by
      refine List.lookup_eq_none_iff.mpr fun entry hentry => bne_iff_ne.mpr ?_
      obtain ⟨key, hkey, rfl⟩ := List.mem_map.mp hentry
      rintro rfl
      exact hmem hkey
    rw [hlookup, Option.getD_none, eq_comm, List.filter_eq_nil_iff]
    intro query hquery hgroup
    refine hmem (List.mem_eraseDups.mpr (List.mem_map.mpr ⟨query, hquery, ?_⟩))
    exact of_decide_eq_true hgroup

/-- No two queries have both namespace and accessor in common. -/
theorem Partitions.slots_nodup (h : catalog.Partitions queries) :
    (queries.map fun query => query.name.slot).Nodup :=
  (h.queries.map _).nodup_iff.mp h.grouped.names_nodup

/-- A query is refused when an earlier one has its namespace and its accessor. -/
theorem Partitions.insert_eq_error_iff (h : catalog.Partitions queries)
    {error : DuplicateAccessor} :
    catalog.insert query = .error error ↔
      ∃ other ∈ queries, other.name.slot = query.name.slot ∧
        error =
          { path := query.relativePath
            other := other.relativePath
            group := query.name.group
            accessor := query.name.accessor } := by
  unfold Catalog.insert
  dsimp only
  rw [h.getD_get?]
  split
  case h_1 other htaken =>
    obtain ⟨hother, hgroup⟩ := List.mem_filter.mp (List.mem_of_find?_eq_some htaken)
    have haccessor := List.find?_some htaken
    have hslot : other.name.slot = query.name.slot :=
      Prod.ext (of_decide_eq_true hgroup) (of_decide_eq_true haccessor)
    constructor
    · intro herror
      cases herror
      exact ⟨other, hother, hslot, rfl⟩
    · -- only one earlier query has these names, so it is the one that was met
      rintro ⟨other', hother', hslot', rfl⟩
      rw [List.inj_on_of_nodup_map h.slots_nodup hother' hother (hslot'.trans hslot.symm)]
  case h_2 hfree =>
    refine iff_of_false (fun herror => by cases herror) ?_
    rintro ⟨other, hother, hslot, -⟩
    obtain ⟨hgroup, haccessor⟩ := Prod.mk.inj hslot
    exact List.find?_eq_none.mp hfree other (List.mem_filter.mpr ⟨hother, decide_eq_true hgroup⟩)
      (decide_eq_true haccessor)

variable {front : List Discovered} {file : Discovered} {error : CollectError}

/-- Behind files that were added, one more is refused just for its problem. -/
theorem addFiles_singleton_eq_error_iff (hfront : addFiles compiler empty front = .ok catalog) :
    addFiles compiler catalog [file] = .error error ↔ Problem front file error := by
  obtain ⟨queries, hqueries, hpartitions⟩ := partitions_of_addFiles partitions_empty hfront
  rw [List.nil_append] at hpartitions
  rw [addFiles]
  constructor
  · intro h
    split at h
    · rename_i refusal hquery
      obtain rfl := Except.error.inj h
      rcases Discovered.query_eq_error_iff.mp hquery with
        ⟨cause, hcause, rfl⟩ | ⟨text, fault, htext, hscan, rfl⟩
      · exact .unreadable hcause
      · exact .malformed htext hscan
    -- the file has a query, so only its names can be taken
    rename_i query hquery
    obtain ⟨text, references, htext, hscan⟩ := Discovered.exists_query_iff.mp ⟨query, hquery⟩
    split at h
    · rename_i refusal hinsert
      obtain ⟨taken, htaken, hslot, rfl⟩ := hpartitions.insert_eq_error_iff.mp hinsert
      obtain ⟨other, hother, hmade⟩ := exists_of_mem_right hqueries htaken
      obtain rfl := Except.error.inj h
      have hfile := (Discovered.query_eq_ok_iff.mp hquery).2.1
      have hsame := (Discovered.query_eq_ok_iff.mp hmade).2.1
      have hproblem := Problem.duplicate htext hscan hother
        (hfile ▸ hsame ▸ hslot : other.file.name.slot = file.file.name.slot)
      rwa [← hfile, ← hsame] at hproblem
    · cases h
  · intro h
    cases h with
    | unreadable hcause =>
      rw [Discovered.query_eq_error_iff.mpr (.inl ⟨_, hcause, rfl⟩)]
    | malformed htext hscan =>
      rw [Discovered.query_eq_error_iff.mpr (.inr ⟨_, _, htext, hscan, rfl⟩)]
    | duplicate htext hscan hother hslot =>
      obtain ⟨query, hquery⟩ := Discovered.exists_query_iff.mpr ⟨_, _, htext, hscan⟩
      obtain ⟨taken, htaken, hmade⟩ := exists_of_mem_right hqueries.flip hother
      have hfile := (Discovered.query_eq_ok_iff.mp hquery).2.1
      have hsame := (Discovered.query_eq_ok_iff.mp hmade).2.1
      rw [← hfile, ← hsame] at hslot
      rw [hquery]
      dsimp only
      rw [hpartitions.insert_eq_error_iff.mpr ⟨taken, htaken, hslot, rfl⟩, hfile, hsame]

/-! ### All files -/

theorem addFiles_append (catalog : Catalog) (front behind : List Discovered) :
    addFiles compiler catalog (front ++ behind) =
      (addFiles compiler catalog front).bind fun grown => addFiles compiler grown behind := by
  induction front generalizing catalog with
  | nil => rfl
  | cons first rest ih =>
    rw [List.cons_append, addFiles, addFiles]
    cases first.query compiler with
    | error error => rfl
    | ok query =>
      dsimp only
      cases catalog.insert query with
      | error error => rfl
      | ok grown => exact ih grown

/-- Adding files ends at the first problem. -/
theorem addFiles_eq_error_iff {found : List Discovered} {error : CollectError} :
    addFiles compiler empty found = .error error ↔ FirstProblem found error := by
  induction found using List.reverseRecOn generalizing error with
  | nil => exact iff_of_false (fun h => by cases h) not_firstProblem_nil
  | append_singleton front file ih =>
    rw [addFiles_append, firstProblem_concat]
    cases hfront : addFiles compiler empty front with
    | error first =>
      -- a file in front ends it, so the last one is not looked at
      have hfirst := ih.mp hfront
      have hunclear : ¬ Clear front := fun hclear => clear_iff.mp hclear first hfirst
      rw [← ih, hfront, or_iff_left fun h => hunclear h.1]
      rfl
    | ok catalog =>
      have hnone : ∀ error, ¬ FirstProblem front error := by
        intro error hfirst
        rw [ih.mpr hfirst] at hfront
        cases hfront
      rw [or_iff_right (hnone error), and_iff_right (clear_iff.mpr hnone),
        ← addFiles_singleton_eq_error_iff hfront]
      rfl

/-- All files are added if none has a problem. -/
theorem exists_addFiles_iff {found : List Discovered} :
    (∃ catalog, addFiles compiler empty found = .ok catalog) ↔ Clear found := by
  rw [clear_iff]
  constructor
  · rintro ⟨catalog, hcatalog⟩ error hfirst
    rw [addFiles_eq_error_iff.mpr hfirst] at hcatalog
    cases hcatalog
  · intro hnone
    cases hadd : addFiles compiler empty found with
    | error error => exact absurd (addFiles_eq_error_iff.mp hadd) (hnone error)
    | ok catalog => exact ⟨catalog, rfl⟩

/-! ### Collecting -/

variable {files : FileSystem} {root : String} {options : Options}

theorem collect_of_discover_error {error : DiscoverError}
    (h : discover files root options.suffix = .error error) :
    collect files root options = .error (.discover error) := by
  rw [discover] at h
  rw [collect, collectOpened, h]

theorem collect_of_discover {found : List Discovered}
    (h : discover files root options.suffix = .ok found) :
    collect files root options = addFiles options.compiler empty found := by
  rw [discover] at h
  rw [collect, collectOpened, h]

/-- **A collection tells of the first problem, and of nothing else.**  If the search fails,
collecting fails with its error, whatever the files hold and whoever may read them.  Otherwise
each file found is what stands at its absolute path, read as far as that path and its mode allow,
and the files are gone through in the order in which they are found.  Collecting fails just with
the problem of the first file that has one, and succeeds if none has.  As long as none has, no two
have the same namespace and accessor, so that the file a duplicate is told with is the only one. -/
theorem collect_first_problem (files : FileSystem) (root : String) (options : Options) :
    (∀ error, discover files root options.suffix = .error error →
      ∀ other, files.SameButContents other →
        collect other root options = .error (.discover error)) ∧
    ∀ found, discover files root options.suffix = .ok found →
      (∀ file ∈ found, ∃ names stored, Utf8.encode file.file.path = absolutePath names ∧
        files.root.nodeAt? names = some (.leaf (.file stored)) ∧
        readAt (files.root.obstacle? [] names) stored = file.content) ∧
      (∀ error, collect files root options = .error error ↔ FirstProblem found error) ∧
      ((∃ catalog, collect files root options = .ok catalog) ↔ Clear found) ∧
      ∀ front, front <+: found → Clear front →
        (front.map fun file => file.file.name.slot).Nodup := by
  refine ⟨fun error herror other hsame => ?_, fun found hfound => ?_⟩
  · exact collect_of_discover_error (discover_eq_error_of_sameButContents hsame herror)
  · rw [collect_of_discover hfound]
    exact ⟨fun file hfile => exists_names_of_discover hfound hfile,
      fun error => addFiles_eq_error_iff, exists_addFiles_iff,
      fun front _ => slots_nodup_of_clear⟩

/-- Files of two namespaces by turns.  The third has the names of the first, and the fourth holds
a text that does not scan. -/
def troubledFiles : FileSystem :=
  ((twoFiles "/q/A/x.sql" "/q/B/x.sql").put
    (Utf8.encode "/q/a/x.sql") (Utf8.encode "SELECT 3")).put
    (Utf8.encode "/q/b/x.sql") (Utf8.encode "SELECT '")

/-- A file without a namespace. -/
def shallowFile (content : String) : FileSystem :=
  FileSystem.empty.put (Utf8.encode "/q/x.sql") (Utf8.encode content)

theorem collect_troubled_files :
    (∃ found, discover troubledFiles "/q" "sql" = .ok found ∧
      (found.map fun file => file.file.relativePath) =
        ["A/x.sql", "B/x.sql", "a/x.sql", "b/x.sql"] ∧
      FirstProblem found
        (.duplicate { path := "a/x.sql", other := "A/x.sql", group := "A", accessor := "X" })) ∧
    collect (shallowFile "SELECT '") "/q" plainOptions =
      .error (.discover (.name (.shallow "x.sql" "sql"))) := by
  constructor
  · have hrun : (discover troubledFiles "/q" "sql").map
        (List.map fun file => file.file.relativePath) =
          .ok ["A/x.sql", "B/x.sql", "a/x.sql", "b/x.sql"] := by
      decide +kernel
    have hcollect : collect troubledFiles "/q" plainOptions = .error
        (.duplicate
          { path := "a/x.sql", other := "A/x.sql", group := "A", accessor := "X" }) := by
      decide +kernel
    obtain ⟨found, hfound, hpaths⟩ := exists_of_map_eq_ok hrun
    obtain ⟨-, hproblem, -, -⟩ :=
      (collect_first_problem troubledFiles "/q" plainOptions).2 found hfound
    exact ⟨found, hfound, hpaths, (hproblem _).mp hcollect⟩
  · have hdiscover : (discover (shallowFile "SELECT 1") "/q" "sql").map List.length =
        .error (.name (.shallow "x.sql" "sql")) := by
      decide +kernel
    have hstored : (shallowFile "SELECT 1").root.nodeAt? ([Utf8.encode "q"] ++
        [Utf8.encode "x.sql"]) =
          some (.leaf (.file { content := Utf8.encode "SELECT 1", mode := 0o644 })) := by
      decide +kernel
    have hother : (shallowFile "SELECT 1").setLeaf [Utf8.encode "q"] (Utf8.encode "x.sql")
        (.file { content := Utf8.encode "SELECT '", mode := 0o644 }) = shallowFile "SELECT '" := by
      decide +kernel
    have hsame := FileSystem.sameButContents_setLeaf
      { content := Utf8.encode "SELECT '", mode := 0o644 } hstored
    rw [hother] at hsame
    cases hfails : discover (shallowFile "SELECT 1") "/q" "sql" with
    | ok found =>
      rw [hfails] at hdiscover
      cases hdiscover
    | error error =>
      rw [hfails] at hdiscover
      cases hdiscover
      exact (collect_first_problem (shallowFile "SELECT 1") "/q" plainOptions).1 _ hfails
        (shallowFile "SELECT '") hsame

end Catalog

end NamedSql
