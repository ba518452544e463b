/-
A collected catalog is an ordered partition of the files found.

* `Catalog.append_map` — one more query, in a list of groups given by their namespaces;
* `Catalog.Partitions` — groups in the order of their first queries, each with the queries of
  its namespace in order;
* `Catalog.Partitions.insert`, `Catalog.partitions_of_addFiles` — one more query and all of them;
* `Catalog.collect_partitions` — a collected catalog has each file found exactly once.
-/
import Mathlib
import NamedSql.Proofs.Grouping

namespace NamedSql

/-- A query is that of a file found in a tree: the path leads to the file, whose content is the
text of the query, and the query is what the text compiles to. -/
structure Discovered.Yields (compiler : Sql.Compiler) (files : Files.FileSystem)
    (found : Discovered) (query : Query) : Prop where
  file : query.toQueryFile = found.file
  stored : ∃ names stored, Utf8.encode query.path = Files.absolutePath names ∧
    files.root.nodeAt? names = some (.leaf (.file stored)) ∧
    stored.content = Utf8.encode query.rawSql
  content : found.content = .ok (Utf8.encode query.rawSql)
  compiled : compiler.compile query.rawSql =
    .ok { sql := query.sql, parameters := query.parameters }

/-- What is read from a file is its content. -/
theorem Files.content_of_readAt {obstacle? : Option Files.FileError} {file : Files.File}
    {content : List UInt8} (h : Files.readAt obstacle? file = .ok content) :
    file.content = content := by
  cases obstacle? with
  | some cause => cases h
  | none =>
    rw [Files.readAt, Files.File.read] at h
    split at h
    · exact Except.ok.inj h
    · cases h

theorem Discovered.text_eq_ok_iff {file : Discovered} {text : String} :
    file.text = .ok text ↔ file.content = .ok (Utf8.encode text) := by
  rw [Discovered.text]
  cases file.content with
  | error cause => exact iff_of_false (fun h => by cases h) fun h => by cases h
  | ok content =>
    dsimp only
    constructor
    · intro h
      split at h
      · rename_i decoded hdecode
        cases h
        rw [Utf8.decode?_eq_some_iff.mp hdecode]
      · cases h
    · intro h
      rw [Except.ok.inj h, Utf8.decode?_encode]

theorem Discovered.yields {files : Files.FileSystem} {root suffix : String}
    {compiler : Sql.Compiler} {found : List Discovered} {file : Discovered} {query : Query}
    (hfound : discover files root suffix = .ok found) (hfile : file ∈ found)
    (hquery : file.query compiler = .ok query) : file.Yields compiler files query := by
  obtain ⟨htext, hsame, hcompile⟩ := Discovered.query_eq_ok_iff.mp hquery
  have hcontent := Discovered.text_eq_ok_iff.mp htext
  obtain ⟨names, stored, hpath, hstored, hread⟩ := exists_names_of_discover hfound hfile
  refine ⟨hsame, ⟨names, stored, ?_, hstored, ?_⟩, hcontent, hcompile⟩
  · rw [hsame, hpath]
  · exact Files.content_of_readAt (hread.trans hcontent)

namespace Catalog

/-- The groups of queries: namespaces in the order of their first queries, each with the queries
of its namespace in order. -/
def groupsOf (queries : List Query) : List (String × List Query) :=
  (queries.map fun query => query.name.group).eraseDups.map fun group =>
    (group, queries.filter fun query => query.name.group = group)

/-- A catalog groups queries by their namespaces, in order, and has each of them once. -/
structure Partitions (catalog : Catalog) (queries : List Query) : Prop where
  groups : catalog.groups = groupsOf queries
  queries : catalog.queries.Perm queries
  grouped : catalog.WellGrouped

/-! ### One more query -/

/-- One more query goes to the end of its group, or to a new group at the end. -/
theorem append_map {keys : List String} (hkeys : keys.Nodup) (content : String → List Query)
    (group : String) (query : Query) :
    append group query (keys.map fun key => (key, content key)) =
      if group ∈ keys then
        keys.map fun key => (key, content key ++ if group = key then [query] else [])
      else keys.map (fun key => (key, content key)) ++ [(group, [query])] := by
  induction keys with
  | nil => rfl
  | cons first rest ih =>
    obtain ⟨hfirst, hrest⟩ := List.nodup_cons.mp hkeys
    rw [List.map_cons, append]
    by_cases hgroup : first = group
    · subst hgroup
      -- behind its group, the query changes nothing
      have hothers :
          (rest.map fun key => (key, content key ++ if first = key then [query] else [])) =
            rest.map fun key => (key, content key) := by
        refine List.map_congr_left fun key hkey => ?_
        rw [if_neg (by rintro rfl; exact hfirst hkey), List.append_nil]
      rw [if_pos rfl, if_pos List.mem_cons_self, List.map_cons, if_pos rfl, hothers]
    · rw [if_neg hgroup, ih hrest, List.map_cons, if_neg (Ne.symm hgroup), List.append_nil]
      by_cases hmem : group ∈ rest
      · rw [if_pos hmem, if_pos (List.mem_cons_of_mem first hmem)]
      · rw [if_neg hmem, if_neg fun h => (List.mem_cons.mp h).elim (hgroup ·.symm) hmem,
          List.cons_append]

theorem flatMap_append_perm (group : String) (query : Query)
    (groups : List (String × List Query)) :
    ((append group query groups).flatMap Prod.snd).Perm (groups.flatMap Prod.snd ++ [query]) := by
  induction groups with
  | nil => exact .refl _
  | cons first rest ih =>
    obtain ⟨other, queries⟩ := first
    rw [append]
    split
    · rw [List.flatMap_cons, List.flatMap_cons, List.append_assoc, List.append_assoc]
      exact List.perm_append_comm.append_left queries
    · rw [List.flatMap_cons, List.flatMap_cons, List.append_assoc]
      exact ih.append_left queries

theorem filter_concat (queries : List Query) (query : Query) (key : String) :
    ((queries ++ [query]).filter fun query => query.name.group = key) =
      (queries.filter fun query => query.name.group = key) ++
        if query.name.group = key then [query] else [] := by
  rw [List.filter_append, List.filter_singleton, Bool.cond_decide]

/-- The groups of queries and one more. -/
theorem append_groupsOf {queries : List Query} (query : Query)
    (hkeys : (queries.map fun query => query.name.group).eraseDups.Nodup) :
    append query.name.group query (groupsOf queries) = groupsOf (queries ++ [query]) := by
  rw [groupsOf, groupsOf, append_map hkeys, List.map_append, List.map_singleton,
    List.eraseDups_append]
  simp only [filter_concat, List.mem_eraseDups]
  by_cases hmem : query.name.group ∈ queries.map fun query => query.name.group
  · -- a namespace that is there already stays where it is
    have hknown :
        [query.name.group].removeAll (queries.map fun query => query.name.group) = [] := by
      simpa [List.removeAll] using hmem
    rw [if_pos hmem, hknown, List.eraseDups_nil, List.append_nil]
  · have hnew : [query.name.group].removeAll (queries.map fun query => query.name.group) =
        [query.name.group] := by
      simpa [List.removeAll] using hmem
    -- a new one comes last, and no group in front of it grows
    have hothers : ((queries.map fun query => query.name.group).eraseDups.map fun key =>
          (key, (queries.filter fun query => query.name.group = key) ++
            if query.name.group = key then [query] else [])) =
        (queries.map fun query => query.name.group).eraseDups.map fun key =>
          (key, queries.filter fun query => query.name.group = key) := by
      refine List.map_congr_left fun key hkey => ?_
      rw [if_neg (by rintro rfl; exact hmem (List.mem_eraseDups.mp hkey)), List.append_nil]
    have hnone : (queries.filter fun other => other.name.group = query.name.group) = [] := by
      refine List.filter_eq_nil_iff.mpr fun other hother hsame => hmem ?_
      exact List.mem_map.mpr ⟨other, hother, of_decide_eq_true hsame⟩
    have hsingle : [query.name.group].eraseDups = [query.name.group] := rfl
    rw [if_neg hmem, hnew, hsingle, List.map_append, hothers, List.map_singleton, hnone, if_pos rfl,
      List.nil_append]

variable {catalog next : Catalog} {queries : List Query} {query : Query}

theorem partitions_empty : Partitions empty [] :=
  ⟨rfl, .nil, wellGrouped_empty⟩

theorem Partitions.insert (h : catalog.Partitions queries)
    (hinsert : catalog.insert query = .ok next) : next.Partitions (queries ++ [query]) := by
  obtain ⟨-, rfl⟩ := insert_eq_ok_iff.mp hinsert
  have hkeys : (queries.map fun query => query.name.group).eraseDups.Nodup := by
    have hdistinct := h.grouped.distinct
    rwa [h.groups, groupsOf, List.map_map, Function.comp_def, List.map_id'] at hdistinct
  constructor
  case groups =>
    dsimp only
    rw [h.groups, append_groupsOf query hkeys]
  case queries => exact (flatMap_append_perm _ _ _).trans (h.queries.append_right [query])
  case grouped => exact h.grouped.insert hinsert

/-! ### All queries -/

theorem partitions_of_addFiles {compiler : Sql.Compiler} {files : List Discovered}
    (h : catalog.Partitions queries) (hadd : addFiles compiler catalog files = .ok next) :
    ∃ added, List.Forall₂ (fun file query => file.query compiler = .ok query) files added ∧
      next.Partitions (queries ++ added) := by
  -- by induction on the files, with the queries added so far general
  induction files generalizing catalog queries with
  | nil =>
    cases hadd
    exact ⟨[], .nil, by rwa [List.append_nil]⟩
  | cons file rest ih =>
    rw [addFiles] at hadd
    split at hadd
    · cases hadd
    rename_i query hquery
    split at hadd
    · cases hadd
    rename_i grown hinsert
    obtain ⟨added, hadded, hnext⟩ := ih (h.insert hinsert) hadd
    rw [List.append_assoc] at hnext
    exact ⟨query :: added, .cons hquery hadded, hnext⟩

/-- A catalog without queries has no groups. -/
theorem Partitions.isEmpty_iff (h : catalog.Partitions queries) :
    catalog.isEmpty = true ↔ catalog.size = 0 := by
  rw [isEmpty, size, List.isEmpty_iff, List.length_eq_zero_iff]
  constructor
  · intro hempty
    rw [Catalog.queries, hempty]
    rfl
  · intro hempty
    refine List.eq_nil_iff_forall_not_mem.mpr fun entry hentry => ?_
    exact h.grouped.inhabited entry hentry (List.flatMap_eq_nil_iff.mp hempty entry hentry)

variable {files : Files.FileSystem} {root : String} {options : Options}

/-- **A catalog is an ordered partition of the files found.**  Each file that is found below the
root has one query in the catalog, and there is no other.  The groups are the namespaces of the
queries in the order in which they come first, each with its queries in the order in which their
files are found; no accessor is twice in a group, and no group is empty. -/
theorem collect_partitions (h : collect files root options = .ok catalog) :
    ∃ found queries, discover files root options.suffix = .ok found ∧
      List.Forall₂ (Discovered.Yields options.compiler files) found queries ∧
      catalog.Partitions queries ∧ catalog.queries.Nodup ∧
      (catalog.isEmpty = true ↔ catalog.size = 0) ∧ catalog.size = found.length := by
  obtain ⟨found, hfound, hadd⟩ := collect_eq_ok_iff.mp h
  obtain ⟨queries, hqueries, hpartitions⟩ := partitions_of_addFiles partitions_empty hadd
  rw [List.nil_append] at hpartitions
  refine ⟨found, queries, hfound, ?_, hpartitions, hpartitions.grouped.names_nodup.of_map _,
    hpartitions.isEmpty_iff, hpartitions.queries.length_eq.trans hqueries.length_eq.symm⟩
  have hmembers : List.Forall₂
      (fun file query => file ∈ found ∧ file.query options.compiler = .ok query) found queries :=
    (List.forall₂_and_left _ _).mpr ⟨fun _ hfile => hfile, hqueries⟩
  exact hmembers.imp fun file query hquery => Discovered.yields hfound hquery.1 hquery.2

/-- Two files of one namespace and, between them, a file of another one. -/
def interleavedFiles : Files.FileSystem :=
  (twoFiles "/q/A/x.sql" "/q/B/y.sql").put (Utf8.encode "/q/a/z.sql") (Utf8.encode "SELECT 3")

theorem collect_interleaved :
    ∃ (catalog : Catalog) (found : List Discovered) (queries : List Query),
      discover interleavedFiles "/q" "sql" = .ok found ∧
      List.Forall₂ (Discovered.Yields plainOptions.compiler interleavedFiles) found queries ∧
      catalog.Partitions queries ∧ catalog.size = found.length ∧
      (catalog.groups.map fun entry => (entry.1, entry.2.map fun query => query.name.accessor)) =
        [("A", ["X", "Z"]), ("B", ["Y"])] := by
  have hrun : (collect interleavedFiles "/q" plainOptions).map (fun catalog =>
      catalog.groups.map fun entry => (entry.1, entry.2.map fun query => query.name.accessor)) =
        .ok [("A", ["X", "Z"]), ("B", ["Y"])] := by
    decide +kernel
  obtain ⟨catalog, hcatalog, hgroups⟩ := exists_of_map_eq_ok hrun
  obtain ⟨found, queries, hfound, hyields, hpartitions, -, -, hsize⟩ := collect_partitions hcatalog
  exact ⟨catalog, found, queries, hfound, hyields, hpartitions, hsize, hgroups⟩

end Catalog

end NamedSql
