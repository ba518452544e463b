/-
How catalogs are built: query by query, each at the end of the group of its namespace.

* `Catalog.insert_eq_ok_iff` — what one more query does to a catalog;
* `Catalog.addFiles_induction` — what every insertion keeps holds once all files are added;
* `Catalog.WellGrouped` — no namespace twice, no empty group, every query in the group of its
  namespace, and no accessor twice in a group;
* `Catalog.wellGrouped_of_collect`, `Catalog.wellFormed_of_collect` — collected catalogs are
  well grouped, and their names are those of paths.
-/
import Mathlib
import NamedSql.Proofs.Discovery
import NamedSql.Proofs.Naming
import NamedSql.Query.Collect

namespace NamedSql

/-! ### Where names come from -/

/-- What a query is made of: the file, the text in it, and what the text compiles to. -/
theorem Discovered.query_eq_ok_iff {compiler : Sql.Compiler} {file : Discovered} {query : Query} :
    file.query compiler = .ok query ↔
      file.text = .ok query.rawSql ∧ query.toQueryFile = file.file ∧
        compiler.compile query.rawSql =
          .ok { sql := query.sql, parameters := query.parameters } := by
  unfold Discovered.query Query.ofSource
  cases hread : file.text with
  | error cause => simp
  | ok rawSql =>
    dsimp only
    cases hcompile : compiler.compile rawSql with
    | error error =>
      refine iff_of_false (fun h => by cases h) ?_
      rintro ⟨htext, -, hcompiled⟩
      rw [← Except.ok.inj htext, hcompile] at hcompiled
      cases hcompiled
    | ok compiled =>
      constructor
      · intro h
        cases h
        exact ⟨rfl, rfl, hcompile⟩
      · rintro ⟨htext, hfile, hcompiled⟩
        cases htext
        rw [hcompile] at hcompiled
        cases hcompiled
        rw [← hfile]

/-- The query of a file is called what the file is called. -/
theorem Discovered.query_name {compiler : Sql.Compiler} {file : Discovered} {query : Query}
    (h : file.query compiler = .ok query) : query.name = file.file.name :=
  congrArg QueryFile.name (query_eq_ok_iff.mp h).2.1

namespace Catalog

/-! ### One more query -/

section

variable {group : String} {query : Query} {groups : List (String × List Query)}

theorem keys_append :
    (append group query groups).map Prod.fst =
      if group ∈ groups.map Prod.fst then groups.map Prod.fst
      else groups.map Prod.fst ++ [group] := by
  induction groups with
  | nil => rfl
  | cons first rest ih =>
    obtain ⟨other, queries⟩ := first
    rw [append]
    by_cases hother : other = group
    · rw [if_pos hother, List.map_cons, List.map_cons, if_pos (hother ▸ List.mem_cons_self)]
    · rw [if_neg hother, List.map_cons, ih, List.map_cons]
      by_cases hmem : group ∈ rest.map Prod.fst
      · rw [if_pos hmem, if_pos (List.mem_cons_of_mem other hmem)]
      · rw [if_neg hmem, if_neg fun h => (List.mem_cons.mp h).elim (hother ·.symm) hmem,
          List.cons_append]

/-- Only the group of the query changes. -/
theorem mem_append {entry : String × List Query} (h : entry ∈ append group query groups) :
    entry ∈ groups ∨ entry = (group, (groups.lookup group).getD [] ++ [query]) := by
  induction groups with
  | nil => exact .inr (List.mem_singleton.mp h)
  | cons first rest ih =>
    obtain ⟨other, queries⟩ := first
    rw [append] at h
    by_cases hother : other = group
    · subst hother
      rw [if_pos rfl] at h
      rcases List.mem_cons.mp h with rfl | hrest
      · refine .inr ?_
        rw [List.lookup_cons_self]
        rfl
      · exact .inl (List.mem_cons_of_mem _ hrest)
    · rw [if_neg hother] at h
      rcases List.mem_cons.mp h with rfl | hrest
      · exact .inl List.mem_cons_self
      · -- another group in front is read over by the look-up as well
        have hlookup : List.lookup group ((other, queries) :: rest) = rest.lookup group := by
          rw [List.lookup_cons, beq_false_of_ne (Ne.symm hother)]
        rw [hlookup]
        exact (ih hrest).imp_left (List.mem_cons_of_mem _)

end

variable {catalog next : Catalog} {query : Query}

theorem mem_groups_of_get? {group : String} {queries : List Query}
    (h : catalog.get? group = some queries) : (group, queries) ∈ catalog.groups := by
  obtain ⟨before, behind, hgroups, -⟩ := List.lookup_eq_some_iff.mp h
  rw [hgroups]
  exact List.mem_append_right before List.mem_cons_self

/-- A query is let in when no query of its namespace has its accessor. -/
theorem insert_eq_ok_iff :
    catalog.insert query = .ok next ↔
      (∀ other ∈ (catalog.get? query.name.group).getD [],
          other.name.accessor ≠ query.name.accessor) ∧
        next = { groups := append query.name.group query catalog.groups } := by
  unfold insert
  dsimp only
  split
  case h_1 other htaken =>
    have hsame := List.find?_some htaken
    rw [decide_eq_true_eq] at hsame
    constructor
    · intro h
      cases h
    · rintro ⟨hfree, -⟩
      exact absurd hsame (hfree other (List.mem_of_find?_eq_some htaken))
  case h_2 hfree =>
    rw [List.find?_eq_none] at hfree
    rw [Except.ok.injEq]
    exact ⟨fun h => ⟨fun other hother hsame => hfree other hother (decide_eq_true hsame), h.symm⟩,
      fun h => h.2.symm⟩

/-- What the groups are after one more query, told from the queries that its group had: none,
or those of an old group. -/
theorem exists_old_of_insert (h : catalog.insert query = .ok next) :
    ∃ old, (old = [] ∨ (query.name.group, old) ∈ catalog.groups) ∧
      (∀ other ∈ old, other.name.accessor ≠ query.name.accessor) ∧
      ∀ entry ∈ next.groups,
        entry ∈ catalog.groups ∨ entry = (query.name.group, old ++ [query]) := by
  obtain ⟨hfree, rfl⟩ := insert_eq_ok_iff.mp h
  refine ⟨(catalog.get? query.name.group).getD [], ?_, hfree, fun entry => mem_append⟩
  cases hget : catalog.get? query.name.group with
  | none => exact .inl rfl
  | some queries => exact .inr (mem_groups_of_get? hget)

/-! ### Well-grouped catalogs -/

/-- No namespace twice, no empty group, every query in the group of its namespace, and no
accessor twice in a group. -/
structure WellGrouped (catalog : Catalog) : Prop where
  distinct : (catalog.groups.map Prod.fst).Nodup
  inhabited : ∀ entry ∈ catalog.groups, entry.2 ≠ []
  filed : ∀ entry ∈ catalog.groups, ∀ query ∈ entry.2, query.name.group = entry.1
  accessors : ∀ entry ∈ catalog.groups, (entry.2.map fun query => query.name.accessor).Nodup

theorem wellGrouped_empty : WellGrouped empty :=
  ⟨List.nodup_nil, by simp [empty], by simp [empty], by simp [empty]⟩

theorem WellGrouped.insert (h : WellGrouped catalog) (hinsert : catalog.insert query = .ok next) :
    WellGrouped next := by
  obtain ⟨old, hold, hfree, hgroups⟩ := exists_old_of_insert hinsert
  constructor
  case distinct =>
    obtain ⟨-, rfl⟩ := insert_eq_ok_iff.mp hinsert
    rw [keys_append]
    split
    case isTrue => exact h.distinct
    case isFalse hnew =>
      refine List.nodup_append.mpr ⟨h.distinct, List.nodup_singleton _, ?_⟩
      rintro group hgroup other hother rfl
      rw [List.mem_singleton.mp hother] at hgroup
      exact hnew hgroup
  case inhabited =>
    intro entry hentry
    rcases hgroups entry hentry with hmem | rfl
    · exact h.inhabited entry hmem
    · exact List.append_ne_nil_of_right_ne_nil old (List.cons_ne_nil query [])
  case filed =>
    intro entry hentry other hother
    rcases hgroups entry hentry with hmem | rfl
    · exact h.filed entry hmem other hother
    rcases List.mem_append.mp hother with hother | hother
    · rcases hold with rfl | hmem
      · exact absurd hother List.not_mem_nil
      · exact h.filed _ hmem other hother
    · rw [List.mem_singleton.mp hother]
  case accessors =>
    intro entry hentry
    rcases hgroups entry hentry with hmem | rfl
    · exact h.accessors entry hmem
    -- the group that grew: distinct before, and the new accessor was free in it
    have hdistinct : (old.map fun query => query.name.accessor).Nodup := by
      rcases hold with rfl | hmem
      · exact List.nodup_nil
      · exact h.accessors _ hmem
    rw [List.map_append]
    refine List.nodup_append.mpr ⟨hdistinct, List.nodup_singleton _, ?_⟩
    rintro accessor haccessor other hother rfl
    obtain ⟨earlier, hearlier, hsame⟩ := List.mem_map.mp haccessor
    exact hfree earlier hearlier (hsame.trans (List.mem_singleton.mp hother))

/-- No two queries have both namespace and accessor in common. -/
theorem WellGrouped.names_nodup (h : WellGrouped catalog) :
    (catalog.queries.map fun query => (query.name.group, query.name.accessor)).Nodup := by
  rw [queries, List.map_flatMap, List.nodup_flatMap]
  constructor
  · intro entry hentry
    refine List.Nodup.of_map Prod.snd ?_
    rw [List.map_map]
    exact h.accessors entry hentry
  · refine (List.pairwise_map.mp h.distinct).imp_of_mem ?_
    intro entry other hentry hother hdistinct name hname hname'
    obtain ⟨query, hquery, rfl⟩ := List.mem_map.mp hname
    obtain ⟨query', hquery', hsame⟩ := List.mem_map.mp hname'
    refine hdistinct ?_
    rw [← h.filed entry hentry query hquery, ← h.filed other hother query' hquery']
    exact (Prod.mk.inj hsame).1.symm

/-- All queries are those that were there and the new one. -/
theorem mem_queries_of_insert (h : catalog.insert query = .ok next) {other : Query}
    (hother : other ∈ next.queries) : other ∈ catalog.queries ∨ other = query := by
  obtain ⟨old, hold, -, hgroups⟩ := exists_old_of_insert h
  obtain ⟨entry, hentry, hother⟩ := List.mem_flatMap.mp hother
  rcases hgroups entry hentry with hmem | rfl
  · exact .inl (List.mem_flatMap.mpr ⟨entry, hmem, hother⟩)
  rcases List.mem_append.mp hother with hother | hother
  · rcases hold with rfl | hmem
    · exact absurd hother List.not_mem_nil
    · exact .inl (List.mem_flatMap.mpr ⟨_, hmem, hother⟩)
  · exact .inr (List.mem_singleton.mp hother)

/-! ### All files -/

/-- What holds at the start and is kept by the insertion of each file's query holds in the
end. -/
theorem addFiles_induction {compiler : Sql.Compiler} {files : List Discovered}
    {motive : Catalog → Prop}
    (hstep : ∀ catalog query next, motive catalog →
      (∃ file ∈ files, file.query compiler = .ok query) →
      catalog.insert query = .ok next → motive next)
    (hstart : motive catalog) (h : addFiles compiler catalog files = .ok next) :
    motive next := by
  induction files generalizing catalog with
  | nil =>
    cases h
    exact hstart
  | cons file rest ih =>
    rw [addFiles] at h
    cases hquery : file.query compiler with
    | error error =>
      rw [hquery] at h
      cases h
    | ok query =>
      rw [hquery] at h
      dsimp only at h
      cases hinsert : catalog.insert query with
      | error error =>
        rw [hinsert] at h
        cases h
      | ok grown =>
        rw [hinsert] at h
        refine ih ?_ (hstep catalog query grown hstart ⟨file, List.mem_cons_self, hquery⟩ hinsert) h
        -- a step with one of the files behind is a step with one of all files
        rintro before added after hbefore ⟨other, hother, hadded⟩
        exact hstep before added after hbefore ⟨other, List.mem_cons_of_mem file hother, hadded⟩

/-- A collected catalog is that of the files found below the root. -/
theorem collect_eq_ok_iff {files : Files.FileSystem} {root : String} {options : Options} :
    collect files root options = .ok catalog ↔
      ∃ found, discover files root options.suffix = .ok found ∧
        addFiles options.compiler empty found = .ok catalog := by
  unfold collect collectOpened discover
  split
  case h_1 error hdiscover =>
    rw [hdiscover]
    simp
  case h_2 found hdiscover =>
    rw [hdiscover]
    simp

section

variable {files : Files.FileSystem} {root : String} {options : Options}

theorem wellGrouped_of_collect (h : collect files root options = .ok catalog) :
    catalog.WellGrouped := by
  obtain ⟨found, -, hadd⟩ := collect_eq_ok_iff.mp h
  exact addFiles_induction (fun _ _ _ hgrouped _ => hgrouped.insert) wellGrouped_empty hadd

/-- Every query of a collected catalog is the query of a file found below the root. -/
theorem exists_file_of_collect (h : collect files root options = .ok catalog) :
    ∃ found, discover files root options.suffix = .ok found ∧
      ∀ query ∈ catalog.queries, ∃ file ∈ found, file.query options.compiler = .ok query := by
  obtain ⟨found, hfound, hadd⟩ := collect_eq_ok_iff.mp h
  refine ⟨found, hfound, ?_⟩
  refine addFiles_induction (motive := fun catalog => ∀ query ∈ catalog.queries,
    ∃ file ∈ found, file.query options.compiler = .ok query) ?_ (by simp [queries, empty]) hadd
  intro before added after hbefore hadded hinsert query hquery
  rcases mem_queries_of_insert hinsert hquery with hold | rfl
  · exact hbefore query hold
  · exact hadded

/-- The names in a collected catalog are names of paths. -/
theorem exists_ofPath_of_collect (h : collect files root options = .ok catalog) {query : Query}
    (hquery : query ∈ catalog.queries) :
    ∃ path, QueryName.ofPath path (trimSuffix options.suffix) = .ok query.name := by
  obtain ⟨found, hfound, hqueries⟩ := exists_file_of_collect h
  obtain ⟨file, hfile, hcompiled⟩ := hqueries query hquery
  rw [Discovered.query_name hcompiled]
  exact exists_ofPath_of_discover hfound hfile

theorem wellFormed_of_collect (h : collect files root options = .ok catalog) :
    ∀ query ∈ catalog.queries, query.name.WellFormed := by
  intro query hquery
  obtain ⟨path, hpath⟩ := exists_ofPath_of_collect h hquery
  exact QueryName.wellFormed_of_ofPath hpath

end

/-- A tree with two query files, for runs on given paths. -/
def twoFiles (first second : String) : Files.FileSystem :=
  (Files.FileSystem.empty.put (Utf8.encode first) (Utf8.encode "SELECT 1")).put
    (Utf8.encode second) (Utf8.encode "SELECT 2")

/-- The options of such runs. -/
def plainOptions : Options :=
  { dialect := .dollar, policy := none, suffix := Query.defaultSuffix }

theorem exists_of_map_eq_ok {α β ε : Type} {result : Except ε α} {f : α → β} {b : β}
    (h : result.map f = .ok b) : ∃ a, result = .ok a ∧ f a = b := by
  cases result with
  | error error => cases h
  | ok a => exact ⟨a, rfl, Except.ok.inj h⟩

end Catalog

end NamedSql
