/-
When every namespace of a catalog has a module of its own.

Namespaces are told apart letter by letter, their modules by words in small letters.  So
namespaces that differ only in the case of letters inside their words share a module.

* `moduleName_eq_iff` — one module name means the same words but for letter case;
* `generate_collected_iff` — a collected catalog has code, with one module for each namespace,
  exactly when no two namespaces have the same words.
-/
import NamedSql.Proofs.Decoding
import NamedSql.Proofs.Grouping

namespace NamedSql.Code

section

variable {group other : String}

/-- An underscore behind a name in snake case makes it the name of no words: what stands behind
the last underscore would be an empty word. -/
theorem snake_append_underscore_ne (h : Text.IsAsciiName group) (hother : Text.IsAsciiName other) :
    Text.snake group ++ "_" ≠ Text.snake other := by
  intro heq
  have hsplit : Text.lowerWords group ++ [[]] = Text.lowerWords other := by
    rw [← h.splitOn_snake, ← hother.splitOn_snake, ← heq, String.toList_append]
    exact (List.splitOn_append_cons_self (Text.snake group).toList []).symm
  have hempty : [] ∈ Text.lowerWords other := by
    rw [← hsplit]
    exact List.mem_append_right _ List.mem_cons_self
  exact (hother.lowerWords_small hempty).1 rfl

theorem moduleName_eq_iff (h : Text.IsAsciiName group) (hother : Text.IsAsciiName other) :
    moduleName group = moduleName other ↔ Text.lowerWords group = Text.lowerWords other := by
  rw [← Text.snake_eq_iff h hother]
  unfold moduleName
  dsimp only
  constructor
  · intro heq
    split at heq <;> split at heq
    · exact (String.append_left_inj "_").mp heq
    · exact absurd heq (snake_append_underscore_ne h hother)
    · exact absurd heq.symm (snake_append_underscore_ne hother h)
    · exact heq
  · intro heq
    rw [heq]

end

variable {files : Files.FileSystem} {root : String} {options : Options} {catalog : Catalog}

theorem isAsciiName_of_collect (h : Catalog.collect files root options = .ok catalog) :
    ∀ entry ∈ catalog.groups, Text.IsAsciiName entry.1 := by
  intro entry hentry
  have hgrouped := Catalog.wellGrouped_of_collect h
  obtain ⟨query, hquery⟩ := List.exists_mem_of_ne_nil _ (hgrouped.inhabited entry hentry)
  have hmem : query ∈ catalog.queries := List.mem_flatMap.mpr ⟨entry, hentry, hquery⟩
  rw [← hgrouped.filed entry hentry query hquery]
  exact (Catalog.wellFormed_of_collect h query hmem).group

theorem moduleNames_nodup_iff (hnames : ∀ entry ∈ catalog.groups, Text.IsAsciiName entry.1) :
    (catalog.groups.map fun entry => moduleName entry.1).Nodup ↔
      (catalog.groups.map fun entry => Text.lowerWords entry.1).Nodup := by
  rw [List.Nodup, List.Nodup, List.pairwise_map, List.pairwise_map]
  refine List.Pairwise.iff_of_mem fun {entry other} hentry hother => ?_
  exact (moduleName_eq_iff (hnames entry hentry) (hnames other hother)).not

/-- **Modules of a collected catalog.**  What is collected has code if and only if no two of
its namespaces have the same words but for letter case.  That code has exactly one module for
each namespace, in the order of the groups and with pairwise distinct names. -/
theorem generate_collected_iff (h : Catalog.collect files root options = .ok catalog) :
    ((∃ code, generate options.compiler catalog = .ok code) ↔
        (catalog.groups.map fun entry => Text.lowerWords entry.1).Nodup) ∧
      ∀ code, generate options.compiler catalog = .ok code →
        (decode code).map ModuleRecord.name =
            catalog.groups.map (fun entry => moduleName entry.1) ∧
          ((decode code).map ModuleRecord.name).Nodup := by
  have hnames := isAsciiName_of_collect h
  constructor
  · rw [← moduleNames_nodup_iff hnames]
    exact ⟨fun ⟨code, hcode⟩ => (generate_eq_ok_iff.mp hcode).1,
      fun hdistinct => ⟨_, generate_eq_ok_iff.mpr ⟨hdistinct, rfl⟩⟩⟩
  · intro code hcode
    obtain ⟨hdistinct, rfl⟩ := generate_eq_ok_iff.mp hcode
    have hdecode := decode_text options.compiler hnames fun query hquery =>
      (Catalog.wellFormed_of_collect h query hquery).accessor
    rw [hdecode, map_name_ofGroup]
    exact ⟨rfl, hdistinct⟩

theorem generate_users_and_order_items :
    ∃ catalog, Catalog.collect (Catalog.twoFiles "/q/users/list.sql" "/q/order_items/find.sql") "/q"
        Catalog.plainOptions = .ok catalog ∧
      ∃ code, generate Catalog.plainOptions.compiler catalog = .ok code ∧
        (decode code).map ModuleRecord.name = ["order_items", "users"] := by
  have hrun : (Catalog.collect (Catalog.twoFiles "/q/users/list.sql" "/q/order_items/find.sql") "/q"
      Catalog.plainOptions).map (fun catalog => catalog.groups.map Prod.fst) =
        .ok ["OrderItems", "Users"] := by
    decide +kernel
  obtain ⟨catalog, hcatalog, hgroups⟩ := Catalog.exists_of_map_eq_ok hrun
  have hmap {α : Type} (f : String → α) :
      (catalog.groups.map fun entry => f entry.1) = ["OrderItems", "Users"].map f := by
    rw [← hgroups, List.map_map]
    rfl
  have hsnake : ["OrderItems", "Users"].map moduleName = ["order_items", "users"] := by
    decide +kernel
  have hnames := (hmap moduleName).trans hsnake
  have hwords : (catalog.groups.map fun entry => Text.lowerWords entry.1).Nodup := by
    rw [← moduleNames_nodup_iff (isAsciiName_of_collect hcatalog), hnames]
    decide
  obtain ⟨hcodes, hmodules⟩ := generate_collected_iff hcatalog
  obtain ⟨code, hcode⟩ := hcodes.mpr hwords
  exact ⟨catalog, hcatalog, code, hcode, (hmodules code hcode).1.trans hnames⟩

theorem not_generate_collected :
    ¬ ∀ (files : Files.FileSystem) (root : String) (options : Options) (catalog : Catalog),
      Catalog.collect files root options = .ok catalog →
        ∃ code, generate options.compiler catalog = .ok code ∧
          (decode code).map ModuleRecord.name =
            catalog.groups.map (fun entry => moduleName entry.1) ∧
          ((decode code).map ModuleRecord.name).Nodup := by
  intro hemits
  have hrun : (Catalog.collect (Catalog.twoFiles "/q/a_b/x.sql" "/q/ab/x.sql") "/q"
      Catalog.plainOptions).map (generate Catalog.plainOptions.compiler) =
        .ok (.error { moduleName := "ab" }) := by
    decide +kernel
  obtain ⟨catalog, hcatalog, hclash⟩ := Catalog.exists_of_map_eq_ok hrun
  obtain ⟨code, hcode, -⟩ := hemits _ _ _ catalog hcatalog
  rw [hclash] at hcode
  cases hcode

end NamedSql.Code
