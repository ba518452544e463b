/-
When keys tell the queries of a run apart.

A key is the namespace and the accessor without anything between them.  So it does not say
where the namespace ends, and two queries of different namespaces have one key when the
longer namespace takes over the front of the other's accessor.

* `QueryName.key_eq_iff` — two names with one key: the same name, or one split elsewhere;
* `Catalog.keys_nodup_iff` — the keys of a collected catalog are distinct exactly when no
  namespace takes over the front of an accessor.
-/
import NamedSql.Proofs.Grouping

namespace NamedSql

/-- The key of both names is the same text, and in `other` a longer stretch of it is the
namespace. -/
def QueryName.SplitsLater (name other : QueryName) : Prop :=
  ∃ moved, moved ≠ "" ∧ other.group = name.group ++ moved ∧ name.accessor = moved ++ other.accessor

theorem append_eq_append {front behind front' behind' : String}
    (h : front ++ behind = front' ++ behind') :
    (∃ moved, front' = front ++ moved ∧ behind = moved ++ behind') ∨
      ∃ moved, front = front' ++ moved ∧ behind' = moved ++ behind := by
  have hlists := congrArg String.toList h
  rw [String.toList_append, String.toList_append] at hlists
  refine (List.append_eq_append_iff.mp hlists).imp ?_ ?_
  all_goals
    rintro ⟨moved, hfront, hbehind⟩
    refine ⟨String.ofList moved, ?_, ?_⟩
    all_goals
      rw [← String.toList_inj, String.toList_append, String.toList_ofList]
      assumption

namespace QueryName

variable {name other : QueryName}

theorem SplitsLater.group_ne (h : name.SplitsLater other) : name.group ≠ other.group := by
  obtain ⟨moved, hmoved, hgroup, -⟩ := h
  rw [hgroup]
  intro heq
  refine hmoved ((String.append_right_inj name.group).mp ?_)
  rw [← heq, String.append_empty]

theorem key_eq_iff (h : name.WellFormed) (hother : other.WellFormed) :
    name.key = other.key ↔
      (name.group, name.accessor) = (other.group, other.accessor) ∨
        name.SplitsLater other ∨ other.SplitsLater name := by
  rw [h.key, hother.key, Prod.mk.injEq]
  constructor
  · intro heq
    -- one of the groups goes on where the other ends, and what it has more moves the cut
    rcases append_eq_append heq with ⟨moved, hgroup, haccessor⟩ | ⟨moved, hgroup, haccessor⟩
    all_goals by_cases hmoved : moved = ""
    · subst hmoved
      exact .inl ⟨by rw [hgroup, String.append_empty], by rw [haccessor, String.empty_append]⟩
    · exact .inr (.inl ⟨moved, hmoved, hgroup, haccessor⟩)
    · subst hmoved
      exact .inl ⟨by rw [hgroup, String.append_empty], by rw [haccessor, String.empty_append]⟩
    · exact .inr (.inr ⟨moved, hmoved, hgroup, haccessor⟩)
  · rintro (⟨hgroup, haccessor⟩ | ⟨moved, -, hgroup, haccessor⟩ | ⟨moved, -, hgroup, haccessor⟩)
    · rw [hgroup, haccessor]
    · rw [hgroup, haccessor, String.append_assoc]
    · rw [hgroup, haccessor, String.append_assoc]

end QueryName

namespace Catalog

variable {files : Files.FileSystem} {root : String} {options : Options} {catalog : Catalog}

/-- **Keys across a run.**  The keys of a collected catalog are pairwise distinct exactly when
no two of its queries split one key at different places.  Within a namespace keys are always
distinct. -/
theorem keys_nodup_iff (h : collect files root options = .ok catalog) :
    (catalog.queries.map fun query => query.name.key).Nodup ↔
      ∀ query ∈ catalog.queries, ∀ other ∈ catalog.queries,
        ¬ query.name.SplitsLater other.name := by
  have hformed := wellFormed_of_collect h
  constructor
  · intro hdistinct query hquery other hother hsplit
    have hkey := (QueryName.key_eq_iff (hformed query hquery) (hformed other hother)).mpr
      (.inr (.inl hsplit))
    have hsame := List.inj_on_of_nodup_map hdistinct hquery hother hkey
    exact hsplit.group_ne (congrArg (fun query : Query => query.name.group) hsame)
  · intro hsplits
    -- names are distinct in any case, so equal keys would have to split at different places
    have hnames := List.pairwise_map.mp (wellGrouped_of_collect h).names_nodup
    refine List.pairwise_map.mpr (hnames.imp_of_mem fun hquery hother hdistinct hkey => ?_)
    rcases (QueryName.key_eq_iff (hformed _ hquery) (hformed _ hother)).mp hkey with
      hsame | hsplit | hsplit
    · exact hdistinct hsame
    · exact hsplits _ hquery _ hother hsplit
    · exact hsplits _ hother _ hquery hsplit

theorem keys_of_abc :
    (collect (twoFiles "/q/a/b_c.sql" "/q/a_b/c.sql") "/q" plainOptions).map
      (fun catalog => catalog.queries.map fun query => query.name.key) = .ok ["ABC", "ABC"] := by
  decide +kernel

theorem splitsLater_abc :
    ∃ catalog, collect (twoFiles "/q/a/b_c.sql" "/q/a_b/c.sql") "/q" plainOptions = .ok catalog ∧
      ∃ query ∈ catalog.queries, ∃ other ∈ catalog.queries,
        query.name.SplitsLater other.name := by
  obtain ⟨catalog, hcatalog, hkeys⟩ := exists_of_map_eq_ok keys_of_abc
  have hrepeated : ¬ (catalog.queries.map fun query => query.name.key).Nodup := by
    rw [hkeys]
    decide
  rw [keys_nodup_iff hcatalog] at hrepeated
  push Not at hrepeated
  exact ⟨catalog, hcatalog, hrepeated⟩

theorem not_keys_nodup :
    ¬ ∀ (files : Files.FileSystem) (root : String) (options : Options) (catalog : Catalog),
      collect files root options = .ok catalog →
        (catalog.queries.map fun query => query.name.key).Nodup := by
  intro hunique
  obtain ⟨catalog, hcatalog, hkeys⟩ := exists_of_map_eq_ok keys_of_abc
  have hdistinct := hunique _ _ _ catalog hcatalog
  rw [hkeys] at hdistinct
  exact absurd hdistinct (by decide)

end Catalog

end NamedSql
