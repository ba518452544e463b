/-
The code of a catalog as lines.

* `unbroken_catalogLines` — no line of the code holds a line break, whatever the texts in the
  catalog are;
* `generate_eq_ok_iff` — there is code exactly when every namespace has a module of its own.
-/
import Mathlib
import NamedSql.Code.Accessors
import NamedSql.Proofs.Layout
import NamedSql.Proofs.Literals

namespace NamedSql.Code

/-! ### Lines of a query -/

theorem not_mem_toString {c : Char} (h : c.isDigit = false) (n : Nat) :
    c ∉ (toString n).toList := by
  rw [Nat.toString_eq_repr, Nat.toList_repr]
  intro hmem
  rw [Nat.isDigit_of_mem_toDigits (by decide) (by decide) hmem] at h
  cases h

/-! Literals and numbers hold no line feed and no carriage return, and neither does what is written
around them. -/

section

variable {control : Char} (hcontrol : control ∈ ['\n', '\r'])

include hcontrol

theorem isDigit_control : control.isDigit = false := by
  revert control
  rw [List.forall_mem_cons, List.forall_mem_singleton]
  decide

theorem not_mem_written {chars : List Char} (h : '\n' ∉ chars ∧ '\r' ∉ chars) :
    control ∉ (String.ofList chars).toList := by
  revert control
  rw [List.forall_mem_cons, List.forall_mem_singleton]
  exact ⟨not_mem_toList_ofList h.1, not_mem_toList_ofList h.2⟩

theorem not_mem_parameterEntry (parameter : Sql.Parameter) :
    control ∉ (parameterEntry parameter).toList := by
  have hindex := not_mem_toString (isDigit_control hcontrol) parameter.index
  simp only [parameterEntry, not_mem_toList_append]
  exact ⟨⟨⟨⟨not_mem_written hcontrol (by decide), Literal.not_mem_encode hcontrol⟩,
    not_mem_written hcontrol (by decide)⟩, hindex⟩, not_mem_written hcontrol (by decide)⟩

theorem not_mem_table (table : Sql.ParameterTable) :
    control ∉ ("&[" ++ ", ".intercalate (table.map parameterEntry) ++ "]").toList := by
  rw [not_mem_toList_append, not_mem_toList_append, String.toList_intercalate]
  refine ⟨⟨not_mem_written hcontrol (by decide), fun hmem => ?_⟩,
    not_mem_written hcontrol (by decide)⟩
  -- between the brackets there are entries and the commas between them
  rcases mem_intercalate hmem with hcomma | ⟨piece, hpiece, hmem⟩
  · exact not_mem_written hcontrol (by decide) hcomma
  · rw [List.map_map] at hpiece
    obtain ⟨parameter, -, rfl⟩ := List.mem_map.mp hpiece
    exact not_mem_parameterEntry hcontrol parameter hmem

theorem not_mem_lookupArm (parameter : Sql.Parameter) :
    control ∉ (lookupArm parameter).toList := by
  have hindex := not_mem_toString (isDigit_control hcontrol) parameter.index
  simp only [lookupArm, not_mem_toList_append]
  exact ⟨⟨⟨⟨⟨Literal.not_mem_encode hcontrol, not_mem_written hcontrol (by decide)⟩,
    not_mem_written hcontrol (by decide)⟩, not_mem_written hcontrol (by decide)⟩, hindex⟩,
    not_mem_written hcontrol (by decide)⟩

theorem not_mem_lookupArms (table : Sql.ParameterTable) :
    ∀ line ∈ table.map lookupArm, control ∉ line.toList := by
  intro line hline
  obtain ⟨parameter, -, rfl⟩ := List.mem_map.mp hline
  exact not_mem_lookupArm hcontrol parameter

theorem not_mem_header (compiler : Sql.Compiler) :
    ∀ line ∈ header compiler, control ∉ line.toList := by
  have hdialect : control ∉ compiler.dialect.name.toList := by
    cases compiler.dialect <;> exact not_mem_written hcontrol (by decide)
  have hpolicy : control ∉ compiler.policy.name.toList := by
    cases compiler.policy <;> exact not_mem_written hcontrol (by decide)
  rw [header, List.forall_mem_cons, List.forall_mem_singleton]
  refine ⟨not_mem_written hcontrol (by decide), ?_⟩
  simp only [not_mem_toList_append]
  exact ⟨⟨⟨not_mem_written hcontrol (by decide), hdialect⟩,
    not_mem_written hcontrol (by decide)⟩, hpolicy⟩

end

theorem unbroken_function (doc signature : String) {body : Lines} (h : Unbroken body) :
    Unbroken (function doc signature body) :=
  (unbroken_docComment doc).append (unbroken_block _ h)

/-- The look-up with its types written out. -/
theorem paramIndexFunction_eq (query : Query) :
    paramIndexFunction query =
      if query.parameters.isEmpty then
        function "Position to bind `name` at, or `None` if the query does not use it."
          "param_index(_name: &str) -> ::core::option::Option<usize>"
          ["::core::option::Option::None"]
      else
        function "Position to bind `name` at, or `None` if the query does not use it."
          "param_index(name: &str) -> ::core::option::Option<usize>"
          (block "match name" ((firstOccurrences [] query.parameters).map lookupArm
            ++ ["_ => ::core::option::Option::None,"])) :=
  rfl

theorem unbroken_paramIndexFunction (query : Query) : Unbroken (paramIndexFunction query) := by
  rw [paramIndexFunction_eq]
  -- the look-up is one line or a match with one arm for each name
  split
  · exact unbroken_function _ _ (unbroken_singleton.mpr (not_mem_toList_ofList (by decide)))
  · have harms : Unbroken ((firstOccurrences [] query.parameters).map lookupArm) :=
      not_mem_lookupArms List.mem_cons_self _
    refine unbroken_function _ _ (unbroken_block _ (harms.append ?_))
    exact unbroken_singleton.mpr (not_mem_toList_ofList (by decide))

theorem unbroken_functionsItem (query : Query) : Unbroken (functionsItem query) := by
  refine unbroken_block _ (unbroken_separated ?_)
  simp only [List.forall_mem_cons]
  exact ⟨unbroken_function _ _ (unbroken_singleton.mpr (Literal.not_mem_encode List.mem_cons_self)),
    unbroken_function _ _ (unbroken_singleton.mpr (Literal.not_mem_encode List.mem_cons_self)),
    unbroken_function _ _ (unbroken_singleton.mpr (not_mem_table List.mem_cons_self _)),
    unbroken_paramIndexFunction query, List.forall_mem_nil _⟩

theorem unbroken_typeItem (query : Query) : Unbroken (typeItem query) :=
  ((unbroken_docComment _).append (unbroken_singleton.mpr (by decide))).append
    (unbroken_textLines _)

theorem unbroken_moduleItem (group : String) (queries : List Query) :
    Unbroken (moduleItem group queries) := by
  refine unbroken_block _ (unbroken_separated fun item hitem => ?_)
  obtain ⟨query, -, hquery⟩ := List.mem_flatMap.mp hitem
  rcases List.mem_cons.mp hquery with rfl | hquery
  · exact unbroken_typeItem query
  · rw [List.mem_singleton.mp hquery]
    exact unbroken_functionsItem query

/-! ### Lines of a catalog -/

theorem unbroken_header (compiler : Sql.Compiler) : Unbroken (header compiler) :=
  not_mem_header List.mem_cons_self compiler

/-- The lines of the code of a catalog. -/
def catalogLines (compiler : Sql.Compiler) (catalog : Catalog) : Lines :=
  separated (header compiler :: catalog.groups.map fun entry => moduleItem entry.1 entry.2)

theorem unbroken_catalogLines (compiler : Sql.Compiler) (catalog : Catalog) :
    Unbroken (catalogLines compiler catalog) := by
  refine unbroken_separated fun item hitem => ?_
  rcases List.mem_cons.mp hitem with rfl | hitem
  · exact unbroken_header compiler
  · obtain ⟨entry, -, rfl⟩ := List.mem_map.mp hitem
    exact unbroken_moduleItem entry.1 entry.2

theorem catalogLines_ne_nil (compiler : Sql.Compiler) (catalog : Catalog) :
    catalogLines compiler catalog ≠ [] :=
  separated_ne_nil (List.cons_ne_nil _ _)

/-- The lines of the code are found again in it. -/
theorem map_ofList_splitOn_text (compiler : Sql.Compiler) (catalog : Catalog) :
    ((text (catalogLines compiler catalog)).toList.splitOn '\n').map String.ofList =
      catalogLines compiler catalog := by
  have hsame : String.ofList ∘ String.toList = id := funext fun line => String.ofList_toList
  rw [splitOn_text (catalogLines_ne_nil compiler catalog) (unbroken_catalogLines compiler catalog),
    List.map_map, hsame, List.map_id]

/-! ### Modules of one name -/

theorem firstRepeated?_eq_none_iff {seen names : List String} :
    firstRepeated? seen names = none ↔ names.Nodup ∧ ∀ name ∈ names, name ∉ seen := by
  -- by induction on the names, with those in front of them seen already
  induction names generalizing seen with
  | nil => simp [firstRepeated?]
  | cons name rest ih =>
    rw [firstRepeated?, List.nodup_cons, List.forall_mem_cons]
    by_cases hname : name ∈ seen
    · rw [if_pos hname]
      exact iff_of_false (by simp) fun h => h.2.1 hname
    · rw [if_neg hname, ih]
      constructor
      · rintro ⟨hdistinct, hnew⟩
        refine ⟨⟨fun hmem => hnew name hmem List.mem_cons_self, hdistinct⟩, hname, ?_⟩
        exact fun other hother hmem => hnew other hother (List.mem_cons_of_mem name hmem)
      · rintro ⟨⟨hfirst, hdistinct⟩, -, hnew⟩
        refine ⟨hdistinct, fun other hother hmem => ?_⟩
        rcases List.mem_cons.mp hmem with rfl | hseen
        · exact hfirst hother
        · exact hnew other hother hseen

/-- There is code exactly when no two namespaces share a module name. -/
theorem generate_eq_ok_iff {compiler : Sql.Compiler} {catalog : Catalog} {code : String} :
    generate compiler catalog = .ok code ↔
      (catalog.groups.map fun entry => moduleName entry.1).Nodup ∧
        code = text (catalogLines compiler catalog) := by
  unfold generate
  split
  case h_1 name hrepeated =>
    -- a name is only found repeated if it is
    have hshared : ¬ (catalog.groups.map fun entry => moduleName entry.1).Nodup := by
      intro hdistinct
      rw [firstRepeated?_eq_none_iff.mpr ⟨hdistinct, fun _ _ => List.not_mem_nil⟩] at hrepeated
      cases hrepeated
    exact iff_of_false (fun h => by cases h) fun h => hshared h.1
  case h_2 hnone =>
    rw [Except.ok.injEq]
    exact ⟨fun h => ⟨(firstRepeated?_eq_none_iff.mp hnone).1, h.symm⟩, fun h => h.2.symm⟩

end NamedSql.Code
