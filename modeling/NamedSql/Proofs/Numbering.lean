/-
The numbers of references and the parameter table they leave.

Numbering starts from any table and goes on reference by reference; each law is proved
for one step (`number_*`) and from it for a run (`numberAll_*`).  `numbering` collects
them for a run from the empty table:

* `ParameterTable.numberAll` — the numbers of a list of names, and the table afterwards;
* `Numbering` — what a policy promises of them.
-/
import Mathlib.Data.List.Forall2
import NamedSql.Sql.Compile

namespace NamedSql.Sql

namespace ParameterTable

/-- The numbers of references to some names, one after the other, and the table
afterwards. -/
def numberAll (policy : NumberingPolicy) (table : ParameterTable) :
    List String → List Nat × ParameterTable
  | [] => ([], table)
  | name :: rest =>
    let (index, table) := table.number policy name
    let (indices, table) := numberAll policy table rest
    (index :: indices, table)

/-- The positions of a table count from 1. -/
def InOrder (table : ParameterTable) : Prop :=
  table.map Parameter.index = List.range' 1 table.length

/-! ### One more reference -/

theorem number_perOccurrence (table : ParameterTable) (name : String) :
    table.number .perOccurrence name = (table.length + 1, table.push name) := rfl

theorem number_collapse (table : ParameterTable) (name : String) :
    table.number .collapse name =
      match table.indexOf? name with
      | some index => (index, table)
      | none => (table.length + 1, table.push name) := by
  unfold number
  cases table.indexOf? name <;> rfl

/-- A number is new and at the end of the table, or that of a name in it. -/
theorem number_cases (policy : NumberingPolicy) (table : ParameterTable) (name : String) :
    table.number policy name = (table.length + 1, table.push name) ∨
      ∃ index, table.indexOf? name = some index ∧ table.number policy name = (index, table) := by
  cases policy with
  | perOccurrence => exact .inl rfl
  | collapse =>
    rw [number_collapse]
    cases hindex : table.indexOf? name with
    | some index => exact .inr ⟨index, rfl, rfl⟩
    | none => exact .inl rfl

theorem length_number_le (policy : NumberingPolicy) (table : ParameterTable) (name : String) :
    (table.number policy name).2.length ≤ table.length + 1 := by
  rcases number_cases policy table name with hnew | ⟨index, -, hold⟩
  · rw [hnew, push, List.length_append]
    exact Nat.le_refl _
  · rw [hold]
    exact Nat.le_succ _

theorem inOrder_push {table : ParameterTable} (h : table.InOrder) (name : String) :
    (table.push name).InOrder := by
  rw [InOrder, push, List.map_append, h, List.length_append, List.length_singleton,
    List.range'_concat]
  simp [Nat.add_comm]

theorem number_inOrder {table : ParameterTable} (h : table.InOrder) (policy : NumberingPolicy)
    (name : String) : (table.number policy name).2.InOrder := by
  rcases number_cases policy table name with hnew | ⟨index, -, hold⟩
  · rw [hnew]
    exact inOrder_push h name
  · rw [hold]
    exact h

/-- The position of a name in the table is one of the table's positions. -/
theorem exists_mem_of_indexOf? {table : ParameterTable} {name : String} {index : Nat}
    (h : table.indexOf? name = some index) : { name, index } ∈ table := by
  obtain ⟨parameter, hfind, rfl⟩ := Option.map_eq_some_iff.mp h
  have hname : parameter.name = name := by simpa using List.find?_some hfind
  rw [← hname]
  exact List.mem_of_find?_eq_some hfind

theorem index_le_of_mem {table : ParameterTable} (h : table.InOrder) {parameter : Parameter}
    (hmem : parameter ∈ table) : parameter.index ≤ table.length := by
  have hindex := List.mem_map_of_mem (f := Parameter.index) hmem
  rw [h, List.mem_range'_1] at hindex
  omega

theorem index_getElem {table : ParameterTable} (h : table.InOrder) {k : Nat}
    (hk : k < table.length) : table[k].index = k + 1 := by
  have hindex := congrArg (fun indices => indices[k]?) h
  simp only [List.getElem?_map, List.getElem?_eq_getElem hk] at hindex
  rw [List.getElem?_range' hk] at hindex
  have hindex := Option.some.inj hindex
  omega

/-- The entries stand in the order of their positions. -/
theorem find?_index {table : ParameterTable} (h : table.InOrder) (k : Nat) :
    table.find? (fun parameter => parameter.index = k + 1) = table[k]? := by
  by_cases hk : k < table.length
  · rw [List.getElem?_eq_getElem hk, List.find?_eq_some_iff_getElem]
    refine ⟨by simp [index_getElem h hk], k, hk, rfl, fun j hj => ?_⟩
    have hother := index_getElem h (Nat.lt_trans hj hk)
    simpa [hother] using Nat.ne_of_lt hj
  · rw [List.getElem?_eq_none (Nat.le_of_not_lt hk), List.find?_eq_none]
    intro parameter hmem
    have hle := index_le_of_mem h hmem
    have hne : parameter.index ≠ k + 1 := by omega
    simpa using hne

theorem find?_of_mem {table : ParameterTable} (h : table.InOrder)
    {parameter : Parameter} (hmem : parameter ∈ table) :
    table.find? (fun other => other.index = parameter.index) = some parameter := by
  obtain ⟨k, hk, rfl⟩ := List.mem_iff_getElem.mp hmem
  rw [index_getElem h hk, find?_index h, List.getElem?_eq_getElem hk]

/-- The table grows by the number given, if at all. -/
theorem number_max {table : ParameterTable} (h : table.InOrder) (policy : NumberingPolicy)
    (name : String) :
    max table.length (table.number policy name).1 = (table.number policy name).2.length := by
  rcases number_cases policy table name with hnew | ⟨index, hindex, hold⟩
  · rw [hnew]
    simp [push]
  · rw [hold]
    exact Nat.max_eq_left (index_le_of_mem h (exists_mem_of_indexOf? hindex))

theorem indexOf?_cons (parameter : Parameter) (table : ParameterTable) (name : String) :
    indexOf? (parameter :: table) name =
      if parameter.name = name then some parameter.index else table.indexOf? name := by
  by_cases h : parameter.name = name
  · rw [if_pos h, indexOf?, List.find?_cons_of_pos (by simpa using h)]
    rfl
  · rw [if_neg h, indexOf?, List.find?_cons_of_neg (by simpa using h), indexOf?]

theorem indexOf?_push (table : ParameterTable) (name other : String) :
    (table.push name).indexOf? other =
      (table.indexOf? other).or (if other = name then some (table.length + 1) else none) := by
  rw [indexOf?, push, List.find?_append, indexOf?]
  cases table.find? fun parameter => parameter.name = other with
  | some parameter => rfl
  | none => by_cases h : name = other <;> simp [h, eq_comm]

/-- Looking a name up finds the number given first. -/
theorem number_indexOf? (policy : NumberingPolicy) (table : ParameterTable)
    (name other : String) :
    (table.number policy name).2.indexOf? other =
      (table.indexOf? other).or
        (if other = name then some (table.number policy name).1 else none) := by
  rcases number_cases policy table name with hnew | ⟨index, hindex, hold⟩
  · rw [hnew]
    exact indexOf?_push table name other
  · rw [hold]
    -- a name with an old number already has it in the table
    by_cases h : other = name
    · rw [if_pos h, h, hindex]
      rfl
    · rw [if_neg h, Option.or_none]

/-! ### A run of references -/

@[simp] theorem numberAll_cons (policy : NumberingPolicy) (table : ParameterTable) (name : String)
    (rest : List String) :
    table.numberAll policy (name :: rest) =
      ((table.number policy name).1 :: ((table.number policy name).2.numberAll policy rest).1,
        ((table.number policy name).2.numberAll policy rest).2) := rfl

theorem numberAll_length (policy : NumberingPolicy) (table : ParameterTable)
    (names : List String) : (table.numberAll policy names).1.length = names.length := by
  induction names generalizing table with
  | nil => rfl
  | cons name rest ih => simp [numberAll_cons, ih]

theorem numberAll_inOrder {table : ParameterTable} (h : table.InOrder)
    (policy : NumberingPolicy) (names : List String) :
    (table.numberAll policy names).2.InOrder := by
  induction names generalizing table with
  | nil => exact h
  | cons name rest ih => exact ih (number_inOrder h policy name)

theorem numberAll_max {table : ParameterTable} (h : table.InOrder) (policy : NumberingPolicy)
    (names : List String) :
    max table.length ((table.numberAll policy names).1.foldr max 0) =
      (table.numberAll policy names).2.length := by
  induction names generalizing table with
  | nil => simp [numberAll]
  | cons name rest ih =>
    rw [numberAll_cons, List.foldr_cons, ← Nat.max_assoc, number_max h]
    exact ih (number_inOrder h policy name)

theorem numberAll_indexOf? (policy : NumberingPolicy) (table : ParameterTable)
    (names : List String) (name : String) :
    (table.numberAll policy names).2.indexOf? name =
      (table.indexOf? name).or ((names.zip (table.numberAll policy names).1).lookup name) := by
  induction names generalizing table with
  | nil => simp [numberAll]
  | cons first rest ih =>
    rw [numberAll_cons, ih, number_indexOf?, Option.or_assoc, List.zip_cons_cons,
      List.lookup_cons]
    by_cases h : name = first
    · simp [h]
    · rw [if_neg h, beq_false_of_ne h, Option.none_or]

/-- One number for each reference: the run only appends. -/
theorem numberAll_perOccurrence (table : ParameterTable) (names : List String) :
    (table.numberAll .perOccurrence names).1 = List.range' (table.length + 1) names.length ∧
      (table.numberAll .perOccurrence names).2.map Parameter.name =
        table.map Parameter.name ++ names := by
  induction names generalizing table with
  | nil => simp [numberAll]
  | cons name rest ih =>
    obtain ⟨hindices, hnames⟩ := ih (table.push name)
    rw [numberAll_cons, number_perOccurrence]
    constructor
    · rw [hindices, List.length_cons, List.range'_succ]
      simp [push]
    · rw [hnames]
      simp [push]

theorem indexOf?_eq_none_iff {table : ParameterTable} {name : String} :
    table.indexOf? name = none ↔ name ∉ table.map Parameter.name := by
  rw [indexOf?, Option.map_eq_none_iff, List.find?_eq_none]
  simp

theorem number_collapse_names (table : ParameterTable) (name : String) :
    (table.number .collapse name).2.map Parameter.name =
      if name ∈ table.map Parameter.name then table.map Parameter.name
      else table.map Parameter.name ++ [name] := by
  rw [number_collapse]
  cases hindex : table.indexOf? name with
  | none => rw [if_neg (indexOf?_eq_none_iff.mp hindex)]; simp [push]
  | some index =>
    rw [if_pos]
    exact List.mem_map.mpr ⟨_, exists_mem_of_indexOf? hindex, rfl⟩

/-- One number for each name: the run lists each name when it first comes. -/
theorem numberAll_collapse_names (table : ParameterTable) (before names : List String)
    (h : table.map Parameter.name = before.eraseDups) :
    (table.numberAll .collapse names).2.map Parameter.name = (before ++ names).eraseDups := by
  induction names generalizing table before with
  | nil => simpa [numberAll] using h
  | cons name rest ih =>
    -- the names seen so far take in the first one, whether the table does or not
    rw [numberAll_cons, List.append_cons]
    refine ih _ _ ?_
    rw [number_collapse_names, h, List.eraseDups_append]
    by_cases hmem : name ∈ before <;> simp [hmem, List.removeAll, List.eraseDups_cons]

theorem mem_number {table : ParameterTable} {parameter : Parameter} (h : parameter ∈ table)
    (policy : NumberingPolicy) (name : String) : parameter ∈ (table.number policy name).2 := by
  rcases number_cases policy table name with hnew | ⟨index, -, hold⟩
  · rw [hnew]
    exact List.mem_append_left _ h
  · rw [hold]
    exact h

/-- What is in a table stays in it. -/
theorem mem_numberAll {table : ParameterTable} {parameter : Parameter} (h : parameter ∈ table)
    (policy : NumberingPolicy) (names : List String) :
    parameter ∈ (table.numberAll policy names).2 := by
  induction names generalizing table with
  | nil => exact h
  | cons name rest ih => exact ih (mem_number h policy name)

theorem number_mem (policy : NumberingPolicy) (table : ParameterTable) (name : String) :
    { name, index := (table.number policy name).1 } ∈ (table.number policy name).2 := by
  rcases number_cases policy table name with hnew | ⟨index, hindex, hold⟩
  · rw [hnew]
    simp [push]
  · rw [hold]
    exact exists_mem_of_indexOf? hindex

/-- Each reference has a number under which the table holds its name. -/
theorem numberAll_mem (policy : NumberingPolicy) (table : ParameterTable) (names : List String) :
    List.Forall₂ (fun name index => { name, index } ∈ (table.numberAll policy names).2) names
      (table.numberAll policy names).1 := by
  induction names generalizing table with
  | nil => exact .nil
  | cons name rest ih =>
    rw [numberAll_cons]
    exact .cons (mem_numberAll (number_mem policy table name) policy rest) (ih _)

end ParameterTable

/-- What a policy promises of the numbers of references to `names` and of the table. -/
structure Numbering (policy : NumberingPolicy) (names : List String) (indices : List Nat)
    (table : ParameterTable) : Prop where
  /-- One number for each reference: they count up, and the table lists every reference. -/
  perOccurrence : policy = .perOccurrence →
    indices = List.range' 1 names.length ∧ table.map Parameter.name = names
  /-- One number for each name: the table lists the names as they first come. -/
  collapse : policy = .collapse → table.map Parameter.name = names.eraseDups
  /-- Each reference has the number of an entry with its name. -/
  entries : List.Forall₂ (fun name index => { name, index } ∈ table) names indices
  /-- The positions are 1, 2, … in this order. -/
  positions : table.map Parameter.index = List.range' 1 table.length
  /-- The last position is the largest number given, or 0 if there is none. -/
  largest : indices.foldr max 0 = table.length
  /-- Looking up a name gives the number of the first reference to it … -/
  lookup : ∀ name, table.indexOf? name = (names.zip indices).lookup name
  /-- … and nothing for a name without references. -/
  absent : ∀ name, table.indexOf? name = none ↔ name ∉ names

theorem numbering (policy : NumberingPolicy) (names : List String) :
    Numbering policy names (ParameterTable.numberAll policy [] names).1
      (ParameterTable.numberAll policy [] names).2 := by
  have hempty : ParameterTable.InOrder [] := rfl
  have hlookup (name : String) :
      (ParameterTable.numberAll policy [] names).2.indexOf? name =
        (names.zip (ParameterTable.numberAll policy [] names).1).lookup name := by
    rw [ParameterTable.numberAll_indexOf?]
    rfl
  have hlength := ParameterTable.numberAll_length policy [] names
  refine ⟨?_, ?_, ParameterTable.numberAll_mem policy [] names,
    ParameterTable.numberAll_inOrder hempty policy names, ?_, hlookup, fun name => ?_⟩
  · rintro rfl
    simpa using ParameterTable.numberAll_perOccurrence [] names
  · rintro rfl
    simpa using ParameterTable.numberAll_collapse_names [] [] names rfl
  · simpa using ParameterTable.numberAll_max hempty policy names
  · rw [hlookup, List.lookup_eq_none_iff]
    -- each name has a number, so the names are the keys of the pairs
    have hkeys := @List.map_fst_zip _ _ names _ (Nat.le_of_eq hlength.symm)
    constructor
    · intro hnone hmem
      rw [← hkeys] at hmem
      obtain ⟨pair, hpair, rfl⟩ := List.mem_map.mp hmem
      simpa using hnone pair hpair
    · intro hmem pair hpair
      rw [bne_iff_ne]
      rintro rfl
      exact hmem (List.of_mem_zip hpair).1

end NamedSql.Sql
