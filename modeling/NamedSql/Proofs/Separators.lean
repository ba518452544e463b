/-
Lists put together with a separator, or cut at one.

* `mem_intercalate` — what a list put together is made of;
* `filterMap_intercalate` — a separator in which nothing is found can be overlooked;
* `cons_intercalate` — a separator in front of every piece;
* `not_mem_of_mem_splitOn`, `exists_mem_splitOn` — cutting removes the separators, and nothing
  else.
-/

namespace NamedSql

variable {α β : Type}

theorem mem_intercalate {a : α} {separator : List α} {pieces : List (List α)}
    (h : a ∈ separator.intercalate pieces) : a ∈ separator ∨ ∃ piece ∈ pieces, a ∈ piece := by
  induction pieces with
  | nil => exact absurd h (by simp)
  | cons first rest ih =>
    cases rest with
    | nil => exact .inr ⟨first, List.mem_cons_self, by simpa using h⟩
    | cons second rest =>
      rw [List.intercalate_cons_cons, List.mem_append, List.mem_append] at h
      rcases h with (hfirst | hseparator) | hrest
      · exact .inr ⟨first, List.mem_cons_self, hfirst⟩
      · exact .inl hseparator
      · refine (ih hrest).imp_right ?_
        rintro ⟨piece, hpiece, ha⟩
        exact ⟨piece, List.mem_cons_of_mem first hpiece, ha⟩

theorem infix_intercalate {piece : List α} {pieces : List (List α)} (separator : List α)
    (h : piece ∈ pieces) : piece <:+: separator.intercalate pieces := by
  induction pieces with
  | nil => exact absurd h List.not_mem_nil
  | cons first rest ih =>
    cases rest with
    | nil =>
      have hwhole : separator.intercalate [first] = piece := by
        rw [List.mem_singleton.mp h, List.intercalate_singleton]
      exact hwhole ▸ List.infix_rfl
    | cons second rest =>
      rw [List.intercalate_cons_cons]
      rcases List.mem_cons.mp h with rfl | hrest
      · rw [List.append_assoc]
        exact (List.prefix_append piece _).isInfix
      · exact (ih hrest).trans (List.suffix_append _ _).isInfix

theorem filterMap_intercalate {f : α → Option β} {separator : List α}
    (h : separator.filterMap f = []) (pieces : List (List α)) :
    (separator.intercalate pieces).filterMap f = pieces.flatMap fun piece => piece.filterMap f := by
  induction pieces with
  | nil => simp
  | cons first rest ih =>
    cases rest with
    | nil => simp
    | cons second rest =>
      rw [List.intercalate_cons_cons, List.filterMap_append, List.filterMap_append, h,
        List.append_nil, ih]
      rfl

theorem flatMap_intercalate (f : α → List β) (separator : List α) (pieces : List (List α)) :
    (separator.intercalate pieces).flatMap f =
      (separator.flatMap f).intercalate (pieces.map fun piece => piece.flatMap f) := by
  induction pieces with
  | nil => simp
  | cons first rest ih =>
    cases rest with
    | nil => simp
    | cons second rest =>
      rw [List.intercalate_cons_cons, List.flatMap_append, List.flatMap_append, ih]
      exact List.intercalate_cons_cons.symm

/-- A list with a separator in front and between its pieces. -/
theorem cons_intercalate (separator : α) {pieces : List (List α)} (h : pieces ≠ []) :
    separator :: [separator].intercalate pieces =
      pieces.flatMap fun piece => separator :: piece := by
  induction pieces with
  | nil => exact absurd rfl h
  | cons first rest ih =>
    cases rest with
    | nil => simp
    | cons second rest =>
      rw [List.intercalate_cons_cons, List.flatMap_cons, ← ih (List.cons_ne_nil second rest)]
      simp

section

variable {α : Type} [DecidableEq α] {separator : α} {s stretch : List α}

/-- No separator is left in what stands between them. -/
theorem not_mem_of_mem_splitOn (h : stretch ∈ s.splitOn separator) : separator ∉ stretch := by
  induction s generalizing stretch with
  | nil =>
    rw [List.splitOn_nil] at h
    rw [List.mem_singleton.mp h]
    exact List.not_mem_nil
  | cons a rest ih =>
    rw [List.splitOn_cons_eq_if_modifyHead] at h
    by_cases ha : a = separator
    · rw [if_pos (beq_iff_eq.mpr ha)] at h
      rcases List.mem_cons.mp h with rfl | hrest
      · exact List.not_mem_nil
      · exact ih hrest
    · rw [if_neg (by simpa using ha)] at h
      -- the character joins the first stretch of the rest
      obtain ⟨first, others, hsplit⟩ :=
        List.exists_cons_of_ne_nil (List.splitOn_ne_nil separator rest)
      rw [hsplit] at h ih
      rcases List.mem_cons.mp h with rfl | hothers
      · rw [List.mem_cons, not_or]
        exact ⟨Ne.symm ha, ih List.mem_cons_self⟩
      · exact ih (List.mem_cons_of_mem first hothers)

theorem subset_of_mem_splitOn (h : stretch ∈ s.splitOn separator) : stretch ⊆ s := by
  have hsubset := (infix_intercalate [separator] h).subset
  rwa [List.intercalate_splitOn] at hsubset

theorem exists_mem_splitOn {a : α} (h : a ∈ s) (ha : a ≠ separator) :
    ∃ stretch ∈ s.splitOn separator, a ∈ stretch := by
  have hwhole : [separator].intercalate (s.splitOn separator) = s :=
    List.intercalate_splitOn separator
  rw [← hwhole] at h
  exact (mem_intercalate h).resolve_left fun hmem => ha (List.mem_singleton.mp hmem)

end

end NamedSql
