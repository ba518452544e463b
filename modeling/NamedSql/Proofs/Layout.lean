/-
Code cut into its lines again.

Every piece of a layout goes through `textLines`, or is a line by itself, so no line of code
holds a line break.  Then the line breaks of the code are those between its lines.

* `Unbroken` — lines without line breaks, which every layout keeps;
* `block_eq` — a block whose head is one line;
* `Overlooks` — a reader that overlooks the layout reads the pieces alone;
* `splitOn_text` — code is cut at its line breaks into the lines that it was put together from.
-/
import NamedSql.Code.Layout
import NamedSql.Proofs.Separators

namespace NamedSql

namespace Code

/-- No line holds a line break. -/
def Unbroken (lines : Lines) : Prop :=
  ∀ line ∈ lines, '\n' ∉ line.toList

instance (lines : Lines) : Decidable (Unbroken lines) :=
  inferInstanceAs (Decidable (∀ line ∈ lines, '\n' ∉ line.toList))

variable {lines more : Lines}

@[simp] theorem unbroken_singleton {line : String} : Unbroken [line] ↔ '\n' ∉ line.toList :=
  List.forall_mem_singleton

theorem Unbroken.append (h : Unbroken lines) (hmore : Unbroken more) :
    Unbroken (lines ++ more) :=
  List.forall_mem_append.mpr ⟨h, hmore⟩

theorem Unbroken.map {f : String → String} (h : Unbroken lines)
    (hf : ∀ line, '\n' ∉ line.toList → '\n' ∉ (f line).toList) : Unbroken (lines.map f) := by
  intro line hline
  obtain ⟨old, hold, rfl⟩ := List.mem_map.mp hline
  exact hf old (h old hold)

/-! ### Pieces of a layout -/

theorem not_mem_toList_append {c : Char} {s t : String} :
    c ∉ (s ++ t).toList ↔ c ∉ s.toList ∧ c ∉ t.toList := by
  rw [String.toList_append, List.mem_append, not_or]

/-- What is not in a list of characters is not in their text.  A text that is written out is such a
list, which is searched without decoding the text. -/
theorem not_mem_toList_ofList {c : Char} {chars : List Char} (h : c ∉ chars) :
    c ∉ (String.ofList chars).toList := by
  rwa [String.toList_ofList]

theorem textLines_of_not_mem {s : String} (h : '\n' ∉ s.toList) : textLines s = [s] := by
  rw [textLines, List.splitOn_eq_singleton h]
  exact congrArg (fun line => [line]) String.ofList_toList

theorem unbroken_textLines (s : String) : Unbroken (textLines s) := by
  intro line hline
  obtain ⟨stretch, hstretch, rfl⟩ := List.mem_map.mp hline
  rw [String.toList_ofList]
  -- all stretches but the last may lose a carriage return, which adds no line break
  rcases List.mem_append.mp hstretch with hinner | hlast
  · obtain ⟨whole, hwhole, rfl⟩ := List.mem_map.mp hinner
    have hfree := not_mem_of_mem_splitOn (List.dropLast_subset _ hwhole)
    unfold dropReturn
    split
    · exact fun hmem => hfree (List.dropLast_subset whole hmem)
    · exact hfree
  · exact not_mem_of_mem_splitOn (List.mem_of_getLast? (Option.mem_toList.mp hlast))

theorem unbroken_indent (h : Unbroken lines) : Unbroken (indent lines) := by
  refine h.map fun line hline => ?_
  split
  · exact hline
  · exact not_mem_toList_append.mpr ⟨by decide, hline⟩

theorem unbroken_block (head : String) (h : Unbroken lines) : Unbroken (block head lines) := by
  refine ((unbroken_textLines _).append (unbroken_indent h)).append ?_
  exact unbroken_singleton.mpr (by decide)

theorem unbroken_docComment (s : String) : Unbroken (docComment s) := by
  refine (unbroken_textLines s).map fun line hline => ?_
  split
  · decide
  · exact not_mem_toList_append.mpr ⟨by decide, hline⟩

theorem unbroken_separated {items : List Lines} (h : ∀ item ∈ items, Unbroken item) :
    Unbroken (separated items) := by
  intro line hline
  rcases mem_intercalate hline with hempty | ⟨item, hitem, hmem⟩
  · rw [List.mem_singleton.mp hempty]
    exact List.not_mem_nil
  · exact h item hitem line hmem

theorem separated_ne_nil {item : Lines} {items : List Lines} (h : item ≠ []) :
    separated (item :: items) ≠ [] := by
  cases items with
  | nil => rwa [separated, List.intercalate_singleton]
  | cons next rest =>
    rw [separated, List.intercalate_cons_cons]
    exact fun hnil => h (List.append_eq_nil_iff.mp (List.append_eq_nil_iff.mp hnil).1).1

/-- A block whose head is one line. -/
theorem block_eq {head : String} (h : '\n' ∉ head.toList) (body : Lines) :
    block head body = (head ++ " \x7b") :: (indent body ++ ["\x7d"]) := by
  -- the brace stands in the line of the head, since that ends in no line feed
  have hlast : head.toList.getLast? ≠ some '\n' := fun hlast => h (List.mem_of_getLast? hlast)
  have hopening : '\n' ∉ (head ++ " \x7b").toList :=
    not_mem_toList_append.mpr ⟨h, by decide⟩
  rw [block, if_neg hlast, textLines_of_not_mem hopening]
  rfl

theorem infix_block (head : String) (body : Lines) : indent body <:+: block head body :=
  ⟨_, _, rfl⟩

/-! ### Reading lines -/

/-- A reader of lines that overlooks empty lines and indentation. -/
structure Overlooks {β : Type} (read : String → Option β) : Prop where
  empty : read "" = none
  indentation : ∀ line, read ("    " ++ line) = read line

namespace Overlooks

variable {β : Type} {read : String → Option β} (hread : Overlooks read)

include hread

theorem filterMap_indent (lines : Lines) :
    (indent lines).filterMap read = lines.filterMap read := by
  -- empty lines are not indented, and the others read the same when they are
  have hline : read ∘ (fun line => if line.isEmpty then line else "    " ++ line) = read := by
    funext line
    rw [Function.comp_apply]
    split
    · rfl
    · exact hread.indentation line
  rw [indent, List.filterMap_map, hline]

theorem filterMap_separated (items : List Lines) :
    (separated items).filterMap read = items.flatMap fun item => item.filterMap read := by
  refine filterMap_intercalate ?_ items
  rw [List.filterMap_cons_none hread.empty, List.filterMap_nil]

/-- A block is read as its head, its body and the closing brace are. -/
theorem filterMap_block {head : String} (h : '\n' ∉ head.toList) (body : Lines) :
    (block head body).filterMap read =
      [head ++ " \x7b"].filterMap read ++ body.filterMap read ++ ["\x7d"].filterMap read := by
  rw [block_eq h, ← List.singleton_append, List.filterMap_append, List.filterMap_append,
    hread.filterMap_indent, List.append_assoc]

end Overlooks

/-- Each line of a text becomes one of documentation. -/
theorem docComment_eq (s : String) :
    docComment s =
      (textLines s).map fun line => "///" ++ if line.isEmpty then "" else " " ++ line := by
  refine List.map_congr_left fun line _ => ?_
  split
  · rfl
  · rw [← String.append_assoc]
    rfl

/-! ### Cutting code -/

/-- Code is cut at its line breaks into the lines that it was put together from. -/
theorem splitOn_text (hlines : lines ≠ []) (h : Unbroken lines) :
    (text lines).toList.splitOn '\n' = lines.map String.toList := by
  rw [text, String.toList_intercalate]
  refine List.splitOn_intercalate '\n' (fun line hline => ?_) ?_
  · obtain ⟨old, hold, rfl⟩ := List.mem_map.mp hline
    exact h old hold
  · exact fun hnil => hlines (List.map_eq_nil_iff.mp hnil)

end Code

end NamedSql
