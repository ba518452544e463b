/-
Carriage returns in generated code.

Names hold none, and in a literal they are escaped.  A path is shown as it is, cut into lines of
documentation.  The cut takes the line feeds away and one carriage return in front of each, so
what is left are those carriage returns that stand in front of no line feed.

* `HasBareReturn` — a carriage return in front of no line feed;
* `exists_return_textLines_iff` — only such a one is left in the lines of a text;
* `returnLines` — the lines of code that hold a carriage return;
* `returnLines_catalogLines` — they are lines of documentation that show a path;
* `return_free_iff` — code is free of them unless a path has a bare one.
-/
import Mathlib
import NamedSql.Proofs.Decoding
import NamedSql.Proofs.Modules

namespace NamedSql.Code

/-- A carriage return that stands in front of no line feed. -/
def HasBareReturn (s : List Char) : Prop :=
  ∃ front behind, s = front ++ '\r' :: behind ∧ behind.head? ≠ some '\n'

/-! ### Bare carriage returns and lines -/

theorem not_hasBareReturn_nil : ¬ HasBareReturn [] := by
  rintro ⟨front, behind, hnil, -⟩
  exact List.append_ne_nil_of_right_ne_nil front (List.cons_ne_nil _ _) hnil.symm

theorem hasBareReturn_cons_iff {c : Char} {s : List Char} :
    HasBareReturn (c :: s) ↔ (c = '\r' ∧ s.head? ≠ some '\n') ∨ HasBareReturn s := by
  constructor
  · rintro ⟨front, behind, hsplit, hhead⟩
    -- the bare return is the first character, or lies behind it
    rcases List.cons_eq_append_iff.mp hsplit with ⟨-, hfirst⟩ | ⟨front, -, rfl⟩
    · obtain ⟨rfl, rfl⟩ := List.cons.inj hfirst
      exact .inl ⟨rfl, hhead⟩
    · exact .inr ⟨front, behind, rfl, hhead⟩
  · rintro (⟨rfl, hhead⟩ | ⟨front, behind, rfl, hhead⟩)
    · exact ⟨[], s, rfl, hhead⟩
    · exact ⟨c :: front, behind, rfl, hhead⟩

instance decidableHasBareReturn : DecidablePred HasBareReturn
  | [] => .isFalse not_hasBareReturn_nil
  | _ :: s =>
    have := decidableHasBareReturn s
    decidable_of_iff _ hasBareReturn_cons_iff.symm

theorem HasBareReturn.mem {s : List Char} (h : HasBareReturn s) : '\r' ∈ s := by
  obtain ⟨front, behind, rfl, -⟩ := h
  exact List.mem_append_right front List.mem_cons_self

/-- Without line feeds, every carriage return is a bare one. -/
theorem hasBareReturn_iff_mem {s : List Char} (h : '\n' ∉ s) : HasBareReturn s ↔ '\r' ∈ s := by
  refine ⟨HasBareReturn.mem, fun hmem => ?_⟩
  obtain ⟨front, behind, rfl⟩ := List.append_of_mem hmem
  refine ⟨front, behind, rfl, fun hhead => h ?_⟩
  exact List.mem_append_right front (List.mem_cons_of_mem _ (List.mem_of_head? hhead))

theorem dropReturn_cons_cons (c d : Char) (s : List Char) :
    dropReturn (c :: d :: s) = c :: dropReturn (d :: s) := by
  unfold dropReturn
  rw [List.getLast?_cons_cons, List.dropLast_cons_cons]
  split <;> rfl

theorem not_mem_dropReturn_singleton (c : Char) : '\r' ∉ dropReturn [c] := by
  rw [dropReturn, List.getLast?_singleton, List.dropLast_singleton]
  by_cases hc : c = '\r'
  · rw [if_pos (congrArg some hc)]
    exact List.not_mem_nil
  · rw [if_neg (Option.some_inj.not.mpr hc), List.mem_singleton]
    exact Ne.symm hc

/-- The line break behind a stretch takes the carriage return at its end along, and only this. -/
theorem hasBareReturn_append_newline {stretch rest : List Char} (h : '\n' ∉ stretch) :
    HasBareReturn (stretch ++ '\n' :: rest) ↔ '\r' ∈ dropReturn stretch ∨ HasBareReturn rest := by
  have hnewline : HasBareReturn ('\n' :: rest) ↔ HasBareReturn rest := by
    rw [hasBareReturn_cons_iff]
    exact or_iff_right fun hreturn => absurd hreturn.1 (by decide)
  -- by induction on the stretch, two characters at a time: a return is bare by what is behind it
  induction stretch with
  | nil =>
    rw [List.nil_append, hnewline]
    exact (or_iff_right List.not_mem_nil).symm
  | cons c stretch ih =>
    rw [List.mem_cons, not_or] at h
    cases stretch with
    | nil =>
      rw [List.singleton_append, hasBareReturn_cons_iff, hnewline,
        or_iff_right (not_mem_dropReturn_singleton c)]
      exact or_iff_right fun hreturn => hreturn.2 rfl
    | cons d stretch =>
      have hd : d ≠ '\n' := fun hd => h.2 (hd ▸ List.mem_cons_self)
      have hc : (c = '\r' ∧ some d ≠ some '\n') ↔ '\r' = c :=
        ⟨fun hreturn => hreturn.1.symm, fun hreturn => ⟨hreturn.symm, Option.some_inj.not.mpr hd⟩⟩
      rw [List.cons_append, hasBareReturn_cons_iff, dropReturn_cons_cons, List.mem_cons, or_assoc]
      exact or_congr hc (ih h.2)

/-- Stretches lose the carriage returns at their ends when they become lines, all but the last. -/
theorem exists_return_stretches_iff {stretches : List (List Char)} (hne : stretches ≠ [])
    (h : ∀ stretch ∈ stretches, '\n' ∉ stretch) :
    (∃ line ∈ stretches.dropLast.map dropReturn ++ stretches.getLast?.toList, '\r' ∈ line) ↔
      HasBareReturn (['\n'].intercalate stretches) := by
  induction stretches with
  | nil => exact absurd rfl hne
  | cons first others ih =>
    obtain ⟨hfirst, hothers⟩ := List.forall_mem_cons.mp h
    -- no line feed is behind the last stretch, so that a return at its end is bare
    cases others with
    | nil =>
      rw [List.intercalate_singleton, hasBareReturn_iff_mem hfirst]
      simp
    | cons second others =>
      rw [List.intercalate_cons_cons, List.append_assoc, List.singleton_append,
        hasBareReturn_append_newline hfirst, ← ih (List.cons_ne_nil _ _) hothers,
        List.dropLast_cons_cons, List.getLast?_cons_cons, List.map_cons, List.cons_append,
        List.exists_mem_cons_iff]

/-- Only a bare carriage return is left in the lines of a text. -/
theorem exists_return_textLines_iff (s : String) :
    (∃ line ∈ textLines s, '\r' ∈ line.toList) ↔ HasBareReturn s.toList := by
  have hstretches := exists_return_stretches_iff (List.splitOn_ne_nil '\n' s.toList)
    fun stretch => not_mem_of_mem_splitOn
  rw [List.intercalate_splitOn] at hstretches
  rw [← hstretches, textLines]
  simp only [List.mem_map, exists_exists_and_eq_and, String.toList_ofList]

/-- The quotes around a path stand in front of no line feed and are none. -/
theorem hasBareReturn_quoted (path : String) :
    HasBareReturn ("`" ++ path ++ "`").toList ↔ HasBareReturn path.toList := by
  have hquoted : ("`" ++ path ++ "`").toList = '`' :: (path.toList ++ ['`']) := by
    rw [String.toList_append, String.toList_append]
    rfl
  rw [hquoted, hasBareReturn_cons_iff, or_iff_right fun h => absurd h.1 (by decide)]
  induction path.toList with
  | nil =>
    rw [List.nil_append, hasBareReturn_cons_iff]
    exact or_iff_right fun h => absurd h.1 (by decide)
  | cons c rest ih =>
    -- the closing quote comes where the text ended, and is no line feed either
    have hhead : (rest ++ ['`']).head? ≠ some '\n' ↔ rest.head? ≠ some '\n' := by
      cases rest with
      | nil => exact iff_of_true (by decide) (by decide)
      | cons d rest => rfl
    rw [List.cons_append, hasBareReturn_cons_iff, hasBareReturn_cons_iff]
    exact or_congr (and_congr_right fun _ => hhead) ih

/-! ### Plain texts -/

/-- A text without line feeds and carriage returns. -/
def IsPlain (s : String) : Prop :=
  ∀ control ∈ ['\n', '\r'], control ∉ s.toList

theorem IsPlain.append {s t : String} (hs : IsPlain s) (ht : IsPlain t) : IsPlain (s ++ t) :=
  fun control hcontrol => not_mem_toList_append.mpr ⟨hs control hcontrol, ht control hcontrol⟩

theorem isPlain_ofList {chars : List Char} (h : '\n' ∉ chars ∧ '\r' ∉ chars) :
    IsPlain (String.ofList chars) :=
  fun _ hcontrol => not_mem_written hcontrol h

theorem isPlain_of_name {name : String} (h : ∀ c ∈ name.toList, isNameChar c = true) :
    IsPlain name := by
  rw [IsPlain, List.forall_mem_cons, List.forall_mem_singleton]
  exact ⟨not_mem_of_name h (by decide), not_mem_of_name h (by decide)⟩

theorem IsPlain.newline_not_mem {s : String} (h : IsPlain s) : '\n' ∉ s.toList :=
  h '\n' List.mem_cons_self

theorem IsPlain.return_not_mem {s : String} (h : IsPlain s) : '\r' ∉ s.toList :=
  h '\r' (List.mem_cons_of_mem _ List.mem_cons_self)

/-! ### Lines with a carriage return -/

/-- A line that holds a carriage return, without the spaces in front. -/
def returnLine? (line : String) : Option String :=
  if '\r' ∈ line.toList then some (String.ofList (stripIndent line.toList)) else none

/-- The lines that hold a carriage return. -/
def returnLines (lines : Lines) : List String :=
  lines.filterMap returnLine?

theorem returnLine?_eq_none_iff {line : String} :
    returnLine? line = none ↔ '\r' ∉ line.toList := by
  rw [returnLine?]
  split <;> simpa

theorem returnLines_eq_nil_iff {lines : Lines} :
    returnLines lines = [] ↔ ∀ line ∈ lines, '\r' ∉ line.toList := by
  rw [returnLines, List.filterMap_eq_nil_iff]
  exact forall₂_congr fun line _ => returnLine?_eq_none_iff

theorem returnLines_singleton {line : String} (h : IsPlain line) : returnLines [line] = [] := by
  rw [returnLines_eq_nil_iff, List.forall_mem_singleton]
  exact h.return_not_mem

@[simp] theorem returnLines_append (lines more : Lines) :
    returnLines (lines ++ more) = returnLines lines ++ returnLines more :=
  List.filterMap_append

theorem overlooks_returnLine? : Overlooks returnLine? where
  empty := rfl
  indentation line := by
    have hindent : '\r' ∈ ("    " ++ line).toList ↔ '\r' ∈ line.toList := by
      rw [String.toList_append, List.mem_append]
      exact or_iff_right (by decide)
    rw [returnLine?, returnLine?, if_congr hindent rfl rfl, String.toList_append]
    rfl

@[simp] theorem returnLines_separated (pieces : List Lines) :
    returnLines (separated pieces) = pieces.flatMap returnLines :=
  overlooks_returnLine?.filterMap_separated pieces

/-- A block with a plain head has the carriage returns of its body. -/
theorem returnLines_block {head : String} (h : IsPlain head) (body : Lines) :
    returnLines (block head body) = returnLines body := by
  have hhead : returnLines [head ++ " \x7b"] = [] :=
    returnLines_singleton (h.append (isPlain_ofList (by decide)))
  have hclosing : returnLines ["\x7d"] = [] := returnLines_singleton (isPlain_ofList (by decide))
  rw [returnLines, overlooks_returnLine?.filterMap_block h.newline_not_mem, ← returnLines,
    ← returnLines, ← returnLines, hhead, hclosing, List.nil_append, List.append_nil]

/-- Lines of documentation are not indented yet. -/
theorem returnLines_docComment (s : String) :
    returnLines (docComment s) = (docComment s).filter fun line => '\r' ∈ line.toList := by
  rw [returnLines, ← List.filterMap_eq_filter]
  refine List.filterMap_congr fun line hline => ?_
  rw [docComment_eq] at hline
  obtain ⟨shown, -, rfl⟩ := List.mem_map.mp hline
  have hstrip : stripIndent ("///" ++ if shown.isEmpty then "" else " " ++ shown).toList =
      ("///" ++ if shown.isEmpty then "" else " " ++ shown).toList := by
    rw [String.toList_append]
    rfl
  rw [returnLine?, hstrip, String.ofList_toList, Option.guard]
  simp

theorem returnLines_docComment_eq_nil_iff (s : String) :
    returnLines (docComment s) = [] ↔ ¬ HasBareReturn s.toList := by
  -- the mark of a documentation line adds no carriage return
  have hline (line : String) :
      '\r' ∈ ("///" ++ if line.isEmpty then "" else " " ++ line).toList ↔ '\r' ∈ line.toList := by
    rw [String.toList_append, List.mem_append, or_iff_right (by decide)]
    split
    case isTrue hempty => rw [String.isEmpty_iff.mp hempty]
    case isFalse =>
      rw [String.toList_append, List.mem_append]
      exact or_iff_right (by decide)
  rw [returnLines_eq_nil_iff, docComment_eq, ← exists_return_textLines_iff]
  simp only [List.forall_mem_map, hline]
  push Not
  rfl

/-! ### Lines of a query -/

theorem returnLines_function {doc signature : String} (hdoc : IsPlain doc)
    (hsignature : IsPlain signature) (body : Lines) :
    returnLines (function doc signature body) = returnLines body := by
  have hlines : returnLines (docComment doc) = [] :=
    (returnLines_docComment_eq_nil_iff doc).mpr fun hbare => hdoc.return_not_mem hbare.mem
  rw [function, returnLines_append, hlines, List.nil_append,
    returnLines_block ((isPlain_ofList (by decide)).append hsignature)]

@[simp] theorem returnLines_paramIndexFunction (query : Query) :
    returnLines (paramIndexFunction query) = [] := by
  have harms : returnLines ((firstOccurrences [] query.parameters).map lookupArm) = [] :=
    returnLines_eq_nil_iff.mpr (not_mem_lookupArms (by decide) _)
  rw [paramIndexFunction_eq]
  split
  · exact (returnLines_function (isPlain_ofList (by decide)) (isPlain_ofList (by decide)) _).trans
      (returnLines_singleton (isPlain_ofList (by decide)))
  · refine (returnLines_function (isPlain_ofList (by decide)) (isPlain_ofList (by decide)) _).trans
      ((returnLines_block (isPlain_ofList (by decide)) _).trans ?_)
    rw [returnLines_append, harms, List.nil_append]
    exact returnLines_singleton (isPlain_ofList (by decide))

section

variable {query : Query} (hname : ∀ c ∈ query.name.accessor.toList, isNameChar c = true)

include hname

theorem returnLines_typeItem :
    returnLines (typeItem query) = returnLines (docComment ("`" ++ query.relativePath ++ "`")) := by
  have hderive : returnLines ["#[derive(Debug, Clone, Copy)]"] = [] :=
    returnLines_singleton (isPlain_ofList (by decide))
  have hstruct : IsPlain ("pub struct " ++ query.name.accessor ++ ";") :=
    ((isPlain_ofList (by decide)).append (isPlain_of_name hname)).append
      (isPlain_ofList (by decide))
  -- besides the path there are a fixed line and a name
  rw [typeItem, returnLines_append, returnLines_append, hderive,
    textLines_of_not_mem hstruct.newline_not_mem, returnLines_singleton hstruct, List.append_nil,
    List.append_nil]

theorem returnLines_functionsItem : returnLines (functionsItem query) = [] := by
  have hhead : IsPlain ("impl " ++ query.name.accessor) :=
    (isPlain_ofList (by decide)).append (isPlain_of_name hname)
  have hliteral (s : String) : returnLines [Literal.encode s] = [] :=
    returnLines_singleton fun control => Literal.not_mem_encode
  have hsql : returnLines (sqlFunction query) = [] :=
    (returnLines_function (isPlain_ofList (by decide)) (isPlain_ofList (by decide)) _).trans
      (hliteral query.sql)
  have hraw : returnLines (rawSqlFunction query) = [] :=
    (returnLines_function (isPlain_ofList (by decide)) (isPlain_ofList (by decide)) _).trans
      (hliteral query.rawSql)
  have hparams : returnLines (paramsFunction query) = [] :=
    (returnLines_function (isPlain_ofList (by decide)) (isPlain_ofList (by decide)) _).trans
      (returnLines_singleton fun control hcontrol => not_mem_table hcontrol query.parameters)
  simp [functionsItem, returnLines_block hhead, hsql, hraw, hparams]

end

/-! ### Lines of a catalog -/

theorem returnLines_moduleItem {group : String} {queries : List Query}
    (hgroup : Text.IsAsciiName group)
    (hqueries : ∀ query ∈ queries, Text.IsAsciiName query.name.accessor) :
    returnLines (moduleItem group queries) =
      queries.flatMap fun query =>
        returnLines (docComment ("`" ++ query.relativePath ++ "`")) := by
  have hhead : IsPlain ("pub mod " ++ moduleName group) :=
    (isPlain_ofList (by decide)).append (isPlain_of_name (isNameChar_of_mem_moduleName hgroup))
  rw [moduleItem, returnLines_block hhead, returnLines_separated, List.flatMap_assoc]
  refine List.flatMap_congr fun query hquery => ?_
  have haccessor : ∀ c ∈ query.name.accessor.toList, isNameChar c = true := fun c hc =>
    isNameChar_of_isAlphanum ((hqueries query hquery).2 c hc)
  simp [queryItems, returnLines_typeItem haccessor, returnLines_functionsItem haccessor]

@[simp] theorem returnLines_header (compiler : Sql.Compiler) : returnLines (header compiler) = [] :=
  returnLines_eq_nil_iff.mpr (not_mem_header (by decide) compiler)

/-- The lines with a carriage return are lines of documentation that show a path. -/
theorem returnLines_catalogLines (compiler : Sql.Compiler) {catalog : Catalog}
    (hgroups : ∀ entry ∈ catalog.groups, Text.IsAsciiName entry.1)
    (hqueries : ∀ query ∈ catalog.queries, Text.IsAsciiName query.name.accessor) :
    returnLines (catalogLines compiler catalog) =
      catalog.queries.flatMap fun query =>
        returnLines (docComment ("`" ++ query.relativePath ++ "`")) := by
  rw [catalogLines, returnLines_separated, List.flatMap_cons, returnLines_header, List.nil_append,
    List.flatMap_map, Catalog.queries, List.flatMap_assoc]
  refine List.flatMap_congr fun entry hentry => returnLines_moduleItem (hgroups entry hentry) ?_
  exact fun query hquery => hqueries query (List.mem_flatMap.mpr ⟨entry, hentry, hquery⟩)

theorem return_mem_text_iff (lines : Lines) :
    '\r' ∈ (text lines).toList ↔ ∃ line ∈ lines, '\r' ∈ line.toList := by
  rw [text, String.toList_intercalate]
  constructor
  · intro hmem
    rcases mem_intercalate hmem with hbreak | ⟨piece, hpiece, hmem⟩
    · exact absurd hbreak (by decide)
    · obtain ⟨line, hline, rfl⟩ := List.mem_map.mp hpiece
      exact ⟨line, hline, hmem⟩
  · rintro ⟨line, hline, hmem⟩
    exact (infix_intercalate _ (List.mem_map_of_mem hline)).subset hmem

section

variable {files : Files.FileSystem} {root : String} {options : Options} {catalog : Catalog}
  {code : String} (hcollect : Catalog.collect files root options = .ok catalog)
  (hcode : generate options.compiler catalog = .ok code)

include hcollect hcode

theorem returnLines_generate :
    returnLines ((code.toList.splitOn '\n').map String.ofList) =
      catalog.queries.flatMap fun query =>
        returnLines (docComment ("`" ++ query.relativePath ++ "`")) := by
  obtain ⟨-, rfl⟩ := generate_eq_ok_iff.mp hcode
  rw [map_ofList_splitOn_text]
  exact returnLines_catalogLines options.compiler (isAsciiName_of_collect hcollect)
    fun query hquery => (Catalog.wellFormed_of_collect hcollect query hquery).accessor

theorem return_not_mem_iff :
    '\r' ∉ code.toList ↔
      ∀ query ∈ catalog.queries, ¬ HasBareReturn query.relativePath.toList := by
  have hlines := returnLines_generate hcollect hcode
  obtain ⟨-, rfl⟩ := generate_eq_ok_iff.mp hcode
  -- the code is its lines put together with line feeds
  have hfree : '\r' ∉ (text (catalogLines options.compiler catalog)).toList ↔
      returnLines (catalogLines options.compiler catalog) = [] := by
    rw [return_mem_text_iff, returnLines_eq_nil_iff]
    push Not
    rfl
  rw [map_ofList_splitOn_text] at hlines
  rw [hfree, hlines, List.flatMap_eq_nil_iff]
  refine forall₂_congr fun query _ => ?_
  rw [returnLines_docComment_eq_nil_iff, hasBareReturn_quoted]

/-- **Where generated code holds carriage returns.**  The lines with a carriage return in the code
of a collected catalog are lines of documentation that show the path of a file, whatever stands in
the files.  There are none exactly if in every path all carriage returns stand in front of line
feeds. -/
theorem return_free_iff :
    returnLines ((code.toList.splitOn '\n').map String.ofList) =
        catalog.queries.flatMap (fun query =>
          (docComment ("`" ++ query.relativePath ++ "`")).filter fun line =>
            '\r' ∈ line.toList) ∧
      ('\r' ∉ code.toList ↔
        ∀ query ∈ catalog.queries, ¬ HasBareReturn query.relativePath.toList) := by
  refine ⟨?_, return_not_mem_iff hcollect hcode⟩
  rw [returnLines_generate hcollect hcode]
  exact List.flatMap_congr fun query _ => returnLines_docComment _

end

/-- A tree with one query file. -/
def oneFile (path : String) : Files.FileSystem :=
  Files.FileSystem.empty.put (Utf8.encode path) (Utf8.encode "SELECT 1")

/-- The relative paths of what is collected from such a tree. -/
def collectedPaths (path : String) : Except CollectError (List (List String)) :=
  (Catalog.collect (oneFile path) "/q" Catalog.plainOptions).map fun catalog =>
    catalog.groups.map fun entry => entry.2.map fun query => query.relativePath

/-- One query gives one module, and that has code. -/
theorem exists_generate_of_paths {path relativePath : String}
    (hrun : collectedPaths path = .ok [[relativePath]]) :
    ∃ catalog code, Catalog.collect (oneFile path) "/q" Catalog.plainOptions = .ok catalog ∧
      generate Catalog.plainOptions.compiler catalog = .ok code ∧
      catalog.queries.map (fun query => query.relativePath) = [relativePath] := by
  obtain ⟨catalog, hcatalog, hgroups⟩ := Catalog.exists_of_map_eq_ok hrun
  obtain ⟨entry, hentry, hpath⟩ := List.map_eq_singleton_iff.mp hgroups
  -- one namespace shares its module with no other
  have hdistinct : (catalog.groups.map fun entry => moduleName entry.1).Nodup := by
    rw [hentry]
    exact List.nodup_singleton _
  refine ⟨catalog, _, hcatalog, generate_eq_ok_iff.mpr ⟨hdistinct, rfl⟩, ?_⟩
  rw [Catalog.queries, hentry, List.flatMap_singleton, hpath]

theorem collectedPaths_with_returns :
    collectedPaths "/q/users/a\r\nb.sql" = .ok [["users/a\r\nb.sql"]] ∧
      collectedPaths "/q/users/a\rb.sql" = .ok [["users/a\rb.sql"]] := by
  decide +kernel

theorem return_free_before_line_feed :
    ∃ catalog code,
      Catalog.collect (oneFile "/q/users/a\r\nb.sql") "/q" Catalog.plainOptions = .ok catalog ∧
      generate Catalog.plainOptions.compiler catalog = .ok code ∧
      catalog.queries.map (fun query => query.relativePath) = ["users/a\r\nb.sql"] ∧
      '\r' ∉ code.toList := by
  obtain ⟨catalog, code, hcatalog, hcode, hpaths⟩ :=
    exists_generate_of_paths collectedPaths_with_returns.1
  refine ⟨catalog, code, hcatalog, hcode, hpaths, (return_free_iff hcatalog hcode).2.mpr ?_⟩
  have hbare : ∀ path ∈ catalog.queries.map (fun query => query.relativePath),
      ¬ HasBareReturn path.toList := by
    rw [hpaths, List.forall_mem_singleton]
    decide
  exact fun query hquery => hbare _ (List.mem_map_of_mem hquery)

/-- A bare carriage return in the name of a file shows in the code. -/
theorem not_return_free :
    ¬ ∀ (files : Files.FileSystem) (root : String) (options : Options) (catalog : Catalog)
        (code : String), Catalog.collect files root options = .ok catalog →
      generate options.compiler catalog = .ok code → '\r' ∉ code.toList := by
  intro hfree
  obtain ⟨catalog, code, hcatalog, hcode, hpaths⟩ :=
    exists_generate_of_paths collectedPaths_with_returns.2
  have hmem : "users/a\rb.sql" ∈ catalog.queries.map fun query => query.relativePath := by
    rw [hpaths]
    exact List.mem_singleton_self _
  obtain ⟨query, hquery, hpath⟩ := List.mem_map.mp hmem
  have hbare := (return_not_mem_iff hcatalog hcode).mp
    (hfree _ _ _ catalog code hcatalog hcode) query hquery
  rw [hpath] at hbare
  exact hbare (by decide)

end NamedSql.Code
