/-
Directories in snake case give their names to modules.

A namespace has the words of a directory run together, each with a capital in front, and its
module has the words of the namespace, cut where the case changes.  A capital is told from the word
before it when a small letter or a digit stands there, and from a run of capitals when a small
letter stands behind it.  So the words come back if each of them starts with two small letters.

* `IsSnakeName` — words of small letters and digits, joined by single underscores;
* `wordsFrom_flatMap_capitalize` — words run together are cut where they were joined;
* `snake_upperCamel` — a name in snake case is what its capitals give back;
* `moduleName_upperCamel` — the module of a directory has its name;
* `directories_name_modules` — so it is for all directories of a tree.
-/
import Mathlib
import NamedSql.Proofs.Identifiers
import NamedSql.Proofs.Modules
import NamedSql.Proofs.Suffixes

namespace NamedSql

namespace Text

/-- Two small ASCII letters, and then small letters and digits. -/
def IsSnakeWord (word : List Char) : Prop :=
  ∃ first second rest, word = first :: second :: rest ∧ first.isLower = true ∧
    second.isLower = true ∧ ∀ c ∈ rest, (c.isLower || c.isDigit) = true

/-- One or more such words with single underscores between them. -/
def IsSnakeName (name : String) : Prop :=
  ∃ parts, parts ≠ [] ∧ (∀ word ∈ parts, IsSnakeWord word) ∧
    name.toList = ['_'].intercalate parts

/-! ### Small letters in the tables -/

section

variable {c : Char}

theorem isAlphanum_of_small (h : (c.isLower || c.isDigit) = true) : c.isAlphanum = true := by
  rw [Bool.or_eq_true] at h
  rcases h with h | h <;> simp [Char.isAlphanum, Char.isAlpha, h]

theorem tables_of_small (h : (c.isLower || c.isDigit) = true) :
    isUppercase c = false ∧ c.toLower = c := by
  have htables := (small_in_tables.2 c.toNat (toNat_lt_of_isAlphanum (isAlphanum_of_small h))).1
  rw [Char.ofNat_toNat] at htables
  exact htables h

theorem small_of_isLower (h : c.isLower = true) : (c.isLower || c.isDigit) = true := by
  rw [h, Bool.true_or]

theorem tables_of_isLower (h : c.isLower = true) :
    isLowercase c = true ∧ toUpper c = [c.toUpper] ∧ isUppercase c.toUpper = true ∧
      isLowercase c.toUpper = false ∧ c.toUpper.isAlphanum = true ∧ c.toUpper.toLower = c := by
  have hascii := toNat_lt_of_isAlphanum (isAlphanum_of_small (small_of_isLower h))
  have htables := (small_in_tables.2 c.toNat hascii).2
  rw [Char.ofNat_toNat] at htables
  exact htables h

/-- Behind small letters, digits do not change the case. -/
theorem after_lower (h : (c.isLower || c.isDigit) = true) : WordCase.lower.after c = .lower := by
  rw [WordCase.after, (tables_of_small h).1]
  -- a digit has no case, so it leaves that of the letters in front
  by_cases hlower : isLowercase c <;> simp [hlower]

theorem after_of_isLower (h : c.isLower = true) (mode : WordCase) : mode.after c = .lower := by
  rw [WordCase.after, if_pos (tables_of_isLower h).1]

end

/-! ### Words with capitals in front -/

section

variable {word : List Char}

theorem IsSnakeWord.small (h : IsSnakeWord word) : ∀ c ∈ word, (c.isLower || c.isDigit) = true := by
  obtain ⟨first, second, rest, rfl, hfirst, hsecond, hrest⟩ := h
  rw [List.forall_mem_cons, List.forall_mem_cons]
  exact ⟨small_of_isLower hfirst, small_of_isLower hsecond, hrest⟩

theorem lowerWord_of_small (h : ∀ c ∈ word, (c.isLower || c.isDigit) = true) :
    lowerWord word = word := by
  rw [lowerWord_eq fun c hc => isAlphanum_of_small (h c hc)]
  calc word.map Char.toLower = word.map id :=
        List.map_congr_left fun c hc => (tables_of_small (h c hc)).2
    _ = word := List.map_id word

theorem IsSnakeWord.capitalize_eq (h : IsSnakeWord word) :
    ∃ first rest, word = first :: rest ∧ first.isLower = true ∧
      capitalize word = first.toUpper :: rest := by
  have hsmall := h.small
  obtain ⟨first, second, rest, rfl, hfirst, -, -⟩ := h
  refine ⟨first, second :: rest, rfl, hfirst, ?_⟩
  rw [capitalize, (tables_of_isLower hfirst).2.1,
    lowerWord_of_small fun c hc => hsmall c (List.mem_cons_of_mem first hc)]
  rfl

/-- Lowered again, the word is what it was. -/
theorem IsSnakeWord.lowerWord_capitalize (h : IsSnakeWord word) :
    lowerWord (capitalize word) = word := by
  have hsmall := h.small
  obtain ⟨first, rest, rfl, hfirst, hcapital⟩ := h.capitalize_eq
  obtain ⟨-, -, -, -, halphanum, hback⟩ := tables_of_isLower hfirst
  have hrest : ∀ c ∈ rest, (c.isLower || c.isDigit) = true := fun c hc =>
    hsmall c (List.mem_cons_of_mem first hc)
  have halphanums : ∀ c ∈ rest, c.isAlphanum = true := fun c hc => isAlphanum_of_small (hrest c hc)
  -- the first letter comes back from its capital, the others are small already
  rw [hcapital, lowerWord_eq (List.forall_mem_cons.mpr ⟨halphanum, halphanums⟩), List.map_cons,
    hback, ← lowerWord_eq halphanums, lowerWord_of_small hrest]

end

/-! ### Words run together -/

/-- A text starts with a capital, or is empty. -/
def StartsWithCapital (s : List Char) : Prop :=
  ∀ c, s.head? = some c → isUppercase c = true

/-- Small letters go on to the next capital. -/
theorem wordsFrom_small_append {mode : WordCase} {c : Char} {rest behind : List Char}
    (hc : (c.isLower || c.isDigit) = true) (hmode : mode.after c = .lower)
    (hrest : ∀ d ∈ rest, (d.isLower || d.isDigit) = true) (hbehind : StartsWithCapital behind) :
    wordsFrom mode (c :: (rest ++ behind)) = (c :: rest) :: wordsFrom .boundary behind := by
  -- by induction on the small letters; behind each of them the case is lower again
  induction rest generalizing mode c with
  | nil =>
    cases behind with
    | nil => rfl
    | cons d behind => rw [List.nil_append, wordsFrom, if_pos ⟨hmode, hbehind d rfl⟩]
  | cons d rest ih =>
    obtain ⟨hd, hrest⟩ := List.forall_mem_cons.mp hrest
    -- neither reason for a cut is there: none in front of a small letter, and no run of capitals
    have hstay : ¬ (mode.after c = .lower ∧ isUppercase d = true) := by
      rw [(tables_of_small hd).1]
      simp
    have hsmall : ¬ (mode = .upper ∧ isUppercase c = true ∧ isLowercase d = true) := by
      rw [(tables_of_small hc).1]
      simp
    rw [List.cons_append, wordsFrom, if_neg hstay, if_neg hsmall, hmode,
      ih hd (after_lower hd) hrest]
    rfl

/-- A capital and the small letters behind it go on to the next capital. -/
theorem wordsFrom_capitalize_append {word behind : List Char} (h : IsSnakeWord word)
    (hbehind : StartsWithCapital behind) :
    wordsFrom .boundary (capitalize word ++ behind) =
      capitalize word :: wordsFrom .boundary behind := by
  have hcapital := h.capitalize_eq
  obtain ⟨first, second, rest, rfl, hfirst, hsecond, hrest⟩ := h
  obtain ⟨_, _, hword, -, hcapital⟩ := hcapital
  obtain ⟨rfl, rfl⟩ := List.cons.inj hword
  obtain ⟨-, -, hupper, hlower, -, -⟩ := tables_of_isLower hfirst
  -- the capital alone is upper case; the small letter behind it then keeps both together
  have hmode : WordCase.boundary.after first.toUpper = .upper := by
    rw [WordCase.after, hlower, hupper]
    rfl
  rw [hcapital, List.cons_append, List.cons_append, wordsFrom, hmode, if_neg (by simp),
    if_neg (by simp), wordsFrom_small_append (small_of_isLower hsecond)
      (after_of_isLower hsecond .upper) hrest hbehind]
  rfl

/-- Words run together are cut where they were joined. -/
theorem wordsFrom_flatMap_capitalize {parts : List (List Char)}
    (h : ∀ word ∈ parts, IsSnakeWord word) :
    wordsFrom .boundary (parts.flatMap capitalize) = parts.map capitalize ∧
      StartsWithCapital (parts.flatMap capitalize) := by
  induction parts with
  | nil => exact ⟨rfl, fun c hc => by cases hc⟩
  | cons word parts ih =>
    obtain ⟨hword, hparts⟩ := List.forall_mem_cons.mp h
    obtain ⟨hcut, hcapital⟩ := ih hparts
    rw [List.flatMap_cons, wordsFrom_capitalize_append hword hcapital, hcut]
    -- the text starts with a capital again, which ends the word that may stand in front of it
    refine ⟨rfl, fun c hc => ?_⟩
    obtain ⟨first, rest, -, hfirst, hupper⟩ := hword.capitalize_eq
    rw [hupper, List.cons_append, List.head?_cons, Option.some_inj] at hc
    rw [← hc]
    exact (tables_of_isLower hfirst).2.2.1

/-! ### Names in snake case -/

theorem alphanumericPieces_append {word : List Char} (h : ∀ c ∈ word, c.isAlphanum = true)
    (behind : List Char) :
    alphanumericPieces (word ++ '_' :: behind) = word :: alphanumericPieces behind := by
  induction word with
  | nil =>
    have hcut : ¬ isAlphanumeric '_' = true := Bool.eq_false_iff.mp small_in_tables.1
    rw [List.nil_append, alphanumericPieces, if_neg hcut]
  | cons c word ih =>
    obtain ⟨hc, hword⟩ := List.forall_mem_cons.mp h
    rw [List.cons_append, alphanumericPieces, if_pos (tables_of_isAlphanum hc).1, ih hword]
    rfl

/-- Underscores are where the pieces of a name in snake case end. -/
theorem alphanumericPieces_intercalate {parts : List (List Char)} (hne : parts ≠ [])
    (h : ∀ word ∈ parts, IsSnakeWord word) :
    alphanumericPieces (['_'].intercalate parts) = parts := by
  have halphanum : ∀ word ∈ parts, ∀ c ∈ word, c.isAlphanum = true := fun word hword c hc =>
    isAlphanum_of_small ((h word hword).small c hc)
  induction parts with
  | nil => exact absurd rfl hne
  | cons word parts ih =>
    have hword := halphanum word List.mem_cons_self
    -- the last word has no underscore behind it
    cases parts with
    | nil => rw [List.intercalate_singleton, alphanumericPieces_eq hword]
    | cons second parts =>
      rw [List.intercalate_cons_cons, List.append_assoc, List.singleton_append,
        alphanumericPieces_append hword, ih (List.cons_ne_nil second parts)
          (fun other hother => h other (List.mem_cons_of_mem word hother))
          fun other hother => halphanum other (List.mem_cons_of_mem word hother)]

theorem wordsFrom_of_isSnakeWord {word : List Char} (h : IsSnakeWord word) :
    wordsFrom .boundary word = [word] := by
  have hsmall := h.small
  obtain ⟨first, second, rest, rfl, hfirst, -, -⟩ := h
  have hempty : StartsWithCapital [] := fun c hc => by cases hc
  have hwords := wordsFrom_small_append (small_of_isLower hfirst)
    (after_of_isLower hfirst .boundary)
    (fun c hc => hsmall c (List.mem_cons_of_mem first hc)) hempty
  rwa [List.append_nil] at hwords

section

variable {name : String} {parts : List (List Char)} (hne : parts ≠ [])
  (hparts : ∀ word ∈ parts, IsSnakeWord word) (hname : name.toList = ['_'].intercalate parts)

include hne hparts hname

theorem toList_upperCamel : (upperCamel name).toList = parts.flatMap capitalize := by
  have hwords : parts.flatMap (wordsFrom .boundary) = parts := by
    calc parts.flatMap (wordsFrom .boundary) = parts.flatMap fun word => [word] :=
          List.flatMap_congr fun word hword => wordsFrom_of_isSnakeWord (hparts word hword)
      _ = parts := List.flatMap_singleton' parts
  rw [upperCamel, String.toList_ofList, words, hname, alphanumericPieces_intercalate hne hparts,
    hwords]

/-- In the capitals of a name in snake case its words are found again. -/
theorem lowerWords_upperCamel : lowerWords (upperCamel name) = parts := by
  have halphanum : ∀ c ∈ parts.flatMap capitalize, c.isAlphanum = true := by
    intro c hc
    obtain ⟨word, hword, hc⟩ := List.mem_flatMap.mp hc
    have hsmall := (hparts word hword).small
    obtain ⟨first, rest, rfl, hfirst, hcapital⟩ := (hparts word hword).capitalize_eq
    rw [hcapital] at hc
    rcases List.mem_cons.mp hc with rfl | hc
    · exact (tables_of_isLower hfirst).2.2.2.2.1
    · exact isAlphanum_of_small (hsmall c (List.mem_cons_of_mem first hc))
  -- without an underscore all of it is one piece, which is cut at the capitals
  rw [lowerWords, toList_upperCamel hne hparts hname, words, alphanumericPieces_eq halphanum,
    List.flatMap_singleton, (wordsFrom_flatMap_capitalize hparts).1, List.map_map]
  calc parts.map (lowerWord ∘ capitalize) = parts.map id :=
        List.map_congr_left fun word hword => (hparts word hword).lowerWord_capitalize
    _ = parts := List.map_id parts

end

/-- A name in snake case is what its capitals give back. -/
theorem snake_upperCamel {name : String} (h : IsSnakeName name) :
    snake (upperCamel name) = name := by
  obtain ⟨parts, hne, hparts, hname⟩ := h
  rw [← String.toList_inj, toList_snake, lowerWords_upperCamel hne hparts hname, hname]

theorem IsSnakeName.ne_self {name : String} (h : IsSnakeName name) : name ≠ "Self" := by
  obtain ⟨parts, -, hparts, hname⟩ := h
  rintro rfl
  have hcapital : 'S' ∈ ['_'].intercalate parts := by
    rw [← hname]
    decide
  rcases mem_intercalate hcapital with hseparator | ⟨word, hword, hmem⟩
  · exact absurd hseparator (by decide)
  · exact absurd ((hparts word hword).small 'S' hmem) (by decide)

end Text

/-! ### Modules of directories -/

/-- The segment that the namespace of a path is named by. -/
def firstSegment? (path : String) : Option String :=
  (nameSegments path).head?

theorem QueryName.group_of_ofPath {path suffix directory : String} {name : QueryName}
    (h : ofPath path suffix = .ok name) (hfirst : firstSegment? path = some directory) :
    name.group = Text.upperCamel directory := by
  obtain ⟨first, second, rest, hidentifiers, rfl⟩ := ofPath_eq_ok_iff.mp h
  obtain ⟨segments, hsegments⟩ := List.head?_eq_some_iff.mp hfirst
  have hall := forall₂_of_mapM hidentifiers
  rw [hsegments, List.forall₂_cons] at hall
  exact (segmentIdentifier_eq_ok_iff.mp hall.1).1.symm

namespace Code

theorem mem_keywords_iff {word : String} (h : word ≠ "Self") :
    word ∈ keywords ↔ word ∈ reservedWords := by
  have hreserved : ∀ word ∈ keywords, word ∈ reservedWords := by decide
  exact ⟨hreserved word, fun hword => mem_keywords_of_mem_reservedWords word hword h⟩

/-- The module of a directory in snake case has its name, unless that is a word of the language. -/
theorem moduleName_upperCamel {directory : String} (h : Text.IsSnakeName directory) :
    moduleName (Text.upperCamel directory) =
      if directory ∈ reservedWords then directory ++ "_" else directory := by
  show (if Text.snake (Text.upperCamel directory) ∈ keywords
    then Text.snake (Text.upperCamel directory) ++ "_"
    else Text.snake (Text.upperCamel directory)) = _
  -- `Self` is the only reserved word left out of the keywords, and it is not in snake case
  rw [Text.snake_upperCamel h, if_congr (mem_keywords_iff h.ne_self) rfl rfl]

/-- Directories in snake case that share a module are one. -/
theorem eq_of_moduleName_upperCamel {directory other : String} (h : Text.IsSnakeName directory)
    (hother : Text.IsSnakeName other) (hascii : Text.IsAsciiName (Text.upperCamel directory))
    (hascii' : Text.IsAsciiName (Text.upperCamel other))
    (hsame : moduleName (Text.upperCamel directory) = moduleName (Text.upperCamel other)) :
    directory = other := by
  -- one module means the same words, and these give the directory back
  have hwords := (moduleName_eq_iff hascii hascii').mp hsame
  have hsnake := (Text.snake_eq_iff hascii hascii').mpr hwords
  rwa [Text.snake_upperCamel h, Text.snake_upperCamel hother] at hsnake

end Code

section

variable {files : Files.FileSystem} {root suffix : String} {found : List Discovered}

/-- All files found lie in directories in snake case. -/
def InSnakeDirectories (found : List Discovered) : Prop :=
  ∀ file ∈ found, ∃ directory, firstSegment? file.file.relativePath = some directory ∧
    Text.IsSnakeName directory

theorem exists_directory_of_discover (h : discover files root suffix = .ok found)
    (hdirectories : InSnakeDirectories found) {file : Discovered} (hfile : file ∈ found) :
    ∃ directory, firstSegment? file.file.relativePath = some directory ∧
      Text.IsSnakeName directory ∧ file.file.name.group = Text.upperCamel directory ∧
      Text.IsAsciiName (Text.upperCamel directory) := by
  obtain ⟨top, -, hfinds⟩ := exists_finds_of_discover h
  obtain ⟨directory, hfirst, hsnake⟩ := hdirectories file hfile
  have hname := hfinds.named file hfile
  have hgroup := QueryName.group_of_ofPath hname hfirst
  refine ⟨directory, hfirst, hsnake, hgroup, ?_⟩
  rw [← hgroup]
  exact (QueryName.wellFormed_of_ofPath hname).group

/-- Files in different directories are found in different modules. -/
theorem moduleName_ne_of_discover (h : discover files root suffix = .ok found)
    (hdirectories : InSnakeDirectories found) {file other : Discovered} (hfile : file ∈ found)
    (hother : other ∈ found)
    (hdifferent : firstSegment? file.file.relativePath ≠ firstSegment? other.file.relativePath) :
    Code.moduleName file.file.name.group ≠ Code.moduleName other.file.name.group := by
  obtain ⟨directory, hfirst, hsnake, hgroup, hascii⟩ :=
    exists_directory_of_discover h hdirectories hfile
  obtain ⟨directory', hfirst', hsnake', hgroup', hascii'⟩ :=
    exists_directory_of_discover h hdirectories hother
  rw [hgroup, hgroup']
  intro hsame
  rw [hfirst, hfirst', Code.eq_of_moduleName_upperCamel hsnake hsnake' hascii hascii' hsame]
    at hdifferent
  exact hdifferent rfl

end

section

variable {files : Files.FileSystem} {root : String} {options : Options} {catalog : Catalog}
  (h : Catalog.collect files root options = .ok catalog) {found : List Discovered}
  (hfound : discover files root options.suffix = .ok found)
  (hdirectories : InSnakeDirectories found)

include h hfound hdirectories

/-- Every namespace has a query, and that lies in a directory. -/
theorem exists_directory_of_collect {entry : String × List Query}
    (hentry : entry ∈ catalog.groups) :
    ∃ directory, Text.IsSnakeName directory ∧ entry.1 = Text.upperCamel directory ∧
      Text.IsAsciiName (Text.upperCamel directory) := by
  have hgrouped := Catalog.wellGrouped_of_collect h
  obtain ⟨found', hfound', hqueries⟩ := Catalog.exists_file_of_collect h
  obtain rfl : found = found' := Except.ok.inj (hfound.symm.trans hfound')
  -- any of its queries will do: they all have the namespace of their file
  obtain ⟨query, hquery⟩ := List.exists_mem_of_ne_nil _ (hgrouped.inhabited entry hentry)
  obtain ⟨file, hfile, hcompiled⟩ := hqueries query (List.mem_flatMap.mpr ⟨entry, hentry, hquery⟩)
  obtain ⟨directory, -, hsnake, hgroup, hascii⟩ :=
    exists_directory_of_discover hfound hdirectories hfile
  refine ⟨directory, hsnake, ?_, hascii⟩
  rw [← hgrouped.filed entry hentry query hquery, Discovered.query_name hcompiled, hgroup]

theorem moduleNames_nodup_of_collect :
    (catalog.groups.map fun entry => Code.moduleName entry.1).Nodup := by
  have hdistinct := (Catalog.wellGrouped_of_collect h).distinct
  refine List.pairwise_map.mpr ((List.pairwise_map.mp hdistinct).imp_of_mem ?_)
  intro entry other hentry hother hdifferent hsame
  obtain ⟨directory, hsnake, hgroup, hascii⟩ :=
    exists_directory_of_collect h hfound hdirectories hentry
  obtain ⟨directory', hsnake', hgroup', hascii'⟩ :=
    exists_directory_of_collect h hfound hdirectories hother
  rw [hgroup, hgroup'] at hsame hdifferent
  rw [Code.eq_of_moduleName_upperCamel hsnake hsnake' hascii hascii' hsame] at hdifferent
  exact hdifferent rfl

end

/-- **Directories in snake case give their names to modules.**  If the first segment of a path is
in snake case, the module of its namespace is called like it, with an underscore behind a reserved
word.  So in a tree whose query files all lie in such directories, different directories have
different namespaces and different modules, and what is collected from it always has code. -/
theorem directories_name_modules :
    (∀ (path suffix : String) (name : QueryName) (directory : String),
      QueryName.ofPath path suffix = .ok name → firstSegment? path = some directory →
        Text.IsSnakeName directory →
          Code.moduleName name.group =
            if directory ∈ Code.reservedWords then directory ++ "_" else directory) ∧
      ∀ (files : Files.FileSystem) (root : String) (options : Options) (found : List Discovered),
        discover files root options.suffix = .ok found → InSnakeDirectories found →
          (∀ file ∈ found, ∀ other ∈ found,
            firstSegment? file.file.relativePath ≠ firstSegment? other.file.relativePath →
              file.file.name.group ≠ other.file.name.group ∧
                Code.moduleName file.file.name.group ≠ Code.moduleName other.file.name.group) ∧
          ∀ catalog, Catalog.collect files root options = .ok catalog →
            ∀ compiler, ∃ code, Code.generate compiler catalog = .ok code := by
  constructor
  · intro path suffix name directory hname hfirst hsnake
    rw [QueryName.group_of_ofPath hname hfirst]
    exact Code.moduleName_upperCamel hsnake
  intro files root options found hfound hdirectories
  constructor
  · intro file hfile other hother hdifferent
    have hmodules := moduleName_ne_of_discover hfound hdirectories hfile hother hdifferent
    exact ⟨fun hsame => hmodules (congrArg Code.moduleName hsame), hmodules⟩
  · intro catalog hcatalog compiler
    exact ⟨_, Code.generate_eq_ok_iff.mpr
      ⟨moduleNames_nodup_of_collect hcatalog hfound hdirectories, rfl⟩⟩

theorem Text.isSnakeName_order_items : IsSnakeName "order_items" := by
  refine ⟨["order".toList, "items".toList], List.cons_ne_nil _ _, ?_, by decide⟩
  rw [List.forall_mem_cons, List.forall_mem_singleton]
  exact ⟨⟨'o', 'r', "der".toList, rfl, rfl, rfl, List.all_eq_true.mp rfl⟩,
    ⟨'i', 't', "ems".toList, rfl, rfl, rfl, List.all_eq_true.mp rfl⟩⟩

theorem Text.isSnakeName_type : IsSnakeName "type" := by
  refine ⟨["type".toList], List.cons_ne_nil _ _, ?_, by decide⟩
  rw [List.forall_mem_singleton]
  exact ⟨'t', 'y', "pe".toList, rfl, rfl, rfl, List.all_eq_true.mp rfl⟩

theorem directories_order_items_and_type :
    Code.moduleName "OrderItems" = "order_items" ∧ Code.moduleName "Type" = "type_" ∧
      ∃ file other, discover (Catalog.twoFiles "/q/order_items/find.sql" "/q/type/list.sql") "/q"
          Catalog.plainOptions.suffix = .ok [file, other] ∧
        file.file.name.group ≠ other.file.name.group ∧
        ∃ catalog, Catalog.collect
            (Catalog.twoFiles "/q/order_items/find.sql" "/q/type/list.sql") "/q"
            Catalog.plainOptions = .ok catalog ∧
          ∃ code, Code.generate Catalog.plainOptions.compiler catalog = .ok code := by
  have hfind : QueryName.ofPath "order_items/find.sql" "sql" =
      .ok { group := "OrderItems", accessor := "Find", key := "OrderItemsFind" } := by
    decide +kernel
  have hlist : QueryName.ofPath "type/list.sql" "sql" =
      .ok { group := "Type", accessor := "List", key := "TypeList" } := by
    decide +kernel
  have hfirst : firstSegment? "order_items/find.sql" = some "order_items" := by decide
  have hfirst' : firstSegment? "type/list.sql" = some "type" := by decide
  have hdiscover : (discover (Catalog.twoFiles "/q/order_items/find.sql" "/q/type/list.sql") "/q"
      Catalog.plainOptions.suffix).map (List.map fun file => file.file.relativePath) =
        .ok ["order_items/find.sql", "type/list.sql"] := by
    decide +kernel
  have hcollect : (Catalog.collect
      (Catalog.twoFiles "/q/order_items/find.sql" "/q/type/list.sql") "/q"
      Catalog.plainOptions).map Catalog.size = .ok 2 := by
    decide +kernel
  obtain ⟨hpaths, htrees⟩ := directories_name_modules
  refine ⟨(hpaths _ _ _ _ hfind hfirst Text.isSnakeName_order_items).trans (by decide),
    (hpaths _ _ _ _ hlist hfirst' Text.isSnakeName_type).trans (by decide), ?_⟩
  obtain ⟨found, hfound, hrelative⟩ := Catalog.exists_of_map_eq_ok hdiscover
  obtain ⟨file, _, hfound', hfile, hrest⟩ := List.map_eq_cons_iff.mp hrelative
  obtain ⟨other, rfl, hother⟩ := List.map_eq_singleton_iff.mp hrest
  subst hfound'
  have hdirectories : InSnakeDirectories [file, other] := by
    intro found hmem
    rcases List.mem_pair.mp hmem with rfl | rfl
    · exact ⟨"order_items", by rw [hfile, hfirst], Text.isSnakeName_order_items⟩
    · exact ⟨"type", by rw [hother, hfirst'], Text.isSnakeName_type⟩
  obtain ⟨hdistinct, hcodes⟩ := htrees _ _ _ _ hfound hdirectories
  obtain ⟨catalog, hcatalog, -⟩ := Catalog.exists_of_map_eq_ok hcollect
  have hdifferent :
      firstSegment? file.file.relativePath ≠ firstSegment? other.file.relativePath := by
    rw [hfile, hother, hfirst, hfirst']
    decide
  exact ⟨file, other, hfound, (hdistinct file List.mem_cons_self other (by simp) hdifferent).1,
    catalog, hcatalog, hcodes catalog hcatalog _⟩

end NamedSql
