/-
The names of queries are identifiers.

The segments of a path are texts of any script, and writing a letter as a capital may give
several letters, or letters of another script.  It never gives a small ASCII letter.  So a
segment that gives an identifier at all gives one with a capital in front, and identifiers can
be put one behind the other.

* `exists_head_toUpper` — a letter written as a capital starts with no small ASCII letter;
* `NamesType`, `namesType_join` — names of types, and what several of them spell together;
* `reservedWords`, `NamesModule`, `namesModule_moduleName` — names of modules;
* `QueryName.identifiers_of_ofPath` — the names of a path are names of types and of a module.
-/
import Mathlib
import NamedSql.Code.Accessors
import NamedSql.Proofs.Decoding
import NamedSql.Proofs.Naming

namespace NamedSql

namespace Text

/-! ### Capitals -/

theorem le_of_isLower_ofNat {n : Nat} (h : (Char.ofNat n).isLower = true) : 97 ≤ n ∧ n ≤ 122 := by
  have hrange : 97 ≤ (Char.ofNat n).toNat ∧ (Char.ofNat n).toNat ≤ 122 := by
    rw [Char.isLower, Bool.and_eq_true, decide_eq_true_eq, decide_eq_true_eq] at h
    exact h
  rw [Char.toNat_ofNat] at hrange
  split at hrange
  · exact hrange
  · exact absurd hrange.1 (by decide)

/-- No run of capitals meets the small ASCII letters. -/
theorem upperRuns_apart : ∀ mapped ∈ upperRuns,
    mapped.run.last + mapped.distance < 97 ∨ 122 < mapped.run.first + mapped.distance := by
  decide +kernel

theorem upperExpansions_apart : ∀ expansion ∈ upperExpansions,
    (expansion.2.head?.any fun n => n < 97 || 122 < n) = true := by
  decide

/-- Small ASCII letters have capitals, so none of them stays as it is. -/
theorem isLower_eq_false_of_find? {c : Char}
    (h : upperRuns.find? (fun mapped => mapped.run.contains c.toNat) = none) :
    c.isLower = false := by
  have hfirst := List.find?_eq_none.mp h ⟨⟨0x61, 0x7A, 1⟩, -32⟩ (by decide)
  rw [Bool.eq_false_iff]
  intro hlower
  obtain ⟨hle, hge⟩ := le_of_isLower_ofNat (n := c.toNat) (by rwa [Char.ofNat_toNat])
  exact hfirst (decide_eq_true ⟨hle, hge, Nat.mod_one _⟩)

/-- A letter written as a capital starts with no small ASCII letter. -/
theorem exists_head_toUpper (c : Char) :
    ∃ first rest, toUpper c = first :: rest ∧ first.isLower = false := by
  unfold toUpper CharMap.apply
  split
  · -- one letter, moved by the distance of its run
    rename_i mapped hfind
    refine ⟨_, [], rfl, Bool.eq_false_iff.mpr fun hlower => ?_⟩
    have hrange := le_of_isLower_ofNat hlower
    have hcontains := List.find?_some hfind
    have hrun := of_decide_eq_true (show mapped.run.contains c.toNat = true from hcontains)
    have hapart := upperRuns_apart mapped (List.mem_of_find?_eq_some hfind)
    omega
  · rename_i hnone
    split
    · -- several letters, the first of which the table gives
      rename_i expansion hfind
      have hapart := upperExpansions_apart expansion (List.mem_of_find?_eq_some hfind)
      obtain ⟨n, hhead, hn⟩ := (Option.any_eq_true _ _).mp hapart
      obtain ⟨others, hexpansion⟩ := List.head?_eq_some_iff.mp hhead
      refine ⟨Char.ofNat n, others.map Char.ofNat, by rw [hexpansion, List.map_cons], ?_⟩
      rw [Bool.eq_false_iff]
      intro hlower
      have hrange := le_of_isLower_ofNat hlower
      simp only [Bool.or_eq_true, decide_eq_true_eq] at hn
      omega
    · exact ⟨c, [], rfl, isLower_eq_false_of_find? hnone⟩

/-- Words with capitals in front start with no small ASCII letter. -/
theorem isLower_head_upperCamel {name : String} {c : Char} {rest : List Char}
    (h : (upperCamel name).toList = c :: rest) : c.isLower = false := by
  rw [upperCamel, String.toList_ofList] at h
  cases hwords : words name.toList with
  | nil =>
    rw [hwords] at h
    cases h
  | cons word others =>
    -- the first character is that of a word, and words are not empty
    have hword : word ≠ [] := by
      have hmem : word ∈ words name.toList := by
        rw [hwords]
        exact List.mem_cons_self
      obtain ⟨piece, -, hpiece⟩ := List.mem_flatMap.mp hmem
      exact ne_nil_of_mem_wordsFrom hpiece
    obtain ⟨letter, letters, rfl⟩ := List.exists_cons_of_ne_nil hword
    obtain ⟨first, behind, hupper, hfirst⟩ := exists_head_toUpper letter
    rw [hwords, List.flatMap_cons, capitalize, hupper] at h
    rwa [← (List.cons.inj h).1]

end Text

namespace Code

/-! ### Names of types -/

/-- A capital ASCII letter and then ASCII letters and digits, but not the word `Self`. -/
structure NamesType (name : String) : Prop where
  shape : IsTypeName name
  free : name ≠ "Self"

theorem isTypeName_iff {name : String} :
    IsTypeName name ↔ ∃ first rest, name.toList = first :: rest ∧ first.isUpper = true ∧
      ∀ c ∈ rest, c.isAlphanum = true := by
  rw [IsTypeName, Bool.and_eq_true, List.all_eq_true]
  constructor
  · rintro ⟨hfirst, hall⟩
    obtain ⟨first, hhead, hupper⟩ := (Option.any_eq_true _ _).mp hfirst
    obtain ⟨rest, hname⟩ := List.head?_eq_some_iff.mp hhead
    exact ⟨first, rest, hname, hupper, fun c hc => hall c (hname ▸ List.mem_cons_of_mem first hc)⟩
  · rintro ⟨first, rest, hname, hupper, hrest⟩
    rw [hname, List.forall_mem_cons]
    refine ⟨hupper, ?_, hrest⟩
    rw [Char.isAlphanum, Char.isAlpha, hupper, Bool.true_or, Bool.true_or]

theorem IsTypeName.append {name other : String} (h : IsTypeName name) (hother : IsTypeName other) :
    IsTypeName (name ++ other) := by
  obtain ⟨first, rest, hname, hupper, hrest⟩ := isTypeName_iff.mp h
  refine isTypeName_iff.mpr ⟨first, rest ++ other.toList, ?_, hupper, fun c hc => ?_⟩
  · rw [String.toList_append, hname, List.cons_append]
  · rcases List.mem_append.mp hc with hc | hc
    · exact hrest c hc
    · exact hother.isAsciiName.2 c hc

/-- Two names spell no word with only one capital. -/
theorem IsTypeName.append_ne_self {name other : String} (h : IsTypeName name)
    (hother : IsTypeName other) : name ++ other ≠ "Self" := by
  obtain ⟨first, rest, hname, -, -⟩ := isTypeName_iff.mp h
  obtain ⟨capital, behind, hsecond, hupper, -⟩ := isTypeName_iff.mp hother
  intro hself
  have hlist : first :: (rest ++ capital :: behind) = 'S' :: ['e', 'l', 'f'] := by
    rw [← List.cons_append, ← hname, ← hsecond, ← String.toList_append, hself]
    decide
  have hmem : capital ∈ ['e', 'l', 'f'] := by
    rw [← (List.cons.inj hlist).2]
    exact List.mem_append_right rest List.mem_cons_self
  have hsmall : ∀ c ∈ ['e', 'l', 'f'], c.isUpper = false := by simp
  rw [hsmall capital hmem] at hupper
  cases hupper

/-- What several names of types spell together is one. -/
theorem namesType_join {first : String} {rest : List String} (hfirst : NamesType first)
    (hrest : ∀ part ∈ rest, NamesType part) : NamesType (String.join (first :: rest)) := by
  induction rest generalizing first with
  | nil => rwa [String.join_cons, String.join_nil, String.append_empty]
  | cons second rest ih =>
    obtain ⟨hsecond, hothers⟩ := List.forall_mem_cons.mp hrest
    have hbehind := ih hsecond hothers
    rw [String.join_cons]
    exact ⟨hfirst.shape.append hbehind.shape, hfirst.shape.append_ne_self hbehind.shape⟩

theorem namesType_of_segmentIdentifier {path segment identifier : String}
    (h : segmentIdentifier path segment = .ok identifier) : NamesType identifier := by
  obtain ⟨rfl, hvalid⟩ := segmentIdentifier_eq_ok_iff.mp h
  obtain ⟨first, rest, hname, halpha⟩ := startsWithLetter_of_isIdentifier hvalid
  have hascii := isAsciiName_of_isIdentifier hvalid
  constructor
  case shape =>
    refine isTypeName_iff.mpr ⟨first, rest, hname, ?_, fun c hc => ?_⟩
    · rwa [Char.isAlpha, Text.isLower_head_upperCamel hname, Bool.or_false] at halpha
    · exact hascii.2 c (hname ▸ List.mem_cons_of_mem first hc)
  case free =>
    rintro hself
    rw [hself] at hvalid
    exact absurd hvalid (by decide)

/-! ### Names of modules -/

/-- The words that Rust keeps for itself in all contexts: those with a meaning, and those set
aside for later use. -/
def reservedWords : List String :=
  ["as", "break", "const", "continue", "crate", "else", "enum", "extern", "false", "fn", "for",
    "if", "impl", "in", "let", "loop", "match", "mod", "move", "mut", "pub", "ref", "return",
    "self", "Self", "static", "struct", "super", "trait", "true", "type", "unsafe", "use",
    "where", "while", "async", "await", "dyn"]
  ++ ["abstract", "become", "box", "do", "final", "macro", "override", "priv", "typeof",
    "unsized", "virtual", "yield", "try", "gen"]

/-- A small ASCII letter and then small letters, digits and single underscores, but no reserved
word. -/
structure NamesModule (name : String) : Prop where
  shape : ∃ first rest, name.toList = first :: rest ∧ first.isLower = true ∧
    ∀ c ∈ rest, (c.isLower || c.isDigit) = true ∨ c = '_'
  single : ¬ ['_', '_'] <:+: name.toList
  free : name ∉ reservedWords

theorem mem_keywords_of_mem_reservedWords :
    ∀ word ∈ reservedWords, word ≠ "Self" → word ∈ keywords := by
  decide

/-- No reserved word ends in an underscore, so one behind a keyword makes it free. -/
theorem append_underscore_not_mem (name : String) : name ++ "_" ∉ reservedWords := by
  have hends : ∀ word ∈ reservedWords, word.toList.getLast? ≠ some '_' := by decide
  intro hmem
  refine hends _ hmem ?_
  rw [String.toList_append]
  exact List.getLast?_concat

theorem single_append_underscore {word : String} (hkeyword : word ∈ keywords) :
    ¬ ['_', '_'] <:+: (word ++ "_").toList := by
  have hplain : ∀ word ∈ keywords, word.toList.count '_' = 0 := by decide
  intro hinfix
  have hcount := hinfix.sublist.count_le '_'
  rw [String.toList_append, List.count_append, hplain _ hkeyword] at hcount
  exact absurd hcount (by decide)

section

variable {group : String} (h : Text.IsAsciiName group)

include h

theorem single_snake : ¬ ['_', '_'] <:+: (Text.snake group).toList := by
  rintro ⟨front, behind, hsnake⟩
  -- nothing stands between the two underscores, but words are not empty
  have hempty : [] ∈ Text.lowerWords group := by
    have hlist : (Text.snake group).toList = front ++ '_' :: ([] ++ '_' :: behind) := by
      rw [← hsnake, List.append_assoc]
      rfl
    rw [← h.splitOn_snake, hlist, List.splitOn_append_cons_self, List.splitOn_append_cons_self,
      List.splitOn_nil]
    exact List.mem_append_right _ List.mem_cons_self
  exact (h.lowerWords_small hempty).1 rfl

/-- The module of a namespace has the name of a module. -/
theorem namesModule_moduleName (hletter : StartsWithLetter group) :
    NamesModule (moduleName group) := by
  obtain ⟨c, rest, hgroup, hc⟩ := hletter
  have hhead := h.head?_snake
  rw [hgroup, List.head?_cons, Option.map_some] at hhead
  obtain ⟨letters, hsnake⟩ := List.head?_eq_some_iff.mp hhead
  have hlower : c.toLower.isLower = true := by
    rw [Char.isLower_toLower_eq_isAlpha, hc]
  have hletters : ∀ d ∈ letters, (d.isLower || d.isDigit) = true ∨ d = '_' := fun d hd =>
    h.of_mem_snake (hsnake ▸ List.mem_cons_of_mem _ hd)
  unfold moduleName
  dsimp only
  split
  · rename_i hkeyword
    -- an underscore behind it makes a keyword a name of its own
    refine ⟨⟨c.toLower, letters ++ ['_'], ?_, hlower, fun d hd => ?_⟩,
      single_append_underscore hkeyword, append_underscore_not_mem _⟩
    · rw [String.toList_append, hsnake]
      rfl
    · rcases List.mem_append.mp hd with hd | hd
      · exact hletters d hd
      · exact .inr (List.mem_singleton.mp hd)
  · rename_i hfree
    refine ⟨⟨c.toLower, letters, hsnake, hlower, hletters⟩, single_snake h, fun hmem => ?_⟩
    refine hfree (mem_keywords_of_mem_reservedWords _ hmem ?_)
    -- the one reserved word that is no keyword here starts with a capital
    intro hself
    rw [hself] at hsnake
    rw [← (List.cons.inj hsnake).1] at hlower
    exact absurd hlower (by decide)

end

end Code

/-- **The names of a path are identifiers.**  Whatever a path is, if it has names, its namespace,
its accessor and its key are names of types, also where they are spelled by several segments.  The
key is the namespace and the accessor, and the namespace has a module whose name is free. -/
theorem QueryName.identifiers_of_ofPath {path suffix : String} {name : QueryName}
    (h : ofPath path suffix = .ok name) :
    Code.NamesType name.group ∧ Code.NamesType name.accessor ∧ Code.NamesType name.key ∧
      name.key = name.group ++ name.accessor ∧ Code.NamesModule (Code.moduleName name.group) := by
  obtain ⟨first, second, rest, hidentifiers, rfl⟩ := ofPath_eq_ok_iff.mp h
  have hparts : ∀ part ∈ first :: second :: rest, Code.NamesType part := by
    intro part hpart
    obtain ⟨segment, -, hsegment⟩ := exists_of_mem_right (forall₂_of_mapM hidentifiers) hpart
    exact Code.namesType_of_segmentIdentifier hsegment
  obtain ⟨hfirst, hbehind⟩ := List.forall_mem_cons.mp hparts
  obtain ⟨hsecond, hrest⟩ := List.forall_mem_cons.mp hbehind
  exact ⟨hfirst, Code.namesType_join hsecond hrest, Code.namesType_join hfirst hbehind,
    String.join_cons, Code.namesModule_moduleName hfirst.shape.isAsciiName
      (startsWithLetter_of_ofPath h).1⟩

/-- Letters whose capitals are several letters, or letters of another script, a namespace that
spells a keyword, and an accessor of two segments. -/
theorem QueryName.identifiers_of_capitals :
    ofPath "ıf/ﬁnd-ſ/elf.sql" "sql" =
        .ok { group := "If", accessor := "FIndSElf", key := "IfFIndSElf" } ∧
      Code.moduleName "If" = "if_" ∧ Code.NamesType "FIndSElf" ∧ Code.NamesModule "if_" := by
  have hname : ofPath "ıf/ﬁnd-ſ/elf.sql" "sql" =
      .ok { group := "If", accessor := "FIndSElf", key := "IfFIndSElf" } := by
    decide +kernel
  have hmodule : Code.moduleName "If" = "if_" := by decide
  obtain ⟨-, haccessor, -, -, hfree⟩ := identifiers_of_ofPath hname
  refine ⟨hname, hmodule, haccessor, ?_⟩
  rw [← hmodule]
  exact hfree

end NamedSql
