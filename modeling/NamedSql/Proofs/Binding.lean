/-
Positional binding: a driver reads the number of each placeholder off the compiled query
and takes the entry of the parameter table with that number.

* `placeholderOffsets` — where the placeholders stand in the output;
* `Dialect.readNumber` — the number that a driver reads there;
* `drop_insertions` — what stands at such an offset;
* `positional_binding` — when every placeholder is bound to the name that stood there.
-/
import Mathlib
import NamedSql.Proofs.Placeholder
import NamedSql.Proofs.Rewriting

namespace NamedSql.Sql

/-- Where the texts of a weave start, when the weave itself starts at `start`. -/
def insertions (start : Nat) : List (List UInt8) → List (List UInt8) → List Nat
  | stretch :: rest, text :: texts =>
    (start + stretch.length) :: insertions (start + stretch.length + text.length) rest texts
  | _, _ => []

/-- The offsets of the placeholders in the output. -/
def placeholderOffsets (compiler : Compiler) (sql : String) (references : List Reference) :
    List Nat :=
  insertions 0 (stretches (Utf8.encode sql) 0 (references.map Reference.span))
    ((numbersOf compiler.policy references).map fun index =>
      Utf8.encode (compiler.dialect.placeholder index))

/-- The number of a placeholder at the front of a text: the digits behind its sigil, or
without a number its place among the placeholders. -/
def Dialect.readNumber (dialect : Dialect) (ordinal : Nat) (text : List UInt8) : Option Nat :=
  if dialect.sigil.isPrefixOf text then
    if dialect = .question then some ordinal
    else
      let run := (text.drop dialect.sigil.length).takeWhile isDigit
      if run.isEmpty then none else some (decimal run)
  else none

/-- The entry that a driver takes for the placeholder at the front of a text. -/
def boundEntry? (dialect : Dialect) (table : ParameterTable) (ordinal : Nat)
    (text : List UInt8) : Option Parameter :=
  (dialect.readNumber ordinal text).bind fun index =>
    table.find? fun parameter => parameter.index = index

/-- The placeholders at the offsets are bound to entries with these names, in order. -/
def BindsByName (dialect : Dialect) (table : ParameterTable) (output : List UInt8)
    (offsets : List Nat) (names : List String) : Prop :=
  offsets.length = names.length ∧
    ∀ (k offset : Nat) (name : String), offsets[k]? = some offset → names[k]? = some name →
      ∃ parameter, boundEntry? dialect table (k + 1) (output.drop offset) = some parameter ∧
        parameter.name = name

/-! ### Reading a number -/

/-- No digit stands at the front of the text. -/
def NoDigitAhead (text : List UInt8) : Prop :=
  text.head?.any isDigit = false

theorem noDigitAhead_of_isIdentByte {text : List UInt8}
    (h : text.head?.any isIdentByte = false) : NoDigitAhead text := by
  cases text with
  | nil => rfl
  | cons b text =>
    have hb : isIdentByte b = false := h
    cases hdigit : isDigit b with
    | false => exact hdigit
    | true => simp [isIdentByte_of_isDigit hdigit] at hb

theorem noDigitAhead_append {front rest : List UInt8} (hfront : NoDigitAhead front)
    (hrest : NoDigitAhead rest) : NoDigitAhead (front ++ rest) := by
  cases front with
  | nil => exact hrest
  | cons b front => exact hfront

theorem noDigitAhead_take {text : List UInt8} (h : NoDigitAhead text) (n : Nat) :
    NoDigitAhead (text.take n) := by
  cases text with
  | nil => rw [List.take_nil]; rfl
  | cons b text =>
    cases n with
    | zero => rfl
    | succ n => exact h

theorem takeWhile_digits (n : Nat) {rest : List UInt8} (h : NoDigitAhead rest) :
    (digits n ++ rest).takeWhile isDigit = digits n := by
  rw [List.takeWhile_append_of_pos fun b hb => isDigit_of_mem_digits hb]
  cases rest with
  | nil => simp
  | cons b rest =>
    have hb : isDigit b = false := h
    simp [hb]

theorem readNumber_placeholder (dialect : Dialect) (ordinal index : Nat) {rest : List UInt8}
    (h : NoDigitAhead rest) :
    dialect.readNumber ordinal (Utf8.encode (dialect.placeholder index) ++ rest) =
      some (if dialect = .question then ordinal else index) := by
  by_cases hquestion : dialect = .question
  · subst hquestion
    rw [encode_placeholder_question]
    rfl
  · have hinit : dialect.sigil.isPrefixOf (dialect.sigil ++ (digits index ++ rest)) = true :=
      List.isPrefixOf_iff_prefix.mpr (List.prefix_append _ _)
    rw [encode_placeholder hquestion, List.append_assoc, Dialect.readNumber, if_pos hinit,
      if_neg hquestion, List.drop_left, takeWhile_digits index h, if_neg hquestion]
    simp [digits_ne_nil, decimal_digits]

theorem placeholder_head (dialect : Dialect) (index : Nat) :
    Utf8.encode (dialect.placeholder index) ≠ [] ∧
      NoDigitAhead (Utf8.encode (dialect.placeholder index)) := by
  by_cases hquestion : dialect = .question
  · subst hquestion
    rw [encode_placeholder_question]
    exact ⟨by decide, rfl⟩
  · rw [encode_placeholder hquestion]
    cases dialect <;> exact ⟨by simp [Dialect.sigil], rfl⟩

/-! ### Between the placeholders -/

/-- A name goes on as long as it can, so no digit stands behind a marker. -/
theorem noDigitAhead_behind_reference {prev : Option UInt8} {s : List UInt8} {offset : Nat}
    {reference : Reference} (h : reference ∈ referencesFrom offset (lex prev s).tokens) :
    ∃ n, reference.span.stop = offset + n ∧ NoDigitAhead (s.drop n) := by
  obtain ⟨before, name, behind, rfl, -, -, hbehind, rfl⟩ := exists_split_of_mem h
  refine ⟨before.length + (name.length + 1), Nat.add_assoc _ _ _, ?_⟩
  rw [← List.drop_drop, List.drop_left, List.drop_succ_cons, List.drop_left]
  exact noDigitAhead_of_isIdentByte hbehind

section

variable {bytes : List UInt8} {spans : List Span} {texts : List (List UInt8)}

/-- A weave starts with its first stretch, or with its first text. -/
theorem noDigitAhead_weave {start : Nat} (hlength : texts.length = spans.length)
    (hstart : NoDigitAhead (bytes.drop start))
    (htexts : ∀ text ∈ texts, text ≠ [] ∧ NoDigitAhead text) :
    NoDigitAhead (weave (stretches bytes start spans) texts) := by
  cases spans with
  | nil =>
    obtain rfl : texts = [] := List.length_eq_zero_iff.mp hlength
    simpa [stretches, weave] using hstart
  | cons span spans =>
    obtain ⟨text, texts, rfl⟩ := List.exists_cons_of_length_eq_add_one hlength
    obtain ⟨hne, htext⟩ := htexts text (by simp)
    rw [stretches, weave, List.append_assoc]
    -- the first stretch runs into a text that is not empty, so only these two matter
    refine noDigitAhead_append ?_ ?_
    · rw [List.drop_take]
      exact noDigitAhead_take hstart _
    · obtain ⟨b, text, rfl⟩ := List.exists_cons_of_ne_nil hne
      exact htext

/-- At the offset of a text stands this text, and no digit behind it. -/
theorem drop_insertions {start : Nat} (hlength : texts.length = spans.length)
    (hspans : ∀ span ∈ spans, NoDigitAhead (bytes.drop span.stop))
    (htexts : ∀ text ∈ texts, text ≠ [] ∧ NoDigitAhead text) (before : List UInt8)
    {k offset : Nat}
    (h : (insertions before.length (stretches bytes start spans) texts)[k]? = some offset) :
    ∃ text rest, texts[k]? = some text ∧ NoDigitAhead rest ∧
      (before ++ weave (stretches bytes start spans) texts).drop offset = text ++ rest := by
  induction spans generalizing start texts before k with
  | nil =>
    obtain rfl : texts = [] := List.length_eq_zero_iff.mp hlength
    exact absurd h (by simp [insertions, stretches])
  | cons span spans ih =>
    obtain ⟨text, texts, rfl⟩ := List.exists_cons_of_length_eq_add_one hlength
    -- `before` is what the weave has already given, up to the next stretch
    have hrest := fun t ht => htexts t (List.mem_cons_of_mem text ht)
    have hbehind := fun t ht => hspans t (List.mem_cons_of_mem span ht)
    have hcount : texts.length = spans.length := by simpa using hlength
    rw [stretches] at h ⊢
    rw [insertions] at h
    rw [weave]
    generalize (bytes.take span.offset).drop start = stretch at h ⊢
    cases k with
    | zero =>
      obtain rfl : before.length + stretch.length = offset := by simpa using h
      refine ⟨text, weave (stretches bytes span.stop spans) texts, rfl,
        noDigitAhead_weave hcount (hspans span (by simp)) hrest, ?_⟩
      rw [← List.length_append, List.append_assoc, ← List.append_assoc, List.drop_left]
    | succ k =>
      have hnext := ih hcount hbehind hrest (before ++ (stretch ++ text)) (k := k)
        (by simpa [Nat.add_assoc] using h)
      simpa using hnext

end

theorem length_insertions (bytes : List UInt8) {start base : Nat} {spans : List Span}
    {texts : List (List UInt8)} (hlength : texts.length = spans.length) :
    (insertions base (stretches bytes start spans) texts).length = texts.length := by
  induction spans generalizing start base texts with
  | nil =>
    obtain rfl : texts = [] := List.length_eq_zero_iff.mp hlength
    rfl
  | cons span spans ih =>
    obtain ⟨text, texts, rfl⟩ := List.exists_cons_of_length_eq_add_one hlength
    rw [stretches, insertions, List.length_cons, List.length_cons, ih (by simpa using hlength)]

/-! ### Repeated names -/

theorem nodup_eraseDups (names : List String) : names.eraseDups.Nodup := by
  induction hlength : names.length using Nat.strongRecOn generalizing names with
  | ind length ih =>
    cases names with
    | nil => exact List.nodup_nil
    | cons name rest =>
      have hrest := List.length_filter_le (fun other => !other == name) rest
      rw [List.length_cons] at hlength
      rw [List.eraseDups_cons, List.nodup_cons]
      refine ⟨fun hmem => ?_, ih _ (by omega) _ rfl⟩
      simpa using List.mem_eraseDups.mp hmem

theorem eraseDups_of_nodup {names : List String} (h : names.Nodup) : names.eraseDups = names := by
  induction names with
  | nil => rfl
  | cons name rest ih =>
    obtain ⟨hname, hrest⟩ := List.nodup_cons.mp h
    have hfilter : rest.filter (fun other => !other == name) = rest := by
      refine List.filter_eq_self.mpr fun other hother => ?_
      have hne : other ≠ name := fun heq => hname (heq ▸ hother)
      simpa using hne
    rw [List.eraseDups_cons, hfilter, ih hrest]

/-- Only without repetition does removing repetitions keep every name in its place. -/
theorem prefix_eraseDups_iff {names : List String} : names <+: names.eraseDups ↔ names.Nodup := by
  constructor
  · intro h
    exact (nodup_eraseDups names).sublist h.sublist
  · intro h
    exact ⟨[], by rw [eraseDups_of_nodup h, List.append_nil]⟩

/-! ### The driver -/

section

variable {compiler : Compiler} {sql : String} {references : List Reference}
  {compiled : CompiledSql}

theorem length_placeholderOffsets :
    (placeholderOffsets compiler sql references).length = references.length := by
  have hnumbers := ParameterTable.numberAll_length compiler.policy []
    (references.map Reference.name)
  rw [placeholderOffsets, length_insertions _ (by simpa [numbersOf] using hnumbers)]
  simpa [numbersOf] using hnumbers

/-- The number that a driver reads is the one that the compiler wrote, or the ordinal. -/
theorem boundEntry?_placeholder (hscan : scan sql = .ok references)
    (hcompile : compiler.compile sql = .ok compiled) {k offset : Nat}
    (hoffset : (placeholderOffsets compiler sql references)[k]? = some offset) :
    ∃ index, (numbersOf compiler.policy references)[k]? = some index ∧
      boundEntry? compiler.dialect compiled.parameters (k + 1)
          ((Utf8.encode compiled.sql).drop offset) =
        compiled.parameters.find? fun parameter =>
          parameter.index = if compiler.dialect = .question then k + 1 else index := by
  have hnumbers := ParameterTable.numberAll_length compiler.policy []
    (references.map Reference.name)
  -- behind the name of a marker there is no digit, for it would belong to the name
  have hspans : ∀ span ∈ references.map Reference.span,
      NoDigitAhead ((Utf8.encode sql).drop span.stop) := by
    intro span hspan
    obtain ⟨reference, hmem, rfl⟩ := List.mem_map.mp hspan
    rw [(scan_eq_ok_iff.mp hscan).2] at hmem
    obtain ⟨n, hstop, hahead⟩ := noDigitAhead_behind_reference hmem
    rwa [hstop, Nat.zero_add]
  obtain ⟨text, rest, htext, hrest, houtput⟩ :=
    drop_insertions (by simpa [numbersOf] using hnumbers) hspans
      (fun text htext => by
        obtain ⟨index, -, rfl⟩ := List.mem_map.mp htext
        exact placeholder_head compiler.dialect index) [] hoffset
  rw [List.getElem?_map] at htext
  obtain ⟨index, hindex, rfl⟩ := Option.map_eq_some_iff.mp htext
  refine ⟨index, hindex, ?_⟩
  rw [(rewrites_of_compile hscan hcompile).output, ← List.nil_append (weave _ _), houtput,
    boundEntry?, readNumber_placeholder _ _ _ hrest, Option.bind_some]

/-- With a number of its own, each placeholder finds the entry of its reference. -/
theorem bindsByName_of_numbered (hscan : scan sql = .ok references)
    (hcompile : compiler.compile sql = .ok compiled) (hdialect : compiler.dialect ≠ .question) :
    BindsByName compiler.dialect compiled.parameters (Utf8.encode compiled.sql)
      (placeholderOffsets compiler sql references) (references.map Reference.name) := by
  have hnumbering := numbering_of_compile hscan hcompile
  refine ⟨by simp [length_placeholderOffsets], fun k offset name hoffset hname => ?_⟩
  obtain ⟨index, hindex, hbound⟩ := boundEntry?_placeholder hscan hcompile hoffset
  have hpair : (name, index) ∈ (references.map Reference.name).zip
      (numbersOf compiler.policy references) :=
    List.mem_of_getElem? (List.getElem?_zip_eq_some.mpr ⟨hname, hindex⟩)
  have hmem : { name, index } ∈ compiled.parameters :=
    List.forall₂_zip hnumbering.entries hpair
  rw [hbound, if_neg hdialect]
  exact ⟨_, ParameterTable.find?_of_mem hnumbering.positions hmem, rfl⟩

/-- Bound by their order, the placeholders find the names of the table one by one. -/
theorem bindsByName_question_iff (hscan : scan sql = .ok references)
    (hcompile : compiler.compile sql = .ok compiled) (hdialect : compiler.dialect = .question) :
    BindsByName compiler.dialect compiled.parameters (Utf8.encode compiled.sql)
        (placeholderOffsets compiler sql references) (references.map Reference.name) ↔
      references.map Reference.name <+: compiled.parameters.map Parameter.name := by
  have hlength : (placeholderOffsets compiler sql references).length =
      (references.map Reference.name).length := by
    rw [length_placeholderOffsets, List.length_map]
  -- a question mark takes the next entry, whatever number its name has
  have hbound {k offset : Nat}
      (hoffset : (placeholderOffsets compiler sql references)[k]? = some offset) :
      boundEntry? compiler.dialect compiled.parameters (k + 1)
        ((Utf8.encode compiled.sql).drop offset) = compiled.parameters[k]? := by
    obtain ⟨index, -, hbound⟩ := boundEntry?_placeholder hscan hcompile hoffset
    rw [hbound, if_pos hdialect]
    exact ParameterTable.find?_index (numbering_of_compile hscan hcompile).positions k
  rw [List.prefix_iff_getElem?]
  constructor
  · rintro ⟨-, hbinds⟩ k hk
    have hoffset := List.getElem?_eq_getElem (hlength ▸ hk)
    obtain ⟨parameter, hparameter, hname⟩ :=
      hbinds k _ _ hoffset (List.getElem?_eq_getElem hk)
    rw [hbound hoffset] at hparameter
    rw [List.getElem?_map, hparameter, Option.map_some, hname]
  · intro hinit
    refine ⟨hlength, fun k offset name hoffset hname => ?_⟩
    obtain ⟨hk, rfl⟩ := List.getElem?_eq_some_iff.mp hname
    have hentry := hinit k hk
    rw [List.getElem?_map] at hentry
    rw [hbound hoffset]
    exact Option.map_eq_some_iff.mp hentry

end

/-- **Positional binding recovers the names.**  Every placeholder of a compiled query is
bound to the name of the reference in its place, unless placeholders without numbers
collapse repeated names: then this holds only without a repetition. -/
theorem positional_binding {compiler : Compiler} {sql : String} {compiled : CompiledSql}
    (h : compiler.compile sql = .ok compiled) :
    ∃ references, scan sql = .ok references ∧
      (BindsByName compiler.dialect compiled.parameters (Utf8.encode compiled.sql)
          (placeholderOffsets compiler sql references) (references.map Reference.name) ↔
        (compiler.dialect = .question → compiler.policy = .collapse →
          (references.map Reference.name).Nodup)) := by
  obtain ⟨hclosed, -⟩ := compile_eq_ok_iff.mp h
  have hscan : scan sql = .ok (lexQuery sql).references := scan_eq_ok_iff.mpr ⟨hclosed, rfl⟩
  refine ⟨_, hscan, ?_⟩
  by_cases hdialect : compiler.dialect = .question
  · have hnumbering := numbering_of_compile hscan h
    -- the entries of the table are taken in order, so its names must be those of the references
    rw [bindsByName_question_iff hscan h hdialect]
    cases hpolicy : compiler.policy with
    | perOccurrence =>
      rw [(hnumbering.perOccurrence hpolicy).2]
      simp
    | collapse =>
      rw [hnumbering.collapse hpolicy, prefix_eraseDups_iff]
      simp [hdialect]
  · have hbinds := bindsByName_of_numbered hscan h hdialect
    exact ⟨fun _ hquestion => absurd hquestion hdialect, fun _ => hbinds⟩

/-- The third `?` is bound to nothing, though two entries are enough for three references. -/
theorem question_collapse_misbinds :
    ∃ references, scan ":a, :b, :a" = .ok references ∧
      ¬ BindsByName .question [⟨"a", 1⟩, ⟨"b", 2⟩] (Utf8.encode "?, ?, ?")
        (placeholderOffsets ⟨.question, .collapse⟩ ":a, :b, :a" references)
        (references.map Reference.name) := by
  have hcompile : Compiler.compile ⟨.question, .collapse⟩ ":a, :b, :a" =
      .ok { sql := "?, ?, ?", parameters := [⟨"a", 1⟩, ⟨"b", 2⟩] } := by cbv
  have hreferences : scan ":a, :b, :a" = .ok [⟨"a", ⟨0, 2⟩⟩, ⟨"b", ⟨4, 2⟩⟩, ⟨"a", ⟨8, 2⟩⟩] := by
    cbv
  obtain ⟨references, hscan, hbinds⟩ := positional_binding hcompile
  refine ⟨references, hscan, fun h => ?_⟩
  obtain rfl : [⟨"a", ⟨0, 2⟩⟩, ⟨"b", ⟨4, 2⟩⟩, ⟨"a", ⟨8, 2⟩⟩] = references :=
    Except.ok.inj (hreferences.symm.trans hscan)
  exact absurd (hbinds.mp h rfl rfl) (by decide)

end NamedSql.Sql
