/-
Compiling keeps the regions of a query.

The output has the regions of the query, kind for kind and byte for byte, each moved by as
much as the placeholders before it are longer or shorter than the markers in their places.
Placeholders must not clash with their neighbours for this; it is enough that the markers
stand clear of two bytes (`Clear`).

* `Region`, `Lexed.regions` — the regions of a text and where they stand
  (`take_of_mem_regions`);
* `displacement` — how far what stands at an offset is moved;
* `lexQuery_compiled_of_clear` — the output has the tokens of the query, but for plain bytes
  in the places of the markers;
* `compile_keeps_regions` — the regions of the output, and the placeholders beside them.
-/
import Mathlib
import NamedSql.Proofs.Binding
import NamedSql.Proofs.Recompiling

namespace NamedSql.Sql

/-- A region of a text, delimiters included. -/
structure Region where
  kind : RegionKind
  /-- Where its first byte stands. -/
  offset : Nat
  text : List UInt8
  deriving DecidableEq, Repr

/-- The regions among tokens that start at an offset. -/
def regionsFrom (offset : Nat) : List Token → List Region
  | [] => []
  | token :: rest =>
    let others := regionsFrom (offset + token.text.length) rest
    match token.kind with
    | .region kind => { kind, offset, text := token.text } :: others
    | _ => others

/-- The regions of a lexed query. -/
def Lexed.regions (lexed : Lexed) : List Region :=
  regionsFrom 0 lexed.tokens

/-- No marker stands next to a byte that its placeholder could join: under `$1` a `$` before
it, under `?` a colon or a `$` behind it. -/
structure Clear (dialect : Dialect) (bytes : List UInt8) (references : List Reference) :
    Prop where
  before : dialect = .dollar → ∀ reference ∈ references, ∀ offset,
    reference.span.offset = offset + 1 → bytes[offset]? ≠ some Byte.dollar
  behind : dialect = .question → ∀ reference ∈ references,
    bytes[reference.span.stop]? ≠ some Byte.colon ∧ bytes[reference.span.stop]? ≠ some Byte.dollar

/-- How far what stands at an offset is moved by texts in the places of references: the
change in length of all that stand before it. -/
def displacement : List Reference → List (List UInt8) → Nat → Int
  | reference :: references, text :: texts, offset =>
    (if reference.span.offset < offset then (text.length : Int) - reference.span.length else 0) +
      displacement references texts offset
  | _, _, _ => 0

/-- The placeholders of the references of a query. -/
def placeholderTexts (compiler : Compiler) (references : List Reference) : List (List UInt8) :=
  (numbersOf compiler.policy references).map fun index =>
    Utf8.encode (compiler.dialect.placeholder index)

theorem length_placeholderTexts (compiler : Compiler) (sql : String) :
    (placeholderTexts compiler (lexQuery sql).references).length =
      (markers (lexQuery sql).tokens).length := by
  rw [placeholderTexts, numbersOf, Lexed.references, referencesFrom_names]
  exact numberAll_markers_length _ _ _ _

/-! ### The tokens of the output -/

/-- A text as plain bytes, each a token of its own. -/
def plainTokens (text : List UInt8) : List Token :=
  text.map fun b => { kind := .plain, text := [b] }

/-- A token list with texts, as plain bytes, in the places of its markers. -/
def replaceTokens : List Token → List (List UInt8) → List Token
  | [], _ => []
  | token :: rest, texts =>
    if token.kind = .marker then plainTokens (texts.headD []) ++ replaceTokens rest texts.tail
    else token :: replaceTokens rest texts

@[simp] theorem replaceTokens_marker {token : Token} (h : token.kind = .marker) (rest : List Token)
    (text : List UInt8) (texts : List (List UInt8)) :
    replaceTokens (token :: rest) (text :: texts) =
      plainTokens text ++ replaceTokens rest texts := by
  rw [replaceTokens, if_pos h]
  rfl

@[simp] theorem replaceTokens_skip {token : Token} (h : token.kind ≠ .marker) (rest : List Token)
    (texts : List (List UInt8)) :
    replaceTokens (token :: rest) texts = token :: replaceTokens rest texts := by
  rw [replaceTokens, if_neg h]

/-- Without a clash the output is lexed to the tokens of the query with plain placeholders. -/
theorem relexed_of_fromClash_eq_none {dialect : Dialect} {policy : NumberingPolicy}
    {table : ParameterTable} {last : Option Token} {tokens : List Token}
    (h : fromClash dialect policy table last tokens = none) :
    relexed dialect policy table last tokens =
      { tokens := replaceTokens tokens
          ((table.numberAll policy ((markers tokens).map Token.name)).1.map fun index =>
            Utf8.encode (dialect.placeholder index))
        unclosed := none } := by
  induction tokens generalizing table last with
  | nil => rfl
  | cons token rest ih =>
    rw [fromClash] at h
    by_cases hclash : clashes dialect last (token :: rest) = true
    · rw [if_pos hclash] at h
      exact absurd h (by simp)
    rw [if_neg hclash] at h
    rw [relexed, if_neg hclash]
    by_cases hkind : token.kind = .marker
    · rw [if_pos hkind] at h
      rw [if_pos hkind, markers_marker rest hkind, List.map_cons, ParameterTable.numberAll_cons,
        List.map_cons, replaceTokens_marker hkind]
      exact congrArg (Lexed.prepend _) (ih h)
    · rw [if_neg hkind] at h
      rw [if_neg hkind, markers_skip rest hkind, replaceTokens_skip hkind]
      exact congrArg (Lexed.cons token) (ih h)

theorem head_of_opensBehind {text : List UInt8} (h : opensBehind text = true) :
    text.head? = some Byte.colon ∨ text.head? = some Byte.dollar := by
  cases text with
  | nil => exact absurd h (by simp [opensBehind])
  | cons b behind =>
    simp only [opensBehind, Bool.or_eq_true, Bool.and_eq_true, decide_eq_true_eq] at h
    rcases h with ⟨rfl, -⟩ | ⟨rfl, -⟩
    · exact .inl rfl
    · exact .inr rfl

/-- The first two tokens of a clash under dollar put a `$` directly before a marker. -/
theorem exists_of_clashes_dollar {last : Option Token} {tokens : List Token}
    (h : clashes .dollar last tokens = true) :
    ∃ marker rest, tokens = { kind := .plain, text := [Byte.dollar] } :: marker :: rest ∧
      marker.kind = .marker := by
  match tokens, h with
  | token :: marker :: rest, h =>
    simp only [clashes, Bool.and_eq_true, decide_eq_true_eq] at h
    obtain ⟨⟨rfl, hkind⟩, -⟩ := h
    exact ⟨marker, rest, rfl, hkind⟩

/-- Where markers stand clear, no placeholder clashes.  `bytes` is the whole query and
`offset` the place that has been reached in it. -/
theorem fromClash_eq_none_of_clear {dialect : Dialect} {bytes : List UInt8}
    {policy : NumberingPolicy} {table : ParameterTable} {last : Option Token}
    {tokens : List Token} {offset : Nat} (hbytes : bytes.drop offset = tokens.flatMap Token.text)
    (hclear : Clear dialect bytes (referencesFrom offset tokens))
    (hlast : dialect = .question → last.any (fun token => token.kind = .marker) = true →
      bytes[offset]? ≠ some Byte.colon ∧ bytes[offset]? ≠ some Byte.dollar) :
    fromClash dialect policy table last tokens = none := by
  induction tokens generalizing table last offset with
  | nil => rfl
  | cons token rest ih =>
    have hhead : bytes[offset]? = ((token :: rest).flatMap Token.text).head? := by
      rw [← hbytes, List.head?_drop]
    -- a clash needs a dollar in front of a marker, or a colon or a dollar behind one
    have hclash : clashes dialect last (token :: rest) = false := by
      rw [Bool.eq_false_iff]
      intro hclash
      cases dialect with
      | dollar =>
        obtain ⟨marker, others, htokens, hkind⟩ := exists_of_clashes_dollar hclash
        rw [htokens] at hhead hclear
        rw [referencesFrom_skip offset (by simp), referencesFrom_marker _ hkind] at hclear
        exact hclear.before rfl _ List.mem_cons_self offset rfl hhead
      | question =>
        simp only [clashes, Bool.and_eq_true] at hclash
        obtain ⟨hcolon, hdollar⟩ := hlast rfl hclash.1
        rw [hhead] at hcolon hdollar
        exact (head_of_opensBehind hclash.2).elim hcolon hdollar
      | atP => exact absurd hclash (by simp [clashes])
      | colon => exact absurd hclash (by simp [clashes])
    have hnext : bytes.drop (offset + token.text.length) = rest.flatMap Token.text := by
      rw [← List.drop_drop, hbytes, List.flatMap_cons, List.drop_left]
    rw [fromClash, hclash, if_neg Bool.false_ne_true]
    by_cases hkind : token.kind = .marker
    · rw [referencesFrom_marker offset hkind] at hclear
      rw [if_pos hkind]
      refine ih hnext ⟨fun hdialect reference hmem => ?_, fun hdialect reference hmem => ?_⟩
        fun hdialect _ => hclear.behind hdialect _ List.mem_cons_self
      · exact hclear.before hdialect reference (List.mem_cons_of_mem _ hmem)
      · exact hclear.behind hdialect reference (List.mem_cons_of_mem _ hmem)
    · rw [referencesFrom_skip offset hkind] at hclear
      rw [if_neg hkind]
      -- what is in front of the rest is no marker, so nothing is asked of its first byte
      exact ih hnext hclear fun _ hmarker => absurd hmarker (by simpa using hkind)

theorem fromClash_query_eq_none {compiler : Compiler} {sql : String}
    {references : List Reference} (hscan : scan sql = .ok references)
    (hclear : Clear compiler.dialect (Utf8.encode sql) references) :
    fromClash compiler.dialect compiler.policy [] none (lexQuery sql).tokens = none := by
  obtain ⟨hclosed, rfl⟩ := scan_eq_ok_iff.mp hscan
  have hbytes : (Utf8.encode sql).drop 0 = (lexQuery sql).tokens.flatMap Token.text :=
    (text_of_closed hclosed).symm
  exact fromClash_eq_none_of_clear hbytes hclear (by simp)

/-- The output has the tokens of the query, with plain bytes in the places of the markers. -/
theorem lexQuery_compiled_of_clear {compiler : Compiler} {sql : String}
    {references : List Reference} {compiled : CompiledSql} (hscan : scan sql = .ok references)
    (hcompile : compiler.compile sql = .ok compiled)
    (hclear : Clear compiler.dialect (Utf8.encode sql) references) :
    lexQuery compiled.sql =
      { tokens := replaceTokens (lexQuery sql).tokens (placeholderTexts compiler references)
        unclosed := none } := by
  rw [lexQuery_compiled hcompile,
    relexed_of_fromClash_eq_none (fromClash_query_eq_none hscan hclear), placeholderTexts,
    numbersOf, (scan_eq_ok_iff.mp hscan).2, Lexed.references, referencesFrom_names]

/-! ### Regions -/

theorem regionsFrom_region {kind : RegionKind} {token : Token} (h : token.kind = .region kind)
    (offset : Nat) (rest : List Token) :
    regionsFrom offset (token :: rest) =
      { kind, offset, text := token.text } :: regionsFrom (offset + token.text.length) rest := by
  rw [regionsFrom, h]

@[simp]
theorem regionsFrom_skip {token : Token} (h : ∀ kind, token.kind ≠ .region kind) (offset : Nat)
    (rest : List Token) :
    regionsFrom offset (token :: rest) = regionsFrom (offset + token.text.length) rest := by
  rw [regionsFrom]
  cases hkind : token.kind with
  | region kind => exact absurd hkind (h kind)
  | cast => rfl
  | marker => rfl
  | plain => rfl

theorem regionsFrom_plainTokens (text : List UInt8) (offset : Nat) (rest : List Token) :
    regionsFrom offset (plainTokens text ++ rest) = regionsFrom (offset + text.length) rest := by
  induction text generalizing offset with
  | nil => rfl
  | cons b text ih =>
    have hskip : ∀ kind, ({ kind := .plain, text := [b] } : Token).kind ≠ .region kind := by simp
    have hplain := regionsFrom_skip hskip offset (plainTokens text ++ rest)
    rw [List.length_cons, Nat.add_comm text.length 1, ← Nat.add_assoc, ← ih]
    exact hplain

theorem le_offset_of_mem_regionsFrom {offset : Nat} {tokens : List Token} {region : Region}
    (h : region ∈ regionsFrom offset tokens) : offset ≤ region.offset := by
  induction tokens generalizing offset with
  | nil => exact absurd h List.not_mem_nil
  | cons token rest ih =>
    have hrest (hmem : region ∈ regionsFrom (offset + token.text.length) rest) :
        offset ≤ region.offset := Nat.le_trans (Nat.le_add_right _ _) (ih hmem)
    rw [regionsFrom] at h
    cases hkind : token.kind with
    | region kind =>
      rw [hkind] at h
      rcases List.mem_cons.mp h with rfl | hmem
      · exact Nat.le_refl offset
      · exact hrest hmem
    | cast => rw [hkind] at h; exact hrest h
    | marker => rw [hkind] at h; exact hrest h
    | plain => rw [hkind] at h; exact hrest h

theorem take_of_mem_regionsFrom {bytes : List UInt8} {offset : Nat} {tokens : List Token}
    {region : Region} (hbytes : tokens.flatMap Token.text <+: bytes.drop offset)
    (h : region ∈ regionsFrom offset tokens) :
    (bytes.drop region.offset).take region.text.length = region.text := by
  induction tokens generalizing offset with
  | nil => exact absurd h List.not_mem_nil
  | cons token rest ih =>
    obtain ⟨behind, hbehind⟩ := hbytes
    rw [List.flatMap_cons, List.append_assoc] at hbehind
    have hnext : rest.flatMap Token.text <+: bytes.drop (offset + token.text.length) :=
      ⟨behind, by rw [← List.drop_drop, ← hbehind, List.drop_left]⟩
    rw [regionsFrom] at h
    cases hkind : token.kind with
    | region kind =>
      rw [hkind] at h
      rcases List.mem_cons.mp h with rfl | hmem
      · rw [← hbehind, List.take_left]
      · exact ih hnext hmem
    | cast => rw [hkind] at h; exact ih hnext h
    | marker => rw [hkind] at h; exact ih hnext h
    | plain => rw [hkind] at h; exact ih hnext h

/-- The text of a region of a query is what stands at its offset. -/
theorem take_of_mem_regions {sql : String} {region : Region}
    (h : region ∈ (lexQuery sql).regions) :
    ((Utf8.encode sql).drop region.offset).take region.text.length = region.text := by
  have hprefix : (lexQuery sql).tokens.flatMap Token.text <+: (Utf8.encode sql).drop 0 :=
    ⟨_, lex_text none (Utf8.encode sql)⟩
  exact take_of_mem_regionsFrom hprefix h

/-- References that start further on move nothing. -/
theorem displacement_referencesFrom {start offset : Nat} (h : offset ≤ start)
    (tokens : List Token) (texts : List (List UInt8)) :
    displacement (referencesFrom start tokens) texts offset = 0 := by
  induction tokens generalizing start texts with
  | nil => rfl
  | cons token rest ih =>
    have hnext : offset ≤ start + token.text.length := Nat.le_trans h (Nat.le_add_right _ _)
    by_cases hkind : token.kind = .marker
    · rw [referencesFrom_marker start hkind]
      cases texts with
      | nil => rfl
      | cons text texts =>
        rw [displacement, if_neg (Nat.not_lt.mpr h), ih hnext]
        rfl
    · rw [referencesFrom_skip start hkind]
      exact ih hnext texts

/-- The regions of tokens that start at `offset`, when texts take the places of the markers
and the tokens start at `start` instead. -/
theorem regionsFrom_replaceTokens {tokens : List Token} {texts : List (List UInt8)}
    (hmarkers : MarkersNamed tokens) (hlength : texts.length = (markers tokens).length)
    (offset start : Nat) :
    List.Forall₂ (fun region moved => offset ≤ region.offset ∧ moved.kind = region.kind ∧
        moved.text = region.text ∧ (moved.offset : Int) - start = region.offset - offset +
          displacement (referencesFrom offset tokens) texts region.offset)
      (regionsFrom offset tokens) (regionsFrom start (replaceTokens tokens texts)) := by
  induction tokens generalizing texts offset start with
  | nil => exact .nil
  | cons token rest ih =>
    have hrest := markersNamed_tail hmarkers
    by_cases hkind : token.kind = .marker
    · rw [markers_marker rest hkind] at hlength
      obtain ⟨text, texts, rfl⟩ := List.exists_cons_of_length_eq_add_one hlength
      rw [regionsFrom_skip (by simp [hkind]), replaceTokens_marker hkind, regionsFrom_plainTokens,
        referencesFrom_marker offset hkind]
      refine (ih hrest (by simpa using hlength) _ _).imp ?_
      rintro region moved ⟨hle, hsame, htext, hoffset⟩
      -- the marker has a byte, so the region stands behind where it starts
      obtain ⟨name, hname, -⟩ := hmarkers token List.mem_cons_self hkind
      have hpos : 0 < token.text.length := by simp [hname]
      have hbefore : offset < region.offset := by omega
      refine ⟨by omega, hsame, htext, ?_⟩
      rw [displacement, if_pos hbefore]
      push_cast at hoffset
      dsimp only
      omega
    rw [markers_skip rest hkind] at hlength
    rw [replaceTokens_skip hkind, referencesFrom_skip offset hkind]
    have hmoved := ih hrest hlength (offset + token.text.length) (start + token.text.length)
    have hnext := hmoved.imp (S := fun region moved => offset ≤ region.offset ∧
        moved.kind = region.kind ∧ moved.text = region.text ∧
        (moved.offset : Int) - start = region.offset - offset + displacement
          (referencesFrom (offset + token.text.length) rest) texts region.offset) ?_
    · cases hregion : token.kind with
      | region kind =>
        rw [regionsFrom_region hregion, regionsFrom_region hregion]
        refine .cons ⟨Nat.le_refl _, rfl, rfl, ?_⟩ hnext
        rw [displacement_referencesFrom (Nat.le_add_right _ _)]
        dsimp only
        omega
      | cast =>
        rw [regionsFrom_skip (by simp [hregion]), regionsFrom_skip (by simp [hregion])]
        exact hnext
      | marker => exact absurd hregion hkind
      | plain =>
        rw [regionsFrom_skip (by simp [hregion]), regionsFrom_skip (by simp [hregion])]
        exact hnext
    · rintro region moved ⟨hle, hsame, htext, hoffset⟩
      push_cast at hoffset
      exact ⟨by omega, hsame, htext, by omega⟩

/-! ### Placeholders -/

/-- Where texts start that take the places of the markers of tokens, when the tokens start
at an offset. -/
def placesFrom (offset : Nat) : List Token → List (List UInt8) → List Nat
  | [], _ => []
  | token :: rest, texts =>
    if token.kind = .marker then
      offset :: placesFrom (offset + (texts.headD []).length) rest texts.tail
    else placesFrom (offset + token.text.length) rest texts

@[simp] theorem placesFrom_marker {token : Token} (h : token.kind = .marker) (offset : Nat)
    (rest : List Token) (text : List UInt8) (texts : List (List UInt8)) :
    placesFrom offset (token :: rest) (text :: texts) =
      offset :: placesFrom (offset + text.length) rest texts := by
  rw [placesFrom, if_pos h]
  rfl

@[simp] theorem placesFrom_skip {token : Token} (h : token.kind ≠ .marker) (offset : Nat)
    (rest : List Token) (texts : List (List UInt8)) :
    placesFrom offset (token :: rest) texts =
      placesFrom (offset + token.text.length) rest texts := by
  rw [placesFrom, if_neg h]

/-- The places of the texts of a weave, seen from the tokens.  `copied` is where the stretch
starts that has been reached, and `base` where it starts in the weave. -/
theorem insertions_stretches {bytes : List UInt8} {tokens : List Token}
    {texts : List (List UInt8)} (hlength : texts.length = (markers tokens).length)
    {base copied offset : Nat} (hcopied : copied ≤ offset) (hoffset : offset ≤ bytes.length)
    (hbytes : bytes.drop offset = tokens.flatMap Token.text) :
    insertions base
        (stretches bytes copied ((referencesFrom offset tokens).map Reference.span)) texts =
      placesFrom (base + (offset - copied)) tokens texts := by
  induction tokens generalizing texts base copied offset with
  | nil =>
    obtain rfl : texts = [] := List.length_eq_zero_iff.mp hlength
    rfl
  | cons token rest ih =>
    rw [List.flatMap_cons] at hbytes
    have hnext : bytes.drop (offset + token.text.length) = rest.flatMap Token.text := by
      rw [← List.drop_drop, hbytes, List.drop_left]
    have hfits : offset + token.text.length ≤ bytes.length := by
      have h := congrArg List.length hbytes
      simp only [List.length_drop, List.length_append] at h
      omega
    by_cases h : token.kind = .marker
    · rw [markers_marker rest h] at hlength
      obtain ⟨text, texts, rfl⟩ := List.exists_cons_of_length_eq_add_one hlength
      -- a marker ends the stretch that was being copied
      have hstretch : ((bytes.take offset).drop copied).length = offset - copied := by
        rw [List.length_drop, List.length_take, Nat.min_eq_left hoffset]
      rw [referencesFrom_marker offset h, List.map_cons, stretches, insertions, Span.stop,
        ih (by simpa using hlength) (Nat.le_refl _) hfits hnext, hstretch,
        placesFrom_marker h, Nat.sub_self, Nat.add_zero]
    · rw [markers_skip rest h] at hlength
      rw [referencesFrom_skip offset h, ih hlength (by omega) hfits hnext, placesFrom_skip h]
      congr 1
      omega

theorem placeholderOffsets_eq (compiler : Compiler) {sql : String} {references : List Reference}
    (hscan : scan sql = .ok references) :
    placeholderOffsets compiler sql references =
      placesFrom 0 (lexQuery sql).tokens (placeholderTexts compiler references) := by
  obtain ⟨hclosed, rfl⟩ := scan_eq_ok_iff.mp hscan
  have hbytes : (Utf8.encode sql).drop 0 = (lexQuery sql).tokens.flatMap Token.text :=
    (text_of_closed hclosed).symm
  exact insertions_stretches (length_placeholderTexts compiler sql) (Nat.le_refl 0)
    (Nat.zero_le _) hbytes

theorem le_of_mem_placesFrom {offset place : Nat} {tokens : List Token}
    {texts : List (List UInt8)} (h : place ∈ placesFrom offset tokens texts) :
    offset ≤ place := by
  induction tokens generalizing offset texts with
  | nil => exact absurd h List.not_mem_nil
  | cons token rest ih =>
    rw [placesFrom] at h
    split at h
    · rcases List.mem_cons.mp h with rfl | hmem
      · exact Nat.le_refl _
      · exact Nat.le_trans (Nat.le_add_right _ _) (ih hmem)
    · exact Nat.le_trans (Nat.le_add_right _ _) (ih h)

/-- A text in the place of a marker ends before a region starts, or starts behind its end. -/
theorem disjoint_of_mem_placesFrom {offset place : Nat} {text : List UInt8}
    {tokens : List Token} {texts : List (List UInt8)} {region : Region}
    (hlength : texts.length = (markers tokens).length)
    (hplace : (place, text) ∈ (placesFrom offset tokens texts).zip texts)
    (hregion : region ∈ regionsFrom offset (replaceTokens tokens texts)) :
    place + text.length ≤ region.offset ∨ region.offset + region.text.length ≤ place := by
  -- by induction on the tokens: the first is a placeholder in front of all regions, or a region
  -- in front of all placeholders, or neither
  induction tokens generalizing offset texts with
  | nil => exact absurd hregion List.not_mem_nil
  | cons token rest ih =>
    by_cases h : token.kind = .marker
    · rw [markers_marker rest h] at hlength
      obtain ⟨first, texts, rfl⟩ := List.exists_cons_of_length_eq_add_one hlength
      rw [placesFrom_marker h, List.zip_cons_cons] at hplace
      rw [replaceTokens_marker h, regionsFrom_plainTokens] at hregion
      rcases List.mem_cons.mp hplace with hfirst | hrest
      · obtain ⟨rfl, rfl⟩ := Prod.mk.inj hfirst
        exact .inl (le_offset_of_mem_regionsFrom hregion)
      · exact ih (by simpa using hlength) hrest hregion
    · rw [markers_skip rest h] at hlength
      rw [placesFrom_skip h] at hplace
      rw [replaceTokens_skip h] at hregion
      cases hkind : token.kind with
      | region kind =>
        rw [regionsFrom_region hkind] at hregion
        rcases List.mem_cons.mp hregion with rfl | hrest
        · exact .inr (le_of_mem_placesFrom (List.of_mem_zip hplace).1)
        · exact ih hlength hplace hrest
      | cast =>
        rw [regionsFrom_skip (by simp [hkind])] at hregion
        exact ih hlength hplace hregion
      | marker => exact absurd hkind h
      | plain =>
        rw [regionsFrom_skip (by simp [hkind])] at hregion
        exact ih hlength hplace hregion

/-! ### Compiling -/

/-- `moved` is a region in its new place, when texts have taken those of the references. -/
structure Moved (references : List Reference) (texts : List (List UInt8))
    (region moved : Region) : Prop where
  kind : moved.kind = region.kind
  text : moved.text = region.text
  offset : (moved.offset : Int) = region.offset + displacement references texts region.offset

/-- The output has no markers, so scanning it finds none. -/
theorem scan_compiled_of_clear {compiler : Compiler} {sql : String} {references : List Reference}
    {compiled : CompiledSql} (hscan : scan sql = .ok references)
    (hcompile : compiler.compile sql = .ok compiled)
    (hclear : Clear compiler.dialect (Utf8.encode sql) references) :
    scan compiled.sql = .ok [] := by
  have hnone := fromClash_query_eq_none hscan hclear
  obtain ⟨hopen, hmarkers⟩ := (inert_compiled_iff hcompile).mpr (by simp [hnone])
  refine scan_eq_ok_iff.mpr ⟨hopen, ?_⟩
  have hnames := referencesFrom_names 0 (lexQuery compiled.sql).tokens
  rw [hmarkers] at hnames
  exact (List.map_eq_nil_iff.mp hnames).symm

/-- **Compiling keeps the regions of a query.**  Where the markers stand clear, the output
scans without references; it has the regions of the query, of the same kinds and texts, each
moved by the change in length of the placeholders before it; and no placeholder reaches into
a region. -/
theorem compile_keeps_regions {compiler : Compiler} {sql : String} {references : List Reference}
    {compiled : CompiledSql} (hscan : scan sql = .ok references)
    (hcompile : compiler.compile sql = .ok compiled)
    (hclear : Clear compiler.dialect (Utf8.encode sql) references) :
    scan compiled.sql = .ok [] ∧
      List.Forall₂ (Moved references (placeholderTexts compiler references))
        (lexQuery sql).regions (lexQuery compiled.sql).regions ∧
      ∀ place ∈ (placeholderOffsets compiler sql references).zip
          (placeholderTexts compiler references),
        ∀ region ∈ (lexQuery compiled.sql).regions,
          place.1 + place.2.length ≤ region.offset ∨
            region.offset + region.text.length ≤ place.1 := by
  have hlexed := lexQuery_compiled_of_clear hscan hcompile hclear
  have hplaces := placeholderOffsets_eq compiler hscan
  refine ⟨scan_compiled_of_clear hscan hcompile hclear, ?_, ?_⟩
  all_goals
    rw [hlexed, Lexed.regions]
    obtain ⟨-, rfl⟩ := scan_eq_ok_iff.mp hscan
  · refine (regionsFrom_replaceTokens (markersNamed_lexQuery sql)
      (length_placeholderTexts compiler sql) 0 0).imp ?_
    rintro region moved ⟨-, hkind, htext, hoffset⟩
    exact ⟨hkind, htext, by simpa [Lexed.references] using hoffset⟩
  · rw [hplaces]
    rintro ⟨place, text⟩ hplace region hregion
    exact disjoint_of_mem_placesFrom (length_placeholderTexts compiler sql) hplace hregion

/-- The quote and the comment behind two markers move eight bytes to the left. -/
theorem compile_keeps_quote_and_comment :
    Compiler.standard.compile "a = :first AND b = :first OR c = ':x' -- $:y" =
        .ok { sql := "a = $1 AND b = $1 OR c = ':x' -- $:y", parameters := [⟨"first", 1⟩] } ∧
      scan "a = $1 AND b = $1 OR c = ':x' -- $:y" = .ok [] ∧
      List.Forall₂ (Moved [⟨"first", ⟨4, 6⟩⟩, ⟨"first", ⟨19, 6⟩⟩]
          (placeholderTexts .standard [⟨"first", ⟨4, 6⟩⟩, ⟨"first", ⟨19, 6⟩⟩]))
        [⟨.string, 33, Utf8.encode "':x'"⟩, ⟨.lineComment, 38, Utf8.encode "-- $:y"⟩]
        [⟨.string, 25, Utf8.encode "':x'"⟩, ⟨.lineComment, 30, Utf8.encode "-- $:y"⟩] := by
  have hscan : scan "a = :first AND b = :first OR c = ':x' -- $:y" =
      .ok [⟨"first", ⟨4, 6⟩⟩, ⟨"first", ⟨19, 6⟩⟩] := by cbv
  have hcompile : Compiler.standard.compile "a = :first AND b = :first OR c = ':x' -- $:y" =
      .ok { sql := "a = $1 AND b = $1 OR c = ':x' -- $:y", parameters := [⟨"first", 1⟩] } := by
    cbv
  have hclear : Clear .dollar (Utf8.encode "a = :first AND b = :first OR c = ':x' -- $:y")
      [⟨"first", ⟨4, 6⟩⟩, ⟨"first", ⟨19, 6⟩⟩] := by
    refine ⟨fun _ reference hmem offset hoffset => ?_, fun h => absurd h (by decide)⟩
    simp only [List.mem_cons, List.not_mem_nil, or_false] at hmem
    rcases hmem with rfl | rfl
    · obtain rfl : offset = 3 := by simpa using hoffset
      decide
    · obtain rfl : offset = 18 := by simpa using hoffset
      decide
  obtain ⟨hnone, hmoved, -⟩ := compile_keeps_regions hscan hcompile hclear
  have hquery : (lexQuery "a = :first AND b = :first OR c = ':x' -- $:y").regions =
      [⟨.string, 33, Utf8.encode "':x'"⟩, ⟨.lineComment, 38, Utf8.encode "-- $:y"⟩] := by cbv
  have houtput : (lexQuery "a = $1 AND b = $1 OR c = ':x' -- $:y").regions =
      [⟨.string, 25, Utf8.encode "':x'"⟩, ⟨.lineComment, 30, Utf8.encode "-- $:y"⟩] := by cbv
  rw [hquery, houtput] at hmoved
  exact ⟨hcompile, hnone, hmoved⟩

end NamedSql.Sql
