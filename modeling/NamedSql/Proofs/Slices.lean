/-
Slices of a query.

A text may be cut between two characters and nowhere else.  The span of a reference can be cut
out, because a marker is ASCII, and so can what stands between two references.

* `Utf8.slice?` — the text between two offsets, if the text may be cut there;
* `exists_append_of_mem` — what stands before and behind a reference;
* `Placed` — where the references of a query stand;
* `Compiler.copy` — compiling, with every slice and every number checked;
* `copy_answers` — no check fails, and the outcome is that of compiling.
-/
import Mathlib
import NamedSql.Proofs.OpenRegions

namespace NamedSql.Utf8

/-- The offset is at an end of the text, or between two characters. -/
def IsBoundary (s : String) (offset : Nat) : Prop :=
  (⟨offset⟩ : String.Pos.Raw).IsValid s

instance (s : String) (offset : Nat) : Decidable (IsBoundary s offset) :=
  inferInstanceAs (Decidable (String.Pos.Raw.IsValid s ⟨offset⟩))

/-- The text from one offset to another.  There is none if they stand in the wrong order or
within a character or beyond the end. -/
def slice? (s : String) (start stop : Nat) : Option String :=
  if h : start ≤ stop ∧ IsBoundary s start ∧ IsBoundary s stop then
    some (s.extract ⟨⟨start⟩, h.2.1⟩ ⟨⟨stop⟩, h.2.2⟩)
  else none

theorem encode_eq_toList (s : String) : encode s = s.toByteArray.data.toList := by
  rw [← encode_eq_toByteArray]
  simp

theorem length_encode (s : String) : (encode s).length = s.utf8ByteSize := by
  rw [encode_eq_toList]
  simp

theorem encode_extract (s : String) (start stop : s.Pos) :
    encode (s.extract start stop) =
      ((encode s).take stop.offset.byteIdx).drop start.offset.byteIdx := by
  rw [encode_eq_toList, encode_eq_toList, String.toByteArray_extract, ByteArray.data_extract,
    Array.toList_extract, List.extract_eq_take_drop, List.drop_take]

theorem slice?_eq_some_iff {s t : String} {start stop : Nat} :
    slice? s start stop = some t ↔
      start ≤ stop ∧ IsBoundary s start ∧ IsBoundary s stop ∧
        encode t = ((encode s).take stop).drop start := by
  rw [slice?]
  split
  · next h =>
    rw [Option.some_inj]
    constructor
    · rintro rfl
      exact ⟨h.1, h.2.1, h.2.2, encode_extract s _ _⟩
    · rintro ⟨-, -, -, ht⟩
      exact encode_injective ((encode_extract s _ _).trans ht.symm)
  · next h =>
    constructor
    · intro hnone
      cases hnone
    · rintro ⟨horder, hstart, hstop, -⟩
      exact absurd ⟨horder, hstart, hstop⟩ h

theorem isBoundary_iff {s : String} {offset : Nat} :
    IsBoundary s offset ↔
      ∃ before behind, s = before ++ behind ∧ (encode before).length = offset := by
  rw [IsBoundary, String.Pos.Raw.isValid_iff_exists_append]
  refine exists_congr fun before => exists_congr fun behind => and_congr_right fun _ => ?_
  rw [length_encode, String.Pos.Raw.ext_iff, eq_comm]
  rfl

theorem isBoundary_zero (s : String) : IsBoundary s 0 :=
  isBoundary_iff.mpr ⟨"", s, String.empty_append.symm, rfl⟩

theorem isBoundary_length (s : String) : IsBoundary s (encode s).length :=
  isBoundary_iff.mpr ⟨s, "", String.append_empty.symm, rfl⟩

theorem IsBoundary.le {s : String} {offset : Nat} (h : IsBoundary s offset) :
    offset ≤ (encode s).length := by
  obtain ⟨before, behind, rfl, rfl⟩ := isBoundary_iff.mp h
  rw [encode_append, List.length_append]
  exact Nat.le_add_right _ _

/-- Between two boundaries in the right order there is a slice. -/
theorem exists_slice {s : String} {start stop : Nat} (horder : start ≤ stop)
    (hstart : IsBoundary s start) (hstop : IsBoundary s stop) :
    ∃ t, slice? s start stop = some t ∧ encode t = ((encode s).take stop).drop start := by
  refine ⟨_, dif_pos ⟨horder, hstart, hstop⟩, encode_extract s _ _⟩

theorem slice?_append (before text behind : String) :
    slice? (before ++ text ++ behind) (encode before).length
      ((encode before).length + (encode text).length) = some text := by
  refine slice?_eq_some_iff.mpr ⟨Nat.le_add_right _ _, ?_, ?_, ?_⟩
  · exact isBoundary_iff.mpr ⟨before, text ++ behind, String.append_assoc, rfl⟩
  · exact isBoundary_iff.mpr ⟨before ++ text, behind, rfl, by
      rw [encode_append, List.length_append]⟩
  · rw [encode_append, encode_append, ← List.length_append, List.take_left, List.drop_left]

end NamedSql.Utf8

namespace NamedSql.Sql

/-! ### Where references stand -/

/-- A query may be cut before a marker, behind its colon and behind its name. -/
theorem exists_append_of_marker {sql : String} {front name rest : List UInt8}
    (h : Utf8.encode sql = front ++ Byte.colon :: (name ++ rest)) (hname : IsName name) :
    ∃ before text behind, sql = before ++ (":" ++ text) ++ behind ∧ Utf8.encode before = front ∧
      Utf8.encode text = name ∧ Utf8.encode behind = rest := by
  have hwhole := Utf8.isText_encode sql
  rw [h] at hwhole
  -- the colon and the name are ASCII
  obtain ⟨⟨before, rfl⟩, hbehind⟩ := hwhole.cut (by decide)
  obtain ⟨behind, rfl⟩ := isText_of_append (fun b hb => lt_of_isIdentByte (hname.2 b hb)) hbehind
  obtain ⟨text, rfl⟩ := hname.isText
  refine ⟨before, text, behind, Utf8.encode_injective ?_, rfl, rfl, rfl⟩
  rw [h, Utf8.encode_append, Utf8.encode_append, Utf8.encode_append, List.append_assoc]
  rfl

/-- What stands before and behind a reference. -/
theorem exists_append_of_mem {sql : String} {reference : Reference}
    (h : reference ∈ (lexQuery sql).references) :
    ∃ before behind, sql = before ++ reference.text ++ behind ∧
      reference.span.offset = (Utf8.encode before).length ∧
      reference.span.length = (Utf8.encode reference.text).length ∧
      IsName (Utf8.encode reference.name) ∧
      (Utf8.encode behind).head?.any isIdentByte = false := by
  obtain ⟨front, name, rest, hsplit, -, hname, hrest, rfl⟩ := exists_split_of_mem h
  obtain ⟨before, text, behind, hsql, rfl, rfl, rfl⟩ := exists_append_of_marker hsplit hname
  rw [Utf8.decode_encode, Reference.text, Utf8.encode_append]
  exact ⟨before, behind, hsql, Nat.zero_add _, rfl, hname, hrest⟩

/-- A reference does not start right behind another one, which ends in an identifier byte. -/
theorem pairwise_referencesFrom (prev : Option UInt8) (s : List UInt8) (offset : Nat) :
    (referencesFrom offset (lex prev s).tokens).Pairwise fun reference next =>
      reference.span.stop < next.span.offset := by
  induction prev, s using lexInduction generalizing offset with
  | nil prev =>
    rw [lex_nil]
    exact .nil
  | unclosed prev what s hopen =>
    rw [lex_of_isOpen hopen]
    exact .nil
  | token prev kind text rest htoken ih =>
    rw [lex_append htoken, Lexed.cons]
    by_cases hkind : kind = .marker
    · subst hkind
      rw [referencesFrom_marker offset rfl]
      refine .cons (fun next hnext => ?_) (ih _)
      obtain ⟨before, name, behind, -, hprev, -, -, rfl⟩ := exists_split_of_mem hnext
      -- the name in front ends in an identifier byte, right behind which no marker may stand
      cases htoken with
      | @marker name _ _ hname =>
        cases before with
        | nil => exact absurd hprev.1 (by simp [hname.followsIdent Byte.colon])
        | cons b before => exact Nat.lt_add_of_pos_right (Nat.succ_pos _)
    · rw [referencesFrom_skip offset hkind]
      exact ih _

/-- Spans of two bytes or more with something between them take three bytes each, but for the
last one. -/
theorem room_of_pairwise {references : List Reference} (start : Nat) {length : Nat}
    (hapart : references.Pairwise fun reference next => reference.span.stop < next.span.offset)
    (hlength : ∀ reference ∈ references, 2 ≤ reference.span.length)
    (hstart : ∀ reference ∈ references, start ≤ reference.span.offset)
    (hstop : ∀ reference ∈ references, reference.span.stop ≤ length) (hle : start ≤ length + 1) :
    start + 3 * references.length ≤ length + 1 := by
  induction references generalizing start with
  | nil => exact hle
  | cons reference rest ih =>
    obtain ⟨hnext, hrest⟩ := List.pairwise_cons.mp hapart
    rw [List.forall_mem_cons] at hlength hstart hstop
    have hroom := ih (reference.span.stop + 1) hrest hlength.2 hnext hstop.2
      (Nat.succ_le_succ hstop.1)
    have hfirst : start + 2 ≤ reference.span.stop := Nat.add_le_add hstart.1 hlength.1
    rw [List.length_cons]
    omega

/-- Where the references of a query stand. -/
structure Placed (sql : String) (references : List Reference) : Prop where
  /-- The span of each is a colon and its name. -/
  text : ∀ reference ∈ references,
    Utf8.slice? sql reference.span.offset reference.span.stop = some reference.text
  name : ∀ reference ∈ references, IsName (Utf8.encode reference.name)
  /-- The byte behind a span, if there is one, would not go on with the name. -/
  ended : ∀ reference ∈ references,
    (Utf8.encode sql)[reference.span.stop]?.any isIdentByte = false
  /-- Between two spans there is at least one byte. -/
  apart : references.Pairwise fun reference next => reference.span.stop < next.span.offset
  room : 3 * references.length ≤ (Utf8.encode sql).length + 1

theorem placed_references (sql : String) : Placed sql (lexQuery sql).references where
  text reference hmem := by
    obtain ⟨before, behind, hsql, hoffset, hlength, -, -⟩ := exists_append_of_mem hmem
    rw [Span.stop, hoffset, hlength, hsql]
    exact Utf8.slice?_append _ _ _
  name reference hmem := by
    obtain ⟨-, -, -, -, -, hname, -⟩ := exists_append_of_mem hmem
    exact hname
  ended reference hmem := by
    obtain ⟨before, behind, hsql, hoffset, hlength, -, hbehind⟩ := exists_append_of_mem hmem
    rw [Span.stop, hoffset, hlength, hsql, Utf8.encode_append, Utf8.encode_append,
      ← List.length_append, List.getElem?_append_right (Nat.le_refl _), Nat.sub_self,
      ← List.head?_eq_getElem?]
    exact hbehind
  apart := pairwise_referencesFrom none _ 0
  room := by
    have hlength : ∀ reference ∈ (lexQuery sql).references, 2 ≤ reference.span.length := by
      intro reference hmem
      obtain ⟨-, name, -, -, -, hname, -, rfl⟩ := exists_split_of_mem hmem
      cases name with
      | nil => exact absurd hname.1 Bool.false_ne_true
      | cons b name => exact Nat.le_add_left _ _
    have hstop : ∀ reference ∈ (lexQuery sql).references,
        reference.span.stop ≤ (Utf8.encode sql).length := by
      intro reference hmem
      obtain ⟨before, name, behind, hsql, -, -, -, rfl⟩ := exists_split_of_mem hmem
      rw [hsql, List.length_append, List.length_cons, List.length_append]
      show 0 + before.length + (name.length + 1) ≤ _
      omega
    -- each reference takes two bytes or more, and none reaches over the end
    have hroom := room_of_pairwise 0 (pairwise_referencesFrom none (Utf8.encode sql) 0) hlength
      (fun _ _ => Nat.zero_le _) hstop (Nat.zero_le _)
    rwa [Nat.zero_add] at hroom

/-! ### Compiling by slices -/

/-- Compiling from the answers of a scanner: the stretch before each reference is cut out of the
query and put behind the output with a placeholder.  There is no outcome if a stretch cannot be
cut out, or if the number after the last one given is not below the limit. -/
def Compiler.copy (compiler : Compiler) (limit : Nat) (sql : String) (copied : Nat)
    (output : String) (table : ParameterTable) :
    List (Except ScanError Reference) → Option (Except ScanError CompiledSql)
  | [] =>
    (Utf8.slice? sql copied (Utf8.encode sql).length).map fun stretch =>
      .ok { sql := output ++ stretch, parameters := table }
  | .error error :: _ => some (.error error)
  | .ok reference :: found =>
    match Utf8.slice? sql copied reference.span.offset with
    | none => none
    | some stretch =>
      let (index, table) := table.number compiler.policy reference.name
      if table.length + 1 < limit then
        copy compiler limit sql reference.span.stop
          (output ++ stretch ++ compiler.dialect.placeholder index) table found
      else none

/-- The references are copied one after the other, whatever comes behind them. -/
theorem copy_references (compiler : Compiler) {limit : Nat} {sql : String}
    {references : List Reference} {table : ParameterTable} {copied : Nat} (output : String)
    (hlimit : table.length + references.length + 1 < limit)
    (hbounds : ∀ reference ∈ references, Utf8.IsBoundary sql reference.span.offset ∧
      Utf8.IsBoundary sql reference.span.stop)
    (hapart : references.Pairwise fun reference next => reference.span.stop < next.span.offset)
    (hcopied : Utf8.IsBoundary sql copied)
    (horder : ∀ reference ∈ references, copied ≤ reference.span.offset) :
    ∃ copied' output', Utf8.IsBoundary sql copied' ∧
      (∀ found, compiler.copy limit sql copied output table (references.map .ok ++ found) =
        compiler.copy limit sql copied' output'
          (table.numberAll compiler.policy (references.map Reference.name)).2 found) ∧
      Utf8.encode output' ++ (Utf8.encode sql).drop copied' = Utf8.encode output ++
        weave (stretches (Utf8.encode sql) copied (references.map Reference.span))
          ((table.numberAll compiler.policy (references.map Reference.name)).1.map fun index =>
            Utf8.encode (compiler.dialect.placeholder index)) := by
  -- by induction on the references, with what has been copied so far general
  induction references generalizing copied table output with
  | nil =>
    refine ⟨copied, output, hcopied, fun found => rfl, ?_⟩
    simp [stretches, weave, ParameterTable.numberAll]
  | cons reference rest ih =>
    obtain ⟨hnext, hrest⟩ := List.pairwise_cons.mp hapart
    rw [List.forall_mem_cons] at hbounds horder
    rw [List.length_cons] at hlimit
    obtain ⟨stretch, hslice, hstretch⟩ := Utf8.exists_slice horder.1 hcopied hbounds.1.1
    have hgrows := ParameterTable.length_number_le compiler.policy table reference.name
    rw [List.map_cons, List.map_cons, List.map_cons, ParameterTable.numberAll_cons]
    rcases hnumber : table.number compiler.policy reference.name with ⟨index, table'⟩
    rw [hnumber] at hgrows
    dsimp only at hgrows ⊢
    have hroom : table'.length + rest.length + 1 < limit := by omega
    obtain ⟨copied', output', hcopied', hcopy, houtput⟩ :=
      ih (output ++ stretch ++ compiler.dialect.placeholder index) hroom hbounds.2 hrest
        hbounds.1.2 fun next hmem => Nat.le_of_lt (hnext next hmem)
    refine ⟨copied', output', hcopied', fun found => ?_, ?_⟩
    · rw [List.cons_append, Compiler.copy, hslice, hnumber, ← hcopy found]
      exact if_pos (by omega)
    · rw [houtput, stretches, List.map_cons, weave, Utf8.encode_append, Utf8.encode_append,
        hstretch, List.append_assoc, List.append_assoc, List.append_assoc]

/-- Compiling from the answers of a scanner has the outcome of compiling: nothing is cut within a
character, and no number reaches a limit beyond the length of the query. -/
theorem copy_answers (compiler : Compiler) {limit : Nat} {sql : String}
    (hlimit : (Utf8.encode sql).length + 1 < limit) :
    compiler.copy limit sql 0 "" [] (answers (lexQuery sql).references (lexQuery sql).error?) =
      some (compiler.compile sql) := by
  have hplaced := placed_references sql
  have hbounds : ∀ reference ∈ (lexQuery sql).references,
      Utf8.IsBoundary sql reference.span.offset ∧ Utf8.IsBoundary sql reference.span.stop := by
    intro reference hmem
    obtain ⟨-, hoffset, hstop, -⟩ := Utf8.slice?_eq_some_iff.mp (hplaced.text reference hmem)
    exact ⟨hoffset, hstop⟩
  have hroom : ([] : ParameterTable).length + (lexQuery sql).references.length + 1 < limit := by
    have hroom := hplaced.room
    rw [List.length_nil]
    omega
  obtain ⟨copied, output, hcopied, hcopy, houtput⟩ := copy_references compiler "" hroom hbounds
    hplaced.apart (Utf8.isBoundary_zero sql) fun _ _ => Nat.zero_le _
  rw [answers, hcopy]
  cases herror : (lexQuery sql).error? with
  | some error =>
    rw [compile_eq_error_iff.mpr (scan_eq_error_iff.mpr herror)]
    rfl
  | none =>
    have hscan : scan sql = .ok (lexQuery sql).references := by rw [scan, herror]
    obtain ⟨compiled, hcompile⟩ := exists_compile_of_scan hscan compiler
    obtain ⟨stretch, hslice, hstretch⟩ :=
      Utf8.exists_slice hcopied.le hcopied (Utf8.isBoundary_length sql)
    rw [List.take_length] at hstretch
    -- what is left behind the last reference completes the output
    have hsql : output ++ stretch = compiled.sql := by
      refine Utf8.encode_injective ?_
      rw [Utf8.encode_append, hstretch, houtput, (rewrites_of_compile hscan hcompile).output]
      rfl
    show Option.map _ _ = _
    rw [hslice, hcompile, Option.map_some, hsql, ← parameters_of_compile hscan hcompile]

end NamedSql.Sql
