/-
How a placeholder is read: byte by byte, as nothing but plain bytes.

Digits are plain anywhere.  The sigil of two dialects, `$` or a colon, is plain because a
digit follows it.

* `lex_plain` — a run of bytes that are plain anywhere;
* `lex_placeholder` — a placeholder before the rest of a text;
* `head_placeholder`, `getLast?_placeholder` — what its neighbours see of it.
-/
import NamedSql.Proofs.Lexing
import NamedSql.Proofs.Placeholder

namespace NamedSql.Sql

/-- Put plain bytes in front, each a token of its own. -/
def Lexed.prepend (bytes : List UInt8) (lexed : Lexed) : Lexed :=
  { lexed with tokens := bytes.map (fun b => { kind := .plain, text := [b] }) ++ lexed.tokens }

/-! ### Plain bytes -/

/-- The bytes that are more than plain in some place. -/
def activeBytes : List UInt8 :=
  [Byte.quote, Byte.doubleQuote, Byte.upperE, Byte.lowerE, Byte.dash, Byte.slash, Byte.dollar,
    Byte.colon]

theorem isToken_plain {prev : Option UInt8} {b : UInt8} {rest : List UInt8}
    (h : b ∉ activeBytes) : IsToken prev .plain [b] rest := by
  have hcolon : b ≠ Byte.colon := by
    rintro rfl
    exact h (by decide)
  refine .plain (fun hregion => h ?_) (fun hcast => ?_) (fun hmarker => ?_)
  · have hhead := head_of_startsRegion hregion
    simp only [activeBytes, List.mem_cons, List.not_mem_nil, or_false] at hhead ⊢
    rcases hhead with h | h | h | h | h | h | h <;> simp [h]
  · exact hcolon (pair_prefix_iff.mp hcast).1
  · obtain ⟨-, behind, hbehind, -⟩ := hmarker
    exact hcolon (List.cons.inj hbehind).1

theorem not_mem_activeBytes_of_isDigit {b : UInt8} (h : isDigit b = true) : b ∉ activeBytes := by
  intro hmem
  simp only [activeBytes, List.mem_cons, List.not_mem_nil, or_false] at hmem
  rcases hmem with rfl | rfl | rfl | rfl | rfl | rfl | rfl | rfl <;> exact absurd h (by decide)

@[simp] theorem Lexed.prepend_cons (b : UInt8) (bytes : List UInt8) (lexed : Lexed) :
    lexed.prepend (b :: bytes) = (lexed.prepend bytes).cons { kind := .plain, text := [b] } := rfl

/-- A run of plain bytes before the rest. -/
theorem lex_plain {bytes : List UInt8} (h : ∀ b ∈ bytes, b ∉ activeBytes) (prev : Option UInt8)
    (rest : List UInt8) :
    lex prev (bytes ++ rest) = (lex (bytes.getLast?.or prev) rest).prepend bytes := by
  induction bytes generalizing prev with
  | nil => rfl
  | cons b bytes ih =>
    have htoken : IsToken prev .plain [b] (bytes ++ rest) := isToken_plain (h b (by simp))
    have hlast : (b :: bytes).getLast?.or prev = bytes.getLast?.or (some b) := by
      rw [List.getLast?_cons, Option.or_some]
      rfl
    rw [hlast, Lexed.prepend_cons, ← ih (fun c hc => h c (List.mem_cons_of_mem b hc)),
      ← List.singleton_append, List.append_assoc, List.singleton_append]
    exact lex_append htoken

/-- The same where what follows the first byte decides that it is plain. -/
theorem lex_plain_cons {prev : Option UInt8} {b : UInt8} {bytes rest : List UInt8}
    (htoken : IsToken prev .plain [b] (bytes ++ rest)) (h : ∀ c ∈ bytes, c ∉ activeBytes) :
    lex prev (b :: bytes ++ rest) = (lex (b :: bytes).getLast? rest).prepend (b :: bytes) := by
  rw [List.getLast?_cons, ← Option.or_some, Lexed.prepend_cons, ← lex_plain h]
  exact lex_append htoken

/-! ### Placeholders -/

theorem sigil_head (dialect : Dialect) :
    ∃ c, dialect.sigil.head? = some c ∧ isIdentByte c = false ∧
      c ∈ [Byte.dollar, 0x3F, 0x40, Byte.colon] := by
  cases dialect <;> exact ⟨_, rfl, by decide, by decide⟩

theorem head_placeholder (dialect : Dialect) (index : Nat) (rest : List UInt8) :
    (Utf8.encode (dialect.placeholder index) ++ rest).head? = dialect.sigil.head? := by
  by_cases h : dialect = .question
  · subst h
    rw [encode_placeholder_question]
    rfl
  · rw [encode_placeholder h, List.append_assoc]
    cases dialect <;> rfl

/-- The sigil before a digit is a plain byte. -/
theorem isToken_sigil {prev : Option UInt8} {c d : UInt8} {rest : List UInt8}
    (hc : c = Byte.dollar ∨ c = Byte.colon) (hd : isDigit d = true) :
    IsToken prev .plain [c] (d :: rest) := by
  have hactive := not_mem_activeBytes_of_isDigit hd
  have hnot : startsIdent (d :: rest) = false := not_isIdentStart_of_isDigit hd
  refine .plain ?_ (fun hcast => ?_) ?_
  · rintro ⟨kind, opening, hopening, hahead⟩
    -- only a dollar quote opens with one of the two sigils, and no tag starts with a digit
    cases hopening with
    | @dollarQuoted tag htag =>
      obtain ⟨-, after, hafter⟩ := List.cons_prefix_cons.mp hahead
      rcases htag with rfl | hname
      · obtain rfl : Byte.dollar = d := (List.cons.inj hafter).1
        exact hactive (by decide)
      · rw [← hafter, List.append_assoc, hname.startsIdent_append] at hnot
        exact absurd hnot (by simp)
    | @escapeString e he =>
      obtain ⟨rfl, -⟩ := List.cons_prefix_cons.mp hahead
      rcases hc with rfl | rfl <;> exact absurd he (by decide)
    | _ =>
      obtain ⟨rfl, -⟩ := List.cons_prefix_cons.mp hahead
      exact absurd hc (by decide)
  · obtain ⟨-, hcolon⟩ := pair_prefix_iff.mp hcast
    obtain rfl : d = Byte.colon := Option.some.inj hcolon
    exact hactive (by decide)
  · rintro ⟨-, behind, hbehind, hident⟩
    obtain ⟨-, rfl⟩ := List.cons.inj hbehind
    rw [hnot] at hident
    exact absurd hident (by simp)

/-- A placeholder is read as plain bytes, whatever stands before it. -/
theorem lex_placeholder (dialect : Dialect) (index : Nat) (prev : Option UInt8)
    (rest : List UInt8) :
    lex prev (Utf8.encode (dialect.placeholder index) ++ rest) =
      (lex (Utf8.encode (dialect.placeholder index)).getLast? rest).prepend
        (Utf8.encode (dialect.placeholder index)) := by
  have hdigits : ∀ b ∈ digits index, b ∉ activeBytes := fun b hb =>
    not_mem_activeBytes_of_isDigit (isDigit_of_mem_digits hb)
  -- the mark of a placeholder is no marker and opens no quote, with a digit behind it
  have hsigil {c : UInt8} (hc : c = Byte.dollar ∨ c = Byte.colon) :
      IsToken prev .plain [c] (digits index ++ rest) := by
    obtain ⟨d, behind, hd⟩ := List.exists_cons_of_ne_nil (digits_ne_nil index)
    rw [hd]
    exact isToken_sigil hc (@isDigit_of_mem_digits index d (by rw [hd]; simp))
  cases dialect with
  | question =>
    rw [encode_placeholder_question]
    exact lex_plain_cons (isToken_plain (by decide)) (by simp)
  | atP =>
    rw [encode_placeholder (by decide)]
    refine lex_plain_cons (isToken_plain (by decide)) fun b hb => ?_
    rcases List.mem_cons.mp hb with rfl | hb
    · decide
    · exact hdigits b hb
  | dollar =>
    rw [encode_placeholder (by decide)]
    exact lex_plain_cons (hsigil (.inl rfl)) hdigits
  | colon =>
    rw [encode_placeholder (by decide)]
    exact lex_plain_cons (hsigil (.inr rfl)) hdigits

/-- The byte that a placeholder ends with. -/
theorem getLast?_placeholder (dialect : Dialect) (index : Nat) :
    ∃ b, (Utf8.encode (dialect.placeholder index)).getLast? = some b ∧
      if dialect = .question then b = 0x3F else isIdentByte b = true := by
  by_cases h : dialect = .question
  · subst h
    rw [encode_placeholder_question]
    exact ⟨0x3F, rfl, rfl⟩
  · rw [encode_placeholder h, List.getLast?_append,
      List.getLast?_eq_some_getLast (digits_ne_nil index), Option.some_or]
    refine ⟨_, rfl, ?_⟩
    rw [if_neg h]
    exact isIdentByte_of_isDigit (isDigit_of_mem_digits (List.getLast_mem _))

end NamedSql.Sql
