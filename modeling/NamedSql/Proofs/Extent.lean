/-
Each extent measures what the grammar says of its region.

For every kind of region, an extent of `n` bytes is found exactly when the grammar lets
the region end behind those bytes (`closingExtent_eq_some_iff`).  Soundness follows the
recursion of the extent, completeness the rules of the body.
-/
import NamedSql.Proofs.Grammar

namespace NamedSql.Sql

/-! ### Quotes -/

theorem quotedExtent_sound {q : UInt8} {s : List UInt8} {n : Nat}
    (h : quotedExtent q s = some n) :
    ∃ body rest, s = body ++ q :: rest ∧ QuotedBody q body ∧ rest.head? ≠ some q ∧
      n = body.length + 1 := by
  -- by the recursion of the extent, each branch of which is a rule of the body or its end
  fun_induction quotedExtent q s generalizing n with
  | case1 => simp at h
  | case2 => exact ⟨[], [], by simp, .nil, by simp, by simpa using h.symm⟩
  | case3 => simp at h
  | case4 rest ih =>
    obtain ⟨m, hm, rfl⟩ := Option.map_eq_some_iff.mp h
    obtain ⟨body, rest, rfl, hbody, hrest, rfl⟩ := ih hm
    exact ⟨q :: q :: body, rest, rfl, .doubled hbody, hrest, rfl⟩
  | case5 c rest hc =>
    exact ⟨[], c :: rest, rfl, .nil, by simpa using hc, by simpa using h.symm⟩
  | case6 b c rest hb ih =>
    obtain ⟨m, hm, rfl⟩ := Option.map_eq_some_iff.mp h
    obtain ⟨body, rest', hs, hbody, hrest, rfl⟩ := ih hm
    exact ⟨b :: body, rest', by rw [hs]; rfl, .byte hb hbody, hrest, rfl⟩

/-- A byte in front that is no quote only moves the end. -/
theorem quotedExtent_cons {q b : UInt8} (hb : b ≠ q) (s : List UInt8) :
    quotedExtent q (b :: s) = (quotedExtent q s).map (· + 1) := by
  cases s with
  | nil => simp [quotedExtent, hb]
  | cons c s => rw [quotedExtent, if_neg hb]

theorem quotedExtent_complete {q : UInt8} {body rest : List UInt8}
    (hbody : QuotedBody q body) (hrest : rest.head? ≠ some q) :
    quotedExtent q (body ++ q :: rest) = some (body.length + 1) := by
  induction hbody with
  | nil =>
    cases rest with
    | nil => simp [quotedExtent]
    | cons c rest =>
      have hc : c ≠ q := by simpa using hrest
      simp [quotedExtent, hc]
  | byte hb _ ih =>
    rw [List.cons_append, quotedExtent_cons hb, ih]
    rfl
  | doubled _ ih =>
    rw [List.cons_append, List.cons_append, quotedExtent, if_pos rfl, if_pos rfl, ih]
    rfl

/-! ### Escape strings -/

theorem escapedExtent_sound {s : List UInt8} {n : Nat} (h : escapedExtent s = some n) :
    ∃ body rest, s = body ++ Byte.quote :: rest ∧ EscapedBody body ∧
      rest.head? ≠ some Byte.quote ∧ n = body.length + 1 := by
  fun_induction escapedExtent s generalizing n with
  | case1 => simp at h
  | case2 => exact ⟨[], [], by simp, .nil, by simp, by simpa using h.symm⟩
  | case3 => simp at h
  | case4 c rest ih =>
    obtain ⟨m, hm, rfl⟩ := Option.map_eq_some_iff.mp h
    obtain ⟨body, rest, rfl, hbody, hrest, rfl⟩ := ih hm
    exact ⟨Byte.backslash :: c :: body, rest, rfl, .escaped hbody, hrest, rfl⟩
  | case5 rest _ ih =>
    obtain ⟨m, hm, rfl⟩ := Option.map_eq_some_iff.mp h
    obtain ⟨body, rest, rfl, hbody, hrest, rfl⟩ := ih hm
    exact ⟨Byte.quote :: Byte.quote :: body, rest, rfl, .doubled hbody, hrest, rfl⟩
  | case6 c rest hc =>
    exact ⟨[], c :: rest, rfl, .nil, by simpa using hc, by simpa using h.symm⟩
  | case7 b c rest hslash hquote ih =>
    obtain ⟨m, hm, rfl⟩ := Option.map_eq_some_iff.mp h
    obtain ⟨body, rest', hs, hbody, hrest, rfl⟩ := ih hm
    exact ⟨b :: body, rest', by rw [hs]; rfl, .byte hslash hquote hbody, hrest, rfl⟩

/-- A byte in front that is neither quote nor backslash only moves the end. -/
theorem escapedExtent_cons {b : UInt8} (hslash : b ≠ Byte.backslash) (hquote : b ≠ Byte.quote)
    (s : List UInt8) : escapedExtent (b :: s) = (escapedExtent s).map (· + 1) := by
  cases s with
  | nil => simp [escapedExtent, hquote]
  | cons c s => rw [escapedExtent, if_neg hslash, if_neg hquote]

theorem escapedExtent_complete {body rest : List UInt8} (hbody : EscapedBody body)
    (hrest : rest.head? ≠ some Byte.quote) :
    escapedExtent (body ++ Byte.quote :: rest) = some (body.length + 1) := by
  -- by the rules of the body, with a closing quote that is not doubled behind it
  induction hbody with
  | nil =>
    cases rest with
    | nil => simp [escapedExtent]
    | cons c rest =>
      have hc : c ≠ Byte.quote := by simpa using hrest
      rw [List.nil_append, escapedExtent, if_neg (by decide), if_pos rfl, if_neg hc]
      rfl
  | escaped _ ih =>
    rw [List.cons_append, List.cons_append, escapedExtent, if_pos rfl, ih]
    rfl
  | doubled _ ih =>
    rw [List.cons_append, List.cons_append, escapedExtent, if_neg (by decide), if_pos rfl,
      if_pos rfl, ih]
    rfl
  | byte hslash hquote _ ih =>
    rw [List.cons_append, escapedExtent_cons hslash hquote, ih]
    rfl

/-! ### Comments -/

theorem lineExtent_sound (s opening : List UInt8) :
    ∃ tail rest, s = tail ++ rest ∧ tail.length = lineExtent s ∧
      Closing .lineComment opening tail rest := by
  induction s with
  | nil => exact ⟨[], [], rfl, rfl, .lastLine (by simp)⟩
  | cons b s ih =>
    by_cases hb : b = Byte.newline
    · subst hb
      refine ⟨[Byte.newline], s, rfl, rfl, ?_⟩
      exact Closing.line (List.not_mem_nil : Byte.newline ∉ [])
    · obtain ⟨tail, rest, rfl, hlength, hclosing⟩ := ih
      refine ⟨b :: tail, rest, rfl, by simp [lineExtent, hb, hlength], ?_⟩
      -- a byte more in front changes neither of the two ways in which a line ends
      have hne : ∀ body : List UInt8, Byte.newline ∉ body → Byte.newline ∉ b :: body := by
        intro body hbody
        simp [hbody, Ne.symm hb]
      cases hclosing with
      | line hbody => exact .line (hne _ hbody)
      | lastLine hbody => exact .lastLine (hne _ hbody)

theorem lineExtent_append {body : List UInt8} (hbody : Byte.newline ∉ body) (rest : List UInt8) :
    lineExtent (body ++ rest) = body.length + lineExtent rest := by
  induction body with
  | nil => simp
  | cons b body ih =>
    obtain ⟨hb, hbody⟩ : b ≠ Byte.newline ∧ Byte.newline ∉ body := by
      simpa [eq_comm] using hbody
    rw [List.cons_append, lineExtent, if_neg hb, ih hbody, List.length_cons]
    omega

theorem lineExtent_complete {opening tail rest : List UInt8}
    (h : Closing .lineComment opening tail rest) : lineExtent (tail ++ rest) = tail.length := by
  cases h with
  | line hbody =>
    rw [List.append_assoc, lineExtent_append hbody]
    simp [lineExtent]
  | lastLine hbody =>
    rw [lineExtent_append hbody]
    simp [lineExtent]

theorem CommentRest.eq_cons {body : List UInt8} (h : CommentRest body) :
    ∃ b tail, body = b :: tail := by
  cases h with
  | closing => exact ⟨_, _, rfl⟩
  | comment => exact ⟨_, _, rfl⟩
  | byte => exact ⟨_, _, rfl⟩

/-- A byte in front where neither delimiter starts only moves the end. -/
theorem commentExtent_cons {b c : UInt8} {s : List UInt8}
    (hclose : ¬ [Byte.star, Byte.slash] <+: b :: c :: s)
    (hopen : ¬ [Byte.slash, Byte.star] <+: b :: c :: s) (depth : Nat) :
    commentExtent depth (b :: c :: s) = (commentExtent depth (c :: s)).map (· + 1) := by
  have hclose' : ¬ (b = Byte.star ∧ c = Byte.slash) := by simpa [eq_comm] using hclose
  have hopen' : ¬ (b = Byte.slash ∧ c = Byte.star) := by simpa [eq_comm] using hopen
  cases depth <;> rw [commentExtent, if_neg hclose', if_neg hopen']

theorem commentExtent_opening (depth : Nat) (s : List UInt8) :
    commentExtent depth (Byte.slash :: Byte.star :: s) =
      (commentExtent (depth + 1) s).map (· + 2) := by
  cases depth <;> rw [commentExtent, if_neg (by decide), if_pos ⟨rfl, rfl⟩]

/-- What is still to come behind the end of a comment with `depth` comments around it. -/
def outerExtent : Nat → List UInt8 → Option Nat
  | 0, _ => some 0
  | depth + 1, s => commentExtent depth s

theorem commentExtent_closing (depth : Nat) (s : List UInt8) :
    commentExtent depth (Byte.star :: Byte.slash :: s) = (outerExtent depth s).map (· + 2) := by
  cases depth <;> rw [commentExtent, if_pos ⟨rfl, rfl⟩] <;> rfl

theorem commentExtent_append {body : List UInt8} (hbody : CommentRest body) (depth : Nat)
    (rest : List UInt8) :
    commentExtent depth (body ++ rest) = (outerExtent depth rest).map (· + body.length) := by
  induction hbody generalizing depth rest with
  | closing => exact commentExtent_closing depth rest
  | @comment inner outer _ _ ihInner ihOuter =>
    -- the inner comment is read one level deeper, and the outer one goes on behind it
    rw [List.cons_append, List.cons_append, commentExtent_opening, List.append_assoc, ihInner]
    show ((commentExtent depth (outer ++ rest)).map (· + inner.length)).map (· + 2) = _
    rw [ihOuter, Option.map_map, Option.map_map]
    congr 1
    funext n
    simp only [Function.comp, List.length_cons, List.length_append]
    omega
  | @byte b body hclose hopen hrest ih =>
    obtain ⟨c, tail, rfl⟩ := hrest.eq_cons
    -- The second byte is one of the body, so `rest` decides nothing here.
    have hcons := commentExtent_cons (s := tail ++ rest) (by simpa using hclose)
      (by simpa using hopen) depth
    rw [List.cons_append, List.cons_append, hcons, ← List.cons_append, ih, Option.map_map]
    rfl

/-- An extent found at some depth spells the ends of that many comments and one more. -/
theorem commentExtent_sound {depth : Nat} {s : List UInt8} {n : Nat}
    (h : commentExtent depth s = some n) :
    ∃ (bodies : List (List UInt8)) (rest : List UInt8), s = bodies.flatten ++ rest ∧
      bodies.length = depth + 1 ∧ (∀ body ∈ bodies, CommentRest body) ∧
      n = bodies.flatten.length := by
  fun_induction commentExtent depth s generalizing n with
  | case1 => simp at h
  | case2 => simp at h
  | case3 b c rest hclose =>
    obtain ⟨rfl, rfl⟩ := hclose
    refine ⟨[[Byte.star, Byte.slash]], rest, rfl, rfl, ?_, by simpa using h.symm⟩
    intro body hbody
    rw [List.mem_singleton.mp hbody]
    exact .closing
  | case4 b c rest hclose inner ih =>
    obtain ⟨rfl, rfl⟩ := hclose
    obtain ⟨m, hm, rfl⟩ := Option.map_eq_some_iff.mp h
    obtain ⟨bodies, rest, rfl, hlength, hbodies, rfl⟩ := ih hm
    refine ⟨[Byte.star, Byte.slash] :: bodies, rest, by simp, by simp [hlength], ?_, by simp⟩
    intro body hbody
    rcases List.mem_cons.mp hbody with rfl | hbody
    · exact .closing
    · exact hbodies body hbody
  | case5 depth b c rest _ hopen ih =>
    obtain ⟨rfl, rfl⟩ := hopen
    obtain ⟨m, hm, rfl⟩ := Option.map_eq_some_iff.mp h
    obtain ⟨bodies, rest, rfl, hlength, hbodies, rfl⟩ := ih hm
    -- The first end closes the comment that opens here; the second one is the next end out.
    obtain ⟨inner, outer, others, rfl⟩ : ∃ inner outer others, bodies = inner :: outer :: others :=
      match bodies, hlength with
      | inner :: outer :: others, _ => ⟨inner, outer, others, rfl⟩
    refine ⟨(Byte.slash :: Byte.star :: (inner ++ outer)) :: others, rest, by simp,
      by simpa using hlength, ?_, by simp⟩
    intro body hbody
    rcases List.mem_cons.mp hbody with rfl | hbody
    · exact .comment (hbodies inner (by simp)) (hbodies outer (by simp))
    · exact hbodies body (by simp [hbody])
  | case6 depth b c rest hclose hopen ih =>
    obtain ⟨m, hm, rfl⟩ := Option.map_eq_some_iff.mp h
    obtain ⟨bodies, rest', hs, hlength, hbodies, rfl⟩ := ih hm
    obtain ⟨first, others, rfl⟩ : ∃ first others, bodies = first :: others :=
      match bodies, hlength with
      | first :: others, _ => ⟨first, others, rfl⟩
    obtain ⟨b', tail, rfl⟩ := (hbodies first (by simp)).eq_cons
    obtain ⟨rfl, -⟩ : c = b' ∧ rest = tail ++ others.flatten ++ rest' := by simpa using hs
    refine ⟨(b :: c :: tail) :: others, rest', by simpa using hs, by simpa using hlength, ?_,
      by simp⟩
    intro body hbody
    rcases List.mem_cons.mp hbody with rfl | hbody
    · exact .byte (by simpa [eq_comm] using hclose) (by simpa [eq_comm] using hopen)
        (hbodies _ (by simp))
    · exact hbodies body (by simp [hbody])

/-! ### Dollar quotes -/

@[simp] theorem firstBehind_nil (delimiter : List UInt8) : FirstBehind delimiter [] := by
  intro before after h
  have hlength := congrArg List.length h
  simp only [List.nil_append, List.length_append] at hlength
  exact List.length_eq_zero_iff.mp (by omega)

theorem firstBehind_cons {delimiter body : List UInt8} {b : UInt8} :
    FirstBehind delimiter (b :: body) ↔
      ¬ delimiter <+: b :: (body ++ delimiter) ∧ FirstBehind delimiter body := by
  constructor
  · intro h
    refine ⟨?_, fun before after hbody => ?_⟩
    · rintro ⟨after, hafter⟩
      obtain rfl := h [] after hafter.symm
      have hlength := congrArg List.length hafter
      simp only [List.append_nil, List.length_cons, List.length_append] at hlength
      omega
    · exact h (b :: before) after (by simp [hbody])
  · rintro ⟨hfront, hbody⟩ before after h
    cases before with
    | nil => exact absurd ⟨after, h.symm⟩ hfront
    | cons c before => exact hbody before after (by simpa using (List.cons.inj h).2)

/-- Whether the delimiter stands in front is settled before `rest` comes in. -/
theorem delimiter_prefix_iff {delimiter body rest : List UInt8} {b : UInt8} :
    delimiter <+: b :: (body ++ delimiter ++ rest) ↔ delimiter <+: b :: (body ++ delimiter) := by
  constructor
  · intro h
    exact List.prefix_of_prefix_length_le h ⟨rest, by simp⟩ (by simp; omega)
  · rintro ⟨after, hafter⟩
    exact ⟨after ++ rest, by rw [← List.append_assoc, hafter]; simp⟩

/-- What stands in front of a text and does not hold `b` ends before the first `b`. -/
theorem prefix_of_not_mem {start s behind : List UInt8} {b : UInt8}
    (h : start <+: s ++ b :: behind) (hb : b ∉ start) : start <+: s := by
  have hfirst : s ++ [b] <+: s ++ b :: behind :=
    ⟨behind, by rw [List.append_assoc, List.singleton_append]⟩
  rcases List.prefix_or_prefix_of_prefix h hfirst with hfront | hover
  · rcases List.prefix_concat_iff.mp hfront with rfl | hfront
    · exact absurd (by simp) hb
    · exact hfront
  · exact absurd (hover.subset (by simp)) hb

theorem delimitedExtent_sound {delimiter s : List UInt8} {n : Nat}
    (h : delimitedExtent delimiter s = some n) :
    ∃ body rest, s = body ++ delimiter ++ rest ∧ FirstBehind delimiter body ∧
      n = body.length + delimiter.length := by
  induction s generalizing n with
  | nil =>
    obtain ⟨hempty, hn⟩ : delimiter = [] ∧ 0 = n := by simpa [delimitedExtent] using h
    exact ⟨[], [], by simp [hempty], firstBehind_nil delimiter, by simp [hempty, ← hn]⟩
  | cons b s ih =>
    rw [delimitedExtent] at h
    -- a delimiter in front ends the body, whatever comes behind
    split at h
    · next hahead =>
      obtain ⟨rest, hrest⟩ := List.isPrefixOf_iff_prefix.mp hahead
      exact ⟨[], rest, hrest.symm, firstBehind_nil delimiter, by simpa using h.symm⟩
    · next hahead =>
      obtain ⟨m, hm, rfl⟩ := Option.map_eq_some_iff.mp h
      obtain ⟨body, rest, rfl, hbody, rfl⟩ := ih hm
      have hfront : ¬ delimiter <+: b :: (body ++ delimiter) := by
        rwa [List.isPrefixOf_iff_prefix, delimiter_prefix_iff] at hahead
      exact ⟨b :: body, rest, rfl, firstBehind_cons.mpr ⟨hfront, hbody⟩, by simp; omega⟩

theorem delimitedExtent_complete {delimiter body : List UInt8} (hbody : FirstBehind delimiter body)
    (rest : List UInt8) :
    delimitedExtent delimiter (body ++ delimiter ++ rest) =
      some (body.length + delimiter.length) := by
  induction body with
  | nil =>
    cases hs : delimiter ++ rest with
    | nil => simp_all [delimitedExtent]
    | cons b s =>
      have hahead : delimiter.isPrefixOf (b :: s) = true :=
        List.isPrefixOf_iff_prefix.mpr ⟨rest, hs⟩
      rw [List.nil_append, hs, delimitedExtent, if_pos hahead]
      simp
  | cons b body ih =>
    obtain ⟨hfront, hbody⟩ := firstBehind_cons.mp hbody
    -- the delimiter does not stand in front of the first one
    have hahead : ¬ delimiter.isPrefixOf (b :: (body ++ delimiter ++ rest)) = true := by
      rwa [List.isPrefixOf_iff_prefix, delimiter_prefix_iff]
    rw [List.cons_append, List.cons_append, delimitedExtent, if_neg hahead, ih hbody]
    simp only [Option.map_some, List.length_cons]
    congr 1
    omega

/-! ### All regions -/

/-- The extent of a region of a kind behind its opening delimiter. -/
def closingExtent (kind : RegionKind) (opening behind : List UInt8) : Option Nat :=
  match kind with
  | .string => quotedExtent Byte.quote behind
  | .quotedIdentifier => quotedExtent Byte.doubleQuote behind
  | .escapeString => escapedExtent behind
  | .lineComment => some (lineExtent behind)
  | .blockComment => commentExtent 0 behind
  | .dollarQuoted => delimitedExtent opening behind

theorem closingExtent_sound {kind : RegionKind} {opening behind : List UInt8} {n : Nat}
    (h : closingExtent kind opening behind = some n) :
    ∃ tail rest, behind = tail ++ rest ∧ tail.length = n ∧ Closing kind opening tail rest := by
  cases kind with
  | string =>
    obtain ⟨body, rest, rfl, hbody, hrest, rfl⟩ := quotedExtent_sound h
    exact ⟨body ++ [Byte.quote], rest, by simp, by simp, .string hbody hrest⟩
  | escapeString =>
    obtain ⟨body, rest, rfl, hbody, hrest, rfl⟩ := escapedExtent_sound h
    exact ⟨body ++ [Byte.quote], rest, by simp, by simp, .escapeString hbody hrest⟩
  | quotedIdentifier =>
    obtain ⟨body, rest, rfl, hbody, hrest, rfl⟩ := quotedExtent_sound h
    exact ⟨body ++ [Byte.doubleQuote], rest, by simp, by simp, .quotedIdentifier hbody hrest⟩
  | lineComment =>
    obtain ⟨tail, rest, hs, hlength, hclosing⟩ := lineExtent_sound behind opening
    exact ⟨tail, rest, hs, hlength.trans (Option.some.inj h), hclosing⟩
  | blockComment =>
    obtain ⟨bodies, rest, hs, hlength, hbodies, rfl⟩ := commentExtent_sound h
    obtain ⟨tail, rfl⟩ := List.length_eq_one_iff.mp hlength
    exact ⟨tail, rest, by simpa using hs, by simp, .blockComment (hbodies tail (by simp))⟩
  | dollarQuoted =>
    obtain ⟨body, rest, hs, hbody, rfl⟩ := delimitedExtent_sound h
    exact ⟨body ++ opening, rest, hs, by simp, .dollarQuoted hbody⟩

theorem closingExtent_complete {kind : RegionKind} {opening tail rest : List UInt8}
    (h : Closing kind opening tail rest) :
    closingExtent kind opening (tail ++ rest) = some tail.length := by
  cases h with
  | string hbody hrest => simpa [closingExtent] using quotedExtent_complete hbody hrest
  | quotedIdentifier hbody hrest => simpa [closingExtent] using quotedExtent_complete hbody hrest
  | escapeString hbody hrest => simpa [closingExtent] using escapedExtent_complete hbody hrest
  | line hbody =>
    have hclosing : Closing .lineComment opening _ rest := .line hbody
    exact congrArg some (lineExtent_complete hclosing)
  | lastLine hbody =>
    have hclosing : Closing .lineComment opening tail [] := .lastLine hbody
    exact congrArg some (lineExtent_complete hclosing)
  | blockComment htail =>
    show commentExtent 0 (tail ++ rest) = _
    rw [commentExtent_append htail]
    simp [outerExtent]
  | dollarQuoted hbody => simpa [closingExtent] using delimitedExtent_complete hbody rest

/-- A region has an extent of `n` bytes exactly when the grammar ends it behind them. -/
theorem closingExtent_eq_some_iff {kind : RegionKind} {opening behind : List UInt8} {n : Nat} :
    closingExtent kind opening behind = some n ↔
      ∃ tail rest, behind = tail ++ rest ∧ tail.length = n ∧ Closing kind opening tail rest := by
  constructor
  · exact closingExtent_sound
  · rintro ⟨tail, rest, rfl, rfl, h⟩
    exact closingExtent_complete h

/-- A region has no extent exactly when the grammar ends it nowhere. -/
theorem closingExtent_eq_none_iff {kind : RegionKind} {opening behind : List UInt8} :
    closingExtent kind opening behind = none ↔
      ∀ tail rest, behind = tail ++ rest → ¬ Closing kind opening tail rest := by
  rw [Option.eq_none_iff_forall_ne_some]
  constructor
  · rintro h tail rest rfl hclosing
    exact h _ (closingExtent_complete hclosing)
  · intro h n hn
    obtain ⟨tail, rest, htail, -, hclosing⟩ := closingExtent_sound hn
    exact h tail rest htail hclosing

end NamedSql.Sql
