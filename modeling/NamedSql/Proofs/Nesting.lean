/-
Comments within comments.

The end of a comment is found by counting how many comments are open.  The grammar here counts
nothing: a comment is a row of items between its two delimiters, and an item is a comment again or
a single byte.  Both look at two bytes at a time, which may overlap as in `/*/` and `**/`, and they
cut the text at the same places.

* `CommentItems`, `IsComment` — comments, item by item from left to right;
* `isComment_iff` — what stands behind a comment takes no part in it;
* `commentExtent_eq_some_iff` — counting measures exactly the comments of the grammar;
* `counting_follows_grammar` — skipping a comment, or failing to, anywhere in a text.
-/
import NamedSql.Proofs.Scanning

namespace NamedSql.Sql

/-! ### The grammar -/

/-- What opens a comment. -/
def commentOpening : List UInt8 :=
  [Byte.slash, Byte.star]

/-- What closes a comment. -/
def commentClosing : List UInt8 :=
  [Byte.star, Byte.slash]

/-- A row of items in front of the text `rest`, read from left to right.  Where the text goes on
with an opening delimiter, the item is a comment.  Elsewhere it is a single byte, at which no
closing delimiter may start. -/
inductive CommentItems : (items rest : List UInt8) → Prop
  | nil {rest : List UInt8} : CommentItems [] rest
  | comment {inner items rest : List UInt8} :
      CommentItems inner (commentClosing ++ (items ++ rest)) → CommentItems items rest →
        CommentItems (commentOpening ++ inner ++ commentClosing ++ items) rest
  | byte {b : UInt8} {items rest : List UInt8} :
      ¬ commentOpening <+: b :: (items ++ rest) → ¬ commentClosing <+: b :: (items ++ rest) →
        CommentItems items rest → CommentItems (b :: items) rest

/-- A comment in front of the text `rest`: items between the delimiters. -/
def IsComment (comment rest : List UInt8) : Prop :=
  ∃ items, comment = commentOpening ++ items ++ commentClosing ∧
    CommentItems items (commentClosing ++ rest)

/-- A comment starts at a position of a text. -/
def CommentAt (bytes : List UInt8) (position : Nat) (comment : List UInt8) : Prop :=
  ∃ rest, bytes.drop position = comment ++ rest ∧ IsComment comment rest

/-! ### What stands behind a comment -/

section

variable {b : UInt8} {items rest rest' : List UInt8}

/-- A delimiter in front takes two bytes, and both stand before the end of what closes the
comment. -/
theorem delimiter_prefix_congr {delimiter : List UInt8} (h : delimiter.length = 2)
    (rest rest' : List UInt8) :
    delimiter <+: b :: (items ++ (commentClosing ++ rest)) ↔
      delimiter <+: b :: (items ++ (commentClosing ++ rest')) := by
  obtain ⟨first, second, rfl⟩ : ∃ first second, delimiter = [first, second] := by
    match delimiter, h with
    | [first, second], _ => exact ⟨first, second, rfl⟩
  rw [pair_prefix_iff, pair_prefix_iff]
  cases items <;> simp [commentClosing]

/-- Items before a closing delimiter are those of a body of the counted grammar. -/
theorem CommentItems.commentRest (h : CommentItems items (commentClosing ++ rest)) :
    CommentRest (items ++ commentClosing) := by
  generalize hbehind : commentClosing ++ rest = behind at h
  induction h generalizing rest with
  | nil => exact .closing
  | @comment inner items behind _ _ ihInner ihItems =>
    subst hbehind
    have hinner : CommentRest (inner ++ commentClosing) := ihInner rfl
    have hitems : CommentRest (items ++ commentClosing) := ihItems rfl
    have hwhole := CommentRest.comment hinner hitems
    simpa [commentOpening, commentClosing] using hwhole
  | @byte b items behind hopen hclose _ ih =>
    subst hbehind
    rw [delimiter_prefix_congr rfl rest [], List.append_nil] at hopen hclose
    exact .byte hclose hopen (ih rfl)

/-- And the other way round, whatever stands behind the closing delimiter. -/
theorem CommentRest.exists_items {body : List UInt8} (h : CommentRest body) :
    ∃ items, body = items ++ commentClosing ∧
      ∀ rest, CommentItems items (commentClosing ++ rest) := by
  -- by the rules that count; what stands behind the comment is general, as nothing in it matters
  induction h with
  | closing => exact ⟨[], rfl, fun rest => .nil⟩
  | @comment inner outer _ _ ihInner ihOuter =>
    obtain ⟨first, rfl, hfirst⟩ := ihInner
    obtain ⟨others, rfl, hothers⟩ := ihOuter
    refine ⟨commentOpening ++ first ++ commentClosing ++ others, ?_, fun rest => ?_⟩
    · simp [commentOpening, commentClosing]
    · exact .comment (hfirst _) (hothers rest)
  | @byte b body hclose hopen _ ih =>
    obtain ⟨items, rfl, hitems⟩ := ih
    refine ⟨b :: items, rfl, fun rest => ?_⟩
    rw [← List.append_nil commentClosing] at hclose hopen
    rw [delimiter_prefix_congr rfl [] rest] at hclose hopen
    exact .byte hopen hclose (hitems rest)

end

/-- What stands behind a comment takes no part in it. -/
theorem isComment_iff {comment rest : List UInt8} :
    IsComment comment rest ↔ ∃ body, comment = commentOpening ++ body ∧ CommentRest body := by
  constructor
  · rintro ⟨items, rfl, hitems⟩
    exact ⟨items ++ commentClosing, List.append_assoc _ _ _, hitems.commentRest⟩
  · rintro ⟨body, rfl, hbody⟩
    obtain ⟨items, rfl, hitems⟩ := hbody.exists_items
    exact ⟨items, (List.append_assoc _ _ _).symm, hitems rest⟩

/-! ### Counting -/

/-- Counting measures exactly the comments of the grammar. -/
theorem commentExtent_eq_some_iff {behind : List UInt8} {n : Nat} :
    commentExtent 0 behind = some n ↔
      ∃ comment rest, commentOpening ++ behind = comment ++ rest ∧ IsComment comment rest ∧
        comment.length = n + 2 := by
  have hextent : commentExtent 0 behind = closingExtent .blockComment commentOpening behind := rfl
  rw [hextent, closingExtent_eq_some_iff]
  constructor
  · rintro ⟨tail, rest, rfl, rfl, hclosing⟩
    cases hclosing with
    | blockComment htail =>
      refine ⟨commentOpening ++ tail, rest, (List.append_assoc _ _ _).symm,
        isComment_iff.mpr ⟨tail, rfl, htail⟩, ?_⟩
      simp [commentOpening]
  · rintro ⟨comment, rest, hsplit, hcomment, hlength⟩
    obtain ⟨body, rfl, hbody⟩ := isComment_iff.mp hcomment
    rw [List.append_assoc] at hsplit
    refine ⟨body, rest, List.append_cancel_left hsplit, ?_, .blockComment hbody⟩
    simpa [commentOpening] using hlength

section

variable {bytes : List UInt8} {position : Nat} (h : commentOpening <+: bytes.drop position)

include h

theorem drop_behind_opening :
    bytes.drop position = commentOpening ++ bytes.drop (position + 2) := by
  obtain ⟨behind, hbehind⟩ := h
  have hdrop : bytes.drop (position + 2) = behind := by
    rw [← List.drop_drop, ← hbehind]
    rfl
  rw [hdrop, hbehind]

/-- Counting from a position measures the comment that starts there. -/
theorem extent_at_iff {n : Nat} :
    commentExtent 0 (bytes.drop (position + 2)) = some n ↔
      ∃ comment, CommentAt bytes position comment ∧ comment.length = n + 2 := by
  rw [commentExtent_eq_some_iff, ← drop_behind_opening h]
  constructor
  · rintro ⟨comment, rest, hsplit, hcomment, hlength⟩
    exact ⟨comment, ⟨rest, hsplit, hcomment⟩, hlength⟩
  · rintro ⟨comment, ⟨rest, hsplit, hcomment⟩, hlength⟩
    exact ⟨comment, rest, hsplit, hcomment, hlength⟩

theorem CommentAt.exists_extent {comment : List UInt8}
    (hcomment : CommentAt bytes position comment) :
    ∃ extent, commentExtent 0 (bytes.drop (position + 2)) = some extent ∧
      comment.length = extent + 2 := by
  have hlength : 2 ≤ comment.length := by
    obtain ⟨rest, -, items, rfl, -⟩ := hcomment
    simp [commentOpening]
  obtain ⟨extent, hextent⟩ := Nat.exists_eq_add_of_le' hlength
  exact ⟨extent, (extent_at_iff h).mpr ⟨comment, hcomment, hextent⟩, hextent⟩

/-- At most one comment starts at a position. -/
theorem CommentAt.unique {comment other : List UInt8} (hcomment : CommentAt bytes position comment)
    (hother : CommentAt bytes position other) : comment = other := by
  -- both are as long as is counted, and both are the front of the same text
  obtain ⟨extent, hextent, hlength⟩ := hcomment.exists_extent h
  obtain ⟨extent', hextent', hlength'⟩ := hother.exists_extent h
  have hsame : comment.length = other.length := by
    rw [hlength, hlength', Option.some.inj (hextent.symm.trans hextent')]
  obtain ⟨rest, hsplit, -⟩ := hcomment
  obtain ⟨rest', hsplit', -⟩ := hother
  exact (List.append_inj (hsplit.symm.trans hsplit') hsame).1

end

/-! ### Skipping -/

/-- **Counting follows the grammar of nested comments.**  Where a text has an opening delimiter,
the comments that are open are counted to an end if and only if a comment of the grammar starts
there.  There is then only one, and what comes next is read from its end on.  Otherwise the comment
is left open, and the error spans the text from that delimiter to the end. -/
theorem counting_follows_grammar (bytes : List UInt8) (position : Nat) (prev : Option UInt8)
    (h : commentOpening <+: bytes.drop position) :
    (∀ extent, commentExtent 0 (bytes.drop (position + 2)) = some extent ↔
        ∃ comment, CommentAt bytes position comment ∧
          position + 2 + extent = position + comment.length) ∧
      (∀ comment other, CommentAt bytes position comment → CommentAt bytes position other →
        comment = other) ∧
      (∀ comment, CommentAt bytes position comment →
        lex prev (bytes.drop position) =
          (lex comment.getLast? (bytes.drop (position + comment.length))).cons
            { kind := .region .blockComment, text := comment }) ∧
      ((¬ ∃ comment, CommentAt bytes position comment) →
        lex prev (bytes.drop position) =
            { tokens := [], unclosed := some (.blockComment, bytes.drop position) } ∧
          errorFrom position (lex prev (bytes.drop position)) =
            some { what := .blockComment
                   span := { offset := position, length := bytes.length - position } }) := by
  refine ⟨fun extent => ?_, fun comment other => CommentAt.unique h, fun comment hcomment => ?_,
    fun hnone => ?_⟩
  · rw [extent_at_iff h]
    refine exists_congr fun comment => and_congr_right fun _ => ?_
    omega
  · obtain ⟨rest, hsplit, hcomment⟩ := hcomment
    obtain ⟨body, rfl, hbody⟩ := isComment_iff.mp hcomment
    have hrest : bytes.drop (position + (commentOpening ++ body).length) = rest := by
      rw [← List.drop_drop, hsplit, List.drop_left]
    rw [hrest, hsplit]
    exact lex_append (.region .blockComment (.blockComment hbody))
  · -- a comment that never ends would end at its extent, so there is no extent
    have hopen : IsOpen prev .blockComment (bytes.drop position) := by
      refine ⟨.blockComment, commentOpening, bytes.drop (position + 2), drop_behind_opening h,
        .blockComment, rfl, closingExtent_eq_none_iff.mp ?_⟩
      show commentExtent 0 (bytes.drop (position + 2)) = none
      rw [Option.eq_none_iff_forall_ne_some]
      intro extent hextent
      obtain ⟨comment, hcomment, -⟩ := (extent_at_iff h).mp hextent
      exact hnone ⟨comment, hcomment⟩
    have hlex := lex_of_isOpen hopen
    refine ⟨hlex, ?_⟩
    rw [hlex, errorFrom]
    simp

/-- Delimiters that share bytes: a comment in a comment that is closed right behind it, and one that
is not closed by the slash behind its star. -/
def overlappingDelimiters : List UInt8 :=
  Utf8.encode ":a/*/**/*/*/*/ :b"

theorem counting_overlapping_delimiters :
    commentOpening <+: overlappingDelimiters.drop 2 ∧
      (∃ comment, CommentAt overlappingDelimiters 2 comment ∧ 2 + comment.length = 10) ∧
      commentOpening <+: overlappingDelimiters.drop 11 ∧
      (¬ ∃ comment, CommentAt overlappingDelimiters 11 comment) ∧
      errorFrom 11 (lex (some Byte.star) (overlappingDelimiters.drop 11)) =
        some { what := .blockComment, span := { offset := 11, length := 6 } } := by
  have hclosed : commentOpening <+: overlappingDelimiters.drop 2 := by decide
  have hopen : commentOpening <+: overlappingDelimiters.drop 11 := by decide
  obtain ⟨hextent, -, -, -⟩ := counting_follows_grammar overlappingDelimiters 2 none hclosed
  obtain ⟨-, -, -, herror⟩ :=
    counting_follows_grammar overlappingDelimiters 11 (some Byte.star) hopen
  have hnone : ¬ ∃ comment, CommentAt overlappingDelimiters 11 comment := by
    rintro ⟨comment, hcomment⟩
    obtain ⟨extent, hcount, -⟩ := hcomment.exists_extent hopen
    rw [show commentExtent 0 (overlappingDelimiters.drop (11 + 2)) = none by decide] at hcount
    cases hcount
  obtain ⟨comment, hcomment, hlength⟩ := (hextent 6).mp (by decide)
  exact ⟨hclosed, ⟨comment, hcomment, hlength.symm⟩, hopen, hnone, (herror hnone).2⟩

end NamedSql.Sql
