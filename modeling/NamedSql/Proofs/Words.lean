/-
The words of names in ASCII letters and digits.

For these names the tables of letters and of letter case hold no surprise: a name is one
piece, its words spell it, and lowered they have only small letters and digits.  So no word
holds an underscore, and the words can be read off the name in snake case.

* `flatten_wordsFrom`, `ne_nil_of_mem_wordsFrom` — the words spell the name, and none is empty;
* `lowerWord_eq` — a word is lowered letter by letter;
* `splitOn_snake` — the words, lowered, stand between the underscores;
* `head?_snake` — the first letter comes first;
* `snake_eq_iff` — one snake case means the same words but for letter case.
-/
import Mathlib
import NamedSql.Proofs.Separators
import NamedSql.Text.Words

namespace NamedSql.Text

/-- The name has at least one character, and only ASCII letters and digits. -/
def IsAsciiName (name : String) : Prop :=
  name ≠ "" ∧ ∀ c ∈ name.toList, c.isAlphanum = true

/-- The words of a name in small letters. -/
def lowerWords (name : String) : List (List Char) :=
  (words name.toList).map lowerWord

/-! ### ASCII in the tables -/

theorem ascii_in_tables : ∀ n < 128, (Char.ofNat n).isAlphanum = true →
    isAlphanumeric (Char.ofNat n) = true ∧ toLower (Char.ofNat n) = [(Char.ofNat n).toLower] ∧
      ((Char.ofNat n).toLower.isLower || (Char.ofNat n).toLower.isDigit) = true := by
  decide +kernel

theorem small_in_tables : isAlphanumeric '_' = false ∧
    ∀ n < 128, (((Char.ofNat n).isLower || (Char.ofNat n).isDigit) = true →
        isUppercase (Char.ofNat n) = false ∧ (Char.ofNat n).toLower = Char.ofNat n) ∧
      ((Char.ofNat n).isLower = true →
        isLowercase (Char.ofNat n) = true ∧ toUpper (Char.ofNat n) = [(Char.ofNat n).toUpper] ∧
          isUppercase (Char.ofNat n).toUpper = true ∧ isLowercase (Char.ofNat n).toUpper = false ∧
            (Char.ofNat n).toUpper.isAlphanum = true ∧
              (Char.ofNat n).toUpper.toLower = Char.ofNat n) := by
  decide +kernel

theorem toNat_lt_of_isAlphanum {c : Char} (h : c.isAlphanum = true) : c.toNat < 128 := by
  simp only [Char.isAlphanum, Char.isAlpha, Char.isUpper, Char.isLower, Char.isDigit,
    Bool.or_eq_true, decide_eq_true_eq, Bool.and_eq_true, UInt32.le_iff_toNat_le, ge_iff_le] at h
  have hupper : 'Z'.val.toNat = 90 := rfl
  have hlower : 'z'.val.toNat = 122 := rfl
  have hdigit : '9'.val.toNat = 57 := rfl
  show c.val.toNat < 128
  omega

section

variable {c : Char}

theorem tables_of_isAlphanum (h : c.isAlphanum = true) :
    isAlphanumeric c = true ∧ toLower c = [c.toLower] ∧
      (c.toLower.isLower || c.toLower.isDigit) = true := by
  have htables := ascii_in_tables c.toNat (toNat_lt_of_isAlphanum h)
  rw [Char.ofNat_toNat] at htables
  exact htables h

theorem ne_underscore_of_small (h : (c.isLower || c.isDigit) = true) : c ≠ '_' := by
  rintro rfl
  exact absurd h (by decide)

end

theorem lowerWord_eq {word : List Char} (h : ∀ c ∈ word, c.isAlphanum = true) :
    lowerWord word = word.map Char.toLower := by
  induction word with
  | nil => rfl
  | cons c rest ih =>
    have hc := h c List.mem_cons_self
    -- the final sigma is the one letter that is not lowered by the table alone
    have hsigma : c ≠ 'Σ' := by
      rintro rfl
      exact absurd hc (by decide)
    rw [lowerWord, if_neg (fun hfinal => hsigma hfinal.1), (tables_of_isAlphanum hc).2.1,
      ih fun d hd => h d (List.mem_cons_of_mem c hd)]
    rfl

/-! ### Words -/

theorem flatten_consFirst (c : Char) (pieces : List (List Char)) :
    (consFirst c pieces).flatten = c :: pieces.flatten := by
  cases pieces <;> rfl

theorem tail_consFirst (c : Char) (pieces : List (List Char)) :
    (consFirst c pieces).tail = pieces.tail := by
  cases pieces <;> rfl

theorem ne_nil_of_mem_consFirst {c : Char} {pieces : List (List Char)} {piece : List Char}
    (htail : ∀ other ∈ pieces.tail, other ≠ []) (h : piece ∈ consFirst c pieces) :
    piece ≠ [] := by
  cases pieces with
  | nil =>
    rw [List.mem_singleton.mp h]
    exact List.cons_ne_nil c []
  | cons first rest =>
    rcases List.mem_cons.mp h with rfl | hrest
    · exact List.cons_ne_nil c first
    · exact htail piece hrest

theorem flatten_wordsFrom (mode : WordCase) (s : List Char) : (wordsFrom mode s).flatten = s := by
  fun_induction wordsFrom mode s with
  | case1 => rfl
  | case2 => rfl
  | case3 mode c next rest _ ih => rw [List.flatten_cons, ih]; rfl
  | case4 mode c next rest _ _ ih => rw [List.flatten_cons, flatten_consFirst, ih]; rfl
  | case5 mode c next rest _ _ ih => rw [flatten_consFirst, ih]

/-- Only in the middle of capitals can the word at hand end before the next character; words
behind it are never empty. -/
theorem wordsFrom_ne_nil (mode : WordCase) (s : List Char) :
    (∀ word ∈ (wordsFrom mode s).tail, word ≠ []) ∧
      (mode ≠ .upper → ∀ word ∈ wordsFrom mode s, word ≠ []) := by
  -- only a run of capitals can lose its last letter to the next word, so only there the first may
  -- be empty
  fun_induction wordsFrom mode s with
  | case1 => simp
  | case2 => simp
  | case3 mode c next rest _ ih =>
    have hrest := ih.2 (by decide)
    refine ⟨hrest, fun _ word hword => ?_⟩
    rcases List.mem_cons.mp hword with rfl | hmem
    · exact List.cons_ne_nil c []
    · exact hrest word hmem
  | case4 mode c next rest _ hcapital ih =>
    exact ⟨fun word hword => ne_nil_of_mem_consFirst ih.1 hword,
      fun hmode => absurd hcapital.1 hmode⟩
  | case5 mode c next rest _ _ ih =>
    refine ⟨fun word hword => ?_, fun _ word hword => ne_nil_of_mem_consFirst ih.1 hword⟩
    rw [tail_consFirst] at hword
    exact ih.1 word hword

theorem ne_nil_of_mem_wordsFrom {s word : List Char} (h : word ∈ wordsFrom .boundary s) :
    word ≠ [] :=
  (wordsFrom_ne_nil .boundary s).2 (by decide) word h

theorem alphanumericPieces_eq {s : List Char} (h : ∀ c ∈ s, c.isAlphanum = true) :
    alphanumericPieces s = [s] := by
  induction s with
  | nil => rfl
  | cons c rest ih =>
    rw [alphanumericPieces, if_pos (tables_of_isAlphanum (h c List.mem_cons_self)).1,
      ih fun d hd => h d (List.mem_cons_of_mem c hd)]
    rfl

section

variable {name : String}

theorem IsAsciiName.words_eq (h : IsAsciiName name) :
    words name.toList = wordsFrom .boundary name.toList := by
  rw [words, alphanumericPieces_eq h.2]
  exact List.append_nil _

theorem IsAsciiName.words_ne_nil (h : IsAsciiName name) : words name.toList ≠ [] := by
  intro hnil
  have hflatten := flatten_wordsFrom .boundary name.toList
  rw [← h.words_eq, hnil] at hflatten
  exact h.1 (String.toList_eq_nil_iff.mp hflatten.symm)

theorem IsAsciiName.isAlphanum_of_mem_words (h : IsAsciiName name) {word : List Char}
    (hword : word ∈ words name.toList) {c : Char} (hc : c ∈ word) : c.isAlphanum = true := by
  refine h.2 c ?_
  rw [h.words_eq] at hword
  rw [← flatten_wordsFrom .boundary name.toList]
  exact List.mem_flatten.mpr ⟨word, hword, hc⟩

/-- The lowered words are not empty, and have only small letters and digits. -/
theorem IsAsciiName.lowerWords_small (h : IsAsciiName name) {word : List Char}
    (hword : word ∈ lowerWords name) :
    word ≠ [] ∧ ∀ c ∈ word, (c.isLower || c.isDigit) = true := by
  obtain ⟨cased, hcased, rfl⟩ := List.mem_map.mp hword
  have halphanum : ∀ c ∈ cased, c.isAlphanum = true := fun c hc =>
    h.isAlphanum_of_mem_words hcased hc
  rw [lowerWord_eq halphanum]
  constructor
  · rw [h.words_eq] at hcased
    exact fun hnil => ne_nil_of_mem_wordsFrom hcased (List.map_eq_nil_iff.mp hnil)
  · intro c hc
    obtain ⟨d, hd, rfl⟩ := List.mem_map.mp hc
    exact (tables_of_isAlphanum (halphanum d hd)).2.2

theorem IsAsciiName.lowerWords_ne_nil (h : IsAsciiName name) : lowerWords name ≠ [] := fun hnil =>
  h.words_ne_nil (List.map_eq_nil_iff.mp hnil)

/-! ### Snake case -/

theorem toList_snake (name : String) :
    (snake name).toList = ['_'].intercalate (lowerWords name) := by
  rw [snake, String.toList_ofList, lowerWords]

/-- The lowered words stand between the underscores. -/
theorem IsAsciiName.splitOn_snake (h : IsAsciiName name) :
    (snake name).toList.splitOn '_' = lowerWords name := by
  rw [toList_snake]
  refine List.splitOn_intercalate '_' (fun word hword hmem => ?_) h.lowerWords_ne_nil
  exact ne_underscore_of_small ((h.lowerWords_small hword).2 '_' hmem) rfl

/-- A name in snake case has only small letters, digits and underscores. -/
theorem IsAsciiName.of_mem_snake (h : IsAsciiName name) {c : Char}
    (hc : c ∈ (snake name).toList) : (c.isLower || c.isDigit) = true ∨ c = '_' := by
  rw [toList_snake] at hc
  rcases mem_intercalate hc with hseparator | ⟨word, hword, hmem⟩
  · exact .inr (List.mem_singleton.mp hseparator)
  · exact .inl ((h.lowerWords_small hword).2 c hmem)

/-- A name in snake case starts with the first letter of the name, in its small form. -/
theorem IsAsciiName.head?_snake (h : IsAsciiName name) :
    (snake name).toList.head? = name.toList.head?.map Char.toLower := by
  have hflatten := flatten_wordsFrom .boundary name.toList
  rw [← h.words_eq] at hflatten
  -- no underscore stands in front of the first word
  cases hwords : words name.toList with
  | nil => exact absurd hwords h.words_ne_nil
  | cons first rest =>
    have hfirst : first ∈ words name.toList := by
      rw [hwords]
      exact List.mem_cons_self
    cases first with
    | nil =>
      rw [h.words_eq] at hfirst
      exact absurd rfl (ne_nil_of_mem_wordsFrom hfirst)
    | cons c letters =>
      have hlower := lowerWord_eq fun d hd => h.isAlphanum_of_mem_words hfirst hd
      rw [hwords, List.flatten_cons, List.cons_append] at hflatten
      rw [toList_snake, lowerWords, hwords, List.map_cons, hlower, ← hflatten]
      cases rest.map lowerWord <;> rfl

end

theorem snake_eq_iff {name other : String} (h : IsAsciiName name) (hother : IsAsciiName other) :
    snake name = snake other ↔ lowerWords name = lowerWords other := by
  constructor
  · intro heq
    rw [← h.splitOn_snake, heq, hother.splitOn_snake]
  · intro heq
    rw [← String.toList_inj, toList_snake, toList_snake, heq]

end NamedSql.Text
