/-
The texts that permissions are given as.

A mode is written in octal digits, with `0o` in front or nothing.  What is read is one thing
more: a plus sign may stand in front of the digits.

* `SpellsOctal` — octal digits, and the number that they spell;
* `Spells` — a text spells a mode, with a mark in front of its digits;
* `parse?_eq_some_iff` — what is read: digits alone, or behind a plus sign;
* `parse?_padded` — a mode written in octal is read as itself, whatever zeros stand in front;
* `readAsOctal_iff` — texts are read as octal numbers unless they spell a mode behind a plus sign.
-/
import NamedSql.Output.Sink

namespace NamedSql.Files.Mode

/-- Octal digits, at least one, and the number that they spell. -/
structure SpellsOctal (digits : List Char) (n : Nat) : Prop where
  nonempty : digits ≠ []
  octal : ∀ c ∈ digits, '0' ≤ c ∧ c ≤ '7'
  value : Nat.ofDigitChars 8 digits 0 = n

/-- A text spells a mode: `0o` or nothing, a mark, and octal digits of a value that is a mode. -/
def Spells (mark : List Char) (text : String) (mode : Mode) : Prop :=
  ∃ digits, (text.toList = mark ++ digits ∨ text.toList = '0' :: 'o' :: (mark ++ digits)) ∧
    SpellsOctal digits mode ∧ mode ≤ all

/-- A mode in octal digits, with zeros in front. -/
def padded (zeros : Nat) (mode : Mode) : String :=
  String.ofList (List.replicate zeros '0') ++ octal mode

/-- A text is read as an octal number: as the mode that its digits spell, without any mark in
front of them, and if it spells none, it is named in the error. -/
structure ReadAsOctal (text : String) : Prop where
  accepted : ∀ mode, parse? text = some mode ↔ Spells [] text mode
  refused : ∀ out, out ≠ "-" → out ≠ "stdout" → (∀ mode, ¬ Spells [] text mode) →
    Output.Sink.ofOptions out text = .error (.invalidPermissions text)

/-! ### Digits -/

theorem readOctal?_eq_some_iff {high n : Nat} {s : List Char} :
    readOctal? high s = some n ↔
      (∀ c ∈ s, '0' ≤ c ∧ c ≤ '7') ∧ Nat.ofDigitChars 8 s high = n := by
  -- by induction on the digits, whatever the number read before them is
  induction s generalizing high with
  | nil => simp [readOctal?]
  | cons c rest ih =>
    rw [readOctal?, octalDigit?, List.forall_mem_cons, Nat.ofDigitChars_cons]
    by_cases hc : '0' ≤ c ∧ c ≤ '7'
    · rw [if_pos hc]
      dsimp only
      rw [ih, Nat.mul_comm high 8]
      exact ⟨fun h => ⟨⟨hc, h.1⟩, h.2⟩, fun h => ⟨h.1.2, h.2⟩⟩
    · rw [if_neg hc]
      exact iff_of_false (by simp) fun h => hc h.1.1

/-- The digits of a mode, as they are read and kept within bounds. -/
theorem parse?_eq_some_iff_digits {text : String} {mode : Mode} :
    parse? text = some mode ↔
      SpellsOctal (dropPlus (dropBase text.toList)) mode ∧ mode ≤ all := by
  unfold parse?
  generalize dropPlus (dropBase text.toList) = digits
  dsimp only
  -- without digits nothing is read
  by_cases hempty : digits = []
  · rw [hempty]
    exact iff_of_false (by simp) fun h => h.1.nonempty rfl
  rw [if_neg (by simpa using hempty)]
  constructor
  · intro h
    split at h
    · rename_i hread
      obtain ⟨hoctal, hvalue⟩ := readOctal?_eq_some_iff.mp hread
      split at h
      · cases h
        exact ⟨⟨hempty, hoctal, hvalue⟩, ‹_›⟩
      · cases h
    · cases h
  · rintro ⟨hspells, hbound⟩
    rw [readOctal?_eq_some_iff.mpr ⟨hspells.octal, hspells.value⟩]
    exact if_pos hbound

/-! ### What stands in front of the digits -/

section

variable {digits : List Char} {n : Nat}

theorem dropBase_cases (s : List Char) : s = dropBase s ∨ s = '0' :: 'o' :: dropBase s := by
  unfold dropBase
  split
  · exact .inr rfl
  · exact .inl rfl

theorem dropPlus_cases (s : List Char) : s = dropPlus s ∨ s = '+' :: dropPlus s := by
  unfold dropPlus
  split
  · exact .inr rfl
  · exact .inl rfl

/-- The letter of the mark of base eight is no digit, so digits have no such mark in front. -/
theorem SpellsOctal.dropBase_eq (h : SpellsOctal digits n) : dropBase digits = digits := by
  unfold dropBase
  split
  · exact absurd (h.octal 'o' (by simp)) (by decide)
  · rfl

theorem SpellsOctal.dropPlus_eq (h : SpellsOctal digits n) : dropPlus digits = digits := by
  unfold dropPlus
  split
  · exact absurd (h.octal '+' (by simp)) (by decide)
  · rfl

/-- Only digits and the mark of base eight stand in a text that spells a mode without a sign. -/
theorem plus_not_mem_of_spells {text : String} {mode : Mode} (h : Spells [] text mode) :
    '+' ∉ text.toList := by
  obtain ⟨digits, htext, hdigits, -⟩ := h
  have hplus : '+' ∉ digits := fun hmem => absurd (hdigits.octal '+' hmem) (by decide)
  rcases htext with htext | htext
  · rwa [htext]
  · rw [htext]
    simpa using hplus

theorem plus_mem_of_spells {text : String} {mode : Mode} (h : Spells ['+'] text mode) :
    '+' ∈ text.toList := by
  obtain ⟨digits, htext, -, -⟩ := h
  rcases htext with htext | htext
  · rw [htext]
    simp
  · rw [htext]
    simp

end

variable {text : String} {mode : Mode}

/-- What is read: the mark of base eight or nothing, a plus sign or nothing, and digits. -/
theorem parse?_eq_some_iff :
    parse? text = some mode ↔ Spells [] text mode ∨ Spells ['+'] text mode := by
  rw [parse?_eq_some_iff_digits]
  constructor
  · rintro ⟨hspells, hbound⟩
    generalize hdigits : dropPlus (dropBase text.toList) = digits at hspells
    -- the mark of base eight is dropped first, and then the sign
    rcases dropPlus_cases (dropBase text.toList) with hplus | hplus
    · rw [hdigits] at hplus
      refine .inl ⟨digits, ?_, hspells, hbound⟩
      rw [List.nil_append, ← hplus]
      exact dropBase_cases text.toList
    · rw [hdigits] at hplus
      refine .inr ⟨digits, ?_, hspells, hbound⟩
      rw [List.singleton_append, ← hplus]
      exact dropBase_cases text.toList
  · -- digits start with neither of the two, so none of them is dropped
    rintro (⟨digits, htext, hspells, hbound⟩ | ⟨digits, htext, hspells, hbound⟩)
    · refine ⟨?_, hbound⟩
      rcases htext with htext | htext
      · rw [htext, List.nil_append, hspells.dropBase_eq, hspells.dropPlus_eq]
        exact hspells
      · rw [htext, dropBase, List.nil_append, hspells.dropPlus_eq]
        exact hspells
    · refine ⟨?_, hbound⟩
      rcases htext with htext | htext
      · rw [htext]
        exact hspells
      · rw [htext]
        exact hspells

theorem ofOptions_eq_error_iff {out : String} (hdash : out ≠ "-") (hstdout : out ≠ "stdout") :
    Output.Sink.ofOptions out text = .error (.invalidPermissions text) ↔
      ∀ mode, parse? text ≠ some mode := by
  rw [Output.Sink.ofOptions, if_neg (by simp [hdash, hstdout])]
  cases parse? text with
  | none => simp
  | some mode => simp

/-! ### Modes written in octal -/

theorem octal_of_mem_toDigits {n : Nat} {c : Char} (h : c ∈ Nat.toDigits 8 n) :
    '0' ≤ c ∧ c ≤ '7' := by
  -- all digits but the last are those of an eighth of the number
  induction n using Nat.strongRecOn with
  | ind n ih =>
    have hdigit : ∀ digit < 8, '0' ≤ Nat.digitChar digit ∧ Nat.digitChar digit ≤ '7' := by decide
    rw [Nat.toDigits_eq_if (by decide)] at h
    split at h
    · rename_i hlt
      rw [List.mem_singleton.mp h]
      exact hdigit n hlt
    · rcases List.mem_append.mp h with hmem | hmem
      · exact ih (n / 8) (by omega) hmem
      · rw [List.mem_singleton.mp hmem]
        exact hdigit (n % 8) (Nat.mod_lt n (by decide))

theorem spellsOctal_padded (zeros : Nat) (mode : Mode) :
    SpellsOctal (padded zeros mode).toList mode := by
  have hlist : (padded zeros mode).toList = List.replicate zeros '0' ++ Nat.toDigits 8 mode := by
    rw [padded, octal, String.toList_append, String.toList_ofList, String.toList_ofList]
  rw [hlist]
  constructor
  case nonempty => exact List.append_ne_nil_of_right_ne_nil _ Nat.toDigits_ne_nil
  case octal =>
    intro c hc
    rcases List.mem_append.mp hc with hzero | hdigit
    · rw [List.eq_of_mem_replicate hzero]
      decide
    · exact octal_of_mem_toDigits hdigit
  case value =>
    rw [Nat.ofDigitChars_append, Nat.ofDigitChars_replicate_zero, Nat.mul_zero,
      Nat.ofDigitChars_toDigits (by decide) (by decide)]

/-- A mode written in octal is read as itself, whatever zeros stand in front, and with the mark
of base eight in front of them or without. -/
theorem parse?_padded (h : mode ≤ all) (zeros : Nat) :
    parse? (padded zeros mode) = some mode ∧ parse? ("0o" ++ padded zeros mode) = some mode := by
  have hspells := spellsOctal_padded zeros mode
  constructor
  · exact parse?_eq_some_iff.mpr (.inl ⟨_, .inl rfl, hspells, h⟩)
  · refine parse?_eq_some_iff.mpr (.inl ⟨_, .inr ?_, hspells, h⟩)
    rw [String.toList_append]
    rfl

/-- **Texts read as permissions.**  A text is read as an octal number, and otherwise named in the
error, exactly when it does not spell a mode behind a plus sign.  Whatever the text, what is read
is `0o` or nothing, a plus sign or nothing, and octal digits of a value that is a mode; all other
texts are named in the error.  A mode written in octal is read as itself, with any zeros in
front. -/
theorem readAsOctal_iff (text : String) :
    (ReadAsOctal text ↔ ∀ mode, ¬ Spells ['+'] text mode) ∧
    (∀ mode, parse? text = some mode ↔ Spells [] text mode ∨ Spells ['+'] text mode) ∧
    (∀ out, out ≠ "-" → out ≠ "stdout" →
      (Output.Sink.ofOptions out text = .error (.invalidPermissions text) ↔
        ∀ mode, ¬ Spells [] text mode ∧ ¬ Spells ['+'] text mode)) ∧
    ∀ mode ≤ all, ∀ zeros, text = padded zeros mode ∨ text = "0o" ++ padded zeros mode →
      parse? text = some mode := by
  have hrefused {out : String} (hdash : out ≠ "-") (hstdout : out ≠ "stdout") :
      Output.Sink.ofOptions out text = .error (.invalidPermissions text) ↔
        ∀ mode, ¬ Spells [] text mode ∧ ¬ Spells ['+'] text mode := by
    rw [ofOptions_eq_error_iff hdash hstdout]
    refine forall_congr' fun mode => ?_
    rw [Ne, parse?_eq_some_iff, not_or]
  refine ⟨⟨fun hread mode hsigned => ?_, fun hunsigned => ⟨fun mode => ?_, ?_⟩⟩,
    fun mode => parse?_eq_some_iff, fun out => hrefused, fun mode hmode zeros htext => ?_⟩
  · -- a text with a plus sign in it does not spell a mode without one
    have hplain := (hread.accepted mode).mp (parse?_eq_some_iff.mpr (.inr hsigned))
    exact plus_not_mem_of_spells hplain (plus_mem_of_spells hsigned)
  · rw [parse?_eq_some_iff]
    exact or_iff_left (hunsigned mode)
  · intro out hdash hstdout hnone
    exact (hrefused hdash hstdout).mpr fun mode => ⟨hnone mode, hunsigned mode⟩
  · obtain ⟨hplain, hbased⟩ := parse?_padded hmode zeros
    rcases htext with rfl | rfl
    · exact hplain
    · exact hbased

/-- A text with zeros in front is read as an octal number, and one with a value that is no mode
is named in the error. -/
theorem readAsOctal_padded :
    ReadAsOctal "0o00644" ∧ parse? "0o00644" = some 0o644 ∧
      Output.Sink.ofOptions "out.rs" "37777777777644" =
        .error (.invalidPermissions "37777777777644") := by
  obtain ⟨hread, -, -, hpadded⟩ := readAsOctal_iff "0o00644"
  obtain ⟨-, -, hrefused, -⟩ := readAsOctal_iff "37777777777644"
  have hunsigned : ∀ mode, ¬ Spells ['+'] "0o00644" mode := fun mode hsigned =>
    absurd (plus_mem_of_spells hsigned) (by decide)
  have hlarge : ∀ mode, parse? "37777777777644" ≠ some mode := by
    have hnone : parse? "37777777777644" = none := by decide
    simp [hnone]
  refine ⟨hread.mpr hunsigned, hpadded 0o644 (by decide) 2 (.inr (by decide)), ?_⟩
  refine (hrefused "out.rs" (by decide) (by decide)).mpr fun mode => ?_
  exact not_or.mp fun hspells => hlarge mode (parse?_eq_some_iff.mpr hspells)

/-- A plus sign is read over. -/
theorem not_readAsOctal : ¬ ∀ text, ReadAsOctal text := by
  intro hread
  have hparse : parse? "+644" = some 0o644 := by decide
  exact plus_not_mem_of_spells (((hread "+644").accepted 0o644).mp hparse) (by decide)

end NamedSql.Files.Mode
