/-
Where the bytes of a text may be cut and what may be put between them.

* `IsText` — bytes that spell a text; `decode` reads those without loss;
* `isText_of_ascii` — ASCII bytes always spell a text;
* `IsText.cut` — on both sides of an ASCII byte, the bytes of a text spell texts.
-/
import NamedSql.Text.Utf8

namespace NamedSql.Utf8

/-- The bytes spell a text. -/
def IsText (bytes : List UInt8) : Prop :=
  ∃ s, encode s = bytes

theorem isText_encode (s : String) : IsText (encode s) :=
  ⟨s, rfl⟩

theorem encode_decode {bytes : List UInt8} (h : IsText bytes) : encode (decode bytes) = bytes := by
  obtain ⟨s, rfl⟩ := h
  rw [decode_encode]

theorem encode_injective {s t : String} (h : encode s = encode t) : s = t := by
  rw [← decode_encode s, h, decode_encode]

theorem decode?_eq_some_iff {bytes : List UInt8} {s : String} :
    decode? bytes = some s ↔ encode s = bytes := by
  constructor
  · intro h
    rw [decode?, String.fromUTF8?] at h
    split at h
    · cases h
      exact List.toByteArray_inj.mp (encode_eq_toByteArray _)
    · cases h
  · rintro rfl
    exact decode?_encode s

instance : DecidablePred IsText := fun bytes =>
  decidable_of_iff ((decode? bytes).isSome = true) (by
    rw [Option.isSome_iff_exists]
    exact exists_congr fun s => decode?_eq_some_iff)

@[simp] theorem encode_append (s t : String) : encode (s ++ t) = encode s ++ encode t := by
  simp [encode]

theorem isText_iff {bytes : List UInt8} :
    IsText bytes ↔ ∃ chars : List Char, chars.flatMap String.utf8EncodeChar = bytes := by
  constructor
  · rintro ⟨s, rfl⟩
    exact ⟨s.toList, rfl⟩
  · rintro ⟨chars, rfl⟩
    exact ⟨String.ofList chars, by simp [encode]⟩

theorem IsText.append {a b : List UInt8} (ha : IsText a) (hb : IsText b) : IsText (a ++ b) := by
  obtain ⟨s, rfl⟩ := ha
  obtain ⟨t, rfl⟩ := hb
  exact ⟨s ++ t, encode_append s t⟩

/-- A character is one ASCII byte, or has no ASCII byte in it. -/
theorem utf8EncodeChar_cases (c : Char) :
    (∃ b, String.utf8EncodeChar c = [b]) ∨ ∀ b ∈ String.utf8EncodeChar c, ¬ b < 0x80 := by
  unfold String.utf8EncodeChar
  dsimp only
  split
  · exact .inl ⟨_, rfl⟩
  -- all bytes of a longer encoding have their highest bit set
  refine .inr fun b hb => ?_
  rw [UInt8.lt_iff_toNat_lt, show (0x80 : UInt8).toNat = 128 from rfl]
  split at hb
  · simp only [List.mem_cons, List.not_mem_nil, or_false] at hb
    rcases hb with rfl | rfl <;> simp only [UInt8.toNat_ofNat'] <;> omega
  split at hb
  · simp only [List.mem_cons, List.not_mem_nil, or_false] at hb
    rcases hb with rfl | rfl | rfl <;> simp only [UInt8.toNat_ofNat'] <;> omega
  · simp only [List.mem_cons, List.not_mem_nil, or_false] at hb
    rcases hb with rfl | rfl | rfl | rfl <;> simp only [UInt8.toNat_ofNat'] <;> omega

theorem utf8EncodeChar_ofNat {b : UInt8} (hb : b < 0x80) :
    String.utf8EncodeChar (Char.ofNat b.toNat) = [b] := by
  have hlt : b.toNat < 128 := UInt8.lt_iff_toNat_lt.mp hb
  have hval : (Char.ofNat b.toNat).val.toNat = b.toNat := by
    have hvalid : b.toNat.isValidChar := .inl (by omega)
    rw [Char.ofNat, dif_pos hvalid]
    rfl
  rw [String.utf8EncodeChar]
  simp only [hval]
  rw [if_pos (by omega)]
  simp

theorem isText_of_ascii {bytes : List UInt8} (h : ∀ b ∈ bytes, b < 0x80) : IsText bytes := by
  refine isText_iff.mpr ⟨bytes.map fun b => Char.ofNat b.toNat, ?_⟩
  -- each byte is the encoding of the character with its number
  rw [List.flatMap_map]
  induction bytes with
  | nil => rfl
  | cons b bytes ih =>
    rw [List.flatMap_cons, utf8EncodeChar_ofNat (h b (by simp)),
      ih fun c hc => h c (List.mem_cons_of_mem b hc)]
    rfl

theorem IsText.cut {before behind : List UInt8} {b : UInt8} (h : IsText (before ++ b :: behind))
    (hb : b < 0x80) : IsText before ∧ IsText behind := by
  obtain ⟨chars, hchars⟩ := isText_iff.mp h
  clear h
  induction chars generalizing before with
  | nil => simp at hchars
  | cons c chars ih =>
    rw [List.flatMap_cons, List.append_eq_append_iff] at hchars
    have hc : IsText (String.utf8EncodeChar c) := isText_iff.mpr ⟨[c], by simp⟩
    -- the cut comes behind the first character, or in it
    rcases hchars with ⟨before', rfl, hrest⟩ | ⟨tail, htail, hrest⟩
    · obtain ⟨hbefore, hbehind⟩ := ih hrest
      exact ⟨hc.append hbefore, hbehind⟩
    cases tail with
    | nil =>
      rw [List.append_nil] at htail
      obtain ⟨-, hbehind⟩ := @ih [] hrest.symm
      exact ⟨htail ▸ hc, hbehind⟩
    | cons d tail =>
      -- The byte is one of this character, which is therefore nothing else.
      obtain ⟨rfl, rfl⟩ := List.cons.inj hrest
      rcases utf8EncodeChar_cases c with ⟨e, he⟩ | hascii
      · rw [he] at htail
        cases before with
        | nil =>
          obtain ⟨-, rfl⟩ := List.cons.inj htail
          exact ⟨isText_of_ascii (by simp), isText_iff.mpr ⟨chars, by simp⟩⟩
        | cons => simp at htail
      · exact absurd hb (hascii b (by simp [htail]))

end NamedSql.Utf8
