/-
Texts and their bytes.

A text is encoded character by character. Bytes that spell a text are read back
by `decode?`; bytes that spell none can still be shown, each ill-formed stretch
drawn as one replacement character:

* `encode` — the bytes of a text;
* `decode?` — the text that bytes spell, if they spell one;
* `decode` — the same, with a replacement character for every ill-formed stretch;
* `decode?_encode` — reading what was written gives the text back.
-/

namespace NamedSql.Utf8

/-- The bytes of a text. -/
def encode (s : String) : List UInt8 :=
  s.toList.flatMap String.utf8EncodeChar

/-- The text that the bytes spell, if they are well-formed. -/
def decode? (bytes : List UInt8) : Option String :=
  String.fromUTF8? bytes.toByteArray

/-- What an unfinished character still owes: how many bytes, and the bounds of
the next one. -/
structure Owed where
  count : Nat
  low : UInt8 := 0x80
  high : UInt8 := 0xBF

/-- What a first byte promises. A byte that starts no character promises nothing. -/
def Owed.after (b : UInt8) : Owed :=
  if 0xC2 ≤ b ∧ b ≤ 0xDF then { count := 1 }
  else if b = 0xE0 then { count := 2, low := 0xA0 }
  else if b = 0xED then { count := 2, high := 0x9F }
  else if 0xE1 ≤ b ∧ b ≤ 0xEF then { count := 2 }
  else if b = 0xF0 then { count := 3, low := 0x90 }
  else if 0xF1 ≤ b ∧ b ≤ 0xF3 then { count := 3 }
  else if b = 0xF4 then { count := 3, high := 0x8F }
  else { count := 0 }

/-- Whether the next byte continues the unfinished character. -/
def Owed.accepts (owed : Owed) (b : UInt8) : Bool :=
  decide (0 < owed.count ∧ owed.low ≤ b ∧ b ≤ owed.high)

/-- The bytes cut into whole characters and ill-formed stretches. A stretch is
as long as it could still have become a character. -/
def pieces (current : List UInt8) (owed : Owed) : List UInt8 → List (List UInt8)
  | [] => if current.isEmpty then [] else [current]
  | b :: rest =>
    if owed.accepts b then
      pieces (current ++ [b]) { count := owed.count - 1 } rest
    else
      (if current.isEmpty then [] else [current]) ++ pieces [b] (Owed.after b) rest

/-- The text that the bytes spell, with U+FFFD for every ill-formed stretch. -/
def decode (bytes : List UInt8) : String :=
  match decode? bytes with
  | some s => s
  | none => String.join ((pieces [] { count := 0 } bytes).map fun p => (decode? p).getD "\uFFFD")

theorem encode_eq_toByteArray (s : String) : (encode s).toByteArray = s.toByteArray := by
  rw [← String.utf8Encode_toList]
  rfl

theorem decode?_encode (s : String) : decode? (encode s) = some s := by
  rw [decode?, encode_eq_toByteArray, String.fromUTF8?, dif_pos s.isValidUTF8]
  rfl

theorem decode_encode (s : String) : decode (encode s) = s := by
  simp [decode, decode?_encode]

end NamedSql.Utf8
