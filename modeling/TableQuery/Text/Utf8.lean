/-!
Texts as UTF-8 bytes.

Reading bytes as a text either succeeds or tells how many of them are well-formed
characters before the first that are not.
-/

namespace TableQuery.Text

/-- The UTF-8 bytes of a text. -/
def toBytes (text : String) : List UInt8 :=
  text.toUTF8.data.toList

/-- The place of the first bytes from a place on that are no character; `steps`
bounds the characters looked at. -/
def firstInvalid (bytes : ByteArray) : (steps place : Nat) → Nat
  | 0, place => place
  | steps + 1, place =>
    match bytes.utf8DecodeChar? place with
    | some c => firstInvalid bytes steps (place + c.utf8Size)
    | none => place

/-- The text of some bytes, or the number of bytes before the first that are no
character. -/
def ofBytes (bytes : List UInt8) : Except Nat String :=
  let bytes := ByteArray.mk bytes.toArray
  match String.fromUTF8? bytes with
  | some text => .ok text
  | none => .error (firstInvalid bytes bytes.size 0)

/-- The bytes of a text are read as that text. -/
theorem ofBytes_toBytes (text : String) : ofBytes (toBytes text) = .ok text := by
  have same : ByteArray.mk (toBytes text).toArray = text.toByteArray := by
    rw [toBytes, Array.toArray_toList]
    rfl
  have valid : String.fromUTF8? text.toByteArray = some text := by
    rw [String.fromUTF8?, dif_pos text.isValidUTF8]
    rfl
  rw [ofBytes, same, valid]

/-- Bytes that are read as a text are those of the text. -/
theorem toBytes_of_ofBytes {bytes : List UInt8} {text : String}
    (read : ofBytes bytes = .ok text) : toBytes text = bytes := by
  unfold ofBytes at read
  dsimp only at read
  split at read
  · rename_i valid
    unfold String.fromUTF8? at valid
    cases read
    split at valid <;> cases valid
    rfl
  · cases read

end TableQuery.Text
