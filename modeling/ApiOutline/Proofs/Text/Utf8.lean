import ApiOutline.Text.Utf8

/-!
# The symbols of UTF-8 texts

The bytes of a text are read as the characters of the text: at each character's first byte, that character is
decoded, and reading goes on behind its last one.

* `symbolsFrom_utf8Encode_append`: reading on, inside a text.
* `symbolsOfBytes_toUTF8`: the main statement.
-/

namespace ApiOutline.Text

/-- At the first byte of a character that character is decoded, whatever stands around it. -/
theorem utf8DecodeChar?_utf8Encode_append (before rest : List Char) (c : Char) :
    (before ++ c :: rest).utf8Encode.utf8DecodeChar? before.utf8Encode.size = some c := by
  have hextract : ((before ++ c :: rest).utf8Encode.extract before.utf8Encode.size
      (before ++ c :: rest).utf8Encode.size) = (c :: rest).utf8Encode := by
    rw [List.utf8Encode_append]
    exact ByteArray.extract_append_eq_right rfl ByteArray.size_append
  rw [ByteArray.utf8DecodeChar?_eq_utf8DecodeChar?_extract, hextract, List.utf8Encode_cons,
    List.utf8Encode_singleton, ByteArray.utf8DecodeChar?_utf8EncodeChar_append]

theorem size_utf8Encode_concat (cs : List Char) (c : Char) :
    (cs ++ [c]).utf8Encode.size = cs.utf8Encode.size + c.utf8Size := by
  rw [List.utf8Encode_append, ByteArray.size_append, List.utf8Encode_singleton, List.size_toByteArray,
    String.length_utf8EncodeChar]

/-- Reading on behind the characters `before`. -/
theorem symbolsFrom_utf8Encode_append (before rest : List Char) :
    symbolsFrom (before ++ rest).utf8Encode before.utf8Encode.size = rest.map some := by
  induction rest generalizing before with
  | nil =>
    rw [List.append_nil, symbolsFrom, if_neg (Nat.lt_irrefl _), List.map_nil]
  | cons c rest ih =>
    have hnext : before ++ c :: rest = (before ++ [c]) ++ rest := by simp
    have hsize : before.utf8Encode.size < (before ++ c :: rest).utf8Encode.size := by
      have hwidth := c.utf8Size_pos
      rw [hnext, List.utf8Encode_append, ByteArray.size_append, size_utf8Encode_concat]
      omega
    rw [symbolsFrom, if_pos hsize, utf8DecodeChar?_utf8Encode_append]
    simp only [List.map_cons]
    rw [hnext, ← size_utf8Encode_concat, ih]

/-- **The bytes of a text are read as its characters.** -/
theorem symbolsOfBytes_toUTF8 (s : String) : symbolsOfBytes s.toUTF8 = symbolsOfText s := by
  have h := symbolsFrom_utf8Encode_append [] s.toList
  rwa [List.nil_append, List.utf8Encode_nil, String.utf8Encode_toList, ← String.toUTF8_eq_toByteArray] at h

/-- The bytes of a text are read as this text. -/
theorem textOfBytes_toUTF8 (s : String) : textOfBytes s.toUTF8 = s := by
  rw [textOfBytes, symbolsOfBytes_toUTF8, symbolsOfText, List.map_map]
  show String.ofList (s.toList.map id) = s
  rw [List.map_id, String.ofList_toList]

end ApiOutline.Text
