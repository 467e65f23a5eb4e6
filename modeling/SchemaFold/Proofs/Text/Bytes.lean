import Mathlib.Data.String.Basic
import SchemaFold.Path.Scan
/-!
Which characters the bytes of a text stand for.

* `Text.byte?_eq_some_iff`: the byte of an ASCII character stands for nothing else;
* `Text.isValid_of_eq_append`, `Text.slice?_of_eq_append`: the bytes between characters, and what is
  cut out at them;
* `Text.exists_eq_append_of_utf8Len_le`: of two beginnings of a text, the one with more bytes goes
  on where the other stops.
-/

namespace SchemaFold.Text

open String (utf8EncodeChar utf8Len)

variable {s : String} {cs before piece after : List Char} {mark : Char} {i : Nat}

/-! ### Bytes -/

/-- The bytes of a text are those of its characters. -/
theorem byte?_eq (s : String) (i : Nat) : byte? s i = (s.toList.flatMap utf8EncodeChar)[i]? := by
  have hbytes : s.toByteArray = (s.toList.flatMap utf8EncodeChar).toByteArray := by
    rw [← List.utf8Encode.eq_1, ← String.toByteArray_ofList, String.ofList_toList]
  rw [byte?, hbytes]
  by_cases hi : i < (s.toList.flatMap utf8EncodeChar).length
  · rw [getElem?_pos _ i (by simpa using hi), getElem?_pos _ i hi, List.getElem_toByteArray]
  · rw [getElem?_neg _ i (by simpa using hi), getElem?_neg _ i hi]

/-- There is a byte for every number below the size of a text. -/
theorem exists_byte?_eq_some (h : i < s.utf8ByteSize) : ∃ byte, byte? s i = some byte := by
  have hsize : i < s.toByteArray.size := by rwa [String.size_toByteArray]
  exact ⟨s.toByteArray[i], getElem?_pos _ i hsize⟩

/-- A character of ASCII has one byte, its number. -/
theorem utf8EncodeChar_of_lt {c : Char} (h : c.toNat < 128) :
    utf8EncodeChar c = [UInt8.ofNat c.toNat] := by
  rw [utf8EncodeChar.eq_def]
  exact if_pos (Nat.le_of_lt_succ h)

/-- All bytes of other characters are above those of ASCII. -/
theorem le_of_mem_utf8EncodeChar {c : Char} (h : 128 ≤ c.toNat) :
    ∀ byte ∈ utf8EncodeChar c, 128 ≤ byte.toNat := by
  have hnot : ¬ c.val.toNat ≤ 127 := Nat.not_le.mpr h
  intro byte hbyte
  rw [utf8EncodeChar.eq_def] at hbyte
  simp only [if_neg hnot] at hbyte
  split at hbyte
  · simp only [List.mem_cons, List.not_mem_nil, or_false] at hbyte
    rcases hbyte with rfl | rfl <;> rw [UInt8.toNat_ofNat'] <;> omega
  · split at hbyte
    · simp only [List.mem_cons, List.not_mem_nil, or_false] at hbyte
      rcases hbyte with rfl | rfl | rfl <;> rw [UInt8.toNat_ofNat'] <;> omega
    · simp only [List.mem_cons, List.not_mem_nil, or_false] at hbyte
      rcases hbyte with rfl | rfl | rfl | rfl <;> rw [UInt8.toNat_ofNat'] <;> omega

/-- The byte of a character of ASCII is in the encoding of no other one. -/
theorem eq_of_getElem?_utf8EncodeChar {c : Char} (hmark : mark.toNat < 128)
    (h : (utf8EncodeChar c)[i]? = some (UInt8.ofNat mark.toNat)) : c = mark ∧ i = 0 := by
  have hbyte : (UInt8.ofNat mark.toNat).toNat = mark.toNat := by
    rw [UInt8.toNat_ofNat']
    omega
  by_cases hc : c.toNat < 128
  · rw [utf8EncodeChar_of_lt hc] at h
    obtain rfl : i = 0 := by
      have hi := (List.getElem?_eq_some_iff.mp h).1
      simpa using hi
    have heq := congrArg UInt8.toNat (Option.some.inj h)
    rw [hbyte, UInt8.toNat_ofNat'] at heq
    exact ⟨Char.toNat_inj.mp (by omega), rfl⟩
  · have hle := le_of_mem_utf8EncodeChar (Nat.not_lt.mp hc) _ (List.mem_of_getElem? h)
    omega

theorem exists_eq_of_getElem?_flatMap (hmark : mark.toNat < 128)
    (h : (cs.flatMap utf8EncodeChar)[i]? = some (UInt8.ofNat mark.toNat)) :
    ∃ before after, cs = before ++ mark :: after ∧ i = utf8Len before := by
  induction cs generalizing i with
  | nil => simp at h
  | cons c cs ih =>
    rw [List.flatMap_cons, List.getElem?_append, String.length_utf8EncodeChar] at h
    split at h
    · obtain ⟨rfl, rfl⟩ := eq_of_getElem?_utf8EncodeChar hmark h
      exact ⟨[], cs, rfl, rfl⟩
    · obtain ⟨before, after, rfl, hi⟩ := ih h
      refine ⟨c :: before, after, rfl, ?_⟩
      rw [String.utf8Len_cons]
      omega

theorem size_utf8Encode (cs : List Char) : cs.utf8Encode.size = utf8Len cs := by
  rw [← String.toByteArray_ofList, String.size_toByteArray, String.utf8ByteSize_ofList]

theorem length_flatMap_utf8EncodeChar (cs : List Char) :
    (cs.flatMap utf8EncodeChar).length = utf8Len cs := by
  rw [← size_utf8Encode, List.utf8Encode.eq_1, List.size_toByteArray]

/-- **The byte of a character of ASCII stands for that character and for nothing else.** -/
theorem byte?_eq_some_iff (mark : Char) (hmark : mark.toNat < 128) :
    byte? s i = some (UInt8.ofNat mark.toNat) ↔
      ∃ before after, s.toList = before ++ mark :: after ∧ i = utf8Len before := by
  rw [byte?_eq]
  constructor
  · exact exists_eq_of_getElem?_flatMap hmark
  · rintro ⟨before, after, hs, rfl⟩
    rw [hs, List.flatMap_append, List.flatMap_cons, utf8EncodeChar_of_lt hmark,
      ← length_flatMap_utf8EncodeChar, List.getElem?_append_right (Nat.le_refl _), Nat.sub_self]
    rfl

/-! ### Between characters -/

/-- The byte after some characters of a text is where a character can be cut off. -/
theorem isValid_of_eq_append (h : s.toList = before ++ after) :
    String.Pos.Raw.IsValid s ⟨utf8Len before⟩ := by
  refine String.Pos.Raw.isValid_iff_exists_append.mpr
    ⟨String.ofList before, String.ofList after, ?_, ?_⟩
  · rw [← String.ofList_append, ← h, String.ofList_toList]
  · rw [String.rawEndPos, String.utf8ByteSize_ofList]

/-- **What is cut out between characters are the characters there.** -/
theorem slice?_of_eq_append (h : s.toList = before ++ piece ++ after) :
    slice? s (utf8Len before) (utf8Len before + utf8Len piece) = some (String.ofList piece) := by
  have hfirst : String.Pos.Raw.IsValid s ⟨utf8Len before⟩ :=
    isValid_of_eq_append (by rw [h, List.append_assoc])
  have hlast : String.Pos.Raw.IsValid s ⟨utf8Len before + utf8Len piece⟩ := by
    rw [← String.utf8Len_append]
    exact isValid_of_eq_append h
  have hbytes : s.toByteArray = before.utf8Encode ++ (piece.utf8Encode ++ after.utf8Encode) := by
    rw [← List.utf8Encode_append, ← List.utf8Encode_append, ← List.append_assoc, ← h,
      ← String.toByteArray_ofList, String.ofList_toList]
  have hcut : s.toByteArray.extract (utf8Len before + 0) (utf8Len before + utf8Len piece) =
      piece.utf8Encode := by
    rw [hbytes, ByteArray.extract_append_size_add' (size_utf8Encode before).symm,
      ByteArray.extract_append_eq_left (size_utf8Encode piece).symm]
  rw [slice?, dif_pos ⟨Nat.le_add_right _ _, hfirst, hlast⟩, Option.some_inj,
    ← String.toByteArray_inj, String.toByteArray_extract, String.toByteArray_ofList]
  exact hcut

/-- Of two beginnings of a text, the one with more bytes goes on where the other stops. -/
theorem exists_eq_append_of_utf8Len_le {before' after' : List Char}
    (h : before ++ after = before' ++ after') (hle : utf8Len before ≤ utf8Len before') :
    ∃ piece, before' = before ++ piece ∧ after = piece ++ after' := by
  rcases List.append_eq_append_iff.mp h with ⟨piece, hpiece⟩ | ⟨piece, hbefore, hafter⟩
  · exact ⟨piece, hpiece⟩
  · -- what the first one has more has no bytes
    have hempty : utf8Len piece = 0 := by
      rw [hbefore, String.utf8Len_append] at hle
      omega
    obtain rfl := String.utf8Len_eq_zero.mp hempty
    exact ⟨[], by simp [hbefore], by simp [hafter]⟩

end SchemaFold.Text
