import EventRules.Url.Path

/-!
# Segment — an encoded text stands for the text

What is written for a text is read back as the text, whatever characters it is made of.  An encoded
text has only characters that are kept, percent signs and hexadecimal digits.

* `Percent.decode?_encode` — encoding and decoding;
* `Percent.mem_encode` — the characters of an encoded text;
* `Path.decode?_of_isOneDot`, `Path.decode?_of_isTwoDots` — what is taken for dots stands for dots.
-/

namespace EventRules
namespace Percent

/-! ## Hexadecimal digits -/

theorem hexValue?_hexDigit : ∀ n < 16, hexValue? (hexDigit n) = some n := by
  decide

/-! ## Bytes -/

/-- A percent sign with two hexadecimal digits is one byte. -/
theorem bytes_of_hex {a b : Char} {high low : Nat} (first : hexValue? a = some high)
    (second : hexValue? b = some low) (rest : List Char) :
    bytes ('%' :: a :: b :: rest) = UInt8.ofNat (16 * high + low) :: bytes rest := by
  simp only [bytes, first, second]

theorem bytes_byte_append (b : UInt8) (rest : List Char) :
    bytes (byte b ++ rest) = b :: bytes rest := by
  have bound : b.toNat < 256 := b.toNat_lt
  have high := hexValue?_hexDigit (b.toNat / 16) (by omega)
  have low := hexValue?_hexDigit (b.toNat % 16) (by omega)
  have digits : 16 * (b.toNat / 16) + b.toNat % 16 = b.toNat := by omega
  simp only [byte, List.cons_append, List.nil_append]
  rw [bytes_of_hex high low, digits, UInt8.ofNat_toNat]

theorem bytes_flatMap_byte_append (bs : List UInt8) (rest : List Char) :
    bytes (bs.flatMap byte ++ rest) = bs ++ bytes rest := by
  induction bs with
  | nil =>
      rfl
  | cons b bs ih =>
      rw [List.flatMap_cons, List.append_assoc, bytes_byte_append, ih, List.cons_append]

theorem bytes_cons_of_ne {c : Char} (plain : c ≠ '%') (rest : List Char) :
    bytes (c :: rest) = String.utf8EncodeChar c ++ bytes rest := by
  rw [bytes]
  intro a b tail same
  exact absurd same plain

theorem encode_cons (set : Char → Bool) (c : Char) (cs : List Char) :
    encode set (c :: cs) = (if set c then encodeChar c else [c]) ++ encode set cs :=
  List.flatMap_cons

/-- The bytes of an encoded text are those of the text; the percent sign itself must be encoded. -/
theorem bytes_encode {set : Char → Bool} (mark : set '%' = true) (cs : List Char) :
    bytes (encode set cs) = cs.flatMap String.utf8EncodeChar := by
  induction cs with
  | nil =>
      rfl
  | cons c cs ih =>
      rw [encode_cons, List.flatMap_cons, ← ih]
      by_cases encoded : set c
      · rw [if_pos encoded, encodeChar, bytes_flatMap_byte_append]
      -- what is kept is no percent sign, so nothing behind it is read as an escape
      · have plain : c ≠ '%' := by
          rintro rfl
          exact encoded mark
        rw [if_neg encoded, List.singleton_append, bytes_cons_of_ne plain]

/-! ## Texts -/

theorem decode?_of_bytes {written cs : List Char}
    (h : bytes written = cs.flatMap String.utf8EncodeChar) : decode? written = some cs := by
  -- the bytes are those of a text, so they are valid, and they are those of one text only
  have data : (⟨(bytes written).toArray⟩ : ByteArray) = (String.ofList cs).toByteArray := by
    rw [String.toByteArray_ofList, List.utf8Encode, ← h]
    exact ByteArray.ext List.data_toByteArray.symm
  have valid : ByteArray.IsValidUTF8 ⟨(bytes written).toArray⟩ :=
    data ▸ (String.ofList cs).isValidUTF8
  have text : String.fromUTF8 ⟨(bytes written).toArray⟩ valid = String.ofList cs :=
    String.toByteArray_inj.1 data
  rw [decode?, String.fromUTF8?, dif_pos valid, text, Option.map_some, String.toList_ofList]

theorem decode?_encode {set : Char → Bool} (mark : set '%' = true) (cs : List Char) :
    decode? (encode set cs) = some cs :=
  decode?_of_bytes (bytes_encode mark cs)

/-! ## Characters -/

theorem mem_encode {set : Char → Bool} {cs : List Char} {c : Char} (h : c ∈ encode set cs) :
    set c = false ∨ c = '%' ∨ ∃ n < 16, c = hexDigit n := by
  obtain ⟨own, -, hc⟩ := List.mem_flatMap.1 h
  by_cases encoded : set own
  · rw [if_pos encoded, encodeChar] at hc
    obtain ⟨b, -, hb⟩ := List.mem_flatMap.1 hc
    have bound : b.toNat < 256 := b.toNat_lt
    simp only [byte, List.mem_cons, List.not_mem_nil, or_false] at hb
    rcases hb with mark | high | low
    · exact .inr (.inl mark)
    · exact .inr (.inr ⟨b.toNat / 16, by omega, high⟩)
    · exact .inr (.inr ⟨b.toNat % 16, by omega, low⟩)
  · rw [if_neg encoded, List.mem_singleton] at hc
    subst hc
    exact .inl (by simpa using encoded)

/-- No character of a text is left out. -/
theorem length_le_encode (set : Char → Bool) (cs : List Char) :
    cs.length ≤ (encode set cs).length := by
  induction cs with
  | nil =>
      exact Nat.le_refl 0
  | cons c cs ih =>
      have own : 0 < (if set c then encodeChar c else [c]).length := by
        split
        · obtain ⟨first, rest, bytes⟩ := List.exists_cons_of_length_pos
            (String.length_utf8EncodeChar c ▸ c.utf8Size_pos)
          rw [encodeChar, bytes, List.flatMap_cons]
          exact Nat.succ_pos _
        · exact Nat.one_pos
      rw [encode_cons, List.length_append, List.length_cons]
      omega

end Percent

namespace Path

/-! ## Dots -/

theorem toLower_eq_or (c : Char) :
    c.toLower = c ∨ c.toNat + 32 = c.toLower.toNat ∧ 97 ≤ c.toLower.toNat := by
  by_cases upper : c.val ≥ 'A'.val ∧ c.val ≤ 'Z'.val
  · have low : 65 ≤ c.val.toNat := UInt32.le_iff_toNat_le.1 upper.1
    have high : c.val.toNat ≤ 90 := UInt32.le_iff_toNat_le.1 upper.2
    have shifted : c.toLower.val.toNat = (c.val.toNat + 32) % 2 ^ 32 := by
      unfold Char.toLower
      rw [dif_pos upper]
      exact UInt32.toNat_add c.val 32
    have below : (c.val.toNat + 32) % 2 ^ 32 = c.val.toNat + 32 := Nat.mod_eq_of_lt (by omega)
    exact .inr ⟨(shifted.trans below).symm, by
      show 97 ≤ c.toLower.val.toNat
      omega⟩
  · exact .inl (dif_neg upper)

/-- What lies below the small letters is no changed letter. -/
theorem eq_of_toLower_eq {c own : Char} (h : c.toLower = own) (below : own.toNat < 97) :
    c = own := by
  rcases toLower_eq_or c with same | ⟨-, above⟩
  · exact same.symm.trans h
  · rw [h] at above
    omega

theorem eq_or_eq_of_toLower_eq_e {c : Char} (h : c.toLower = 'e') : c = 'e' ∨ c = 'E' := by
  rcases toLower_eq_or c with same | ⟨shifted, -⟩
  · exact .inl (same.symm.trans h)
  · rw [h] at shifted
    exact .inr (Char.toNat_inj.1 (show c.toNat = 69 from Nat.add_right_cancel shifted))

/-- The written forms of one dot, in small letters a dot itself or its byte. -/
def IsDot (written : List Char) : Prop :=
  written.map Char.toLower = ['.'] ∨ written.map Char.toLower = ['%', '2', 'e']

theorem bytes_append_of_isDot {written : List Char} (h : IsDot written) (rest : List Char) :
    Percent.bytes (written ++ rest) = String.utf8EncodeChar '.' ++ Percent.bytes rest := by
  simp only [IsDot, List.map_eq_cons_iff, List.map_eq_nil_iff] at h
  rcases h with ⟨a, _, rfl, ha, rfl⟩ | ⟨a, _, rfl, ha, b, _, rfl, hb, c, _, rfl, hc, rfl⟩
  · obtain rfl := eq_of_toLower_eq ha (by decide)
    exact Percent.bytes_cons_of_ne (by decide) rest
  · obtain rfl := eq_of_toLower_eq ha (by decide)
    obtain rfl := eq_of_toLower_eq hb (by decide)
    have two : Percent.hexValue? '2' = some 2 := by decide
    rcases eq_or_eq_of_toLower_eq_e hc with rfl | rfl
    · have small : Percent.hexValue? 'e' = some 14 := by decide
      exact Percent.bytes_of_hex two small rest
    · have large : Percent.hexValue? 'E' = some 14 := by decide
      exact Percent.bytes_of_hex two large rest

theorem map_toLower_of_contains {texts : List String} {segment : String}
    (h : texts.contains segment.toLower = true) :
    ∃ text ∈ texts, segment.toList.map Char.toLower = text.toList := by
  refine ⟨segment.toLower, by simpa using h, ?_⟩
  unfold String.toLower
  rw [String.toList_map]

theorem isDot_of_isOneDot {segment : String} (h : isOneDot segment = true) :
    IsDot segment.toList := by
  obtain ⟨text, hmem, written⟩ := map_toLower_of_contains h
  simp only [List.mem_cons, List.not_mem_nil, or_false] at hmem
  rcases hmem with rfl | rfl
  · exact .inl written
  · exact .inr written

theorem isDot_of_isTwoDots {segment : String} (h : isTwoDots segment = true) :
    ∃ first second, segment.toList = first ++ second ∧ IsDot first ∧ IsDot second := by
  have two (text : String) : text ∈ ["..", ".%2e", "%2e.", "%2e%2e"] →
      ∃ front behind, text.toList = front ++ behind ∧
        (front = ['.'] ∨ front = ['%', '2', 'e']) ∧
        (behind = ['.'] ∨ behind = ['%', '2', 'e']) := by
    simp only [List.mem_cons, List.not_mem_nil, or_false]
    rintro (rfl | rfl | rfl | rfl)
    · exact ⟨['.'], ['.'], rfl, .inl rfl, .inl rfl⟩
    · exact ⟨['.'], ['%', '2', 'e'], rfl, .inl rfl, .inr rfl⟩
    · exact ⟨['%', '2', 'e'], ['.'], rfl, .inr rfl, .inl rfl⟩
    · exact ⟨['%', '2', 'e'], ['%', '2', 'e'], rfl, .inr rfl, .inr rfl⟩
  obtain ⟨text, hmem, written⟩ := map_toLower_of_contains h
  obtain ⟨front, behind, split, hfront, hbehind⟩ := two text hmem
  -- the segment itself is split where its small letters are
  obtain ⟨first, second, parts, hfirst, hsecond⟩ := List.map_eq_append_iff.1 (written.trans split)
  refine ⟨first, second, parts, ?_, ?_⟩
  · rwa [IsDot, hfirst]
  · rwa [IsDot, hsecond]

/-- What is taken for one dot stands for one dot. -/
theorem decode?_of_isOneDot {segment : String} (h : isOneDot segment = true) :
    Percent.decode? segment.toList = some ['.'] := by
  refine Percent.decode?_of_bytes ?_
  rw [← List.append_nil segment.toList, bytes_append_of_isDot (isDot_of_isOneDot h)]
  rfl

/-- What is taken for two dots stands for two dots. -/
theorem decode?_of_isTwoDots {segment : String} (h : isTwoDots segment = true) :
    Percent.decode? segment.toList = some ['.', '.'] := by
  obtain ⟨first, second, parts, hfirst, hsecond⟩ := isDot_of_isTwoDots h
  refine Percent.decode?_of_bytes ?_
  rw [parts, bytes_append_of_isDot hfirst, ← List.append_nil second,
    bytes_append_of_isDot hsecond]
  rfl

end Path
end EventRules
