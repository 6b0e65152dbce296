/-
  ListenerReview/Proofs/Json/Strings.lean
  =======================================
  **Strings in JSON, written and read** — what is read from a written string is the
  string, whatever its characters.

  A written string is read byte by byte.  The bytes of a character that is written as
  it stands are neither quotation marks nor backslashes nor control bytes
  (`isPlain_utf8EncodeChar`), so they are gathered; an escape is read as a whole, and
  its bytes are skipped.  Either way the gathered bytes grow by the UTF-8 bytes of the
  character (`stringBytes_charText`), and the text of the UTF-8 bytes of a string is
  the string (`textOfBytes?_utf8`).
-/
import ListenerReview.Json.Reader

namespace ListenerReview.Json

/-! ### Bytes of texts -/

/-- The UTF-8 bytes of a text. -/
def utf8 (s : List Char) : Input := s.flatMap String.utf8EncodeChar

@[simp] theorem utf8_nil : utf8 [] = [] := rfl

theorem utf8_cons (c : Char) (s : List Char) :
    utf8 (c :: s) = String.utf8EncodeChar c ++ utf8 s := List.flatMap_cons

@[simp] theorem utf8_append (s t : List Char) : utf8 (s ++ t) = utf8 s ++ utf8 t :=
  List.flatMap_append

theorem bytesOf_ofList (s : List Char) : bytesOf (String.ofList s) = utf8 s := by
  rw [bytesOf, String.toUTF8, String.toByteArray_ofList, List.utf8Encode,
    List.toList_data_toByteArray]
  rfl

theorem textOfBytes?_utf8 (s : String) : textOfBytes? (utf8 s.toList) = some s := by
  have hbytes : (⟨(utf8 s.toList).toArray⟩ : ByteArray) = s.toByteArray := by
    rw [← List.data_toByteArray, ← s.ofList_toList, String.toByteArray_ofList,
      String.toList_ofList]
    rfl
  rw [textOfBytes?, hbytes, String.fromUTF8?, dif_pos s.isValidUTF8]
  rfl

theorem utf8EncodeChar_ascii {c : Char} (h : c.toNat < 0x80) :
    String.utf8EncodeChar c = [byte c] := by
  have hc : c.val.toNat ≤ 127 := by
    rw [← Char.toNat_val] at h
    omega
  rw [String.utf8EncodeChar]
  exact if_pos hc

/-- The bytes of a character beyond ASCII are beyond ASCII. -/
theorem le_of_mem_utf8EncodeChar {c : Char} {b : UInt8} (hc : 0x80 ≤ c.toNat)
    (hb : b ∈ String.utf8EncodeChar c) : 0x80 ≤ b := by
  have hofNat {n : Nat} (hlow : 0x80 ≤ n) (hhigh : n < 0x100) : 0x80 ≤ UInt8.ofNat n := by
    rw [UInt8.le_iff_toNat_le, UInt8.toNat_ofNat', Nat.mod_eq_of_lt hhigh]
    exact hlow
  have hc' : ¬c.val.toNat ≤ 127 := by
    rw [← Char.toNat_val] at hc
    omega
  rw [String.utf8EncodeChar] at hb
  simp only [hc', ↓reduceIte] at hb
  split at hb
  · rcases List.mem_cons.mp hb with rfl | hb
    · exact hofNat (by omega) (by omega)
    · rw [List.mem_singleton.mp hb]
      exact hofNat (by omega) (by omega)
  · split at hb
    · simp only [List.mem_cons, List.not_mem_nil, or_false] at hb
      rcases hb with rfl | rfl | rfl <;> exact hofNat (by omega) (by omega)
    · simp only [List.mem_cons, List.not_mem_nil, or_false] at hb
      rcases hb with rfl | rfl | rfl | rfl <;> exact hofNat (by omega) (by omega)

/-! ### Strings -/

/-- A byte that stands for itself in a string. -/
def IsPlain (b : UInt8) : Prop := b ≠ byte '"' ∧ b ≠ byte '\\' ∧ ¬b < 0x20

theorem stringBytes_plain {bytes : Input} (h : ∀ b ∈ bytes, IsPlain b)
    (gathered : List UInt8) (rest : Input) :
    stringBytes 0 gathered (bytes ++ rest) = stringBytes 0 (bytes.reverse ++ gathered) rest := by
  induction bytes generalizing gathered with
  | nil => rfl
  | cons b bytes ih =>
    obtain ⟨hquote, hbackslash, hcontrol⟩ := h b List.mem_cons_self
    have hbytes : ∀ d ∈ bytes, IsPlain d := fun d hd => h d (List.mem_cons_of_mem b hd)
    rw [List.cons_append, stringBytes, if_neg hquote, if_neg hbackslash, if_neg hcontrol,
      ih hbytes, List.reverse_cons, List.append_assoc]
    rfl

theorem stringBytes_skip (skipped : Input) (gathered : List UInt8) (rest : Input) :
    stringBytes skipped.length gathered (skipped ++ rest) = stringBytes 0 gathered rest := by
  induction skipped with
  | nil => rfl
  | cons b skipped ih => exact ih

/-- An escape is gathered as what it stands for. -/
theorem stringBytes_escape {bytes rest : Input} {c : Char}
    (h : escape (bytes ++ rest) = .ok (c, bytes.length)) (gathered : List UInt8) :
    stringBytes 0 gathered (byte '\\' :: bytes ++ rest) =
      stringBytes 0 ((String.utf8EncodeChar c).reverse ++ gathered) rest := by
  rw [List.cons_append, stringBytes, if_neg (by decide), if_pos rfl, h]
  exact stringBytes_skip bytes _ rest

theorem letterEscape?_of_mem : ∀ p ∈ letterEscapes, letterEscape? (byte p.2) = some p.1 ∧
    byte p.2 ≠ byte 'u' ∧ String.utf8EncodeChar p.2 = [byte p.2] := by
  decide

theorem hexNumber?_hexDigit : ∀ n < 0x20, hexNumber? (byte '0') (byte '0')
    (byte (hexDigit (n / 16))) (byte (hexDigit (n % 16))) = some n := by
  decide

theorem utf8EncodeChar_hexDigit : ∀ n < 16,
    String.utf8EncodeChar (hexDigit n) = [byte (hexDigit n)] := by
  decide

theorem isPlain_utf8EncodeChar {c : Char} (hescape : letterEscapes.lookup c = none)
    (hcontrol : ¬c.toNat < 0x20) : ∀ b ∈ String.utf8EncodeChar c, IsPlain b := by
  intro b hb
  by_cases hascii : c.toNat < 0x80
  · rw [utf8EncodeChar_ascii hascii, List.mem_singleton] at hb
    have hbyte : b.toNat = c.toNat := by
      rw [hb, byte, Nat.toUInt8_eq, UInt8.toNat_ofNat']
      omega
    -- a quotation mark or a backslash would have been written as an escape
    have hne (d : Char) (hd : d.toNat < 0x80) (hescaped : letterEscapes.lookup d ≠ none) :
        b ≠ byte d := by
      intro heq
      have hcd : c.toNat = d.toNat := by
        rw [← hbyte, heq, byte, Nat.toUInt8_eq, UInt8.toNat_ofNat']
        omega
      rw [Char.toNat_inj.mp hcd] at hescape
      exact hescaped hescape
    refine ⟨hne '"' (by decide) (by decide), hne '\\' (by decide) (by decide), ?_⟩
    rw [UInt8.lt_iff_toNat_lt, hbyte]
    exact hcontrol
  · have hhigh : 0x80 ≤ b := le_of_mem_utf8EncodeChar (by omega) hb
    rw [UInt8.le_iff_toNat_le] at hhigh
    refine ⟨?_, ?_, ?_⟩
    · rintro rfl
      exact absurd hhigh (by decide)
    · rintro rfl
      exact absurd hhigh (by decide)
    · intro hlt
      rw [UInt8.lt_iff_toNat_lt] at hlt
      exact absurd (Nat.lt_of_le_of_lt hhigh hlt) (by decide)

/-- A written character is gathered as it is. -/
theorem stringBytes_charText (c : Char) (gathered : List UInt8) (rest : Input) :
    stringBytes 0 gathered (utf8 (charText c) ++ rest) =
      stringBytes 0 ((String.utf8EncodeChar c).reverse ++ gathered) rest := by
  rw [charText]
  split
  · next letter hescape =>
    -- a backslash and a letter
    obtain ⟨before, after, hmem, -⟩ := List.lookup_eq_some_iff.mp hescape
    obtain ⟨hletter, hu, hbyte⟩ := letterEscape?_of_mem (c, letter) (by rw [hmem]; simp)
    have hread : escape ([byte letter] ++ rest) = .ok (c, 1) := by
      rw [List.singleton_append, escape, if_neg hu, hletter]
    rw [utf8_cons, utf8_cons, hbyte]
    exact stringBytes_escape hread gathered
  · next hescape =>
    split
    · next hcontrol =>
      -- the number of a control character, which is no surrogate
      have hdigits : c.toNat / 16 < 16 ∧ c.toNat % 16 < 16 := by omega
      have hread : escape ([byte 'u', byte '0', byte '0', byte (hexDigit (c.toNat / 16)),
          byte (hexDigit (c.toNat % 16))] ++ rest) = .ok (c, 5) := by
        have hlow : isTrail c.toNat = false ∧ isLead c.toNat = false := by
          constructor <;> simp only [isTrail, isLead, Bool.and_eq_false_iff, decide_eq_false_iff_not]
            <;> omega
        rw [List.cons_append, escape, if_pos rfl, unicodeEscape]
        simp only [List.cons_append, List.nil_append, hexEscape, hexNumber?_hexDigit _ hcontrol,
          hlow.1, hlow.2, Bool.false_eq_true, ↓reduceIte, Char.ofNat_toNat]
        rfl
      rw [utf8_cons, utf8_cons, utf8_cons, utf8_cons, utf8_cons, utf8_cons,
        utf8EncodeChar_hexDigit _ hdigits.1, utf8EncodeChar_hexDigit _ hdigits.2]
      exact stringBytes_escape hread gathered
    · next hcontrol =>
      -- the character itself
      rw [utf8_cons, utf8_nil, List.append_nil]
      exact stringBytes_plain (isPlain_utf8EncodeChar hescape hcontrol) gathered rest

theorem stringBytes_written (s : List Char) (gathered : List UInt8) (rest : Input) :
    stringBytes 0 gathered (utf8 (s.flatMap charText) ++ byte '"' :: rest) =
      .ok (gathered.reverse ++ utf8 s, rest) := by
  induction s generalizing gathered with
  | nil =>
    rw [List.flatMap_nil, utf8_nil, List.nil_append, stringBytes, if_pos rfl, List.append_nil]
  | cons c s ih =>
    rw [List.flatMap_cons, utf8_append, List.append_assoc, stringBytes_charText, ih, utf8_cons,
      List.reverse_append, List.reverse_reverse, List.append_assoc]

/-- **A written string is read back**, after its opening quotation mark. -/
theorem readText_written (s : String) (rest : Input) :
    readText (utf8 (s.toList.flatMap charText) ++ byte '"' :: rest) = .ok (s, rest) := by
  rw [readText, stringBytes_written, List.reverse_nil, List.nil_append]
  simp only [textOfBytes?_utf8]

end ListenerReview.Json
