import Mathlib.Data.List.Basic
import ReportGateway.Url.Percent

/-!
Escapes and the bytes they stand for. A character is written as the bytes of its UTF-8 form, each as
it is or as an escape, so encoding a text is writing its bytes one by one (`bytes_encode`). Where the
per cent sign is escaped, decoding gives back the bytes of the text (`decode_encode`). Where it is
not, and no hexadecimal digit is either, encoding adds escapes and touches none that are there, so
decoding does not tell whether a text has been encoded (`decode_encode_of_keeps`).
-/

namespace ReportGateway

namespace Utf8

theorem encode_ofList (cs : List Char) :
    encode (String.ofList cs) = cs.flatMap String.utf8EncodeChar := by
  rw [encode, String.toUTF8_eq_toByteArray, String.toByteArray_ofList, List.utf8Encode]
  simp

theorem encode_eq_flatMap (s : String) : encode s = s.toList.flatMap String.utf8EncodeChar := by
  rw [← encode_ofList, String.ofList_toList]

theorem encode_injective {s t : String} (h : encode s = encode t) : s = t := by
  apply String.toByteArray_inj.mp
  apply ByteArray.ext
  exact Array.toList_inj.mp h

theorem utf8EncodeChar_of_lt {c : Char} (h : c.toNat < 0x80) :
    String.utf8EncodeChar c = [c.toNat.toUInt8] := by
  have hle : c.val.toNat ≤ 0x7f := Nat.le_of_lt_succ h
  simp only [String.utf8EncodeChar, if_pos hle]
  rfl

theorem le_of_mem_utf8EncodeChar {c : Char} (h : 0x80 ≤ c.toNat) {b : UInt8}
    (hb : b ∈ String.utf8EncodeChar c) : 0x80 ≤ b.toNat := by
  have hlt : ¬c.val.toNat ≤ 0x7f := Nat.not_le_of_lt h
  simp only [String.utf8EncodeChar, if_neg hlt] at hb
  split at hb
  · simp at hb
    rcases hb with rfl | rfl <;> simp <;> omega
  · split at hb
    · simp at hb
      rcases hb with rfl | rfl | rfl <;> simp <;> omega
    · simp at hb
      rcases hb with rfl | rfl | rfl | rfl <;> simp <;> omega

end Utf8

namespace Url.Percent

/-- The bytes of an escape. -/
def escapeBytes (b : UInt8) : List UInt8 := (escape b).flatMap String.utf8EncodeChar

/-- A byte as it is written where `escaped` is the class of escaped characters. -/
def writtenByte (escaped : Class) (b : UInt8) : List UInt8 :=
  if b.toNat < 0x80 ∧ !escaped (Char.ofNat b.toNat) then [b] else escapeBytes b

variable {escaped : Class}

theorem bytes_encodeChar (c : Char) :
    (encodeChar escaped c).flatMap String.utf8EncodeChar
      = (String.utf8EncodeChar c).flatMap (writtenByte escaped) := by
  have hmany : ∀ bs : List UInt8, (∀ b ∈ bs, writtenByte escaped b = escapeBytes b) →
      (bs.flatMap escape).flatMap String.utf8EncodeChar = bs.flatMap (writtenByte escaped) := by
    intro bs hbs
    rw [List.flatMap_assoc]
    exact (List.flatMap_congr hbs).symm
  by_cases hascii : c.toNat < 0x80
  · have hbyte : c.toNat.toUInt8.toNat = c.toNat := by
      simp [Nat.mod_eq_of_lt (by omega : c.toNat < 256)]
    by_cases hplain : escaped c = false
    · rw [encodeChar, if_pos ⟨hascii, by simp [hplain]⟩]
      simp [Utf8.utf8EncodeChar_of_lt hascii, writtenByte, hbyte, hascii, hplain]
    · rw [encodeChar, if_neg (by simp [hplain])]
      refine hmany _ fun b hb => ?_
      rw [Utf8.utf8EncodeChar_of_lt hascii, List.mem_singleton] at hb
      rw [writtenByte, if_neg (by simp [hb, hbyte, hplain])]
  · rw [encodeChar, if_neg (by simp [hascii])]
    refine hmany _ fun b hb => ?_
    have hle := Utf8.le_of_mem_utf8EncodeChar (Nat.le_of_not_lt hascii) hb
    rw [writtenByte, if_neg (by omega)]

/-- Encoding a text is writing its bytes one by one. -/
theorem bytes_encode (cs : List Char) :
    Utf8.encode (encode escaped cs)
      = (Utf8.encode (String.ofList cs)).flatMap (writtenByte escaped) := by
  rw [encode, Utf8.encode_ofList, Utf8.encode_ofList, List.flatMap_assoc, List.flatMap_assoc]
  exact List.flatMap_congr fun c _ => bytes_encodeChar c

theorem decodeBytes_of_ne {b : UInt8} (h : b ≠ 37) (rest : List UInt8) :
    decodeBytes (b :: rest) = b :: decodeBytes rest := by
  rw [decodeBytes]
  rintro _ _ _ rfl
  exact absurd rfl h

/-- The byte of a digit in an escape. -/
def digitByte (n : Nat) : UInt8 := (escapeDigit n).toNat.toUInt8

theorem hexDigit?_digitByte : ∀ n < 16, Radix.hexDigit? (digitByte n) = some n := by decide

theorem utf8EncodeChar_escapeDigit :
    ∀ n < 16, String.utf8EncodeChar (escapeDigit n) = [digitByte n] := by decide

theorem escapeBytes_eq (b : UInt8) :
    escapeBytes b = [37, digitByte (b.toNat / 16), digitByte (b.toNat % 16)] := by
  have hb : b.toNat < 256 := b.toNat_lt
  have hhigh := utf8EncodeChar_escapeDigit (b.toNat / 16) (by omega)
  have hlow := utf8EncodeChar_escapeDigit (b.toNat % 16) (by omega)
  simp only [escapeBytes, escape, List.flatMap_cons, List.flatMap_nil, hhigh, hlow]
  rfl

theorem decodeBytes_escapeBytes (b : UInt8) (rest : List UInt8) :
    decodeBytes (escapeBytes b ++ rest) = b :: decodeBytes rest := by
  have hb : b.toNat < 256 := b.toNat_lt
  have hsum : 16 * (b.toNat / 16) + b.toNat % 16 = b.toNat := by omega
  rw [escapeBytes_eq]
  simp only [List.cons_append, List.nil_append, decodeBytes]
  rw [hexDigit?_digitByte _ (by omega), hexDigit?_digitByte _ (by omega)]
  simp [hsum]

theorem decodeBytes_written (h : escaped '%' = true) (bs : List UInt8) :
    decodeBytes (bs.flatMap (writtenByte escaped)) = bs := by
  induction bs with
  | nil => rfl
  | cons b bs ih =>
      rw [List.flatMap_cons]
      by_cases hplain : b.toNat < 0x80 ∧ !escaped (Char.ofNat b.toNat)
      · have hne : b ≠ 37 := by
          rintro rfl
          have hpercent : escaped (Char.ofNat (37 : UInt8).toNat) = true := h
          rw [hpercent] at hplain
          exact absurd hplain.2 (by decide)
        rw [writtenByte, if_pos hplain, List.singleton_append, decodeBytes_of_ne hne, ih]
      · rw [writtenByte, if_neg hplain, decodeBytes_escapeBytes, ih]

/-- Where the per cent sign is escaped, decoding gives the bytes of the text back. -/
theorem decode_encode (h : escaped '%' = true) (cs : List Char) :
    decode (encode escaped cs) = Utf8.encode (String.ofList cs) := by
  rw [decode, bytes_encode, decodeBytes_written h]

/-- A class in which neither the per cent sign nor a hexadecimal digit is escaped. -/
structure KeepsEscapes (escaped : Class) : Prop where
  percent : writtenByte escaped 37 = [37]
  digit : ∀ b, (Radix.hexDigit? b).isSome → writtenByte escaped b = [b]

/-- What holds of the numbers below 256 holds of all bytes. -/
theorem forall_byte {P : UInt8 → Prop} (h : ∀ n < 256, P (UInt8.ofNat n)) (b : UInt8) : P b := by
  have hb := h b.toNat b.toNat_lt
  rwa [UInt8.ofNat_toNat] at hb

/-- Two hexadecimal digits stand at the front of a list of bytes. -/
def DigitsFirst : List UInt8 → Prop
  | a :: b :: _ => (Radix.hexDigit? a).isSome ∧ (Radix.hexDigit? b).isSome
  | _ => False

theorem decodeBytes_percent {bs : List UInt8} (h : ¬DigitsFirst bs) :
    decodeBytes (37 :: bs) = 37 :: decodeBytes bs := by
  match bs with
  | [] => rfl
  | [_] => rfl
  | a :: b :: rest =>
      rw [decodeBytes]
      cases ha : Radix.hexDigit? a with
      | none => rfl
      | some high =>
          cases hb : Radix.hexDigit? b with
          | none => rfl
          | some low => exact absurd ⟨by simp [ha], by simp [hb]⟩ h

theorem hexDigit?_percent : Radix.hexDigit? 37 = none := by decide

/-- No escape reaches over a byte that is neither a per cent sign nor a hexadecimal digit. -/
theorem decodeBytes_append_cons {b : UInt8} (hpercent : b ≠ 37) (hdigit : Radix.hexDigit? b = none)
    (bs cs : List UInt8) :
    decodeBytes (bs ++ b :: cs) = decodeBytes bs ++ b :: decodeBytes cs := by
  induction hlength : bs.length using Nat.strongRecOn generalizing bs with
  | ind n ih =>
      subst hlength
      match bs with
      | [] => rw [List.nil_append, decodeBytes_of_ne hpercent]; rfl
      | x :: bs =>
          have hrest := ih bs.length (by simp) bs rfl
          rw [List.cons_append]
          by_cases hx : x = 37
          · subst hx
            by_cases hfirst : DigitsFirst bs
            · match bs, hfirst with
              | y :: z :: bs, ⟨hy, hz⟩ =>
                  obtain ⟨high, hhigh⟩ := Option.isSome_iff_exists.mp hy
                  obtain ⟨low, hlow⟩ := Option.isSome_iff_exists.mp hz
                  have hmore := ih bs.length (by simp; omega) bs rfl
                  simp only [List.cons_append, decodeBytes, hhigh, hlow, hmore]
            · have hlater : ¬DigitsFirst (bs ++ b :: cs) := by
                match bs with
                | [] =>
                    cases cs with
                    | nil => exact fun h => h
                    | cons c cs => exact fun h => absurd h.1 (by simp [hdigit])
                | [y] => exact fun h => absurd h.2 (by simp [hdigit])
                | y :: z :: bs => exact hfirst
              rw [decodeBytes_percent hlater, decodeBytes_percent hfirst, hrest, List.cons_append]
          · rw [decodeBytes_of_ne hx, decodeBytes_of_ne hx, hrest, List.cons_append]

/-- A byte is written as itself or as something that begins with a per cent sign. -/
theorem writtenByte_cases (escaped : Class) (b : UInt8) :
    writtenByte escaped b = [b] ∨ writtenByte escaped b = escapeBytes b := by
  rw [writtenByte]
  split
  · exact Or.inl rfl
  · exact Or.inr rfl

theorem digitsFirst_of_written {bs : List UInt8}
    (hfirst : DigitsFirst (bs.flatMap (writtenByte escaped))) : DigitsFirst bs := by
  match bs with
  | [] => exact hfirst
  | a :: bs =>
      rw [List.flatMap_cons] at hfirst
      rcases writtenByte_cases escaped a with ha | ha
      · rw [ha, List.singleton_append] at hfirst
        match bs with
        | [] => exact hfirst
        | b :: bs =>
            rw [List.flatMap_cons] at hfirst
            rcases writtenByte_cases escaped b with hb | hb
            · rw [hb, List.singleton_append] at hfirst
              exact hfirst
            · rw [hb, escapeBytes_eq] at hfirst
              exact absurd hfirst.2 (by simp [hexDigit?_percent])
      · rw [ha, escapeBytes_eq] at hfirst
        exact absurd hfirst.1 (by simp [hexDigit?_percent])

theorem decodeBytes_written_of_keeps (h : KeepsEscapes escaped) (bs : List UInt8) :
    decodeBytes (bs.flatMap (writtenByte escaped)) = decodeBytes bs := by
  induction hlength : bs.length using Nat.strongRecOn generalizing bs with
  | ind n ih =>
      subst hlength
      match bs with
      | [] => rfl
      | b :: rest =>
          have hrest := ih rest.length (by simp) rest rfl
          rw [List.flatMap_cons]
          by_cases hpercent : b = 37
          · subst hpercent
            rw [h.percent, List.singleton_append]
            by_cases hfirst : DigitsFirst rest
            · match rest, hfirst with
              | x :: y :: rest, ⟨hx, hy⟩ =>
                  obtain ⟨high, hhigh⟩ := Option.isSome_iff_exists.mp hx
                  obtain ⟨low, hlow⟩ := Option.isSome_iff_exists.mp hy
                  have hmore := ih rest.length (by simp; omega) rest rfl
                  rw [List.flatMap_cons, List.flatMap_cons, h.digit x hx, h.digit y hy]
                  simp only [List.singleton_append, decodeBytes, hhigh, hlow, hmore]
            · rw [decodeBytes_percent hfirst, decodeBytes_percent fun hwritten =>
                hfirst (digitsFirst_of_written hwritten), hrest]
          · rw [decodeBytes_of_ne hpercent]
            rcases writtenByte_cases escaped b with hb | hb
            · rw [hb, List.singleton_append, decodeBytes_of_ne hpercent, hrest]
            · rw [hb, decodeBytes_escapeBytes, hrest]

/-- Where escapes are kept, encoding a text does not change what it decodes to. -/
theorem decode_encode_of_keeps (h : KeepsEscapes escaped) (cs : List Char) :
    decode (encode escaped cs) = decode (String.ofList cs) := by
  rw [decode, bytes_encode, decodeBytes_written_of_keeps h, decode]

theorem decodeBytes_of_forall_ne {bs : List UInt8} (h : ∀ b ∈ bs, b ≠ 37) : decodeBytes bs = bs := by
  induction bs with
  | nil => rfl
  | cons b bs ih =>
      rw [List.forall_mem_cons] at h
      rw [decodeBytes_of_ne h.1, ih h.2]

theorem ne_percent_of_mem_utf8EncodeChar {c : Char} (hc : c ≠ '%') {b : UInt8}
    (hb : b ∈ String.utf8EncodeChar c) : b ≠ 37 := by
  rintro rfl
  by_cases hascii : c.toNat < 0x80
  · rw [Utf8.utf8EncodeChar_of_lt hascii, List.mem_singleton] at hb
    have hnat := congrArg UInt8.toNat hb
    rw [show c.toNat.toUInt8.toNat = c.toNat by
      simp [Nat.mod_eq_of_lt (by omega : c.toNat < 256)]] at hnat
    exact hc (Char.toNat_inj.mp hnat.symm)
  · exact absurd (Utf8.le_of_mem_utf8EncodeChar (Nat.le_of_not_lt hascii) hb) (by decide)

/-- A text without a per cent sign stands for its own bytes. -/
theorem decode_of_not_mem {s : String} (h : '%' ∉ s.toList) : decode s = Utf8.encode s := by
  refine decodeBytes_of_forall_ne fun b hb => ?_
  rw [Utf8.encode_eq_flatMap] at hb
  obtain ⟨c, hc, hb⟩ := List.mem_flatMap.mp hb
  exact ne_percent_of_mem_utf8EncodeChar (fun heq => h (heq ▸ hc)) hb

end Url.Percent

end ReportGateway
