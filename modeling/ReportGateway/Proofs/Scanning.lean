import Mathlib.Data.List.TakeWhile
import ReportGateway.Proofs.Percent
import ReportGateway.Proofs.Spelling

/-!
The scanner on the written form of a value. It finds the tokens of the value (`scans_encode`), though
after a word or a number it does not know yet that they are over: `Holds` says which tokens there are
if the text ends or the value does. A string is written character by character, and what the scanner
keeps of each resolves to the bytes of the character, whatever comes before and after it (`Spells`). In
all, a written value is read back as the document that spells it (`read?_encode`).
-/

namespace ReportGateway

theorem Utf8.fromUTF8?_flatMap (s : String) :
    String.fromUTF8? ⟨(s.toList.flatMap String.utf8EncodeChar).toArray⟩ = some s := by
  rw [← encode_eq_flatMap, encode, Array.toArray_toList]
  exact dif_pos s.isValidUTF8

namespace Decimal

/-- Only zero begins with a zero. -/
theorem head_digits_ne_zero {n : Nat} (hn : n ≠ 0) : (digits n).head? ≠ some 0 := by
  induction n using Nat.strongRecOn with
  | ind n ih =>
      unfold digits
      split
      · simpa using hn
      · obtain ⟨d, ds, hds⟩ := List.exists_cons_of_ne_nil (digits_ne_nil (n / 10))
        have hhead := ih (n / 10) (by omega) (by omega)
        rw [hds] at hhead ⊢
        exact hhead

theorem digits_zero : digits 0 = [0] := by
  unfold digits
  exact if_pos (by omega)

end Decimal

namespace Json

namespace Literal

/-- The byte that a digit is written as. -/
def digitByte (d : Nat) : UInt8 := (48 + d).toUInt8

theorem digitByte_spec :
    ∀ d < 10, isDigit (digitByte d) = true ∧ (digitByte d - 48).toNat = d ∧ digitByte d ≠ 45 ∧
      (Decimal.char d).toNat.toUInt8 = digitByte d := by decide

variable {ds : List Nat} (hds : ∀ d ∈ ds, d < 10)

include hds

theorem spanDigits_map : spanDigits (ds.map digitByte) = (ds, []) := by
  have hall : ∀ b ∈ ds.map digitByte, isDigit b = true := by
    intro b hb
    obtain ⟨d, hd, rfl⟩ := List.mem_map.mp hb
    exact (digitByte_spec d (hds d hd)).1
  rw [spanDigits, List.takeWhile_eq_self_iff.mpr hall, List.dropWhile_eq_nil_iff.mpr hall,
    List.map_map]
  congr 1
  calc ds.map ((fun b => (b - 48).toNat) ∘ digitByte)
      = ds.map id := List.map_congr_left fun d hd => (digitByte_spec d (hds d hd)).2.1
    _ = ds := List.map_id ds

theorem ascii_map_char : Value.ascii (String.ofList (ds.map Decimal.char)) = ds.map digitByte := by
  rw [Value.ascii, String.toList_ofList, List.map_map]
  exact List.map_congr_left fun d hd => (digitByte_spec d (hds d hd)).2.2.2

omit hds

theorem whole?_digits (n : Nat) :
    whole? ((Decimal.digits n).map digitByte) = some (Decimal.digits n, []) := by
  rw [whole?, spanDigits_map (Decimal.digits_lt_ten n)]
  split
  · rename_i hnone
    exact absurd (Prod.mk.inj hnone).1 (Decimal.digits_ne_nil n)
  · rename_i d more hzero
    have hdigits := (Prod.mk.inj hzero).1
    by_cases hn : n = 0
    · rw [hn, Decimal.digits_zero] at hdigits
      simp at hdigits
    · exact absurd (by rw [hdigits]; rfl) (Decimal.head_digits_ne_zero hn)
  · rfl

/-- The bytes of an integer. -/
def intBytes (n : Int) : List UInt8 :=
  (if n < 0 then [45] else []) ++ (Decimal.digits n.natAbs).map digitByte

theorem ascii_intText (n : Int) : Value.ascii (Decimal.intText n) = intBytes n := by
  have htext := ascii_map_char (Decimal.digits_lt_ten n.natAbs)
  rw [Decimal.intText, intBytes]
  split
  · rw [Value.ascii, String.toList_append, List.map_append, ← htext]
    rfl
  · rw [← htext]
    rfl

theorem ofBytes?_intBytes (n : Int) : ofBytes? (intBytes n) = some (ofInt n) := by
  obtain ⟨d, ds, hdigits⟩ := List.exists_cons_of_ne_nil (Decimal.digits_ne_nil n.natAbs)
  have hd := (digitByte_spec d (Decimal.digits_lt_ten n.natAbs d (by simp [hdigits]))).2.2.1
  have hwhole := whole?_digits n.natAbs
  by_cases hn : n < 0
  · rw [intBytes, if_pos hn, List.singleton_append, ofBytes?]
    dsimp only
    rw [hwhole]
    simp [fraction?, exponent?, ofInt, hn]
  · rw [intBytes, if_neg hn, List.nil_append, ofBytes?]
    · dsimp only
      rw [hwhole]
      simp [fraction?, exponent?, ofInt, hn]
    · intro more hmore
      rw [hdigits, List.map_cons] at hmore
      exact hd (List.cons.inj hmore).1

end Literal

namespace Scan

section Strings

/-- Bytes inside a string that stand for some content: what the scanner keeps of them resolves to it,
whatever else the string holds. -/
def Spells (bytes content : List UInt8) : Prop :=
  ∃ pieces : List Piece,
    (∀ seen found, bytes.foldlM step ⟨.content seen, found⟩
      = some ⟨.content (pieces.reverse ++ seen), found⟩) ∧
    ∀ rest, resolve (pieces ++ rest) = (resolve rest).map (content ++ ·)

theorem spells_nil : Spells [] [] := by
  refine ⟨[], fun seen found => rfl, fun rest => ?_⟩
  rw [List.nil_append]
  cases resolve rest <;> rfl

theorem Spells.append {bytes bytes' content content' : List UInt8} (h : Spells bytes content)
    (h' : Spells bytes' content') : Spells (bytes ++ bytes') (content ++ content') := by
  obtain ⟨pieces, hfold, hresolve⟩ := h
  obtain ⟨pieces', hfold', hresolve'⟩ := h'
  refine ⟨pieces ++ pieces', ?_, ?_⟩
  · intro seen found
    rw [List.foldlM_append, hfold, Option.bind_eq_bind, Option.bind_some, hfold',
      List.reverse_append, List.append_assoc]
  · intro rest
    rw [List.append_assoc, hresolve, hresolve', Option.map_map]
    congr 1
    funext bytes
    exact (List.append_assoc content content' bytes).symm

/-- A byte that is neither a control character, nor a quotation mark, nor a backslash. -/
theorem spells_byte {b : UInt8} (hcontrol : ¬b < 32) (hquote : b ≠ 34) (hescape : b ≠ 92) :
    Spells [b] [b] := by
  refine ⟨[.byte b], ?_, ?_⟩
  · intro seen found
    simp [step, hquote, hescape, hcontrol]
  · intro rest
    rfl

/-- A letter after a backslash. -/
theorem spells_letter {e : UInt8} {c : Char} (he : e ≠ 117) (hc : c.toNat < 0x80)
    (h : escaped? e = some c.toNat.toUInt8) : Spells [92, e] (String.utf8EncodeChar c) := by
  rw [Utf8.utf8EncodeChar_of_lt hc]
  refine ⟨[.byte c.toNat.toUInt8], ?_, ?_⟩
  · intro seen found
    have hquote : (92 : UInt8) ≠ 34 := by decide
    simp [step, hquote, he, h]
  · intro rest
    rfl

theorem resolve_unit {n : Nat} (hn : n < 0xD800) (rest : List Piece) :
    resolve (.unit n :: rest)
      = (resolve rest).map (String.utf8EncodeChar (Char.ofNat n) ++ ·) := by
  have hhigh : ¬(0xD800 ≤ n ∧ n < 0xDC00) := by omega
  have hlow : ¬(0xDC00 ≤ n ∧ n < 0xE000) := by omega
  have hany : ¬(0xD800 ≤ n ∧ n < 0xE000) := by omega
  cases rest with
  | nil => simp [resolve, hany]
  | cons piece rest =>
      cases piece with
      | byte b => simp [resolve, hany]
      | unit m => rw [resolve, if_neg hhigh, if_neg hlow]

theorem hexDigit?_char : ∀ n < 16, Radix.hexDigit? (Radix.char n).toNat.toUInt8 = some n := by
  decide

/-- Four digits after a backslash and a `u`. -/
theorem spells_unit {high low : Nat} (hhigh : high < 16) (hlow : low < 16) :
    Spells [92, 117, 48, 48, (Radix.char high).toNat.toUInt8, (Radix.char low).toNat.toUInt8]
      (String.utf8EncodeChar (Char.ofNat (16 * high + low))) := by
  refine ⟨[.unit (16 * high + low)], ?_, ?_⟩
  · intro seen found
    have hzero : Radix.hexDigit? 48 = some 0 := by decide
    have hquote : (92 : UInt8) ≠ 34 := by decide
    simp [step, hquote, hzero, hexDigit?_char high hhigh, hexDigit?_char low hlow]
  · intro rest
    exact resolve_unit (by omega) rest

theorem spells_plain {bytes : List UInt8}
    (h : ∀ b ∈ bytes, ¬b < 32 ∧ b ≠ 34 ∧ b ≠ 92) : Spells bytes bytes := by
  induction bytes with
  | nil => exact spells_nil
  | cons b bytes ih =>
      rw [List.forall_mem_cons] at h
      obtain ⟨⟨hcontrol, hquote, hescape⟩, hbytes⟩ := h
      exact (spells_byte hcontrol hquote hescape).append (ih hbytes)

theorem eq_of_toUInt8 {c d : Char} (hc : c.toNat < 0x80) (hd : d.toNat < 0x80)
    (h : c.toNat.toUInt8 = d.toNat.toUInt8) : c = d := by
  have hsame := congrArg UInt8.toNat h
  simp only [Nat.toUInt8_eq, UInt8.toNat_ofNat'] at hsame
  have hnat : c.toNat = d.toNat := by omega
  rw [← Char.ofNat_toNat c, ← Char.ofNat_toNat d, hnat]

/-- The bytes of a character that is written as it is. -/
theorem plain_utf8EncodeChar {c : Char} (hquote : c ≠ '"') (hescape : c ≠ '\\')
    (hcontrol : ¬c.toNat < 32) :
    ∀ b ∈ String.utf8EncodeChar c, ¬b < 32 ∧ b ≠ 34 ∧ b ≠ 92 := by
  intro b hb
  by_cases hascii : c.toNat < 0x80
  · rw [Utf8.utf8EncodeChar_of_lt hascii, List.mem_singleton] at hb
    subst hb
    refine ⟨?_, ?_, ?_⟩
    · rw [UInt8.lt_iff_toNat_lt]
      simp only [Nat.toUInt8_eq, UInt8.toNat_ofNat', UInt8.reduceToNat]
      omega
    · intro h
      exact hquote (eq_of_toUInt8 (d := '"') hascii (by decide) h)
    · intro h
      exact hescape (eq_of_toUInt8 (d := '\\') hascii (by decide) h)
  · have hlarge := Utf8.le_of_mem_utf8EncodeChar (by omega : 0x80 ≤ c.toNat) hb
    refine ⟨?_, ?_, ?_⟩
    · rw [UInt8.lt_iff_toNat_lt]
      simp only [UInt8.reduceToNat]
      omega
    · rintro rfl
      exact absurd hlarge (by decide)
    · rintro rfl
      exact absurd hlarge (by decide)

/-- A character that has a letter of its own is written as that letter after a backslash. -/
theorem spells_ite {c d : Char} {e : UInt8} {bytes : List UInt8} (he : e ≠ 117)
    (hd : d.toNat < 0x80) (h : escaped? e = some d.toNat.toUInt8)
    (hother : c ≠ d → Spells bytes (String.utf8EncodeChar c)) :
    Spells (if c = d then [92, e] else bytes) (String.utf8EncodeChar c) := by
  split
  · rename_i heq
    subst heq
    exact spells_letter he hd h
  · rename_i hne
    exact hother hne

/-- A character as it is written stands for its bytes. -/
theorem spells_encodeChar (c : Char) :
    Spells (Value.encodeChar c) (String.utf8EncodeChar c) := by
  unfold Value.encodeChar
  refine spells_ite (by decide) (by decide) (by decide) fun hquote => ?_
  refine spells_ite (by decide) (by decide) (by decide) fun hescape => ?_
  iterate 5 refine spells_ite (by decide) (by decide) (by decide) fun _ => ?_
  split
  · have hunit := spells_unit (by omega : c.toNat / 16 < 16) (Nat.mod_lt c.toNat (by omega))
    rwa [Nat.div_add_mod, Char.ofNat_toNat] at hunit
  · rename_i hcontrol
    exact spells_plain (plain_utf8EncodeChar hquote hescape hcontrol)

theorem spells_flatMap (cs : List Char) :
    Spells (cs.flatMap Value.encodeChar) (cs.flatMap String.utf8EncodeChar) := by
  induction cs with
  | nil => exact spells_nil
  | cons c cs ih => exact (spells_encodeChar c).append ih

/-- The scanner finds a string in what the string is written as. -/
theorem foldlM_encodeString (s : String) (found : List Token) :
    (Value.encodeString s).foldlM step ⟨.between, found⟩
      = some ⟨.between, .string (some s) :: found⟩ := by
  obtain ⟨pieces, hfold, hresolve⟩ := spells_flatMap s.toList
  have hbytes : resolve pieces = some (s.toList.flatMap String.utf8EncodeChar) := by
    have hall := hresolve []
    rwa [List.append_nil, resolve, Option.map_some, List.append_nil] at hall
  have htext : Piece.text? pieces = some s := by
    rw [Piece.text?, hbytes]
    exact Utf8.fromUTF8?_flatMap s
  calc (Value.encodeString s).foldlM step ⟨.between, found⟩
      = (s.toList.flatMap Value.encodeChar ++ [34]).foldlM step ⟨.content [], found⟩ := rfl
    _ = [34].foldlM step ⟨.content (pieces.reverse ++ []), found⟩ := by
        rw [List.foldlM_append, hfold]
        rfl
    _ = some ⟨.between, .string (Piece.text? pieces) :: found⟩ := by
        rw [List.append_nil]
        simp [step]
    _ = some ⟨.between, .string (some s) :: found⟩ := by
        rw [htext]

end Strings

section Holding

/-- The bytes that come after a value in a written array or object. -/
def closers : List UInt8 := [44, 93, 125]

theorem closer_spec :
    ∀ b ∈ closers, isLetter b = false ∧ isNumeric b = false := by
  intro b hb
  have hall : closers.all (fun b => !isLetter b && !isNumeric b) = true := by decide
  simpa using List.all_eq_true.mp hall b hb

/-- The tokens that a scanner has found if what it is in the middle of ends here. -/
structure Holds (s : Scan) (found : List Token) : Prop where
  finish : s.finish = some found.reverse
  step : ∀ b ∈ closers, s.step b = next found b

theorem holds_between (found : List Token) : Holds ⟨.between, found⟩ found where
  finish := rfl
  step _ _ := rfl

theorem holds_word {seen : List UInt8} {t : Token} (h : word? seen = some t)
    (found : List Token) : Holds ⟨.word seen, found⟩ (t :: found) where
  finish := by
    simp [Scan.finish, h]
  step b hb := by
    simp [Scan.step, (closer_spec b hb).1, h]

theorem holds_number {seen : List UInt8} {l : Literal}
    (h : Literal.ofBytes? seen.reverse = some l) (found : List Token) :
    Holds ⟨.number seen, found⟩ (.number l :: found) where
  finish := by
    simp [Scan.finish, h]
  step b hb := by
    simp [Scan.step, (closer_spec b hb).2, h]

/-- Behind whatever tokens were found before, the scanner finds these tokens in these bytes. -/
def Scans (bytes : List UInt8) (ts : List Token) : Prop :=
  ∀ found, ∃ s, bytes.foldlM step ⟨.between, found⟩ = some s ∧ s.Holds (ts.reverse ++ found)

/-- Bytes that end what the scanner is in the middle of and hold these tokens. -/
def Closes (bytes : List UInt8) (ts : List Token) : Prop :=
  ∀ s found, s.Holds found → bytes.foldlM step s = some ⟨.between, ts.reverse ++ found⟩

theorem Scans.closes {bytes bytes' : List UInt8} {ts ts' : List Token} (h : Scans bytes ts)
    (h' : Closes bytes' ts') (found : List Token) :
    (bytes ++ bytes').foldlM step ⟨.between, found⟩
      = some ⟨.between, (ts ++ ts').reverse ++ found⟩ := by
  obtain ⟨s, hfold, hholds⟩ := h found
  rw [List.foldlM_append, hfold, Option.bind_eq_bind, Option.bind_some, h' s _ hholds,
    List.reverse_append, List.append_assoc]

theorem foldlM_numeric {bytes : List UInt8} (h : ∀ b ∈ bytes, isNumeric b = true)
    (seen : List UInt8) (found : List Token) :
    bytes.foldlM step ⟨.number seen, found⟩ = some ⟨.number (bytes.reverse ++ seen), found⟩ := by
  induction bytes generalizing seen with
  | nil => rfl
  | cons b bytes ih =>
      rw [List.forall_mem_cons] at h
      rw [List.foldlM_cons, List.reverse_cons, List.append_assoc, List.singleton_append,
        ← ih h.2 (b :: seen)]
      simp [step, h.1]

/-- A first byte that begins a number, with bytes that go on with it. -/
theorem scans_numeric {b : UInt8} {bytes : List UInt8} {l : Literal}
    (hfirst : ∀ found, next found b = some ⟨.number [b], found⟩)
    (hmore : ∀ b ∈ bytes, isNumeric b = true) (hl : Literal.ofBytes? (b :: bytes) = some l) :
    Scans (b :: bytes) [.number l] := by
  intro found
  refine ⟨⟨.number (bytes.reverse ++ [b]), found⟩, ?_, holds_number ?_ found⟩
  · calc (b :: bytes).foldlM step ⟨.between, found⟩
        = (next found b >>= fun s => bytes.foldlM step s) := rfl
      _ = bytes.foldlM step ⟨.number [b], found⟩ := by
          rw [hfirst found]
          rfl
      _ = some ⟨.number (bytes.reverse ++ [b]), found⟩ := foldlM_numeric hmore [b] found
  · rwa [List.reverse_append, List.reverse_reverse, List.reverse_singleton, List.singleton_append]

theorem digitByte_begins :
    ∀ d < 10, isNumeric (Literal.digitByte d) = true ∧ isBlank (Literal.digitByte d) = false ∧
      Literal.digitByte d ∉ [91, 93, 123, 125, 58, 44, 34] := by decide

theorem next_digitByte {d : Nat} (hd : d < 10) (found : List Token) :
    next found (Literal.digitByte d) = some ⟨.number [Literal.digitByte d], found⟩ := by
  obtain ⟨-, hblank, hothers⟩ := digitByte_begins d hd
  simp only [List.mem_cons, List.not_mem_nil, or_false, not_or] at hothers
  simp [next, hblank, hothers, (Literal.digitByte_spec d hd).1]

theorem scans_intBytes (n : Int) : Scans (Literal.intBytes n) [.number (.ofInt n)] := by
  have hread := Literal.ofBytes?_intBytes n
  have hlt := Decimal.digits_lt_ten n.natAbs
  have hnumeric : ∀ ds : List Nat, (∀ d ∈ ds, d < 10) →
      ∀ b ∈ ds.map Literal.digitByte, isNumeric b = true := by
    intro ds hds b hb
    obtain ⟨d, hd, rfl⟩ := List.mem_map.mp hb
    exact (digitByte_begins d (hds d hd)).1
  rw [Literal.intBytes] at hread ⊢
  by_cases hn : n < 0
  · rw [if_pos hn, List.singleton_append] at hread ⊢
    exact scans_numeric (fun found => rfl) (hnumeric _ hlt) hread
  · obtain ⟨d, ds, hdigits⟩ := List.exists_cons_of_ne_nil (Decimal.digits_ne_nil n.natAbs)
    rw [hdigits, List.forall_mem_cons] at hlt
    rw [if_neg hn, List.nil_append, hdigits, List.map_cons] at hread ⊢
    exact scans_numeric (next_digitByte hlt.1) (hnumeric ds hlt.2) hread

end Holding

section Values

open Value (encode encodeRest encodeMore encodeString tokens restTokens moreTokens)

theorem closes_encodeRest {rest : List Value} (h : ∀ v ∈ rest, Scans v.encode v.tokens) :
    Closes (encodeRest rest) (restTokens rest) := by
  induction rest with
  | nil =>
      intro s found hs
      calc (encodeRest []).foldlM step s
          = (s.step 93 >>= fun s => some s) := rfl
        _ = some ⟨.between, (restTokens []).reverse ++ found⟩ := by
            rw [hs.step 93 (by decide)]
            rfl
  | cons v rest ih =>
      intro s found hs
      rw [List.forall_mem_cons] at h
      calc (encodeRest (v :: rest)).foldlM step s
          = (s.step 44 >>= fun s => (encode v ++ encodeRest rest).foldlM step s) := rfl
        _ = (encode v ++ encodeRest rest).foldlM step ⟨.between, .comma :: found⟩ := by
            rw [hs.step 44 (by decide)]
            rfl
        _ = some ⟨.between, (restTokens (v :: rest)).reverse ++ found⟩ := by
            rw [h.1.closes (ih h.2)]
            simp [restTokens]

theorem closes_encodeMore {rest : List (String × Value)}
    (h : ∀ member ∈ rest, Scans member.2.encode member.2.tokens) :
    Closes (encodeMore rest) (moreTokens rest) := by
  induction rest with
  | nil =>
      intro s found hs
      calc (encodeMore []).foldlM step s
          = (s.step 125 >>= fun s => some s) := rfl
        _ = some ⟨.between, (moreTokens []).reverse ++ found⟩ := by
            rw [hs.step 125 (by decide)]
            rfl
  | cons member rest ih =>
      obtain ⟨name, v⟩ := member
      intro s found hs
      rw [List.forall_mem_cons] at h
      calc (encodeMore ((name, v) :: rest)).foldlM step s
          = (s.step 44 >>= fun s =>
              (encodeString name ++ 58 :: (encode v ++ encodeMore rest)).foldlM step s) := rfl
        _ = (58 :: (encode v ++ encodeMore rest)).foldlM step
              ⟨.between, .string (some name) :: .comma :: found⟩ := by
            rw [hs.step 44 (by decide)]
            show (encodeString name ++ _).foldlM step ⟨.between, .comma :: found⟩ = _
            rw [List.foldlM_append, foldlM_encodeString]
            rfl
        _ = (encode v ++ encodeMore rest).foldlM step
              ⟨.between, .colon :: .string (some name) :: .comma :: found⟩ := rfl
        _ = some ⟨.between, (moreTokens ((name, v) :: rest)).reverse ++ found⟩ := by
            rw [h.1.closes (ih h.2)]
            simp [moreTokens]

/-- The scanner finds the tokens of a value in its written form. -/
theorem scans_encode {v : Value} (h : v.IsExact) : Scans v.encode v.tokens := by
  induction h with
  | null =>
      intro found
      exact ⟨⟨.word [108, 108, 117, 110], found⟩, rfl, holds_word rfl found⟩
  | bool b =>
      intro found
      cases b with
      | false => exact ⟨⟨.word [101, 115, 108, 97, 102], found⟩, rfl, holds_word rfl found⟩
      | true => exact ⟨⟨.word [101, 117, 114, 116], found⟩, rfl, holds_word rfl found⟩
  | int n =>
      rw [encode, Value.encodeNumber, Literal.ascii_intText]
      exact scans_intBytes n
  | string s =>
      intro found
      exact ⟨_, foldlM_encodeString s found, holds_between _⟩
  | array hitems ih =>
      -- An item may be a number, which is over only when the comma or the bracket comes.
      rename_i items
      intro found
      cases items with
      | nil => exact ⟨_, rfl, holds_between _⟩
      | cons v rest =>
          rw [List.forall_mem_cons] at ih
          refine ⟨_, ?_, holds_between _⟩
          calc (encode (.array (v :: rest))).foldlM step ⟨.between, found⟩
              = (encode v ++ encodeRest rest).foldlM step ⟨.between, .beginArray :: found⟩ := rfl
            _ = some ⟨.between, (tokens (.array (v :: rest))).reverse ++ found⟩ := by
                rw [ih.1.closes (closes_encodeRest ih.2)]
                simp [tokens, Value.itemTokens]
  | object hmembers ih =>
      rename_i members
      intro found
      cases members with
      | nil => exact ⟨_, rfl, holds_between _⟩
      | cons member rest =>
          obtain ⟨name, v⟩ := member
          rw [List.forall_mem_cons] at ih
          refine ⟨_, ?_, holds_between _⟩
          calc (encode (.object ((name, v) :: rest))).foldlM step ⟨.between, found⟩
              = (encodeString name ++ 58 :: (encode v ++ encodeMore rest)).foldlM step
                  ⟨.between, .beginObject :: found⟩ := rfl
            _ = (encode v ++ encodeMore rest).foldlM step
                  ⟨.between, .colon :: .string (some name) :: .beginObject :: found⟩ := by
                rw [List.foldlM_append, foldlM_encodeString]
                rfl
            _ = some ⟨.between, (tokens (.object ((name, v) :: rest))).reverse ++ found⟩ := by
                rw [ih.1.closes (closes_encodeMore ih.2)]
                simp [tokens, Value.memberTokens]

end Values

end Scan

/-- The written form of a value is read back as the document that spells it. -/
theorem Document.read?_encode {v : Value} (h : v.IsExact) : read? v.encode = some v.document := by
  obtain ⟨s, hfold, hholds⟩ := Scan.scans_encode h []
  have htokens : tokens? v.encode = some v.tokens := by
    rw [tokens?, Scan.start, hfold, Option.bind_eq_bind, Option.bind_some, hholds.finish,
      List.append_nil, List.reverse_reverse]
  rw [read?, htokens, Option.bind_eq_bind, Option.bind_some]
  exact ofTokens?_tokens h

end Json

end ReportGateway
