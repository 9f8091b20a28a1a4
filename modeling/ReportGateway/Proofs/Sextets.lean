import Mathlib.Data.List.TakeWhile
import ReportGateway.Text.Base64
import ReportGateway.Text.Blank

/-!
Base64 as a code. The characters of the alphabet and the numbers below 64 stand for one another, and
so do written forms and bytes: a text is read as some bytes exactly when it is their written form
(`decode?_eq_some_iff`). No character of a written form is white space, so white space around one
comes off without a trace.
-/

namespace ReportGateway

namespace Text

variable {α : Type} {p : α → Bool} {front l back : List α}

/-- What is trimmed off stands at the ends, and all of it satisfies the test. -/
theorem exists_eq_trimBoth (p : α → Bool) (l : List α) :
    ∃ front back, l = front ++ trimBoth p l ++ back ∧ ∀ x ∈ front ++ back, p x = true := by
  refine ⟨l.takeWhile p, ((l.dropWhile p).reverse.takeWhile p).reverse, ?_, ?_⟩
  · have hinner : l.dropWhile p
        = trimBoth p l ++ ((l.dropWhile p).reverse.takeWhile p).reverse := by
      rw [trimBoth, ← List.reverse_append, List.takeWhile_append_dropWhile, List.reverse_reverse]
    rw [List.append_assoc, ← hinner, List.takeWhile_append_dropWhile]
  · intro x hx
    rcases List.mem_append.mp hx with hx | hx
    · exact List.mem_takeWhile_imp hx
    · exact List.mem_takeWhile_imp (List.mem_reverse.mp hx)

/-- Trimming gives what stands between ends that satisfy the test, if nothing in it does. -/
theorem trimBoth_append (hends : ∀ x ∈ front ++ back, p x = true) (hl : ∀ x ∈ l, p x = false) :
    trimBoth p (front ++ l ++ back) = l := by
  rw [List.forall_mem_append] at hends
  obtain ⟨hfront, hback⟩ := hends
  -- Nothing is dropped of what starts with an element of the middle.
  have hstart : ∀ {middle : List α} (rest : List α), middle ≠ [] → (∀ x ∈ middle, p x = false) →
      (middle ++ rest).dropWhile p = middle ++ rest := by
    intro middle rest hne hmiddle
    obtain ⟨x, middle, rfl⟩ := List.exists_cons_of_ne_nil hne
    exact List.dropWhile_cons_of_neg (by simp [hmiddle x List.mem_cons_self])
  rw [trimBoth, List.append_assoc, List.dropWhile_append_of_pos hfront]
  by_cases hempty : l = []
  · rw [hempty, List.nil_append, List.dropWhile_eq_nil_iff.mpr hback]
    rfl
  · have hreverse : ∀ x ∈ back.reverse, p x = true := fun x hx => hback x (List.mem_reverse.mp hx)
    have hmiddle := hstart [] (List.reverse_ne_nil_iff.mpr hempty) fun x hx =>
      hl x (List.mem_reverse.mp hx)
    rw [List.append_nil] at hmiddle
    rw [hstart back hempty hl, List.reverse_append, List.dropWhile_append_of_pos hreverse, hmiddle,
      List.reverse_reverse]

end Text

namespace Base64

section Alphabet

theorem sextet?_char : ∀ {n : Nat}, n < 64 → sextet? (char n) = some n := by decide

theorem char_ne_pad : ∀ {n : Nat}, n < 64 → char n ≠ '=' := by decide

theorem not_isBlank_char : ∀ {n : Nat}, n < 64 → Text.isBlank (char n) = false := by decide

/-- A character of the alphabet is that of its six bits. -/
theorem char_of_sextet? {c : Char} {n : Nat} (h : sextet? c = some n) : n < 64 ∧ char n = c := by
  have hascii : c.toNat < 128 := by
    unfold sextet? at h
    grind
  have hall : ∀ k < 128, (sextet? (Char.ofNat k)).all
      (fun n => decide (n < 64 ∧ char n = Char.ofNat k)) = true := by decide
  have hc := hall c.toNat hascii
  rw [Char.ofNat_toNat, h] at hc
  exact of_decide_eq_true hc

end Alphabet

/-- Four characters that end in none of the padding are three bytes. -/
theorem decode?_of_ne_pad {a b c d : Char} (hd : d ≠ '=') (rest : List Char) :
    decode? (a :: b :: c :: d :: rest) = do
      let a ← sextet? a
      let b ← sextet? b
      let c ← sextet? c
      let d ← sextet? d
      let bytes ← decode? rest
      return (a * 4 + b / 16).toUInt8 :: (b % 16 * 16 + c / 4).toUInt8
        :: (c % 4 * 64 + d).toUInt8 :: bytes := by
  rw [decode?]
  · intro _ hpad _
    exact hd hpad
  · intro hpad _
    exact hd hpad

theorem decode?_of_pad {a b c : Char} (hc : c ≠ '=') :
    decode? [a, b, c, '='] = (do
      let a ← sextet? a
      let b ← sextet? b
      let c ← sextet? c
      if c % 4 = 0 then some [(a * 4 + b / 16).toUInt8, (b % 16 * 16 + c / 4).toUInt8]
      else none) := by
  rw [decode?]
  exact hc

/-- What was written is read again. -/
theorem decode?_encode (bytes : List UInt8) : decode? (encode bytes) = some bytes := by
  have hbyte : ∀ {a : UInt8} {n : Nat}, n = a.toNat → n.toUInt8 = a := by
    rintro a _ rfl
    exact UInt8.ofNat_toNat
  fun_induction encode bytes with
  | case1 => rfl
  | case2 a =>
      have ha := a.toNat_lt
      rw [decode?, sextet?_char (by omega), sextet?_char (by omega)]
      simp only [Option.bind_eq_bind, Option.bind_some]
      rw [if_pos (by omega), hbyte (a := a) (by omega)]
  | case3 a b =>
      have ha := a.toNat_lt
      have hb := b.toNat_lt
      rw [decode?_of_pad (char_ne_pad (by omega)), sextet?_char (by omega), sextet?_char (by omega),
        sextet?_char (by omega)]
      simp only [Option.bind_eq_bind, Option.bind_some]
      rw [if_pos (by omega), hbyte (a := a) (by omega), hbyte (a := b) (by omega)]
  | case4 a b c rest ih =>
      have ha := a.toNat_lt
      have hb := b.toNat_lt
      have hc := c.toNat_lt
      rw [decode?_of_ne_pad (char_ne_pad (by omega)), sextet?_char (by omega),
        sextet?_char (by omega), sextet?_char (by omega), sextet?_char (by omega), ih]
      simp only [Option.bind_eq_bind, Option.bind_some]
      rw [hbyte (a := a) (by omega), hbyte (a := b) (by omega), hbyte (a := c) (by omega)]
      rfl

/-- Bytes are read from nothing but their written form. -/
theorem eq_encode_of_decode? {cs : List Char} {bytes : List UInt8} (h : decode? cs = some bytes) :
    cs = encode bytes := by
  have hbyte : ∀ {n : Nat}, n < 256 → n.toUInt8.toNat = n := UInt8.toNat_ofNat_of_lt
  fun_induction decode? cs generalizing bytes with
  | case1 =>
      cases h
      rfl
  | case2 a b =>
      simp only [Option.bind_eq_bind, Option.bind_eq_some_iff] at h
      obtain ⟨i, hi, j, hj, h⟩ := h
      split at h
      · obtain ⟨hi, rfl⟩ := char_of_sextet? hi
        obtain ⟨hj, rfl⟩ := char_of_sextet? hj
        cases h
        have hfirst : (i * 4 + j / 16) / 4 = i := by omega
        have hsecond : (i * 4 + j / 16) % 4 * 16 = j := by omega
        rw [encode, hbyte (by omega), hfirst, hsecond]
      · cases h
  | case3 a b c hc =>
      simp only [Option.bind_eq_bind, Option.bind_eq_some_iff] at h
      obtain ⟨i, hi, j, hj, k, hk, h⟩ := h
      split at h
      · obtain ⟨hi, rfl⟩ := char_of_sextet? hi
        obtain ⟨hj, rfl⟩ := char_of_sextet? hj
        obtain ⟨hk, rfl⟩ := char_of_sextet? hk
        cases h
        have hfirst : (i * 4 + j / 16) / 4 = i := by omega
        have hsecond : (i * 4 + j / 16) % 4 * 16 + (j % 16 * 16 + k / 4) / 16 = j := by omega
        have hthird : (j % 16 * 16 + k / 4) % 16 * 4 = k := by omega
        rw [encode, hbyte (by omega), hbyte (by omega), hfirst, hsecond, hthird]
      · cases h
  | case4 a b c d rest hone htwo ih =>
      simp only [Option.bind_eq_bind, Option.bind_eq_some_iff] at h
      obtain ⟨i, hi, j, hj, k, hk, l, hl, later, hlater, h⟩ := h
      obtain ⟨hi, rfl⟩ := char_of_sextet? hi
      obtain ⟨hj, rfl⟩ := char_of_sextet? hj
      obtain ⟨hk, rfl⟩ := char_of_sextet? hk
      obtain ⟨hl, rfl⟩ := char_of_sextet? hl
      cases h
      have hfirst : (i * 4 + j / 16) / 4 = i := by omega
      have hsecond : (i * 4 + j / 16) % 4 * 16 + (j % 16 * 16 + k / 4) / 16 = j := by omega
      have hthird : (j % 16 * 16 + k / 4) % 16 * 4 + (k % 4 * 64 + l) / 64 = k := by omega
      have hfourth : (k % 4 * 64 + l) % 64 = l := by omega
      rw [encode, hbyte (by omega), hbyte (by omega), hbyte (by omega), hfirst, hsecond, hthird,
        hfourth, ← ih hlater]
  | case5 => cases h

theorem decode?_eq_some_iff {cs : List Char} {bytes : List UInt8} :
    decode? cs = some bytes ↔ cs = encode bytes := by
  refine ⟨eq_encode_of_decode?, ?_⟩
  rintro rfl
  exact decode?_encode bytes

/-- A written form is made of characters of the alphabet and of padding. -/
theorem exists_of_mem_encode {bytes : List UInt8} {c : Char} (h : c ∈ encode bytes) :
    c = '=' ∨ ∃ n < 64, c = char n := by
  fun_induction encode bytes with
  | case1 => cases h
  | case2 a =>
      have ha := a.toNat_lt
      simp only [List.mem_cons, List.not_mem_nil, or_false] at h
      rcases h with rfl | rfl | rfl | rfl
      · exact .inr ⟨_, by omega, rfl⟩
      · exact .inr ⟨_, by omega, rfl⟩
      · exact .inl rfl
      · exact .inl rfl
  | case3 a b =>
      have ha := a.toNat_lt
      have hb := b.toNat_lt
      simp only [List.mem_cons, List.not_mem_nil, or_false] at h
      rcases h with rfl | rfl | rfl | rfl
      · exact .inr ⟨_, by omega, rfl⟩
      · exact .inr ⟨_, by omega, rfl⟩
      · exact .inr ⟨_, by omega, rfl⟩
      · exact .inl rfl
  | case4 a b c' rest ih =>
      have ha := a.toNat_lt
      have hb := b.toNat_lt
      have hc := c'.toNat_lt
      simp only [List.mem_cons] at h
      rcases h with rfl | rfl | rfl | rfl | h
      · exact .inr ⟨_, by omega, rfl⟩
      · exact .inr ⟨_, by omega, rfl⟩
      · exact .inr ⟨_, by omega, rfl⟩
      · exact .inr ⟨_, by omega, rfl⟩
      · exact ih h

theorem not_isBlank_of_mem_encode {bytes : List UInt8} :
    ∀ c ∈ encode bytes, Text.isBlank c = false := by
  intro c hc
  obtain rfl | ⟨n, hn, rfl⟩ := exists_of_mem_encode hc
  · decide
  · exact not_isBlank_char hn

/-- What a text is read as that may have white space around it. -/
theorem decode?_trimBoth_eq_some_iff {cs : List Char} {bytes : List UInt8} :
    decode? (Text.trimBoth Text.isBlank cs) = some bytes ↔
      ∃ front back, cs = front ++ encode bytes ++ back ∧
        ∀ c ∈ front ++ back, Text.isBlank c = true := by
  rw [decode?_eq_some_iff]
  constructor
  · intro h
    rw [← h]
    exact Text.exists_eq_trimBoth Text.isBlank cs
  · rintro ⟨front, back, rfl, hends⟩
    exact Text.trimBoth_append hends not_isBlank_of_mem_encode

end Base64

end ReportGateway
