import Mathlib.Data.List.Forall2
import Mathlib.Data.Nat.Digits.Defs
import ReportGateway.Cluster.Uuid

/-!
How identifiers are spelled. An identifier has 32 hexadecimal digits, which are written one after the
other, or in five groups with hyphens between them; the groups may stand in braces or after a mark.
`Spelled` says so of a text, whichever texts are taken for the mark, and what is read is what is
spelled with `urn:uuid:` in any letter case (`parse?_eq_some_iff`). Every identifier has one canonical
spelling, which is read as that identifier, so that canonical spellings are alike only when the
identifiers are (`text_injective`).
-/

namespace ReportGateway

/-- Every element has its own image, one by one. -/
theorem mapM_eq_some_iff {α β : Type} {f : α → Option β} {l : List α} {xs : List β} :
    l.mapM f = some xs ↔ List.Forall₂ (fun a x => f a = some x) l xs := by
  induction l generalizing xs with
  | nil => cases xs <;> simp
  | cons a l ih =>
      rw [List.mapM_cons]
      constructor
      · intro h
        obtain ⟨x, hx, h⟩ := Option.bind_eq_some_iff.mp h
        obtain ⟨rest, hrest, h⟩ := Option.bind_eq_some_iff.mp h
        cases h
        exact .cons hx (ih.mp hrest)
      · intro h
        obtain ⟨x, rest, hx, hrest, rfl⟩ := List.forall₂_cons_left_iff.mp h
        rw [hx, ih.mpr hrest]
        rfl

theorem isSome_mapM_iff {α β : Type} {f : α → Option β} {l : List α} :
    (l.mapM f).isSome = true ↔ ∀ a ∈ l, ∃ x, f a = some x := by
  induction l with
  | nil => simp
  | cons a l ih =>
      rw [List.mapM_cons, List.forall_mem_cons, ← ih]
      cases f a with
      | none => simp
      | some x => cases l.mapM f <;> simp

namespace Radix

/-- A character is written for a hexadecimal digit, in either letter case. -/
def Writes (c : Char) (d : Nat) : Prop :=
  "0123456789abcdef".toList[d]? = some c ∨ "0123456789ABCDEF".toList[d]? = some c

instance (c : Char) (d : Nat) : Decidable (Writes c d) := inferInstanceAs (Decidable (_ ∨ _))

theorem Writes.lt {c : Char} {d : Nat} (h : Writes c d) : d < 16 := by
  rcases h with h | h
  · exact (List.getElem?_eq_some_iff.mp h).1
  · exact (List.getElem?_eq_some_iff.mp h).1

theorem digit?_eq_some_iff {c : Char} {d : Nat} : digit? 16 c = some d ↔ Writes c d := by
  constructor
  · intro h
    have hascii : c.toNat < 128 := by
      unfold digit? at h
      grind
    have hall : ∀ k < 128, (digit? 16 (Char.ofNat k)).all
        (fun d => decide (Writes (Char.ofNat k) d)) = true := by decide
    have hc := hall c.toNat hascii
    rw [Char.ofNat_toNat, h] at hc
    exact of_decide_eq_true hc
  · intro h
    have hlower : ∀ d < 16, ("0123456789abcdef".toList[d]?).all
        (fun c => decide (digit? 16 c = some d)) = true := by decide
    have hupper : ∀ d < 16, ("0123456789ABCDEF".toList[d]?).all
        (fun c => decide (digit? 16 c = some d)) = true := by decide
    have hd := h.lt
    rcases h with h | h
    · have hc := hlower d hd
      rw [h] at hc
      exact of_decide_eq_true hc
    · have hc := hupper d hd
      rw [h] at hc
      exact of_decide_eq_true hc

theorem char_writes {d : Nat} (h : d < 16) : "0123456789abcdef".toList[d]? = some (char d) := by
  have hall : ∀ d < 16, "0123456789abcdef".toList[d]? = some (char d) := by decide
  exact hall d h

/-- Digits that stand most significant first are those of a number in reverse. -/
theorem value_eq_ofDigits (radix : Nat) (ds : List Nat) :
    value radix ds = Nat.ofDigits radix ds.reverse := by
  rw [Nat.ofDigits_eq_foldr, List.foldr_reverse, value]
  congr 1
  funext n d
  exact Nat.add_comm _ _

theorem value_concat (radix : Nat) (ds : List Nat) (d : Nat) :
    value radix (ds ++ [d]) = radix * value radix ds + d := by
  rw [value, List.foldl_append]
  rfl

end Radix

namespace Uuid

open Radix (Writes digit?_eq_some_iff char_writes value_eq_ofDigits value_concat)

/-- These are the 32 digits of an identifier, most significant first. -/
def Denotes (cs : List Char) (u : Uuid) : Prop :=
  ∃ ds, List.Forall₂ Writes cs ds ∧ cs.length = 32 ∧ u.bits.toNat = Nat.ofDigits 16 ds.reverse

/-- The digits of an identifier in groups of 8, 4, 4, 4 and 12 with hyphens between them. -/
def Hyphenated (cs : List Char) (u : Uuid) : Prop :=
  ∃ a b c d e : List Char,
    cs = a ++ '-' :: (b ++ '-' :: (c ++ '-' :: (d ++ '-' :: e))) ∧
      a.length = 8 ∧ b.length = 4 ∧ c.length = 4 ∧ d.length = 4 ∧ e.length = 12 ∧
      Denotes (a ++ b ++ c ++ d ++ e) u

/-- The four ways to spell an identifier, for a choice of marks. -/
inductive Spelled (IsMark : List Char → Prop) : List Char → Uuid → Prop
  | plain {cs : List Char} {u : Uuid} (h : Denotes cs u) : Spelled IsMark cs u
  | hyphenated {cs : List Char} {u : Uuid} (h : Hyphenated cs u) : Spelled IsMark cs u
  | braced {cs : List Char} {u : Uuid} (h : Hyphenated cs u) :
    Spelled IsMark ('\x7b' :: (cs ++ ['\x7d'])) u
  | marked {mark cs : List Char} {u : Uuid} (hmark : IsMark mark) (h : Hyphenated cs u) :
    Spelled IsMark (mark ++ cs) u

/-- The letters `urn:uuid:` in any case. -/
def IsUrn (mark : List Char) : Prop := mark.map Char.toLower = "urn:uuid:".toList

/-- A text spells an identifier. -/
abbrev Spells (s : String) (u : Uuid) : Prop := Spelled IsUrn s.toList u

section Reading

variable {cs : List Char} {u : Uuid}

theorem digits_lt {ds : List Nat} (h : List.Forall₂ Writes cs ds) : ∀ d ∈ ds, d < 16 := by
  induction h with
  | nil => exact fun _ hd => absurd hd List.not_mem_nil
  | cons hwrites hrest ih => exact List.forall_mem_cons.mpr ⟨hwrites.lt, ih⟩

/-- No bit is lost in 32 digits. -/
theorem ofDigits_eq_iff {ds : List Nat} (hlength : ds.length = 32) (hlt : ∀ d ∈ ds, d < 16) :
    ofDigits ds = u ↔ u.bits.toNat = Nat.ofDigits 16 ds.reverse := by
  have hbound : Nat.ofDigits 16 ds.reverse < 2 ^ 128 := by
    have hpow := Nat.ofDigits_lt_base_pow_length (b := 16) (l := ds.reverse) (by decide)
      fun d hd => hlt d (List.mem_reverse.mp hd)
    rwa [List.length_reverse, hlength, show 16 ^ 32 = 2 ^ 128 from rfl] at hpow
  obtain ⟨bits⟩ := u
  rw [ofDigits, value_eq_ofDigits, Uuid.mk.injEq]
  constructor
  · rintro rfl
    rw [BitVec.toNat_ofNat, Nat.mod_eq_of_lt hbound]
  · intro h
    rw [← h, BitVec.ofNat_toNat, BitVec.setWidth_eq]

theorem ofPlain?_eq_some_iff : ofPlain? cs = some u ↔ Denotes cs u := by
  have hdigits {ds : List Nat} : cs.mapM (Radix.digit? 16) = some ds ↔ List.Forall₂ Writes cs ds := by
    simp only [mapM_eq_some_iff, digit?_eq_some_iff]
  rw [ofPlain?, Denotes]
  by_cases hlength : cs.length = 32
  · rw [if_pos hlength, Option.map_eq_some_iff]
    refine exists_congr fun ds => ?_
    rw [hdigits, and_congr_right_iff]
    intro hds
    rw [ofDigits_eq_iff (hds.length_eq.symm.trans hlength) (digits_lt hds), and_iff_right hlength]
  · rw [if_neg hlength]
    simp [hlength]

/-- What is left after some characters is what stands before one of the rest, that one, and what stands
after it. -/
theorem drop_eq_split {m n : Nat} {c : Char} (h : cs[m + n]? = some c) :
    cs.drop m = (cs.drop m).take n ++ c :: cs.drop (m + n + 1) := by
  obtain ⟨hlt, hget⟩ := List.getElem?_eq_some_iff.mp h
  rw [← hget, ← List.drop_eq_getElem_cons hlt, ← List.drop_drop, List.take_append_drop]

theorem drop_group {front back : List Char} {x : Char} {n : Nat} (h : front.length = n) :
    (front ++ x :: back).drop (n + 1) = back := by
  rw [← h, ← List.drop_drop, List.drop_left]
  rfl

theorem ofHyphenated?_eq_some_iff : ofHyphenated? cs = some u ↔ Hyphenated cs u := by
  rw [ofHyphenated?]
  constructor
  · intro h
    split at h
    · rename_i hshape
      obtain ⟨hlength, h8, h13, h18, h23⟩ := hshape
      have hfirst : cs = cs.take 8 ++ '-' :: cs.drop 9 := drop_eq_split (m := 0) h8
      have hsecond : cs.drop 9 = (cs.drop 9).take 4 ++ '-' :: cs.drop 14 := drop_eq_split h13
      have hthird : cs.drop 14 = (cs.drop 14).take 4 ++ '-' :: cs.drop 19 := drop_eq_split h18
      have hfourth : cs.drop 19 = (cs.drop 19).take 4 ++ '-' :: cs.drop 24 := drop_eq_split h23
      refine ⟨cs.take 8, (cs.drop 9).take 4, (cs.drop 14).take 4, (cs.drop 19).take 4, cs.drop 24,
        ?_, by simp [hlength], by simp [hlength], by simp [hlength], by simp [hlength],
        by simp [hlength], ofPlain?_eq_some_iff.mp h⟩
      rw [← hfourth, ← hthird, ← hsecond]
      exact hfirst
    · cases h
  · rintro ⟨a, b, c, d, e, hcs, ha, hb, hc, hd, he, h⟩
    have h9 : cs.drop 9 = b ++ '-' :: (c ++ '-' :: (d ++ '-' :: e)) := by
      rw [hcs]
      exact drop_group ha
    have h14 : cs.drop 14 = c ++ '-' :: (d ++ '-' :: e) := by
      rw [← List.drop_drop (i := 5) (j := 9), h9]
      exact drop_group hb
    have h19 : cs.drop 19 = d ++ '-' :: e := by
      rw [← List.drop_drop (i := 5) (j := 14), h14]
      exact drop_group hc
    have h24 : cs.drop 24 = e := by
      rw [← List.drop_drop (i := 5) (j := 19), h19]
      exact drop_group hd
    have h8 : cs.take 8 = a := by
      rw [hcs]
      exact List.take_left' ha
    rw [h8, h9, h14, h19, h24, List.take_left' hb, List.take_left' hc, List.take_left' hd,
      if_pos (by simp [hcs, ha, hb, hc, hd, he]), ofPlain?_eq_some_iff]
    exact h

theorem Hyphenated.length_eq (h : Hyphenated cs u) : cs.length = 36 := by
  obtain ⟨a, b, c, d, e, rfl, ha, hb, hc, hd, he, -⟩ := h
  simp [ha, hb, hc, hd, he]

theorem Denotes.length_eq (h : Denotes cs u) : cs.length = 32 := by
  obtain ⟨_, -, hlength, -⟩ := h
  exact hlength

theorem IsUrn.length_eq {mark : List Char} (h : IsUrn mark) : mark.length = 9 := by
  have hlength := congrArg List.length h
  rwa [List.length_map] at hlength

/-- A spelling of this length begins with a mark. -/
theorem Spelled.exists_mark {IsMark : List Char → Prop} (h : Spelled IsMark cs u)
    (hlength : cs.length = 45) : ∃ mark rest, IsMark mark ∧ cs = mark ++ rest := by
  cases h with
  | plain h => simp [h.length_eq] at hlength
  | hyphenated h => simp [h.length_eq] at hlength
  | braced h => simp [h.length_eq] at hlength
  | marked hmark h => exact ⟨_, _, hmark, rfl⟩

/-- What is longer than one character and stands between braces. -/
theorem eq_braced {first last : Char} (hlength : 1 < cs.length) (hfirst : cs.head? = some first)
    (hlast : cs.getLast? = some last) : cs = first :: ((cs.drop 1).dropLast ++ [last]) := by
  obtain ⟨rest, rfl⟩ := List.head?_eq_some_iff.mp hfirst
  have hrest : rest ≠ [] := by
    rintro rfl
    exact absurd hlength (by simp)
  rw [List.getLast?_cons_of_ne_nil hrest] at hlast
  obtain ⟨front, rfl⟩ := List.getLast?_eq_some_iff.mp hlast
  simp

/-- What is read is what is spelled. -/
theorem parse?_eq_some_iff {s : String} : parse? s = some u ↔ Spells s u := by
  rw [parse?, Spells]
  generalize s.toList = cs
  constructor
  · intro h
    by_cases h32 : cs.length = 32
    · rw [if_pos h32] at h
      exact .plain (ofPlain?_eq_some_iff.mp h)
    rw [if_neg h32] at h
    by_cases h36 : cs.length = 36
    · rw [if_pos h36] at h
      exact .hyphenated (ofHyphenated?_eq_some_iff.mp h)
    rw [if_neg h36] at h
    by_cases h38 : cs.length = 38
    · rw [if_pos h38] at h
      split at h
      · rename_i hbraces
        rw [eq_braced (by omega) hbraces.1 hbraces.2]
        exact .braced (ofHyphenated?_eq_some_iff.mp h)
      · cases h
    rw [if_neg h38] at h
    by_cases h45 : cs.length = 45
    · rw [if_pos h45] at h
      split at h
      · rename_i hmark
        rw [← List.take_append_drop 9 cs]
        exact .marked hmark (ofHyphenated?_eq_some_iff.mp h)
      · cases h
    rw [if_neg h45] at h
    cases h
  · intro h
    cases h with
    | plain h =>
        rw [if_pos h.length_eq]
        exact ofPlain?_eq_some_iff.mpr h
    | hyphenated h =>
        rw [if_neg (by simp [h.length_eq]), if_pos h.length_eq]
        exact ofHyphenated?_eq_some_iff.mpr h
    | braced h =>
        rw [if_neg (by simp [h.length_eq]), if_neg (by simp [h.length_eq]),
          if_pos (by simp [h.length_eq]),
          if_pos ⟨rfl, by rw [← List.cons_append, List.getLast?_concat]⟩]
        simpa using ofHyphenated?_eq_some_iff.mpr h
    | marked hmark h =>
        have hurn := hmark.length_eq
        rw [if_neg (by simp [hurn, h.length_eq]), if_neg (by simp [hurn, h.length_eq]),
          if_neg (by simp [hurn, h.length_eq]), if_pos (by simp [hurn, h.length_eq]),
          List.take_left' hurn, if_pos (show List.map Char.toLower _ = urn from hmark),
          List.drop_left' hurn]
        exact ofHyphenated?_eq_some_iff.mpr h

end Reading

section Writing

variable (u : Uuid)

theorem length_digits : u.digits.length = 32 := by
  rw [digits, List.length_map, List.length_range]

theorem digit_lt : ∀ d ∈ u.digits, d < 16 := by
  intro d hd
  obtain ⟨i, -, rfl⟩ := List.mem_map.mp hd
  exact Nat.mod_lt _ (by decide)

/-- The first digits are those of the bits above the rest. -/
theorem value_take_digits {k : Nat} (hk : k ≤ 32) :
    Radix.value 16 ((List.range k).map fun i => u.bits.toNat / Nat.pow 16 (31 - i) % 16)
      = u.bits.toNat / 16 ^ (32 - k) := by
  induction k with
  | zero =>
      have hlt : u.bits.toNat < 16 ^ 32 := u.bits.isLt
      exact (Nat.div_eq_of_lt hlt).symm
  | succ k ih =>
      have hpow : 16 ^ (32 - k) = Nat.pow 16 (31 - k) * 16 := by
        rw [show 32 - k = 31 - k + 1 by omega]
        rfl
      rw [List.range_succ, List.map_append, List.map_singleton, value_concat, ih (by omega), hpow,
        ← Nat.div_div_eq_div_mul, show 32 - (k + 1) = 31 - k by omega]
      exact Nat.div_add_mod _ 16

theorem value_digits : Radix.value 16 u.digits = u.bits.toNat := by
  have hall := u.value_take_digits (Nat.le_refl 32)
  rwa [Nat.sub_self, Nat.pow_zero, Nat.div_one] at hall

theorem denotes_digits : Denotes (u.digits.map Radix.char) u := by
  refine ⟨u.digits, ?_, by rw [List.length_map, length_digits], ?_⟩
  · rw [List.forall₂_map_left_iff, List.forall₂_same]
    exact fun d hd => Or.inl (char_writes (u.digit_lt d hd))
  · rw [← value_eq_ofDigits, value_digits]

/-- A text is the spelling of an identifier by 36 characters, which are hyphens and lower-case digits. -/
structure IsCanonical (s : String) (u : Uuid) : Prop where
  length : s.length = 36
  hyphenated : Hyphenated s.toList u
  lower : ∀ c ∈ s.toList, c = '-' ∨ c ∈ "0123456789abcdef".toList

theorem hyphenated_text : Hyphenated u.text.toList u := by
  have hlength : (u.digits.map Radix.char).length = 32 := by rw [List.length_map, length_digits]
  refine ⟨(u.digits.map Radix.char).take 8, ((u.digits.map Radix.char).drop 8).take 4,
    ((u.digits.map Radix.char).drop 12).take 4, ((u.digits.map Radix.char).drop 16).take 4,
    (u.digits.map Radix.char).drop 20, ?_, ?_⟩
  · rw [text, String.toList_ofList]
    simp only [List.append_assoc, List.cons_append]
  · refine ⟨by simp [hlength], by simp [hlength], by simp [hlength], by simp [hlength],
      by simp [hlength], ?_⟩
    rw [← List.take_add, ← List.take_add, ← List.take_add, List.take_append_drop]
    exact u.denotes_digits

theorem isCanonical_text : IsCanonical u.text u := by
  refine ⟨u.hyphenated_text.length_eq, u.hyphenated_text, fun c hc => ?_⟩
  have hdigit : ∀ c ∈ u.digits.map Radix.char, c ∈ "0123456789abcdef".toList := by
    intro c hc
    obtain ⟨d, hd, rfl⟩ := List.mem_map.mp hc
    exact List.mem_of_getElem? (char_writes (u.digit_lt d hd))
  rw [text, String.toList_ofList] at hc
  simp only [List.mem_append, List.mem_cons] at hc
  rcases hc with (((hc | rfl | hc) | rfl | hc) | rfl | hc) | rfl | hc
  · exact Or.inr (hdigit c (List.mem_of_mem_take hc))
  · exact Or.inl rfl
  · exact Or.inr (hdigit c (List.mem_of_mem_drop (List.mem_of_mem_take hc)))
  · exact Or.inl rfl
  · exact Or.inr (hdigit c (List.mem_of_mem_drop (List.mem_of_mem_take hc)))
  · exact Or.inl rfl
  · exact Or.inr (hdigit c (List.mem_of_mem_drop (List.mem_of_mem_take hc)))
  · exact Or.inl rfl
  · exact Or.inr (hdigit c (List.mem_of_mem_drop hc))

theorem parse?_text : parse? u.text = some u :=
  parse?_eq_some_iff.mpr (.hyphenated u.hyphenated_text)

theorem text_injective {u u' : Uuid} (h : u.text = u'.text) : u = u' := by
  have hread := u.parse?_text
  rw [h, parse?_text, Option.some.injEq] at hread
  exact hread.symm

end Writing

end Uuid

end ReportGateway
