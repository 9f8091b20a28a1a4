import Mathlib.Logic.Relation
import ReportGateway.Proofs.Refusal
import ReportGateway.Proofs.Rereading
import ReportGateway.Proofs.Scanning
import ReportGateway.Proofs.Sextets
import ReportGateway.Proofs.Shapes

/-!
Whom the identity header names. A text bears a document (`Bears`), a document declares four ids, each of
which is empty where it is not given (`Declares`), and the ids name a caller (`Ids.Name`). Each id may be
spelled in several ways: a number is as good as its digits, and an id that is left out is as good as one
that is `null` or empty. Whichever way an id is spelled, wherever it stands and whatever else is wrong
with the document, a header names the same caller or none (`Respells`).
-/

namespace ReportGateway

open Json (Document Fields Literal Read Value IsRecord part? Puts)

namespace Json.Literal

/-- A literal spells a natural number by its digits alone, without a sign, a point or an exponent. -/
structure Denotes (l : Literal) (n : Nat) : Prop where
  integral : l.integral = true
  unsigned : l.negative = false
  value : Decimal.value l.whole = n

theorem denotes_ofInt (n : Nat) : (ofInt n).Denotes n where
  integral := rfl
  unsigned := by simp [ofInt]
  value := by simp [ofInt, Decimal.value_digits]

namespace Denotes

variable {l : Literal} {n : Nat}

theorem int?_eq (h : l.Denotes n) (hn : n < Nat.pow 2 64) : l.int? = some (n : Int) := by
  have hlow : (Int.pow 2 63 : Int) = 9223372036854775808 := by decide
  have hhigh : (Int.pow 2 64 : Int) = 18446744073709551616 := by decide
  have hlimit : Nat.pow 2 64 = 18446744073709551616 := by decide
  have hrange : Json.inRange n = true := by
    simp only [Json.inRange, hlow, hhigh, Bool.and_eq_true, decide_eq_true_eq]
    omega
  simp [Literal.int?, h.integral, h.unsigned, h.value, hrange]

/-- An integer that is not less than zero was written without a sign. -/
theorem of_int? {m : Int} (h : l.int? = some m) (hm : 0 ≤ m) : l.Denotes m.toNat := by
  unfold Literal.int? at h
  split at h
  · rename_i hintegral
    dsimp only at h
    split at h
    · split at h
      · cases h
        omega
      · cases h
    · rename_i hunsigned
      split at h
      · cases h
        exact ⟨hintegral, Bool.eq_false_iff.mpr hunsigned, (Int.toNat_natCast _).symm⟩
      · cases h
  · cases h

end Denotes

end Json.Literal

namespace Caller

section Ids

/-- A document is an id with a text: it is that text, or a number that has it for its digits. -/
inductive IsId : Document → String → Prop
  | text (t : String) : IsId (.string (some t)) t
  | number {l : Literal} {n : Nat} (hl : l.Denotes n) (hn : n < Nat.pow 2 64) :
      IsId (.number l) (Decimal.text n)

/-- The text of what may be left out, or be `null`; it is empty then. -/
inductive TextOf (P : Document → String → Prop) : Option Document → String → Prop
  | absent : TextOf P none ""
  | null : TextOf P (some .null) ""
  | present {d : Document} {t : String} (h : P d t) : TextOf P (some d) t

/-- A record of one id. -/
def HoldsId (name : String) (d : Document) (t : String) : Prop :=
  IsRecord [name] d ∧ TextOf IsId (part? [name] name d) t

/-- The ids that a document gives, as texts. -/
structure Ids where
  account : String
  org : String
  internalOrg : String
  user : String
deriving DecidableEq

/-- A record of what is known of a caller gives ids. -/
structure GivesIds (d : Document) (ids : Ids) : Prop where
  record : IsRecord Claim.fieldNames d
  account : TextOf IsId (part? Claim.fieldNames "account_number" d) ids.account
  org : TextOf IsId (part? Claim.fieldNames "org_id" d) ids.org
  internalOrg : TextOf (HoldsId "org_id") (part? Claim.fieldNames "internal" d) ids.internalOrg
  user : TextOf (HoldsId "user_id") (part? Claim.fieldNames "user" d) ids.user

/-- A document declares ids: it is a record of one field, in which they are given. -/
def Declares (d : Document) (ids : Ids) : Prop :=
  IsRecord ["identity"] d ∧
    ∃ body, part? ["identity"] "identity" d = some body ∧ GivesIds body ids

/-- The first of two texts, unless it is empty. -/
def firstOf (a b : String) : String := if a = "" then b else a

/-- Ids name a caller: the organization stands in one of two places, and the account stands for a user
who is not named. -/
structure Ids.Name (ids : Ids) (caller : Caller) : Prop where
  org : caller.org = firstOf ids.org ids.internalOrg
  account : caller.account = ids.account
  user : caller.user = firstOf ids.user ids.account
  hasOrg : caller.org ≠ ""
  hasUser : caller.user ≠ ""

/-- A text is a document in base64, with white space around it. -/
def Bears (value : String) (d : Document) : Prop :=
  ∃ front bytes back, value.toList = front ++ Base64.encode bytes ++ back ∧
    (∀ c ∈ front ++ back, Text.isBlank c = true) ∧ Document.read? bytes = some d

end Ids

section Readers

variable {room : Nat} {d : Document} {t name : String} {f : Fields}

theorem nat64_eq_some_iff {l : Literal} {n : Nat} :
    Read.nat64 room (.number l) = some n ↔ l.Denotes n ∧ n < Nat.pow 2 64 := by
  have hhigh : (Int.pow 2 64 : Int) = 18446744073709551616 := by decide
  have hlimit : Nat.pow 2 64 = 18446744073709551616 := by decide
  have hnat : Read.nat64 room (.number l) = (l.int?.bind fun m =>
      if 0 ≤ m ∧ m ≤ Int.pow 2 64 - 1 then some m else none).map Int.toNat := rfl
  rw [hnat, Option.map_eq_some_iff]
  constructor
  · rintro ⟨m, hm, rfl⟩
    obtain ⟨k, hk, hm⟩ := Option.bind_eq_some_iff.mp hm
    split at hm
    · rename_i hbounds
      cases hm
      exact ⟨.of_int? hk hbounds.1, by omega⟩
    · cases hm
  · rintro ⟨hl, hn⟩
    exact ⟨n, by rw [hl.int?_eq hn, Option.bind_some, if_pos (by omega)], Int.toNat_natCast n⟩

/-- What may be left out is read as its text. -/
theorem textOf_iff {α : Type} {item : Read α} (text : α → String) {P : Document → String → Prop}
    (hitem : ∀ d t, d ≠ .null → ((∃ y, item f.room d = some y ∧ text y = t) ↔ P d t))
    (hnull : ∀ t, ¬P .null t) :
    (∃ x, f.withDefault name none (Read.optional item) = some x ∧ (x.map text).getD "" = t) ↔
      TextOf P (f.present.lookup name) t := by
  rw [Fields.withDefault]
  cases f.present.lookup name with
  | none =>
      constructor
      · rintro ⟨_, ⟨⟩, rfl⟩
        exact .absent
      · rintro ⟨⟩
        exact ⟨none, rfl, rfl⟩
  | some d =>
      by_cases hd : d = .null
      · subst hd
        constructor
        · rintro ⟨_, ⟨⟩, rfl⟩
          exact .null
        · rintro (_ | _ | h)
          · exact ⟨none, rfl, rfl⟩
          · exact absurd h (hnull t)
      · have hoptional : Read.optional item f.room d = (item f.room d).map some := by
          cases d <;> first | rfl | exact absurd rfl hd
        dsimp only
        rw [hoptional]
        constructor
        · rintro ⟨_, hx, rfl⟩
          obtain ⟨y, hy, rfl⟩ := Option.map_eq_some_iff.mp hx
          exact .present ((hitem d _ hd).mp ⟨y, hy, rfl⟩)
        · rintro (_ | _ | h)
          · exact absurd rfl hd
          · obtain ⟨y, hy, rfl⟩ := (hitem d t hd).mpr h
            exact ⟨some y, by rw [hy]; rfl, rfl⟩

theorem isId_iff : id room d = some t ↔ IsId d t := by
  cases d with
  | string text =>
      cases text with
      | none => exact ⟨nofun, nofun⟩
      | some s =>
          constructor
          · rintro ⟨⟩
            exact .text _
          · rintro ⟨⟩
            rfl
  | number l =>
      show (Read.nat64 room (.number l)).map Decimal.text = some t ↔ _
      rw [Option.map_eq_some_iff]
      constructor
      · rintro ⟨n, hn, rfl⟩
        obtain ⟨hl, hn⟩ := nat64_eq_some_iff.mp hn
        exact .number hl hn
      · rintro (_ | ⟨hl, hn⟩)
        exact ⟨_, nat64_eq_some_iff.mpr ⟨hl, hn⟩, rfl⟩
  | _ => exact ⟨nofun, nofun⟩

theorem optionalId_iff :
    (∃ x, optionalId f name = some x ∧ x.getD "" = t) ↔ TextOf IsId (f.present.lookup name) t := by
  have hid : ∀ d t, d ≠ .null → ((∃ y, id f.room d = some y ∧ y = t) ↔ IsId d t) := by
    simp [isId_iff]
  rw [← textOf_iff (fun s => s) hid nofun]
  simp [optionalId]

theorem idIn_iff (d : Document) (t : String) :
    (∃ x, idIn name (room + 1) d = some x ∧ x.getD "" = t) ↔ HoldsId name d t := by
  have hread : idIn name (room + 1) d
      = (Fields.ofDocument? [name] (room + 1) d).bind fun f => optionalId f name := rfl
  rw [hread, HoldsId, ← Json.ofDocument?_isSome_iff]
  cases hfields : Fields.ofDocument? [name] (room + 1) d with
  | none => simp
  | some f =>
      rw [← Json.lookup_of_ofDocument? hfields List.mem_cons_self, ← optionalId_iff]
      simp

theorem optionalIdIn_iff {inner : String} (hroom : f.room = room + 1) :
    (∃ x, f.withDefault name none (Read.optional (idIn inner)) = some x ∧ x.join.getD "" = t) ↔
      TextOf (HoldsId inner) (f.present.lookup name) t := by
  have hid : ∀ d t, d ≠ .null →
      ((∃ y, idIn inner f.room d = some y ∧ y.getD "" = t) ↔ HoldsId inner d t) := by
    intro d t _
    rw [hroom]
    exact idIn_iff d t
  have hnull : ∀ t, ¬HoldsId inner .null t := fun _ h => h.1
  rw [← textOf_iff (fun x : Option String => x.getD "") hid hnull]
  refine exists_congr fun x => and_congr_right fun _ => ?_
  cases x <;> rfl

/-- The ids that were read. -/
def Claim.ids (c : Claim) : Ids :=
  ⟨c.account.getD "", c.org.getD "", c.internalOrg.getD "", c.user.getD ""⟩

theorem givesIds_iff {ids : Ids} :
    (∃ c, Claim.read (room + 2) d = some c ∧ c.ids = ids) ↔ GivesIds d ids := by
  have hparts : ∀ {f}, Fields.ofDocument? Claim.fieldNames (room + 2) d = some f →
      ∀ {name}, name ∈ Claim.fieldNames → f.present.lookup name = part? Claim.fieldNames name d :=
    fun hf _ hname => Json.lookup_of_ofDocument? hf hname
  constructor
  · rintro ⟨c, hread, rfl⟩
    simp only [Claim.read, Json.bind_eq_some] at hread
    obtain ⟨f, hf, a, ha, o, ho, i, hi, u, hu, hread⟩ := hread
    cases hread
    have hroom : f.room = room + 1 := by
      have hroom := Fields.room_eq hf
      omega
    exact {
      record := Json.isRecord_of_fields hf
      account := by
        rw [← hparts hf (by decide)]
        exact optionalId_iff.mp ⟨a, ha, rfl⟩
      org := by
        rw [← hparts hf (by decide)]
        exact optionalId_iff.mp ⟨o, ho, rfl⟩
      internalOrg := by
        rw [← hparts hf (by decide)]
        exact (optionalIdIn_iff hroom).mp ⟨i, hi, rfl⟩
      user := by
        rw [← hparts hf (by decide)]
        exact (optionalIdIn_iff hroom).mp ⟨u, hu, rfl⟩ }
  · rintro ⟨hrecord, haccount, horg, hinternal, huser⟩
    obtain ⟨f, hf⟩ := hrecord.exists_fields (room + 1)
    have hroom : f.room = room + 1 := by
      have hroom := Fields.room_eq hf
      omega
    rw [← hparts hf (by decide)] at haccount horg hinternal huser
    obtain ⟨a, ha, haccount⟩ := optionalId_iff.mpr haccount
    obtain ⟨o, ho, horg⟩ := optionalId_iff.mpr horg
    obtain ⟨i, hi, hinternal⟩ := (optionalIdIn_iff hroom).mpr hinternal
    obtain ⟨u, hu, huser⟩ := (optionalIdIn_iff hroom).mpr huser
    refine ⟨⟨a, o, i.join, u.join⟩, ?_, ?_⟩
    · simp only [Claim.read, Json.bind_eq_some]
      exact ⟨f, hf, a, ha, o, ho, i, hi, u, hu, rfl⟩
    · rw [Claim.ids, haccount, horg, hinternal, huser]

theorem declares_iff {ids : Ids} :
    (∃ c, Read.envelope "identity" Claim.read (room + 3) d = some c ∧ c.ids = ids) ↔
      Declares d ids := by
  constructor
  · rintro ⟨c, hread, rfl⟩
    simp only [Read.envelope, Fields.required, Json.bind_eq_some] at hread
    obtain ⟨f, hf, body, hbody, hc⟩ := hread
    have hroom : f.room = room + 2 := by
      have hroom := Fields.room_eq hf
      omega
    rw [hroom] at hc
    rw [Json.lookup_of_ofDocument? hf List.mem_cons_self] at hbody
    exact ⟨Json.isRecord_of_fields hf, body, hbody, givesIds_iff.mp ⟨c, hc, rfl⟩⟩
  · rintro ⟨hrecord, body, hbody, hgives⟩
    obtain ⟨f, hf⟩ := hrecord.exists_fields (room + 2)
    have hroom : f.room = room + 2 := by
      have hroom := Fields.room_eq hf
      omega
    rw [← Json.lookup_of_ofDocument? hf List.mem_cons_self] at hbody
    obtain ⟨c, hc, hids⟩ := givesIds_iff.mpr hgives
    rw [← hroom] at hc
    refine ⟨c, ?_, hids⟩
    simp only [Read.envelope, Fields.required, Json.bind_eq_some]
    exact ⟨f, hf, body, hbody, hc⟩

theorem present_eq (x : Option String) :
    Claim.present x = if x.getD "" = "" then none else some (x.getD "") := by
  cases x with
  | none => rfl
  | some s => by_cases h : s = "" <;> simp [Claim.present, h]

theorem getD_present (x : Option String) : (Claim.present x).getD "" = x.getD "" := by
  rw [present_eq]
  split
  · rename_i hempty
    exact hempty.symm
  · rfl

theorem present_eq_some_iff {x : Option String} {s : String} :
    Claim.present x = some s ↔ s = x.getD "" ∧ s ≠ "" := by
  rw [present_eq]
  split
  · rename_i hempty
    rw [hempty]
    simp
  · rename_i hne
    rw [Option.some.injEq]
    constructor
    · rintro rfl
      exact ⟨rfl, hne⟩
    · rintro ⟨rfl, -⟩
      rfl

theorem or_present_eq_some_iff {x y : Option String} {s : String} :
    (Claim.present x).or (Claim.present y) = some s ↔
      s = firstOf (x.getD "") (y.getD "") ∧ s ≠ "" := by
  rw [firstOf]
  by_cases hempty : x.getD "" = ""
  · have hnone : Claim.present x = none := by rw [present_eq, if_pos hempty]
    rw [hnone, Option.none_or, if_pos hempty, present_eq_some_iff]
  · have hsome : Claim.present x = some (x.getD "") := by rw [present_eq, if_neg hempty]
    rw [hsome, Option.some_or, ← hsome, if_neg hempty, present_eq_some_iff]

/-- The caller is the one whom the ids that were read name. -/
theorem Claim.caller?_eq_some_iff {c : Claim} {caller : Caller} :
    c.caller? = some caller ↔ c.ids.Name caller := by
  have hcaller : c.caller? = ((present c.org).or (present c.internalOrg)).bind fun org =>
      ((present c.user).or (present (some ((present c.account).getD "")))).bind fun user =>
        some ⟨org, (present c.account).getD "", user⟩ := rfl
  rw [hcaller, getD_present]
  simp only [Option.bind_eq_some_iff, or_present_eq_some_iff, Option.some.injEq]
  constructor
  · rintro ⟨org, ⟨horg, hasOrg⟩, user, ⟨huser, hasUser⟩, rfl⟩
    exact ⟨horg, rfl, huser, hasOrg, hasUser⟩
  · obtain ⟨org, account, user⟩ := caller
    rintro ⟨horg, haccount, huser, hasOrg, hasUser⟩
    cases haccount
    exact ⟨org, ⟨horg, hasOrg⟩, user, ⟨huser, hasUser⟩, rfl⟩

end Readers

section Headers

variable {value : String} {d : Document} {caller : Caller}

/-- What a document that a text bears says is all that the text says. -/
theorem ofHeader?_of_bears (h : Bears value d) :
    ofHeader? value = some caller ↔ ∃ ids, Declares d ids ∧ ids.Name caller := by
  obtain ⟨front, bytes, back, hvalue, hends, hread⟩ := h
  have hdecode : Base64.decode? (Text.trimBoth Text.isBlank value.toList) = some bytes :=
    Base64.decode?_trimBoth_eq_some_iff.mpr ⟨front, back, hvalue, hends⟩
  have hheader : ofHeader? value
      = (Read.envelope "identity" Claim.read (124 + 3) d).bind Claim.caller? := by
    rw [ofHeader?, hdecode]
    show ((Read.envelope "identity" Claim.read).ofBytes? bytes).bind Claim.caller? = _
    rw [Read.ofBytes?, hread]
    rfl
  have hdeclares : ∀ ids, (∃ c, Read.envelope "identity" Claim.read (124 + 3) d = some c ∧
      c.ids = ids) ↔ Declares d ids := fun _ => declares_iff
  simp only [hheader, Option.bind_eq_some_iff, Claim.caller?_eq_some_iff, ← hdeclares]
  constructor
  · rintro ⟨c, hc, hname⟩
    exact ⟨c.ids, ⟨c, hc, rfl⟩, hname⟩
  · rintro ⟨_, ⟨c, hc, rfl⟩, hname⟩
    exact ⟨c, hc, hname⟩

/-- Nobody is named by a text that bears no document. -/
theorem exists_bears_of_ofHeader? (h : ofHeader? value = some caller) : ∃ d, Bears value d := by
  obtain ⟨bytes, hbytes, h⟩ := Option.bind_eq_some_iff.mp h
  obtain ⟨c, hc, -⟩ := Option.bind_eq_some_iff.mp h
  obtain ⟨d, hd, -⟩ := Option.bind_eq_some_iff.mp hc
  obtain ⟨front, back, hvalue, hends⟩ := Base64.decode?_trimBoth_eq_some_iff.mp hbytes
  exact ⟨d, front, bytes, back, hvalue, hends, hd⟩

theorem ofHeader?_eq_some_iff :
    ofHeader? value = some caller ↔ ∃ d ids, Bears value d ∧ Declares d ids ∧ ids.Name caller := by
  constructor
  · intro h
    obtain ⟨d, hbears⟩ := exists_bears_of_ofHeader? h
    obtain ⟨ids, hids, hname⟩ := (ofHeader?_of_bears hbears).mp h
    exact ⟨d, ids, hbears, hids, hname⟩
  · rintro ⟨d, ids, hbears, hids, hname⟩
    exact (ofHeader?_of_bears hbears).mpr ⟨ids, hids, hname⟩

end Headers

section Respelling

variable {names : List String} {name t : String} {old : Option Document} {new d d' : Document}
  {ids : Ids}

/-- Another spelling of an id: the digits of a number, or `null` or the empty text for one that is left
out. -/
inductive Respelled : Option Document → Document → Prop
  | digits {l : Literal} {n : Nat} (hl : l.Denotes n) (hn : n < Nat.pow 2 64) :
      Respelled (some (.number l)) (.string (some (Decimal.text n)))
  | null : Respelled none .null
  | empty : Respelled none (.string (some ""))

/-- What stands under a name of a record is replaced, or what is left out is put there. -/
def Changes (names : List String) (name : String) (R : Option Document → Document → Prop)
    (d d' : Document) : Prop :=
  ∃ old new, R old new ∧ Puts names name old new d d'

/-- What stands under a name of a record is changed inside. -/
def ChangesInside (names : List String) (name : String) (R : Document → Document → Prop) :
    Document → Document → Prop :=
  Changes names name fun old new => ∃ inner, old = some inner ∧ R inner new

/-- One of the ids that a record gives is spelled otherwise. -/
inductive RespellsGiven (d d' : Document) : Prop
  | account (h : Changes Claim.fieldNames "account_number" Respelled d d')
  | org (h : Changes Claim.fieldNames "org_id" Respelled d d')
  | internalOrg
      (h : ChangesInside Claim.fieldNames "internal" (Changes ["org_id"] "org_id" Respelled) d d')
  | user (h : ChangesInside Claim.fieldNames "user" (Changes ["user_id"] "user_id" Respelled) d d')

/-- One of the ids of a document is spelled otherwise. -/
def Respells : Document → Document → Prop := ChangesInside ["identity"] "identity" RespellsGiven

theorem Respelled.textOf_iff (h : Respelled old new) :
    TextOf IsId old t ↔ TextOf IsId (some new) t := by
  cases h with
  | digits hl hn =>
      constructor
      · rintro (_ | _ | _ | ⟨hl', -⟩)
        rw [← hl'.value, hl.value]
        exact .present (.text _)
      · rintro (_ | _ | ⟨⟨⟩⟩)
        exact .present (.number hl hn)
  | null =>
      constructor
      · rintro ⟨⟩
        exact .null
      · rintro (_ | _ | h)
        · exact .absent
        · cases h
  | empty =>
      constructor
      · rintro ⟨⟩
        exact .present (.text "")
      · rintro (_ | _ | ⟨⟨⟩⟩)
        exact .absent

/-- Where only documents other than `null` count, those are what has the text. -/
theorem textOf_some_iff {P : Document → String → Prop} (hd : d ≠ .null) :
    TextOf P (some d) t ↔ P d t := by
  constructor
  · rintro (_ | _ | h)
    · exact absurd rfl hd
    · exact h
  · exact .present

theorem holdsId_iff_of_changes (h : Changes [name] name Respelled d d') :
    HoldsId name d t ↔ HoldsId name d' t := by
  obtain ⟨old, new, hid, hputs⟩ := h
  have hrecord := hputs.record_iff (by simp) List.mem_cons_self
    (Q := fun _ part => TextOf IsId part t) hid.textOf_iff
  simpa [HoldsId] using hrecord

/-- A record of one id that is spelled otherwise has the same text where it stands. -/
theorem textOf_holdsId_iff (h : Changes [name] name Respelled d d') :
    TextOf (HoldsId name) (some d) t ↔ TextOf (HoldsId name) (some d') t := by
  obtain ⟨hne, hne'⟩ : d ≠ .null ∧ d' ≠ .null := by
    obtain ⟨_, _, -, hputs⟩ := h
    exact hputs.ne_null
  rw [textOf_some_iff hne, textOf_some_iff hne', holdsId_iff_of_changes h]

/-- The part of a record under a name is as the ids have it. -/
def Ids.Fit (ids : Ids) (name : String) (part : Option Document) : Prop :=
  (name = "account_number" → TextOf IsId part ids.account) ∧
    (name = "org_id" → TextOf IsId part ids.org) ∧
    (name = "internal" → TextOf (HoldsId "org_id") part ids.internalOrg) ∧
    (name = "user" → TextOf (HoldsId "user_id") part ids.user)

theorem givesIds_iff_fit : GivesIds d ids ↔ IsRecord Claim.fieldNames d ∧
    ∀ n ∈ Claim.fieldNames, ids.Fit n (part? Claim.fieldNames n d) := by
  constructor
  · rintro ⟨hrecord, haccount, horg, hinternal, huser⟩
    refine ⟨hrecord, fun n _ => ⟨?_, ?_, ?_, ?_⟩⟩
    · rintro rfl
      exact haccount
    · rintro rfl
      exact horg
    · rintro rfl
      exact hinternal
    · rintro rfl
      exact huser
  · rintro ⟨hrecord, hfit⟩
    exact ⟨hrecord, (hfit _ (by decide)).1 rfl, (hfit _ (by decide)).2.1 rfl,
      (hfit _ (by decide)).2.2.1 rfl, (hfit _ (by decide)).2.2.2 rfl⟩

theorem RespellsGiven.givesIds_iff (h : RespellsGiven d d') : GivesIds d ids ↔ GivesIds d' ids := by
  have hnodup : Claim.fieldNames.Nodup := by decide
  rw [givesIds_iff_fit, givesIds_iff_fit]
  cases h with
  | account h =>
      obtain ⟨old, new, hid, hputs⟩ := h
      exact hputs.record_iff hnodup (by decide) (by simpa [Ids.Fit] using hid.textOf_iff)
  | org h =>
      obtain ⟨old, new, hid, hputs⟩ := h
      exact hputs.record_iff hnodup (by decide) (by simpa [Ids.Fit] using hid.textOf_iff)
  | internalOrg h =>
      obtain ⟨_, new, ⟨inner, rfl, hinner⟩, hputs⟩ := h
      exact hputs.record_iff hnodup (by decide) (by simpa [Ids.Fit] using textOf_holdsId_iff hinner)
  | user h =>
      obtain ⟨_, new, ⟨inner, rfl, hinner⟩, hputs⟩ := h
      exact hputs.record_iff hnodup (by decide) (by simpa [Ids.Fit] using textOf_holdsId_iff hinner)

/-- However an id is spelled, the document declares the same. -/
theorem Respells.declares_iff (h : Respells d d') : Declares d ids ↔ Declares d' ids := by
  obtain ⟨_, new, ⟨inner, rfl, hgiven⟩, hputs⟩ := h
  have hrecord := hputs.record_iff (by simp) List.mem_cons_self
    (Q := fun _ part => ∃ body, part = some body ∧ GivesIds body ids)
    (by simpa using hgiven.givesIds_iff)
  simpa [Declares] using hrecord

theorem declares_iff_of_respelled (h : Relation.ReflTransGen Respells d d') :
    Declares d ids ↔ Declares d' ids := by
  induction h with
  | refl => rfl
  | tail _ hlast ih => exact ih.trans hlast.declares_iff

theorem ofHeader?_of_respelled {value value' : String} (h : Relation.ReflTransGen Respells d d')
    (hbears : Bears value d) (hbears' : Bears value' d') : ofHeader? value' = ofHeader? value := by
  refine Option.ext fun caller => ?_
  rw [ofHeader?_of_bears hbears, ofHeader?_of_bears hbears']
  simp only [declares_iff_of_respelled h]

end Respelling

section Writing

/-- A document as the value of a header. -/
def header (v : Value) : String := String.ofList (Base64.encode v.encode)

theorem bears_header {v : Value} (h : v.IsExact) : Bears (header v) v.document :=
  ⟨[], v.encode, [], by simp [header], by simp, Document.read?_encode h⟩

/-- A document that declares a user of an organization. -/
def identity (org account user : String) : Value :=
  .object [("identity", .object [("account_number", .string account), ("org_id", .string org),
    ("user", .object [("user_id", .string user)])])]

theorem isRecord_document (name : String) (v : Value) :
    IsRecord [name] (Value.object [(name, v)]).document := by
  simp [IsRecord, Value.document, Value.memberDocuments]

theorem holdsId_document {name t : String} {v : Value} (h : TextOf IsId (some v.document) t) :
    HoldsId name (Value.object [(name, v)]).document t := by
  refine ⟨isRecord_document name v, ?_⟩
  simpa [part?, Value.document, Value.memberDocuments] using h

theorem declares_identity (org account user : String) :
    Declares (identity org account user).document ⟨account, org, "", user⟩ := by
  refine ⟨isRecord_document _ _, _, rfl, ?_⟩
  exact {
    record := by simp [IsRecord, Claim.fieldNames, Value.document, Value.memberDocuments]
    account := .present (.text _)
    org := .present (.text _)
    internalOrg := .absent
    user := .present (holdsId_document (.present (.text _))) }

end Writing

/-- A header names a caller exactly when it is a document in base64, with or without white space around
it, that declares ids in which an organization and a user can be found; nobody else is let in. So
everyone who is has both. How the ids are spelled does not matter, whether someone is named or nobody:
a number is its digits, and an id that is left out is `null` or empty. And whoever is written down is
named. -/
theorem header_names_caller :
    (∀ value caller, ofHeader? value = some caller ↔
      ∃ d ids, Bears value d ∧ Declares d ids ∧ ids.Name caller) ∧
    (∀ (g : Gateway) groups r place found value, r.headers.first? headerName = some value →
      ofHeader? value = none → Gateway.findRoute g.path r.path = some (place, found) →
      place.endpoint ≠ .health → ∃ response,
        g.route groups r = (pure response : Action Empty Http.Response) ∧ response.status = 401) ∧
    (∀ value caller, ofHeader? value = some caller → caller.org ≠ "" ∧ caller.user ≠ "") ∧
    (∀ value value' d d', Relation.ReflTransGen Respells d d' → Bears value d → Bears value' d' →
      ofHeader? value' = ofHeader? value) ∧
    (∀ v ids caller, v.IsExact → Declares v.document ids → ids.Name caller →
      ofHeader? (header v) = some caller) ∧
    (∀ org account user, org ≠ "" → user ≠ "" →
      ofHeader? (header (identity org account user)) = some ⟨org, account, user⟩) := by
  have hwritten : ∀ v ids caller, v.IsExact → Declares v.document ids → ids.Name caller →
      ofHeader? (header v) = some caller := fun _ ids _ hexact hids hname =>
    (ofHeader?_of_bears (bears_header hexact)).mpr ⟨ids, hids, hname⟩
  refine ⟨fun _ _ => ofHeader?_eq_some_iff, ?_, ?_, ?_, hwritten, ?_⟩
  · intro g groups r place found value hvalue hnobody hroute hprotected
    have hunknown : Gateway.caller? r.headers = none :=
      (Gateway.caller?_eq_none_iff _).mpr (.inr ⟨value, hvalue, .inr hnobody⟩)
    obtain ⟨response, hresponse, hstatus, -⟩ :=
      Gateway.route_of_unknown hunknown hroute hprotected groups
    exact ⟨response, hresponse, hstatus⟩
  · intro value caller h
    obtain ⟨_, _, -, -, hname⟩ := ofHeader?_eq_some_iff.mp h
    exact ⟨hname.hasOrg, hname.hasUser⟩
  · intro value value' d d' h hbears hbears'
    exact ofHeader?_of_respelled h hbears hbears'
  · intro org account user horg huser
    refine hwritten _ _ _ ?_ (declares_identity org account user) ?_
    · simp [identity]
    · exact {
        org := by simp [firstOf, horg]
        account := rfl
        user := by simp [firstOf, huser]
        hasOrg := horg
        hasUser := huser }

section Numbers

/-- A user of account 1234 in an organization that is named in the second place only. -/
def numbers (org : Value) : Value :=
  .object [("identity", .object [("account_number", .int 1234),
    ("internal", .object [("org_id", org)]), ("user", .object [("user_id", .string "u-9")])])]

/-- The same with nothing in the first place. -/
def digits (org : Value) : Value :=
  .object [("identity", .object [("account_number", .int 1234),
    ("internal", .object [("org_id", org)]), ("org_id", .null),
    ("user", .object [("user_id", .string "u-9")])])]

theorem respells_numbers {org org' : Value}
    (h : Respelled (some org.document) org'.document) :
    Respells (numbers org).document (numbers org').document :=
  ⟨_, _, ⟨_, rfl, .internalOrg ⟨_, _, ⟨_, rfl, _, _, h, .member [] [] _ _⟩,
    .member [(some "account_number", (Value.int 1234).document)]
      [(some "user", (Value.object [("user_id", .string "u-9")]).document)] _ _⟩⟩,
    .member [] [] _ _⟩

theorem respells_digits (org : Value) : Respells (numbers org).document (digits org).document :=
  ⟨_, _, ⟨_, rfl, .org ⟨_, _, .null,
    .newMember [(some "account_number", (Value.int 1234).document),
        (some "internal", (Value.object [("org_id", org)]).document)]
      [(some "user", (Value.object [("user_id", .string "u-9")]).document)] _ (by simp)⟩⟩,
    .member [] [] _ _⟩

theorem declares_numbers {org : Value} {t : String} (h : TextOf IsId (some org.document) t) :
    Declares (numbers org).document ⟨Decimal.text 1234, "", t, "u-9"⟩ := by
  refine ⟨isRecord_document _ _, _, rfl, ?_⟩
  exact {
    record := by simp [IsRecord, Claim.fieldNames, Value.document, Value.memberDocuments]
    account := .present (.number (Json.Literal.denotes_ofInt 1234) (by decide))
    org := .absent
    internalOrg := .present (holdsId_document h)
    user := .present (holdsId_document (.present (.text _))) }

theorem header_names_caller_of_numbers :
    Bears (header (numbers (.int 42))) (numbers (.int 42)).document ∧
      Bears (header (digits (.string "42"))) (digits (.string "42")).document ∧
      Relation.ReflTransGen Respells (numbers (.int 42)).document (digits (.string "42")).document ∧
      ofHeader? (header (numbers (.int 42))) = some ⟨"42", "1234", "u-9"⟩ ∧
      ofHeader? (header (digits (.string "42"))) = some ⟨"42", "1234", "u-9"⟩ := by
  obtain ⟨-, -, -, hspelled, hwritten, -⟩ := header_names_caller
  have hbears : Bears (header (numbers (.int 42))) (numbers (.int 42)).document :=
    bears_header (by simp [numbers])
  have hbears' : Bears (header (digits (.string "42"))) (digits (.string "42")).document :=
    bears_header (by simp [digits])
  have htext : Decimal.text 42 = "42" := by decide +kernel
  have hdigits : Respelled (some (Value.int 42).document) (Value.string "42").document := by
    have hdigits := Respelled.digits (Json.Literal.denotes_ofInt 42) (by decide)
    rwa [htext] at hdigits
  have hrespells : Relation.ReflTransGen Respells (numbers (.int 42)).document
      (digits (.string "42")).document :=
    (Relation.ReflTransGen.single (respells_numbers hdigits)).tail (respells_digits _)
  have hdeclares : Declares (numbers (.int 42)).document ⟨Decimal.text 1234, "", "42", "u-9"⟩ :=
    declares_numbers (hdigits.textOf_iff.mpr (.present (.text "42")))
  have haccount : Decimal.text 1234 = "1234" := by decide +kernel
  rw [haccount] at hdeclares
  have hname : ofHeader? (header (numbers (.int 42))) = some ⟨"42", "1234", "u-9"⟩ :=
    hwritten _ _ _ (by simp [numbers]) hdeclares
      { org := rfl, account := rfl, user := rfl, hasOrg := by decide, hasUser := by decide }
  exact ⟨hbears, hbears', hrespells, hname, (hspelled _ _ _ _ hrespells hbears hbears').trans hname⟩

end Numbers

end Caller

end ReportGateway
