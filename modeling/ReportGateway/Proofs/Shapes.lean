import Mathlib.Data.List.Basic
import ReportGateway.Json.Record

/-!
Records as they stand in documents. Whether a document is a record of some names (`IsRecord`) and what
stands in it under each of them (`part?`) is all that readers see of it. `Puts` is the putting of
something in the place of a name: in an object or an array, where something stands or where nothing does
yet. It leaves a document a record or no record, and changes what stands under that name alone.
-/

namespace ReportGateway.Json

section Records

variable {names : List String} {name other : String}

/-- A record: an object with readable names that has each of the names at most once, or an array with
at most as many items as there are names. -/
def IsRecord (names : List String) : Document → Prop
  | .object members => (∀ member ∈ members, member.1.isSome = true) ∧
      ∀ name ∈ names, (members.map Prod.fst).count (some name) ≤ 1
  | .array items => items.length ≤ names.length
  | _ => False

/-- What stands in a record under a name: the member of that name, or the item at its place. -/
def part? (names : List String) (name : String) : Document → Option Document
  | .object members => members.lookup (some name)
  | .array items => items[names.idxOf name]?
  | _ => none

theorem lookup_eq_none_iff_count {members : List (Option String × Document)} :
    members.lookup (some name) = none ↔ (members.map Prod.fst).count (some name) = 0 := by
  rw [List.lookup_eq_none_iff, List.count_eq_zero, List.mem_map, not_exists]
  refine forall_congr' fun member => ?_
  rw [not_and, bne_iff_ne, ne_comm, ne_eq]

/-- The first member of an object that is a record is not named again, if its name counts. -/
theorem isRecord_cons_iff {d : Document} {members : List (Option String × Document)} :
    IsRecord names (.object ((some name, d) :: members)) ↔
      IsRecord names (.object members) ∧ (name ∈ names → members.lookup (some name) = none) := by
  have hcount : ∀ n, (((some name, d) :: members).map Prod.fst).count (some n)
      = (members.map Prod.fst).count (some n) + if name = n then 1 else 0 := by
    intro n
    rw [List.map_cons, List.count_cons]
    simp
  simp only [IsRecord, List.forall_mem_cons, hcount, Option.isSome_some, true_and, and_assoc,
    and_congr_right_iff, lookup_eq_none_iff_count]
  intro _
  constructor
  · intro honce
    refine ⟨fun n hn => Nat.le_of_add_right_le (honce n hn), fun hname => ?_⟩
    have hself := honce name hname
    rw [if_pos rfl] at hself
    omega
  · rintro ⟨honce, hself⟩ n hn
    split
    · rename_i heq
      subst heq
      have hnone := hself hn
      omega
    · exact honce n hn

theorem known?_cons (d : Document) (members : List (Option String × Document)) :
    Fields.known? names ((some name, d) :: members)
      = (Fields.known? names members).bind fun found =>
          if name ∈ names then
            if (found.lookup name).isSome then none else some ((name, d) :: found)
          else some found := rfl

/-- The members of the names are the first ones of each name. -/
theorem lookup_of_known? {members : List (Option String × Document)}
    {found : List (String × Document)} (h : Fields.known? names members = some found)
    (hname : name ∈ names) : found.lookup name = members.lookup (some name) := by
  induction members generalizing found with
  | nil =>
      cases h
      rfl
  | cons member members ih =>
      obtain ⟨n | n, d⟩ := member
      · cases h
      · rw [known?_cons] at h
        obtain ⟨later, hlater, h⟩ := Option.bind_eq_some_iff.mp h
        have hrest := ih hlater
        have hsame : (some name == some n) = (name == n) := rfl
        rw [List.lookup_cons, hsame]
        split at h
        · split at h
          · cases h
          · cases h
            rw [List.lookup_cons, hrest]
        · rename_i hother
          cases h
          have hne : (name == n) = false := by
            rw [beq_eq_false_iff_ne]
            rintro rfl
            exact hother hname
          rw [hne, hrest]

/-- Members are found exactly in objects that are records. -/
theorem known?_isSome_iff {members : List (Option String × Document)} :
    (Fields.known? names members).isSome = true ↔ IsRecord names (.object members) := by
  induction members with
  | nil => simp [Fields.known?, IsRecord]
  | cons member members ih =>
      obtain ⟨n | n, d⟩ := member
      · simp [Fields.known?, IsRecord]
      · rw [isRecord_cons_iff, ← ih, known?_cons]
        cases hknown : Fields.known? names members with
        | none => simp
        | some found =>
            by_cases hn : n ∈ names
            · rw [← lookup_of_known? hknown hn]
              cases hlookup : found.lookup n <;> simp [hn, hlookup]
            · simp [hn]

theorem lookup_zip {α : Type} {items : List α} (hname : name ∈ names) :
    (names.zip items).lookup name = items[names.idxOf name]? := by
  induction names generalizing items with
  | nil => cases hname
  | cons n names ih =>
      cases items with
      | nil => simp
      | cons item items =>
          by_cases heq : name = n
          · subst heq
            simp
          · have hmem : name ∈ names := (List.mem_cons.mp hname).resolve_left heq
            have hne : (name == n) = false := beq_eq_false_iff_ne.mpr heq
            have hne' : (n == name) = false := beq_eq_false_iff_ne.mpr (Ne.symm heq)
            rw [List.zip_cons_cons, List.lookup_cons, hne, List.idxOf_cons, hne', cond_false,
              List.getElem?_cons_succ, ih hmem]

theorem ofDocument?_object (room : Nat) (members : List (Option String × Document)) :
    Fields.ofDocument? names (room + 1) (.object members)
      = (Fields.known? names members).map (Fields.mk room) := by
  show (Fields.known? names members).bind _ = _
  cases Fields.known? names members <;> rfl

theorem ofDocument?_array (room : Nat) (items : List Document) :
    Fields.ofDocument? names (room + 1) (.array items)
      = if items.length ≤ names.length then some ⟨room, names.zip items⟩ else none := by
  simp [Fields.ofDocument?, Fields.ofWritten?]

/-- A document is read as the fields of a record exactly when it is a record. -/
theorem ofDocument?_isSome_iff {room : Nat} {d : Document} :
    (Fields.ofDocument? names (room + 1) d).isSome = true ↔ IsRecord names d := by
  cases d with
  | object members => rw [ofDocument?_object, Option.isSome_map, known?_isSome_iff]
  | array items =>
      rw [ofDocument?_array, IsRecord]
      split <;> simp_all
  | _ => simp [Fields.ofDocument?, Fields.ofWritten?, IsRecord]

theorem isRecord_of_fields {room : Nat} {d : Document} {f : Fields}
    (h : Fields.ofDocument? names (room + 1) d = some f) : IsRecord names d :=
  ofDocument?_isSome_iff.mp (Option.isSome_of_eq_some h)

theorem IsRecord.exists_fields {d : Document} (h : IsRecord names d) (room : Nat) :
    ∃ f, Fields.ofDocument? names (room + 1) d = some f :=
  Option.isSome_iff_exists.mp (ofDocument?_isSome_iff.mpr h)

/-- The fields of a record are what stands in it under its names. -/
theorem lookup_of_ofDocument? {room : Nat} {d : Document} {f : Fields}
    (h : Fields.ofDocument? names (room + 1) d = some f) (hname : name ∈ names) :
    f.present.lookup name = part? names name d := by
  cases d with
  | object members =>
      rw [ofDocument?_object, Option.map_eq_some_iff] at h
      obtain ⟨present, hknown, rfl⟩ := h
      exact lookup_of_known? hknown hname
  | array items =>
      rw [ofDocument?_array] at h
      split at h
      · cases h
        exact lookup_zip hname
      · cases h
  | _ => cases h

end Records

section Putting

variable {names : List String} {name other : String} {old : Option Document}
  {new d d' : Document}

/-- Puts `new` in the place of a name, where `old` stands if anything does. -/
inductive Puts (names : List String) (name : String) :
    Option Document → Document → Document → Document → Prop
  | member (front back : List (Option String × Document)) (old new : Document) :
      Puts names name (some old) new (.object (front ++ (some name, old) :: back))
        (.object (front ++ (some name, new) :: back))
  | newMember (front back : List (Option String × Document)) (new : Document)
      (habsent : ∀ member ∈ front ++ back, member.1 ≠ some name) :
      Puts names name none new (.object (front ++ back))
        (.object (front ++ (some name, new) :: back))
  | item {front : List Document} (back : List Document) (old new : Document)
      (hplace : names[front.length]? = some name) :
      Puts names name (some old) new (.array (front ++ old :: back))
        (.array (front ++ new :: back))
  | newItem {items : List Document} (new : Document) (hplace : names[items.length]? = some name) :
      Puts names name none new (.array items) (.array (items ++ [new]))

/-- Putting something in a place leaves a document what it was, a record or none. -/
theorem Puts.isRecord_iff (h : Puts names name old new d d') :
    IsRecord names d ↔ IsRecord names d' := by
  cases h with
  | member front back old =>
      simp only [IsRecord, List.map_append, List.map_cons, List.forall_mem_append,
        List.forall_mem_cons]
  | newMember front back _ habsent =>
      have hnone : ((front ++ back).map Prod.fst).count (some name) = 0 := by
        rw [List.count_eq_zero, List.mem_map]
        rintro ⟨member, hmember, hname⟩
        exact habsent member hmember hname
      have hcount : ∀ n, ((front ++ (some name, new) :: back).map Prod.fst).count (some n)
          = ((front ++ back).map Prod.fst).count (some n) + if name = n then 1 else 0 := by
        intro n
        simp only [List.map_append, List.map_cons, List.count_append, List.count_cons, beq_iff_eq,
          Option.some.injEq]
        omega
      simp only [IsRecord, hcount, List.forall_mem_append, List.forall_mem_cons, Option.isSome_some,
        true_and]
      refine and_congr_right fun _ => forall_congr' fun n => imp_congr_right fun _ => ?_
      split
      · rename_i heq
        subst heq
        omega
      · rfl
  | item back old _ hplace => simp [IsRecord]
  | @newItem items _ hplace =>
      have hlt : items.length < names.length := (List.getElem?_eq_some_iff.mp hplace).1
      simp only [IsRecord, List.length_append, List.length_singleton]
      omega

theorem idxOf_eq_of_place (hnodup : names.Nodup) {i : Nat} (hplace : names[i]? = some name) :
    names.idxOf name = i := by
  have hlt : i < names.length := (List.getElem?_eq_some_iff.mp hplace).1
  have hself := List.getElem?_idxOf (List.mem_of_getElem? hplace)
  exact ((List.getElem?_inj hlt hnodup).mp (hplace.trans hself.symm)).symm

theorem idxOf_ne_of_place (hother : other ∈ names) (hne : other ≠ name) {i : Nat}
    (hplace : names[i]? = some name) : names.idxOf other ≠ i := by
  rintro rfl
  rw [List.getElem?_idxOf hother, Option.some.injEq] at hplace
  exact hne hplace

/-- What is put in the place of one of the names of a record stands there. -/
theorem Puts.part?_eq (h : Puts names name old new d d') (hnodup : names.Nodup)
    (hname : name ∈ names) (hrecord : IsRecord names d) :
    part? names name d = old ∧ part? names name d' = some new := by
  cases h with
  | member front back old =>
      have honce := hrecord.2 name hname
      rw [List.map_append, List.count_append, List.map_cons, List.count_cons_self] at honce
      have hfront : front.lookup (some name) = none := lookup_eq_none_iff_count.mpr (by omega)
      simp [part?, List.lookup_append, hfront]
  | newMember front back _ habsent =>
      have hnone : ∀ {l : List (Option String × Document)}, (∀ m ∈ l, m.1 ≠ some name) →
          l.lookup (some name) = none := by
        intro l hl
        rw [List.lookup_eq_none_iff]
        intro m hm
        rw [bne_iff_ne]
        exact (hl m hm).symm
      have hfront := hnone fun m hm => habsent m (List.mem_append_left _ hm)
      exact ⟨hnone habsent, by simp [part?, List.lookup_append, hfront]⟩
  | item back old _ hplace =>
      simp [part?, idxOf_eq_of_place hnodup hplace]
  | newItem _ hplace =>
      simp [part?, idxOf_eq_of_place hnodup hplace]

/-- Under every other name stands what stood there. -/
theorem Puts.part?_of_ne (h : Puts names name old new d d') (hother : other ∈ names)
    (hne : other ≠ name) : part? names other d' = part? names other d := by
  have hbeq : (some other == some name) = false := by simpa using hne
  cases h with
  | member front back old => simp only [part?, List.lookup_append, List.lookup_cons, hbeq]
  | newMember => simp only [part?, List.lookup_append, List.lookup_cons, hbeq]
  | @item front back old _ hplace =>
      have hset : front ++ new :: back = (front ++ old :: back).set front.length new := by simp
      rw [part?, part?, hset, List.getElem?_set_ne (idxOf_ne_of_place hother hne hplace).symm]
  | @newItem items _ hplace =>
      have hidx := idxOf_ne_of_place hother hne hplace
      rw [part?, part?]
      by_cases hlt : names.idxOf other < items.length
      · rw [List.getElem?_append_left hlt]
      · rw [List.getElem?_eq_none (by rw [List.length_append, List.length_singleton]; omega),
          List.getElem?_eq_none (by omega)]

/-- A record of parts that satisfy what is asked of each name stays one when something is put in the
place of a name that satisfies it as what stood there did. -/
theorem Puts.record_iff {Q : String → Option Document → Prop} (h : Puts names name old new d d')
    (hnodup : names.Nodup) (hname : name ∈ names) (hQ : Q name old ↔ Q name (some new)) :
    (IsRecord names d ∧ ∀ n ∈ names, Q n (part? names n d)) ↔
      IsRecord names d' ∧ ∀ n ∈ names, Q n (part? names n d') := by
  rw [← h.isRecord_iff]
  refine and_congr_right fun hrecord => forall_congr' fun n => imp_congr_right fun hn => ?_
  by_cases heq : n = name
  · subst heq
    obtain ⟨hold, hnew⟩ := h.part?_eq hnodup hname hrecord
    rw [hold, hnew]
    exact hQ
  · rw [h.part?_of_ne hn heq]

theorem Puts.ne_null (h : Puts names name old new d d') : d ≠ .null ∧ d' ≠ .null := by
  cases h <;> exact ⟨nofun, nofun⟩

end Putting

end ReportGateway.Json
