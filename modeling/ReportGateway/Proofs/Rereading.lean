import ReportGateway.Json.Record
import ReportGateway.Proofs.Spelling

/-!
Reading what was written of what was read. A value that was read has its members in order, its integers
in range and no more levels than there was room for, so its document reads as the same value in the
same room (`value?_document`). `Faithful` says this of a reader of other data and a way to write that;
lists, maps and the fields of records hand it on from their parts. A field with a default may have come
from nothing: then the default has to be readable where the field stands, and a default that is a list
needs a level more than the record itself.
-/

namespace ReportGateway.Json

section Sequences

variable {α β : Type}

theorem exists_of_mem_mapM {f : α → Option β} {l : List α} {xs : List β}
    (h : l.mapM f = some xs) {x : β} (hx : x ∈ xs) : ∃ a ∈ l, f a = some x := by
  induction l generalizing xs with
  | nil =>
      cases h
      exact absurd hx List.not_mem_nil
  | cons a l ih =>
      rw [List.mapM_cons] at h
      obtain ⟨y, hy, h⟩ := Option.bind_eq_some_iff.mp h
      obtain ⟨ys, hys, h⟩ := Option.bind_eq_some_iff.mp h
      cases h
      rcases List.mem_cons.mp hx with rfl | hx
      · exact ⟨a, List.mem_cons_self, hy⟩
      · obtain ⟨b, hb, hfb⟩ := ih hys hx
        exact ⟨b, List.mem_cons_of_mem _ hb, hfb⟩

theorem mapM_map_of_forall {f : α → Option β} {g : β → α} {xs : List β}
    (h : ∀ x ∈ xs, f (g x) = some x) : (xs.map g).mapM f = some xs := by
  induction xs with
  | nil => rfl
  | cons x xs ih =>
      rw [List.forall_mem_cons] at h
      rw [List.map_cons, List.mapM_cons, h.1, ih h.2]
      rfl

end Sequences

section Ordering

variable {α : Type}

/-- The names of members rise from each to the next. -/
def Rising (members : List (String × α)) : Prop := members.Pairwise (·.1 < ·.1)

theorem mem_put {name : String} {v : α} {members : List (String × α)} {m : String × α}
    (h : m ∈ put name v members) : m = (name, v) ∨ m ∈ members := by
  induction members with
  | nil => exact Or.inl (by simpa [put] using h)
  | cons member members ih =>
      obtain ⟨n, w⟩ := member
      unfold put at h
      split at h
      · simpa using h
      · split at h
        · rcases List.mem_cons.mp h with h | h
          · exact Or.inl h
          · exact Or.inr (List.mem_cons_of_mem _ h)
        · rcases List.mem_cons.mp h with h | h
          · exact Or.inr (h ▸ List.mem_cons_self)
          · exact (ih h).imp_right (List.mem_cons_of_mem _)

theorem rising_put (name : String) (v : α) {members : List (String × α)} (h : Rising members) :
    Rising (put name v members) := by
  induction members with
  | nil => exact List.pairwise_singleton _ _
  | cons member members ih =>
      obtain ⟨n, w⟩ := member
      rw [Rising, List.pairwise_cons] at h
      obtain ⟨hn, hmembers⟩ := h
      unfold put
      split
      · rename_i hlt
        refine List.pairwise_cons.mpr ⟨?_, List.pairwise_cons.mpr ⟨hn, hmembers⟩⟩
        intro m hm
        rcases List.mem_cons.mp hm with rfl | hm
        · exact hlt
        · exact String.lt_trans hlt (hn m hm)
      · rename_i hle
        split
        · rename_i heq
          subst heq
          exact List.pairwise_cons.mpr ⟨hn, hmembers⟩
        · rename_i hne
          have hgt : n < name := by
            rw [← String.not_le]
            intro hle'
            exact hne (String.le_antisymm hle' (String.not_lt.mp hle))
          refine List.pairwise_cons.mpr ⟨?_, ih hmembers⟩
          intro m hm
          rcases mem_put hm with rfl | hm
          · exact hgt
          · exact hn m hm

theorem inOrder_eq_foldl (members : List (String × α)) :
    inOrder members = members.foldl (fun acc m => put m.1 m.2 acc) [] := rfl

theorem rising_inOrder (members : List (String × α)) : Rising (inOrder members) := by
  have hfold : ∀ acc : List (String × α), Rising acc →
      Rising (members.foldl (fun acc m => put m.1 m.2 acc) acc) := by
    induction members with
    | nil => exact fun acc hacc => hacc
    | cons member members ih =>
        intro acc hacc
        exact ih _ (rising_put member.1 member.2 hacc)
  rw [inOrder_eq_foldl]
  exact hfold [] List.Pairwise.nil

theorem mem_of_mem_inOrder {members : List (String × α)} {m : String × α}
    (h : m ∈ inOrder members) : m ∈ members := by
  have hfold : ∀ acc : List (String × α),
      m ∈ members.foldl (fun acc m => put m.1 m.2 acc) acc → m ∈ acc ∨ m ∈ members := by
    clear h
    induction members with
    | nil => exact fun acc h => Or.inl h
    | cons member members ih =>
        intro acc h
        rcases ih _ h with h | h
        · rcases mem_put h with rfl | h
          · exact Or.inr List.mem_cons_self
          · exact Or.inl h
        · exact Or.inr (List.mem_cons_of_mem _ h)
  rw [inOrder_eq_foldl] at h
  exact (hfold [] h).resolve_left List.not_mem_nil

/-- A name above all that are there comes last. -/
theorem put_of_forall_lt {name : String} (v : α) {members : List (String × α)}
    (h : ∀ m ∈ members, m.1 < name) : put name v members = members ++ [(name, v)] := by
  induction members with
  | nil => rfl
  | cons member members ih =>
      rw [List.forall_mem_cons] at h
      obtain ⟨hlt, hmembers⟩ := h
      rw [put, if_neg (String.lt_asymm hlt), if_neg (String.ne_of_lt hlt).symm, ih hmembers]
      rfl

/-- Members in order stay as they are. -/
theorem inOrder_of_rising {members : List (String × α)} (h : Rising members) :
    inOrder members = members := by
  -- What is done so far stays in front, since every name to come is above all of it.
  have hfold : ∀ acc : List (String × α), Rising (acc ++ members) →
      members.foldl (fun acc m => put m.1 m.2 acc) acc = acc ++ members := by
    clear h
    induction members with
    | nil =>
        intro acc _
        exact (List.append_nil acc).symm
    | cons member members ih =>
        intro acc hrising
        have hlast : ∀ m ∈ acc, m.1 < member.1 := by
          intro m hm
          exact (List.pairwise_append.mp hrising).2.2 m hm member List.mem_cons_self
        have hput : put member.1 member.2 acc = acc ++ [member] := put_of_forall_lt _ hlast
        have hmore : Rising ((acc ++ [member]) ++ members) := by
          rwa [List.append_assoc, List.singleton_append]
        rw [List.foldl_cons, hput, ih (acc ++ [member]) hmore, List.append_assoc,
          List.singleton_append]
  rw [inOrder_eq_foldl]
  exact hfold [] h

theorem inOrder_inOrder (members : List (String × α)) :
    inOrder (inOrder members) = inOrder members := inOrder_of_rising (rising_inOrder members)

end Ordering

section Integers

theorem inRange_of_int? {l : Literal} {n : Int} (h : l.int? = some n) : inRange n = true := by
  unfold Literal.int? at h
  split at h
  · dsimp only at h
    split at h
    · split at h
      · rename_i hrange
        cases h
        exact hrange.2
      · cases h
    · split at h
      · rename_i hrange
        cases h
        exact hrange
      · cases h
  · cases h

/-- An integer in range is read from the literal that it is written as. -/
theorem int?_ofInt {n : Int} (h : inRange n = true) : (Literal.ofInt n).int? = some n := by
  rw [Literal.int?, Literal.ofInt]
  dsimp only [Literal.integral]
  rw [Decimal.value_digits]
  by_cases hn : n < 0
  · have hneg : -(n.natAbs : Int) = n := by omega
    have hne : (n.natAbs : Int) ≠ 0 := by omega
    simp only [hn, decide_true, List.isEmpty_nil, Option.isNone_none, Bool.and_self, if_true, hneg,
      if_pos (And.intro hne h)]
  · have hpos : (n.natAbs : Int) = n := by omega
    simp only [hn, decide_false, List.isEmpty_nil, Option.isNone_none, Bool.and_self, if_true,
      Bool.false_eq_true, if_false, hpos, if_pos h]

theorem int?_of_number? {l : Literal} {n : Int} (h : l.number? = some (.int n)) :
    l.int? = some n := by
  unfold Literal.number? at h
  split at h
  · rename_i m hm
    cases h
    exact hm
  · cases hdouble : Double.ofLiteral? l with
    | none =>
        rw [hdouble] at h
        cases h
    | some x =>
        rw [hdouble] at h
        cases h

end Integers

section Members

variable {α : Type} {item : Document → Option α}

/-- Reads the members of an object by a reader of their values. -/
def readMembers (item : Document → Option α) (members : List (Option String × Document)) :
    Option (List (String × α)) :=
  members.mapM fun (name, d) => do return (← name, ← item d)

theorem exists_of_mem_readMembers {members : List (Option String × Document)}
    {found : List (String × α)} (h : readMembers item members = some found) {m : String × α}
    (hm : m ∈ found) : ∃ d, item d = some m.2 := by
  obtain ⟨⟨name, d⟩, -, hread⟩ := exists_of_mem_mapM h hm
  obtain ⟨n, -, hread⟩ := Option.bind_eq_some_iff.mp hread
  obtain ⟨x, hx, hread⟩ := Option.bind_eq_some_iff.mp hread
  cases hread
  exact ⟨d, hx⟩

theorem readMembers_map {write : α → Document} {found : List (String × α)}
    (h : ∀ m ∈ found, item (write m.2) = some m.2) :
    readMembers item (found.map fun m => (some m.1, write m.2)) = some found := by
  refine mapM_map_of_forall ?_
  intro m hm
  show (item (write m.2)).bind (fun x => some (m.1, x)) = some m
  rw [h m hm]
  rfl

/-- Members that were read and put in order are read again, in order, from what they are written as,
if each value is. -/
theorem reread_members (write : α → Document) {members : List (Option String × Document)}
    {found : List (String × α)} (h : readMembers item members = some found)
    (hitem : ∀ m ∈ inOrder found, ∀ d, item d = some m.2 → item (write m.2) = some m.2) :
    readMembers item ((inOrder found).map fun m => (some m.1, write m.2))
      = some (inOrder found) := by
  refine readMembers_map ?_
  intro m hm
  obtain ⟨d, hd⟩ := exists_of_mem_readMembers h (mem_of_mem_inOrder hm)
  exact hitem m hm d hd

end Members

section Values

/-- What reading in some room makes sure of: the levels of a value fit in the room, its integers are in
range and its members are in order. -/
inductive Value.Fits : Nat → Value → Prop
  | null (room : Nat) : Fits room .null
  | bool (room : Nat) (b : Bool) : Fits room (.bool b)
  | int (room : Nat) (n : Int) (hrange : inRange n = true) : Fits room (.number (.int n))
  | double (room : Nat) (x : Double) : Fits room (.number (.double x))
  | string (room : Nat) (s : String) : Fits room (.string s)
  | array {room : Nat} {items : List Value} (hitems : ∀ v ∈ items, Fits room v) :
      Fits (room + 1) (.array items)
  | object {room : Nat} {members : List (String × Value)} (hrising : Rising members)
      (hmembers : ∀ m ∈ members, Fits room m.2) : Fits (room + 1) (.object members)

theorem fits_of_value? {room : Nat} {d : Document} {v : Value} (h : d.value? room = some v) :
    v.Fits room := by
  induction room using Nat.strongRecOn generalizing d v with
  | ind room ih =>
    -- Only arrays and objects ask for room, so the other cases are not split by it.
    unfold Document.value? at h
    split at h
    · cases h
      exact .null _
    · cases h
      exact .bool _ _
    · obtain ⟨n, hn, rfl⟩ := Option.map_eq_some_iff.mp h
      cases n with
      | int n => exact .int _ n (inRange_of_int? (int?_of_number? hn))
      | double x => exact .double _ x
    · obtain ⟨s, -, rfl⟩ := Option.map_eq_some_iff.mp h
      exact .string _ s
    · rename_i room ds
      obtain ⟨items, hitems, rfl⟩ := Option.map_eq_some_iff.mp h
      refine .array ?_
      intro v hv
      obtain ⟨d, -, hd⟩ := exists_of_mem_mapM hitems hv
      exact ih room (Nat.lt_succ_self room) hd
    · rename_i room ms
      obtain ⟨found, hfound, h⟩ := Option.bind_eq_some_iff.mp h
      cases h
      refine .object (rising_inOrder found) ?_
      intro m hm
      obtain ⟨d, hd⟩ := exists_of_mem_readMembers hfound (mem_of_mem_inOrder hm)
      exact ih room (Nat.lt_succ_self room) hd
    · cases h

theorem value?_of_fits {room : Nat} {v : Value} (h : v.Fits room) (hexact : v.IsExact) :
    v.document.value? room = some v := by
  induction h with
  | null room => cases room <;> rfl
  | bool room b => cases room <;> rfl
  | int room n hrange =>
      have hnumber : (Number.literal (.int n)).number? = some (.int n) := by
        rw [Number.literal, Literal.number?, int?_ofInt hrange]
      rw [Value.document, Document.value?, hnumber]
      rfl
  | double room x => cases hexact
  | string room s => cases room <;> rfl
  | array hitems ih =>
      rename_i room items
      cases hexact with
      | array hexact =>
        rw [Value.document, Value.itemDocuments_eq_map, Document.value?,
          mapM_map_of_forall fun v hv => ih v hv (hexact v hv)]
        rfl
  | object hrising hmembers ih =>
      rename_i room members
      cases hexact with
      | object hexact =>
        have hread : readMembers (Document.value? room)
            (members.map fun m => (some m.1, m.2.document)) = some members :=
          readMembers_map fun m hm => ih m hm (hexact m hm)
        rw [Value.document, Value.memberDocuments_eq_map, Document.value?]
        show (readMembers _ _).bind _ = _
        rw [hread]
        show some (Value.object (inOrder members)) = _
        rw [inOrder_of_rising hrising]

/-- A value that was read is read again from its document, in the same room. -/
theorem value?_document {room : Nat} {d : Document} {v : Value} (h : d.value? room = some v)
    (hexact : v.IsExact) : v.document.value? room = some v := value?_of_fits (fits_of_value? h) hexact

end Values

/-- For the binds of a reader, which have to be opened from the outside. -/
theorem bind_eq_some {α β : Type} {o : Option α} {k : α → Option β} {b : β} :
    o >>= k = some b ↔ ∃ a, o = some a ∧ k a = some b := Option.bind_eq_some_iff

section Readers

variable {α : Type} {item read : Read α} {write : α → Value}

/-- What is written of something that was read in some room is read as the same there, if there is no
double in it. -/
def Faithful (read : Read α) (write : α → Value) (room : Nat) : Prop :=
  ∀ ⦃d : Document⦄ ⦃x : α⦄, read room d = some x → (write x).IsExact →
    read room (write x).document = some x

@[simp] theorem text_document (room : Nat) (s : String) :
    Read.text room (Value.string s).document = some s := rfl

@[simp] theorem bool_document (room : Nat) (b : Bool) :
    Read.bool room (Value.bool b).document = some b := rfl

@[simp] theorem optional_text_document (room : Nat) (s : String) :
    Read.optional Read.text room (Value.string s).document = some (some s) := rfl

theorem int_document {low high n : Int} (hlow : low ≤ n) (hhigh : n ≤ high)
    (hrange : inRange n = true) (room : Nat) :
    Read.int low high room (Value.int n).document = some n := by
  show ((Literal.ofInt n).int?).bind _ = some n
  rw [int?_ofInt hrange, Option.bind_some, if_pos ⟨hlow, hhigh⟩]

theorem int32_zero (room : Nat) : Read.int32 room (Value.int 0).document = some 0 :=
  int_document (by decide) (by decide) (by decide) room

theorem int64_zero (room : Nat) : Read.int64 room (Value.int 0).document = some 0 :=
  int_document (by decide) (by decide) (by decide) room

@[simp] theorem null_document (room : Nat) :
    Read.opaqueData room Value.null.document = some .null := by
  cases room <;> rfl

theorem faithful_text (room : Nat) : Faithful Read.text .string room := fun _ s _ _ =>
  text_document room s

theorem faithful_int (low high : Int) (room : Nat) : Faithful (Read.int low high) .int room := by
  intro d n hread _
  cases d with
  | number l =>
      obtain ⟨m, hm, hread⟩ := Option.bind_eq_some_iff.mp hread
      split at hread
      · rename_i hbounds
        cases hread
        exact int_document hbounds.1 hbounds.2 (inRange_of_int? hm) room
      · cases hread
  | _ => cases hread

theorem faithful_int32 (room : Nat) : Faithful Read.int32 .int room := faithful_int _ _ room

theorem faithful_int64 (room : Nat) : Faithful Read.int64 .int room := faithful_int _ _ room

theorem faithful_opaqueData (room : Nat) : Faithful Read.opaqueData (fun v => v) room :=
  fun _ _ => value?_document

theorem faithful_listOf (h : ∀ room, Faithful item write room) (room : Nat) :
    Faithful (Read.listOf item) (fun xs => .array (xs.map write)) room := by
  intro d xs hread hexact
  cases room with
  | zero => cases d <;> cases hread
  | succ room =>
      cases d with
      | array ds =>
          rw [Value.isExact_array_iff, List.forall_mem_map] at hexact
          show (Value.itemDocuments (xs.map write)).mapM (item room) = some xs
          rw [Value.itemDocuments_eq_map, List.map_map]
          refine mapM_map_of_forall ?_
          intro x hx
          obtain ⟨d, -, hd⟩ := exists_of_mem_mapM hread hx
          exact h room hd (hexact x hx)
      | _ => cases hread

theorem faithful_texts (room : Nat) : Faithful (Read.listOf Read.text) Value.strings room :=
  faithful_listOf faithful_text room

theorem faithful_mapOf (h : ∀ room, Faithful item write room) (room : Nat) :
    Faithful (Read.mapOf item) (fun xs => .object (xs.map fun m => (m.1, write m.2))) room := by
  intro d xs hread hexact
  cases room with
  | zero => cases d <;> cases hread
  | succ room =>
      cases d with
      | object ms =>
          obtain ⟨found, hfound, hread⟩ := Option.bind_eq_some_iff.mp hread
          cases hread
          rw [Value.isExact_object_iff, List.forall_mem_map] at hexact
          have hreread : readMembers (item room)
              ((inOrder found).map fun m => (some m.1, (write m.2).document))
                = some (inOrder found) := by
            refine reread_members (fun x => (write x).document) hfound ?_
            intro m hm d hd
            exact h room hd (hexact m hm)
          show (readMembers (item room) (Value.memberDocuments _)).bind _ = _
          rw [Value.memberDocuments_eq_map, List.map_map]
          show (readMembers (item room) ((inOrder found).map fun m =>
            (some m.1, (write m.2).document))).bind _ = _
          rw [hreread]
          show some (inOrder (inOrder found)) = _
          rw [inOrder_inOrder]
      | _ => cases hread

theorem faithful_opaqueMap (room : Nat) :
    Faithful (Read.mapOf Read.opaqueData) Value.object room := by
  have h := faithful_mapOf faithful_opaqueData room
  simpa using h

end Readers

namespace Fields

variable {α : Type} {names : List String} {f : Fields} {name : String} {x default : α}
  {read : Read α} {write : α → Value}

/-- Inside a record there is a level of nesting less. -/
theorem room_eq {room : Nat} {d : Document} (h : ofDocument? names room d = some f) :
    room = f.room + 1 := by
  unfold ofDocument? ofWritten? at h
  split at h
  · obtain ⟨present, -, h⟩ := Option.bind_eq_some_iff.mp h
    cases h
    rfl
  · split at h
    · cases h
      rfl
    · cases h
  · cases h

theorem known?_memberDocuments {members : List (String × Value)}
    (hnodup : (members.map Prod.fst).Nodup) (hnames : ∀ m ∈ members, m.1 ∈ names) :
    known? names (Value.memberDocuments members)
      = some (members.map fun m => (m.1, m.2.document)) := by
  induction members with
  | nil => rfl
  | cons member members ih =>
      obtain ⟨name, v⟩ := member
      rw [List.map_cons, List.nodup_cons] at hnodup
      rw [List.forall_mem_cons] at hnames
      have hother : (members.map fun m => (m.1, m.2.document)).lookup name = none := by
        rw [List.lookup_eq_none_iff, List.forall_mem_map]
        intro m hm
        have hne : name ≠ m.1 := by
          intro heq
          exact hnodup.1 (List.mem_map.mpr ⟨m, hm, heq.symm⟩)
        simpa using hne
      show (known? names (Value.memberDocuments members)).bind _ = _
      rw [ih hnodup.2 hnames.2, Option.bind_some, if_pos hnames.1, hother]
      rfl

/-- The fields of a record that is written as an object. -/
theorem ofDocument?_document {members : List (String × Value)}
    (hnames : (members.map Prod.fst).Sublist names) (hnodup : names.Nodup) (room : Nat) :
    ofDocument? names (room + 1) (Value.object members).document
      = some ⟨room, members.map fun m => (m.1, m.2.document)⟩ := by
  have hknown : known? names (Value.memberDocuments members)
      = some (members.map fun m => (m.1, m.2.document)) := by
    refine known?_memberDocuments (hnames.nodup hnodup) ?_
    intro m hm
    exact hnames.subset (List.mem_map_of_mem hm)
  show (known? names (Value.memberDocuments members)).bind _ = _
  rw [hknown]
  rfl

/-- What was read from a field is read again from what it is written as. -/
theorem reread_required (hread : f.required name read = some x) (h : Faithful read write f.room)
    (hexact : (write x).IsExact) : read f.room (write x).document = some x := by
  obtain ⟨d, -, hread⟩ := Option.bind_eq_some_iff.mp hread
  exact h hread hexact

/-- The same of a field with a default, if the default is read from what it is written as. -/
theorem reread_withDefault (hread : f.withDefault name default read = some x)
    (h : Faithful read write f.room)
    (hdefault : read f.room (write default).document = some default) (hexact : (write x).IsExact) :
    read f.room (write x).document = some x := by
  unfold withDefault at hread
  split at hread
  · cases hread
    exact hdefault
  · exact h hread hexact

end Fields

section Records

variable {α : Type} {names : List String} {fields : Fields → Option α}
  {members : α → List (String × Value)}

/-- A record is faithful when its fields are, one level further inside. -/
theorem faithful_record {room : Nat} (hnodup : names.Nodup)
    (hnames : ∀ x, ((members x).map Prod.fst).Sublist names)
    (hfields : ∀ inner present x, room = inner + 1 → fields ⟨inner, present⟩ = some x →
      (Value.object (members x)).IsExact →
      fields ⟨inner, (members x).map fun m => (m.1, m.2.document)⟩ = some x) :
    Faithful (fun room d => Fields.ofDocument? names room d >>= fields)
      (fun x => .object (members x)) room := by
  intro d x hread hexact
  obtain ⟨f, hf, hx⟩ := Option.bind_eq_some_iff.mp hread
  obtain rfl := Fields.room_eq hf
  show (Fields.ofDocument? names (f.room + 1) (Value.object (members x)).document).bind fields
    = some x
  rw [Fields.ofDocument?_document (hnames x) hnodup, Option.bind_some]
  exact hfields f.room f.present x rfl hx hexact

end Records

end ReportGateway.Json
