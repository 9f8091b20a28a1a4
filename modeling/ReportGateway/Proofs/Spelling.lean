import ReportGateway.Json.Value

/-!
What the written form of a value is made of. `Value.tokens` follows the encoding token by token, and
`Value.document` is what a reader has before it that gets these tokens. The machine that puts documents
together hands the document of a value to the frame it is in and leaves the outer frames alone
(`foldlM_tokens`), since an open array or object keeps its finished parts in order until it closes. A
double is written in too many ways for that; `IsExact` says that a value has none.
-/

namespace ReportGateway.Json

/-- The literal that a number is written as. -/
def Number.literal : Number → Literal
  | .int n => .ofInt n
  | .double x => (Literal.ofBytes? (Value.ascii x.text)).getD (.ofInt 0)

namespace Value

/-- There is no double in a value, however deep. -/
inductive IsExact : Value → Prop
  | null : IsExact .null
  | bool (b : Bool) : IsExact (.bool b)
  | int (n : Int) : IsExact (.number (.int n))
  | string (s : String) : IsExact (.string s)
  | array {items : List Value} (hitems : ∀ v ∈ items, IsExact v) : IsExact (.array items)
  | object {members : List (String × Value)} (hmembers : ∀ member ∈ members, IsExact member.2) :
      IsExact (.object members)

attribute [simp] IsExact.null IsExact.bool IsExact.int IsExact.string

@[simp] theorem isExact_array_iff {items : List Value} :
    (Value.array items).IsExact ↔ ∀ v ∈ items, v.IsExact := by
  constructor
  · intro h
    cases h with
    | array hitems => exact hitems
  · exact .array

@[simp] theorem isExact_object_iff {members : List (String × Value)} :
    (Value.object members).IsExact ↔ ∀ member ∈ members, member.2.IsExact := by
  constructor
  · intro h
    cases h with
    | object hmembers => exact hmembers
  · exact .object

@[simp] theorem isExact_ofInt (n : Int) : (Value.int n).IsExact := .int n

@[simp] theorem isExact_strings (l : List String) : (Value.strings l).IsExact := by
  simp [Value.strings]

mutual
/-- The document that spells a value. -/
def document : Value → Document
  | .null => .null
  | .bool b => .bool b
  | .number n => .number n.literal
  | .string s => .string (some s)
  | .array items => .array (itemDocuments items)
  | .object members => .object (memberDocuments members)

def itemDocuments : List Value → List Document
  | [] => []
  | v :: rest => document v :: itemDocuments rest

def memberDocuments : List (String × Value) → List (Option String × Document)
  | [] => []
  | (name, v) :: rest => (some name, document v) :: memberDocuments rest
end

theorem itemDocuments_eq_map (items : List Value) : itemDocuments items = items.map document := by
  induction items with
  | nil => rfl
  | cons v rest ih => rw [itemDocuments, ih, List.map_cons]

theorem memberDocuments_eq_map (members : List (String × Value)) :
    memberDocuments members = members.map fun member => (some member.1, document member.2) := by
  induction members with
  | nil => rfl
  | cons member rest ih => rw [memberDocuments, ih, List.map_cons]

mutual
/-- The tokens that a value is written with. -/
def tokens : Value → List Token
  | .null => [.null]
  | .bool b => [.bool b]
  | .number n => [.number n.literal]
  | .string s => [.string (some s)]
  | .array items => .beginArray :: itemTokens items
  | .object members => .beginObject :: memberTokens members

/-- The tokens of the items of an array, and of its end. -/
def itemTokens : List Value → List Token
  | [] => [.endArray]
  | v :: rest => tokens v ++ restTokens rest

/-- The tokens of what follows an item. -/
def restTokens : List Value → List Token
  | [] => [.endArray]
  | v :: rest => .comma :: (tokens v ++ restTokens rest)

/-- The tokens of the members of an object, and of its end. -/
def memberTokens : List (String × Value) → List Token
  | [] => [.endObject]
  | (name, v) :: rest => .string (some name) :: .colon :: (tokens v ++ moreTokens rest)

/-- The tokens of what follows a member. -/
def moreTokens : List (String × Value) → List Token
  | [] => [.endObject]
  | (name, v) :: rest => .comma :: .string (some name) :: .colon :: (tokens v ++ moreTokens rest)
end

end Value

namespace Document

open Value (document tokens itemTokens restTokens memberTokens moreTokens itemDocuments
  memberDocuments)

section Delivering

/-- The machine takes the tokens of a value for the value, whatever frames are open. -/
def Delivers (v : Value) : Prop :=
  ∀ frames : List Frame, v.tokens.foldlM Machine.step ⟨frames, .value⟩
    = some (Machine.deliver v.document frames)

/-- A value does not begin with the end of an array. -/
theorem exists_tokens (v : Value) : ∃ t ts, v.tokens = t :: ts ∧ t ≠ .endArray := by
  cases v <;> exact ⟨_, _, rfl, by simp⟩

/-- A value may stand where an array could have ended as well. -/
theorem foldlM_itemOrEnd (v : Value) (later : List Token) (done : List Document)
    (outer : List Frame) :
    (v.tokens ++ later).foldlM Machine.step ⟨.array done :: outer, .itemOrEnd⟩
      = (v.tokens ++ later).foldlM Machine.step ⟨.array done :: outer, .value⟩ := by
  obtain ⟨t, ts, htokens, hopens⟩ := exists_tokens v
  rw [htokens, List.cons_append, List.foldlM_cons, List.foldlM_cons]
  simp only [Machine.step, if_neg hopens]

theorem foldlM_restTokens {rest : List Value} (hrest : ∀ v ∈ rest, Delivers v)
    (done : List Document) (outer : List Frame) :
    (restTokens rest).foldlM Machine.step ⟨.array done :: outer, .separator⟩
      = some (Machine.deliver (.array (done.reverse ++ itemDocuments rest)) outer) := by
  induction rest generalizing done with
  | nil =>
      rw [itemDocuments, List.append_nil]
      rfl
  | cons v rest ih =>
      rw [List.forall_mem_cons] at hrest
      obtain ⟨hv, hrest⟩ := hrest
      calc (restTokens (v :: rest)).foldlM Machine.step ⟨.array done :: outer, .separator⟩
          = (v.tokens ++ restTokens rest).foldlM Machine.step ⟨.array done :: outer, .value⟩ := rfl
        _ = (restTokens rest).foldlM Machine.step
              ⟨.array (v.document :: done) :: outer, .separator⟩ := by
            rw [List.foldlM_append, hv]
            rfl
        _ = some (Machine.deliver (.array (done.reverse ++ itemDocuments (v :: rest))) outer) := by
            rw [ih hrest, List.reverse_cons, List.append_assoc]
            rfl

theorem foldlM_moreTokens {rest : List (String × Value)}
    (hrest : ∀ member ∈ rest, Delivers member.2) (done : List (Option String × Document))
    (outer : List Frame) :
    (moreTokens rest).foldlM Machine.step ⟨.object done none :: outer, .separator⟩
      = some (Machine.deliver (.object (done.reverse ++ memberDocuments rest)) outer) := by
  induction rest generalizing done with
  | nil =>
      rw [memberDocuments, List.append_nil]
      rfl
  | cons member rest ih =>
      obtain ⟨name, v⟩ := member
      rw [List.forall_mem_cons] at hrest
      obtain ⟨hv, hrest⟩ := hrest
      calc (moreTokens ((name, v) :: rest)).foldlM Machine.step
            ⟨.object done none :: outer, .separator⟩
          = (v.tokens ++ moreTokens rest).foldlM Machine.step
              ⟨.object done (some name) :: outer, .value⟩ := rfl
        _ = (moreTokens rest).foldlM Machine.step
              ⟨.object ((some name, v.document) :: done) none :: outer, .separator⟩ := by
            rw [List.foldlM_append, hv]
            rfl
        _ = some (Machine.deliver (.object (done.reverse ++ memberDocuments ((name, v) :: rest)))
              outer) := by
            rw [ih hrest, List.reverse_cons, List.append_assoc]
            rfl

theorem foldlM_tokens {v : Value} (h : v.IsExact) : Delivers v := by
  induction h with
  | null => intro frames; rfl
  | bool b => intro frames; rfl
  | int n => intro frames; rfl
  | string s => intro frames; rfl
  | array hitems ih =>
      rename_i items
      intro frames
      cases items with
      | nil => rfl
      | cons v rest =>
          -- Before the first item the array may still end, before the others it may not.
          rw [List.forall_mem_cons] at ih
          calc (tokens (.array (v :: rest))).foldlM Machine.step ⟨frames, .value⟩
              = (v.tokens ++ restTokens rest).foldlM Machine.step
                  ⟨.array [] :: frames, .itemOrEnd⟩ := rfl
            _ = (restTokens rest).foldlM Machine.step
                  ⟨.array [v.document] :: frames, .separator⟩ := by
                rw [foldlM_itemOrEnd, List.foldlM_append, ih.1]
                rfl
            _ = some (Machine.deliver (document (.array (v :: rest))) frames) :=
                foldlM_restTokens ih.2 [v.document] frames
  | object hmembers ih =>
      rename_i members
      intro frames
      cases members with
      | nil => rfl
      | cons member rest =>
          obtain ⟨name, v⟩ := member
          rw [List.forall_mem_cons] at ih
          calc (tokens (.object ((name, v) :: rest))).foldlM Machine.step ⟨frames, .value⟩
              = (v.tokens ++ moreTokens rest).foldlM Machine.step
                  ⟨.object [] (some name) :: frames, .value⟩ := rfl
            _ = (moreTokens rest).foldlM Machine.step
                  ⟨.object [(some name, v.document)] none :: frames, .separator⟩ := by
                rw [List.foldlM_append, ih.1]
                rfl
            _ = some (Machine.deliver (document (.object ((name, v) :: rest))) frames) :=
                foldlM_moreTokens ih.2 [(some name, v.document)] frames

/-- The tokens of a value spell its document. -/
theorem ofTokens?_tokens {v : Value} (h : v.IsExact) : ofTokens? v.tokens = some v.document := by
  rw [ofTokens?, Machine.start, foldlM_tokens h]
  rfl

end Delivering

end Document

end ReportGateway.Json
