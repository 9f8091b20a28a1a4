import Mathlib.Data.Finset.Dedup
import Mathlib.Data.Finset.Card
import Std.Data.HashMap.Lemmas
import ReportGateway.Content.Directory

/-!
What a directory of rule content answers in the course of its use. A rule goes by the pair of its id
and its error key, and `IsLast` says which entry of a list counts for a pair. A directory that is
loaded and looked at in any order answers each lookup from the list that was loaded before it last
(`Directory.isTold_use`). It does not matter whether the lists are kept and searched, or entered into a
table under their pairs, entry by entry: a table holds under each pair the last entry of that pair
(`Table.files_ofContents`), so both are told apart by no use of them (`Table.said_eq`).
-/

namespace ReportGateway

/-- What a rule goes by. -/
def RuleContent.pair (c : RuleContent) : String × String := (c.ruleId, c.errorKey)

namespace Content

/-- What counts for a pair in a list: its last entry of that pair, or nothing if it has none. -/
def IsLast (contents : List RuleContent) (pair : String × String) : Option RuleContent → Prop
  | some c => ∃ before after, contents = before ++ c :: after ∧ c.pair = pair ∧
      ∀ other ∈ after, other.pair ≠ pair
  | none => ∀ c ∈ contents, c.pair ≠ pair

/-- How many different pairs a list has entries of. -/
def distinct (contents : List RuleContent) : Nat := (contents.map RuleContent.pair).toFinset.card

section Lists

variable {contents : List RuleContent} {pair : String × String} {c : RuleContent}

theorem IsLast.mem (h : IsLast contents pair (some c)) : c ∈ contents ∧ c.pair = pair := by
  obtain ⟨before, after, rfl, hpair, -⟩ := h
  exact ⟨List.mem_append_right _ List.mem_cons_self, hpair⟩

theorem isLast_concat_self : IsLast (contents ++ [c]) c.pair (some c) :=
  ⟨contents, [], rfl, rfl, fun _ hmem => absurd hmem List.not_mem_nil⟩

theorem IsLast.concat {found : Option RuleContent} (h : IsLast contents pair found)
    (hne : c.pair ≠ pair) : IsLast (contents ++ [c]) pair found := by
  cases found with
  | none =>
      intro other hmem
      rcases List.mem_append.mp hmem with hmem | hmem
      · exact h other hmem
      · rwa [List.mem_singleton.mp hmem]
  | some last =>
      obtain ⟨before, after, rfl, hpair, hafter⟩ := h
      refine ⟨before, after ++ [c], by rw [List.append_assoc, List.cons_append], hpair, ?_⟩
      intro other hmem
      rcases List.mem_append.mp hmem with hmem | hmem
      · exact hafter other hmem
      · rwa [List.mem_singleton.mp hmem]

/-- What a list is searched for is what counts. -/
theorem find?_eq_iff {ruleId errorKey : String} {found : Option RuleContent} :
    find? contents ruleId errorKey = found ↔ IsLast contents (ruleId, errorKey) found := by
  have hnamed : ∀ c : RuleContent, c.pair = (ruleId, errorKey) ↔
      c.ruleId = ruleId ∧ c.errorKey = errorKey := fun _ => Prod.mk_inj
  simp only [find?, IsLast, hnamed, Ne]
  cases found with
  | none => simp only [List.find?_eq_none, List.mem_reverse, decide_eq_true_eq]
  | some c =>
      simp only [List.find?_eq_some_iff_append, Bool.not_eq_true', decide_eq_true_eq,
        decide_eq_false_iff_not]
      constructor
      · rintro ⟨hpair, after, before, hcontents, hafter⟩
        refine ⟨before.reverse, after.reverse, ?_, hpair, ?_⟩
        · rw [← List.reverse_reverse contents, hcontents, List.reverse_append, List.reverse_cons,
            List.append_assoc, List.singleton_append]
        · exact fun other hmem => hafter other (List.mem_reverse.mp hmem)
      · rintro ⟨before, after, rfl, hpair, hafter⟩
        refine ⟨hpair, after.reverse, before.reverse, by simp, ?_⟩
        exact fun other hmem => hafter other (List.mem_reverse.mp hmem)

theorem nodup_eraseDups {α : Type} [BEq α] [LawfulBEq α] (l : List α) : l.eraseDups.Nodup := by
  cases l with
  | nil => exact List.nodup_nil
  | cons a l =>
      rw [List.eraseDups_cons, List.nodup_cons, List.mem_eraseDups]
      exact ⟨by simp, nodup_eraseDups _⟩
termination_by l.length
decreasing_by exact Nat.lt_succ_of_le (List.length_filter_le _ _)

theorem countRules_eq_distinct (contents : List RuleContent) :
    countRules contents = distinct contents := by
  have hmem : (contents.map RuleContent.pair).toFinset
      = (contents.map RuleContent.pair).eraseDups.toFinset := by
    ext pair
    rw [List.mem_toFinset, List.mem_toFinset, List.mem_eraseDups]
  rw [distinct, hmem, List.toFinset_card_of_nodup (nodup_eraseDups _)]
  rfl

theorem distinct_concat (contents : List RuleContent) (c : RuleContent) :
    distinct (contents ++ [c])
      = if c.pair ∈ contents.map RuleContent.pair then distinct contents
        else distinct contents + 1 := by
  have hinsert : ((contents ++ [c]).map RuleContent.pair).toFinset
      = insert c.pair (contents.map RuleContent.pair).toFinset := by
    ext pair
    simp
  rw [distinct, hinsert]
  split
  · rename_i hmem
    rw [Finset.insert_eq_of_mem (List.mem_toFinset.mpr hmem)]
    rfl
  · rename_i hnew
    rw [Finset.card_insert_of_notMem (mt List.mem_toFinset.mp hnew)]
    rfl

end Lists

/-- Entries under the pairs that they go by. -/
abbrev Table : Type := Std.HashMap (String × String) RuleContent

namespace Table

/-- Enters content under its pair, in the place of what was there. -/
def enter (t : Table) (c : RuleContent) : Table := t.insert c.pair c

def ofContents (contents : List RuleContent) : Table := contents.foldl enter ∅

/-- A table holds what counts in a list, under each pair. -/
structure Files (t : Table) (contents : List RuleContent) : Prop where
  last : ∀ pair, IsLast contents pair t[pair]?
  size : t.size = distinct contents

variable {t : Table} {contents : List RuleContent}

theorem Files.mem_iff (h : t.Files contents) (pair : String × String) :
    pair ∈ t ↔ pair ∈ contents.map RuleContent.pair := by
  have hlast := h.last pair
  rw [Std.HashMap.mem_iff_isSome_getElem?, List.mem_map]
  cases hfound : t[pair]? with
  | none =>
      rw [hfound] at hlast
      exact ⟨fun hsome => absurd hsome (by decide), fun ⟨c, hmem, hpair⟩ => absurd hpair (hlast c hmem)⟩
  | some c =>
      rw [hfound] at hlast
      exact ⟨fun _ => ⟨c, hlast.mem⟩, fun _ => rfl⟩

/-- One more entry takes the place of those of its pair and leaves all others. -/
theorem Files.enter (h : t.Files contents) (c : RuleContent) :
    (t.enter c).Files (contents ++ [c]) := by
  refine ⟨fun pair => ?_, ?_⟩
  · rw [Table.enter, Std.HashMap.getElem?_insert]
    by_cases hpair : c.pair = pair
    · rw [if_pos (beq_iff_eq.mpr hpair), ← hpair]
      exact isLast_concat_self
    · rw [if_neg (mt beq_iff_eq.mp hpair)]
      exact (h.last pair).concat hpair
  · rw [Table.enter, Std.HashMap.size_insert, distinct_concat, h.size]
    simp only [h.mem_iff]

theorem files_ofContents (contents : List RuleContent) : (ofContents contents).Files contents := by
  induction contents using List.reverseRecOn with
  | nil =>
      refine ⟨fun pair => ?_, rfl⟩
      rw [ofContents, List.foldl_nil, Std.HashMap.getElem?_empty]
      exact fun c hmem => absurd hmem List.not_mem_nil
  | append_singleton contents c ih =>
      rw [ofContents, List.foldl_append]
      exact ih.enter c

end Table

/-- What a directory is used for. -/
inductive Use
  | load (contents : List RuleContent)
  | lookup (ruleId errorKey : String)

/-- What a directory says to a use: how many rules it then has content for, or the answer to a lookup. -/
inductive Said
  | count (rules : Nat)
  | answer (found : Except Error (Option RuleContent))
deriving DecidableEq

/-- The list that a use brings. -/
def Use.contents? : Use → Option (List RuleContent)
  | .load contents => some contents
  | .lookup _ _ => none

/-- The lists that uses bring, in order. -/
def loads (uses : List Use) : List (List RuleContent) := uses.filterMap Use.contents?

/-- How something that can be loaded and looked at does it. -/
structure Keeping (σ : Type) where
  load : σ → List RuleContent → σ × Nat
  lookup : σ → Lookup

namespace Keeping

variable {σ : Type} (k : Keeping σ)

def use (s : σ) : Use → σ × Said
  | .load contents => ((k.load s contents).1, .count (k.load s contents).2)
  | .lookup ruleId errorKey => (s, .answer (k.lookup s ruleId errorKey))

/-- What is there after uses. -/
def after (s : σ) (uses : List Use) : σ := uses.foldl (fun s u => (k.use s u).1) s

/-- What is said to uses, one by one. -/
def said (s : σ) : List Use → List Said
  | [] => []
  | u :: uses => (k.use s u).2 :: said (k.use s u).1 uses

@[simp] theorem length_said (s : σ) (uses : List Use) : (k.said s uses).length = uses.length := by
  induction uses generalizing s with
  | nil => rfl
  | cons u uses ih => rw [said, List.length_cons, List.length_cons, ih]

theorem getElem?_said (s : σ) (before : List Use) (u : Use) (rest : List Use) :
    (k.said s (before ++ u :: rest))[before.length]? = some (k.use (k.after s before) u).2 := by
  induction before generalizing s with
  | nil => rfl
  | cons first before ih => exact ih (k.use s first).1

/-- Two ways of keeping say the same when each use takes related states to related states, and says the
same at them. -/
theorem said_eq_of_simulation {τ : Type} {k' : Keeping τ} {R : σ → τ → Prop}
    (hstep : ∀ s t u, R s t → R (k.use s u).1 (k'.use t u).1 ∧ (k.use s u).2 = (k'.use t u).2)
    {s : σ} {t : τ} (h : R s t) (uses : List Use) : k.said s uses = k'.said t uses := by
  induction uses generalizing s t with
  | nil => rfl
  | cons u uses ih =>
      obtain ⟨hnext, hsaid⟩ := hstep s t u h
      rw [said, said, hsaid, ih hnext]

end Keeping

/-- How a directory keeps what is loaded. -/
def Directory.keeping : Keeping Directory := ⟨Directory.load, Directory.lookup⟩

/-- What a use is told after others: how many pairs the loaded list has entries of, or what counts for
the pair that is asked for in the list that was loaded last. -/
def IsTold (before : List Use) : Use → Said → Prop
  | .load contents, .count rules => rules = distinct contents
  | .lookup ruleId errorKey, .answer found =>
    match (loads before).getLast? with
    | none => found = .error .notLoaded
    | some contents => ∃ x, found = .ok x ∧ IsLast contents (ruleId, errorKey) x
  | _, _ => False

namespace Directory

theorem loaded_use (d : Directory) (u : Use) :
    (keeping.use d u).1.loaded = u.contents?.or d.loaded := by
  cases u <;> rfl

/-- What is loaded is what was brought last. -/
theorem loaded_after (d : Directory) (uses : List Use) :
    (keeping.after d uses).loaded = (loads uses).getLast?.or d.loaded := by
  induction uses generalizing d with
  | nil => rfl
  | cons u uses ih =>
      have hrest := ih (keeping.use d u).1
      rw [loaded_use] at hrest
      refine hrest.trans ?_
      rw [loads, loads]
      cases hcontents : u.contents? with
      | none => rw [List.filterMap_cons_none hcontents]; rfl
      | some contents =>
          rw [List.filterMap_cons_some hcontents, List.getLast?_cons]
          cases (uses.filterMap Use.contents?).getLast? <;> rfl

theorem lookup_after (uses : List Use) (ruleId errorKey : String) :
    (keeping.after empty uses).lookup ruleId errorKey
      = match (loads uses).getLast? with
        | none => .error .notLoaded
        | some contents => .ok (find? contents ruleId errorKey) := by
  have hloaded : (keeping.after empty uses).loaded = (loads uses).getLast? :=
    (loaded_after empty uses).trans Option.or_none
  cases hloads : (loads uses).getLast? with
  | none =>
      rw [hloads] at hloaded
      simp only [lookup, hloaded]
  | some contents =>
      rw [hloads] at hloaded
      simp only [lookup, hloaded]

/-- Lookups at a directory, each of them after uses of its own: a directory may be loaded between one
lookup and the next. -/
def lookupAfter (before : String → String → List Use) : Lookup := fun ruleId errorKey =>
  (keeping.after empty (before ruleId errorKey)).lookup ruleId errorKey

/-- What is found counts for its pair in the list that was loaded last. -/
theorem exists_of_lookupAfter {before : String → String → List Use} {ruleId errorKey : String}
    {found : Option RuleContent} (h : lookupAfter before ruleId errorKey = .ok found) :
    ∃ contents, (loads (before ruleId errorKey)).getLast? = some contents ∧
      IsLast contents (ruleId, errorKey) found := by
  rw [lookupAfter, lookup_after] at h
  split at h
  · cases h
  · rename_i contents hloads
    exact ⟨contents, hloads, find?_eq_iff.mp (Except.ok.inj h)⟩

theorem isTold_use (before : List Use) (u : Use) :
    IsTold before u (keeping.use (keeping.after empty before) u).2 := by
  cases u with
  | load contents => exact countRules_eq_distinct contents
  | lookup ruleId errorKey =>
      show IsTold before _ (.answer ((keeping.after empty before).lookup ruleId errorKey))
      rw [lookup_after, IsTold]
      split
      · rfl
      · exact ⟨_, rfl, find?_eq_iff.mp rfl⟩

end Directory

/-- A table that is made anew with each list that is loaded. -/
def Table.keeping : Keeping (Option Table) where
  load _ contents := (some (ofContents contents), (ofContents contents).size)
  lookup
    | none => fun _ _ => .error .notLoaded
    | some t => fun ruleId errorKey => .ok t[(ruleId, errorKey)]?

/-- A table stands for the list that was entered into it. -/
def Table.StandsFor (t : Option Table) (d : Directory) : Prop := t = d.loaded.map ofContents

theorem Table.standsFor_use {t : Option Table} {d : Directory} (h : StandsFor t d) (u : Use) :
    StandsFor (keeping.use t u).1 (Directory.keeping.use d u).1 ∧
      (keeping.use t u).2 = (Directory.keeping.use d u).2 := by
  obtain rfl := h
  cases u with
  | load contents =>
      have hsize := (files_ofContents contents).size
      rw [← countRules_eq_distinct] at hsize
      exact ⟨rfl, congrArg Said.count hsize⟩
  | lookup ruleId errorKey =>
      refine ⟨rfl, ?_⟩
      obtain ⟨loaded⟩ := d
      cases loaded with
      | none => rfl
      | some contents =>
          show Said.answer (.ok (ofContents contents)[(ruleId, errorKey)]?) = .answer (.ok _)
          rw [find?_eq_iff.mpr ((files_ofContents contents).last (ruleId, errorKey))]

/-- Whatever it is used for, a table that is made anew with each list says what a directory says. -/
theorem Table.said_eq (uses : List Use) :
    keeping.said none uses = Directory.keeping.said .empty uses := by
  have hstart : StandsFor none .empty := rfl
  exact keeping.said_eq_of_simulation (R := StandsFor) (fun _ _ u h => standsFor_use h u) hstart uses

end Content

end ReportGateway
