import ReportGateway.Visibility.Filter

/-!
Filtering against classifying every hit on its own. `each` is the definition one would write without
a thought for effects: the class of a hit depends on that hit and the content of its rule alone, the
visible list is read off hit by hit, and the other classes are counted. `filter` makes one pass,
decides twice whether a hit is passed over, and stops in the middle when the content of a rule cannot
be had. It still comes to what `each` says, asks for exactly the rules of the hits that are not
passed over, and otherwise ends in the first error in the order of the hits.
-/

namespace ReportGateway.Visibility

/-- The rule that a hit names. -/
def ruleOf (h : RuleHit) : String × String := (h.component, h.key)

/-- What a source of content has for the rule of a hit; nothing when it does not answer. -/
def contentFor (source : Content.Lookup) (h : RuleHit) : Option RuleContent :=
  (source h.component h.key).toOption.join

/-- The class of a hit on its own. -/
def classOf (source : Content.Lookup) (p : Policy) (h : RuleHit) : Visibility :=
  p.classify h (contentFor source h)

/-- The entry that a visible hit makes on its own. -/
def shown? (source : Content.Lookup) (p : Policy) (h : RuleHit) : Option RuleEntry :=
  if classOf source p h = .visible then (contentFor source h).map (RuleEntry.join h) else none

/-- All hits classified one by one. -/
def each (source : Content.Lookup) (p : Policy) (hits : List RuleHit) : Filtered where
  visible := hits.filterMap (shown? source p)
  noContent := hits.countP fun h => classOf source p h = .noContent
  disabled := hits.countP fun h => classOf source p h = .disabled

/-- The rules of the hits that are not passed over, in order. -/
def asked (p : Policy) (hits : List RuleHit) : List (String × String) :=
  (hits.filter fun h => !p.skips h).map ruleOf

/-- A source answers for a hit when it has content for its rule or knows that there is none. -/
def Answers (source : Content.Lookup) (h : RuleHit) : Prop :=
  ∃ content, source h.component h.key = .ok content

section Classes

variable {source : Content.Lookup} {p : Policy} {h : RuleHit}

theorem classify_of_skips (content : Option RuleContent) (hskip : p.skips h = true) :
    p.classify h content = .disabled := by
  simp only [Policy.classify, if_pos hskip]

theorem classify_some (c : RuleContent) (hskip : p.skips h = false) :
    p.classify h (some c) = if p.admits h c then .visible else .noContent := by
  simp only [Policy.classify, hskip, Bool.false_eq_true, if_false]

theorem classify_none (hskip : p.skips h = false) : p.classify h none = .noContent := by
  simp only [Policy.classify, hskip, Bool.false_eq_true, if_false]

theorem contentFor_of_ok {content : Option RuleContent}
    (hfound : source h.component h.key = .ok content) : contentFor source h = content := by
  rw [contentFor, hfound]
  rfl

theorem each_cons_of_skips (hits : List RuleHit) (hskip : p.skips h = true) :
    each source p (h :: hits)
      = { each source p hits with disabled := (each source p hits).disabled + 1 } := by
  have hclass : classOf source p h = .disabled := classify_of_skips _ hskip
  simp [each, shown?, hclass]

theorem each_cons_of_ok (hits : List RuleHit) {content : Option RuleContent}
    (hskip : p.skips h = false) (hfound : source h.component h.key = .ok content) :
    each source p (h :: hits) = (each source p hits).add p h content := by
  have hcontent : contentFor source h = content := contentFor_of_ok hfound
  have hclass : classOf source p h = p.classify h content := by rw [classOf, hcontent]
  cases content with
  | none => simp [each, shown?, Filtered.add, hclass, classify_none hskip]
  | some c =>
      rw [classify_some c hskip] at hclass
      cases hadmits : p.admits h c with
      | true => simp [each, shown?, Filtered.add, hclass, hcontent, classify_some c hskip, hadmits]
      | false => simp [each, shown?, Filtered.add, hclass, classify_some c hskip, hadmits]

/-- A hit makes an entry exactly when it is visible: no hit without content is of that class. -/
theorem isSome_shown? : (shown? source p h).isSome = decide (classOf source p h = .visible) := by
  cases hskip : p.skips h with
  | true => simp [shown?, classOf, classify_of_skips _ hskip]
  | false =>
      cases hcontent : contentFor source h with
      | none => simp [shown?, classOf, hcontent, classify_none hskip]
      | some c => by_cases hv : classOf source p h = .visible <;> simp [shown?, hv, hcontent]

/-- Without a look at the classes that show nothing: one entry for every visible hit, in order. -/
theorem map_some_visible_each (hits : List RuleHit) :
    (each source p hits).visible.map some
      = (hits.filter fun h => classOf source p h = .visible).map fun h =>
          (contentFor source h).map (RuleEntry.join h) := by
  induction hits with
  | nil => rfl
  | cons h hits ih =>
      have hentry : (shown? source p h).isSome = decide (classOf source p h = .visible) :=
        isSome_shown?
      simp only [each] at ih
      by_cases hv : classOf source p h = .visible
      · obtain ⟨e, he⟩ := Option.isSome_iff_exists.mp (hentry.trans (decide_eq_true hv))
        have hjoin : (contentFor source h).map (RuleEntry.join h) = some e := by
          rwa [shown?, if_pos hv] at he
        simp [each, hv, he, hjoin, ih]
      · simp [each, shown?, hv, ih]

end Classes

/-- Every hit is of exactly one class, so the classes add up. -/
theorem classified_each (source : Content.Lookup) (p : Policy) (hits : List RuleHit) :
    (each source p hits).classified = hits.length := by
  induction hits with
  | nil => rfl
  | cons h hits ih =>
      have hentry : (shown? source p h).isSome = decide (classOf source p h = .visible) :=
        isSome_shown?
      simp only [Filtered.classified, each, List.filterMap_cons, List.countP_cons,
        List.length_cons] at ih ⊢
      cases hclass : classOf source p h <;> cases he : shown? source p h <;>
        simp [hclass, he] at hentry ⊢ <;> omega

section Runs

variable (s : Surroundings) {p : Policy} {h : RuleHit} (hits : List RuleHit)

theorem run_filter_of_skips (hskip : p.skips h = true) :
    (filter p (h :: hits)).run s
      = ⟨((filter p hits).run s).result.map fun f => { f with disabled := f.disabled + 1 },
          ((filter p hits).run s).calls, ((filter p hits).run s).lookups⟩ := by
  rw [filter, if_pos hskip, Action.run_bind]
  cases ((filter p hits).run s).result with
  | error e => rfl
  | ok f => simp [Run.after, Except.map]

theorem run_filter_of_error {e : Content.Error} (hskip : p.skips h = false)
    (hfailed : s.content h.component h.key = .error e) :
    (filter p (h :: hits)).run s = ⟨.error e, [], [ruleOf h]⟩ := by
  rw [filter, if_neg (by simp [hskip]), Action.run_bind]
  simp [Action.contentOf, Action.run, hfailed, Run.after, ruleOf]

theorem run_filter_of_ok {content : Option RuleContent} (hskip : p.skips h = false)
    (hfound : s.content h.component h.key = .ok content) :
    (filter p (h :: hits)).run s
      = ⟨((filter p hits).run s).result.map (Filtered.add p h content),
          ((filter p hits).run s).calls, ruleOf h :: ((filter p hits).run s).lookups⟩ := by
  rw [filter, if_neg (by simp [hskip]), Action.run_bind]
  simp only [Action.contentOf, Action.run, hfound, Run.after, Action.run_bind]
  cases ((filter p hits).run s).result with
  | error e => rfl
  | ok f => simp [Except.map, ruleOf]

end Runs

/-- When a source answers for every hit that is not passed over, filtering comes to classifying every
hit on its own. -/
theorem run_filter_of_answers (s : Surroundings) (p : Policy) (hits : List RuleHit)
    (hanswers : ∀ h ∈ hits, p.skips h = false → Answers s.content h) :
    (filter p hits).run s = ⟨.ok (each s.content p hits), [], asked p hits⟩ := by
  induction hits with
  | nil => rfl
  | cons h hits ih =>
      have hrest := ih fun k hk => hanswers k (List.mem_cons_of_mem _ hk)
      cases hskip : p.skips h with
      | true =>
          rw [run_filter_of_skips s hits hskip, hrest, each_cons_of_skips hits hskip]
          simp [asked, hskip, Except.map]
      | false =>
          obtain ⟨content, hfound⟩ := hanswers h List.mem_cons_self hskip
          rw [run_filter_of_ok s hits hskip hfound, hrest, each_cons_of_ok hits hskip hfound]
          simp [asked, hskip, Except.map]

/-- Filtering ends at the first hit that is not passed over and for which a source does not answer,
and shows nothing of the hits before it. -/
theorem run_filter_of_first_error (s : Surroundings) (p : Policy) (before : List RuleHit)
    (h : RuleHit) (after : List RuleHit) {e : Content.Error}
    (hbefore : ∀ k ∈ before, p.skips k = false → Answers s.content k)
    (hskip : p.skips h = false) (hfailed : s.content h.component h.key = .error e) :
    (filter p (before ++ h :: after)).run s = ⟨.error e, [], asked p (before ++ [h])⟩ := by
  induction before with
  | nil =>
      rw [List.nil_append, run_filter_of_error s after hskip hfailed]
      simp [asked, hskip]
  | cons k before ih =>
      have hrest := ih fun l hl => hbefore l (List.mem_cons_of_mem _ hl)
      rw [List.cons_append]
      cases hskipk : p.skips k with
      | true =>
          rw [run_filter_of_skips s _ hskipk, hrest]
          simp [asked, hskipk, Except.map]
      | false =>
          obtain ⟨content, hfound⟩ := hbefore k List.mem_cons_self hskipk
          rw [run_filter_of_ok s _ hskipk hfound, hrest]
          simp [asked, hskipk, Except.map]

/-- A list in which a source fails for a hit that is not passed over has a first such hit. -/
theorem exists_first_error (source : Content.Lookup) (p : Policy) (hits : List RuleHit)
    (hfails : ∃ h ∈ hits, p.skips h = false ∧ ¬Answers source h) :
    ∃ before h after e, hits = before ++ h :: after ∧
      (∀ k ∈ before, p.skips k = false → Answers source k) ∧
      p.skips h = false ∧ source h.component h.key = .error e := by
  induction hits with
  | nil =>
      obtain ⟨h, hmem, -⟩ := hfails
      exact absurd hmem List.not_mem_nil
  | cons k hits ih =>
      by_cases hk : p.skips k = false → Answers source k
      · have hrest : ∃ h ∈ hits, p.skips h = false ∧ ¬Answers source h := by
          obtain ⟨h, hmem, hskip, hfailed⟩ := hfails
          rcases List.mem_cons.mp hmem with rfl | hmem
          · exact absurd (hk hskip) hfailed
          · exact ⟨h, hmem, hskip, hfailed⟩
        obtain ⟨before, h, after, e, rfl, hbefore, hskip, hfailed⟩ := ih hrest
        refine ⟨k :: before, h, after, e, rfl, ?_, hskip, hfailed⟩
        intro l hl
        rcases List.mem_cons.mp hl with rfl | hl
        · exact hk
        · exact hbefore l hl
      · rw [Classical.not_imp] at hk
        obtain ⟨hskip, hfailed⟩ := hk
        refine ⟨[], k, hits, ?_⟩
        cases hanswer : source k.component k.key with
        | ok content => exact absurd ⟨content, hanswer⟩ hfailed
        | error e =>
            exact ⟨e, rfl, fun _ hl => absurd hl List.not_mem_nil, hskip, rfl⟩

/-- Filtering agrees with classifying every hit on its own, in what it gives and in what it looks up;
one look-up without an answer ends the whole with the first such error. -/
theorem filter_classifies_each (s : Surroundings) (p : Policy) (hits : List RuleHit) :
    ((∃ h ∈ hits, p.skips h = false ∧ ¬Answers s.content h) →
      ∃ before h after e, hits = before ++ h :: after ∧
        (∀ k ∈ before, p.skips k = false → Answers s.content k) ∧
        p.skips h = false ∧ s.content h.component h.key = .error e ∧
        (filter p hits).run s = ⟨.error e, [], asked p (before ++ [h])⟩) ∧
    ((∀ h ∈ hits, p.skips h = false → Answers s.content h) →
      ∃ f, (filter p hits).run s = ⟨.ok f, [], asked p hits⟩ ∧
        f.visible.map some = ((hits.filter fun h => classOf s.content p h = .visible).map fun h =>
          (contentFor s.content h).map (RuleEntry.join h)) ∧
        f.noContent = (hits.countP fun h => classOf s.content p h = .noContent) ∧
        f.disabled = (hits.countP fun h => classOf s.content p h = .disabled) ∧
        f.visible.length + f.noContent + f.disabled = hits.length ∧
        f.totalCount =
          if f.visible = [] ∧ 0 < f.noContent ∧ f.disabled = 0 then 0
          else f.visible.length + f.noContent) := by
  refine ⟨?_, ?_⟩
  · intro hfails
    obtain ⟨before, h, after, e, rfl, hbefore, hskip, hfailed⟩ :=
      exists_first_error s.content p hits hfails
    exact ⟨before, h, after, e, rfl, hbefore, hskip, hfailed,
      run_filter_of_first_error s p before h after hbefore hskip hfailed⟩
  · intro hanswers
    refine ⟨each s.content p hits, run_filter_of_answers s p hits hanswers,
      map_some_visible_each hits, rfl, rfl, classified_each s.content p hits, ?_⟩
    simp only [Filtered.totalCount, List.isEmpty_iff]

end ReportGateway.Visibility
