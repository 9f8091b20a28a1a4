import ReportGateway.Proofs.Filtering

/-!
Policies against one another. A policy asks no less than another when it has all conditions of that
and shows disabled hits only if that does. What it shows is then part of what the other shows, with the
same content and in the same order, although it may pass over hits that the other looks content up for
(`visible_sublist`). Two policies that ask no less than each other are one policy: neither the order of
conditions nor their repetition is seen by whoever filters (`filter_congr`).
-/

namespace ReportGateway.Visibility

/-- A policy asks no less than another: it has all its conditions, and shows disabled hits only if the
other does. -/
structure Policy.AsksNoLess (q p : Policy) : Prop where
  conditions : ∀ c ∈ p.conditions, c ∈ q.conditions
  disabled : q.includeDisabled = true → p.includeDisabled = true

namespace Policy.AsksNoLess

variable {p q : Policy} {h : RuleHit}

theorem skips (hless : q.AsksNoLess p) (hskip : p.skips h = true) : q.skips h = true := by
  rw [Policy.skips, Bool.and_eq_true, Bool.not_eq_true'] at hskip ⊢
  obtain ⟨hdisabled, hhidden⟩ := hskip
  refine ⟨hdisabled, Bool.eq_false_iff.mpr fun hshown => ?_⟩
  rw [hless.disabled hshown] at hhidden
  cases hhidden

theorem admits (hless : q.AsksNoLess p) {c : RuleContent} (hadmits : q.admits h c = true) :
    p.admits h c = true := by
  rw [Policy.admits, List.all_eq_true] at hadmits ⊢
  exact fun condition hmem => hadmits condition (hless.conditions condition hmem)

/-- What the one shows, the other shows with the same content. -/
theorem classify (hless : q.AsksNoLess p) {content : Option RuleContent}
    (hvisible : q.classify h content = .visible) : p.classify h content = .visible := by
  cases hskip : q.skips h with
  | true =>
      rw [classify_of_skips content hskip] at hvisible
      cases hvisible
  | false =>
      have hskip' : p.skips h = false :=
        Bool.eq_false_iff.mpr fun hpassed => Bool.eq_false_iff.mp hskip (hless.skips hpassed)
      cases content with
      | none =>
          rw [classify_none hskip] at hvisible
          cases hvisible
      | some c =>
          rw [classify_some c hskip] at hvisible
          split at hvisible
          · rename_i hadmits
            rw [classify_some c hskip', if_pos (hless.admits hadmits)]
          · cases hvisible

theorem shown? (hless : q.AsksNoLess p) {source : Content.Lookup} {e : RuleEntry}
    (hentry : shown? source q h = some e) : Visibility.shown? source p h = some e := by
  rw [Visibility.shown?] at hentry ⊢
  split at hentry
  · rename_i hvisible
    have hvisible' : classOf source p h = .visible := hless.classify hvisible
    rwa [if_pos hvisible']
  · cases hentry

end Policy.AsksNoLess

section Narrow

variable {p q : Policy}

/-- The visible list of a policy that asks no less is part of that of the other, in the same order. -/
theorem visible_sublist (source : Content.Lookup) (hless : q.AsksNoLess p) (hits : List RuleHit) :
    (each source q hits).visible.Sublist (each source p hits).visible := by
  induction hits with
  | nil => exact List.Sublist.refl _
  | cons h hits ih =>
      simp only [each, List.filterMap_cons] at ih ⊢
      cases hentry : shown? source q h with
      | some e =>
          rw [hless.shown? hentry]
          exact ih.cons_cons e
      | none =>
          cases shown? source p h with
          | none => exact ih
          | some e => exact ih.cons e

end Narrow

section Congruence

variable {p q : Policy} (hpq : q.AsksNoLess p) (hqp : p.AsksNoLess q)

include hpq hqp

theorem skips_congr (h : RuleHit) : p.skips h = q.skips h :=
  Bool.eq_iff_iff.mpr ⟨hpq.skips, hqp.skips⟩

theorem admits_congr (h : RuleHit) (c : RuleContent) : p.admits h c = q.admits h c :=
  Bool.eq_iff_iff.mpr ⟨hqp.admits, hpq.admits⟩

theorem classify_congr (h : RuleHit) (content : Option RuleContent) :
    p.classify h content = q.classify h content := by
  simp only [Policy.classify, skips_congr hpq hqp, admits_congr hpq hqp]

theorem add_congr (h : RuleHit) (content : Option RuleContent) (f : Filtered) :
    f.add p h content = f.add q h content := by
  unfold Filtered.add
  rw [classify_congr hpq hqp]

/-- Policies that ask no less than each other filter by one and the same program. -/
theorem filter_congr (hits : List RuleHit) : filter p hits = filter q hits := by
  induction hits with
  | nil => rfl
  | cons h hits ih => simp only [filter, ih, skips_congr hpq hqp, add_congr hpq hqp]

end Congruence

/-- More conditions, and disabled hits hidden, only narrow what is shown: the visible list is part of
what it was, with the same entries in the same order, as long as every rule can be looked up. And
policies with the same conditions in whatever order and number, and of one mind about disabled hits,
filter by the same program, so that they come to the same result or the same error after the same
lookups, wherever content is looked up. -/
theorem policies_narrow (p q : Policy) (hits : List RuleHit) :
    (∀ s : Surroundings, (∀ h ∈ hits, Answers s.content h) →
      (∀ c ∈ p.conditions, c ∈ q.conditions) →
      (q.includeDisabled = true → p.includeDisabled = true) →
      ∃ f g, ((filter p hits).run s).result = .ok f ∧ ((filter q hits).run s).result = .ok g ∧
        g.visible.Sublist f.visible) ∧
    ((∀ c, c ∈ p.conditions ↔ c ∈ q.conditions) → p.includeDisabled = q.includeDisabled →
      filter p hits = filter q hits) := by
  refine ⟨?_, ?_⟩
  · intro s hanswers hconditions hdisabled
    refine ⟨each s.content p hits, each s.content q hits, ?_, ?_,
      visible_sublist s.content ⟨hconditions, hdisabled⟩ hits⟩
    · rw [run_filter_of_answers s p hits fun h hmem _ => hanswers h hmem]
    · rw [run_filter_of_answers s q hits fun h hmem _ => hanswers h hmem]
  · intro hconditions hdisabled
    have hpq : q.AsksNoLess p := ⟨fun c => (hconditions c).mp, fun hq => hdisabled.trans hq⟩
    have hqp : p.AsksNoLess q := ⟨fun c => (hconditions c).mpr, fun hp => hdisabled.symm.trans hp⟩
    exact filter_congr hpq hqp hits

section Hits

/-- A hit that its user has disabled, and one that nobody has. -/
def disabledAndActive : List RuleHit :=
  [⟨"a", "K", 0, true, "", "", .null, ""⟩, ⟨"b", "K", 0, false, "", "", .null, ""⟩]

/-- Nobody is there, and every rule has content for customers. -/
def contentForAll : Surroundings where
  network _ := .unreachable
  content ruleId errorKey :=
    .ok (some ⟨ruleId, errorKey, "", "", "", "", "", 1, 1, [], false, true, ""⟩)

/-- Only active hits with content for customers; one condition stands twice. -/
def strict : Policy := ⟨false, [.internal true, .audience, .internal true]⟩

theorem policies_narrow_of_two_hits :
    (∃ f g,
      ((filter (.forReport true false true) disabledAndActive).run contentForAll).result = .ok f ∧
      ((filter strict disabledAndActive).run contentForAll).result = .ok g ∧
      g.visible.Sublist f.visible ∧ f.visible.length = 2 ∧ g.visible.length = 1) ∧
    filter strict disabledAndActive
      = filter ⟨false, [.audience, .internal true]⟩ disabledAndActive := by
  refine ⟨?_, ?_⟩
  · obtain ⟨f, g, hf, hg, hsublist⟩ :=
      (policies_narrow (.forReport true false true) strict disabledAndActive).1 contentForAll
        (fun _ _ => ⟨_, rfl⟩) (by simp [Policy.forReport, strict]) (by simp [strict])
    have hf' : ((filter (.forReport true false true) disabledAndActive).run
        contentForAll).result.map (·.visible.length) = .ok 2 := rfl
    have hg' : ((filter strict disabledAndActive).run
        contentForAll).result.map (·.visible.length) = .ok 1 := rfl
    rw [hf] at hf'
    rw [hg] at hg'
    exact ⟨f, g, hf, hg, hsublist, Except.ok.inj hf', Except.ok.inj hg'⟩
  · exact (policies_narrow strict ⟨false, [.audience, .internal true]⟩ disabledAndActive).2
      (by simp [strict]) rfl

end Hits

end ReportGateway.Visibility
