import Mathlib.Data.List.TakeWhile
import ReportGateway.Proofs.Filtering
import ReportGateway.Proofs.Verdict

/-!
One rule against the report that it is part of. The endpoint for single rules goes through its checks
by hand: whether there is content, then the audience by a policy of its own, and only then whether the
content is internal and the caller entitled (`judged`). A report leaves all of it to one policy and
filters its list of hits. The policy admits the content for which the checks come to an entry, and no
other (`judged_cases`), so that a rule is answered if and only if a report that includes disabled hits
shows it; what the checks add is why it is not answered (`rule_agrees_with_report`).
-/

namespace ReportGateway

open Visibility (Filtered Policy)

/-- One hit that is not passed over is looked up, and the list is what is added for it. -/
theorem Visibility.among_filter_singleton {p : Policy} {h : RuleHit} (hskip : p.skips h = false)
    (v : Services) (content : Content.Lookup) (journal : Journal) :
    (filter p [h]).among v content journal
      = ((content h.component h.key).map fun found => Filtered.empty.add p h found, journal) := by
  rw [filter, if_neg (by simp [hskip]), Action.among_bind, Action.among_contentOf]
  cases content h.component h.key with
  | error e => rfl
  | ok found => rfl

namespace Gateway

/-- What a selector is made of: it is taken apart at its first bar, and an error key may have more of
them. -/
theorem selector_eq_ok_iff {raw ruleId errorKey : String} :
    selector raw = .ok (ruleId, errorKey) ↔ raw = Aggregator.selectorText ruleId errorKey ∧
      ruleId ≠ "" ∧ errorKey ≠ "" ∧ '|' ∉ ruleId.toList := by
  constructor
  · intro h
    refine ⟨(selectorText_of_selector h).symm, ?_⟩
    unfold selector at h
    dsimp only at h
    split at h
    · cases h
    · rename_i hparts
      cases h
      rw [not_or, List.isEmpty_iff, List.isEmpty_iff] at hparts
      refine ⟨by simpa using hparts.1, by simpa using hparts.2, fun hmem => ?_⟩
      rw [String.toList_ofList] at hmem
      have hbar := List.mem_takeWhile_imp hmem
      simp at hbar
  · rintro ⟨rfl, hruleId, hkey, hbar⟩
    have hfront : ∀ c ∈ ruleId.toList, decide (c ≠ '|') = true := by
      intro c hc
      exact decide_eq_true fun heq => hbar (heq ▸ hc)
    have htext : (Aggregator.selectorText ruleId errorKey).toList
        = ruleId.toList ++ '|' :: errorKey.toList := by
      simp [Aggregator.selectorText]
    unfold selector
    rw [htext, List.takeWhile_append_of_pos hfront, List.dropWhile_append_of_pos hfront]
    simp [hruleId, hkey]

/-- What the endpoint for single rules makes of a hit when it has looked its content up. -/
def judged (audienceOnly allowed : Bool) (hit : RuleHit) :
    Option RuleContent → Except Failure RuleEntry
  | none => .error (.notFound "Rule was not found")
  | some c =>
    if (Policy.mk true (if audienceOnly then [.audience] else [])).classify hit (some c) ≠ .visible
    then .error (.notFound "Rule was not found")
    else if c.internal ∧ !allowed then
      .error (.permissionDenied "This rule is not available for your organization")
    else .ok (.join hit c)

/-- Content that is kept from a caller although it is meant for the audience that is asked for. -/
structure IsWithheld (audienceOnly allowed : Bool) (c : RuleContent) : Prop where
  audience : audienceOnly = true → c.osdCustomer = true
  internal : c.internal = true
  denied : allowed = false

section Judged

variable {audienceOnly allowed : Bool} {hit : RuleHit} {c : RuleContent}

/-- A policy that includes disabled hits passes none over. -/
theorem skips_eq_false (conditions : List Visibility.Condition) :
    (Policy.mk true conditions).skips hit = false := Bool.and_false _

theorem classify_of_audience :
    (Policy.mk true (if audienceOnly then [.audience] else [])).classify hit (some c) = .visible ↔
      (audienceOnly = true → c.osdCustomer = true) := by
  rw [Visibility.classify_some c (skips_eq_false _)]
  cases audienceOnly <;> simp [Policy.admits, Visibility.Condition.audience]

theorem admits_forReport :
    (Policy.forReport true audienceOnly allowed).admits hit c = true ↔
      (audienceOnly = true → c.osdCustomer = true) ∧ (c.internal = true → allowed = true) := by
  cases audienceOnly <;> cases hinternal : c.internal <;>
    simp [Policy.admits, Policy.forReport, Visibility.Condition.audience,
      Visibility.Condition.internal, hinternal, and_comm]

theorem judged_of_audience (h : ¬(audienceOnly = true → c.osdCustomer = true)) :
    judged audienceOnly allowed hit (some c) = .error (.notFound "Rule was not found") := by
  unfold judged
  exact if_pos (mt classify_of_audience.mp h)

theorem judged_of_withheld (h : IsWithheld audienceOnly allowed c) :
    judged audienceOnly allowed hit (some c)
      = .error (.permissionDenied "This rule is not available for your organization") := by
  unfold judged
  dsimp only
  rw [if_neg (not_not_intro (classify_of_audience.mpr h.audience))]
  exact if_pos ⟨h.internal, by simp [h.denied]⟩

theorem judged_of_shown (haudience : audienceOnly = true → c.osdCustomer = true)
    (hentitled : c.internal = true → allowed = true) :
    judged audienceOnly allowed hit (some c) = .ok (.join hit c) := by
  unfold judged
  dsimp only
  rw [if_neg (not_not_intro (classify_of_audience.mpr haudience))]
  refine if_neg ?_
  rintro ⟨hinternal, hdenied⟩
  simp [hentitled hinternal] at hdenied

/-- Content that the policy for reports admits makes an entry; other content is withheld, or as good as
none. -/
theorem judged_cases (audienceOnly allowed : Bool) (hit : RuleHit) (c : RuleContent) :
    ((Policy.forReport true audienceOnly allowed).admits hit c = true ∧
        judged audienceOnly allowed hit (some c) = .ok (.join hit c)) ∨
      ((Policy.forReport true audienceOnly allowed).admits hit c = false ∧
        IsWithheld audienceOnly allowed c ∧ judged audienceOnly allowed hit (some c)
          = .error (.permissionDenied "This rule is not available for your organization")) ∨
      ((Policy.forReport true audienceOnly allowed).admits hit c = false ∧
        ¬IsWithheld audienceOnly allowed c ∧
          judged audienceOnly allowed hit (some c) = .error (.notFound "Rule was not found")) := by
  by_cases haudience : audienceOnly = true → c.osdCustomer = true
  · by_cases hentitled : c.internal = true → allowed = true
    · exact Or.inl ⟨admits_forReport.mpr ⟨haudience, hentitled⟩, judged_of_shown haudience hentitled⟩
    · obtain ⟨hinternal, hdenied⟩ := Classical.not_imp.mp hentitled
      have hwithheld : IsWithheld audienceOnly allowed c :=
        ⟨haudience, hinternal, by simpa using hdenied⟩
      refine Or.inr (Or.inl ⟨?_, hwithheld, judged_of_withheld hwithheld⟩)
      exact eq_false_of_ne_true fun hadmits => hentitled (admits_forReport.mp hadmits).2
  · refine Or.inr (Or.inr ⟨?_, fun h => haudience h.audience, judged_of_audience haudience⟩)
    exact eq_false_of_ne_true fun hadmits => haudience (admits_forReport.mp hadmits).1

/-- The response to what a request for a single rule came to. -/
def entryResponse : Except Failure RuleEntry → Http.Response
  | .ok entry => okay [("report", entry.toJson)]
  | .error f => f.response

/-- What a report shows of a hit with this content, if any. -/
def shownOfHit (audienceOnly allowed : Bool) (hit : RuleHit) (found : Option RuleContent) :
    List RuleEntry :=
  (Filtered.empty.add (.forReport true audienceOnly allowed) hit found).visible

/-- A hit is answered with what a report shows of it; if that is nothing, either its content is withheld
or there is nothing to be found. -/
theorem entryResponse_cases (audienceOnly allowed : Bool) (hit : RuleHit)
    (found : Option RuleContent) :
    (∃ e, shownOfHit audienceOnly allowed hit found = [e] ∧
        entryResponse (judged audienceOnly allowed hit found) = okay [("report", e.toJson)]) ∨
      (shownOfHit audienceOnly allowed hit found = [] ∧
        (∃ c, found = some c ∧ IsWithheld audienceOnly allowed c) ∧
        entryResponse (judged audienceOnly allowed hit found) = Failure.notice 403
          "PERMISSION_DENIED" "This rule is not available for your organization") ∨
      (shownOfHit audienceOnly allowed hit found = [] ∧
        (¬∃ c, found = some c ∧ IsWithheld audienceOnly allowed c) ∧
        entryResponse (judged audienceOnly allowed hit found)
          = Failure.notice 404 "NOT_FOUND" "Rule was not found") := by
  have hskip : (Policy.forReport true audienceOnly allowed).skips hit = false := skips_eq_false _
  unfold shownOfHit Filtered.add
  cases found with
  | none =>
      rw [Visibility.classify_none hskip]
      exact Or.inr (Or.inr ⟨rfl, by simp, rfl⟩)
  | some c =>
      rw [Visibility.classify_some c hskip]
      rcases judged_cases audienceOnly allowed hit c with
        ⟨hadmits, hended⟩ | ⟨hadmits, hwithheld, hended⟩ | ⟨hadmits, hother, hended⟩
      · rw [hadmits, hended]
        exact Or.inl ⟨_, rfl, rfl⟩
      · rw [hadmits, hended]
        exact Or.inr (Or.inl ⟨rfl, ⟨c, rfl, hwithheld⟩, rfl⟩)
      · rw [hadmits, hended]
        exact Or.inr (Or.inr ⟨rfl, by simpa using hother, rfl⟩)

end Judged

section Single

variable {g : Gateway} {r : Inbound} {caller : Caller} {found : List (String × String)}
  {raw rawSelector cluster ruleId errorKey : String} {v : Services} {content : Content.Lookup}
  {hit : RuleHit} {later : Journal}

/-- How the endpoint for single rules ends once it has the hit. -/
theorem among_rule (hcluster : clusterName raw = .ok cluster)
    (hselector : selector rawSelector = .ok (ruleId, errorKey))
    (hhit : (Aggregator.rule g.aggregator caller.org cluster caller.user ruleId errorKey).among v
      content [] = (.ok hit, later)) :
    (rule g caller raw rawSelector r).among v content []
      = (((content hit.component hit.key).mapError Failure.ofContent >>=
          judged (lenientFlag r "osd_eligible") (g.access.allows caller.org) hit).map fun entry =>
            okay [("report", entry.toJson)], later) := by
  rw [rule, hcluster, hselector]
  show (Aggregator.rule g.aggregator caller.org cluster caller.user ruleId errorKey >>= _).among v
    content [] = _
  rw [Action.among_bind, hhit]
  dsimp only
  rw [Action.among_bind, Action.among_mapError, Action.among_contentOf]
  cases content hit.component hit.key with
  | error e => rfl
  | ok found =>
      cases found with
      | none => rfl
      | some c =>
          show _ = ((judged _ _ hit (some c)).map _, later)
          unfold judged
          dsimp only [Except.mapError]
          generalize Policy.mk true _ = policy
          by_cases hclass : policy.classify hit (some c) ≠ .visible
          · rw [if_pos hclass, if_pos hclass]
            rfl
          · rw [if_neg hclass, if_neg hclass]
            by_cases hkept : c.internal = true ∧ (!g.access.allows caller.org) = true
            · rw [if_pos hkept, if_pos hkept]
              rfl
            · rw [if_neg hkept, if_neg hkept]
              rfl

/-- What a client is told when the endpoint for single rules has the hit. -/
theorem served_of_hit (hasked : Asked g r caller .rule found) (hget : r.method = "GET")
    (hraw : captures found = .ok (raw, rawSelector)) (hcluster : clusterName raw = .ok cluster)
    (hselector : selector rawSelector = .ok (ruleId, errorKey))
    (hhit : (Aggregator.rule g.aggregator caller.org cluster caller.user ruleId errorKey).among v
      content [] = (.ok hit, later)) (groups : Content.Groups) (id : String) :
    (served g v content groups id r).1
      = dressed g id
          (entryResponse ((content hit.component hit.key).mapError Failure.ofContent >>=
            judged (lenientFlag r "osd_eligible") (g.access.allows caller.org) hit)) := by
  rw [served_of_asked groups id hasked hget, answer, ofCaptures, hraw]
  show dressed g id (settled ((ofHandler (rule g caller raw rawSelector (seen g caller r))).among v
    content []).1) = _
  rw [ofHandler, Action.among_mapError, among_rule hcluster hselector hhit]
  show dressed g id (settled ((Except.map _ ((content hit.component hit.key).mapError _ >>=
    judged (lenientFlag r "osd_eligible") _ hit)).mapError _)) = _
  congr 1
  cases (content hit.component hit.key).mapError Failure.ofContent >>=
    judged (lenientFlag r "osd_eligible") (g.access.allows caller.org) hit with
  | ok entry => rfl
  | error f => rfl

/-- A rule is answered if and only if a report that includes disabled hits shows its hit, and with
the entry of the report. If the content cannot be looked up in time, neither is answered. A hit that
a report leaves out is kept from the caller when its content is meant for the audience but internal,
and is not to be found in all other cases. The store is asked for the selector that the client wrote,
whatever bars there are in its error key. -/
theorem rule_agrees_with_report :
    (∀ raw ruleId errorKey, selector raw = .ok (ruleId, errorKey) ↔
      raw = Aggregator.selectorText ruleId errorKey ∧
        ruleId ≠ "" ∧ errorKey ≠ "" ∧ '|' ∉ ruleId.toList) ∧
    (∀ (g : Gateway) groups id v content caller r found raw rawSelector cluster ruleId errorKey hit
      later, Asked g r caller .rule found → r.method = "GET" →
      captures found = .ok (raw, rawSelector) → clusterName raw = .ok cluster →
      selector rawSelector = .ok (ruleId, errorKey) →
      (Aggregator.rule g.aggregator caller.org cluster caller.user ruleId errorKey).among v content []
        = (.ok hit, later) →
      (Question.rule caller.org cluster caller.user ruleId errorKey).form
        = .rule caller.org cluster caller.user rawSelector ∧
      ∃ x, (Visibility.filter (.forReport true (lenientFlag r "osd_eligible")
          (g.access.allows caller.org)) [hit]).among v content later = (x, later) ∧
        ((served g v content groups id r).1.status = 200 ↔ ∃ f e, x = .ok f ∧ f.visible = [e]) ∧
        (∀ f, x = .ok f → ∀ e, f.visible = [e] →
          (served g v content groups id r).1 = dressed g id (okay [("report", e.toJson)])) ∧
        ((served g v content groups id r).1.status = 503 ↔ x = .error .notLoaded) ∧
        (x = .error .notLoaded → (served g v content groups id r).1
          = told g id r 503 "CONTENT_TIMEOUT" "Rule content directory is not available yet") ∧
        (∀ f, x = .ok f → f.visible = [] →
          ((∃ c, content hit.component hit.key = .ok (some c) ∧
              IsWithheld (lenientFlag r "osd_eligible") (g.access.allows caller.org) c) ∧
            (served g v content groups id r).1 = told g id r 403 "PERMISSION_DENIED"
              "This rule is not available for your organization") ∨
          ((¬∃ c, content hit.component hit.key = .ok (some c) ∧
              IsWithheld (lenientFlag r "osd_eligible") (g.access.allows caller.org) c) ∧
            (served g v content groups id r).1
              = told g id r 404 "NOT_FOUND" "Rule was not found"))) := by
  refine ⟨fun _ _ _ => selector_eq_ok_iff, ?_⟩
  intro g groups id v content caller r found raw rawSelector cluster ruleId errorKey hit later hasked
    hget hraw hcluster hselector hhit
  have hform : (Question.rule caller.org cluster caller.user ruleId errorKey).form
      = .rule caller.org cluster caller.user rawSelector := by
    rw [Question.form, selectorText_of_selector hselector]
  have hskip : (Policy.forReport true (lenientFlag r "osd_eligible")
      (g.access.allows caller.org)).skips hit = false := skips_eq_false _
  refine ⟨hform, _, Visibility.among_filter_singleton hskip v content later, ?_⟩
  have hshown : ∀ response, shown r response = response := shown_of_ne (by rw [hget]; decide)
  rw [served_of_hit hasked hget hraw hcluster hselector hhit groups id]
  simp only [told, hshown, dressed_status]
  generalize lenientFlag r "osd_eligible" = audienceOnly
  generalize g.access.allows caller.org = allowed
  cases content hit.component hit.key with
  | error e =>
      cases e with
      | notLoaded =>
          have hended : (entryResponse (Except.mapError Failure.ofContent (.error .notLoaded) >>=
            judged audienceOnly allowed hit)).status = 503 := rfl
          simp [Except.map, hended]
          rfl
      | inaccessible =>
          have hended : (entryResponse (Except.mapError Failure.ofContent (.error .inaccessible) >>=
            judged audienceOnly allowed hit)).status = 500 := rfl
          simp [Except.map, hended]
  | ok found =>
      have hended : ((Except.ok found).mapError Failure.ofContent >>= judged audienceOnly allowed hit)
          = judged audienceOnly allowed hit found := rfl
      have hcases := entryResponse_cases audienceOnly allowed hit found
      unfold shownOfHit at hcases
      rw [hended]
      simp only [Except.map]
      generalize Filtered.empty.add _ hit found = filtered at hcases ⊢
      rcases hcases with
        ⟨e, hshown, hresponse⟩ | ⟨hshown, hwithheld, hresponse⟩ | ⟨hshown, hother, hresponse⟩
      · have hstatus : (okay [("report", e.toJson)]).status = 200 := rfl
        rw [hresponse]
        simp [hshown, hstatus]
      · have hstatus : (Failure.notice 403 "PERMISSION_DENIED"
            "This rule is not available for your organization").status = 403 := rfl
        rw [hresponse]
        simp [hshown, hstatus, hwithheld]
      · have hstatus : (Failure.notice 404 "NOT_FOUND" "Rule was not found").status = 404 := rfl
        rw [hresponse]
        simp [hshown, hstatus, not_exists.mp hother]

end Single

section Barred

/-- Organization `7` asks for a rule on a cluster, and its error key has a bar. -/
def asksBarred : Inbound :=
  userAsks "GET" "/report/00000000-0000-0000-0000-000000000000/rule/rule%7CKEY%7C1" .empty

/-- Services that have a hit of that rule. -/
def haveBarred : Services := fun _ _ =>
  .answer ⟨200, [], (okay [("report",
    (RuleHit.mk "rule" "KEY|1" 0 true "" "" .null "").toJson)]).body⟩ true

/-- Internal content of that rule. -/
def barredContent : RuleContent :=
  ⟨"rule", "KEY|1", "for staff", "", "", "", "", 1, 1, [], true, true, ""⟩

def keptBarred : Content.Directory := .ofContents [barredContent]

theorem rule_agrees_with_report_of_barred :
    Asked sample asksBarred ⟨"7", "", "u"⟩ .rule
        [("cluster", "00000000-0000-0000-0000-000000000000"), ("rule", "rule%7CKEY%7C1")] ∧
      selector "rule|KEY|1" = .ok ("rule", "KEY|1") ∧
      (served sample haveBarred keptBarred.lookup .none "1" asksBarred).1
        = told sample "1" asksBarred 403 "PERMISSION_DENIED"
            "This rule is not available for your organization" := by
  have hasked : Asked sample asksBarred ⟨"7", "", "u"⟩ .rule
      [("cluster", "00000000-0000-0000-0000-000000000000"), ("rule", "rule%7CKEY%7C1")] := by
    decide +kernel
  obtain ⟨hselectors, hagrees⟩ := rule_agrees_with_report
  have hselector : selector "rule|KEY|1" = .ok ("rule", "KEY|1") :=
    (hselectors _ _ _).mpr (by decide)
  have hcluster : clusterName "00000000-0000-0000-0000-000000000000"
      = .ok "00000000-0000-0000-0000-000000000000" := rfl
  refine ⟨hasked, hselector, ?_⟩
  have hnames : ((Aggregator.rule sample.aggregator "7" "00000000-0000-0000-0000-000000000000" "u"
      "rule" "KEY|1").among haveBarred keptBarred.lookup []).1.toOption.map
        (fun hit => (hit.component, hit.key)) = some ("rule", "KEY|1") := by decide +kernel
  rcases hhit : (Aggregator.rule sample.aggregator "7" "00000000-0000-0000-0000-000000000000" "u"
      "rule" "KEY|1").among haveBarred keptBarred.lookup [] with ⟨e | hit, later⟩
  · rw [hhit] at hnames
    cases hnames
  · rw [hhit] at hnames
    obtain ⟨hcomponent, hkey⟩ := Prod.mk.inj (Option.some.inj hnames)
    have hcontent : keptBarred.lookup hit.component hit.key
        = .ok (some barredContent) := by
      rw [show hit.component = "rule" from hcomponent, show hit.key = "KEY|1" from hkey]
      decide
    have hwithheld : IsWithheld (lenientFlag asksBarred "osd_eligible") (sample.access.allows "7")
        barredContent := ⟨fun _ => rfl, rfl, rfl⟩
    obtain ⟨-, x, hfilter, -, -, -, -, hnone⟩ := hagrees sample .none "1" haveBarred
      keptBarred.lookup ⟨"7", "", "u"⟩ asksBarred _ _ _ _ _ _ hit later hasked rfl
      (by decide +kernel : _ = Except.ok ("00000000-0000-0000-0000-000000000000", "rule|KEY|1"))
      hcluster hselector hhit
    have hskip : (Policy.forReport true (lenientFlag asksBarred "osd_eligible")
        (sample.access.allows "7")).skips hit = false := skips_eq_false _
    have hfiltered := Visibility.among_filter_singleton hskip haveBarred keptBarred.lookup later
    rw [hcontent] at hfiltered
    obtain ⟨hx, -⟩ := Prod.mk.inj (hfilter.symm.trans hfiltered)
    have hnothing : (Filtered.empty.add (.forReport true (lenientFlag asksBarred "osd_eligible")
        (sample.access.allows "7")) hit (some barredContent)).visible = [] := by
      unfold Filtered.add
      rw [Visibility.classify_some barredContent hskip]
      rfl
    rcases hnone _ hx hnothing with ⟨-, hdenied⟩ | ⟨hother, -⟩
    · exact hdenied
    · exact absurd ⟨_, hcontent, hwithheld⟩ hother

end Barred

end Gateway

end ReportGateway
