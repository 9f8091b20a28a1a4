import ReportGateway.Overview
import ReportGateway.Proofs.Filtering
import ReportGateway.Proofs.Worlds

/-!
The overview of an organization against the reports of its clusters. An overview walks all hits of all
clusters and looks their content up as it goes; reports are filtered by a policy. Here the two are
shown to be one: an overview is the reports put together as they would be shown if nothing were hidden
from anybody (`ofHits_eq_filter`), from left to right and up to the first error.

What is put together is described from outside. `AsksReport` says with which exchanges the results
store is asked for the report of one cluster and what the question ends in, `LooksUp` how the hits of
a report are looked up, `Adds` what the cluster adds to the overview then, and `Combines` how the
clusters are gone through. All of them speak of a world whose answers may depend on all that was done
in it before, so that an overview can neither leave a request or a lookup out nor make another one,
nor change their order.
-/

namespace ReportGateway

open Http.Client (Makes exists_makes)

/-- To change the error of an action and go on is to go on and change the error of the whole. -/
theorem Action.mapError_bind {ε ε' α β : Type} (g : ε → ε') (a : Action ε α) (f : α → Action ε β) :
    (a >>= f).mapError g = a.mapError g >>= fun x => (f x).mapError g := by
  show (a.settle _).settle _ = (a.settle _).settle _
  rw [settle_settle, settle_settle]
  congr 1
  funext x
  cases x with
  | error e => rfl
  | ok y => rfl

namespace Overview

@[simp] theorem empty_append (o : Overview) : empty ++ o = o := by
  show append empty o = o
  simp [append, empty]

/-- The policy of a report that hides nothing. -/
def openly : Visibility.Policy := .forReport true false true

/-- The risks and tags of the entries of a report. -/
def ofVisible (entries : List RuleEntry) : Overview :=
  ⟨0, entries.map RuleEntry.totalRisk, entries.flatMap RuleEntry.tags⟩

theorem skips_openly (h : RuleHit) : openly.skips h = false := Bool.and_false _

theorem admits_openly (h : RuleHit) (c : RuleContent) : openly.admits h c = true := by
  simp [openly, Visibility.Policy.forReport, Visibility.Policy.admits, Visibility.Condition.internal]

/-- A hit of which there is content is shown. -/
theorem visible_add (h : RuleHit) (content : Option RuleContent) (f : Visibility.Filtered) :
    (f.add openly h content).visible = (content.map (RuleEntry.join h)).toList ++ f.visible := by
  unfold Visibility.Filtered.add
  cases content with
  | none =>
      rw [Visibility.classify_none (skips_openly h)]
      rfl
  | some c =>
      rw [Visibility.classify_some c (skips_openly h), if_pos (admits_openly h c)]
      rfl

/-- Filtering that hides nothing looks up one hit after the other. -/
theorem filter_openly_cons (h : RuleHit) (hits : List RuleHit) :
    Visibility.filter openly (h :: hits)
      = Action.contentOf h.component h.key >>= fun content =>
          Visibility.Filtered.add openly h content <$> Visibility.filter openly hits := by
  rw [Visibility.filter, if_neg (by simp [skips_openly])]
  rfl

theorem visible_filter_cons (h : RuleHit) (hits : List RuleHit) :
    Visibility.Filtered.visible <$> Visibility.filter openly (h :: hits)
      = Action.contentOf h.component h.key >>= fun content =>
          (fun entries => (content.map (RuleEntry.join h)).toList ++ entries) <$>
            (Visibility.Filtered.visible <$> Visibility.filter openly hits) := by
  rw [filter_openly_cons, map_bind]
  apply bind_congr
  intro content
  rw [← comp_map, ← comp_map]
  congr 1
  funext f
  exact visible_add h content f

/-- What content adds to an overview is what it adds as that of an entry. -/
theorem ofVisible_join (h : RuleHit) (content : Option RuleContent) (entries : List RuleEntry) :
    ofVisible ((content.map (RuleEntry.join h)).toList ++ entries)
      = ofContent content ++ ofVisible entries := by
  cases content with
  | none => exact (empty_append _).symm
  | some c =>
      show Overview.mk 0 _ _ = Overview.mk (0 + 0) _ _
      simp [RuleEntry.join, ofVisible, ofContent]

/-- Looking up the content of hits comes to what a report that hides nothing shows of them. -/
theorem ofHits_eq_filter (hits : List RuleHit) :
    ofHits hits = (Visibility.filter openly hits).mapError Failure.ofContent >>= fun f =>
      pure (ofVisible f.visible) := by
  induction hits with
  | nil => rfl
  | cons h hits ih =>
      rw [ofHits, ih, filter_openly_cons, Action.mapError_bind, bind_assoc]
      apply bind_congr
      intro content
      rw [map_eq_pure_bind, bind_assoc, Action.mapError_bind, bind_assoc]
      apply bind_congr
      intro f
      rw [pure_bind]
      show _ = pure (ofVisible (f.add openly h content).visible)
      rw [visible_add, ofVisible_join]

section Worlds

variable (w : World) (base : Url) (org user : String)

/-- Hits are looked up one after the other: what they show if nothing is hidden, or the first error,
and all that has been done then. -/
inductive LooksUp : List Deed → List RuleHit → Except Content.Error (List RuleEntry) →
    List Deed → Prop
  | nil {past : List Deed} : LooksUp past [] (.ok []) past
  | failed {past : List Deed} {h : RuleHit} {hits : List RuleHit} {e : Content.Error}
      (hlookup : w.content past h.component h.key = .error e) :
    LooksUp past (h :: hits) (.error e) (past ++ [.lookedUp h.component h.key (.error e)])
  | failedLater {past later : List Deed} {h : RuleHit} {hits : List RuleHit}
      {content : Option RuleContent} {e : Content.Error}
      (hlookup : w.content past h.component h.key = .ok content)
      (hrest : LooksUp (past ++ [.lookedUp h.component h.key (.ok content)]) hits (.error e) later) :
    LooksUp past (h :: hits) (.error e) later
  | found {past later : List Deed} {h : RuleHit} {hits : List RuleHit}
      {content : Option RuleContent} {entries : List RuleEntry}
      (hlookup : w.content past h.component h.key = .ok content)
      (hrest : LooksUp (past ++ [.lookedUp h.component h.key (.ok content)]) hits (.ok entries)
        later) :
    LooksUp past (h :: hits) (.ok ((content.map (RuleEntry.join h)).toList ++ entries)) later

/-- After these deeds the results store is asked once for the report of a cluster, with these
exchanges, and the question ends so. Nobody is asked when the report has no place in it. -/
inductive AsksReport (past : List Deed) (cluster : String) : Except Failure Report → Journal → Prop
  | noPlace (hplace : base.resource? Aggregator.reportTemplate [org, cluster, user] = none) :
    AsksReport past cluster (.error (Aggregator.unplaced Aggregator.reportTemplate)) []
  | asked {url : Url} {made : Journal} {outcome : Http.Outcome} {x : Except Failure Report}
      {verdict : Verdict}
      (hplace : base.resource? Aggregator.reportTemplate [org, cluster, user] = some url)
      (hmakes : Makes (w.services past) [] (.get url) made outcome)
      (hfits : (Question.report org cluster user).Fits outcome x verdict) :
    AsksReport past cluster x made

/-- What one cluster adds to an overview, and all that has been done then: nothing, if the results
store refuses its report or has no hits in it; else a cluster, and the risks and tags of what the
report shows if it hides nothing. -/
inductive Adds (past : List Deed) (cluster : String) : Except Failure Overview → List Deed → Prop
  | refused {status : Nat} {body : ByteArray} {made : Journal}
      (hasked : AsksReport w base org user past cluster (.error (.relayed status body)) made) :
    Adds past cluster (.ok ⟨0, [], []⟩) (past ++ made.map Deed.ofExchange)
  | failed {e : Failure} {made : Journal}
      (hasked : AsksReport w base org user past cluster (.error e) made)
      (hother : ∀ status body, e ≠ .relayed status body) :
    Adds past cluster (.error e) (past ++ made.map Deed.ofExchange)
  | noHits {report : Report} {made : Journal}
      (hasked : AsksReport w base org user past cluster (.ok report) made)
      (hnone : report.hits = []) :
    Adds past cluster (.ok ⟨0, [], []⟩) (past ++ made.map Deed.ofExchange)
  | unknown {report : Report} {made : Journal} {e : Content.Error} {later : List Deed}
      (hasked : AsksReport w base org user past cluster (.ok report) made)
      (hsome : report.hits ≠ [])
      (hfilter : (Visibility.filter openly report.hits).within w
        (past ++ made.map Deed.ofExchange) = (.error e, later)) :
    Adds past cluster (.error (Failure.ofContent e)) later
  | shown {report : Report} {made : Journal} {f : Visibility.Filtered} {later : List Deed}
      (hasked : AsksReport w base org user past cluster (.ok report) made)
      (hsome : report.hits ≠ [])
      (hfilter : (Visibility.filter openly report.hits).within w
        (past ++ made.map Deed.ofExchange) = (.ok f, later)) :
    Adds past cluster
      (.ok ⟨1, f.visible.map RuleEntry.totalRisk, f.visible.flatMap RuleEntry.tags⟩) later

/-- What clusters come to, one after the other, and all that has been done then. After an error
nothing more is done, and what was there before it is not given. -/
inductive Combines : List Deed → List String → Except Failure Overview → List Deed → Prop
  | nil {past : List Deed} : Combines past [] (.ok ⟨0, [], []⟩) past
  | stopped {past later : List Deed} {cluster : String} {more : List String} {e : Failure}
      (hfirst : Adds w base org user past cluster (.error e) later) :
    Combines past (cluster :: more) (.error e) later
  | stoppedLater {past later last : List Deed} {cluster : String} {more : List String}
      {o : Overview} {e : Failure} (hfirst : Adds w base org user past cluster (.ok o) later)
      (hrest : Combines later more (.error e) last) :
    Combines past (cluster :: more) (.error e) last
  | more {past later last : List Deed} {cluster : String} {more : List String} {a b : Overview}
      (hfirst : Adds w base org user past cluster (.ok a) later)
      (hrest : Combines later more (.ok b) last) :
    Combines past (cluster :: more)
      (.ok ⟨a.clustersHit + b.clustersHit, a.totalRisks ++ b.totalRisks, a.tags ++ b.tags⟩) last

variable {w base org user}

/-- When a hit is looked up and there is an answer, the rest follows. -/
theorem within_visible_filter_cons {past : List Deed} {h : RuleHit} {content : Option RuleContent}
    (hlookup : w.content past h.component h.key = .ok content) (hits : List RuleHit) :
    (Visibility.Filtered.visible <$> Visibility.filter openly (h :: hits)).within w past
      = ((fun entries => (content.map (RuleEntry.join h)).toList ++ entries) <$>
          (Visibility.Filtered.visible <$> Visibility.filter openly hits)).within w
            (past ++ [.lookedUp h.component h.key (.ok content)]) := by
  rw [visible_filter_cons, Action.within_bind, Action.within_contentOf, hlookup]

theorem LooksUp.within {past later : List Deed} {hits : List RuleHit}
    {x : Except Content.Error (List RuleEntry)} (h : LooksUp w past hits x later) :
    (Visibility.Filtered.visible <$> Visibility.filter openly hits).within w past = (x, later) := by
  induction h with
  | nil => rfl
  | failed hlookup =>
      rw [visible_filter_cons, Action.within_bind, Action.within_contentOf, hlookup]
  | failedLater hlookup _ ih =>
      rw [within_visible_filter_cons hlookup, Action.within_map, ih]
      rfl
  | found hlookup _ ih =>
      rw [within_visible_filter_cons hlookup, Action.within_map, ih]
      rfl

variable (w) in
theorem exists_looksUp (past : List Deed) (hits : List RuleHit) :
    ∃ x later, LooksUp w past hits x later := by
  induction hits generalizing past with
  | nil => exact ⟨_, _, .nil⟩
  | cons h hits ih =>
      cases hlookup : w.content past h.component h.key with
      | error e => exact ⟨_, _, .failed hlookup⟩
      | ok content =>
          obtain ⟨x, later, hrest⟩ := ih (past ++ [.lookedUp h.component h.key (.ok content)])
          cases x with
          | error e => exact ⟨_, _, .failedLater hlookup hrest⟩
          | ok entries => exact ⟨_, _, .found hlookup hrest⟩

theorem AsksReport.within {past : List Deed} {cluster : String} {x : Except Failure Report}
    {made : Journal} (h : AsksReport w base org user past cluster x made) :
    (Aggregator.report base org cluster user).within w past
      = (x, past ++ made.map Deed.ofExchange) := by
  rw [Aggregator.report]
  cases h with
  | noPlace hplace =>
      rw [Aggregator.ask_of_none _ _ hplace, List.map_nil, List.append_nil]
      rfl
  | asked hplace hmakes hfits =>
      rw [Aggregator.ask_of_some _ _ hplace, Question.eq_interpret_of_fits hfits]
      exact hmakes.within_send_bind _

variable (w base org user) in
theorem exists_asksReport (past : List Deed) (cluster : String) :
    ∃ x made, AsksReport w base org user past cluster x made := by
  cases hplace : base.resource? Aggregator.reportTemplate [org, cluster, user] with
  | none => exact ⟨_, _, .noPlace hplace⟩
  | some url =>
      obtain ⟨made, outcome, hmakes⟩ := exists_makes (w.services past) [] (.get url)
      exact ⟨_, made, .asked hplace hmakes
        (((Question.report org cluster user).fits_iff outcome _).mpr rfl)⟩

theorem within_ofReport (report : Report) (past : List Deed) (hsome : report.hits ≠ []) :
    (ofReport report).within w past =
      match (Visibility.filter openly report.hits).within w past with
      | (.error e, last) => (.error (Failure.ofContent e), last)
      | (.ok f, last) =>
        (.ok ⟨1, f.visible.map RuleEntry.totalRisk, f.visible.flatMap RuleEntry.tags⟩, last) := by
  rw [ofReport, if_neg (by simpa using hsome), ofHits_eq_filter, Action.within_bind,
    Action.within_bind, Action.within_mapError]
  rcases (Visibility.filter openly report.hits).within w past with ⟨e | f, last⟩
  · rfl
  · rfl

/-- A cluster goes on with how the question for its report ended. -/
theorem within_ofCluster {past : List Deed} {cluster : String} {x : Except Failure Report}
    {made : Journal} : AsksReport w base org user past cluster x made →
    (ofCluster base org user cluster).within w past =
      match x with
      | .ok report => (ofReport report).within w (past ++ made.map Deed.ofExchange)
      | .error (.relayed _ _) => (.ok empty, past ++ made.map Deed.ofExchange)
      | .error e => (.error e, past ++ made.map Deed.ofExchange) := by
  intro h
  rw [ofCluster, Action.attempt_bind, Action.within_settle, h.within]
  cases x with
  | ok report => rfl
  | error e => cases e <;> rfl

theorem Adds.within {past later : List Deed} {cluster : String} {x : Except Failure Overview}
    (h : Adds w base org user past cluster x later) :
    (ofCluster base org user cluster).within w past = (x, later) := by
  cases h with
  | refused hasked => exact within_ofCluster hasked
  | failed hasked hother =>
      rw [within_ofCluster hasked]
      split
      · rename_i h
        cases h
      · rename_i status body h
        cases h
        exact absurd rfl (hother status body)
      · rename_i h
        cases h
        rfl
  | noHits hasked hnone =>
      rw [within_ofCluster hasked]
      dsimp only
      rw [ofReport, hnone]
      rfl
  | unknown hasked hsome hfilter =>
      rw [within_ofCluster hasked]
      dsimp only
      rw [within_ofReport _ _ hsome, hfilter]
  | shown hasked hsome hfilter =>
      rw [within_ofCluster hasked]
      dsimp only
      rw [within_ofReport _ _ hsome, hfilter]

variable (w base org user) in
theorem exists_adds (past : List Deed) (cluster : String) :
    ∃ x later, Adds w base org user past cluster x later := by
  obtain ⟨x, made, hasked⟩ := exists_asksReport w base org user past cluster
  cases x with
  | error e =>
      by_cases hrefused : ∃ status body, e = .relayed status body
      · obtain ⟨status, body, rfl⟩ := hrefused
        exact ⟨_, _, .refused hasked⟩
      · exact ⟨_, _, .failed hasked fun status body h => hrefused ⟨status, body, h⟩⟩
  | ok report =>
      by_cases hnone : report.hits = []
      · exact ⟨_, _, .noHits hasked hnone⟩
      · rcases hfilter : (Visibility.filter openly report.hits).within w
          (past ++ made.map Deed.ofExchange) with ⟨e | f, later⟩
        · exact ⟨_, _, .unknown hasked hnone hfilter⟩
        · exact ⟨_, _, .shown hasked hnone hfilter⟩

theorem Combines.within {past last : List Deed} {ids : List String} {x : Except Failure Overview}
    (h : Combines w base org user past ids x last) :
    (ofClusters base org user ids).within w past = (x, last) := by
  induction h with
  | nil => rfl
  | stopped hfirst => rw [ofClusters, Action.within_bind, hfirst.within]
  | stoppedLater hfirst _ ih =>
      rw [ofClusters, Action.within_bind, hfirst.within]
      dsimp only
      rw [Action.within_bind, ih]
  | more hfirst _ ih =>
      rw [ofClusters, Action.within_bind, hfirst.within]
      dsimp only
      rw [Action.within_bind, ih]
      rfl

variable (w base org user) in
theorem exists_combines (past : List Deed) (ids : List String) :
    ∃ x last, Combines w base org user past ids x last := by
  induction ids generalizing past with
  | nil => exact ⟨_, _, .nil⟩
  | cons cluster ids ih =>
      obtain ⟨x, later, hfirst⟩ := exists_adds w base org user past cluster
      cases x with
      | error e => exact ⟨_, _, .stopped hfirst⟩
      | ok o =>
          obtain ⟨rest, last, hrest⟩ := ih later
          cases rest with
          | error e => exact ⟨_, _, .stoppedLater hfirst hrest⟩
          | ok more => exact ⟨_, _, .more hfirst hrest⟩

variable (w base org user) in
/-- An overview is the reports of the clusters put together from left to right, as reports that hide
nothing would show them. In whatever world and after whatever deeds, it comes to what asking for the
reports one by one comes to and to nothing else, be that an overview or an error, by the same requests
and the same lookups in the same order. A report that hides nothing looks its hits up one by one and
shows all of which there is content. -/
theorem overview_combines_reports :
    (∀ past ids x last,
      (ofClusters base org user ids).within w past = (x, last)
        ↔ Combines w base org user past ids x last) ∧
    (∀ past hits x later,
      (Visibility.Filtered.visible <$> Visibility.filter openly hits).within w past = (x, later)
        ↔ LooksUp w past hits x later) := by
  refine ⟨fun past ids x last => ⟨fun h => ?_, Combines.within⟩,
    fun past hits x later => ⟨fun h => ?_, LooksUp.within⟩⟩
  · obtain ⟨y, last', hcombines⟩ := exists_combines w base org user past ids
    obtain ⟨rfl, rfl⟩ := Prod.mk.inj (hcombines.within.symm.trans h)
    exact hcombines
  · obtain ⟨y, later', hlooksUp⟩ := exists_looksUp w past hits
    obtain ⟨rfl, rfl⟩ := Prod.mk.inj (hlooksUp.within.symm.trans h)
    exact hlooksUp

end Worlds

section Few

/-- The place of the report of a cluster at a results store that goes by one word. -/
def reportPlace (cluster : String) : String :=
  "http://results/organizations/7/clusters/" ++ cluster ++ "/users/u/report"

/-- An answer that reports hits. -/
def reporting (hits : List RuleHit) : Http.Reply :=
  .answer ⟨200, [], (Gateway.okay [("report", (Report.mk .empty hits).toJson)]).body⟩ true

/-- A world that has no report of one cluster, one of two hits, one without any, and says nothing of
other clusters. It has internal content of one rule and none of the other; once the second is looked
up, its content is gone. -/
def fewReports : World where
  reply _ request :=
    if request.url.text = reportPlace "new" then .answer ⟨404, [], "no report".toUTF8⟩ true
    else if request.url.text = reportPlace "hit" then
      reporting [⟨"rule", "KEY", 0, true, "", "", .null, ""⟩,
        ⟨"other", "KEY", 0, false, "", "", .null, ""⟩]
    else if request.url.text = reportPlace "clean" then reporting []
    else .silent
  content past ruleId errorKey :=
    if past.any fun deed => deed.told = ("other", "KEY") then .error .notLoaded
    else if ruleId = "rule" then
      .ok (some ⟨ruleId, errorKey, "for staff", "", "", "", "", 3, 1, ["service"], true, false, ""⟩)
    else .ok none

/-- Three overviews of that world, with what is asked and looked up for them: one of clusters without
and with hits, one that ends at a report that does not come, and one that ends at content that is
gone. -/
theorem overview_combines_reports_of_few :
    (∃ x last,
      Combines fewReports (Gateway.oneWord "results") "7" "u" [] ["new", "hit", "clean"] x last ∧
      x.mapError Failure.message = .ok ⟨1, [3], ["service"]⟩ ∧
      last.map Deed.told = [("GET", reportPlace "new"), ("GET", reportPlace "hit"),
        ("rule", "KEY"), ("other", "KEY"), ("GET", reportPlace "clean")]) ∧
    (∃ x last,
      Combines fewReports (Gateway.oneWord "results") "7" "u" [] ["hit", "gone", "clean"] x last ∧
      x.mapError Failure.message = .error (Failure.unavailable .aggregator).message ∧
      last.map Deed.told = [("GET", reportPlace "hit"), ("rule", "KEY"), ("other", "KEY"),
        ("GET", reportPlace "gone")]) ∧
    (∃ x last,
      Combines fewReports (Gateway.oneWord "results") "7" "u" [] ["hit", "hit", "clean"] x last ∧
      x.mapError Failure.message = .error Failure.contentTimeout.message ∧
      last.map Deed.told = [("GET", reportPlace "hit"), ("rule", "KEY"), ("other", "KEY"),
        ("GET", reportPlace "hit"), ("rule", "KEY")]) := by
  have hcombines (ids : List String) :=
    ((overview_combines_reports fewReports (Gateway.oneWord "results") "7" "u").1 [] ids _ _).mp
      (Prod.ext rfl rfl)
  -- One pair at a time, so that each overview is worked out once.
  refine ⟨⟨_, _, hcombines _, Prod.mk.inj ?_⟩, ⟨_, _, hcombines _, Prod.mk.inj ?_⟩,
    ⟨_, _, hcombines _, Prod.mk.inj ?_⟩⟩
  all_goals decide +kernel

end Few

end Overview

end ReportGateway
