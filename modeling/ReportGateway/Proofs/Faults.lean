import ReportGateway.Proofs.Course
import ReportGateway.Proofs.Handling

/-!
Who is named when a service is at fault. At an endpoint with one service behind it every fault among
its exchanges ends the endpoint in that service being unavailable (`blames_answer`). The clusters of an
organization are asked for twice, at the membership service first: `Roster.inquiry` is that first
question, and what follows it blames the results store (`clusters_eq_settle`). The rule groups are
answered from the last refresh. A refresh tells a content service that gave no answer from one whose
answer broke off: only the former is called unavailable to clients, while the latter counts as an
error of the gateway itself (`faults_name_their_service`, `broken_groups_are_internal`).
-/

namespace ReportGateway

open ReportGateway.Action (Blames Ends Heeds ends_done heeds_done)
open Content (Directory)

namespace Overview

theorem blames_ofCluster (base : Url) (org user cluster : String) :
    Blames (.unavailable .aggregator) (ofCluster base org user cluster) := by
  rw [ofCluster, Action.attempt_bind]
  refine Heeds.settle (Aggregator.blames_ask _ _) ?_ fun x => ?_
  · rintro reply x rfl
    exact ends_done rfl
  · cases x with
    | ok report =>
        show Blames _ (ofReport report)
        rw [ofReport]
        split
        · exact heeds_done _
        · exact Blames.bind (asksNobody_ofHits _).heeds fun _ => heeds_done _
    | error e =>
        cases e <;> exact heeds_done _

theorem blames_ofClusters (base : Url) (org user : String) (ids : List String) :
    Blames (.unavailable .aggregator) (ofClusters base org user ids) := by
  induction ids with
  | nil => exact heeds_done _
  | cons cluster ids ih =>
      rw [ofClusters]
      exact (blames_ofCluster base org user cluster).bind fun _ => ih.bind fun _ => heeds_done _

end Overview

namespace Gateway

variable (g : Gateway) (caller : Caller) (r : Inbound)

/-- The service behind an endpoint that has just one. -/
def soleService? : Resource → Option Service
  | .report => some .aggregator
  | .reportInfo => some .aggregator
  | .rule => some .aggregator
  | .reportsOfPayload => some .aggregator
  | .reportsOfList => some .aggregator
  | .ruleAction => some .aggregator
  | .content => some .content
  | .clusters => none
  | .overview => none
  | .groups => none

theorem AsksOnce.blames {h : Handler} (hh : AsksOnce h) :
    Blames (.unavailable .aggregator) h := by
  induction hh with
  | stops f => exact heeds_done _
  | checks x hf ih => exact Blames.bind (heeds_done x) ih
  | asks payload read hf =>
      exact (Aggregator.blames_ask payload read).bind fun y => (hf y).asksNobody.heeds

theorem blames_ofHandler {f : Failure} {h : Handler} (hh : Blames f h) :
    Blames (.failure f) (ofHandler h) := hh.mapError Rejection.failure

/-- An endpoint with one service behind it blames that service for every fault. -/
theorem blames_answer (groups : Content.Groups) {resource : Resource} {s : Service}
    (hservice : soleService? resource = some s) (found : List (String × String)) :
    Blames (.failure (.unavailable s)) (answer g groups caller resource found r) := by
  cases resource with
  | report =>
      cases hservice
      exact Blames.bind (heeds_done _) fun cluster =>
        blames_ofHandler (asksOnce_report g caller r cluster).blames
  | reportInfo =>
      cases hservice
      exact Blames.bind (heeds_done _) fun cluster =>
        blames_ofHandler (asksOnce_reportInfo g caller cluster).blames
  | rule =>
      cases hservice
      exact Blames.bind (heeds_done _) fun texts =>
        blames_ofHandler (asksOnce_rule g caller r texts.1 texts.2).blames
  | reportsOfPayload =>
      cases hservice
      rw [answer]
      split
      · exact heeds_done _
      · exact blames_ofHandler (asksOnce_reportsOfPayload g caller r).blames
  | reportsOfList =>
      cases hservice
      exact Blames.bind (heeds_done _) fun list =>
        blames_ofHandler (asksOnce_reportsOfList g caller list).blames
  | ruleAction =>
      cases hservice
      exact blames_ofHandler (Proxy.blames_forward g.ruleActionRoute r)
  | content =>
      cases hservice
      exact blames_ofHandler (Proxy.blames_forward g.contentRoute r)
  | clusters => cases hservice
  | overview => cases hservice
  | groups => cases hservice

section Clusters

variable {g caller} (v : Services) (content : Content.Lookup)

/-- What follows the question to the membership service blames the results store; when the results
store may not be asked, the membership service is to blame for its own faults. -/
theorem faults_of_inquiry {h : Handler} {org : String}
    {rest : Except Membership.Error ClusterSet → Handler}
    (hsettle : h = (g.roster.inquiry org).settle rest)
    (hblames : ∀ x, Blames (.unavailable .aggregator) (rest x))
    (hmembership : g.roster.useFallback = false → ∀ e,
      Ends (fun x => x = .error (.unavailable .membership)) (rest (.error e))) :
    ∃ later, (h.among v content []).2
        = ((g.roster.inquiry org).among v content []).2 ++ later ∧
      (∀ exchange ∈ later, exchange.2.IsFault →
        (h.among v content []).1 = .error (.unavailable .aggregator)) ∧
      (g.roster.useFallback = false →
        ∀ exchange ∈ ((g.roster.inquiry org).among v content []).2, exchange.2.IsFault →
          (h.among v content []).1 = .error (.unavailable .membership)) := by
  rw [hsettle, Action.among_settle]
  obtain ⟨later, hlater, hfault⟩ := hblames ((g.roster.inquiry org).among v content []).1 v content
    ((g.roster.inquiry org).among v content []).2
  refine ⟨later, hlater, hfault, fun hfallback exchange hmem hbad => ?_⟩
  -- A fault while the membership service is asked can only be made good by the results store.
  obtain ⟨asked, hasked, hgivesUp⟩ := g.roster.heeds_inquiry org v content []
  rw [hasked, List.nil_append] at hmem
  obtain ⟨e, he⟩ := hgivesUp exchange hmem hbad
  rw [he]
  exact hmembership hfallback e v content _

theorem clusters_eq_settle :
    clusters g caller = (g.roster.inquiry caller.org).settle fun x =>
      g.roster.resolve caller.org x >>= fun found =>
        return okay [("clusters", .array (found.clusters.map Cluster.toJson))] := by
  rw [clusters, Roster.clusters_eq_settle]
  exact Action.settle_settle _ _ _

theorem overview_eq_settle :
    overview g caller = (g.roster.inquiry caller.org).settle fun x =>
      g.roster.resolve caller.org x >>= fun found => do
        let overview ← Overview.ofClusters g.aggregator caller.org caller.user found.ids
        return Failure.jsonResponse 200 overview.summary.toJson := by
  rw [overview, Roster.clusterIds, Roster.clusters_eq_settle, bind_assoc]
  exact Action.settle_settle _ _ _

theorem ends_resolve_bind {α : Type} {org : String} (hfallback : g.roster.useFallback = false)
    (e : Membership.Error) (f : ClusterSet → Action Failure α) :
    Ends (fun x => x = .error (.unavailable .membership))
      (g.roster.resolve org (.error e) >>= f) := by
  rw [g.roster.resolve_error org hfallback]
  exact ends_done rfl

end Clusters

/-- What a client is told of a failure, with the headers that every answer bears, and without a body
where only the head is asked for. -/
def told (g : Gateway) (id : String) (r : Inbound) (status : Nat) (code text : String) :
    Http.Response :=
  dressed g id (shown r (Failure.notice status code text))

section Served

variable {g caller r} {groups : Content.Groups} {resource : Resource}
  {found : List (String × String)} {v : Services} {content : Content.Lookup}

theorem served_of_failure {f : Failure} (hasked : Asked g r caller resource found)
    (hended : ((answer g groups caller resource found (seen g caller r)).among v content []).1
      = .error (.failure f)) (id : String) :
    (served g v content groups id r).1 = dressed g id (shown r f.response) := by
  rw [served_eq_shown groups id hasked, hended]
  rfl

/-- Faults of services that are asked for clusters, as clients are told of them. -/
theorem served_of_inquiry {h : Handler} {rest : Except Membership.Error ClusterSet → Handler}
    (hasked : Asked g r caller resource found)
    (hanswer : answer g groups caller resource found (seen g caller r) = ofHandler h)
    (hsettle : h = (g.roster.inquiry caller.org).settle rest)
    (hblames : ∀ x, Blames (.unavailable .aggregator) (rest x))
    (hmembership : g.roster.useFallback = false → ∀ e,
      Ends (fun x => x = .error (.unavailable .membership)) (rest (.error e))) (id : String) :
    ∃ later, (served g v content groups id r).2
        = ((g.roster.inquiry caller.org).among v content []).2 ++ later ∧
      (∀ exchange ∈ later, exchange.2.IsFault → (served g v content groups id r).1
        = told g id r 503 "AGGREGATOR_UNAVAILABLE" "Aggregator service is unreachable") ∧
      (g.roster.useFallback = false →
        ∀ exchange ∈ ((g.roster.inquiry caller.org).among v content []).2, exchange.2.IsFault →
          (served g v content groups id r).1
            = told g id r 503 "IDENTITY_SERVICE_UNAVAILABLE" "Identity service is unreachable") := by
  have hended : ∀ f, (h.among v content []).1 = .error f →
      (served g v content groups id r).1 = dressed g id (shown r f.response) := by
    intro f hf
    refine served_of_failure hasked ?_ id
    rw [hanswer, ofHandler, Action.among_mapError, hf]
    rfl
  obtain ⟨later, hlater, haggregator, hmember⟩ :=
    faults_of_inquiry v content hsettle hblames hmembership
  refine ⟨later, ?_, fun exchange hmem hbad => ?_, fun hfallback exchange hmem hbad => ?_⟩
  · rw [served_eq_shown groups id hasked, hanswer, ofHandler, Action.among_mapError]
    exact hlater
  · exact hended _ (haggregator exchange hmem hbad)
  · exact hended _ (hmember hfallback exchange hmem hbad)

/-- The groups are answered from the library alone. -/
theorem served_groups {e : Content.RefreshError} (hasked : Asked g r caller .groups found)
    (hlatest : groups.latest = .error e) (id : String) :
    (served g v content groups id r).1
      = dressed g id (shown r (Failure.ofRefresh e).response) := by
  refine served_of_failure hasked ?_ id
  rw [answer, listGroups, hlatest]
  rfl

end Served

/-- What a fetch makes of a fault: no answer leaves the service unreachable, while an answer that
breaks off counts as one that cannot be read. -/
theorem interpret_of_fault_ofRefresh {α : Type} (read : Json.Read α) (reply : Http.Reply) :
    (reply.IsUnanswered → ∃ e, Content.interpret read reply.outcome = .error e ∧
      Failure.ofRefresh e = .unavailable .content) ∧
    (reply.IsCutShort → ∃ e, Content.interpret read reply.outcome = .error e ∧
      ∃ detail, Failure.ofRefresh e = .internal detail) := by
  refine ⟨fun hunanswered => ?_, fun hcut => ?_⟩
  · rw [Http.Reply.outcome_eq_failed hunanswered]
    exact ⟨_, rfl, rfl⟩
  · obtain ⟨response, rfl, hsuccess⟩ := Http.Reply.exists_of_isCutShort hcut
    rw [Http.Reply.outcome, Content.interpret, if_pos hsuccess]
    exact ⟨_, rfl, _, rfl⟩

/-- After a refresh and until the next, a fault of the content service when it was asked for the groups
is what clients are told. -/
theorem groups_after_refresh (m : Moment) {more : List Event} (hmore : ∀ e ∈ more, e ≠ .refresh) :
    ∃ made, (groupsInquiry g m).2 = (contentInquiry g m).2 ++ made ∧
      ∀ exchange ∈ made, exchange.2.IsFault →
        (run g (after g m .refresh) more).library.groups.latest
          = Content.interpret Content.readGroups exchange.2.outcome := by
  obtain ⟨made, hmade, hfault⟩ :=
    Content.inquiry_of_fault g.content "groups" m.services (contentInquiry g m).2
  refine ⟨made, hmade, fun exchange hmem hbad => ?_⟩
  rw [groups_run_of_ne g hmore, after_refresh, Content.Groups.latest_ofRefresh, groupsInquiry,
    hfault exchange hmem hbad]
  rfl

/-- A service that gives no answer, or an answer of success that breaks off, is named to the client as
unavailable: the one service behind an endpoint; of the two that know clusters, the results store
whenever it is asked, and the membership service when the results store may not be asked in its place.
The groups after a refresh are unavailable if the content service gave no answer when it was asked for
them; if its answer broke off, clients are told of an error inside the gateway. -/
theorem faults_name_their_service (id : String) :
    (∀ v content groups r caller resource found s, Asked g r caller resource found →
      soleService? resource = some s →
      ∀ exchange ∈ (served g v content groups id r).2, exchange.2.IsFault →
        (served g v content groups id r).1
          = told g id r 503 s.unavailableCode (s.title ++ " is unreachable")) ∧
    (∀ v content groups r caller resource found, Asked g r caller resource found →
      resource = .clusters ∨ resource = .overview →
      ∃ later, (served g v content groups id r).2
          = ((g.roster.inquiry caller.org).among v content []).2 ++ later ∧
        (∀ exchange ∈ later, exchange.2.IsFault → (served g v content groups id r).1
          = told g id r 503 "AGGREGATOR_UNAVAILABLE" "Aggregator service is unreachable") ∧
        (g.roster.useFallback = false →
          ∀ exchange ∈ ((g.roster.inquiry caller.org).among v content []).2, exchange.2.IsFault →
            (served g v content groups id r).1
              = told g id r 503 "IDENTITY_SERVICE_UNAVAILABLE" "Identity service is unreachable")) ∧
    (∀ m more v content r caller found, (∀ e ∈ more, e ≠ .refresh) →
      Asked g r caller .groups found →
      ∃ made, (groupsInquiry g m).2 = (contentInquiry g m).2 ++ made ∧
        ∀ exchange ∈ made,
          (exchange.2.IsUnanswered →
            (served g v content (run g (after g m .refresh) more).library.groups id r).1
              = told g id r 503 "CONTENT_UNAVAILABLE" "Content service is unreachable") ∧
          (exchange.2.IsCutShort →
            (served g v content (run g (after g m .refresh) more).library.groups id r).1
              = told g id r 500 "INTERNAL" "An internal error occurred")) := by
  refine ⟨?_, ?_, ?_⟩
  · intro v content groups r caller resource found s hasked hservice exchange hmem hbad
    obtain ⟨made, hmade, hblamed⟩ :=
      blames_answer g caller (seen g caller r) groups hservice found v content []
    rw [served_eq_shown groups id hasked, hmade, List.nil_append] at hmem
    exact served_of_failure hasked (hblamed exchange hmem hbad) id
  · rintro v content groups r caller resource found hasked (rfl | rfl)
    · refine served_of_inquiry hasked rfl clusters_eq_settle (fun x => ?_)
        (fun hfallback e => ends_resolve_bind hfallback e _) id
      exact (g.roster.blames_resolve _ x).bind fun _ => heeds_done _
    · refine served_of_inquiry hasked rfl overview_eq_settle (fun x => ?_)
        (fun hfallback e => ends_resolve_bind hfallback e _) id
      exact (g.roster.blames_resolve _ x).bind fun found =>
        (Overview.blames_ofClusters _ _ _ found.ids).bind fun _ => heeds_done _
  · intro m more v content r caller found hmore hasked
    obtain ⟨made, hmade, hlatest⟩ := groups_after_refresh g m hmore
    refine ⟨made, hmade, fun exchange hmem => ?_⟩
    obtain ⟨hsilent, hbroken⟩ := interpret_of_fault_ofRefresh Content.readGroups exchange.2
    refine ⟨fun hunanswered => ?_, fun hcut => ?_⟩
    · obtain ⟨e, he, hfailure⟩ := hsilent hunanswered
      rw [served_groups hasked ((hlatest exchange hmem (Or.inl hunanswered)).trans he) id, hfailure]
      rfl
    · obtain ⟨e, he, detail, hfailure⟩ := hbroken hcut
      rw [served_groups hasked ((hlatest exchange hmem (Or.inr hcut)).trans he) id, hfailure]
      rfl

section Silence

/-- Services that take every request and give no answer. -/
def silence : Services := fun _ _ => .silent

/-- Among silent services, the content service is named where it is asked on a client's behalf, the
results store where it is asked for clusters, and the content service again after a refresh. -/
theorem faults_name_their_service_in_silence :
    (served sample silence Directory.empty.lookup .none "1" (userAsks "GET" "/content" .empty)).1
        = told sample "1" (userAsks "GET" "/content" .empty) 503 "CONTENT_UNAVAILABLE"
            "Content service is unreachable" ∧
      (served sample silence Directory.empty.lookup .none "1" (userAsks "GET" "/clusters" .empty)).1
        = told sample "1" (userAsks "GET" "/clusters" .empty) 503 "AGGREGATOR_UNAVAILABLE"
            "Aggregator service is unreachable" ∧
      (served sample silence Directory.empty.lookup
        (after sample (.start silence) .refresh).library.groups "1"
        (userAsks "GET" "/groups" .empty)).1
        = told sample "1" (userAsks "GET" "/groups" .empty) 503 "CONTENT_UNAVAILABLE"
            "Content service is unreachable" := by
  obtain ⟨hsole, hclusters, hgroups⟩ := faults_name_their_service sample "1"
  refine ⟨?_, ?_, ?_⟩
  · have hfault : ∃ exchange ∈ (served sample silence Directory.empty.lookup .none "1"
        (userAsks "GET" "/content" .empty)).2, exchange.2.IsFault := by decide +kernel
    obtain ⟨exchange, hmem, hbad⟩ := hfault
    have hasked : Asked sample (userAsks "GET" "/content" .empty) ⟨"7", "", "u"⟩ .content [] := by
      decide +kernel
    exact hsole _ _ _ _ _ _ _ .content hasked rfl exchange hmem hbad
  · have hfault : ∃ exchange ∈ (served sample silence Directory.empty.lookup .none "1"
        (userAsks "GET" "/clusters" .empty)).2, exchange.2.IsFault := by decide +kernel
    obtain ⟨exchange, hmem, hbad⟩ := hfault
    have hasked : Asked sample (userAsks "GET" "/clusters" .empty) ⟨"7", "", "u"⟩ .clusters [] := by
      decide +kernel
    obtain ⟨later, hlater, haggregator, -⟩ :=
      hclusters silence Directory.empty.lookup .none _ _ _ _ hasked (Or.inl rfl)
    rw [hlater] at hmem
    exact haggregator exchange hmem hbad
  · have hasked : Asked sample (userAsks "GET" "/groups" .empty) ⟨"7", "", "u"⟩ .groups [] := by
      decide +kernel
    obtain ⟨made, hmade, hmet⟩ := hgroups (.start silence) [] silence Directory.empty.lookup _ _ _
      (fun e he => absurd he List.not_mem_nil) hasked
    have hfault : ∃ exchange ∈ made, exchange.2.IsUnanswered := by
      have hdrop : made = (groupsInquiry sample (.start silence)).2.drop
          (contentInquiry sample (.start silence)).2.length := by
        rw [hmade, List.drop_left]
      rw [hdrop]
      decide +kernel
    obtain ⟨exchange, hmem, hunanswered⟩ := hfault
    exact (hmet exchange hmem).1 hunanswered

end Silence

/-- A content service that answers the first question to it whole and breaks off after that. -/
def breakingOff : Services := fun journal _ =>
  .answer ⟨200, [], "\x7b\"content\":[]\x7d".toUTF8⟩ journal.isEmpty

/-- After a refresh for which the content came whole and the groups broke off, the service that broke
off is not named. -/
theorem broken_groups_are_internal :
    Asked sample (userAsks "GET" "/groups" .empty) ⟨"7", "", "u"⟩ .groups [] ∧
      (∃ made, (groupsInquiry sample (.start breakingOff)).2
          = (contentInquiry sample (.start breakingOff)).2 ++ made ∧
        ∃ exchange ∈ made, exchange.2.IsCutShort) ∧
      (after sample (.start breakingOff) .refresh).library.directory.isLoaded = true ∧
      (served sample breakingOff Directory.empty.lookup
        (after sample (.start breakingOff) .refresh).library.groups "1"
        (userAsks "GET" "/groups" .empty)).1.status = 500 ∧
      (served sample breakingOff Directory.empty.lookup
        (after sample (.start breakingOff) .refresh).library.groups "1"
        (userAsks "GET" "/groups" .empty)).1.body
          ≠ (told sample "1" (userAsks "GET" "/groups" .empty) 503 "CONTENT_UNAVAILABLE"
              "Content service is unreachable").body := by
  refine ⟨by decide +kernel, ?_, by decide +kernel, by decide +kernel, by decide +kernel⟩
  obtain ⟨made, hmade, -⟩ := groups_after_refresh sample (.start breakingOff)
    (fun e (he : e ∈ []) => absurd he List.not_mem_nil)
  refine ⟨made, hmade, ?_⟩
  have hdrop : made = (groupsInquiry sample (.start breakingOff)).2.drop
      (contentInquiry sample (.start breakingOff)).2.length := by
    rw [hmade, List.drop_left]
  rw [hdrop]
  decide +kernel

end Gateway

end ReportGateway
