import ReportGateway.Proofs.Faults
import ReportGateway.Proofs.Isolation

/-!
What becomes of a question to the results store. There are six `Question`s, one for each operation of
the store's client; all are asked alike (`Question.ask_eq`), and the outcome of sending one decides
its `Verdict`: whether the whole answer arrived comes before its status, and the status before what
can be read in it (`Question.fits_iff`). An error that ends a question ends the endpoint that posed it
as well (`Gateway.answer_of_poses`), so that what the store refuses reaches the client unchanged, and
failures inside the gateway look the same whatever they come from
(`Gateway.questions_have_one_verdict`).
-/

namespace ReportGateway

open ReportGateway.Action (AsksNobody)
open Content (Directory)
open Http (Outcome isSuccess)

/-- A question to the results store. -/
inductive Question
  | report (org cluster user : String)
  | info (org cluster user : String)
  | rule (org cluster user ruleId errorKey : String)
  | reports (org : String) (names : List String)
  | reportsOfPayload (org : String) (body : ByteArray)
  | clusters (org : String)

/-- What becomes of a question. -/
inductive Verdict
  /-- A request for it cannot be put on the wire. -/
  | unsendable
  /-- No answer came, or none that was whole. -/
  | unanswered
  | refused
  | answered
  | unreadable

namespace Question

/-- What a question is about, as its place under the base says it. -/
def form : Question → Form
  | .report org cluster user => .report org cluster user
  | .info org cluster user => .info org cluster user
  | .rule org cluster user ruleId errorKey =>
    .rule org cluster user (Aggregator.selectorText ruleId errorKey)
  | .reports org names => .reportsOfList org (",".intercalate names)
  | .reportsOfPayload org _ => .reportsOfPayload org
  | .clusters org => .listing org

def payload : Question → Option ByteArray
  | .reportsOfPayload _ body => some body
  | .report _ _ _ => none
  | .info _ _ _ => none
  | .rule _ _ _ _ _ => none
  | .reports _ _ => none
  | .clusters _ => none

def Answer : Question → Type
  | .report _ _ _ => Report
  | .info _ _ _ => ReportInfo
  | .rule _ _ _ _ _ => RuleHit
  | .reports _ _ => ClusterReports
  | .reportsOfPayload _ _ => ClusterReports
  | .clusters _ => List String

/-- How the answer to a question stands in a body. -/
def read : (q : Question) → Json.Read q.Answer
  | .report _ _ _ => .envelope "report" Report.read
  | .info _ _ _ => .envelope "metainfo" ReportInfo.read
  | .rule _ _ _ _ _ => .envelope "report" RuleHit.read
  | .reports _ _ => ClusterReports.read
  | .reportsOfPayload _ _ => ClusterReports.read
  | .clusters _ => .envelope "clusters" (.listOf .text)

/-- Asks the results store under a base. -/
def ask (base : Url) : (q : Question) → Action Failure q.Answer
  | .report org cluster user => Aggregator.report base org cluster user
  | .info org cluster user => Aggregator.info base org cluster user
  | .rule org cluster user ruleId errorKey => Aggregator.rule base org cluster user ruleId errorKey
  | .reports org names => Aggregator.reports base org names
  | .reportsOfPayload org body => Aggregator.reportsOfPayload base org body
  | .clusters org => Aggregator.clusters base org

theorem ask_eq (base : Url) (q : Question) :
    q.ask base = Aggregator.ask base q.form.template q.form.params q.payload q.read := by
  cases q <;> rfl

variable (q : Question)

theorem among_ask {base url : Url} (hurl : base.resource? q.form.template q.form.params = some url)
    (v : Services) (content : Content.Lookup) (journal : Journal) :
    (q.ask base).among v content journal
      = (Aggregator.interpret q.read
          (Http.Client.sent v (Aggregator.requestFor url q.payload) journal).1,
        (Http.Client.sent v (Aggregator.requestFor url q.payload) journal).2) := by
  rw [q.ask_eq base, Aggregator.ask_of_some q.payload q.read hurl, Http.Client.among_send_bind]

/-- When a verdict is right, and what the question then ends in. -/
def Fits (outcome : Outcome) (result : Except Failure q.Answer) : Verdict → Prop
  | .unsendable => outcome = .unbuildable ∧ result = .error .unwritable
  | .unanswered =>
    (outcome = .failed ∨ ∃ response, outcome = .received response false) ∧
      result = .error (.unavailable .aggregator)
  | .refused =>
    ∃ response, outcome = .received response true ∧ isSuccess response.status = false ∧
      result = .error (.relayed response.status response.body)
  | .answered =>
    ∃ response x, outcome = .received response true ∧ isSuccess response.status = true ∧
      q.read.ofBytes? response.body.data.toList = some x ∧ result = .ok x
  | .unreadable =>
    ∃ response, outcome = .received response true ∧ isSuccess response.status = true ∧
      q.read.ofBytes? response.body.data.toList = none ∧ result = .error Aggregator.unreadable

def verdict : Outcome → Verdict
  | .unbuildable => .unsendable
  | .failed => .unanswered
  | .received _ false => .unanswered
  | .received response true =>
    if isSuccess response.status then
      if (q.read.ofBytes? response.body.data.toList).isSome then .answered else .unreadable
    else .refused

theorem fits_iff (outcome : Outcome) (verdict : Verdict) :
    q.Fits outcome (Aggregator.interpret q.read outcome) verdict ↔ verdict = q.verdict outcome := by
  cases outcome with
  | unbuildable => cases verdict <;> simp [Fits, Question.verdict, Aggregator.interpret]
  | failed => cases verdict <;> simp [Fits, Question.verdict, Aggregator.interpret]
  | received response complete =>
      cases complete with
      | false => cases verdict <;> simp [Fits, Question.verdict, Aggregator.interpret]
      | true =>
          cases hsuccess : isSuccess response.status with
          | false => cases verdict <;> simp [Fits, Question.verdict, Aggregator.interpret, hsuccess]
          | true =>
              cases hread : q.read.ofBytes? response.body.data.toList with
              | none =>
                  cases verdict <;>
                    simp [Fits, Question.verdict, Aggregator.interpret, hsuccess, hread]
              | some x =>
                  cases verdict <;>
                    simp [Fits, Question.verdict, Aggregator.interpret, hsuccess, hread]

end Question

namespace Gateway

/-- An endpoint comes to ask a question of the results store under this base, after these exchanges:
what it is asked can be used, and the clusters are asked for in the place of a membership service that
did not tell. -/
inductive Poses (g : Gateway) (caller : Caller) (r : Inbound) (v : Services)
    (content : Content.Lookup) :
    Resource → List (String × String) → Url → Question → Journal → Prop
  | report {found : List (String × String)} {raw cluster : String} {flag : Bool}
      (hraw : capture found = .ok raw) (hcluster : clusterName raw = .ok cluster)
      (hflag : strictFlag r "get_disabled" = .ok flag) :
      Poses g caller r v content .report found g.aggregator (.report caller.org cluster caller.user) []
  | reportInfo {found : List (String × String)} {raw cluster : String}
      (hraw : capture found = .ok raw) (hcluster : clusterName raw = .ok cluster) :
      Poses g caller r v content .reportInfo found g.aggregator
        (.info caller.org cluster caller.user) []
  | rule {found : List (String × String)} {raw rawSelector cluster ruleId errorKey : String}
      (hraw : captures found = .ok (raw, rawSelector)) (hcluster : clusterName raw = .ok cluster)
      (hselector : selector rawSelector = .ok (ruleId, errorKey)) :
      Poses g caller r v content .rule found g.aggregator
        (.rule caller.org cluster caller.user ruleId errorKey) []
  | reportsOfList {found : List (String × String)} {raw : String} {names : List String}
      (hraw : capture found = .ok raw) (hnames : clusterNames raw = .ok names) :
      Poses g caller r v content .reportsOfList found g.aggregator (.reports caller.org names) []
  | reportsOfPayload {found : List (String × String)} (hsome : r.body.size ≠ 0)
      (hlimit : r.body.size ≤ Inbound.bodyLimit) :
      Poses g caller r v content .reportsOfPayload found g.aggregator
        (.reportsOfPayload caller.org r.body) []
  | clusters {found : List (String × String)} {e : Membership.Error} {journal : Journal}
      (hfallback : g.roster.useFallback = true)
      (hinquiry : (g.roster.inquiry caller.org).among v content [] = (.error e, journal)) :
      Poses g caller r v content .clusters found g.roster.aggregator (.clusters caller.org) journal

section Errors

variable {ε α β : Type} {v : Services} {content : Content.Lookup} {journal later : Journal}

/-- An error is all that follows it. -/
theorem among_bind_of_error {a : Action ε α} {e : ε}
    (h : a.among v content journal = (.error e, later)) (f : α → Action ε β) :
    (a >>= f).among v content journal = (.error e, later) := by
  rw [Action.among_bind, h]

theorem among_ofHandler_of_error {h : Handler} {f : Failure}
    (hended : h.among v content journal = (.error f, later)) :
    (ofHandler h).among v content journal = (.error (.failure f), later) := by
  rw [ofHandler, Action.among_mapError, hended]
  rfl

/-- The error that a question ends in is what the endpoint that poses it ends in. -/
theorem answer_of_poses {g : Gateway} {caller : Caller} {r : Inbound} (groups : Content.Groups)
    {resource : Resource} {found : List (String × String)} {base : Url} {q : Question} {f : Failure}
    (hposes : Poses g caller r v content resource found base q journal)
    (hended : (q.ask base).among v content journal = (.error f, later)) :
    (answer g groups caller resource found (seen g caller r)).among v content []
      = (.error (.failure f), later) := by
  -- Once its checks are passed an endpoint begins with the question, and an error skips what follows.
  cases hposes with
  | report hraw hcluster hflag =>
      rw [answer, ofCaptures, hraw]
      refine among_ofHandler_of_error ?_
      rw [report, hcluster, show strictFlag (seen g caller r) _ = _ from hflag]
      exact among_bind_of_error hended _
  | reportInfo hraw hcluster =>
      rw [answer, ofCaptures, hraw]
      refine among_ofHandler_of_error ?_
      rw [reportInfo, hcluster]
      exact among_bind_of_error hended _
  | rule hraw hcluster hselector =>
      rw [answer, ofCaptures, hraw]
      refine among_ofHandler_of_error ?_
      rw [rule, hcluster, hselector]
      exact among_bind_of_error hended _
  | reportsOfList hraw hnames =>
      rw [answer, ofCaptures, hraw]
      refine among_ofHandler_of_error ?_
      rw [reportsOfList, hnames]
      exact among_bind_of_error hended _
  | reportsOfPayload hsome hlimit =>
      rw [answer, if_neg (show ¬(seen g caller r).body.size > _ from Nat.not_lt.mpr hlimit)]
      refine among_ofHandler_of_error ?_
      rw [reportsOfPayload, if_neg (show (seen g caller r).body.size ≠ 0 from hsome)]
      exact among_bind_of_error hended _
  | clusters hfallback hinquiry =>
      rw [answer]
      refine among_ofHandler_of_error ?_
      rw [clusters_eq_settle, Action.among_settle, hinquiry]
      refine among_bind_of_error ?_ _
      rw [Roster.resolve, Roster.fallback, if_pos hfallback]
      exact among_bind_of_error hended _

/-- The endpoints that ask the results store one question. -/
def asksStore : Resource → Bool
  | .report => true
  | .reportInfo => true
  | .rule => true
  | .clusters => true
  | .reportsOfPayload => true
  | .reportsOfList => true
  | .overview => false
  | .groups => false
  | .content => false
  | .ruleAction => false

/-- A check is passed, or nobody is asked. -/
theorem checked_or_unasked (x : Except ε α) (f : α → Action ε β) :
    (∃ y, x = .ok y) ∨ AsksNobody (Action.done x >>= f) := by
  cases x with
  | ok y => exact Or.inl ⟨y, rfl⟩
  | error e => exact Or.inr (Action.asksNobody_done _)

/-- What is captured can be taken apart, or nobody is asked. -/
theorem captured_or_unasked (x : Except CaptureError α) (f : α → Handler) :
    (∃ y, x = .ok y ∧ (ofCaptures x >>= fun y => ofHandler (f y)) = ofHandler (f y)) ∨
      AsksNobody (ofCaptures x >>= fun y => ofHandler (f y)) := by
  cases x with
  | ok y => exact Or.inl ⟨y, rfl, rfl⟩
  | error e => exact Or.inr (Action.asksNobody_done _)

theorem asksNobody_ofHandler {h : Handler} (hh : AsksNobody h) : AsksNobody (ofHandler h) :=
  hh.mapError _

section Poses

variable (g : Gateway) (caller : Caller) (r : Inbound) (v : Services) (content : Content.Lookup)
  (groups : Content.Groups) (found : List (String × String))

/-- An endpoint that looks up no clusters poses a question to the results store, or asks nobody. -/
theorem poses_or_asksNobody {resource : Resource} (honce : asksStore resource = true)
    (hother : resource ≠ .clusters) :
    (∃ base q journal, Poses g caller r v content resource found base q journal) ∨
      AsksNobody (answer g groups caller resource found (seen g caller r)) := by
  cases resource with
  | overview => cases honce
  | groups => cases honce
  | content => cases honce
  | ruleAction => cases honce
  | clusters => exact absurd rfl hother
  | report =>
      rcases captured_or_unasked (capture found) fun cluster => report g caller cluster (seen g caller r)
        with ⟨raw, hraw, hanswer⟩ | hnobody
      · rw [answer, hanswer]
        rcases checked_or_unasked (clusterName raw) _ with ⟨cluster, hcluster⟩ | hnobody
        · rcases checked_or_unasked (strictFlag (seen g caller r) "get_disabled") _ with
            ⟨flag, hflag⟩ | hnobody
          · exact Or.inl ⟨_, _, _, .report hraw hcluster hflag⟩
          · refine Or.inr (asksNobody_ofHandler ?_)
            rw [report, hcluster]
            exact hnobody
        · exact Or.inr (asksNobody_ofHandler hnobody)
      · exact Or.inr hnobody
  | reportInfo =>
      rcases captured_or_unasked (capture found) fun cluster => reportInfo g caller cluster
        with ⟨raw, hraw, hanswer⟩ | hnobody
      · rw [answer, hanswer]
        rcases checked_or_unasked (clusterName raw) _ with ⟨cluster, hcluster⟩ | hnobody
        · exact Or.inl ⟨_, _, _, .reportInfo hraw hcluster⟩
        · exact Or.inr (asksNobody_ofHandler hnobody)
      · exact Or.inr hnobody
  | rule =>
      rcases captured_or_unasked (captures found) fun texts =>
        rule g caller texts.1 texts.2 (seen g caller r) with ⟨raw, hraw, hanswer⟩ | hnobody
      · rw [answer, hanswer]
        rcases checked_or_unasked (clusterName raw.1) _ with ⟨cluster, hcluster⟩ | hnobody
        · rcases checked_or_unasked (selector raw.2) _ with ⟨selected, hselector⟩ | hnobody
          · exact Or.inl ⟨_, _, _, .rule hraw hcluster hselector⟩
          · refine Or.inr (asksNobody_ofHandler ?_)
            rw [rule, hcluster]
            exact hnobody
        · exact Or.inr (asksNobody_ofHandler hnobody)
      · exact Or.inr hnobody
  | reportsOfList =>
      rcases captured_or_unasked (capture found) fun list => reportsOfList g caller list
        with ⟨raw, hraw, hanswer⟩ | hnobody
      · rw [answer, hanswer]
        rcases checked_or_unasked (clusterNames raw) _ with ⟨names, hnames⟩ | hnobody
        · exact Or.inl ⟨_, _, _, .reportsOfList hraw hnames⟩
        · exact Or.inr (asksNobody_ofHandler hnobody)
      · exact Or.inr hnobody
  | reportsOfPayload =>
      by_cases hlimit : (seen g caller r).body.size > Inbound.bodyLimit
      · rw [answer, if_pos hlimit]
        exact Or.inr (Action.asksNobody_done _)
      · rw [answer, if_neg hlimit]
        by_cases hnone : (seen g caller r).body.size = 0
        · refine Or.inr (asksNobody_ofHandler ?_)
          rw [reportsOfPayload, if_pos hnone]
          exact Action.asksNobody_done _
        · exact Or.inl ⟨_, _, _, .reportsOfPayload hnone (Nat.not_lt.mp hlimit)⟩

/-- The clusters are asked of the results store, or the membership service alone is asked. -/
theorem poses_or_clusters :
    (∃ base q journal, Poses g caller r v content .clusters found base q journal) ∨
      ((answer g groups caller .clusters found (seen g caller r)).among v content []).2
        = ((g.roster.inquiry caller.org).among v content []).2 := by
  rw [answer, ofHandler, Action.among_mapError, clusters_eq_settle, Action.among_settle]
  rcases hinquiry : (g.roster.inquiry caller.org).among v content [] with ⟨e | found, journal⟩
  · cases hfallback : g.roster.useFallback with
    | true => exact Or.inl ⟨_, _, _, .clusters hfallback hinquiry⟩
    | false =>
        refine Or.inr ?_
        rw [g.roster.resolve_error caller.org hfallback]
        rfl
  · exact Or.inr rfl

end Poses

end Errors

/-- Every question that has a place under the base gets one verdict and the result that goes with it.
When the answer to a request has a body and a question that the endpoint poses ends in an error, the
error ends all: what the results store refused is handed on, with its status as far as that is one, and
byte for byte; and failures inside the gateway are all told alike. An endpoint that poses no question
asks nothing of the results store. -/
theorem questions_have_one_verdict :
    (∀ (base : Url) (q : Question) (url : Url),
      base.resource? q.form.template q.form.params = some url →
      ∀ v content journal, ∃ made outcome,
        Http.Client.Sends (Aggregator.requestFor url q.payload) made outcome ∧
        ((q.ask base).among v content journal).2 = journal ++ made ∧
        ∃ verdict, q.Fits outcome ((q.ask base).among v content journal).1 verdict ∧
          ∀ other, q.Fits outcome ((q.ask base).among v content journal).1 other →
            other = verdict) ∧
    (∀ (g : Gateway) groups id v content caller resource found r base (q : Question) journal f later,
      Asked g r caller resource found → (r.method = "GET" ∨ r.method = "POST") →
      Poses g caller r v content resource found base q journal →
      (q.ask base).among v content journal = (.error f, later) →
      (served g v content groups id r).2 = later ∧
      (∀ status body, f = .relayed status body →
        (served g v content groups id r).1.status
          = (if 100 ≤ status ∧ status < 1000 then status else 502) ∧
        (served g v content groups id r).1.body = body) ∧
      (∀ detail, f = .internal detail → (served g v content groups id r).1
        = dressed g id (Failure.notice 500 "INTERNAL" "An internal error occurred"))) ∧
    (∀ (g : Gateway) groups id v content caller resource found r,
      Asked g r caller resource found → asksStore resource = true →
      (∃ base q journal, Poses g caller r v content resource found base q journal) ∨
        (served g v content groups id r).2 = [] ∨
        resource = .clusters ∧ (served g v content groups id r).2
          = ((g.roster.inquiry caller.org).among v content []).2) := by
  refine ⟨?_, ?_, ?_⟩
  · intro base q url hurl v content journal
    obtain ⟨made, hsends, hlater, -⟩ :=
      Http.Client.sends_send v (Aggregator.requestFor url q.payload) journal
    rw [q.among_ask hurl]
    refine ⟨made, _, hsends, hlater, q.verdict _, (q.fits_iff _ _).mpr rfl, fun other hother => ?_⟩
    exact (q.fits_iff _ _).mp hother
  · intro g groups id v content caller resource found r base q journal f later hasked hmethod hposes
      hended
    have hanswer := answer_of_poses groups hposes hended
    have hwhole : r.method ≠ "HEAD" := by
      rcases hmethod with hget | hpost
      · rw [hget]
        decide
      · rw [hpost]
        decide
    rw [served_eq_shown groups id hasked, hanswer, shown_of_ne hwhole]
    refine ⟨rfl, ?_, ?_⟩
    · rintro status body rfl
      rw [dressed_status, dressed_body]
      exact ⟨rfl, rfl⟩
    · rintro detail rfl
      rfl
  · intro g groups id v content caller resource found r hasked honce
    rw [served_eq_shown groups id hasked]
    by_cases hclusters : resource = .clusters
    · subst hclusters
      exact (poses_or_clusters g caller r v content groups found).imp_right fun hjournal =>
        Or.inr ⟨rfl, hjournal⟩
    · exact (poses_or_asksNobody g caller r v content groups found honce hclusters).imp_right
        fun hnobody => Or.inl (hnobody v content [])

section Clusters

/-- A user asks for the clusters of organization `7`. -/
def asksClusters : Inbound := userAsks "GET" "/clusters" .empty

theorem exists_place_of_clusters :
    ∃ url, sample.aggregator.resource? Aggregator.listingTemplate ["7"] = some url ∧
      Http.Client.IsWritable
        (Http.Client.authorize (Aggregator.requestFor url (Question.clusters "7").payload)) := by
  have hany : (sample.aggregator.resource? Aggregator.listingTemplate ["7"]).any (fun url =>
      decide (Http.Client.IsWritable
        (Http.Client.authorize (Aggregator.requestFor url none)))) = true := by decide +kernel
  obtain ⟨url, hurl, hwritable⟩ := (Option.any_eq_true _ _).mp hany
  exact ⟨url, hurl, of_decide_eq_true hwritable⟩

/-- Services that always give the same answer decide at once how the question for the clusters
ends. -/
theorem exists_among_clusters (response : Http.Response)
    (hover : ∀ r, Http.Client.next? r response = none) :
    ∃ later, ((Question.clusters "7").ask sample.aggregator).among
        (fun _ _ => .answer response true) Directory.empty.lookup []
      = (Aggregator.interpret (Question.clusters "7").read (.received response true), later) := by
  obtain ⟨url, hurl, hwritable⟩ := exists_place_of_clusters
  have hended := (Question.clusters "7").among_ask hurl (fun _ _ => .answer response true)
    Directory.empty.lookup []
  rw [Http.Client.sent_of_over _ _ [] hwritable (by rintro _ _ ⟨⟩; exact hover _)] at hended
  exact ⟨_, hended⟩

/-- Services that refuse everything. -/
def refusal : Services := fun _ _ => .answer ⟨403, [], "not yours".toUTF8⟩ true

/-- Services that say nothing that can be read. -/
def gibberish : Services := fun _ _ => .answer ⟨200, [], "gibberish".toUTF8⟩ true

/-- A refusal of the results store to list clusters reaches the client who asked for them; of an
answer of success that cannot be read the client is told no more than of any failure inside the
gateway. -/
theorem questions_have_one_verdict_of_refusal :
    (∃ url made outcome, sample.aggregator.resource? Aggregator.listingTemplate ["7"] = some url ∧
      Http.Client.Sends (Aggregator.requestFor url none) made outcome) ∧
    (served sample refusal Directory.empty.lookup .none "1" asksClusters).1.status = 403 ∧
    (served sample refusal Directory.empty.lookup .none "1" asksClusters).1.body
      = "not yours".toUTF8 ∧
    (served sample gibberish Directory.empty.lookup .none "1" asksClusters).1
      = dressed sample "1" (Failure.notice 500 "INTERNAL" "An internal error occurred") := by
  have hasked : Asked sample asksClusters ⟨"7", "", "u"⟩ .clusters [] := by decide +kernel
  have hposes (v : Services) : Poses sample ⟨"7", "", "u"⟩ asksClusters v Directory.empty.lookup
      .clusters [] sample.aggregator (.clusters "7") [] := .clusters rfl rfl
  obtain ⟨hone, herrors, -⟩ := questions_have_one_verdict
  obtain ⟨url, hurl, -⟩ := exists_place_of_clusters
  obtain ⟨made, outcome, hsends, -⟩ :=
    hone _ (.clusters "7") url hurl refusal Directory.empty.lookup []
  have hunread : (Question.clusters "7").read.ofBytes? "gibberish".toUTF8.data.toList = none := by
    decide +kernel
  obtain ⟨_, hrefused⟩ := exists_among_clusters ⟨403, [], "not yours".toUTF8⟩ fun _ => rfl
  obtain ⟨_, hunreadable⟩ := exists_among_clusters ⟨200, [], "gibberish".toUTF8⟩ fun _ => rfl
  rw [Aggregator.interpret, if_pos (by decide), hunread] at hunreadable
  obtain ⟨-, hrelayed, -⟩ := herrors sample .none "1" _ _ _ _ _ _ _ _ _ _ _ hasked (Or.inl rfl)
    (hposes refusal) hrefused
  obtain ⟨-, -, hinternal⟩ := herrors sample .none "1" _ _ _ _ _ _ _ _ _ _ _ hasked (Or.inl rfl)
    (hposes gibberish) hunreadable
  obtain ⟨hstatus, hbody⟩ := hrelayed 403 "not yours".toUTF8 rfl
  exact ⟨⟨url, made, outcome, hurl, hsends⟩, hstatus, hbody, hinternal _ rfl⟩

end Clusters

end Gateway

end ReportGateway
