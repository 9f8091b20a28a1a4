import ReportGateway.Cluster.Roster
import ReportGateway.Content.Refresh
import ReportGateway.Overview
import ReportGateway.Proofs.Exchange
import ReportGateway.Proxy

/-!
What the services' clients make of an exchange. Each of them sends one request and reads the outcome,
so that a question ends in what its outcome means (`among_send_bind`). All of them tell a service at
fault from one that answers: the client of the results store and the proxy blame their service
(`Aggregator.blames_ask`, `Proxy.blames_dispatch`), the client of the membership service gives up,
and a fetch of content ends in the error that `Content.interpret` makes of the fault.
-/

namespace ReportGateway

open ReportGateway.Action (Heeds Blames Ends AsksNobody heeds_done heeds_fail ends_done)
open Http (Outcome Reply Request)

namespace Http.Client

variable {ε α : Type} (f : Outcome → Except ε α) (r : Request)

theorem among_send_bind (v : Services) (content : Content.Lookup) (journal : Journal) :
    (send r >>= fun outcome => Action.done (f outcome)).among v content journal
      = (f (sent v r journal).1, (sent v r journal).2) := by
  rw [Action.among_bind, among_send]
  rfl

theorem heeds_send_bind :
    Heeds (fun reply x => x = f reply.outcome)
      (send r >>= fun outcome => Action.done (f outcome)) := by
  refine Heeds.settle (heeds_send r) ?_ ?_
  · rintro reply x rfl
    exact ends_done rfl
  · intro x
    cases x with
    | error e => exact heeds_done _
    | ok outcome => exact heeds_done _

theorem ends_send_bind {Q : Except ε α → Prop} (hf : ∀ outcome, Q (f outcome)) :
    Ends Q (send r >>= fun outcome => Action.done (f outcome)) := by
  intro v content journal
  rw [among_send_bind]
  exact hf _

end Http.Client

namespace Aggregator

open Json (Read)

/-- The request for a place, with the body that goes along with it, if any. -/
def requestFor (url : Url) : Option ByteArray → Request
  | none => .get url
  | some body =>
    { method := "POST", url, headers := [("content-type", "application/json; charset=utf-8")],
      body }

variable {α : Type} {base : Url} {template : Url.Template} {params : List String}
  (payload : Option ByteArray) (read : Read α)

theorem ask_of_none (hurl : base.resource? template params = none) :
    ask base template params payload read = .fail (unplaced template) := by
  rw [ask, hurl]

theorem ask_of_some {url : Url} (hurl : base.resource? template params = some url) :
    ask base template params payload read
      = Http.Client.send (requestFor url payload) >>= fun outcome =>
          .done (interpret read outcome) := by
  rw [ask, hurl]
  cases payload <;> rfl

theorem ends_ask_of {Q : Except Failure α → Prop} (hunplaced : Q (.error (unplaced template)))
    (hinterpret : ∀ outcome, Q (interpret read outcome)) :
    Ends Q (ask base template params payload read) := by
  cases hurl : base.resource? template params with
  | none =>
      rw [ask_of_none payload read hurl]
      exact ends_done hunplaced
  | some url =>
      rw [ask_of_some payload read hurl]
      exact Http.Client.ends_send_bind _ _ hinterpret

theorem interpret_of_fault {reply : Reply} (h : reply.IsFault) :
    interpret read reply.outcome = .error (.unavailable .aggregator) := by
  rcases h with hunanswered | hcut
  · rw [Reply.outcome_eq_failed hunanswered]
    rfl
  · obtain ⟨response, rfl, -⟩ := Reply.exists_of_isCutShort hcut
    rfl

theorem blames_ask :
    Blames (.unavailable .aggregator) (ask base template params payload read) := by
  cases hurl : base.resource? template params with
  | none =>
      rw [ask_of_none payload read hurl]
      exact heeds_fail _
  | some url =>
      rw [ask_of_some payload read hurl]
      refine (Http.Client.heeds_send_bind _ _).mono ?_
      rintro reply x hfault rfl
      exact interpret_of_fault read hfault

end Aggregator

namespace Membership

theorem interpret_of_fault (excluded : List String) {reply : Reply} (h : reply.IsFault) :
    ∃ e, interpret excluded reply.outcome = .error e := by
  rcases h with hunanswered | hcut
  · rw [Reply.outcome_eq_failed hunanswered]
    exact ⟨_, rfl⟩
  · obtain ⟨response, rfl, hsuccess⟩ := Reply.exists_of_isCutShort hcut
    rw [Reply.outcome, interpret, if_pos hsuccess]
    exact ⟨_, rfl⟩

theorem heeds_clusters (base : Url) (org : String) (excluded : List String) :
    Heeds (fun _ x => ∃ e, x = .error e) (clusters base org excluded) := by
  rw [clusters]
  cases listing? base org excluded with
  | none => exact heeds_fail _
  | some url =>
      refine (Http.Client.heeds_send_bind _ _).mono ?_
      rintro reply x hfault rfl
      exact interpret_of_fault excluded hfault

end Membership

namespace Roster

variable (r : Roster) (org : String)

/-- The question to the membership service; without one there is nothing to be found out. -/
def inquiry : Action Membership.Error ClusterSet :=
  match r.membership with
  | none => .fail .invalidUrl
  | some base => Membership.clusters base org excludedStatuses

/-- What is made of how the membership service answered. -/
def resolve : Except Membership.Error ClusterSet → Action Failure ClusterSet
  | .ok found => return found
  | .error _ => r.fallback org

theorem clusters_eq_settle : r.clusters org = (r.inquiry org).settle (r.resolve org) := by
  rw [clusters, inquiry]
  cases r.membership with
  | none => rfl
  | some base => exact Action.attempt_bind _ _

theorem heeds_inquiry : Heeds (fun _ x => ∃ e, x = .error e) (r.inquiry org) := by
  rw [inquiry]
  cases r.membership with
  | none => exact heeds_done _
  | some base => exact Membership.heeds_clusters base org excludedStatuses

theorem blames_resolve (x : Except Membership.Error ClusterSet) :
    Blames (.unavailable .aggregator) (r.resolve org x) := by
  cases x with
  | ok found => exact heeds_done _
  | error e =>
      rw [resolve, fallback]
      split
      · exact (Aggregator.blames_ask _ _).bind fun _ => heeds_done _
      · exact heeds_done _

theorem resolve_error {e : Membership.Error} (hfallback : r.useFallback = false) :
    r.resolve org (.error e) = .fail (.unavailable .membership) := by
  rw [resolve, fallback, hfallback]
  rfl

end Roster

namespace Content

variable {α : Type} {base : Url} {place : String} (read : Json.Read α)

theorem fetch_of_none (hurl : base.resource? [.fixed place] [] = none) :
    fetch base place read = .fail .invalidUrl := by
  rw [fetch, hurl]

theorem fetch_of_some {url : Url} (hurl : base.resource? [.fixed place] [] = some url) :
    fetch base place read
      = Http.Client.send (.get url) >>= fun outcome => .done (interpret read outcome) := by
  rw [fetch, hurl]

/-- What a fetch makes of what came of asking, if there was anything that could be asked for. -/
def meaning : Option Outcome → Except RefreshError α
  | none => .error .invalidUrl
  | some outcome => interpret read outcome

variable (base place)

/-- What came of asking for a place under the base, if it can be named, and the journal that is
left. -/
def inquiry (v : Services) (journal : Journal) : Option Outcome × Journal :=
  match base.resource? [.fixed place] [] with
  | none => (none, journal)
  | some url => ((Http.Client.sent v (.get url) journal).1, (Http.Client.sent v (.get url) journal).2)

theorem among_fetch (v : Services) (content : Lookup) (journal : Journal) :
    (fetch base place read).among v content journal
      = (meaning read (inquiry base place v journal).1, (inquiry base place v journal).2) := by
  rw [inquiry]
  cases hurl : base.resource? [.fixed place] [] with
  | none =>
      rw [fetch_of_none read hurl]
      rfl
  | some url =>
      rw [fetch_of_some read hurl, Http.Client.among_send_bind]
      rfl

/-- After a fault, what came of asking is what the faulty reply is. -/
theorem inquiry_of_fault (v : Services) (journal : Journal) :
    ∃ made, (inquiry base place v journal).2 = journal ++ made ∧
      ∀ exchange ∈ made, exchange.2.IsFault →
        (inquiry base place v journal).1 = some exchange.2.outcome := by
  rw [inquiry]
  cases base.resource? [.fixed place] [] with
  | none => exact ⟨[], (List.append_nil journal).symm, fun _ hmem => absurd hmem List.not_mem_nil⟩
  | some url =>
      obtain ⟨made, hsends, hlater, -⟩ := Http.Client.sends_send v (.get url) journal
      refine ⟨made, hlater, fun exchange hmem hfault => ?_⟩
      dsimp only
      rw [hsends.outcome_eq_of_fault hmem hfault]

end Content

namespace Proxy

theorem interpret_of_fault (service : Service) {reply : Reply} (h : reply.IsFault) :
    interpret service reply.outcome = .error (.unavailable service) := by
  rcases h with hunanswered | hcut
  · rw [Reply.outcome_eq_failed hunanswered]
    rfl
  · obtain ⟨response, rfl, -⟩ := Reply.exists_of_isCutShort hcut
    rfl

theorem blames_dispatch (route : Route) (r : Inbound) :
    Blames (.unavailable route.service) (dispatch route r) := by
  rw [dispatch]
  refine Blames.bind (heeds_done _) fun r => ?_
  refine Blames.bind (heeds_done _) fun url => ?_
  -- The outcome is read right after it is there, so the two steps count as one.
  rw [← bind_assoc]
  refine Blames.bind ?_ fun response => heeds_done _
  refine (Http.Client.heeds_send_bind _ _).mono ?_
  rintro reply x hfault rfl
  exact interpret_of_fault route.service hfault

theorem blames_forward (route : Route) (r : Inbound) :
    Blames (.unavailable route.service) (forward route r) := by
  rw [forward]
  split
  · exact heeds_fail _
  · rw [map_eq_pure_bind]
    exact (blames_dispatch route r).bind fun _ => heeds_done _

end Proxy

theorem Visibility.asksNobody_filter (p : Policy) (hits : List RuleHit) :
    AsksNobody (filter p hits) := by
  induction hits with
  | nil => exact Action.asksNobody_done _
  | cons h hits ih =>
      rw [filter]
      split
      · exact ih.bind fun _ => Action.asksNobody_done _
      · exact (Action.asksNobody_contentOf _ _).bind fun _ =>
          ih.bind fun _ => Action.asksNobody_done _

theorem Overview.asksNobody_ofHits (hits : List RuleHit) : AsksNobody (ofHits hits) := by
  induction hits with
  | nil => exact Action.asksNobody_done _
  | cons h hits ih =>
      rw [ofHits]
      exact ((Action.asksNobody_contentOf _ _).mapError _).bind fun _ =>
        ih.bind fun _ => Action.asksNobody_done _

end ReportGateway
