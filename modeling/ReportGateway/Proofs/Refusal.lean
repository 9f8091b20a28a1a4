import ReportGateway.Proofs.Handling
import ReportGateway.Proofs.Serving

/-!
Refusing comes before asking. The gateway refuses a request when it does not know who sends it, or
cannot use what was sent; no service ever refuses in this sense, so an endpoint that ends in a refusal
has ended before its first question (`RefusesFirst`). That is shown for an endpoint by splitting it
where its checks end: what follows asks, but never refuses (`Unrefused`). A request whose headers say
nobody reaches no endpoint, and is unauthorized wherever callers have to be known.
-/

namespace ReportGateway

open ReportGateway.Action (Ends AsksNobody ends_done ends_any)

namespace Action

variable {ε ε' α β : Type} {P : ε → Prop}

/-- Whenever an action ends in an error of this kind, it has asked nobody. -/
def RefusesFirst (P : ε → Prop) (a : Action ε α) : Prop :=
  ∀ v content journal e, (a.among v content journal).1 = .error e → P e →
    (a.among v content journal).2 = journal

theorem AsksNobody.refusesFirst {a : Action ε α} (h : AsksNobody a) : RefusesFirst P a :=
  fun v content journal _ _ _ => h v content journal

theorem refusesFirst_done (r : Except ε α) : RefusesFirst P (.done r) :=
  (asksNobody_done r).refusesFirst

theorem RefusesFirst.done_bind (x : Except ε α) {f : α → Action ε β}
    (hf : ∀ y, RefusesFirst P (f y)) : RefusesFirst P (.done x >>= f) := by
  cases x with
  | error e => exact refusesFirst_done _
  | ok y => exact hf y

theorem RefusesFirst.mapError {P' : ε' → Prop} {a : Action ε α} {f : ε → ε'}
    (ha : RefusesFirst P a) (hf : ∀ e, P' (f e) → P e) : RefusesFirst P' (a.mapError f) := by
  intro v content journal e' herror hrefusal
  rw [among_mapError] at herror ⊢
  cases hended : (a.among v content journal).1 with
  | ok x =>
      rw [hended] at herror
      cases herror
  | error e =>
      rw [hended] at herror
      cases herror
      exact ha v content journal e hended (hf e hrefusal)

theorem Ends.refusesFirst {a : Action Failure α} (h : Ends Unrefused a) :
    RefusesFirst Failure.IsRefusal a := by
  intro v content journal e herror hrefusal
  have hunrefused := h v content journal
  rw [herror] at hunrefused
  exact absurd hrefusal hunrefused

end Action

open ReportGateway.Action (RefusesFirst refusesFirst_done ends_return_unrefused)

section Asking

theorem Roster.unrefused_clusters (roster : Roster) (org : String) :
    Ends Unrefused (roster.clusters org) := by
  have hfallback : Ends Unrefused (roster.fallback org) := by
    rw [fallback]
    split
    · exact (Aggregator.unrefused_ask _ _).bind_unrefused fun _ => ends_return_unrefused _
    · exact ends_done id
  rw [clusters]
  cases roster.membership with
  | none => exact hfallback
  | some base =>
      dsimp only
      rw [Action.attempt_bind]
      refine Ends.settle (ends_any _) fun x _ => ?_
      cases x with
      | ok found => exact ends_return_unrefused _
      | error e => exact hfallback

theorem Overview.unrefused_ofCluster (base : Url) (org user cluster : String) :
    Ends Unrefused (ofCluster base org user cluster) := by
  rw [ofCluster, Action.attempt_bind]
  refine Ends.settle (Aggregator.unrefused_ask _ _) fun x hx => ?_
  have hhits : ∀ hits, Ends Unrefused (ofHits hits) := by
    intro hits
    induction hits with
    | nil => exact ends_return_unrefused _
    | cons h hits ih =>
        rw [ofHits]
        refine Ends.bind_unrefused ?_ fun _ => ih.bind_unrefused fun _ => ends_return_unrefused _
        exact (ends_any _).mapError fun x _ => Failure.unrefused_ofContent x
  cases x with
  | ok report =>
      show Ends Unrefused (ofReport report)
      rw [ofReport]
      split
      · exact ends_return_unrefused _
      · exact (hhits _).bind_unrefused fun _ => ends_return_unrefused _
  | error e =>
      cases e with
      | relayed status body => exact ends_return_unrefused _
      | _ => exact ends_done hx

theorem Overview.unrefused_ofClusters (base : Url) (org user : String) (ids : List String) :
    Ends Unrefused (ofClusters base org user ids) := by
  induction ids with
  | nil => exact ends_return_unrefused _
  | cons cluster ids ih =>
      rw [ofClusters]
      exact (unrefused_ofCluster base org user cluster).bind_unrefused fun _ =>
        ih.bind_unrefused fun _ => ends_return_unrefused _

theorem Proxy.unrefused_interpret (service : Service) (outcome : Http.Outcome) :
    Unrefused (interpret service outcome) := by
  cases outcome with
  | unbuildable => exact id
  | failed => exact id
  | received response complete =>
      cases complete with
      | false => exact id
      | true => exact trivial

/-- A route that does not change responses refuses a request before it passes it on. -/
theorem Proxy.refusesFirst_forward {route : Route} (hmodifiers : route.responseModifiers = [])
    (r : Inbound) : RefusesFirst Failure.IsRefusal (forward route r) := by
  rw [forward]
  split
  · exact refusesFirst_done _
  · rw [map_eq_pure_bind, dispatch, bind_assoc]
    refine RefusesFirst.done_bind _ fun r => ?_
    rw [bind_assoc]
    refine RefusesFirst.done_bind _ fun url => ?_
    rw [← bind_assoc, bind_assoc, hmodifiers]
    refine Ends.refusesFirst (Ends.bind_unrefused ?_ fun response => ends_return_unrefused _)
    exact Http.Client.ends_send_bind _ _ (unrefused_interpret route.service)

end Asking

namespace Gateway

/-- The rejections by which the gateway refuses a request, or cannot take it apart. -/
def Rejection.IsRefusal : Rejection → Prop
  | .failure f => f.IsRefusal
  | .captures _ => True
  | .tooLarge => True

section Endpoints

variable (g : Gateway) (caller : Caller) (r : Inbound)

/-- Only the checks refuse, and they come before the question. -/
theorem AsksOnce.refusesFirst {h : Handler} (hh : AsksOnce h) :
    RefusesFirst Failure.IsRefusal h := by
  induction hh with
  | stops f => exact refusesFirst_done _
  | checks x hf ih => exact RefusesFirst.done_bind x ih
  | asks payload read hf =>
      refine Ends.refusesFirst ?_
      exact (Aggregator.unrefused_ask payload read).bind_unrefused fun y => (hf y).unrefused

theorem refusesFirst_clusters : RefusesFirst Failure.IsRefusal (clusters g caller) := by
  refine Ends.refusesFirst ?_
  exact (Roster.unrefused_clusters g.roster caller.org).bind_unrefused fun _ =>
    ends_return_unrefused _

theorem refusesFirst_overview : RefusesFirst Failure.IsRefusal (overview g caller) := by
  refine Ends.refusesFirst (Ends.bind_unrefused ?_ fun ids => ?_)
  · exact (Roster.unrefused_clusters g.roster caller.org).bind_unrefused fun _ =>
      ends_return_unrefused _
  · exact (Overview.unrefused_ofClusters _ _ _ ids).bind_unrefused fun _ => ends_return_unrefused _

theorem refusesFirst_ofHandler {h : Handler} (hh : RefusesFirst Failure.IsRefusal h) :
    RefusesFirst Rejection.IsRefusal (ofHandler h) := hh.mapError fun _ => id

theorem refusesFirst_ofCaptures {α : Type} (x : Except CaptureError α)
    {f : α → Action Rejection Http.Response}
    (hf : ∀ y, RefusesFirst Rejection.IsRefusal (f y)) :
    RefusesFirst Rejection.IsRefusal (ofCaptures x >>= f) := RefusesFirst.done_bind _ hf

/-- At every endpoint the checks come before the questions. -/
theorem refusesFirst_answer (groups : Content.Groups) (resource : Resource)
    (found : List (String × String)) :
    RefusesFirst Rejection.IsRefusal (answer g groups caller resource found r) := by
  cases resource with
  | report =>
      exact refusesFirst_ofCaptures _ fun cluster =>
        refusesFirst_ofHandler (asksOnce_report g caller r cluster).refusesFirst
  | reportInfo =>
      exact refusesFirst_ofCaptures _ fun cluster =>
        refusesFirst_ofHandler (asksOnce_reportInfo g caller cluster).refusesFirst
  | rule =>
      exact refusesFirst_ofCaptures _ fun texts =>
        refusesFirst_ofHandler (asksOnce_rule g caller r texts.1 texts.2).refusesFirst
  | clusters => exact refusesFirst_ofHandler (refusesFirst_clusters g caller)
  | reportsOfPayload =>
      rw [answer]
      split
      · exact refusesFirst_done _
      · exact refusesFirst_ofHandler (asksOnce_reportsOfPayload g caller r).refusesFirst
  | reportsOfList =>
      exact refusesFirst_ofCaptures _ fun list =>
        refusesFirst_ofHandler (asksOnce_reportsOfList g caller list).refusesFirst
  | overview => exact refusesFirst_ofHandler (refusesFirst_overview g caller)
  | groups =>
      exact refusesFirst_ofHandler (RefusesFirst.done_bind _ fun _ => refusesFirst_done _)
  | content => exact refusesFirst_ofHandler (Proxy.refusesFirst_forward rfl r)
  | ruleAction => exact refusesFirst_ofHandler (Proxy.refusesFirst_forward rfl r)

end Endpoints

section Callers

/-- The headers name nobody: the one that should is not there, or it is no plain text, or it does not
say who the caller is. -/
def NamesNobody (headers : Http.Headers) : Prop :=
  headers.first? Caller.headerName = none ∨
    ∃ value, headers.first? Caller.headerName = some value ∧
      ((∃ c ∈ value.toList, c ≠ '\t' ∧ ¬(' ' ≤ c ∧ c ≤ '~')) ∨ Caller.ofHeader? value = none)

theorem caller?_eq_none_iff (headers : Http.Headers) :
    caller? headers = none ↔ NamesNobody headers := by
  rw [caller?, NamesNobody]
  cases headers.first? Caller.headerName with
  | none => simp
  | some value =>
      simp only [Option.bind_eq_bind, Option.bind_some, reduceCtorEq, false_or, Option.some.injEq,
        exists_eq_left']
      by_cases hplain : value.toList.all (fun c => c = '\t' || (' ' ≤ c && c ≤ '~')) = true
      · rw [if_pos hplain]
        simp only [List.all_eq_true, Bool.or_eq_true, Bool.and_eq_true, decide_eq_true_eq] at hplain
        refine ⟨Or.inr, ?_⟩
        rintro (⟨c, hc, htab, hother⟩ | hnobody)
        · exact absurd (hplain c hc) (not_or.mpr ⟨htab, hother⟩)
        · exact hnobody
      · rw [if_neg hplain]
        rw [Bool.not_eq_true, List.all_eq_false] at hplain
        obtain ⟨c, hc, hother⟩ := hplain
        simp only [Bool.or_eq_true, Bool.and_eq_true, decide_eq_true_eq, not_or] at hother
        exact ⟨fun _ => Or.inl ⟨c, hc, hother⟩, fun _ => rfl⟩

/-- What someone unknown is told, on a route for callers that have to be known. -/
theorem route_of_unknown {E : Type} {g : Gateway} {r : Inbound} {place : Route}
    {found : List (String × String)} (hunknown : caller? r.headers = none)
    (hroute : findRoute g.path r.path = some (place, found)) (hprotected : place.endpoint ≠ .health)
    (groups : Content.Groups) :
    ∃ response, route g groups r = (pure response : Action E Http.Response) ∧
      response.status = 401 ∧
      response.body = if place.serves r.method = true ∧ r.method = "HEAD" then .empty
        else Failure.unauthorized.response.body := by
  have honRoute : onRoute g groups place found r
      = (pure Failure.unauthorized.response : Action E Http.Response) := by
    rw [onRoute, hunknown]
    cases hendpoint : place.endpoint with
    | health => exact absurd hendpoint hprotected
    | resource resource => rfl
  rw [route, hroute]
  dsimp only
  by_cases hserves : place.serves r.method = true
  · rw [if_neg (by simp [hserves]), honRoute]
    by_cases hhead : r.method = "HEAD"
    · rw [if_pos hhead, if_pos ⟨hserves, hhead⟩]
      exact ⟨withoutBody Failure.unauthorized.response, rfl, rfl, rfl⟩
    · rw [if_neg hhead, if_neg fun h => hhead h.2]
      exact ⟨Failure.unauthorized.response, rfl, rfl, rfl⟩
  · rw [if_pos (by simp [hserves]), if_neg fun h => hserves h.1]
    refine ⟨onWrongMethod place r, rfl, ?_⟩
    rw [onWrongMethod, hunknown]
    cases hendpoint : place.endpoint with
    | health => exact absurd hendpoint hprotected
    | resource resource => exact ⟨rfl, rfl⟩

end Callers

/-- A request that the gateway refuses, or cannot take apart, leads to no question to any service, and
neither does one that names nobody. On every route for callers that have to be known, the latter is
answered that authentication is required, whatever its method, unless it is a preflight request that
browsers are let in by; there is no body where only the head is asked for. -/
theorem refusals_ask_nobody (g : Gateway) (v : Services) (content : Content.Lookup)
    (groups : Content.Groups) (id : String) (r : Inbound) :
    (∀ caller resource found e, Asked g r caller resource found →
      ((answer g groups caller resource found (seen g caller r)).among v content []).1 = .error e →
      e.IsRefusal →
      (served g v content groups id r).1 = dressed g id (shown r e.response) ∧
        (served g v content groups id r).2 = []) ∧
    (NamesNobody r.headers →
      (served g v content groups id r).2 = [] ∧
      ∀ place found, findRoute g.path r.path = some (place, found) → place.endpoint ≠ .health →
        ¬(g.enableCors = true ∧ r.method = "OPTIONS") →
        (served g v content groups id r).1.status = 401 ∧
        (served g v content groups id r).1.body
          = if place.serves r.method = true ∧ r.method = "HEAD" then .empty
            else (Failure.notice 401 "AUTH_REQUIRED" "Authentication required").body) := by
  refine ⟨?_, ?_⟩
  · intro caller resource found e hasked hended hrefusal
    rw [served_eq_shown groups id hasked v content, hended]
    exact ⟨rfl, refusesFirst_answer g caller _ groups resource found v content [] e hended hrefusal⟩
  · intro hnobody
    have hunknown := (caller?_eq_none_iff r.headers).mpr hnobody
    refine ⟨?_, ?_⟩
    · rcases leftBy_served g groups r v content id with hnone | ⟨caller, _, _, hasked, -⟩
      · exact hnone
      · rw [hasked.known] at hunknown
        cases hunknown
    · intro place found hroute hprotected hroutes
      obtain ⟨response, hresponse, hstatus, hbody⟩ :=
        route_of_unknown (E := Empty) hunknown hroute hprotected groups
      rw [served_of_route groups id hroutes hresponse, dressed_status, dressed_body]
      exact ⟨hstatus, hbody⟩

/-- A cluster that goes by no name is refused to a known user, and a request without headers is
unauthorized at the same place. -/
theorem refusals_ask_nobody_of_bad_cluster :
    Asked sample (userAsks "GET" "/report/x" .empty) ⟨"7", "", "u"⟩ .report [("cluster", "x")] ∧
      (∃ detail,
        (served sample (fun _ _ => .silent) Content.Directory.empty.lookup .none "1"
            (userAsks "GET" "/report/x" .empty)).1
          = dressed sample "1" (Failure.badRequest detail).response) ∧
      (served sample (fun _ _ => .silent) Content.Directory.empty.lookup .none "1"
        (userAsks "GET" "/report/x" .empty)).2 = [] ∧
      NamesNobody { userAsks "GET" "/report/x" .empty with headers := [] }.headers ∧
      (served sample (fun _ _ => .silent) Content.Directory.empty.lookup .none "1"
        { userAsks "GET" "/report/x" .empty with headers := [] }).1.status = 401 := by
  have hasked : Asked sample (userAsks "GET" "/report/x" .empty) ⟨"7", "", "u"⟩ .report
      [("cluster", "x")] := by decide +kernel
  have hended : ∃ detail,
      ((answer sample .none ⟨"7", "", "u"⟩ .report [("cluster", "x")]
          (seen sample ⟨"7", "", "u"⟩ (userAsks "GET" "/report/x" .empty))).among
        (fun _ _ => .silent) Content.Directory.empty.lookup []).1
          = .error (.failure (.badRequest detail)) := ⟨_, rfl⟩
  have hnobody : NamesNobody { userAsks "GET" "/report/x" .empty with headers := [] }.headers :=
    Or.inl (by decide +kernel)
  obtain ⟨detail, hended⟩ := hended
  obtain ⟨hanswer, hnone⟩ := (refusals_ask_nobody sample (fun _ _ => .silent)
    Content.Directory.empty.lookup .none "1" (userAsks "GET" "/report/x" .empty)).1 _ _ _ _ hasked
    hended trivial
  obtain ⟨place, hroute, hendpoint, -⟩ := hasked.routed
  refine ⟨hasked, ⟨detail, hanswer⟩, hnone, hnobody, ?_⟩
  refine (((refusals_ask_nobody sample (fun _ _ => .silent) Content.Directory.empty.lookup .none "1"
    { userAsks "GET" "/report/x" .empty with headers := [] }).2 hnobody).2 place _ hroute ?_ ?_).1
  · rw [hendpoint]
    exact Endpoint.noConfusion
  · exact fun h => absurd h.1 (by decide)

end Gateway

end ReportGateway
