import ReportGateway.Proofs.Dispatching
import ReportGateway.Proofs.Serving

/-!
What a client gets of the answer to a request that was passed on. Redirects aside, the last reply of the
exchanges decides what comes of sending a request (`Leads.outcome_of_last`), so an answer that arrived
whole and sends the gateway nowhere is the one that is handed on. The headers of a response are a list in
which a name may come several times; `values` reads off what is there under a name, and each step that
makes the client's headers changes the values of few names: those that describe the connection are
dropped, the type of the content is put in where there is none, and the id of the request is set.
-/

namespace ReportGateway

namespace Http

namespace Headers

variable (h : Headers) {name other : String}

theorem values_set_of_ne (value : String) (hne : name ≠ other) :
    (h.set name value).values other = h.values other := by
  have hother : other ∉ [name] := by simpa using hne.symm
  rw [set, values_add_of_ne _ value hne, values_without_of_not_mem h hother]

theorem values_cons_of_ne (value : String) (hne : name ≠ other) :
    values ((name, value) :: h) other = h.values other := by
  simp [values, hne]

variable (name) in
/-- A name has no values when no field has it. -/
theorem values_eq_nil_iff : h.values name = [] ↔ (h.any fun field => field.1 = name) = false := by
  simp [values]

end Headers

namespace Client

/-- The last reply decides what following comes to, unless it sends the client on. -/
theorem Leads.outcome_of_last {left : Nat} {r : Request} {made : Journal} {outcome : Outcome}
    (h : Leads left r made outcome) {request : Request} {reply : Reply}
    (hlast : made.getLast? = some (request, reply))
    (hover : ∀ response complete, reply = .answer response complete →
      next? request response = none) : outcome = reply.outcome := by
  induction h with
  | ended _ =>
      cases hlast
      rfl
  | exhausted hnext =>
      cases hlast
      rw [hover _ _ rfl] at hnext
      cases hnext
  | unsendable hnext _ =>
      cases hlast
      rw [hover _ _ rfl] at hnext
      cases hnext
  | redirected _ _ hrest ih =>
      -- Where the client is sent on, at least one more exchange is made.
      refine ih ?_
      cases hrest <;> exact hlast

theorem Sends.outcome_of_last {r request : Request} {made : Journal} {outcome : Outcome}
    {reply : Reply} (h : Sends r made outcome) (hlast : made.getLast? = some (request, reply))
    (hover : ∀ response complete, reply = .answer response complete →
      next? request response = none) : outcome = reply.outcome := by
  cases h with
  | unwritable _ => cases hlast
  | led _ hled => exact hled.outcome_of_last hlast hover

end Client

end Http

namespace Proxy

section Headers

variable (response : Http.Response) {name : String}

theorem values_toClient_of_connection (hname : name ∈ connectionHeaders) :
    (toClient response).headers.values name = [] := by
  have hne : "content-type" ≠ name := by
    rintro rfl
    exact absurd hname (by decide)
  have hdropped := response.headers.values_without_of_mem hname
  unfold toClient
  dsimp only
  split
  · exact hdropped
  · rw [Http.Headers.values_cons_of_ne _ _ hne, hdropped]

theorem values_toClient (hname : name ∉ connectionHeaders) (hne : name ≠ "content-type") :
    (toClient response).headers.values name = response.headers.values name := by
  have hkept := response.headers.values_without_of_not_mem hname
  unfold toClient
  dsimp only
  split
  · exact hkept
  · rw [Http.Headers.values_cons_of_ne _ _ hne.symm, hkept]

/-- The content of a response has the types that the service gives it, or else it is bytes. -/
theorem values_contentType_toClient :
    (toClient response).headers.values "content-type" =
      if response.headers.values "content-type" = [] then ["application/octet-stream"]
      else response.headers.values "content-type" := by
  have hkept := response.headers.values_without_of_not_mem
    (by decide : "content-type" ∉ connectionHeaders)
  have hnone := (response.headers.without connectionHeaders).values_eq_nil_iff "content-type"
  rw [hkept] at hnone
  unfold toClient
  dsimp only
  split
  · rename_i hnamed
    rw [hkept, if_neg]
    intro hempty
    rw [hnone.mp hempty] at hnamed
    cases hnamed
  · rename_i hunnamed
    have hempty := hnone.mpr (Bool.eq_false_iff.mpr hunnamed)
    rw [if_pos hempty]
    show _ :: (response.headers.without connectionHeaders).values "content-type" = _
    rw [hkept, hempty]

end Headers

/-- Without modifiers of responses, what a request that is passed on comes to is the last answer, if
that arrived whole and sends the gateway nowhere. -/
theorem among_dispatch_of_last {route : Route} {r : Inbound} {v : Services}
    {content : Content.Lookup} {request : Http.Request} {response : Http.Response}
    (hmodifiers : route.responseModifiers = [])
    (hlast : ((dispatch route r).among v content []).2.getLast?
      = some (request, .answer response true))
    (hover : Http.Client.next? request response = none) :
    ((dispatch route r).among v content []).1 = .ok response := by
  cases hrun : runAll route.requestModifiers r with
  | error e =>
      rw [among_dispatch_of_refused hrun] at hlast
      cases hlast
  | ok last =>
      cases htarget : target route.base last.path last.query with
      | error e =>
          rw [among_dispatch_of_nowhere hrun htarget] at hlast
          cases hlast
      | ok url =>
          obtain ⟨made, hsends, hmade, -⟩ := Http.Client.sends_send v (outgoing last url) []
          rcases hsent : Http.Client.sent v (outgoing last url) [] with ⟨outcome, later⟩
          rw [hsent] at hsends hmade
          rw [among_dispatch_of_sent hrun htarget hsent] at hlast ⊢
          dsimp only at hsends hmade hlast ⊢
          rw [hmade] at hlast
          have houtcome : outcome = .received response true := by
            refine hsends.outcome_of_last hlast ?_
            rintro _ _ ⟨⟩
            exact hover
          rw [houtcome, hmodifiers]
          rfl

end Proxy

namespace Gateway

open Proxy (connectionHeaders toClient)

/-- A resource that requests are passed on for, and how. -/
inductive PassesOn (g : Gateway) : Resource → Proxy.Route → Prop
  | content : PassesOn g .content g.contentRoute
  | ruleAction : PassesOn g .ruleAction g.ruleActionRoute

theorem answer_of_passesOn {g : Gateway} {resource : Resource} {route : Proxy.Route}
    (h : PassesOn g resource route) (groups : Content.Groups) (caller : Caller)
    (found : List (String × String)) (r : Inbound) :
    route.responseModifiers = [] ∧
      answer g groups caller resource found r = ofHandler (Proxy.forward route r) := by
  cases h with
  | content => exact ⟨rfl, rfl⟩
  | ruleAction => exact ⟨rfl, rfl⟩

@[simp] theorem shown_headers (r : Inbound) (response : Http.Response) :
    (shown r response).headers = response.headers := by
  unfold shown
  split <;> rfl

theorem dressed_headers {g : Gateway} (hcors : g.enableCors = false) (id : String)
    (response : Http.Response) :
    (dressed g id response).headers = response.headers.set requestIdHeader id := by
  simp [dressed, hcors]

section Relayed

variable {g : Gateway} {r : Inbound} {caller : Caller} {resource : Resource}
  {found : List (String × String)} {route : Proxy.Route} {v : Services} {content : Content.Lookup}
  {request : Http.Request} {response : Http.Response}

/-- What is answered to a request that was passed on is the last answer made one for the client, if that
arrived whole and sends the gateway nowhere. -/
theorem served_of_last (hasked : Asked g r caller resource found)
    (hpasses : PassesOn g resource route) (groups : Content.Groups) (id : String)
    (hlast : (served g v content groups id r).2.getLast? = some (request, .answer response true))
    (hover : Http.Client.next? request response = none) :
    (served g v content groups id r).1 = dressed g id (shown r (toClient response)) := by
  obtain ⟨hmodifiers, hanswer⟩ := answer_of_passesOn hpasses groups caller found (seen g caller r)
  rw [served_eq_shown groups id hasked, hanswer, ofHandler, Action.among_mapError] at hlast ⊢
  dsimp only at hlast ⊢
  unfold Proxy.forward at hlast ⊢
  split at hlast
  · cases hlast
  · rename_i hsize
    rw [Action.among_map] at hlast
    rw [if_neg hsize, Action.among_map, Proxy.among_dispatch_of_last hmodifiers hlast hover]
    rfl

end Relayed

/-- Whoever has a request passed on gets the answer of the service, be it reached by redirects or not:
its status, its body and its headers, but for the headers that describe a connection. Under every other
name stand the values of the service in their order, with two exceptions: content without a type is
bytes, and the id of the request is the gateway's own. (No body answers a `HEAD`, neither from the
service nor to the client.) -/
theorem answer_is_handed_on {g : Gateway} {groups : Content.Groups} {id : String} {r : Inbound}
    {caller : Caller} {resource : Resource} {found : List (String × String)} {v : Services}
    {content : Content.Lookup} {request : Http.Request} {response : Http.Response}
    (hasked : Asked g r caller resource found)
    (hpassed : resource = .content ∨ resource = .ruleAction) (hcors : g.enableCors = false)
    (hlast : (served g v content groups id r).2.getLast? = some (request, .answer response true))
    (hover : Http.Client.next? request response = none) :
    let answer := (served g v content groups id r).1
    answer.status = response.status ∧
      answer.body = (if r.method = "HEAD" then .empty else response.body) ∧
      (∀ name, name ∉ ["host", "content-length", "connection", "transfer-encoding"] →
        name ≠ "content-type" → name ≠ "x-request-id" →
        answer.headers.values name = response.headers.values name) ∧
      (answer.headers.values "content-type" =
        if response.headers.values "content-type" = [] then ["application/octet-stream"]
        else response.headers.values "content-type") ∧
      (∀ name ∈ ["host", "content-length", "connection", "transfer-encoding"],
        answer.headers.values name = []) ∧
      answer.headers.values "x-request-id" = [id] := by
  have hroute : ∃ route, PassesOn g resource route := by
    rcases hpassed with rfl | rfl
    · exact ⟨_, .content⟩
    · exact ⟨_, .ruleAction⟩
  obtain ⟨route, hpasses⟩ := hroute
  have hserved := served_of_last hasked hpasses groups id hlast hover
  have hheaders : (served g v content groups id r).1.headers
      = (toClient response).headers.set requestIdHeader id := by
    rw [hserved, dressed_headers hcors, shown_headers]
  have hothers : ∀ name, name ≠ "x-request-id" →
      (served g v content groups id r).1.headers.values name
        = (toClient response).headers.values name := by
    intro name hname
    rw [hheaders, Http.Headers.values_set_of_ne _ _ (Ne.symm hname : requestIdHeader ≠ name)]
  refine ⟨?_, ?_, ?_, ?_, ?_, ?_⟩
  · rw [hserved, dressed_status, shown_status]
    rfl
  · rw [hserved, dressed_body]
    unfold shown
    split <;> rfl
  · intro name hconnection htype hname
    rw [hothers name hname, Proxy.values_toClient response hconnection htype]
  · rw [hothers _ (by decide), Proxy.values_contentType_toClient]
  · intro name hconnection
    have hname : name ≠ "x-request-id" := by
      rintro rfl
      exact absurd hconnection (by decide)
    rw [hothers name hname, Proxy.values_toClient_of_connection response hconnection]
  · rw [hheaders]
    exact Http.Headers.values_set_self _ _ _

section Cookies

/-- An answer with two cookies, without a type, with a header for the connection and with an id of the
service's own. -/
def cookies : Http.Response :=
  ⟨200, [("set-cookie", "a=1"), ("connection", "close"), ("x-request-id", "z"),
    ("set-cookie", "b=2")], "{}".toUTF8⟩

/-- A user asks for the content. -/
def asksContent : Inbound := userAsks "GET" "/content" .empty

/-- That answer, handed on to the user. -/
def handedOn : Http.Response × Journal :=
  served sample (fun _ _ => .answer cookies true) Content.Directory.empty.lookup .none "1" asksContent

theorem answer_is_handed_on_of_cookies :
    ∃ request, Asked sample asksContent ⟨"7", "", "u"⟩ .content [] ∧ sample.enableCors = false ∧
      handedOn.2.getLast? = some (request, .answer cookies true) ∧
      Http.Client.next? request cookies = none ∧
      handedOn.1.headers.values "set-cookie" = ["a=1", "b=2"] ∧
      handedOn.1.headers.values "content-type" = ["application/octet-stream"] ∧
      handedOn.1.headers.values "connection" = [] ∧
      handedOn.1.headers.values "x-request-id" = ["1"] := by
  have hasked : Asked sample asksContent ⟨"7", "", "u"⟩ .content [] := by decide +kernel
  have hover : ∀ request, Http.Client.next? request cookies = none := fun _ =>
    Http.Client.next?_eq_none_of_isSuccess (by decide)
  have hplace : (Proxy.target? (oneWord "content") "/content" none).any (fun url =>
      Http.Client.IsWritable (Http.Client.authorize
        (Proxy.outgoing (seen sample ⟨"7", "", "u"⟩ asksContent) url))) = true := by decide +kernel
  obtain ⟨url, hurl, hwritable⟩ := (Option.any_eq_true _ _).mp hplace
  have htarget := Proxy.target?_eq_some_iff.mp hurl
  have hsent := Http.Client.sent_of_over (fun _ _ => .answer cookies true) _ []
    (of_decide_eq_true hwritable) fun response complete hanswer => by
      cases hanswer
      exact hover _
  have hpath : (seen sample ⟨"7", "", "u"⟩ asksContent).path = "/content" := by decide +kernel
  have hrun : Proxy.runAll sample.contentRoute.requestModifiers
      (seen sample ⟨"7", "", "u"⟩ asksContent) = .ok (seen sample ⟨"7", "", "u"⟩ asksContent) := rfl
  have hsize : ¬(seen sample ⟨"7", "", "u"⟩ asksContent).body.size > Inbound.bodyLimit := by
    decide +kernel
  have hjournal : handedOn.2 = [(Http.Client.authorize
      (Proxy.outgoing (seen sample ⟨"7", "", "u"⟩ asksContent) url), .answer cookies true)] := by
    rw [handedOn, served_eq_shown .none "1" hasked, (answer_of_passesOn .content .none _ _ _).2,
      ofHandler, Action.among_mapError, Proxy.forward, if_neg hsize, Action.among_map,
      Proxy.among_dispatch_of_sent hrun (by rw [hpath]; exact htarget) hsent]
    simp only [List.nil_append]
  obtain ⟨request, hlast⟩ :
      ∃ request, handedOn.2.getLast? = some (request, .answer cookies true) :=
    ⟨_, by rw [hjournal, List.getLast?_singleton]⟩
  refine ⟨request, hasked, rfl, hlast, hover _, ?_⟩
  rw [handedOn] at hlast ⊢
  obtain ⟨-, -, hothers, htype, hconnection, hid⟩ :=
    answer_is_handed_on hasked (.inl rfl) rfl hlast (hover _)
  refine ⟨?_, ?_, hconnection "connection" (by decide), hid⟩
  · rw [hothers "set-cookie" (by decide) (by decide) (by decide)]
    decide
  · rw [htype]
    decide

end Cookies

end Gateway

end ReportGateway
