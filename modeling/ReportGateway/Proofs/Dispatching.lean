import ReportGateway.Proxy
import ReportGateway.Proofs.Exchange

/-!
What comes of passing a request on, whatever its modifiers are. `Chain` tells how modifiers run: each
is given what the one before it has made, up to the first that fails, and what was given has one entry
for each modifier that was run. `Dispatched` has one constructor for each way of passing a request on:
nothing is sent when a modifier refuses it or it cannot be written, and otherwise one request, which
conveys what the modifiers have made of it. The modifiers of responses run only on an answer that
arrived whole. A base URL without a user name and password leaves the headers to the modifiers, since a
path that follows a dot never names a place of its own (`login_of_join`).
-/

namespace ReportGateway

namespace Url

section Login

variable (u : Url)

/-- The user name and password of a URL. -/
def login : String × Option String := (u.username, u.password)

theorem login_withSegments (path : List String) : (withSegments u path).login = u.login := rfl

theorem login_withQuery (cs : List Char) : (withQuery u cs).login = u.login := by
  unfold withQuery
  extract_lets
  split <;> rfl

theorem login_setQuery (query : Option String) : (u.setQuery query).login = u.login := rfl

end Login

section Dotted

theorem significant_of_dot (s : String) : ∃ more, significant ("." ++ s) = '.' :: more := by
  have htext : ("." ++ s).toList = '.' :: s.toList := by
    rw [String.toList_append]
    rfl
  have hfront : ('.' :: s.toList).dropWhile isTrimmed = '.' :: s.toList :=
    List.dropWhile_cons_of_neg (by decide)
  rw [significant, htext, hfront, List.reverse_cons, List.dropWhile_append]
  split
  · exact ⟨[], by decide⟩
  · rw [List.reverse_append, List.reverse_singleton, List.singleton_append,
      List.filter_cons_of_pos (by decide)]
    exact ⟨_, rfl⟩

theorem scheme?_of_dot (more : List Char) : scheme? ('.' :: more) = none := by
  rw [scheme?]
  split
  · rw [if_neg (by decide)]
  · rfl

theorem isSlash_dot (special : Bool) : isSlash special '.' = false := by
  cases special <;> decide

theorem startsWithDrive_of_dot (more : List Char) : startsWithDrive ('.' :: more) = false := by
  cases more <;> rfl

theorem login_relativeTo {base url : Url} {path : List String} {more : List Char}
    (h : relativeTo base path ('.' :: more) = .ok url) : url.login = base.login := by
  rw [relativeTo] at h
  · dsimp only at h
    rw [isSlash_dot] at h
    cases h
    exact (login_withQuery _ _).trans (login_withSegments _ _)
  · decide
  · decide

theorem login_ofFile {base url : Url} {more : List Char}
    (h : ofFile (some base) ('.' :: more) = .ok url) : url.login = base.login := by
  rw [ofFile] at h
  · dsimp only at h
    rw [isSlash_dot, startsWithDrive_of_dot] at h
    cases h
    exact (login_withQuery _ _).trans (login_withSegments _ _)
  · decide
  · decide

/-- What a text that begins with a dot names as seen from a URL has the login of that. -/
theorem login_of_join {base url : Url} {s : String} (h : base.join ("." ++ s) = .ok url) :
    url.login = base.login := by
  obtain ⟨more, hmore⟩ := significant_of_dot s
  rw [join, read, hmore, scheme?_of_dot] at h
  dsimp only at h
  split at h
  · cases h
  · split at h
    · exact login_ofFile h
    · exact login_relativeTo h

end Dotted

end Url

namespace Http

namespace Headers

variable {names : List String} {name : String} (h : Headers)

theorem values_without_of_mem (hname : name ∈ names) : (h.without names).values name = [] := by
  rw [values, without, List.filter_filter, List.map_eq_nil_iff, List.filter_eq_nil_iff]
  rintro ⟨n, value⟩ -
  by_cases hn : n = name <;> simp [hn, hname]

theorem values_without_of_not_mem (hname : name ∉ names) :
    (h.without names).values name = h.values name := by
  rw [values, values, without, List.filter_filter]
  congr 1
  refine List.filter_congr ?_
  rintro ⟨n, value⟩ -
  by_cases hn : n = name <;> simp [hn, hname]

end Headers

/-- A request whose URL has no login is authorized as it is. -/
theorem Client.authorize_of_login {r : Request} (h : r.url.login = ("", none)) :
    authorize r = r := by
  obtain ⟨husername, hpassword⟩ := Prod.mk.inj h
  have hnone : credentials? r.url = none := by
    rw [credentials?, husername, hpassword]
    decide +kernel
  rw [authorize, hnone]

/-- A request that cannot be written is not sent. -/
theorem Client.sent_of_unwritable {v : Services} {journal : Journal} {r : Request}
    (h : ¬IsWritable (authorize r)) : sent v r journal = (.unbuildable, journal) := by
  rw [sent, send, if_neg (by simpa [IsWritable] using h)]
  rfl

end Http

namespace Proxy

section Chain

variable {α : Type}

/-- Modifiers that run from a message: what they are given, each that is run, and how they end. -/
inductive Chain : List (α → Except Failure α) → α → List α → Except Failure α → Prop
  | done (x : α) : Chain [] x [] (.ok x)
  | refused {m : α → Except Failure α} {more : List (α → Except Failure α)} {x : α} {e : Failure}
      (h : m x = .error e) : Chain (m :: more) x [x] (.error e)
  | passed {m : α → Except Failure α} {more : List (α → Except Failure α)} {x y : α} {given : List α}
      {result : Except Failure α} (h : m x = .ok y) (hrest : Chain more y given result) :
      Chain (m :: more) x (x :: given) result

theorem exists_chain (modifiers : List (α → Except Failure α)) (x : α) :
    ∃ given, Chain modifiers x given (runAll modifiers x) := by
  induction modifiers generalizing x with
  | nil => exact ⟨[], .done x⟩
  | cons m more ih =>
      rw [runAll, List.foldlM_cons]
      cases hm : m x with
      | error e => exact ⟨[x], .refused hm⟩
      | ok y =>
          obtain ⟨given, hgiven⟩ := ih y
          exact ⟨x :: given, .passed hm hgiven⟩

end Chain

section Dispatch

/-- A request for a service conveys a message: its method, its body and, but for the headers that
describe the connection, the values of its headers in their order. -/
structure Conveys (r : Inbound) (request : Http.Request) : Prop where
  method : request.method = r.method
  body : request.body = r.body
  kept : ∀ name ∉ connectionHeaders, request.headers.values name = r.headers.values name
  dropped : ∀ name ∈ connectionHeaders, request.headers.values name = []

/-- A message from a client is passed on: what the modifiers of requests are given, the exchanges with
the service, what the modifiers of responses are given, and the end. -/
inductive Dispatched (route : Route) (r : Inbound) :
    List Inbound → Journal → List Http.Response → Except Failure Http.Response → Prop
  | refused {given : List Inbound} {e : Failure}
      (hchain : Chain route.requestModifiers r given (.error e)) :
      Dispatched route r given [] [] (.error e)
  | nowhere {given : List Inbound} {last : Inbound} {detail : String}
      (hchain : Chain route.requestModifiers r given (.ok last))
      (htarget : target route.base last.path last.query = .error (.internal detail)) :
      Dispatched route r given [] [] (.error (.internal detail))
  | unwritable {given : List Inbound} {last : Inbound} {request : Http.Request}
      (hchain : Chain route.requestModifiers r given (.ok last))
      (htarget : target? route.base last.path last.query = some request.url)
      (hconveys : Conveys last request) (hwritable : ¬Http.Client.IsWritable request) :
      Dispatched route r given [] [] (.error .unwritable)
  | broken {given : List Inbound} {last : Inbound} {request : Http.Request} {reply : Http.Reply}
      (hchain : Chain route.requestModifiers r given (.ok last))
      (htarget : target? route.base last.path last.query = some request.url)
      (hconveys : Conveys last request) (hwritable : Http.Client.IsWritable request)
      (hreply : reply.IsUnanswered ∨ ∃ response, reply = .answer response false) :
      Dispatched route r given [(request, reply)] [] (.error (.unavailable route.service))
  | answered {given : List Inbound} {last : Inbound} {request : Http.Request}
      {response : Http.Response} {given' : List Http.Response} {result : Except Failure Http.Response}
      (hchain : Chain route.requestModifiers r given (.ok last))
      (htarget : target? route.base last.path last.query = some request.url)
      (hconveys : Conveys last request) (hwritable : Http.Client.IsWritable request)
      (hchain' : Chain route.responseModifiers response given' result) :
      Dispatched route r given [(request, .answer response true)] given' result

variable {route : Route}

theorem target?_eq_some_iff {base url : Url} {path : String} {query : Option String} :
    target? base path query = some url ↔ target base path query = .ok url := by
  rw [target?]
  cases target base path query with
  | error e => exact ⟨fun h => (by cases h), fun h => (by cases h)⟩
  | ok url =>
      exact ⟨fun h => congrArg Except.ok (Option.some.inj h),
        fun h => congrArg some (Except.ok.inj h)⟩

/-- A path that has no place is wrong inside the gateway. -/
theorem exists_internal_of_target {base : Url} {path : String} {query : Option String} {e : Failure}
    (h : target base path query = .error e) : ∃ detail, e = .internal detail := by
  rw [target] at h
  cases hjoin : base.join ("./" ++ String.ofList (path.toList.dropWhile (· = '/'))) with
  | error why =>
      rw [hjoin] at h
      exact ⟨_, (Except.error.inj h).symm⟩
  | ok joined =>
      rw [hjoin] at h
      cases h

theorem login_of_target? {base url : Url} {path : String} {query : Option String}
    (h : target? base path query = some url) : url.login = base.login := by
  rw [target?_eq_some_iff, target] at h
  cases hjoin : base.join ("./" ++ String.ofList (path.toList.dropWhile (· = '/'))) with
  | error e =>
      rw [hjoin] at h
      cases h
  | ok joined =>
      rw [hjoin] at h
      cases h
      have htext : "./" ++ String.ofList (path.toList.dropWhile (· = '/'))
          = "." ++ ("/" ++ String.ofList (path.toList.dropWhile (· = '/'))) := by
        rw [← String.append_assoc]
        rfl
      rw [htext] at hjoin
      exact (Url.login_setQuery joined query).trans (Url.login_of_join hjoin)

/-- The request that passes a message on. -/
def outgoing (last : Inbound) (url : Url) : Http.Request :=
  { method := last.method, url, headers := last.headers.without connectionHeaders, body := last.body }

theorem conveys_outgoing (last : Inbound) (url : Url) : Conveys last (outgoing last url) where
  method := rfl
  body := rfl
  kept _ hname := last.headers.values_without_of_not_mem hname
  dropped _ hname := last.headers.values_without_of_mem hname

section Passing

variable {v : Services} {content : Content.Lookup} {journal : Journal} {r last : Inbound}

theorem among_dispatch_of_refused {e : Failure} (h : runAll route.requestModifiers r = .error e) :
    (dispatch route r).among v content journal = (.error e, journal) := by
  rw [dispatch, Action.among_bind, h]
  rfl

theorem among_dispatch_of_nowhere (h : runAll route.requestModifiers r = .ok last) {e : Failure}
    (htarget : target route.base last.path last.query = .error e) :
    (dispatch route r).among v content journal = (.error e, journal) := by
  rw [dispatch, Action.among_bind, h]
  dsimp only [Action.among_done]
  rw [htarget]
  rfl

theorem among_dispatch_of_sent (h : runAll route.requestModifiers r = .ok last) {url : Url}
    (htarget : target route.base last.path last.query = .ok url) {outcome : Http.Outcome}
    {later : Journal} (hsent : Http.Client.sent v (outgoing last url) journal = (outcome, later)) :
    (dispatch route r).among v content journal
      = ((interpret route.service outcome).bind (runAll route.responseModifiers), later) := by
  rw [dispatch, Action.among_bind, h]
  dsimp only [Action.among_done]
  rw [htarget, Action.among_bind]
  dsimp only [Action.among_done]
  rw [Action.among_bind, Http.Client.among_send]
  rw [outgoing] at hsent
  rw [hsent]
  dsimp only
  rw [Action.among_bind, Action.among_done]
  cases interpret route.service outcome <;> rfl

end Passing

/-- A message is passed on as `Dispatched` says, whatever its modifiers are and whatever the services
do, as long as the base has no login and no answer sends the gateway elsewhere. -/
theorem dispatch_follows_modifiers {v : Services} (husername : route.base.username = "")
    (hpassword : route.base.password = none)
    (hover : ∀ journal request response complete, v journal request = .answer response complete →
      Http.Client.next? request response = none)
    (content : Content.Lookup) (journal : Journal) (r : Inbound) :
    ∃ given made given', ((dispatch route r).among v content journal).2 = journal ++ made ∧
      Dispatched route r given made given' ((dispatch route r).among v content journal).1 := by
  obtain ⟨given, hchain⟩ := exists_chain route.requestModifiers r
  cases hlast : runAll route.requestModifiers r with
  | error e =>
      rw [hlast] at hchain
      rw [among_dispatch_of_refused hlast]
      exact ⟨given, [], [], (List.append_nil _).symm, .refused hchain⟩
  | ok last =>
      rw [hlast] at hchain
      cases hplace : target route.base last.path last.query with
      | error e =>
          obtain ⟨detail, rfl⟩ := exists_internal_of_target hplace
          rw [among_dispatch_of_nowhere hlast hplace]
          exact ⟨given, [], [], (List.append_nil _).symm, .nowhere hchain hplace⟩
      | ok url =>
          have htarget := target?_eq_some_iff.mpr hplace
          -- A login in the URL would be sent as a header that the modifiers know nothing of.
          have hsame : Http.Client.authorize (outgoing last url) = outgoing last url := by
            refine Http.Client.authorize_of_login ((login_of_target? htarget).trans ?_)
            rw [Url.login, husername, hpassword]
          have hconveys := conveys_outgoing last url
          by_cases hwritable : Http.Client.IsWritable (outgoing last url)
          · have hsent := Http.Client.sent_of_over v (outgoing last url) journal
            rw [hsame] at hsent
            rw [among_dispatch_of_sent hlast hplace
              (hsent hwritable fun response complete => hover _ _ response complete)]
            cases hreply : v journal (outgoing last url) with
            | unreachable =>
                exact ⟨given, _, [], rfl, .broken hchain htarget hconveys hwritable (.inl trivial)⟩
            | silent =>
                exact ⟨given, _, [], rfl, .broken hchain htarget hconveys hwritable (.inl trivial)⟩
            | answer response complete =>
                cases complete with
                | false =>
                    exact ⟨given, _, [], rfl,
                      .broken hchain htarget hconveys hwritable (.inr ⟨response, rfl⟩)⟩
                | true =>
                    obtain ⟨given', hchain'⟩ := exists_chain route.responseModifiers response
                    exact ⟨given, _, given', rfl,
                      .answered hchain htarget hconveys hwritable hchain'⟩
          · have hsent : Http.Client.sent v (outgoing last url) journal = (.unbuildable, journal) :=
              Http.Client.sent_of_unwritable (by rwa [hsame])
            rw [among_dispatch_of_sent hlast hplace hsent]
            exact ⟨given, [], [], (List.append_nil _).symm,
              .unwritable hchain htarget hconveys hwritable⟩

/-- Names the user in the path, marks the request and then the response, and refuses that. -/
def marking : Route where
  service := .aggregator
  base :=
    { scheme := "http", username := "", password := none, host := some (.name "store"),
      port := some 8080, path := .segments ["api", ""], guarded := false, query := none,
      fragment := none }
  requestModifiers :=
    [insertUser, fun r => .ok { r with headers := r.headers.add "x-mark" r.path }]
  responseModifiers :=
    [fun response => .ok { response with headers := response.headers.add "x-mark" "seen" },
      fun response => .error (.relayed response.status response.body)]

/-- A request about a rule, with two values of a header and the name of another host. -/
def likeTwice : Inbound where
  method := "PUT"
  path := "/rules/r/like"
  query := some "n=2"
  headers := [("x-note", "a"), ("host", "gateway"), ("x-note", "b")]
  body := .empty
  caller := some { org := "1", account := "2", user := "u" }

theorem dispatch_follows_marking :
    ∃ given made given', ((dispatch marking likeTwice).among
        (fun _ _ => .answer ⟨200, [], .empty⟩ true) Content.Directory.empty.lookup []).2 = made ∧
      Dispatched marking likeTwice given made given' ((dispatch marking likeTwice).among
        (fun _ _ => .answer ⟨200, [], .empty⟩ true) Content.Directory.empty.lookup []).1 ∧
      made.map (fun exchange => (exchange.1.url.text, exchange.1.headers))
        = [("http://store:8080/api/rules/r/users/u/like?n=2",
          [("x-note", "a"), ("x-note", "b"), ("x-mark", "/rules/r/users/u/like")])] := by
  have hover : ∀ (journal : Journal) (request : Http.Request) response complete,
      Http.Reply.answer ⟨200, [], .empty⟩ true = .answer response complete →
        Http.Client.next? request response = none := by
    rintro journal request response complete ⟨⟩
    exact Http.Client.next?_eq_none_of_isSuccess (by decide)
  have husername : marking.base.username = "" := rfl
  obtain ⟨given, made, given', hmade, hdispatched⟩ := dispatch_follows_modifiers husername rfl hover
    Content.Directory.empty.lookup [] likeTwice
  rw [List.nil_append] at hmade
  refine ⟨given, made, given', hmade, hdispatched, ?_⟩
  rw [← hmade]
  decide +kernel

end Dispatch

end Proxy

end ReportGateway
