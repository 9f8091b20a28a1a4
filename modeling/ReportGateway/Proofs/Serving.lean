import ReportGateway.Gateway.Serve
import ReportGateway.Proofs.Journal

/-!
From what a client is answered back to what an endpoint answers. `served` carries a request out among
services that remember, from an empty journal. What stands around an endpoint, the route, the id of
the request and the headers for browsers, asks no service (`leftBy_served`) and changes neither the
status nor the body of the answer to a `GET` (`served_of_asked`).
-/

namespace ReportGateway

/-- A URL under which resources of a service can be named. -/
structure Url.IsBase (u : Url) : Prop where
  hasSegments : u.hasSegments = true
  isHttp : u.scheme = "http" ∨ u.scheme = "https"

theorem Settings.isBase_of_baseUrl {field raw : String} {url : Url}
    (h : baseUrl field raw = .ok url) : url.IsBase := by
  rw [baseUrl] at h
  cases hparse : Url.parse (withSlash raw) with
  | error e =>
      rw [hparse] at h
      cases h
  | ok parsed =>
      rw [hparse] at h
      dsimp only at h
      split at h
      · rename_i hbase
        cases h
        exact ⟨hbase.1, hbase.2⟩
      · cases h

namespace Gateway

/-- The services of a gateway that settings describe have bases, and the clusters of an organization
are looked up at the same results store as the reports. -/
structure Configured (g : Gateway) : Prop where
  aggregator : g.aggregator.IsBase
  content : g.content.IsBase
  membership : ∀ base, g.roster.membership = some base → base.IsBase
  roster : g.roster.aggregator = g.aggregator

theorem exists_of_bind_eq_ok {ε α β : Type} {x : Except ε α} {f : α → Except ε β} {y : β}
    (h : (x >>= f) = .ok y) : ∃ a, x = .ok a ∧ f a = .ok y := by
  cases x with
  | error e => cases h
  | ok a => exact ⟨a, rfl, h⟩

theorem ofSettings_eq_ok {s : Settings} {g : Gateway} (h : ofSettings s = .ok g) :
    s.aggregatorUrl = .ok g.aggregator ∧ s.contentUrl = .ok g.content ∧
      s.membershipUrl = .ok g.roster.membership ∧ g.roster.aggregator = g.aggregator ∧
      g.path = s.routePath ∧ s.check = .ok () := by
  rw [ofSettings] at h
  obtain ⟨_, hcheck, h⟩ := exists_of_bind_eq_ok h
  obtain ⟨aggregator, haggregator, h⟩ := exists_of_bind_eq_ok h
  obtain ⟨content, hcontent, h⟩ := exists_of_bind_eq_ok h
  obtain ⟨membership, hmembership, h⟩ := exists_of_bind_eq_ok h
  cases h
  exact ⟨haggregator, hcontent, hmembership, rfl, rfl, hcheck⟩

theorem configured_of_settings {s : Settings} {g : Gateway} (h : ofSettings s = .ok g) :
    Configured g := by
  obtain ⟨haggregator, hcontent, hmembership, hroster, -, -⟩ := ofSettings_eq_ok h
  refine ⟨Settings.isBase_of_baseUrl haggregator, Settings.isBase_of_baseUrl hcontent, ?_, hroster⟩
  intro base hbase
  rw [hbase, Settings.membershipUrl] at hmembership
  cases hurl : s.membership with
  | none =>
      rw [hurl] at hmembership
      cases hmembership
  | some raw =>
      rw [hurl] at hmembership
      dsimp only at hmembership
      cases hread : Settings.baseUrl "membership.url" raw with
      | error e =>
          rw [hread] at hmembership
          cases hmembership
      | ok url =>
          rw [hread] at hmembership
          cases hmembership
          exact Settings.isBase_of_baseUrl hread

/-- A request of a known caller takes the route to a resource, and the route serves its method.
`found` is what the route captures. -/
structure Asked (g : Gateway) (r : Inbound) (caller : Caller) (resource : Resource)
    (found : List (String × String)) : Prop where
  known : caller? r.headers = some caller
  routed : ∃ route, findRoute g.path r.path = some (route, found) ∧
    route.endpoint = .resource resource ∧ route.serves r.method = true

theorem asked_iff {g : Gateway} {r : Inbound} {caller : Caller} {resource : Resource}
    {found : List (String × String)} :
    Asked g r caller resource found ↔ caller? r.headers = some caller ∧
      (findRoute g.path r.path).any (fun taken => taken.2 = found ∧
        taken.1.endpoint = .resource resource ∧ taken.1.serves r.method = true) = true := by
  rw [Option.any_eq_true]
  constructor
  · rintro ⟨hknown, route, hroute, hendpoint, hserves⟩
    exact ⟨hknown, (route, found), hroute, decide_eq_true ⟨rfl, hendpoint, hserves⟩⟩
  · rintro ⟨hknown, ⟨route, captured⟩, hroute, htaken⟩
    obtain ⟨rfl, hendpoint, hserves⟩ := of_decide_eq_true htaken
    exact ⟨hknown, route, hroute, hendpoint, hserves⟩

instance (g : Gateway) (r : Inbound) (caller : Caller) (resource : Resource)
    (found : List (String × String)) : Decidable (Asked g r caller resource found) :=
  decidable_of_iff _ asked_iff.symm

/-- A request has one caller and reaches one resource. -/
theorem Asked.unique {g : Gateway} {r : Inbound} {caller caller' : Caller}
    {resource resource' : Resource} {found found' : List (String × String)}
    (h : Asked g r caller resource found) (h' : Asked g r caller' resource' found') :
    caller = caller' ∧ resource = resource' ∧ found = found' := by
  obtain ⟨hknown, route, hroute, hendpoint, -⟩ := h
  obtain ⟨hknown', route', hroute', hendpoint', -⟩ := h'
  rw [hknown, Option.some.injEq] at hknown'
  rw [hroute, Option.some.injEq, Prod.mk.injEq] at hroute'
  obtain ⟨rfl, rfl⟩ := hroute'
  rw [hendpoint, Endpoint.resource.injEq] at hendpoint'
  exact ⟨hknown', hendpoint', rfl⟩

/-- The headers by which a user of an organization is known. -/
def headersOf (org user : String) : Http.Headers :=
  [(Caller.headerName, String.ofList (Base64.encode (Json.Value.object [("identity",
    .object [("org_id", .string org), ("user", .object [("user_id", .string user)])])]).encode))]

/-- A service that goes by a name of one word. -/
def oneWord (name : String) : Url :=
  ⟨"http", "", none, some (.name name), none, .segments [""], false, none, none⟩

/-- A gateway that looks clusters up at the results store alone. -/
def sample : Gateway where
  path := "/api/v2"
  enableCors := false
  aggregator := oneWord "results"
  content := oneWord "content"
  roster := { aggregator := oneWord "results", membership := none, useFallback := true }
  access := ⟨false, []⟩

/-- A user of organization `7` asks for a place of that gateway. -/
def userAsks (method place : String) (body : ByteArray) : Inbound where
  method := method
  path := "/api/v2" ++ place
  query := none
  headers := headersOf "7" "u"
  body := body
  caller := none

/-- A request as the endpoints see it. -/
def seen (g : Gateway) (caller : Caller) (r : Inbound) : Inbound :=
  { r with path := relativePath g.path r.path, caller := some caller }

/-- The response to what an endpoint came to. -/
def settled : Except Rejection Http.Response → Http.Response
  | .ok response => response
  | .error e => e.response

/-- A response as it goes out: what is said of the head of a resource has no body. -/
def shown (r : Inbound) (response : Http.Response) : Http.Response :=
  if r.method = "HEAD" then withoutBody response else response

theorem shown_of_ne {r : Inbound} (h : r.method ≠ "HEAD") (response : Http.Response) :
    shown r response = response := if_neg h

@[simp] theorem shown_status (r : Inbound) (response : Http.Response) :
    (shown r response).status = response.status := by
  unfold shown
  split <;> rfl

/-- A response with the headers that every answer bears. -/
def dressed (g : Gateway) (id : String) (response : Http.Response) : Http.Response :=
  let named := { response with headers := response.headers.set requestIdHeader id }
  if g.enableCors then openToAll named else named

@[simp] theorem dressed_status (g : Gateway) (id : String) (response : Http.Response) :
    (dressed g id response).status = response.status := by
  cases hcors : g.enableCors <;> simp [dressed, openToAll, hcors]

@[simp] theorem dressed_body (g : Gateway) (id : String) (response : Http.Response) :
    (dressed g id response).body = response.body := by
  cases hcors : g.enableCors <;> simp [dressed, openToAll, hcors]

/-- How a request is answered among services, and the journal that is left. -/
def served (g : Gateway) (v : Services) (content : Content.Lookup) (groups : Content.Groups)
    (id : String) (r : Inbound) : Http.Response × Journal :=
  match (respond g groups id r : Action Empty Http.Response).among v content [] with
  | (.ok response, journal) => (response, journal)
  | (.error e, _) => nomatch e

section Respond

variable {ε : Type} (g : Gateway) (groups : Content.Groups) (id : String) (r : Inbound)

theorem identified_eq_map :
    (identified g groups id r : Action ε Http.Response)
      = (fun response : Http.Response =>
          { response with headers := response.headers.set requestIdHeader id }) <$>
            route g groups r := by
  rw [map_eq_pure_bind]
  rfl

/-- Apart from preflight requests that browsers are let in by, an answer is what the routes decide,
with headers added. -/
theorem respond_eq_map_route (hroutes : ¬(g.enableCors = true ∧ r.method = "OPTIONS")) :
    (respond g groups id r : Action ε Http.Response) = dressed g id <$> route g groups r := by
  cases hcors : g.enableCors with
  | true =>
      rw [respond, if_pos hcors, if_neg fun hmethod => hroutes ⟨hcors, hmethod⟩,
        identified_eq_map, ← comp_map]
      congr 1
      funext response
      simp [dressed, hcors]
  | false =>
      rw [respond, if_neg (by simp [hcors]), identified_eq_map]
      congr 1
      funext response
      simp [dressed, hcors]

theorem concluded_eq_settle (a : Action Rejection Http.Response) :
    (concluded a : Action ε Http.Response) = a.settle fun x => pure (settled x) := by
  rw [concluded]
  congr 1
  funext x
  cases x <;> rfl

variable {g r} {caller : Caller} {resource : Resource} {found : List (String × String)}

theorem onRoute_of_asked {route : Route} (hknown : caller? r.headers = some caller)
    (hendpoint : route.endpoint = .resource resource) :
    (onRoute g groups route found r : Action ε Http.Response)
      = concluded (answer g groups caller resource found (seen g caller r)) := by
  rw [onRoute, hendpoint, hknown]
  rfl

/-- An endpoint is reached by the method of its route, or asked for its head; preflight requests
reach none. -/
theorem Asked.method_ne (hasked : Asked g r caller resource found) : r.method ≠ "OPTIONS" := by
  obtain ⟨-, route, hroute, -, hserves⟩ := hasked
  have hmethods : ∀ place ∈ places, place.2.1 ≠ "OPTIONS" := by decide +kernel
  rw [findRoute] at hroute
  obtain ⟨taken, hmem, hfit⟩ := List.exists_of_findSome?_eq_some hroute
  obtain ⟨_, -, heq⟩ := Option.map_eq_some_iff.mp hfit
  obtain ⟨rfl, rfl⟩ := Prod.mk.inj heq
  obtain ⟨place, hplace, rfl⟩ := List.mem_map.mp hmem
  intro hoptions
  rw [Route.serves, hoptions, Bool.or_eq_true, Bool.and_eq_true, decide_eq_true_eq,
    decide_eq_true_eq] at hserves
  rcases hserves with hsame | ⟨-, hhead⟩
  · exact hmethods place hplace hsame.symm
  · exact absurd hhead (by decide)

theorem respond_of_asked (hasked : Asked g r caller resource found) :
    (respond g groups id r : Action ε Http.Response)
      = (fun response => dressed g id (shown r response)) <$>
          concluded (answer g groups caller resource found (seen g caller r)) := by
  have hroutes : ¬(g.enableCors = true ∧ r.method = "OPTIONS") := fun h => hasked.method_ne h.2
  obtain ⟨hknown, place, hroute, hendpoint, hserves⟩ := hasked
  have hserved : ¬((!place.serves r.method) = true) := by simp [hserves]
  rw [respond_eq_map_route g groups id r hroutes, route, hroute]
  dsimp only
  rw [if_neg hserved, onRoute_of_asked groups hknown hendpoint]
  by_cases hhead : r.method = "HEAD"
  · simp only [shown, if_pos hhead]
    exact (comp_map withoutBody (dressed g id) _).symm
  · simp only [shown, if_neg hhead]

/-- What is answered is what the endpoint comes to, with headers added and without the body where
only the head is asked for; the journal is what the endpoint leaves. -/
theorem served_eq_shown (hasked : Asked g r caller resource found) (v : Services)
    (content : Content.Lookup) :
    served g v content groups id r
      = (dressed g id (shown r (settled
          ((answer g groups caller resource found (seen g caller r)).among v content []).1)),
        ((answer g groups caller resource found (seen g caller r)).among v content []).2) := by
  rw [served, respond_of_asked groups id hasked, concluded_eq_settle, Action.among_map,
    Action.among_settle, Action.among_pure]
  rfl

/-- The answer to a `GET` is what the endpoint comes to, with headers added; the journal is what the
endpoint leaves. -/
theorem served_of_asked (hasked : Asked g r caller resource found) (hget : r.method = "GET")
    (v : Services) (content : Content.Lookup) :
    served g v content groups id r
      = (dressed g id (settled
          ((answer g groups caller resource found (seen g caller r)).among v content []).1),
        ((answer g groups caller resource found (seen g caller r)).among v content []).2) := by
  rw [served_eq_shown groups id hasked, shown_of_ne (by rw [hget]; decide)]

/-- What the routes decide on their own is answered without a question to services. -/
theorem served_of_route {response : Http.Response}
    (hroutes : ¬(g.enableCors = true ∧ r.method = "OPTIONS"))
    (hroute : route g groups r = (pure response : Action Empty Http.Response)) (v : Services)
    (content : Content.Lookup) :
    served g v content groups id r = (dressed g id response, []) := by
  rw [served, respond_eq_map_route g groups id r hroutes, hroute, Action.among_map,
    Action.among_pure]
  rfl

theorem snd_served (g : Gateway) (r : Inbound) (v : Services) (content : Content.Lookup) :
    (served g v content groups id r).2
      = ((respond g groups id r : Action Empty Http.Response).among v content []).2 := by
  rw [served]
  rcases (respond g groups id r : Action Empty Http.Response).among v content [] with
    ⟨response | e, journal⟩
  · exact response.elim
  · rfl

end Respond

section Journals

variable {E : Type} (g : Gateway) (groups : Content.Groups) (r : Inbound) (v : Services)
  (content : Content.Lookup) (journal : Journal)

/-- The journal after a request: as it was, or as the endpoint that the request reaches leaves it. -/
def LeftBy (later : Journal) : Prop :=
  later = journal ∨ ∃ caller resource found, Asked g r caller resource found ∧
    later = ((answer g groups caller resource found (seen g caller r)).among v content journal).2

variable {g r} in
theorem leftBy_onRoute {route : Route} {found : List (String × String)}
    (hroute : findRoute g.path r.path = some (route, found))
    (hserves : route.serves r.method = true) :
    LeftBy g groups r v content journal
      ((onRoute g groups route found r : Action E Http.Response).among v content journal).2 := by
  cases hendpoint : route.endpoint with
  | health =>
      rw [onRoute, hendpoint]
      exact Or.inl rfl
  | resource resource =>
      cases hknown : caller? r.headers with
      | none =>
          rw [onRoute, hendpoint, hknown]
          exact Or.inl rfl
      | some caller =>
          refine Or.inr ⟨caller, resource, found, ⟨hknown, route, hroute, hendpoint, hserves⟩, ?_⟩
          rw [onRoute_of_asked groups hknown hendpoint, concluded_eq_settle, Action.among_settle,
            Action.among_pure]

theorem leftBy_route :
    LeftBy g groups r v content journal
      ((route g groups r : Action E Http.Response).among v content journal).2 := by
  cases hroute : findRoute g.path r.path with
  | none =>
      rw [route, hroute]
      exact Or.inl rfl
  | some taken =>
      obtain ⟨place, found⟩ := taken
      rw [route, hroute]
      dsimp only
      by_cases hserves : place.serves r.method = true
      · have hleft := leftBy_onRoute (E := E) groups v content journal hroute hserves
        rw [if_neg (by simp [hserves])]
        by_cases hhead : r.method = "HEAD"
        · rw [if_pos hhead, Action.among_map]
          exact hleft
        · rw [if_neg hhead]
          exact hleft
      · rw [if_pos (by simp [hserves])]
        exact Or.inl rfl

/-- Whatever is asked of services for a request is asked by the endpoint that it reaches. -/
theorem leftBy_served (id : String) :
    LeftBy g groups r v content [] (served g v content groups id r).2 := by
  rw [snd_served]
  by_cases hpreflight : g.enableCors = true ∧ r.method = "OPTIONS"
  · rw [respond, if_pos hpreflight.1, if_pos hpreflight.2]
    exact Or.inl rfl
  · rw [respond_eq_map_route g groups id r hpreflight, Action.among_map]
    exact leftBy_route (E := Empty) g groups r v content []

end Journals

end Gateway

end ReportGateway
