import ReportGateway.Proofs.Isolation
import ReportGateway.Proofs.Loading
import ReportGateway.Proofs.Routing

/-!
A gateway under one path and under another. What follows the path of a gateway in a request decides
alone which route is taken, what is captured and which path an endpoint sees (`findRoute_append`,
`relativePath_append`), as long as the path is literal: in a target it is neither cut off at a mark nor
read as a capture. Gateways whose settings differ in a literal path then answer alike
(`literal_path_is_invisible`). Settings are accepted with other paths as well, and those do show
(`path_is_seen`).
-/

namespace ReportGateway

namespace Inbound

/-- Nothing in the path of a gateway ends a path or begins a capture or a wildcard. -/
def IsLiteral (path : String) : Prop :=
  ∀ c ∈ path.toList, c ≠ '?' ∧ c ≠ '#' ∧ c ≠ ':' ∧ c ≠ '*'

instance (path : String) : Decidable (IsLiteral path) :=
  decidable_of_iff (path.toList.all fun c => c ≠ '?' && c ≠ '#' && c ≠ ':' && c ≠ '*')
    (by simp [IsLiteral, and_assoc])

theorem IsLiteral.colon_not_mem {path : String} (h : IsLiteral path) : ':' ∉ path.toList :=
  fun hmem => (h _ hmem).2.2.1 rfl

/-- The path and the query of a text that stands behind a path in a target. -/
def splitBelow (below : String) : String × Option String :=
  let shown := below.toList.takeWhile (· ≠ '#')
  (String.ofList (shown.takeWhile (· ≠ '?')),
    match shown.dropWhile (· ≠ '?') with
    | _ :: query => some (String.ofList query)
    | [] => none)

/-- A literal path from the root stands in the path of a target as a whole. -/
theorem splitTarget_append {path : String} (hroot : path.toList.head? = some '/')
    (hliteral : IsLiteral path) (below : String) :
    splitTarget (path ++ below) = (path ++ (splitBelow below).1, (splitBelow below).2) := by
  have hhead : (path ++ below).toList.head? = some '/' := by
    rw [String.toList_append, List.head?_append, hroot]
    rfl
  have hcut (d : Char) (hd : d = '#' ∨ d = '?') :
      ∀ c ∈ path.toList, (decide (c ≠ d)) = true := by
    intro c hc
    obtain ⟨hquery, hfragment, -⟩ := hliteral c hc
    rcases hd with rfl | rfl <;> simpa
  rw [splitTarget, if_pos (Or.inl hhead), if_neg (fun h => h.1.1 hhead), String.toList_append,
    List.takeWhile_append_of_pos (hcut '#' (.inl rfl)),
    List.takeWhile_append_of_pos (hcut '?' (.inr rfl)),
    List.dropWhile_append_of_pos (hcut '?' (.inr rfl)), String.ofList_append, String.ofList_toList]
  rfl

theorem ofTarget_append (method : String) {path : String} (hroot : path.toList.head? = some '/')
    (hliteral : IsLiteral path) (below : String) (headers : Http.Headers) (body : ByteArray) :
    ofTarget method (path ++ below) headers body
      = ⟨method, path ++ (splitBelow below).1, (splitBelow below).2, headers, body, none⟩ := by
  rw [ofTarget, splitTarget_append hroot hliteral]

/-- A target that is a literal path from the root has no query. -/
theorem ofTarget_path (method : String) {path : String} (hroot : path.toList.head? = some '/')
    (hliteral : IsLiteral path) (headers : Http.Headers) (body : ByteArray) :
    ofTarget method path headers body = ⟨method, path, none, headers, body, none⟩ := by
  have hbelow : splitBelow "" = ("", none) := by decide +kernel
  have htarget := ofTarget_append method hroot hliteral "" headers body
  rwa [hbelow, String.append_empty] at htarget

end Inbound

namespace Gateway

section Below

/-- The pieces of a text that stands behind a path: those after its slash, and none if it is empty. -/
def below? (s : String) : Option (List String) :=
  match s.toList with
  | [] => some []
  | '/' :: more => some (pieces (String.ofList more))
  | _ => none

theorem pieces_append_of_below {s : String} {rest : List String} (h : below? s = some rest)
    (path : String) : pieces (path ++ s) = pieces path ++ rest := by
  rw [below?] at h
  split at h
  · rename_i hs
    cases h
    rw [String.toList_eq_nil_iff.mp hs, String.append_empty, List.append_nil]
  · rename_i more hs
    cases h
    have htext : s = "/" ++ String.ofList more := by
      rw [← String.toList_inj, hs, String.toList_append]
      exact congrArg ('/' :: ·) String.toList_ofList.symm
    rw [← pieces_append_slash, String.append_assoc, ← htext]
  · cases h

theorem below?_append_slash (s : String) : below? ("/" ++ s) = some (pieces s) := by
  have hlist : ("/" ++ s).toList = '/' :: s.toList := by
    rw [String.toList_append]
    rfl
  simp only [below?, hlist, String.ofList_toList]

theorem intercalate_pieces (s : String) : "/".intercalate (pieces s) = s := by
  have hslash : "/".toList = ['/'] := rfl
  rw [← String.toList_inj, String.toList_intercalate, hslash, pieces, List.map_map]
  have hsame : String.toList ∘ String.ofList = id := funext fun cs => String.toList_ofList
  rw [hsame, List.map_id, List.intercalate_splitOn]

/-- A text that adds pieces to those of a path, and changes none, is empty or begins with a slash. -/
theorem below_of_pieces {path s : String} {rest : List String}
    (h : pieces (path ++ s) = pieces path ++ rest) : below? s = some rest := by
  have hsome : ∃ own, below? s = some own := by
    have htext := intercalate_pieces (path ++ s)
    rw [h] at htext
    by_cases hrest : rest = []
    · rw [hrest, List.append_nil, intercalate_pieces] at htext
      have hs : s = "" := String.append_eq_left_iff.mp htext.symm
      exact ⟨[], by rw [hs]; rfl⟩
    · rw [String.intercalate_append_of_ne_nil (pieces_ne_nil path) hrest, intercalate_pieces,
        String.append_assoc, String.append_right_inj] at htext
      exact ⟨_, by rw [← htext, below?_append_slash]⟩
  obtain ⟨own, hown⟩ := hsome
  rw [pieces_append_of_below hown, List.append_cancel_left_eq] at h
  rw [hown, h]

end Below

section Fitting

variable {front : List String} (hplain : ∀ s ∈ front, ':' ∉ s.toList)

include hplain

theorem fits_self : Fits (front.map Segment.ofText) front := by
  induction front with
  | nil => exact .nil
  | cons s front ih =>
      rw [List.forall_mem_cons] at hplain
      refine .cons ⟨[], ?_⟩ (ih hplain.2)
      rw [ofText_of_not_mem hplain.1, Segment.fit?]
      exact if_pos rfl

/-- Segments without captures are passed by the pieces that they are written as. -/
theorem fit?_append_self (more : Pattern) (rest : List String) :
    Pattern.fit? (front.map Segment.ofText ++ more) (front ++ rest) = more.fit? rest := by
  induction front with
  | nil => rfl
  | cons s front ih =>
      rw [List.forall_mem_cons] at hplain
      have hself : Segment.fit? ⟨s, none⟩ s = some [] := if_pos rfl
      rw [List.map_cons, List.cons_append, List.cons_append, Pattern.fit?,
        ofText_of_not_mem hplain.1, hself, ih hplain.2]
      simp

theorem eq_append_of_fit? {more : Pattern} {own : List String} {found : List (String × String)}
    (h : Pattern.fit? (front.map Segment.ofText ++ more) own = some found) :
    ∃ rest, own = front ++ rest := by
  induction front generalizing own found with
  | nil => exact ⟨own, rfl⟩
  | cons s front ih =>
      rw [List.forall_mem_cons] at hplain
      obtain ⟨piece, rest, here, later, rfl, hhere, hlater, -⟩ := fit?_cons h
      rw [ofText_of_not_mem hplain.1] at hhere
      obtain ⟨last, rfl⟩ := ih hplain.2 hlater
      exact ⟨last, by rw [(fit?_fixed hhere).1, List.cons_append]⟩

end Fitting

section Finding

theorem below?_place :
    ∀ place ∈ places, below? place.1 = some ((below? place.1).getD []) := by decide +kernel

/-- What the text behind the path of a gateway leads to: a method, an endpoint, and what is captured
for it. -/
def lead? (below : String) : Option (String × Endpoint × List (String × String)) :=
  places.findSome? fun place =>
    ((below? below).bind (Pattern.fit? (((below? place.1).getD []).map Segment.ofText))).map
      (place.2.1, place.2.2, ·)

theorem lead?_eq_none {below : String} (h : below? below = none) : lead? below = none := by
  rw [lead?, List.findSome?_eq_none_iff]
  intro place _
  rw [h]
  rfl

variable {path : String} (hplain : ':' ∉ path.toList)

include hplain

theorem colon_not_mem_of_mem_pieces : ∀ s ∈ pieces path, ':' ∉ s.toList :=
  fun _ hs hcolon => hplain (mem_pieces hs hcolon).2

/-- Whether a path fits a place, and what it captures there, is seen from what follows the path of the
gateway. -/
theorem fit?_place {place : String} {more : List String} (hplace : below? place = some more)
    (below : String) :
    (Pattern.ofText (path ++ place)).fit? (pieces (path ++ below))
      = (below? below).bind (Pattern.fit? (more.map Segment.ofText)) := by
  have hfront := colon_not_mem_of_mem_pieces hplain
  rw [Pattern.ofText, pieces_append_of_below hplace, List.map_append]
  cases hbelow : below? below with
  | some rest => rw [pieces_append_of_below hbelow, fit?_append_self hfront, Option.bind_some]
  | none =>
      rw [Option.bind_none, Option.eq_none_iff_forall_ne_some]
      intro found hfound
      obtain ⟨rest, hrest⟩ := eq_append_of_fit? hfront hfound
      rw [below_of_pieces hrest] at hbelow
      cases hbelow

/-- The route that a request takes has a method and an endpoint that the path of the gateway has no
part in, and neither has it in the captures. -/
theorem findRoute_append (below : String) :
    (findRoute path (path ++ below)).map (fun taken => (taken.1.method, taken.1.endpoint, taken.2))
      = lead? below := by
  rw [findRoute, routes, List.findSome?_map, List.map_findSome?, lead?, ← List.head?_filterMap,
    ← List.head?_filterMap]
  refine congrArg List.head? (List.filterMap_congr fun place hplace => ?_)
  -- The patterns differ by the path of the gateway, but what they capture does not.
  rw [← fit?_place hplain (below?_place place hplace)]
  simp only [Function.comp_apply, Option.map_map]
  rfl

/-- Where a route is found, an endpoint sees what follows the path of the gateway. -/
theorem relativePath_append {below : String} {rest : List String} (h : below? below = some rest) :
    relativePath path (path ++ below) = "/" ++ "/".intercalate rest := by
  refine relativePath_of_fits (fun s hs hcolon => ?_) (pieces_append_of_below h path)
    (fits_self (colon_not_mem_of_mem_pieces hplain))
  exact absurd hcolon (colon_not_mem_of_mem_pieces hplain s hs)

end Finding

section Moving

variable {ε : Type} {g : Gateway} {groups : Content.Groups} {path path' : String}
  (hplain : ':' ∉ path.toList) (hplain' : ':' ∉ path'.toList) (below : String) (r : Inbound)

theorem answer_path (g : Gateway) (path : String) (groups : Content.Groups) (caller : Caller)
    (resource : Resource) (found : List (String × String)) (r : Inbound) :
    answer { g with path } groups caller resource found r
      = answer g groups caller resource found r := by
  cases resource <;> rfl

include hplain hplain'

/-- Under both paths no route is taken, or two with the same method, endpoint and captures. -/
theorem findRoute_cases :
    findRoute path (path ++ below) = none ∧ findRoute path' (path' ++ below) = none ∨
      ∃ pattern pattern' method endpoint found rest,
        findRoute path (path ++ below) = some (⟨pattern, method, endpoint⟩, found) ∧
          findRoute path' (path' ++ below) = some (⟨pattern', method, endpoint⟩, found) ∧
          below? below = some rest := by
  have hlead := findRoute_append hplain below
  have hlead' := findRoute_append hplain' below
  cases hroute : findRoute path (path ++ below) with
  | none =>
      rw [hroute] at hlead
      rw [← hlead] at hlead'
      exact Or.inl ⟨rfl, Option.map_eq_none_iff.mp hlead'⟩
  | some taken =>
      obtain ⟨⟨pattern, method, endpoint⟩, found⟩ := taken
      rw [hroute] at hlead
      rw [← hlead] at hlead'
      obtain ⟨⟨⟨pattern', method', endpoint'⟩, found'⟩, htaken', hsame⟩ :=
        Option.map_eq_some_iff.mp hlead'
      cases hsame
      cases hbelow : below? below with
      | none =>
          rw [lead?_eq_none hbelow] at hlead
          cases hlead
      | some rest => exact Or.inr ⟨_, _, _, _, _, _, rfl, htaken', rfl⟩

theorem route_moved :
    (route { g with path } groups { r with path := path ++ below } : Action ε Http.Response)
      = route { g with path := path' } groups { r with path := path' ++ below } := by
  rcases findRoute_cases hplain hplain' below with ⟨hroute, hroute'⟩ |
      ⟨pattern, pattern', method, endpoint, found, rest, hroute, hroute', hbelow⟩
  · rw [route, route, hroute, hroute']
  · have hon : (onRoute { g with path } groups ⟨pattern, method, endpoint⟩ found
          { r with path := path ++ below } : Action ε Http.Response)
        = onRoute { g with path := path' } groups ⟨pattern', method, endpoint⟩ found
          { r with path := path' ++ below } := by
      cases endpoint with
      | health => rfl
      | resource resource =>
          rw [onRoute, onRoute]
          dsimp only
          rw [relativePath_append hplain hbelow, relativePath_append hplain' hbelow]
          cases caller? r.headers with
          | none => rfl
          | some caller =>
              dsimp only
              rw [answer_path g path, answer_path g path']
    rw [route, route, hroute, hroute']
    dsimp only
    rw [hon]
    rfl

theorem preflight_moved :
    preflight { g with path } { r with path := path ++ below }
      = preflight { g with path := path' } { r with path := path' ++ below } := by
  rcases findRoute_cases hplain hplain' below with ⟨hroute, hroute'⟩ |
      ⟨pattern, pattern', method, endpoint, found, rest, hroute, hroute', -⟩
  · rw [preflight, preflight, hroute, hroute']
  · rw [preflight, preflight, hroute, hroute']
    rfl

theorem respond_moved (id : String) :
    (respond { g with path } groups id { r with path := path ++ below } : Action ε Http.Response)
      = respond { g with path := path' } groups id { r with path := path' ++ below } := by
  rw [respond, respond, identified, identified, route_moved hplain hplain',
    preflight_moved hplain hplain']

omit hplain' in
/-- The path of a gateway leads to the news that it is up, which is for everyone. -/
theorem route_path (hmethod : r.method = "GET") :
    (route { g with path } groups { r with path } : Action ε Http.Response) = return okay [] := by
  have hlead := findRoute_append hplain ""
  have hhealth : lead? "" = some ("GET", .health, []) := by decide +kernel
  rw [String.append_empty, hhealth] at hlead
  obtain ⟨⟨⟨pattern, method, endpoint⟩, found⟩, hroute, hsame⟩ := Option.map_eq_some_iff.mp hlead
  cases hsame
  rw [route, hroute]
  dsimp only
  rw [hmethod]
  rfl

end Moving

section Settings

variable {s : Settings} {g g' : Gateway}

/-- The path of a gateway begins with a slash. -/
theorem head_path (hg : ofSettings s = .ok g) : g.path.toList.head? = some '/' := by
  obtain ⟨-, -, -, -, hpath, hcheck⟩ := ofSettings_eq_ok hg
  rw [hpath]
  exact (Settings.check_eq_ok_iff_ready.mp hcheck).path.head

/-- Settings that differ in the path of the gateway only describe the same gateway under two paths. -/
theorem ofSettings_of_apiPath {apiPath : String} (hg : ofSettings s = .ok g)
    (hg' : ofSettings { s with server := { s.server with apiPath } } = .ok g') :
    g' = { g with path := g'.path } := by
  rw [ofSettings] at hg hg'
  obtain ⟨_, -, hg⟩ := exists_of_bind_eq_ok hg
  obtain ⟨_, -, hg'⟩ := exists_of_bind_eq_ok hg'
  obtain ⟨aggregator, haggregator, hg⟩ := exists_of_bind_eq_ok hg
  obtain ⟨aggregator', haggregator', hg'⟩ := exists_of_bind_eq_ok hg'
  obtain ⟨content, hcontent, hg⟩ := exists_of_bind_eq_ok hg
  obtain ⟨content', hcontent', hg'⟩ := exists_of_bind_eq_ok hg'
  obtain ⟨membership, hmembership, hg⟩ := exists_of_bind_eq_ok hg
  obtain ⟨membership', hmembership', hg'⟩ := exists_of_bind_eq_ok hg'
  cases haggregator.symm.trans haggregator'
  cases hcontent.symm.trans hcontent'
  cases hmembership.symm.trans hmembership'
  cases hg
  cases hg'
  rfl

/-- Of two gateways whose settings differ in the path only, and in a literal one, each answers what
follows its path as the other does, asking the same of the services. At the path itself a gateway tells
everyone that it is up. -/
theorem literal_path_is_invisible {apiPath : String} (hg : ofSettings s = .ok g)
    (hg' : ofSettings { s with server := { s.server with apiPath } } = .ok g')
    (hliteral : Inbound.IsLiteral g.path) (hliteral' : Inbound.IsLiteral g'.path) :
    (∀ (ε : Type) groups id method below headers body,
        (respond g groups id (.ofTarget method (g.path ++ below) headers body) :
            Action ε Http.Response)
          = respond g' groups id (.ofTarget method (g'.path ++ below) headers body)) ∧
      ∀ (ε : Type) groups id headers body, ∃ response, response.status = 200 ∧
        (respond g groups id (.ofTarget "GET" g.path headers body) : Action ε Http.Response)
          = return response := by
  have hplain := hliteral.colon_not_mem
  have hplain' := hliteral'.colon_not_mem
  refine ⟨fun ε groups id method below headers body => ?_, fun ε groups id headers body => ?_⟩
  · rw [Inbound.ofTarget_append _ (head_path hg) hliteral,
      Inbound.ofTarget_append _ (head_path hg') hliteral', ofSettings_of_apiPath hg hg']
    exact respond_moved hplain hplain' _ ⟨method, "", _, headers, body, none⟩ id
  · have hroute : (route g groups (.ofTarget "GET" g.path headers body) :
        Action ε Http.Response) = return okay [] := by
      rw [Inbound.ofTarget_path _ (head_path hg) hliteral]
      exact route_path (g := g) hplain ⟨"GET", "", none, headers, body, none⟩ rfl
    refine ⟨dressed g id (okay []), dressed_status g id _, ?_⟩
    rw [respond_eq_map_route, hroute]
    · rfl
    · rw [Inbound.ofTarget_path _ (head_path hg) hliteral]
      exact fun h => absurd h.2 (show "GET" ≠ "OPTIONS" by decide)

end Settings

section Loopback

/-- Settings of a gateway on its own machine under a path. -/
def loopbackUnder (apiPath : String) : Settings :=
  { loopback with server := { loopback.server with apiPath } }

theorem loopback_path_is_invisible :
    ∃ g g', ofSettings loopback = .ok g ∧ ofSettings (loopbackUnder "/x//") = .ok g' ∧
      g.path = "/api/v1" ∧ g'.path = "/x" ∧
      ∀ (ε : Type) groups id method below headers body,
        (respond g groups id (.ofTarget method ("/api/v1" ++ below) headers body) :
            Action ε Http.Response)
          = respond g' groups id (.ofTarget method ("/x" ++ below) headers body) := by
  have hpath : (ofSettings loopback).toOption.map Gateway.path = some "/api/v1" := by
    decide +kernel
  have hpath' : (ofSettings (loopbackUnder "/x//")).toOption.map Gateway.path = some "/x" := by
    decide +kernel
  cases hg : ofSettings loopback with
  | error e =>
      rw [hg] at hpath
      cases hpath
  | ok g =>
      cases hg' : ofSettings (loopbackUnder "/x//") with
      | error e =>
          rw [hg'] at hpath'
          cases hpath'
      | ok g' =>
          rw [hg] at hpath
          rw [hg'] at hpath'
          have hsame : g.path = "/api/v1" := Option.some.inj hpath
          have hsame' : g'.path = "/x" := Option.some.inj hpath'
          obtain ⟨hboth, -⟩ := literal_path_is_invisible hg hg' (by rw [hsame]; decide)
            (by rw [hsame']; decide)
          rw [hsame, hsame'] at hboth
          exact ⟨g, g', rfl, rfl, hsame, hsame', hboth⟩

/-- The status of what is answered under a path when no service answers. -/
def statusUnder (apiPath target : String) (headers : Http.Headers) : Option Nat := do
  let g ← (ofSettings (loopbackUnder apiPath)).toOption
  let (response, _) := served g (fun _ _ => .silent) (fun _ _ => .ok none) .none "1"
    (.ofTarget "GET" target headers .empty)
  return response.status

/-- A gateway is not found at a path with a question mark, and under one with a colon it has a capture
too many. -/
theorem path_is_seen :
    statusUnder "/api" "/api" [] = some 200 ∧ statusUnder "/api?x" "/api?x" [] = some 404 ∧
      statusUnder "/v" "/v/report/x" (headersOf "7" "u") = some 400 ∧
      statusUnder "/:v" "/:v/report/x" (headersOf "7" "u") = some 500 := by
  decide +kernel

end Loopback

end Gateway

end ReportGateway
