import ReportGateway.Proofs.Segments
import ReportGateway.Proofs.Serving

/-!
Whom the gateway asks on behalf of whom. Every question to the results store or the membership
service has a `Form`, whose texts are to stand in the path as whole segments under the base of the
service. They do exactly when all of them are plain; a text that is a dot or two dots, or has a tab or
a line break in it, is lost or becomes another (`Form.Addressed`). A base itself names its stem, with
at most two empty pieces after it (`Url.decoded_eq_stem`). Redirects aside, a request to the gateway
leads to questions of the forms that it serves and to no other (`calls_are_addressed`), and questions
whose texts are plain name the same place only for one organization (`org_eq_of_decoded`).
-/

namespace ReportGateway

open ReportGateway.Action (Keeps keeps_done keeps_pure keeps_fail keeps_contentOf)
open Journal (OnlyAsks onlyAsks_nil)
open Url (Plain Template IsBase)

/-- A question to the results store or the membership service, with the texts that it is about. -/
inductive Form
  | listing (org : String)
  | reportsOfPayload (org : String)
  | reportsOfList (org list : String)
  | report (org cluster user : String)
  | info (org cluster user : String)
  | rule (org cluster user selector : String)

namespace Form

def org : Form → String
  | .listing org => org
  | .reportsOfPayload org => org
  | .reportsOfList org _ => org
  | .report org _ _ => org
  | .info org _ _ => org
  | .rule org _ _ _ => org

def params : Form → List String
  | .listing org => [org]
  | .reportsOfPayload org => [org]
  | .reportsOfList org list => [org, list]
  | .report org cluster user => [org, cluster, user]
  | .info org cluster user => [org, cluster, user]
  | .rule org cluster user selector => [org, cluster, user, selector]

def template : Form → Template
  | .listing _ => Aggregator.listingTemplate
  | .reportsOfPayload _ => Aggregator.payloadTemplate
  | .reportsOfList _ _ => Aggregator.reportsTemplate
  | .report _ _ _ => Aggregator.reportTemplate
  | .info _ _ _ => Aggregator.infoTemplate
  | .rule _ _ _ _ => Aggregator.ruleTemplate

/-- The segments that a question is to have under the base of a service. -/
def segments : Form → List String
  | .listing org => ["organizations", org, "clusters"]
  | .reportsOfPayload org => ["organizations", org, "clusters", "reports"]
  | .reportsOfList org list => ["organizations", org, "clusters", list, "reports"]
  | .report org cluster user => ["organizations", org, "clusters", cluster, "users", user, "report"]
  | .info org cluster user =>
    ["organizations", org, "clusters", cluster, "users", user, "report", "info"]
  | .rule org cluster user selector =>
    ["organizations", org, "clusters", cluster, "users", user, "rules", selector]

/-- All texts of a question are plain. -/
def IsPlain (f : Form) : Prop := ∀ p ∈ f.params, Plain p

instance (f : Form) : Decidable f.IsPlain := inferInstanceAs (Decidable (∀ p ∈ f.params, Plain p))

/-- A request goes to a service, and its path names the segments of a question under the base of the
service if and only if the texts of the question are plain. -/
def Addressed (f : Form) (base : Url) (request : Http.Request) : Prop :=
  request.url.scheme = base.scheme ∧ request.url.host = base.host ∧ request.url.port = base.port ∧
    (request.url.path.decoded
        = (Url.Path.segments base.stem).decoded ++ f.segments.map Utf8.encode ↔ f.IsPlain)

theorem fill?_template (f : Form) : f.template.fill? f.params = some f.segments := by
  cases f <;> rfl

theorem segments_eq_cons (f : Form) :
    ∃ texts, f.segments = "organizations" :: texts ∧ ((∀ s ∈ texts, Plain s) ↔ f.IsPlain) := by
  have hclusters : Plain "clusters" := by decide
  have husers : Plain "users" := by decide
  have hreports : Plain "reports" := by decide
  have hreport : Plain "report" := by decide
  have hinfo : Plain "info" := by decide
  have hrules : Plain "rules" := by decide
  cases f <;> exact ⟨_, rfl, by simp [IsPlain, params, *]⟩

theorem org_mem_segments (f : Form) : ∃ rest, f.segments = "organizations" :: f.org :: rest := by
  cases f <;> exact ⟨_, rfl⟩

/-- Under one base, questions of plain texts name the same place only for one organization. -/
theorem org_eq_of_decoded {f f' : Form} {base : Url} {request request' : Http.Request}
    (h : f.Addressed base request) (h' : f'.Addressed base request') (hplain : f.IsPlain)
    (hplain' : f'.IsPlain) (hsame : request.url.path.decoded = request'.url.path.decoded) :
    f.org = f'.org := by
  obtain ⟨-, -, -, hpath⟩ := h
  obtain ⟨-, -, -, hpath'⟩ := h'
  obtain ⟨rest, hrest⟩ := f.org_mem_segments
  obtain ⟨rest', hrest'⟩ := f'.org_mem_segments
  rw [hpath.mpr hplain, hpath'.mpr hplain', List.append_cancel_left_eq, hrest, hrest'] at hsame
  simp only [List.map_cons, List.cons.injEq] at hsame
  exact Utf8.encode_injective hsame.2.1

end Form

section Asking

variable {P : Http.Request → Prop} {v : Services} {content : Content.Lookup} {base : Url}

theorem Http.Client.authorize_url (r : Request) :
    (authorize r).url.scheme = r.url.scheme ∧ (authorize r).url.host = r.url.host ∧
      (authorize r).url.port = r.url.port ∧ (authorize r).url.path = r.url.path ∧
      (authorize r).url.query = r.url.query := by
  rw [authorize]
  cases credentials? r.url with
  | none => exact ⟨rfl, rfl, rfl, rfl, rfl⟩
  | some found => exact ⟨rfl, rfl, rfl, rfl, rfl⟩

/-- A request for the URL that the texts of a question make with its template is addressed. The query
may be any. -/
theorem Form.addressed_of_resource (f : Form) (hbase : base.IsBase) {url : Url}
    (hurl : base.resource? f.template f.params = some url) {r : Http.Request}
    (hr : r.url = { url with query := r.url.query }) :
    f.Addressed base (Http.Client.authorize r) := by
  obtain ⟨texts, hsegments, hplain⟩ := f.segments_eq_cons
  have hfill := f.fill?_template
  rw [hsegments] at hfill
  obtain ⟨heq, hpath⟩ := Url.resource?_spec hbase.isHttp hurl hfill (by decide) (by decide)
  obtain ⟨hscheme, hhost, hport, hkept, -⟩ := Http.Client.authorize_url r
  rw [Form.Addressed, hscheme, hhost, hport, hkept, hr, heq]
  exact ⟨rfl, rfl, rfl, by rw [hsegments, ← hplain, ← hpath]⟩

theorem keeps_ask {α : Type} (f : Form) (hbase : base.IsBase)
    (hP : ∀ request, f.Addressed base request → P request) (payload : Option ByteArray)
    (read : Json.Read α) :
    Keeps P v content (Aggregator.ask base f.template f.params payload read) := by
  rw [Aggregator.ask]
  cases hurl : base.resource? f.template f.params with
  | none => exact keeps_fail _
  | some url =>
      refine (Http.Client.keeps_send (hP _ ?_)).bind fun _ => keeps_done _
      refine f.addressed_of_resource hbase hurl ?_
      cases payload <;> rfl

theorem keeps_membership {org : String} (hbase : base.IsBase)
    (hP : ∀ request, (Form.listing org).Addressed base request → P request)
    (excluded : List String) : Keeps P v content (Membership.clusters base org excluded) := by
  rw [Membership.clusters, Membership.listing?]
  cases hurl : base.resource? Membership.template [org] with
  | none => exact keeps_fail _
  | some url =>
      refine (Http.Client.keeps_send (hP _ ?_)).bind fun _ => keeps_done _
      refine Form.addressed_of_resource (.listing org) hbase hurl ?_
      show (if _ then _ else _) = _
      split <;> rfl

end Asking

theorem Visibility.keeps_filter {P : Http.Request → Prop} {v : Services} {content : Content.Lookup}
    (p : Policy) (hits : List RuleHit) : Keeps P v content (filter p hits) := by
  induction hits with
  | nil => exact keeps_pure _
  | cons h hits ih =>
      rw [filter]
      split
      · exact ih.bind fun _ => keeps_pure _
      · exact (keeps_contentOf _ _).bind fun _ => ih.bind fun _ => keeps_pure _

theorem Overview.keeps_ofHits {P : Http.Request → Prop} {v : Services} {content : Content.Lookup}
    (hits : List RuleHit) : Keeps P v content (Overview.ofHits hits) := by
  induction hits with
  | nil => exact keeps_pure _
  | cons h hits ih =>
      rw [Overview.ofHits]
      exact ((keeps_contentOf _ _).mapError _).bind fun _ => ih.bind fun _ => keeps_pure _

namespace Gateway

/-- The base of a service, if the gateway has one. -/
def base? (g : Gateway) : Service → Option Url
  | .aggregator => some g.aggregator
  | .content => some g.content
  | .membership => g.roster.membership

/-- The questions that a resource is served with, for what the route has captured. The clusters of an
overview are those that its own look-up of the organization's clusters comes to. -/
inductive Serves (g : Gateway) (v : Services) (content : Content.Lookup) (caller : Caller)
    (found : List (String × String)) : Resource → Service → Form → Prop
  | clusters (service : Service) (hservice : service ≠ .content) :
    Serves g v content caller found .clusters service (.listing caller.org)
  | clustersOfOverview (service : Service) (hservice : service ≠ .content) :
    Serves g v content caller found .overview service (.listing caller.org)
  | reportsOfPayload :
    Serves g v content caller found .reportsOfPayload .aggregator (.reportsOfPayload caller.org)
  | reportsOfList {raw : String} {ids : List Uuid} (hraw : capture found = .ok raw)
      (hids : Uuid.parseList? raw = some ids) :
    Serves g v content caller found .reportsOfList .aggregator
      (.reportsOfList caller.org (",".intercalate (ids.map Uuid.text)))
  | report {raw : String} {id : Uuid} (hraw : capture found = .ok raw)
      (hid : Uuid.parse? raw = some id) :
    Serves g v content caller found .report .aggregator (.report caller.org id.text caller.user)
  | reportInfo {raw : String} {id : Uuid} (hraw : capture found = .ok raw)
      (hid : Uuid.parse? raw = some id) :
    Serves g v content caller found .reportInfo .aggregator (.info caller.org id.text caller.user)
  | rule {raw rawSelector : String} {id : Uuid} (hraw : captures found = .ok (raw, rawSelector))
      (hid : Uuid.parse? raw = some id) :
    Serves g v content caller found .rule .aggregator
      (.rule caller.org id.text caller.user rawSelector)
  | overview {ids : List String} {later : Journal} {cluster : String}
      (hids : (g.roster.clusterIds caller.org).among v content [] = (.ok ids, later))
      (hcluster : cluster ∈ ids) :
    Serves g v content caller found .overview .aggregator (.report caller.org cluster caller.user)

/-- A request is a question that a request of a caller to the gateway is served with. -/
def IsCall (g : Gateway) (r : Inbound) (v : Services) (content : Content.Lookup)
    (request : Http.Request) : Prop :=
  ∃ caller resource found service base f, Asked g r caller resource found ∧
    Serves g v content caller found resource service f ∧ g.base? service = some base ∧
    f.Addressed base request

theorem Serves.org_eq {g : Gateway} {v : Services} {content : Content.Lookup} {caller : Caller}
    {found : List (String × String)} {resource : Resource} {service : Service} {f : Form}
    (h : Serves g v content caller found resource service f) : f.org = caller.org := by
  cases h <;> rfl

section Selector

/-- What is read from a selector is written as the same selector. -/
theorem selectorText_of_selector {raw ruleId errorKey : String}
    (h : selector raw = .ok (ruleId, errorKey)) :
    Aggregator.selectorText ruleId errorKey = raw := by
  simp only [selector] at h
  split at h
  · cases h
  · rename_i hparts
    cases h
    rw [not_or] at hparts
    have hsplit := List.takeWhile_append_dropWhile (p := fun c => decide (c ≠ '|')) (l := raw.toList)
    cases hrest : raw.toList.dropWhile fun c => decide (c ≠ '|') with
    | nil =>
        rw [hrest] at hparts
        exact absurd rfl hparts.2
    | cons c rest =>
        have hbar : c = '|' := by
          have hhead := List.head?_dropWhile_not (fun c => decide (c ≠ '|')) raw.toList
          rw [hrest] at hhead
          simpa using hhead
        rw [hrest, hbar] at hsplit
        rw [Aggregator.selectorText, ← String.toList_inj, String.toList_append,
          String.toList_append, String.toList_ofList, String.toList_ofList, String.toList_ofList,
          List.append_assoc]
        exact hsplit

end Selector

section Handlers

variable {P : Http.Request → Prop} {g : Gateway} (hg : Configured g) {v : Services}
  {content : Content.Lookup} {caller : Caller} {found : List (String × String)}

theorem clusterName_eq_ok {raw name : String} (h : clusterName raw = .ok name) :
    ∃ id, Uuid.parse? raw = some id ∧ name = id.text := by
  rw [clusterName] at h
  cases hid : Uuid.parse? raw with
  | none =>
      rw [hid] at h
      cases h
  | some id =>
      rw [hid] at h
      cases h
      exact ⟨id, rfl, rfl⟩

theorem clusterNames_eq_ok {raw : String} {names : List String} (h : clusterNames raw = .ok names) :
    ∃ ids, Uuid.parseList? raw = some ids ∧ names = ids.map Uuid.text := by
  rw [clusterNames] at h
  cases hids : Uuid.parseList? raw with
  | none =>
      rw [hids] at h
      cases h
  | some ids =>
      rw [hids] at h
      cases ids with
      | nil => cases h
      | cons id ids =>
          cases h
          exact ⟨id :: ids, rfl, rfl⟩

/-- What goes on with a result that is there already goes on with what it is. -/
theorem keeps_done_bind {ε α β : Type} (x : Except ε α) {f : α → Action ε β}
    (hf : ∀ y, x = .ok y → Keeps P v content (f y)) : Keeps P v content (.done x >>= f) := by
  cases x with
  | error e => exact keeps_done _
  | ok y => exact hf y rfl

theorem keeps_ofCaptures {α : Type} (x : Except CaptureError α)
    {f : α → Action Rejection Http.Response} (hf : ∀ y, x = .ok y → Keeps P v content (f y)) :
    Keeps P v content (ofCaptures x >>= f) := by
  cases x with
  | error e => exact keeps_done _
  | ok y => exact hf y rfl

include hg

theorem keeps_roster
    (hP : ∀ service base request, service ≠ .content → g.base? service = some base →
      (Form.listing caller.org).Addressed base request → P request) :
    Keeps P v content (g.roster.clusters caller.org) := by
  have hstored : Keeps P v content (Aggregator.clusters g.aggregator caller.org) :=
    keeps_ask (.listing caller.org) hg.aggregator
      (fun request => hP .aggregator _ request (by decide) rfl) none _
  have hfallback : Keeps P v content (g.roster.fallback caller.org) := by
    rw [Roster.fallback, hg.roster]
    split
    · exact hstored.bind fun _ => keeps_pure _
    · exact keeps_fail _
  rw [Roster.clusters]
  cases hmembership : g.roster.membership with
  | none => exact hfallback
  | some base =>
      refine (keeps_membership (hg.membership base hmembership)
        (fun request => hP .membership base request (by decide) hmembership) _).attempt.bind
        fun x => ?_
      cases x with
      | ok found => exact keeps_pure _
      | error e => exact hfallback

theorem keeps_overviewOf {ids : List String}
    (hP : ∀ cluster ∈ ids, ∀ request,
      (Form.report caller.org cluster caller.user).Addressed g.aggregator request → P request) :
    Keeps P v content (Overview.ofClusters g.aggregator caller.org caller.user ids) := by
  induction ids with
  | nil => exact keeps_pure _
  | cons cluster ids ih =>
      rw [List.forall_mem_cons] at hP
      have hreport : Keeps P v content
          (Aggregator.report g.aggregator caller.org cluster caller.user) :=
        keeps_ask (.report caller.org cluster caller.user) hg.aggregator hP.1 none _
      have hcluster : Keeps P v content
          (Overview.ofCluster g.aggregator caller.org caller.user cluster) := by
        rw [Overview.ofCluster]
        refine hreport.attempt.bind fun x => ?_
        cases x with
        | ok report =>
            show Keeps P v content (Overview.ofReport report)
            rw [Overview.ofReport]
            split
            · exact keeps_pure _
            · exact (Overview.keeps_ofHits _).bind fun _ => keeps_pure _
        | error e => cases e <;> first | exact keeps_pure _ | exact keeps_fail _
      rw [Overview.ofClusters]
      exact hcluster.bind fun _ => (ih hP.2).bind fun _ => keeps_pure _

theorem keeps_report {raw : String} (r : Inbound)
    (hP : ∀ id, Uuid.parse? raw = some id → ∀ request,
      (Form.report caller.org id.text caller.user).Addressed g.aggregator request → P request) :
    Keeps P v content (report g caller raw r) := by
  rw [report]
  refine keeps_done_bind _ fun name hname => keeps_done_bind _ fun includeDisabled _ => ?_
  obtain ⟨id, hid, rfl⟩ := clusterName_eq_ok hname
  refine (keeps_ask (.report caller.org id.text caller.user) hg.aggregator (hP id hid) none _).bind
    fun found => ?_
  exact ((Visibility.keeps_filter _ _).mapError _).bind fun _ => keeps_pure _

theorem keeps_reportInfo {raw : String}
    (hP : ∀ id, Uuid.parse? raw = some id → ∀ request,
      (Form.info caller.org id.text caller.user).Addressed g.aggregator request → P request) :
    Keeps P v content (reportInfo g caller raw) := by
  rw [reportInfo]
  refine keeps_done_bind _ fun name hname => ?_
  obtain ⟨id, hid, rfl⟩ := clusterName_eq_ok hname
  exact (keeps_ask (.info caller.org id.text caller.user) hg.aggregator (hP id hid) none _).bind
    fun _ => keeps_pure _

theorem keeps_rule {raw rawSelector : String} (r : Inbound)
    (hP : ∀ id, Uuid.parse? raw = some id → ∀ request,
      (Form.rule caller.org id.text caller.user rawSelector).Addressed g.aggregator request →
        P request) :
    Keeps P v content (rule g caller raw rawSelector r) := by
  rw [rule]
  refine keeps_done_bind _ fun name hname => keeps_done_bind _ fun selected hselected => ?_
  obtain ⟨id, hid, rfl⟩ := clusterName_eq_ok hname
  obtain ⟨ruleId, errorKey⟩ := selected
  have hask : Keeps P v content
      (Aggregator.rule g.aggregator caller.org id.text caller.user ruleId errorKey) := by
    rw [Aggregator.rule, selectorText_of_selector hselected]
    exact keeps_ask (.rule caller.org id.text caller.user rawSelector) hg.aggregator (hP id hid)
      none _
  refine hask.bind fun hit => ((keeps_contentOf _ _).mapError _).bind fun found => ?_
  cases found with
  | none => exact keeps_fail _
  | some c =>
      dsimp only
      generalize Visibility.Policy.mk true _ = policy
      split
      · exact keeps_fail _
      · split
        · exact keeps_fail _
        · exact keeps_pure _

theorem keeps_reportsOfPayload (r : Inbound)
    (hP : ∀ request, (Form.reportsOfPayload caller.org).Addressed g.aggregator request → P request) :
    Keeps P v content (reportsOfPayload g caller r) := by
  rw [reportsOfPayload]
  split
  · exact keeps_fail _
  · exact (keeps_ask (.reportsOfPayload caller.org) hg.aggregator hP (some r.body) _).bind
      fun _ => keeps_pure _

theorem keeps_reportsOfList {raw : String}
    (hP : ∀ ids, Uuid.parseList? raw = some ids → ∀ request,
      (Form.reportsOfList caller.org (",".intercalate (ids.map Uuid.text))).Addressed g.aggregator
        request → P request) :
    Keeps P v content (reportsOfList g caller raw) := by
  rw [reportsOfList]
  refine keeps_done_bind _ fun names hnames => ?_
  obtain ⟨ids, hids, rfl⟩ := clusterNames_eq_ok hnames
  exact (keeps_ask (.reportsOfList caller.org (",".intercalate (ids.map Uuid.text))) hg.aggregator
    (hP ids hids) none _).bind fun _ => keeps_pure _

/-- The clusters of an overview are those that the look-up of the organization's clusters came to
among the same services. -/
theorem onlyAsks_overview
    (hlisting : ∀ service base request, service ≠ .content → g.base? service = some base →
      (Form.listing caller.org).Addressed base request → P request)
    (hreport : ∀ ids later, (g.roster.clusterIds caller.org).among v content [] = (.ok ids, later) →
      ∀ cluster ∈ ids, ∀ request,
        (Form.report caller.org cluster caller.user).Addressed g.aggregator request → P request) :
    OnlyAsks P ((overview g caller).among v content []).2 := by
  have hids : Keeps P v content (g.roster.clusterIds caller.org) :=
    (keeps_roster hg hlisting).bind fun _ => keeps_pure _
  have hlater := hids [] onlyAsks_nil
  rw [overview, Action.among_bind]
  rcases hfound : (g.roster.clusterIds caller.org).among v content [] with ⟨e | ids, later⟩
  · rw [hfound] at hlater
    exact hlater
  · rw [hfound] at hlater
    have hof : Keeps P v content
        (Overview.ofClusters g.aggregator caller.org caller.user ids) :=
      keeps_overviewOf hg (hreport ids later hfound)
    exact hof.bind (fun _ => keeps_pure _) later hlater

end Handlers

theorem onlyAsks_answer {g : Gateway} (hg : Configured g) {r : Inbound} {caller : Caller}
    {resource : Resource} {found : List (String × String)}
    (hasked : Asked g r caller resource found)
    (hown : resource ≠ .content ∧ resource ≠ .ruleAction) (v : Services)
    (content : Content.Lookup) (groups : Content.Groups) (r' : Inbound) :
    OnlyAsks (IsCall g r v content)
      ((answer g groups caller resource found r').among v content []).2 := by
  have hcall : ∀ {service f base request}, Serves g v content caller found resource service f →
      g.base? service = some base → f.Addressed base request → IsCall g r v content request :=
    fun hserves hbase haddressed =>
      ⟨caller, resource, found, _, _, _, hasked, hserves, hbase, haddressed⟩
  cases resource with
  | report =>
      refine keeps_ofCaptures _ (fun raw hraw => ?_) [] onlyAsks_nil
      exact (keeps_report hg _ fun id hid request => hcall (.report hraw hid) rfl).mapError _
  | reportInfo =>
      refine keeps_ofCaptures _ (fun raw hraw => ?_) [] onlyAsks_nil
      exact (keeps_reportInfo hg fun id hid request => hcall (.reportInfo hraw hid) rfl).mapError _
  | rule =>
      refine keeps_ofCaptures _ (fun raws hraw => ?_) [] onlyAsks_nil
      exact (keeps_rule hg _ fun id hid request => hcall (.rule hraw hid) rfl).mapError _
  | clusters =>
      refine Keeps.mapError _ (Keeps.bind ?_ fun _ => keeps_pure _) [] onlyAsks_nil
      exact keeps_roster hg fun service base request hservice hbase =>
        hcall (.clusters service hservice) hbase
  | reportsOfPayload =>
      rw [answer]
      split
      · exact onlyAsks_nil
      · exact (keeps_reportsOfPayload hg _ fun request =>
          hcall .reportsOfPayload rfl).mapError _ [] onlyAsks_nil
  | reportsOfList =>
      refine keeps_ofCaptures _ (fun raw hraw => ?_) [] onlyAsks_nil
      exact (keeps_reportsOfList hg fun ids hids request =>
        hcall (.reportsOfList hraw hids) rfl).mapError _
  | overview =>
      rw [answer, ofHandler, Action.among_mapError]
      exact onlyAsks_overview hg
        (fun service base request hservice hbase =>
          hcall (.clustersOfOverview service hservice) hbase)
        fun ids later hids cluster hcluster request => hcall (.overview hids hcluster) rfl
  | groups => exact (keeps_done_bind _ fun _ _ => keeps_pure _).mapError _ [] onlyAsks_nil
  | content => exact absurd rfl hown.1
  | ruleAction => exact absurd rfl hown.2

/-- Redirects aside, whatever the gateway asks of services for a request that it does not merely pass
on is a question that the request is served with, put to the service's base. Its path names the
segments of the question exactly when the texts of the question are plain. Questions of plain texts
that name the same place under one base are asked for callers of one organization. -/
theorem calls_are_addressed {s : Settings} {g : Gateway} (hg : ofSettings s = .ok g) :
    (∀ r v content groups id,
      (∀ caller resource found, Asked g r caller resource found →
        resource ≠ .content ∧ resource ≠ .ruleAction) →
      OnlyAsks (IsCall g r v content) (served g v content groups id r).2) ∧
    (∀ {v v' content content' caller caller' found found' resource resource' service service' f f'
        base request request'},
      Serves g v content caller found resource service f →
      Serves g v' content' caller' found' resource' service' f' →
      f.Addressed base request → f'.Addressed base request' → f.IsPlain → f'.IsPlain →
      request.url.path.decoded = request'.url.path.decoded → caller.org = caller'.org) := by
  refine ⟨?_, ?_⟩
  · intro r v content groups id hown
    rcases leftBy_served g groups r v content id with
      hnone | ⟨caller, resource, found, hasked, hleft⟩
    · rw [hnone]
      exact onlyAsks_nil
    · rw [hleft]
      exact onlyAsks_answer (configured_of_settings hg) hasked
        (hown caller resource found hasked) v content groups _
  · intro v v' content content' caller caller' found found' resource resource' service service' f f'
      base request request' hserves hserves' h h' hplain hplain' hsame
    rw [← hserves.org_eq, ← hserves'.org_eq]
    exact Form.org_eq_of_decoded h h' hplain hplain' hsame

section Loopback

/-- Settings of a gateway whose services run on its own machine. -/
def loopback : Settings :=
  { Settings.default with
    services := { Settings.default.services with
      aggregator := "http://[::1]/api", content := "http://[::1]/content" } }

/-- A user of an organization asks for its clusters. -/
def askClusters (org : String) : Inbound where
  method := "GET"
  path := loopback.routePath ++ "/clusters"
  query := none
  headers := headersOf org "u"
  body := .empty
  caller := none

theorem calls_are_addressed_on_loopback :
    ∃ g, ofSettings loopback = .ok g ∧ ∀ v content groups id,
      OnlyAsks (IsCall g (askClusters "7") v content)
        (served g v content groups id (askClusters "7")).2 := by
  have hok : (ofSettings loopback).isOk = true := by decide +kernel
  have hendpoint : (findRoute loopback.routePath (askClusters "7").path).all
      (fun taken => taken.1.endpoint = .resource .clusters) = true := by decide +kernel
  cases hg : ofSettings loopback with
  | error e =>
      rw [hg] at hok
      cases hok
  | ok g =>
      refine ⟨g, rfl, fun v content groups id => (calls_are_addressed hg).1 _ v content groups id ?_⟩
      rintro caller resource found ⟨-, route, hroute, hresource, -⟩
      obtain ⟨-, -, -, -, hpath, -⟩ := ofSettings_eq_ok hg
      rw [hpath] at hroute
      rw [hroute, Option.all_some, hresource] at hendpoint
      cases of_decide_eq_true hendpoint
      exact ⟨by decide, by decide⟩

/-- The first request that services get for a request to the gateway, when no service answers. -/
def firstAsked (r : Inbound) : Option Http.Request := do
  let g ← (ofSettings loopback).toOption
  let (request, _) ← (served g (fun _ _ => .silent) (fun _ _ => .ok none) .none "1" r).2.head?
  return request

/-- What the path of that request names. -/
def firstPlace (r : Inbound) : Option (List (List UInt8)) :=
  (firstAsked r).map fun request => request.url.path.decoded

theorem firstAsked_eq_some {r : Inbound} {request : Http.Request}
    (h : firstAsked r = some request) :
    ∃ g reply, ofSettings loopback = .ok g ∧
      (served g (fun _ _ => .silent) (fun _ _ => .ok none) .none "1" r).2.head?
        = some (request, reply) := by
  rw [firstAsked] at h
  obtain ⟨g, hg, h⟩ := Option.bind_eq_some_iff.mp h
  obtain ⟨⟨first, reply⟩, hfirst, h⟩ := Option.bind_eq_some_iff.mp h
  cases h
  refine ⟨g, reply, ?_, hfirst⟩
  cases hread : ofSettings loopback with
  | error e =>
      rw [hread] at hg
      cases hg
  | ok g' =>
      rw [hread] at hg
      cases hg
      rfl

/-- A tab in the id of an organization is lost, and what is asked for is another's. -/
theorem tab_names_another_organization :
    caller? (askClusters "4\t2").headers = some ⟨"4\t2", "", "u"⟩ ∧
      firstPlace (askClusters "4\t2")
        = some (["api", "organizations", "42", "clusters"].map Utf8.encode) ∧
      firstPlace (askClusters "42") = firstPlace (askClusters "4\t2") ∧
      ∀ f : Form, f.org = "4\t2" →
        firstPlace (askClusters "4\t2") ≠ some (("api" :: f.segments).map Utf8.encode) := by
  have hknown : caller? (askClusters "4\t2").headers = some ⟨"4\t2", "", "u"⟩ := by decide +kernel
  have htab : firstPlace (askClusters "4\t2")
      = some (["api", "organizations", "42", "clusters"].map Utf8.encode) := by decide +kernel
  have hplain : firstPlace (askClusters "42")
      = some (["api", "organizations", "42", "clusters"].map Utf8.encode) := by decide +kernel
  refine ⟨hknown, htab, hplain.trans htab.symm, fun f horg hsame => ?_⟩
  obtain ⟨rest, hrest⟩ := f.org_mem_segments
  rw [htab, Option.some.injEq, hrest, horg] at hsame
  simp only [List.map_cons, List.cons.injEq] at hsame
  exact absurd (Utf8.encode_injective hsame.2.2.1) (by decide)

end Loopback

end Gateway

end ReportGateway
