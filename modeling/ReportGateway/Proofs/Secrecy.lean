import ReportGateway.Proofs.Filtering
import ReportGateway.Proofs.Serving

/-!
What organizations that are not entitled to internal rules learn about them. Two sources of content
are `SameInPublic` when they differ in internal content alone, where holding internal content and
holding none count as the same. An action is `Blind` to the difference when it asks the same of
services and ends in the same way whichever of the two it looks content up in. The report endpoint is
blind (`blind_report`): content that the policy turns away leaves a hit in the class of those without
content. The endpoint of a single rule tells that a rule is there and not for everyone, so it is not
blind; but neither endpoint shows an internal entry (`ends_report`, `ends_rule`).
-/

namespace ReportGateway

namespace Content

/-- A source holds internal content for a rule, or none. -/
def HoldsNoPublic (source : Lookup) (ruleId errorKey : String) : Prop :=
  ∃ found, source ruleId errorKey = .ok found ∧ ∀ c, found = some c → c.internal = true

/-- Of every rule, either both sources hold the same content and it is not internal, or each of them
holds internal content or none. -/
def SameInPublic (a b : Lookup) : Prop :=
  ∀ ruleId errorKey,
    (∃ c, c.internal = false ∧ a ruleId errorKey = .ok (some c) ∧ b ruleId errorKey = .ok (some c)) ∨
    (HoldsNoPublic a ruleId errorKey ∧ HoldsNoPublic b ruleId errorKey)

theorem holdsNoPublic_ofContents {contents : List RuleContent}
    (hinternal : ∀ c ∈ contents, c.internal = true) (ruleId errorKey : String) :
    HoldsNoPublic (Directory.ofContents contents).lookup ruleId errorKey := by
  refine ⟨find? contents ruleId errorKey, rfl, fun c hc => hinternal c ?_⟩
  exact List.mem_reverse.mp (List.mem_of_find?_eq_some hc)

end Content

namespace Action

variable {ε ε' α β : Type} {v : Services} {a b : Content.Lookup}

/-- Whichever of two sources content is looked up in, an action ends in the same way and leaves the
same journal. -/
def Blind (v : Services) (a b : Content.Lookup) (x : Action ε α) : Prop :=
  ∀ journal, x.among v a journal = x.among v b journal

theorem blind_done (r : Except ε α) : Blind v a b (.done r) := fun _ => rfl

theorem blind_pure (x : α) : Blind v a b (pure x : Action ε α) := fun _ => rfl

theorem blind_exchange {request : Http.Request} {next : Http.Reply → Action ε α}
    (hnext : ∀ reply, Blind v a b (next reply)) : Blind v a b (.exchange request next) := by
  intro journal
  rw [among_exchange, among_exchange]
  exact hnext _ _

theorem Blind.settle {x : Action ε α} {f : Except ε α → Action ε' β} (hx : Blind v a b x)
    (hf : ∀ r, Blind v a b (f r)) : Blind v a b (x.settle f) := by
  intro journal
  rw [among_settle, among_settle, hx journal]
  exact hf _ _

theorem Blind.bind {x : Action ε α} {f : α → Action ε β} (hx : Blind v a b x)
    (hf : ∀ y, Blind v a b (f y)) : Blind v a b (x >>= f) := by
  refine Blind.settle hx fun r => ?_
  cases r with
  | error e => exact blind_done _
  | ok y => exact hf y

theorem Blind.mapError {x : Action ε α} (f : ε → ε') (hx : Blind v a b x) :
    Blind v a b (x.mapError f) := hx.settle fun _ => blind_done _

end Action

open ReportGateway.Action (Blind Ends ends_done ends_any blind_done blind_pure blind_exchange)

section Asking

variable {ε : Type} {v : Services} {a b : Content.Lookup}

theorem Http.Client.blind_send (r : Request) : Blind v a b (send r : Action ε Outcome) :=
  send_induction (C := Blind v a b) blind_pure (fun _ _ => blind_exchange) r

/-- Sending a request has an outcome, whatever comes of it. -/
theorem Http.Client.ends_send (r : Request) :
    Ends (fun x => ∃ outcome, x = .ok outcome) (send r : Action ε Outcome) :=
  send_induction (fun outcome => ends_done ⟨outcome, rfl⟩)
    (fun _ _ hfurther _ _ _ => hfurther _ _ _ _) r

theorem Aggregator.blind_ask {α : Type} (base : Url) (template : Url.Template)
    (params : List String) (payload : Option ByteArray) (read : Json.Read α) :
    Blind v a b (ask base template params payload read) := by
  rw [ask]
  cases base.resource? template params with
  | none => exact blind_done _
  | some url => exact (Http.Client.blind_send _).bind fun _ => blind_done _

end Asking

/-- A failure after which a client is not told that it was served. -/
def Failure.Refuses (f : Failure) : Prop := f.response.status ≠ 200

theorem Failure.refuses_relayed {status : Nat} (body : ByteArray)
    (hstatus : Http.isSuccess status = false) : (Failure.relayed status body).Refuses := by
  have hne : status ≠ 200 := by
    rintro rfl
    exact absurd hstatus (by decide)
  show passableStatus status ≠ 200
  rw [passableStatus]
  split
  · exact hne
  · decide

theorem Failure.refuses_ofContent (e : Content.Error) : (Failure.ofContent e).Refuses := by
  cases e with
  | notLoaded => exact (by decide : (503 : Nat) ≠ 200)
  | inaccessible => exact (by decide : (500 : Nat) ≠ 200)

theorem Failure.refuses_badRequest (detail : String) : (Failure.badRequest detail).Refuses :=
  (by decide : (400 : Nat) ≠ 200)

theorem Failure.refuses_notFound (detail : String) : (Failure.notFound detail).Refuses :=
  (by decide : (404 : Nat) ≠ 200)

theorem Failure.refuses_permissionDenied (detail : String) :
    (Failure.permissionDenied detail).Refuses :=
  (by decide : (403 : Nat) ≠ 200)

/-- What an action ends in is a failure that refuses, or a value that is `R`. -/
def Settles {α : Type} (R : α → Prop) : Except Failure α → Prop
  | .ok x => R x
  | .error f => f.Refuses

theorem ends_fail {α : Type} {R : α → Prop} {f : Failure} (h : f.Refuses) :
    Ends (Settles R) (Action.fail f) := ends_done h

theorem ends_return {α : Type} {R : α → Prop} {x : α} (h : R x) :
    Ends (Settles R) (pure x : Action Failure α) := ends_done h

/-- An answer of the results store that is handed on as an error is never a success. -/
theorem Aggregator.settles_interpret {α : Type} (read : Json.Read α) (outcome : Http.Outcome) :
    Settles (fun _ => True) (interpret read outcome) := by
  cases outcome with
  | unbuildable => exact (by decide : (500 : Nat) ≠ 200)
  | failed => exact (by decide : (503 : Nat) ≠ 200)
  | received response complete =>
      cases complete with
      | false => exact (by decide : (503 : Nat) ≠ 200)
      | true =>
          rw [interpret]
          by_cases hsuccess : Http.isSuccess response.status = true
          · rw [if_pos hsuccess]
            cases read.ofBytes? response.body.data.toList with
            | none => exact (by decide : (500 : Nat) ≠ 200)
            | some x => exact trivial
          · rw [if_neg hsuccess]
            exact Failure.refuses_relayed _ (Bool.eq_false_iff.mpr hsuccess)

theorem Aggregator.ends_ask {α : Type} (base : Url) (template : Url.Template)
    (params : List String) (payload : Option ByteArray) (read : Json.Read α) :
    Ends (Settles fun _ => True) (ask base template params payload read) := by
  rw [ask]
  cases base.resource? template params with
  | none => exact ends_done (by decide : (500 : Nat) ≠ 200)
  | some url =>
      refine (Http.Client.ends_send _).bind ?_ fun outcome _ =>
        ends_done (settles_interpret read outcome)
      rintro f ⟨outcome, hnever⟩
      cases hnever

namespace Visibility

section Filter

variable {v : Services} {a b : Content.Lookup} {p : Policy}

theorem admits_eq_false_of_internal (hinternal : Condition.internal false ∈ p.conditions)
    (h : RuleHit) {c : RuleContent} (hc : c.internal = true) : p.admits h c = false := by
  rw [Policy.admits, List.all_eq_false]
  exact ⟨_, hinternal, by simp [Condition.internal, hc]⟩

/-- Internal content that is turned away is as good as none. -/
theorem add_of_no_public (hinternal : Condition.internal false ∈ p.conditions) {h : RuleHit}
    (hskip : p.skips h = false) {found : Option RuleContent}
    (hfound : ∀ c, found = some c → c.internal = true) (f : Filtered) :
    f.add p h found = { f with noContent := f.noContent + 1 } := by
  have hclass : p.classify h found = .noContent := by
    cases found with
    | none => rw [classify_none hskip]
    | some c =>
        rw [classify_some c hskip, admits_eq_false_of_internal hinternal h (hfound c rfl)]
        rfl
  simp only [Filtered.add, hclass]

theorem blind_filter (hsame : Content.SameInPublic a b)
    (hinternal : Condition.internal false ∈ p.conditions) (hits : List RuleHit) :
    Blind v a b (filter p hits) := by
  induction hits with
  | nil => exact blind_pure _
  | cons h hits ih =>
      cases hskip : p.skips h with
      | true =>
          rw [filter, if_pos hskip]
          exact ih.bind fun _ => blind_pure _
      | false =>
          intro journal
          rw [filter, if_neg (by simp [hskip]), Action.among_bind, Action.among_bind,
            Action.among_contentOf, Action.among_contentOf]
          rcases hsame h.component h.key with
            ⟨c, -, ha, hb⟩ | ⟨⟨found, ha, hfound⟩, ⟨found', hb, hfound'⟩⟩
          · rw [ha, hb]
            exact ih.bind (fun _ => blind_pure _) journal
          · rw [ha, hb]
            dsimp only
            rw [Action.among_bind, Action.among_bind, ih journal]
            simp only [add_of_no_public hinternal hskip hfound,
              add_of_no_public hinternal hskip hfound', Action.among_pure]

/-- What one more hit adds to the visible ones is the join with content that makes it visible. -/
theorem mem_visible_add {h : RuleHit} {found : Option RuleContent} {f : Filtered} {e : RuleEntry}
    (he : e ∈ (f.add p h found).visible) :
    e ∈ f.visible ∨ ∃ c, p.classify h (some c) = .visible ∧ e = RuleEntry.join h c := by
  unfold Filtered.add at he
  split at he
  · rename_i c hclass
    rcases List.mem_cons.mp he with rfl | he
    · exact Or.inr ⟨c, hclass, rfl⟩
    · exact Or.inl he
  · exact Or.inl he
  · exact Or.inl he

theorem internal_eq_false_of_visible (hinternal : Condition.internal false ∈ p.conditions)
    {h : RuleHit} {c : RuleContent} (hclass : p.classify h (some c) = .visible) :
    (RuleEntry.join h c).internal = false := by
  cases hc : c.internal with
  | false => exact hc
  | true =>
      cases hskip : p.skips h with
      | true =>
          rw [classify_of_skips _ hskip] at hclass
          cases hclass
      | false =>
          rw [classify_some c hskip, admits_eq_false_of_internal hinternal h hc] at hclass
          cases hclass

/-- What a policy without internal content shows is not internal. -/
theorem ends_filter (hinternal : Condition.internal false ∈ p.conditions) (hits : List RuleHit) :
    Ends (fun r => ∀ f, r = .ok f → ∀ e ∈ f.visible, e.internal = false) (filter p hits) := by
  induction hits with
  | nil =>
      refine ends_done ?_
      rintro f ⟨rfl⟩ e he
      exact absurd he List.not_mem_nil
  | cons h hits ih =>
      rw [filter]
      split
      · refine ih.bind (fun e _ => by rintro f ⟨⟩) fun rest hrest => ends_done ?_
        rintro f ⟨rfl⟩
        exact hrest rest rfl
      · refine (ends_any _).bind (fun e _ => by rintro f ⟨⟩) fun found _ => ?_
        refine ih.bind (fun e _ => by rintro f ⟨⟩) fun rest hrest => ends_done ?_
        rintro f ⟨rfl⟩ e he
        rcases mem_visible_add he with hrestmem | ⟨c, hclass, rfl⟩
        · exact hrest rest rfl e hrestmem
        · exact internal_eq_false_of_visible hinternal hclass

end Filter

end Visibility

namespace Gateway

open Json (Value)

/-- The body of a report with these entries. -/
def reportBody (metadata : Value) (entries : List RuleEntry) : ByteArray :=
  (okay [("report", .object [("meta", metadata),
    ("data", .array (entries.map RuleEntry.toJson))])]).body

/-- The body of an answer with one entry. -/
def entryBody (entry : RuleEntry) : ByteArray := (okay [("report", entry.toJson)]).body

/-- A body is that of a report, and no entry of it is internal. -/
def ReportsNoInternal (body : ByteArray) : Prop :=
  ∃ metadata entries, body = reportBody metadata entries ∧ ∀ e ∈ entries, e.internal = false

/-- A body is that of one entry, which is not internal. -/
def ShowsNoInternal (body : ByteArray) : Prop :=
  ∃ entry, body = entryBody entry ∧ entry.internal = false

section Endpoints

variable {g : Gateway} {caller : Caller} (hlow : g.access.allows caller.org = false)
  (cluster : String) (r : Inbound)

theorem settles_clusterName : Settles (fun _ => True) (clusterName cluster) := by
  rw [clusterName]
  cases Uuid.parse? cluster with
  | none => exact Failure.refuses_badRequest _
  | some id => exact trivial

theorem settles_strictFlag (name : String) : Settles (fun _ => True) (strictFlag r name) := by
  rw [strictFlag]
  cases parameter? r name with
  | none => exact trivial
  | some raw =>
      cases hraw : boolean? raw with
      | none =>
          simp only [hraw]
          exact Failure.refuses_badRequest _
      | some b =>
          simp only [hraw]
          exact trivial

theorem settles_selector (raw : String) : Settles (fun _ => True) (selector raw) := by
  simp only [selector]
  split
  · exact Failure.refuses_badRequest _
  · exact trivial

theorem internal_mem_forReport (includeDisabled audienceOnly : Bool) :
    Visibility.Condition.internal false
      ∈ (Visibility.Policy.forReport includeDisabled audienceOnly false).conditions :=
  List.mem_cons_self

include hlow

/-- Whoever is not entitled to internal rules is reported the same whatever internal content there
is. -/
theorem blind_report {v : Services} {a b : Content.Lookup} (hsame : Content.SameInPublic a b) :
    Blind v a b (report g caller cluster r) := by
  rw [report, hlow]
  refine (blind_done _).bind fun name => (blind_done _).bind fun includeDisabled => ?_
  refine (Aggregator.blind_ask _ _ _ _ _).bind fun found => ?_
  refine Blind.bind ?_ fun filtered => blind_pure _
  exact (Visibility.blind_filter hsame (internal_mem_forReport _ _) found.hits).mapError _

theorem ends_report :
    Ends (Settles fun response => ReportsNoInternal response.body)
      (report g caller cluster r) := by
  rw [report, hlow]
  refine (ends_done (settles_clusterName cluster)).bind (fun _ => id) fun name _ => ?_
  refine (ends_done (settles_strictFlag r _)).bind (fun _ => id) fun includeDisabled _ => ?_
  refine (Aggregator.ends_ask _ _ _ _ _).bind (fun _ => id) fun found _ => ?_
  have hfilter := Visibility.ends_filter
    (internal_mem_forReport includeDisabled (lenientFlag r "osd_eligible")) found.hits
  refine Ends.bind (Q := Settles fun f => ∀ e ∈ f.visible, e.internal = false)
    (hfilter.mapError fun x hx => ?_) (fun _ => id) fun filtered hvisible => ?_
  · cases x with
    | error e => exact Failure.refuses_ofContent e
    | ok f => exact hx f rfl
  · exact ends_return ⟨_, filtered.visible, rfl, hvisible⟩

theorem ends_rule (rawSelector : String) :
    Ends (Settles fun response => ShowsNoInternal response.body)
      (rule g caller cluster rawSelector r) := by
  rw [rule]
  refine (ends_done (settles_clusterName cluster)).bind (fun _ => id) fun name _ => ?_
  refine (ends_done (settles_selector rawSelector)).bind (fun _ => id) fun selected _ => ?_
  refine (Aggregator.ends_ask _ _ _ _ _).bind (fun _ => id) fun hit _ => ?_
  refine Ends.bind (Q := Settles fun _ => True)
    ((ends_any _).mapError fun x _ => ?_) (fun _ => id) fun content _ => ?_
  · cases x with
    | error e => exact Failure.refuses_ofContent e
    | ok found => exact trivial
  cases content with
  | none => exact ends_fail (Failure.refuses_notFound _)
  | some c =>
      dsimp only
      generalize Visibility.Policy.mk true _ = policy
      by_cases hclass : policy.classify hit (some c) ≠ .visible
      · rw [if_pos hclass]
        exact ends_fail (Failure.refuses_notFound _)
      · rw [if_neg hclass]
        by_cases hshown : c.internal = true ∧ (!g.access.allows caller.org) = true
        · rw [if_pos hshown]
          exact ends_fail (Failure.refuses_permissionDenied _)
        · rw [if_neg hshown]
          refine ends_return ⟨RuleEntry.join hit c, rfl, ?_⟩
          show c.internal = false
          cases hc : c.internal with
          | false => rfl
          | true => exact absurd ⟨hc, by simp [hlow]⟩ hshown

end Endpoints

/-- When an endpoint comes to an answer of status 200, its body is `R`. -/
def Shows (R : ByteArray → Prop) (x : Except Rejection Http.Response) : Prop :=
  (settled x).status = 200 → R (settled x).body

theorem shows_captures (R : ByteArray → Prop) (e : CaptureError) :
    Shows R (.error (.captures e)) := by
  intro hstatus
  cases e with
  | invalidText name => exact absurd hstatus (by decide : (400 : Nat) ≠ 200)
  | wrongCount expected found => exact absurd hstatus (by decide : (500 : Nat) ≠ 200)

theorem ends_ofHandler {R : ByteArray → Prop} {h : Handler}
    (hends : Ends (Settles fun response => R response.body) h) : Ends (Shows R) (ofHandler h) := by
  refine hends.mapError fun x hx => ?_
  cases x with
  | ok response => exact fun _ => hx
  | error f => exact fun hstatus => absurd hstatus hx

theorem ends_ofCaptures_bind {α : Type} {R : ByteArray → Prop} (x : Except CaptureError α)
    {f : α → Action Rejection Http.Response} (hf : ∀ y, Ends (Shows R) (f y)) :
    Ends (Shows R) (ofCaptures x >>= f) := by
  cases x with
  | error e => exact ends_done (shows_captures R e)
  | ok y => exact hf y

section Answers

variable {g : Gateway} {caller : Caller} {r : Inbound} {found : List (String × String)}

theorem shows_served {R : ByteArray → Prop} {resource : Resource} {groups : Content.Groups}
    (hasked : Asked g r caller resource found) (hget : r.method = "GET")
    (hends : Ends (Shows R) (answer g groups caller resource found (seen g caller r)))
    (v : Services) (content : Content.Lookup) (id : String)
    (hstatus : (served g v content groups id r).1.status = 200) :
    R (served g v content groups id r).1.body := by
  rw [served_of_asked groups id hasked hget, dressed_status] at hstatus
  rw [served_of_asked groups id hasked hget, dressed_body]
  exact hends v content [] hstatus

/-- Whoever is not entitled to internal rules learns nothing of them from reports: whatever internal
content there is, the status and the body of a report are the same, and so is what services are
asked; and no report and no single rule that is shown has an internal entry. -/
theorem report_hides_internal
    (hlow : g.access.enabled = false ∨ caller.org ∉ g.access.organizations)
    (hget : r.method = "GET") (groups : Content.Groups) (id : String) (v : Services) :
    (Asked g r caller .report found →
      ∀ d₁ d₂ : Content.Directory, Content.SameInPublic d₁.lookup d₂.lookup →
        ∀ groups' id',
          (served g v d₁.lookup groups id r).1.status
              = (served g v d₂.lookup groups' id' r).1.status ∧
            (served g v d₁.lookup groups id r).1.body = (served g v d₂.lookup groups' id' r).1.body ∧
            (served g v d₁.lookup groups id r).2 = (served g v d₂.lookup groups' id' r).2) ∧
    (Asked g r caller .report found →
      ∀ content, (served g v content groups id r).1.status = 200 →
        ReportsNoInternal (served g v content groups id r).1.body) ∧
    (Asked g r caller .rule found →
      ∀ content, (served g v content groups id r).1.status = 200 →
        ShowsNoInternal (served g v content groups id r).1.body) := by
  have hdenied : g.access.allows caller.org = false := by
    rw [InternalAccess.allows]
    rcases hlow with hoff | hmissing
    · rw [hoff, Bool.false_and]
    · rw [Bool.and_eq_false_iff]
      exact Or.inr (by simpa using hmissing)
  refine ⟨?_, ?_, ?_⟩
  · intro hasked d₁ d₂ hsame groups' id'
    have hblind : Blind v d₁.lookup d₂.lookup
        (answer g groups caller .report found (seen g caller r)) :=
      (blind_done _).bind fun cluster => (blind_report hdenied cluster _ hsame).mapError _
    have hequal := hblind []
    rw [served_of_asked groups id hasked hget, served_of_asked groups' id' hasked hget, hequal]
    simp only [dressed_status, dressed_body]
    exact ⟨rfl, rfl, rfl⟩
  · intro hasked content
    exact shows_served hasked hget
      (ends_ofCaptures_bind _ fun cluster => ends_ofHandler (ends_report hdenied cluster _))
      v content id
  · intro hasked content
    exact shows_served hasked hget
      (ends_ofCaptures_bind _ fun names => ends_ofHandler (ends_rule hdenied names.1 _ names.2))
      v content id

end Answers

section Stranger

/-- A gateway that shows internal rules to organization `1` alone. -/
def oneEntitled : Gateway where
  path := "/api/v2"
  enableCors := false
  aggregator := ⟨"http", "", none, some (.name "results"), none, .segments [""], false, none, none⟩
  content := ⟨"http", "", none, some (.name "content"), none, .segments [""], false, none, none⟩
  roster := {
    aggregator :=
      ⟨"http", "", none, some (.name "results"), none, .segments [""], false, none, none⟩
    membership := none
    useFallback := true }
  access := ⟨true, ["1"]⟩

/-- Organization `7` asks for the report of a cluster. -/
def strangerAsks : Inbound where
  method := "GET"
  path := "/api/v2/report/00000000-0000-0000-0000-000000000000"
  query := none
  headers := headersOf "7" "u"
  body := .empty
  caller := none

/-- Services that report one hit of one rule. -/
def reportOneHit : Services := fun _ _ =>
  .answer { status := 200, headers := [], body := (okay [("report",
    (Report.mk .empty [⟨"rule", "KEY", 0, false, "", "", .null, ""⟩]).toJson)]).body } true

/-- Internal content of that rule. -/
def internalContent : RuleContent :=
  ⟨"rule", "KEY", "for staff", "", "", "", "", 1, 1, [], true, true, ""⟩

/-- A directory that holds internal content of that rule, and one that holds nothing. -/
def stocked : Content.Directory := .ofContents [internalContent]

def barren : Content.Directory := .ofContents []

theorem report_hides_internal_of_stranger :
    Asked oneEntitled strangerAsks ⟨"7", "", "u"⟩ .report
        [("cluster", "00000000-0000-0000-0000-000000000000")] ∧
      Content.SameInPublic stocked.lookup barren.lookup ∧
      (served oneEntitled reportOneHit stocked.lookup .none "1" strangerAsks).1.status = 200 ∧
      (served oneEntitled reportOneHit stocked.lookup .none "1" strangerAsks).1.body
        = (served oneEntitled reportOneHit barren.lookup .none "2" strangerAsks).1.body ∧
      ReportsNoInternal
        (served oneEntitled reportOneHit stocked.lookup .none "1" strangerAsks).1.body := by
  have hasked : Asked oneEntitled strangerAsks ⟨"7", "", "u"⟩ .report
      [("cluster", "00000000-0000-0000-0000-000000000000")] := by decide +kernel
  have hlow : (⟨"7", "", "u"⟩ : Caller).org ∉ oneEntitled.access.organizations := by decide
  have hsame : Content.SameInPublic stocked.lookup barren.lookup := fun ruleId errorKey =>
    Or.inr ⟨Content.holdsNoPublic_ofContents (by simp [internalContent]) ruleId errorKey,
      Content.holdsNoPublic_ofContents (by simp) ruleId errorKey⟩
  have hstatus :
      (served oneEntitled reportOneHit stocked.lookup .none "1" strangerAsks).1.status = 200 := by
    decide +kernel
  have hget : strangerAsks.method = "GET" := rfl
  obtain ⟨hequal, hshown, -⟩ := report_hides_internal (Or.inr hlow) hget .none "1" reportOneHit
  exact ⟨hasked, hsame, hstatus, (hequal hasked stocked barren hsame .none "2").2.1,
    hshown hasked stocked.lookup hstatus⟩

end Stranger

end Gateway

end ReportGateway
