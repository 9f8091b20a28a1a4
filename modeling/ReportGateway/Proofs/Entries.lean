import ReportGateway.Proofs.Lookups
import ReportGateway.Proofs.Secrecy
import ReportGateway.Proofs.Verdict

/-!
Where the entries of a report come from. An answer to the question for a report is read from the last
exchange (`Aggregator.exists_of_ask`), and each entry that is shown of it joins one of its hits, in
their order, with content that a lookup has found (`Visibility.exists_hits_of_filter`). So whatever a
directory was used for before it was asked, what an entry says about its rule is what the list that
was loaded last has for the entry's own pair, and what it says about the cluster is what the hit says
(`Gateway.entries_come_from_last_load`).
-/

namespace ReportGateway

open ReportGateway.Action (Ends ends_any ends_done)
open Content (Directory IsLast IsTold Table Use loads)
open Http (isSuccess)

namespace Action

variable {ε α β : Type} {v : Services} {content : Content.Lookup} {journal later : Journal}

/-- What ends in a value has ended in a value before. -/
theorem exists_of_among_bind {a : Action ε α} {f : α → Action ε β} {y : β}
    (h : (a >>= f).among v content journal = (.ok y, later)) :
    ∃ x mid, a.among v content journal = (.ok x, mid) ∧
      (f x).among v content mid = (.ok y, later) := by
  rw [among_bind] at h
  rcases ha : a.among v content journal with ⟨e | x, mid⟩
  · rw [ha] at h
    cases h
  · rw [ha] at h
    exact ⟨x, mid, rfl, h⟩

theorem exists_of_among_mapError {ε' : Type} {a : Action ε α} {f : ε → ε'} {y : α}
    (h : (a.mapError f).among v content journal = (.ok y, later)) :
    a.among v content journal = (.ok y, later) := by
  rw [among_mapError] at h
  rcases ha : a.among v content journal with ⟨e | x, mid⟩
  · rw [ha] at h
    cases h
  · rw [ha] at h
    cases h
    rfl

end Action

namespace Http.Client

/-- What is received is the reply of the last exchange. -/
theorem Leads.getLast?_of_received {left : Nat} {r : Request} {made : Journal} {outcome : Outcome}
    (h : Leads left r made outcome) {response : Response} {complete : Bool}
    (hreceived : outcome = .received response complete) :
    ∃ request, made.getLast? = some (request, .answer response complete) := by
  induction h with
  | @ended _ r reply _ =>
      cases reply with
      | unreachable => cases hreceived
      | silent => cases hreceived
      | answer _ _ =>
          cases hreceived
          exact ⟨r, rfl⟩
  | exhausted _ => cases hreceived
  | unsendable _ _ => cases hreceived
  | redirected _ _ _ ih =>
      obtain ⟨request, hlast⟩ := ih hreceived
      exact ⟨request, by rw [List.getLast?_cons, hlast, Option.getD_some]⟩

theorem Sends.getLast?_of_received {r : Request} {made : Journal} {outcome : Outcome}
    (h : Sends r made outcome) {response : Response} {complete : Bool}
    (hreceived : outcome = .received response complete) :
    ∃ request, made.getLast? = some (request, .answer response complete) := by
  cases h with
  | unwritable _ => cases hreceived
  | led _ hled => exact hled.getLast?_of_received hreceived

end Http.Client

namespace Aggregator

variable {α : Type} {read : Json.Read α}

theorem exists_of_interpret {outcome : Http.Outcome} {x : α} (h : interpret read outcome = .ok x) :
    ∃ response, outcome = .received response true ∧ isSuccess response.status = true ∧
      read.ofBytes? response.body.data.toList = some x := by
  cases outcome with
  | unbuildable => cases h
  | failed => cases h
  | received response complete =>
      cases complete with
      | false => cases h
      | true =>
          rw [interpret] at h
          split at h
          · rename_i hsuccess
            cases hread : read.ofBytes? response.body.data.toList with
            | none =>
                rw [hread] at h
                cases h
            | some y =>
                rw [hread] at h
                cases h
                exact ⟨response, rfl, hsuccess, hread⟩
          · cases h

/-- What a question comes to is read from the last exchange. -/
theorem exists_of_ask {base : Url} {template : Url.Template} {params : List String}
    {payload : Option ByteArray} {v : Services} {content : Content.Lookup} {x : α} {later : Journal}
    (h : (ask base template params payload read).among v content [] = (.ok x, later)) :
    ∃ request response, later.getLast? = some (request, .answer response true) ∧
      isSuccess response.status = true ∧ read.ofBytes? response.body.data.toList = some x := by
  cases hurl : base.resource? template params with
  | none =>
      rw [ask_of_none _ _ hurl] at h
      cases h
  | some url =>
      rw [ask_of_some _ _ hurl, Http.Client.among_send_bind, Prod.mk.injEq] at h
      obtain ⟨made, hsends, hmade, -⟩ := Http.Client.sends_send v (requestFor url payload) []
      obtain ⟨response, hreceived, hsuccess, hread⟩ := exists_of_interpret h.1
      obtain ⟨request, hlast⟩ := hsends.getLast?_of_received hreceived
      refine ⟨request, response, ?_, hsuccess, hread⟩
      rw [← h.2, hmade, List.nil_append]
      exact hlast

end Aggregator

namespace Visibility

/-- One more hit adds nothing to the visible ones, or its join with the content that was found. -/
theorem visible_add (p : Policy) (h : RuleHit) (found : Option RuleContent) (f : Filtered) :
    (f.add p h found).visible = f.visible ∨
      ∃ c, found = some c ∧ (f.add p h found).visible = RuleEntry.join h c :: f.visible := by
  unfold Filtered.add
  split
  · exact Or.inr ⟨_, rfl, rfl⟩
  · exact Or.inl rfl
  · exact Or.inl rfl

/-- What is shown of hits joins some of them, in their order, with what lookups have found. -/
theorem exists_hits_of_filter {p : Policy} {hits : List RuleHit} {v : Services}
    {content : Content.Lookup} {journal later : Journal} {f : Filtered}
    (h : (filter p hits).among v content journal = (.ok f, later)) :
    ∃ kept, kept.Sublist hits ∧ List.Forall₂ (fun hit e =>
      ∃ c, content hit.component hit.key = .ok (some c) ∧ e = RuleEntry.join hit c)
        kept f.visible := by
  induction hits generalizing journal later f with
  | nil =>
      cases h
      exact ⟨[], List.Sublist.refl _, .nil⟩
  | cons hit hits ih =>
      rw [filter] at h
      split at h
      · obtain ⟨rest, _, hrest, h⟩ := Action.exists_of_among_bind h
        cases h
        obtain ⟨kept, hkept, hjoined⟩ := ih hrest
        exact ⟨kept, hkept.cons _, hjoined⟩
      · obtain ⟨found, _, hfound, h⟩ := Action.exists_of_among_bind h
        obtain ⟨rest, _, hrest, h⟩ := Action.exists_of_among_bind h
        cases h
        obtain ⟨kept, hkept, hjoined⟩ := ih hrest
        obtain ⟨hfound, -⟩ := Prod.mk.inj hfound
        rcases visible_add p hit found rest with hsame | ⟨c, rfl, hjoin⟩
        · rw [hsame]
          exact ⟨kept, hkept.cons _, hjoined⟩
        · rw [hjoin]
          exact ⟨hit :: kept, hkept.cons_cons _, .cons ⟨c, hfound, rfl⟩ hjoined⟩

end Visibility

/-- An entry says about its rule what content says. -/
structure RuleEntry.Describes (e : RuleEntry) (c : RuleContent) : Prop where
  description : e.description = c.description
  texts : e.generic = c.generic ∧ e.reason = c.reason ∧ e.resolution = c.resolution ∧
    e.moreInfo = c.moreInfo
  risks : e.totalRisk = c.totalRisk ∧ e.riskOfChange = c.riskOfChange
  tags : e.tags = c.tags
  internal : e.internal = c.internal

/-- An entry says about a cluster what a hit says. -/
structure RuleEntry.Records (e : RuleEntry) (h : RuleHit) : Prop where
  rule : e.ruleId = h.component ∧ e.errorKey = h.key
  createdAt : e.createdAt = h.createdAt
  disabled : e.disabled = h.disabled ∧ e.disableFeedback = h.disableFeedback ∧
    e.disabledAt = h.disabledAt
  vote : e.userVote = h.userVote
  details : e.extraData = h.details

theorem RuleEntry.describes_join (h : RuleHit) (c : RuleContent) : (join h c).Describes c :=
  ⟨rfl, ⟨rfl, rfl, rfl, rfl⟩, ⟨rfl, rfl⟩, rfl, rfl⟩

theorem RuleEntry.records_join (h : RuleHit) (c : RuleContent) : (join h c).Records h :=
  ⟨⟨rfl, rfl⟩, rfl, ⟨rfl, rfl, rfl⟩, rfl, rfl⟩

namespace Gateway

section Report

variable {g : Gateway} {caller : Caller} {r : Inbound} {raw : String} {v : Services}
  {content : Content.Lookup} {later : Journal}

/-- The report that is shown was read from the last exchange and then filtered. -/
theorem exists_of_report {response : Http.Response}
    (h : (report g caller raw r).among v content [] = (.ok response, later)) :
    ∃ request answer found policy filtered metadata,
      later.getLast? = some (request, .answer answer true) ∧ isSuccess answer.status = true ∧
      (Json.Read.envelope "report" Report.read).ofBytes? answer.body.data.toList = some found ∧
      (Visibility.filter policy found.hits).among v content later = (.ok filtered, later) ∧
      response.body = reportBody metadata filtered.visible := by
  rw [report] at h
  obtain ⟨cluster, _, hcluster, hchecked⟩ := Action.exists_of_among_bind h
  obtain ⟨includeDisabled, _, hflag, hknown⟩ := Action.exists_of_among_bind hchecked
  dsimp only at hknown
  obtain ⟨found, mid, hfound, hrest⟩ := Action.exists_of_among_bind hknown
  obtain ⟨filtered, _, hmapped, hended⟩ := Action.exists_of_among_bind hrest
  have hfiltered := Action.exists_of_among_mapError hmapped
  have hnobody := Visibility.asksNobody_filter (Visibility.Policy.forReport includeDisabled
    (lenientFlag r "osd_eligible") (g.access.allows caller.org)) found.hits v content mid
  cases hended
  rw [hfiltered] at hnobody
  obtain rfl : later = mid := hnobody
  obtain ⟨-, rfl⟩ := Prod.mk.inj hcluster
  obtain ⟨-, rfl⟩ := Prod.mk.inj hflag
  obtain ⟨request, answer, hlast, hsuccess, hread⟩ := Aggregator.exists_of_ask hfound
  exact ⟨request, answer, found, _, filtered, _, hlast, hsuccess, hread, hfiltered, rfl⟩

theorem settles_report (g : Gateway) (caller : Caller) (r : Inbound) (raw : String) :
    Ends (Settles fun _ => True) (report g caller raw r) := by
  rw [report]
  refine (ends_done (settles_clusterName raw)).bind (fun _ => id) fun cluster _ => ?_
  refine (ends_done (settles_strictFlag r _)).bind (fun _ => id) fun includeDisabled _ => ?_
  refine (Aggregator.ends_ask _ _ _ _ _).bind (fun _ => id) fun found _ => ?_
  refine Ends.bind (Q := Settles fun _ => True) ((ends_any _).mapError fun x _ => ?_) (fun _ => id)
    fun filtered _ => ends_return trivial
  cases x with
  | error e => exact Failure.refuses_ofContent e
  | ok f => exact trivial

/-- An answer of status 200 to a request for a report is one that the endpoint for reports comes to. -/
theorem exists_of_report_served {found : List (String × String)} {groups : Content.Groups}
    {id : String} (hasked : Asked g r caller .report found) (hget : r.method = "GET")
    (hstatus : (served g v content groups id r).1.status = 200) :
    ∃ raw response, (report g caller raw (seen g caller r)).among v content []
        = (.ok response, (served g v content groups id r).2) ∧
      (served g v content groups id r).1.body = response.body := by
  rw [served_of_asked groups id hasked hget] at hstatus ⊢
  rw [dressed_status] at hstatus
  rw [dressed_body]
  cases hraw : capture found with
  | error e =>
      rw [answer, ofCaptures, hraw] at hstatus
      exact (shows_captures (fun _ => False) e hstatus).elim
  | ok raw =>
      have hanswer : answer g groups caller .report found (seen g caller r)
          = ofHandler (report g caller raw (seen g caller r)) := by
        rw [answer, ofCaptures, hraw]
        rfl
      have hsettles := settles_report g caller (seen g caller r) raw v content []
      rw [hanswer, ofHandler, Action.among_mapError] at hstatus ⊢
      rcases hended : (report g caller raw (seen g caller r)).among v content [] with
        ⟨f | response, later⟩
      · rw [hended] at hstatus hsettles
        exact absurd hstatus hsettles
      · exact ⟨raw, response, hended, rfl⟩

end Report

/-- To a directory that is loaded and looked at in any order, everything is said that is right: after a
load, how many pairs of rule id and error key the list has entries of; to a lookup, before the first
load, that nothing is loaded, and after that, the last entry of the pair in the list that was loaded
last. A table that is filled entry by entry with each list says the same. And in a report that a client
gets, each entry stands for a hit of the report that the results store has given, in the same order: it
says about the cluster what the hit says, and about the rule what the list that was loaded last before
its content was looked up has, as its last entry, for the pair of the entry itself. (Of which uses a
lookup comes after may differ from pair to pair, since a directory may be loaded while a report is put
together.) -/
theorem entries_come_from_last_load :
    (∀ uses : List Use,
      (Directory.keeping.said .empty uses).length = uses.length ∧
      Table.keeping.said none uses = Directory.keeping.said .empty uses ∧
      ∀ before u rest, uses = before ++ u :: rest →
        ∃ told, (Directory.keeping.said .empty uses)[before.length]? = some told ∧
          IsTold before u told) ∧
    ∀ (g : Gateway) groups id v caller found r (before : String → String → List Use),
      Asked g r caller .report found → r.method = "GET" →
      (served g v (Directory.lookupAfter before) groups id r).1.status = 200 →
      ∃ request answer stored metadata entries hits,
        (served g v (Directory.lookupAfter before) groups id r).2.getLast?
          = some (request, .answer answer true) ∧
        isSuccess answer.status = true ∧
        (Json.Read.envelope "report" Report.read).ofBytes? answer.body.data.toList = some stored ∧
        (served g v (Directory.lookupAfter before) groups id r).1.body
          = reportBody metadata entries ∧
        hits.Sublist stored.hits ∧
        List.Forall₂ (fun hit e => RuleEntry.Records e hit ∧ ∃ contents c,
          (loads (before e.ruleId e.errorKey)).getLast? = some contents ∧
          IsLast contents (e.ruleId, e.errorKey) (some c) ∧ e.Describes c) hits entries := by
  refine ⟨fun uses => ⟨Directory.keeping.length_said _ uses, Table.said_eq uses, ?_⟩, ?_⟩
  · rintro before u rest rfl
    exact ⟨_, Directory.keeping.getElem?_said _ before u rest, Directory.isTold_use before u⟩
  · intro g groups id v caller found r before hasked hget hstatus
    obtain ⟨raw, response, hreport, hbody⟩ := exists_of_report_served hasked hget hstatus
    obtain ⟨request, answer, stored, policy, filtered, metadata, hlast, hsuccess, hread, hfiltered,
      hshown⟩ := exists_of_report hreport
    obtain ⟨hits, hhits, hjoined⟩ := Visibility.exists_hits_of_filter hfiltered
    refine ⟨request, answer, stored, metadata, filtered.visible, hits, hlast, hsuccess, hread,
      hbody.trans hshown, hhits, hjoined.imp ?_⟩
    rintro hit _ ⟨c, hfound, rfl⟩
    refine ⟨RuleEntry.records_join hit c, ?_⟩
    obtain ⟨contents, hloads, hcounts⟩ := Directory.exists_of_lookupAfter hfound
    exact ⟨contents, c, hloads, hcounts, RuleEntry.describes_join hit c⟩

section Revised

/-- A list is loaded and looked at, and then another that has two entries of one rule. -/
def revised : List Use :=
  [.load [contentSaying "old"], .lookup "rule" "KEY",
    .load [contentSaying "draft", contentSaying "new"]]

theorem entries_come_from_last_load_of_revised :
    Asked oneEntitled strangerAsks ⟨"7", "", "u"⟩ .report
        [("cluster", "00000000-0000-0000-0000-000000000000")] ∧
      Table.keeping.said none revised
        = [.count 1, .answer (.ok (some (contentSaying "old"))), .count 1] ∧
      ∃ metadata entries,
        (served oneEntitled reportOneHit (Directory.lookupAfter fun _ _ => revised) .none "1"
          strangerAsks).1.body = reportBody metadata entries ∧
        ∀ e ∈ entries, e.description = "new" := by
  have hasked : Asked oneEntitled strangerAsks ⟨"7", "", "u"⟩ .report
      [("cluster", "00000000-0000-0000-0000-000000000000")] := by decide +kernel
  have hstatus : (served oneEntitled reportOneHit (Directory.lookupAfter fun _ _ => revised) .none "1"
      strangerAsks).1.status = 200 := by decide +kernel
  have hsaid : Directory.keeping.said .empty revised
      = [.count 1, .answer (.ok (some (contentSaying "old"))), .count 1] := by decide +kernel
  have hget : strangerAsks.method = "GET" := rfl
  obtain ⟨huses, hreports⟩ := entries_come_from_last_load
  obtain ⟨-, hsame, -⟩ := huses revised
  obtain ⟨_, _, _, metadata, entries, hits, -, -, -, hbody, -, hjoined⟩ :=
    hreports oneEntitled .none "1" reportOneHit _ _ _ (fun _ _ => revised) hasked hget hstatus
  refine ⟨hasked, hsame.trans hsaid, metadata, entries, hbody, fun e he => ?_⟩
  obtain ⟨hlength, hentries⟩ := List.forall₂_iff_get.mp hjoined
  obtain ⟨i, rfl⟩ := List.mem_iff_get.mp he
  obtain ⟨-, contents, c, hloads, hcounts, hdescribes⟩ := hentries i (hlength.symm ▸ i.isLt) i.isLt
  obtain rfl : [contentSaying "draft", contentSaying "new"] = contents := Option.some.inj hloads
  obtain ⟨hmem, hpair⟩ := hcounts.mem
  have hrule : c.pair = ("rule", "KEY") := by
    simp only [List.mem_cons, List.not_mem_nil, or_false] at hmem
    rcases hmem with rfl | rfl <;> rfl
  rw [← hpair, hrule] at hcounts
  obtain rfl : contentSaying "new" = c := Option.some.inj (Content.find?_eq_iff.mpr hcounts)
  exact hdescribes.description

end Revised

end Gateway

end ReportGateway
