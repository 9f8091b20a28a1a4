import ReportGateway.Proofs.Verdict

/-!
Where the clusters of an organization come from. `AsksMembers` and `AsksStore` are the two questions
that can be asked, each of them once and with the exchanges that sending one request makes, and
`Tells` says for each `Source` when it is the one that tells, what it tells and which exchanges are
made for it. The membership service tells whenever it gives a whole answer of success that can be read
(`Membership.listed?`), however few clusters that lists; only then is the results store left alone
although it might be asked. Exactly one source tells (`Tells.unique`), and looking clusters up ends in
what it tells (`Roster.clusters_have_one_source`).
-/

namespace ReportGateway

open Http (Outcome isSuccess)
open Http.Client (Sends)
open Json (Read)

namespace Http.Client

/-- Among services and after a journal, sending a request makes these exchanges and has this
outcome. -/
structure Makes (v : Services) (journal : Journal) (r : Request) (made : Journal)
    (outcome : Outcome) : Prop where
  sends : Sends r made outcome
  sent : sent v r journal = (outcome, journal ++ made)

section Makes

variable {v : Services} {journal : Journal} {r : Request}

variable (v journal r) in
theorem exists_makes : ∃ made outcome, Makes v journal r made outcome := by
  obtain ⟨made, hsends, hlater, -⟩ := sends_send v r journal
  exact ⟨made, _, hsends, Prod.ext rfl hlater⟩

theorem Makes.unique {made made' : Journal} {outcome outcome' : Outcome}
    (h : Makes v journal r made outcome) (h' : Makes v journal r made' outcome') :
    made = made' ∧ outcome = outcome' := by
  have hsame : (outcome, journal ++ made) = (outcome', journal ++ made') := h.sent.symm.trans h'.sent
  obtain ⟨houtcome, hmade⟩ := Prod.mk.inj hsame
  exact ⟨List.append_cancel_left hmade, houtcome⟩

theorem Makes.among_send_bind {made : Journal} {outcome : Outcome} {ε α : Type}
    (h : Makes v journal r made outcome) (f : Outcome → Except ε α) (content : Content.Lookup) :
    (send r >>= fun outcome => Action.done (f outcome)).among v content journal
      = (f outcome, journal ++ made) := by
  rw [Client.among_send_bind, h.sent]

end Makes

end Http.Client

open Http.Client (Makes exists_makes)

/-- A cluster is named by the last record that there is of it. -/
theorem ClusterSet.lookup_displayNames (clusters : List Cluster) (id : String) :
    (ofRecords clusters).displayNames.lookup id
      = (clusters.reverse.find? (·.id = id)).map Cluster.displayName := by
  rw [ofRecords, Json.lookup_inOrder, ← List.map_reverse]
  induction clusters.reverse with
  | nil => rfl
  | cons c clusters ih =>
      rw [List.map_cons, List.lookup_cons, List.find?_cons]
      by_cases hid : c.id = id
      · simp [hid]
      · have hne : (id == c.id) = false := by simpa using fun h : id = c.id => hid h.symm
        simpa [hid, hne] using ih

namespace Membership

/-- The records that an answer lists, if it arrived whole, says success and can be read. -/
def listed? : Outcome → Option (List Cluster)
  | .received response true =>
    if isSuccess response.status then
      (Read.envelope "clusters" (Read.listOf Cluster.read)).ofBytes? response.body.data.toList
    else none
  | .received _ false => none
  | .failed => none
  | .unbuildable => none

variable {excluded : List String} {outcome : Outcome}

theorem interpret_of_listed {records : List Cluster} (h : listed? outcome = some records) :
    interpret excluded outcome = .ok (.ofRecords (records.filter (keeps excluded))) := by
  cases outcome with
  | unbuildable => cases h
  | failed => cases h
  | received response complete =>
      cases complete with
      | false => cases h
      | true =>
          by_cases hsuccess : isSuccess response.status = true
          · have hread : (Read.envelope "clusters" (Read.listOf Cluster.read)).ofBytes?
                response.body.data.toList = some records := by
              simpa [listed?, hsuccess] using h
            simp [interpret, hsuccess, hread]
          · simp [listed?, hsuccess] at h

theorem interpret_of_not_listed (h : listed? outcome = none) :
    ∃ e, interpret excluded outcome = .error e := by
  cases outcome with
  | unbuildable => exact ⟨_, rfl⟩
  | failed => exact ⟨_, rfl⟩
  | received response complete =>
      by_cases hsuccess : isSuccess response.status = true
      · cases complete with
        | false => exact ⟨_, by simp [interpret, hsuccess]; rfl⟩
        | true =>
            have hread : (Read.envelope "clusters" (Read.listOf Cluster.read)).ofBytes?
                response.body.data.toList = none := by
              simpa [listed?, hsuccess] using h
            exact ⟨_, by simp [interpret, hsuccess, hread]; rfl⟩
      · exact ⟨_, by rw [interpret, if_neg hsuccess]⟩

/-- Of the clusters that are listed, the decommissioned ones are left out. -/
theorem keeps_excludedStatuses :
    keeps Roster.excludedStatuses
      = fun c => decide (c.status ≠ some "Deprovisioned" ∧ c.status ≠ some "Archived") := by
  funext c
  unfold keeps
  cases c.status with
  | none => simp
  | some status => simp [Roster.excludedStatuses]

end Membership

/-- What a verdict says a question ends in is what its outcome means. -/
theorem Question.eq_interpret_of_fits {q : Question} {outcome : Outcome}
    {result : Except Failure q.Answer} {verdict : Verdict} (h : q.Fits outcome result verdict) :
    result = Aggregator.interpret q.read outcome := by
  cases verdict with
  | unsendable =>
      obtain ⟨rfl, rfl⟩ := h
      rfl
  | unanswered =>
      obtain ⟨rfl | ⟨response, rfl⟩, rfl⟩ := h
      · rfl
      · rfl
  | refused =>
      obtain ⟨response, rfl, hsuccess, rfl⟩ := h
      simp [Aggregator.interpret, hsuccess]
  | answered =>
      obtain ⟨response, x, rfl, hsuccess, hread, rfl⟩ := h
      simp [Aggregator.interpret, hsuccess, hread]
  | unreadable =>
      obtain ⟨response, rfl, hsuccess, hread, rfl⟩ := h
      simp [Aggregator.interpret, hsuccess, hread]

/-- Who tells the clusters of an organization. -/
inductive Source
  | membership
  | store
  | nobody

namespace Roster

variable (r : Roster) (org : String) (v : Services) (journal : Journal)

/-- The membership service is asked once for the clusters of an organization, with these exchanges and
this outcome. Nobody is asked without such a service, or when the organization has no place in it. -/
inductive AsksMembers : Journal → Option Outcome → Prop
  | noService (hnone : r.membership = none) : AsksMembers [] none
  | noPlace {base : Url} (hbase : r.membership = some base)
      (hplace : Membership.listing? base org excludedStatuses = none) : AsksMembers [] none
  | asked {base url : Url} {made : Journal} {outcome : Outcome} (hbase : r.membership = some base)
      (hplace : Membership.listing? base org excludedStatuses = some url)
      (hmakes : Makes v journal (.get url) made outcome) : AsksMembers made (some outcome)

/-- The results store is asked once for the clusters of an organization, with these exchanges, and the
question ends so. Nobody is asked when the organization has no place in it. -/
inductive AsksStore : Journal → Except Failure (List String) → Prop
  | noPlace (hplace : r.aggregator.resource? Aggregator.listingTemplate [org] = none) :
    AsksStore [] (.error (Aggregator.unplaced Aggregator.listingTemplate))
  | asked {url : Url} {made : Journal} {outcome : Outcome} {x : Except Failure (List String)}
      {verdict : Verdict}
      (hplace : r.aggregator.resource? Aggregator.listingTemplate [org] = some url)
      (hmakes : Makes v journal (.get url) made outcome)
      (hfits : (Question.clusters org).Fits outcome x verdict) : AsksStore made x

/-- A source tells the clusters of an organization so, with these exchanges. -/
inductive Tells : Source → Except Failure ClusterSet → Journal → Prop
  | membership {asked : Journal} {outcome : Option Outcome} {records : List Cluster}
      (hasked : AsksMembers r org v journal asked outcome)
      (hlisted : outcome.bind Membership.listed? = some records) :
      Tells .membership (.ok (.ofRecords (records.filter fun c =>
        c.status ≠ some "Deprovisioned" ∧ c.status ≠ some "Archived"))) asked
  | store {asked stored : Journal} {outcome : Option Outcome} {x : Except Failure (List String)}
      (hasked : AsksMembers r org v journal asked outcome)
      (hnone : outcome.bind Membership.listed? = none) (hfallback : r.useFallback = true)
      (hstore : AsksStore r org v (journal ++ asked) stored x) :
      Tells .store (x.map .ofIds) (asked ++ stored)
  | nobody {asked : Journal} {outcome : Option Outcome}
      (hasked : AsksMembers r org v journal asked outcome)
      (hnone : outcome.bind Membership.listed? = none) (hfallback : r.useFallback = false) :
      Tells .nobody (.error (.unavailable .membership)) asked

section Unique

variable {r org v journal}

theorem AsksMembers.unique {asked asked' : Journal} {outcome outcome' : Option Outcome}
    (h : AsksMembers r org v journal asked outcome)
    (h' : AsksMembers r org v journal asked' outcome') : asked = asked' ∧ outcome = outcome' := by
  cases h with
  | noService hnone =>
      cases h' with
      | noService _ => exact ⟨rfl, rfl⟩
      | noPlace _ _ => exact ⟨rfl, rfl⟩
      | asked hbase _ _ =>
          rw [hnone] at hbase
          cases hbase
  | noPlace hbase hplace =>
      cases h' with
      | noService _ => exact ⟨rfl, rfl⟩
      | noPlace _ _ => exact ⟨rfl, rfl⟩
      | asked hbase' hplace' _ =>
          cases hbase.symm.trans hbase'
          rw [hplace] at hplace'
          cases hplace'
  | asked hbase hplace hmakes =>
      cases h' with
      | noService hnone =>
          rw [hnone] at hbase
          cases hbase
      | noPlace hbase' hplace' =>
          cases hbase.symm.trans hbase'
          rw [hplace] at hplace'
          cases hplace'
      | asked hbase' hplace' hmakes' =>
          cases hbase.symm.trans hbase'
          cases hplace.symm.trans hplace'
          obtain ⟨hmade, houtcome⟩ := hmakes.unique hmakes'
          exact ⟨hmade, congrArg some houtcome⟩

theorem AsksStore.unique {stored stored' : Journal} {x x' : Except Failure (List String)}
    (h : AsksStore r org v journal stored x) (h' : AsksStore r org v journal stored' x') :
    stored = stored' ∧ x = x' := by
  cases h with
  | noPlace hplace =>
      cases h' with
      | noPlace _ => exact ⟨rfl, rfl⟩
      | asked hplace' _ _ =>
          rw [hplace] at hplace'
          cases hplace'
  | asked hplace hmakes hfits =>
      cases h' with
      | noPlace hplace' =>
          rw [hplace] at hplace'
          cases hplace'
      | asked hplace' hmakes' hfits' =>
          cases hplace.symm.trans hplace'
          obtain ⟨rfl, rfl⟩ := hmakes.unique hmakes'
          exact ⟨rfl, (Question.eq_interpret_of_fits hfits).trans
            (Question.eq_interpret_of_fits hfits').symm⟩

/-- No two sources tell the clusters of an organization, and none tells them in two ways. -/
theorem Tells.unique {source source' : Source} {x x' : Except Failure ClusterSet}
    {made made' : Journal} (h : Tells r org v journal source x made)
    (h' : Tells r org v journal source' x' made') : source = source' ∧ x = x' ∧ made = made' := by
  cases h with
  | membership hasked hlisted =>
      cases h' with
      | membership hasked' hlisted' =>
          obtain ⟨rfl, rfl⟩ := hasked.unique hasked'
          cases hlisted.symm.trans hlisted'
          exact ⟨rfl, rfl, rfl⟩
      | store hasked' hnone _ _ =>
          obtain ⟨rfl, rfl⟩ := hasked.unique hasked'
          cases hlisted.symm.trans hnone
      | nobody hasked' hnone _ =>
          obtain ⟨rfl, rfl⟩ := hasked.unique hasked'
          cases hlisted.symm.trans hnone
  | store hasked hnone hfallback hstore =>
      cases h' with
      | membership hasked' hlisted =>
          obtain ⟨rfl, rfl⟩ := hasked.unique hasked'
          cases hnone.symm.trans hlisted
      | store hasked' _ _ hstore' =>
          obtain ⟨rfl, rfl⟩ := hasked.unique hasked'
          obtain ⟨rfl, rfl⟩ := hstore.unique hstore'
          exact ⟨rfl, rfl, rfl⟩
      | nobody _ _ hfallback' => cases hfallback.symm.trans hfallback'
  | nobody hasked hnone hfallback =>
      cases h' with
      | membership hasked' hlisted =>
          obtain ⟨rfl, rfl⟩ := hasked.unique hasked'
          cases hnone.symm.trans hlisted
      | store _ _ hfallback' _ => cases hfallback.symm.trans hfallback'
      | nobody hasked' _ _ =>
          obtain ⟨rfl, rfl⟩ := hasked.unique hasked'
          exact ⟨rfl, rfl, rfl⟩

end Unique

/-- What the question to the membership service ends in when it had this outcome. -/
def told : Option Outcome → Except Membership.Error ClusterSet
  | none => .error .invalidUrl
  | some outcome => Membership.interpret excludedStatuses outcome

theorem asksMembers_inquiry (content : Content.Lookup) :
    ∃ asked outcome, AsksMembers r org v journal asked outcome ∧
      (r.inquiry org).among v content journal = (told outcome, journal ++ asked) := by
  unfold inquiry
  cases hbase : r.membership with
  | none => exact ⟨[], none, .noService hbase, by simp [told]⟩
  | some base =>
      dsimp only
      cases hplace : Membership.listing? base org excludedStatuses with
      | none => exact ⟨[], none, .noPlace hbase hplace, by simp [Membership.clusters, hplace, told]⟩
      | some url =>
          obtain ⟨made, outcome, hmakes⟩ := exists_makes v journal (.get url)
          refine ⟨made, some outcome, .asked hbase hplace hmakes, ?_⟩
          rw [Membership.clusters, hplace]
          exact hmakes.among_send_bind _ content

theorem asksStore_clusters (content : Content.Lookup) :
    ∃ stored x, AsksStore r org v journal stored x ∧
      (Aggregator.clusters r.aggregator org).among v content journal = (x, journal ++ stored) := by
  cases hplace : r.aggregator.resource? Aggregator.listingTemplate [org] with
  | none =>
      refine ⟨[], _, .noPlace hplace, ?_⟩
      rw [Aggregator.clusters, Aggregator.ask_of_none _ _ hplace, List.append_nil]
      rfl
  | some url =>
      obtain ⟨made, outcome, hmakes⟩ := exists_makes v journal (.get url)
      have hfits := ((Question.clusters org).fits_iff outcome _).mpr rfl
      refine ⟨made, _, .asked hplace hmakes hfits, ?_⟩
      rw [Aggregator.clusters, Aggregator.ask_of_some _ _ hplace]
      exact hmakes.among_send_bind _ content

/-- Looking clusters up ends in what the source tells. -/
theorem tells_clusters (content : Content.Lookup) :
    ∃ source x made, Tells r org v journal source x made ∧
      (r.clusters org).among v content journal = (x, journal ++ made) := by
  obtain ⟨asked, outcome, hasked, hinquiry⟩ := r.asksMembers_inquiry org v journal content
  rw [clusters_eq_settle, Action.among_settle, hinquiry]
  cases hlisted : outcome.bind Membership.listed? with
  | some records =>
      refine ⟨.membership, _, asked, .membership hasked hlisted, ?_⟩
      obtain ⟨outcome, rfl, hread⟩ := Option.bind_eq_some_iff.mp hlisted
      simp only [told, Membership.interpret_of_listed hread, resolve, Action.among_pure,
        Membership.keeps_excludedStatuses]
  | none =>
      have herror : ∃ e, told outcome = .error e := by
        cases outcome with
        | none => exact ⟨_, rfl⟩
        | some outcome => exact Membership.interpret_of_not_listed hlisted
      obtain ⟨e, he⟩ := herror
      rw [he]
      dsimp only
      cases hfallback : r.useFallback with
      | false =>
          refine ⟨.nobody, _, asked, .nobody hasked hlisted hfallback, ?_⟩
          rw [r.resolve_error org hfallback, Action.among_fail]
      | true =>
          obtain ⟨stored, x, hstore, hstored⟩ := r.asksStore_clusters org v (journal ++ asked) content
          refine ⟨.store, _, asked ++ stored, .store hasked hlisted hfallback hstore, ?_⟩
          rw [resolve, fallback, if_pos hfallback, Action.among_bind, hstored, List.append_assoc]
          cases x <;> rfl

/-- The clusters of an organization are told by one source alone: by the membership service if it has
told any list, else by the results store if that may be asked, and by nobody otherwise. A cluster has
the name that its last record gives it, and none at all if the results store has told it. The ids are
those of the same clusters, after the same exchanges. -/
theorem clusters_have_one_source (content : Content.Lookup) :
    ∃ source x made, Tells r org v journal source x made ∧
      (∀ source' x' made', Tells r org v journal source' x' made' →
        source' = source ∧ x' = x ∧ made' = made) ∧
      (r.clusters org).among v content journal = (x, journal ++ made) ∧
      (r.clusterIds org).among v content journal = (x.map ClusterSet.ids, journal ++ made) ∧
      ∀ set, x = .ok set →
        (∀ id, set.displayNames.lookup id
          = (set.clusters.reverse.find? (·.id = id)).map Cluster.displayName) ∧
        (source = .store → ∀ c ∈ set.clusters, c.displayName = "" ∧ c.status = none) := by
  obtain ⟨source, x, made, htells, hclusters⟩ := r.tells_clusters org v journal content
  refine ⟨source, x, made, htells, ?_, hclusters, ?_, ?_⟩
  · intro source' x' made' htells'
    exact htells'.unique htells
  · rw [clusterIds, Action.among_bind, hclusters]
    cases x <;> rfl
  · intro set hset
    cases htells with
    | membership _ _ =>
        cases hset
        exact ⟨ClusterSet.lookup_displayNames _, by rintro ⟨⟩⟩
    | @store _ _ _ listing _ _ _ _ =>
        cases listing with
        | error _ => cases hset
        | ok ids =>
            cases hset
            refine ⟨ClusterSet.lookup_displayNames _, fun _ c hc => ?_⟩
            obtain ⟨id, -, rfl⟩ := List.mem_map.mp hc
            exact ⟨rfl, rfl⟩
    | nobody _ _ _ => cases hset

end Roster

end ReportGateway
