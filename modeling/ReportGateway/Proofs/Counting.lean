import Mathlib.Algebra.Ring.Nat
import ReportGateway.Proofs.Combining
import ReportGateway.Proofs.Provenance
import ReportGateway.Proofs.Secrecy

/-!
What an overview counts. A tally has one entry for each element of a list, in rising order, and says how
often the element occurs (`mem_tally_iff`), so it is the same for every order of the list (`tally_perm`).
An overview is the sum of the parts of its clusters, as long as each of them has one; to put the same
parts together in another order moves risks and tags about and no more (`total_perm`). So the order in
which clusters are listed is not seen by a client, neither in what is counted nor in whether the
overview is there at all, as long as services and content stay what they are.
-/

namespace ReportGateway

open ReportGateway.Action (Ends ends_done)

namespace Overview

section Tally

variable {α : Type} [DecidableEq α] [LE α] [LT α] [DecidableLT α] [Std.IsLinearOrder α]
  [Std.LawfulOrderLT α]

/-- The elements that are counted rise from each to the next. -/
def Ascends (counts : List (α × Nat)) : Prop := counts.Pairwise (·.1 < ·.1)

variable {x y : α} {n : Nat} {counts : List (α × Nat)} {l l' : List α}

omit [LE α] [Std.IsLinearOrder α] [Std.LawfulOrderLT α] in
theorem mem_insert_of_ne (hne : y ≠ x) : (y, n) ∈ tally.insert x counts ↔ (y, n) ∈ counts := by
  induction counts with
  | nil => simp [tally.insert, hne]
  | cons count counts ih =>
      obtain ⟨z, k⟩ := count
      unfold tally.insert
      split
      · rename_i heq
        subst heq
        simp [hne]
      · split <;> simp [hne, ih]

omit [DecidableEq α] [DecidableLT α] in
theorem not_mem_of_ascends {k : Nat} (h : Ascends ((y, k) :: counts)) (hle : x ≤ y) (m : Nat) :
    (x, m) ∉ counts := by
  intro hmem
  have hlt : y < x := (List.pairwise_cons.mp h).1 _ hmem
  exact Std.not_lt.mpr hle hlt

theorem mem_insert_self (h : Ascends counts) :
    (x, n) ∈ tally.insert x counts ↔
      (∃ m, (x, m) ∈ counts ∧ n = m + 1) ∨ (n = 1 ∧ ∀ m, (x, m) ∉ counts) := by
  induction counts with
  | nil => simp [tally.insert]
  | cons count counts ih =>
      obtain ⟨y, k⟩ := count
      unfold tally.insert
      split
      · rename_i heq
        subst heq
        have hlater : ∀ m, (x, m) ∉ counts := not_mem_of_ascends h (Std.le_refl x)
        simp [hlater]
      · rename_i hne
        have hlater := ih (List.pairwise_cons.mp h).2
        split
        · rename_i hlt
          have hnone : ∀ m, (x, m) ∉ counts := not_mem_of_ascends h (Std.le_of_lt hlt)
          simp [hne, hnone]
        · simp [hne, hlater]

theorem ascends_insert (h : Ascends counts) : Ascends (tally.insert x counts) := by
  induction counts with
  | nil => exact List.pairwise_singleton _ _
  | cons count counts ih =>
      obtain ⟨y, k⟩ := count
      obtain ⟨hy, hcounts⟩ := List.pairwise_cons.mp h
      unfold tally.insert
      split
      · exact List.pairwise_cons.mpr ⟨hy, hcounts⟩
      · rename_i hne
        split
        · rename_i hlt
          refine List.pairwise_cons.mpr ⟨?_, h⟩
          rintro ⟨z, m⟩ hmem
          rcases List.mem_cons.mp hmem with heq | hmem
          · cases heq
            exact hlt
          · exact Std.lt_trans hlt (hy _ hmem)
        · rename_i hge
          have hlt : y < x := Std.lt_of_le_of_ne (Std.not_lt.mp hge) (Ne.symm hne)
          refine List.pairwise_cons.mpr ⟨?_, ih hcounts⟩
          rintro ⟨z, m⟩ hmem
          by_cases hzx : z = x
          · exact hzx ▸ hlt
          · exact hy _ ((mem_insert_of_ne hzx).mp hmem)

theorem ascends_tally (l : List α) : Ascends (tally l) := by
  induction l with
  | nil => exact List.Pairwise.nil
  | cons x l ih => exact ascends_insert ih

/-- A tally has an entry for what occurs, and for nothing else, and says how often it does. -/
theorem mem_tally_iff : (x, n) ∈ tally l ↔ x ∈ l ∧ n = l.count x := by
  induction l generalizing n with
  | nil => simp [tally]
  | cons y l ih =>
      rw [tally]
      by_cases heq : x = y
      · subst heq
        rw [mem_insert_self (ascends_tally l), List.count_cons_self]
        simp only [ih]
        by_cases hmem : x ∈ l
        · simp [hmem]
        · simp [hmem, List.count_eq_zero.mpr hmem]
      · rw [mem_insert_of_ne heq, ih, List.mem_cons, List.count_cons_of_ne (Ne.symm heq)]
        simp [heq]

omit [LE α] [Std.IsLinearOrder α] [Std.LawfulOrderLT α] in
theorem sum_insert (x : α) (counts : List (α × Nat)) :
    ((tally.insert x counts).map Prod.snd).sum = (counts.map Prod.snd).sum + 1 := by
  induction counts with
  | nil => rfl
  | cons count counts ih =>
      unfold tally.insert
      split
      · simp only [List.map_cons, List.sum_cons]
        omega
      · split
        · simp only [List.map_cons, List.sum_cons]
          omega
        · simp only [List.map_cons, List.sum_cons, ih]
          omega

omit [LE α] [Std.IsLinearOrder α] [Std.LawfulOrderLT α] in
/-- Every element is counted once. -/
theorem sum_tally (l : List α) : ((tally l).map Prod.snd).sum = l.length := by
  induction l with
  | nil => rfl
  | cons x l ih => rw [tally, sum_insert, ih, List.length_cons]

/-- A tally does not depend on the order of what is counted. -/
theorem tally_perm (h : l.Perm l') : tally l = tally l' := by
  have hdistinct : ∀ l : List α, (tally l).Nodup := by
    refine fun l => (ascends_tally l).imp ?_
    rintro a b hlt rfl
    exact Std.lt_irrefl hlt
  have hmem : ∀ count, count ∈ tally l ↔ count ∈ tally l' := by
    rintro ⟨x, n⟩
    rw [mem_tally_iff, mem_tally_iff, h.mem_iff, h.count_eq]
  refine List.Perm.eq_of_pairwise ?_ (ascends_tally l) (ascends_tally l')
    ((List.perm_ext_iff_of_nodup (hdistinct l) (hdistinct l')).mpr hmem)
  rintro a b - - hab hba
  exact absurd (Std.lt_trans hab hba) Std.lt_irrefl

end Tally

section Totals

/-- Two overviews are made of the same risks and tags, in whatever order, and of as many clusters. -/
structure SameParts (o o' : Overview) : Prop where
  clustersHit : o.clustersHit = o'.clustersHit
  totalRisks : o.totalRisks.Perm o'.totalRisks
  tags : o.tags.Perm o'.tags

namespace SameParts

variable {a b o o' : Overview}

theorem refl (o : Overview) : o.SameParts o := ⟨rfl, .refl _, .refl _⟩

theorem trans {o'' : Overview} (h : o.SameParts o') (h' : o'.SameParts o'') : o.SameParts o'' :=
  ⟨h.clustersHit.trans h'.clustersHit, h.totalRisks.trans h'.totalRisks, h.tags.trans h'.tags⟩

theorem append_left (a : Overview) (h : o.SameParts o') : (a ++ o).SameParts (a ++ o') where
  clustersHit := congrArg (a.clustersHit + ·) h.clustersHit
  totalRisks := h.totalRisks.append_left a.totalRisks
  tags := h.tags.append_left a.tags

theorem append_left_comm (a b o : Overview) : (a ++ (b ++ o)).SameParts (b ++ (a ++ o)) where
  clustersHit := Nat.add_left_comm a.clustersHit b.clustersHit o.clustersHit
  totalRisks := List.perm_append_comm_assoc a.totalRisks b.totalRisks o.totalRisks
  tags := List.perm_append_comm_assoc a.tags b.tags o.tags

/-- What is counted is the same. -/
theorem summary_eq (h : o.SameParts o') : o.summary = o'.summary := by
  rw [summary, summary, h.clustersHit, tally_perm h.totalRisks, tally_perm h.tags]

end SameParts

/-- Parts put together, first one in front. -/
def total (parts : List Overview) : Overview := parts.foldr (· ++ ·) empty

theorem total_perm {parts parts' : List Overview} (h : parts.Perm parts') :
    (total parts).SameParts (total parts') := by
  induction h with
  | nil => exact .refl _
  | cons part _ ih => exact ih.append_left part
  | swap a b parts => exact .append_left_comm b a (total parts)
  | trans _ _ ih ih' => exact ih.trans ih'

end Totals

end Overview

namespace Action

variable {ε ε' α β : Type} (s : Surroundings)

theorem result_settle (a : Action ε α) (f : Except ε α → Action ε' β) :
    ((a.settle f).run s).result = ((f (a.run s).result).run s).result := by
  rw [run_settle]
  rfl

theorem result_bind (a : Action ε α) (f : α → Action ε β) :
    ((a >>= f).run s).result = (a.run s).result >>= fun x => ((f x).run s).result := by
  rw [run_bind]
  cases (a.run s).result <;> rfl

end Action

namespace Overview

section Shares

variable (s : Surroundings) (base : Url) (org user : String)

/-- What one cluster comes to on its own, where nothing changes meanwhile. -/
def share (cluster : String) : Except Failure Overview :=
  ((ofCluster base org user cluster).run s).result

theorem result_ofClusters_cons (id : String) (ids : List String) :
    ((ofClusters base org user (id :: ids)).run s).result
      = (share s base org user id).bind fun part =>
          ((ofClusters base org user ids).run s).result.map (part ++ ·) := by
  rw [ofClusters, Action.result_bind]
  congr 1
  funext part
  rw [Action.result_bind]
  cases ((ofClusters base org user ids).run s).result <;> rfl

variable {s base org user} {ids ids' : List String} {o : Overview}

/-- There is an overview of clusters when each of them has a part in it, and then it is those parts put
together. -/
theorem ofClusters_eq_ok_iff :
    ((ofClusters base org user ids).run s).result = .ok o ↔
      (∀ id ∈ ids, ∃ part, share s base org user id = .ok part) ∧
        o = total (ids.map fun id => (share s base org user id).toOption.getD empty) := by
  induction ids generalizing o with
  | nil =>
      rw [ofClusters, Action.run_pure]
      simp [total, eq_comm]
  | cons id ids ih =>
      rw [result_ofClusters_cons, List.forall_mem_cons]
      cases hshare : share s base org user id with
      | error e => simp [Except.bind]
      | ok part =>
          cases hrest : ((ofClusters base org user ids).run s).result with
          | error e =>
              refine ⟨by simp [Except.bind, Except.map], ?_⟩
              rintro ⟨⟨-, hall⟩, -⟩
              rw [ih.mpr ⟨hall, rfl⟩] at hrest
              cases hrest
          | ok rest =>
              obtain ⟨hall, rfl⟩ := ih.mp hrest
              simp only [Except.bind, Except.map, Except.ok.injEq, exists_eq', true_and,
                List.map_cons, hshare, eq_comm (b := o)]
              exact ⟨fun h => ⟨hall, h⟩, fun h => h.2⟩

/-- Clusters in another order come to an overview as well, and to one of the same parts. -/
theorem exists_of_perm (hperm : ids.Perm ids')
    (h : ((ofClusters base org user ids).run s).result = .ok o) :
    ∃ o', ((ofClusters base org user ids').run s).result = .ok o' ∧ o.SameParts o' := by
  obtain ⟨hall, rfl⟩ := ofClusters_eq_ok_iff.mp h
  exact ⟨_, ofClusters_eq_ok_iff.mpr ⟨fun id hid => hall id (hperm.mem_iff.mpr hid), rfl⟩,
    total_perm (hperm.map _)⟩

end Shares

section Surroundings

variable {s s' : Surroundings} (base : Url) (org user : String)

/-- Looking content up has to do with content alone. -/
theorem result_ofHits_congr (hcontent : s'.content = s.content) (hits : List RuleHit) :
    ((ofHits hits).run s').result = ((ofHits hits).run s).result := by
  induction hits with
  | nil => rfl
  | cons h hits ih =>
      rw [ofHits, Action.result_bind, Action.result_bind]
      have hfound : (((Action.contentOf h.component h.key).mapError Failure.ofContent).run s').result
          = (((Action.contentOf h.component h.key).mapError Failure.ofContent).run s).result := by
        rw [Action.mapError, Action.result_settle, Action.result_settle]
        simp only [Action.contentOf, Action.run, hcontent]
      rw [hfound]
      congr 1
      funext content
      rw [Action.result_bind, Action.result_bind, ih]
      rfl

/-- A cluster of which the same report is stored has the same part in an overview. -/
theorem share_congr {cluster : String} (hcontent : s'.content = s.content)
    (hreport : ((Aggregator.report base org cluster user).run s').result
      = ((Aggregator.report base org cluster user).run s).result) :
    share s' base org user cluster = share s base org user cluster := by
  rw [share, share, ofCluster, Action.attempt_bind, Action.result_settle, Action.result_settle,
    hreport]
  rcases ((Aggregator.report base org cluster user).run s).result with e | report
  · cases e <;> rfl
  · show ((ofReport report).run s').result = ((ofReport report).run s).result
    unfold ofReport
    split
    · rfl
    · rw [Action.result_bind, Action.result_bind, result_ofHits_congr hcontent]
      rfl

theorem ends_ofHits (hits : List RuleHit) : Ends (Settles fun _ => True) (ofHits hits) := by
  rw [ofHits_eq_filter]
  refine Ends.bind (Q := Settles fun _ => True)
    ((Action.ends_any _).mapError fun x _ => ?_) (fun _ => id) fun f _ => ends_return trivial
  cases x with
  | error e => exact Failure.refuses_ofContent e
  | ok f => exact trivial

theorem ends_ofCluster (cluster : String) :
    Ends (Settles fun _ => True) (ofCluster base org user cluster) := by
  rw [ofCluster, Action.attempt_bind]
  refine (Aggregator.ends_ask _ _ _ _ _).settle fun r hr => ?_
  cases r with
  | error e =>
      cases e with
      | relayed status body => exact ends_return trivial
      | _ => exact ends_fail hr
  | ok report =>
      show Ends _ (ofReport report)
      unfold ofReport
      split
      · exact ends_return trivial
      · exact (ends_ofHits report.hits).bind (fun _ => id) fun o _ => ends_return trivial

theorem result_ofClusters_congr {ids : List String}
    (hshares : ∀ id ∈ ids, share s' base org user id = share s base org user id) :
    ((ofClusters base org user ids).run s').result
      = ((ofClusters base org user ids).run s).result := by
  induction ids with
  | nil => rfl
  | cons id ids ih =>
      rw [List.forall_mem_cons] at hshares
      rw [result_ofClusters_cons, result_ofClusters_cons, hshares.1, ih hshares.2]

/-- Whatever keeps an overview from being put together is told to the client as no success. -/
theorem ends_ofClusters (ids : List String) :
    Ends (Settles fun _ => True) (ofClusters base org user ids) := by
  induction ids with
  | nil => exact ends_return trivial
  | cons cluster ids ih =>
      rw [ofClusters]
      exact (ends_ofCluster base org user cluster).bind (fun _ => id) fun part _ =>
        ih.bind (fun _ => id) fun rest _ => ends_return trivial

end Surroundings

end Overview

namespace Roster

/-- The ids of the clusters that an organization's listing does not call decommissioned. -/
def inService (records : List Cluster) : List String :=
  (records.filter fun c =>
    c.status ≠ some "Deprovisioned" ∧ c.status ≠ some "Archived").map Cluster.id

/-- In these surroundings the membership service lists these clusters for an organization. -/
def Lists (r : Roster) (s : Surroundings) (org : String) (records : List Cluster) : Prop :=
  ∃ base url, r.membership = some base ∧ Membership.listing? base org excludedStatuses = some url ∧
    Membership.listed? (Http.Client.sent (fun _ => s.network) (.get url) []).1 = some records

theorem result_clusterIds {r : Roster} {s : Surroundings} {org : String} {records : List Cluster}
    (h : r.Lists s org records) : ((r.clusterIds org).run s).result = .ok (inService records) := by
  obtain ⟨base, url, hbase, hplace, hlisted⟩ := h
  obtain ⟨made, outcome, hmakes⟩ := Http.Client.exists_makes (fun _ => s.network) [] (.get url)
  rw [hmakes.sent] at hlisted
  have htells := Tells.membership (.asked hbase hplace hmakes) hlisted
  obtain ⟨source, x, made', htells', hclusters⟩ := r.tells_clusters org _ [] s.content
  obtain ⟨-, rfl, -⟩ := htells'.unique htells
  rw [← (Action.among_network s _ []).1, clusterIds, Action.among_bind, hclusters]
  rfl

end Roster

namespace Gateway

section Order

variable {g : Gateway} {groups : Content.Groups} {id : String} {r : Inbound} {caller : Caller}
  {found : List (String × String)}

/-- What is answered where nothing changes meanwhile. -/
def answered (g : Gateway) (groups : Content.Groups) (id : String) (r : Inbound)
    (s : Surroundings) : Http.Response :=
  (served g (fun _ => s.network) s.content groups id r).1

theorem answered_overview (hasked : Asked g r caller .overview found) (hget : r.method = "GET")
    (s : Surroundings) :
    answered g groups id r s
      = dressed g id (settled ((((overview g caller).run s).result).mapError .failure)) := by
  rw [answered, served_of_asked groups id hasked hget]
  show dressed g id (settled ((ofHandler (overview g caller)).among _ s.content []).1) = _
  rw [ofHandler, Action.among_mapError, (Action.among_network s _ []).1]

theorem result_overview {s : Surroundings} {records : List Cluster}
    (h : g.roster.Lists s caller.org records) :
    ((overview g caller).run s).result
      = ((Overview.ofClusters g.aggregator caller.org caller.user (Roster.inService records)).run
          s).result.map fun o => Failure.jsonResponse 200 o.summary.toJson := by
  rw [overview, Action.result_bind, Roster.result_clusterIds h]
  show ((_ >>= _ : Handler).run s).result = _
  rw [Action.result_bind]
  cases ((Overview.ofClusters _ _ _ _).run s).result <;> rfl

/-- Where an overview cannot be put together, the answer is no success. -/
theorem status_answered_of_error (hasked : Asked g r caller .overview found)
    (hget : r.method = "GET") {s : Surroundings} {records : List Cluster} {e : Failure}
    (h : g.roster.Lists s caller.org records)
    (herror : ((Overview.ofClusters g.aggregator caller.org caller.user
      (Roster.inService records)).run s).result = .error e) :
    (answered g groups id r s).status ≠ 200 := by
  have hrefuses := Overview.ends_ofClusters g.aggregator caller.org caller.user
    (Roster.inService records) (fun _ => s.network) s.content []
  rw [(Action.among_network s _ []).1, herror] at hrefuses
  rw [answered_overview hasked hget, result_overview h, herror, dressed_status]
  exact hrefuses

variable (groups id) in
/-- Two listings of the same clusters, of which the same reports are stored, come to one answer, or to
no success in either case. -/
theorem answered_overview_of_perm (hasked : Asked g r caller .overview found)
    (hget : r.method = "GET") {s s' : Surroundings} {records records' : List Cluster}
    (h : g.roster.Lists s caller.org records) (h' : g.roster.Lists s' caller.org records')
    (hperm : records.Perm records') (hcontent : s'.content = s.content)
    (hreports : ∀ c ∈ records,
      ((Aggregator.report g.aggregator caller.org c.id caller.user).run s').result
        = ((Aggregator.report g.aggregator caller.org c.id caller.user).run s).result) :
    answered g groups id r s' = answered g groups id r s ∨
      (answered g groups id r s).status ≠ 200 ∧ (answered g groups id r s').status ≠ 200 := by
  have hids : (Roster.inService records).Perm (Roster.inService records') :=
    (hperm.filter _).map Cluster.id
  have hshares : ∀ id ∈ Roster.inService records',
      Overview.share s' g.aggregator caller.org caller.user id
        = Overview.share s g.aggregator caller.org caller.user id := by
    intro id hid
    obtain ⟨c, hc, rfl⟩ := List.mem_map.mp (hids.mem_iff.mpr hid)
    exact Overview.share_congr _ _ _ hcontent (hreports c (List.mem_filter.mp hc).1)
  have hsame := Overview.result_ofClusters_congr g.aggregator caller.org caller.user hshares
  cases hresult : ((Overview.ofClusters g.aggregator caller.org caller.user
      (Roster.inService records)).run s).result with
  | ok o =>
      obtain ⟨o', hresult', hparts⟩ := Overview.exists_of_perm hids hresult
      refine .inl ?_
      rw [answered_overview hasked hget, answered_overview hasked hget, result_overview h,
        result_overview h', hsame, hresult, hresult']
      simp only [Except.map, hparts.summary_eq]
  | error e =>
      cases hresult' : ((Overview.ofClusters g.aggregator caller.org caller.user
          (Roster.inService records')).run s).result with
      | ok o' =>
          obtain ⟨o, ho, -⟩ := Overview.exists_of_perm hids.symm hresult'
          rw [hresult] at ho
          cases ho
      | error e' =>
          exact .inr ⟨status_answered_of_error hasked hget h hresult,
            status_answered_of_error hasked hget h' (hsame.trans hresult')⟩

end Order

end Gateway

/-- An overview counts every risk and every tag exactly, in one entry for each that occurs. The order of
the clusters changes neither whether there is an overview nor what it counts, wherever services and
content stay what they are; nor does a client see in which order the membership service lists them. -/
theorem overview_ignores_order :
    (∀ o : Overview,
      (∀ risk n, (risk, n) ∈ o.summary.hitByRisk ↔
        risk ∈ o.totalRisks ∧ n = o.totalRisks.count risk) ∧
      (∀ tag n, (tag, n) ∈ o.summary.hitByTag ↔ tag ∈ o.tags ∧ n = o.tags.count tag) ∧
      Overview.Ascends o.summary.hitByRisk ∧ Overview.Ascends o.summary.hitByTag ∧
      (o.summary.hitByRisk.map Prod.snd).sum = o.totalRisks.length ∧
      (o.summary.hitByTag.map Prod.snd).sum = o.tags.length) ∧
    (∀ (s : Surroundings) base org user (ids ids' : List String), ids.Perm ids' →
      ((∃ o, ((Overview.ofClusters base org user ids).run s).result = .ok o) ↔
        ∃ o, ((Overview.ofClusters base org user ids').run s).result = .ok o) ∧
      ∀ o o', ((Overview.ofClusters base org user ids).run s).result = .ok o →
        ((Overview.ofClusters base org user ids').run s).result = .ok o' →
        o.summary = o'.summary ∧ o.clustersHit = o'.clustersHit) ∧
    (∀ g groups id r caller found (s s' : Surroundings) (records records' : List Cluster),
      Gateway.Asked g r caller .overview found → r.method = "GET" →
      g.roster.Lists s caller.org records → g.roster.Lists s' caller.org records' →
      records.Perm records' → s'.content = s.content →
      (∀ c ∈ records,
        ((Aggregator.report g.aggregator caller.org c.id caller.user).run s').result
          = ((Aggregator.report g.aggregator caller.org c.id caller.user).run s).result) →
      ((Gateway.answered g groups id r s).status = 200 ↔
        (Gateway.answered g groups id r s').status = 200) ∧
      ((Gateway.answered g groups id r s).status = 200 →
        Gateway.answered g groups id r s' = Gateway.answered g groups id r s)) := by
  refine ⟨?_, ?_, ?_⟩
  · intro o
    exact ⟨fun _ _ => Overview.mem_tally_iff, fun _ _ => Overview.mem_tally_iff,
      Overview.ascends_tally _, Overview.ascends_tally _, Overview.sum_tally _,
      Overview.sum_tally _⟩
  · intro s base org user ids ids' hperm
    refine ⟨⟨?_, ?_⟩, ?_⟩
    · rintro ⟨o, ho⟩
      obtain ⟨o', ho', -⟩ := Overview.exists_of_perm hperm ho
      exact ⟨o', ho'⟩
    · rintro ⟨o, ho⟩
      obtain ⟨o', ho', -⟩ := Overview.exists_of_perm hperm.symm ho
      exact ⟨o', ho'⟩
    · intro o o' ho ho'
      obtain ⟨o'', ho'', hparts⟩ := Overview.exists_of_perm hperm ho
      cases ho'.symm.trans ho''
      exact ⟨hparts.summary_eq, hparts.clustersHit⟩
  · intro g groups id r caller found s s' records records' hasked hget h h' hperm hcontent hreports
    rcases Gateway.answered_overview_of_perm groups id hasked hget h h' hperm hcontent
      hreports with hequal | ⟨hfails, hfails'⟩
    · rw [hequal]
      exact ⟨Iff.rfl, fun _ => rfl⟩
    · exact ⟨⟨fun hok => absurd hok hfails, fun hok => absurd hok hfails'⟩,
        fun hok => absurd hok hfails⟩

namespace Gateway

section Listings

open Json (Value)

/-- A gateway that asks the membership service for clusters, and nobody else. -/
def staffed : Gateway :=
  { sample with roster := ⟨oneWord "results", some (oneWord "members"), false⟩ }

def onDuty : Cluster := ⟨"a", "", none⟩

def unreported : Cluster := ⟨"b", "", some "Active"⟩

/-- The clusters are listed so, and of the first of the two one hit is stored. -/
def listing (records : List Cluster) : Surroundings where
  network request :=
    if request.url.host = some (.name "members") then
      .answer ⟨200, [], (Value.object [("clusters", .array (records.map Cluster.toJson))]).body⟩ true
    else if request.url.path
        = .segments ["organizations", "7", "clusters", "a", "users", "u", "report"] then
      .answer ⟨200, [], (okay [("report",
        (Report.mk .empty [⟨"rule", "KEY", 0, false, "", "", .null, ""⟩]).toJson)]).body⟩ true
    else .answer ⟨404, [], .empty⟩ true
  content ruleId errorKey :=
    .ok (some ⟨ruleId, errorKey, "", "", "", "", "", 3, 1, ["t"], false, true, ""⟩)

theorem lists_listing {records : List Cluster}
    (hread : (Membership.listing? (oneWord "members") "7" Roster.excludedStatuses).any (fun url =>
      Membership.listed? (Http.Client.sent (fun _ => (listing records).network) (.get url) []).1
        = some records) = true) : staffed.roster.Lists (listing records) "7" records := by
  obtain ⟨url, hplace, hlisted⟩ := (Option.any_eq_true _ _).mp hread
  exact ⟨oneWord "members", url, rfl, hplace, of_decide_eq_true hlisted⟩

/-- The results store does not know how the membership service lists. -/
theorem result_report_listing (records records' : List Cluster) {cluster : String}
    (hplace : ((oneWord "results").resource? Aggregator.reportTemplate ["7", cluster, "u"]).any
      (fun url => (Http.Client.authorize (.get url)).url.host = some (.name "results") ∧
        Http.Client.IsWritable (Http.Client.authorize (.get url))) = true) :
    ((Aggregator.report (oneWord "results") "7" cluster "u").run (listing records')).result
      = ((Aggregator.report (oneWord "results") "7" cluster "u").run (listing records)).result := by
  obtain ⟨url, hurl, hasks⟩ := (Option.any_eq_true _ _).mp hplace
  obtain ⟨hhost, hwritable⟩ := of_decide_eq_true hasks
  have hmembers : ¬(Http.Client.authorize (.get url)).url.host = some (.name "members") := by
    rw [hhost]
    decide
  have houtcome : ∀ records,
      (Http.Client.sent (fun _ => (listing records).network) (.get url) []).1
        = ((listing []).network (Http.Client.authorize (.get url))).outcome := by
    intro records
    rw [Http.Client.sent_of_over _ _ _ hwritable]
    · simp only [listing, if_neg hmembers]
    · intro response complete hanswer
      simp only [listing, if_neg hmembers] at hanswer
      split at hanswer
      · cases hanswer
        exact Http.Client.next?_eq_none_of_isSuccess (by decide)
      · cases hanswer
        rfl
  rw [Aggregator.report, Aggregator.ask_of_some none _ hurl]
  rw [← (Action.among_network (listing records') _ []).1,
    ← (Action.among_network (listing records) _ []).1, Http.Client.among_send_bind,
    Http.Client.among_send_bind]
  simp only [Aggregator.requestFor, houtcome]

/-- A user asks for the overview. -/
def asksOverview : Inbound := userAsks "GET" "/org_overview" .empty

theorem overview_ignores_order_of_two :
    Asked staffed asksOverview ⟨"7", "", "u"⟩ .overview [] ∧
      staffed.roster.Lists (listing [onDuty, unreported]) "7" [onDuty, unreported] ∧
      staffed.roster.Lists (listing [unreported, onDuty]) "7" [unreported, onDuty] ∧
      (answered staffed .none "1" asksOverview (listing [onDuty, unreported])).status = 200 ∧
      answered staffed .none "1" asksOverview (listing [unreported, onDuty])
        = answered staffed .none "1" asksOverview (listing [onDuty, unreported]) := by
  have hasked : Asked staffed asksOverview ⟨"7", "", "u"⟩ .overview [] := by decide +kernel
  have hlists : staffed.roster.Lists (listing [onDuty, unreported]) "7" [onDuty, unreported] :=
    lists_listing (by decide +kernel)
  have hlists' : staffed.roster.Lists (listing [unreported, onDuty]) "7" [unreported, onDuty] :=
    lists_listing (by decide +kernel)
  have hstatus : (answered staffed .none "1" asksOverview
      (listing [onDuty, unreported])).status = 200 := by decide +kernel
  have hreports : ∀ c ∈ [onDuty, unreported],
      ((Aggregator.report (oneWord "results") "7" c.id "u").run
          (listing [unreported, onDuty])).result
        = ((Aggregator.report (oneWord "results") "7" c.id "u").run
            (listing [onDuty, unreported])).result := by
    refine List.forall_mem_cons.mpr ⟨?_, List.forall_mem_singleton.mpr ?_⟩
    · exact result_report_listing _ _ (by decide +kernel)
    · exact result_report_listing _ _ (by decide +kernel)
  refine ⟨hasked, hlists, hlists', hstatus, ?_⟩
  exact (overview_ignores_order.2.2 staffed .none "1" asksOverview _ _ _ _ _ _ hasked rfl hlists
    hlists' (.swap _ _ _) rfl hreports).2 hstatus

end Listings

end Gateway

end ReportGateway
