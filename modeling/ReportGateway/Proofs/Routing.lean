import Mathlib.Data.List.Forall2
import ReportGateway.Gateway.Serve
import ReportGateway.Proofs.Relative

/-!
What it means that a path takes a route. The pieces of the path fit the segments of the pattern one
by one, so a path that leads to what users do about a rule ends in the seven pieces of that place
(`findRoute_ruleAction`). What comes before them is taken off when an endpoint sees the path, as long
as no segment of the gateway's own path captures behind a text of its own (`relativePath_of_fits`).
-/

namespace ReportGateway.Gateway

section Pieces

theorem splitOn_eq_splitAtAll {α : Type} [BEq α] (a : α) (l : List α) :
    l.splitOn a = Url.splitAtAll (· == a) l := by
  induction l with
  | nil => rfl
  | cons c l ih =>
      cases h : Url.splitAtAll (· == a) l with
      | nil => exact absurd h (Url.splitAtAll_ne_nil l)
      | cons piece pieces =>
          rw [List.splitOn_cons_eq_if_modifyHead, ih]
          by_cases hc : (c == a) = true
          · rw [if_pos hc, Url.splitAtAll_cons_of_pos (p := (· == a)) hc]
          · rw [if_neg hc, h]
            rw [Bool.not_eq_true] at hc
            rw [Url.splitAtAll_cons_of_not (p := (· == a)) hc h]
            rfl

/-- A piece of a text has no slash, and all its characters are from the text. -/
theorem mem_pieces {s piece : String} (h : piece ∈ pieces s) {c : Char} (hc : c ∈ piece.toList) :
    c ≠ '/' ∧ c ∈ s.toList := by
  rw [pieces, splitOn_eq_splitAtAll] at h
  obtain ⟨cs, hcs, rfl⟩ := List.mem_map.mp h
  rw [String.toList_ofList] at hc
  obtain ⟨hne, hmem⟩ := Url.forall_mem_splitAtAll s.toList cs hcs c hc
  exact ⟨by simpa using hne, hmem⟩

/-- Cutting a text that was put together with slashes is cutting its parts. -/
theorem splitAtAll_intercalate {p : Char → Bool} (hp : p '/' = true) {texts : List String}
    (hne : texts ≠ []) :
    Url.splitAtAll p ("/".intercalate texts).toList
      = texts.flatMap fun s => Url.splitAtAll p s.toList := by
  induction texts with
  | nil => exact absurd rfl hne
  | cons s texts ih =>
      cases texts with
      | nil => rw [String.intercalate_singleton, List.flatMap_singleton]
      | cons t texts =>
          have hslash : "/".toList = ['/'] := rfl
          rw [String.intercalate_cons_cons, String.toList_append, String.toList_append, hslash,
            List.append_assoc, List.singleton_append, Url.splitAtAll_append_cons hp,
            ih (List.cons_ne_nil _ _)]
          rfl

end Pieces

section Fitting

theorem fit?_cons {s : Segment} {more : Pattern} {own : List String}
    {found : List (String × String)} (h : Pattern.fit? (s :: more) own = some found) :
    ∃ piece rest here later, own = piece :: rest ∧ s.fit? piece = some here ∧
      Pattern.fit? more rest = some later ∧ found = here ++ later := by
  cases own with
  | nil => cases h
  | cons piece rest =>
      rw [Pattern.fit?] at h
      obtain ⟨here, hhere, h⟩ := Option.bind_eq_some_iff.mp h
      split at h
      · cases h
      · obtain ⟨later, hlater, h⟩ := Option.bind_eq_some_iff.mp h
        cases h
        exact ⟨piece, rest, here, later, rfl, hhere, hlater, rfl⟩

/-- Pieces fit segments one by one, whatever they give. -/
def Fits (front : Pattern) (own : List String) : Prop :=
  List.Forall₂ (fun s piece => ∃ here, s.fit? piece = some here) front own

theorem fit?_append {front more : Pattern} {own : List String} {found : List (String × String)}
    (h : Pattern.fit? (front ++ more) own = some found) :
    ∃ ownFront rest earlier later, own = ownFront ++ rest ∧ Fits front ownFront ∧
      Pattern.fit? more rest = some later ∧ found = earlier ++ later := by
  induction front generalizing own found with
  | nil => exact ⟨[], own, [], found, rfl, .nil, h, rfl⟩
  | cons s front ih =>
      obtain ⟨piece, rest, here, later, rfl, hhere, hlater, rfl⟩ := fit?_cons h
      obtain ⟨ownFront, rest, earlier, later, rfl, hfits, hmore, rfl⟩ := ih hlater
      exact ⟨piece :: ownFront, rest, here ++ earlier, later, rfl, .cons ⟨here, hhere⟩ hfits, hmore,
        (List.append_assoc _ _ _).symm⟩

theorem fit?_fixed {text piece : String} {here : List (String × String)}
    (h : Segment.fit? ⟨text, none⟩ piece = some here) : piece = text ∧ here = [] := by
  rw [Segment.fit?] at h
  dsimp only at h
  split at h
  · rename_i heq
    cases h
    exact ⟨heq.symm, rfl⟩
  · cases h

theorem fit?_capture {name piece : String} {here : List (String × String)}
    (h : Segment.fit? ⟨"", some name⟩ piece = some here) : here = [(name, piece)] := by
  rw [Segment.fit?] at h
  simpa using h.symm

/-- The segments of the place where users act on a rule. -/
def actionPattern (action : String) : Pattern :=
  [⟨"clusters", none⟩, ⟨"", some "cluster"⟩, ⟨"rules", none⟩, ⟨"", some "rule_id"⟩,
    ⟨"error_key", none⟩, ⟨"", some "error_key"⟩, ⟨action, none⟩]

/-- The pieces of a path there. -/
def actionPieces (cluster ruleId errorKey action : String) : List String :=
  ["clusters", cluster, "rules", ruleId, "error_key", errorKey, action]

theorem fit?_actionPattern {action : String} {own : List String} {found : List (String × String)}
    (h : (actionPattern action).fit? own = some found) :
    ∃ cluster ruleId errorKey, own = actionPieces cluster ruleId errorKey action ∧
      found = [("cluster", cluster), ("rule_id", ruleId), ("error_key", errorKey)] := by
  obtain ⟨clusters, own₁, _, _, rfl, hclusters, h₁, rfl⟩ := fit?_cons h
  obtain ⟨cluster, own₂, _, _, rfl, hcluster, h₂, rfl⟩ := fit?_cons h₁
  obtain ⟨rules, own₃, _, _, rfl, hrules, h₃, rfl⟩ := fit?_cons h₂
  obtain ⟨ruleId, own₄, _, _, rfl, hruleId, h₄, rfl⟩ := fit?_cons h₃
  obtain ⟨key, own₅, _, _, rfl, hkey, h₅, rfl⟩ := fit?_cons h₄
  obtain ⟨errorKey, own₆, _, _, rfl, herrorKey, h₆, rfl⟩ := fit?_cons h₅
  obtain ⟨last, own₇, _, _, rfl, hlast, h₇, rfl⟩ := fit?_cons h₆
  obtain ⟨rfl, rfl⟩ := fit?_fixed hclusters
  obtain ⟨rfl, rfl⟩ := fit?_fixed hrules
  obtain ⟨rfl, rfl⟩ := fit?_fixed hkey
  obtain ⟨rfl, rfl⟩ := fit?_fixed hlast
  rw [fit?_capture hcluster, fit?_capture hruleId, fit?_capture herrorKey]
  cases own₇ with
  | nil =>
      cases h₇
      exact ⟨cluster, ruleId, errorKey, rfl, rfl⟩
  | cons piece own => cases h₇

end Fitting

section Actions

theorem place_of_ruleAction :
    ∀ place ∈ places, place.2.2 = .resource .ruleAction → ∃ action ∈ ruleActions,
      place.1 = "/" ++ ("clusters/:cluster/rules/:rule_id/error_key/:error_key/" ++ action) := by
  decide +kernel

theorem pattern_of_action :
    ∀ action ∈ ruleActions,
      Pattern.ofText ("clusters/:cluster/rules/:rule_id/error_key/:error_key/" ++ action)
        = actionPattern action := by
  decide +kernel

/-- A path that leads to what users do about a rule ends in the seven pieces of that place, and the
route captures three of them last. -/
theorem findRoute_ruleAction {path sent : String} {route : Route}
    {found : List (String × String)} (h : findRoute path sent = some (route, found))
    (hendpoint : route.endpoint = .resource .ruleAction) :
    ∃ front earlier cluster ruleId errorKey action, action ∈ ruleActions ∧
      pieces sent = front ++ actionPieces cluster ruleId errorKey action ∧
      Fits (Pattern.ofText path) front ∧
      found = earlier ++ [("cluster", cluster), ("rule_id", ruleId), ("error_key", errorKey)] := by
  rw [findRoute] at h
  obtain ⟨taken, hmem, hfit⟩ := List.exists_of_findSome?_eq_some h
  obtain ⟨captured, hcaptured, heq⟩ := Option.map_eq_some_iff.mp hfit
  obtain ⟨rfl, rfl⟩ := Prod.mk.inj heq
  obtain ⟨⟨place, method, endpoint⟩, hplace, rfl⟩ := List.mem_map.mp hmem
  obtain ⟨action, haction, rfl⟩ := place_of_ruleAction _ hplace hendpoint
  have hpattern : Pattern.ofText
      (path ++ ("/" ++ ("clusters/:cluster/rules/:rule_id/error_key/:error_key/" ++ action)))
        = Pattern.ofText path ++ actionPattern action := by
    rw [← pattern_of_action action haction, ← String.append_assoc, Pattern.ofText,
      pieces_append_slash, List.map_append]
    rfl
  dsimp only at hcaptured
  rw [hpattern] at hcaptured
  obtain ⟨front, rest, earlier, later, hsent, hfits, hmore, rfl⟩ := fit?_append hcaptured
  obtain ⟨cluster, ruleId, errorKey, rfl, rfl⟩ := fit?_actionPattern hmore
  exact ⟨front, earlier, cluster, ruleId, errorKey, action, haction, hsent, hfits, rfl⟩

/-- No segment of a gateway's path captures behind a text of its own. -/
def CapturesWhole (path : String) : Prop :=
  ∀ s ∈ pieces path, ':' ∈ s.toList → s.toList.head? = some ':'

instance (path : String) : Decidable (CapturesWhole path) :=
  inferInstanceAs (Decidable (∀ s ∈ pieces path, ':' ∈ s.toList → s.toList.head? = some ':'))

theorem ofText_of_not_mem {s : String} (h : ':' ∉ s.toList) : Segment.ofText s = ⟨s, none⟩ := by
  have hnone : s.toList.dropWhile (· ≠ ':') = [] := by
    rw [List.dropWhile_eq_nil_iff]
    intro c hc
    simpa using fun heq : c = ':' => h (heq ▸ hc)
  rw [Segment.ofText, hnone]

/-- Pieces that fit a gateway's path are taken for it, whatever follows. -/
theorem all_zip_of_fits {own front m : List String}
    (hwhole : ∀ s ∈ own, ':' ∈ s.toList → s.toList.head? = some ':')
    (hfits : Fits (own.map Segment.ofText) front) :
    (own.zip (front ++ m)).all (fun (p, s) => p.toList.head? = some ':' || p = s) = true := by
  induction own generalizing front with
  | nil => rfl
  | cons s own ih =>
      cases hfits with
      | cons hfit hfits =>
          rename_i piece front
          rw [List.forall_mem_cons] at hwhole
          rw [List.cons_append, List.zip_cons_cons, List.all_cons, ih hwhole.2 hfits, Bool.and_true]
          by_cases hcolon : ':' ∈ s.toList
          · simp [hwhole.1 hcolon]
          · obtain ⟨here, hfit⟩ := hfit
            rw [ofText_of_not_mem hcolon] at hfit
            simp [(fit?_fixed hfit).1]

/-- An endpoint sees a path without the pieces that fit the path of the gateway. -/
theorem relativePath_of_fits {path sent : String} (hwhole : CapturesWhole path)
    {front more : List String} (hsent : pieces sent = front ++ more)
    (hfits : Fits (Pattern.ofText path) front) :
    relativePath path sent = "/" ++ "/".intercalate more := by
  have hlength : (pieces path).length = front.length := by
    have hlength := List.Forall₂.length_eq hfits
    rwa [Pattern.ofText, List.length_map] at hlength
  have hall := all_zip_of_fits (m := more) hwhole hfits
  rw [relativePath, hsent]
  dsimp only
  rw [if_pos ⟨by rw [List.length_append]; omega, hall⟩, hlength, List.drop_left]

/-- A capture behind a text of its own is not taken for the path of the gateway. -/
example : relativePath "/v:n" "/v1/clusters" = "/v1/clusters" := by decide +kernel

end Actions

end ReportGateway.Gateway
