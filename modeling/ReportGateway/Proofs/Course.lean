import Mathlib.Data.List.Basic
import ReportGateway.Proofs.Asking
import ReportGateway.Proofs.Serving

/-!
What a gateway knows about the rules, in the course of its running. Between two events a gateway is
at a `Moment`: the services as they are, all that was exchanged with them, and its library. Services
may change, content may be loaded, the library may be refreshed, and clients may ask. A refresh treats
the two halves of the library differently: content that cannot be fetched leaves the old directory,
while of the groups the error is kept. `Event.contents?` and `Event.groups?` say what an event brings
to each half, from what came of asking the content service alone; a step brings just that
(`library_after`), and so after any course the library is what was brought last
(`library_after_course`).
-/

namespace ReportGateway

open Content (Directory Groups Library RefreshError)

namespace Content

def readContents : Json.Read (List RuleContent) := .envelope "content" (.listOf RuleContent.read)

def readGroups : Json.Read (List RuleGroup) := .envelope "groups" (.listOf RuleGroup.read)

/-- What an outcome brings: what can be read of a whole answer that says success. -/
def brought? {α : Type} (read : Json.Read α) : Http.Outcome → Option α
  | .received response true =>
    if Http.isSuccess response.status then read.ofBytes? response.body.data.toList else none
  | _ => none

theorem meaning_eq_ok_iff {α : Type} (read : Json.Read α) (found : Option Http.Outcome) (x : α) :
    meaning read found = .ok x ↔ found.bind (brought? read) = some x := by
  cases found with
  | none => simp [meaning]
  | some outcome =>
      rw [meaning, Option.bind_some]
      cases outcome with
      | unbuildable => simp [interpret, brought?]
      | failed => simp [interpret, brought?]
      | received response complete =>
          by_cases hsuccess : Http.isSuccess response.status = true
          · cases complete with
            | false => simp [interpret, brought?, hsuccess]
            | true =>
                rw [interpret, brought?, if_pos hsuccess, if_pos hsuccess, if_pos rfl]
                cases read.ofBytes? response.body.data.toList <;> simp
          · cases complete <;> simp [interpret, brought?, hsuccess]

/-- A refresh asks for the content and then for the groups, however the first question ended. -/
theorem Library.among_refresh {E : Type} (l : Library) (base : Url) (v : Services)
    (content : Lookup) (journal : Journal) :
    (l.refresh base : Action E Library).among v content journal =
      let early := inquiry base "content" v journal
      let late := inquiry base "groups" v early.2
      (.ok {
        directory :=
          match meaning readContents early.1 with
          | .ok contents => .ofContents contents
          | .error _ => l.directory
        groups := .ofRefresh (meaning readGroups late.1) }, late.2) := by
  rw [refresh, Action.attempt_bind, Action.among_settle, Action.attempt_bind, Action.among_settle,
    Action.among_pure]
  show (Except.ok _, _) = _
  rw [among_fetch, among_fetch]
  rfl

end Content

namespace Gateway

/-- A running gateway between two events: the services, all that was exchanged with them, and what is
known about the rules. -/
structure Moment where
  services : Services
  journal : Journal
  library : Library

/-- What happens to a running gateway. -/
inductive Event
  /-- The services become others. -/
  | change (services : Services)
  | load (contents : List RuleContent)
  | refresh
  | request (id : String) (r : Inbound)

namespace Moment

/-- The gateway as it starts. -/
def start (v : Services) : Moment := ⟨v, [], .empty⟩

/-- Carries an action out at a moment; gives what it ends in and the journal that is left. -/
def carry {α : Type} (m : Moment) (a : Action Empty α) : α × Journal :=
  match a.among m.services m.library.directory.lookup m.journal with
  | (.ok x, journal) => (x, journal)
  | (.error e, _) => nomatch e

theorem carry_eq {α : Type} {m : Moment} {a : Action Empty α} {x : α} {journal : Journal}
    (h : a.among m.services m.library.directory.lookup m.journal = (.ok x, journal)) :
    m.carry a = (x, journal) := by
  rw [carry, h]

end Moment

section Course

variable (g : Gateway)

/-- The moment after an event. -/
def after (m : Moment) : Event → Moment
  | .change services => { m with services }
  | .load contents =>
    { m with library := { m.library with directory := (m.library.directory.load contents).1 } }
  | .refresh =>
    let (library, journal) := m.carry (m.library.refresh g.content)
    { m with library, journal }
  | .request id r => { m with journal := (m.carry (respond g m.library.groups id r)).2 }

/-- The moment after events. -/
def run : Moment → List Event → Moment
  | m, [] => m
  | m, e :: events => run (after g m e) events

/-- The events of a run, each with the moment at which it happens. -/
def course : Moment → List Event → List (Moment × Event)
  | _, [] => []
  | m, e :: events => (m, e) :: course (after g m e) events

/-- What the content service answers at a moment when it is asked for the content. -/
def contentInquiry (m : Moment) : Option Http.Outcome × Journal :=
  Content.inquiry g.content "content" m.services m.journal

/-- What the content service answers at a moment when it is asked for the groups, having been asked
for the content. -/
def groupsInquiry (m : Moment) : Option Http.Outcome × Journal :=
  Content.inquiry g.content "groups" m.services (contentInquiry g m).2

namespace Event

/-- The content that an event brings, if it brings any: what is loaded, or what a refresh reads in a
whole answer that says success. -/
def contents? (m : Moment) : Event → Option (List RuleContent)
  | .load contents => some contents
  | .refresh => (contentInquiry g m).1.bind (Content.brought? Content.readContents)
  | .change _ => none
  | .request _ _ => none

/-- What a refresh makes of the groups, for better or worse. -/
def groups? (m : Moment) : Event → Option (Except RefreshError (List RuleGroup))
  | .refresh => some (Content.meaning Content.readGroups (groupsInquiry g m).1)
  | .load _ => none
  | .change _ => none
  | .request _ _ => none

end Event

theorem after_refresh (m : Moment) :
    after g m .refresh =
      { services := m.services
        journal := (groupsInquiry g m).2
        library := {
          directory :=
            match Content.meaning Content.readContents (contentInquiry g m).1 with
            | .ok contents => .ofContents contents
            | .error _ => m.library.directory
          groups := .ofRefresh (Content.meaning Content.readGroups (groupsInquiry g m).1) } } := by
  rw [after, Moment.carry_eq (Library.among_refresh m.library g.content m.services _ m.journal)]
  rfl

/-- An event leaves each half of the library as it is, or as what it brings. -/
theorem library_after (m : Moment) (e : Event) :
    (after g m e).library = {
      directory := ((e.contents? g m).map Directory.ofContents).getD m.library.directory
      groups := ((e.groups? g m).map Groups.ofRefresh).getD m.library.groups } := by
  cases e with
  | change services => rfl
  | load contents => rfl
  | request id r => rfl
  | refresh =>
      rw [after_refresh, Event.contents?, Event.groups?]
      cases hmeaning : Content.meaning Content.readContents (contentInquiry g m).1 with
      | ok contents =>
          rw [(Content.meaning_eq_ok_iff Content.readContents _ contents).mp hmeaning]
          rfl
      | error e =>
          cases hbrought : (contentInquiry g m).1.bind (Content.brought? Content.readContents) with
          | none => rfl
          | some contents =>
              rw [(Content.meaning_eq_ok_iff Content.readContents _ contents).mpr hbrought]
                at hmeaning
              cases hmeaning

/-- Until the next refresh the groups stay as they are. -/
theorem groups_run_of_ne {more : List Event} (hmore : ∀ e ∈ more, e ≠ .refresh) (m : Moment) :
    (run g m more).library.groups = m.library.groups := by
  induction more generalizing m with
  | nil => rfl
  | cons e more ih =>
      have hkept : (after g m e).library.groups = m.library.groups := by
        cases e with
        | refresh => exact absurd rfl (hmore .refresh List.mem_cons_self)
        | change services => rfl
        | load contents => rfl
        | request id r => rfl
      rw [run, ih (fun e he => hmore e (List.mem_cons_of_mem _ he)), hkept]

/-- What events bring to the content, in order. -/
def contentsBrought (m : Moment) (events : List Event) : List (List RuleContent) :=
  (course g m events).filterMap fun (m, e) => e.contents? g m

/-- What events bring to the groups, in order. -/
def groupsBrought (m : Moment) (events : List Event) : List (Except RefreshError (List RuleGroup)) :=
  (course g m events).filterMap fun (m, e) => e.groups? g m

/-- Of two things brought one after the other, the later one counts. -/
theorem getD_getLast?_filterMap_cons {α β γ : Type} (f : α → Option β) (k : β → γ) (a : α)
    (l : List α) (old : γ) :
    ((((a :: l).filterMap f).getLast?).map k).getD old
      = ((l.filterMap f).getLast?.map k).getD (((f a).map k).getD old) := by
  cases hbrought : f a with
  | none => rw [List.filterMap_cons_none hbrought]; rfl
  | some x =>
      rw [List.filterMap_cons_some hbrought, List.getLast?_cons]
      cases (l.filterMap f).getLast? <;> rfl

/-- After any events the library is what they brought last. -/
theorem library_run (m : Moment) (events : List Event) :
    (run g m events).library = {
      directory := ((contentsBrought g m events).getLast?.map Directory.ofContents).getD
        m.library.directory
      groups := ((groupsBrought g m events).getLast?.map Groups.ofRefresh).getD
        m.library.groups } := by
  -- The moment changes from event to event, so what the first one brings counts as what was there.
  induction events generalizing m with
  | nil => rfl
  | cons e events ih =>
      rw [run, ih, library_after]
      simp only [contentsBrought, groupsBrought, course, getD_getLast?_filterMap_cons]

/-- From its start and after any events, a gateway answers lookups from the content that was brought
last, and not at all if none was; its groups are what the last refresh made of them, and none before
the first. What brings no content leaves the directory as it is, a directory once loaded stays loaded,
and clients change nothing of all this. -/
theorem library_after_course (v : Services) (events : List Event) :
    (∀ ruleId errorKey,
      (run g (.start v) events).library.directory.lookup ruleId errorKey
        = match (contentsBrought g (.start v) events).getLast? with
          | none => .error .notLoaded
          | some contents => .ok (Content.find? contents ruleId errorKey)) ∧
    (run g (.start v) events).library.groups.latest
      = (groupsBrought g (.start v) events).getLast?.getD (.ok []) ∧
    (∀ m e, e.contents? g m = none →
      (after g m e).library.directory = m.library.directory) ∧
    (∀ m more, m.library.directory.isLoaded = true →
      (run g m more).library.directory.isLoaded = true) ∧
    ∀ m id r, (after g m (.request id r)).library = m.library := by
  refine ⟨fun ruleId errorKey => ?_, ?_, fun m e hnone => ?_, fun m more hloaded => ?_,
    fun m id r => rfl⟩
  · rw [library_run]
    cases (contentsBrought g (.start v) events).getLast? <;> rfl
  · rw [library_run]
    cases (groupsBrought g (.start v) events).getLast? with
    | none => rfl
    | some made => exact Groups.latest_ofRefresh made
  · rw [library_after, hnone]
    rfl
  · rw [library_run]
    cases (contentsBrought g m more).getLast? with
    | none => exact hloaded
    | some contents => rfl

end Course

section Interrupted

/-- Content of one rule. -/
def contentSaying (description : String) : RuleContent :=
  ⟨"rule", "KEY", description, "", "", "", "", 1, 1, [], false, true, ""⟩

/-- Services that know content and a group, and fall silent once they have told both. -/
def fallingSilent : Services := fun journal _ =>
  match journal with
  | [] => .answer ⟨200, [], (okay [("content", .array [(contentSaying "new").toJson])]).body⟩ true
  | [_] =>
    .answer ⟨200, [], (okay [("groups", .array [(RuleGroup.mk "all" "" []).toJson])]).body⟩ true
  | _ => .silent

/-- Some content is loaded, and then there is a refresh. -/
def loadThenRefresh : List Event := [.load [contentSaying "old"], .refresh]

/-- Some content is loaded, a refresh brings other content and a group, and the next one fails: the
content stays, and of the groups the failure is kept. Before all this a lookup has no answer. -/
theorem library_after_course_of_fallingSilent :
    (run sample (.start fallingSilent) []).library.directory.lookup "rule" "KEY"
        = .error .notLoaded ∧
      contentsBrought sample (.start fallingSilent) (loadThenRefresh ++ [.refresh])
        = [[contentSaying "old"], [contentSaying "new"]] ∧
      (run sample (.start fallingSilent)
          (loadThenRefresh ++ [.refresh])).library.directory.lookup "rule" "KEY"
        = .ok (some (contentSaying "new")) ∧
      (run sample (.start fallingSilent) loadThenRefresh).library.groups.latest
        = .ok [⟨"all", "", []⟩] ∧
      (run sample (.start fallingSilent) (loadThenRefresh ++ [.refresh])).library.groups.latest
        = .error (.transport "no answer") ∧
      (after sample (run sample (.start fallingSilent) loadThenRefresh) .refresh).library.directory
        = (run sample (.start fallingSilent) loadThenRefresh).library.directory ∧
      (run sample (run sample (.start fallingSilent) loadThenRefresh)
          [.refresh, .refresh]).library.directory.isLoaded = true := by
  have hloaded : (run sample (.start fallingSilent) loadThenRefresh).library.directory.isLoaded
      = true := by decide +kernel
  have hfailed : Event.refresh.contents? sample
      (run sample (.start fallingSilent) loadThenRefresh) = none := by decide +kernel
  have hbrought : contentsBrought sample (.start fallingSilent) (loadThenRefresh ++ [.refresh])
      = [[contentSaying "old"], [contentSaying "new"]] := by decide +kernel
  have hgroup : groupsBrought sample (.start fallingSilent) loadThenRefresh
      = [.ok [⟨"all", "", []⟩]] := by decide +kernel
  have hgroups : groupsBrought sample (.start fallingSilent) (loadThenRefresh ++ [.refresh])
      = [.ok [⟨"all", "", []⟩], .error (.transport "no answer")] := by decide +kernel
  have hcourse := library_after_course sample fallingSilent
  obtain ⟨hlookup, hlatest, hkept, hstays, -⟩ := hcourse (loadThenRefresh ++ [.refresh])
  refine ⟨(hcourse []).1 "rule" "KEY", hbrought, ?_, ?_, ?_, hkept _ _ hfailed,
    hstays _ _ hloaded⟩
  · rw [hlookup, hbrought]
    rfl
  · rw [(hcourse loadThenRefresh).2.1, hgroup]
    rfl
  · rw [hlatest, hgroups]
    rfl

end Interrupted

end Gateway

end ReportGateway
