import ReportGateway.Gateway.Endpoints
import ReportGateway.Proofs.Asking

/-!
How the endpoints go about a request. Most of them check what they were given, then ask the results
store one question, and after that look content up at most. `AsksOnce` says so of a handler, and there
is one lemma for each endpoint that does; what holds of every such handler is then shown by induction
on its checks. The gateway refuses a request when it does not know who sends it or cannot use what was
sent: that is the business of the checks, and `Unrefused` says that nothing else does it.
-/

namespace ReportGateway

open ReportGateway.Action (AsksNobody Ends asksNobody_done asksNobody_contentOf ends_any ends_done)

/-- The gateway refuses: it does not know who asks, or cannot use what was sent. -/
def Failure.IsRefusal : Failure → Prop
  | .unauthorized => True
  | .badRequest _ => True
  | _ => False

/-- What an action ends in is no refusal. -/
def Unrefused {α : Type} : Except Failure α → Prop
  | .ok _ => True
  | .error f => ¬f.IsRefusal

section Unrefused

variable {α β : Type}

/-- What can be refused neither at once nor later is never refused. -/
theorem Action.Ends.bind_unrefused {a : Action Failure α} {f : α → Action Failure β}
    (ha : Ends Unrefused a) (hf : ∀ x, Ends Unrefused (f x)) : Ends Unrefused (a >>= f) :=
  ha.bind (fun _ => id) fun x _ => hf x

theorem Action.ends_return_unrefused (x : α) : Ends Unrefused (pure x : Action Failure α) :=
  ends_done trivial

theorem Aggregator.unrefused_interpret (read : Json.Read α) (outcome : Http.Outcome) :
    Unrefused (interpret read outcome) := by
  cases outcome with
  | unbuildable => exact id
  | failed => exact id
  | received response complete =>
      cases complete with
      | false => exact id
      | true =>
          rw [interpret]
          split
          · split
            · exact trivial
            · exact id
          · exact id

theorem Aggregator.unrefused_ask {base : Url} {template : Url.Template} {params : List String}
    (payload : Option ByteArray) (read : Json.Read α) :
    Ends Unrefused (ask base template params payload read) :=
  ends_ask_of payload read id (unrefused_interpret read)

theorem Failure.unrefused_ofContent (x : Except Content.Error α) :
    Unrefused (x.mapError Failure.ofContent) := by
  cases x with
  | ok y => exact trivial
  | error e => cases e <;> exact id

end Unrefused

namespace Action

variable {α β : Type}

/-- An action asks nobody and refuses nothing. -/
structure Quiet (a : Action Failure α) : Prop where
  asksNobody : AsksNobody a
  unrefused : Ends Unrefused a

theorem quiet_return (x : α) : Quiet (pure x : Action Failure α) :=
  ⟨asksNobody_done _, ends_return_unrefused x⟩

theorem quiet_fail {f : Failure} (h : ¬f.IsRefusal) : Quiet (fail f : Action Failure α) :=
  ⟨asksNobody_done _, ends_done h⟩

theorem Quiet.bind {a : Action Failure α} {f : α → Action Failure β} (ha : Quiet a)
    (hf : ∀ x, Quiet (f x)) : Quiet (a >>= f) :=
  ⟨ha.asksNobody.bind fun x => (hf x).asksNobody, ha.unrefused.bind_unrefused fun x => (hf x).unrefused⟩

theorem quiet_ofContent {a : Action Content.Error α} (ha : AsksNobody a) :
    Quiet (a.mapError Failure.ofContent) :=
  ⟨ha.mapError _, (ends_any a).mapError fun x _ => Failure.unrefused_ofContent x⟩

end Action

open ReportGateway.Action (Quiet quiet_fail quiet_ofContent quiet_return)

namespace Gateway

/-- A handler checks what it was given and then asks the results store one question; what follows is
quiet. -/
inductive AsksOnce : Handler → Prop
  | stops (f : Failure) : AsksOnce (.fail f)
  | checks {α : Type} (x : Except Failure α) {f : α → Handler} (hf : ∀ y, AsksOnce (f y)) :
      AsksOnce (.done x >>= f)
  | asks {α : Type} {base : Url} {template : Url.Template} {params : List String}
      (payload : Option ByteArray) (read : Json.Read α) {f : α → Handler} (hf : ∀ y, Quiet (f y)) :
      AsksOnce (Aggregator.ask base template params payload read >>= f)

variable (g : Gateway) (caller : Caller) (r : Inbound)

theorem asksOnce_report (cluster : String) : AsksOnce (report g caller cluster r) := by
  rw [report]
  refine .checks _ fun name => .checks _ fun includeDisabled => .asks _ _ fun found => ?_
  exact (quiet_ofContent (Visibility.asksNobody_filter _ _)).bind fun _ => quiet_return _

theorem asksOnce_reportInfo (cluster : String) : AsksOnce (reportInfo g caller cluster) := by
  rw [reportInfo]
  exact .checks _ fun name => .asks _ _ fun _ => quiet_return _

theorem asksOnce_rule (cluster rawSelector : String) :
    AsksOnce (rule g caller cluster rawSelector r) := by
  rw [rule]
  refine .checks _ fun name => .checks _ fun selected => .asks _ _ fun hit => ?_
  refine (quiet_ofContent (asksNobody_contentOf _ _)).bind fun content => ?_
  cases content with
  | none => exact quiet_fail id
  | some c =>
      dsimp only
      generalize Visibility.Policy.mk true _ = policy
      split
      · exact quiet_fail id
      · split
        · exact quiet_fail id
        · exact quiet_return _

theorem asksOnce_reportsOfPayload : AsksOnce (reportsOfPayload g caller r) := by
  rw [reportsOfPayload]
  split
  · exact .stops _
  · exact .asks _ _ fun _ => quiet_return _

theorem asksOnce_reportsOfList (list : String) : AsksOnce (reportsOfList g caller list) := by
  rw [reportsOfList]
  exact .checks _ fun names => .asks _ _ fun _ => quiet_return _

end Gateway

end ReportGateway
