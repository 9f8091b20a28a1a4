import ReportGateway.Proofs.Provenance

/-!
Actions in a world that remembers all that is done in it. A `World` answers requests and looks content
up, and what it says may depend on all that was done before, lookups as well as exchanges;
`Action.within` carries an action out and keeps its requests and its lookups in one list of `Deed`s.
Two actions that agree in every world agree in what they do and in which order.

As long as no content is looked up, a world is nothing but services (`World.services`), and an action
that never looks anything up cannot tell the two apart (`Action.OnlyExchanges.within`). What is known
of sending a request among services is known of sending it in a world
(`Http.Client.Makes.within_send_bind`).
-/

namespace ReportGateway

/-- Something done outside: a request with its reply, or a lookup with what was found. -/
inductive Deed
  | exchanged (request : Http.Request) (reply : Http.Reply)
  | lookedUp (ruleId errorKey : String) (found : Except Content.Error (Option RuleContent))

namespace Deed

/-- An exchange of a journal, among other deeds. -/
def ofExchange (e : Http.Request × Http.Reply) : Deed := .exchanged e.1 e.2

/-- The method and the place of a request, or the rule that was looked up. -/
def told : Deed → String × String
  | .exchanged request _ => (request.method, request.url.text)
  | .lookedUp ruleId errorKey _ => (ruleId, errorKey)

end Deed

/-- An outside whose answers may depend on all that was done before. -/
structure World where
  reply : List Deed → Http.Request → Http.Reply
  content : List Deed → Content.Lookup

namespace World

variable (w : World)

def exchange (request : Http.Request) : StateM (List Deed) Http.Reply := fun past =>
  (w.reply past request, past ++ [.exchanged request (w.reply past request)])

def lookUp (ruleId errorKey : String) :
    StateM (List Deed) (Except Content.Error (Option RuleContent)) := fun past =>
  (w.content past ruleId errorKey,
    past ++ [.lookedUp ruleId errorKey (w.content past ruleId errorKey)])

/-- The services of a world, for those who come after these deeds and only exchange messages. -/
def services (past : List Deed) : Services := fun journal =>
  w.reply (past ++ journal.map Deed.ofExchange)

end World

namespace Action

variable {ε ε' α β : Type}

/-- How an action ends in a world, and all that has been done then. -/
def within (a : Action ε α) (w : World) (past : List Deed) : Except ε α × List Deed :=
  (a.perform w.exchange w.lookUp).run past

section Within

variable (w : World) (past : List Deed)

theorem within_contentOf (ruleId errorKey : String) :
    (contentOf ruleId errorKey).within w past
      = (w.content past ruleId errorKey,
        past ++ [.lookedUp ruleId errorKey (w.content past ruleId errorKey)]) := rfl

theorem within_settle (a : Action ε α) (f : Except ε α → Action ε' β) :
    (a.settle f).within w past = (f (a.within w past).1).within w (a.within w past).2 := by
  induction a generalizing past with
  | done r => rfl
  | exchange request next ih => exact ih _ _
  | lookup ruleId errorKey next ih => exact ih _ _

theorem within_bind (a : Action ε α) (f : α → Action ε β) :
    (a >>= f).within w past =
      match a.within w past with
      | (.ok x, later) => (f x).within w later
      | (.error e, later) => (.error e, later) := by
  show (a.settle _).within w past = _
  rw [within_settle]
  rcases a.within w past with ⟨_ | _, later⟩ <;> rfl

theorem within_map (f : α → β) (a : Action ε α) :
    (f <$> a).within w past = ((a.within w past).1.map f, (a.within w past).2) := by
  rw [map_eq_pure_bind, within_bind]
  rcases a.within w past with ⟨_ | _, later⟩ <;> rfl

theorem within_mapError (f : ε → ε') (a : Action ε α) :
    (a.mapError f).within w past
      = ((a.within w past).1.mapError f, (a.within w past).2) := by
  unfold mapError
  rw [within_settle]
  rfl

end Within

/-- An action that never looks content up. -/
def OnlyExchanges : Action ε α → Prop
  | .done _ => True
  | .exchange _ next => ∀ reply, OnlyExchanges (next reply)
  | .lookup _ _ _ => False

/-- To an action that never looks content up, a world is the services in it. -/
theorem OnlyExchanges.within {a : Action ε α} (ha : a.OnlyExchanges) (w : World) (past : List Deed)
    (content : Content.Lookup) (journal : Journal) :
    a.within w (past ++ journal.map Deed.ofExchange)
      = ((a.among (w.services past) content journal).1,
        past ++ (a.among (w.services past) content journal).2.map Deed.ofExchange) := by
  induction a generalizing journal with
  | done r => rfl
  | exchange request next ih =>
      have hrest := ih (w.services past journal request) (ha _)
        (journal ++ [(request, w.services past journal request)])
      rw [List.map_append, ← List.append_assoc] at hrest
      exact hrest
  | lookup ruleId errorKey next ih => exact ha.elim

end Action

namespace Http.Client

open ReportGateway.Action (OnlyExchanges)

variable {ε : Type}

theorem onlyExchanges_follow (left : Nat) (r : Request) :
    (follow left r : Action ε Outcome).OnlyExchanges := by
  induction left generalizing r with
  | zero =>
      rw [follow]
      rintro (_ | _ | ⟨response, complete⟩)
      · trivial
      · trivial
      · dsimp only
        cases next? r response with
        | none => trivial
        | some place => trivial
  | succ left ih =>
      rw [follow]
      rintro (_ | _ | ⟨response, complete⟩)
      · trivial
      · trivial
      · dsimp only
        cases next? r response with
        | none => trivial
        | some place =>
            dsimp only
            split
            · exact ih place
            · trivial

theorem onlyExchanges_send (r : Request) : (send r : Action ε Outcome).OnlyExchanges := by
  rw [send]
  split
  · exact onlyExchanges_follow redirectLimit (authorize r)
  · trivial

/-- What sending a request makes of the services of a world is what it does in the world. -/
theorem Makes.within_send_bind {w : World} {past : List Deed} {r : Request} {made : Journal}
    {outcome : Outcome} {α : Type} (h : Makes (w.services past) [] r made outcome)
    (f : Outcome → Except ε α) :
    (send r >>= fun outcome => Action.done (f outcome)).within w past
      = (f outcome, past ++ made.map Deed.ofExchange) := by
  have hsend := (onlyExchanges_send (ε := ε) r).within w past Content.Directory.empty.lookup []
  rw [List.map_nil, List.append_nil, among_send, h.sent] at hsend
  rw [Action.within_bind, hsend]
  rfl

end Http.Client

end ReportGateway
