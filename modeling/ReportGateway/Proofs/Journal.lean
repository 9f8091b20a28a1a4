import ReportGateway.Http.Client

/-!
Actions among services that remember. `among` carries an action out with `perform`, as a running
gateway does, and keeps a journal of every request with its reply. A reply may depend on the whole
journal so far, so a statement for all `Services` is one for every order of answers, faults and
redirects, and services that do not remember are the special case of `run` (`among_network`).

A client that follows redirects asks for places that only a service names. `OnlyAsks P` says that,
redirects aside, all requests of a journal are `P`; carrying an action out keeps it as long as every
request that the action itself begins with is `P` (`Http.Client.keeps_send`). `Ends Q` says of an
action what it ends in, whatever services it is carried out among.
-/

namespace ReportGateway

/-- What services were asked and what came of it, first exchange first. -/
abbrev Journal : Type := List (Http.Request × Http.Reply)

/-- Services whose replies may depend on all that was exchanged before. -/
abbrev Services : Type := Journal → Http.Request → Http.Reply

namespace Action

variable {ε ε' α β : Type}

/-- One exchange, entered in the journal. -/
def enter (v : Services) (request : Http.Request) : StateM Journal Http.Reply := fun journal =>
  (v journal request, journal ++ [(request, v journal request)])

/-- How an action ends among services, and the journal that it leaves. -/
def among (a : Action ε α) (v : Services) (content : Content.Lookup) (journal : Journal) :
    Except ε α × Journal :=
  (a.perform (enter v) fun ruleId errorKey => pure (content ruleId errorKey)).run journal

section Among

variable (v : Services) (content : Content.Lookup) (journal : Journal)

@[simp] theorem among_done (r : Except ε α) :
    (Action.done r).among v content journal = (r, journal) := rfl

@[simp] theorem among_pure (x : α) :
    (pure x : Action ε α).among v content journal = (.ok x, journal) := rfl

@[simp] theorem among_fail (e : ε) :
    (fail e : Action ε α).among v content journal = (.error e, journal) := rfl

@[simp] theorem among_exchange (request : Http.Request) (next : Http.Reply → Action ε α) :
    (Action.exchange request next).among v content journal
      = (next (v journal request)).among v content
          (journal ++ [(request, v journal request)]) := rfl

@[simp] theorem among_lookup (ruleId errorKey : String)
    (next : Except Content.Error (Option RuleContent) → Action ε α) :
    (Action.lookup ruleId errorKey next).among v content journal
      = (next (content ruleId errorKey)).among v content journal := rfl

@[simp] theorem among_contentOf (ruleId errorKey : String) :
    (contentOf ruleId errorKey).among v content journal = (content ruleId errorKey, journal) := rfl

theorem among_settle (a : Action ε α) (f : Except ε α → Action ε' β) :
    (a.settle f).among v content journal
      = (f (a.among v content journal).1).among v content (a.among v content journal).2 := by
  induction a generalizing journal with
  | done r => rfl
  | exchange request next ih => simp only [settle, among_exchange, ih]
  | lookup ruleId errorKey next ih => simp only [settle, among_lookup, ih]

theorem among_bind (a : Action ε α) (f : α → Action ε β) :
    (a >>= f).among v content journal =
      match a.among v content journal with
      | (.ok x, later) => (f x).among v content later
      | (.error e, later) => (.error e, later) := by
  show (a.settle _).among v content journal = _
  rw [among_settle]
  rcases a.among v content journal with ⟨_ | _, later⟩ <;> rfl

theorem among_map (f : α → β) (a : Action ε α) :
    (f <$> a).among v content journal
      = ((a.among v content journal).1.map f, (a.among v content journal).2) := by
  rw [map_eq_pure_bind, among_bind]
  rcases a.among v content journal with ⟨_ | _, later⟩ <;> rfl

theorem among_mapError (f : ε → ε') (a : Action ε α) :
    (a.mapError f).among v content journal
      = ((a.among v content journal).1.mapError f, (a.among v content journal).2) := by
  rw [mapError, among_settle, among_done]

end Among

/-- To attempt an action and look at the result is to go on with how it ended. -/
theorem attempt_bind (a : Action ε α) (f : Except ε α → Action ε' β) :
    (a.attempt >>= f) = a.settle f := settle_settle _ _ _

/-- Among services that do not remember, an action ends as it does in a run, and the requests of the
journal that were received are those of the run. -/
theorem among_network (s : Surroundings) (a : Action ε α) (journal : Journal) :
    (a.among (fun _ => s.network) s.content journal).1 = (a.run s).result ∧
      ((a.among (fun _ => s.network) s.content journal).2.filter (·.2.isReceived)).map Prod.fst
        = (journal.filter (·.2.isReceived)).map Prod.fst ++ (a.run s).calls := by
  induction a generalizing journal with
  | done r => exact ⟨rfl, (List.append_nil _).symm⟩
  | exchange request next ih =>
      obtain ⟨hresult, hcalls⟩ :=
        ih (s.network request) (journal ++ [(request, s.network request)])
      refine ⟨hresult, ?_⟩
      rw [among_exchange, hcalls]
      cases hreceived : (s.network request).isReceived <;>
        simp [run, Run.after, hreceived]
  | lookup ruleId errorKey next ih => exact ih (s.content ruleId errorKey) journal

end Action

namespace Journal

/-- The last answer of a journal sends the client on to a request. -/
def SendsOn (journal : Journal) (request : Http.Request) : Prop :=
  ∃ asked response complete, journal.getLast? = some (asked, .answer response complete) ∧
    Http.Client.next? asked response = some request

/-- Redirects aside, all requests of a journal are `P`. -/
def OnlyAsks (P : Http.Request → Prop) (journal : Journal) : Prop :=
  ∀ before request reply after, journal = before ++ (request, reply) :: after →
    SendsOn before request ∨ P request

variable {P : Http.Request → Prop} {journal : Journal}

theorem onlyAsks_nil : OnlyAsks P [] := by
  intro before request reply after h
  exact absurd h (by simp)

theorem OnlyAsks.concat (h : OnlyAsks P journal) {request : Http.Request} (reply : Http.Reply)
    (hrequest : SendsOn journal request ∨ P request) :
    OnlyAsks P (journal ++ [(request, reply)]) := by
  intro before request' reply' after hsplit
  rcases List.eq_nil_or_concat after with rfl | ⟨after, last, rfl⟩
  · obtain ⟨rfl, hlast⟩ := List.append_inj' hsplit rfl
    obtain ⟨rfl, -⟩ := Prod.mk.inj (List.singleton_inj.mp hlast)
    exact hrequest
  · rw [List.concat_eq_append, ← List.cons_append, ← List.append_assoc] at hsplit
    exact h before request' reply' after (List.append_inj' hsplit rfl).1

/-- The first request of a journal is never a redirect. -/
theorem OnlyAsks.head (h : OnlyAsks P journal) {request : Http.Request} {reply : Http.Reply}
    (hhead : journal.head? = some (request, reply)) : P request := by
  obtain ⟨after, rfl⟩ := List.head?_eq_some_iff.mp hhead
  rcases h [] request reply after rfl with ⟨_, _, _, hlast, -⟩ | hrequest
  · exact absurd hlast (by simp)
  · exact hrequest

end Journal

namespace Action

variable {ε ε' α β : Type} {P : Http.Request → Prop}

/-- Carried out among these services, an action adds no request that is not `P`, redirects aside. -/
def Keeps (P : Http.Request → Prop) (v : Services) (content : Content.Lookup) (a : Action ε α) :
    Prop :=
  ∀ journal, Journal.OnlyAsks P journal → Journal.OnlyAsks P (a.among v content journal).2

variable {v : Services} {content : Content.Lookup}

theorem keeps_done (r : Except ε α) : Keeps P v content (.done r) := fun _ h => h

theorem keeps_pure (x : α) : Keeps P v content (pure x : Action ε α) := fun _ h => h

theorem keeps_fail (e : ε) : Keeps P v content (fail e : Action ε α) := fun _ h => h

theorem keeps_contentOf (ruleId errorKey : String) :
    Keeps P v content (contentOf ruleId errorKey) := fun _ h => h

theorem Keeps.settle {a : Action ε α} {f : Except ε α → Action ε' β} (ha : Keeps P v content a)
    (hf : ∀ r, Keeps P v content (f r)) : Keeps P v content (a.settle f) := by
  intro journal h
  rw [among_settle]
  exact hf _ _ (ha journal h)

theorem Keeps.bind {a : Action ε α} {f : α → Action ε β} (ha : Keeps P v content a)
    (hf : ∀ x, Keeps P v content (f x)) : Keeps P v content (a >>= f) := by
  refine Keeps.settle ha fun r => ?_
  cases r with
  | error e => exact keeps_done _
  | ok x => exact hf x

theorem Keeps.map {a : Action ε α} (f : α → β) (ha : Keeps P v content a) :
    Keeps P v content (f <$> a) := by
  rw [map_eq_pure_bind]
  exact ha.bind fun _ => keeps_pure _

theorem Keeps.mapError {a : Action ε α} (f : ε → ε') (ha : Keeps P v content a) :
    Keeps P v content (a.mapError f) := ha.settle fun _ => keeps_done _

theorem Keeps.attempt {a : Action ε α} (ha : Keeps P v content a) :
    Keeps P v content (a.attempt : Action ε' _) := ha.settle fun _ => keeps_done _

/-- Among all services and wherever content is looked up, an action ends in `Q`. -/
def Ends (Q : Except ε α → Prop) (x : Action ε α) : Prop :=
  ∀ (v : Services) content journal, Q (x.among v content journal).1

variable {Q : Except ε α → Prop}

theorem ends_done {r : Except ε α} (h : Q r) : Ends Q (.done r) := fun _ _ _ => h

theorem ends_any (x : Action ε α) : Ends (fun _ => True) x := fun _ _ _ => trivial

theorem Ends.settle {x : Action ε α} {f : Except ε α → Action ε' β} {R : Except ε' β → Prop}
    (hx : Ends Q x) (hf : ∀ r, Q r → Ends R (f r)) : Ends R (x.settle f) := by
  intro v content journal
  rw [among_settle]
  exact hf _ (hx v content journal) v content _

theorem Ends.bind {x : Action ε α} {f : α → Action ε β} {R : Except ε β → Prop} (hx : Ends Q x)
    (herror : ∀ e, Q (.error e) → R (.error e)) (hf : ∀ y, Q (.ok y) → Ends R (f y)) :
    Ends R (x >>= f) := by
  refine Ends.settle hx fun r hr => ?_
  cases r with
  | error e => exact ends_done (herror e hr)
  | ok y => exact hf y hr

theorem Ends.mapError {x : Action ε α} {f : ε → ε'} {R : Except ε' α → Prop} (hx : Ends Q x)
    (h : ∀ r, Q r → R (r.mapError f)) : Ends R (x.mapError f) :=
  hx.settle fun r hr => ends_done (h r hr)

end Action

namespace Http.Client

open ReportGateway.Action (Keeps)
open Journal (OnlyAsks SendsOn)

variable {E : Type} {P : Request → Prop} {v : Services} {content : Content.Lookup}

/-- After one request, following redirects is over, or it goes on with the place that the answer
sends the client on to and one redirect less. -/
theorem follow_step (left : Nat) (r : Request) :
    ∃ further : Reply → Action E Outcome, follow left r = .exchange r further ∧
      ∀ reply, (∃ outcome, further reply = pure outcome) ∨
        ∃ fewer response complete place, left = fewer + 1 ∧ reply = .answer response complete ∧
          next? r response = some place ∧ further reply = follow fewer place := by
  cases left with
  | zero =>
      refine ⟨_, by rw [follow], fun reply => Or.inl ?_⟩
      cases reply with
      | unreachable => exact ⟨.failed, rfl⟩
      | silent => exact ⟨.failed, rfl⟩
      | answer response complete =>
          cases hnext : next? r response with
          | none => exact ⟨.received response complete, by simp only [hnext]⟩
          | some place => exact ⟨.failed, by simp only [hnext]⟩
  | succ fewer =>
      refine ⟨_, by rw [follow], fun reply => ?_⟩
      cases reply with
      | unreachable => exact Or.inl ⟨.failed, rfl⟩
      | silent => exact Or.inl ⟨.failed, rfl⟩
      | answer response complete =>
          cases hnext : next? r response with
          | none => exact Or.inl ⟨.received response complete, by simp only [hnext]⟩
          | some place =>
              by_cases hsent : isSendable place.url = true
              · exact Or.inr ⟨fewer, response, complete, place, rfl, rfl, hnext,
                  by simp only [hnext, hsent, if_true]⟩
              · exact Or.inl ⟨.unbuildable, by simp only [hnext, if_neg hsent]⟩

/-- What holds of ending at once, and of an exchange when it holds of all that may follow, holds of
sending a request. -/
theorem send_induction {C : Action E Outcome → Prop} (hpure : ∀ outcome, C (pure outcome))
    (hexchange : ∀ request further, (∀ reply, C (further reply)) → C (.exchange request further))
    (r : Request) : C (send r) := by
  have hfollow : ∀ left r, C (follow left r) := by
    intro left
    induction left using Nat.strongRecOn with
    | ind left ih =>
        intro r
        obtain ⟨further, hfollow, hstep⟩ := follow_step (E := E) left r
        rw [hfollow]
        refine hexchange r further fun reply => ?_
        rcases hstep reply with ⟨outcome, hover⟩ | ⟨fewer, _, _, place, rfl, -, -, hon⟩
        · rw [hover]
          exact hpure outcome
        · rw [hon]
          exact ih fewer (Nat.lt_succ_self fewer) place
  by_cases hsent : isSendable (authorize r).url && isTarget (authorize r).url
  · rw [send, if_pos hsent]
    exact hfollow redirectLimit (authorize r)
  · rw [send, if_neg hsent]
    exact hpure .unbuildable

/-- Following redirects asks for nothing but where the last answer sends the client on to. -/
theorem onlyAsks_follow (left : Nat) (r : Request) (journal : Journal)
    (h : OnlyAsks P journal) (hr : SendsOn journal r ∨ P r) :
    OnlyAsks P ((follow left r : Action E Outcome).among v content journal).2 := by
  induction left using Nat.strongRecOn generalizing r journal with
  | ind left ih =>
      have hnext := h.concat (v journal r) hr
      obtain ⟨further, hfollow, hstep⟩ := follow_step (E := E) left r
      rw [hfollow, Action.among_exchange]
      rcases hstep (v journal r) with ⟨outcome, hover⟩ |
        ⟨fewer, response, complete, place, rfl, hreply, hredirect, hon⟩
      · rw [hover]
        exact hnext
      · rw [hon]
        refine ih fewer (Nat.lt_succ_self fewer) place _ hnext
          (Or.inl ⟨r, response, complete, ?_, hredirect⟩)
        rw [List.getLast?_concat, hreply]

/-- Sending a request adds that request, if any, and where services redirect from there. -/
theorem keeps_send {r : Request} (hr : P (authorize r)) :
    Keeps P v content (send r : Action E Outcome) := by
  intro journal h
  by_cases hsent : isSendable (authorize r).url && isTarget (authorize r).url
  · rw [send, if_pos hsent]
    exact onlyAsks_follow redirectLimit (authorize r) journal h (Or.inr hr)
  · rw [send, if_neg hsent]
    exact h

end Http.Client

end ReportGateway
