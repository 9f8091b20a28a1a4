import ReportGateway.Proofs.Journal

/-!
What comes of sending one request. `Leads` follows the exchanges that redirects string together, one
constructor for each way in which the next of them can go, and ends in an `Outcome`; `Sends` adds the
requests that cannot be written at all. Every run of the client is described so (`sends_send`). A
service is at fault when it gives no answer, or when the body of an answer that says success breaks
off; nothing follows such a reply (`Leads.outcome_eq_of_fault`). `Heeds Q` says of an action that `Q`
ties every fault among its exchanges to how it ends, and is kept by putting actions together.
-/

namespace ReportGateway

namespace Http

namespace Reply

/-- What a reply is to a client that is not sent on by it. -/
def outcome : Reply → Outcome
  | .unreachable => .failed
  | .silent => .failed
  | .answer response complete => .received response complete

/-- No answer came: no one was there, or the service gave none. -/
def IsUnanswered : Reply → Prop
  | .unreachable => True
  | .silent => True
  | .answer _ _ => False

/-- An answer came that says success, and its body broke off. -/
def IsCutShort : Reply → Prop
  | .answer response complete => isSuccess response.status = true ∧ complete = false
  | _ => False

def IsFault (reply : Reply) : Prop := reply.IsUnanswered ∨ reply.IsCutShort

instance : DecidablePred IsUnanswered
  | .unreachable => inferInstanceAs (Decidable True)
  | .silent => inferInstanceAs (Decidable True)
  | .answer _ _ => inferInstanceAs (Decidable False)

instance : DecidablePred IsCutShort
  | .unreachable => inferInstanceAs (Decidable False)
  | .silent => inferInstanceAs (Decidable False)
  | .answer _ _ => inferInstanceAs (Decidable (_ ∧ _))

instance : DecidablePred IsFault := fun reply =>
  inferInstanceAs (Decidable (reply.IsUnanswered ∨ reply.IsCutShort))

theorem outcome_eq_failed {reply : Reply} (h : reply.IsUnanswered) : reply.outcome = .failed := by
  cases reply with
  | unreachable => rfl
  | silent => rfl
  | answer response complete => exact h.elim

theorem exists_of_isCutShort {reply : Reply} (h : reply.IsCutShort) :
    ∃ response, reply = .answer response false ∧ isSuccess response.status = true := by
  cases reply with
  | unreachable => exact h.elim
  | silent => exact h.elim
  | answer response complete =>
      obtain ⟨hsuccess, rfl⟩ := h
      exact ⟨response, rfl, hsuccess⟩

end Reply

namespace Client

/-- The request can be put on the wire. -/
def IsWritable (r : Request) : Prop := isSendable r.url = true ∧ isTarget r.url = true

instance (r : Request) : Decidable (IsWritable r) :=
  inferInstanceAs (Decidable (_ ∧ _))

/-- From a request, with so many redirects left, these exchanges come to this outcome. -/
inductive Leads : Nat → Request → Journal → Outcome → Prop
  | ended {left : Nat} {r : Request} {reply : Reply}
      (hover : ∀ response complete, reply = .answer response complete → next? r response = none) :
      Leads left r [(r, reply)] reply.outcome
  | exhausted {r place : Request} {response : Response} {complete : Bool}
      (hnext : next? r response = some place) :
      Leads 0 r [(r, .answer response complete)] .failed
  | unsendable {left : Nat} {r place : Request} {response : Response} {complete : Bool}
      (hnext : next? r response = some place) (hplace : isSendable place.url = false) :
      Leads (left + 1) r [(r, .answer response complete)] .unbuildable
  | redirected {left : Nat} {r place : Request} {response : Response} {complete : Bool}
      {made : Journal} {outcome : Outcome} (hnext : next? r response = some place)
      (hplace : isSendable place.url = true) (hrest : Leads left place made outcome) :
      Leads (left + 1) r ((r, .answer response complete) :: made) outcome

/-- Sending a request makes these exchanges and comes to this outcome. -/
inductive Sends (r : Request) : Journal → Outcome → Prop
  | unwritable (h : ¬IsWritable (authorize r)) : Sends r [] .unbuildable
  | led {made : Journal} {outcome : Outcome} (h : IsWritable (authorize r))
      (hled : Leads redirectLimit (authorize r) made outcome) : Sends r made outcome

section Sending

/-- A reply is the last, or sends the client on. -/
theorem over_or_next (r : Request) (reply : Reply) :
    (∀ response complete, reply = .answer response complete → next? r response = none) ∨
      ∃ response complete place, reply = .answer response complete ∧
        next? r response = some place := by
  cases reply with
  | unreachable => exact Or.inl (by rintro _ _ ⟨⟩)
  | silent => exact Or.inl (by rintro _ _ ⟨⟩)
  | answer response complete =>
      cases hnext : next? r response with
      | none =>
          refine Or.inl ?_
          rintro _ _ ⟨⟩
          exact hnext
      | some place => exact Or.inr ⟨response, complete, place, rfl, hnext⟩

variable {v : Services} {r : Request} {journal : Journal}

/-- A reply that sends the client nowhere is what following comes to. -/
theorem among_follow_of_over {E : Type} (content : Content.Lookup) (left : Nat)
    (hover : ∀ response complete, v journal r = .answer response complete →
      next? r response = none) :
    (follow left r : Action E Outcome).among v content journal
      = (.ok (v journal r).outcome, journal ++ [(r, v journal r)]) := by
  cases left <;>
    cases hreply : v journal r with
    | unreachable =>
        rw [follow, Action.among_exchange, hreply]
        rfl
    | silent =>
        rw [follow, Action.among_exchange, hreply]
        rfl
    | answer response complete =>
        rw [follow, Action.among_exchange, hreply]
        simp only [hover response complete hreply]
        rfl

variable (v r journal)

theorem leads_follow (left : Nat) :
    ∃ made outcome, Leads left r made outcome ∧ ∀ (E : Type) (content : Content.Lookup),
      (follow left r : Action E Outcome).among v content journal
        = (.ok outcome, journal ++ made) := by
  -- Every redirect uses one of those that are left up; only a reply that sends on needs the rest.
  induction left using Nat.strongRecOn generalizing r journal with
  | ind left ih =>
      rcases over_or_next r (v journal r) with hover | ⟨response, complete, place, hreply, hnext⟩
      · exact ⟨_, _, .ended hover, fun E content => among_follow_of_over content left hover⟩
      · cases left with
        | zero =>
            refine ⟨[(r, .answer response complete)], .failed, .exhausted hnext,
              fun E content => ?_⟩
            rw [follow, Action.among_exchange, hreply]
            simp only [hnext]
            rfl
        | succ left =>
            cases hplace : isSendable place.url with
            | false =>
                refine ⟨[(r, .answer response complete)], .unbuildable, .unsendable hnext hplace,
                  fun E content => ?_⟩
                rw [follow, Action.among_exchange, hreply]
                simp [hnext, hplace]
            | true =>
                obtain ⟨made, outcome, hled, hmade⟩ := ih left (Nat.lt_succ_self left) place
                  (journal ++ [(r, .answer response complete)])
                refine ⟨(r, .answer response complete) :: made, outcome,
                  .redirected hnext hplace hled, fun E content => ?_⟩
                rw [follow, Action.among_exchange, hreply]
                simp only [hnext, hplace, if_true, hmade, List.append_assoc, List.singleton_append]

/-- What comes of sending a request, and the journal that is left. -/
def sent : Outcome × Journal :=
  match (send r : Action Empty Outcome).among v Content.Directory.empty.lookup journal with
  | (.ok outcome, later) => (outcome, later)
  | (.error e, _) => nomatch e

/-- Sending goes as `Sends` says, and looks no content up. -/
theorem sends_send :
    ∃ made, Sends r made (sent v r journal).1 ∧ (sent v r journal).2 = journal ++ made ∧
      ∀ (E : Type) (content : Content.Lookup),
        (send r : Action E Outcome).among v content journal
          = (.ok (sent v r journal).1, (sent v r journal).2) := by
  have hsends : ∃ made outcome, Sends r made outcome ∧ ∀ (E : Type) (content : Content.Lookup),
      (send r : Action E Outcome).among v content journal = (.ok outcome, journal ++ made) := by
    by_cases hwritable : IsWritable (authorize r)
    · obtain ⟨made, outcome, hled, hmade⟩ := leads_follow v (authorize r) journal redirectLimit
      refine ⟨made, outcome, .led hwritable hled, fun E content => ?_⟩
      rw [send, if_pos (by simpa [IsWritable] using hwritable)]
      exact hmade E content
    · refine ⟨[], .unbuildable, .unwritable hwritable, fun E content => ?_⟩
      rw [send, if_neg (by simpa [IsWritable] using hwritable), List.append_nil]
      rfl
  obtain ⟨made, outcome, hsends, hmade⟩ := hsends
  have hsent : sent v r journal = (outcome, journal ++ made) := by
    rw [sent, hmade]
  rw [hsent]
  exact ⟨made, hsends, rfl, hmade⟩

/-- A first reply that sends the client nowhere is what sending comes to. -/
theorem sent_of_over (hwritable : IsWritable (authorize r))
    (hover : ∀ response complete, v journal (authorize r) = .answer response complete →
      next? (authorize r) response = none) :
    sent v r journal
      = ((v journal (authorize r)).outcome,
        journal ++ [(authorize r, v journal (authorize r))]) := by
  rw [sent, send, if_pos (by simpa [IsWritable] using hwritable), among_follow_of_over _ _ hover]

theorem among_send {E : Type} (content : Content.Lookup) :
    (send r : Action E Outcome).among v content journal
      = (.ok (sent v r journal).1, (sent v r journal).2) :=
  have ⟨_, _, _, hmade⟩ := sends_send v r journal
  hmade E content

end Sending

/-- An answer that says success sends a client nowhere. -/
theorem next?_eq_none_of_isSuccess {r : Request} {response : Response}
    (h : isSuccess response.status = true) : next? r response = none := by
  have hkept : redirected? r response.status = none := by
    rw [isSuccess, Bool.and_eq_true, decide_eq_true_eq, decide_eq_true_eq] at h
    unfold redirected?
    split
    all_goals first | rfl | omega
  rw [next?, hkept]
  rfl

/-- A fault is no redirect, so it can only stand last. -/
theorem not_isFault_of_next {r place : Request} {response : Response} {complete : Bool}
    (hnext : next? r response = some place) : ¬(Reply.answer response complete).IsFault := by
  rintro (hunanswered | ⟨hsuccess, -⟩)
  · exact hunanswered
  · rw [next?_eq_none_of_isSuccess hsuccess] at hnext
    cases hnext

theorem Leads.outcome_eq_of_fault {left : Nat} {r : Request} {made : Journal} {outcome : Outcome}
    (h : Leads left r made outcome) {exchange : Request × Reply} (hmem : exchange ∈ made)
    (hfault : exchange.2.IsFault) : outcome = exchange.2.outcome := by
  induction h with
  | ended hover =>
      rw [List.mem_singleton.mp hmem]
  | exhausted hnext =>
      rw [List.mem_singleton.mp hmem] at hfault
      exact absurd hfault (not_isFault_of_next hnext)
  | unsendable hnext hplace =>
      rw [List.mem_singleton.mp hmem] at hfault
      exact absurd hfault (not_isFault_of_next hnext)
  | redirected hnext hplace hrest ih =>
      rcases List.mem_cons.mp hmem with rfl | hmem
      · exact absurd hfault (not_isFault_of_next hnext)
      · exact ih hmem

theorem Sends.outcome_eq_of_fault {r : Request} {made : Journal} {outcome : Outcome}
    (h : Sends r made outcome) {exchange : Request × Reply} (hmem : exchange ∈ made)
    (hfault : exchange.2.IsFault) : outcome = exchange.2.outcome := by
  cases h with
  | unwritable h => exact absurd hmem List.not_mem_nil
  | led h hled => exact hled.outcome_eq_of_fault hmem hfault

end Client

end Http

namespace Action

variable {ε ε' α β : Type}

/-- Carried out anywhere, an action only adds exchanges to the journal, and of each of them that came
to a fault, and of how the action ends, `Q` holds. -/
def Heeds (Q : Http.Reply → Except ε α → Prop) (a : Action ε α) : Prop :=
  ∀ v content journal, ∃ made, (a.among v content journal).2 = journal ++ made ∧
    ∀ exchange ∈ made, exchange.2.IsFault → Q exchange.2 (a.among v content journal).1

variable {Q : Http.Reply → Except ε α → Prop}

theorem heeds_done (r : Except ε α) : Heeds Q (.done r) := by
  intro v content journal
  exact ⟨[], (List.append_nil journal).symm, fun _ hmem => absurd hmem List.not_mem_nil⟩

theorem heeds_fail (e : ε) : Heeds Q (fail e : Action ε α) := heeds_done _

/-- What a fault leaves must lead on to an end that befits the fault; otherwise it is up to what
follows. -/
theorem Heeds.settle {a : Action ε α} {f : Except ε α → Action ε' β}
    {R : Http.Reply → Except ε' β → Prop} (ha : Heeds Q a)
    (hpass : ∀ reply r, Q reply r → Ends (R reply) (f r)) (hf : ∀ r, Heeds R (f r)) :
    Heeds R (a.settle f) := by
  intro v content journal
  obtain ⟨early, hearly, hfault⟩ := ha v content journal
  obtain ⟨late, hlate, hfault'⟩ :=
    hf (a.among v content journal).1 v content (a.among v content journal).2
  refine ⟨early ++ late, ?_, ?_⟩
  · rw [among_settle, hlate, hearly, List.append_assoc]
  · intro exchange hmem hbad
    rw [among_settle]
    rcases List.mem_append.mp hmem with hmem | hmem
    · exact hpass _ _ (hfault exchange hmem hbad) v content _
    · exact hfault' exchange hmem hbad

theorem Heeds.mono {a : Action ε α} {R : Http.Reply → Except ε α → Prop} (ha : Heeds Q a)
    (h : ∀ reply r, reply.IsFault → Q reply r → R reply r) : Heeds R a := by
  intro v content journal
  obtain ⟨made, hmade, hfault⟩ := ha v content journal
  exact ⟨made, hmade, fun exchange hmem hbad => h _ _ hbad (hfault exchange hmem hbad)⟩

/-- Every fault ends the action in this error. -/
abbrev Blames (e : ε) (a : Action ε α) : Prop := Heeds (fun _ r => r = .error e) a

theorem Blames.bind {e : ε} {a : Action ε α} {f : α → Action ε β} (ha : Blames e a)
    (hf : ∀ x, Blames e (f x)) : Blames e (a >>= f) := by
  refine Heeds.settle ha ?_ ?_
  · rintro reply r rfl
    exact ends_done rfl
  · intro r
    cases r with
    | error e => exact heeds_done _
    | ok x => exact hf x

theorem Blames.mapError {e : ε} {a : Action ε α} (f : ε → ε') (ha : Blames e a) :
    Blames (f e) (a.mapError f) := by
  refine Heeds.settle ha ?_ fun r => heeds_done _
  rintro reply r rfl
  exact ends_done rfl

/-- Where nobody is asked there is no fault to heed. -/
def AsksNobody (a : Action ε α) : Prop :=
  ∀ v content journal, (a.among v content journal).2 = journal

theorem asksNobody_done (r : Except ε α) : AsksNobody (.done r) := fun _ _ _ => rfl

theorem asksNobody_contentOf (ruleId errorKey : String) : AsksNobody (contentOf ruleId errorKey) :=
  fun _ _ _ => rfl

theorem AsksNobody.settle {a : Action ε α} {f : Except ε α → Action ε' β} (ha : AsksNobody a)
    (hf : ∀ r, AsksNobody (f r)) : AsksNobody (a.settle f) := by
  intro v content journal
  rw [among_settle, hf _ v content, ha v content]

theorem AsksNobody.bind {a : Action ε α} {f : α → Action ε β} (ha : AsksNobody a)
    (hf : ∀ x, AsksNobody (f x)) : AsksNobody (a >>= f) := by
  refine AsksNobody.settle ha fun r => ?_
  cases r with
  | error e => exact asksNobody_done _
  | ok x => exact hf x

theorem AsksNobody.mapError {a : Action ε α} (f : ε → ε') (ha : AsksNobody a) :
    AsksNobody (a.mapError f) := ha.settle fun _ => asksNobody_done _

theorem AsksNobody.heeds {a : Action ε α} (ha : AsksNobody a) : Heeds Q a := by
  intro v content journal
  refine ⟨[], ?_, fun _ hmem => absurd hmem List.not_mem_nil⟩
  rw [ha v content journal, List.append_nil]

end Action

namespace Http.Client

open ReportGateway.Action (Heeds)

theorem heeds_send {E : Type} (r : Request) :
    Heeds (fun reply x => x = .ok reply.outcome) (send r : Action E Outcome) := by
  intro v content journal
  obtain ⟨made, hsends, hlater, -⟩ := sends_send v r journal
  rw [among_send]
  refine ⟨made, hlater, fun exchange hmem hfault => ?_⟩
  rw [hsends.outcome_eq_of_fault hmem hfault]

end Http.Client

end ReportGateway
