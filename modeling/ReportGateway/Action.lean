import ReportGateway.Content.Directory
import ReportGateway.Http.Message

/-!
What handling a request does to the outside. An action is a program that exchanges messages with
services and looks up rule content, and ends in a value or an error. It says what is done and leaves
open how: `run` runs it in surroundings that do not change meanwhile, a network and a source of rule
content, and tells what it did. Whatever was done before an error has been done. Running two actions
one after the other does what the first did and then what the second did (`run_bind`).
-/

namespace ReportGateway

/-- A program that ends in a value or an error and says what it needs from outside on the way. -/
inductive Action (ε α : Type) : Type
  | done (r : Except ε α)
  | exchange (request : Http.Request) (next : Http.Reply → Action ε α)
  | lookup (ruleId errorKey : String)
      (next : Except Content.Error (Option RuleContent) → Action ε α)

/-- What an action is run in. -/
structure Surroundings where
  network : Http.Network
  content : Content.Lookup

/-- How an action ended, the requests that services received from it, and the rules that it looked
content up for. -/
structure Run (ε α : Type) where
  result : Except ε α
  calls : List Http.Request
  lookups : List (String × String)

/-- A run after other things have been done. -/
def Run.after {ε α : Type} (calls : List Http.Request) (lookups : List (String × String))
    (r : Run ε α) : Run ε α :=
  ⟨r.result, calls ++ r.calls, lookups ++ r.lookups⟩

namespace Action

variable {ε ε' α β : Type}

/-- Goes on with how an action ended. -/
def settle (a : Action ε α) (f : Except ε α → Action ε' β) : Action ε' β :=
  match a with
  | .done r => f r
  | .exchange request next => .exchange request fun reply => settle (next reply) f
  | .lookup ruleId errorKey next => .lookup ruleId errorKey fun found => settle (next found) f

/-- Goes on with the value of an action, or stops at its error. -/
def andThen (a : Action ε α) (f : α → Action ε β) : Action ε β :=
  a.settle fun
    | .ok x => f x
    | .error e => .done (.error e)

instance : Monad (Action ε) where
  pure x := .done (.ok x)
  bind := andThen

/-- Ends in an error. -/
def fail (e : ε) : Action ε α := .done (.error e)

/-- Makes how an action ended its value. -/
def attempt (a : Action ε α) : Action ε' (Except ε α) := a.settle fun r => .done (.ok r)

/-- Changes the error of an action. -/
def mapError (f : ε → ε') (a : Action ε α) : Action ε' α := a.settle fun r => .done (r.mapError f)

/-- The content of a rule. -/
def contentOf (ruleId errorKey : String) : Action Content.Error (Option RuleContent) :=
  .lookup ruleId errorKey .done

/-- Carries an action out with means of exchanging messages and of looking up content. -/
def perform {m : Type → Type} [Monad m] (exchange : Http.Request → m Http.Reply)
    (content : (ruleId errorKey : String) → m (Except Content.Error (Option RuleContent))) :
    Action ε α → m (Except ε α)
  | .done r => pure r
  | .exchange request next => do perform exchange content (next (← exchange request))
  | .lookup ruleId errorKey next => do
    perform exchange content (next (← content ruleId errorKey))

/-- Runs an action. -/
def run (s : Surroundings) : Action ε α → Run ε α
  | .done r => ⟨r, [], []⟩
  | .exchange request next =>
    let reply := s.network request
    (run s (next reply)).after (if reply.isReceived then [request] else []) []
  | .lookup ruleId errorKey next =>
    (run s (next (s.content ruleId errorKey))).after [] [(ruleId, errorKey)]

@[simp] theorem after_nil (r : Run ε α) : r.after [] [] = r := rfl

@[simp] theorem after_after (calls calls' : List Http.Request)
    (lookups lookups' : List (String × String)) (r : Run ε α) :
    (r.after calls' lookups').after calls lookups
      = r.after (calls ++ calls') (lookups ++ lookups') := by
  simp [Run.after]

theorem run_settle (s : Surroundings) (a : Action ε α) (f : Except ε α → Action ε' β) :
    (a.settle f).run s = ((f (a.run s).result).run s).after (a.run s).calls (a.run s).lookups := by
  induction a with
  | done r => rfl
  | exchange request next ih =>
    simp only [settle, run, ih, after_after]
    rfl
  | lookup ruleId errorKey next ih =>
    simp only [settle, run, ih, after_after]
    rfl

@[simp] theorem run_pure (s : Surroundings) (x : α) :
    (pure x : Action ε α).run s = ⟨.ok x, [], []⟩ := rfl

theorem run_bind (s : Surroundings) (a : Action ε α) (f : α → Action ε β) :
    (a >>= f).run s =
      match (a.run s).result with
      | .ok x => ((f x).run s).after (a.run s).calls (a.run s).lookups
      | .error e => ⟨.error e, (a.run s).calls, (a.run s).lookups⟩ := by
  show (a.settle _).run s = _
  rw [run_settle]
  cases (a.run s).result with
  | ok x => rfl
  | error e => simp [run, Run.after]

theorem settle_settle {ε'' γ : Type} (a : Action ε α) (f : Except ε α → Action ε' β)
    (g : Except ε' β → Action ε'' γ) :
    (a.settle f).settle g = a.settle fun r => (f r).settle g := by
  induction a with
  | done r => rfl
  | exchange request next ih => simp only [settle, ih]
  | lookup ruleId errorKey next ih => simp only [settle, ih]

theorem settle_done (a : Action ε α) : a.settle Action.done = a := by
  induction a with
  | done r => rfl
  | exchange request next ih => simp only [settle, ih]
  | lookup ruleId errorKey next ih => simp only [settle, ih]

theorem map_id_eq (a : Action ε α) : id <$> a = a := by
  show a.settle _ = a
  conv => rhs; rw [← settle_done a]
  congr 1
  funext r
  cases r <;> rfl

theorem bind_assoc_eq (a : Action ε α) (f : α → Action ε β) (g : β → Action ε γ) :
    a >>= f >>= g = a >>= fun x => f x >>= g := by
  show (a.settle _).settle _ = a.settle _
  rw [settle_settle]
  congr 1
  funext r
  cases r <;> rfl

instance : LawfulMonad (Action ε) :=
  LawfulMonad.mk' (Action ε) map_id_eq (fun _ _ => rfl) bind_assoc_eq

end Action

end ReportGateway
