import ReportGateway.Action
import ReportGateway.Failure
import ReportGateway.Visibility.Policy

/-!
Filtering a list of hits. Every hit that is not passed over is looked up, in order, and falls in its
class; the visible ones are joined with their content. A lookup without an answer ends the whole:
no part of a list is ever shown for the whole.
-/

namespace ReportGateway.Visibility

/-- The visible hits with their content, and how many hits were of the other classes. -/
structure Filtered where
  visible : List RuleEntry
  noContent : Nat
  disabled : Nat

namespace Filtered

def empty : Filtered := ⟨[], 0, 0⟩

/-- The number of hits that the client is told. Hits of which no content can be shown do not count
when there is nothing else, since they would look like an empty report. -/
def totalCount (f : Filtered) : Nat :=
  if f.visible.isEmpty ∧ f.noContent > 0 ∧ f.disabled = 0 then 0 else f.visible.length + f.noContent

/-- The number of hits of any class. -/
def classified (f : Filtered) : Nat := f.visible.length + f.noContent + f.disabled

/-- One more hit, with the content that was found for it, in front. -/
def add (p : Policy) (h : RuleHit) (content : Option RuleContent) (f : Filtered) : Filtered :=
  match p.classify h content, content with
  | .visible, some c => { f with visible := RuleEntry.join h c :: f.visible }
  | .disabled, _ => { f with disabled := f.disabled + 1 }
  | _, _ => { f with noContent := f.noContent + 1 }

end Filtered

/-- Filters hits by a policy. -/
def filter (p : Policy) : List RuleHit → Action Content.Error Filtered
  | [] => return .empty
  | h :: hits =>
    if p.skips h then do
      let rest ← filter p hits
      return { rest with disabled := rest.disabled + 1 }
    else do
      let content ← Action.contentOf h.component h.key
      let rest ← filter p hits
      return rest.add p h content

end Visibility

/-- The failure that a lookup without an answer is to a client. -/
def Failure.ofContent : Content.Error → Failure
  | .notLoaded => .contentTimeout
  | .inaccessible => .internal Content.Error.inaccessible.message

end ReportGateway
