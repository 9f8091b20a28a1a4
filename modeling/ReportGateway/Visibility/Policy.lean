import ReportGateway.Content.Directory

/-!
Which hits a caller may see. A policy says whether disabled hits are shown and which conditions the
content of a rule has to meet. Every hit is of exactly one class: disabled ones come first, without
a look at their content; a hit without content, or with content that a condition turns away, has no
content to show; all others are visible.
-/

namespace ReportGateway

/-- The classes of hits. -/
inductive Visibility
  | visible
  | disabled
  | noContent
deriving DecidableEq

namespace Visibility

/-- A condition on a hit and the content of its rule. -/
structure Condition where
  admits : RuleHit → RuleContent → Bool

namespace Condition

/-- Only content for customers of the managed product. -/
def audience : Condition := ⟨fun _ c => c.osdCustomer⟩

/-- Internal content only for those who are allowed to see it. -/
def internal (allowed : Bool) : Condition := ⟨fun _ c => !c.internal || allowed⟩

end Condition

/-- What a caller is shown. -/
structure Policy where
  includeDisabled : Bool
  conditions : List Condition

namespace Policy

/-- The policy for a report. -/
def forReport (includeDisabled audienceOnly internalAllowed : Bool) : Policy :=
  ⟨includeDisabled, .internal internalAllowed :: if audienceOnly then [.audience] else []⟩

/-- Whether a hit is passed over because it is disabled. -/
def skips (p : Policy) (h : RuleHit) : Bool := h.disabled && !p.includeDisabled

/-- Whether a hit with the content of its rule meets all conditions. -/
def admits (p : Policy) (h : RuleHit) (c : RuleContent) : Bool := p.conditions.all (·.admits h c)

/-- The class of a hit with the content of its rule. -/
def classify (p : Policy) (h : RuleHit) (content : Option RuleContent) : Visibility :=
  if p.skips h then .disabled
  else
    match content with
    | some c => if p.admits h c then .visible else .noContent
    | none => .noContent

end Policy

end Visibility

end ReportGateway
