/-!
Reading a text from its front. A `Phrase` takes what it can use off the front of a text and gives a
value for it, or fails and takes nothing.
-/

namespace ReportGateway.Text

/-- A way to read something off the front of a text. -/
abbrev Phrase (α : Type) : Type := StateT (List Char) Option α

namespace Phrase

variable {α : Type}

/-- The next character, if it satisfies a test. -/
def one (p : Char → Bool) : Phrase Char := fun cs =>
  match cs with
  | c :: rest => if p c then some (c, rest) else none
  | [] => none

/-- All characters up to the first that does not satisfy a test. -/
def span (p : Char → Bool) : Phrase (List Char) := fun cs => some (cs.takeWhile p, cs.dropWhile p)

/-- A fixed text. -/
def literal (s : String) : Phrase Unit := fun cs =>
  let wanted := s.toList
  if wanted.isPrefixOf cs then some ((), cs.drop wanted.length) else none

/-- What stands for a part, or nothing. -/
def maybe (part : Phrase α) : Phrase (Option α) := fun cs =>
  match part cs with
  | some (a, rest) => some (some a, rest)
  | none => some (none, cs)

/-- A part as often as it is there, but at most so many times. -/
def atMost (part : Phrase α) : Nat → Phrase (List α)
  | 0 => pure []
  | n + 1 => fun cs =>
    match part cs with
    | some (a, rest) => (a :: ·) <$> atMost part n |>.run rest
    | none => some ([], cs)

/-- A part as often as it is there. Every part takes a character at least, so there are not more of
them than characters. -/
def many (part : Phrase α) : Phrase (List α) := fun cs => atMost part cs.length cs

/-- The end of the text. -/
def finish : Phrase Unit := fun cs => if cs.isEmpty then some ((), cs) else none

end Phrase

end ReportGateway.Text
