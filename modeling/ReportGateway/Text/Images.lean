import ReportGateway.Text.Radix

/-!
Tables of images: which code points stand for a code point. A table is written as text, in ascending
order of code points, with blanks between its entries. An entry `first=image` gives the image of one
code point, its members joined by plus signs, and entries without an equals sign give the images of
the code points that follow it. An entry `first-last=image` holds for a run of code points whose
images run along with them; after a slash it holds for every other one of them, and after a colon
the image is the same for all.
-/

namespace ReportGateway.Text

/-- Code points from `first` on to `last`, `step` apart, with single images that rise with them or
one image for all. -/
structure Run where
  first : Nat
  last : Nat
  step : Nat
  rises : Bool
  image : List Nat

/-- The image of a code point between the ends of a run. -/
def Run.image? (r : Run) (n : Nat) : Option (List Nat) :=
  if (n - r.first) % r.step = 0 then
    some (if r.rises then r.image.map (· + (n - r.first)) else r.image)
  else none

/-- Runs in ascending order. -/
abbrev Images : Type := Array Run

namespace Images

/-- The hexadecimal number at the front of a text. -/
def numberOf (cs : List Char) : Nat := Radix.value 16 (Radix.span 16 cs).1

/-- Reads an entry, which is about the code point `next` if it names none. -/
def entry (next : Nat) (cs : List Char) : Run :=
  match cs.splitOn '=' with
  | [head, image] =>
    let image := (image.splitOn '+').map numberOf
    let mark := head.getLast?
    match head.splitOn '-' with
    | [first, last] =>
      { first := numberOf first, last := numberOf last, step := if mark = some '/' then 2 else 1,
        rises := mark ≠ some ':', image }
    | _ => { first := numberOf head, last := numberOf head, step := 1, rises := false, image }
  | _ =>
    { first := next, last := next, step := 1, rises := false,
      image := (cs.splitOn '+').map numberOf }

/-- Reads a table. -/
def ofText (s : String) : Images :=
  let isBlank (c : Char) : Bool := c = ' ' || c = '\n'
  let entries := (s.toList.splitOnP isBlank).filter (· ≠ [])
  (entries.foldl
    (fun (state : Nat × Images) cs =>
      let run := entry state.1 cs
      (run.last + 1, state.2.push run))
    (0, #[])).2

/-- Searches the runs from `low` on, up to but not including `high`. -/
def search (t : Images) (n low high : Nat) : Option Run :=
  if low < high then
    let middle := (low + high) / 2
    match t[middle]? with
    | none => none
    | some r =>
      if n < r.first then search t n low middle
      else if r.last < n then search t n (middle + 1) high
      else some r
  else none
termination_by high - low

/-- The image of a code point, if the table has one. -/
def image? (t : Images) (n : Nat) : Option (List Nat) := (search t n 0 t.size).bind (·.image? n)

/-- The code point with an image, if the table has one. -/
def origin? (t : Images) (image : List Nat) : Option Nat :=
  (t.find? fun r => r.image = image).map Run.first

end Images

end ReportGateway.Text
