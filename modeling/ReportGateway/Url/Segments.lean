import ReportGateway.Url.Reader

/-!
Naming resources under a base URL. A template is a path whose parts are fixed or are left open for a
parameter; filling it in appends one segment for each part. Whatever a parameter holds, it stays
within its segment, with three exceptions of the URL rules: a dot or two dots name no segment, tabs
and line breaks are passed over, and a segment that becomes two dots by that goes up.
-/

namespace ReportGateway.Url

/-- Appends a segment to a path that may end in an empty one. A per cent sign of a segment is
escaped with the rest, so only written dots are dots. -/
def pushSegment (scheme : String) (path : List String) (s : String) : List String :=
  if s = "." ∨ s = ".." then path
  else
    let file := scheme = "file"
    let escaped := if isSpecial scheme then Percent.specialSegment else Percent.segment
    let cs := s.toList.filter (!isIgnored ·)
    let front := if path = [""] then [] else path
    if cs = ['.', '.'] then parent front ++ [""]
    else if cs = ['.'] then front ++ [""]
    else front ++ [segmentText escaped file front cs]

/-- A path without its last segment if that is empty and not the only one. -/
def withoutEmptyEnd (path : List String) : List String :=
  if path ≠ [""] ∧ path.getLast? = some "" then path.dropLast else path

/-- A part of a template: a fixed one, or one that is left open and named for its parameter. -/
inductive Part
  | fixed (s : String)
  | hole (name : String)
deriving DecidableEq

def Part.text : Part → String
  | .fixed s => s
  | .hole name => "\x7b" ++ name ++ "\x7d"

/-- A path with parts left open. -/
abbrev Template : Type := List Part

/-- Reads a template: parts between slashes, those in braces left open, empty ones passed over. -/
def Template.ofText (s : String) : Template :=
  ((splitAtAll (· = '/') s.toList).filter (· ≠ [])).map fun cs =>
    if cs.head? = some '\x7b' ∧ cs.getLast? = some '\x7d' then
      .hole (String.ofList (cs.drop 1).dropLast)
    else .fixed (String.ofList cs)

/-- How a template is written. -/
def Template.text (t : Template) : String := "/".intercalate (t.map Part.text)

/-- Puts parameters in the open parts; none when their number differs. -/
def Template.fill? : Template → List String → Option (List String)
  | [], [] => some []
  | .fixed s :: t, ps => do return s :: (← fill? t ps)
  | .hole _ :: t, p :: ps => do return p :: (← fill? t ps)
  | _, _ => none

/-- The URL that a template with parameters names under a base. It is guarded if the base is. -/
def resource? (base : Url) (t : Template) (params : List String) : Option Url :=
  match base.path with
  | .bare _ => none
  | .segments path => do
    let parts ← t.fill? params
    let path := parts.foldl (pushSegment base.scheme) (withoutEmptyEnd path)
    return { base with path := .segments path }

end ReportGateway.Url
