import ReportGateway.Url.Host

/-!
Reading URLs, on their own or relative to another. A text is first freed of blanks and control
characters at its ends and of tabs and line breaks anywhere. What follows the scheme decides how it
is read on: an authority after two slashes, a path that is resolved against a base, a path from the
root, or a bare path. In special URLs a backslash counts as a slash. A drive is never gone up from,
whatever the scheme, and at the front of a file's path it takes the place of the host.
-/

namespace ReportGateway.Url

/-- Tabs and line breaks, which are passed over wherever they stand. -/
def isIgnored (c : Char) : Bool := c = '\t' || c = '\n' || c = '\r'

/-- The characters that are cut off at both ends of a text. -/
def isTrimmed (c : Char) : Bool := c.toNat ≤ 0x20

/-- The characters of a text that count. -/
def significant (s : String) : List Char :=
  ((((s.toList.dropWhile isTrimmed).reverse.dropWhile isTrimmed).reverse).filter (!isIgnored ·))

/-- The scheme at the front of a text, in lower case, and what follows its colon. -/
def scheme? (cs : List Char) : Option (String × List Char) :=
  match cs with
  | [] => none
  | c :: _ =>
    let isPart (c : Char) : Bool := c.isAlphanum || c = '+' || c = '-' || c = '.'
    match cs.dropWhile isPart with
    | ':' :: rest =>
      if c.isAlpha then some (String.ofList ((cs.takeWhile isPart).map Char.toLower), rest)
      else none
    | _ => none

/-- Whether a character separates segments. -/
def isSlash (special : Bool) (c : Char) : Bool := c = '/' || (special && c = '\\')

/-- The characters before the query and fragment, and the rest. -/
def spanPath (cs : List Char) : List Char × List Char :=
  let inPath (c : Char) : Bool := c ≠ '?' && c ≠ '#'
  (cs.takeWhile inPath, cs.dropWhile inPath)

/-- The pieces of a list between the elements that satisfy a test; there is always one. -/
def splitAtAll {α : Type} (p : α → Bool) : List α → List (List α)
  | [] => [[]]
  | c :: cs =>
    match splitAtAll p cs with
    | [] => [[c]]
    | piece :: pieces => if p c then [] :: piece :: pieces else (c :: piece) :: pieces

def isSingleDot (cs : List Char) : Bool :=
  [".", "%2e"].contains (String.ofList (cs.map Char.toLower))

def isDoubleDot (cs : List Char) : Bool :=
  ["..", ".%2e", "%2e.", "%2e%2e"].contains (String.ofList (cs.map Char.toLower))

/-- A drive: a letter with a colon or a bar. -/
def isDrive : List Char → Bool
  | [c, d] => c.isAlpha && (d = ':' || d = '|')
  | _ => false

/-- Whether a drive stands at the front of a text, with nothing or the end of a segment after it. -/
def startsWithDrive (cs : List Char) : Bool :=
  isDrive (cs.take 2) && (cs.drop 2).head?.all fun c => isSlash true c || c = '?' || c = '#'

/-- Goes up one segment, but not from a drive. -/
def parent (done : List String) : List String :=
  if done.getLast?.any (startsWithDrive ·.toList) then done else done.dropLast

/-- The written form of a segment. A drive that begins a file's path has a colon. -/
def segmentText (escaped : Percent.Class) (file : Bool) (done : List String) (cs : List Char) :
    String :=
  if file && done.isEmpty && isDrive cs then String.ofList [cs.headD 'C', ':']
  else Percent.encode escaped cs

/-- Adds pieces to a path: a single dot stays, a double dot goes up, and when the last piece is
either, the path ends in a slash. -/
def resolve (file : Bool) (done : List String) : List (List Char) → List String
  | [] => done
  | [last] =>
    if isDoubleDot last then parent done ++ [""]
    else if isSingleDot last then done ++ [""]
    else done ++ [segmentText Percent.path file done last]
  | piece :: more =>
    if isDoubleDot piece then resolve file (parent done) more
    else if isSingleDot piece then resolve file done more
    else resolve file (done ++ [segmentText Percent.path file done piece]) more

/-- A path without empty segments in front; something is always left of it. -/
def withoutEmptyFront : List String → List String
  | "" :: s :: more => withoutEmptyFront (s :: more)
  | path => path

/-- Adds the text of a path to a path. -/
def extend (scheme : String) (done : List String) (cs : List Char) : List String :=
  resolve (scheme = "file") done (splitAtAll (isSlash (isSpecial scheme)) cs)

/-- Gives a URL a path that has been read: a file's path has no empty segments in front, and without
a host a path with an empty segment in front is guarded. -/
def withSegments (u : Url) (path : List String) : Url :=
  let path := if u.scheme = "file" then withoutEmptyFront path else path
  let startsEmpty : Bool :=
    match path with
    | "" :: _ :: _ => true
    | _ => false
  { u with path := .segments path, guarded := u.host.isNone && startsEmpty }

/-- Reads the query and fragment that follow a path. -/
def withQuery (u : Url) (cs : List Char) : Url :=
  let queryClass := if u.special then Percent.specialQuery else Percent.query
  match cs with
  | '?' :: rest =>
    let query := rest.takeWhile (· ≠ '#')
    { u with
      query := some (Percent.encode queryClass query)
      fragment :=
        match rest.dropWhile (· ≠ '#') with
        | _ :: f => some (Percent.encode Percent.fragment f)
        | [] => none }
  | '#' :: rest => { u with query := none, fragment := some (Percent.encode Percent.fragment rest) }
  | _ => { u with query := none, fragment := none }

/-- Reads the path, query and fragment that follow an authority. A file on a drive has no host. -/
def withPath (u : Url) (cs : List Char) : Url :=
  let (path, rest) := spanPath cs
  let segments :=
    match path with
    | [] => if u.special then [""] else []
    | c :: more => extend u.scheme [] (if isSlash u.special c then more else path)
  let onDrive := u.scheme = "file" ∧ segments.head?.any (isDrive ·.toList)
  withQuery (withSegments (if onDrive then { u with host := some (.name "") } else u) segments) rest

/-- The user name and password before an at sign. -/
def credentials (cs : List Char) : String × Option String :=
  let name := cs.takeWhile (· ≠ ':')
  let password := (cs.dropWhile (· ≠ ':')).drop 1
  (Percent.encode Percent.userinfo name,
    if password.isEmpty then none else some (Percent.encode Percent.userinfo password))

/-- The characters of a host, up to a colon outside brackets, and the rest. -/
def spanHost : (bracketed : Bool) → List Char → List Char × List Char
  | _, [] => ([], [])
  | bracketed, c :: cs =>
    if c = ':' ∧ !bracketed then ([], c :: cs)
    else
      let bracketed := c = '[' || (bracketed && c ≠ ']')
      let (host, rest) := spanHost bracketed cs
      (c :: host, rest)

/-- Reads the port after a host; gives what is left when a backslash ends it. -/
def portOf (scheme : String) (cs : List Char) : Except Error (Option Nat × List Char) :=
  match cs with
  | ':' :: rest =>
    let (ds, left) := Radix.span 10 rest
    let n := Radix.value 10 ds
    if n ≥ Nat.pow 2 16 then .error .invalidPort
    else if left ≠ [] ∧ left.head? ≠ some '\\' then .error .invalidPort
    else if ds.isEmpty ∨ defaultPort? scheme = some n then .ok (none, left)
    else .ok (some n, left)
  | left => .ok (none, left)

/-- The position of the last at sign, as the characters before and after it. -/
def splitLastAt (cs : List Char) : Option (List Char × List Char) :=
  let after := cs.reverse.takeWhile (· ≠ '@')
  if after.length < cs.length then
    some ((cs.reverse.drop (after.length + 1)).reverse, after.reverse)
  else none

/-- Reads what follows two slashes: an authority, and the rest of the URL. -/
def withAuthority (scheme : String) (cs : List Char) : Except Error Url := do
  let special := isSpecial scheme
  let inAuthority (c : Char) : Bool := !isSlash special c && c ≠ '?' && c ≠ '#'
  let authority := cs.takeWhile inAuthority
  let rest := cs.dropWhile inAuthority
  let (user, place) :=
    match splitLastAt authority with
    | some (user, place) => (some user, place)
    | none => (none, authority)
  if user = some [] ∧ place.isEmpty ∧ !rest.isEmpty then throw .emptyHost
  let (username, password) := (user.map credentials).getD ("", none)
  let (hostText, portText) := spanHost false place
  if special ∧ hostText.isEmpty then throw .emptyHost
  let host ← if special then Host.ofSpecial hostText else Host.ofOther hostText
  if hostText.isEmpty ∧ (!portText.isEmpty ∨ username ≠ "" ∨ password.isSome) then throw .emptyHost
  let (port, left) ← portOf scheme portText
  let u : Url :=
    { scheme, username, password, host := some host, port, path := .segments [], guarded := false,
      query := none, fragment := none }
  return withPath u (left ++ rest)

/-- The URL of a file that stands for a base when there is none. -/
def rootFile : Url :=
  { scheme := "file", username := "", password := none, host := some (.name ""), port := none,
    path := .segments [""], guarded := false, query := none, fragment := none }

/-- Reads what follows the two slashes of a file's URL; a drive is no host. When nothing stands for
the host, an empty segment comes first, and a drive after it is left as it is written. -/
def ofFileHost (cs : List Char) : Except Error Url :=
  let inHost (c : Char) : Bool := !isSlash true c && c ≠ '?' && c ≠ '#'
  let host := cs.takeWhile inHost
  let rest := cs.dropWhile inHost
  if isDrive host then .ok (withPath rootFile ('/' :: cs))
  else if host.isEmpty then .ok (withPath rootFile ('/' :: rest))
  else do
    match ← Host.ofSpecial host with
    | .name "localhost" => return withPath rootFile ('/' :: rest)
    | host => return withPath { rootFile with host := some host } rest

/-- Whether a segment is a drive as it is written, with a colon. -/
def isWrittenDrive (s : String) : Bool := isDrive s.toList && s.toList.getLast? = some ':'

/-- The segments under which a path is read that is relative to a file: all but the last, unless
that is a drive. -/
def folder (path : List String) : List String :=
  if path.getLast?.any isWrittenDrive then path else path.dropLast

/-- Reads what follows the scheme of a file's URL; a base is a file's URL too. A path from the root
stays on the drive of the base. -/
def ofFile (base : Option Url) (cs : List Char) : Except Error Url :=
  let start := base.getD rootFile
  let baseSegments :=
    match start.path with
    | .segments l => l
    | .bare _ => []
  let under (u : Url) (done : List String) (cs : List Char) : Url :=
    let (path, rest) := spanPath cs
    withQuery (withSegments u (extend "file" done path)) rest
  match cs with
  | [] => .ok { start with fragment := none }
  | '?' :: _ => .ok (withQuery start cs)
  | '#' :: rest => .ok { start with fragment := some (Percent.encode Percent.fragment rest) }
  | c :: more =>
    if !isSlash true c then
      let (u, done) := if startsWithDrive cs then (rootFile, []) else (start, folder baseSegments)
      .ok (under u done cs)
    else if more.head?.any (isSlash true) then ofFileHost (more.drop 1)
    else if startsWithDrive more then .ok (under rootFile [] more)
    else
      match baseSegments.head?.filter isWrittenDrive with
      | some drive => .ok (under rootFile [drive] more)
      | none => .ok (under start [] more)

/-- Reads a text relative to a base whose path has the given segments. -/
def relativeTo (base : Url) (segments : List String) (cs : List Char) : Except Error Url :=
  match cs with
  | [] => .ok { base with fragment := none }
  | '?' :: _ => .ok (withQuery base cs)
  | '#' :: rest =>
    .ok { base with fragment := some (Percent.encode Percent.fragment rest) }
  | c :: more =>
    let (path, rest) := spanPath cs
    if isSlash base.special c then
      match more with
      | d :: _ =>
        if isSlash base.special d then
          withAuthority base.scheme
            (if base.special then more.dropWhile (isSlash true) else more.drop 1)
        else
          .ok (withQuery (withSegments base (extend base.scheme [] (path.drop 1))) rest)
      | [] => .ok (withQuery (withSegments base [""]) [])
    else .ok (withQuery (withSegments base (extend base.scheme segments.dropLast path)) rest)

/-- Reads what follows the scheme of a special URL that names no file. -/
def ofSpecial (base : Option Url) (scheme : String) (cs : List Char) : Except Error Url :=
  let slashes := (cs.takeWhile (isSlash true)).length
  match base with
  | some b =>
    match b.path with
    | .segments l =>
      if slashes < 2 ∧ b.scheme = scheme then relativeTo b l cs
      else withAuthority scheme (cs.dropWhile (isSlash true))
    | .bare _ => withAuthority scheme (cs.dropWhile (isSlash true))
  | none => withAuthority scheme (cs.dropWhile (isSlash true))

/-- Reads what follows the scheme of a URL that is not special. -/
def ofOther (scheme : String) (cs : List Char) : Except Error Url :=
  let u : Url :=
    { scheme, username := "", password := none, host := none, port := none, path := .segments [],
      guarded := false, query := none, fragment := none }
  match cs with
  | '/' :: '/' :: rest => withAuthority scheme rest
  | '/' :: rest =>
    let (path, rest) := spanPath rest
    .ok (withQuery (withSegments u (extend scheme [] path)) rest)
  | cs =>
    let (path, rest) := spanPath cs
    .ok (withQuery { u with path := .bare (Percent.encode Percent.control path) } rest)

/-- Reads a text as a URL, relative to a base if there is one. -/
def read (base : Option Url) (s : String) : Except Error Url :=
  let cs := significant s
  match scheme? cs with
  | some (scheme, rest) =>
    if scheme = "file" then ofFile (base.filter fun b => b.scheme = "file") rest
    else if isSpecial scheme then ofSpecial base scheme rest
    else ofOther scheme rest
  | none =>
    match base with
    | none => .error .relativeWithoutBase
    | some b =>
      match b.path with
      | .bare _ =>
        match cs with
        | '#' :: rest => .ok { b with fragment := some (Percent.encode Percent.fragment rest) }
        | _ => .error .relativeToBare
      | .segments l => if b.scheme = "file" then ofFile base cs else relativeTo b l cs

/-- Reads a text as a URL on its own. -/
def parse (s : String) : Except Error Url := read none s

/-- The URL that a text names as seen from this one. -/
def join (u : Url) (s : String) : Except Error Url := read (some u) s

end ReportGateway.Url
