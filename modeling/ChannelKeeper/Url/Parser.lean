import ChannelKeeper.Url.Basic

/-!
# Reading URLs

A text is read from left to right: scheme, authority, path, query and fragment.
Controls and blanks around it and line endings inside it are dropped first. Dot
segments of a path are resolved while it is read.
-/

namespace ChannelKeeper.Url

-- ---------------------------------------------------------------------------
-- Paths
-- ---------------------------------------------------------------------------

def isSingleDot (segment : String) : Bool :=
  [".", "%2e"].contains (String.ofList (segment.toList.map Char.toLower))

def isDoubleDot (segment : String) : Bool :=
  ["..", ".%2e", "%2e.", "%2e%2e"].contains (String.ofList (segment.toList.map Char.toLower))

/-- Resolves segments one after the other; `done` holds the result so far, the
last segment first. A dot segment at the end leaves an empty one. -/
def resolveDots : List String → List String → List String
  | done, [] => done.reverse
  | done, [last] =>
    if isDoubleDot last then ("" :: done.tail).reverse
    else if isSingleDot last then ("" :: done).reverse
    else (last :: done).reverse
  | done, segment :: rest =>
    if isDoubleDot segment then resolveDots done.tail rest
    else if isSingleDot segment then resolveDots done rest
    else resolveDots (segment :: done) rest

def segmentsOf (special : Bool) (s : List Char) : List String :=
  let slashed := if special then s.map fun c => if c = '\\' then '/' else c else s
  let pieces := Text.Chars.splitOn '/' slashed
  resolveDots [] (pieces.map fun p => String.ofList (percentEncode inPathSet p))

/-- The path of a text that may lack its first slash. -/
def pathOf (special : Bool) (s : List Char) : Path :=
  match s with
  | [] => if special then .rooted [""] else .rooted []
  | '/' :: rest => .rooted (segmentsOf special rest)
  | '\\' :: rest => if special then .rooted (segmentsOf special rest) else .rooted (segmentsOf special s)
  | s => .rooted (segmentsOf special s)

/-- Line endings and tabs, which are dropped wherever they stand. -/
def isDropped (c : Char) : Bool := c == '\t' || c == '\n' || c == '\r'

/-- Sets the path of a URL; a text that starts like a query sets none. -/
def setPath (u : Url) (text : String) : Url :=
  let s := text.toList.filter fun c => !isDropped c
  let startsQuery := s.head? == some '?' || s.head? == some '#'
  if startsQuery && !u.isSpecial then { u with path := .rooted [] }
  else { u with path := pathOf u.isSpecial s }

-- ---------------------------------------------------------------------------
-- Query and fragment
-- ---------------------------------------------------------------------------

structure Tail where
  path : List Char
  query : Option String
  fragment : Option String

/-- Splits what follows the authority at the first `?` and `#`. -/
def tailOf (special : Bool) (s : List Char) : Tail :=
  let (body, fragment) := match Text.Chars.splitOnce '#' s with
    | some (body, fragment) => (body, some (String.ofList (percentEncode inFragmentSet fragment)))
    | none => (s, none)
  let set := if special then inSpecialQuerySet else inQuerySet
  match Text.Chars.splitOnce '?' body with
  | some (path, query) => ⟨path, some (String.ofList (percentEncode set query)), fragment⟩
  | none => ⟨body, none, fragment⟩

-- ---------------------------------------------------------------------------
-- Authority
-- ---------------------------------------------------------------------------

def endsAuthority (special : Bool) (c : Char) : Bool :=
  c == '/' || c == '?' || c == '#' || (special && c == '\\')

/-- Name and password; an empty password is none. -/
def userinfoOf (s : List Char) : String × Option String :=
  let encode (cs : List Char) := String.ofList (percentEncode inUserinfoSet cs)
  match Text.Chars.splitOnce ':' s with
  | some (name, []) => (encode name, none)
  | some (name, password) => (encode name, some (encode password))
  | none => (encode s, none)

/-- The host ends at the first colon outside brackets. -/
def splitHost : Bool → List Char → List Char × List Char
  | _, [] => ([], [])
  | inside, c :: rest =>
    if c = ':' ∧ !inside then ([], c :: rest)
    else
      let inside := if c = '[' then true else if c = ']' then false else inside
      let (host, rest) := splitHost inside rest
      (c :: host, rest)

def portOf (scheme : String) (s : List Char) : Except Fault (Option Nat) :=
  if s.isEmpty then .ok none
  else if !s.all Char.isDigit then .error .invalidPort
  else
    let n := s.foldl (fun n c => n * 10 + (c.toNat - 48)) 0
    if 65535 < n then .error .invalidPort
    else if some n = defaultPort? scheme then .ok none
    else .ok (some n)

def authorityOf (scheme : String) (s : List Char) : Except Fault Url := do
  let special := isSpecialScheme scheme
  let (userinfo, hostPort) := match Text.Chars.splitLast '@' s with
    | some (userinfo, rest) => (some userinfo, rest)
    | none => (none, s)
  if userinfo == some [] && hostPort.isEmpty then throw .emptyHost
  let (username, password) := userinfoOf (userinfo.getD [])
  let (hostChars, portChars) := splitHost false hostPort
  if special && hostChars.isEmpty then throw .emptyHost
  let host ← if special then Host.parseDomain hostChars else Host.parsePlain hostChars
  let isEmpty := host == .domain ""
  if isEmpty && !portChars.isEmpty then throw .emptyHost
  let port ← portOf scheme (portChars.drop 1)
  if isEmpty && (!username.isEmpty || password.isSome) then throw .emptyHost
  return {
    scheme := scheme
    hasAuthority := true
    username := username
    password := password
    host := if isEmpty then none else some host
    port := port }

-- ---------------------------------------------------------------------------
-- Whole texts
-- ---------------------------------------------------------------------------

/-- Scheme in lower case and what follows the colon. -/
def schemeOf (s : List Char) : Option (String × List Char) :=
  match s with
  | [] => none
  | first :: _ =>
    match Text.Chars.splitOnce ':' s with
    | some (scheme, rest) =>
      if first.isAlpha && scheme.all (fun c => c.isAlphanum || c == '+' || c == '-' || c == '.') then
        some (String.ofList (scheme.map Char.toLower), rest)
      else none
    | none => none

def isSlash (c : Char) : Bool := c == '/' || c == '\\'

def afterSlashes (scheme : String) (s : List Char) : Except Fault Url := do
  let special := isSpecialScheme scheme
  let authority := s.takeWhile fun c => !endsAuthority special c
  let tail := tailOf special (s.dropWhile fun c => !endsAuthority special c)
  let u ← authorityOf scheme authority
  return { u with path := pathOf special tail.path, query := tail.query, fragment := tail.fragment }

def withoutAuthority (scheme : String) (s : List Char) : Url :=
  let tail := tailOf false s
  let path := match tail.path with
    | '/' :: rest => Path.rooted (segmentsOf false rest)
    | text => .plain (String.ofList (percentEncode isControl text))
  { scheme := scheme, hasAuthority := false, path := path, query := tail.query, fragment := tail.fragment }

/-- Leading empty segments of a file's path are dropped. -/
def filePath (s : List Char) : Path :=
  match pathOf true s with
  | .rooted segments =>
    let kept := segments.dropWhile (·.isEmpty)
    .rooted (if kept.isEmpty then [""] else kept)
  | path => path

/-- A file's host may be empty, and the local one counts as empty. -/
def fileUrl (s : List Char) : Except Fault Url := do
  let hasHost := match s with
    | a :: b :: _ => isSlash a && isSlash b
    | _ => false
  let rest := if hasHost then s.drop 2 else s
  let hostChars := if hasHost then rest.takeWhile fun c => !endsAuthority true c else []
  let host ← if hostChars.isEmpty then pure none else (Host.parseDomain hostChars).map some
  let tail := tailOf true (rest.drop hostChars.length)
  return {
    scheme := "file"
    hasAuthority := true
    host := if host = some (.domain "localhost") then none else host
    path := filePath tail.path
    query := tail.query
    fragment := tail.fragment }

/-- Drops controls and blanks at the ends, and line endings and tabs inside. -/
def cleaned (text : String) : List Char :=
  let isEdge (c : Char) : Bool := c.toNat ≤ 0x20
  let trimmed := ((text.toList.dropWhile isEdge).reverse.dropWhile isEdge).reverse
  trimmed.filter fun c => !isDropped c

def parse (text : String) : Except Fault Url :=
  match schemeOf (cleaned text) with
  | none => .error .relative
  | some ("file", rest) => fileUrl rest
  | some (scheme, rest) =>
    if isSpecialScheme scheme then afterSlashes scheme (rest.dropWhile isSlash)
    else match rest with
      | '/' :: '/' :: rest => afterSlashes scheme rest
      | rest => .ok (withoutAuthority scheme rest)

end ChannelKeeper.Url
