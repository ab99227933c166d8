import ChannelKeeper.Url.Form
import ChannelKeeper.Url.Host

/-!
# URLs

A URL in its parts, each already encoded as it is written. `render` writes the
parts one after the other; the setters encode what they are given and leave every
other part alone.
-/

namespace ChannelKeeper

namespace Url

inductive Path where
  /-- Segments after slashes; without a segment there is no slash. -/
  | rooted (segments : List String)
  /-- The rest of a URL that has no authority and no slash. -/
  | plain (text : String)
deriving DecidableEq, Repr

def Path.render : Path → String
  | .rooted segments => String.join (segments.map ("/" ++ ·))
  | .plain text => text

end Url

structure Url where
  scheme : String
  hasAuthority : Bool
  username : String := ""
  password : Option String := none
  /-- An empty host counts as none. -/
  host : Option Url.Host := none
  port : Option Nat := none
  path : Url.Path := .rooted []
  query : Option String := none
  fragment : Option String := none
deriving DecidableEq, Repr

namespace Url

/-- Schemes that read hosts as domains and always have a path. -/
def isSpecialScheme (scheme : String) : Bool :=
  ["http", "https", "ws", "wss", "ftp", "file"].contains scheme

def defaultPort? : String → Option Nat
  | "http" | "ws" => some 80
  | "https" | "wss" => some 443
  | "ftp" => some 21
  | _ => none

def isSpecial (u : Url) : Bool := isSpecialScheme u.scheme

def userinfoText (u : Url) : String :=
  match u.password with
  | some password => u.username ++ ":" ++ password ++ "@"
  | none => if u.username.isEmpty then "" else u.username ++ "@"

def hostText (u : Url) : String := (u.host.map Host.text).getD ""

def portText (u : Url) : String :=
  match u.port with
  | some port => ":" ++ toString port
  | none => ""

/-- Without an authority, a path that starts with two slashes would be read as one. -/
def pathText (u : Url) : String :=
  match u.path with
  | .rooted ("" :: _ :: _) => if u.hasAuthority then u.path.render else "/." ++ u.path.render
  | path => path.render

def afterMark (mark : String) : Option String → String
  | none => ""
  | some text => mark ++ text

def render (u : Url) : String :=
  let authority := if u.hasAuthority then "//" ++ u.userinfoText ++ u.hostText ++ u.portText else ""
  u.scheme ++ ":" ++ authority ++ u.pathText ++ afterMark "?" u.query ++ afterMark "#" u.fragment

/-- Name, password and port can only be set beside a host. -/
def takesCredentials (u : Url) : Bool := u.host.isSome && u.scheme != "file"

def encoded (inSet : Char → Bool) (text : String) : String :=
  String.ofList (percentEncode inSet text.toList)

def setUsername? (u : Url) (name : String) : Option Url :=
  if u.takesCredentials then some { u with username := encoded inUserinfoSet name } else none

def setPassword? (u : Url) (password : String) : Option Url :=
  if u.takesCredentials then
    some { u with password := if password.isEmpty then none else some (encoded inUserinfoSet password) }
  else none

def setPort? (u : Url) (port : Option Nat) : Option Url :=
  if u.takesCredentials then
    some { u with port := if port = defaultPort? u.scheme then none else port }
  else none

/-- Sets the host of a scheme that is not one of the common web schemes. A port
after the name is cut off. -/
def setPlainHost? (u : Url) (name : String) : Option Url :=
  let chars := name.toList
  let isBracketed := chars.head? == some '[' && chars.getLast? == some ']'
  let chars? :=
    if isBracketed then some chars
    else match Text.Chars.splitOnce ':' chars with
      | some ([], _) => none
      | some (before, _) => some before
      | none => some chars
  chars?.bind fun chars =>
    match Host.parsePlain chars with
    | .ok (.domain "") => some { u with host := none }
    | .ok host => some { u with host := some host }
    | .error _ => none

/-- Adds a pair at the end of the query. -/
def appendPair (u : Url) (name value : String) : Url :=
  let pair := String.ofList (Form.encodePair name value)
  let query := match u.query with
    | none | some "" => pair
    | some query => query ++ "&" ++ pair
  { u with query := some query }

end Url

end ChannelKeeper
