import ChannelKeeper.Failure
import ChannelKeeper.Sql.Dialect
import ChannelKeeper.Url.Parser

/-!
# Database addresses

An address may be written as a URL, as a `sqlite:` path, as the driver form
`user:password@tcp(host:port)/database` or as words `key=value`. All of them become
one connection URL. `masked` hides the password wherever one of these forms puts it.
-/

namespace ChannelKeeper.Dsn

open Text (trim splitOnce splitLast startsWith afterStart? occursIn words)

-- ---------------------------------------------------------------------------
-- Masking
-- ---------------------------------------------------------------------------

def maskedWord (word : String) : String :=
  if startsWith "password=" word then "password=***" else word

/-- The form of a URL with its password replaced. -/
def maskedUrl? (dsn : String) : Option String :=
  if occursIn "://" dsn then
    match Url.parse dsn with
    | .ok url =>
      let hidden := if url.password.isSome then (url.setPassword? "***").getD url else url
      some hidden.render
    | .error _ => none
  else none

def maskedPlain (dsn : String) : String :=
  match splitLast '@' dsn with
  | some (credentials, rest) =>
    match splitOnce ':' credentials with
    | some (user, _) => user ++ ":***@" ++ rest
    | none => dsn
  | none =>
    if occursIn "password=" dsn then Text.join " " ((words dsn).map maskedWord) else dsn

/-- The address with `***` in place of its password, for messages. -/
def masked (dsn : String) : String :=
  let dsn := trim dsn
  (maskedUrl? dsn).getD (maskedPlain dsn)

def invalid (dsn : String) : ConfigError := .invalidDsn (masked dsn)

-- ---------------------------------------------------------------------------
-- Connection URLs
-- ---------------------------------------------------------------------------

/-- A port below 2¹⁶; a plus sign may stand before the digits. -/
def portOf? (text : String) : Option Nat :=
  let digits := match text.toList with
    | '+' :: rest => rest
    | cs => cs
  if digits.isEmpty || !digits.all Char.isDigit then none
  else
    let n := digits.foldl (fun n c => n * 10 + (c.toNat - 48)) 0
    if n < 65536 then some n else none

/-- The URL of a local server with nothing but a scheme. -/
def localServer (scheme : String) : Url :=
  { scheme := scheme, hasAuthority := true, host := some (.domain "localhost") }

def sqliteUrl (path : String) : String := "sqlite://" ++ (afterStart? "//" path).getD path

/-- Host and port of `host:port`; a missing host is the local one. -/
def withAddress? (u : Url) (address : String) : Option Url := do
  let (host, port) ← match splitLast ':' address with
    | some (host, port) => (portOf? port).map fun n => (host, some n)
    | none => some (address, none)
  let u ← u.setPlainHost? (if host.isEmpty then "localhost" else host)
  u.setPort? port

def withPassword? (u : Url) (password : String) : Option Url :=
  if password.isEmpty then some u else u.setPassword? password

/-- What follows a separator, or nothing without one. -/
def splitOptional (sep : Char) (text : String) : String × String :=
  (splitOnce sep text).getD (text, "")

def withCharsets (u : Url) (parameters : String) : Url :=
  (Url.Form.parse parameters.toList).foldl
    (fun u (key, value) => if key == "charset" then u.appendPair "charset" value else u) u

/-- Reads `user:password@protocol(address)/database?parameters`. Of the parameters
only the character set is kept. -/
def ofDriverForm? (dsn : String) : Option Url := do
  let (credentials, rest) ← splitLast '@' dsn
  let (user, password) := splitOptional ':' credentials
  let (protocol, rest) ← splitOnce '(' rest
  let (address, rest) ← splitOnce ')' rest
  let rest := (afterStart? "/" rest).getD rest
  let (database, parameters) := splitOptional '?' rest
  let server := localServer "mysql"
  let u ← if protocol == "unix" then some (server.appendPair "socket" address)
    else withAddress? server address
  let u ← u.setUsername? user
  let u ← withPassword? u password
  return withCharsets (u.setPath database) parameters

def withWord? (u : Url) (word : String) : Option Url := do
  let (key, value) ← splitOnce '=' word
  match key with
  | "host" => u.setPlainHost? value
  | "port" => u.setPort? (some (← portOf? value))
  | "user" => u.setUsername? value
  | "password" => u.setPassword? value
  | "dbname" => some (u.setPath value)
  | "sslmode" => some (u.appendPair "sslmode" value)
  | _ => some u

/-- Reads `key=value` words from left to right; unknown keys are passed over. -/
def ofWords? (dsn : String) : Option Url :=
  (words dsn).foldlM withWord? (localServer "postgres")

def urlSchemes : List String := ["mysql://", "postgres://", "postgresql://"]

def isDriverForm (dsn : String) : Bool := occursIn "@tcp(" dsn || occursIn "@unix(" dsn

/-- The connection URL of an address in any of its forms. -/
def connectionUrl (text : String) : Except ConfigError String :=
  let dsn := trim text
  if dsn.isEmpty then .error (.invalidDsn "empty DSN")
  else match afterStart? "sqlite:" dsn with
    | some path => .ok (sqliteUrl path)
    | none =>
      if urlSchemes.any (startsWith · dsn) then
        match Url.parse dsn with
        | .ok url => .ok url.render
        | .error fault => .error (.invalidDsn fault.message)
      else
        let url? := if isDriverForm dsn then ofDriverForm? dsn
          else if occursIn "=" dsn then ofWords? dsn
          else none
        match url? with
        | some url => .ok url.render
        | none => .error (invalid dsn)

/-- The system that a connection URL names by its scheme. -/
def backendOf (url : String) : Except ConfigError Sql.Backend :=
  match (splitOnce ':' url).map (·.1) with
  | some "mysql" => .ok .mysql
  | some "postgres" | some "postgresql" => .ok .postgres
  | some "sqlite" => .ok .sqlite
  | _ => .error (invalid url)

end ChannelKeeper.Dsn
