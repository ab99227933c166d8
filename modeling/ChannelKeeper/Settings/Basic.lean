import ChannelKeeper.Json.Value
import ChannelKeeper.Text.Chars

/-!
# Settings

What the settings file may say, with a default for all of it, and which database
address follows from it: a given one, else the one in the file, else one made of
the file's single parts, else that of a local server.
-/

namespace ChannelKeeper

structure DatabaseSettings where
  dsn : Option String := none
  host : Option String := none
  port : Option Nat := none
  user : Option String := none
  password : Option String := none
  name : Option String := none
deriving DecidableEq, Repr

structure TesterSettings where
  model : String := "gemini-2.5-flash"
  workers : Nat := 5
  timeoutSeconds : Nat := 10
  baseUrl : Option String := none
  /-- The types that a test means when none is given. -/
  types : List Int := [24, 36]
deriving DecidableEq, Repr

structure ComposeSettings where
  file : String := "../docker-compose.yml"
  service : String := "mysql"
deriving DecidableEq, Repr

structure Settings where
  database : DatabaseSettings := {}
  tester : TesterSettings := {}
  backupDirectory : String := "./backups"
  compose : ComposeSettings := {}
deriving DecidableEq, Repr

namespace DatabaseSettings

/-- The address of the single parts, if one of host, user and name is given. -/
def discreteDsn (d : DatabaseSettings) : Option String :=
  if d.host.isNone && d.user.isNone && d.name.isNone then none
  else some (d.user.getD "root" ++ ":" ++ d.password.getD "" ++ "@tcp(" ++ d.host.getD "localhost" ++
    ":" ++ toString (d.port.getD 3306) ++ ")/" ++ d.name.getD "new-api")

/-- A blank address counts as none. -/
def configuredDsn (d : DatabaseSettings) : Option String :=
  (d.dsn.filter fun dsn => !Text.isBlankText dsn).or d.discreteDsn

end DatabaseSettings

namespace Settings

def defaultDsn : String := "root:123456@tcp(localhost:3306)/new-api"

/-- The address to connect to, given one on the command line or none. -/
def resolveDsn (s : Settings) (given : Option String) : String :=
  match (given.map Text.trim).filter (· ≠ "") with
  | some dsn => dsn
  | none => s.database.configuredDsn.getD defaultDsn

def toJson (s : Settings) : Json.Value :=
  .object [
    ("database", .object [
      ("dsn", .optional .string s.database.dsn),
      ("host", .optional .string s.database.host),
      ("port", .optional .nat s.database.port),
      ("user", .optional .string s.database.user),
      ("password", .optional .string s.database.password),
      ("name", .optional .string s.database.name)]),
    ("tester", .object [
      ("model", .string s.tester.model),
      ("workers", .nat s.tester.workers),
      ("timeout_secs", .nat s.tester.timeoutSeconds),
      ("base_url", .optional .string s.tester.baseUrl),
      ("gemini_types", .array (s.tester.types.map .int))]),
    ("backup", .object [("dir", .string s.backupDirectory)]),
    ("compose", .object [
      ("file", .string s.compose.file),
      ("service", .string s.compose.service)])]

end Settings

end ChannelKeeper
