/-!
# What can go wrong

Each kind of error is named for its cause and has one wording. An error of the
store keeps its own wording inside the errors of the operations that use it.
-/

namespace ChannelKeeper

inductive StoreError where
  | connection (detail : String)
  | query (detail : String)
  | notFound
  | conflict (detail : String)
deriving DecidableEq, Repr

def StoreError.message : StoreError → String
  | .connection detail => "database connection error: " ++ detail
  | .query detail => "query error: " ++ detail
  | .notFound => "entity not found"
  | .conflict detail => "conflict: " ++ detail

/-- Errors of exporting, importing and backing up channels. -/
inductive ChannelError where
  | store (cause : StoreError)
  | io (detail : String)
  | invalidBackup (detail : String)
  | render (what : String)
deriving DecidableEq, Repr

def ChannelError.message : ChannelError → String
  | .store cause => cause.message
  | .io detail => "filesystem error: " ++ detail
  | .invalidBackup detail => "invalid backup file: " ++ detail
  | .render what => "failed to render " ++ what

/-- Errors of emptying tables. -/
inductive CleanError where
  | store (cause : StoreError)
  | io (detail : String)
  | unknownTable (name : String)
deriving DecidableEq, Repr

def CleanError.message : CleanError → String
  | .store cause => cause.message
  | .io detail => "filesystem error: " ++ detail
  | .unknownTable name => "table '" ++ name ++ "' does not exist"

/-- Errors of settings and of the database address. -/
inductive ConfigError where
  | read (detail : String)
  | parse (detail : String)
  | invalidDsn (detail : String)
deriving DecidableEq, Repr

def ConfigError.message : ConfigError → String
  | .read detail => "failed to read config: " ++ detail
  | .parse detail => "failed to parse config: " ++ detail
  | .invalidDsn detail => "unrecognized DSN: " ++ detail

end ChannelKeeper
