import ChannelKeeper.Command.Basic
import ChannelKeeper.Usage.Reader

/-!
# The command line

The commands as they are typed. Options of every command may stand at each word of
a command; of several places the last one counts.
-/

namespace ChannelKeeper

open Usage

namespace Grammar

-- ---------------------------------------------------------------------------
-- Options
-- ---------------------------------------------------------------------------

def switch (name : String) (letter : Option Char := none) : Parameter := { name := name, letter := letter }

def value (name : String) (letter : Option Char := none) : Parameter :=
  { name := name, letter := letter, arity := .single .anyText }

def path (name : String) (letter : Option Char := none) : Parameter :=
  { name := name, letter := letter, arity := .single .nonempty }

def shared : List Parameter := [
  value "dsn",
  path "config",
  switch "json",
  switch "quiet",
  { name := "verbose", letter := some 'v', arity := .counter },
  switch "otel"]

def types : Parameter := { name := "type", arity := .repeated (.readable integer?) }

def status : Parameter := { name := "status", arity := .single (.readable integer?) }

def output : Parameter := path "output" (some 'o')

def agreed : Parameter := switch "yes" (some 'y')

def dryRun : Parameter := switch "dry-run"

def model : Parameter := value "model" (some 'm')

def workers : Parameter :=
  { name := "workers", letter := some 'w', arity := .single (.readable natural?) }

/-- An option whose value is one of the names of a format. -/
def format {α : Type} (read : String → Except String α) : Parameter :=
  { name := "format", letter := some 'f', arity := .single (.readable fun s => (read s).toOption) }

def required (name : String) (test : ValueTest) : Parameter :=
  { name := name, arity := .single test, isRequired := true }

def without (names : List String) (p : Parameter) : Parameter := { p with conflicts := names }

-- ---------------------------------------------------------------------------
-- Commands
-- ---------------------------------------------------------------------------

def channelCommands : CommandSpec where
  name := "channel"
  commands := [
    { name := "list", aliases := ["ls"], options := [types, status] },
    { name := "count" },
    { name := "export", options := [types, status, format ExportFormat.parse, output, switch "no-mask"] },
    { name := "backup", options := [output] },
    { name := "import"
      options := [switch "update-existing", dryRun, agreed]
      operand := some (required "file" .nonempty) },
    { name := "restore", options := [dryRun, agreed], operand := some (required "file" .nonempty) },
    { name := "test"
      options := [
        { name := "channel-id", arity := .single (.readable integer?) },
        types |> without ["channel-id"], status, model, workers, path "export"] }]

def keyCommands : CommandSpec where
  name := "keys"
  commands := [
    { name := "export"
      options := [
        types, status, switch "include-disabled" |> without ["status"],
        format KeyExportFormat.parse, output] },
    { name := "test"
      options := [
        path "from-file", types |> without ["from-file"],
        switch "include-disabled" |> without ["from-file"],
        switch "export-first" |> without ["from-file"], model, workers, path "save-results",
        switch "remove-invalid" |> without ["from-file"], agreed] },
    { name := "probe", options := [model], operand := some (required "key" .anyText) }]

def modelCommands : CommandSpec where
  name := "models"
  commands := [
    { name := "list", aliases := ["ls"] },
    { name := "update", options := [types, dryRun, agreed] }]

def tableCommands : CommandSpec where
  name := "db"
  commands := [
    { name := "tables" },
    { name := "stats" },
    { name := "clean"
      options := [
        switch "logs" |> without ["business", "all"], switch "business" |> without ["all"],
        { name := "all", needs := ["confirm-all"] }, switch "confirm-all", switch "no-backup", agreed]
      operand := some { name := "tables", arity := .repeated .anyText, conflicts := ["logs", "business", "all"] } },
    { name := "reset"
      options := [
        switch "backup-only" |> without ["reset-only"], switch "reset-only", dryRun, agreed] },
    { name := "backups" }]

def shells : List String := ["bash", "elvish", "fish", "powershell", "zsh"]

def program : CommandSpec where
  name := "chanops"
  commands := [
    channelCommands, keyCommands, modelCommands, tableCommands,
    { name := "check" },
    { name := "completions", operand := some (required "shell" (.oneOf shells)) }]

end Grammar

namespace Usage.Given

-- ---------------------------------------------------------------------------
-- Values
-- ---------------------------------------------------------------------------

def integers (g : Given) (name : String) : List Int := (g.all name).filterMap integer?

def integer (g : Given) (name : String) : Option Int := g.last? name >>= integer?

def choice (g : Given) : ChannelChoice := ⟨g.integers "type", g.integer "status"⟩

def batch (g : Given) : BatchOptions := ⟨g.last? "model", g.last? "workers" >>= natural?⟩

/-- The value of a format option, or the format that is meant without it. -/
def format {α : Type} (g : Given) (read : String → Except String α) (usual : α) : α :=
  ((g.last? "format").bind fun s => (read s).toOption).getD usual

def operand (g : Given) (name : String) : String := (g.last? name).getD ""

def agreed (g : Given) : Bool := g.has "yes"

end Usage.Given

namespace Command

/-- Keys are taken from enabled channels unless told otherwise. -/
def enabledOnly (g : Given) : Option Int := if g.has "include-disabled" then none else some 1

def channelCommand? (g : Given) : Option ChannelCommand :=
  match g.command with
  | "list" => some (.list g.choice)
  | "count" => some .count
  | "export" =>
    some (.exportFile ⟨g.choice, g.format ExportFormat.parse .json, g.last? "output", !g.has "no-mask"⟩)
  | "backup" => some (.backup (g.last? "output"))
  | "import" =>
    some (.importFile ⟨g.operand "file", g.has "update-existing", g.has "dry-run", g.agreed⟩)
  | "restore" => some (.restore ⟨g.operand "file", g.has "dry-run", g.agreed⟩)
  | "test" => some (.test ⟨g.integer "channel-id", g.choice, g.batch, g.last? "export"⟩)
  | _ => none

def keyCommand? (g : Given) : Option KeyCommand :=
  match g.command with
  | "export" =>
    let choice : ChannelChoice := ⟨g.integers "type", (g.integer "status").or (enabledOnly g)⟩
    some (.exportFile ⟨choice, g.format KeyExportFormat.parse .simple, g.last? "output"⟩)
  | "test" =>
    some (.test {
      file := g.last? "from-file"
      choice := ⟨g.integers "type", enabledOnly g⟩
      exportsFirst := g.has "export-first"
      batch := g.batch
      report := g.last? "save-results"
      removesRejected := g.has "remove-invalid"
      agreed := g.agreed })
  | "probe" => some (.probe (g.operand "key") (g.last? "model"))
  | _ => none

def modelCommand? (g : Given) : Option ModelCommand :=
  match g.command with
  | "list" => some .list
  | "update" => some (.update ⟨g.integers "type", g.has "dry-run", g.agreed⟩)
  | _ => none

def selection? (g : Given) : Option TableSelection :=
  if g.has "all" then some .all
  else if g.has "business" then some .business
  else if g.has "logs" then some .logs
  else if g.has "tables" then some (.named (g.all "tables"))
  else none

def tableCommand? (g : Given) : Option TableCommand :=
  match g.command with
  | "tables" => some .list
  | "stats" => some .stats
  | "clean" => some (.clean ⟨selection? g, !g.has "no-backup", g.agreed⟩)
  | "reset" =>
    some (.reset ⟨!g.has "reset-only", !g.has "backup-only", g.has "dry-run", g.agreed⟩)
  | "backups" => some .backups
  | _ => none

/-- The command that was given; there is one for every line that the grammar allows. -/
def ofGiven? : List Given → Option Command
  | [_, g] =>
    match g.command with
    | "check" => some .check
    | "completions" => some (.completions (g.operand "shell"))
    | _ => none
  | [_, group, g] =>
    match group.command with
    | "channel" => (channelCommand? g).map .channels
    | "keys" => (keyCommand? g).map .keys
    | "models" => (modelCommand? g).map .models
    | "db" => (tableCommand? g).map .tables
    | _ => none
  | _ => none

end Command

namespace GlobalOptions

/-- The values of a shared option at the last place where it stands. -/
def lastValues (given : List Given) (name : String) : Option (List String) :=
  given.reverse.findSome? (·.values? name)

def ofGiven (given : List Given) : GlobalOptions :=
  let text (name : String) := (lastValues given name).bind (·.getLast?)
  let has (name : String) := (lastValues given name).isSome
  { dsn := text "dsn"
    settingsFile := text "config"
    asJson := has "json"
    quiet := has "quiet"
    verbosity := min 255 ((lastValues given "verbose").getD []).length
    exportsSpans := has "otel" }

end GlobalOptions

namespace Invocation

def read (words : List String) : Except Fault Invocation := do
  let given ← Usage.read Grammar.shared Grammar.program words
  match Command.ofGiven? given with
  | some command => return ⟨.ofGiven given, command⟩
  | none => throw .missingCommand

end Invocation

end ChannelKeeper
