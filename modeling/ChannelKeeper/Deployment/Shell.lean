import ChannelKeeper.Deployment.Compose
import ChannelKeeper.Files.Disk

/-!
# Shell scripts

A command shell that knows its own commands and no other programs. A script is
read as words, quoted or not, with the parameters it was given, and as commands
that follow each other always, after a success or after a failure. What a script
writes is octets, which need not be text.
-/

namespace ChannelKeeper.Shell

-- ---------------------------------------------------------------------------
-- Reading
-- ---------------------------------------------------------------------------

inductive Piece where
  | text (c : Char)
  /-- An unquoted parameter is split at its blanks. -/
  | parameter (name : Char) (isQuoted : Bool)
deriving DecidableEq, Repr

inductive Link where
  | always
  | afterSuccess
  | afterFailure
deriving DecidableEq, Repr

inductive Token where
  | word (pieces : List Piece)
  | link (l : Link)
  /-- The command writes to the error output. -/
  | toError
deriving DecidableEq, Repr

inductive Mode where
  | plain
  | singleQuoted
  | doubleQuoted
deriving DecidableEq, Repr

def isParameter (c : Char) : Bool := c.isDigit || c == '$' || c == '?' || c == '#' || c == '@' || c == '*'

/-- The characters that a backslash protects between double quotes. -/
def isProtected (c : Char) : Bool := c == '"' || c == '\\' || c == '$' || c == Char.ofNat 0x60

/-- The word so far as a token, if there is one. -/
def finished (word : Option (List Piece)) : List Token := (word.map Token.word).toList

def grown (word : Option (List Piece)) (p : Piece) : Option (List Piece) := some (word.getD [] ++ [p])

/-- `word` holds the pieces of a word that is being read; an empty pair of quotes
starts one. -/
def tokens (mode : Mode) (word : Option (List Piece)) : List Char → List Token
  | [] => finished word
  | c :: rest =>
    match mode, c, rest with
    | .singleQuoted, '\'', rest => tokens .plain word rest
    | .singleQuoted, c, rest => tokens .singleQuoted (grown word (.text c)) rest
    | .doubleQuoted, '"', rest => tokens .plain word rest
    | .doubleQuoted, '\\', d :: rest =>
      if isProtected d then tokens .doubleQuoted (grown word (.text d)) rest
      else tokens .doubleQuoted (grown (grown word (.text '\\')) (.text d)) rest
    | .doubleQuoted, '$', d :: rest =>
      if isParameter d then tokens .doubleQuoted (grown word (.parameter d true)) rest
      else tokens .doubleQuoted (grown (grown word (.text '$')) (.text d)) rest
    | .doubleQuoted, c, rest => tokens .doubleQuoted (grown word (.text c)) rest
    | .plain, '\'', rest => tokens .singleQuoted (some (word.getD [])) rest
    | .plain, '"', rest => tokens .doubleQuoted (some (word.getD [])) rest
    | .plain, '\\', d :: rest => tokens .plain (grown word (.text d)) rest
    | .plain, '&', '&' :: rest => finished word ++ .link .afterSuccess :: tokens .plain none rest
    | .plain, '|', '|' :: rest => finished word ++ .link .afterFailure :: tokens .plain none rest
    | .plain, '>', '&' :: '2' :: rest => finished word ++ .toError :: tokens .plain none rest
    | .plain, '1', '>' :: '&' :: '2' :: rest =>
      if word.isNone then .toError :: tokens .plain none rest
      else finished (grown word (.text '1')) ++ .toError :: tokens .plain none rest
    | .plain, '$', d :: rest =>
      if isParameter d then tokens .plain (grown word (.parameter d false)) rest
      else tokens .plain (grown (grown word (.text '$')) (.text d)) rest
    | .plain, c, rest =>
      if c == ' ' || c == '\t' then finished word ++ tokens .plain none rest
      else if c == ';' || c == '\n' then finished word ++ .link .always :: tokens .plain none rest
      else tokens .plain (grown word (.text c)) rest

structure Statement where
  link : Link
  words : List (List Piece) := []
  isToError : Bool := false
deriving DecidableEq, Repr

/-- Statements between the links; `current` is the one being read. -/
def statements (current : Statement) : List Token → List Statement
  | [] => [current]
  | .link l :: rest => current :: statements { link := l } rest
  | .word w :: rest => statements { current with words := current.words ++ [w] } rest
  | .toError :: rest => statements { current with isToError := true } rest

def parse (script : String) : List Statement :=
  (statements { link := .always } (tokens .plain none script.toList)).filter (!·.words.isEmpty)

-- ---------------------------------------------------------------------------
-- Running
-- ---------------------------------------------------------------------------

structure Process where
  /-- The name that the script goes by, and its parameters. -/
  name : String
  parameters : List String
  stdout : List Nat := []
  stderr : List Nat := []
  status : Nat := 0
  /-- The script is over, with a code unless a signal ended it. -/
  ending : Option (Option Nat) := none
deriving DecidableEq, Repr

namespace Process

/-- The number that the process is known by. -/
def number : String := "1"

def value (p : Process) (parameter : Char) : String :=
  if parameter == '$' then number
  else if parameter == '?' then toString p.status
  else if parameter == '#' then toString p.parameters.length
  else if parameter == '@' || parameter == '*' then Text.join " " p.parameters
  else if parameter == '0' then p.name
  else p.parameters.getD (parameter.toNat - '1'.toNat) ""

/-- Finished words and the one in the making. -/
abbrev Fields := List String × Option String

def addPiece (p : Process) : Fields → Piece → Fields
  | (done, current), .text c => (done, some (current.getD "" ++ String.singleton c))
  | (done, current), .parameter name true => (done, some (current.getD "" ++ p.value name))
  | (done, current), .parameter name false =>
    match Text.words (p.value name) with
    | [] => (done, current)
    | first :: rest =>
      let all := (current.getD "" ++ first) :: rest
      (done ++ all.dropLast, all.getLast?)

/-- What a word stands for: one word, none or several. -/
def expand (p : Process) (word : List Piece) : List String :=
  let isEmptyQuote := word.isEmpty
  let (done, current) := word.foldl p.addPiece ([], if isEmptyQuote then some "" else none)
  done ++ current.toList

def writeOctets (p : Process) (isToError : Bool) (octets : List Nat) : Process :=
  if isToError then { p with stderr := p.stderr ++ octets }
  else { p with stdout := p.stdout ++ octets }

def octal? (c : Char) : Option Nat := if '0' ≤ c ∧ c ≤ '7' then some (c.toNat - '0'.toNat) else none

/-- What a backslash and a character stand for. -/
def escapeOf (c : Char) : List Nat :=
  match c with
  | 'n' => [10]
  | 't' => [9]
  | 'r' => [13]
  | '\\' => [92]
  | c => 92 :: Text.Utf8.encodeChar c

/-- Text in which a backslash and three octal digits stand for an octet, and some
letters after a backslash for control characters. -/
def escapes : List Char → List Nat
  | '\\' :: a :: b :: c :: rest =>
    match octal? a, octal? b, octal? c with
    | some i, some j, some k => (i * 64 + j * 8 + k) % 256 :: escapes rest
    | _, _, _ => escapeOf a ++ escapes (b :: c :: rest)
  | '\\' :: a :: rest => escapeOf a ++ escapes rest
  | c :: rest => Text.Utf8.encodeChar c ++ escapes rest
  | [] => []

/-- A pattern with `%s` for the arguments, one after the other. -/
def formatted : List Char → List String → List Nat
  | '%' :: 's' :: rest, arguments =>
    Text.Utf8.encode (arguments.headD "").toList ++ formatted rest arguments.tail
  | '%' :: 'd' :: rest, arguments =>
    Text.Utf8.encode (arguments.headD "0").toList ++ formatted rest arguments.tail
  | '%' :: '%' :: rest, arguments => 37 :: formatted rest arguments
  | '\\' :: a :: b :: c :: rest, arguments =>
    match octal? a, octal? b, octal? c with
    | some i, some j, some k => (i * 64 + j * 8 + k) % 256 :: formatted rest arguments
    | _, _, _ => escapeOf a ++ formatted (b :: c :: rest) arguments
  | '\\' :: a :: rest, arguments => escapeOf a ++ formatted rest arguments
  | c :: rest, arguments => Text.Utf8.encodeChar c ++ formatted rest arguments
  | [], _ => []

def placesOf : List Char → Nat
  | '%' :: '%' :: rest => placesOf rest
  | '%' :: rest => placesOf rest + 1
  | _ :: rest => placesOf rest
  | [] => 0

/-- The pattern once for every group of arguments that it takes. -/
def formattedAll (pattern : List Char) (arguments : List String) : List Nat :=
  let places := placesOf pattern
  if places = 0 then formatted pattern arguments
  else
    let rounds := max 1 ((arguments.length + places - 1) / places)
    (List.range rounds).flatMap fun n => formatted pattern (arguments.drop (n * places))

def done (p : Process) (status : Nat) : Process := { p with status := status }

/-- Runs one command. Words that name no command are reported. -/
def command (p : Process) (isToError : Bool) : List String → Process
  | [] => p
  | ":" :: _ | "true" :: _ => p.done 0
  | "false" :: _ => p.done 1
  | "echo" :: "-n" :: arguments =>
    (p.writeOctets isToError (escapes (Text.join " " arguments).toList)).done 0
  | "echo" :: arguments =>
    (p.writeOctets isToError (escapes (Text.join " " arguments).toList ++ [10])).done 0
  | "printf" :: pattern :: arguments =>
    (p.writeOctets isToError (formattedAll pattern.toList arguments)).done 0
  | "exit" :: code :: _ => { p with ending := some (some ((code.toNat?.getD 2) % 256)) }
  | ["exit"] => { p with ending := some (some p.status) }
  | ["kill", number] | ["kill", _, number] | ["kill", "-s", _, number] =>
    if number == Process.number then { p with ending := some none } else p.done 1
  | name :: _ =>
    (p.writeOctets true (Text.Utf8.encode (p.name ++ ": 1: " ++ name ++ ": not found\n").toList)).done 127

def runs (p : Process) : Link → Bool
  | .always => true
  | .afterSuccess => p.status == 0
  | .afterFailure => p.status != 0

def statement (p : Process) (s : Statement) : Process :=
  if p.ending.isSome || !p.runs s.link then p else p.command s.isToError (s.words.flatMap p.expand)

def output (p : Process) : CommandOutput :=
  ⟨Text.Utf8.decodeLossy p.stdout, Text.Utf8.decodeLossy p.stderr, p.ending.getD (some p.status)⟩

end Process

def path : String := "/bin/sh"

/-- Runs a script; the first argument is its name. -/
def run (script : String) (arguments : List String) : CommandOutput :=
  let start : Process := { name := arguments.headD path, parameters := arguments.tail }
  ((parse script).foldl Process.statement start).output

/-- The shell and its smallest companions are all the programs there are. -/
def runner : CommandRunner Disk := fun program arguments directory =>
  .ask fun d =>
    if !directory.all d.isDirectory then .error Disk.noSuchFile
    else match program, arguments with
      | "/bin/sh", "-c" :: script :: arguments => .ok (run script arguments)
      | "/bin/sh", _ | "/bin/true", _ => .ok ⟨"", "", some 0⟩
      | "/bin/false", _ => .ok ⟨"", "", some 1⟩
      | "/bin/echo", arguments => .ok ⟨Text.join " " arguments ++ "\n", "", some 0⟩
      | _, _ => .error Disk.noSuchFile

end ChannelKeeper.Shell
