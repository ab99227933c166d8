import ChannelKeeper.Text.Chars

/-!
# Command lines

What a program's command line may hold: options by name, words by place, and
commands below commands. A value is tested when it is taken, by a test that the
parameter brings along.
-/

namespace ChannelKeeper.Usage

/-- Why a command line is not carried out. -/
inductive Fault where
  | help
  | version
  /-- A command is missing and nothing else is said. -/
  | helpForMissing
  | missingCommand
  | unknownCommand
  | unknownArgument
  | missingArgument
  | conflict
  /-- A value is missing, or none of those there are. -/
  | invalidValue
  /-- A value that cannot be read. -/
  | unreadableValue
  | tooManyValues
deriving DecidableEq, Repr

namespace Fault

def isQuestion : Fault → Bool
  | .help | .version => true
  | _ => false

def message : Fault → String
  | .help | .helpForMissing => "name a command and its options"
  | .version => "chanops"
  | .missingCommand => "a command is missing"
  | .unknownCommand => "there is no such command"
  | .unknownArgument => "there is no such argument"
  | .missingArgument => "a required argument is missing"
  | .conflict => "two arguments exclude each other"
  | .invalidValue => "a value is missing or not allowed"
  | .unreadableValue => "a value cannot be read"
  | .tooManyValues => "an option does not take a value"

end Fault

abbrev ValueTest := String → Option Fault

namespace ValueTest

def anyText : ValueTest := fun _ => none

def nonempty : ValueTest := fun s => if s.isEmpty then some .invalidValue else none

def oneOf (names : List String) : ValueTest :=
  fun s => if names.contains s then none else some .invalidValue

def readable {α : Type} (read : String → Option α) : ValueTest :=
  fun s => if (read s).isSome then none else some .unreadableValue

end ValueTest

inductive Arity where
  | switch
  /-- A switch that counts how often it is given. -/
  | counter
  | single (test : ValueTest)
  | repeated (test : ValueTest)

structure Parameter where
  name : String
  /-- The letter of the short form. -/
  letter : Option Char := none
  arity : Arity := .switch
  /-- Parameters that it may not stand beside. -/
  conflicts : List String := []
  /-- Parameters that it may not stand without. -/
  needs : List String := []
  isRequired : Bool := false

structure CommandSpec where
  name : String
  aliases : List String := []
  options : List Parameter := []
  /-- The parameter that is given by place. -/
  operand : Option Parameter := none
  /-- One of these has to follow, if there are any. -/
  commands : List CommandSpec := []

namespace CommandSpec

def isNamed (spec : CommandSpec) (word : String) : Bool := spec.name == word || spec.aliases.contains word

def command? (spec : CommandSpec) (word : String) : Option CommandSpec := spec.commands.find? (·.isNamed word)

def parameters (spec : CommandSpec) : List Parameter := spec.options ++ spec.operand.toList

end CommandSpec

-- ---------------------------------------------------------------------------
-- Numbers
-- ---------------------------------------------------------------------------

def decimal? (digits : List Char) : Option Nat :=
  if digits.isEmpty || !digits.all Char.isDigit then none
  else some (digits.foldl (fun n c => n * 10 + (c.toNat - '0'.toNat)) 0)

def withinWord (n : Int) : Bool := -9223372036854775808 ≤ n && n ≤ 9223372036854775807

/-- A signed number of 64 bits. -/
def integer? (text : String) : Option Int :=
  let n : Option Int := match text.toList with
    | '-' :: digits => (decimal? digits).map fun n => -(n : Int)
    | '+' :: digits => (decimal? digits).map Int.ofNat
    | digits => (decimal? digits).map Int.ofNat
  n.filter withinWord

/-- A number of 64 bits without a minus sign. -/
def natural? (text : String) : Option Nat :=
  let n := match text.toList with
    | '+' :: digits => decimal? digits
    | digits => decimal? digits
  n.filter (· ≤ 18446744073709551615)

end ChannelKeeper.Usage
