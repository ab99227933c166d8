import ChannelKeeper.Usage.Basic

/-!
# Reading a command line

Words are taken from left to right. A value that stands alone is only tested when
the next argument begins, so an argument that is not known is reported first. A
command below takes all words after it and is judged before the one above.
-/

namespace ChannelKeeper.Usage

/-- A parameter whose values are still being collected. -/
structure Pending where
  parameter : Parameter
  values : List String := []
  /-- The next plain word is a value of it. -/
  awaitsValue : Bool := false

/-- What was given to one command. -/
structure Given where
  command : String
  values : List (String × List String) := []

namespace Given

def values? (g : Given) (name : String) : Option (List String) :=
  (g.values.find? (·.1 == name)).map (·.2)

def has (g : Given) (name : String) : Bool := (g.values? name).isSome

def add (g : Given) (name : String) (values : List String) : Given :=
  { g with values := match g.values? name with
      | some old => (g.values.filter (·.1 != name)) ++ [(name, old ++ values)]
      | none => g.values ++ [(name, values)] }

def all (g : Given) (name : String) : List String := (g.values? name).getD []

def last? (g : Given) (name : String) : Option String := (g.all name).getLast?

def take (g : Given) (p : Parameter) (values : List String) : Except Fault Given :=
  let tested (test : ValueTest) : Except Fault Given :=
    match values.findSome? test with
    | some fault => .error fault
    | none => .ok (g.add p.name values)
  match p.arity with
  | .switch => if g.has p.name then .error .conflict else .ok (g.add p.name [])
  | .counter => .ok (g.add p.name ["1"])
  | .single test =>
    if values.isEmpty then .error .invalidValue
    else if g.has p.name then .error .conflict
    else tested test
  | .repeated test => if values.isEmpty then .error .invalidValue else tested test

/-- Two parameters that exclude each other are given. -/
def hasConflict (g : Given) (parameters : List Parameter) : Bool :=
  parameters.any fun p => g.has p.name && p.conflicts.any g.has

/-- A parameter is missing that is required, or that a given one needs. -/
def lacksArgument (g : Given) (parameters : List Parameter) : Bool :=
  parameters.any fun p => if g.has p.name then !p.needs.all g.has else p.isRequired

def judge (g : Given) (spec : CommandSpec) (hasCommand : Bool) : Except Fault Given :=
  if !spec.commands.isEmpty && !hasCommand then
    .error (if g.values.isEmpty then .helpForMissing else .missingCommand)
  else if g.hasConflict spec.parameters then .error .conflict
  else if g.lacksArgument spec.parameters then .error .missingArgument
  else .ok g

end Given

/-- Where the reading of a command's words stands. -/
structure Reading where
  given : Given
  pending : Option Pending := none
  /-- All words that follow are operands. -/
  isTrailing : Bool := false
  /-- The place of a single operand is taken. -/
  hasOperand : Bool := false

namespace Reading

def settle (r : Reading) : Except Fault Reading :=
  match r.pending with
  | none => .ok r
  | some p => do return { r with given := ← r.given.take p.parameter p.values, pending := none }

def takeNow (r : Reading) (p : Parameter) (values : List String) : Except Fault Reading := do
  let r ← r.settle
  return { r with given := ← r.given.take p values }

/-- An option with the value that is attached to it, if there is one. -/
def option (r : Reading) (p : Parameter) (attached : Option String) : Except Fault Reading :=
  match p.arity, attached with
  | .switch, some _ | .counter, some _ => .error .tooManyValues
  | .switch, none | .counter, none => r.takeNow p []
  | .single _, some value | .repeated _, some value => r.takeNow p [value]
  | .single _, none | .repeated _, none => do
    return { ← r.settle with pending := some ⟨p, [], true⟩ }

/-- A question instead of an option; it is answered if all before it is in order. -/
def question (r : Reading) (fault : Fault) (attached : Option String) : Except Fault Reading :=
  if attached.isSome then .error .tooManyValues
  else do
    let _ ← r.settle
    .error fault

def longOption (r : Reading) (options : List Parameter) (text : String) : Except Fault Reading :=
  let (name, attached) := match Text.splitOnce '=' text with
    | some (name, value) => (name, some value)
    | none => (text, none)
  match options.find? (·.name == name) with
  | some p => r.option p attached
  | none =>
    if name == "help" then r.question .help attached
    else if name == "version" then r.question .version attached
    else .error .unknownArgument

/-- The value that is attached to a letter. -/
def attachedText : List Char → Option String
  | [] => none
  | '=' :: value => some (String.ofList value)
  | value => some (String.ofList value)

/-- Letters after one dash; one that takes a value takes the rest. -/
def letters (options : List Parameter) : Reading → List Char → Except Fault Reading
  | r, [] => .ok r
  | r, c :: rest =>
    match options.find? (·.letter == some c) with
    | some p =>
      match p.arity with
      | .switch | .counter => do letters options (← r.option p none) rest
      | .single _ | .repeated _ => r.option p (attachedText rest)
    | none =>
      if c == 'h' then r.question .help none
      else if c == 'V' then r.question .version none
      else .error .unknownArgument

def operand (r : Reading) (spec : CommandSpec) (word : String) : Except Fault Reading :=
  let unexpected : Fault :=
    if spec.commands.isEmpty || (r.isTrailing && (spec.command? word).isSome) then .unknownArgument
    else .unknownCommand
  match spec.operand with
  | none => .error unexpected
  | some p =>
    match p.arity, r.pending with
    | .repeated _, some pending =>
      if pending.parameter.name == p.name then
        .ok { r with pending := some { pending with values := pending.values ++ [word] } }
      else do return { ← r.settle with pending := some ⟨p, [word], false⟩ }
    | .repeated _, none => .ok { r with pending := some ⟨p, [word], false⟩ }
    | _, _ =>
      if r.hasOperand then .error unexpected
      else do return { ← r.settle with pending := some ⟨p, [word], false⟩, hasOperand := true }

def awaitsValue (r : Reading) : Bool := r.pending.any (·.awaitsValue)

def giveValue (r : Reading) (word : String) : Reading :=
  { r with pending := r.pending.map fun p => { p with values := p.values ++ [word], awaitsValue := false } }

def word (r : Reading) (options : List Parameter) (spec : CommandSpec) (text : String) :
    Except Fault Reading :=
  if r.isTrailing then r.operand spec text
  else if text == "--" then .ok { r with isTrailing := true }
  else match text.toList with
    | '-' :: '-' :: rest => r.longOption options (String.ofList rest)
    | '-' :: c :: rest => letters options r (c :: rest)
    | _ => if r.awaitsValue then .ok (r.giveValue text) else r.operand spec text

end Reading

def helpCommand : CommandSpec := { name := "help" }

/-- Help is given on a command that there is. -/
def helpOn (spec : CommandSpec) : List String → Fault
  | [] => .help
  | word :: rest =>
    match spec.command? word with
    | some below => helpOn below rest
    | none =>
      if !spec.commands.isEmpty && helpCommand.isNamed word then helpOn helpCommand rest
      else .unknownCommand

/-- Reads the words of a command and of those below it; `shared` options may stand
at each of them. -/
def readWords (shared : List Parameter) (spec : CommandSpec) (r : Reading) :
    List String → Except Fault (List Given)
  | [] => do return [← (← r.settle).given.judge spec false]
  | word :: rest =>
    let below := if r.isTrailing || r.awaitsValue then none else spec.command? word
    match below with
    | some below => do
      let given ← readWords shared below { given := { command := below.name } } rest
      return (← (← r.settle).given.judge spec true) :: given
    | none =>
      if !r.isTrailing && !r.awaitsValue && !spec.commands.isEmpty && helpCommand.isNamed word then
        .error (helpOn spec rest)
      else do readWords shared spec (← r.word (shared ++ spec.options) spec word) rest

/-- What is given to each command, from the first to the last. -/
def read (shared : List Parameter) (spec : CommandSpec) (words : List String) :
    Except Fault (List Given) :=
  readWords shared spec { given := { command := spec.name } } words

end ChannelKeeper.Usage
