import ChannelKeeper.Json.Reader
import ChannelKeeper.Text.Utf8

/-!
# Where a text stops being JSON

The first reason why a text cannot be read, with its line and column. Columns
count octets. A text that is JSON, but not of the document that was asked for,
is reported at its end.
-/

namespace ChannelKeeper.Json

structure SyntaxFault where
  reason : String
  /-- What follows the place of the fault. -/
  rest : List Char

abbrev Scanned := Except SyntaxFault (List Char)

/-- The fault counts the character it stands before. -/
def faultBefore (reason : String) (s : List Char) : Scanned := .error ⟨reason, s.drop 1⟩

def faultAt (reason : String) (s : List Char) : Scanned := .error ⟨reason, s⟩

def scanWord : List Char → List Char → Scanned
  | [], s => .ok s
  | _ :: _, [] => faultAt "EOF while parsing a value" []
  | e :: expected, c :: rest =>
    if c = e then scanWord expected rest else faultAt "expected ident" rest

/-- The rest of a string after its opening quote. -/
def scanString : List Char → Scanned
  | [] => faultAt "EOF while parsing a string" []
  | '"' :: rest => .ok rest
  | ['\\'] => faultAt "EOF while parsing a string" []
  | '\\' :: 'u' :: a :: b :: c :: d :: rest =>
    if (readUnit a b c d).isSome then scanString rest else faultAt "invalid escape" rest
  | '\\' :: e :: rest =>
    if (simpleEscape? e).isSome then scanString rest else faultAt "invalid escape" rest
  | c :: rest =>
    if c.toNat < 0x20 then
      faultAt "control character (\\u0000-\\u001F) found while parsing a string" rest
    else scanString rest

def scanNumber (s : List Char) : Scanned :=
  match readNumber s with
  | some (_, rest) => .ok rest
  | none => faultBefore "invalid number" (s.dropWhile fun c => c == '-' || c.isDigit)

def opensNumber (c : Char) : Bool := c == '-' || c.isDigit

mutual

/-- One value. The fuel bounds the number of values. -/
def scanValue : Nat → List Char → Scanned
  | 0, s => .ok s
  | fuel + 1, s =>
    match skipSpace s with
    | [] => faultBefore "EOF while parsing a value" []
    | 'n' :: rest => scanWord "ull".toList rest
    | 't' :: rest => scanWord "rue".toList rest
    | 'f' :: rest => scanWord "alse".toList rest
    | '"' :: rest => scanString rest
    | '[' :: rest =>
      match skipSpace rest with
      | ']' :: rest => .ok rest
      | [] => faultBefore "EOF while parsing a list" []
      | rest => scanItems fuel rest
    | '\x7b' :: rest =>
      match skipSpace rest with
      | '\x7d' :: rest => .ok rest
      | [] => faultBefore "EOF while parsing an object" []
      | rest => scanMembers fuel rest
    | c :: rest => if opensNumber c then scanNumber (c :: rest) else faultBefore "expected value" (c :: rest)

def scanItems : Nat → List Char → Scanned
  | 0, s => .ok s
  | fuel + 1, s => do
    let s ← scanValue fuel s
    match skipSpace s with
    | ']' :: rest => .ok rest
    | ',' :: rest =>
      match skipSpace rest with
      | ']' :: rest => faultBefore "trailing comma" (']' :: rest)
      | rest => scanItems fuel rest
    | [] => faultBefore "EOF while parsing a list" []
    | rest => faultBefore "expected `,` or `]`" rest

def scanMembers : Nat → List Char → Scanned
  | 0, s => .ok s
  | fuel + 1, s => do
    match skipSpace s with
    | '"' :: rest =>
      let s ← scanString rest
      match skipSpace s with
      | ':' :: rest =>
        let s ← scanValue fuel rest
        match skipSpace s with
        | '\x7d' :: rest => .ok rest
        | ',' :: rest => scanMembers fuel rest
        | [] => faultBefore "EOF while parsing an object" []
        | rest => faultBefore "expected `,` or `\x7d`" rest
      | [] => faultBefore "EOF while parsing an object" []
      | rest => faultBefore "expected `:`" rest
    | '\x7d' :: rest => faultBefore "trailing comma" ('\x7d' :: rest)
    | [] => faultBefore "EOF while parsing a value" []
    | rest => faultBefore "key must be a string" rest

end

def scanText (s : List Char) : Scanned := do
  let rest ← scanValue s.length.succ s
  match skipSpace rest with
  | [] => .ok []
  | rest => faultBefore "trailing characters" rest

def placeText (before : List Char) : String :=
  let line := before.count '\n' + 1
  let column := (Text.Utf8.encode (before.reverse.takeWhile (· != '\n'))).length
  " at line " ++ toString line ++ " column " ++ toString column

/-- Why a text that could not be read was refused. -/
def faultText (text : String) : String :=
  let s := text.toList
  match scanText s with
  | .error fault => fault.reason ++ placeText (s.take (s.length - fault.rest.length))
  | .ok _ => "invalid document" ++ placeText s

end ChannelKeeper.Json
