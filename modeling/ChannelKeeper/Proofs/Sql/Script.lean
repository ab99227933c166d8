import ChannelKeeper.Table.Basic

/-!
# SQL scripts

A reader of SQL text by the lexical rules of the standard: words, numbers,
texts between single quotes, names between quotes of their own, comments, and
single characters for the rest; inside quotes a doubled quote stands for one. The
tokens between semicolons are the statements. Only the statements that a dump
consists of are told apart, and nothing is said of what a statement does.
-/

namespace ChannelKeeper.Sql.Script

open Text (isBlank)

-- ---------------------------------------------------------------------------
-- Numbers
-- ---------------------------------------------------------------------------

def isDigits (s : List Char) : Bool := !s.isEmpty && s.all Char.isDigit

/-- Digits with at most one point before, among or after them. -/
def isDecimal (s : List Char) : Bool :=
  match Text.Chars.splitOnce '.' s with
  | none => isDigits s
  | some (whole, fraction) => isDigits (whole ++ fraction)

def isSign (c : Char) : Bool := c == '+' || c == '-'

def isExponentMark (c : Char) : Bool := c == 'e' || c == 'E'

def withoutSign : List Char → List Char
  | [] => []
  | c :: rest => if isSign c then rest else c :: rest

/-- A decimal number, possibly scaled by a power of ten. -/
def isUnsigned (s : List Char) : Bool :=
  isDecimal (s.takeWhile (!isExponentMark ·)) &&
    match s.dropWhile (!isExponentMark ·) with
    | [] => true
    | _ :: exponent => isDigits (withoutSign exponent)

/-- A number of SQL with or without a sign. -/
def isNumber (text : String) : Bool := isUnsigned (withoutSign text.toList)

-- ---------------------------------------------------------------------------
-- Tokens
-- ---------------------------------------------------------------------------

inductive Token where
  /-- A keyword or a name without quotes, in capitals. -/
  | word (letters : String)
  | number (digits : String)
  | text (content : String)
  | name (content : String)
  | symbol (c : Char)
deriving DecidableEq, Repr

/-- Single quotes are those of texts. -/
def quotedToken (mark : Char) (content : String) : Token :=
  if mark = '\'' then .text content else .name content

/-- What the reader is in the middle of, with what it has read of it. -/
inductive Mode where
  | between
  | word (read : List Char)
  | point
  | number (read : List Char)
  | quoted (mark : Char) (read : List Char)
  /-- A quote that ends the text or name unless a second one follows. -/
  | quote (mark : Char) (read : List Char)
  | dash
  | lineComment
  | slash
  | blockComment
  | blockStar
deriving DecidableEq, Repr

/-- The statements that are complete, and the tokens of the one at hand. -/
structure Reading where
  done : List (List Token) := []
  statement : List Token := []
  mode : Mode := .between
deriving DecidableEq, Repr

namespace Reading

def emit (r : Reading) (ts : List Token) : Reading :=
  { r with statement := r.statement ++ ts, mode := .between }

def close (r : Reading) : Reading := { r with done := r.done ++ [r.statement], statement := [] }

def settle (r : Reading) : Reading :=
  match r.mode with
  | .word read => r.emit [.word (String.ofList (read.map Char.toUpper))]
  | .point => r.emit [.symbol '.']
  | .number read => r.emit [.number (String.ofList read)]
  | .quote mark read => r.emit [quotedToken mark (String.ofList read)]
  | .dash => r.emit [.symbol '-']
  | .slash => r.emit [.symbol '/']
  | _ => r

end Reading

def startsWord (c : Char) : Bool := c.isAlpha || c == '_'

def continuesWord (c : Char) : Bool := startsWord c || c.isDigit

/-- A sign goes on with a number only after the mark of its exponent. -/
def continuesNumber (read : List Char) (c : Char) : Bool :=
  c.isDigit || c == '.' || isExponentMark c || (isSign c && read.getLast?.any isExponentMark)

section

variable (quote : Char)

/-- The first character of a token, or one that stands between tokens. -/
def start (r : Reading) (c : Char) : Reading :=
  if startsWord c then { r with mode := .word [c] }
  else if c.isDigit then { r with mode := .number [c] }
  else if c = '.' then { r with mode := .point }
  else if c = '\'' || c = quote then { r with mode := .quoted c [] }
  else if c = '-' then { r with mode := .dash }
  else if c = '/' then { r with mode := .slash }
  else if c = ';' then r.close
  else if isBlank c then r
  else r.emit [.symbol c]

def step (r : Reading) (c : Char) : Reading :=
  match r.mode with
  | .between => start quote r c
  | .word read =>
    if continuesWord c then { r with mode := .word (read ++ [c]) } else start quote r.settle c
  | .point => if c.isDigit then { r with mode := .number ['.', c] } else start quote r.settle c
  | .number read =>
    if continuesNumber read c then { r with mode := .number (read ++ [c]) }
    else start quote r.settle c
  | .quoted mark read =>
    { r with mode := if c = mark then .quote mark read else .quoted mark (read ++ [c]) }
  | .quote mark read =>
    if c = mark then { r with mode := .quoted mark (read ++ [c]) } else start quote r.settle c
  | .dash => if c = '-' then { r with mode := .lineComment } else start quote r.settle c
  | .lineComment => if c = '\n' || c = '\r' then { r with mode := .between } else r
  | .slash => if c = '*' then { r with mode := .blockComment } else start quote r.settle c
  | .blockComment => if c = '*' then { r with mode := .blockStar } else r
  | .blockStar =>
    { r with mode := if c = '/' then .between else if c = '*' then .blockStar else .blockComment }

def run (r : Reading) (s : List Char) : Reading := s.foldl (step quote) r

end

/-- The statements of a script that ends with nothing begun but a comment. -/
def Reading.statements? (r : Reading) : Option (List (List Token)) :=
  if r.statement = [] ∧ (r.mode = .between ∨ r.mode = .lineComment) then some r.done else none

-- ---------------------------------------------------------------------------
-- Statements
-- ---------------------------------------------------------------------------

inductive Literal where
  | null
  | number (digits : String)
  | text (content : String)
deriving DecidableEq, Repr

def Literal.cell : Literal → Cell
  | null => none
  | number digits => some digits
  | text content => some content

structure Insert where
  table : String
  columns : List String
  values : List Literal
deriving DecidableEq, Repr

inductive Statement where
  /-- The table is dropped if it exists. -/
  | drop (table : String)
  | insert (row : Insert)
  | other (tokens : List Token)
deriving DecidableEq, Repr

/-- The parts between commas; nothing at all has no part. -/
def items (ts : List Token) : List (List Token) :=
  if ts = [] then [] else ts.splitOn (.symbol ',')

def nameOf? : List Token → Option String
  | [.name content] => some content
  | _ => none

def literalOf? : List Token → Option Literal
  | [.word letters] => if letters = "NULL" then some .null else none
  | [.text content] => some (.text content)
  | [.number digits] => if isUnsigned digits.toList then some (.number digits) else none
  | [.symbol sign, .number digits] =>
    if isSign sign && isUnsigned digits.toList then some (.number (String.singleton sign ++ digits))
    else none
  | _ => none

/-- A list in brackets, taken apart, and the tokens after it. -/
def bracketed? (item? : List Token → Option α) : List Token → Option (List α × List Token)
  | .symbol '(' :: ts =>
    match ts.dropWhile (· != .symbol ')') with
    | [] => none
    | _ :: rest => ((items (ts.takeWhile (· != .symbol ')'))).mapM item?).map (·, rest)
  | _ => none

def insert? : List Token → Option Insert
  | .word "INSERT" :: .word "INTO" :: .name table :: ts => do
    let (columns, rest) ← bracketed? nameOf? ts
    match rest with
    | .word "VALUES" :: rest =>
      let (values, rest) ← bracketed? literalOf? rest
      if rest = [] then some { table, columns, values } else none
    | _ => none
  | _ => none

def Statement.ofTokens (ts : List Token) : Statement :=
  match ts with
  | [.word "DROP", .word "TABLE", .word "IF", .word "EXISTS", .name table] => .drop table
  | _ => ((insert? ts).map .insert).getD (.other ts)

/-- The statements of a script whose names stand in the given quotes. -/
def parse (quote : Char) (text : String) : Option (List Statement) :=
  (run quote {} text.toList).statements?.map (·.map .ofTokens)

end ChannelKeeper.Sql.Script
