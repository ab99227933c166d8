import ChannelKeeper.Toml.Scalar

/-!
# Reading TOML

A document is read line by line: key and value, header, or nothing. Arrays may
span lines, tables written as values may not. `read?` fails on the first text
that is no document.
-/

namespace ChannelKeeper.Toml

-- ---------------------------------------------------------------------------
-- Keys
-- ---------------------------------------------------------------------------

/-- A key may have this many names and a value this many nested brackets. -/
def nestingLimit : Nat := 79

def isBare (c : Char) : Bool := c.isAlphanum || c == '_' || c == '-'

def readName (s : List Char) : Option (String × List Char) :=
  match s with
  | '"' :: _ | '\'' :: _ => readQuoted s
  | s =>
    match s.takeWhile isBare with
    | [] => none
    | name => some (String.ofList name, s.dropWhile isBare)

/-- Names with points between them and blanks around each. -/
def readNames : Nat → List Char → Option (List String × List Char)
  | 0, _ => none
  | fuel + 1, s => do
    let (name, s) ← readName (skipSpace s)
    match skipSpace s with
    | '.' :: rest =>
      let (names, rest) ← readNames fuel rest
      return (name :: names, rest)
    | s => return ([name], s)

/-- All names but the last, and the last. -/
def splitKey : List String → Option (List String × String)
  | [] => none
  | [name] => some ([], name)
  | name :: rest => (splitKey rest).map fun (path, last) => (name :: path, last)

def readKey (s : List Char) : Option ((List String × String) × List Char) := do
  let (names, s) ← readNames nestingLimit s
  let key ← splitKey names
  return (key, s)

-- ---------------------------------------------------------------------------
-- Values
-- ---------------------------------------------------------------------------

def skipComment : List Char → List Char
  | '#' :: rest => rest.dropWhile isPlain
  | s => s

/-- Blanks, comments and line endings between the items of an array. -/
def skipBetween : Nat → List Char → List Char
  | 0, s => s
  | fuel + 1, s =>
    let s := skipComment (skipSpace s)
    match newline? s with
    | some rest => skipBetween fuel rest
    | none => s

def readWord (word : String) (v : Value) (s : List Char) : Option (Value × List Char) :=
  (word.toList.isPrefixOf? s).map (v, ·)

/-- The first reader that succeeds. -/
def readNumberOrDate (s : List Char) : Option (Value × List Char) :=
  (readDate s).or ((readFloat s).or (readInteger s))

mutual

/-- One value and the rest. The fuel bounds the number of values; `depth` counts
the brackets that may still be opened. -/
def readValue : Nat → Nat → List Char → Option (Value × List Char)
  | 0, _, _ => none
  | fuel + 1, depth, s =>
    match s with
    | '"' :: _ | '\'' :: _ => (readString s).map fun (text, rest) => (.string text, rest)
    | '[' :: rest =>
      if depth = 0 then none
      else (readItems fuel (depth - 1) rest).map fun (items, rest) => (.array items, rest)
    | '\x7b' :: rest =>
      if depth = 0 then none
      else
        match skipSpace rest with
        | '\x7d' :: rest => some (.table [], rest)
        | rest => (readPairs fuel (depth - 1) {} rest).map fun (t, rest) => (t.close, rest)
    | 't' :: _ => readWord "true" (.boolean true) s
    | 'f' :: _ => readWord "false" (.boolean false) s
    | s => readNumberOrDate s

/-- The items of an array up to its end; a comma may follow the last one. -/
def readItems : Nat → Nat → List Char → Option (List Value × List Char)
  | 0, _, _ => none
  | fuel + 1, depth, s =>
    match skipBetween s.length s with
    | ']' :: rest => some ([], rest)
    | s => do
      let (item, s) ← readValue fuel depth s
      match skipBetween s.length s with
      | ']' :: rest => return ([item], rest)
      | ',' :: rest =>
        let (items, rest) ← readItems fuel depth rest
        return (item :: items, rest)
      | _ => none

/-- The pairs of a table written as a value; no comma follows the last one. -/
def readPairs : Nat → Nat → Table → List Char → Option (Table × List Char)
  | 0, _, _, _ => none
  | fuel + 1, depth, t, s => do
    let ((path, name), s) ← readKey s
    let s ← readMark '=' s
    let (v, s) ← readValue fuel depth (skipSpace s)
    let t ← t.set? path name v
    match skipSpace s with
    | '\x7d' :: rest => return (t, rest)
    | ',' :: rest => readPairs fuel depth t rest
    | _ => none

end

-- ---------------------------------------------------------------------------
-- Lines
-- ---------------------------------------------------------------------------

/-- Nothing but blanks and a comment up to the end of the line. -/
def endLine? (s : List Char) : Option (List Char) :=
  match skipComment (skipSpace s) with
  | [] => some []
  | s => newline? s

/-- A document so far and the header that the next lines belong to. -/
structure Progress where
  root : Table := {}
  header : List String := []

def readPair (p : Progress) (s : List Char) : Option (Progress × List Char) := do
  let ((path, name), s) ← readKey s
  let s ← readMark '=' s
  let s := skipSpace s
  let (v, s) ← readValue s.length.succ nestingLimit s
  let root ← p.root.changeAt false (·.set? path name v) p.header
  return ({ p with root := root }, s)

def readHeader (p : Progress) (s : List Char) : Option (Progress × List Char) := do
  let ((path, name), s) ← readKey s
  let s ← readMark ']' s
  let root ← p.root.head? path name
  return (⟨root, path ++ [name]⟩, s)

def readArrayHeader (p : Progress) (s : List Char) : Option (Progress × List Char) := do
  let ((path, name), s) ← readKey s
  let s ← readMark ']' s
  let s ← readMark ']' s
  let root ← p.root.push? path name
  return (⟨root, path ++ [name]⟩, s)

def readLine (p : Progress) (s : List Char) : Option (Progress × List Char) :=
  match skipSpace s with
  | [] => some (p, [])
  | '#' :: _ | '\n' :: _ | '\r' :: _ => some (p, skipSpace s)
  | '[' :: '[' :: rest => readArrayHeader p rest
  | '[' :: rest => readHeader p rest
  | s => readPair p s

/-- The fuel bounds the number of lines. -/
def readLinesFrom : Nat → Progress → List Char → Option Table
  | 0, _, _ => none
  | fuel + 1, p, s =>
    match s with
    | [] => some p.root
    | s => do
      let (p, s) ← readLine p s
      let s ← endLine? s
      readLinesFrom fuel p s

/-- A mark of the byte order may stand in front. -/
def read? (text : String) : Option Value :=
  let s := match text.toList with
    | '\ufeff' :: rest => rest
    | s => s
  (readLinesFrom s.length.succ {} s).map Table.close

end ChannelKeeper.Toml
