import ChannelKeeper.Text.Chars

/-!
# File paths

A path is read as its parts between slashes. Empty parts and single dots say
nothing and are passed over, except for a dot in front; two dots are a part like
any other, because where they lead depends on the files.
-/

namespace ChannelKeeper.Path

/-- The slash in front counts as a part. -/
def parts (path : String) : List String :=
  let pieces := Text.splitOn '/' path
  let isAbsolute := Text.startsWith "/" path
  let kept := pieces.filter fun p => !p.isEmpty && p != "."
  if isAbsolute then "/" :: kept
  else if pieces.head? == some "." then "." :: kept
  else kept

def isAbsolute (path : String) : Bool := Text.startsWith "/" path

def same (a b : String) : Bool := parts a == parts b

def ofParts : List String → String
  | "/" :: rest => "/" ++ Text.join "/" rest
  | parts => Text.join "/" parts

def parent? (path : String) : Option String :=
  match parts path with
  | [] | ["/"] => none
  | parts => some (ofParts parts.dropLast)

/-- An absolute second path stands for itself. -/
def join (base name : String) : String :=
  if isAbsolute name || base.isEmpty then name
  else if base.toList.getLast? = some '/' then base ++ name
  else base ++ "/" ++ name

/-- The last part, if it is the name of something. -/
def fileName? (path : String) : Option String :=
  match (parts path).getLast? with
  | none | some "/" | some "." | some ".." => none
  | some name => some name

/-- What follows the last dot of the name, unless the name starts with it. -/
def extension? (path : String) : Option String := do
  let name ← fileName? path
  let (stem, extension) ← Text.splitLast '.' name
  if stem.isEmpty then none else some extension

end ChannelKeeper.Path
