/-!
# Characters of a text

Blank characters, splitting, joining and replacing on lists of characters, with
the same operations on `String`. Every split keeps all characters but the
separator, so `joinWith` undoes `splitOn`; trimming only ever drops characters
at the two ends.
-/

namespace ChannelKeeper.Text

/-- Characters with the Unicode `White_Space` property. -/
def isBlank (c : Char) : Bool :=
  let n := c.toNat
  (9 ≤ n && n ≤ 13) || n == 0x20 || n == 0x85 || n == 0xA0 || n == 0x1680 ||
    (0x2000 ≤ n && n ≤ 0x200A) || n == 0x2028 || n == 0x2029 || n == 0x202F ||
    n == 0x205F || n == 0x3000

namespace Chars

def trimStart (s : List Char) : List Char := s.dropWhile isBlank

def trimEnd (s : List Char) : List Char := (s.reverse.dropWhile isBlank).reverse

def trim (s : List Char) : List Char := trimEnd (trimStart s)

def splitOn (sep : Char) : List Char → List (List Char)
  | [] => [[]]
  | c :: rest =>
    if c = sep then [] :: splitOn sep rest
    else match splitOn sep rest with
      | [] => [[c]]
      | piece :: pieces => (c :: piece) :: pieces

/-- What stands before and after the first separator. -/
def splitOnce (sep : Char) : List Char → Option (List Char × List Char)
  | [] => none
  | c :: rest =>
    if c = sep then some ([], rest)
    else (splitOnce sep rest).map fun (before, after) => (c :: before, after)

/-- What stands before and after the last separator. -/
def splitLast (sep : Char) (s : List Char) : Option (List Char × List Char) :=
  (splitOnce sep s.reverse).map fun (after, before) => (before.reverse, after.reverse)

/-- The maximal runs of characters that are not blank. -/
def words : List Char → List (List Char)
  | [] => []
  | c :: rest =>
    if isBlank c then words rest
    else match rest with
      | [] => [[c]]
      | d :: _ =>
        if isBlank d then [c] :: words rest
        else match words rest with
          | [] => [[c]]
          | w :: ws => (c :: w) :: ws

/-- A line ends with a line feed, and a carriage return before it belongs to
the ending. The text after the last line feed is a line unless it is empty. -/
def lines (s : List Char) : List (List Char) :=
  let pieces := splitOn '\n' s
  let whole := pieces.dropLast.map fun l => if l.getLast? = some '\r' then l.dropLast else l
  match pieces.getLast? with
  | some [] | none => whole
  | some last => whole ++ [last]

/-- `pattern` occurs somewhere in the text. -/
def occursIn (pattern : List Char) : List Char → Bool
  | [] => pattern.isEmpty
  | c :: rest => pattern.isPrefixOf (c :: rest) || occursIn pattern rest

def replace (old : Char) (new : List Char) (s : List Char) : List Char :=
  s.flatMap fun c => if c = old then new else [c]

def joinWith (sep : List Char) (pieces : List (List Char)) : List Char :=
  sep.intercalate pieces

end Chars

def onChars (f : List Char → List Char) (s : String) : String := String.ofList (f s.toList)

def trim : String → String := onChars Chars.trim

def trimEnd : String → String := onChars Chars.trimEnd

def isBlankText (s : String) : Bool := s.toList.all isBlank

def splitOn (sep : Char) (s : String) : List String :=
  (Chars.splitOn sep s.toList).map String.ofList

def words (s : String) : List String := (Chars.words s.toList).map String.ofList

def lines (s : String) : List String := (Chars.lines s.toList).map String.ofList

def splitOnce (sep : Char) (s : String) : Option (String × String) :=
  (Chars.splitOnce sep s.toList).map fun (a, b) => (String.ofList a, String.ofList b)

def splitLast (sep : Char) (s : String) : Option (String × String) :=
  (Chars.splitLast sep s.toList).map fun (a, b) => (String.ofList a, String.ofList b)

def occursIn (pattern s : String) : Bool := Chars.occursIn pattern.toList s.toList

def replace (old : Char) (new : String) : String → String := onChars (Chars.replace old new.toList)

def join (sep : String) (pieces : List String) : String :=
  String.ofList (Chars.joinWith sep.toList (pieces.map String.toList))

def startsWith (start s : String) : Bool := start.toList.isPrefixOf s.toList

def afterStart? (start s : String) : Option String :=
  (start.toList.isPrefixOf? s.toList).map String.ofList

def repeated (c : Char) (n : Nat) : String := String.ofList (List.replicate n c)

def take (n : Nat) : String → String := onChars (·.take n)

/-- Equality up to the case of ASCII letters. -/
def sameLetters (a b : String) : Bool :=
  a.toList.map Char.toLower == b.toList.map Char.toLower

end ChannelKeeper.Text
