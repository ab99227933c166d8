import ChannelKeeper.Text.Chars

/-!
# Credentials

A channel stores its credentials as one text with an entry to a line. An entry
is a plain key or a structured credential; only plain keys can be tested. Masks
and previews keep a few characters at the ends of an entry and no more.
-/

namespace ChannelKeeper.Credential

def mask : String := "***masked***"

/-- The entries of a stored text, without blanks at their ends. -/
def entries (stored : String) : List String :=
  ((Text.splitOn '\n' stored).map Text.trim).filter (· ≠ "")

/-- An entry that opens like a JSON document. -/
def isStructured (entry : String) : Bool :=
  match entry.toList with
  | '[' :: _ => true
  | '\x7b' :: _ => true
  | _ => false

def isPlain (entry : String) : Bool := !isStructured entry

def ofLines (entries : List String) : String := Text.join "\n" entries

def lastChars (n : Nat) (s : List Char) : List Char := s.drop (s.length - n)

/-- The first and the last four characters of a secret of more than eight. -/
def masked (secret : String) : String :=
  let chars := secret.toList
  if chars.length ≤ 8 then mask
  else String.ofList (chars.take 4 ++ mask.toList ++ lastChars 4 chars)

/-- The first ten and the last four characters of a key of more than fourteen. -/
def preview (key : String) : String :=
  let chars := key.toList
  if chars.length ≤ 14 then key
  else String.ofList (chars.take 10 ++ "...".toList ++ lastChars 4 chars)

end ChannelKeeper.Credential
