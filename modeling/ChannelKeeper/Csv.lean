import ChannelKeeper.Text.Chars

/-!
# Comma-separated records

A field is quoted when it holds a comma, a quote or a line ending, and a quote
inside it is then written twice. A record of one empty field is written as a
quoted field, so that it is not an empty line. A record ends with a line feed.
-/

namespace ChannelKeeper.Csv

def needsQuotes (field : List Char) : Bool :=
  field.any fun c => c == ',' || c == '"' || c == '\n' || c == '\r'

def writeField (field : List Char) : List Char :=
  if needsQuotes field then '"' :: (Text.Chars.replace '"' ['"', '"'] field ++ ['"']) else field

def writeRecord (fields : List (List Char)) : List Char :=
  match fields with
  | [[]] => ['"', '"', '\n']
  | fields => Text.Chars.joinWith [','] (fields.map writeField) ++ ['\n']

def render (records : List (List String)) : String :=
  String.ofList (records.flatMap fun fields => writeRecord (fields.map String.toList))

end ChannelKeeper.Csv
