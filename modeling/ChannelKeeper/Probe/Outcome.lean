import ChannelKeeper.Json.Record

/-!
# Outcomes of a probe

What the answer to a test request says about a key. Two outcomes say that the
provider rejected the key itself, and only these cost a channel its key.
-/

namespace ChannelKeeper

inductive ProbeOutcome where
  | valid
  | unexpectedFormat
  | invalidJson
  | badRequest
  | forbidden
  | modelNotFound
  | rateLimited
  | httpStatus
  | timeout
  | connection
  | unexpected
  /-- The channel had nothing to probe. -/
  | noKey
deriving DecidableEq, Repr

namespace ProbeOutcome

def all : List ProbeOutcome :=
  [.valid, .unexpectedFormat, .invalidJson, .badRequest, .forbidden, .modelNotFound, .rateLimited,
    .httpStatus, .timeout, .connection, .unexpected, .noKey]

def label : ProbeOutcome → String
  | .valid => "valid"
  | .unexpectedFormat => "unexpected_format"
  | .invalidJson => "invalid_json"
  | .badRequest => "bad_request"
  | .forbidden => "forbidden"
  | .modelNotFound => "model_not_found"
  | .rateLimited => "rate_limited"
  | .httpStatus => "http_status"
  | .timeout => "timeout"
  | .connection => "connection"
  | .unexpected => "unexpected"
  | .noKey => "no_key"

def ofLabel? (label : String) : Option ProbeOutcome := all.find? (·.label == label)

def isRejection : ProbeOutcome → Bool
  | .badRequest | .forbidden => true
  | _ => false

open Json

/-- An outcome is given by its label, alone or as a member without content. -/
def ofDocument? (isEmpty : Document → Bool) : Document → Option ProbeOutcome
  | .object [(key, content)] =>
    if isEmpty content then decodeText key >>= ofLabel? else none
  | document => document.toText? >>= ofLabel?

def isNull : Document → Bool
  | .null => true
  | _ => false

def isNullOrEmpty : Document → Bool
  | .null | .object [] => true
  | _ => false

def read? (text : String) : Option ProbeOutcome := Document.read? text >>= ofDocument? isNull

end ProbeOutcome

end ChannelKeeper
