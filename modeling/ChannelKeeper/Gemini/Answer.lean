import ChannelKeeper.Json.Record
import ChannelKeeper.Json.Writer
import ChannelKeeper.Probe.Result

/-!
# Test requests and their answers

The body of a test request, and what the status and the body of an answer say of
the key: a good answer has candidates in it, and every other status has an
outcome and a wording of its own.
-/

namespace ChannelKeeper.Gemini

open Json

/-- The text that every test request sends. -/
def prompt : String := "Say 'test successful' in 3 words only."

/-- The temperature is that of the nearest number of 24 bits to one tenth. -/
def temperature : Binary64 := .ofRatio false 13421773 134217728

def requestBody : Value :=
  .object [
    ("contents", .array [.object [("parts", .array [.object [("text", .string prompt)]])]]),
    ("generationConfig",
      .object [("maxOutputTokens", .nat 10), ("temperature", .float temperature)])]

/-- The number of candidates in a good answer. -/
def candidateCount? (body : String) : Option Nat := do
  let r ← Document.read? body >>= Record.ofDocument? ["candidates"]
  let candidate := Value.ofDocument? (Value.depthLimit - 2)
  let candidates ← r.withDefault "candidates" (Document.toList? candidate) []
  return candidates.length

def errorBody? (document : Document) : Option (Option String) := do
  let r ← Record.ofDocument? ["message"] document
  r.withDefault "message" (Document.nullable Document.toText?) none

/-- The message of an error answer, unless it is empty. -/
def errorMessage? (body : String) : Option String := do
  let r ← Document.read? body >>= Record.ofDocument? ["error"]
  let error ← r.withDefault "error" (Document.nullable errorBody?) none
  error.join.filter (· ≠ "")

def classify (status : Nat) (body model : String) (milliseconds : Nat) : ProbeResult :=
  let failed (outcome : ProbeOutcome) (message : String) := ProbeResult.failed outcome message milliseconds
  match status with
  | 200 =>
    match candidateCount? body with
    | none => failed .invalidJson "Invalid JSON response"
    | some 0 => failed .unexpectedFormat "Unexpected response format"
    | some _ => .valid milliseconds
  | 400 => failed .badRequest "Invalid API key (400 Bad Request)"
  | 403 =>
    match errorMessage? body with
    | some message => failed .forbidden ("Forbidden: " ++ message)
    | none => failed .forbidden "API key forbidden (403)"
  | 404 => failed .modelNotFound ("Model not found: " ++ model)
  | 429 => failed .rateLimited "Rate limit exceeded (429)"
  | status => failed .httpStatus ("HTTP " ++ toString status ++ ": " ++ Text.take 100 body)

end ChannelKeeper.Gemini
