import ChannelKeeper.Credential
import ChannelKeeper.Json.Writer
import ChannelKeeper.Probe.Outcome

/-!
# Results of probes

The result of one probe, of a whole channel, and of a key in a batch, with their
JSON forms. Optional members that are absent are left out.
-/

namespace ChannelKeeper

open Json

structure ProbeResult where
  success : Bool
  outcome : ProbeOutcome
  message : String
  milliseconds : Nat
deriving DecidableEq, Repr

namespace ProbeResult

def valid (milliseconds : Nat) : ProbeResult := ⟨true, .valid, "API key is valid", milliseconds⟩

def failed (outcome : ProbeOutcome) (message : String) (milliseconds : Nat) : ProbeResult :=
  ⟨false, outcome, message, milliseconds⟩

/-- The provider answered that the key is not good. -/
def rejectsKey (r : ProbeResult) : Bool := !r.success && r.outcome.isRejection

def members (r : ProbeResult) : List (String × Value) :=
  [("success", .bool r.success), ("outcome", .string r.outcome.label),
    ("message", .string r.message), ("response_time_ms", .nat r.milliseconds)]

def toJson (r : ProbeResult) : Value := .object r.members

end ProbeResult

/-- The result of a channel: that of its first working key. -/
structure ChannelTestResult where
  channelId : Int
  channelName : String
  channelKind : Int
  model : String
  result : ProbeResult
  testTime : String
  /-- Position of the deciding key, counted from one, in a channel of several. -/
  keyIndex : Option Nat
  totalKeys : Nat
deriving DecidableEq, Repr

/-- A key together with what is known of its channel. -/
structure ExtractedKey where
  channelId : Int
  channelName : String
  channelKind : Int
  channelStatus : Int
  apiKey : String
  models : String
deriving DecidableEq, Repr

/-- The result of one key in a batch. -/
structure KeyTestResult where
  /-- Position in the batch, counted from one. -/
  index : Nat
  key : String
  source : Option ExtractedKey
  model : String
  result : ProbeResult
deriving DecidableEq, Repr

/-- A member that is left out when it is absent. -/
def presentMember (name : String) (f : α → Value) : Option α → List (String × Value)
  | none => []
  | some a => [(name, f a)]

namespace ExtractedKey

def isEnabled (k : ExtractedKey) : Bool := k.channelStatus == 1

def toJson (k : ExtractedKey) : Value :=
  .object [
    ("channel_id", .int k.channelId),
    ("channel_name", .string k.channelName),
    ("channel_type", .int k.channelKind),
    ("channel_status", .int k.channelStatus),
    ("api_key", .string k.apiKey),
    ("models", .string k.models)]

def fields : List String :=
  ["channel_id", "channel_name", "channel_type", "channel_status", "api_key", "models"]

def ofDocument? (document : Document) : Option ExtractedKey := do
  let r ← Record.ofDocument? fields document
  return {
    channelId := ← r.required "channel_id" Document.toInt?
    channelName := ← r.required "channel_name" Document.toText?
    channelKind := ← r.required "channel_type" Document.toInt?
    channelStatus := ← r.required "channel_status" Document.toInt?
    apiKey := ← r.required "api_key" Document.toText?
    models := ← r.required "models" Document.toText? }

end ExtractedKey

namespace ChannelTestResult

def toJson (r : ChannelTestResult) : Value :=
  .object ([
    ("channel_id", .int r.channelId),
    ("channel_name", .string r.channelName),
    ("channel_type", .int r.channelKind),
    ("model", .string r.model)] ++ r.result.members ++
    [("test_time", .string r.testTime)] ++ presentMember "key_index" .nat r.keyIndex ++
    [("total_keys", .nat r.totalKeys)])

def fields : List String :=
  ["channel_id", "channel_name", "channel_type", "model", "success", "outcome", "message",
    "response_time_ms", "test_time", "key_index", "total_keys"]

def ofDocument? (document : Document) : Option ChannelTestResult := do
  let r ← Record.ofDocument? fields document
  let outcome := ProbeOutcome.ofDocument? ProbeOutcome.isNull
  return {
    channelId := ← r.required "channel_id" Document.toInt?
    channelName := ← r.required "channel_name" Document.toText?
    channelKind := ← r.required "channel_type" Document.toInt?
    model := ← r.required "model" Document.toText?
    result := {
      success := ← r.required "success" Document.toBool?
      outcome := ← r.required "outcome" outcome
      message := ← r.required "message" Document.toText?
      milliseconds := ← r.required "response_time_ms" Document.toNat? }
    testTime := ← r.required "test_time" Document.toText?
    keyIndex := ← r.optional "key_index" Document.toNat?
    totalKeys := ← r.required "total_keys" Document.toNat? }

def read? (text : String) : Option ChannelTestResult := Document.read? text >>= ofDocument?

end ChannelTestResult

namespace KeyTestResult

def toJson (r : KeyTestResult) : Value :=
  .object ([("index", .nat r.index), ("key", .string r.key)] ++
    presentMember "source" ExtractedKey.toJson r.source ++
    [("model", .string r.model)] ++ r.result.members)

def ownFields : List String := ["index", "key", "source", "model"]

def resultFields : List String := ["success", "outcome", "message", "response_time_ms"]

/-- Members other than the record's own are read as values before they are looked
at, so that even an unknown one has to be a value. -/
def foreignMembersAreValues (members : List (List Piece × Document)) : Bool :=
  members.all fun (key, content) =>
    match decodeText key with
    | none => false
    | some name =>
      ownFields.contains name || (Value.ofDocument? (Value.depthLimit - 1) content).isSome

/-- Only an object is read: the members of the probe stand among the others. -/
def ofDocument? : Document → Option KeyTestResult
  | .object members => do
    if !foreignMembersAreValues members then none
    let r ← Record.ofDocument? (ownFields ++ resultFields) (.object members)
    let outcome := ProbeOutcome.ofDocument? ProbeOutcome.isNullOrEmpty
    return {
      index := ← r.required "index" Document.toNat?
      key := ← r.required "key" Document.toText?
      source := ← r.optional "source" ExtractedKey.ofDocument?
      model := ← r.required "model" Document.toText?
      result := {
        success := ← r.required "success" Document.toBool?
        outcome := ← r.required "outcome" outcome
        message := ← r.required "message" Document.toText?
        milliseconds := ← r.required "response_time_ms" Document.toNat? } }
  | _ => none

def read? (text : String) : Option KeyTestResult := Document.read? text >>= ofDocument?

end KeyTestResult

end ChannelKeeper
