import ChannelKeeper.Channel.Basic
import ChannelKeeper.Probe.Result
import ChannelKeeper.Text.Lowercase

/-!
# Testing a channel

A prober answers each request by a fixed rule. A channel is tested with one model
by trying its plain keys in turn; the first that works decides, and if none works
the last one tried does. Keys after the deciding one are not tried.
-/

namespace ChannelKeeper

structure ProbeCall where
  key : String
  model : String
  baseUrl : Option String
deriving DecidableEq, Repr

abbrev Prober := ProbeCall → ProbeResult

/-- A name given by someone counts unless it is blank. -/
def givenModel (name : Option String) : Option String :=
  (name.map Text.trim).filter (· ≠ "")

def isGeminiModel (model : String) : Bool := Text.occursIn "gemini" (Text.lowercase model)

/-- The model a channel is tested with: a given one, the channel's test model,
its first Gemini model, its first model, or the fallback. -/
def Channel.resolveModel (c : Channel) (given : Option String) (fallback : String) : String :=
  let listed := (c.modelList.find? isGeminiModel).or c.modelList.head?
  (((givenModel given).or (givenModel c.testModel)).or listed).getD fallback

namespace Channel

/-- The plain keys with their positions among all entries, counted from one. -/
def targets (c : Channel) : List (String × Nat) :=
  (c.keys.zipIdx 1).filter fun (entry, _) => Credential.isPlain entry

/-- The requests made in turn, up to the first that succeeds. -/
def callsFor (probe : Prober) (model : String) (baseUrl : Option String) :
    List (String × Nat) → List ProbeCall
  | [] => []
  | (key, _) :: rest =>
    let call : ProbeCall := ⟨key, model, baseUrl⟩
    if (probe call).success then [call] else call :: callsFor probe model baseUrl rest

/-- The deciding key and its result. -/
def decide? (probe : Prober) (model : String) (baseUrl : Option String) :
    List (String × Nat) → Option (Nat × ProbeResult)
  | [] => none
  | (key, position) :: rest =>
    let result := probe ⟨key, model, baseUrl⟩
    if result.success then some (position, result)
    else (decide? probe model baseUrl rest).or (some (position, result))

def calls (c : Channel) (probe : Prober) (model : String) : List ProbeCall :=
  callsFor probe model c.ownBaseUrl c.targets

def noKeyResult (c : Channel) : ProbeResult :=
  .failed .noKey (if c.keys.isEmpty then "No API key found" else "No valid API key format found") 0

def test (c : Channel) (probe : Prober) (model time : String) : ChannelTestResult :=
  let decided := decide? probe model c.ownBaseUrl c.targets
  { channelId := c.id
    channelName := c.name
    channelKind := c.kind
    model := model
    result := (decided.map (·.2)).getD c.noKeyResult
    testTime := time
    keyIndex := if 1 < c.keys.length then decided.map (·.1) else none
    totalKeys := c.keys.length }

end Channel

end ChannelKeeper
