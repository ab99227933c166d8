import ChannelKeeper.Gemini.Answer
import ChannelKeeper.Probe.Testing
import ChannelKeeper.Url.Parser

/-!
# Sending test requests

A request names the model in its path and the key in its query. What becomes of
it is left to a transport; each of the ways a request can fail has an outcome and
a wording of its own.
-/

namespace ChannelKeeper.Gemini

def defaultBaseUrl : String := "https://generativelanguage.googleapis.com/v1beta"

/-- Where a request goes; all requests have the same body. -/
structure Request where
  url : Url
deriving DecidableEq, Repr

namespace Request

def withoutEndSlashes (base : String) : String :=
  String.ofList (base.toList.reverse.dropWhile (· == '/')).reverse

/-- The text that is read as the address, without the key. -/
def address (base model : String) : String :=
  withoutEndSlashes base ++ "/models/" ++ model ++ ":generateContent"

def isWebAddress (u : Url) : Bool := u.host.isSome && (u.scheme == "http" || u.scheme == "https")

/-- There is no request where the address is none of a web server. -/
def of? (base : String) (call : ProbeCall) : Option Request :=
  match Url.parse (address base call.model) with
  | .ok u => if isWebAddress u then some ⟨u.appendPair "key" call.key⟩ else none
  | .error _ => none

def target (r : Request) : String := r.url.pathText ++ Url.afterMark "?" r.url.query

end Request

/-- What became of a request. -/
inductive Delivery where
  | answered (status : Nat) (body : String) (milliseconds : Nat)
  | timedOut
  | notConnected
  | broken
deriving DecidableEq, Repr

abbrev Transport := Request → Delivery

def Transport.offline : Transport := fun _ => .notConnected

/-- How requests are sent when a channel says nothing of its own. -/
structure Sender where
  transport : Transport
  baseUrl : String := defaultBaseUrl
  timeoutSeconds : Nat := 10

namespace Sender

/-- At least one second. -/
def timeout (s : Sender) : Nat := max s.timeoutSeconds 1

def resultOf (s : Sender) (model : String) : Delivery → ProbeResult
  | .answered status body milliseconds => classify status body model milliseconds
  | .timedOut =>
    .failed .timeout ("Request timeout (" ++ toString s.timeout ++ "s)") (s.timeout * 1000)
  | .notConnected => .failed .connection "Connection error: error sending request" 0
  | .broken => .failed .unexpected "Unexpected error: error sending request" 0

def request? (s : Sender) (call : ProbeCall) : Option Request :=
  Request.of? (call.baseUrl.getD s.baseUrl) call

def prober (s : Sender) : Prober := fun call =>
  match s.request? call with
  | some r => s.resultOf call.model (s.transport r)
  | none => .failed .unexpected "Unexpected error: builder error" 0

end Sender

end ChannelKeeper.Gemini
