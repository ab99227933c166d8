import ChannelKeeper.Decimal.Layout
import ChannelKeeper.Probe.Summary

/-!
# Reports of a batch

The JSON report of a batch of channels and the text report of a batch of keys,
in which the working keys come first.
-/

namespace ChannelKeeper

open Json

def channelReport (time : String) (results : List ChannelTestResult) : String :=
  let successful := (results.filter (·.result.success)).length
  Value.pretty (.object [
    ("test_time", .string time),
    ("total_channels", .nat results.length),
    ("successful", .nat successful),
    ("failed", .nat (results.length - successful)),
    ("results", .array (results.map ChannelTestResult.toJson))])

namespace KeyReport

def entry (r : KeyTestResult) : String :=
  let channel := match r.source with
    | none => ""
    | some source =>
      "  channel: " ++ source.channelName ++ " (ID: " ++ toString source.channelId ++ ")\n"
  r.key ++ "\n" ++ channel ++ "  result: " ++ r.result.message ++ "\n  response time: " ++
    toString r.result.milliseconds ++ " ms\n"

def listing (title : String) (results : List KeyTestResult) : String :=
  title ++ " (" ++ toString results.length ++ ")\n" ++ Text.repeated '-' 60 ++ "\n" ++
    String.join (results.map entry)

def render (results : List KeyTestResult) (model time : String) : String :=
  let summary := TestSummary.ofRecords (results.map KeyTestResult.toRecord)
  "Gemini API key test results\n" ++
    "Test time: " ++ time ++ "\n" ++
    "Model: " ++ model ++ "\n" ++
    "Total: " ++ toString summary.total ++ ", valid: " ++ toString summary.successful ++
    ", invalid: " ++ toString summary.failed ++ ", success rate: " ++
    Decimal.fixed 1 summary.successRate ++ "%\n" ++
    Text.repeated '=' 60 ++ "\n\n" ++
    listing "VALID KEYS" (results.filter (·.result.success)) ++ "\n" ++
    listing "INVALID KEYS" (results.filter (!·.result.success))

end KeyReport

end ChannelKeeper
