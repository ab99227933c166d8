/-!
# Status and type codes

A channel's status and type are stored as numbers. Every number has a display
name; one without a name of its own is shown with the number.
-/

namespace ChannelKeeper

inductive ChannelStatus where
  | unknown
  | enabled
  | manuallyDisabled
  | autoDisabled
  | other (code : Int)
deriving DecidableEq, Repr

namespace ChannelStatus

def ofCode (code : Int) : ChannelStatus :=
  if code = 0 then .unknown
  else if code = 1 then .enabled
  else if code = 2 then .manuallyDisabled
  else if code = 3 then .autoDisabled
  else .other code

def code : ChannelStatus → Int
  | .unknown => 0
  | .enabled => 1
  | .manuallyDisabled => 2
  | .autoDisabled => 3
  | .other code => code

theorem code_ofCode (n : Int) : (ofCode n).code = n := by
  unfold ofCode
  repeat' split
  all_goals simp_all [code]

def name : ChannelStatus → String
  | .unknown => "Unknown"
  | .enabled => "Enabled"
  | .manuallyDisabled => "Manually Disabled"
  | .autoDisabled => "Auto Disabled"
  | .other code => "Unknown (" ++ toString code ++ ")"

end ChannelStatus

def statusName (code : Int) : String := (ChannelStatus.ofCode code).name

namespace ChannelType

/-- The names of the types 1, 2, 3, … in order. -/
def names : List String :=
  ["OpenAI", "API2D", "Azure", "CloseAI", "CloseAI-SB", "OpenSB", "AI-LS", "AI-LS2", "AI-LS3",
    "AI360", "PaLM", "Baidu", "Zhipu", "Ali", "Xunfei", "AI-Proxy", "OpenRouter", "AI-LB",
    "Replicate", "Midjourney", "Anthropic", "AWS", "Cohere", "Custom", "Gemini", "Moonshot",
    "Baichuan", "Minimax", "DeepSeek", "Groq", "Ollama", "PerplexityAI", "Cloudflare",
    "Lingyiwanwu", "Doubao", "Tencent", "Dify", "Vertex", "Coze", "Jina", "Mistral",
    "Siliconflow", "Xinference", "MidjourneyPlus", "Suno", "Jimeng", "Mokaai", "Kling", "XAI"]

def name? : Int → Option String
  | .ofNat (n + 1) => names[n]?
  | _ => none

def name (code : Int) : String := (name? code).getD ("Unknown (" ++ toString code ++ ")")

end ChannelType

end ChannelKeeper
