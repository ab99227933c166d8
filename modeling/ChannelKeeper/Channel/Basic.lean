import ChannelKeeper.Channel.Status
import ChannelKeeper.Credential
import ChannelKeeper.Json.Value

/-!
# Channels

One row of the gateway's `channels` table: where requests are sent, with which
credentials, and for which models. A filter selects rows by id, type and status;
a criterion that is not given, and an empty list of types, selects every row.
-/

namespace ChannelKeeper

structure Channel where
  id : Int := 0
  kind : Int := 0
  /-- Credentials, one to a line. -/
  key : String := ""
  organization : Option String := none
  testModel : Option String := none
  status : Int := 0
  name : String := ""
  weight : Option Int := none
  createdTime : Int := 0
  testTime : Int := 0
  responseTime : Int := 0
  baseUrl : Option String := none
  other : String := ""
  balance : Binary64 := .zero
  balanceUpdatedTime : Int := 0
  /-- Model names, separated by commas. -/
  models : String := ""
  group : String := ""
  usedQuota : Int := 0
  modelMapping : Option String := none
  statusCodeMapping : Option String := none
  priority : Option Int := none
  autoBan : Option Int := none
  otherInfo : String := ""
  tag : Option String := none
  setting : Option String := none
  paramOverride : Option String := none
  info : Json.Value := .null

namespace Channel

instance : Inhabited Channel := ⟨{}⟩

def keys (c : Channel) : List String := Credential.entries c.key

/-- The plain keys, which can be tested. -/
def plainKeys (c : Channel) : List String := c.keys.filter Credential.isPlain

def modelList (c : Channel) : List String :=
  ((Text.splitOn ',' c.models).map Text.trim).filter (· ≠ "")

def ownBaseUrl (c : Channel) : Option String :=
  c.baseUrl.filter fun url => !Text.isBlankText url

def statusName (c : Channel) : String := ChannelKeeper.statusName c.status

def typeName (c : Channel) : String := ChannelType.name c.kind

def hideSecret (secret : String) : String :=
  if secret.isEmpty then secret else Credential.masked secret

def masked (c : Channel) : Channel :=
  { c with key := hideSecret c.key, other := hideSecret c.other }

end Channel

structure ChannelFilter where
  id : Option Int := none
  types : List Int := []
  status : Option Int := none
deriving DecidableEq, Repr

namespace ChannelFilter

def everything : ChannelFilter := {}

def selects (f : ChannelFilter) (c : Channel) : Bool :=
  f.id.all (c.id == ·) && (f.types.isEmpty || f.types.contains c.kind) && f.status.all (c.status == ·)

end ChannelFilter

end ChannelKeeper
