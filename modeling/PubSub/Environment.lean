import PubSub.Error
import PubSub.Text.Character
import PubSub.Text.Numeral

/-!
# Configuration by environment variables

`Settings.read` takes the settings of a context from a lookup of environment variables. Blank values
count as absent; some variables have a fallback that is consulted only when they are absent.
-/

namespace PubSub

/-- How far discovery reaches. -/
inductive DiscoveryRange
  | systemDefault
  /-- No discovery beyond the static peers. -/
  | off
  | localhost
  | subnet
deriving DecidableEq, Repr

/-- The range with this name, in letters of either case. -/
def DiscoveryRange.ofName? (text : List Char) : Option DiscoveryRange :=
  match String.ofList (text.map Char.toLower) with
  | "system_default" => some .systemDefault
  | "off" => some .off
  | "localhost" => some .localhost
  | "subnet" => some .subnet
  | _ => none

/-- The highest domain id. -/
def maxDomainId : Nat := 232

/-- The number of slots of a wait set for any number of handles, unless configured otherwise. -/
def defaultSlotCapacity : Nat := 2048

/-- The settings of a context that the environment decides. -/
structure Settings where
  domainId : Nat
  enclave : String
  discoveryRange : DiscoveryRange
  discoveryPeers : List String
  /-- The initial number of slots of a wait set for any number of handles. -/
  waitSetCapacity : Nat
  logLevel : String
  qosProfilePath : Option String
deriving DecidableEq, Repr

namespace Settings

/-- The settings of an empty environment. -/
def standard : Settings where
  domainId := 0
  enclave := "/"
  discoveryRange := .systemDefault
  discoveryPeers := []
  waitSetCapacity := defaultSlotCapacity
  logLevel := "info"
  qosProfilePath := none

/-- Some setting differs from that of an empty environment. -/
def isCustom (settings : Settings) : Bool :=
  settings ≠ standard

def hasDiscoveryPeers (settings : Settings) : Bool :=
  !settings.discoveryPeers.isEmpty

end Settings

/-- The values of environment variables. -/
abbrev Environment := String → Option String

namespace Environment

variable (env : Environment)

/-- The value of a variable, unless it is blank. -/
def get (key : String) : Option String :=
  (env key).filter fun value => !Text.isBlankText value

/-- The first of two variables that has a value, with that value. -/
def getEither (key fallback : String) : Option (String × String) :=
  ((env.get key).map (key, ·)).or ((env.get fallback).map (fallback, ·))

/-- The domain id; the name of the variable in use stands in the error. -/
def domainId : Except Error Nat :=
  match env.getEither "HDDS_DOMAIN_ID" "ROS_DOMAIN_ID" with
  | none => .ok Settings.standard.domainId
  | some (key, text) =>
    match Text.unsigned? (UInt32.size - 1) (Text.trim text.toList) with
    | none => .error (.invalidArgument (.notANumber key text))
    | some id =>
      if maxDomainId < id then
        .error (.invalidArgument (.domainVariableTooLarge key id maxDomainId))
      else .ok id

def enclave : String :=
  match env.getEither "HDDS_ENCLAVE" "ROS_SECURITY_ENCLAVE" with
  | some (_, text) => text
  | none => Settings.standard.enclave

/-- The discovery range asked for by name. -/
def namedRange : Except Error DiscoveryRange :=
  match env.get "HDDS_DISCOVERY_RANGE" with
  | none => .ok Settings.standard.discoveryRange
  | some text =>
    match DiscoveryRange.ofName? (Text.trim text.toList) with
    | some range => .ok range
    | none => .error (.invalidArgument (.unknownRange "HDDS_DISCOVERY_RANGE" text))

/-- The text switches something on. -/
def isTruthy (text : List Char) : Bool :=
  text = ['1'] || text.map Char.toLower = "true".toList

/-- Discovery is restricted to this host. -/
def localhostOnly : Bool :=
  match env.getEither "HDDS_LOCALHOST_ONLY" "ROS_LOCALHOST_ONLY" with
  | some (_, text) => isTruthy (Text.trim text.toList)
  | none => false

/-- The static peers, set apart by commas. -/
def discoveryPeers : List String :=
  match env.getEither "HDDS_DISCOVERY_PEERS" "HDDS_INITIAL_PEERS" with
  | some (_, text) => (Text.fields ',' text.toList).map String.ofList
  | none => []

def waitSetCapacity : Except Error Nat :=
  match env.get "HDDS_WAITSET_CAPACITY" with
  | none => .ok Settings.standard.waitSetCapacity
  | some text =>
    match Text.unsigned? (UInt64.size - 1) (Text.trim text.toList) with
    | some (n + 1) => .ok (n + 1)
    | _ => .error (.invalidArgument (.notPositive "HDDS_WAITSET_CAPACITY" text))

end Environment

namespace Settings

/-- The settings that an environment asks for. The restriction to this host overrides a range asked
for by name, which has to be well-formed all the same. -/
def read (env : Environment) : Except Error Settings := do
  let domainId ← env.domainId
  let range ← env.namedRange
  let capacity ← env.waitSetCapacity
  return {
    domainId
    enclave := env.enclave
    discoveryRange := if env.localhostOnly then .localhost else range
    discoveryPeers := env.discoveryPeers
    waitSetCapacity := capacity
    logLevel := (env.get "HDDS_LOG_LEVEL").getD standard.logLevel
    qosProfilePath := env.get "HDDS_QOS_PROFILE_PATH" }

/-- The log level to export: one already exported stays. -/
def exportedLogLevel (settings : Settings) (exported : Option String) : String :=
  exported.getD settings.logLevel

end Settings

end PubSub
