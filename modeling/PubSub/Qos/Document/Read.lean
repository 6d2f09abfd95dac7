import PubSub.Markup.Compose
import PubSub.Markup.Reading
import PubSub.Qos.Document

/-!
# Reading documents of profiles

`Document.read` takes a document of profiles from its marked-up text. Keys that are not known are
ignored, except that in the mapping of profiles every key is the name of a profile.
-/

namespace PubSub.Qos

open Markup

/-- A time bound from a mapping. -/
def readBoundEntry (tree : Tree) (node : Node) : Reading BoundEntry := do
  let fields ← tree.fields ["period_ms", "period_secs", "special"] node
  return {
    millis := ← tree.optionalField tree.unsigned fields "period_ms"
    seconds := ← tree.optionalField tree.unsigned fields "period_secs"
    keyword := ← tree.optionalField tree.text fields "special" }

/-- A history from a mapping. -/
def readHistoryEntry (tree : Tree) (node : Node) : Reading HistoryEntry := do
  let fields ← tree.fields ["kind", "depth"] node
  return {
    kind := ← tree.text (← fields "kind")
    depth := ← tree.optionalField tree.unsigned fields "depth" }

/-- A liveliness from a mapping. -/
def readLivelinessEntry (tree : Tree) (node : Node) : Reading LivelinessEntry := do
  let fields ← tree.fields ["kind", "lease", "lease_duration_ms", "lease_duration_secs"] node
  return {
    kind := ← tree.text (← fields "kind")
    lease := ← tree.optionalField (readBoundEntry tree) fields "lease"
    leaseMillis := ← tree.optionalField tree.unsigned fields "lease_duration_ms"
    leaseSeconds := ← tree.optionalField tree.unsigned fields "lease_duration_secs" }

/-- A profile from a mapping. -/
def readEntry (tree : Tree) (node : Node) : Reading Entry := do
  let fields ← tree.fields ["preset", "reliability", "durability", "history", "deadline",
    "lifespan", "liveliness", "avoid_ros_namespace_conventions"] node
  return {
    preset := ← tree.optionalField tree.text fields "preset"
    reliability := ← tree.optionalField tree.text fields "reliability"
    durability := ← tree.optionalField tree.text fields "durability"
    history := ← tree.optionalField (readHistoryEntry tree) fields "history"
    deadline := ← tree.optionalField (readBoundEntry tree) fields "deadline"
    lifespan := ← tree.optionalField (readBoundEntry tree) fields "lifespan"
    liveliness := ← tree.optionalField (readLivelinessEntry tree) fields "liveliness"
    avoidRosNamespaceConventions :=
      ← tree.optionalField tree.flag fields "avoid_ros_namespace_conventions" }

/-- Profiles by name from a mapping. Of profiles with the same name, the last one counts. -/
def readProfiles (tree : Tree) (node : Node) : Reading (Table String Entry) := do
  let entries ← (← tree.byKey node).mapM fun (name, node) => do
    return (name, ← readEntry tree node)
  return .ofList entries

/-- A document from a mapping. -/
def readDocument (tree : Tree) (node : Node) : Reading Document := do
  let fields ← tree.fields ["profiles", "default_profile"] node
  return {
    profiles := ← (fields "profiles").elim (pure .empty) (readProfiles tree)
    defaultProfile := ← tree.optionalField tree.text fields "default_profile" }

/-- The document of profiles that a text holds. -/
def Document.read (text : String) : Except Error Document :=
  match (parse text).bind fun tree => tree.read (readDocument tree) with
  | some document => .ok document
  | none => .error (.invalidArgument .malformedDocument)

/-- The contents of the files that can be read. -/
abbrev FileSystem := String → Option ByteArray

/-- The document of profiles in a file. -/
def Document.load (files : FileSystem) (path : String) : Except Error Document :=
  match files path with
  | none => .error (.failed (.unreadableFile path "No such file or directory (os error 2)"))
  | some bytes =>
    match String.fromUTF8? bytes with
    | none => .error (.failed (.unreadableFile path "stream did not contain valid UTF-8"))
    | some text => Document.read text

end PubSub.Qos
