import PubSub.Qos.Name
import PubSub.Qos.Profile
import PubSub.Table
import PubSub.Text.Character

/-!
# Documents of named profiles

A `Document` holds named profile entries as they are written: words and numbers, most of them
optional. `Entry.toProfile` starts from a preset and overrides what the entry states; words may be in
letters of either case. The result is always a valid profile.
-/

namespace PubSub.Qos

/-- A written time bound. A keyword counts before milliseconds, and these before seconds. -/
structure BoundEntry where
  millis : Option Nat
  seconds : Option Nat
  keyword : Option String
deriving DecidableEq, Repr

/-- A written history. -/
structure HistoryEntry where
  kind : String
  depth : Option Nat
deriving DecidableEq, Repr

/-- A written liveliness. A lease block counts before the lease in milliseconds, and that before the
lease in seconds. -/
structure LivelinessEntry where
  kind : String
  lease : Option BoundEntry
  leaseMillis : Option Nat
  leaseSeconds : Option Nat
deriving DecidableEq, Repr

/-- A written profile. -/
structure Entry where
  preset : Option String
  reliability : Option String
  durability : Option String
  history : Option HistoryEntry
  deadline : Option BoundEntry
  lifespan : Option BoundEntry
  liveliness : Option LivelinessEntry
  avoidRosNamespaceConventions : Option Bool
deriving DecidableEq, Repr

/-- Profile entries by name, and the name of the default one. -/
structure Document where
  profiles : Table String Entry
  defaultProfile : Option String

/-- The value that a word names, in letters of either case. -/
def readWord {α : Type} [Named α] (field word : String) : Except Error α :=
  match ofName? (Text.lower word) with
  | some value => .ok value
  | none => .error (.invalidArgument (.unknownWord field word))

/-- The value of an optional word, or else the former value. -/
def overrideWord {α : Type} [Named α] (field : String) (former : α) :
    Option String → Except Error α
  | some word => readWord field word
  | none => .ok former

/-- The preset that a word names, in letters of either case. -/
def readPreset (word : String) : Except Error Profile :=
  match Text.lower word with
  | "default" => .ok .standard
  | "sensor_data" => .ok .sensorData
  | "parameters" => .ok .parameters
  | "services_default" => .ok .services
  | "parameter_events" => .ok .parameterEvents
  | "system_default" => .ok .systemDefault
  | "best_available" => .ok .bestAvailable
  | other => .error (.invalidArgument (.unknownPreset other))

/-- The bound that a keyword names, in letters of either case. -/
def readBoundKeyword (word : String) : Except Error Bound :=
  match Text.lower word with
  | "infinite" => .ok .infinite
  | "best_available" => .ok .bestAvailable
  | "system_default" => .ok .unspecified
  | other => .error (.invalidArgument (.unknownWord "duration keyword" other))

namespace BoundEntry

/-- The bound of an entry; an empty one leaves it unspecified. -/
def toBound (entry : BoundEntry) : Except Error Bound :=
  match entry.keyword, entry.millis, entry.seconds with
  | some word, _, _ => readBoundKeyword word
  | none, some ms, _ => .ok (.ofMillis ms)
  | none, none, some s => .ok (.ofSeconds s)
  | none, none, none => .ok .unspecified

end BoundEntry

/-- The bound of an optional entry, or else the former bound. -/
def overrideBound (former : Bound) : Option BoundEntry → Except Error Bound
  | some entry => entry.toBound
  | none => .ok former

/-- The lease of a liveliness entry, or else the former one. -/
def LivelinessEntry.toLease (entry : LivelinessEntry) (former : Bound) : Except Error Bound :=
  match entry.lease, entry.leaseMillis, entry.leaseSeconds with
  | some lease, _, _ => lease.toBound
  | none, some ms, _ => .ok (.ofMillis ms)
  | none, none, some s => .ok (.ofSeconds s)
  | none, none, none => .ok former

namespace Entry

/-- The profile before it is validated. -/
def toUncheckedProfile (entry : Entry) : Except Error Profile := do
  let base ← match entry.preset with
    | some word => readPreset word
    | none => .ok .standard
  let reliability ← overrideWord "reliability" base.reliability entry.reliability
  let durability ← overrideWord "durability" base.durability entry.durability
  let history ← overrideWord "history kind" base.history (entry.history.map (·.kind))
  let deadline ← overrideBound base.deadline entry.deadline
  let lifespan ← overrideBound base.lifespan entry.lifespan
  let liveliness ← overrideWord "liveliness kind" base.liveliness (entry.liveliness.map (·.kind))
  let livelinessLease ← match entry.liveliness with
    | some liveliness => liveliness.toLease base.livelinessLease
    | none => .ok base.livelinessLease
  return {
    history
    depth := (entry.history.bind (·.depth)).getD base.depth
    reliability
    durability
    deadline
    lifespan
    liveliness
    livelinessLease
    avoidRosNamespaceConventions :=
      entry.avoidRosNamespaceConventions.getD base.avoidRosNamespaceConventions }

/-- The profile that the entry describes. -/
def toProfile (entry : Entry) : Except Error Profile := do
  let profile ← entry.toUncheckedProfile
  profile.validate
  return profile

/-- An entry describes a profile if it reads as that profile and this is valid. -/
theorem toProfile_eq_ok_iff {entry : Entry} {profile : Profile} :
    entry.toProfile = .ok profile ↔
      entry.toUncheckedProfile = .ok profile ∧ profile.validate = .ok () := by
  rw [toProfile]
  simp only [bind_eq_ok_iff]
  constructor
  · rintro ⟨unchecked, hunchecked, _, hvalid, heq⟩
    cases heq
    exact ⟨hunchecked, hvalid⟩
  · rintro ⟨hunchecked, hvalid⟩
    exact ⟨profile, hunchecked, (), hvalid, rfl⟩

/-- What an entry describes is valid. -/
theorem validate_of_toProfile {entry : Entry} {profile : Profile}
    (h : entry.toProfile = .ok profile) : profile.validate = .ok () :=
  (toProfile_eq_ok_iff.1 h).2

end Entry

namespace Document

/-- The profile with this name. -/
def profile (document : Document) (name : String) : Except Error Profile :=
  match document.profiles.find? name with
  | some entry => entry.toProfile
  | none => .error (.invalidArgument (.unknownProfile name))

/-- The profile named as the default, else the only one, else the standard profile. -/
def default (document : Document) : Except Error Profile :=
  match document.defaultProfile with
  | some name => document.profile name
  | none =>
    match document.profiles.values with
    | [] => .ok .standard
    | [entry] => entry.toProfile
    | _ => .error (.invalidArgument .noDefaultProfile)

/-- The profile with this name; no name stands for the default. -/
def select (document : Document) (name : String) : Except Error Profile :=
  if name.isEmpty then document.default else document.profile name

end Document

end PubSub.Qos
