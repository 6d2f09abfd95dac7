import PubSub.Qos.Policy

/-!
# Names of policies and their values

Each policy value has one canonical name, in lower case with underscores. A type with such names is
`Named`: it lists its values and no two of them share a name, so that reading a name and writing one
are inverse (`ofName?_eq_some_iff`). Reports write the same names with hyphens (`label`).
-/

namespace PubSub.Qos

/-- A finite type whose values have distinct names. -/
class Named (α : Type) where
  name : α → String
  all : List α
  mem_all : ∀ a, a ∈ all
  name_injective : ∀ a b, name a = name b → a = b

export Named (name)

section Named

variable {α : Type} [Named α]

/-- The value with this name. -/
def ofName? (text : String) : Option α :=
  (Named.all (α := α)).find? fun a => name a == text

theorem ofName?_eq_some_iff {text : String} {a : α} :
    (ofName? text : Option α) = some a ↔ name a = text := by
  constructor
  · intro h
    simpa using List.find?_some h
  · rintro rfl
    cases h : (ofName? (name a) : Option α) with
    | none =>
      have := List.find?_eq_none.1 h a (Named.mem_all a)
      simp at this
    | some b =>
      have hb : name b = name a := by simpa using List.find?_some h
      rw [Named.name_injective b a hb]

@[simp] theorem ofName?_name (a : α) : ofName? (name a) = some a :=
  ofName?_eq_some_iff.2 rfl

/-- The name as reports write it, with hyphens for underscores. -/
def label (a : α) : String :=
  (name a).map fun c => if c = '_' then '-' else c

end Named

/-- The names of the three markers; an exact value keeps its own. -/
def Setting.nameBy {α : Type} (exact : α → String) : Setting α → String
  | .systemDefault => "system_default"
  | .unknown => "unknown"
  | .bestAvailable => "best_available"
  | .exactly value => exact value

instance : Named History where
  name
    | .systemDefault => "system_default"
    | .keepLast => "keep_last"
    | .keepAll => "keep_all"
    | .unknown => "unknown"
  all := [.systemDefault, .keepLast, .keepAll, .unknown]
  mem_all a := by cases a <;> decide
  name_injective a b := by cases a <;> cases b <;> decide

instance : Named (Setting Reliability) where
  name := Setting.nameBy fun
    | .reliable => "reliable"
    | .bestEffort => "best_effort"
  all := [.systemDefault, .exactly .reliable, .exactly .bestEffort, .unknown, .bestAvailable]
  mem_all a := by rcases a with _ | _ | _ | (_ | _) <;> decide
  name_injective a b := by
    rcases a with _ | _ | _ | (_ | _) <;> rcases b with _ | _ | _ | (_ | _) <;> decide

instance : Named (Setting Durability) where
  name := Setting.nameBy fun
    | .transientLocal => "transient_local"
    | .volatile => "volatile"
  all := [.systemDefault, .exactly .transientLocal, .exactly .volatile, .unknown, .bestAvailable]
  mem_all a := by rcases a with _ | _ | _ | (_ | _) <;> decide
  name_injective a b := by
    rcases a with _ | _ | _ | (_ | _) <;> rcases b with _ | _ | _ | (_ | _) <;> decide

instance : Named (Setting Liveliness) where
  name := Setting.nameBy fun
    | .automatic => "automatic"
    | .manualByTopic => "manual_by_topic"
  all := [.systemDefault, .exactly .automatic, .exactly .manualByTopic, .unknown, .bestAvailable]
  mem_all a := by rcases a with _ | _ | _ | (_ | _) <;> decide
  name_injective a b := by
    rcases a with _ | _ | _ | (_ | _) <;> rcases b with _ | _ | _ | (_ | _) <;> decide

instance : Named PolicyKind where
  name
    | .durability => "durability"
    | .deadline => "deadline"
    | .liveliness => "liveliness"
    | .reliability => "reliability"
    | .history => "history"
    | .lifespan => "lifespan"
    | .depth => "depth"
    | .livelinessLease => "liveliness_lease_duration"
    | .avoidRosNamespaceConventions => "avoid_ros_namespace_conventions"
  all := [.durability, .deadline, .liveliness, .reliability, .history, .lifespan, .depth,
    .livelinessLease, .avoidRosNamespaceConventions]
  mem_all a := by cases a <;> decide
  name_injective a b := by cases a <;> cases b <;> decide

/-- A bound as reports write it: a marker, or whole milliseconds. -/
def Bound.label : Bound → String
  | .unspecified => "unspecified"
  | .infinite => "infinite"
  | .bestAvailable => "best-available"
  | .finite span => span.text

end PubSub.Qos
