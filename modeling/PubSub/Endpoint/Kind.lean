import PubSub.Qos.Resolution

/-!
# Kinds of endpoints

Publishers match subscriptions, and services match clients. For the choice of policies a service
offers, as a publisher does, and a client requests.
-/

namespace PubSub

/-- What an endpoint does. -/
inductive EndpointKind
  | publisher
  | subscription
  | service
  | client
deriving DecidableEq, Repr

namespace EndpointKind

/-- The endpoint belongs to a topic, and otherwise to a service. -/
def isTopic : EndpointKind → Bool
  | publisher | subscription => true
  | service | client => false

/-- The kind that this one matches. -/
def counterpart : EndpointKind → EndpointKind
  | publisher => subscription
  | subscription => publisher
  | service => client
  | client => service

/-- The side on which the endpoint stands. -/
def role : EndpointKind → Qos.Role
  | publisher | service => .publisher
  | subscription | client => .subscription

/-- The kind as messages name it. -/
def title : EndpointKind → String
  | publisher => "Publisher"
  | subscription => "Subscription"
  | service => "Service"
  | client => "Client"

/-- The kind with this title. -/
def ofTitle? (text : String) : Option EndpointKind :=
  [publisher, subscription, service, client].find? (·.title = text)

@[simp] theorem ofTitle?_title (kind : EndpointKind) : ofTitle? kind.title = some kind := by
  cases kind <;> rfl

@[simp] theorem counterpart_counterpart (kind : EndpointKind) :
    kind.counterpart.counterpart = kind := by
  cases kind <;> rfl

@[simp] theorem isTopic_counterpart (kind : EndpointKind) :
    kind.counterpart.isTopic = kind.isTopic := by
  cases kind <;> rfl

end EndpointKind

end PubSub
