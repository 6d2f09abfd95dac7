import PubSub.Qos.Profile

/-!
# Choosing the best available policies

An endpoint may leave policies to the moment of its creation. `resolve` then puts, for each of them,
the strictest value that suits every peer known at that moment; without peers a fallback profile
decides. Liveliness kinds have to agree exactly, so that mixed peers cannot all be suited: the kind
held by most of them wins, and automatic on a tie.
-/

namespace PubSub.Qos

/-- The side of a match for which policies are chosen. -/
inductive Role
  /-- The offering side, whose peers are subscriptions. -/
  | publisher
  /-- The requesting side, whose peers are publishers. -/
  | subscription
deriving DecidableEq, Repr

/-- A reliable offer serves every request; a request is reliable if every offer is. -/
def bestReliability (role : Role) (peers : List Profile) : Reliability :=
  match role with
  | .publisher => .reliable
  | .subscription =>
    if peers.all (·.reliability = .exactly .reliable) then .reliable else .bestEffort

/-- A transient-local offer serves every request; a request is so if every offer is. -/
def bestDurability (role : Role) (peers : List Profile) : Durability :=
  match role with
  | .publisher => .transientLocal
  | .subscription =>
    if peers.all (·.durability = .exactly .transientLocal) then .transientLocal else .volatile

/-- The number of peers with this kind of liveliness. -/
def countLiveliness (kind : Liveliness) (peers : List Profile) : Nat :=
  peers.countP (·.liveliness = .exactly kind)

/-- The kind that suits the peers, or most of them. -/
def bestLiveliness (role : Role) (peers : List Profile) : Liveliness :=
  let manual := countLiveliness .manualByTopic peers
  let automatic := countLiveliness .automatic peers
  let pickManual :=
    if 0 < manual ∧ 0 < automatic then decide (automatic < manual)
    else match role with
      | .publisher => decide (0 < manual)
      | .subscription => decide (manual = peers.length)
  if pickManual then .manualByTopic else .automatic

/-- Among the bounds of the peers, a publisher promises the tightest and a subscription asks for the
loosest; a publisher without a bound leaves nothing to ask for. -/
def bestBound (role : Role) (peers : List Bound) : Bound :=
  let spans := peers.filterMap Bound.span?
  let chosen := match role with
    | .publisher => spans.min?
    | .subscription => if peers.all Bound.isFinite then spans.max? else none
  match chosen with
  | some span => .finite span
  | none => .unspecified

/-- The bound chosen for the peers or, without peers, the fallback's, which has to be concrete. -/
def resolveBound (role : Role) (peers : List Bound) (fallback : Bound) : Bound :=
  if peers.isEmpty then
    if fallback.isBestAvailable then .unspecified else fallback
  else bestBound role peers

/-- The setting chosen for the peers or, without peers, the fallback's. -/
def resolveSetting {α : Type} (best : List Profile → α) (peers : List Profile)
    (fallback : Setting α) : Setting α → Setting α
  | .bestAvailable => if peers.isEmpty then fallback else .exactly (best peers)
  | setting => setting

/-- The profile with every policy chosen that was left open. -/
def resolve (profile : Profile) (role : Role) (peers : List Profile) (fallback : Profile) :
    Profile where
  history := profile.history
  depth := profile.depth
  reliability :=
    resolveSetting (bestReliability role) peers fallback.reliability profile.reliability
  durability := resolveSetting (bestDurability role) peers fallback.durability profile.durability
  deadline :=
    if profile.deadline.isBestAvailable then
      resolveBound role (peers.map (·.deadline)) fallback.deadline
    else profile.deadline
  lifespan := if profile.lifespan.isBestAvailable then fallback.lifespan else profile.lifespan
  liveliness := resolveSetting (bestLiveliness role) peers fallback.liveliness profile.liveliness
  livelinessLease :=
    if profile.livelinessLease.isBestAvailable then
      resolveBound role (peers.map (·.livelinessLease)) fallback.livelinessLease
    else profile.livelinessLease
  avoidRosNamespaceConventions := profile.avoidRosNamespaceConventions

end PubSub.Qos
