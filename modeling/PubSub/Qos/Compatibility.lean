import PubSub.Qos.Name
import PubSub.Qos.Profile

/-!
# Compatibility of an offer with a request

A publisher offers a profile and a subscription requests one. `check` compares them policy by policy:

* reliability: best effort does not serve a request for reliable;
* durability: volatile does not serve a request for transient-local;
* liveliness: two exact kinds have to agree;
* deadline and lease: the offered bound may not exceed the requested one, and an offer without a
  bound serves no request for one.

A policy that is not exact only raises a doubt where it could hide a clash. History, depth and
lifespan concern each side on its own.
-/

namespace PubSub.Qos

/-- Whether a reason rules the match out or only casts doubt on it. -/
inductive Severity
  | error
  | warning
deriving DecidableEq, Repr

/-- What was found about one policy. -/
inductive Explanation
  | bestEffortOffer
  | volatileOffer
  | livelinessDiffers (offer request : Liveliness)
  | noOfferedBound (requested : Span)
  | boundExceeded (offered requested : Span)
  /-- The values as written; one of them is not exact. -/
  | undetermined (offer request : String)
  /-- No bound on either side, but by different markers. -/
  | differentMarkers (offer request : Bound)
deriving DecidableEq, Repr

namespace Explanation

def severity : Explanation → Severity
  | bestEffortOffer | volatileOffer | livelinessDiffers .. | noOfferedBound _ | boundExceeded .. =>
    .error
  | undetermined .. | differentMarkers .. => .warning

/-- The wording of the explanation. -/
def text : Explanation → String
  | bestEffortOffer => "offer is best-effort but request requires reliable"
  | volatileOffer => "offer is volatile but request requires transient-local"
  | livelinessDiffers offer request =>
    let offered := label (Setting.exactly offer)
    let requested := label (Setting.exactly request)
    s!"offer liveliness is {offered} but request requires {requested}"
  | noOfferedBound requested => s!"request requires {requested.text} but offer has no bound"
  | boundExceeded offered requested => s!"offer {offered.text} exceeds request {requested.text}"
  | undetermined offer request =>
    s!"cannot determine compatibility: offer is {offer} and request is {request}"
  | differentMarkers offer request => s!"offer is {offer.label} and request is {request.label}"

end Explanation

/-- An entry of a report. -/
structure Reason where
  policy : PolicyKind
  explanation : Explanation
deriving DecidableEq, Repr

namespace Reason

def severity (reason : Reason) : Severity := reason.explanation.severity

/-- The entry on one line. -/
def text (reason : Reason) : String :=
  let tag := match reason.severity with
    | .error => "ERROR"
    | .warning => "WARNING"
  s!"{tag}: {name reason.policy}: {reason.explanation.text}"

end Reason

/-- What there is to say about an offered and a requested reliability. -/
def explainReliability (offer request : Setting Reliability) : Option Explanation :=
  match offer, request with
  | _, .exactly .bestEffort => none
  | .exactly .bestEffort, .exactly .reliable => some .bestEffortOffer
  | .exactly .reliable, .exactly .reliable => none
  | _, _ => some (.undetermined (label offer) (label request))

/-- What there is to say about an offered and a requested durability. -/
def explainDurability (offer request : Setting Durability) : Option Explanation :=
  match offer, request with
  | _, .exactly .volatile => none
  | .exactly .volatile, .exactly .transientLocal => some .volatileOffer
  | .exactly .transientLocal, .exactly .transientLocal => none
  | _, _ => some (.undetermined (label offer) (label request))

/-- What there is to say about an offered and a requested liveliness. A kind left open clashes at
most with manual-by-topic, since the defaults are automatic. -/
def explainLiveliness (offer request : Setting Liveliness) : Option Explanation :=
  match offer, request with
  | .exactly a, .exactly b => if a = b then none else some (.livelinessDiffers a b)
  | .exactly .manualByTopic, _ | _, .exactly .manualByTopic =>
    some (.undetermined (label offer) (label request))
  | _, _ => none

/-- What there is to say about an offered and a requested bound. -/
def explainBound (offer request : Bound) : Option Explanation :=
  if offer.isBestAvailable || request.isBestAvailable then
    some (.undetermined offer.label request.label)
  else match offer.span?, request.span? with
    | _, none =>
      if !offer.isFinite && offer ≠ request then some (.differentMarkers offer request) else none
    | none, some requested => some (.noOfferedBound requested)
    | some offered, some requested =>
      if requested < offered then some (.boundExceeded offered requested) else none

/-- The findings in the order of the policies: reliability, durability, deadline, liveliness and
lease. -/
def findings (offer request : Profile) : List Reason :=
  [ (explainReliability offer.reliability request.reliability).map (Reason.mk .reliability),
    (explainDurability offer.durability request.durability).map (Reason.mk .durability),
    (explainBound offer.deadline request.deadline).map (Reason.mk .deadline),
    (explainLiveliness offer.liveliness request.liveliness).map (Reason.mk .liveliness),
    (explainBound offer.livelinessLease request.livelinessLease).map
      (Reason.mk .livelinessLease) ].filterMap id

/-- The overall verdict. -/
inductive Compatibility
  | compatible
  /-- No clash, as far as can be told. -/
  | warning
  | incompatible
deriving DecidableEq, Repr

/-- A verdict with its reasons. -/
structure Report where
  verdict : Compatibility
  reasons : List Reason
deriving DecidableEq, Repr

/-- Whether the offer serves the request, and why not: errors first, then warnings. -/
def check (offer request : Profile) : Report :=
  let found := findings offer request
  let errors := found.filter (·.severity = .error)
  let warnings := found.filter (·.severity = .warning)
  { verdict :=
      if !errors.isEmpty then .incompatible
      else if !warnings.isEmpty then .warning
      else .compatible
    reasons := errors ++ warnings }

/-- The offer cannot serve the request. -/
def Clashes (offer request : Profile) : Prop :=
  (check offer request).verdict = .incompatible

instance (offer request : Profile) : Decidable (Clashes offer request) :=
  inferInstanceAs (Decidable (_ = _))

/-- The policy named by the first reason of a report. -/
def Report.firstPolicy (report : Report) : PolicyKind :=
  match report.reasons with
  | reason :: _ => reason.policy
  | [] => .reliability

end PubSub.Qos
