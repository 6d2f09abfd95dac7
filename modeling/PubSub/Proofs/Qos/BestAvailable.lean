import PubSub.Qos.Compatibility
import PubSub.Qos.Resolution

/-!
# What is best available suits every peer

`resolve` chooses each policy by looking at the peers, and `check` compares two profiles policy by
policy; neither knows of the other.  Here they are brought together.  `Harmless` says that nothing
about a policy rules a match out, and `SuitsButLiveliness` that two profiles can clash in their
liveliness at most.  A profile that leaves everything open is resolved to one of that kind, on
either side and for every peer (`Profile.IsOpen.suits_publisher`,
`Profile.IsOpen.suits_subscription`).
-/

namespace PubSub.Qos

/-! ## Findings that rule nothing out -/

/-- What was found about a policy does not rule the match out. -/
def Harmless (found : Option Explanation) : Prop :=
  ∀ explanation, found = some explanation → explanation.severity = .warning

theorem Harmless.not_error {found : Option Explanation} (h : Harmless found)
    {explanation : Explanation} (hfound : found = some explanation) :
    explanation.severity ≠ .error := by
  rw [h explanation hfound]
  nofun

theorem exists_error_of_not_harmless {found : Option Explanation} (h : ¬ Harmless found) :
    ∃ explanation, found = some explanation ∧ explanation.severity = .error := by
  cases found with
  | none => exact absurd (fun _ hfound => nomatch hfound) h
  | some explanation =>
    refine ⟨explanation, rfl, ?_⟩
    cases hseverity : explanation.severity with
    | error => rfl
    | warning => exact absurd (fun _ hfound => Option.some.inj hfound ▸ hseverity) h

theorem harmless_explainReliability {offer request : Setting Reliability} :
    Harmless (explainReliability offer request) ↔
      ¬ (offer = .exactly .bestEffort ∧ request = .exactly .reliable) := by
  rcases offer with _ | _ | _ | (_ | _) <;> rcases request with _ | _ | _ | (_ | _) <;>
    simp [Harmless, explainReliability, Explanation.severity]

theorem harmless_explainDurability {offer request : Setting Durability} :
    Harmless (explainDurability offer request) ↔
      ¬ (offer = .exactly .volatile ∧ request = .exactly .transientLocal) := by
  rcases offer with _ | _ | _ | (_ | _) <;> rcases request with _ | _ | _ | (_ | _) <;>
    simp [Harmless, explainDurability, Explanation.severity]

theorem harmless_explainLiveliness {offer request : Setting Liveliness} :
    Harmless (explainLiveliness offer request) ↔
      offer.isUndetermined = true ∨ request.isUndetermined = true ∨ offer = request := by
  rcases offer with _ | _ | _ | (_ | _) <;> rcases request with _ | _ | _ | (_ | _) <;>
    simp [Harmless, explainLiveliness, Explanation.severity, Setting.isUndetermined]

/-- An offer that keeps within whatever is demanded. -/
theorem harmless_explainBound {offer request : Bound}
    (h : ∀ requested, request = .finite requested →
      ∃ offered, offer = .finite offered ∧ offered ≤ requested) :
    Harmless (explainBound offer request) := by
  intro explanation hfound
  unfold explainBound at hfound
  split at hfound
  · cases hfound
    rfl
  · split at hfound
    · split at hfound <;> cases hfound
      rfl
    · next requested hoffer hrequest =>
      obtain ⟨offered, rfl, -⟩ := h requested (Bound.span?_eq_some.1 hrequest)
      cases hoffer
    · next offered requested hoffer hrequest =>
      obtain ⟨offered', hoffered, hle⟩ := h requested (Bound.span?_eq_some.1 hrequest)
      rw [Bound.span?_eq_some.1 hoffer] at hoffered
      cases hoffered
      split at hfound
      · next hexceeds => exact absurd hexceeds (Nat.not_lt.2 hle)
      · cases hfound

/-! ## Clashes -/

/-- Two profiles clash if there is an error among the findings. -/
theorem clashes_iff {offer request : Profile} :
    Clashes offer request ↔ ∃ reason ∈ findings offer request, reason.severity = .error := by
  have herrors : (∃ reason ∈ findings offer request, reason.severity = .error) ↔
      (findings offer request).filter (·.severity = .error) ≠ [] := by
    simp [List.filter_eq_nil_iff]
  rw [herrors]
  unfold Clashes check
  dsimp only
  cases (findings offer request).filter (·.severity = .error) with
  | nil =>
    simp only [List.isEmpty_nil, Bool.not_true, Bool.false_eq_true, if_false, ne_eq, not_true,
      iff_false]
    split <;> nofun
  | cons reason rest => simp

/-- The policy that the report on a clash names first is that of an error. -/
theorem exists_firstPolicy {offer request : Profile} (h : Clashes offer request) :
    ∃ reason ∈ findings offer request, reason.severity = .error ∧
      (check offer request).firstPolicy = reason.policy := by
  obtain ⟨error, hmem, hsevere⟩ := clashes_iff.1 h
  have hmem : error ∈ (findings offer request).filter (·.severity = .error) :=
    List.mem_filter.2 ⟨hmem, decide_eq_true hsevere⟩
  unfold check Report.firstPolicy
  dsimp only
  cases herrors : (findings offer request).filter (·.severity = .error) with
  | nil =>
    rw [herrors] at hmem
    cases hmem
  | cons reason rest =>
    have hfirst : reason ∈ (findings offer request).filter (·.severity = .error) := by
      rw [herrors]
      exact List.mem_cons_self
    obtain ⟨hfirst, hsevere⟩ := List.mem_filter.1 hfirst
    exact ⟨reason, hfirst, of_decide_eq_true hsevere, rfl⟩

/-- Nothing but the liveliness can rule a match of the two profiles out. -/
structure SuitsButLiveliness (offer request : Profile) : Prop where
  reliability : Harmless (explainReliability offer.reliability request.reliability)
  durability : Harmless (explainDurability offer.durability request.durability)
  deadline : Harmless (explainBound offer.deadline request.deadline)
  livelinessLease : Harmless (explainBound offer.livelinessLease request.livelinessLease)

namespace SuitsButLiveliness

variable {offer request : Profile}

/-- The only errors are about liveliness. -/
theorem of_error (h : SuitsButLiveliness offer request) {reason : Reason}
    (hmem : reason ∈ findings offer request) (herror : reason.severity = .error) :
    reason.policy = .liveliness ∧
      explainLiveliness offer.liveliness request.liveliness = some reason.explanation := by
  have hsafe : ∀ {found : Option Explanation} {policy : PolicyKind}, Harmless found →
      found.map (Reason.mk policy) ≠ some reason := by
    intro found policy hharmless hfound
    obtain ⟨explanation, hexplanation, rfl⟩ := Option.map_eq_some_iff.1 hfound
    exact hharmless.not_error hexplanation herror
  obtain ⟨found, hfound, rfl⟩ := List.mem_filterMap.1 hmem
  simp only [List.mem_cons, List.not_mem_nil, or_false] at hfound
  rcases hfound with heq | heq | heq | heq | heq
  · exact absurd heq.symm (hsafe h.reliability)
  · exact absurd heq.symm (hsafe h.durability)
  · exact absurd heq.symm (hsafe h.deadline)
  · obtain ⟨explanation, hexplanation, rfl⟩ := Option.map_eq_some_iff.1 heq.symm
    exact ⟨rfl, hexplanation⟩
  · exact absurd heq.symm (hsafe h.livelinessLease)

theorem firstPolicy (h : SuitsButLiveliness offer request) (hclash : Clashes offer request) :
    (check offer request).firstPolicy = .liveliness := by
  obtain ⟨reason, hmem, herror, hfirst⟩ := exists_firstPolicy hclash
  rw [hfirst]
  exact (h.of_error hmem herror).1

/-- They clash exactly if each side has a kind of liveliness, and not the same. -/
theorem clashes_iff (h : SuitsButLiveliness offer request) :
    Clashes offer request ↔ ¬ (offer.liveliness.isUndetermined = true ∨
      request.liveliness.isUndetermined = true ∨ offer.liveliness = request.liveliness) := by
  rw [← harmless_explainLiveliness, Qos.clashes_iff]
  constructor
  · rintro ⟨reason, hmem, herror⟩ hharmless
    exact hharmless.not_error (h.of_error hmem herror).2 herror
  · intro hharmful
    obtain ⟨explanation, hfound, herror⟩ := exists_error_of_not_harmless hharmful
    refine ⟨⟨.liveliness, explanation⟩, List.mem_filterMap.2 ⟨_, ?_, rfl⟩, herror⟩
    simp [hfound]

end SuitsButLiveliness

/-! ## What is chosen -/

/-- Every policy that a peer can object to is left open. -/
structure Profile.IsOpen (profile : Profile) : Prop where
  reliability : profile.reliability = .bestAvailable
  durability : profile.durability = .bestAvailable
  deadline : profile.deadline = .bestAvailable
  liveliness : profile.liveliness = .bestAvailable
  livelinessLease : profile.livelinessLease = .bestAvailable

theorem isOpen_bestAvailable : Profile.bestAvailable.IsOpen := ⟨rfl, rfl, rfl, rfl, rfl⟩

/-- A setting that was left open is chosen to suit the peers. -/
theorem resolveSetting_of_mem {α : Type} {best : List Profile → α} {peers : List Profile}
    {peer : Profile} (hpeer : peer ∈ peers) (fallback : Setting α) :
    resolveSetting best peers fallback .bestAvailable = .exactly (best peers) := by
  cases peers with
  | nil => cases hpeer
  | cons first rest => rfl

theorem resolveBound_of_mem {bounds : List Bound} {bound : Bound} (hbound : bound ∈ bounds)
    (role : Role) (fallback : Bound) : resolveBound role bounds fallback = bestBound role bounds := by
  cases bounds with
  | nil => cases hbound
  | cons first rest => rfl

/-- A publisher promises no more than any of the subscriptions demands. -/
theorem bestBound_publisher_le {bounds : List Bound} {requested : Span}
    (hmem : .finite requested ∈ bounds) :
    ∃ offered, bestBound .publisher bounds = .finite offered ∧ offered ≤ requested := by
  have hspan : requested ∈ bounds.filterMap Bound.span? :=
    List.mem_filterMap.2 ⟨.finite requested, hmem, rfl⟩
  unfold bestBound
  dsimp only
  cases hmin : (bounds.filterMap Bound.span?).min? with
  | none =>
    rw [List.min?_eq_none_iff.1 hmin] at hspan
    cases hspan
  | some offered => exact ⟨offered, rfl, (List.min?_eq_some_iff.1 hmin).2 requested hspan⟩

/-- A subscription demands only what all publishers promise. -/
theorem le_bestBound_subscription {bounds : List Bound} {offer : Bound} {requested : Span}
    (hmem : offer ∈ bounds) (hbest : bestBound .subscription bounds = .finite requested) :
    ∃ offered, offer = .finite offered ∧ offered ≤ requested := by
  unfold bestBound at hbest
  dsimp only at hbest
  split at hbest
  · next span hchosen =>
    cases hbest
    split at hchosen
    · next hall =>
      have hfinite := List.all_eq_true.1 hall offer hmem
      cases offer with
      | finite offered =>
        have hspan : offered ∈ bounds.filterMap Bound.span? :=
          List.mem_filterMap.2 ⟨.finite offered, hmem, rfl⟩
        exact ⟨offered, rfl, (List.max?_eq_some_iff.1 hchosen).2 offered hspan⟩
      | unspecified | infinite | bestAvailable => cases hfinite
    · cases hchosen
  · cases hbest

namespace Profile.IsOpen

variable {profile peer : Profile} {peers : List Profile}

/-- An open liveliness becomes one of the two kinds. -/
theorem liveliness_resolve (h : profile.IsOpen) (hpeer : peer ∈ peers) (role : Role)
    (fallback : Profile) :
    (resolve profile role peers fallback).liveliness = .exactly (bestLiveliness role peers) := by
  unfold resolve
  dsimp only
  rw [h.liveliness, resolveSetting_of_mem hpeer]

/-- What a publisher offers suits every subscription that it was chosen for. -/
theorem suits_publisher (h : profile.IsOpen) (hpeer : peer ∈ peers) (fallback : Profile) :
    SuitsButLiveliness (resolve profile .publisher peers fallback) peer where
  reliability := by
    rw [harmless_explainReliability]
    unfold resolve
    rw [h.reliability, resolveSetting_of_mem hpeer]
    nofun
  durability := by
    rw [harmless_explainDurability]
    unfold resolve
    rw [h.durability, resolveSetting_of_mem hpeer]
    nofun
  deadline := by
    have hmem : peer.deadline ∈ peers.map (·.deadline) := List.mem_map_of_mem hpeer
    apply harmless_explainBound
    intro requested hrequested
    unfold resolve
    rw [h.deadline, resolveBound_of_mem hmem]
    exact bestBound_publisher_le (hrequested ▸ hmem)
  livelinessLease := by
    have hmem : peer.livelinessLease ∈ peers.map (·.livelinessLease) := List.mem_map_of_mem hpeer
    apply harmless_explainBound
    intro requested hrequested
    unfold resolve
    rw [h.livelinessLease, resolveBound_of_mem hmem]
    exact bestBound_publisher_le (hrequested ▸ hmem)

/-- What a subscription requests is served by every publisher that it was chosen for. -/
theorem suits_subscription (h : profile.IsOpen) (hpeer : peer ∈ peers) (fallback : Profile) :
    SuitsButLiveliness peer (resolve profile .subscription peers fallback) where
  reliability := by
    rw [harmless_explainReliability]
    unfold resolve bestReliability
    rw [h.reliability, resolveSetting_of_mem hpeer]
    rintro ⟨hoffer, hrequest⟩
    dsimp only at hrequest
    split at hrequest
    · next hall =>
      have hreliable := of_decide_eq_true (List.all_eq_true.1 hall peer hpeer)
      rw [hoffer] at hreliable
      cases hreliable
    · cases hrequest
  durability := by
    rw [harmless_explainDurability]
    unfold resolve bestDurability
    rw [h.durability, resolveSetting_of_mem hpeer]
    rintro ⟨hoffer, hrequest⟩
    dsimp only at hrequest
    split at hrequest
    · next hall =>
      have hlasting := of_decide_eq_true (List.all_eq_true.1 hall peer hpeer)
      rw [hoffer] at hlasting
      cases hlasting
    · cases hrequest
  deadline := by
    have hmem : peer.deadline ∈ peers.map (·.deadline) := List.mem_map_of_mem hpeer
    apply harmless_explainBound
    intro requested hrequested
    unfold resolve at hrequested
    rw [h.deadline] at hrequested
    exact le_bestBound_subscription hmem ((resolveBound_of_mem hmem ..).symm.trans hrequested)
  livelinessLease := by
    have hmem : peer.livelinessLease ∈ peers.map (·.livelinessLease) := List.mem_map_of_mem hpeer
    apply harmless_explainBound
    intro requested hrequested
    unfold resolve at hrequested
    rw [h.livelinessLease] at hrequested
    exact le_bestBound_subscription hmem ((resolveBound_of_mem hmem ..).symm.trans hrequested)

end Profile.IsOpen

end PubSub.Qos
