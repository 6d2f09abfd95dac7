import PubSub.Proofs.Qos.Report

/-!
# Chosen bounds are the limit of what the peers accept

Where a deadline or a lease is left open, `resolve` chooses it from the bounds of the peers.  A
publisher gets the longest bound that it can offer to all subscriptions (`TightestOffer`), and a
subscription the shortest that it can request of all publishers (`LoosestRequest`); no bound at all is
chosen exactly if nothing or everything would be refused.  `Profile.bound_resolve` says so for both
policies, where `Passes` is the verdict of the check on a bound.
-/

namespace PubSub.Qos

/-- A policy whose value is a bound that peers can object to. -/
inductive BoundPolicy
  | deadline
  | livelinessLease
deriving DecidableEq, Repr

/-- The bound that a profile sets for the policy. -/
def Profile.bound (profile : Profile) : BoundPolicy → Bound
  | .deadline => profile.deadline
  | .livelinessLease => profile.livelinessLease

/-- No peer's bound rules out a match with an endpoint that is on this side and has this bound. -/
def Passes (role : Role) (bound : Bound) (peers : List Bound) : Prop :=
  match role with
  | .publisher => ∀ peer ∈ peers, Harmless (explainBound bound peer)
  | .subscription => ∀ peer ∈ peers, Harmless (explainBound peer bound)

/-! ## What the peers accept -/

section

variable {peers : List Bound}

theorem passes_publisher_finite_iff {offered : Span} :
    Passes .publisher (.finite offered) peers ↔
      ∀ requested, .finite requested ∈ peers → offered ≤ requested := by
  simp only [Passes, harmless_explainBound_iff, Bound.FallsShort]
  constructor
  · intro h requested hmem
    have hfits := h _ hmem
    simp at hfits
    exact hfits
  · rintro h peer hmem ⟨requested, rfl, hexceeds⟩
    simp at hexceeds
    exact absurd (h requested hmem) (Nat.not_le.2 hexceeds)

/-- Without a bound among the peers every offer is accepted. -/
theorem passes_publisher_of_unbounded (h : ∀ requested, .finite requested ∉ peers) (offer : Bound) :
    Passes .publisher offer peers := by
  intro peer hmem
  rw [harmless_explainBound_iff]
  rintro ⟨requested, rfl, -⟩
  exact h requested hmem

theorem passes_subscription_finite_iff {requested : Span} (hset : .bestAvailable ∉ peers) :
    Passes .subscription (.finite requested) peers ↔
      ∀ peer ∈ peers, ∃ offered, peer = .finite offered ∧ offered ≤ requested := by
  simp only [Passes, harmless_explainBound_iff, Bound.FallsShort]
  apply forall₂_congr
  intro peer hmem
  cases peer with
  | unspecified | infinite => simp
  | bestAvailable => exact absurd hmem hset
  | finite offered => simp

/-- Nobody objects to a request without a bound. -/
theorem passes_subscription_unspecified : Passes .subscription .unspecified peers := by
  intro peer _
  rw [harmless_explainBound_iff]
  rintro ⟨requested, hrequest, -⟩
  cases hrequest

/-! ## What is chosen -/

theorem mem_spans_iff {span : Span} : span ∈ peers.filterMap Bound.span? ↔ .finite span ∈ peers := by
  simp [List.mem_filterMap]

/-- A publisher is given the least of the bounds. -/
theorem bestBound_publisher_of_mem {span : Span} (h : .finite span ∈ peers) :
    ∃ least, bestBound .publisher peers = .finite least ∧ .finite least ∈ peers ∧
      ∀ requested, .finite requested ∈ peers → least ≤ requested := by
  unfold bestBound
  dsimp only
  cases hmin : (peers.filterMap Bound.span?).min? with
  | none =>
    rw [List.min?_eq_none_iff] at hmin
    have hspan := mem_spans_iff.2 h
    rw [hmin] at hspan
    cases hspan
  | some least =>
    obtain ⟨hmem, hle⟩ := List.min?_eq_some_iff.1 hmin
    exact ⟨least, rfl, mem_spans_iff.1 hmem, fun requested hr => hle _ (mem_spans_iff.2 hr)⟩

theorem bestBound_publisher_of_unbounded (h : ∀ span, .finite span ∉ peers) :
    bestBound .publisher peers = .unspecified := by
  have hspans : peers.filterMap Bound.span? = [] := by
    rw [List.eq_nil_iff_forall_not_mem]
    intro span hmem
    exact h span (mem_spans_iff.1 hmem)
  unfold bestBound
  rw [hspans]
  rfl

theorem all_isFinite_iff :
    peers.all Bound.isFinite = true ↔ ∀ peer ∈ peers, ∃ span, peer = .finite span := by
  rw [List.all_eq_true]
  apply forall₂_congr
  intro peer _
  cases peer <;> simp [Bound.isFinite]

/-- A subscription is given the greatest of the bounds, if all peers have one. -/
theorem bestBound_subscription_of_finite (hpeers : peers ≠ [])
    (h : ∀ peer ∈ peers, ∃ span, peer = .finite span) :
    ∃ greatest, bestBound .subscription peers = .finite greatest ∧ .finite greatest ∈ peers ∧
      ∀ offered, .finite offered ∈ peers → offered ≤ greatest := by
  unfold bestBound
  dsimp only
  rw [if_pos (all_isFinite_iff.2 h)]
  cases hmax : (peers.filterMap Bound.span?).max? with
  | none =>
    rw [List.max?_eq_none_iff] at hmax
    obtain ⟨peer, hpeer⟩ := List.exists_mem_of_ne_nil peers hpeers
    obtain ⟨span, rfl⟩ := h peer hpeer
    have hspan := mem_spans_iff.2 hpeer
    rw [hmax] at hspan
    cases hspan
  | some greatest =>
    obtain ⟨hmem, hle⟩ := List.max?_eq_some_iff.1 hmax
    exact ⟨greatest, rfl, mem_spans_iff.1 hmem, fun offered ho => hle _ (mem_spans_iff.2 ho)⟩

theorem bestBound_subscription_of_unbounded
    (h : ¬ ∀ peer ∈ peers, ∃ span, peer = .finite span) :
    bestBound .subscription peers = .unspecified := by
  unfold bestBound
  dsimp only
  rw [if_neg (mt all_isFinite_iff.1 h)]

end

/-! ## The limit -/

/-- The bound that a publisher is given is the longest that all subscriptions accept; it has none
only if there is no bound to keep. -/
structure TightestOffer (peers : List Bound) (chosen : Bound) : Prop where
  of_bounded : (∃ span, .finite span ∈ peers) →
    ∃ least, chosen = .finite least ∧
      ∀ span, Passes .publisher (.finite span) peers ↔ span ≤ least
  of_unbounded : (¬ ∃ span, .finite span ∈ peers) →
    chosen = .unspecified ∧ ∀ offer, Passes .publisher offer peers

/-- The bound that a subscription is given is the shortest that all publishers keep; it has none only
if some publisher keeps none. -/
structure LoosestRequest (peers : List Bound) (chosen : Bound) : Prop where
  of_bounded : (∀ peer ∈ peers, ∃ span, peer = .finite span) →
    ∃ greatest, chosen = .finite greatest ∧
      ∀ span, Passes .subscription (.finite span) peers ↔ greatest ≤ span
  of_unbounded : (¬ ∀ peer ∈ peers, ∃ span, peer = .finite span) →
    chosen = .unspecified ∧ Passes .subscription .unspecified peers ∧
      ∀ span, ¬ Passes .subscription (.finite span) peers

theorem tightestOffer_bestBound (peers : List Bound) :
    TightestOffer peers (bestBound .publisher peers) where
  of_bounded := by
    rintro ⟨span, hspan⟩
    obtain ⟨least, hbest, hmem, hle⟩ := bestBound_publisher_of_mem hspan
    refine ⟨least, hbest, fun offered => ?_⟩
    rw [passes_publisher_finite_iff]
    constructor
    · intro hpasses
      exact hpasses least hmem
    · intro hoffered requested hrequested
      exact Nat.le_trans hoffered (hle requested hrequested)
  of_unbounded hnone := by
    rw [not_exists] at hnone
    exact ⟨bestBound_publisher_of_unbounded hnone, passes_publisher_of_unbounded hnone⟩

theorem loosestRequest_bestBound {peers : List Bound} (hpeers : peers ≠ [])
    (hset : .bestAvailable ∉ peers) : LoosestRequest peers (bestBound .subscription peers) where
  of_bounded hfinite := by
    obtain ⟨greatest, hbest, hmem, hle⟩ := bestBound_subscription_of_finite hpeers hfinite
    refine ⟨greatest, hbest, fun requested => ?_⟩
    rw [passes_subscription_finite_iff hset]
    constructor
    · intro hpasses
      obtain ⟨offered, heq, hoffered⟩ := hpasses _ hmem
      cases heq
      exact hoffered
    · intro hrequested peer hpeer
      obtain ⟨offered, rfl⟩ := hfinite peer hpeer
      exact ⟨offered, rfl, Nat.le_trans (hle offered hpeer) hrequested⟩
  of_unbounded hnot := by
    refine ⟨bestBound_subscription_of_unbounded hnot, passes_subscription_unspecified, ?_⟩
    intro requested hpasses
    rw [passes_subscription_finite_iff hset] at hpasses
    apply hnot
    intro peer hpeer
    obtain ⟨offered, heq, -⟩ := hpasses peer hpeer
    exact ⟨offered, heq⟩

/-- A bound that was left open is chosen from those of the peers. -/
theorem Profile.bound_resolve_eq {profile : Profile} {peers : List Profile} {policy : BoundPolicy}
    (hopen : profile.bound policy = .bestAvailable) (hpeers : peers ≠ []) (role : Role)
    (fallback : Profile) :
    (resolve profile role peers fallback).bound policy =
      bestBound role (peers.map (·.bound policy)) := by
  obtain ⟨peer, hpeer⟩ := List.exists_mem_of_ne_nil peers hpeers
  have hmem : peer.bound policy ∈ peers.map (·.bound policy) := List.mem_map_of_mem hpeer
  rw [← resolveBound_of_mem hmem role (fallback.bound policy)]
  cases policy with
  | deadline =>
    have hopen : profile.deadline = .bestAvailable := hopen
    simp only [resolve, bound, hopen]
    rfl
  | livelinessLease =>
    have hopen : profile.livelinessLease = .bestAvailable := hopen
    simp only [resolve, bound, hopen]
    rfl

/-- With peers that have made up their minds, an open deadline or lease becomes the exact limit of
what all of them accept, on either side. -/
theorem Profile.bound_resolve {profile : Profile} {peers : List Profile} {policy : BoundPolicy}
    (hopen : profile.bound policy = .bestAvailable) (hpeers : peers ≠ [])
    (hset : ∀ peer ∈ peers, peer.bound policy ≠ .bestAvailable) (fallback : Profile) :
    TightestOffer (peers.map (·.bound policy))
        ((resolve profile .publisher peers fallback).bound policy) ∧
      LoosestRequest (peers.map (·.bound policy))
        ((resolve profile .subscription peers fallback).bound policy) := by
  have hbounds : peers.map (·.bound policy) ≠ [] := by simpa using hpeers
  have hset : .bestAvailable ∉ peers.map (·.bound policy) := by
    intro hmem
    obtain ⟨peer, hpeer, heq⟩ := List.mem_map.1 hmem
    exact hset peer hpeer heq
  rw [bound_resolve_eq hopen hpeers, bound_resolve_eq hopen hpeers]
  exact ⟨tightestOffer_bestBound _, loosestRequest_bestBound hbounds hset⟩

/-- Peers with a deadline of 20 ms, one of 50 ms and none: an offer may go up to 20 ms, and no
deadline can be requested. -/
theorem Profile.exists_bound_resolve :
    let strict := { Profile.standard with deadline := .finite (Span.ofMillis 20) }
    let relaxed := { Profile.standard with deadline := .finite (Span.ofMillis 50) }
    let unbounded := { Profile.standard with deadline := .infinite }
    let peers := [relaxed, unbounded, strict]
    let bounds := peers.map (·.bound .deadline)
    ((resolve .bestAvailable .publisher peers .standard).deadline = .finite (Span.ofMillis 20) ∧
      ∀ span, Passes .publisher (.finite span) bounds ↔ span ≤ Span.ofMillis 20) ∧
    ((resolve .bestAvailable .subscription peers .standard).deadline = .unspecified ∧
      ∀ span, ¬ Passes .subscription (.finite span) bounds) := by
  intro strict relaxed unbounded peers bounds
  obtain ⟨htightest, hloosest⟩ := @Profile.bound_resolve .bestAvailable peers .deadline rfl
    (by simp [peers]) (by decide) .standard
  obtain ⟨least, hleast, hlimit⟩ := htightest.of_bounded ⟨Span.ofMillis 20, by decide⟩
  have hoffer : (resolve .bestAvailable .publisher peers .standard).bound .deadline =
      .finite (Span.ofMillis 20) := by decide
  rw [hoffer] at hleast
  cases hleast
  have hnone : ¬ ∀ peer ∈ bounds, ∃ span, peer = .finite span := by
    intro hall
    obtain ⟨span, hspan⟩ := hall .infinite (by decide)
    cases hspan
  obtain ⟨hrequest, -, hrefused⟩ := hloosest.of_unbounded hnone
  exact ⟨⟨hoffer, hlimit⟩, hrequest, hrefused⟩

end PubSub.Qos
