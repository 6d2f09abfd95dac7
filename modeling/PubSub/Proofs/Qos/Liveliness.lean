import PubSub.Proofs.Qos.BestAvailable

/-!
# The liveliness chosen for the peers

A kind of liveliness rules out the peers that are set to the other kind, and no peer that leaves its
kind open (`livelinessClashes_eq`).  `resolve` looks at the numbers of automatic and manual-by-topic
peers and picks the kind that rules out fewer of them, automatic on a tie (`LeastClashing`), with one
exception.  A subscription asks for manual-by-topic only if all the publishers are set to it; where
some are and the others leave their kind open, it is `Overcautious`: it asks for automatic, which the
manual-by-topic publishers cannot serve, although manual-by-topic would rule out nobody.
`Profile.liveliness_resolve_least` says that this is the only exception.
-/

namespace PubSub.Qos

/-! ## Counting the peers that are ruled out -/

/-- What there is to say about the liveliness of an endpoint of this kind and of a peer. -/
def explainPeer (role : Role) (kind : Liveliness) (peer : Profile) : Option Explanation :=
  match role with
  | .publisher => explainLiveliness (.exactly kind) peer.liveliness
  | .subscription => explainLiveliness peer.liveliness (.exactly kind)

/-- The number of peers whose liveliness rules out a match with an endpoint of this kind. -/
def livelinessClashes (role : Role) (kind : Liveliness) (peers : List Profile) : Nat :=
  peers.countP fun peer => (explainPeer role kind peer).any (·.severity = .error)

/-- The kind that is not this one. -/
def Liveliness.other : Liveliness → Liveliness
  | .automatic => .manualByTopic
  | .manualByTopic => .automatic

theorem Liveliness.other_ne (kind : Liveliness) : kind.other ≠ kind := by
  cases kind <;> nofun

/-- On either side of a match, the error is that the peer is set to the other kind. -/
theorem explainPeer_any_error (role : Role) (kind : Liveliness) (peer : Profile) :
    (explainPeer role kind peer).any (·.severity = .error) =
      decide (peer.liveliness = .exactly kind.other) := by
  unfold explainPeer
  cases role <;> cases kind <;> rcases peer.liveliness with _ | _ | _ | (_ | _) <;> rfl

theorem livelinessClashes_eq (role : Role) (kind : Liveliness) (peers : List Profile) :
    livelinessClashes role kind peers = countLiveliness kind.other peers :=
  List.countP_congr fun peer _ => by rw [explainPeer_any_error]

theorem countLiveliness_pos_iff {kind : Liveliness} {peers : List Profile} :
    0 < countLiveliness kind peers ↔ ∃ peer ∈ peers, peer.liveliness = .exactly kind := by
  simp [countLiveliness, List.countP_pos_iff]

theorem countLiveliness_eq_length_iff {kind : Liveliness} {peers : List Profile} :
    countLiveliness kind peers = peers.length ↔
      ∀ peer ∈ peers, peer.liveliness = .exactly kind := by
  simp [countLiveliness, List.countP_eq_length]

/-! ## The best choice -/

/-- The kind rules out as few of the peers as any; it is automatic if they do not differ in that. -/
structure LeastClashing (role : Role) (peers : List Profile) (kind : Liveliness) : Prop where
  least : ∀ kind', livelinessClashes role kind peers ≤ livelinessClashes role kind' peers
  tie : (∀ kind', livelinessClashes role kind' peers = livelinessClashes role kind peers) →
    kind = .automatic

/-- A kind that clashes with nobody is only passed over for another such kind. -/
theorem LeastClashing.eq_zero {role : Role} {peers : List Profile} {kind : Liveliness}
    (h : LeastClashing role peers kind) {kind' : Liveliness}
    (hnone : livelinessClashes role kind' peers = 0) : livelinessClashes role kind peers = 0 :=
  Nat.le_zero.1 (hnone ▸ h.least kind')

/-- Automatic is the best choice unless more peers are manual-by-topic than automatic. -/
theorem leastClashing_automatic_iff {role : Role} {peers : List Profile} :
    LeastClashing role peers .automatic ↔
      countLiveliness .manualByTopic peers ≤ countLiveliness .automatic peers := by
  constructor
  · intro h
    have hleast := h.least .manualByTopic
    rwa [livelinessClashes_eq, livelinessClashes_eq] at hleast
  · intro h
    refine ⟨fun kind' => ?_, fun _ => rfl⟩
    rw [livelinessClashes_eq, livelinessClashes_eq]
    cases kind' with
    | automatic => exact Nat.le_refl _
    | manualByTopic => exact h

theorem leastClashing_manualByTopic_iff {role : Role} {peers : List Profile} :
    LeastClashing role peers .manualByTopic ↔
      countLiveliness .automatic peers < countLiveliness .manualByTopic peers := by
  constructor
  · intro h
    have hleast := h.least .automatic
    have htie := h.tie
    simp only [livelinessClashes_eq] at hleast htie
    refine Nat.lt_of_le_of_ne hleast fun heq => ?_
    have hkind : Liveliness.manualByTopic = .automatic := by
      apply htie
      intro kind'
      cases kind' with
      | automatic => exact heq.symm
      | manualByTopic => rfl
    cases hkind
  · intro h
    constructor
    · intro kind'
      rw [livelinessClashes_eq, livelinessClashes_eq]
      cases kind' with
      | automatic => exact Nat.le_of_lt h
      | manualByTopic => exact Nat.le_refl _
    · intro htie
      have heq := htie .automatic
      rw [livelinessClashes_eq, livelinessClashes_eq] at heq
      exact absurd heq.symm (Nat.ne_of_lt h)

/-- A subscription some of whose publishers are manual-by-topic, while the others say nothing. -/
structure Overcautious (role : Role) (peers : List Profile) : Prop where
  requests : role = .subscription
  manual : ∃ peer ∈ peers, peer.liveliness = .exactly .manualByTopic
  silent : ∃ peer ∈ peers, peer.liveliness.isUndetermined = true
  unopposed : ∀ peer ∈ peers, peer.liveliness ≠ .exactly .automatic

/-- Where nobody is automatic and nobody says nothing, all are manual-by-topic. -/
theorem countLiveliness_manualByTopic_eq_length {peers : List Profile}
    (hunopposed : ∀ peer ∈ peers, peer.liveliness ≠ .exactly .automatic)
    (hsilent : ¬ ∃ peer ∈ peers, peer.liveliness.isUndetermined = true) :
    countLiveliness .manualByTopic peers = peers.length := by
  rw [countLiveliness_eq_length_iff]
  intro peer hpeer
  have hset : peer.liveliness.isUndetermined = false :=
    Bool.eq_false_iff.2 fun hopen => hsilent ⟨peer, hpeer, hopen⟩
  obtain ⟨kind, hkind⟩ := Setting.isUndetermined_eq_false_iff.1 hset
  cases kind with
  | automatic => exact absurd hkind (hunopposed peer hpeer)
  | manualByTopic => exact hkind

/-- When manual-by-topic is picked: it is the more frequent kind, and a subscription also wants
automatic publishers to be there or all the publishers to be manual-by-topic. -/
theorem bestLiveliness_eq_manualByTopic_iff {role : Role} {peers : List Profile}
    (hpeers : peers ≠ []) :
    bestLiveliness role peers = .manualByTopic ↔
      countLiveliness .automatic peers < countLiveliness .manualByTopic peers ∧
        (role = .subscription → 0 < countLiveliness .automatic peers ∨
          countLiveliness .manualByTopic peers = peers.length) := by
  have hpos : 0 < peers.length := List.length_pos_iff.2 hpeers
  have hpick : ∀ b : Bool, (if b then Liveliness.manualByTopic else .automatic) = .manualByTopic ↔
      b = true := by
    intro b
    cases b <;> simp
  unfold bestLiveliness
  dsimp only
  rw [hpick]
  split
  · next hmixed =>
    rw [decide_eq_true_iff]
    exact ⟨fun hmore => ⟨hmore, fun _ => .inl hmixed.2⟩, And.left⟩
  · cases role with
    | publisher =>
      simp only [decide_eq_true_iff, reduceCtorEq, false_implies, and_true]
      omega
    | subscription =>
      simp only [decide_eq_true_iff, true_implies]
      omega

theorem Overcautious.bestLiveliness {role : Role} {peers : List Profile}
    (h : Overcautious role peers) : bestLiveliness role peers = .automatic := by
  obtain ⟨silent, hsilent, hopen⟩ := h.silent
  have hnot : Qos.bestLiveliness role peers ≠ .manualByTopic := by
    rw [Ne, bestLiveliness_eq_manualByTopic_iff (List.ne_nil_of_mem hsilent)]
    rintro ⟨-, hdemand⟩
    rcases hdemand h.requests with hautomatic | hall
    · obtain ⟨peer, hpeer, heq⟩ := countLiveliness_pos_iff.1 hautomatic
      exact h.unopposed peer hpeer heq
    · rw [countLiveliness_eq_length_iff.1 hall silent hsilent] at hopen
      cases hopen
  cases hkind : Qos.bestLiveliness role peers with
  | automatic => rfl
  | manualByTopic => exact absurd hkind hnot

/-- The choice is the best one except where a subscription is overcautious. -/
theorem leastClashing_bestLiveliness {role : Role} {peers : List Profile} (hpeers : peers ≠ [])
    (h : ¬ Overcautious role peers) : LeastClashing role peers (bestLiveliness role peers) := by
  have hiff : bestLiveliness role peers = .manualByTopic ↔ _ :=
    bestLiveliness_eq_manualByTopic_iff hpeers
  cases hkind : bestLiveliness role peers with
  | manualByTopic => exact leastClashing_manualByTopic_iff.2 (hiff.1 hkind).1
  | automatic =>
    rw [leastClashing_automatic_iff]
    refine Nat.not_lt.1 fun hmore => h ?_
    have hnot : bestLiveliness role peers ≠ .manualByTopic := by
      rw [hkind]
      nofun
    rw [Ne, hiff] at hnot
    obtain ⟨hrole, hdemand⟩ := Classical.not_imp.1 fun hdemand => hnot ⟨hmore, hdemand⟩
    obtain ⟨hautomatic, hlength⟩ := not_or.1 hdemand
    have hunopposed : ∀ peer ∈ peers, peer.liveliness ≠ .exactly .automatic :=
      fun peer hpeer heq => hautomatic (countLiveliness_pos_iff.2 ⟨peer, hpeer, heq⟩)
    refine ⟨hrole, countLiveliness_pos_iff.1 (Nat.zero_lt_of_lt hmore), ?_, hunopposed⟩
    exact Classical.byContradiction fun hsilent =>
      hlength (countLiveliness_manualByTopic_eq_length hunopposed hsilent)

/-- A liveliness left open becomes the kind that clashes with the fewest peers, automatic on a tie,
and with none if either kind clashes with none; unless a subscription is overcautious, which settles
for automatic and so clashes with some peer where manual-by-topic would clash with none. -/
theorem Profile.liveliness_resolve_least {profile : Profile} {peers : List Profile}
    (hopen : profile.liveliness = .bestAvailable) (hpeers : peers ≠ []) (role : Role)
    (fallback : Profile) :
    ∃ kind, (resolve profile role peers fallback).liveliness = .exactly kind ∧
      (¬ Overcautious role peers → LeastClashing role peers kind ∧
        ((∃ kind', livelinessClashes role kind' peers = 0) →
          livelinessClashes role kind peers = 0)) ∧
      (Overcautious role peers → kind = .automatic ∧
        0 < livelinessClashes role .automatic peers ∧
        livelinessClashes role .manualByTopic peers = 0) := by
  obtain ⟨peer, hpeer⟩ := List.exists_mem_of_ne_nil peers hpeers
  refine ⟨bestLiveliness role peers, ?_, fun h => ?_, fun h => ?_⟩
  · unfold resolve
    dsimp only
    rw [hopen, resolveSetting_of_mem hpeer]
  · have hleast := leastClashing_bestLiveliness hpeers h
    exact ⟨hleast, fun ⟨_, hnone⟩ => hleast.eq_zero hnone⟩
  · refine ⟨h.bestLiveliness, ?_, ?_⟩
    · rw [livelinessClashes_eq]
      exact countLiveliness_pos_iff.2 h.manual
    · rw [livelinessClashes_eq]
      exact List.countP_eq_zero.2 fun peer hpeer heq =>
        h.unopposed peer hpeer (of_decide_eq_true heq)

/-- Three subscriptions, two of which are manual-by-topic and one automatic. -/
theorem Profile.exists_liveliness_resolve_least :
    let manual := { Profile.standard with liveliness := .exactly .manualByTopic }
    let automatic := { Profile.standard with liveliness := .exactly .automatic }
    LeastClashing .publisher [manual, automatic, manual] .manualByTopic ∧
      (resolve .bestAvailable .publisher [manual, automatic, manual] .standard).liveliness =
        .exactly .manualByTopic := by
  intro manual automatic
  obtain ⟨kind, hkind, hbest, -⟩ := @Profile.liveliness_resolve_least .bestAvailable
    [manual, automatic, manual] rfl (by simp) .publisher .standard
  have hresolve : (resolve .bestAvailable .publisher [manual, automatic, manual]
      .standard).liveliness = .exactly .manualByTopic := by decide
  rw [hresolve] at hkind
  cases hkind
  exact ⟨(hbest fun h => nomatch h.requests).1, hresolve⟩

/-- A manual-by-topic publisher beside one that says nothing: the subscription asks for automatic
and clashes with the first, where manual-by-topic would clash with neither. -/
theorem Profile.exists_liveliness_resolve_not_least :
    let manual := { Profile.standard with liveliness := .exactly .manualByTopic }
    let peers := [manual, .standard]
    (resolve .bestAvailable .subscription peers .standard).liveliness = .exactly .automatic ∧
      livelinessClashes .subscription .automatic peers = 1 ∧
      livelinessClashes .subscription .manualByTopic peers = 0 ∧
      ¬ LeastClashing .subscription peers .automatic := by
  intro manual peers
  refine ⟨by decide, by decide, by decide, fun h => ?_⟩
  exact absurd (h.least .manualByTopic) (by decide)

end PubSub.Qos
