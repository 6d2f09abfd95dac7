import PubSub.Proofs.Context.Effects
import PubSub.Proofs.Qos.BestAvailable

/-!
# Creating an endpoint that suits what is there

An endpoint that leaves its policies open has them settled when it is created, by the counterparts
that are known then, and is matched with these counterparts in the same step.  The graph supplies
the profiles for the one and does the other.  Of a topic endpoint that leaves everything open, no
counterpart can object to anything but the liveliness (`Context.Course.createEndpoint_of_isOpen`).
-/

namespace PubSub

/-! ## Relations -/

/-- The profiles of two counterparts can be compared, and do not agree. -/
theorem Endpoint.relate_eq_incompatibleQos {a b : Endpoint} {policy : Qos.PolicyKind}
    (h : a.relate b = some (.incompatibleQos policy)) :
    b.kind = a.kind.counterpart ∧ b.name = a.name ∧ b.typeName = a.typeName ∧
      a.kind.isTopic = true ∧ (a.report b).verdict = .incompatible ∧
      policy = (a.report b).firstPolicy := by
  unfold relate at h
  split at h
  · cases h
  · next hcounterpart =>
    simp only [not_or, not_not] at hcounterpart
    split at h
    · cases h
    · next htype =>
      split at h
      · next hclash =>
        cases h
        exact ⟨hcounterpart.1, hcounterpart.2.1, (not_not.1 htype).symm, hclash.1, hclash.2, rfl⟩
      · cases h

/-- A notice about a policy comes from a relation that names it. -/
theorem Graph.relate_of_mem_pairNotices {gid otherGid k : Gid} {new other : Endpoint}
    {policy : Qos.PolicyKind} (h : .incompatibleQos k policy ∈ pairNotices gid new otherGid other) :
    new.relate other = some (.incompatibleQos policy) := by
  unfold pairNotices Relation.notices at h
  split at h
  · next relation hrelate =>
    rw [hrelate]
    split at h
    · obtain ⟨gid, -, heq⟩ := List.mem_map.1 h
      cases relation <;> cases heq
      rfl
    · cases h
  · cases h

/-- The profile of every known counterpart on the name and with the type is supplied. -/
theorem Graph.mem_peerQos {graph : Graph} {kind : EndpointKind} {name typeName : String} {k : Gid}
    {peer : Endpoint} (hpeer : graph.endpoints.find? k = some peer)
    (hkind : peer.kind = kind.counterpart) (hname : peer.name = name)
    (htype : peer.typeName = typeName) : peer.qos ∈ graph.peerQos kind name typeName := by
  have hmem : peer ∈ graph.endpoints.values :=
    List.mem_map_of_mem (Table.find?_eq_some_iff.1 hpeer)
  apply List.mem_map_of_mem
  rw [List.mem_filter]
  exact ⟨hmem, by simp [hkind, hname, htype]⟩

/-- The two endpoints show that they are alive in the same way, as far as the peer says. -/
def Qos.Profile.AgreesWith (peer profile : Qos.Profile) : Prop :=
  peer.liveliness.isUndetermined = true ∨ peer.liveliness = profile.liveliness

/-- The report on an endpoint that left everything open, and a counterpart that its policies were
chosen for. -/
theorem Endpoint.report_of_isOpen {a b : Endpoint} {qos fallback : Qos.Profile}
    {peers : List Qos.Profile} (htopic : a.kind.isTopic = true) (hopen : qos.IsOpen)
    (hqos : a.qos = Qos.resolve qos a.kind.role peers fallback) (hpeer : b.qos ∈ peers) :
    ((a.report b).verdict = .incompatible ↔ ¬ b.qos.AgreesWith a.qos) ∧
      ((a.report b).verdict = .incompatible → (a.report b).firstPolicy = .liveliness) := by
  have hexact : a.qos.liveliness.isUndetermined = false := by
    rw [hqos, hopen.liveliness_resolve hpeer]
    rfl
  unfold report Qos.Profile.AgreesWith
  cases hkind : a.kind with
  | publisher =>
    rw [hkind] at hqos
    have hsuits : Qos.SuitsButLiveliness a.qos b.qos := hqos ▸ hopen.suits_publisher hpeer fallback
    rw [if_pos rfl]
    refine ⟨hsuits.clashes_iff.trans (not_congr ?_), hsuits.firstPolicy⟩
    rw [hexact]
    simp only [Bool.false_eq_true, false_or, eq_comm]
  | subscription =>
    rw [hkind] at hqos
    have hsuits : Qos.SuitsButLiveliness b.qos a.qos :=
      hqos ▸ hopen.suits_subscription hpeer fallback
    rw [if_neg (by decide)]
    refine ⟨hsuits.clashes_iff.trans (not_congr ?_), hsuits.firstPolicy⟩
    rw [hexact]
    simp only [Bool.false_eq_true, false_or]
  | service | client =>
    rw [hkind] at htopic
    cases htopic

/-- Two known endpoints are in each other's match sets if they are matched. -/
theorem Graph.Matched.mem_matchSet_iff {graph : Graph} (h : graph.Matched) {a b : Gid}
    {x y : Endpoint} (hx : graph.endpoints.find? a = some x)
    (hy : graph.endpoints.find? b = some y) :
    b ∈ graph.matchSet a ↔ x.relate y = some .matched := by
  have hset : graph.matchSet a = x.peers := by
    rw [matchSet, hx]
    rfl
  rw [hset, h.mem_peers_iff hx, hy]
  simp only [Option.some.injEq, exists_eq_left']

/-! ## Creations -/

namespace Context

section Open

variable {ctx : Context} {kind : EndpointKind} {name typeName : String} {qos : Qos.Profile}
  {node : Node} {core : Core} {k : Gid} {peer : Endpoint}

/-- What an endpoint that leaves everything open has to do with a counterpart that is known. -/
theorem report_nextHandle (htopic : kind.isTopic = true) (hopen : qos.IsOpen)
    (hpeer : ctx.graph.endpoints.find? k = some peer) (hkind : peer.kind = kind.counterpart)
    (hname : peer.name = name) (htype : peer.typeName = typeName) (record : Endpoint)
    (hrecord : record.kind = kind)
    (hqos : record.qos = (ctx.nextHandle kind name typeName qos).qos) :
    ((record.report peer).verdict = .incompatible ↔ ¬ peer.qos.AgreesWith record.qos) ∧
      ((record.report peer).verdict = .incompatible →
        (record.report peer).firstPolicy = .liveliness) := by
  subst hrecord
  exact Endpoint.report_of_isOpen htopic hopen hqos (Graph.mem_peerQos hpeer hkind hname htype)

/-- A counterpart is matched unless it objects to the liveliness. -/
theorem relate_nextHandle (htopic : kind.isTopic = true) (hopen : qos.IsOpen)
    (hpeer : ctx.graph.endpoints.find? k = some peer) (hkind : peer.kind = kind.counterpart)
    (hname : peer.name = name) (htype : peer.typeName = typeName) :
    (ctx.graph.newRecord ((ctx.nextHandle kind name typeName qos).record node)
        (some core)).relate peer = some .matched ↔
      peer.qos.AgreesWith (ctx.nextHandle kind name typeName qos).qos := by
  obtain ⟨hverdict, -⟩ := report_nextHandle htopic hopen hpeer hkind hname htype
    (ctx.graph.newRecord ((ctx.nextHandle kind name typeName qos).record node) (some core)) rfl rfl
  rw [Endpoint.relate_eq_matched_iff]
  unfold Endpoint.Suits
  rw [← Endpoint.isTopic_and_incompatible_iff, hverdict]
  constructor
  · rintro ⟨-, -, -, -, hsuits⟩
    exact not_not.1 fun hnot => hsuits ⟨htopic, hnot⟩
  · intro hagrees
    exact ⟨hkind, hname, htype, Or.inl rfl, fun h => h.2 hagrees⟩

end Open

/-- A topic endpoint that leaves everything open is created under the next identifier, if nobody has
taken it.  Every counterpart known on its topic and with its type is then matched with it, unless
the counterpart has a kind of liveliness and it is not the one chosen; and whatever endpoint is told
of a policy that rules a match out, the policy is the liveliness. -/
theorem Course.createEndpoint_of_isOpen {ctx : Context} {history : List Act}
    (h : Course ctx history) (node : Node) {kind : EndpointKind} (name typeName : String)
    {qos : Qos.Profile} (ignoresLocal : Bool) (htopic : kind.isTopic = true)
    (hvalid : qos.validate = .ok ()) (hopen : qos.IsOpen) :
    ((∃ handle, (ctx.createEndpoint node kind name typeName qos ignoresLocal).1 = .ok handle) ↔
      name ≠ "" ∧ typeName ≠ "" ∧ ctx.graph.endpoints.find? ctx.mint.1 = none) ∧
    ∀ handle ctx', ctx.createEndpoint node kind name typeName qos ignoresLocal =
        (.ok handle, ctx') →
      (∀ k peer, ctx.graph.endpoints.find? k = some peer → peer.kind = kind.counterpart →
        peer.name = name → peer.typeName = typeName →
        (k ∈ ctx'.graph.matchSet handle.gid ↔
          peer.qos.liveliness.isUndetermined = true ∨
            peer.qos.liveliness = handle.qos.liveliness) ∧
        (handle.gid ∈ ctx'.graph.matchSet k ↔ k ∈ ctx'.graph.matchSet handle.gid)) ∧
      ∃ graph notices,
        ctx.graph.addEndpoint handle.gid (handle.record node)
          (some ((handle.record node).freshCore ignoresLocal)) = .ok (graph, notices) ∧
        ctx' = ctx.mint.2.change graph notices ∧
        ∀ k policy, .incompatibleQos k policy ∈ notices → policy = .liveliness := by
  rcases ctx.createEndpoint_cases node kind name typeName qos ignoresLocal with
    ⟨error, hreply, -, hnot⟩ | ⟨graph, notices, hadd, heq⟩
  · refine ⟨⟨fun ⟨handle, hok⟩ => ?_, fun hsuccess => ?_⟩, fun handle ctx' hcreate => ?_⟩
    · rw [hreply] at hok
      cases hok
    · exact absurd ⟨hsuccess.1, hsuccess.2.1, hvalid, hsuccess.2.2⟩ hnot
    · rw [hcreate] at hreply
      cases hreply
  · have hfree := (Graph.addEndpoint_eq_ok hadd).1
    refine ⟨⟨fun _ => ?_, fun _ => ⟨_, by rw [heq]⟩⟩, fun handle ctx' hcreate => ?_⟩
    · refine ⟨?_, ?_, hfree⟩
      · rintro rfl
        simp [createEndpoint] at heq
      · rintro rfl
        simp [createEndpoint] at heq
    · rw [heq] at hcreate
      cases hcreate
      have hmatched : (ctx.mint.2.change graph notices).graph.Matched :=
        (h.accounts.matched.addEndpoint hadd).congr (ctx.mint.2.still_change ..).endpoints
          (ctx.mint.2.still_change ..).isSome_locals
      refine ⟨fun k peer hpeer hkind hname htype => ?_, graph, notices, hadd, rfl,
        fun k policy hnotice => ?_⟩
      · have hnew := Graph.find?_addEndpoint_new hadd
        have hold := Graph.find?_addEndpoint_old hadd hpeer
        rw [← (ctx.mint.2.still_change graph notices).endpoints] at hnew hold
        rw [hmatched.mem_matchSet_iff hnew hold, hmatched.mem_matchSet_iff hold hnew,
          Graph.relate_meet, Graph.relate_meet_right]
        exact ⟨relate_nextHandle htopic hopen hpeer hkind hname htype,
          Endpoint.relate_eq_matched_comm⟩
      · obtain ⟨-, -, -, -, -, rfl⟩ := Graph.addEndpoint_eq_ok hadd
        obtain ⟨⟨k, peer⟩, hmem, hpair⟩ := List.mem_flatMap.1 hnotice
        obtain ⟨hkind, hname, htype, -, hclash, rfl⟩ :=
          Endpoint.relate_eq_incompatibleQos (Graph.relate_of_mem_pairNotices hpair)
        exact (report_nextHandle htopic hopen (Table.find?_eq_some_iff.2 hmem) hkind hname htype _
          rfl rfl).2 hclash

/-- A publisher that leaves everything open meets two subscriptions with different kinds of
liveliness.  It is matched with the first, and the second tells it of the liveliness. -/
theorem Course.exists_createEndpoint_of_isOpen : ∃ ctx history handle ctx',
    Course ctx history ∧
    ctx.createEndpoint ⟨.mint 7 1 1, "talker", "/"⟩ .publisher "chatter" "String" .bestAvailable
      false = (.ok handle, ctx') ∧
    Gid.mint 1 7 1 ∈ ctx'.graph.matchSet handle.gid ∧
    Gid.mint 1 7 2 ∉ ctx'.graph.matchSet handle.gid := by
  have hcreate := @Course.create (.start 7) _
    { domainId := 0, enclave := "/", discoveryRange := .localhost, discoveryPeers := [],
      instanceId := none, waitSetCapacity := 4, qosProfilePath := none } _ rfl
  have hcourse := (hcreate.perform (.announceEndpoint ⟨.mint 1 7 1, .subscription, "chatter",
    "String", "listener", "/", { Qos.Profile.standard with liveliness := .exactly .automatic }⟩)
      trivial).perform (.announceEndpoint ⟨.mint 1 7 2, .subscription, "chatter",
    "String", "monitor", "/", { Qos.Profile.standard with liveliness := .exactly .manualByTopic }⟩)
      trivial
  obtain ⟨-, hall⟩ := hcourse.createEndpoint_of_isOpen ⟨.mint 7 1 1, "talker", "/"⟩ "chatter"
    "String" false (show EndpointKind.publisher.isTopic = true from rfl) rfl Qos.isOpen_bestAvailable
  obtain ⟨hpeers, -⟩ := hall _ _ rfl
  refine ⟨_, _, _, _, hcourse, rfl, ?_, ?_⟩
  · exact (hpeers (.mint 1 7 1) _ rfl rfl rfl rfl).1.2 (Or.inr (by decide))
  · exact mt (hpeers (.mint 1 7 2) _ rfl rfl rfl rfl).1.1 (by decide)

end Context

end PubSub
