import Mathlib.Data.List.Count
import PubSub.Proofs.Context.Deeds
import PubSub.Proofs.Context.Signal
import PubSub.Proofs.Graph.Matching

/-!
# Counters under concurrent changes

A change of the graph has two phases: the update, which is made under a lock and yields notices, and
the firing of the notices one by one, for which the lock is not held.  `Traffic` is a context with
several changes under way, and a `Traffic.Course` lets their phases take place in any order.  The
counter of an endpoint is then what its match set, the notices still to be fired and the losses that
overtook a gain make it (`Traffic.Balanced`).  Once all notices are fired it agrees with the match set
exactly if nothing was overtaken (`Traffic.Course.current_eq`).
-/

namespace PubSub

/-! ## The notices of an update -/

/-- The endpoint that is told. -/
def Notice.endpoint : Notice → Gid
  | gained gid | lost gid | incompatibleQos gid _ | incompatibleType gid => gid

namespace Graph

theorem count_gained_pairNotices (gid : Gid) (new : Endpoint) (otherGid : Gid) (other : Endpoint)
    (k : Gid) :
    (pairNotices gid new otherGid other).count (.gained k) =
      if new.relate other = some .matched ∧ new.kind.isTopic then
        (if other.isLocal ∧ otherGid = k then 1 else 0) + (if new.isLocal ∧ gid = k then 1 else 0)
      else 0 := by
  unfold pairNotices Relation.notices
  cases new.relate other with
  | none => simp
  | some relation =>
    cases relation <;> cases new.kind.isTopic <;> cases new.isLocal <;> cases other.isLocal <;>
      simp [List.count_cons]

theorem count_lost_pairNotices (gid : Gid) (new : Endpoint) (otherGid : Gid) (other : Endpoint)
    (k : Gid) : (pairNotices gid new otherGid other).count (.lost k) = 0 := by
  unfold pairNotices Relation.notices
  rw [List.count_eq_zero]
  cases new.relate other with
  | none => simp
  | some relation =>
    cases relation <;> cases new.kind.isTopic <;> simp

/-- An endpoint that was there before is told once, if the new one suits it. -/
theorem count_gained_flatMap_old {gid : Gid} {new : Endpoint} {l : List (Gid × Endpoint)}
    (hl : (l.map Prod.fst).Nodup) {k : Gid} {y : Endpoint} (hk : (k, y) ∈ l) (hne : gid ≠ k)
    (hlocal : y.isLocal = true) :
    (l.flatMap fun e => pairNotices gid new e.1 e.2).count (.gained k) =
      if new.relate y = some .matched ∧ new.kind.isTopic then 1 else 0 := by
  have hnone : ∀ l : List (Gid × Endpoint), k ∉ l.map Prod.fst →
      (l.flatMap fun e => pairNotices gid new e.1 e.2).count (.gained k) = 0 := by
    intro l hnot
    induction l with
    | nil => rfl
    | cons e l ih =>
      simp only [List.map_cons, List.mem_cons, not_or] at hnot
      rw [List.flatMap_cons, List.count_append, ih hnot.2, count_gained_pairNotices]
      simp [hne, Ne.symm hnot.1]
  induction l with
  | nil => cases hk
  | cons e l ih =>
    obtain ⟨hnot, hl⟩ := List.nodup_cons.1 hl
    rw [List.flatMap_cons, List.count_append, count_gained_pairNotices]
    rcases List.mem_cons.1 hk with rfl | hk
    · rw [hnone l hnot]
      simp [hne, hlocal]
    · have hek : e.1 ≠ k := by
        rintro rfl
        exact hnot (List.mem_map.2 ⟨_, hk, rfl⟩)
      rw [ih hl hk]
      simp [hne, hek]

/-- A new local endpoint is told once for each of the endpoints that suit it. -/
theorem count_gained_flatMap_new {gid : Gid} {new : Endpoint} {l : List (Gid × Endpoint)}
    (hl : gid ∉ l.map Prod.fst) (hlocal : new.isLocal = true) (htopic : new.kind.isTopic = true) :
    (l.flatMap fun e => pairNotices gid new e.1 e.2).count (.gained gid) =
      (l.filter fun e => new.relate e.2 = some .matched).length := by
  induction l with
  | nil => rfl
  | cons e l ih =>
    simp only [List.map_cons, List.mem_cons, not_or] at hl
    rw [List.flatMap_cons, List.count_append, ih hl.2, count_gained_pairNotices]
    by_cases hrel : new.relate e.2 = some .matched
    · have hother : ¬ (e.2.isLocal = true ∧ e.1 = gid) := fun h => hl.1 h.2.symm
      rw [if_pos ⟨hrel, htopic⟩, if_neg hother, if_pos ⟨hlocal, rfl⟩]
      simp only [hrel, decide_true, List.filter_cons_of_pos, List.length_cons]
      omega
    · simp [hrel]

theorem count_lost_flatMap (gid : Gid) (new : Endpoint) (l : List (Gid × Endpoint)) (k : Gid) :
    (l.flatMap fun e => pairNotices gid new e.1 e.2).count (.lost k) = 0 := by
  induction l with
  | nil => rfl
  | cons e l ih => rw [List.flatMap_cons, List.count_append, ih, count_lost_pairNotices]

/-- An endpoint with a core is local. -/
theorem Matched.isLocal_of_find? {graph : Graph} (h : graph.Matched) {gid : Gid} {x : Endpoint}
    {core : Core} (hx : graph.endpoints.find? gid = some x)
    (hcore : graph.locals.find? gid = some core) : x.isLocal = true := by
  obtain ⟨x', hx', hlocal⟩ := (h.isLocal_iff gid).1 (by rw [hcore]; rfl)
  rwa [Option.some.inj (hx.symm.trans hx')]

section Update

variable {graph graph' : Graph} {gid k : Gid} {notices : List Notice} {y : Endpoint}

/-- A new local endpoint is told of everything that is in its match set. -/
theorem count_gained_addEndpoint_new {new : Endpoint} {core : Core}
    (hadd : graph.addEndpoint gid new (some core) = .ok (graph', notices))
    (htopic : new.kind.isTopic = true) :
    notices.count (.gained gid) = (graph.newRecord new (some core)).peers.length := by
  obtain ⟨hfree, -, -, -, -, rfl⟩ := addEndpoint_eq_ok hadd
  have htopic' : (graph.newRecord new (some core)).kind.isTopic = true := htopic
  rw [count_gained_flatMap_new (Table.find?_eq_none_iff.1 hfree) rfl htopic']
  exact (List.length_map _).symm

/-- A match set that grows does so by as much as its owner is told of. -/
theorem length_peers_meet {new : Endpoint} {core : Option Core}
    (hadd : graph.addEndpoint gid new core = .ok (graph', notices))
    (hk : graph.endpoints.find? k = some y) (hlocal : y.isLocal = true)
    (htopic : y.kind.isTopic = true) :
    (meet gid (graph.newRecord new core) y).peers.length =
      y.peers.length + notices.count (.gained k) := by
  obtain ⟨hfree, -, -, -, -, rfl⟩ := addEndpoint_eq_ok hadd
  have hne : gid ≠ k := by
    rintro rfl
    rw [hfree] at hk
    cases hk
  rw [count_gained_flatMap_old graph.endpoints.nodup_keys (Table.find?_eq_some_iff.1 hk) hne
    hlocal]
  unfold meet
  by_cases hrel : (graph.newRecord new core).relate y = some .matched
  · have htopic' : (graph.newRecord new core).kind.isTopic = true := by
      have hkind := (Endpoint.relate_eq_matched_iff.1 hrel).1
      rwa [hkind, EndpointKind.isTopic_counterpart] at htopic
    rw [if_pos hrel, if_pos ⟨hrel, htopic'⟩, List.length_append]
    rfl
  · rw [if_neg hrel, if_neg fun h => hrel h.1]
    rfl

/-- A local endpoint is told once of the loss of a match. -/
theorem count_lost_removeEndpoint (h : graph.Matched)
    (hrem : graph.removeEndpoint gid = some (graph', notices)) {gone : Endpoint}
    (hgone : graph.endpoints.find? gid = some gone) (hne : k ≠ gid)
    (hk : graph.endpoints.find? k = some y) (hlocal : y.isLocal = true) :
    notices.count (.lost k) = if gone.kind.isTopic ∧ k ∈ gone.peers then 1 else 0 := by
  obtain ⟨gone', hgone', -, -, -, -, rfl⟩ := removeEndpoint_eq_some hrem
  obtain rfl : gone = gone' := Option.some.inj (hgone.symm.trans hgone')
  have hlocal' : (graph'.endpoints.find? k).any (·.isLocal) = true := by
    rw [find?_removeEndpoint_old hrem hgone hne hk]
    simpa using hlocal
  have hinj : Function.Injective Notice.lost := fun _ _ h => Notice.lost.inj h
  have hfilter := List.count_filter (p := fun k => (graph'.endpoints.find? k).any (·.isLocal))
    (l := gone.peers) hlocal'
  by_cases htopic : gone.kind.isTopic = true
  · rw [if_pos htopic, List.count_map_of_injective _ _ hinj, hfilter, (h.nodup_peers hgone).count]
    simp only [htopic, true_and]
  · rw [if_neg htopic, if_neg fun h => htopic h.1]
    rfl

/-- A match set that shrinks does so by as much as its owner is told of. -/
theorem length_peers_part (h : graph.Matched)
    (hrem : graph.removeEndpoint gid = some (graph', notices)) {gone : Endpoint}
    (hgone : graph.endpoints.find? gid = some gone) (hne : k ≠ gid)
    (hk : graph.endpoints.find? k = some y) (hlocal : y.isLocal = true)
    (htopic : y.kind.isTopic = true) :
    (part gid gone k y).peers.length + notices.count (.lost k) = y.peers.length := by
  rw [count_lost_removeEndpoint h hrem hgone hne hk hlocal]
  unfold part
  by_cases hmem : k ∈ gone.peers
  · obtain ⟨y', hy', hrel⟩ := (h.mem_peers_iff hgone k).1 hmem
    obtain rfl : y = y' := Option.some.inj (hk.symm.trans hy')
    have hkind := (Endpoint.relate_eq_matched_iff.1 hrel).1
    rw [hkind, EndpointKind.isTopic_counterpart] at htopic
    have hback : gid ∈ y.peers :=
      (h.mem_peers_iff hk gid).2 ⟨gone, hgone, Endpoint.relate_eq_matched_comm.1 hrel⟩
    have hpos : 0 < y.peers.length := List.length_pos_of_mem hback
    rw [if_pos hmem, if_pos ⟨htopic, hmem⟩, List.length_erase_of_mem hback]
    omega
  · rw [if_neg hmem, if_neg fun h => hmem h.2]
    rfl

end Update

theorem count_lost_addEndpoint {graph graph' : Graph} {gid : Gid} {new : Endpoint}
    {core : Option Core} {notices : List Notice}
    (hadd : graph.addEndpoint gid new core = .ok (graph', notices)) (k : Gid) :
    notices.count (.lost k) = 0 := by
  obtain ⟨-, -, -, -, -, rfl⟩ := addEndpoint_eq_ok hadd
  exact count_lost_flatMap ..

theorem count_gained_removeEndpoint {graph graph' : Graph} {gid : Gid} {notices : List Notice}
    (hrem : graph.removeEndpoint gid = some (graph', notices)) (k : Gid) :
    notices.count (.gained k) = 0 := by
  obtain ⟨gone, -, -, -, -, -, rfl⟩ := removeEndpoint_eq_some hrem
  rw [List.count_eq_zero]
  split <;> simp

end Graph

/-! ## Phases of changes -/

/-- A context that several threads change: of each change whose update was made, the notices that
are still to be fired. -/
structure Traffic where
  ctx : Context
  underWay : List (List Notice)

/-- All notices that are still to be fired. -/
def Traffic.pending (traffic : Traffic) : List Notice := traffic.underWay.flatten

/-- How many gains of an endpoint a notice overtakes: one if it is a loss that finds the counter at
zero. -/
def Context.overtakes (ctx : Context) (notice : Notice) (gid : Gid) : Nat :=
  if notice = .lost gid ∧ (ctx.graph.locals.find? gid).any (·.matched.current = 0) then 1 else 0

/-- The status of matches at an endpoint after a notice was fired. -/
theorem Context.matched_fire (ctx : Context) {notice : Notice} {k : Gid} {core' : Core}
    (h : (ctx.fire notice).graph.locals.find? k = some core') :
    ∃ core, ctx.graph.locals.find? k = some core ∧ core'.matched =
      if notice = .gained k then core.matched.gain
      else if notice = .lost k then core.matched.lose
      else core.matched := by
  cases notice with
  | gained gid | lost gid | incompatibleQos gid policy | incompatibleType gid =>
    simp only [fire, find?_locals_signal] at h
    by_cases hk : k = gid
    · subst hk
      rw [if_pos rfl] at h
      obtain ⟨core, hcore, rfl⟩ := Option.map_eq_some_iff.1 h
      refine ⟨core, hcore, ?_⟩
      simp
    · rw [if_neg hk] at h
      refine ⟨core', h, ?_⟩
      simp [Ne.symm hk]

namespace Traffic

/-- What the phases of concurrent changes can make of a graph in which nothing is known, and how
many gains of each endpoint have been overtaken on the way.  The gid of a new local endpoint is
fresh: no notice under way is meant for it. -/
inductive Course : Traffic → (Gid → Nat) → Prop
  | start {ctx : Context} (h : ctx.graph = .empty) : Course ⟨ctx, []⟩ fun _ => 0
  | add {traffic : Traffic} {overtaken : Gid → Nat} {gid : Gid} {record : Endpoint}
      {ignoresLocal : Option Bool} {graph : Graph} {notices : List Notice}
      (h : Course traffic overtaken)
      (hfresh : ignoresLocal.isSome → ∀ notice ∈ traffic.pending, notice.endpoint ≠ gid)
      (hadd : traffic.ctx.graph.addEndpoint gid record (ignoresLocal.map record.freshCore) =
        .ok (graph, notices)) :
      Course ⟨{ traffic.ctx with graph }, notices :: traffic.underWay⟩
        fun k => if k = gid then 0 else overtaken k
  | remove {traffic : Traffic} {overtaken : Gid → Nat} {gid : Gid} {graph : Graph}
      {notices : List Notice} (h : Course traffic overtaken)
      (hrem : traffic.ctx.graph.removeEndpoint gid = some (graph, notices)) :
      Course ⟨{ traffic.ctx with graph }, notices :: traffic.underWay⟩ overtaken
  | fire {ctx : Context} {overtaken : Gid → Nat} {before after : List (List Notice)}
      {notice : Notice} {rest : List Notice}
      (h : Course ⟨ctx, before ++ (notice :: rest) :: after⟩ overtaken) :
      Course ⟨ctx.fire notice, before ++ rest :: after⟩
        fun k => overtaken k + ctx.overtakes notice k
  | finish {ctx : Context} {overtaken : Gid → Nat} {before after : List (List Notice)}
      (h : Course ⟨ctx, before ++ [] :: after⟩ overtaken) :
      Course ⟨ctx.trigger graphGuard, before ++ after⟩ overtaken

/-- The phases of one change in a row are the change as a whole. -/
theorem Course.announce {ctx : Context} {overtaken : Gid → Nat} {notices : List Notice}
    {underWay : List (List Notice)} (h : Course ⟨ctx, notices :: underWay⟩ overtaken) :
    ∃ overtaken', Course ⟨ctx.announce notices, underWay⟩ overtaken' := by
  unfold Context.announce
  induction notices generalizing ctx overtaken with
  | nil => exact ⟨_, @Course.finish _ _ [] _ h⟩
  | cons notice rest ih => exact ih (@Course.fire _ _ [] _ _ _ h)

/-! ## The balance of a counter -/

/-- Gains still to be told of raise the counter of a local endpoint to the size of its match set,
together with the losses still to be told of and the gains that were overtaken. -/
structure Balanced (traffic : Traffic) (overtaken : Gid → Nat) : Prop where
  matched : traffic.ctx.graph.Matched
  balance : ∀ {gid record core}, traffic.ctx.graph.endpoints.find? gid = some record →
    traffic.ctx.graph.locals.find? gid = some core → record.kind.isTopic = true →
    core.matched.current + traffic.pending.count (.gained gid) =
      record.peers.length + traffic.pending.count (.lost gid) + overtaken gid

namespace Balanced

variable {traffic : Traffic} {overtaken : Gid → Nat} {graph : Graph} {gid : Gid}
  {notices : List Notice}

theorem start {ctx : Context} (h : ctx.graph = .empty) : Balanced ⟨ctx, []⟩ fun _ => 0 where
  matched := h ▸ .empty
  balance hrecord := by
    simp only [h, Graph.empty, Table.find?_empty] at hrecord
    cases hrecord

theorem add (h : Balanced traffic overtaken) {new : Endpoint} {ignoresLocal : Option Bool}
    (hfresh : ignoresLocal.isSome → ∀ notice ∈ traffic.pending, notice.endpoint ≠ gid)
    (hadd : traffic.ctx.graph.addEndpoint gid new (ignoresLocal.map new.freshCore) =
      .ok (graph, notices)) :
    Balanced ⟨{ traffic.ctx with graph }, notices :: traffic.underWay⟩
      fun k => if k = gid then 0 else overtaken k := by
  have hmatched : graph.Matched := h.matched.addEndpoint hadd
  refine ⟨hmatched, fun {k record core} hrecord hcore htopic => ?_⟩
  have hrecord : graph.endpoints.find? k = some record := hrecord
  have hcore : graph.locals.find? k = some core := hcore
  have hlocal : record.isLocal = true := hmatched.isLocal_of_find? hrecord hcore
  have hlocals := (Graph.addEndpoint_eq_ok hadd).2.2.2.2.1 k
  have hlost : notices.count (.lost k) = 0 := Graph.count_lost_addEndpoint hadd k
  simp only [pending, List.flatten_cons, List.count_append, hlost]
  rcases Graph.find?_addEndpoint_cases hadd hrecord with ⟨rfl, rfl⟩ | ⟨hne, y, hy, rfl⟩
  · -- The new endpoint starts at zero, with a gain to be told of for each of its matches.
    cases ignoresLocal with
    | none => cases hlocal
    | some b =>
      rw [if_pos ⟨rfl, rfl⟩, hcore] at hlocals
      obtain rfl := Option.some.inj hlocals
      have hnone : ∀ notice : Notice, notice.endpoint = k → traffic.pending.count notice = 0 :=
        fun notice hk => List.count_eq_zero.2 fun hmem => hfresh rfl notice hmem hk
      have hgained := hnone (.gained k) rfl
      have hlost := hnone (.lost k) rfl
      simp only [pending] at hgained hlost
      have hnew := Graph.count_gained_addEndpoint_new hadd htopic
      rw [if_pos rfl, hgained, hlost, hnew]
      exact Nat.zero_add _
  · rw [if_neg fun h => hne h.1, hcore] at hlocals
    rw [Graph.kind_meet] at htopic
    rw [Graph.isLocal_meet] at hlocal
    have hbalance := h.balance hy hlocals.symm htopic
    have hlength := Graph.length_peers_meet hadd hy hlocal htopic
    simp only [pending] at hbalance
    rw [if_neg hne]
    omega

theorem remove (h : Balanced traffic overtaken)
    (hrem : traffic.ctx.graph.removeEndpoint gid = some (graph, notices)) :
    Balanced ⟨{ traffic.ctx with graph }, notices :: traffic.underWay⟩ overtaken := by
  have hmatched : graph.Matched := h.matched.removeEndpoint hrem
  refine ⟨hmatched, fun {k record core} hrecord hcore htopic => ?_⟩
  have hrecord : graph.endpoints.find? k = some record := hrecord
  have hcore : graph.locals.find? k = some core := hcore
  have hlocal : record.isLocal = true := hmatched.isLocal_of_find? hrecord hcore
  obtain ⟨gone, hgone, -, -, -, hlocals, -⟩ := Graph.removeEndpoint_eq_some hrem
  obtain ⟨hne, y, hy, rfl⟩ := Graph.find?_removeEndpoint_cases hrem hgone hrecord
  have hgained := Graph.count_gained_removeEndpoint hrem k
  rw [hlocals, if_neg hne] at hcore
  rw [Graph.kind_part] at htopic
  rw [Graph.isLocal_part] at hlocal
  have hbalance := h.balance hy hcore htopic
  have hlength := Graph.length_peers_part h.matched hrem hgone hne hy hlocal htopic
  simp only [pending] at hbalance
  simp only [pending, List.flatten_cons, List.count_append, hgained]
  omega

theorem fire {ctx : Context} {before after : List (List Notice)} {notice : Notice}
    {rest : List Notice} (h : Balanced ⟨ctx, before ++ (notice :: rest) :: after⟩ overtaken) :
    Balanced ⟨ctx.fire notice, before ++ rest :: after⟩
      fun k => overtaken k + ctx.overtakes notice k := by
  have hkept := (ctx.still_fire notice).toKept
  refine ⟨h.matched.congr hkept.endpoints hkept.isSome_locals,
    fun {k record core'} hrecord hcore' htopic => ?_⟩
  have hrecord : (ctx.fire notice).graph.endpoints.find? k = some record := hrecord
  rw [hkept.endpoints] at hrecord
  obtain ⟨core, hcore, hmatched⟩ := ctx.matched_fire hcore'
  have hbalance := h.balance hrecord hcore htopic
  simp only [pending, List.flatten_append, List.flatten_cons, List.count_append,
    List.count_cons, beq_iff_eq] at hbalance ⊢
  rw [hmatched, Context.overtakes, hcore]
  by_cases hgain : notice = .gained k
  · subst hgain
    simp only [MatchedStatus.gain, reduceCtorEq, if_true, if_false, false_and] at hbalance ⊢
    omega
  · by_cases hloss : notice = .lost k
    · -- A loss that finds the counter at zero leaves it there, and is an overtaken gain from now on.
      subst hloss
      by_cases hzero : core.matched.current = 0
      · simp only [MatchedStatus.lose, Option.any_some, hzero, reduceCtorEq, if_true, if_false,
          decide_true, and_self] at hbalance ⊢
        omega
      · simp only [MatchedStatus.lose, Option.any_some, hzero, reduceCtorEq, if_true, if_false,
          decide_false, Bool.false_eq_true, and_false] at hbalance ⊢
        omega
    · simp only [hgain, hloss, if_false, false_and] at hbalance ⊢
      exact hbalance

theorem finish {ctx : Context} {before after : List (List Notice)}
    (h : Balanced ⟨ctx, before ++ [] :: after⟩ overtaken) :
    Balanced ⟨ctx.trigger graphGuard, before ++ after⟩ overtaken := by
  refine ⟨h.matched, fun {k record core} hrecord hcore htopic => ?_⟩
  have hbalance := h.balance hrecord hcore htopic
  simpa only [pending, List.flatten_append, List.flatten_cons, List.nil_append] using hbalance

end Balanced

theorem Course.balanced {traffic : Traffic} {overtaken : Gid → Nat}
    (h : Course traffic overtaken) : Balanced traffic overtaken := by
  induction h with
  | start hempty => exact .start hempty
  | add _ hfresh hadd ih => exact ih.add hfresh hadd
  | remove _ hrem ih => exact ih.remove hrem
  | fire _ ih => exact ih.fire
  | finish _ ih => exact ih.finish

/-- A publisher is added and its only match is removed before the publisher is told of it.  The loss
arrives first and leaves the counter at zero, and then the gain counts a match that is gone. -/
theorem Course.exists_overtaken : ∃ traffic overtaken gid record core, Course traffic overtaken ∧
    traffic.pending = [] ∧ traffic.ctx.graph.endpoints.find? gid = some record ∧
    traffic.ctx.graph.locals.find? gid = some core ∧ record.kind.isTopic = true ∧
    record.peers = [] ∧ core.matched.current = 1 := by
  let listener : Endpoint :=
    { kind := .subscription, name := "chatter", typeName := "String", nodeName := "listener",
      nodeNamespace := "/", qos := .standard, isLocal := true }
  let talker : Endpoint :=
    { kind := .publisher, name := "chatter", typeName := "String", nodeName := "talker",
      nodeNamespace := "/", qos := .standard, isLocal := true }
  have hstart := @start
    { options :=
        { domainId := 0, enclave := "/", discoveryRange := .localhost, discoveryPeers := [],
          instanceId := none, waitSetCapacity := 4, qosProfilePath := none }
      instanceId := 1, gids := .start 7 1, graph := .empty, dispatcher := .start
      board := { Switchboard.empty with guards := [false] } } rfl
  have hlistener := @finish _ _ [] _
    (@add _ _ (.mint 7 1 1) listener (some false) _ _ hstart (fun _ => by decide) rfl)
  have htalker := @add _ _ (.mint 7 1 2) talker (some false) _ _ hlistener (fun _ => by decide) rfl
  have hremoved := @remove _ _ (.mint 7 1 1) _ _ htalker rfl
  have hlost := @finish _ _ [] _ (@fire _ _ [] _ _ _ hremoved)
  have hgained := @finish _ _ [] _ (@fire _ _ [] _ _ _ (@fire _ _ [] _ _ _ hlost))
  exact ⟨_, _, .mint 7 1 2, _, _, hgained, rfl, rfl, rfl, rfl, rfl, rfl⟩

/-- With no notice left to be fired, the counter of a local publisher or subscription exceeds the
size of its match set by the number of gains that were overtaken.  The two agree exactly if there
were none. -/
theorem Course.current_eq {traffic : Traffic} {overtaken : Gid → Nat}
    (h : Course traffic overtaken) (hquiet : traffic.pending = []) {gid : Gid} {record : Endpoint}
    {core : Core} (hrecord : traffic.ctx.graph.endpoints.find? gid = some record)
    (hcore : traffic.ctx.graph.locals.find? gid = some core)
    (htopic : record.kind.isTopic = true) :
    core.matched.current = record.peers.length + overtaken gid ∧
      (core.matched.current = record.peers.length ↔ overtaken gid = 0) := by
  have hbalance := h.balanced.balance hrecord hcore htopic
  simp only [hquiet, List.count_nil, Nat.add_zero] at hbalance
  refine ⟨hbalance, ?_⟩
  omega

/-- The counter and the match set of a publisher can disagree for good. -/
theorem Course.exists_current_ne : ∃ traffic overtaken gid record core,
    Course traffic overtaken ∧ traffic.pending = [] ∧
    traffic.ctx.graph.endpoints.find? gid = some record ∧
    traffic.ctx.graph.locals.find? gid = some core ∧ record.kind.isTopic = true ∧
    core.matched.current ≠ record.peers.length := by
  obtain ⟨traffic, overtaken, gid, record, core, hcourse, hquiet, hrecord, hcore, htopic, hpeers,
    hcurrent⟩ := Course.exists_overtaken
  refine ⟨traffic, overtaken, gid, record, core, hcourse, hquiet, hrecord, hcore, htopic, ?_⟩
  rw [hpeers, hcurrent]
  decide

theorem Course.exists_current_eq : ∃ traffic overtaken gid record core,
    Course traffic overtaken ∧ traffic.pending = [] ∧
    traffic.ctx.graph.endpoints.find? gid = some record ∧
    traffic.ctx.graph.locals.find? gid = some core ∧ record.kind.isTopic = true ∧
    core.matched.current = record.peers.length + overtaken gid ∧ overtaken gid = 1 := by
  obtain ⟨traffic, overtaken, gid, record, core, hcourse, hquiet, hrecord, hcore, htopic, hpeers,
    hcurrent⟩ := Course.exists_overtaken
  have h := (hcourse.current_eq hquiet hrecord hcore htopic).1
  refine ⟨traffic, overtaken, gid, record, core, hcourse, hquiet, hrecord, hcore, htopic, h, ?_⟩
  rw [hpeers, hcurrent, List.length_nil] at h
  omega

end Traffic

end PubSub
