import PubSub.Proofs.Context.Answers
import PubSub.Proofs.Context.Creation
import PubSub.Proofs.Context.Publish
import PubSub.Proofs.Qos.Order

/-!
# Tables that are walked in another order

The tables of a graph, and the match sets in its records, are kept in an order that means nothing.
`Graph.Reordered` and `Context.Reordered` relate what differs in these orders at most.  Adding or
removing an endpoint takes such graphs to such graphs and tells the same endpoints the same things,
in some order (`Graph.Reordered.addEndpoint`, `Graph.Reordered.removeEndpoint`); and whatever the
order, everybody but a new endpoint is told once at most.  The operations that walk nothing give the
same replies, and leave contexts that differ in the orders at most.
-/

namespace PubSub

/-- The records differ in the order of their match sets at most. -/
structure Endpoint.Reordered (record record' : Endpoint) : Prop where
  blank : record'.blank = record.blank
  peers : record'.peers.Perm record.peers

/-- The graphs differ in the order of their entries, and of their match sets, at most. -/
structure Graph.Reordered (graph graph' : Graph) : Prop where
  version : graph'.version = graph.version
  nodes : ∀ gid, graph'.nodes.find? gid = graph.nodes.find? gid
  endpoints : ∀ gid, Option.Rel Endpoint.Reordered (graph.endpoints.find? gid)
    (graph'.endpoints.find? gid)
  locals : ∀ gid, graph'.locals.find? gid = graph.locals.find? gid

/-- Entries in another order are found as before. -/
theorem Table.find?_eq_of_perm {κ α : Type} [DecidableEq κ] {table table' : Table κ α}
    (h : table.entries.Perm table'.entries) (key : κ) : table'.find? key = table.find? key := by
  apply Option.ext
  intro value
  rw [find?_eq_some_iff, find?_eq_some_iff, h.mem_iff]

/-- The table with its entries the other way round. -/
def Table.reverse {κ α : Type} (table : Table κ α) : Table κ α where
  entries := table.entries.reverse
  nodup_keys := ((List.reverse_perm _).map Prod.fst).nodup_iff.2 table.nodup_keys

namespace Endpoint

theorem Reordered.refl (record : Endpoint) : record.Reordered record := ⟨rfl, .refl _⟩

theorem Reordered.symm {record record' : Endpoint} (h : record.Reordered record') :
    record'.Reordered record := ⟨h.blank.symm, h.peers.symm⟩

/-- How two endpoints stand to each other does not depend on their match sets. -/
theorem relate_congr {a a' b b' : Endpoint} (ha : a'.blank = a.blank) (hb : b'.blank = b.blank) :
    a'.relate b' = a.relate b := by
  have hblank (x y : Endpoint) : x.blank.relate y.blank = x.relate y := rfl
  rw [← hblank a', ha, hb, hblank]

namespace Reordered

variable {record record' : Endpoint}

theorem meet {new new' : Endpoint} (hnew : new'.blank = new.blank)
    (h : record.Reordered record') (gid : Gid) :
    (Graph.meet gid new record).Reordered (Graph.meet gid new' record') := by
  refine ⟨?_, ?_⟩
  · rw [Graph.blank_meet, Graph.blank_meet, h.blank]
  · unfold Graph.meet
    rw [relate_congr hnew h.blank]
    split
    · exact h.peers.append_right [gid]
    · exact h.peers

theorem part {gone gone' : Endpoint} (hgone : gone'.peers.Perm gone.peers)
    (h : record.Reordered record') (gid k : Gid) :
    (Graph.part gid gone k record).Reordered (Graph.part gid gone' k record') := by
  refine ⟨?_, ?_⟩
  · rw [Graph.blank_part, Graph.blank_part, h.blank]
  · unfold Graph.part
    simp only [hgone.mem_iff]
    split
    · exact h.peers.erase gid
    · exact h.peers

end Reordered

end Endpoint

namespace Graph

/-! ## Walking the endpoints -/

theorem matchesOf_eq (graph : Graph) (new : Endpoint) :
    graph.matchesOf new =
      (graph.roster.filter fun e => new.relate e.2 = some .matched).map Prod.fst := by
  rw [matchesOf, roster, List.filter_map, List.map_map]
  rfl

theorem flatMap_pairNotices_eq (graph : Graph) (gid : Gid) (new : Endpoint) :
    (graph.endpoints.entries.flatMap fun e => pairNotices gid new e.1 e.2) =
      graph.roster.flatMap fun e => pairNotices gid new.blank e.1 e.2 := by
  rw [roster, List.flatMap_map]
  rfl

theorem peerQos_eq (graph : Graph) (kind : EndpointKind) (name typeName : String) :
    graph.peerQos kind name typeName =
      ((graph.roster.map Prod.snd).filter fun other => other.kind = kind.counterpart &&
        other.name = name && other.typeName = typeName).map (·.qos) := by
  rw [peerQos, roster, Table.values, List.map_map, List.filter_map, List.filter_map, List.map_map,
    List.map_map]
  rfl

namespace Reordered

variable {graph graph' : Graph}

theorem refl (graph : Graph) : graph.Reordered graph where
  version := rfl
  nodes _ := rfl
  endpoints gid := by
    cases graph.endpoints.find? gid with
    | none => exact .none
    | some record => exact .some (.refl record)
  locals _ := rfl

/-- The endpoints may be kept in any order. -/
theorem of_perm {table : Table Gid Endpoint} (h : table.entries.Perm graph.endpoints.entries) :
    graph.Reordered { graph with endpoints := table } where
  version := rfl
  nodes _ := rfl
  endpoints gid := by
    have hfind : table.find? gid = graph.endpoints.find? gid := Table.find?_eq_of_perm h.symm gid
    dsimp only
    rw [hfind]
    exact (refl graph).endpoints gid
  locals _ := rfl

section

variable (h : graph.Reordered graph')

include h

/-- Both graphs know an endpoint, or neither does. -/
theorem find?_cases (gid : Gid) :
    (graph.endpoints.find? gid = none ∧ graph'.endpoints.find? gid = none) ∨
    ∃ record record', graph.endpoints.find? gid = some record ∧
      graph'.endpoints.find? gid = some record' ∧ record.Reordered record' := by
  have hrel := h.endpoints gid
  generalize graph.endpoints.find? gid = found at hrel ⊢
  generalize graph'.endpoints.find? gid = found' at hrel ⊢
  cases hrel with
  | none => exact .inl ⟨rfl, rfl⟩
  | some hrecord => exact .inr ⟨_, _, rfl, rfl, hrecord⟩

theorem symm : graph'.Reordered graph where
  version := h.version.symm
  nodes gid := (h.nodes gid).symm
  endpoints gid := by
    rcases h.find?_cases gid with ⟨hnone, hnone'⟩ | ⟨x, x', hx, hx', hrecord⟩
    · rw [hnone, hnone']
      exact .none
    · rw [hx, hx']
      exact .some hrecord.symm
  locals gid := (h.locals gid).symm

/-- The other graph has a record for each record. -/
theorem exists_find? {gid : Gid} {x : Endpoint} (hx : graph.endpoints.find? gid = some x) :
    ∃ x', graph'.endpoints.find? gid = some x' ∧ x.Reordered x' := by
  rcases h.find?_cases gid with ⟨hnone, -⟩ | ⟨y, x', hy, hx', hrecord⟩
  · rw [hx] at hnone
    cases hnone
  · obtain rfl : x = y := Option.some.inj (hx.symm.trans hy)
    exact ⟨x', hx', hrecord⟩

/-- What becomes of a record may depend on the order of its match set no more than the record. -/
theorem find?_map (gid : Gid) {f f' : Endpoint → Endpoint}
    (hf : ∀ {x x' : Endpoint}, x.Reordered x' → (f x).Reordered (f' x')) :
    Option.Rel Endpoint.Reordered ((graph.endpoints.find? gid).map f)
      ((graph'.endpoints.find? gid).map f') := by
  rcases h.find?_cases gid with ⟨hnone, hnone'⟩ | ⟨x, x', hx, hx', hrecord⟩
  · rw [hnone, hnone']
    exact .none
  · rw [hx, hx']
    exact .some (hf hrecord)

theorem find?_blank (gid : Gid) :
    (graph'.endpoints.find? gid).map Endpoint.blank =
      (graph.endpoints.find? gid).map Endpoint.blank := by
  rcases h.find?_cases gid with ⟨hnone, hnone'⟩ | ⟨x, x', hx, hx', hrecord⟩
  · rw [hnone, hnone']
  · rw [hx, hx', Option.map_some, Option.map_some, hrecord.blank]

theorem contains_endpoints (gid : Gid) :
    graph'.endpoints.contains gid = graph.endpoints.contains gid := by
  have hblank := congrArg Option.isSome (h.find?_blank gid)
  rwa [Option.isSome_map, Option.isSome_map] at hblank

theorem any_isLocal (gid : Gid) :
    (graph'.endpoints.find? gid).any (·.isLocal) = (graph.endpoints.find? gid).any (·.isLocal) := by
  have hblank := congrArg (Option.any (·.isLocal)) (h.find?_blank gid)
  rwa [Option.any_map, Option.any_map] at hblank

theorem roster_perm : graph'.roster.Perm graph.roster := by
  have hfind (gid : Gid) : (graph'.endpoints.map fun _ => Endpoint.blank).find? gid =
      (graph.endpoints.map fun _ => Endpoint.blank).find? gid := by
    rw [Table.find?_map, Table.find?_map, h.find?_blank]
  exact Table.entries_perm (graph.endpoints.map fun _ => Endpoint.blank).nodup_keys hfind

theorem matchesOf (new : Endpoint) : (graph'.matchesOf new).Perm (graph.matchesOf new) := by
  rw [matchesOf_eq, matchesOf_eq]
  exact (h.roster_perm.filter _).map _

/-- The profile of a new endpoint is resolved in the same way. -/
theorem resolve_peerQos (kind : EndpointKind) (name typeName : String) (qos fallback : Qos.Profile) :
    Qos.resolve qos kind.role (graph'.peerQos kind name typeName) fallback =
      Qos.resolve qos kind.role (graph.peerQos kind name typeName) fallback := by
  apply Qos.resolve_perm
  rw [peerQos_eq, peerQos_eq]
  exact ((h.roster_perm.map _).filter _).map _

/-- Whoever asks gets the same answers. -/
theorem sameAnswers : graph.SameAnswers graph' := by
  have hholds (graph : Graph) : graph.Holds graph.roster graph.nodes.entries := ⟨.refl _, .refl _⟩
  refine (hholds graph).sameAnswers ⟨h.roster_perm, ?_⟩
  exact Table.entries_perm graph.nodes.nodup_keys h.nodes

/-- Match sets stay exact. -/
theorem matched (hmatched : graph.Matched) : graph'.Matched := by
  refine ⟨fun {a x'} hx' b => ?_, fun {a x'} hx' => ?_, fun a => ?_⟩
  · obtain ⟨x, hx, hrecord⟩ := h.symm.exists_find? hx'
    rw [hrecord.peers.symm.mem_iff, hmatched.mem_peers_iff hx b]
    constructor
    · rintro ⟨y, hy, hrelate⟩
      obtain ⟨y', hy', hother⟩ := h.exists_find? hy
      exact ⟨y', hy', by rwa [Endpoint.relate_congr hrecord.symm.blank hother.blank]⟩
    · rintro ⟨y', hy', hrelate⟩
      obtain ⟨y, hy, hother⟩ := h.symm.exists_find? hy'
      exact ⟨y, hy, by rwa [Endpoint.relate_congr hrecord.blank hother.blank]⟩
  · obtain ⟨x, hx, hrecord⟩ := h.symm.exists_find? hx'
    exact hrecord.peers.symm.nodup_iff.2 (hmatched.nodup_peers hx)
  · have hiff (graph : Graph) : (∃ x, graph.endpoints.find? a = some x ∧ x.isLocal = true) ↔
        (graph.endpoints.find? a).any (·.isLocal) = true := by
      rw [Option.any_eq_true]
    rw [h.locals, hmatched.isLocal_iff, hiff, hiff, h.any_isLocal]

/-! ## Changes -/

theorem modifyCore (gid : Gid) (f : Core → Core) :
    (graph.modifyCore gid f).Reordered (graph'.modifyCore gid f) where
  version := h.version
  nodes := h.nodes
  endpoints := h.endpoints
  locals k := by rw [find?_modifyCore, find?_modifyCore, h.locals]

theorem addNode (gid : Gid) (info : NodeInfo) :
    Option.Rel Reordered (graph.addNode gid info) (graph'.addNode gid info) := by
  unfold Graph.addNode
  rw [h.nodes]
  split
  · exact .none
  · refine .some ⟨?_, fun k => ?_, h.endpoints, h.locals⟩
    · exact congrArg (· + 1) h.version
    · simp only [Table.find?_insert, h.nodes]

theorem removeNode (gid : Gid) :
    Option.Rel Reordered (graph.removeNode gid) (graph'.removeNode gid) := by
  unfold Graph.removeNode Table.contains
  rw [h.nodes]
  split
  · refine .some ⟨?_, fun k => ?_, h.endpoints, h.locals⟩
    · exact congrArg (· + 1) h.version
    · simp only [Table.find?_erase, h.nodes]
  · exact .none

/-- An endpoint is added to both graphs, or to neither.  The notices are the same, in some order. -/
theorem addEndpoint (gid : Gid) (new : Endpoint) (core : Option Core) :
    (∃ error, graph.addEndpoint gid new core = .error error ∧
      graph'.addEndpoint gid new core = .error error) ∨
    ∃ after after' notices notices', graph.addEndpoint gid new core = .ok (after, notices) ∧
      graph'.addEndpoint gid new core = .ok (after', notices') ∧ after.Reordered after' ∧
      notices'.Perm notices := by
  by_cases hknown : graph.endpoints.contains gid = true
  · have hknown' := (h.contains_endpoints gid).trans hknown
    unfold Graph.addEndpoint
    exact .inl ⟨_, if_pos hknown, if_pos hknown'⟩
  · have hfree : ¬ graph'.endpoints.contains gid = true := by rwa [h.contains_endpoints]
    obtain ⟨⟨after, notices⟩, hadd⟩ : ∃ result, graph.addEndpoint gid new core = .ok result :=
      ⟨_, if_neg hknown⟩
    obtain ⟨⟨after', notices'⟩, hadd'⟩ : ∃ result, graph'.addEndpoint gid new core = .ok result :=
      ⟨_, if_neg hfree⟩
    obtain ⟨-, hnodes, hversion, hfind, hlocals, hnotices⟩ := addEndpoint_eq_ok hadd
    obtain ⟨-, hnodes', hversion', hfind', hlocals', hnotices'⟩ := addEndpoint_eq_ok hadd'
    have hnew : (graph.newRecord new core).Reordered (graph'.newRecord new core) :=
      ⟨rfl, h.matchesOf _⟩
    refine .inr ⟨after, after', notices, notices', hadd, hadd', ⟨?_, fun k => ?_, fun k => ?_,
      fun k => ?_⟩, ?_⟩
    · rw [hversion, hversion', h.version]
    · rw [hnodes, hnodes', h.nodes]
    · rw [hfind, hfind']
      split
      · exact .some hnew
      · exact h.find?_map k fun hrecord => hrecord.meet hnew.blank gid
    · rw [hlocals, hlocals', h.locals]
    · rw [hnotices, hnotices', flatMap_pairNotices_eq, flatMap_pairNotices_eq, hnew.blank]
      exact h.roster_perm.flatMap_right _

/-- An endpoint is removed from both graphs, or from neither.  The notices are the same, in some
order. -/
theorem removeEndpoint (gid : Gid) :
    (graph.removeEndpoint gid = none ∧ graph'.removeEndpoint gid = none) ∨
    ∃ after after' notices notices', graph.removeEndpoint gid = some (after, notices) ∧
      graph'.removeEndpoint gid = some (after', notices') ∧ after.Reordered after' ∧
      notices'.Perm notices := by
  rcases h.find?_cases gid with ⟨hnone, hnone'⟩ | ⟨gone, gone', hgone, hgone', hblank, hpeers⟩
  · unfold Graph.removeEndpoint
    rw [hnone, hnone']
    exact .inl ⟨rfl, rfl⟩
  · obtain ⟨⟨after, notices⟩, hrem⟩ : ∃ result, graph.removeEndpoint gid = some result := by
      unfold Graph.removeEndpoint
      rw [hgone]
      exact ⟨_, rfl⟩
    obtain ⟨⟨after', notices'⟩, hrem'⟩ : ∃ result, graph'.removeEndpoint gid = some result := by
      unfold Graph.removeEndpoint
      rw [hgone']
      exact ⟨_, rfl⟩
    obtain ⟨old, hold, hnodes, hversion, hfind, hlocals, hnotices⟩ :=
      removeEndpoint_eq_some hrem
    obtain ⟨old', hold', hnodes', hversion', hfind', hlocals', hnotices'⟩ :=
      removeEndpoint_eq_some hrem'
    obtain rfl : gone = old := Option.some.inj (hgone.symm.trans hold)
    obtain rfl : gone' = old' := Option.some.inj (hgone'.symm.trans hold')
    have hafter : after.Reordered after' := by
      refine ⟨?_, fun k => ?_, fun k => ?_, fun k => ?_⟩
      · rw [hversion, hversion', h.version]
      · rw [hnodes, hnodes', h.nodes]
      · rw [hfind, hfind']
        split
        · exact .none
        · exact h.find?_map k fun hrecord => hrecord.part hpeers gid k
      · rw [hlocals, hlocals', h.locals]
    refine .inr ⟨after, after', notices, notices', hrem, hrem', hafter, ?_⟩
    have hkind : gone'.blank.kind = gone.blank.kind := congrArg Endpoint.kind hblank
    rw [hnotices, hnotices', show gone'.kind = gone.kind from hkind]
    split
    · simp only [hafter.any_isLocal]
      exact (hpeers.filter _).map _
    · exact .refl _

theorem localPeers (gid : Gid) : (graph'.localPeers gid).Perm (graph.localPeers gid) := by
  unfold Graph.localPeers
  simp only [h.any_isLocal]
  rcases h.find?_cases gid with ⟨hnone, hnone'⟩ | ⟨x, x', hx, hx', hrecord⟩
  · rw [hnone, hnone']
  · rw [hx, hx']
    exact hrecord.peers.filter _

end

end Reordered

/-! ## Who is told, and how often -/

theorem countP_eq_count (gids : List Gid) (k : Gid) : gids.countP (· = k) = gids.count k :=
  List.countP_congr fun _ _ => decide_eq_true_iff.trans beq_iff_eq.symm

theorem countP_endpoint_pairNotices_le {gid k : Gid} (hne : gid ≠ k) (new : Endpoint)
    (otherGid : Gid) (other : Endpoint) :
    (pairNotices gid new otherGid other).countP (·.endpoint = k) ≤ [otherGid].count k := by
  have hcount (relation : Relation) (endpoints : List Gid) :
      (relation.notices endpoints).countP (·.endpoint = k) = endpoints.count k := by
    unfold Relation.notices
    rw [List.countP_map]
    cases relation <;> exact countP_eq_count endpoints k
  unfold pairNotices
  split
  · split
    · rw [hcount, List.count_append]
      have hgid : (if new.isLocal then [gid] else []).count k = 0 := by
        split
        · exact List.count_eq_zero.2 (by simpa using hne.symm)
        · rfl
      rw [hgid, Nat.zero_add]
      split
      · exact Nat.le_refl _
      · exact Nat.zero_le _
    · exact Nat.zero_le _
  · exact Nat.zero_le _

/-- Everybody but the new endpoint is told of it once at most. -/
theorem countP_endpoint_addEndpoint_le {graph graph' : Graph} {gid k : Gid} {new : Endpoint}
    {core : Option Core} {notices : List Notice}
    (hadd : graph.addEndpoint gid new core = .ok (graph', notices)) (hne : gid ≠ k) :
    notices.countP (·.endpoint = k) ≤ 1 := by
  obtain ⟨-, -, -, -, -, rfl⟩ := addEndpoint_eq_ok hadd
  have hcount (l : List (Gid × Endpoint)) :
      (l.flatMap fun e => pairNotices gid (graph.newRecord new core) e.1 e.2).countP
        (·.endpoint = k) ≤ (l.map Prod.fst).count k := by
    induction l with
    | nil => exact Nat.le_refl 0
    | cons e l ih =>
      rw [List.flatMap_cons, List.countP_append, List.map_cons, ← List.singleton_append,
        List.count_append]
      exact Nat.add_le_add (countP_endpoint_pairNotices_le hne ..) ih
  exact Nat.le_trans (hcount _) (List.nodup_iff_count.1 graph.endpoints.nodup_keys k)

/-- Nobody is told twice that an endpoint is gone. -/
theorem countP_endpoint_removeEndpoint_le {graph graph' : Graph} {gid : Gid} {notices : List Notice}
    (hmatched : graph.Matched) (hrem : graph.removeEndpoint gid = some (graph', notices)) (k : Gid) :
    notices.countP (·.endpoint = k) ≤ 1 := by
  obtain ⟨gone, hgone, -, -, -, -, rfl⟩ := removeEndpoint_eq_some hrem
  split
  · rw [List.countP_map]
    exact Nat.le_trans (Nat.le_of_eq (countP_eq_count _ k))
      (List.nodup_iff_count.1 ((hmatched.nodup_peers hgone).filter _) k)
  · exact Nat.zero_le 1

/-- The new endpoint meets known ones that first break two different policies. -/
def Divided (before after : Graph) (gid : Gid) : Prop :=
  before.endpoints.find? gid = none ∧
    ∃ record, after.endpoints.find? gid = some record ∧
      ∃ a x b y p q, before.endpoints.find? a = some x ∧ before.endpoints.find? b = some y ∧
        record.relate x = some (.incompatibleQos p) ∧ record.relate y = some (.incompatibleQos q) ∧
        p ≠ q

/-- Policies named to anybody when an endpoint is added are policies that it breaks. -/
theorem divided_of_mem {graph graph' : Graph} {gid : Gid} {new : Endpoint} {core : Option Core}
    {notices : List Notice} (hadd : graph.addEndpoint gid new core = .ok (graph', notices))
    {k k' : Gid} {p q : Qos.PolicyKind} (hp : .incompatibleQos k p ∈ notices)
    (hq : .incompatibleQos k' q ∈ notices) (hne : p ≠ q) : graph.Divided graph' gid := by
  have hnew := find?_addEndpoint_new hadd
  obtain ⟨hfree, -, -, -, -, rfl⟩ := addEndpoint_eq_ok hadd
  obtain ⟨⟨a, x⟩, hx, hp⟩ := List.mem_flatMap.1 hp
  obtain ⟨⟨b, y⟩, hy, hq⟩ := List.mem_flatMap.1 hq
  exact ⟨hfree, _, hnew, a, x, b, y, p, q, Table.find?_eq_some_iff.2 hx,
    Table.find?_eq_some_iff.2 hy, relate_of_mem_pairNotices hp, relate_of_mem_pairNotices hq, hne⟩

end Graph

/-! ## Contexts -/

/-- The contexts differ in the order of their tables, and of their match sets, at most. -/
structure Context.Reordered (ctx ctx' : Context) : Prop where
  options : ctx'.options = ctx.options
  instanceId : ctx'.instanceId = ctx.instanceId
  gids : ctx'.gids = ctx.gids
  graph : ctx.graph.Reordered ctx'.graph
  dispatcher : ctx'.dispatcher = ctx.dispatcher
  board : ctx'.board = ctx.board

namespace Context

/-! ## Operations that walk nothing -/

/-- The replies are the same, and the contexts differ in orders at most. -/
def SameReply {α : Type} (result result' : α × Context) : Prop :=
  result'.1 = result.1 ∧ result.2.Reordered result'.2

namespace Reordered

variable {ctx ctx' : Context}

theorem refl (ctx : Context) : ctx.Reordered ctx := ⟨rfl, rfl, rfl, .refl _, rfl, rfl⟩

section

variable (h : ctx.Reordered ctx')

include h

theorem setGraph {graph graph' : Graph} (hgraph : graph.Reordered graph') :
    Reordered { ctx with graph } { ctx' with graph := graph' } :=
  ⟨h.options, h.instanceId, h.gids, hgraph, h.dispatcher, h.board⟩

theorem setBoard (board : Switchboard) :
    Reordered { ctx with board } { ctx' with board } :=
  ⟨h.options, h.instanceId, h.gids, h.graph, h.dispatcher, rfl⟩

theorem mint : SameReply ctx.mint ctx'.mint := by
  unfold Context.mint
  rw [h.gids]
  exact ⟨rfl, h.options, h.instanceId, rfl, h.graph, h.dispatcher, h.board⟩

theorem dispatch (job : Option Job) : (ctx.dispatch job).Reordered (ctx'.dispatch job) := by
  cases job with
  | none => exact h
  | some job =>
    exact ⟨h.options, h.instanceId, h.gids, h.graph, congrArg (·.push job) h.dispatcher, h.board⟩

theorem trigger (guard : GuardId) : (ctx.trigger guard).Reordered (ctx'.trigger guard) := by
  unfold Context.trigger
  rw [h.board]
  exact h.setBoard _

theorem signal (gid : Gid) (channel : Channel) (f : Core → Core) :
    (ctx.signal gid channel f).Reordered (ctx'.signal gid channel f) := by
  unfold Context.signal
  rw [h.graph.locals]
  split
  · exact h
  · next core _ =>
    have hgraph := h.setGraph (h.graph.modifyCore gid fun core' =>
      (f core').setNotifier channel (core.notifier channel).raise.1)
    have hjob := hgraph.dispatch (core.notifier channel).raise.2
    dsimp only
    rw [hjob.board]
    exact hjob.setBoard _

/-- A change that nobody is told of. -/
theorem changeQuietly {graph graph' : Graph} (hgraph : graph.Reordered graph') :
    (ctx.change graph []).Reordered (ctx'.change graph' []) :=
  (h.setGraph hgraph).trigger graphGuard

/-- A change that concerns nodes only, if it takes place. -/
theorem changeNodes {α : Type} {found found' : Option Graph} (changed unchanged : α) :
    Option.Rel Graph.Reordered found found' → SameReply
      (match found with
        | some graph => (changed, ctx.change graph [])
        | none => (unchanged, ctx))
      (match found' with
        | some graph => (changed, ctx'.change graph [])
        | none => (unchanged, ctx')) := by
  intro hfound
  cases hfound with
  | none => exact ⟨rfl, h⟩
  | some hgraph => exact ⟨rfl, h.changeQuietly hgraph⟩

theorem announceNode (gid : Gid) (info : NodeInfo) :
    SameReply (ctx.announceNode gid info) (ctx'.announceNode gid info) := by
  unfold Context.announceNode
  split
  · exact ⟨rfl, h⟩
  · exact h.changeNodes _ _ (h.graph.addNode gid info)

theorem withdrawNode (gid : Gid) : SameReply (ctx.withdrawNode gid) (ctx'.withdrawNode gid) := by
  unfold Context.withdrawNode
  exact h.changeNodes _ _ (h.graph.removeNode gid)

theorem createNode (name nodeNamespace : String) :
    SameReply (ctx.createNode name nodeNamespace) (ctx'.createNode name nodeNamespace) := by
  unfold Context.createNode
  split
  · exact ⟨rfl, h⟩
  · split
    · exact ⟨rfl, h⟩
    · obtain ⟨hgid, hmint⟩ := h.mint
      dsimp only
      rw [hgid, hmint.options]
      exact hmint.changeNodes _ _ (hmint.graph.addNode ..)

theorem destroyNode (node : Node) : SameReply (ctx.destroyNode node) (ctx'.destroyNode node) := by
  unfold Context.destroyNode
  exact h.changeNodes _ _ (h.graph.removeNode node.gid)

theorem nextSequence (gid : Gid) : SameReply (ctx.nextSequence gid) (ctx'.nextSequence gid) := by
  unfold Context.nextSequence
  rw [h.graph.locals]
  exact ⟨rfl, h.setGraph (h.graph.modifyCore ..)⟩

theorem take (gid : Gid) : SameReply (ctx.take gid) (ctx'.take gid) := by
  unfold Context.take
  rw [h.graph.locals]
  split
  · exact ⟨rfl, h⟩
  · exact ⟨rfl, h.setGraph (h.graph.modifyCore ..)⟩

theorem takeRequest (gid : Gid) : SameReply (ctx.takeRequest gid) (ctx'.takeRequest gid) := by
  obtain ⟨hmessage, hnext⟩ := h.take gid
  exact ⟨congrArg (Option.map _) hmessage, hnext⟩

theorem takeResponse (gid : Gid) : SameReply (ctx.takeResponse gid) (ctx'.takeResponse gid) := by
  obtain ⟨hmessage, hnext⟩ := h.take gid
  exact ⟨congrArg (Option.map _) hmessage, hnext⟩

theorem takeUpTo (gid : Gid) (count : Nat) :
    SameReply (ctx.takeUpTo gid count) (ctx'.takeUpTo gid count) := by
  induction count generalizing ctx ctx' with
  | zero => exact ⟨rfl, h⟩
  | succ count ih =>
    obtain ⟨hmessage, hnext⟩ := h.take gid
    unfold Context.takeUpTo
    generalize ctx.take gid = taken at hmessage hnext ⊢
    generalize ctx'.take gid = taken' at hmessage hnext ⊢
    obtain ⟨message, next⟩ := taken
    obtain ⟨message', next'⟩ := taken'
    obtain rfl : message' = message := hmessage
    cases message' with
    | none => exact ⟨rfl, hnext⟩
    | some message =>
      obtain ⟨hrest, hlast⟩ := ih hnext
      exact ⟨congrArg (message :: ·) hrest, hlast⟩

theorem takeSequence (gid : Gid) (count : Nat) :
    SameReply (ctx.takeSequence gid count) (ctx'.takeSequence gid count) := by
  obtain ⟨hmessages, hnext⟩ := h.takeUpTo gid count
  unfold Context.takeSequence
  split
  · exact ⟨rfl, h⟩
  · exact ⟨congrArg Except.ok hmessages, hnext⟩

theorem sendResponse (gid : Gid) (request : RequestId) (payload : List UInt8) :
    SameReply (ctx.sendResponse gid request payload) (ctx'.sendResponse gid request payload) := by
  unfold Context.sendResponse
  rw [h.graph.locals]
  split
  · exact ⟨rfl, h⟩
  · split
    · exact ⟨rfl, h⟩
    · exact ⟨rfl, h.signal ..⟩

theorem takeStatus (event : EventHandle) :
    SameReply (ctx.takeStatus event) (ctx'.takeStatus event) := by
  unfold Context.takeStatus
  rw [h.graph.locals]
  split
  · exact ⟨rfl, h⟩
  · exact ⟨rfl, h.setGraph (h.graph.modifyCore ..)⟩

theorem setCallback (gid : Gid) (channel : Channel) (callback : Option CallbackId) :
    (ctx.setCallback gid channel callback).Reordered (ctx'.setCallback gid channel callback) := by
  unfold Context.setCallback
  rw [h.graph.locals]
  split
  · exact h
  · exact (h.setGraph (h.graph.modifyCore ..)).dispatch _

theorem createGuard : SameReply ctx.createGuard ctx'.createGuard := by
  unfold Context.createGuard
  rw [h.board]
  exact ⟨rfl, h.setBoard _⟩

theorem createWaitSet (maxHandles : Nat) :
    SameReply (ctx.createWaitSet maxHandles) (ctx'.createWaitSet maxHandles) := by
  unfold Context.createWaitSet
  rw [h.board, h.options]
  split
  · exact ⟨rfl, rfl, h.instanceId, h.gids, h.graph, h.dispatcher, rfl⟩
  · exact ⟨rfl, h⟩

theorem dropWaitSet (id : WaitSetId) : (ctx.dropWaitSet id).Reordered (ctx'.dropWaitSet id) := by
  unfold Context.dropWaitSet
  rw [h.board]
  exact h.setBoard _

end

end Reordered

end Context

end PubSub
