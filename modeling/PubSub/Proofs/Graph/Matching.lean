import Mathlib.Logic.Relation
import PubSub.Graph.Basic

/-!
# Match sets are exact

The match sets of a graph are kept twice, once at each end, and are only ever adjusted when an
endpoint comes or goes.  This file says what they amount to: `Graph.Course` are the changes that a
graph can undergo, `Endpoint.Suits` says when two records belong together, and the invariant
`Graph.Matched` states that the match set of a record holds exactly the counterparts that suit it
(`Graph.Course.mem_matchSet_iff_suits`).
-/

namespace PubSub

/-! ## Records that suit each other -/

/-- Two records belong in each other's match sets: counterparts on one name and with one type, one
of them local, and for topics an offer that serves the request. -/
def Endpoint.Suits (a b : Endpoint) : Prop :=
  b.kind = a.kind.counterpart ∧ b.name = a.name ∧ b.typeName = a.typeName ∧
    (a.isLocal = true ∨ b.isLocal = true) ∧
    (a.kind = .publisher → ¬ Qos.Clashes a.qos b.qos) ∧
    (a.kind = .subscription → ¬ Qos.Clashes b.qos a.qos)

theorem Endpoint.isTopic_and_incompatible_iff (a b : Endpoint) :
    ¬ (a.kind.isTopic = true ∧ (a.report b).verdict = .incompatible) ↔
      (a.kind = .publisher → ¬ Qos.Clashes a.qos b.qos) ∧
        (a.kind = .subscription → ¬ Qos.Clashes b.qos a.qos) := by
  unfold Endpoint.report Qos.Clashes
  cases a.kind <;> simp [EndpointKind.isTopic]

theorem Endpoint.relate_eq_matched_iff {a b : Endpoint} :
    a.relate b = some .matched ↔ a.Suits b := by
  unfold Endpoint.relate Endpoint.Suits
  rw [← Endpoint.isTopic_and_incompatible_iff]
  by_cases hk : b.kind = a.kind.counterpart
  · by_cases hn : b.name = a.name
    · by_cases ht : a.typeName = b.typeName
      · cases ha : a.isLocal <;> cases hb : b.isLocal <;> simp [hk, hn, ht]
      · simp [hk, hn, ht, Ne.symm ht]
    · simp [hn]
  · simp [hk]

theorem Endpoint.Suits.symm {a b : Endpoint} (h : a.Suits b) : b.Suits a := by
  obtain ⟨hk, hn, ht, hl, hp, hs⟩ := h
  have hk' : a.kind = b.kind.counterpart := by rw [hk, EndpointKind.counterpart_counterpart]
  refine ⟨hk', hn.symm, ht.symm, hl.symm, fun hb => hs ?_, fun hb => hp ?_⟩
  · rw [hk', hb]; rfl
  · rw [hk', hb]; rfl

theorem Endpoint.not_suits_self (a : Endpoint) : ¬ a.Suits a := by
  rintro ⟨hk, -⟩
  cases h : a.kind <;> rw [h] at hk <;> cases hk

theorem Endpoint.relate_eq_matched_comm {a b : Endpoint} :
    a.relate b = some .matched ↔ b.relate a = some .matched := by
  simp only [Endpoint.relate_eq_matched_iff]
  exact ⟨Endpoint.Suits.symm, Endpoint.Suits.symm⟩

namespace Graph

/-! ## What a change does to the records -/

/-- The record of a new endpoint. -/
def newRecord (graph : Graph) (new : Endpoint) (core : Option Core) : Endpoint :=
  { new with
    isLocal := core.isSome
    peers := graph.matchesOf { new with isLocal := core.isSome, peers := [] } }

/-- The record of another endpoint once a new one is known. -/
def meet (gid : Gid) (new other : Endpoint) : Endpoint :=
  if new.relate other = some .matched then { other with peers := other.peers ++ [gid] } else other

/-- The record of another endpoint once one is gone. -/
def part (gid : Gid) (gone : Endpoint) (otherGid : Gid) (other : Endpoint) : Endpoint :=
  if otherGid ∈ gone.peers then { other with peers := other.peers.erase gid } else other

@[simp] theorem relate_meet (gid : Gid) (new x y : Endpoint) :
    (meet gid new x).relate y = x.relate y := by
  unfold meet
  split <;> rfl

@[simp] theorem relate_meet_right (gid : Gid) (new x y : Endpoint) :
    x.relate (meet gid new y) = x.relate y := by
  unfold meet
  split <;> rfl

@[simp] theorem isLocal_meet (gid : Gid) (new x : Endpoint) :
    (meet gid new x).isLocal = x.isLocal := by
  unfold meet
  split <;> rfl

@[simp] theorem kind_meet (gid : Gid) (new x : Endpoint) : (meet gid new x).kind = x.kind := by
  unfold meet
  split <;> rfl

@[simp] theorem relate_part (gid : Gid) (gone : Endpoint) (k : Gid) (x y : Endpoint) :
    (part gid gone k x).relate y = x.relate y := by
  unfold part
  split <;> rfl

@[simp] theorem relate_part_right (gid : Gid) (gone : Endpoint) (k : Gid) (x y : Endpoint) :
    x.relate (part gid gone k y) = x.relate y := by
  unfold part
  split <;> rfl

@[simp] theorem isLocal_part (gid : Gid) (gone : Endpoint) (k : Gid) (x : Endpoint) :
    (part gid gone k x).isLocal = x.isLocal := by
  unfold part
  split <;> rfl

@[simp] theorem kind_part (gid : Gid) (gone : Endpoint) (k : Gid) (x : Endpoint) :
    (part gid gone k x).kind = x.kind := by
  unfold part
  split <;> rfl

/-- Everything that adding an endpoint does. -/
theorem addEndpoint_eq_ok {graph graph' : Graph} {gid : Gid} {new : Endpoint} {core : Option Core}
    {notices : List Notice} (h : graph.addEndpoint gid new core = .ok (graph', notices)) :
    graph.endpoints.find? gid = none ∧ graph'.nodes = graph.nodes ∧
      graph'.version = graph.version + 1 ∧
      (∀ k, graph'.endpoints.find? k =
        if k = gid then some (graph.newRecord new core)
        else (graph.endpoints.find? k).map (meet gid (graph.newRecord new core))) ∧
      (∀ k, graph'.locals.find? k =
        if k = gid ∧ core.isSome then core else graph.locals.find? k) ∧
      notices = graph.endpoints.entries.flatMap fun e =>
        pairNotices gid (graph.newRecord new core) e.1 e.2 := by
  unfold addEndpoint at h
  split at h
  · cases h
  · next hfree =>
    have hfree : graph.endpoints.find? gid = none := by simpa [Table.contains] using hfree
    simp only [Except.ok.injEq, Prod.mk.injEq] at h
    obtain ⟨rfl, rfl⟩ := h
    refine ⟨hfree, rfl, rfl, fun k => ?_, fun k => ?_, rfl⟩
    · rw [Table.find?_insert, Table.find?_map]
      rfl
    · cases core with
      | none => simp
      | some core => simp [Table.find?_insert]

/-- An identifier is refused because an endpoint has it. -/
theorem find?_ne_of_addEndpoint_error {graph : Graph} {gid : Gid} {new : Endpoint}
    {core : Option Core} {error : Error} (h : graph.addEndpoint gid new core = .error error) :
    graph.endpoints.find? gid ≠ none := by
  intro hfree
  unfold addEndpoint Table.contains at h
  rw [hfree] at h
  cases h

/-- Everything that removing an endpoint does. -/
theorem removeEndpoint_eq_some {graph graph' : Graph} {gid : Gid} {notices : List Notice}
    (h : graph.removeEndpoint gid = some (graph', notices)) :
    ∃ gone, graph.endpoints.find? gid = some gone ∧ graph'.nodes = graph.nodes ∧
      graph'.version = graph.version + 1 ∧
      (∀ k, graph'.endpoints.find? k =
        if k = gid then none else (graph.endpoints.find? k).map (part gid gone k)) ∧
      (∀ k, graph'.locals.find? k = if k = gid then none else graph.locals.find? k) ∧
      notices =
        if gone.kind.isTopic then
          (gone.peers.filter fun k => (graph'.endpoints.find? k).any (·.isLocal)).map .lost
        else [] := by
  unfold removeEndpoint at h
  split at h
  · cases h
  · next gone hgone =>
    simp only [Option.some.injEq, Prod.mk.injEq] at h
    obtain ⟨rfl, rfl⟩ := h
    refine ⟨gone, hgone, rfl, rfl, fun k => ?_, fun k => Table.find?_erase .., rfl⟩
    rw [Table.find?_map, Table.find?_erase]
    by_cases hk : k = gid
    · simp [hk]
    · rw [if_neg hk, if_neg hk]
      rfl

section Records

variable {graph graph' : Graph} {gid : Gid} {notices : List Notice} {k : Gid} {y : Endpoint}

/-- A known record after an endpoint was added. -/
theorem find?_addEndpoint_old {new : Endpoint} {core : Option Core}
    (hadd : graph.addEndpoint gid new core = .ok (graph', notices))
    (hk : graph.endpoints.find? k = some y) :
    graph'.endpoints.find? k = some (meet gid (graph.newRecord new core) y) := by
  obtain ⟨hfree, -, -, hfind, -⟩ := addEndpoint_eq_ok hadd
  have hne : k ≠ gid := by
    rintro rfl
    rw [hfree] at hk
    cases hk
  rw [hfind, if_neg hne, hk]
  rfl

theorem find?_addEndpoint_new {new : Endpoint} {core : Option Core}
    (hadd : graph.addEndpoint gid new core = .ok (graph', notices)) :
    graph'.endpoints.find? gid = some (graph.newRecord new core) := by
  obtain ⟨-, -, -, hfind, -⟩ := addEndpoint_eq_ok hadd
  rw [hfind, if_pos rfl]

/-- Every record after an endpoint was added. -/
theorem find?_addEndpoint_cases {new : Endpoint} {core : Option Core}
    (hadd : graph.addEndpoint gid new core = .ok (graph', notices))
    (hk : graph'.endpoints.find? k = some y) :
    (k = gid ∧ y = graph.newRecord new core) ∨
      k ≠ gid ∧ ∃ z, graph.endpoints.find? k = some z ∧
        y = meet gid (graph.newRecord new core) z := by
  obtain ⟨-, -, -, hfind, -⟩ := addEndpoint_eq_ok hadd
  rw [hfind] at hk
  split at hk
  · next hkg => exact Or.inl ⟨hkg, (Option.some.inj hk).symm⟩
  · next hkg =>
    obtain ⟨z, hz, rfl⟩ := Option.map_eq_some_iff.1 hk
    exact Or.inr ⟨hkg, z, hz, rfl⟩

/-- A record that is left after an endpoint was removed. -/
theorem find?_removeEndpoint_old {gone : Endpoint}
    (hrem : graph.removeEndpoint gid = some (graph', notices))
    (hgone : graph.endpoints.find? gid = some gone) (hne : k ≠ gid)
    (hk : graph.endpoints.find? k = some y) :
    graph'.endpoints.find? k = some (part gid gone k y) := by
  obtain ⟨gone', hgone', -, -, hfind, -⟩ := removeEndpoint_eq_some hrem
  obtain rfl : gone' = gone := Option.some.inj (hgone'.symm.trans hgone)
  rw [hfind, if_neg hne, hk]
  rfl

/-- Every record after an endpoint was removed. -/
theorem find?_removeEndpoint_cases {gone : Endpoint}
    (hrem : graph.removeEndpoint gid = some (graph', notices))
    (hgone : graph.endpoints.find? gid = some gone)
    (hk : graph'.endpoints.find? k = some y) :
    k ≠ gid ∧ ∃ z, graph.endpoints.find? k = some z ∧ y = part gid gone k z := by
  obtain ⟨gone', hgone', -, -, hfind, -⟩ := removeEndpoint_eq_some hrem
  obtain rfl : gone' = gone := Option.some.inj (hgone'.symm.trans hgone)
  rw [hfind] at hk
  split at hk
  · cases hk
  · next hkg =>
    obtain ⟨z, hz, rfl⟩ := Option.map_eq_some_iff.1 hk
    exact ⟨hkg, z, hz, rfl⟩

end Records

theorem mem_matchesOf_iff {graph : Graph} {new : Endpoint} {k : Gid} :
    k ∈ graph.matchesOf new ↔
      ∃ other, graph.endpoints.find? k = some other ∧ new.relate other = some .matched := by
  simp only [matchesOf, List.mem_map, List.mem_filter, decide_eq_true_eq]
  constructor
  · rintro ⟨⟨k, other⟩, ⟨hmem, hrel⟩, rfl⟩
    exact ⟨other, Table.find?_eq_some_iff.2 hmem, hrel⟩
  · rintro ⟨other, hfind, hrel⟩
    exact ⟨(k, other), ⟨Table.find?_eq_some_iff.1 hfind, hrel⟩, rfl⟩

theorem nodup_matchesOf (graph : Graph) (new : Endpoint) : (graph.matchesOf new).Nodup :=
  (List.filter_sublist.map Prod.fst).nodup graph.endpoints.nodup_keys

/-! ## The changes of a graph -/

/-- One change of a graph.  The gids, records and cores are arbitrary. -/
inductive Step : Graph → Graph → Prop
  | addNode {graph graph' : Graph} {gid : Gid} {info : NodeInfo}
      (h : graph.addNode gid info = some graph') : Step graph graph'
  | removeNode {graph graph' : Graph} {gid : Gid} (h : graph.removeNode gid = some graph') :
      Step graph graph'
  | addEndpoint {graph graph' : Graph} {gid : Gid} {new : Endpoint} {core : Option Core}
      {notices : List Notice} (h : graph.addEndpoint gid new core = .ok (graph', notices)) :
      Step graph graph'
  | removeEndpoint {graph graph' : Graph} {gid : Gid} {notices : List Notice}
      (h : graph.removeEndpoint gid = some (graph', notices)) : Step graph graph'
  | clear (graph : Graph) : Step graph graph.clear.2
  | modifyCore (graph : Graph) (gid : Gid) (f : Core → Core) : Step graph (graph.modifyCore gid f)

/-- One graph becomes another through any number of changes in any order. -/
abbrev Course : Graph → Graph → Prop := Relation.ReflTransGen Step

/-- The match set of an endpoint; one that is not known has none. -/
def matchSet (graph : Graph) (gid : Gid) : List Gid :=
  ((graph.endpoints.find? gid).map (·.peers)).getD []

theorem mem_matchSet {graph : Graph} {a b : Gid} :
    b ∈ graph.matchSet a ↔ ∃ x, graph.endpoints.find? a = some x ∧ b ∈ x.peers := by
  unfold matchSet
  cases graph.endpoints.find? a <;> simp

/-- Match sets are exact, and the locals are the records that have a core. -/
structure Matched (graph : Graph) : Prop where
  mem_peers_iff : ∀ {a x}, graph.endpoints.find? a = some x →
    ∀ b, b ∈ x.peers ↔ ∃ y, graph.endpoints.find? b = some y ∧ x.relate y = some .matched
  nodup_peers : ∀ {a x}, graph.endpoints.find? a = some x → x.peers.Nodup
  isLocal_iff : ∀ a, (graph.locals.find? a).isSome ↔
    ∃ x, graph.endpoints.find? a = some x ∧ x.isLocal = true

namespace Matched

variable {graph graph' : Graph} {gid : Gid} {notices : List Notice}

theorem empty : Matched Graph.empty where
  mem_peers_iff h := by simp [Graph.empty] at h
  nodup_peers h := by simp [Graph.empty] at h
  isLocal_iff := by simp [Graph.empty]

/-- Only the records and the keys of the locals matter. -/
theorem congr (h : graph.Matched) (he : graph'.endpoints = graph.endpoints)
    (hl : ∀ k, (graph'.locals.find? k).isSome = (graph.locals.find? k).isSome) :
    graph'.Matched where
  mem_peers_iff := by rw [he]; exact h.mem_peers_iff
  nodup_peers := by rw [he]; exact h.nodup_peers
  isLocal_iff := by rw [he]; intro a; rw [hl]; exact h.isLocal_iff a

/-- A gid that is not known is in no match set. -/
theorem not_mem_peers (h : graph.Matched) (hfree : graph.endpoints.find? gid = none) {a : Gid}
    {x : Endpoint} (hx : graph.endpoints.find? a = some x) : gid ∉ x.peers := by
  intro hmem
  obtain ⟨y, hy, -⟩ := (h.mem_peers_iff hx gid).1 hmem
  rw [hfree] at hy
  cases hy

section Add

variable {new : Endpoint} {core : Option Core}
  (hadd : graph.addEndpoint gid new core = .ok (graph', notices))

include hadd

theorem mem_peers_iff_addEndpoint (h : graph.Matched) {a : Gid} {x : Endpoint}
    (ha : graph'.endpoints.find? a = some x) (b : Gid) :
    b ∈ x.peers ↔ ∃ y, graph'.endpoints.find? b = some y ∧ x.relate y = some .matched := by
  have hfree := (addEndpoint_eq_ok hadd).1
  rcases find?_addEndpoint_cases hadd ha with ⟨rfl, rfl⟩ | ⟨-, x, hx, rfl⟩
  · refine mem_matchesOf_iff.trans ⟨?_, ?_⟩
    · rintro ⟨y, hy, hrel⟩
      exact ⟨_, find?_addEndpoint_old hadd hy, by rwa [relate_meet_right]⟩
    · rintro ⟨y, hy, hrel⟩
      rcases find?_addEndpoint_cases hadd hy with ⟨rfl, rfl⟩ | ⟨-, z, hz, rfl⟩
      · exact absurd (Endpoint.relate_eq_matched_iff.1 hrel) (Endpoint.not_suits_self _)
      · exact ⟨z, hz, by rwa [relate_meet_right] at hrel⟩
  · by_cases hb : b = gid
    · subst hb
      have hnot := h.not_mem_peers hfree hx
      simp only [find?_addEndpoint_new hadd, Option.some.injEq, exists_eq_left', relate_meet,
        Endpoint.relate_eq_matched_comm (a := x)]
      unfold meet
      split <;> simp [*]
    · have hpeer : b ∈ (meet gid (graph.newRecord new core) x).peers ↔ b ∈ x.peers := by
        unfold meet
        split <;> simp [hb]
      simp only [hpeer, h.mem_peers_iff hx b, relate_meet]
      constructor
      · rintro ⟨y, hy, hrel⟩
        exact ⟨_, find?_addEndpoint_old hadd hy, by rwa [relate_meet_right]⟩
      · rintro ⟨y, hy, hrel⟩
        rcases find?_addEndpoint_cases hadd hy with ⟨rfl, -⟩ | ⟨-, z, hz, rfl⟩
        · exact absurd rfl hb
        · exact ⟨z, hz, by rwa [relate_meet_right] at hrel⟩

theorem nodup_peers_addEndpoint (h : graph.Matched) {a : Gid} {x : Endpoint}
    (ha : graph'.endpoints.find? a = some x) : x.peers.Nodup := by
  rcases find?_addEndpoint_cases hadd ha with ⟨rfl, rfl⟩ | ⟨-, x, hx, rfl⟩
  · exact nodup_matchesOf ..
  · unfold meet
    split
    · refine List.nodup_append.2 ⟨h.nodup_peers hx, by simp, ?_⟩
      rintro k hk k' hk' rfl
      obtain rfl := List.mem_singleton.1 hk'
      exact h.not_mem_peers (addEndpoint_eq_ok hadd).1 hx hk
    · exact h.nodup_peers hx

theorem isLocal_iff_addEndpoint (h : graph.Matched) (a : Gid) :
    (graph'.locals.find? a).isSome ↔
      ∃ x, graph'.endpoints.find? a = some x ∧ x.isLocal = true := by
  obtain ⟨hfree, -, -, -, hlocals, -⟩ := addEndpoint_eq_ok hadd
  rw [hlocals]
  by_cases hag : a = gid
  · subst hag
    have hnone : (graph.locals.find? a).isSome = false := by
      rw [Bool.eq_false_iff]
      intro hsome
      obtain ⟨x, hx, -⟩ := (h.isLocal_iff a).1 hsome
      rw [hfree] at hx
      cases hx
    cases core <;> simp [find?_addEndpoint_new hadd, newRecord, hnone]
  · rw [if_neg (by simp [hag]), h.isLocal_iff]
    constructor
    · rintro ⟨x, hx, hx'⟩
      exact ⟨_, find?_addEndpoint_old hadd hx, by rwa [isLocal_meet]⟩
    · rintro ⟨x, hx, hx'⟩
      rcases find?_addEndpoint_cases hadd hx with ⟨rfl, -⟩ | ⟨-, z, hz, rfl⟩
      · exact absurd rfl hag
      · exact ⟨z, hz, by rwa [isLocal_meet] at hx'⟩

theorem addEndpoint (h : graph.Matched) : graph'.Matched where
  mem_peers_iff := h.mem_peers_iff_addEndpoint hadd
  nodup_peers := h.nodup_peers_addEndpoint hadd
  isLocal_iff := h.isLocal_iff_addEndpoint hadd

end Add

section Remove

variable (hrem : graph.removeEndpoint gid = some (graph', notices))

/-- Both ends hold a match, so that the records outside the match set of what is gone do not hold
it either. -/
theorem mem_peers_part (h : graph.Matched) {gone : Endpoint}
    (hgone : graph.endpoints.find? gid = some gone) {a : Gid} {x : Endpoint}
    (hx : graph.endpoints.find? a = some x) (b : Gid) :
    b ∈ (part gid gone a x).peers ↔ b ≠ gid ∧ b ∈ x.peers := by
  unfold part
  split
  · rw [(h.nodup_peers hx).mem_erase_iff]
  · next hnot =>
    refine ⟨fun hb => ⟨?_, hb⟩, fun hb => hb.2⟩
    rintro rfl
    obtain ⟨y, hy, hrel⟩ := (h.mem_peers_iff hx b).1 hb
    obtain rfl : y = gone := Option.some.inj (hy.symm.trans hgone)
    exact hnot ((h.mem_peers_iff hgone a).2 ⟨x, hx, Endpoint.relate_eq_matched_comm.1 hrel⟩)

include hrem

theorem removeEndpoint (h : graph.Matched) : graph'.Matched := by
  obtain ⟨gone, hgone, -, -, -, hlocals, -⟩ := removeEndpoint_eq_some hrem
  refine ⟨fun {a x} ha b => ?_, fun {a x} ha => ?_, fun a => ?_⟩
  · obtain ⟨-, x, hx, rfl⟩ := find?_removeEndpoint_cases hrem hgone ha
    simp only [h.mem_peers_part hgone hx, h.mem_peers_iff hx b, relate_part]
    constructor
    · rintro ⟨hb, y, hy, hrel⟩
      exact ⟨_, find?_removeEndpoint_old hrem hgone hb hy, by rwa [relate_part_right]⟩
    · rintro ⟨y, hy, hrel⟩
      obtain ⟨hb, z, hz, rfl⟩ := find?_removeEndpoint_cases hrem hgone hy
      exact ⟨hb, z, hz, by rwa [relate_part_right] at hrel⟩
  · obtain ⟨-, x, hx, rfl⟩ := find?_removeEndpoint_cases hrem hgone ha
    unfold part
    split
    · exact (h.nodup_peers hx).erase gid
    · exact h.nodup_peers hx
  · rw [hlocals]
    split
    · next hag =>
      constructor
      · intro hsome
        cases hsome
      · rintro ⟨x, hx, -⟩
        exact absurd hag (find?_removeEndpoint_cases hrem hgone hx).1
    · next hag =>
      rw [h.isLocal_iff]
      constructor
      · rintro ⟨x, hx, hx'⟩
        exact ⟨_, find?_removeEndpoint_old hrem hgone hag hx, by rwa [isLocal_part]⟩
      · rintro ⟨x, hx, hx'⟩
        obtain ⟨-, z, hz, rfl⟩ := find?_removeEndpoint_cases hrem hgone hx
        exact ⟨z, hz, by rwa [isLocal_part] at hx'⟩

end Remove

theorem modifyCore (h : graph.Matched) (gid : Gid) (f : Core → Core) :
    (graph.modifyCore gid f).Matched := by
  refine h.congr rfl fun k => ?_
  simp only [Graph.modifyCore, Table.find?_modify]
  split <;> simp

theorem step (h : graph.Matched) (hstep : Step graph graph') : graph'.Matched := by
  cases hstep with
  | addNode hadd =>
    unfold addNode at hadd
    split at hadd <;> cases hadd
    exact h.congr rfl fun _ => rfl
  | removeNode hrem =>
    unfold removeNode at hrem
    split at hrem <;> cases hrem
    exact h.congr rfl fun _ => rfl
  | addEndpoint hadd => exact h.addEndpoint hadd
  | removeEndpoint hrem => exact h.removeEndpoint hrem
  | clear =>
    unfold clear
    dsimp only
    split
    · exact h
    · exact empty.congr rfl fun _ => rfl
  | modifyCore gid f => exact h.modifyCore gid f

theorem course (h : graph.Matched) (hcourse : Course graph graph') : graph'.Matched := by
  induction hcourse with
  | refl => exact h
  | tail _ hstep ih => exact ih.step hstep

end Matched

/-- However a graph came about, membership in a match set is symmetric and means that both endpoints
are known and suit each other; nobody is matched with itself or with an endpoint that is not known. -/
theorem Course.mem_matchSet_iff_suits {graph : Graph} (h : Course .empty graph) :
    (∀ a b, a ≠ b →
      (b ∈ graph.matchSet a ↔ a ∈ graph.matchSet b) ∧
      (b ∈ graph.matchSet a ↔ ∃ x y, graph.endpoints.find? a = some x ∧
        graph.endpoints.find? b = some y ∧ x.Suits y)) ∧
    ∀ a, ∀ b ∈ graph.matchSet a, b ≠ a ∧ ∃ y, graph.endpoints.find? b = some y := by
  have hm : graph.Matched := Matched.empty.course h
  have key : ∀ a b, b ∈ graph.matchSet a ↔ ∃ x y, graph.endpoints.find? a = some x ∧
      graph.endpoints.find? b = some y ∧ x.Suits y := by
    intro a b
    rw [mem_matchSet]
    constructor
    · rintro ⟨x, hx, hb⟩
      obtain ⟨y, hy, hrel⟩ := (hm.mem_peers_iff hx b).1 hb
      exact ⟨x, y, hx, hy, Endpoint.relate_eq_matched_iff.1 hrel⟩
    · rintro ⟨x, y, hx, hy, hs⟩
      exact ⟨x, hx, (hm.mem_peers_iff hx b).2 ⟨y, hy, Endpoint.relate_eq_matched_iff.2 hs⟩⟩
  refine ⟨fun a b _ => ⟨?_, key a b⟩, fun a b hb => ?_⟩
  · rw [key, key]
    constructor
    · rintro ⟨x, y, hx, hy, hs⟩
      exact ⟨y, x, hy, hx, hs.symm⟩
    · rintro ⟨y, x, hy, hx, hs⟩
      exact ⟨x, y, hx, hy, hs.symm⟩
  · obtain ⟨x, y, hx, hy, hs⟩ := (key a b).1 hb
    refine ⟨?_, y, hy⟩
    rintro rfl
    obtain rfl : x = y := Option.some.inj (hx.symm.trans hy)
    exact x.not_suits_self hs

/-- A local publisher and a remote subscription are matched with each other. -/
theorem exists_matched_pair : ∃ graph a b, Course .empty graph ∧ a ≠ b ∧
    b ∈ graph.matchSet a ∧ a ∈ graph.matchSet b := by
  let talker : Endpoint :=
    { kind := .publisher, name := "chatter", typeName := "String", nodeName := "talker",
      nodeNamespace := "/", qos := .standard, isLocal := true }
  let listener : Endpoint :=
    { kind := .subscription, name := "chatter", typeName := "String", nodeName := "listener",
      nodeNamespace := "/far", qos := .sensorData, isLocal := false }
  let core : Core := { kind := .publisher, ignoresLocal := false, capacity := some 10 }
  have hcourse := (Relation.ReflTransGen.single
    (@Step.addEndpoint .empty _ (.mint 1 7 1) talker (some core) _ rfl)).tail
    (@Step.addEndpoint _ _ .zero listener none _ rfl)
  have hne : Gid.mint 1 7 1 ≠ Gid.zero := by decide
  have h := (Course.mem_matchSet_iff_suits hcourse).1 _ _ hne
  have hb := h.2.2 ⟨_, _, rfl, rfl, rfl, rfl, rfl, Or.inl rfl, fun _ => by decide, by decide⟩
  exact ⟨_, _, _, hcourse, hne, hb, h.1.1 hb⟩

end Graph

end PubSub
