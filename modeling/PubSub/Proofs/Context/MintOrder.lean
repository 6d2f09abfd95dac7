import PubSub.Proofs.Context.Answers
import PubSub.Proofs.Context.Frozen
import PubSub.Proofs.Context.Identifiers

/-!
# Endpoints in the order of their creation

A context mints identifiers that ascend until the numbers come round, no two contexts with different
instance numbers mint the same one, and since answers about endpoints are sorted by identifier, the
endpoints of a context are listed in the order in which they were created
(`Context.Course.ownGids_eq`).  `minting_contract` puts this together.
-/

namespace PubSub

/-! ## Own endpoints -/

/-- The identifiers of the local endpoints of one kind on a name, in the order of the answer. -/
def Graph.ownGids (graph : Graph) (kind : EndpointKind) (name : String) : List Gid :=
  ((graph.endpointInfos kind name).filter (·.endpoint.isLocal)).map (·.gid)

/-- The endpoints of one kind on a name that were created and not destroyed since, in the order of
their creation. -/
def heldOn (history : List Act) (kind : EndpointKind) (name : String) : List Holding :=
  ((held history).filter fun holding =>
    holding.handle.kind = kind && holding.handle.name = name).reverse

theorem mem_heldOn_iff {history : List Act} {kind : EndpointKind} {name : String}
    {holding : Holding} : holding ∈ heldOn history kind name ↔
      holding ∈ held history ∧ holding.handle.kind = kind ∧ holding.handle.name = name := by
  simp [heldOn]

/-- The endpoints that are held have identifiers that were minted for them, in the same order. -/
theorem held_sublist_minted (history : List Act) :
    ((held history).map Holding.gid).Sublist (minted history) := by
  induction history with
  | nil => exact List.Sublist.slnil
  | cons act earlier ih =>
    have hgrown : (minted earlier).Sublist (minted (act :: earlier)) :=
      (List.sublist_cons_self act earlier).filterMap _
    unfold held
    split
    · next heq => cases heq
    · next ignoresLocal handle rest heq =>
      obtain ⟨rfl, rfl⟩ := List.cons.inj heq
      exact ih.cons_cons handle.gid
    · next heq =>
      obtain ⟨rfl, rfl⟩ := List.cons.inj heq
      exact ((List.filter_sublist.map Holding.gid).trans ih).trans hgrown
    · next heq =>
      obtain ⟨rfl, rfl⟩ := List.cons.inj heq
      exact ih.trans hgrown

/-- The local endpoints of an answer are those that are held. -/
theorem Accounts.mem_ownGids_iff {graph : Graph} {history : List Act} {sent : Gid → Nat}
    (h : Accounts graph (held history) sent) {kind : EndpointKind} {name : String} {gid : Gid} :
    gid ∈ graph.ownGids kind name ↔ gid ∈ (heldOn history kind name).map Holding.gid := by
  simp only [Graph.ownGids, List.mem_map, List.mem_filter, Graph.mem_endpointInfos_iff,
    mem_heldOn_iff]
  constructor
  · rintro ⟨info, ⟨⟨hfind, hkind, hname⟩, hlocal⟩, rfl⟩
    obtain ⟨holding, hmem, hgid⟩ := List.mem_map.1
      (h.complete info.gid ((h.matched.isLocal_iff _).2 ⟨_, hfind, hlocal⟩))
    obtain ⟨record, hrecord, hkind', hname', -⟩ := (h.stands holding hmem).record
    rw [hgid, hfind] at hrecord
    cases hrecord
    exact ⟨holding, ⟨hmem, hkind'.symm.trans hkind, hname'.symm.trans hname⟩, hgid⟩
  · rintro ⟨holding, ⟨hmem, hkind, hname⟩, rfl⟩
    obtain ⟨record, hrecord, hkind', hname', -, -, hlocal⟩ := (h.stands holding hmem).record
    exact ⟨⟨holding.gid, record⟩, ⟨⟨hrecord, hkind'.trans hkind, hname'.trans hname⟩, hlocal⟩, rfl⟩

theorem Graph.ownGids_ascending (graph : Graph) (kind : EndpointKind) (name : String) :
    (graph.ownGids kind name).Pairwise (· < ·) := by
  rw [ownGids, List.pairwise_map]
  exact (graph.endpointInfos_ascending kind name).filter _

namespace Context

variable {ctx : Context} {history : List Act}

theorem Minted.heldOn_ascending (h : ctx.Minted history)
    (hshort : (minted history).length < UInt64.size) (kind : EndpointKind) (name : String) :
    ((heldOn history kind name).map Holding.gid).Pairwise (· < ·) := by
  have hheld := (h.descending hshort).sublist (held_sublist_minted history)
  rw [List.pairwise_map] at hheld
  rw [heldOn, List.pairwise_map, List.pairwise_reverse]
  exact hheld.filter _

/-- A context's own endpoints are listed in the order of their creation. -/
theorem Course.ownGids_eq (h : ctx.Course history)
    (hshort : (PubSub.minted history).length < UInt64.size) (kind : EndpointKind) (name : String) :
    ctx.graph.ownGids kind name = (heldOn history kind name).map Holding.gid :=
  eq_of_ascending Gid.lt_asymm (ctx.graph.ownGids_ascending kind name)
    (h.minted.heldOn_ascending hshort kind name) fun _ => h.accounts.mem_ownGids_iff

/-- What a context mints is no one else's. -/
theorem Course.disjoint_minted (h : ctx.Course history) {ctx' : Context} {history' : List Act}
    (h' : ctx'.Course history') (hne : ctx.instanceId ≠ ctx'.instanceId) :
    (PubSub.minted history).Disjoint (PubSub.minted history') := by
  intro gid hmem hmem'
  obtain ⟨i, hi⟩ := List.mem_iff_getElem?.1 (List.mem_reverse.2 hmem)
  obtain ⟨j, hj⟩ := List.mem_iff_getElem?.1 (List.mem_reverse.2 hmem')
  exact hne (Gid.mint_inj ((h.minted.getElem?_eq hi).symm.trans (h'.minted.getElem?_eq hj))).2.1

/-- What the identifiers are like that a context mints. -/
structure MintsInOrder (ctx : Context) (history : List Act) : Prop where
  /-- They are numbered from one on. -/
  numbered : ∀ i gid, (minted history).reverse[i]? = some gid →
    gid = Gid.mint ctx.gids.process ctx.instanceId (UInt64.ofNat (i + 1))
  ascending : ∀ i j a b, i < j → j + 1 < UInt64.size → (minted history).reverse[i]? = some a →
    (minted history).reverse[j]? = some b → a < b
  once : (minted history).length < UInt64.size → (minted history).Nodup
  apart : ∀ (ctx' : Context) (history' : List Act), ctx'.Course history' →
    ctx.instanceId ≠ ctx'.instanceId → (minted history).Disjoint (minted history')
  listed : (minted history).length < UInt64.size → ∀ kind name,
    ctx.graph.ownGids kind name = (heldOn history kind name).map Holding.gid

theorem Course.mintsInOrder (h : ctx.Course history) : ctx.MintsInOrder history where
  numbered _ _ := h.minted.getElem?_eq
  ascending i j a b hlt hj ha hb := by
    rw [h.minted.getElem?_eq ha, h.minted.getElem?_eq hb]
    refine Gid.mint_lt _ _ ?_
    rw [UInt64.lt_iff_toNat_lt, UInt64.toNat_ofNat_of_lt' (by omega), UInt64.toNat_ofNat_of_lt' hj]
    omega
  once := h.minted.nodup
  apart _ _ h' := h.disjoint_minted h'
  listed hshort := h.ownGids_eq hshort

end Context

/-- Identifiers of a context ascend with their numbers, and tell instances and numbers apart; so it is
with the identifiers that contexts mint whatever happens to them. -/
theorem minting_contract :
    (∀ (process instanceId : UInt32) (i j : UInt64), i < j →
      Gid.mint process instanceId i < Gid.mint process instanceId j) ∧
    (∀ (process process' instanceId instanceId' : UInt32) (i j : UInt64),
      (instanceId, i) ≠ (instanceId', j) →
        Gid.mint process instanceId i ≠ Gid.mint process' instanceId' j) ∧
    ∀ (ctx : Context) (history : List Act), ctx.Course history → ctx.MintsInOrder history := by
  refine ⟨fun process instanceId i j => Gid.mint_lt process instanceId, ?_,
    fun ctx history h => h.mintsInOrder⟩
  intro process process' instanceId instanceId' i j hne heq
  obtain ⟨-, rfl, rfl⟩ := Gid.mint_inj heq
  exact hne rfl

/-- The second of three publishers on a topic is destroyed, and a remote one that bears the identifier
of the fourth stands in its way.  Those left are listed in turn, and the first identifier of another
context is none of theirs. -/
theorem exists_minting_contract : ∃ (ctx ctx' : Context) (history history' : List Act),
    ctx.Course history ∧ ctx'.Course history' ∧ ctx.instanceId = 1 ∧ ctx'.instanceId = 2 ∧
    minted history = [.mint 7 1 5, .mint 7 1 4, .mint 7 1 3, .mint 7 1 2, .mint 7 1 1] ∧
    (minted history).Nodup ∧ Gid.mint 7 1 255 < Gid.mint 7 1 256 ∧
    Gid.mint 7 1 2 ≠ Gid.mint 7 2 1 ∧
    ctx.graph.ownGids .publisher "chatter" = [.mint 7 1 2, .mint 7 1 4] ∧
    ctx.graph.count .publisher "chatter" = 3 ∧
    minted history' = [.mint 7 2 1] ∧ (minted history).Disjoint (minted history') := by
  let talker : Node := ⟨.mint 7 1 1, "talker", "/"⟩
  let publish : Operation := .createEndpoint talker .publisher "chatter" "String" .standard false
  have hcreate (host : Host) := @Context.Course.create host _
    { domainId := 0, enclave := "/", discoveryRange := .localhost, discoveryPeers := [],
      instanceId := none, waitSetCapacity := 4, qosProfilePath := none } _ rfl
  have hstart := ((hcreate (.start 7)).perform
    (.createNode "talker" "/") trivial).perform (.announceEndpoint
      ⟨.mint 7 1 5, .publisher, "chatter", "String", "stray", "/", .standard⟩) trivial
  have hthree := ((hstart.perform publish trivial).perform publish trivial).perform publish trivial
  have hcourse := (hthree.perform (.destroyEndpoint
    ⟨.mint 7 1 3, .publisher, "chatter", "String", .standard⟩) trivial).perform publish trivial
  have hother := (hcreate ⟨7, 2⟩).perform (.createNode "listener" "/") trivial
  have horder := minting_contract.2.2 _ _ hcourse
  refine ⟨_, _, _, _, hcourse, hother, by decide +kernel, by decide +kernel, by decide +kernel,
    horder.once (by decide +kernel), minting_contract.1 7 1 255 256 (by decide),
    minting_contract.2.1 7 7 1 2 2 1 (by decide), ?_, by decide +kernel, by decide +kernel,
    horder.apart _ _ hother (by decide +kernel)⟩
  exact (horder.listed (by decide +kernel) .publisher "chatter").trans (by decide +kernel)

end PubSub
