import PubSub.Proofs.Context.Course

/-!
# Whom a message reaches

A publisher delivers to the local endpoints in its match set, which was built up as endpoints came
and went.  `Context.Course.publish_reaches_audience` states what that amounts to at the time of
publishing: the message is queued once at every subscription that is held and suits the publisher,
and nothing else changes.
-/

namespace PubSub

/-! ## The audience -/

/-- The subscription is meant to receive what the publisher publishes. -/
def Holding.Receives (s p : Holding) : Prop :=
  s.handle.kind = .subscription ∧ s.handle.name = p.handle.name ∧
    s.handle.typeName = p.handle.typeName ∧ s.ignoresLocal = false ∧
    ¬ Qos.Clashes p.handle.qos s.handle.qos

instance (s p : Holding) : Decidable (s.Receives p) :=
  inferInstanceAs (Decidable (_ ∧ _))

/-- The subscriptions that are meant to receive what a publisher publishes. -/
def audience (history : List Act) (p : Holding) : List Holding :=
  (held history).filter fun s => s.Receives p

/-- What is left of a queue when another message arrives at it: all but the oldest message if the
queue is full. -/
def Holding.roomFor (s : Holding) (queue : List Message) : List Message :=
  if s.handle.qos.queueCapacity = some queue.length then queue.tail else queue

/-! ## Delivery -/

theorem Graph.Matched.nodup_localPeers {graph : Graph} (h : graph.Matched) (gid : Gid) :
    (graph.localPeers gid).Nodup := by
  unfold Graph.localPeers
  split
  · exact List.nodup_nil
  · next record hrecord => exact List.filter_sublist.nodup (h.nodup_peers hrecord)

namespace Context

/-- The queues after a message was delivered to several endpoints. -/
theorem queue_deliverAll (ctx : Context) {receivers : List Gid} (hnodup : receivers.Nodup)
    (message : Message) (k : Gid) :
    (ctx.deliverAll receivers message).graph.queue k =
      if k ∈ receivers then
        ((ctx.graph.locals.find? k).map fun core => core.kept ++ [message]).getD []
      else ctx.graph.queue k := by
  unfold deliverAll
  induction receivers generalizing ctx with
  | nil => simp
  | cons gid rest ih =>
    obtain ⟨hnot, hrest⟩ := List.nodup_cons.1 hnodup
    have hfind := ctx.find?_locals_signal gid .data (·.enqueue message) k
    rw [List.foldl_cons, ih _ hrest]
    by_cases hk : k = gid
    · subst hk
      rw [if_neg hnot, if_pos List.mem_cons_self, Graph.queue, deliver, hfind, if_pos rfl]
      cases ctx.graph.locals.find? k <;> simp [Core.enqueue]
    · rw [if_neg hk] at hfind
      simp only [deliver, hfind, List.mem_cons, hk, false_or, Graph.queue]

section Delivered

variable (ctx : Context) (receivers : List Gid) (message : Message)

theorem version_deliverAll :
    (ctx.deliverAll receivers message).graph.version = ctx.graph.version := by
  unfold deliverAll
  induction receivers generalizing ctx with
  | nil => rfl
  | cons gid rest ih => exact (ih _).trans (version_signal ..)

theorem nodes_deliverAll : (ctx.deliverAll receivers message).graph.nodes = ctx.graph.nodes := by
  unfold deliverAll
  induction receivers generalizing ctx with
  | nil => rfl
  | cons gid rest ih => exact (ih _).trans (nodes_signal ..)

theorem guards_deliverAll :
    (ctx.deliverAll receivers message).board.guards = ctx.board.guards := by
  unfold deliverAll
  induction receivers generalizing ctx with
  | nil => rfl
  | cons gid rest ih => exact (ih _).trans (guards_signal ..)

end Delivered

theorem publish_eq (ctx : Context) (gid : Gid) (payload : List UInt8) :
    ctx.publish gid payload =
      (((ctx.nextSequence gid).2.receivers gid).length,
        (ctx.nextSequence gid).2.deliverAll ((ctx.nextSequence gid).2.receivers gid)
          ⟨payload, gid, (ctx.nextSequence gid).1⟩) :=
  rfl

theorem mem_receivers_iff {ctx : Context} (h : ctx.graph.Matched) {gid : Gid} {x : Endpoint}
    (hx : ctx.graph.endpoints.find? gid = some x) (k : Gid) :
    k ∈ ctx.receivers gid ↔ ∃ y core, ctx.graph.endpoints.find? k = some y ∧ x.Suits y ∧
      y.isLocal = true ∧ ctx.graph.locals.find? k = some core ∧ core.ignoresLocal = false := by
  simp only [receivers, Graph.localPeers, hx, List.mem_filter, h.mem_peers_iff hx,
    Endpoint.relate_eq_matched_iff, Option.any_eq_true, Bool.not_eq_true']
  constructor
  · rintro ⟨⟨⟨y, hy, hsuits⟩, y', hy', hlocal⟩, core, hcore, hign⟩
    obtain rfl : y = y' := Option.some.inj (hy.symm.trans hy')
    exact ⟨y, core, hy, hsuits, hlocal, hcore, hign⟩
  · rintro ⟨y, core, hy, hsuits, hlocal, hcore, hign⟩
    exact ⟨⟨⟨y, hy, hsuits⟩, y, hy, hlocal⟩, core, hcore, hign⟩

theorem nodup_receivers {ctx : Context} (h : ctx.graph.Matched) (gid : Gid) :
    (ctx.receivers gid).Nodup :=
  List.filter_sublist.nodup (h.nodup_localPeers gid)

end Context

/-! ## What publishing does -/

section Publish

variable {ctx : Context} {history : List Act} {sent : Gid → Nat} {p : Holding}

/-- The receivers found in the match set are the audience that the history tells of. -/
theorem Accounts.mem_receivers_iff_mem_audience (h : Accounts ctx.graph (held history) sent)
    (hp : p ∈ held history) (hpub : p.handle.kind = .publisher) (k : Gid) :
    k ∈ ctx.receivers p.gid ↔ k ∈ (audience history p).map Holding.gid := by
  obtain ⟨x, hx, hxkind, hxname, hxtype, hxqos, hxlocal⟩ := (h.stands p hp).record
  have hxkind : x.kind = .publisher := hxkind.trans hpub
  rw [Context.mem_receivers_iff h.matched hx, List.mem_map]
  constructor
  · rintro ⟨y, core, hy, hsuits, hlocal, hcore, hign⟩
    obtain ⟨s, hs, rfl⟩ := List.mem_map.1 (h.complete k (by rw [hcore]; rfl))
    obtain ⟨⟨y', hy', hkind, hname, htype, hqos, -⟩, core', hcore', -, hign', -⟩ := h.stands s hs
    obtain rfl : y = y' := Option.some.inj (hy.symm.trans hy')
    obtain rfl : core = core' := Option.some.inj (hcore.symm.trans hcore')
    obtain ⟨hkind', hname', htype', -, hclash, -⟩ := hsuits
    refine ⟨s, List.mem_filter.2 ⟨hs, decide_eq_true ⟨?_, ?_, ?_, ?_, ?_⟩⟩, rfl⟩
    · rw [← hkind, hkind', hxkind]
      rfl
    · rw [← hname, hname', hxname]
    · rw [← htype, htype', hxtype]
    · rw [← hign', hign]
    · rw [← hqos, ← hxqos]
      exact hclash hxkind
  · rintro ⟨s, hs, rfl⟩
    obtain ⟨hs, hreceives⟩ := List.mem_filter.1 hs
    obtain ⟨hskind, hsname, hstype, hsign, hsclash⟩ := of_decide_eq_true hreceives
    obtain ⟨⟨y, hy, hkind, hname, htype, hqos, hlocal⟩, core, hcore, -, hign, -⟩ := h.stands s hs
    refine ⟨y, core, hy, ⟨?_, ?_, ?_, Or.inl hxlocal, fun _ => ?_, fun hsub => ?_⟩, hlocal, hcore,
      hign.trans hsign⟩
    · rw [hkind, hskind, hxkind]
      rfl
    · rw [hname, hsname, hxname]
    · rw [htype, hstype, hxtype]
    · rwa [hqos, hxqos]
    · rw [hxkind] at hsub
      cases hsub

theorem Accounts.nodup_audience (h : Accounts ctx.graph (held history) sent) :
    ((audience history p).map Holding.gid).Nodup :=
  (List.filter_sublist.map Holding.gid).nodup h.nodup

/-- The next message of a publisher is numbered by how often it has published. -/
theorem Accounts.nextSequence_fst (h : Accounts ctx.graph (held history) sent)
    (hp : p ∈ held history) (hpub : p.handle.kind = .publisher) :
    (ctx.nextSequence p.gid).1 = sent p.gid + 1 := by
  obtain ⟨core, hcore, hkind, -, -, -, hsent⟩ := (h.stands p hp).core
  show ((ctx.graph.locals.find? p.gid).map (·.sent)).getD 0 + 1 = _
  rw [hcore]
  exact congrArg (· + 1) (hsent (hkind.trans hpub))

theorem Context.queue_nextSequence (ctx : Context) (gid k : Gid) :
    (ctx.nextSequence gid).2.graph.queue k = ctx.graph.queue k := by
  unfold nextSequence Graph.queue
  dsimp only
  rw [Graph.find?_modifyCore]
  split
  · cases ctx.graph.locals.find? k <;> rfl
  · rfl

/-- What a message makes of the queue of a subscription. -/
theorem Accounts.kept_eq_roomFor {graph : Graph} {holdings : List Holding}
    (h : Accounts graph holdings sent) {s : Holding} (hs : s ∈ holdings) (message : Message) :
    ((graph.locals.find? s.gid).map fun core => core.kept ++ [message]).getD [] =
      s.roomFor (graph.queue s.gid) ++ [message] := by
  obtain ⟨core, hcore, -, -, hcap, hfits, -⟩ := (h.stands s hs).core
  rw [Graph.queue_eq hcore, hcore, Option.map_some, Option.getD_some, hfits.kept_eq, hcap]
  rfl

/-- A message that is delivered arrives at the end of a queue, or nothing changes there. -/
theorem Accounts.queue_deliverAll {holdings : List Holding} (h : Accounts ctx.graph holdings sent)
    {s : Holding} (hs : s ∈ holdings) {receivers : List Gid} (hnodup : receivers.Nodup)
    (message : Message) :
    (ctx.deliverAll receivers message).graph.queue s.gid = ctx.graph.queue s.gid ∨
    s.gid ∈ receivers ∧ (ctx.deliverAll receivers message).graph.queue s.gid =
      s.roomFor (ctx.graph.queue s.gid) ++ [message] := by
  rw [Context.queue_deliverAll _ hnodup]
  split
  · next hmem => exact Or.inr ⟨hmem, h.kept_eq_roomFor hs message⟩
  · exact Or.inl rfl

/-- The local peers of an endpoint are its counterparts with the same name and type. -/
theorem Accounts.suits_of_mem_localPeers {graph : Graph} {holdings : List Holding}
    (h : Accounts graph holdings sent) {a b : Holding} (ha : a ∈ holdings) (hb : b ∈ holdings)
    (hmem : b.gid ∈ graph.localPeers a.gid) :
    b.handle.kind = a.handle.kind.counterpart ∧ b.handle.name = a.handle.name ∧
      b.handle.typeName = a.handle.typeName := by
  obtain ⟨x, hx, hxkind, hxname, hxtype, -⟩ := (h.stands a ha).record
  obtain ⟨y, hy, hykind, hyname, hytype, -⟩ := (h.stands b hb).record
  unfold Graph.localPeers at hmem
  rw [hx] at hmem
  obtain ⟨y', hy', hrelate⟩ := (h.matched.mem_peers_iff hx b.gid).1 (List.mem_filter.1 hmem).1
  obtain rfl : y = y' := Option.some.inj (hy.symm.trans hy')
  obtain ⟨hkind, hname, htype, -⟩ := Endpoint.relate_eq_matched_iff.1 hrelate
  exact ⟨hykind ▸ hxkind ▸ hkind, hyname ▸ hxname ▸ hname, hytype ▸ hxtype ▸ htype⟩

/-- Publishing reaches exactly the subscriptions that are held and suit the publisher, which are as
many as the reply says: the message is queued at each of them, numbered by the earlier messages of
the publisher.  No other queue changes, nor does any record with its match set, the version of the
graph, or a guard. -/
theorem Context.Course.publish_reaches_audience (h : ctx.Course history) (hp : p ∈ held history)
    (hpub : p.handle.kind = .publisher) (payload : List UInt8) :
    ∃ ctx', (Operation.publish p.gid payload).perform ctx =
        (.ok (.number (audience history p).length), ctx') ∧
      ((audience history p).map Holding.gid).Nodup ∧
      (∀ s ∈ audience history p, ctx'.graph.queue s.gid =
        s.roomFor (ctx.graph.queue s.gid) ++ [⟨payload, p.gid, published history p.gid + 1⟩]) ∧
      (∀ k, k ∉ (audience history p).map Holding.gid →
        ctx'.graph.queue k = ctx.graph.queue k) ∧
      ctx'.graph.endpoints = ctx.graph.endpoints ∧ ctx'.graph.nodes = ctx.graph.nodes ∧
      ctx'.graph.version = ctx.graph.version ∧ ctx'.board.guards = ctx.board.guards := by
  have hacc := h.accounts
  -- The receivers are looked up after the sender was counted, which leaves the endpoints alone.
  have hacc' := hacc.counted p.gid
  have hmem := hacc'.mem_receivers_iff_mem_audience hp hpub
  have hnodup := Context.nodup_receivers hacc'.matched p.gid
  have hperm : ((ctx.nextSequence p.gid).2.receivers p.gid).Perm
      ((audience history p).map Holding.gid) :=
    (List.perm_ext_iff_of_nodup hnodup hacc.nodup_audience).2 hmem
  have hnumber := hacc.nextSequence_fst hp hpub
  simp only [Operation.perform, Operation.succeed, publish_eq]
  refine ⟨_, Prod.ext ?_ rfl, hacc.nodup_audience, fun s hs => ?_, fun k hk => ?_, ?_,
    nodes_deliverAll .., version_deliverAll .., guards_deliverAll ..⟩
  · rw [hperm.length_eq, List.length_map]
  · have hreceives := (hmem s.gid).2 (List.mem_map_of_mem hs)
    have hheld := (List.mem_filter.1 hs).1
    rw [queue_deliverAll _ hnodup, if_pos hreceives, hacc'.kept_eq_roomFor hheld,
      queue_nextSequence, hnumber]
    rfl
  · rw [queue_deliverAll _ hnodup, if_neg (mt (hmem k).1 hk), queue_nextSequence]
  · exact ((ctx.nextSequence p.gid).2.kept_deliverAll ..).endpoints

end Publish

/-- A subscription on the topic of a publisher receives what it publishes. -/
theorem Context.Course.exists_publish_reaching : ∃ ctx history p s ctx',
    Context.Course ctx history ∧ p ∈ held history ∧ p.handle.kind = .publisher ∧
    s ∈ audience history p ∧
    (Operation.publish p.gid [7]).perform ctx = (.ok (.number 1), ctx') ∧
    ctx'.graph.queue s.gid = [⟨[7], p.gid, 1⟩] := by
  let talker : Holding := ⟨⟨.mint 7 1 2, .publisher, "chatter", "String", .standard⟩, false⟩
  let listener : Holding := ⟨⟨.mint 7 1 3, .subscription, "chatter", "String", .standard⟩, false⟩
  have hcreate := @Course.create (.start 7) _
    { domainId := 0, enclave := "/", discoveryRange := .localhost, discoveryPeers := [],
      instanceId := none, waitSetCapacity := 4, qosProfilePath := none } _ rfl
  have hcourse := ((hcreate.perform (.createNode "talker" "/") trivial).perform
    (.createEndpoint ⟨.mint 7 1 1, "talker", "/"⟩ .publisher "chatter" "String" .standard false)
      trivial).perform
    (.createEndpoint ⟨.mint 7 1 1, "talker", "/"⟩ .subscription "chatter" "String" .standard false)
      trivial
  obtain ⟨ctx', hreply, -, hqueue, -⟩ := hcourse.publish_reaches_audience (p := talker)
    (List.mem_cons_of_mem _ List.mem_cons_self) rfl [7]
  exact ⟨_, _, talker, listener, ctx', hcourse, List.mem_cons_of_mem _ List.mem_cons_self, rfl,
    List.mem_cons_self, hreply, hqueue listener List.mem_cons_self⟩

end PubSub
