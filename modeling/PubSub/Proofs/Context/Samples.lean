import PubSub.Proofs.Context.Exchange
import PubSub.Proofs.Context.Publish

/-!
# Samples in the order of their numbers

A publisher numbers its messages, and they are queued in that order.  When operations run one at a
time, what was taken from a subscription and what still waits there is numbered in ascending order,
for each publisher by itself (`Sampling`).  Together with the balance of the ledgers this says what a
queue does with messages (`queue_contract`).
-/

namespace PubSub

/-! ## Ascending numbers -/

/-- The messages of one source are numbered in ascending order, up to a bound. -/
structure Ascending (messages : List Message) (source : Gid) (bound : Nat) : Prop where
  ordered : (messages.filter (·.source = source)).Pairwise (·.sequence < ·.sequence)
  bounded : ∀ m ∈ messages, m.source = source → m.sequence ≤ bound

namespace Ascending

variable {messages messages' : List Message} {source : Gid} {bound bound' : Nat}

/-- Nothing is said about a source without messages. -/
theorem of_absent (h : ∀ m ∈ messages, m.source ≠ source) : Ascending messages source bound where
  ordered := by
    rw [List.filter_eq_nil_iff.2 fun m hm => by simpa using h m hm]
    exact .nil
  bounded m hm hsource := absurd hsource (h m hm)

theorem sublist (h : Ascending messages source bound) (hsub : messages'.Sublist messages)
    (hle : bound ≤ bound') : Ascending messages' source bound' where
  ordered := h.ordered.sublist (hsub.filter _)
  bounded m hm hsource := by
    have := h.bounded m (hsub.subset hm) hsource
    omega

/-- The next message of the source has the next number. -/
theorem append (h : Ascending messages source bound) {message : Message}
    (hnumber : message.sequence = bound + 1) :
    Ascending (messages ++ [message]) source (bound + 1) where
  ordered := by
    rw [List.filter_append, List.pairwise_append]
    refine ⟨h.ordered, ?_, fun m hm m' hm' => ?_⟩
    · exact (List.pairwise_singleton _ message).sublist List.filter_sublist
    · obtain ⟨hmem, hsource⟩ := List.mem_filter.1 hm
      obtain rfl := List.mem_singleton.1 (List.filter_sublist.subset hm')
      have := h.bounded m hmem (of_decide_eq_true hsource)
      omega
  bounded m hm hsource := by
    rcases List.mem_append.1 hm with hm | hm
    · have := h.bounded m hm hsource
      omega
    · rw [List.mem_singleton.1 hm, hnumber]
      omega

theorem append_other (h : Ascending messages source bound) {message : Message}
    (hne : message.source ≠ source) : Ascending (messages ++ [message]) source bound where
  ordered := by
    have hnone : [message].filter (·.source = source) = [] :=
      List.filter_eq_nil_iff.2 (by simpa using hne)
    rw [List.filter_append, hnone, List.append_nil]
    exact h.ordered
  bounded m hm hsource := by
    rcases List.mem_append.1 hm with hm | hm
    · exact h.bounded m hm hsource
    · rw [List.mem_singleton.1 hm] at hsource
      exact absurd hsource hne

end Ascending

/-! ## What the history says about samples -/

/-- The messages taken from a subscription since it was created, oldest first. -/
def sampled : List Act → Gid → List Message
  | [], _ => []
  | ⟨.createEndpoint .., .ok (.endpoint handle)⟩ :: earlier, gid =>
    if gid = handle.gid then [] else sampled earlier gid
  | ⟨.take taken, .ok (.message message)⟩ :: earlier, gid =>
    if gid = taken then sampled earlier gid ++ message.toList else sampled earlier gid
  | ⟨.takeSequence taken _, .ok (.messages messages)⟩ :: earlier, gid =>
    if gid = taken then sampled earlier gid ++ messages else sampled earlier gid
  | _ :: earlier, gid => sampled earlier gid

/-- How many endpoints an identifier was given to. -/
def timesGiven (history : List Act) (gid : Gid) : Nat :=
  history.countP fun act => (Operation.created act.reply).any (·.gid = gid)

theorem timesGiven_le_cons (act : Act) (history : List Act) (gid : Gid) :
    timesGiven history gid ≤ timesGiven (act :: history) gid :=
  (List.sublist_cons_self act history).countP_le

theorem timesGiven_cons_created (operation : Operation) (handle : Handle) (history : List Act)
    (gid : Gid) :
    timesGiven (⟨operation, .ok (.endpoint handle)⟩ :: history) gid =
      timesGiven history gid + if handle.gid = gid then 1 else 0 := by
  unfold timesGiven
  rw [List.countP_cons]
  simp [Operation.created]

/-- The identifier of an endpoint that is held was given to it. -/
theorem timesGiven_pos {history : List Act} {holding : Holding} (h : holding ∈ held history) :
    0 < timesGiven history holding.gid := by
  induction history with
  | nil => cases h
  | cons act earlier ih =>
    have hle := timesGiven_le_cons act earlier holding.gid
    unfold held at h
    split at h
    · next heq => cases heq
    · next handle ignoresLocal rest heq =>
      obtain ⟨rfl, rfl⟩ := List.cons.inj heq
      rcases List.mem_cons.1 h with rfl | h
      · unfold timesGiven
        rw [List.countP_cons_of_pos (by simp [Operation.created, Holding.gid])]
        omega
      · have := ih h
        omega
    · next heq =>
      obtain ⟨rfl, rfl⟩ := List.cons.inj heq
      have := ih (List.mem_filter.1 h).1
      omega
    · next heq =>
      obtain ⟨rfl, rfl⟩ := List.cons.inj heq
      have := ih h
      omega

section Quiet

variable {operation : Operation} {reply : Except Error Reply} (history : List Act)

theorem timesGiven_cons (hreply : Operation.created reply = none) (gid : Gid) :
    timesGiven (⟨operation, reply⟩ :: history) gid = timesGiven history gid := by
  unfold timesGiven
  rw [List.countP_cons_of_neg (by simp [hreply])]

theorem held_cons_subset (hreply : Operation.created reply = none) :
    held (⟨operation, reply⟩ :: history) ⊆ held history := by
  intro holding h
  rw [held.eq_def] at h
  split at h
  · next heq => cases heq
  · next heq =>
    obtain ⟨heq, rfl⟩ := List.cons.inj heq
    cases heq
    cases hreply
  · next heq =>
    obtain ⟨heq, rfl⟩ := List.cons.inj heq
    exact (List.mem_filter.1 h).1
  · next heq =>
    obtain ⟨heq, rfl⟩ := List.cons.inj heq
    exact h

theorem sampled_cons_of_quiet (hquiet : operation.Quiet) (hreply : Operation.created reply = none)
    (gid : Gid) : sampled (⟨operation, reply⟩ :: history) gid = sampled history gid := by
  rw [sampled.eq_def]
  split
  · next heq => cases heq
  · next heq =>
    cases heq
    cases hreply
  · next heq =>
    cases heq
    exact hquiet.elim
  · next heq =>
    cases heq
    exact hquiet.elim
  · next heq =>
    cases heq
    rfl

theorem published_cons_of_quiet (hquiet : operation.Quiet)
    (hreply : Operation.created reply = none) (gid : Gid) :
    published (⟨operation, reply⟩ :: history) gid = published history gid := by
  rw [published.eq_def]
  split
  · next heq => cases heq
  · next heq =>
    cases heq
    cases hreply
  · next heq =>
    cases heq
    exact hquiet.elim
  · next heq =>
    cases heq
    rfl

end Quiet

/-! ## What is sent -/

namespace Accounts

variable {ctx : Context} {history : List Act} {sent : Gid → Nat} {s : Holding}

/-- The peers of a client are services. -/
theorem notMem_localPeers (h : Accounts ctx.graph (held history) sent) (hs : s ∈ held history)
    (hsub : s.handle.kind = .subscription) {gid : Gid} {core : Core}
    (hcore : ctx.graph.locals.find? gid = some core) (hclient : core.kind = .client) :
    s.gid ∉ ctx.graph.localPeers gid := by
  intro hmem
  obtain ⟨c, hc, rfl, hkind⟩ := h.exists_mem_of_core hcore
  have hcounterpart := (h.suits_of_mem_localPeers hc hs hmem).1
  rw [hsub, hkind, hclient] at hcounterpart
  cases hcounterpart

/-- A message that is published arrives in the queue of a subscription, or nothing changes there. -/
theorem queue_publish (h : Accounts ctx.graph (held history) (published history))
    (hs : s ∈ held history) (gid : Gid) (payload : List UInt8) :
    (ctx.publish gid payload).2.graph.queue s.gid = ctx.graph.queue s.gid ∨
    (ctx.publish gid payload).2.graph.queue s.gid =
      s.roomFor (ctx.graph.queue s.gid) ++ [⟨payload, gid, (ctx.nextSequence gid).1⟩] := by
  have h' := h.counted gid
  have hcases := h'.queue_deliverAll hs (Context.nodup_receivers h'.matched gid)
    ⟨payload, gid, (ctx.nextSequence gid).1⟩
  rw [Context.queue_nextSequence] at hcases
  exact hcases.imp_right And.right

end Accounts

theorem Holding.roomFor_sublist (s : Holding) (queue : List Message) :
    (s.roomFor queue).Sublist queue := by
  unfold roomFor
  split
  · exact List.tail_sublist queue
  · exact .refl queue

/-! ## Operations one at a time -/

/-- What was taken from each subscription and what waits there, as far as it comes from one publisher,
is numbered in ascending order, and there is nothing before the publisher was created. -/
structure Sampling (history : List Act) (graph : Graph) (p : Gid) : Prop where
  ascending : ∀ s ∈ held history, s.handle.kind = .subscription →
    Ascending (sampled history s.gid ++ graph.queue s.gid) p (published history p)
  silent : timesGiven history p = 0 → ∀ s ∈ held history, s.handle.kind = .subscription →
    ∀ m ∈ sampled history s.gid ++ graph.queue s.gid, m.source ≠ p

namespace Sampling

variable {ctx : Context} {history history' : List Act} {graph graph' : Graph} {p : Gid}
  {operation : Operation}

/-- Messages may go. -/
theorem of_sublist (h : Sampling history graph p) (hheld : held history' ⊆ held history)
    (hsub : ∀ s ∈ held history', s.handle.kind = .subscription →
      (sampled history' s.gid ++ graph'.queue s.gid).Sublist
        (sampled history s.gid ++ graph.queue s.gid))
    (hsent : published history p ≤ published history' p)
    (htimes : timesGiven history' p = timesGiven history p) : Sampling history' graph' p where
  ascending s hs hkind := (h.ascending s (hheld hs) hkind).sublist (hsub s hs hkind) hsent
  silent hnone s hs hkind m hm :=
    h.silent (htimes ▸ hnone) s (hheld hs) hkind m ((hsub s hs hkind).subset hm)

/-- A new subscription has nothing, and nobody has anything from a new publisher. -/
theorem created (h : Sampling history ctx.graph p)
    (hacc : Accounts ctx.graph (held history) (published history)) {node : Node}
    {kind : EndpointKind} {name typeName : String} {qos : Qos.Profile} {ignoresLocal : Bool}
    {handle : Handle} (hnew : ctx.graph.endpoints.find? handle.gid = none)
    (hbox : ∀ k, graph'.box k =
      if k = handle.gid then some (handle.qos.queueCapacity, []) else ctx.graph.box k)
    (honce : timesGiven (⟨.createEndpoint node kind name typeName qos ignoresLocal,
      .ok (.endpoint handle)⟩ :: history) p ≤ 1) :
    Sampling (⟨.createEndpoint node kind name typeName qos ignoresLocal,
      .ok (.endpoint handle)⟩ :: history) graph' p := by
  let act : Act := ⟨.createEndpoint node kind name typeName qos ignoresLocal, .ok (.endpoint handle)⟩
  have hold : ∀ s ∈ held history, s.gid ≠ handle.gid := by
    intro s hs heq
    obtain ⟨record, hrecord, -⟩ := (hacc.stands s hs).record
    rw [heq, hnew] at hrecord
    cases hrecord
  have hgot : ∀ s ∈ held history, sampled (act :: history) s.gid ++ graph'.queue s.gid =
      sampled history s.gid ++ ctx.graph.queue s.gid := by
    intro s hs
    rw [Graph.queue_eq_box, hbox, if_neg (hold s hs), ← Graph.queue_eq_box]
    exact congrArg (· ++ _) (if_neg (hold s hs))
  have hnothing : sampled (act :: history) handle.gid ++ graph'.queue handle.gid = [] := by
    rw [Graph.queue_eq_box, hbox, if_pos rfl]
    exact congrArg (· ++ _) (if_pos rfl)
  rw [timesGiven_cons_created] at honce
  refine ⟨fun s hs hkind => ?_, fun hnone s hs hkind => ?_⟩
  · rcases List.mem_cons.1 hs with rfl | hs
    · rw [show Holding.gid ⟨handle, ignoresLocal⟩ = handle.gid from rfl, hnothing]
      exact .of_absent fun m hm => nomatch hm
    · rw [hgot s hs]
      by_cases hp : p = handle.gid
      · subst hp
        rw [if_pos rfl] at honce
        exact .of_absent (h.silent (by omega) s hs hkind)
      · rw [show published (act :: history) p = published history p from if_neg hp]
        exact h.ascending s hs hkind
  · rw [timesGiven_cons_created] at hnone
    rcases List.mem_cons.1 hs with rfl | hs
    · rw [show Holding.gid ⟨handle, ignoresLocal⟩ = handle.gid from rfl, hnothing]
      exact fun m hm => nomatch hm
    · rw [hgot s hs]
      exact h.silent (by omega) s hs hkind

/-- Operations that move no messages. -/
theorem quiet (h : Sampling history ctx.graph p)
    (hacc : Accounts ctx.graph (held history) (published history)) (hquiet : operation.Quiet)
    (honce : timesGiven (⟨operation, (operation.perform ctx).1⟩ :: history) p ≤ 1) :
    Sampling (⟨operation, (operation.perform ctx).1⟩ :: history)
      (operation.perform ctx).2.graph p := by
  have hcalm := hquiet.calm ctx
  generalize (operation.perform ctx).1 = reply at hcalm honce
  generalize (operation.perform ctx).2.graph = after at hcalm
  cases hcalm with
  | still hbox hreply =>
    refine h.of_sublist (held_cons_subset history hreply) (fun s _ _ => ?_)
      (Nat.le_of_eq (published_cons_of_quiet history hquiet hreply p).symm)
      (timesGiven_cons history hreply p)
    rw [sampled_cons_of_quiet history hquiet hreply, Graph.queue_eq_box, hbox, ← Graph.queue_eq_box]
  | created _ hnew hbox => exact h.created hacc hnew hbox honce
  | @destroyed handle hbox =>
    refine h.of_sublist (List.filter_subset_self _) (fun s hs _ => ?_) (Nat.le_refl _)
      (timesGiven_cons history rfl p)
    have hne : s.gid ≠ handle.gid := of_decide_eq_true (List.mem_filter.1 hs).2
    rw [Graph.queue_eq_box, hbox, if_neg hne, ← Graph.queue_eq_box]
    exact .refl _

/-- What is taken goes from the queue to the samples. -/
theorem of_taken (h : Sampling history ctx.graph p) {reply : Except Error Reply} {ctx' : Context}
    {gid : Gid} {messages : List Message} (hreply : Operation.created reply = none)
    (hqueue : ∀ k, ctx.graph.queue k =
      (if k = gid then messages else []) ++ ctx'.graph.queue k)
    (hsampled : ∀ k, sampled (⟨operation, reply⟩ :: history) k =
      if k = gid then sampled history k ++ messages else sampled history k)
    (hsent : published history p ≤ published (⟨operation, reply⟩ :: history) p) :
    Sampling (⟨operation, reply⟩ :: history) ctx'.graph p := by
  refine h.of_sublist (held_cons_subset history hreply) (fun s _ _ => ?_) hsent
    (timesGiven_cons history hreply p)
  rw [hqueue, hsampled]
  split
  · rw [List.append_assoc]
  · exact .refl _

/-- What is not taken as a sample just leaves the queue. -/
theorem of_dropped (h : Sampling history ctx.graph p) {reply : Except Error Reply} {ctx' : Context}
    (hreply : Operation.created reply = none)
    (hqueue : ∀ s ∈ held history, s.handle.kind = .subscription →
      (ctx'.graph.queue s.gid).Sublist (ctx.graph.queue s.gid))
    (hsampled : ∀ k, sampled (⟨operation, reply⟩ :: history) k = sampled history k)
    (hsent : published history p ≤ published (⟨operation, reply⟩ :: history) p) :
    Sampling (⟨operation, reply⟩ :: history) ctx'.graph p := by
  refine h.of_sublist (held_cons_subset history hreply) (fun s hs hkind => ?_) hsent
    (timesGiven_cons history hreply p)
  rw [hsampled]
  exact (hqueue s (held_cons_subset history hreply hs) hkind).append_left _

theorem publish (h : Sampling history ctx.graph p)
    (hacc : Accounts ctx.graph (held history) (published history)) {gid : Gid}
    {payload : List UInt8} (hproper : (Operation.publish gid payload).Proper ctx)
    (reply : Except Error Reply) (hreply : Operation.created reply = none) :
    Sampling (⟨.publish gid payload, reply⟩ :: history) (ctx.publish gid payload).2.graph p := by
  obtain ⟨core, hcore, hkind⟩ := hproper
  obtain ⟨sender, hsender, rfl, hkind'⟩ := hacc.exists_mem_of_core hcore
  have hnumber := hacc.nextSequence_fst hsender (hkind'.trans hkind)
  have hpublished : published (⟨.publish sender.gid payload, reply⟩ :: history) p =
      if p = sender.gid then published history p + 1 else published history p := rfl
  refine ⟨fun s hs hsub => ?_, fun hnone s hs hsub m hm => ?_⟩
  · show Ascending (sampled history s.gid ++ _) p _
    have hasc := h.ascending s hs hsub
    have hkept := (s.roomFor_sublist (ctx.graph.queue s.gid)).append_left (sampled history s.gid)
    rw [hpublished]
    rcases hacc.queue_publish hs sender.gid payload with hsame | hqueued
    · rw [hsame]
      refine hasc.sublist (.refl _) ?_
      split <;> omega
    · rw [hqueued, ← List.append_assoc, hnumber]
      split
      · next heq =>
        subst heq
        exact (hasc.sublist hkept (Nat.le_refl _)).append rfl
      · next hne => exact (hasc.sublist hkept (Nat.le_refl _)).append_other (Ne.symm hne)
  · rw [timesGiven_cons history hreply] at hnone
    have hsilent := h.silent hnone s hs hsub
    have hne : sender.gid ≠ p := by
      rintro rfl
      exact absurd (timesGiven_pos hsender) (by omega)
    replace hm : m ∈ sampled history s.gid ++ _ := hm
    rcases hacc.queue_publish hs sender.gid payload with hsame | hqueued
    · rw [hsame] at hm
      exact hsilent m hm
    · rw [hqueued, ← List.append_assoc] at hm
      rcases List.mem_append.1 hm with hm | hm
      · exact hsilent m (((s.roomFor_sublist _).append_left _).subset hm)
      · rw [List.mem_singleton.1 hm]
        exact hne

/-- Answers go to clients. -/
theorem sendResponse (h : Sampling history ctx.graph p)
    (hacc : Accounts ctx.graph (held history) (published history)) (gid : Gid)
    (request : RequestId) (payload : List UInt8) (reply : Except Error Reply)
    (hreply : Operation.created reply = none) :
    Sampling (⟨.sendResponse gid request payload, reply⟩ :: history)
      (ctx.sendResponse gid request payload).2.graph p := by
  refine h.of_dropped hreply (fun s hs hsub => ?_) (fun k => rfl) (Nat.le_refl _)
  unfold Context.sendResponse
  split
  · exact .refl _
  · next core hcore =>
    split
    · exact .refl _
    · next hclient =>
      have hne : s.gid ≠ request.writer := by
        intro heq
        obtain ⟨core', hcore', hkind, -⟩ := (hacc.stands s hs).core
        rw [heq, hcore] at hcore'
        obtain rfl := Option.some.inj hcore'
        rw [hsub] at hkind
        exact hclient (by rw [hkind]; nofun)
      rw [ctx.queue_deliver_of_ne hne]

/-- Requests go to services. -/
theorem sendRequest (h : Sampling history ctx.graph p)
    (hacc : Accounts ctx.graph (held history) (published history)) {gid : Gid}
    {payload : List UInt8} (hproper : (Operation.sendRequest gid payload).Proper ctx)
    (reply : Except Error Reply) (hreply : Operation.created reply = none) :
    Sampling (⟨.sendRequest gid payload, reply⟩ :: history)
      (ctx.sendRequest gid payload).2.graph p := by
  obtain ⟨core, hcore, hclient⟩ := hproper
  refine h.of_dropped hreply (fun s hs hsub => ?_) (fun k => rfl) (Nat.le_refl _)
  have hsame : (ctx.sendRequest gid payload).2.graph.queue s.gid =
      (ctx.nextSequence gid).2.graph.queue s.gid :=
    Context.queue_deliverAll_of_notMem _ (hacc.notMem_localPeers hs hsub hcore hclient) _
  rw [hsame, Context.queue_nextSequence]

theorem takeSequence (h : Sampling history ctx.graph p) (gid : Gid) (count : Nat) :
    Sampling (⟨.takeSequence gid count, (ctx.takeSequence gid count).1.map .messages⟩ :: history)
      (ctx.takeSequence gid count).2.graph p := by
  unfold Context.takeSequence
  split
  · exact h.of_dropped rfl (fun _ _ _ => .refl _) (fun k => rfl) (Nat.le_refl _)
  · exact h.of_taken rfl (ctx.queue_eq_takeUpTo gid count) (fun k => rfl) (Nat.le_refl _)

/-- Every operation keeps what was sampled in order. -/
theorem perform (h : Sampling history ctx.graph p)
    (hacc : Accounts ctx.graph (held history) (published history))
    (hproper : operation.Proper ctx)
    (honce : timesGiven (⟨operation, (operation.perform ctx).1⟩ :: history) p ≤ 1) :
    Sampling (⟨operation, (operation.perform ctx).1⟩ :: history)
      (operation.perform ctx).2.graph p := by
  cases operation with
  | publish gid payload => exact h.publish hacc hproper _ rfl
  | take gid =>
    exact h.of_taken rfl (ctx.queue_eq_take gid) (fun k => rfl) (Nat.le_refl _)
  | takeSequence gid count => exact h.takeSequence gid count
  | takeRequest gid | takeResponse gid =>
    refine h.of_dropped rfl (fun s _ _ => ?_) (fun k => rfl) (Nat.le_refl _)
    rw [ctx.queue_eq_take gid]
    exact List.sublist_append_right ..
  | sendRequest gid payload => exact h.sendRequest hacc hproper _ rfl
  | sendResponse gid request payload =>
    exact h.sendResponse hacc gid request payload _ (Operation.created_of_not_quiet _ id ctx)
  | _ => exact h.quiet hacc trivial honce

end Sampling

theorem Context.Course.sampling {ctx : Context} {history : List Act} (h : ctx.Course history)
    {p : Gid} (honce : timesGiven history p ≤ 1) : Sampling history ctx.graph p := by
  induction h with
  | create => exact ⟨fun s hs => (nomatch hs), fun _ s hs => (nomatch hs)⟩
  | @perform ctx history h operation hproper ih =>
    have hearlier := ih (Nat.le_trans (timesGiven_le_cons _ history p) honce)
    exact hearlier.perform h.accounts hproper honce
  | startWait _ id handles timeout now ih =>
    rw [graph_startWait]
    exact ih honce
  | resumeWait _ session now ih =>
    rw [graph_resumeWait]
    exact ih honce

/-! ## What a queue does with messages -/

/-- In whatever order messages are sent and taken, the queue of every endpoint is bounded and first in
is first out; what one of those who take from it took is part of what was taken, and ends with what it
has got so far in its call.  A call that nobody comes in between is a course of these steps: the list
it returns is the front of the queue, and these messages are what it took.  So is every other
operation, as long as nobody takes from an endpoint that it destroys.  When operations run one at a
time, the samples taken from a subscription have ascending numbers as far as they come from one
publisher: that is, from an identifier that was given away only once, as all are until the counter of
the context comes round. -/
theorem queue_contract :
    (∀ e : Exchange, e.Reachable → ∀ gid core, e.ctx.graph.locals.find? gid = some core →
      Ledger.Settled (e.ledgers gid).profile ∧ (e.ledgers gid).Fifo core ∧
      ∀ n, ((e.ledgers gid).takenBy n).Sublist (e.ledgers gid).taken ∧
        ∀ left got, e.takers n = .taking gid left got → got <:+ (e.ledgers gid).takenBy n) ∧
    (∀ e : Exchange, e.Reachable → ∀ n gid count messages ctx, e.takers n = .idle →
      e.ctx.takeSequence gid count = (.ok messages, ctx) →
      messages = (e.ctx.graph.queue gid).take count ∧
      ctx.graph.queue gid = (e.ctx.graph.queue gid).drop count ∧
      e.Steps
        { e with
          ctx
          ledgers := Function.update e.ledgers gid ((e.ledgers gid).takeAll n messages) }) ∧
    (∀ e : Exchange, e.Reachable → ∀ n, e.takers n = .idle → ∀ operation : Operation,
      (∀ handle other left got, operation = .destroyEndpoint handle →
        e.takers other ≠ .taking handle.gid left got) →
      e.LeadsTo (operation.perform e.ctx).2) ∧
    ∀ ctx history, Context.Course ctx history → ∀ s ∈ held history,
      s.handle.kind = .subscription → ∀ p, timesGiven history p ≤ 1 →
        ((sampled history s.gid).filter (·.source = p)).Pairwise (·.sequence < ·.sequence) := by
  refine ⟨fun e h gid core hcore => ?_, fun e h n gid count messages ctx hidle htake => ?_,
    fun e h n hidle operation hunused => ?_, fun ctx history h s hs hsub p honce => ?_⟩
  · have hbalanced := h.sound.balanced gid core hcore
    refine ⟨hbalanced.settled, hbalanced.fifo, fun n => ⟨Ledger.takenBy_sublist _ n, ?_⟩⟩
    intro left got hn
    exact (h.sound.taking n gid left got hn).2
  · exact Exchange.steps_takeSequence hidle htake
  · exact Exchange.leadsTo_perform hidle operation hunused
  · have hall := ((h.sampling honce).ascending s hs hsub).ordered
    exact hall.sublist ((List.sublist_append_left ..).filter _)

/-- A queue for one message evicts the first of two, and the second is taken; somebody else may take
it in one call, while the first has yet to start, or just create a guard.  Samples that are taken one
at a time come in the order of their numbers. -/
theorem exists_queue_contract :
    (∃ e gid core, Exchange.Reachable e ∧ e.ctx.graph.locals.find? gid = some core ∧
      core.inbox = [] ∧ (e.ledgers gid).delivered = [⟨[7], gid, 1⟩, ⟨[8], gid, 2⟩] ∧
      (e.ledgers gid).taken = [⟨[8], gid, 2⟩] ∧ (e.ledgers gid).evicted = [⟨[7], gid, 1⟩] ∧
      (e.ledgers gid).Fifo core) ∧
    (∃ (e : Exchange) (gid : Gid) (messages : List Message) (ctx : Context), e.Reachable ∧
      e.takers 0 = .taking gid 1 [] ∧ e.takers 1 = .idle ∧
      e.ctx.takeSequence gid 3 = (.ok messages, ctx) ∧ messages = [⟨[8], gid, 2⟩] ∧
      messages = (e.ctx.graph.queue gid).take 3 ∧
      e.Steps
        { e with
          ctx
          ledgers := Function.update e.ledgers gid ((e.ledgers gid).takeAll 1 messages) } ∧
      e.LeadsTo (Operation.createGuard.perform e.ctx).2) ∧
    ∃ ctx history s p, Context.Course ctx history ∧ s ∈ held history ∧
      s.handle.kind = .subscription ∧ timesGiven history p = 1 ∧
      sampled history s.gid = [⟨[7], p, 1⟩, ⟨[8], p, 2⟩] ∧
      ((sampled history s.gid).filter (·.source = p)).Pairwise (·.sequence < ·.sequence) := by
  let listener : Holding := ⟨⟨.mint 7 1 3, .subscription, "chatter", "String", .standard⟩, false⟩
  have hstart := @Exchange.Reachable.start (.start 7) _
    { domainId := 0, enclave := "/", discoveryRange := .localhost, discoveryPeers := [],
      instanceId := none, waitSetCapacity := 4, qosProfilePath := none } _ rfl
  have hopened := (hstart.step
    (@Exchange.Step.operate _ (.createNode "listener" "/") trivial
      fun _ _ _ _ h => nomatch h)).step
    (@Exchange.Step.operate _ (.createEndpoint ⟨.mint 7 1 1, "listener", "/"⟩ .subscription
      "chatter" "String" { Qos.Profile.standard with depth := 1 } false) trivial
      fun _ _ _ _ h => nomatch h)
  have hsent := (hopened.step
    (@Exchange.Step.enqueue _ (.mint 7 1 2) _ ⟨[7], .mint 7 1 2, 1⟩ rfl)).step
    (@Exchange.Step.enqueue _ (.mint 7 1 2) _ ⟨[8], .mint 7 1 2, 2⟩ rfl)
  have hasked := hsent.step (@Exchange.Step.ask _ 0 (.mint 7 1 2) 1 rfl rfl)
  refine ⟨?_, ?_, ?_⟩
  · have htaken := hasked.step (@Exchange.Step.pop _ 0 (.mint 7 1 2) 0 [] _ _ rfl rfl)
    exact ⟨_, .mint 7 1 2, _, htaken, rfl, rfl, rfl, rfl, rfl,
      (queue_contract.1 _ htaken (.mint 7 1 2) _ rfl).2.1⟩
  · obtain ⟨hfront, -, hsteps⟩ :=
      queue_contract.2.1 _ hasked 1 (.mint 7 1 2) 3 [⟨[8], .mint 7 1 2, 2⟩] _ rfl rfl
    exact ⟨_, .mint 7 1 2, _, _, hasked, rfl, rfl, rfl, rfl, hfront, hsteps,
      queue_contract.2.2.1 _ hasked 1 rfl .createGuard fun _ _ _ _ heq => by cases heq⟩
  · have hcreate := @Context.Course.create (.start 7) _
      { domainId := 0, enclave := "/", discoveryRange := .localhost, discoveryPeers := [],
        instanceId := none, waitSetCapacity := 4, qosProfilePath := none } _ rfl
    have hcreated := ((hcreate.perform (.createNode "talker" "/") trivial).perform
      (.createEndpoint ⟨.mint 7 1 1, "talker", "/"⟩ .publisher "chatter" "String" .standard false)
        trivial).perform
      (.createEndpoint ⟨.mint 7 1 1, "talker", "/"⟩ .subscription "chatter" "String" .standard
        false) trivial
    have hsent := (hcreated.perform (.publish (.mint 7 1 2) [7]) ⟨_, rfl, rfl⟩).perform
      (.publish (.mint 7 1 2) [8]) ⟨_, rfl, rfl⟩
    have htaken := hsent.perform (.takeSequence (.mint 7 1 3) 5) trivial
    exact ⟨_, _, listener, .mint 7 1 2, htaken, List.mem_cons_self, rfl, rfl, rfl,
      queue_contract.2.2.2 _ _ htaken listener List.mem_cons_self rfl (.mint 7 1 2) (Nat.le_of_eq rfl)⟩

end PubSub
