import PubSub.Proofs.Context.Queues
import PubSub.Proofs.Wait.Undisturbed

/-!
# Sending and taking at the same time

Sending a message goes through several steps, and so does taking some, and other threads can come in
between.  An `Exchange` is a context with any number of those who take messages, and a ledger for each
queue.  `Exchange.Reachable` are the states that any order of steps leads to; each ledger balances in
all of them (`Exchange.Reachable.sound`).  What an operation does in one go is among these courses
(`Exchange.leadsTo_perform`).
-/

namespace PubSub

/-! ## Steps -/

/-- What one of those who take messages is about: nothing, or as many messages more as are left to
take, besides those it has got. -/
inductive Taking
  | idle
  | taking (gid : Gid) (left : Nat) (got : List Message)

/-- A context in which messages are sent and taken. -/
structure Exchange where
  ctx : Context
  ledgers : Gid → Ledger
  takers : Nat → Taking

namespace Exchange

/-- The ledgers after a reply, which may hand out a new endpoint. -/
def opened (ledgers : Gid → Ledger) (reply : Except Error Reply) : Gid → Ledger :=
  match Operation.created reply with
  | some handle => Function.update ledgers handle.gid (.start handle.qos)
  | none => ledgers

/-- One step of one thread. -/
inductive Step : Exchange → Exchange → Prop
  /-- Operations other than sending and taking.  An endpoint is destroyed by its owner, when nobody
  takes from it. -/
  | operate {e : Exchange} {operation : Operation} (hquiet : operation.Quiet)
      (hunused : ∀ handle n left got, operation = .destroyEndpoint handle →
        e.takers n ≠ .taking handle.gid left got) :
      Step e
        { e with
          ctx := (operation.perform e.ctx).2
          ledgers := opened e.ledgers (operation.perform e.ctx).1 }
  /-- A message of an endpoint is numbered. -/
  | number {e : Exchange} (gid : Gid) : Step e { e with ctx := (e.ctx.nextSequence gid).2 }
  | enqueue {e : Exchange} {gid : Gid} {core : Core} (message : Message)
      (hcore : e.ctx.graph.locals.find? gid = some core) :
      Step e
        { e with
          ctx := { e.ctx with graph := e.ctx.graph.modifyCore gid (·.enqueue message) }
          ledgers := Function.update e.ledgers gid ((e.ledgers gid).deliver core message) }
  | callBack {e : Exchange} (gid : Gid) (channel : Channel) :
      Step e { e with ctx := e.ctx.callBack gid channel }
  /-- Those who wait are signalled, or do something else. -/
  | board {e : Exchange} (board : Switchboard) : Step e { e with ctx := { e.ctx with board } }
  /-- Somebody wants up to so many messages. -/
  | ask {e : Exchange} {n : Nat} {gid : Gid} (count : Nat) (hidle : e.takers n = .idle)
      (hthere : (e.ctx.graph.locals.find? gid).isSome) :
      Step e { e with takers := Function.update e.takers n (.taking gid count []) }
  | pop {e : Exchange} {n : Nat} {gid : Gid} {left : Nat} {got : List Message} {message : Message}
      {ctx : Context} (htaking : e.takers n = .taking gid (left + 1) got)
      (hpop : e.ctx.take gid = (some message, ctx)) :
      Step e
        { ctx
          ledgers := Function.update e.ledgers gid ((e.ledgers gid).take n message)
          takers := Function.update e.takers n (.taking gid left (got ++ [message])) }
  /-- No message waits any more. -/
  | giveUp {e : Exchange} {n : Nat} {gid : Gid} {left : Nat} {got : List Message} {ctx : Context}
      (htaking : e.takers n = .taking gid (left + 1) got) (hpop : e.ctx.take gid = (none, ctx)) :
      Step e { e with ctx, takers := Function.update e.takers n .idle }
  | finish {e : Exchange} {n : Nat} {gid : Gid} {got : List Message}
      (htaking : e.takers n = .taking gid 0 got) :
      Step e { e with takers := Function.update e.takers n .idle }

/-- The states that any order of steps leads to, from a new context. -/
inductive Reachable : Exchange → Prop
  | start {host host' : Host} {options : Options} {ctx : Context}
      (h : Context.create host options = .ok (ctx, host')) :
      Reachable ⟨ctx, fun _ => .start .standard, fun _ => .idle⟩
  | step {e e' : Exchange} (h : Reachable e) (hstep : Step e e') : Reachable e'

end Exchange

/-! ## Every ledger balances -/

namespace Exchange

/-- The queue of each endpoint is what its ledger leaves it with, and what somebody has got so far is
the last that the ledger says it took. -/
structure Sound (e : Exchange) : Prop where
  known : e.ctx.graph.Known
  balanced : ∀ gid core, e.ctx.graph.locals.find? gid = some core → (e.ledgers gid).Balanced core
  taking : ∀ n gid left got, e.takers n = .taking gid left got →
    (e.ctx.graph.locals.find? gid).isSome ∧ got <:+ (e.ledgers gid).takenBy n

namespace Sound

variable {e : Exchange}

/-- Where the box is the same, the ledger still balances. -/
theorem balanced_of_box (h : e.Sound) {graph : Graph} {k : Gid} {core' : Core}
    (hbox : graph.box k = e.ctx.graph.box k) (hcore' : graph.locals.find? k = some core') :
    (e.ledgers k).Balanced core' := by
  obtain ⟨core, hcore, hsame⟩ := Graph.find?_of_box hbox hcore'
  obtain ⟨hcapacity, hinbox⟩ := Prod.mk.inj hsame
  exact (h.balanced k core hcore).congr hcapacity.symm hinbox.symm

/-- Nothing is different if the boxes are the same. -/
theorem of_box (h : e.Sound) {ctx : Context} (hknown : ctx.graph.Known)
    (hbox : ∀ k, ctx.graph.box k = e.ctx.graph.box k) : Sound { e with ctx } where
  known := hknown
  balanced gid core' hcore' := h.balanced_of_box (hbox gid) hcore'
  taking n gid left got htaking := by
    obtain ⟨hthere, hgot⟩ := h.taking n gid left got htaking
    refine ⟨?_, hgot⟩
    rwa [Graph.isSome_find?_of_box (hbox gid)]

theorem of_still (h : e.Sound) {ctx : Context} (hstill : e.ctx.graph.Still ctx.graph) :
    Sound { e with ctx } :=
  h.of_box (h.known.kept hstill.toKept) hstill.box

/-- One of those who take messages turns to something else. -/
theorem of_taker (h : e.Sound) {n : Nat} {taking : Taking}
    (htaking : ∀ gid left got, taking = .taking gid left got →
      (e.ctx.graph.locals.find? gid).isSome ∧ got <:+ (e.ledgers gid).takenBy n) :
    Sound { e with takers := Function.update e.takers n taking } where
  known := h.known
  balanced := h.balanced
  taking m gid left got hm := by
    dsimp only at hm
    by_cases heq : m = n
    · subst heq
      rw [Function.update_self] at hm
      exact htaking gid left got hm
    · rw [Function.update_of_ne heq] at hm
      exact h.taking m gid left got hm

/-- One core changes, and its ledger with it. -/
theorem of_modifyCore (h : e.Sound) {gid : Gid} {core : Core} {f : Core → Core} {ledger : Ledger}
    {takers : Nat → Taking} (hcore : e.ctx.graph.locals.find? gid = some core)
    (hbalanced : ledger.Balanced (f core))
    (hhere : ∀ n left got, takers n = .taking gid left got → got <:+ ledger.takenBy n)
    (helsewhere : ∀ n k left got, takers n = .taking k left got → k ≠ gid →
      e.takers n = .taking k left got) :
    Sound
      { ctx := { e.ctx with graph := e.ctx.graph.modifyCore gid f }
        ledgers := Function.update e.ledgers gid ledger
        takers } := by
  refine ⟨h.known.modifyCore gid f, fun k core' hcore' => ?_, fun n k left got htaking => ?_⟩
  · dsimp only at hcore' ⊢
    rw [Graph.find?_modifyCore] at hcore'
    by_cases hkg : k = gid
    · subst hkg
      rw [if_pos rfl, hcore] at hcore'
      obtain rfl := Option.some.inj hcore'
      rwa [Function.update_self]
    · rw [if_neg hkg] at hcore'
      rw [Function.update_of_ne hkg]
      exact h.balanced k core' hcore'
  · dsimp only at htaking ⊢
    rw [Graph.find?_modifyCore]
    by_cases hkg : k = gid
    · subst hkg
      rw [if_pos rfl, hcore, Function.update_self]
      exact ⟨rfl, hhere n left got htaking⟩
    · rw [if_neg hkg, Function.update_of_ne hkg]
      exact h.taking n k left got (helsewhere n k left got htaking hkg)

/-- A new endpoint starts with an empty queue and a new ledger. -/
theorem of_created (h : e.Sound) {ctx : Context} {handle : Handle} (hknown : ctx.graph.Known)
    (hsettled : Ledger.Settled handle.qos)
    (hnew : e.ctx.graph.endpoints.find? handle.gid = none)
    (hbox : ∀ k, ctx.graph.box k =
      if k = handle.gid then some (handle.qos.queueCapacity, []) else e.ctx.graph.box k) :
    Sound
      { e with ctx, ledgers := Function.update e.ledgers handle.gid (.start handle.qos) } := by
  refine ⟨hknown, fun k core' hcore' => ?_, fun n k left got htaking => ?_⟩
  · have hk := hbox k
    dsimp only
    by_cases heq : k = handle.gid
    · subst heq
      rw [if_pos rfl, Graph.box, hcore'] at hk
      have hpair := Prod.mk.inj (Option.some.inj hk)
      rw [Function.update_self]
      exact .start hsettled hpair.1 hpair.2
    · rw [if_neg heq] at hk
      rw [Function.update_of_ne heq]
      exact h.balanced_of_box hk hcore'
  · obtain ⟨hthere, hgot⟩ := h.taking n k left got htaking
    have hne : k ≠ handle.gid := by
      rintro rfl
      have hknown := h.known _ hthere
      rw [hnew] at hknown
      cases hknown
    have hk := hbox k
    rw [if_neg hne] at hk
    dsimp only
    rw [Function.update_of_ne hne, Graph.isSome_find?_of_box hk]
    exact ⟨hthere, hgot⟩

/-- An endpoint from which nobody takes goes. -/
theorem of_destroyed (h : e.Sound) {ctx : Context} {gid : Gid} (hknown : ctx.graph.Known)
    (hunused : ∀ n left got, e.takers n ≠ .taking gid left got)
    (hbox : ∀ k, ctx.graph.box k = if k = gid then none else e.ctx.graph.box k) :
    Sound { e with ctx } := by
  refine ⟨hknown, fun k core' hcore' => ?_, fun n k left got htaking => ?_⟩
  · have hk := hbox k
    by_cases heq : k = gid
    · rw [if_pos heq, Graph.box, hcore'] at hk
      cases hk
    · rw [if_neg heq] at hk
      exact h.balanced_of_box hk hcore'
  · have hne : k ≠ gid := by
      rintro rfl
      exact hunused n left got htaking
    obtain ⟨hthere, hgot⟩ := h.taking n k left got htaking
    have hk := hbox k
    rw [if_neg hne] at hk
    dsimp only
    rw [Graph.isSome_find?_of_box hk]
    exact ⟨hthere, hgot⟩

/-- The first message goes to the ledger and to the one who takes it. -/
theorem pop (h : e.Sound) {n left : Nat} {gid : Gid} {got : List Message} {message : Message}
    {ctx : Context} (htaking : e.takers n = .taking gid (left + 1) got)
    (hpop : e.ctx.take gid = (some message, ctx)) :
    Sound
      { ctx
        ledgers := Function.update e.ledgers gid ((e.ledgers gid).take n message)
        takers := Function.update e.takers n (.taking gid left (got ++ [message])) } := by
  obtain ⟨hthere, before, hbefore⟩ := h.taking _ _ _ _ htaking
  obtain ⟨core, hcore⟩ := Option.isSome_iff_exists.1 hthere
  rw [Context.take_eq hcore] at hpop
  obtain ⟨hmessage, rfl⟩ := Prod.mk.inj hpop
  refine h.of_modifyCore hcore ((h.balanced _ _ hcore).take n hmessage)
    (fun m left' got' hm => ?_) fun m k left' got' hm hne => ?_
  · rw [Ledger.takenBy_take]
    by_cases heq : m = n
    · subst heq
      rw [Function.update_self] at hm
      cases hm
      rw [if_pos rfl]
      exact ⟨before, by rw [← hbefore, List.append_assoc]⟩
    · rw [Function.update_of_ne heq] at hm
      rw [if_neg heq, List.append_nil]
      exact (h.taking _ _ _ _ hm).2
  · by_cases heq : m = n
    · subst heq
      rw [Function.update_self] at hm
      cases hm
      exact absurd rfl hne
    · rwa [Function.update_of_ne heq] at hm

/-- Nothing is taken from an empty queue. -/
theorem giveUp (h : e.Sound) {n left : Nat} {gid : Gid} {got : List Message} {ctx : Context}
    (htaking : e.takers n = .taking gid left got) (hpop : e.ctx.take gid = (none, ctx)) :
    Sound { e with ctx, takers := Function.update e.takers n .idle } := by
  obtain ⟨hthere, -⟩ := h.taking _ _ _ _ htaking
  obtain ⟨core, hcore⟩ := Option.isSome_iff_exists.1 hthere
  rw [Context.take_eq hcore] at hpop
  obtain ⟨hempty, rfl⟩ := Prod.mk.inj hpop
  have hstill : e.ctx.graph.Still (e.ctx.graph.modifyCore gid fun _ => core.dequeue.2) := by
    refine .modifyCore _ _ fun core' hcore' => ?_
    obtain rfl : core = core' := Option.some.inj (hcore.symm.trans hcore')
    rw [Core.snd_dequeue_of_none hempty]
    exact ⟨.refl core, rfl⟩
  exact (h.of_still hstill).of_taker fun k left' got' heq => nomatch heq

/-- Every step keeps the ledgers balanced. -/
theorem step {e' : Exchange} (h : e.Sound) (hstep : Step e e') : e'.Sound := by
  cases hstep with
  | @operate operation hquiet hunused =>
    have hknown := hquiet.known h.known
    have hcalm := hquiet.calm e.ctx
    unfold opened
    generalize (operation.perform e.ctx).1 = reply at hcalm ⊢
    cases hcalm with
    | still hbox hreply =>
      rw [hreply]
      exact h.of_box hknown hbox
    | created hsettled hnew hbox => exact h.of_created hknown hsettled hnew hbox
    | destroyed hbox => exact h.of_destroyed hknown (fun n left got => hunused _ n left got rfl) hbox
  | number gid => exact h.of_box (h.known.modifyCore gid _) (Graph.box_modifyCore _ _ fun _ _ => rfl)
  | enqueue message hcore =>
    refine h.of_modifyCore hcore ((h.balanced _ _ hcore).deliver message) (fun n left got hn => ?_)
      fun n k left got hn _ => hn
    rw [Ledger.takenBy_deliver]
    exact (h.taking _ _ _ _ hn).2
  | callBack gid channel => exact h.of_still (e.ctx.still_callBack gid channel)
  | board board => exact h.of_still (.refl _)
  | @ask n gid count hidle hthere =>
    refine h.of_taker fun k left got heq => ?_
    cases heq
    exact ⟨hthere, List.nil_suffix⟩
  | pop htaking hpop => exact h.pop htaking hpop
  | giveUp htaking hpop => exact h.giveUp htaking hpop
  | finish htaking => exact h.of_taker fun k left got heq => nomatch heq

end Sound

theorem Reachable.sound {e : Exchange} (h : e.Reachable) : e.Sound := by
  induction h with
  | start hcreate =>
    have hgraph := Context.graph_create hcreate
    refine ⟨fun k hk => ?_, fun gid core hcore => ?_, fun n gid left got htaking => nomatch htaking⟩
    · rw [hgraph] at hk
      cases hk
    · rw [hgraph] at hcore
      cases hcore
  | step _ hstep ih => exact ih.step hstep

/-! ## Operations as courses of steps -/

/-- Steps one after the other. -/
def Steps : Exchange → Exchange → Prop := Relation.ReflTransGen Step

/-- Steps lead to the context, and those who take messages are then about what they were before. -/
def LeadsTo (e : Exchange) (ctx : Context) : Prop :=
  ∃ ledgers, Steps e { e with ctx, ledgers }

theorem LeadsTo.refl (e : Exchange) : e.LeadsTo e.ctx := ⟨e.ledgers, .refl⟩

theorem LeadsTo.trans {e : Exchange} {ctx ctx' : Context} (h : e.LeadsTo ctx)
    (h' : ∀ ledgers, LeadsTo { e with ctx, ledgers } ctx') : e.LeadsTo ctx' := by
  obtain ⟨ledgers, hsteps⟩ := h
  obtain ⟨ledgers', hsteps'⟩ := h' ledgers
  exact ⟨ledgers', Relation.ReflTransGen.trans hsteps hsteps'⟩

variable {e : Exchange} {n : Nat} {gid : Gid}

/-- The message is queued, the push callback is called, and those who wait are signalled. -/
theorem leadsTo_deliver (e : Exchange) (gid : Gid) (message : Message) :
    e.LeadsTo (e.ctx.deliver gid message) := by
  unfold Context.deliver Context.signal
  split
  · exact .refl e
  · next core hcore =>
    have hcall := Context.callBack_change hcore (.message message)
    have hqueued := Relation.ReflTransGen.single (Step.enqueue message hcore)
    have hcalled := hqueued.tail (.callBack gid (Incident.message message).channel)
    dsimp only at hcalled
    rw [show (fun core : Core => core.enqueue message) = (Incident.message message).apply from rfl,
      hcall] at hcalled
    exact ⟨_, hcalled.tail (.board _)⟩

theorem leadsTo_deliverAll (e : Exchange) (receivers : List Gid) (message : Message) :
    e.LeadsTo (e.ctx.deliverAll receivers message) := by
  induction receivers generalizing e with
  | nil => exact .refl e
  | cons gid rest ih => exact (e.leadsTo_deliver gid message).trans fun ledgers => ih _

theorem leadsTo_send (e : Exchange) (gid : Gid) (receivers : Context → List Gid)
    (message : Nat → Message) :
    e.LeadsTo ((e.ctx.nextSequence gid).2.deliverAll (receivers (e.ctx.nextSequence gid).2)
      (message (e.ctx.nextSequence gid).1)) :=
  LeadsTo.trans ⟨e.ledgers, .single (.number gid)⟩ fun _ => leadsTo_deliverAll ..

/-- One message after the other is taken until there are enough, or no more; the ledger then says
that these were taken, and nothing else. -/
theorem steps_takeUpTo {count : Nat} {got : List Message}
    (htaking : e.takers n = .taking gid count got) :
    Steps e
      { ctx := (e.ctx.takeUpTo gid count).2
        ledgers := Function.update e.ledgers gid
          ((e.ledgers gid).takeAll n (e.ctx.takeUpTo gid count).1)
        takers := Function.update e.takers n .idle } := by
  induction count generalizing e got with
  | zero =>
    unfold Context.takeUpTo
    rw [Ledger.takeAll_nil, Function.update_eq_self]
    exact .single (.finish htaking)
  | succ count ih =>
    unfold Context.takeUpTo
    split
    · next ctx hpop =>
      rw [Ledger.takeAll_nil, Function.update_eq_self]
      exact .single (.giveUp htaking hpop)
    · next message ctx hpop =>
      have hstep := Step.pop htaking hpop
      have hsteps := ih
        (e := ⟨ctx, Function.update e.ledgers gid ((e.ledgers gid).take n message),
          Function.update e.takers n (.taking gid count (got ++ [message]))⟩)
        (Function.update_self ..)
      dsimp only at hsteps
      rw [Function.update_idem, Function.update_idem, Function.update_self,
        Ledger.takeAll_take] at hsteps
      exact .head hstep hsteps

/-- The same from the request for so many messages on. -/
theorem steps_ask_takeUpTo (hidle : e.takers n = .idle) (gid : Gid) (count : Nat) :
    Steps e
      { e with
        ctx := (e.ctx.takeUpTo gid count).2
        ledgers := Function.update e.ledgers gid
          ((e.ledgers gid).takeAll n (e.ctx.takeUpTo gid count).1) } := by
  cases hfind : e.ctx.graph.locals.find? gid with
  | none =>
    have hsame : e.ctx.takeUpTo gid count = ([], e.ctx) := by
      cases count with
      | zero => rfl
      | succ count => rw [Context.takeUpTo, Context.take_eq_none hfind]
    rw [hsame, Ledger.takeAll_nil, Function.update_eq_self]
    exact .refl
  | some core =>
    have hask := Step.ask count hidle (by rw [hfind]; rfl)
    have hsteps := steps_takeUpTo
      (e := { e with takers := Function.update e.takers n (.taking gid count []) })
      (Function.update_self ..)
    dsimp only at hsteps
    rw [Function.update_idem, ← hidle, Function.update_eq_self] at hsteps
    exact .head hask hsteps

/-- Those who ask for several messages get the first of the queue, and what they get is what they
took. -/
theorem steps_takeSequence (hidle : e.takers n = .idle) {count : Nat} {messages : List Message}
    {ctx : Context} (htake : e.ctx.takeSequence gid count = (.ok messages, ctx)) :
    messages = (e.ctx.graph.queue gid).take count ∧
      ctx.graph.queue gid = (e.ctx.graph.queue gid).drop count ∧
      Steps e
        { e with
          ctx
          ledgers := Function.update e.ledgers gid ((e.ledgers gid).takeAll n messages) } := by
  unfold Context.takeSequence at htake
  split at htake
  · cases htake
  · obtain ⟨hmessages, rfl⟩ := Prod.mk.inj htake
    obtain rfl := Except.ok.inj hmessages
    exact ⟨e.ctx.fst_takeUpTo gid count, e.ctx.queue_takeUpTo gid count,
      steps_ask_takeUpTo hidle gid count⟩

theorem leadsTo_takeUpTo (hidle : e.takers n = .idle) (gid : Gid) (count : Nat) :
    e.LeadsTo (e.ctx.takeUpTo gid count).2 :=
  ⟨_, steps_ask_takeUpTo hidle gid count⟩

theorem leadsTo_take (hidle : e.takers n = .idle) (gid : Gid) : e.LeadsTo (e.ctx.take gid).2 := by
  have hone : (e.ctx.takeUpTo gid 1).2 = (e.ctx.take gid).2 := by
    unfold Context.takeUpTo
    split
    · next ctx hpop => rw [hpop]
    · next message ctx hpop => rw [hpop]; rfl
  rw [← hone]
  exact leadsTo_takeUpTo hidle gid 1

/-- What an operation does in one go is a course of steps, if there is somebody who may take. -/
theorem leadsTo_perform (hidle : e.takers n = .idle) (operation : Operation)
    (hunused : ∀ handle n left got, operation = .destroyEndpoint handle →
      e.takers n ≠ .taking handle.gid left got) :
    e.LeadsTo (operation.perform e.ctx).2 := by
  cases operation with
  | publish gid payload =>
    exact e.leadsTo_send gid (·.receivers gid) fun sequence => ⟨payload, gid, sequence⟩
  | sendRequest gid payload =>
    exact e.leadsTo_send gid (·.graph.localPeers gid) fun sequence => ⟨payload, gid, sequence⟩
  | sendResponse gid request payload =>
    show e.LeadsTo (e.ctx.sendResponse gid request payload).2
    unfold Context.sendResponse
    split
    · exact .refl e
    · split
      · exact .refl e
      · exact leadsTo_deliver ..
  | take gid | takeRequest gid | takeResponse gid => exact leadsTo_take hidle gid
  | takeSequence gid count =>
    show e.LeadsTo (e.ctx.takeSequence gid count).2
    unfold Context.takeSequence
    split
    · exact .refl e
    · exact leadsTo_takeUpTo hidle gid count
  | _ => exact ⟨_, .single (.operate trivial hunused)⟩

end Exchange

end PubSub
