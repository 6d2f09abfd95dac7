import PubSub.Proofs.Context.Identifiers

/-!
# What arrives at an endpoint and what is taken from it

From the acts of a history one can note something about an endpoint, such as the requests that were
taken from it (`noted`).  With what waits at the endpoint after it this is a trace of all that has
arrived there and was not evicted.  `Accounts.turn` says what one operation makes of such a trace: it
begins a new one, it adds nothing, or it adds the message that it sends (`Operation.Sends`).
-/

namespace PubSub

/-! ## Notes -/

namespace Act

/-- The act gives the identifier to a new endpoint. -/
def gives (act : Act) (gid : Gid) : Bool :=
  (Operation.created act.reply).any (·.gid = gid)

/-- The request that the act takes from a service. -/
def requestsTaken : Act → Gid → List (RequestId × List UInt8)
  | ⟨.takeRequest taker, .ok (.request request)⟩, gid => if gid = taker then request.toList else []
  | _, _ => []

/-- The response that the act takes from a client. -/
def responsesTaken : Act → Gid → List (RequestId × List UInt8)
  | ⟨.takeResponse taker, .ok (.request response)⟩, gid => if gid = taker then response.toList else []
  | _, _ => []

/-- The payload of the request that the act sends for a client. -/
def requestsSent : Act → Gid → List (List UInt8)
  | ⟨.sendRequest sender payload, _⟩, gid => if gid = sender then [payload] else []
  | _, _ => []

end Act

/-- What is noted about an endpoint since it was created, oldest first. -/
def noted {α : Type} (note : Act → Gid → List α) : List Act → Gid → List α
  | [], _ => []
  | act :: earlier, gid => if act.gives gid then [] else noted note earlier gid ++ note act gid

/-- The requests that a service has taken. -/
abbrev served (history : List Act) (gid : Gid) : List (RequestId × List UInt8) :=
  noted Act.requestsTaken history gid

/-- The responses that a client has taken. -/
abbrev heard (history : List Act) (gid : Gid) : List (RequestId × List UInt8) :=
  noted Act.responsesTaken history gid

/-- The requests that a client has sent. -/
abbrev asked (history : List Act) (gid : Gid) : List (List UInt8) :=
  noted Act.requestsSent history gid

/-- A message as a service takes it. -/
def Message.asRequest (_ : Gid) (message : Message) : RequestId × List UInt8 :=
  (⟨message.source, message.sequence⟩, message.payload)

/-- A message as a client takes it. -/
def Message.asResponse (gid : Gid) (message : Message) : RequestId × List UInt8 :=
  (⟨gid, message.sequence⟩, message.payload)

/-- What was noted of the messages that have arrived, with those that wait seen alike. -/
def trace {α : Type} (note : Act → Gid → List α) (view : Gid → Message → α) (history : List Act)
    (graph : Graph) (gid : Gid) : List α :=
  noted note history gid ++ (graph.queue gid).map (view gid)

section Noted

variable {α : Type} (note : Act → Gid → List α) {act : Act} (earlier : List Act) {gid : Gid}

theorem noted_of_gives (hgives : act.gives gid = true) : noted note (act :: earlier) gid = [] :=
  if_pos hgives

theorem noted_of_not_gives (hgives : act.gives gid = false) :
    noted note (act :: earlier) gid = noted note earlier gid ++ note act gid :=
  if_neg (by rw [hgives]; decide)

end Noted

theorem Act.not_gives {act : Act} (hreply : Operation.created act.reply = none) (gid : Gid) :
    act.gives gid = false := by
  unfold gives
  rw [hreply]
  rfl

/-- An endpoint that is held after an act was held before, or the act has created it. -/
theorem mem_held_cons {act : Act} {history : List Act} {x : Holding}
    (h : x ∈ held (act :: history)) : act.gives x.gid = true ∨ x ∈ held history := by
  unfold held at h
  split at h
  · next heq => cases heq
  · next handle ignoresLocal rest heq =>
    obtain ⟨rfl, rfl⟩ := List.cons.inj heq
    refine (List.mem_cons.1 h).imp (fun hx => ?_) id
    rw [hx]
    exact decide_eq_true rfl
  · next heq =>
    obtain ⟨rfl, rfl⟩ := List.cons.inj heq
    exact Or.inr (List.mem_filter.1 h).1
  · next heq =>
    obtain ⟨rfl, rfl⟩ := List.cons.inj heq
    exact Or.inr h

/-! ## What is taken -/

/-- The messages that an operation takes from a queue. -/
def Operation.front (ctx : Context) : Operation → Gid → List Message
  | take taker, gid | takeRequest taker, gid | takeResponse taker, gid =>
    if gid = taker then (ctx.take taker).1.toList else []
  | takeSequence taker count, gid =>
    if count = 0 then [] else if gid = taker then (ctx.takeUpTo taker count).1 else []
  | _, _ => []

/-- What is noted of an operation are messages that it takes, as they are seen. -/
def Notes {α : Type} (note : Act → Gid → List α) (view : Gid → Message → α) : Prop :=
  ∀ (ctx : Context) (operation : Operation) (gid : Gid),
    (note ⟨operation, (operation.perform ctx).1⟩ gid).Sublist
      ((operation.front ctx gid).map (view gid))

theorem notes_requestsTaken : Notes Act.requestsTaken Message.asRequest := by
  intro ctx operation gid
  cases operation with
  | takeRequest taker =>
    simp only [Operation.perform, Operation.succeed, Context.takeRequest, Operation.front,
      Act.requestsTaken]
    split
    · cases (ctx.take taker).1 <;> exact .refl _
    · exact List.nil_sublist _
  | _ => exact List.nil_sublist _

theorem notes_responsesTaken : Notes Act.responsesTaken Message.asResponse := by
  intro ctx operation gid
  cases operation with
  | takeResponse taker =>
    simp only [Operation.perform, Operation.succeed, Context.takeResponse, Operation.front,
      Act.responsesTaken]
    split
    · next heq =>
      rw [heq]
      cases (ctx.take taker).1 <;> exact .refl _
    · exact List.nil_sublist _
  | _ => exact List.nil_sublist _

/-! ## What is sent -/

/-- The operation sends the message to the endpoint. -/
inductive Operation.Sends (ctx : Context) (holdings : List Holding) (x : Holding) :
    Operation → Message → Prop
  | sample {p : Holding} {payload : List UInt8} (hp : p ∈ holdings)
      (hpublisher : p.handle.kind = .publisher) (hkind : x.handle.kind = .subscription) :
      Sends ctx holdings x (.publish p.gid payload) ⟨payload, p.gid, (ctx.nextSequence p.gid).1⟩
  /-- Requests go to the services that have the name and type of the client. -/
  | request {c : Holding} {payload : List UInt8} (hc : c ∈ holdings)
      (hclient : c.handle.kind = .client) (hkind : x.handle.kind = .service)
      (hname : x.handle.name = c.handle.name) (htype : x.handle.typeName = c.handle.typeName) :
      Sends ctx holdings x (.sendRequest c.gid payload)
        ⟨payload, c.gid, (ctx.nextSequence c.gid).1⟩
  /-- A response goes to the client that the request names. -/
  | response {gid : Gid} {n : Int} {payload : List UInt8} (hkind : x.handle.kind = .client) :
      Sends ctx holdings x (.sendResponse gid ⟨x.gid, n⟩ payload) ⟨payload, gid, n⟩

/-! ## One operation -/

/-- What an operation makes of the trace of an endpoint that is held after it. -/
inductive Turn {α : Type} (note : Act → Gid → List α) (view : Gid → Message → α) (ctx : Context)
    (history : List Act) (x : Holding) (operation : Operation) : Prop
  | opens
      (htrace : trace note view (⟨operation, (operation.perform ctx).1⟩ :: history)
        (operation.perform ctx).2.graph x.gid = [])
  | drains (hx : x ∈ held history)
      (htrace : (trace note view (⟨operation, (operation.perform ctx).1⟩ :: history)
        (operation.perform ctx).2.graph x.gid).Sublist (trace note view history ctx.graph x.gid))
  | receives (hx : x ∈ held history) {message : Message} {kept : List α}
      (hsends : operation.Sends ctx (held history) x message)
      (hkept : kept.Sublist (trace note view history ctx.graph x.gid))
      (htrace : trace note view (⟨operation, (operation.perform ctx).1⟩ :: history)
        (operation.perform ctx).2.graph x.gid = kept ++ [view x.gid message])

namespace Turn

variable {α : Type} {note : Act → Gid → List α} {view : Gid → Message → α} {ctx : Context}
  {history : List Act} {operation : Operation} {x : Holding}

/-- What goes from the front of the queue may be noted. -/
theorem of_front (hnote : Notes note view) (hx : x ∈ held history)
    (hgives : Act.gives ⟨operation, (operation.perform ctx).1⟩ x.gid = false)
    (hqueue : ctx.graph.queue x.gid =
      operation.front ctx x.gid ++ (operation.perform ctx).2.graph.queue x.gid) :
    Turn note view ctx history x operation := by
  refine .drains hx ?_
  unfold trace
  rw [noted_of_not_gives note history hgives, List.append_assoc, hqueue, List.map_append]
  exact ((hnote ctx operation x.gid).append_right _).append_left _

/-- The message that is sent comes to the end of the queue of each receiver, from which the oldest one
may go. -/
theorem of_delivered (hnote : Notes note view) (hx : x ∈ held history)
    (hgives : Act.gives ⟨operation, (operation.perform ctx).1⟩ x.gid = false)
    (hfront : operation.front ctx x.gid = []) {mid : Context} {sent : Gid → Nat}
    (hacc : Accounts mid.graph (held history) sent)
    (hmid : mid.graph.queue x.gid = ctx.graph.queue x.gid) {receivers : List Gid}
    (hnodup : receivers.Nodup) {message : Message}
    (hperform : (operation.perform ctx).2 = mid.deliverAll receivers message)
    (hsends : x.gid ∈ receivers → operation.Sends ctx (held history) x message) :
    Turn note view ctx history x operation := by
  rcases hacc.queue_deliverAll hx hnodup message with hsame | ⟨hmem, hqueue⟩
  · refine .of_front hnote hx hgives ?_
    rw [hfront, hperform, hsame, hmid, List.nil_append]
  · have hnothing := hnote ctx operation x.gid
    rw [hfront] at hnothing
    have hkept := (x.roomFor_sublist (ctx.graph.queue x.gid)).map (view x.gid)
    refine .receives hx (hsends hmem) (hkept.append_left (noted note history x.gid)) ?_
    unfold trace
    rw [noted_of_not_gives note history hgives, List.sublist_nil.1 hnothing, List.append_nil,
      hperform, hqueue, hmid, List.map_append, ← List.append_assoc]
    rfl

/-- What is true of all that has arrived and of the message that is sent stays true of all. -/
theorem forall_mem (h : Turn note view ctx history x operation) {P : α → Prop}
    (hbefore : x ∈ held history → ∀ a ∈ trace note view history ctx.graph x.gid, P a)
    (hsent : ∀ message, operation.Sends ctx (held history) x message → P (view x.gid message)) :
    ∀ a ∈ trace note view (⟨operation, (operation.perform ctx).1⟩ :: history)
      (operation.perform ctx).2.graph x.gid, P a := by
  intro a ha
  cases h with
  | opens htrace =>
    rw [htrace] at ha
    cases ha
  | drains hx htrace => exact hbefore hx a (htrace.subset ha)
  | receives hx hsends hkept htrace =>
    rw [htrace] at ha
    rcases List.mem_append.1 ha with ha | ha
    · exact hbefore hx a (hkept.subset ha)
    · rw [List.mem_singleton.1 ha]
      exact hsent _ hsends

end Turn

namespace Operation

variable {operation : Operation} {ctx : Context} {history : List Act} {x : Holding}

/-- A new endpoint has an empty queue, and the queues of the others stay as they are. -/
theorem Quiet.opens_or_keeps (hquiet : operation.Quiet)
    (hacc : Accounts ctx.graph (held history) (published history))
    (hx : x ∈ held (⟨operation, (operation.perform ctx).1⟩ :: history)) :
    (Act.gives ⟨operation, (operation.perform ctx).1⟩ x.gid = true ∧
      (operation.perform ctx).2.graph.queue x.gid = []) ∨
    x ∈ held history ∧ Act.gives ⟨operation, (operation.perform ctx).1⟩ x.gid = false ∧
      (operation.perform ctx).2.graph.queue x.gid = ctx.graph.queue x.gid := by
  have hcalm := hquiet.calm ctx
  simp only [Graph.queue_eq_box]
  generalize (operation.perform ctx).1 = reply at hcalm hx ⊢
  generalize (operation.perform ctx).2.graph = after at hcalm ⊢
  cases hcalm with
  | still hbox hreply =>
    refine Or.inr ⟨held_cons_subset history hreply hx, Act.not_gives hreply x.gid, ?_⟩
    rw [hbox]
  | @created _ _ _ _ _ ignoresLocal handle _ hnew hbox =>
    rcases List.mem_cons.1 hx with rfl | hx
    · refine Or.inl ⟨decide_eq_true rfl, ?_⟩
      rw [hbox, if_pos (show Holding.gid ⟨handle, ignoresLocal⟩ = handle.gid from rfl)]
      rfl
    · have hne : x.gid ≠ handle.gid := by
        intro heq
        obtain ⟨record, hrecord, -⟩ := (hacc.stands x hx).record
        rw [heq, hnew] at hrecord
        cases hrecord
      refine Or.inr ⟨hx, decide_eq_false (Ne.symm hne), ?_⟩
      rw [hbox, if_neg hne]
  | @destroyed handle hbox =>
    obtain ⟨hx, hne⟩ := List.mem_filter.1 hx
    refine Or.inr ⟨hx, Act.not_gives rfl x.gid, ?_⟩
    rw [hbox, if_neg (of_decide_eq_true hne)]

theorem Quiet.front_eq_nil (hquiet : operation.Quiet) (ctx : Context) (gid : Gid) :
    operation.front ctx gid = [] := by
  cases operation <;> first | rfl | exact hquiet.elim

end Operation

namespace Accounts

variable {α : Type} {note : Act → Gid → List α} {view : Gid → Message → α} {ctx : Context}
  {history : List Act} {operation : Operation} {x : Holding}

section Sending

variable (h : Accounts ctx.graph (held history) (published history)) (hnote : Notes note view)
  (hold : x ∈ held history)

include h hnote hold

theorem turn_publish {gid : Gid} {payload : List UInt8}
    (hproper : (Operation.publish gid payload).Proper ctx) :
    Turn note view ctx history x (.publish gid payload) := by
  obtain ⟨core, hcore, hpub⟩ := hproper
  obtain ⟨p, hp, rfl, hkind⟩ := h.exists_mem_of_core hcore
  have hsent := h.counted p.gid
  refine .of_delivered hnote hold (Act.not_gives rfl x.gid) rfl hsent (ctx.queue_nextSequence ..)
    (Context.nodup_receivers hsent.matched p.gid) rfl fun hmem => .sample hp (hkind.trans hpub) ?_
  rw [(hsent.suits_of_mem_localPeers hp hold (List.mem_filter.1 hmem).1).1, hkind, hpub]
  rfl

theorem turn_sendRequest {gid : Gid} {payload : List UInt8}
    (hproper : (Operation.sendRequest gid payload).Proper ctx) :
    Turn note view ctx history x (.sendRequest gid payload) := by
  obtain ⟨core, hcore, hclient⟩ := hproper
  obtain ⟨c, hc, rfl, hkind⟩ := h.exists_mem_of_core hcore
  have hsent := h.counted c.gid
  refine .of_delivered hnote hold (Act.not_gives rfl x.gid) rfl hsent (ctx.queue_nextSequence ..)
    (hsent.matched.nodup_localPeers c.gid) rfl fun hmem => ?_
  obtain ⟨hservice, hname, htype⟩ := hsent.suits_of_mem_localPeers hc hold hmem
  rw [hkind, hclient] at hservice
  exact .request hc (hkind.trans hclient) hservice hname htype

/-- A response reaches the client that the request names, or nobody. -/
theorem turn_sendResponse (gid : Gid) (request : RequestId) (payload : List UInt8) :
    Turn note view ctx history x (.sendResponse gid request payload) := by
  have hreply := Operation.created_of_not_quiet (.sendResponse gid request payload) id ctx
  have hgives : Act.gives ⟨.sendResponse gid request payload, _⟩ x.gid = false :=
    Act.not_gives hreply x.gid
  have hdropped (hsame : (ctx.sendResponse gid request payload).2 = ctx) :
      Turn note view ctx history x (.sendResponse gid request payload) :=
    .of_front hnote hold hgives (congrArg (fun ctx => ctx.graph.queue x.gid) hsame.symm)
  cases hcore : ctx.graph.locals.find? request.writer with
  | none => exact hdropped (by simp only [Context.sendResponse, hcore])
  | some core =>
    by_cases hclient : core.kind = .client
    · have hdelivered : (ctx.sendResponse gid request payload).2 =
          ctx.deliverAll [request.writer] ⟨payload, gid, request.sequence⟩ := by
        simp only [Context.sendResponse, hcore, hclient, ne_eq, not_true_eq_false, if_false]
        rfl
      refine .of_delivered hnote hold hgives rfl h rfl (List.nodup_singleton request.writer)
        hdelivered fun hmem => ?_
      obtain ⟨writer, n⟩ := request
      obtain rfl : x.gid = writer := List.mem_singleton.1 hmem
      obtain ⟨core', hcore', hkind, -⟩ := (h.stands x hold).core
      obtain rfl : core = core' := Option.some.inj (hcore.symm.trans hcore')
      exact .response (hkind.symm.trans hclient)
    · exact hdropped (by simp only [Context.sendResponse, hcore, if_pos hclient])

end Sending

/-- Each operation either begins a trace, or leaves it without something new, or adds the message
that it sends. -/
theorem turn (h : Accounts ctx.graph (held history) (published history)) (hnote : Notes note view)
    (hproper : operation.Proper ctx)
    (hx : x ∈ held (⟨operation, (operation.perform ctx).1⟩ :: history)) :
    Turn note view ctx history x operation := by
  by_cases hquiet : operation.Quiet
  · rcases hquiet.opens_or_keeps h hx with ⟨hgives, hempty⟩ | ⟨hold, hgives, hsame⟩
    · refine .opens ?_
      unfold trace
      rw [noted_of_gives note history hgives, hempty]
      rfl
    · refine .of_front hnote hold hgives ?_
      rw [hquiet.front_eq_nil, hsame, List.nil_append]
  · -- Sending and taking leave everybody in place, so that the endpoint was there before.
    have hreply := operation.created_of_not_quiet hquiet ctx
    have hold := held_cons_subset history hreply hx
    have hgives : Act.gives ⟨operation, (operation.perform ctx).1⟩ x.gid = false :=
      Act.not_gives hreply x.gid
    cases operation with
    | take gid | takeRequest gid | takeResponse gid =>
      exact .of_front hnote hold hgives (ctx.queue_eq_take gid x.gid)
    | takeSequence gid count =>
      refine .of_front hnote hold hgives ?_
      have htake := ctx.queue_eq_takeUpTo gid count x.gid
      simp only [Operation.perform, Operation.reply, Operation.front, Context.takeSequence]
      split
      · rfl
      · exact htake
    | publish => exact h.turn_publish hnote hold hproper
    | sendRequest => exact h.turn_sendRequest hnote hold hproper
    | sendResponse gid request payload => exact h.turn_sendResponse hnote hold gid request payload
    | _ => exact absurd trivial hquiet

end Accounts

end PubSub
