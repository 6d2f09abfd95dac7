import PubSub.Proofs.Context.Arrivals

/-!
# Requests and their responses

A client numbers its requests, a service answers with the number of the request, and the answer goes
to the client that the request names.  As long as services answer only what they have taken
(`Conversing`), all of this fits together over a whole history: `Context.Course.requests_correlated`.
What is known of the queues at any moment is in `Correspondence`.
-/

namespace PubSub

/-! ## What the history says about requests -/

/-- The client has sent the request. -/
def Sent (history : List Act) (c : Holding) (request : RequestId × List UInt8) : Prop :=
  ∃ (earlier : List Act) (n : Nat),
    ⟨.sendRequest c.gid request.2, .ok (.number n)⟩ :: earlier <:+ history ∧ c ∈ held earlier ∧
      c.handle.kind = .client ∧ request.1 = ⟨c.gid, n⟩

/-- The response was sent to a request of the client: by a service with its name and type, which had
taken this request before. -/
def Replied (history : List Act) (c : Holding) (response : RequestId × List UInt8) : Prop :=
  ∃ (s : Holding) (reply : Except Error Reply) (earlier : List Act) (payload : List UInt8),
    ⟨.sendResponse s.gid response.1 response.2, reply⟩ :: earlier <:+ history ∧
      s ∈ held earlier ∧ s.handle.kind = .service ∧ s.handle.name = c.handle.name ∧
      s.handle.typeName = c.handle.typeName ∧ (response.1, payload) ∈ served earlier s.gid ∧
      Sent earlier c (response.1, payload)

/-- The act answers the request. -/
def Act.answers (id : RequestId) (act : Act) : Bool :=
  match act.operation with
  | .sendResponse _ request _ => request = id
  | _ => false

/-- How many answers to a request were sent. -/
def answersTo (history : List Act) (id : RequestId) : Nat :=
  history.countP (Act.answers id)

/-- Services answer only requests that they have taken. -/
def Conversing (history : List Act) : Prop :=
  ∀ gid request payload reply earlier,
    ⟨.sendResponse gid request payload, reply⟩ :: earlier <:+ history →
      ∃ s ∈ held earlier, s.gid = gid ∧ s.handle.kind = .service ∧
        ∃ question, (request, question) ∈ served earlier gid

theorem Sent.cons {history : List Act} {c : Holding} {request : RequestId × List UInt8}
    (h : Sent history c request) (act : Act) : Sent (act :: history) c request := by
  obtain ⟨earlier, n, hsuffix, hrest⟩ := h
  exact ⟨earlier, n, hsuffix.trans (List.suffix_cons act history), hrest⟩

theorem timesGiven_mono {earlier history : List Act} (h : earlier <:+ history) (gid : Gid) :
    timesGiven earlier gid ≤ timesGiven history gid :=
  h.sublist.countP_le

/-- Who has sent a request got its identifier before. -/
theorem Sent.timesGiven_pos {act : Act} {history : List Act} {c : Holding}
    {request : RequestId × List UInt8} (h : Sent (act :: history) c request) :
    0 < timesGiven history request.1.writer := by
  obtain ⟨earlier, n, hsuffix, hc, -, hid⟩ := h
  have hearlier : earlier <:+ history := by
    rcases List.suffix_cons_iff.1 hsuffix with heq | hsuffix
    · exact (List.cons.inj heq).2 ▸ List.suffix_rfl
    · exact (List.suffix_cons _ earlier).trans hsuffix
  rw [hid]
  exact Nat.lt_of_lt_of_le (PubSub.timesGiven_pos hc) (timesGiven_mono hearlier c.gid)

theorem answersTo_cons (act : Act) (history : List Act) (id : RequestId) :
    answersTo (act :: history) id = answersTo history id + if act.answers id then 1 else 0 :=
  List.countP_cons ..

namespace Conversing

theorem nil : Conversing [] := by
  intro gid request payload reply earlier hsuffix
  cases List.suffix_nil.1 hsuffix

theorem cons {act : Act} {history : List Act} (h : Conversing history)
    (hact : ∀ gid request payload, act.operation = .sendResponse gid request payload →
      ∃ s ∈ held history, s.gid = gid ∧ s.handle.kind = .service ∧
        ∃ question, (request, question) ∈ served history gid) :
    Conversing (act :: history) := by
  intro gid request payload reply earlier hsuffix
  rcases List.suffix_cons_iff.1 hsuffix with heq | hsuffix
  · obtain ⟨rfl, rfl⟩ := List.cons.inj heq
    exact hact gid request payload rfl
  · exact h gid request payload reply earlier hsuffix

/-- Only answers matter. -/
theorem cons_of_ne {act : Act} {history : List Act} (h : Conversing history)
    (hact : ∀ gid request payload, act.operation ≠ .sendResponse gid request payload) :
    Conversing (act :: history) :=
  h.cons fun gid request payload heq => absurd heq (hact gid request payload)

end Conversing

theorem timesGiven_cons_of_gives {act : Act} {gid : Gid} (hgives : act.gives gid = true)
    (history : List Act) : timesGiven (act :: history) gid = timesGiven history gid + 1 :=
  List.countP_cons_of_pos hgives

/-! ## How many messages were sent -/

/-- The number of messages that an endpoint has sent. -/
def Graph.sentBy (graph : Graph) (gid : Gid) : Nat :=
  ((graph.locals.find? gid).map (·.sent)).getD 0

/-- The endpoint that an operation sends a numbered message for. -/
def Operation.sender : Operation → Option Gid
  | publish gid _ | sendRequest gid _ => some gid
  | _ => none

/-- What a client sends are requests. -/
theorem Operation.Proper.length_requestsSent {operation : Operation} {ctx : Context}
    (h : operation.Proper ctx) {k : Gid} {core : Core}
    (hcore : ctx.graph.locals.find? k = some core) (hclient : core.kind = .client)
    (reply : Except Error Reply) :
    (Act.requestsSent ⟨operation, reply⟩ k).length = if operation.sender = some k then 1 else 0 := by
  cases operation with
  | publish gid payload =>
    have hne : gid ≠ k := by
      rintro rfl
      obtain ⟨core', hcore', hpub⟩ := h
      obtain rfl : core = core' := Option.some.inj (hcore.symm.trans hcore')
      cases hpub.symm.trans hclient
    exact (if_neg fun heq => hne (Option.some.inj heq)).symm
  | sendRequest gid payload =>
    show (if k = gid then [payload] else []).length = if some gid = some k then 1 else 0
    by_cases heq : k = gid
    · rw [if_pos heq, if_pos (congrArg some heq.symm)]
      rfl
    · rw [if_neg heq, if_neg fun h => heq (Option.some.inj h).symm]
      rfl
  | _ => rfl

theorem Graph.sentBy_congr {graph graph' : Graph} {k : Gid}
    (h : graph'.locals.find? k = graph.locals.find? k) : graph'.sentBy k = graph.sentBy k := by
  unfold sentBy
  rw [h]

theorem Graph.Kept.sentBy {graph graph' : Graph} (h : graph.Kept graph') (k : Gid) :
    graph'.sentBy k = graph.sentBy k := by
  cases hcore : graph.locals.find? k with
  | none =>
    have hnone := h.isSome_locals k
    rw [hcore, Option.isSome_none, Option.isSome_eq_false_iff, Option.isNone_iff_eq_none] at hnone
    exact Graph.sentBy_congr (hnone.trans hcore.symm)
  | some core =>
    obtain ⟨core', hcore', hkept⟩ := h.locals hcore
    unfold Graph.sentBy
    rw [hcore, hcore']
    exact hkept.sent

theorem Context.sentBy_nextSequence (ctx : Context) {gid k : Gid}
    (hthere : ((ctx.nextSequence gid).2.graph.locals.find? k).isSome) :
    (ctx.nextSequence gid).2.graph.sentBy k =
      ctx.graph.sentBy k + if some gid = some k then 1 else 0 := by
  unfold nextSequence Graph.sentBy at *
  dsimp only at hthere ⊢
  rw [Graph.find?_modifyCore] at hthere ⊢
  by_cases heq : k = gid
  · subst heq
    rw [if_pos rfl, Option.isSome_map] at hthere
    obtain ⟨core, hcore⟩ := Option.isSome_iff_exists.1 hthere
    rw [if_pos rfl, if_pos rfl, hcore]
    rfl
  · rw [if_neg heq, if_neg fun h => heq (Option.some.inj h).symm]
    rfl

/-- A new endpoint has sent nothing. -/
theorem Operation.Does.sentBy_created {ctx ctx' : Context} {operation : Operation}
    {reply : Except Error Reply} (hdoes : operation.Does ctx reply ctx') {handle : Handle}
    (hcreated : created reply = some handle) : ctx'.graph.sentBy handle.gid = 0 := by
  cases hdoes with
  | createEndpoint _ _ hadd =>
    obtain rfl := Option.some.inj hcreated
    obtain ⟨-, -, -, -, hlocals, -⟩ := Graph.addEndpoint_eq_ok hadd
    rw [(Context.still_change ..).sentBy, Graph.sentBy, hlocals, if_pos ⟨rfl, rfl⟩]
    rfl
  | _ => cases hcreated

/-- An endpoint has sent one message more if it is the sender. -/
theorem Operation.Does.sentBy {ctx ctx' : Context} {operation : Operation}
    {reply : Except Error Reply} (hdoes : operation.Does ctx reply ctx') {k : Gid}
    (hthere : (ctx'.graph.locals.find? k).isSome)
    (hgives : Act.gives ⟨operation, reply⟩ k = false) :
    ctx'.graph.sentBy k = ctx.graph.sentBy k + if operation.sender = some k then 1 else 0 := by
  have hchange (base : Context) (graph : Graph) (notices : List Notice) :
      (base.change graph notices).graph.sentBy k = graph.sentBy k :=
    (base.still_change graph notices).sentBy k
  cases hdoes with
  | @refused operation _ hbad =>
    have hsender : operation.sender = none := by
      cases operation with
      | publish | sendRequest => exact absurd trivial hbad
      | _ => rfl
    rw [hsender]
    rfl
  | announceKnownNode | withdrawUnknownNode | announceKnownEndpoint | withdrawUnknownEndpoint
  | createKnownNode | createKnownEndpoint | destroyUnknownNode | destroyUnknownEndpoint
  | sendResponseToNone | sendResponseToOther | takeNoStatus | createGuard | trigger
  | createWaitSet | createNoWaitSet | dropWaitSet => rfl
  | announceNode _ hadd | createNode _ hadd =>
    exact (hchange ..).trans ((Graph.Still.addNode hadd).sentBy k)
  | withdrawNode hrem | destroyNode hrem =>
    exact (hchange ..).trans ((Graph.Still.removeNode hrem).sentBy k)
  | announceEndpoint _ hadd =>
    obtain ⟨-, -, -, -, hlocals, -⟩ := Graph.addEndpoint_eq_ok hadd
    refine (hchange ..).trans (Graph.sentBy_congr ?_)
    rw [hlocals, if_neg fun hnew => Bool.false_ne_true hnew.2]
  | createEndpoint _ _ hadd =>
    have hne := of_decide_eq_false hgives
    obtain ⟨-, -, -, -, hlocals, -⟩ := Graph.addEndpoint_eq_ok hadd
    refine (hchange ..).trans (Graph.sentBy_congr ?_)
    rw [hlocals, if_neg fun hnew => hne hnew.1.symm]
  | withdrawEndpoint _ hrem | destroyEndpoint hrem =>
    obtain ⟨-, -, -, -, -, hlocals, -⟩ := Graph.removeEndpoint_eq_some hrem
    refine (hchange ..).trans (Graph.sentBy_congr ?_)
    rw [(Context.still_change ..).isSome_locals, hlocals] at hthere
    rw [hlocals]
    split at hthere
    · cases hthere
    · next hne => rw [if_neg hne]
  | publish gid | sendRequest gid =>
    have hkept := (ctx.nextSequence gid).2.kept_deliverAll
    refine ((hkept _ _).sentBy k).trans (ctx.sentBy_nextSequence ?_)
    exact ((hkept _ _).isSome_locals k).symm.trans hthere
  | take gid | takeRequest gid | takeResponse gid => exact (ctx.kept_take gid).sentBy k
  | takeSequence gid count => exact (ctx.kept_takeUpTo gid count).sentBy k
  | sendResponse => exact (ctx.kept_deliver ..).sentBy k
  | takeStatus => exact (Graph.Still.takeStatus ..).sentBy k
  | setCallback gid channel callback => exact (ctx.still_setCallback gid channel callback).sentBy k

/-! ## Requests and responses on their way -/

/-- A request as it was sent. -/
def Message.ofRequest (request : RequestId × List UInt8) : Message :=
  ⟨request.2, request.1.writer, request.1.sequence⟩

/-- What the history tells about the requests and responses that were taken and those that wait. -/
structure Correspondence (history : List Act) (graph : Graph) : Prop where
  /-- A client with the name and type of the service has sent each request. -/
  requested : ∀ s ∈ held history, s.handle.kind = .service →
    ∀ request ∈ trace Act.requestsTaken Message.asRequest history graph s.gid,
      ∃ c, Sent history c request ∧ s.handle.name = c.handle.name ∧
        s.handle.typeName = c.handle.typeName
  /-- Each response was sent to the client. -/
  responded : ∀ c ∈ held history, c.handle.kind = .client →
    ∀ response ∈ trace Act.responsesTaken Message.asResponse history graph c.gid,
      response.1.writer = c.gid ∧ ∃ gid reply earlier,
        ⟨.sendResponse gid response.1 response.2, reply⟩ :: earlier <:+ history
  counted : ∀ c ∈ held history, c.handle.kind = .client → ∀ id,
    (trace Act.responsesTaken Message.asResponse history graph c.gid).countP (·.1 = id) ≤
      answersTo history id
  numbered : ∀ c ∈ held history, c.handle.kind = .client →
    graph.sentBy c.gid = (asked history c.gid).length
  /-- The requests of a client reach each service in the order of their numbers. -/
  ascending : ∀ p, timesGiven history p ≤ 1 → ∀ s ∈ held history, s.handle.kind = .service →
    Ascending
      ((trace Act.requestsTaken Message.asRequest history graph s.gid).map Message.ofRequest) p
      (asked history p).length

namespace Correspondence

variable {ctx : Context} {history : List Act} {operation : Operation}
  (h : Correspondence history ctx.graph)
  (hacc : Accounts ctx.graph (held history) (published history)) (hproper : operation.Proper ctx)
include h hacc hproper

theorem requested_perform {s : Holding}
    (hs : s ∈ held (⟨operation, (operation.perform ctx).1⟩ :: history))
    (hservice : s.handle.kind = .service) :
    ∀ request ∈ trace Act.requestsTaken Message.asRequest
        (⟨operation, (operation.perform ctx).1⟩ :: history) (operation.perform ctx).2.graph s.gid,
      ∃ c, Sent (⟨operation, (operation.perform ctx).1⟩ :: history) c request ∧
        s.handle.name = c.handle.name ∧ s.handle.typeName = c.handle.typeName := by
  refine (hacc.turn notes_requestsTaken hproper hs).forall_mem (fun hold request hmem => ?_)
    fun message hsends => ?_
  · obtain ⟨c, hsent, hsame⟩ := h.requested s hold hservice request hmem
    exact ⟨c, hsent.cons _, hsame⟩
  · cases hsends with
    | request hc hclient _ hname htype =>
      exact ⟨_, ⟨history, _, List.suffix_rfl, hc, hclient, rfl⟩, hname, htype⟩
    | sample _ _ hkind | response hkind => cases hservice.symm.trans hkind

theorem responded_perform {c : Holding}
    (hc : c ∈ held (⟨operation, (operation.perform ctx).1⟩ :: history))
    (hclient : c.handle.kind = .client) :
    ∀ response ∈ trace Act.responsesTaken Message.asResponse
        (⟨operation, (operation.perform ctx).1⟩ :: history) (operation.perform ctx).2.graph c.gid,
      response.1.writer = c.gid ∧ ∃ gid reply earlier,
        ⟨.sendResponse gid response.1 response.2, reply⟩ :: earlier <:+
          ⟨operation, (operation.perform ctx).1⟩ :: history := by
  refine (hacc.turn notes_responsesTaken hproper hc).forall_mem (fun hold response hmem => ?_)
    fun message hsends => ?_
  · obtain ⟨hwriter, gid, reply, earlier, hsuffix⟩ := h.responded c hold hclient response hmem
    exact ⟨hwriter, gid, reply, earlier, hsuffix.trans (List.suffix_cons ..)⟩
  · cases hsends with
    | response => exact ⟨rfl, _, _, history, List.suffix_rfl⟩
    | sample _ _ hkind | request _ _ hkind => cases hclient.symm.trans hkind

theorem counted_perform {c : Holding}
    (hc : c ∈ held (⟨operation, (operation.perform ctx).1⟩ :: history))
    (hclient : c.handle.kind = .client) (id : RequestId) :
    (trace Act.responsesTaken Message.asResponse (⟨operation, (operation.perform ctx).1⟩ :: history)
        (operation.perform ctx).2.graph c.gid).countP (·.1 = id) ≤
      answersTo (⟨operation, (operation.perform ctx).1⟩ :: history) id := by
  rw [answersTo_cons]
  cases hacc.turn notes_responsesTaken hproper hc with
  | opens htrace =>
    rw [htrace]
    exact Nat.zero_le _
  | drains hold htrace =>
    have hbefore := Nat.le_trans htrace.countP_le (h.counted c hold hclient id)
    omega
  | receives hold hsends hkept htrace =>
    have hbefore := Nat.le_trans hkept.countP_le (h.counted c hold hclient id)
    rw [htrace, List.countP_append]
    cases hsends with
    | response =>
      refine Nat.add_le_add hbefore (Nat.le_of_eq ?_)
      rw [List.countP_singleton]
      rfl
    | sample _ _ hkind | request _ _ hkind => cases hclient.symm.trans hkind

theorem numbered_perform {c : Holding}
    (hc : c ∈ held (⟨operation, (operation.perform ctx).1⟩ :: history))
    (hclient : c.handle.kind = .client) :
    (operation.perform ctx).2.graph.sentBy c.gid =
      (asked (⟨operation, (operation.perform ctx).1⟩ :: history) c.gid).length := by
  cases hgives : Act.gives ⟨operation, (operation.perform ctx).1⟩ c.gid with
  | true =>
    obtain ⟨handle, hcreated, hgid⟩ := (Option.any_eq_true _ _).1 hgives
    rw [← of_decide_eq_true hgid] at hgives ⊢
    rw [asked, noted_of_gives _ _ hgives, (operation.does ctx).sentBy_created hcreated]
    rfl
  | false =>
    have hold : c ∈ held history :=
      (mem_held_cons hc).resolve_left (by rw [hgives]; decide)
    obtain ⟨core, hcore, -⟩ := ((hacc.perform hproper).stands c hc).core
    obtain ⟨core', hcore', hkind, -⟩ := (hacc.stands c hold).core
    rw [(operation.does ctx).sentBy (by rw [hcore]; rfl) hgives, asked,
      noted_of_not_gives _ _ hgives, List.length_append, h.numbered c hold hclient,
      hproper.length_requestsSent hcore' (hkind.trans hclient)]

theorem ascending_perform {p : Gid}
    (honce : timesGiven (⟨operation, (operation.perform ctx).1⟩ :: history) p ≤ 1) {s : Holding}
    (hs : s ∈ held (⟨operation, (operation.perform ctx).1⟩ :: history))
    (hservice : s.handle.kind = .service) :
    Ascending
      ((trace Act.requestsTaken Message.asRequest (⟨operation, (operation.perform ctx).1⟩ :: history)
        (operation.perform ctx).2.graph s.gid).map Message.ofRequest) p
      (asked (⟨operation, (operation.perform ctx).1⟩ :: history) p).length := by
  cases hgives : Act.gives ⟨operation, (operation.perform ctx).1⟩ p with
  | true =>
    -- Nothing has come from a client that was not there.
    refine .of_absent fun m hm => ?_
    obtain ⟨request, hmem, rfl⟩ := List.mem_map.1 hm
    obtain ⟨c, hsent, -⟩ := h.requested_perform hacc hproper hs hservice request hmem
    have hpos := hsent.timesGiven_pos
    rw [timesGiven_cons_of_gives hgives] at honce
    rintro (rfl : request.1.writer = p)
    omega
  | false =>
    have hbefore : s ∈ held history → Ascending _ p _ := fun hold =>
      h.ascending p (Nat.le_trans (timesGiven_le_cons _ history p) honce) s hold hservice
    rw [asked, noted_of_not_gives _ _ hgives, List.length_append]
    cases hacc.turn notes_requestsTaken hproper hs with
    | opens htrace =>
      rw [htrace]
      exact .of_absent fun m hm => nomatch hm
    | drains hold htrace =>
      exact (hbefore hold).sublist (htrace.map Message.ofRequest) (Nat.le_add_right ..)
    | receives hold hsends hkept htrace =>
      have hkept := (hbefore hold).sublist (hkept.map Message.ofRequest) (Nat.le_refl _)
      rw [htrace, List.map_append]
      cases hsends with
      | @request c payload hc hclient =>
        by_cases hp : p = c.gid
        · subst hp
          rw [show Act.requestsSent ⟨.sendRequest c.gid payload, _⟩ c.gid = [payload] from if_pos rfl]
          refine hkept.append ?_
          rw [← h.numbered c hc hclient]
          rfl
        · exact (hkept.append_other (Ne.symm hp)).sublist (.refl _) (Nat.le_add_right ..)
      | sample _ _ hkind | response hkind => cases hservice.symm.trans hkind

theorem perform : Correspondence (⟨operation, (operation.perform ctx).1⟩ :: history)
    (operation.perform ctx).2.graph where
  requested _ := h.requested_perform hacc hproper
  responded _ := h.responded_perform hacc hproper
  counted _ := h.counted_perform hacc hproper
  numbered _ := h.numbered_perform hacc hproper
  ascending _ honce _ := h.ascending_perform hacc hproper honce

end Correspondence

namespace Context.Course

variable {ctx : Context} {history : List Act}

theorem correspondence (h : ctx.Course history) : Correspondence history ctx.graph := by
  induction h with
  | create => constructor <;> intros <;> contradiction
  | perform h operation hproper ih => exact ih.perform h.accounts hproper
  | startWait _ id handles timeout now ih => rwa [graph_startWait]
  | resumeWait _ session now ih => rwa [graph_resumeWait]

/-- What happened up to some moment is a history in its own right. -/
theorem of_suffix (h : ctx.Course history) {earlier : List Act} (hsuffix : earlier <:+ history) :
    ∃ ctx' : Context, ctx'.Course earlier := by
  induction h with
  | create hcreate =>
    rw [List.suffix_nil.1 hsuffix]
    exact ⟨_, .create hcreate⟩
  | perform h operation hproper ih =>
    rcases List.suffix_cons_iff.1 hsuffix with rfl | hsuffix
    · exact ⟨_, h.perform operation hproper⟩
    · exact ih hsuffix
  | startWait _ _ _ _ _ ih => exact ih hsuffix
  | resumeWait _ _ _ ih => exact ih hsuffix

/-- An endpoint that was held at some moment is the one that is held with its identifier. -/
theorem eq_of_gid_eq (h : ctx.Course history) {earlier : List Act} (hsuffix : earlier <:+ history)
    {x y : Holding} (hx : x ∈ held history) (hy : y ∈ held earlier) (hgid : x.gid = y.gid)
    (honce : timesGiven history x.gid ≤ 1) : x = y := by
  obtain ⟨ctx', hcourse⟩ := h.of_suffix hsuffix
  obtain ⟨later, rfl⟩ := hsuffix
  clear h
  induction later with
  | nil => exact List.inj_on_of_nodup_map hcourse.accounts.nodup hx hy hgid
  | cons act later ih =>
    rcases mem_held_cons hx with hgives | hold
    · have hbefore := timesGiven_mono (List.suffix_append later earlier) x.gid
      have hpos := timesGiven_pos hy
      rw [← hgid] at hpos
      rw [List.cons_append, timesGiven_cons_of_gives hgives] at honce
      omega
    · exact ih hold (Nat.le_trans (timesGiven_le_cons act _ x.gid) honce)

/-- A response that a client takes was sent to one of its requests. -/
theorem replied_of_heard (h : ctx.Course history) (hconversing : Conversing history) {c : Holding}
    (hc : c ∈ held history) (hclient : c.handle.kind = .client)
    (honce : timesGiven history c.gid ≤ 1) {response : RequestId × List UInt8}
    (hheard : response ∈ heard history c.gid) :
    response.1.writer = c.gid ∧ Replied history c response := by
  obtain ⟨hwriter, gid, reply, earlier, hsuffix⟩ :=
    h.correspondence.responded c hc hclient response (List.mem_append_left _ hheard)
  obtain ⟨s, hs, rfl, hservice, payload, hserved⟩ := hconversing _ _ _ _ _ hsuffix
  obtain ⟨ctx', hcourse⟩ := h.of_suffix ((List.suffix_cons _ earlier).trans hsuffix)
  obtain ⟨c', ⟨before, n, hsent, hc', hclient', hid⟩, hname, htype⟩ :=
    hcourse.correspondence.requested s hs hservice _ (List.mem_append_left _ hserved)
  -- The client that has sent the request is the one that takes the response.
  have hbefore : before <:+ history :=
    (List.suffix_cons _ before).trans (hsent.trans ((List.suffix_cons _ earlier).trans hsuffix))
  have hgid : c.gid = c'.gid := by
    rw [← hwriter]
    exact congrArg RequestId.writer hid
  obtain rfl : c = c' := h.eq_of_gid_eq hbefore hc hc' hgid honce
  exact ⟨hwriter, s, reply, earlier, payload, hsuffix, hs, hservice, hname, htype, hserved,
    before, n, hsent, hc', hclient', hid⟩

/-- No service takes a request of a client twice: it takes them in the order of their numbers. -/
theorem pairwise_served (h : ctx.Course history) {s : Holding} (hs : s ∈ held history)
    (hservice : s.handle.kind = .service) {p : Gid} (honce : timesGiven history p ≤ 1) :
    ((served history s.gid).filter (·.1.writer = p)).Pairwise (·.1.sequence < ·.1.sequence) := by
  have hall := (h.correspondence.ascending p honce s hs hservice).ordered
  rw [List.filter_map, List.pairwise_map] at hall
  exact hall.sublist ((List.sublist_append_left ..).filter _)

/-- The next request of a client has the next number. -/
theorem sendRequest_eq (h : ctx.Course history) {c : Holding} (hc : c ∈ held history)
    (hclient : c.handle.kind = .client) (payload : List UInt8) :
    ((Operation.sendRequest c.gid payload).perform ctx).1 =
      .ok (.number ((asked history c.gid).length + 1)) := by
  rw [← h.correspondence.numbered c hc hclient]
  rfl

/-- An answer to a client that has gone is dropped. -/
theorem sendResponse_of_gone (h : ctx.Course history) {earlier : List Act}
    (hsuffix : earlier <:+ history) {c : Holding} (hc : c ∈ held earlier) (hgone : c ∉ held history)
    (honce : timesGiven history c.gid ≤ 1) (gid : Gid) (n : Int) (payload : List UInt8) :
    (Operation.sendResponse gid ⟨c.gid, n⟩ payload).perform ctx = (.ok .done, ctx) := by
  have hnobody : ctx.graph.locals.find? c.gid = none := by
    by_contra hthere
    obtain ⟨core, hcore⟩ := Option.ne_none_iff_exists'.1 hthere
    obtain ⟨x, hx, hgid, -⟩ := h.accounts.exists_mem_of_core hcore
    obtain rfl : x = c := h.eq_of_gid_eq hsuffix hx hc hgid (hgid ▸ honce)
    exact hgone hx
  simp only [Operation.perform, Operation.reply, sendResponse, hnobody]
  rfl

/-- Requests and responses belong together, whatever comes and goes in between, as long as services
answer only what they have taken.  Every response that a client takes carries its identifier and the
number of one of its requests, and it was sent by a service with its name and type that had taken
this very request.  No service takes a request twice, and no client takes more responses to a request
than were sent.  The requests of a client are numbered from one.  An answer to a client that has gone
is accepted and changes nothing.  All this is about identifiers that were given away once, as all are
until the counter of the context comes round. -/
theorem requests_correlated (h : ctx.Course history) (hconversing : Conversing history) :
    (∀ c ∈ held history, c.handle.kind = .client → timesGiven history c.gid ≤ 1 →
      ∀ response ∈ heard history c.gid,
        response.1.writer = c.gid ∧ Replied history c response) ∧
    (∀ s ∈ held history, s.handle.kind = .service → ∀ p, timesGiven history p ≤ 1 →
      ((served history s.gid).filter (·.1.writer = p)).Pairwise (·.1.sequence < ·.1.sequence)) ∧
    (∀ c ∈ held history, c.handle.kind = .client → ∀ id,
      (heard history c.gid).countP (·.1 = id) ≤ answersTo history id) ∧
    (∀ c ∈ held history, c.handle.kind = .client → ∀ payload,
      ((Operation.sendRequest c.gid payload).perform ctx).1 =
        .ok (.number ((asked history c.gid).length + 1))) ∧
    (∀ earlier, earlier <:+ history → ∀ c ∈ held earlier, c ∉ held history →
      timesGiven history c.gid ≤ 1 → ∀ gid n payload,
        (Operation.sendResponse gid ⟨c.gid, n⟩ payload).perform ctx = (.ok .done, ctx)) ∧
    (history.length < UInt64.size → ∀ gid, timesGiven history gid ≤ 1) := by
  refine ⟨fun c hc hclient honce response hheard =>
      h.replied_of_heard hconversing hc hclient honce hheard,
    fun s hs hservice p honce => h.pairwise_served hs hservice honce,
    fun c hc hclient id => ?_,
    fun c hc hclient payload => h.sendRequest_eq hc hclient payload,
    fun earlier hsuffix c hc hgone honce gid n payload =>
      h.sendResponse_of_gone hsuffix hc hgone honce gid n payload,
    fun hshort gid => h.timesGiven_le_one hshort gid⟩
  exact Nat.le_trans (List.sublist_append_left ..).countP_le
    (h.correspondence.counted c hc hclient id)

/-- A service takes the first request of a client and answers it, and the client takes the response.
Another answer is sent when the client has gone. -/
theorem exists_requests_correlated :
    ∃ ctx history s c ctx', Context.Course ctx history ∧ Conversing history ∧
      s ∈ held history ∧ s.handle.kind = .service ∧ c ∈ held history ∧ c.handle.kind = .client ∧
      served history s.gid = [(⟨c.gid, 1⟩, [7])] ∧ heard history c.gid = [(⟨c.gid, 1⟩, [8])] ∧
      Replied history c (⟨c.gid, 1⟩, [8]) ∧
      (Operation.destroyEndpoint c.handle).perform ctx = (.ok .done, ctx') ∧
      (Operation.sendResponse s.gid ⟨c.gid, 1⟩ [9]).perform ctx' = (.ok .done, ctx') := by
  let server : Holding := ⟨⟨.mint 7 1 2, .service, "add", "Add", .standard⟩, false⟩
  let client : Holding := ⟨⟨.mint 7 1 3, .client, "add", "Add", .standard⟩, false⟩
  have hcreate := @Course.create (.start 7) _
    { domainId := 0, enclave := "/", discoveryRange := .localhost, discoveryPeers := [],
      instanceId := none, waitSetCapacity := 4, qosProfilePath := none } _ rfl
  have hcreated := ((hcreate.perform (.createNode "n" "/") trivial).perform
    (.createEndpoint ⟨.mint 7 1 1, "n", "/"⟩ .service "add" "Add" .standard false) trivial).perform
    (.createEndpoint ⟨.mint 7 1 1, "n", "/"⟩ .client "add" "Add" .standard false) trivial
  have hasked := (hcreated.perform (.sendRequest (.mint 7 1 3) [7]) ⟨_, rfl, rfl⟩).perform
    (.takeRequest (.mint 7 1 2)) trivial
  have hanswered := (hasked.perform (.sendResponse (.mint 7 1 2) ⟨.mint 7 1 3, 1⟩ [8]) trivial).perform
    (.takeResponse (.mint 7 1 3)) trivial
  obtain ⟨ctx, history, ctx', hcourse, hconversing, hs, hc, honce, hserved, hheard, hdestroy⟩ :
      ∃ (ctx : Context) (history : List Act) (ctx' : Context), ctx.Course history ∧
        Conversing history ∧ server ∈ held history ∧ client ∈ held history ∧
        timesGiven history client.gid ≤ 1 ∧
        served history server.gid = [(⟨client.gid, 1⟩, [7])] ∧
        heard history client.gid = [(⟨client.gid, 1⟩, [8])] ∧
        (Operation.destroyEndpoint client.handle).perform ctx = (.ok .done, ctx') := by
    refine ⟨_, _, _, hanswered, ((((((Conversing.nil.cons_of_ne (by simp)).cons_of_ne
      (by simp)).cons_of_ne (by simp)).cons_of_ne (by simp)).cons_of_ne (by simp)).cons ?_).cons_of_ne
      (by simp), List.mem_cons_of_mem _ List.mem_cons_self, List.mem_cons_self, Nat.le_of_eq rfl, rfl,
      rfl, rfl⟩
    intro gid request payload heq
    obtain ⟨rfl, rfl, rfl⟩ := Operation.sendResponse.inj heq
    exact ⟨server, List.mem_cons_of_mem _ List.mem_cons_self, rfl, rfl, [7], List.mem_cons_self⟩
  have hreplied := ((hcourse.requests_correlated hconversing).1 client hc rfl honce _
    (hheard ▸ List.mem_cons_self)).2
  have hleft := hcourse.perform (.destroyEndpoint client.handle) trivial
  rw [hdestroy] at hleft
  have hgone : client ∉ held (⟨.destroyEndpoint client.handle, .ok .done⟩ :: history) :=
    fun hmem => of_decide_eq_true (List.mem_filter.1 hmem).2 rfl
  have honce' : timesGiven (⟨.destroyEndpoint client.handle, .ok .done⟩ :: history) client.gid ≤ 1 := by
    rwa [timesGiven_cons history rfl]
  have hdropped := (hleft.requests_correlated (hconversing.cons_of_ne (by simp))).2.2.2.2.1 history
    (List.suffix_cons _ history) client hc hgone honce' server.gid 1 [9]
  exact ⟨ctx, history, server, client, ctx', hcourse, hconversing, hs, rfl, hc, rfl, hserved, hheard,
    hreplied, hdestroy, hdropped⟩

end Context.Course

end PubSub
