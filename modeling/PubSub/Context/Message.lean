import PubSub.Context.Entity

/-!
# Messages

Publishers deliver to the matched subscriptions of the same context, clients to the matched services,
and a service answers the client whose request it took. Each sender numbers its messages from one.
-/

namespace PubSub

/-- Identifies a request: the client that sent it, and its number. Whoever answers may name any
number. -/
structure RequestId where
  writer : Gid
  sequence : Int
deriving DecidableEq

namespace Context

/-- The number of the next message of an endpoint, and the context with it in use. -/
def nextSequence (ctx : Context) (gid : Gid) : Nat × Context :=
  let sent := ((ctx.graph.locals.find? gid).map (·.sent)).getD 0
  (sent + 1,
    { ctx with graph := ctx.graph.modifyCore gid fun core => { core with sent := sent + 1 } })

/-- Queues a message at each of some endpoints. -/
def deliverAll (ctx : Context) (receivers : List Gid) (message : Message) : Context :=
  receivers.foldl (fun ctx gid => ctx.deliver gid message) ctx

/-- The matched local subscriptions that receive what a publisher of this context sends. -/
def receivers (ctx : Context) (gid : Gid) : List Gid :=
  (ctx.graph.localPeers gid).filter fun peer =>
    (ctx.graph.locals.find? peer).any (!·.ignoresLocal)

/-- Publishes a payload. The result is the number of subscriptions that received it. -/
def publish (ctx : Context) (gid : Gid) (payload : List UInt8) : Nat × Context :=
  let (sequence, ctx) := ctx.nextSequence gid
  let receivers := ctx.receivers gid
  (receivers.length, ctx.deliverAll receivers ⟨payload, gid, sequence⟩)

/-- Takes the oldest message that waits at an endpoint. -/
def take (ctx : Context) (gid : Gid) : Option Message × Context :=
  match ctx.graph.locals.find? gid with
  | none => (none, ctx)
  | some core =>
    (core.dequeue.1, { ctx with graph := ctx.graph.modifyCore gid fun _ => core.dequeue.2 })

/-- Takes up to `count` messages, oldest first. -/
def takeUpTo (ctx : Context) (gid : Gid) : Nat → List Message × Context
  | 0 => ([], ctx)
  | count + 1 =>
    match ctx.take gid with
    | (none, ctx) => ([], ctx)
    | (some message, ctx) =>
      let (rest, ctx) := ctx.takeUpTo gid count
      (message :: rest, ctx)

/-- Takes up to `count` messages; it has to be one at least. -/
def takeSequence (ctx : Context) (gid : Gid) (count : Nat) :
    Except Error (List Message) × Context :=
  if count = 0 then (.error (.invalidArgument .emptyTake), ctx)
  else
    let (messages, ctx) := ctx.takeUpTo gid count
    (.ok messages, ctx)

/-- A service is there to answer the client. -/
def serviceIsAvailable (ctx : Context) (gid : Gid) : Except Error Bool := do
  return 0 < (← ctx.graph.matchedCount gid)

/-- Sends a request. The result is its number, which the answer carries back. -/
def sendRequest (ctx : Context) (gid : Gid) (payload : List UInt8) : Nat × Context :=
  let (sequence, ctx) := ctx.nextSequence gid
  (sequence, ctx.deliverAll (ctx.graph.localPeers gid) ⟨payload, gid, sequence⟩)

/-- Takes the oldest request that waits at a service. -/
def takeRequest (ctx : Context) (gid : Gid) : Option (RequestId × List UInt8) × Context :=
  let (message, ctx) := ctx.take gid
  (message.map fun m => (⟨m.source, m.sequence⟩, m.payload), ctx)

/-- Answers a request. If the client is gone, the answer is dropped. -/
def sendResponse (ctx : Context) (gid : Gid) (request : RequestId) (payload : List UInt8) :
    Except Error Unit × Context :=
  match ctx.graph.locals.find? request.writer with
  | none => (.ok (), ctx)
  | some core =>
    if core.kind ≠ .client then (.error (.invalidArgument (.notAClient request.writer)), ctx)
    else (.ok (), ctx.deliver request.writer ⟨payload, gid, request.sequence⟩)

/-- Takes the oldest answer that waits at a client. -/
def takeResponse (ctx : Context) (gid : Gid) : Option (RequestId × List UInt8) × Context :=
  let (message, ctx) := ctx.take gid
  (message.map fun m => (⟨gid, m.sequence⟩, m.payload), ctx)

end Context

end PubSub
