import PubSub.Proofs.Context.Effects
import PubSub.Proofs.Context.Queues
import PubSub.Proofs.Endpoint.Callbacks

/-!
# Events, callbacks and the dispatch thread together

An event changes a core first and is raised at a notifier of the core then, a callback can be set in
between, and all the while the dispatch thread makes calls.  `Reporting` is a context in which any
number of threads do so, with a log of it all.  A thread may still hold the core of an endpoint that is
gone, so outlets are told apart by how many endpoints had their identifier before.  Every step keeps
the log in agreement with the notifiers, the queue of the dispatch thread and its calls
(`Reporting.Sound.step`).
-/

namespace PubSub

/-! ## The log -/

/-- Where events are raised and callbacks are set: a channel of an endpoint that so many endpoints
with the same identifier came before. -/
structure Outlet where
  gid : Gid
  life : Nat
  channel : Channel
deriving DecidableEq

/-- Something that callbacks have to do with. -/
inductive Entry
  /-- The core of an endpoint changed. -/
  | occurred (gid : Gid) (life : Nat) (incident : Incident)
  /-- A notifier was told, and queued a job or none. -/
  | told (outlet : Outlet) (act : Notifier.Act) (job : Option Job)
  /-- The dispatch thread was told to stop. -/
  | stopped

namespace Entry

/-- The entry is about an event of the outlet. -/
def isEvent (outlet : Outlet) : Entry → Bool
  | occurred gid life incident => ⟨gid, life, incident.channel⟩ = outlet
  | _ => false

/-- The entry is about the stop. -/
def isStop : Entry → Bool
  | stopped => true
  | _ => false

/-- What the notifier of the outlet was told. -/
def act (outlet : Outlet) : Entry → Option (Notifier.Act × Option Job)
  | told at_ act job => if at_ = outlet then some (act, job) else none
  | _ => none

/-- The job that was queued. -/
def job : Entry → Option Job
  | occurred .. => none
  | told _ _ job => job
  | stopped => some .stop

/-- The outlet whose notifier queued a job. -/
def sender : Entry → Option Outlet
  | told outlet _ (some _) => some outlet
  | _ => none

end Entry

/-- Everything that happened, latest first. -/
abbrev Log := List Entry

namespace Log

/-- The number of events of an outlet: messages delivered, or updates of a status. -/
def events (log : Log) (outlet : Outlet) : Nat := log.countP (·.isEvent outlet)

/-- What the notifier of an outlet was told. -/
def history (log : Log) (outlet : Outlet) : Notifier.History := log.filterMap (·.act outlet)

/-- The jobs that were queued, in their order. -/
def jobs (log : Log) : List Job := (log.filterMap (·.job)).reverse

/-- The outlets whose notifiers queued them. -/
def senders (log : Log) : List Outlet := (log.filterMap (·.sender)).reverse

/-- The sum of what the calls for an outlet were given, of calls for the first jobs. -/
def reported (log : Log) (calls : List Invocation) (outlet : Outlet) : Nat :=
  (((log.senders.zip calls).filter (·.1 = outlet)).map (·.2.count)).sum

end Log

/-! ## Steps -/

/-- A context whose events are reported. -/
structure Reporting where
  ctx : Context
  /-- How many endpoints with an identifier are gone. -/
  age : Gid → Nat
  /-- Their cores. -/
  gone : Gid → Nat → Option Core
  /-- The outlets at which an event is still to be raised. -/
  due : List Outlet
  log : Log
  /-- The calls that the dispatch thread made. -/
  calls : List Invocation

/-- No event is raised and no endpoint added or removed. -/
def Operation.Silent : Operation → Prop
  | announceEndpoint _ | withdrawEndpoint _ | createEndpoint .. | destroyEndpoint _ | publish ..
  | sendRequest .. | sendResponse .. | setCallback .. => False
  | _ => True

namespace Reporting

/-- The core of the endpoint that so many with its identifier came before. -/
def core (r : Reporting) (gid : Gid) (life : Nat) : Option Core :=
  if life = r.age gid then r.ctx.graph.locals.find? gid else r.gone gid life

/-- The notifier of an outlet. -/
def notifier (r : Reporting) (outlet : Outlet) : Notifier :=
  ((r.core outlet.gid outlet.life).map (·.notifier outlet.channel)).getD {}

/-- A core changes, wherever it is. -/
def modify (r : Reporting) (gid : Gid) (life : Nat) (f : Core → Core) : Reporting :=
  { r with
    ctx :=
      if life = r.age gid then { r.ctx with graph := r.ctx.graph.modifyCore gid f } else r.ctx
    gone := fun k n => if k = gid ∧ n = life then (r.gone k n).map f else r.gone k n }

/-- The notifier of an outlet of a core is told. -/
def tell (r : Reporting) (outlet : Outlet) (core : Core) (act : Notifier.Act) : Reporting :=
  let told := (core.notifier outlet.channel).perform act
  let r' := r.modify outlet.gid outlet.life (·.setNotifier outlet.channel told.1)
  { r' with ctx := r'.ctx.dispatch told.2, log := .told outlet act told.2 :: r.log }

/-- Endpoints go.  Whoever holds a core may keep it. -/
def retire (r : Reporting) (graph : Graph) (leaves : Gid → Bool) : Reporting :=
  { r with
    ctx := { r.ctx with graph }
    age := fun k => if leaves k then r.age k + 1 else r.age k
    gone := fun k n =>
      if leaves k ∧ n = r.age k then r.ctx.graph.locals.find? k else r.gone k n }

/-- One step of one thread. -/
inductive Step : Reporting → Reporting → Prop
  | operate {r : Reporting} {operation : Operation} (hsilent : operation.Silent) :
      Step r { r with ctx := (operation.perform r.ctx).2 }
  /-- An identifier is used up, or somebody waits or is signalled. -/
  | aside {r : Reporting} {ctx : Context} (hgraph : ctx.graph = r.ctx.graph)
      (hdispatcher : ctx.dispatcher = r.ctx.dispatcher) : Step r { r with ctx }
  /-- A message of an endpoint is numbered. -/
  | number {r : Reporting} (gid : Gid) : Step r { r with ctx := (r.ctx.nextSequence gid).2 }
  /-- The endpoint is remote, or has a new core.  Those who are to be told may learn of it later. -/
  | add {r : Reporting} {gid : Gid} {record : Endpoint} {ignoresLocal : Option Bool} {graph : Graph}
      {notices : List Notice}
      (hadd : r.ctx.graph.addEndpoint gid record (ignoresLocal.map record.freshCore) =
        .ok (graph, notices)) :
      Step r { r with ctx := { r.ctx with graph } }
  | remove {r : Reporting} {gid : Gid} {graph : Graph} {notices : List Notice}
      (hrem : r.ctx.graph.removeEndpoint gid = some (graph, notices)) :
      Step r (r.retire graph fun k => k = gid)
  | clear {r : Reporting} : Step r (r.retire r.ctx.graph.clear.2 fun _ => true)
  /-- A message is queued or a status updated, at the core that somebody looked up. -/
  | occur {r : Reporting} {gid : Gid} {life : Nat} {core : Core} (incident : Incident)
      (hcore : r.core gid life = some core) :
      Step r
        { r.modify gid life incident.apply with
          due := ⟨gid, life, incident.channel⟩ :: r.due
          log := .occurred gid life incident :: r.log }
  | raise {r : Reporting} {outlet : Outlet} {core : Core} (hdue : outlet ∈ r.due)
      (hcore : r.core outlet.gid outlet.life = some core) :
      Step r { r.tell outlet core .raise with due := r.due.erase outlet }
  | register {r : Reporting} {outlet : Outlet} {core : Core} (callback : Option CallbackId)
      (hcore : r.core outlet.gid outlet.life = some core) :
      Step r (r.tell outlet core (.register callback))
  | stop {r : Reporting} (hrunning : r.ctx.dispatcher.stopped = false) :
      Step r
        { r with
          ctx := { r.ctx with dispatcher := r.ctx.dispatcher.stop }
          log := .stopped :: r.log }
  /-- The dispatch thread makes the next call, which returns or panics. -/
  | serve {r : Reporting} (call : Invocation)
      (hjob : r.ctx.dispatcher.jobs[r.calls.length]? = some call.job) :
      Step r { r with calls := r.calls ++ [call] }

/-- The states that any order of steps leads to, from a new context. -/
inductive Reachable : Reporting → Prop
  | start {host host' : Host} {options : Options} {ctx : Context}
      (h : Context.create host options = .ok (ctx, host')) :
      Reachable ⟨ctx, fun _ => 0, fun _ _ => none, [], [], []⟩
  | step {r r' : Reporting} (h : Reachable r) (hstep : Step r r') : Reachable r'

end Reporting

/-! ## Changes that no notifier hears of -/

namespace Graph

theorem Known.find?_locals_eq_none {graph : Graph} (h : graph.Known) {k : Gid}
    (hnone : graph.endpoints.find? k = none) : graph.locals.find? k = none := by
  refine Option.not_isSome_iff_eq_none.1 fun hsome => ?_
  have hknown := h k hsome
  rw [hnone] at hknown
  cases hknown

/-- A graph that is cleared has no local endpoints left. -/
theorem Known.find?_clear {graph : Graph} (h : graph.Known) (k : Gid) :
    graph.clear.2.locals.find? k = none := by
  unfold Graph.clear
  dsimp only
  split
  · next hempty =>
    apply h.find?_locals_eq_none
    have hentries : graph.endpoints.entries = [] := by
      apply List.eq_nil_of_length_eq_zero
      show graph.endpoints.size = 0
      omega
    unfold Table.find?
    rw [hentries]
    rfl
  · rfl

theorem Known.clear {graph : Graph} (h : graph.Known) : graph.clear.2.Known := by
  intro k hk
  rw [h.find?_clear] at hk
  cases hk

end Graph

/-- The notifiers of all local endpoints are the same, and so is the queue of the dispatch thread. -/
structure Context.Unheard (ctx ctx' : Context) : Prop where
  notifiers : ∀ k channel, (ctx'.graph.locals.find? k).map (·.notifier channel) =
    (ctx.graph.locals.find? k).map (·.notifier channel)
  dispatcher : ctx'.dispatcher = ctx.dispatcher
  known : ctx.graph.Known → ctx'.graph.Known

namespace Core

theorem notifier_apply_eq (core : Core) (incident : Incident) (channel : Channel) :
    (incident.apply core).notifier channel = core.notifier channel := by
  cases incident <;> rfl

theorem notifier_takeStatus (core : Core) (slot : StatusSlot) (channel : Channel) :
    (core.takeStatus slot).notifier channel = core.notifier channel := by
  cases slot <;> rfl

theorem notifier_setNotifier_of_ne (core : Core) {channel other : Channel} (hne : other ≠ channel)
    (notifier : Notifier) : (core.setNotifier channel notifier).notifier other =
      core.notifier other := by
  rcases channel with _ | (_ | _ | _) <;> rcases other with _ | (_ | _ | _) <;>
    first | rfl | exact absurd rfl hne

end Core

namespace Context

theorem Alike.unheard {ctx ctx' : Context} (h : Alike ctx ctx') : Unheard ctx ctx' where
  notifiers k channel := by
    have houtline := congrArg (Option.map (·.notifier channel)) (h.outline k)
    unfold Graph.outline at houtline
    simpa only [Option.map_map, Function.comp_def, Core.notifier_outline] using houtline
  dispatcher := h.dispatcher
  known hknown k hk := by
    have hsome := congrArg Option.isSome (h.outline k)
    unfold Graph.outline at hsome
    rw [Option.isSome_map, Option.isSome_map] at hsome
    rw [h.endpoints]
    exact hknown k (hsome ▸ hk)

/-- A core changes, but none of its notifiers does. -/
theorem unheard_modifyCore (ctx : Context) (gid : Gid) {f : Core → Core}
    (hf : ∀ core channel, (f core).notifier channel = core.notifier channel) :
    Unheard ctx { ctx with graph := ctx.graph.modifyCore gid f } where
  notifiers k channel := by
    rw [Graph.find?_modifyCore]
    split
    · rw [Option.map_map]
      exact congrArg (Option.map · _) (funext fun core => hf core channel)
    · rfl
  dispatcher := rfl
  known hknown := hknown.modifyCore gid f

end Context

theorem Operation.Does.unheard {ctx ctx' : Context} {operation : Operation}
    {reply : Except Error Reply} (hdoes : operation.Does ctx reply ctx') (h : operation.Silent) :
    ctx.Unheard ctx' := by
  have hmint : ctx.Alike ctx.mint.2 := .of_eq rfl rfl rfl
  cases hdoes with
  | refused | announceKnownNode | withdrawUnknownNode | destroyUnknownNode | takeNoStatus
  | createNoWaitSet => exact (Context.Alike.refl ctx).unheard
  | announceNode _ hadd => exact (Context.Alike.addNode hadd).unheard
  | createNode _ hadd => exact (hmint.trans (.addNode hadd)).unheard
  | withdrawNode hrem | destroyNode hrem => exact (Context.Alike.removeNode hrem).unheard
  | createKnownNode => exact hmint.unheard
  | take gid | takeRequest gid | takeResponse gid => exact (Context.Alike.take ctx gid).unheard
  | takeSequence gid count => exact (Context.Alike.takeUpTo ctx gid count).unheard
  | takeStatus => exact ctx.unheard_modifyCore _ fun core channel => core.notifier_takeStatus ..
  | createGuard | trigger | createWaitSet | dropWaitSet =>
    refine Context.Alike.unheard ?_
    exact .of_eq rfl rfl rfl
  | _ => exact h.elim

theorem Operation.Silent.unheard {operation : Operation} (h : operation.Silent) (ctx : Context) :
    ctx.Unheard (operation.perform ctx).2 :=
  (operation.does ctx).unheard h

/-! ## Cores and notifiers after a step -/

namespace Reporting

variable {r r' : Reporting}

theorem notifier_eq {outlet : Outlet} {core : Core}
    (hcore : r.core outlet.gid outlet.life = some core) :
    r.notifier outlet = core.notifier outlet.channel := by
  rw [notifier, hcore]
  rfl

theorem core_modify (r : Reporting) (gid : Gid) (life : Nat) (f : Core → Core) (k : Gid) (n : Nat) :
    (r.modify gid life f).core k n =
      if k = gid ∧ n = life then (r.core k n).map f else r.core k n := by
  unfold modify core
  dsimp only
  by_cases hlive : n = r.age k
  · rw [if_pos hlive, if_pos hlive]
    by_cases hk : k = gid
    · subst hk
      by_cases hn : n = life
      · rw [if_pos (hn ▸ hlive), if_pos ⟨rfl, hn⟩]
        exact (Graph.find?_modifyCore ..).trans (if_pos rfl)
      · rw [if_neg fun h => hn (hlive.trans h.symm), if_neg fun h => hn h.2]
    · rw [if_neg (c := k = gid ∧ n = life) fun h => hk h.1]
      split
      · exact (Graph.find?_modifyCore ..).trans (if_neg hk)
      · rfl
  · rw [if_neg hlive, if_neg hlive]

theorem notifier_modify (r : Reporting) (gid : Gid) (life : Nat) {f : Core → Core}
    (hf : ∀ core channel, (f core).notifier channel = core.notifier channel) (outlet : Outlet) :
    (r.modify gid life f).notifier outlet = r.notifier outlet := by
  unfold notifier
  rw [core_modify]
  split
  · rw [Option.map_map]
    exact congrArg (·.getD {}) (congrArg (Option.map · _) (funext fun core => hf core _))
  · rfl

theorem dispatcher_modify (r : Reporting) (gid : Gid) (life : Nat) (f : Core → Core) :
    (r.modify gid life f).ctx.dispatcher = r.ctx.dispatcher := by
  unfold modify
  dsimp only
  split <;> rfl

theorem known_modify (h : r.ctx.graph.Known) {gid : Gid} {life : Nat} {f : Core → Core} :
    (r.modify gid life f).ctx.graph.Known := by
  unfold modify
  dsimp only
  split
  · exact h.modifyCore gid f
  · exact h

theorem gone_modify (h : ∀ k n, r.age k ≤ n → r.gone k n = none) (gid : Gid) (life : Nat)
    (f : Core → Core) (k : Gid) (n : Nat) (hle : r.age k ≤ n) :
    (r.modify gid life f).gone k n = none := by
  show (if k = gid ∧ n = life then (r.gone k n).map f else r.gone k n) = none
  rw [h k n hle]
  split <;> rfl

/-- No notifier but the one that is told changes. -/
theorem notifier_tell {outlet : Outlet} {core : Core}
    (hcore : r.core outlet.gid outlet.life = some core) (act : Notifier.Act) (o : Outlet) :
    (r.tell outlet core act).notifier o =
      if o = outlet then ((r.notifier outlet).perform act).1 else r.notifier o := by
  have hnow (k : Gid) (n : Nat) : (r.tell outlet core act).core k n =
      (r.modify outlet.gid outlet.life
        (·.setNotifier outlet.channel ((core.notifier outlet.channel).perform act).1)).core k n := by
    unfold tell Reporting.core
    dsimp only
    rw [Context.graph_dispatch]
  rw [notifier_eq hcore]
  unfold notifier
  rw [hnow, core_modify]
  by_cases hsame : o.gid = outlet.gid ∧ o.life = outlet.life
  · rw [if_pos hsame, hsame.1, hsame.2, hcore]
    dsimp only [Option.map, Option.getD]
    split
    · next heq =>
      rw [heq]
      exact core.notifier_setNotifier ..
    · next hne =>
      refine core.notifier_setNotifier_of_ne (fun hchannel => hne ?_) _
      obtain ⟨hgid, hlife⟩ := hsame
      cases o
      cases outlet
      cases hgid
      cases hlife
      cases hchannel
      rfl
  · rw [if_neg hsame, if_neg]
    rintro rfl
    exact hsame ⟨rfl, rfl⟩

/-- Endpoints that go take no core away from those who hold it. -/
theorem core_retire {graph : Graph} {leaves : Gid → Bool}
    (hgone : ∀ gid life, r.age gid ≤ life → r.gone gid life = none)
    (hlocals : ∀ k, graph.locals.find? k =
      if leaves k then none else r.ctx.graph.locals.find? k) (k : Gid) (n : Nat) :
    (r.retire graph leaves).core k n = r.core k n := by
  show (if n = (if leaves k = true then r.age k + 1 else r.age k) then graph.locals.find? k
    else if leaves k = true ∧ n = r.age k then r.ctx.graph.locals.find? k else r.gone k n) =
      if n = r.age k then r.ctx.graph.locals.find? k else r.gone k n
  rw [hlocals]
  by_cases hleaves : leaves k = true
  · simp only [hleaves, if_true, true_and]
    by_cases hnext : n = r.age k + 1
    · rw [if_pos hnext, if_neg (by omega), hgone k n (by omega)]
    · rw [if_neg hnext]
  · simp only [hleaves, Bool.false_eq_true, if_false, false_and]

end Reporting

/-! ## The log after a step -/

namespace Log

variable (log : Log) (outlet o : Outlet)

theorem history_occurred (gid : Gid) (life : Nat) (incident : Incident) :
    history (.occurred gid life incident :: log) o = log.history o :=
  List.filterMap_cons_none rfl

theorem history_stopped : history (.stopped :: log) o = log.history o :=
  List.filterMap_cons_none rfl

theorem history_told (act : Notifier.Act) (job : Option Job) :
    history (.told outlet act job :: log) o =
      if o = outlet then (act, job) :: log.history o else log.history o := by
  have hact : (Entry.told outlet act job).act o = if outlet = o then some (act, job) else none :=
    rfl
  unfold history
  by_cases heq : o = outlet
  · rw [if_pos heq, List.filterMap_cons_some (hact.trans (if_pos heq.symm))]
  · rw [if_neg heq, List.filterMap_cons_none (hact.trans (if_neg (Ne.symm heq)))]

theorem jobs_told (act : Notifier.Act) (job : Option Job) :
    jobs (.told outlet act job :: log) = log.jobs ++ job.toList := by
  have hjob : (Entry.told outlet act job).job = job := rfl
  unfold jobs
  cases job with
  | none => rw [List.filterMap_cons_none hjob, Option.toList_none, List.append_nil]
  | some job => rw [List.filterMap_cons_some hjob, List.reverse_cons, Option.toList_some]

theorem jobs_stopped : jobs (.stopped :: log) = log.jobs ++ [.stop] := by
  have hjob : Entry.stopped.job = some .stop := rfl
  unfold jobs
  rw [List.filterMap_cons_some hjob, List.reverse_cons]

end Log

theorem Context.jobs_dispatch (ctx : Context) (job : Option Job) :
    (ctx.dispatch job).dispatcher.jobs = ctx.dispatcher.jobs ++ job.toList := by
  cases job with
  | none => exact (List.append_nil _).symm
  | some job => rfl

theorem Context.stopped_dispatch (ctx : Context) (job : Option Job) :
    (ctx.dispatch job).dispatcher.stopped = ctx.dispatcher.stopped := by
  cases job <;> rfl

/-! ## What every step keeps -/

namespace Reporting

/-- The log agrees with the notifiers, with the queue of the dispatch thread and with its calls. -/
structure Sound (r : Reporting) : Prop where
  known : r.ctx.graph.Known
  gone : ∀ gid life, r.age gid ≤ life → r.gone gid life = none
  course : ∀ outlet, (r.notifier outlet).Course (r.log.history outlet)
  events : ∀ outlet,
    r.log.events outlet = (r.log.history outlet).raised + r.due.count outlet
  jobs : r.ctx.dispatcher.jobs = r.log.jobs
  stops : r.log.countP (·.isStop) = if r.ctx.dispatcher.stopped then 1 else 0
  served : Dispatcher.Served r.ctx.dispatcher.jobs r.calls

namespace Sound

variable {r r' : Reporting}

/-- Jobs that are added to the queue do not matter to the calls made so far. -/
theorem served_append (h : r.Sound) (jobs : List Job) :
    Dispatcher.Served (r.ctx.dispatcher.jobs ++ jobs) r.calls :=
  h.served.trans (List.prefix_append ..)

/-- Nothing happened that a notifier, the dispatch thread or the log would tell. -/
theorem of_notifier (h : r.Sound) {ctx : Context} {age : Gid → Nat}
    {gone : Gid → Nat → Option Core} (hknown : ctx.graph.Known)
    (hgone : ∀ gid life, age gid ≤ life → gone gid life = none)
    (hdispatcher : ctx.dispatcher = r.ctx.dispatcher)
    (hnotifier : ∀ o, notifier { r with ctx, age, gone } o = r.notifier o) :
    Sound { r with ctx, age, gone } where
  known := hknown
  gone := hgone
  course o := hnotifier o ▸ h.course o
  events := h.events
  jobs := hdispatcher ▸ h.jobs
  stops := hdispatcher ▸ h.stops
  served := hdispatcher ▸ h.served

theorem of_unheard (h : r.Sound) {ctx : Context} (hunheard : r.ctx.Unheard ctx) :
    Sound { r with ctx } := by
  refine h.of_notifier (hunheard.known h.known) h.gone hunheard.dispatcher fun o => ?_
  unfold notifier core
  dsimp only
  split
  · rw [hunheard.notifiers]
  · rfl

/-- A new endpoint has a core that nobody told anything. -/
theorem add (h : r.Sound) {gid : Gid} {record : Endpoint} {ignoresLocal : Option Bool}
    {graph : Graph} {notices : List Notice}
    (hadd : r.ctx.graph.addEndpoint gid record (ignoresLocal.map record.freshCore) =
      .ok (graph, notices)) : Sound { r with ctx := { r.ctx with graph } } := by
  obtain ⟨hnew, -, -, -, hlocals, -⟩ := Graph.addEndpoint_eq_ok hadd
  refine h.of_notifier (h.known.addEndpoint hadd) h.gone rfl fun o => ?_
  unfold notifier core
  dsimp only
  rw [hlocals]
  split
  · split
    · next hlive hfresh =>
      rw [hfresh.1, h.known.find?_locals_eq_none hnew]
      cases ignoresLocal with
      | none => rfl
      | some ignoresLocal => rcases o.channel with _ | (_ | _ | _) <;> rfl
    · rfl
  · rfl

theorem retire (h : r.Sound) {graph : Graph} {leaves : Gid → Bool} (hknown : graph.Known)
    (hlocals : ∀ k, graph.locals.find? k =
      if leaves k then none else r.ctx.graph.locals.find? k) : Sound (r.retire graph leaves) := by
  refine h.of_notifier hknown (fun k n hle => ?_) rfl fun o => ?_
  · split at hle
    · rw [if_neg (by omega)]
      exact h.gone k n (by omega)
    · next hstays =>
      rw [if_neg fun h => hstays h.1]
      exact h.gone k n hle
  · exact congrArg (fun core => (core.map (·.notifier o.channel)).getD {})
      (core_retire h.gone hlocals o.gid o.life)

/-- An event occurs, and is still to be raised. -/
theorem occur (h : r.Sound) (gid : Gid) (life : Nat) (incident : Incident) :
    Sound
      { r.modify gid life incident.apply with
        due := ⟨gid, life, incident.channel⟩ :: r.due
        log := .occurred gid life incident :: r.log } where
  known := known_modify h.known
  gone := gone_modify h.gone gid life incident.apply
  course o := by
    have hcourse := h.course o
    rw [← r.notifier_modify gid life (fun core channel => core.notifier_apply_eq incident channel)]
      at hcourse
    rw [Log.history_occurred]
    exact hcourse
  events o := by
    have hevents := h.events o
    unfold Log.events at hevents ⊢
    rw [Log.history_occurred, List.countP_cons, List.count_cons, hevents, Nat.add_assoc]
    rfl
  jobs := (congrArg Dispatcher.jobs (r.dispatcher_modify ..)).trans h.jobs
  stops := by
    show List.countP _ _ = if (r.modify _ _ _).ctx.dispatcher.stopped = true then 1 else 0
    rw [dispatcher_modify]
    exact h.stops
  served := by
    show Dispatcher.Served (r.modify _ _ _).ctx.dispatcher.jobs r.calls
    rw [dispatcher_modify]
    exact h.served

/-- The notifier of an outlet is told, and what it told the dispatch thread is queued. -/
theorem tell (h : r.Sound) {outlet : Outlet} {core : Core}
    (hcore : r.core outlet.gid outlet.life = some core) (act : Notifier.Act) {due : List Outlet}
    (hdue : ∀ o, r.due.count o =
      due.count o + if o = outlet ∧ act = .raise then 1 else 0) :
    Sound { r.tell outlet core act with due } := by
  have hjobs : (r.tell outlet core act).ctx.dispatcher.jobs =
      r.ctx.dispatcher.jobs ++ ((core.notifier outlet.channel).perform act).2.toList := by
    unfold Reporting.tell
    dsimp only
    rw [Context.jobs_dispatch, dispatcher_modify]
  refine ⟨?_, gone_modify h.gone _ _ _, fun o => ?_, fun o => ?_, ?_, ?_, ?_⟩
  · show (Context.dispatch _ _).graph.Known
    rw [Context.graph_dispatch]
    exact known_modify h.known
  · show ((r.tell outlet core act).notifier o).Course
      (Log.history (.told outlet act ((core.notifier outlet.channel).perform act).2 :: r.log) o)
    rw [notifier_tell hcore, Log.history_told, ← notifier_eq hcore]
    split
    · next heq =>
      rw [heq]
      exact (h.course outlet).perform act
    · exact h.course o
  · show Log.events (.told outlet act _ :: r.log) o =
      (Log.history (.told outlet act _ :: r.log) o).raised + due.count o
    have hevents := h.events o
    have hdue := hdue o
    have hquiet : Log.events (.told outlet act
        ((core.notifier outlet.channel).perform act).2 :: r.log) o = r.log.events o :=
      List.countP_cons_of_neg Bool.false_ne_true
    rw [hquiet, Log.history_told]
    unfold Notifier.History.raised at hevents ⊢
    by_cases heq : o = outlet
    · rw [if_pos heq, List.countP_cons]
      simp only [heq, true_and, decide_eq_true_eq] at hdue hevents ⊢
      omega
    · rw [if_neg heq]
      rw [if_neg fun h => heq h.1] at hdue
      omega
  · show (r.tell outlet core act).ctx.dispatcher.jobs = Log.jobs (.told outlet act _ :: r.log)
    rw [hjobs, Log.jobs_told, h.jobs]
  · show List.countP _ (.told outlet act _ :: r.log) =
      if (Context.dispatch _ _).dispatcher.stopped = true then 1 else 0
    rw [Context.stopped_dispatch, dispatcher_modify]
    exact h.stops
  · show Dispatcher.Served (r.tell outlet core act).ctx.dispatcher.jobs r.calls
    rw [hjobs]
    exact h.served_append _

/-- The dispatch thread is told to stop. -/
theorem stop (h : r.Sound) (hrunning : r.ctx.dispatcher.stopped = false) :
    Sound
      { r with
        ctx := { r.ctx with dispatcher := r.ctx.dispatcher.stop }
        log := .stopped :: r.log } := by
  have hstop : r.ctx.dispatcher.stop = ⟨r.ctx.dispatcher.jobs ++ [.stop], true⟩ := by
    unfold Dispatcher.stop
    rw [hrunning]
    rfl
  rw [hstop]
  refine ⟨h.known, h.gone, fun o => ?_, fun o => ?_, ?_, ?_, h.served_append _⟩
  · rw [Log.history_stopped]
    exact h.course o
  · rw [Log.history_stopped]
    exact h.events o
  · rw [Log.jobs_stopped, h.jobs]
  · have hstops := h.stops
    rw [hrunning, if_neg Bool.false_ne_true] at hstops
    show List.countP _ (.stopped :: r.log) = 1
    rw [List.countP_cons_of_pos rfl, hstops]

theorem step (h : r.Sound) (hstep : Step r r') : r'.Sound := by
  cases hstep with
  | operate hsilent => exact h.of_unheard (hsilent.unheard r.ctx)
  | aside hgraph hdispatcher =>
    refine h.of_unheard (Context.Alike.unheard ?_)
    exact .of_eq (congrArg Graph.endpoints hgraph) (congrArg Graph.locals hgraph) hdispatcher
  | number gid => exact h.of_unheard (Context.Alike.nextSequence r.ctx gid).unheard
  | add hadd => exact h.add hadd
  | @remove gid graph notices hrem =>
    obtain ⟨-, -, -, -, -, hlocals, -⟩ := Graph.removeEndpoint_eq_some hrem
    refine h.retire (h.known.removeEndpoint hrem) fun k => ?_
    rw [hlocals]
    simp only [decide_eq_true_eq]
  | clear => exact h.retire h.known.clear fun k => h.known.find?_clear k
  | occur incident hcore => exact h.occur ..
  | @raise outlet core hdue hcore =>
    refine h.tell hcore .raise fun o => ?_
    rw [List.count_erase]
    by_cases heq : o = outlet
    · have hpos : 0 < r.due.count o := List.count_pos_iff.2 (heq ▸ hdue)
      rw [if_pos (beq_iff_eq.2 heq.symm), if_pos ⟨heq, rfl⟩]
      omega
    · rw [if_neg fun h => heq (beq_iff_eq.1 h).symm, if_neg fun h => heq h.1]
      rfl
  | register callback hcore =>
    exact h.tell hcore (.register callback) fun o => by
      rw [if_neg (by simp)]
      rfl
  | stop hrunning => exact h.stop hrunning
  | serve call hjob =>
    exact ⟨h.known, h.gone, h.course, h.events, h.jobs, h.stops, h.served.invoke hjob⟩

end Sound

end Reporting

/-- The dispatch thread of a new context has nothing to do yet. -/
theorem Context.dispatcher_create {host host' : Host} {options : Options} {ctx : Context}
    (h : Context.create host options = .ok (ctx, host')) : ctx.dispatcher = .start := by
  unfold Context.create at h
  cases hvalid : options.validate <;> rw [hvalid] at h <;> cases h
  rfl

theorem Reporting.Reachable.sound {r : Reporting} (h : r.Reachable) : r.Sound := by
  induction h with
  | @start host host' options ctx hcreate =>
    have hgraph := Context.graph_create hcreate
    have hdispatcher := Context.dispatcher_create hcreate
    have hnone (k : Gid) : ctx.graph.locals.find? k = none := by
      rw [hgraph]
      rfl
    refine ⟨fun k hk => ?_, fun _ _ _ => rfl, fun o => ?_, fun _ => rfl, ?_, ?_, List.nil_prefix⟩
    · rw [hnone] at hk
      cases hk
    · have hnew : notifier ⟨ctx, fun _ => 0, fun _ _ => none, [], [], []⟩ o = {} := by
        unfold notifier core
        dsimp only
        split
        · rw [hnone]
          rfl
        · rfl
      rw [hnew]
      exact .start
    · rw [hdispatcher]
      rfl
    · rw [hdispatcher]
      rfl
  | step _ hstep ih => exact ih.step hstep

end PubSub
