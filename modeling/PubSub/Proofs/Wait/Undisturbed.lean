import Mathlib.Logic.Relation
import PubSub.Proofs.Wait.WakeUp

/-!
# Steps with nobody in between

`Threads` takes waits and operations apart, so that other threads can come in.  Where none does, the
steps come together again: a wait arrives where `Context.startWait` and `Context.advanceWait` do, and
a notifier where `Context.signal` and `Context.trigger` do.  So whatever a context does in one go is
among the courses of its threads (`Threads.Reachable.steps_perform`, `Threads.steps_startWait`).
-/

namespace PubSub

/-! ## Notifiers -/

/-- Steps of one notifier with no other thread in between. -/
def Notifying.Run (locked : Source → Prop) : Context × Notifying → Context × Notifying → Prop :=
  Relation.ReflTransGen fun a b => Notifying.Step locked a.1 a.2 b.1 b.2

/-- The hooks lead to wait sets. -/
def Switchboard.Wired (board : Switchboard) (hooks : List Hook) : Prop :=
  ∀ hook ∈ hooks, hook.waitSet ∈ board.waitSets.keys

theorem Core.notifier_apply (core : Core) (incident : Incident) :
    (incident.apply core).notifier incident.channel = core.notifier incident.channel := by
  cases incident <;> rfl

/-- The change of the core and the push callback leave the graph as `signal` does. -/
theorem Context.callBack_change {ctx : Context} {gid : Gid} {core : Core}
    (hcore : ctx.graph.locals.find? gid = some core) (incident : Incident) :
    Context.callBack { ctx with graph := ctx.graph.modifyCore gid incident.apply } gid
        incident.channel =
      Context.dispatch
        { ctx with
          graph := ctx.graph.modifyCore gid fun core' =>
            (incident.apply core').setNotifier incident.channel
              (core.notifier incident.channel).raise.1 }
        (core.notifier incident.channel).raise.2 := by
  unfold callBack
  dsimp only
  rw [Graph.find?_modifyCore, if_pos rfl, hcore]
  dsimp only [Option.map]
  rw [Core.notifier_apply]
  unfold Graph.modifyCore
  dsimp only
  rw [Table.modify_modify]

namespace Notifying

variable {locked : Source → Prop} {ctx ctx' : Context} {source : Source}

theorem Run.head {a b : Notifying} {last : Context × Notifying} (h : Step locked ctx a ctx' b)
    (hrest : Run locked (ctx', b) last) : Run locked (ctx, a) last :=
  Relation.ReflTransGen.head h hrest

/-- The slot of one hook after the other is signalled, each in one step or two. -/
theorem run_marking {todo : List Hook} (hsource : ∀ hook ∈ todo, hook.source = source)
    (hwired : ctx.board.Wired todo) :
    Run locked (ctx, .marking source todo)
      ({ ctx with board := todo.foldl Switchboard.signalHook ctx.board }, .idle) := by
  induction todo generalizing ctx with
  | nil => exact .head .unlock .refl
  | cons hook rest ih =>
    obtain ⟨waitSet, hfind⟩ := Table.mem_keys_iff.1 (hwired hook List.mem_cons_self)
    obtain rfl := hsource hook List.mem_cons_self
    have hrest : Run locked
        ({ ctx with board := ctx.board.signalHook hook }, .marking hook.source rest)
        ({ ctx with board := (hook :: rest).foldl Switchboard.signalHook ctx.board }, .idle) := by
      refine ih (fun h hmem => hsource h (List.mem_cons_of_mem _ hmem)) fun h hmem => ?_
      rw [show (ctx.board.signalHook hook).waitSets.keys = _ from Table.keys_modify ..]
      exact hwired h (List.mem_cons_of_mem _ hmem)
    rw [Switchboard.signalHook_eq hfind, Wake.Driver.signal_eq] at hrest
    cases hmark : (waitSet.driver.mark hook.registration.slot).1 with
    | true =>
      rw [hmark, if_pos rfl] at hrest
      exact .head (.markOld hfind hmark) hrest
    | false =>
      rw [hmark, if_neg Bool.false_ne_true, ← Switchboard.setDriver_setDriver] at hrest
      have hmarked := Switchboard.find?_setDriver_self hfind
        (waitSet.driver.mark hook.registration.slot).2
      exact .head (.markNew hfind hmark) (.head (.raise hmarked) hrest)

theorem run_pending (hfree : ¬ locked source) (hwired : ctx.board.Wired ctx.board.hooks) :
    Run locked (ctx, .pending source) ({ ctx with board := ctx.board.notify source }, .idle) := by
  rw [Switchboard.notify_eq_foldl]
  refine .head (.lock hfree) (run_marking (fun hook hmem => ?_) fun hook hmem => ?_)
  · exact of_decide_eq_true (List.mem_filter.1 hmem).2
  · exact hwired hook (List.mem_filter.1 hmem).1

/-- A notifier that is left alone does what `Context.trigger` does. -/
theorem run_trigger (id : GuardId) (hfree : ¬ locked (.guard id))
    (hwired : ctx.board.Wired ctx.board.hooks) :
    Run locked (ctx, .idle) (ctx.trigger id, .idle) := by
  unfold Context.trigger Switchboard.trigger
  split
  · exact .refl
  · next hclear => exact .head (.trigger (Bool.eq_false_iff.2 hclear)) (run_pending hfree hwired)

/-- A notifier that is left alone does what `Context.signal` does. -/
theorem run_signal (gid : Gid) (incident : Incident)
    (hfree : ¬ locked (.endpoint gid incident.channel))
    (hwired : ctx.board.Wired ctx.board.hooks) :
    Run locked (ctx, .idle) (ctx.signal gid incident.channel incident.apply, .idle) := by
  unfold Context.signal
  split
  · exact .refl
  · next core hcore =>
    refine .head (@Step.change _ _ gid incident) (.head .call ?_)
    rw [Context.callBack_change hcore incident]
    refine run_pending hfree ?_
    rw [Context.board_dispatch]
    exact hwired

end Notifying

/-! ## Waits -/

/-- Steps of the wait of one wait set with no other thread in between. -/
def Call.Run (locked : Source → Prop) (id : WaitSetId) :
    Context × Option Call → Context × Option Call → Prop :=
  Relation.ReflTransGen fun a b => Call.Step locked id a.1 a.2 b.1 b.2

/-- Where the wait of a wait set stands after an operation: it blocks, or has undone its enrolments. -/
def WaitProgress.At : WaitProgress → WaitSetId → Call → Prop
  | finished outcome, _, call => call.session.enrolled = [] ∧ call.stage = .leaving outcome
  | blocked session, id, call => session.waitSet = id ∧ call = ⟨session, .blocked⟩

namespace Call

variable {locked : Source → Prop} {id : WaitSetId} {ctx ctx' : Context} {session : Session}

theorem Run.head {a b : Option Call} {last : Context × Option Call}
    (h : Step locked id ctx a ctx' b) (hrest : Run locked id (ctx', b) last) :
    Run locked id (ctx, a) last :=
  Relation.ReflTransGen.head h hrest

theorem Run.trans {a b c : Context × Option Call} (h : Run locked id a b)
    (h' : Run locked id b c) : Run locked id a c :=
  Relation.ReflTransGen.trans h h'

theorem run_withdrawAll (hfree : ∀ source, ¬ locked source) (hooks : List Hook)
    (outcome : WaitOutcome) :
    Run locked id (ctx, some ⟨{ session with enrolled := hooks }, .leaving outcome⟩)
      ({ ctx with board := ctx.board.withdrawAll hooks },
        some ⟨{ session with enrolled := [] }, .leaving outcome⟩) := by
  induction hooks generalizing ctx with
  | nil => exact .refl
  | cons hook rest ih =>
    exact .head (.detach rfl (hfree hook.source)) (.head .release (.head .unclaim ih))

/-- Enrolments one after the other, or one that cannot be completed. -/
theorem run_enrollAll (hfree : ∀ source, ¬ locked source) (todo : List Source) (done : List Hook) :
    Run locked id (ctx, some ⟨{ session with enrolled := done }, .enrolling todo⟩)
      ({ ctx with board := (ctx.board.enrollAll id done todo).2 },
        some <| match (ctx.board.enrollAll id done todo).1 with
          | .ok enrolled => ⟨{ session with enrolled }, .enrolling []⟩
          | .error error =>
            ⟨{ session with enrolled := [] }, .leaving ⟨.error error, session.handles⟩⟩) := by
  induction todo generalizing ctx done with
  | nil => exact .refl
  | cons source rest ih =>
    unfold Switchboard.enrollAll Switchboard.enroll
    cases hclaim : ctx.board.claim source with
    | none => exact .head (.refuse hclaim) (run_withdrawAll hfree done _)
    | some claimed =>
      refine .head (.claim hclaim) ?_
      cases hregister : claimed.register id with
      | error error =>
        refine .head (.giveBack hregister) ?_
        dsimp only
        rw [Switchboard.unclaim_claim hclaim, hregister]
        exact run_withdrawAll hfree done _
      | ok result =>
        refine .head (.register hregister) (.head (.attach (hfree source)) ?_)
        dsimp only
        rw [hregister]
        exact ih _

theorem run_scan (ctx : Context) (found : List Bool) (handles : List (Option Source)) :
    Run locked id (ctx, some ⟨session, .scanning found handles⟩)
      ((ctx.scan handles).2, some ⟨session, .scanning (found ++ (ctx.scan handles).1) []⟩) := by
  induction handles generalizing ctx found with
  | nil =>
    rw [show (ctx.scan []).1 = [] from rfl, List.append_nil]
    exact .refl
  | cons handle rest ih =>
    cases handle with
    | none =>
      have hrest := ih ctx (found ++ [false])
      rw [List.append_assoc] at hrest
      exact .head .skip hrest
    | some source =>
      have hrest := ih (ctx.poll source).2 (found ++ [(ctx.poll source).1])
      rw [List.append_assoc] at hrest
      exact .head .poll hrest

/-- Left alone, the wait comes to where the operation leaves it. -/
def Reaches (locked : Source → Prop) (id : WaitSetId) (ctx : Context) (call : Option Call)
    (result : Context × WaitProgress) : Prop :=
  ∃ call', result.2.At id call' ∧ Run locked id (ctx, call) (result.1, some call')

theorem Reaches.head {a b : Option Call} {result : Context × WaitProgress}
    (h : Step locked id ctx a ctx' b) (hrest : Reaches locked id ctx' b result) :
    Reaches locked id ctx a result := by
  obtain ⟨call, hat, hrun⟩ := hrest
  exact ⟨call, hat, .head h hrun⟩

theorem Run.reaches {a b : Option Call} {result : Context × WaitProgress}
    (h : Run locked id (ctx, a) (ctx', b)) (hrest : Reaches locked id ctx' b result) :
    Reaches locked id ctx a result := by
  obtain ⟨call, hat, hrun⟩ := hrest
  exact ⟨call, hat, h.trans hrun⟩

theorem reaches_finishWait (hfree : ∀ source, ¬ locked source) (result : Except Error Nat)
    (found : List Bool) :
    Reaches locked id ctx (some ⟨session, .leaving ⟨result, Session.keep session.handles found⟩⟩)
      (ctx.finishWait session result found) :=
  ⟨_, ⟨rfl, rfl⟩, run_withdrawAll hfree session.enrolled _⟩

/-- A pass that is left alone does what `Context.passWait` does. -/
theorem reaches_passWait (hfree : ∀ source, ¬ locked source) (hid : session.waitSet = id)
    (now : Nat) :
    Reaches locked id ctx (some ⟨session, .scanning [] session.handles⟩)
      (ctx.passWait session now) := by
  have hdecide : ∀ (ctx : Context) (found : List Bool),
      Reaches locked id ctx (some ⟨session, .deciding found⟩)
        (if session.deadline.any (· ≤ now) then ctx.finishWait session (.error .timeout) found
          else (ctx, .blocked session)) := by
    intro ctx found
    split
    · next hover =>
      exact .head (.expire (Option.isSome_of_any hover)) (reaches_finishWait hfree ..)
    · exact ⟨_, ⟨hid, rfl⟩, .head .block .refl⟩
  refine (run_scan ctx [] session.handles).reaches ?_
  unfold Context.passWait
  dsimp only
  split
  · next hcount => exact .head (.ready hcount) (reaches_finishWait hfree ..)
  · next hcount =>
    refine .head (.noneReady (Nat.eq_zero_of_not_pos hcount)) ?_
    cases hlists : session.listsGuard with
    | true => exact .head (.listed hlists) (hdecide ..)
    | false =>
      rw [if_neg Bool.false_ne_true]
      split
      · next hpoll => exact .head (.cancelled hlists hpoll) (reaches_finishWait hfree ..)
      · next hpoll => exact .head (.goOn hlists (Bool.eq_false_iff.2 hpoll)) (hdecide ..)

/-- A wait that is not refused at once does what `Context.startWait` does. -/
theorem reaches_startWait (hfree : ∀ source, ¬ locked source) (handles : List (Option Source))
    (timeout : Option Nat) (now : Nat) :
    (∃ error, ctx.startWait id handles timeout now = (ctx, .finished ⟨.error error, handles⟩)) ∨
      Reaches locked id ctx none (ctx.startWait id handles timeout now) := by
  unfold Context.startWait
  dsimp only
  split
  · exact Or.inl ⟨_, rfl⟩
  · next waitSet hfind =>
    split
    · exact Or.inl ⟨_, rfl⟩
    · next hfew =>
      split
      · exact Or.inl ⟨_, rfl⟩
      · next reserved hreserve =>
        right
        refine .head (@Step.start _ _ _ _ _ _ (Wake.deadline? now timeout) hfind hfew hreserve) ?_
        have hrun := @run_enrollAll locked id
          { ctx with board := { ctx.board with waitSets := ctx.board.waitSets.insert id reserved } }
          ⟨id, reserved.guard, handles, [], Wake.deadline? now timeout⟩ hfree
          (waitSources reserved.guard handles) []
        refine hrun.reaches ?_
        dsimp only
        generalize Switchboard.enrollAll _ id [] _ = result
        obtain ⟨error | enrolled, board⟩ := result
        · exact ⟨_, ⟨rfl, rfl⟩, .refl⟩
        · exact .head .scan (reaches_passWait hfree rfl now)

theorem run_draining {driver : Wake.Driver} {k : Nat} (hid : id ∈ ctx.board.waitSets.keys)
    (hraised : driver.raised = false) (htaken : driver.pending.TakenTo k) :
    Run locked id ({ ctx with board := ctx.board.setDriver id driver },
        some ⟨session, .draining k⟩)
      ({ ctx with board := ctx.board.setDriver id driver.collect.2 },
        some ⟨session, .scanning [] session.handles⟩) := by
  obtain ⟨waitSet, hfind⟩ := Table.mem_keys_iff.1 hid
  have hset := Switchboard.find?_setDriver_self hfind
  induction hn : driver.pending.words.length - k generalizing driver k with
  | zero =>
    have hle : driver.pending.words.length ≤ k := Nat.sub_eq_zero_iff_le.1 hn
    rw [Wake.Driver.snd_collect hraised htaken hle]
    exact .head (.drained (hset driver) hle) .refl
  | succ n ih =>
    refine .head (.takeWord (hset driver) (by dsimp only; omega)) ?_
    dsimp only
    rw [Switchboard.setDriver_setDriver]
    refine @ih (driver.takeWord k) (k + 1) hraised htaken.takeWord ?_
    show (driver.pending.takeWord k).words.length - (k + 1) = n
    rw [Wake.Bits.length_takeWord]
    omega

/-- A wait that is left alone goes on as `Context.advanceWait` does. -/
theorem reaches_advanceWait (hfree : ∀ source, ¬ locked source) {progress : WaitProgress}
    {call : Call} (hat : progress.At id call) (now : Nat) :
    Reaches locked id ctx (some call) (ctx.advanceWait now progress) := by
  cases progress with
  | finished outcome => exact ⟨call, hat, .refl⟩
  | blocked session =>
    obtain ⟨rfl, rfl⟩ := hat
    unfold Context.advanceWait Context.resumeWait
    dsimp only
    split
    · next hgo =>
      split
      · next hraised =>
        cases hfind : ctx.board.waitSets.find? session.waitSet with
        | none => rw [Context.isSignalled, hfind] at hraised; cases hraised
        | some waitSet =>
          have hid := Table.mem_keys_iff.2 ⟨waitSet, hfind⟩
          have hdrain := @run_draining locked _ ctx session waitSet.driver.lower 0 hid rfl
            (Wake.Bits.takenTo_zero _)
          have hcollect : ctx.collect session = { ctx with
              board := ctx.board.setDriver session.waitSet waitSet.driver.collect.2 } := by
            unfold Context.collect
            rw [hfind]
          rw [hcollect]
          exact .head (.wake hraised) (.head (.lower hfind)
            (hdrain.reaches (reaches_passWait hfree rfl now)))
      · next hraised =>
        rw [Bool.or_eq_true] at hgo
        have hdeadline := Option.isSome_of_any (hgo.resolve_left hraised)
        exact .head (.timeUp hdeadline) (reaches_passWait hfree rfl now)
    · exact ⟨_, ⟨rfl, rfl⟩, .refl⟩

end Call

/-! ## Among other threads -/

/-- Locks matter only where the hooks of a source are to be locked. -/
theorem Notifying.Step.relock {locked locked' : Source → Prop} {ctx ctx' : Context}
    {notifying notifying' : Notifying} (h : Notifying.Step locked ctx notifying ctx' notifying')
    (hlocks : ∀ source, notifying = .pending source → ¬ locked source → ¬ locked' source) :
    Notifying.Step locked' ctx notifying ctx' notifying' := by
  cases h with
  | trigger hclear => exact .trigger hclear
  | change => exact .change
  | call => exact .call
  | lock hfree => exact .lock (hlocks _ rfl hfree)
  | markNew hfind hnew => exact .markNew hfind hnew
  | markOld hfind hold => exact .markOld hfind hold
  | raise hfind => exact .raise hfind
  | unlock => exact .unlock

namespace Threads

/-- Steps one after the other. -/
def Steps : Threads → Threads → Prop := Relation.ReflTransGen Step

/-- A notifier other than this one has the hooks of the source locked. -/
def LockedByOthers (threads : Threads) (n : Nat) (source : Source) : Prop :=
  ∃ m, m ≠ n ∧ (threads.notifiers m).Holds source

variable {threads threads' : Threads} {id : WaitSetId} {n : Nat}

theorem Reachable.steps (h : threads.Reachable) (hsteps : Steps threads threads') :
    threads'.Reachable := by
  induction hsteps with
  | refl => exact h
  | tail _ hstep ih => exact ih.step hstep

/-- A run of one wait is a course of all threads. -/
theorem steps_call {last : Context × Option Call}
    (h : Call.Run threads.Locked id (threads.ctx, threads.calls id) last) :
    Steps threads
      { threads with ctx := last.1, calls := Function.update threads.calls id last.2 } := by
  induction h with
  | refl =>
    rw [Function.update_eq_self]
    exact .refl
  | @tail b c _ hstep ih =>
    refine ih.tail ?_
    have hnext := @Step.call
      { threads with ctx := b.1, calls := Function.update threads.calls id b.2 } id c.1 c.2
    dsimp only at hnext
    rw [Function.update_self, Function.update_idem] at hnext
    exact hnext hstep

/-- A run of one notifier is a course of all threads, as far as the locks of the others let it. -/
theorem steps_notify {last : Context × Notifying}
    (h : Notifying.Run (threads.LockedByOthers n) (threads.ctx, threads.notifiers n) last) :
    Steps threads
      { threads with ctx := last.1, notifiers := Function.update threads.notifiers n last.2 } := by
  induction h with
  | refl =>
    rw [Function.update_eq_self]
    exact .refl
  | @tail b c _ hstep ih =>
    refine ih.tail ?_
    have hnext := @Step.notify
      { threads with ctx := b.1, notifiers := Function.update threads.notifiers n b.2 } n c.1 c.2
    dsimp only at hnext
    rw [Function.update_self, Function.update_idem] at hnext
    refine hnext (hstep.relock fun source hpending hothers => ?_)
    rintro ⟨m, hholds⟩
    by_cases hm : m = n
    · subst hm
      dsimp only at hholds
      rw [Function.update_self, hpending] at hholds
      exact hholds
    · dsimp only at hholds
      rw [Function.update_of_ne hm] at hholds
      exact hothers ⟨m, hm, hholds⟩

/-- A notifier that is done is where it was before. -/
theorem steps_of_run (hidle : threads.notifiers n = .idle) {ctx : Context}
    (h : Notifying.Run (threads.LockedByOthers n) (threads.ctx, .idle) (ctx, .idle)) :
    Steps threads { threads with ctx } := by
  rw [← hidle] at h
  have hsteps := steps_notify h
  rwa [Function.update_eq_self] at hsteps

theorem Sound.wired (h : threads.Sound) : threads.ctx.board.Wired threads.ctx.board.hooks := by
  intro hook hmem
  obtain ⟨call, hcall, -⟩ := h.attached hook hmem
  obtain ⟨waitSet, hfind, -⟩ := (h.call _ call hcall).owned
  exact Table.mem_keys_iff.2 ⟨waitSet, hfind⟩

/-- A notifier that changed its source signals the hooks of it. -/
theorem Reachable.steps_pending (h : threads.Reachable) {source : Source}
    (hpending : threads.notifiers n = .pending source)
    (hfree : ¬ threads.LockedByOthers n source) :
    Steps threads
      { threads with
        ctx := { threads.ctx with board := threads.ctx.board.notify source }
        notifiers := Function.update threads.notifiers n .idle } := by
  have hrun := Notifying.run_pending hfree h.invariants.1.wired
  rw [← hpending] at hrun
  exact steps_notify hrun

theorem steps_aside {ctx : Context} (hboard : ctx.board = threads.ctx.board)
    (hready : ∀ source, ctx.IsReady source → threads.ctx.IsReady source) :
    Steps threads { threads with ctx } :=
  .single (.edit (.aside hboard hready))

theorem steps_take (threads : Threads) (gid : Gid) :
    Steps threads { threads with ctx := (threads.ctx.take gid).2 } :=
  steps_aside (Context.board_take ..) fun _ => Context.isReady_take

/-- Messages are taken one at a time. -/
theorem steps_takeUpTo (threads : Threads) (gid : Gid) (count : Nat) :
    Steps threads { threads with ctx := (threads.ctx.takeUpTo gid count).2 } := by
  induction count generalizing threads with
  | zero => exact .refl
  | succ count ih =>
    have hfirst := steps_take threads gid
    unfold Context.takeUpTo
    split
    · next ctx heq => rwa [heq] at hfirst
    · next message ctx heq =>
      rw [heq] at hfirst
      exact hfirst.trans (ih { threads with ctx })

section Notify

variable (h : threads.Reachable) (hfree : ∀ source, ¬ threads.Locked source)
  (hidle : threads.notifiers n = .idle)
include h hfree hidle

/-- `Context.signal` is a course of all threads. -/
theorem Reachable.steps_signal (gid : Gid) (incident : Incident) :
    Steps threads
      { threads with ctx := threads.ctx.signal gid incident.channel incident.apply } := by
  refine steps_of_run hidle (Notifying.run_signal gid incident ?_ h.invariants.1.wired)
  exact fun ⟨m, _, hholds⟩ => hfree _ ⟨m, hholds⟩

/-- `Context.trigger` is a course of all threads. -/
theorem Reachable.steps_trigger (guard : GuardId) :
    Steps threads { threads with ctx := threads.ctx.trigger guard } := by
  refine steps_of_run hidle (Notifying.run_trigger guard ?_ h.invariants.1.wired)
  exact fun ⟨m, _, hholds⟩ => hfree _ ⟨m, hholds⟩

/-- The deliveries of a message are a course of all threads. -/
theorem Reachable.steps_deliverAll (receivers : List Gid) (message : Message) :
    Steps threads { threads with ctx := threads.ctx.deliverAll receivers message } := by
  induction receivers generalizing threads with
  | nil => exact .refl
  | cons gid rest ih =>
    have hfirst := h.steps_signal hfree hidle gid (.message message)
    exact hfirst.trans (ih (h.steps hfirst) hfree hidle)

/-- What follows a change of the graph is a course of all threads. -/
theorem Reachable.steps_announce (notices : List Notice) :
    Steps threads { threads with ctx := threads.ctx.announce notices } := by
  induction notices generalizing threads with
  | nil => exact h.steps_trigger hfree hidle graphGuard
  | cons notice rest ih =>
    have hfirst : Steps threads { threads with ctx := threads.ctx.fire notice } := by
      cases notice with
      | gained gid => exact h.steps_signal hfree hidle gid .gained
      | lost gid => exact h.steps_signal hfree hidle gid .lost
      | incompatibleQos gid policy =>
        exact h.steps_signal hfree hidle gid (.incompatibleQos policy)
      | incompatibleType gid => exact h.steps_signal hfree hidle gid .incompatibleType
    exact hfirst.trans (ih (h.steps hfirst) hfree hidle)

/-- A change of the graph that makes nothing ready is a course of all threads. -/
theorem Reachable.steps_change {graph : Graph} (notices : List Notice)
    (hready : ∀ source, Context.IsReady { threads.ctx with graph } source →
      threads.ctx.IsReady source) :
    Steps threads { threads with ctx := threads.ctx.change graph notices } := by
  have hfirst : Steps threads { threads with ctx := { threads.ctx with graph } } :=
    steps_aside rfl hready
  exact hfirst.trans ((h.steps hfirst).steps_announce hfree hidle notices)

/-- Whatever an operation does in one go is a course of all threads. -/
theorem Reachable.steps_of_does {operation : Operation} {reply : Except Error Reply} {ctx : Context}
    (hdoes : operation.Does threads.ctx reply ctx)
    (hdrop : ∀ id, operation = .dropWaitSet id → threads.calls id = none) :
    Steps threads { threads with ctx } := by
  have hmint : Steps threads { threads with ctx := threads.ctx.mint.2 } :=
    steps_aside rfl fun _ hready => Context.isReady_congr hready rfl fun _ => rfl
  have hchange {graph : Graph} := @Reachable.steps_change threads n h hfree hidle graph
  have hminted {graph : Graph} :=
    @Reachable.steps_change { threads with ctx := threads.ctx.mint.2 } n (h.steps hmint) hfree hidle
      graph
  have hsend (gid : Gid) (receivers : List Gid) (message : Message) :
      Steps threads { threads with
        ctx := (threads.ctx.nextSequence gid).2.deliverAll receivers message } := by
    have hfirst : Steps threads { threads with ctx := (threads.ctx.nextSequence gid).2 } :=
      steps_aside rfl fun _ => Context.isReady_nextSequence
    exact hfirst.trans ((h.steps hfirst).steps_deliverAll hfree hidle receivers message)
  cases hdoes with
  | refused | announceKnownNode | withdrawUnknownNode | announceKnownEndpoint
  | withdrawUnknownEndpoint | destroyUnknownNode | destroyUnknownEndpoint | sendResponseToNone
  | sendResponseToOther | takeNoStatus | createNoWaitSet => exact .refl
  | announceNode _ hadd => exact hchange [] fun _ => Context.isReady_addNode hadd
  | withdrawNode hrem | destroyNode hrem =>
    exact hchange [] fun _ => Context.isReady_removeNode hrem
  | announceEndpoint _ hadd => exact hchange _ fun _ => Context.isReady_addEndpoint hadd fun _ => nofun
  | withdrawEndpoint _ hrem | destroyEndpoint hrem =>
    exact hchange _ fun _ => Context.isReady_removeEndpoint hrem
  | createNode _ hadd => exact hmint.trans (hminted [] fun _ => Context.isReady_addNode hadd)
  | createEndpoint _ _ hadd =>
    refine hmint.trans (hminted _ fun _ => Context.isReady_addEndpoint hadd ?_)
    rintro core ⟨⟩ (_ | (_ | _ | _)) <;> rfl
  | createKnownNode | createKnownEndpoint => exact hmint
  | publish gid | sendRequest gid => exact hsend gid _ _
  | take gid | takeRequest gid | takeResponse gid => exact steps_take threads gid
  | takeSequence gid count => exact steps_takeUpTo threads gid count
  | @sendResponse gid request payload =>
    exact h.steps_signal hfree hidle request.writer (.message ⟨payload, gid, request.sequence⟩)
  | takeStatus => exact steps_aside rfl fun _ => Context.isReady_takeStatus
  | setCallback =>
    exact steps_aside (Context.board_setCallback ..) fun _ => Context.isReady_setCallback
  | createGuard => exact .single (.edit (.createGuard threads.ctx))
  | trigger guard => exact h.steps_trigger hfree hidle guard
  | @createWaitSet maxHandles id board hnew =>
    have hmade := Step.edit (.createWaitSet threads.ctx maxHandles)
    unfold Context.createWaitSet at hmade
    rw [hnew] at hmade
    exact .single hmade
  | dropWaitSet id => exact .single (.edit (.dropWaitSet threads.ctx (hdrop id rfl)))

/-- What an operation does in one go is a course of all threads. -/
theorem Reachable.steps_perform (operation : Operation)
    (hdrop : ∀ id, operation = .dropWaitSet id → threads.calls id = none) :
    Steps threads { threads with ctx := (operation.perform threads.ctx).2 } :=
  h.steps_of_does hfree hidle (operation.does threads.ctx) hdrop

end Notify

/-- A wait that is settled undoes its enrolments as `Switchboard.withdrawAll` does, and returns. -/
theorem steps_withdrawAll (hfree : ∀ source, ¬ threads.Locked source) {session : Session}
    {outcome : WaitOutcome} (hcall : threads.calls id = some ⟨session, .leaving outcome⟩) :
    Steps threads
      { threads with
        ctx := { threads.ctx with board := threads.ctx.board.withdrawAll session.enrolled }
        calls := Function.update threads.calls id none } := by
  have hrun : Call.Run threads.Locked id (threads.ctx, threads.calls id)
      ({ threads.ctx with board := threads.ctx.board.withdrawAll session.enrolled }, none) := by
    rw [hcall]
    exact (Call.run_withdrawAll hfree session.enrolled outcome).trans (.single (.finish rfl))
  exact steps_call hrun

/-- A wait enrols its sources as `Switchboard.enrollAll` does. -/
theorem steps_enrollAll (hfree : ∀ source, ¬ threads.Locked source) {session : Session}
    {todo : List Source} (hcall : threads.calls id = some ⟨session, .enrolling todo⟩) :
    Steps threads
      { threads with
        ctx := { threads.ctx with
          board := (threads.ctx.board.enrollAll id session.enrolled todo).2 }
        calls := Function.update threads.calls id <| some <|
          match (threads.ctx.board.enrollAll id session.enrolled todo).1 with
          | .ok enrolled => ⟨{ session with enrolled }, .enrolling []⟩
          | .error error =>
            ⟨{ session with enrolled := [] }, .leaving ⟨.error error, session.handles⟩⟩ } := by
  have hrun := @Call.run_enrollAll threads.Locked id threads.ctx session hfree todo session.enrolled
  rw [← hcall] at hrun
  exact steps_call hrun

/-- A wait that is not refused at once is a course of all threads. -/
theorem steps_startWait (hfree : ∀ source, ¬ threads.Locked source)
    (hcall : threads.calls id = none) (handles : List (Option Source)) (timeout : Option Nat)
    (now : Nat) :
    (∃ error, threads.ctx.startWait id handles timeout now =
      (threads.ctx, .finished ⟨.error error, handles⟩)) ∨
    ∃ call, (threads.ctx.startWait id handles timeout now).2.At id call ∧
      Steps threads
        { threads with
          ctx := (threads.ctx.startWait id handles timeout now).1
          calls := Function.update threads.calls id (some call) } := by
  rcases Call.reaches_startWait hfree handles timeout now with hrefused | ⟨call, hat, hrun⟩
  · exact Or.inl hrefused
  · rw [← hcall] at hrun
    exact Or.inr ⟨call, hat, steps_call hrun⟩

/-- A wait that goes on is a course of all threads. -/
theorem steps_advanceWait (hfree : ∀ source, ¬ threads.Locked source) {call : Call}
    (hcall : threads.calls id = some call) {progress : WaitProgress} (hat : progress.At id call)
    (now : Nat) :
    ∃ call', (threads.ctx.advanceWait now progress).2.At id call' ∧
      Steps threads
        { threads with
          ctx := (threads.ctx.advanceWait now progress).1
          calls := Function.update threads.calls id (some call') } := by
  obtain ⟨call', hat', hrun⟩ := Call.reaches_advanceWait hfree hat now
  rw [← hcall] at hrun
  exact ⟨call', hat', steps_call hrun⟩

end Threads

end PubSub
