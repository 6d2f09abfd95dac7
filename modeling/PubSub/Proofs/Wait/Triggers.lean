import Mathlib.Data.Set.Card
import PubSub.Proofs.Wait.Outcome
import PubSub.Proofs.Wait.Undisturbed

/-!
# What becomes of a trigger

A wait that polls a triggered guard consumes the trigger at once, but reports it only when it returns.
In between it carries the trigger (`Call.carries`).  Threads are run with a record of what shows of
each move (`Threads.Recorded`): guards that were triggered, and waits that returned.  The triggers
that found their guard clear are those that were reported, are carried, or are pending
(`Threads.Reachable.triggers_conserved`), so that none is lost and none is reported twice.
-/

namespace PubSub

/-! ## Reports -/

/-- The outcome of a wait reports the guard: with handles ready the guard is among those that stay,
and with none ready it is the guard of the wait set, which was not listed. -/
def Session.reports (session : Session) (g : GuardId) (outcome : WaitOutcome) : Bool :=
  match outcome.result with
  | .ok 0 => !session.listsGuard && session.guard == g
  | .ok (_ + 1) => outcome.handles.contains (some (.guard g))
  | .error _ => false

/-- The wait has consumed the guard and has not returned. -/
def Call.carries (g : GuardId) : Call → Bool
  | ⟨session, .scanning found _⟩ =>
    (Session.keep session.handles found).contains (some (.guard g))
  | ⟨session, .leaving outcome⟩ | ⟨session, .detached _ outcome⟩ | ⟨session, .released _ outcome⟩ =>
    session.reports g outcome
  | _ => false

/-- There is a wait, and it carries the guard. -/
def Call.isCarrying (g : GuardId) (call : Option Call) : Bool := call.any (carries g)

/-! ## What a scan has found so far -/

/-- The handles that a scan has yet to poll are the last ones. -/
def Call.Aligned (call : Call) : Prop :=
  ∀ found rest, call.stage = .scanning found rest →
    ∃ polled, call.session.handles = polled ++ rest ∧ polled.length = found.length

theorem Call.Step.aligned {locked : Source → Prop} {id : WaitSetId} {ctx ctx' : Context}
    {call call' : Option Call} (h : Call.Step locked id ctx call ctx' call')
    (haligned : ∀ c, call = some c → c.Aligned) : ∀ c, call' = some c → c.Aligned := by
  -- A handle more was polled, with one more answer.
  have hnext : ∀ (session : Session) (found : List Bool) (handle : Option Source)
      (rest : List (Option Source)) (isReady : Bool),
      Aligned ⟨session, .scanning found (handle :: rest)⟩ →
      Aligned ⟨session, .scanning (found ++ [isReady]) rest⟩ := by
    intro session found handle rest isReady h
    obtain ⟨polled, heq, hlength⟩ := h found (handle :: rest) rfl
    rintro _ _ ⟨⟩
    refine ⟨polled ++ [handle], ?_, ?_⟩
    · rw [List.append_assoc]
      exact heq
    · rw [List.length_append, List.length_append, hlength]
      rfl
  rintro c rfl
  cases h with
  | skip => exact hnext _ _ _ _ _ (haligned _ rfl)
  | poll => exact hnext _ _ _ _ _ (haligned _ rfl)
  | scan | timeUp | drained =>
    rintro _ _ ⟨⟩
    exact ⟨[], rfl, rfl⟩
  | start | claim | refuse | register | giveBack | attach | ready | noneReady | listed | cancelled
  | goOn | expire | block | wake | lower | takeWord | detach | release | unclaim => nofun

namespace Session

variable {handles polled rest : List (Option Source)} {found : List Bool} {handle : Option Source}
  {source : Source}

/-- Handles without an answer do not count. -/
theorem zip_polled (hlength : polled.length = found.length) :
    (polled ++ rest).zip found = polled.zip found := by
  have h : (polled ++ rest).zip (found ++ []) = polled.zip found ++ rest.zip [] :=
    List.zip_append hlength
  rwa [List.append_nil, List.zip_nil_right, List.append_nil] at h

/-- One more answer. -/
theorem keep_concat (hlength : polled.length = found.length) (isReady : Bool) :
    keep (polled ++ handle :: rest) (found ++ [isReady]) =
      keep (polled ++ handle :: rest) found ++ [if isReady then handle else none] := by
  unfold keep
  rw [zip_polled hlength, List.zip_append hlength, List.map_append]
  simp

theorem mem_of_mem_keep (hlength : polled.length = found.length)
    (h : some source ∈ keep (polled ++ rest) found) : some source ∈ polled := by
  obtain ⟨⟨handle, isReady⟩, hmem, heq⟩ := List.mem_map.1 h
  rw [zip_polled hlength] at hmem
  cases isReady with
  | false => cases heq
  | true =>
    obtain rfl : handle = some source := heq
    exact (List.of_mem_zip hmem).1

/-- Where a handle is kept, something was found. -/
theorem not_mem_keep_of_count (h : found.count true = 0) : some source ∉ keep handles found := by
  intro hmem
  obtain ⟨⟨handle, isReady⟩, hmem, heq⟩ := List.mem_map.1 hmem
  cases isReady with
  | false => cases heq
  | true => exact List.count_eq_zero.1 h (List.of_mem_zip hmem).2

end Session

/-! ## What one step of a wait does to a trigger -/

theorem Context.isTriggered_poll (ctx : Context) (source : Source) (g : GuardId) :
    (ctx.poll source).2.board.isTriggered g =
      (ctx.board.isTriggered g && decide (source ≠ .guard g)) := by
  cases source with
  | endpoint gid channel => simp [poll]
  | guard k =>
    rw [Bool.eq_iff_iff, Bool.and_eq_true, decide_eq_true_eq]
    refine Switchboard.isTriggered_consume_iff.trans (and_congr_right fun _ => ?_)
    rw [ne_eq, ne_eq, Source.guard.injEq, eq_comm]

namespace Call

variable {locked : Source → Prop} {k : WaitSetId} {ctx ctx' : Context} {session : Session}
  {found : List Bool} {source : Source} {rest : List (Option Source)}

/-- A wait that scans lists no source twice. -/
theorem Sound.nodup_handles {board : Switchboard}
    (h : Sound k board ⟨session, .scanning found rest⟩) : (session.handles.filterMap id).Nodup := by
  have hsources : session.enrolled.map Hook.source = waitSources session.guard session.handles :=
    (List.append_nil _).symm.trans (h.remaining [] rfl)
  have hheld : (session.enrolled.map Hook.source).Nodup := h.nodup_held
  rw [hsources] at hheld
  exact nodup_waitSources.1 hheld

theorem carries_scanning_iff {g : GuardId} : carries g ⟨session, .scanning found rest⟩ = true ↔
    some (.guard g) ∈ Session.keep session.handles found := by
  simp [carries]

/-- What is found triggered is carried from then on, and nothing else. -/
theorem carries_next {handle : Option Source}
    (haligned : Aligned ⟨session, .scanning found (handle :: rest)⟩) (isReady : Bool)
    (g : GuardId) :
    carries g ⟨session, .scanning (found ++ [isReady]) rest⟩ =
      (carries g ⟨session, .scanning found (handle :: rest)⟩ ||
        (isReady && decide (handle = some (.guard g)))) := by
  obtain ⟨polled, heq, hlength⟩ := haligned found _ rfl
  have heq : session.handles = polled ++ handle :: rest := heq
  unfold carries
  simp only [heq, Session.keep_concat hlength]
  cases isReady <;> simp [eq_comm]

theorem carries_scanning_nil (session : Session) (g : GuardId) (rest : List (Option Source)) :
    carries g ⟨session, .scanning [] rest⟩ = false := by
  simp [carries, Session.keep]

/-- To poll a source moves the trigger from the guard to the wait. -/
theorem conserves_poll (hsound : Sound k ctx.board ⟨session, .scanning found (some source :: rest)⟩)
    (haligned : Aligned ⟨session, .scanning found (some source :: rest)⟩) (g : GuardId) :
    ((ctx.poll source).2.board.isTriggered g).toNat +
        (carries g ⟨session, .scanning (found ++ [(ctx.poll source).1]) rest⟩).toNat =
      (ctx.board.isTriggered g).toNat +
        (carries g ⟨session, .scanning found (some source :: rest)⟩).toNat := by
  rw [ctx.isTriggered_poll, carries_next haligned]
  by_cases hsource : source = .guard g
  · -- The guard is listed once, so that it cannot be carried already.
    have hnot : carries g ⟨session, .scanning found (some source :: rest)⟩ = false := by
      obtain ⟨polled, heq, hlength⟩ := haligned found _ rfl
      have heq : session.handles = polled ++ some source :: rest := heq
      have hnodup := hsound.nodup_handles
      rw [heq, List.filterMap_append] at hnodup
      rw [Bool.eq_false_iff, ne_eq, carries_scanning_iff, heq]
      intro hmem
      have hpolled := Session.mem_of_mem_keep hlength hmem
      have hlisted : source ∈ polled.filterMap id :=
        List.mem_filterMap.2 ⟨_, hpolled, congrArg some hsource.symm⟩
      have hnext : source ∈ (some source :: rest).filterMap id :=
        List.mem_filterMap.2 ⟨_, List.mem_cons_self, rfl⟩
      exact List.disjoint_of_nodup_append hnodup hlisted hnext
    rw [hnot]
    subst hsource
    simp [Context.poll, Switchboard.consume]
  · simp [hsource]

/-- Consuming the guard of the wait set settles what the wait reports. -/
theorem conserves_cancel (kept : List (Option Source)) (hlists : session.listsGuard = false)
    (hpoll : (ctx.poll (.guard session.guard)).1 = true) (g : GuardId) :
    ((ctx.poll (.guard session.guard)).2.board.isTriggered g).toNat +
        (session.reports g ⟨.ok 0, kept⟩).toNat =
      (ctx.board.isTriggered g).toNat := by
  have htriggered : ctx.board.isTriggered session.guard = true := hpoll
  rw [ctx.isTriggered_poll]
  simp only [Session.reports, hlists]
  by_cases hown : session.guard = g
  · subst hown
    simp [htriggered]
  · simp [hown]

/-- No step of a wait but the last one changes the number of triggers that are pending or carried. -/
theorem Step.conserves {call : Option Call} {call' : Call}
    (h : Step locked k ctx call ctx' (some call'))
    (hsound : ∀ c, call = some c → c.Sound k ctx.board)
    (haligned : ∀ c, call = some c → c.Aligned) (g : GuardId) :
    (ctx'.board.isTriggered g).toNat + (carries g call').toNat =
      (ctx.board.isTriggered g).toNat + (isCarrying g call).toNat := by
  cases h with
  | poll => exact conserves_poll (hsound _ rfl) (haligned _ rfl) g
  | skip =>
    rw [carries_next (haligned _ rfl), Bool.false_and, Bool.or_false]
    rfl
  | @ready session found hcount =>
    obtain ⟨n, hn⟩ := Nat.exists_eq_succ_of_ne_zero (Nat.ne_of_gt hcount)
    simp only [carries, Session.reports, hn, isCarrying, Option.any_some]
  | @noneReady session found hcount =>
    have hnot : carries g ⟨session, .scanning found []⟩ = false := by
      rw [Bool.eq_false_iff, ne_eq, carries_scanning_iff]
      exact Session.not_mem_keep_of_count hcount
    rw [isCarrying, Option.any_some, hnot]
    rfl
  | @cancelled session found hlists hpoll =>
    exact conserves_cancel (Session.keep session.handles found) hlists hpoll g
  | @goOn session found hlists hpoll =>
    have hclear : (ctx.poll (.guard session.guard)).2.board = ctx.board :=
      Switchboard.consume_of_clear hpoll
    rw [hclear]
    rfl
  | scan | timeUp | drained =>
    rw [carries_scanning_nil]
    rfl
  | register hregister =>
    obtain ⟨waitSet, driver, -, -, rfl⟩ := Switchboard.register_eq_ok hregister
    rfl
  | @release session outcome hook =>
    have hguards := ctx.board.guards_release hook.waitSet hook.registration
    unfold Switchboard.isTriggered
    rw [hguards]
    rfl
  | claim hclaim =>
    obtain ⟨-, rfl⟩ := Switchboard.claim_eq_some hclaim
    rfl
  | start | refuse | giveBack | attach | listed | expire | block | wake | lower | takeWord | detach
  | unclaim => rfl

/-- A trigger that is carried stays with the wait. -/
theorem Step.carries_of_isCarrying {call : Option Call} {call' : Call}
    (h : Step locked k ctx call ctx' (some call'))
    (hsound : ∀ c, call = some c → c.Sound k ctx.board)
    (haligned : ∀ c, call = some c → c.Aligned) {g : GuardId} (hcarrying : isCarrying g call = true) :
    carries g call' = true := by
  have hconserves := h.conserves hsound haligned g
  have hguards := (h.footprint hsound).guards g
  rw [hcarrying] at hconserves
  cases hcarries : carries g call' with
  | true => rfl
  | false => cases htriggered : ctx'.board.isTriggered g <;> simp_all

/-- Only the last step ends a wait. -/
theorem Step.finished {call : Option Call} (h : Step locked k ctx call ctx' none) :
    ctx' = ctx ∧ ∃ session outcome, call = some ⟨session, .leaving outcome⟩ ∧
      session.enrolled = [] := by
  cases h with
  | finish henrolled => exact ⟨rfl, _, _, rfl, henrolled⟩

end Call

/-- A notifier triggers a guard that is not triggered, or leaves all guards alone. -/
theorem Notifying.Step.trigger_or_guards {locked : Source → Prop} {ctx ctx' : Context}
    {notifying notifying' : Notifying} (h : Notifying.Step locked ctx notifying ctx' notifying') :
    (∃ guard, notifying = .idle ∧ ctx.board.isTriggered guard = false ∧
      ctx' = { ctx with board := { ctx.board with guards := ctx.board.guards.set guard true } } ∧
      notifying' = .pending (.guard guard)) ∨ ctx'.board.guards = ctx.board.guards := by
  cases h with
  | trigger hclear => exact Or.inl ⟨_, rfl, hclear, rfl, rfl⟩
  | @call gid channel =>
    right
    unfold Context.callBack
    split
    · rfl
    · exact congrArg (·.guards) (Context.board_dispatch ..)
  | change | lock | markNew | markOld | raise | unlock => exact Or.inr rfl

/-! ## Moves and their record -/

/-- What shows of a move of some thread. -/
inductive Deed
  /-- A guard was triggered, and was triggered already or not. -/
  | triggered (guard : GuardId) (already : Bool)
  /-- A wait returned. -/
  | returned (session : Session) (outcome : WaitOutcome)
  /-- A wait was refused before it had a session. -/
  | refused (error : Error)
  | inner

namespace Deed

/-- The guard was triggered while it was not. -/
def raises (g : GuardId) : Deed → Bool
  | triggered guard already => guard = g && !already
  | _ => false

/-- A wait returned that reports the guard. -/
def reports (g : GuardId) : Deed → Bool
  | returned session outcome => session.reports g outcome
  | _ => false

end Deed

namespace Threads

/-- What threads can do next, with what shows of it.  To trigger a guard a second time and to be
refused at once leave everything as it is; the rest are steps. -/
inductive Move : Threads → Deed → Threads → Prop
  | trigger {threads : Threads} {n : Nat} {guard : GuardId}
      (hidle : threads.notifiers n = .idle)
      (hclear : threads.ctx.board.isTriggered guard = false) :
      Move threads (.triggered guard false)
        { threads with
          ctx := { threads.ctx with
            board := { threads.ctx.board with guards := threads.ctx.board.guards.set guard true } }
          notifiers := Function.update threads.notifiers n (.pending (.guard guard)) }
  | triggerAgain {threads : Threads} {guard : GuardId}
      (htriggered : threads.ctx.board.isTriggered guard = true) :
      Move threads (.triggered guard true) threads
  | finish {threads : Threads} {id : WaitSetId} {session : Session} {outcome : WaitOutcome}
      (hcall : threads.calls id = some ⟨session, .leaving outcome⟩)
      (henrolled : session.enrolled = []) :
      Move threads (.returned session outcome)
        { threads with calls := Function.update threads.calls id none }
  | refuse {threads : Threads} {id : WaitSetId} {handles : List (Option Source)}
      {timeout : Option Nat} {now : Nat} {error : Error} (hcall : threads.calls id = none)
      (hrefused : threads.ctx.startWait id handles timeout now =
        (threads.ctx, .finished ⟨.error error, handles⟩)) :
      Move threads (.refused error) threads
  | inner {threads threads' : Threads} (hstep : Step threads threads')
      (hguards : ∀ g, threads'.ctx.board.isTriggered g = true →
        threads.ctx.board.isTriggered g = true)
      (hcalls : ∀ id, threads'.calls id = none → threads.calls id = none) :
      Move threads .inner threads'

/-- Moves one after the other, with the record of them, latest first. -/
inductive Recorded (start : Threads) : List Deed → Threads → Prop
  | nil : Recorded start [] start
  | cons {deeds : List Deed} {threads threads' : Threads} {deed : Deed}
      (h : Recorded start deeds threads) (hmove : Move threads deed threads') :
      Recorded start (deed :: deeds) threads'

/-- The number of waits that carry the guard. -/
noncomputable def carried (threads : Threads) (g : GuardId) : Nat :=
  {id | Call.isCarrying g (threads.calls id) = true}.ncard

variable {threads threads' : Threads} {deed : Deed}

/-- A move is a step, or leaves everything as it is. -/
theorem Move.step_or_eq (h : Move threads deed threads') :
    Step threads threads' ∨ threads' = threads := by
  cases h with
  | @trigger n guard hidle hclear =>
    refine Or.inl (.notify ?_)
    rw [hidle]
    exact .trigger hclear
  | triggerAgain | refuse => exact Or.inr rfl
  | @finish id session outcome hcall henrolled =>
    refine Or.inl (.call ?_)
    rw [hcall]
    exact .finish henrolled
  | inner hstep => exact Or.inl hstep

theorem Move.reachable (hmove : Move threads deed threads') (h : Reachable threads) :
    Reachable threads' := by
  rcases hmove.step_or_eq with hstep | rfl
  · exact h.step hstep
  · exact h

theorem Recorded.reachable {start : Threads} {deeds : List Deed}
    (hrun : start.Recorded deeds threads) (h : Reachable start) : Reachable threads := by
  induction hrun with
  | nil => exact h
  | cons _ hmove ih => exact hmove.reachable ih

/-- Every step of a thread is a move. -/
theorem Reachable.exists_move (h : Reachable threads) (hstep : Step threads threads') :
    ∃ deed, Move threads deed threads' := by
  have hsound := h.invariants.1
  cases hstep with
  | @call id ctx call hcall =>
    cases call with
    | none =>
      obtain ⟨rfl, session, outcome, heq, henrolled⟩ := hcall.finished
      exact ⟨_, .finish heq henrolled⟩
    | some call =>
      have hfootprint := hcall.footprint (hsound.call id)
      refine ⟨.inner, .inner (.call hcall) hfootprint.guards fun k hk => ?_⟩
      dsimp only at hk
      by_cases hne : k = id
      · subst hne
        rw [Function.update_self] at hk
        cases hk
      · rwa [Function.update_of_ne hne] at hk
  | @notify n ctx notifying hnotify =>
    rcases hnotify.trigger_or_guards with ⟨guard, hidle, hclear, rfl, rfl⟩ | hguards
    · exact ⟨_, .trigger hidle hclear⟩
    · refine ⟨.inner, .inner (.notify hnotify) (fun g htriggered => ?_) fun _ hk => hk⟩
      unfold Switchboard.isTriggered at htriggered ⊢
      rwa [hguards] at htriggered
  | edit hedit =>
    refine ⟨.inner, .inner (.edit hedit) (fun g htriggered => ?_) fun _ hk => hk⟩
    exact (hedit.apart.isTriggered g).symm.trans htriggered

/-! ## The balance -/

/-- A wait that scans knows what it has found. -/
theorem Reachable.aligned (h : Reachable threads) :
    ∀ id c, threads.calls id = some c → c.Aligned := by
  induction h with
  | start hctx => exact fun id c hc => nomatch hc
  | step hreach hstep ih =>
    cases hstep with
    | @call id ctx call hcall =>
      intro k c hc
      dsimp only at hc
      by_cases hne : k = id
      · subst hne
        rw [Function.update_self] at hc
        exact hcall.aligned (ih k) c hc
      · rw [Function.update_of_ne hne] at hc
        exact ih k c hc
    | notify | edit => exact ih

/-- There are finitely many waits. -/
theorem Reachable.finite_calls (h : Reachable threads) :
    {id | (threads.calls id).isSome = true}.Finite := by
  induction h with
  | start hctx => exact Set.finite_empty.subset fun id hid => nomatch hid
  | @step threads _ hreach hstep ih =>
    cases hstep with
    | @call id ctx call hcall =>
      refine (ih.insert id).subset fun k hk => ?_
      by_cases hne : k = id
      · exact Or.inl hne
      · have hk : (Function.update threads.calls id call k).isSome = true := hk
        rw [Function.update_of_ne hne] at hk
        exact Or.inr hk
    | notify | edit => exact ih

theorem Reachable.finite_carrying (h : Reachable threads) (g : GuardId) :
    {id | Call.isCarrying g (threads.calls id) = true}.Finite := by
  have hsome : ∀ call : Option Call, Call.isCarrying g call = true → call.isSome = true :=
    fun call hcarrying => Option.isSome_of_any hcarrying
  exact h.finite_calls.subset fun id hid => hsome _ hid

/-- One value of a function changes: a count of its values changes by one at most. -/
theorem ncard_update {α : Type} {f : WaitSetId → α} {p : α → Bool}
    (hfinite : {k | p (f k) = true}.Finite) (id : WaitSetId) (a : α) :
    {k | p (Function.update f id a k) = true}.ncard + (p (f id)).toNat =
      {k | p (f k) = true}.ncard + (p a).toNat := by
  -- Both counts are made up of the one value and the others, which are the same.
  have hsplit : ∀ f' : WaitSetId → α, (∀ k, k ≠ id → f' k = f k) →
      {k | p (f' k) = true}.ncard = {k | k ≠ id ∧ p (f k) = true}.ncard + (p (f' id)).toNat := by
    intro f' hsame
    have hrest : {k | k ≠ id ∧ p (f k) = true}.Finite := hfinite.subset fun k hk => hk.2
    cases hid : p (f' id) with
    | false =>
      refine congrArg Set.ncard (Set.ext fun k => ?_)
      by_cases hk : k = id
      · subst hk
        simp [hid]
      · simp [hk, hsame k hk]
    | true =>
      have hnot : id ∉ {k | k ≠ id ∧ p (f k) = true} := fun h => h.1 rfl
      rw [Bool.toNat_true, ← Set.ncard_insert_of_notMem hnot hrest]
      refine congrArg Set.ncard (Set.ext fun k => ?_)
      by_cases hk : k = id
      · subst hk
        simp [hid]
      · simp [hk, hsame k hk]
  rw [hsplit _ fun k hk => Function.update_of_ne hk a f, hsplit f fun _ _ => rfl,
    Function.update_self]
  omega

/-- No guard ever goes. -/
theorem Step.le_guards (h : Step threads threads') :
    threads.ctx.board.guards.length ≤ threads'.ctx.board.guards.length := by
  cases h with
  | call hcall => exact Nat.le_of_eq hcall.sameStock.guards.symm
  | notify hnotify => exact Nat.le_of_eq hnotify.sameStock.guards.symm
  | edit hedit => exact hedit.apart.guards

theorem Move.le_guards (hmove : Move threads deed threads') :
    threads.ctx.board.guards.length ≤ threads'.ctx.board.guards.length := by
  rcases hmove.step_or_eq with hstep | rfl
  · exact hstep.le_guards
  · exact Nat.le_refl _

theorem isTriggered_set {board : Switchboard} {g : GuardId} (hg : g < board.guards.length)
    (guard : GuardId) :
    ({ board with guards := board.guards.set guard true } : Switchboard).isTriggered g =
      (board.isTriggered g || decide (guard = g)) := by
  unfold Switchboard.isTriggered
  by_cases hguard : guard = g
  · subst hguard
    simp [hg]
  · simp [hguard]

/-- A step of a wait under way moves triggers between its guards and itself. -/
theorem Reachable.balance_call (h : Reachable threads) {id : WaitSetId} {ctx : Context} {call : Call}
    (hcall : Call.Step threads.Locked id threads.ctx (threads.calls id) ctx (some call))
    (g : GuardId) :
    (threads.ctx.board.isTriggered g).toNat + threads.carried g =
      carried { threads with ctx, calls := Function.update threads.calls id (some call) } g +
        (ctx.board.isTriggered g).toNat := by
  have hconserves := hcall.conserves (h.invariants.1.call id) (h.aligned id) g
  have hupdate : carried { threads with ctx, calls := Function.update threads.calls id (some call) } g +
      (Call.isCarrying g (threads.calls id)).toNat = threads.carried g + (call.carries g).toNat :=
    ncard_update (h.finite_carrying g) id (some call)
  omega

/-- Triggers that find their guard clear come in, reports go out, and the rest is carried or
pending. -/
theorem Move.balance (hmove : Move threads deed threads') (h : Reachable threads) {g : GuardId}
    (hg : g < threads.ctx.board.guards.length) :
    (threads.ctx.board.isTriggered g).toNat + threads.carried g + (deed.raises g).toNat =
      (deed.reports g).toNat + threads'.carried g + (threads'.ctx.board.isTriggered g).toNat := by
  cases hmove with
  | @trigger n guard hidle hclear =>
    have hset := isTriggered_set hg guard
    show _ + threads.carried g + (decide (guard = g) && true).toNat =
      0 + threads.carried g + (Switchboard.isTriggered _ g).toNat
    rw [hset, Bool.and_true]
    by_cases hguard : guard = g
    · subst hguard
      simp [hclear]
    · simp [hguard, Nat.add_comm]
  | @triggerAgain guard htriggered =>
    show _ + threads.carried g + (decide (guard = g) && false).toNat = 0 + threads.carried g + _
    simp [Nat.add_comm]
  | @finish id session outcome hcall henrolled =>
    have hupdate : carried { threads with calls := Function.update threads.calls id none } g +
        (Call.isCarrying g (threads.calls id)).toNat = threads.carried g + 0 :=
      ncard_update (h.finite_carrying g) id none
    have hreports : Call.isCarrying g (threads.calls id) = session.reports g outcome := by
      rw [hcall]
      rfl
    rw [hreports] at hupdate
    show (threads.ctx.board.isTriggered g).toNat + threads.carried g + 0 =
      (session.reports g outcome).toNat + carried { threads with calls := _ } g +
        (threads.ctx.board.isTriggered g).toNat
    omega
  | refuse =>
    show _ + threads.carried g + 0 = 0 + threads.carried g + _
    simp [Nat.add_comm]
  | inner hstep hguards hcalls =>
    -- Without a trigger and a return, guards and waits exchange what they have.
    have hsame : (threads.ctx.board.isTriggered g).toNat + threads.carried g =
        threads'.carried g + (threads'.ctx.board.isTriggered g).toNat := by
      cases hstep with
      | @call id ctx call hcall =>
        cases call with
        | none =>
          obtain ⟨-, session, outcome, heq, -⟩ := hcall.finished
          have hnone := hcalls id (Function.update_self ..)
          cases heq.symm.trans hnone
        | some call => exact h.balance_call hcall g
      | @notify n ctx notifying hnotify =>
        have hflag : ctx.board.isTriggered g = threads.ctx.board.isTriggered g := by
          rcases hnotify.trigger_or_guards with ⟨guard, -, hclear, rfl, -⟩ | hkept
          · have hset := isTriggered_set hg guard
            have hmono := hguards g
            by_cases hguard : guard = g
            · subst hguard
              simp_all
            · exact hset.trans (by simp [hguard])
          · exact congrArg (·.getD g false) hkept
        show _ + threads.carried g = threads.carried g + (ctx.board.isTriggered g).toNat
        rw [hflag, Nat.add_comm]
      | @edit ctx hedit =>
        show _ + threads.carried g = threads.carried g + (ctx.board.isTriggered g).toNat
        rw [hedit.apart.isTriggered, Nat.add_comm]
    show _ + threads.carried g + 0 = 0 + threads'.carried g + _
    rw [Nat.add_zero, Nat.zero_add, hsame]

theorem Recorded.le_guards {start : Threads} {deeds : List Deed}
    (hrun : start.Recorded deeds threads) :
    start.ctx.board.guards.length ≤ threads.ctx.board.guards.length := by
  induction hrun with
  | nil => exact Nat.le_refl _
  | cons _ hmove ih => exact Nat.le_trans ih hmove.le_guards

/-- The balance of a whole run. -/
theorem Recorded.balance {start : Threads} {deeds : List Deed} (hrun : start.Recorded deeds threads)
    (h : Reachable start) {g : GuardId} (hg : g < start.ctx.board.guards.length) :
    (start.ctx.board.isTriggered g).toNat + start.carried g + deeds.countP (Deed.raises g) =
      deeds.countP (Deed.reports g) + threads.carried g +
        (threads.ctx.board.isTriggered g).toNat := by
  have hcount : ∀ (p : Deed → Bool) (deed : Deed) (deeds : List Deed),
      (deed :: deeds).countP p = deeds.countP p + (p deed).toNat := by
    intro p deed deeds
    rw [List.countP_cons]
    cases p deed <;> rfl
  induction hrun with
  | nil => simp [Nat.add_comm]
  | cons hearlier hmove ih =>
    have hmoved := hmove.balance (hearlier.reachable h) (Nat.lt_of_lt_of_le hg hearlier.le_guards)
    rw [hcount, hcount]
    omega

/-! ## Nothing is lost -/

/-- The trigger of a guard goes to a wait, which carries it from then on. -/
theorem Reachable.exists_carrying (h : Reachable threads) {g : GuardId}
    (hg : g < threads.ctx.board.guards.length) (hstep : Step threads threads')
    (htriggered : threads.ctx.board.isTriggered g = true)
    (hclear : threads'.ctx.board.isTriggered g = false) :
    ∃ id call, threads'.calls id = some call ∧ call.carries g = true ∧
      Call.isCarrying g (threads.calls id) = false := by
  -- Whatever leaves the guard as it is cannot have been the step.
  have hmoved : threads'.ctx.board.isTriggered g ≠ threads.ctx.board.isTriggered g := by
    rw [htriggered, hclear]
    exact Bool.false_ne_true
  cases hstep with
  | @call id ctx call hcall =>
    cases call with
    | none =>
      obtain ⟨rfl, -⟩ := hcall.finished
      exact absurd rfl hmoved
    | some call =>
      have hconserves := hcall.conserves (h.invariants.1.call id) (h.aligned id) g
      have hclear : ctx.board.isTriggered g = false := hclear
      rw [htriggered, hclear] at hconserves
      refine ⟨id, call, Function.update_self .., ?_⟩
      cases hcarries : call.carries g <;> cases hcarrying : Call.isCarrying g (threads.calls id) <;>
        simp_all
  | @notify n ctx notifying hnotify =>
    rcases hnotify.trigger_or_guards with ⟨guard, -, -, rfl, -⟩ | hkept
    · have hset := isTriggered_set hg guard
      rw [htriggered, Bool.true_or] at hset
      exact absurd (hset.symm.trans hclear) (by decide)
    · exact absurd (congrArg (·.getD g false) hkept) hmoved
  | edit hedit => exact absurd (hedit.apart.isTriggered g) hmoved

/-- A wait that carries a trigger goes on to carry it, or returns and reports it. -/
theorem Move.carries_or_reports (hmove : Move threads deed threads') (h : Reachable threads)
    {id : WaitSetId} {call : Call} {g : GuardId} (hcall : threads.calls id = some call)
    (hcarries : call.carries g = true) :
    (∃ call', threads'.calls id = some call' ∧ call'.carries g = true) ∨
      ∃ session outcome, deed = .returned session outcome ∧ session.reports g outcome = true := by
  have hkept : threads'.calls id = threads.calls id →
      ∃ call', threads'.calls id = some call' ∧ call'.carries g = true :=
    fun heq => ⟨call, heq.trans hcall, hcarries⟩
  cases hmove with
  | trigger | triggerAgain | refuse => exact Or.inl (hkept rfl)
  | @finish k session outcome hleaving henrolled =>
    by_cases hid : id = k
    · subst hid
      obtain rfl := Option.some.inj (hcall.symm.trans hleaving)
      exact Or.inr ⟨session, outcome, rfl, hcarries⟩
    · exact Or.inl (hkept (Function.update_of_ne hid ..))
  | inner hstep hguards hcalls =>
    cases hstep with
    | @call k ctx call' hstep =>
      by_cases hid : id = k
      · subst hid
        cases call' with
        | none =>
          have hnone := hcalls id (Function.update_self ..)
          cases hcall.symm.trans hnone
        | some call' =>
          have hcarrying : Call.isCarrying g (threads.calls id) = true := by
            rw [hcall]
            exact hcarries
          exact Or.inl ⟨call', Function.update_self ..,
            hstep.carries_of_isCarrying (h.invariants.1.call id) (h.aligned id) hcarrying⟩
      · exact Or.inl (hkept (Function.update_of_ne hid ..))
    | notify | edit => exact Or.inl (hkept rfl)

/-- A run is cut at one of its moves. -/
theorem Recorded.exists_of_mem {start : Threads} {deeds : List Deed}
    (hrun : start.Recorded deeds threads) (hmem : deed ∈ deeds) :
    ∃ later earlier before after, deeds = later ++ deed :: earlier ∧
      start.Recorded earlier before ∧ Move before deed after ∧ after.Recorded later threads := by
  induction hrun with
  | nil => cases hmem
  | @cons deeds _ _ last hearlier hmove ih =>
    rcases List.mem_cons.1 hmem with rfl | hmem
    · exact ⟨[], deeds, _, _, rfl, hearlier, hmove, .nil⟩
    · obtain ⟨later, earlier, before, after, rfl, hbefore, hthere, hafter⟩ := ih hmem
      exact ⟨last :: later, earlier, before, after, rfl, hbefore, hthere, hafter.cons hmove⟩

/-- After a guard was triggered it is triggered, whether it was before or not. -/
theorem Move.isTriggered {g : GuardId} {already : Bool}
    (hmove : Move threads (.triggered g already) threads')
    (hg : g < threads.ctx.board.guards.length) : threads'.ctx.board.isTriggered g = true := by
  cases hmove with
  | trigger hidle hclear => exact (isTriggered_set hg g).trans (by simp)
  | triggerAgain htriggered => exact htriggered

/-- As long as no wait reports it, a trigger is pending or carried. -/
theorem Recorded.pending_or_carried {start : Threads} {deeds : List Deed}
    (hrun : start.Recorded deeds threads) (h : Reachable start) {g : GuardId}
    (hg : g < start.ctx.board.guards.length) {already : Bool}
    (hmem : .triggered g already ∈ deeds) (hnone : deeds.countP (Deed.reports g) = 0) :
    0 < threads.carried g + (threads.ctx.board.isTriggered g).toNat := by
  obtain ⟨later, earlier, before, after, rfl, hbefore, hmove, hafter⟩ := hrun.exists_of_mem hmem
  have hlength := Nat.lt_of_lt_of_le hg hbefore.le_guards
  have hset := hmove.isTriggered hlength
  have hreachable := hmove.reachable (hbefore.reachable h)
  have hbalance := hafter.balance hreachable (Nat.lt_of_lt_of_le hlength hmove.le_guards)
  rw [List.countP_append] at hnone
  rw [hset, Bool.toNat_true] at hbalance
  omega

/-! ## Records of what is done in one go -/

theorem Recorded.append {start mid : Threads} {earlier later : List Deed}
    (h : start.Recorded earlier mid) (h' : mid.Recorded later threads) :
    start.Recorded (later ++ earlier) threads := by
  induction h' with
  | nil => exact h
  | cons _ hmove ih => exact ih.cons hmove

/-- Every course of threads has a record. -/
theorem Reachable.exists_recorded (h : Reachable threads) (hsteps : Steps threads threads') :
    ∃ deeds, threads.Recorded deeds threads' := by
  induction hsteps with
  | refl => exact ⟨[], .nil⟩
  | tail hearlier hstep ih =>
    obtain ⟨deeds, hrun⟩ := ih
    obtain ⟨deed, hmove⟩ := (hrun.reachable h).exists_move hstep
    exact ⟨deed :: deeds, hrun.cons hmove⟩

/-- A wait that finds something at once is recorded, with its return as the last move. -/
theorem Reachable.exists_recorded_startWait (h : Reachable threads)
    (hfree : ∀ source, ¬ threads.Locked source) {id : WaitSetId}
    (hnone : threads.calls id = none) {handles kept : List (Option Source)}
    {timeout : Option Nat} {now count : Nat} {ctx : Context}
    (hstart : threads.ctx.startWait id handles timeout now = (ctx, .finished ⟨.ok count, kept⟩)) :
    ∃ session deeds, threads.Recorded (.returned session ⟨.ok count, kept⟩ :: deeds)
      { threads with ctx } := by
  rcases steps_startWait hfree hnone handles timeout now with ⟨error, hrefused⟩ | ⟨call, hat, hsteps⟩
  · cases hstart.symm.trans hrefused
  · rw [hstart] at hat hsteps
    obtain ⟨session, stage⟩ := call
    obtain ⟨henrolled, rfl⟩ : session.enrolled = [] ∧ stage = .leaving ⟨.ok count, kept⟩ := hat
    obtain ⟨deeds, hrun⟩ := h.exists_recorded hsteps
    have hreturn := hrun.cons (.finish (Function.update_self ..) henrolled)
    dsimp only at hreturn
    rw [Function.update_idem, ← hnone, Function.update_eq_self] at hreturn
    exact ⟨session, deeds, hreturn⟩

/-- A guard that is triggered in one go is recorded, as the first move. -/
theorem Reachable.exists_recorded_trigger (h : Reachable threads)
    (hfree : ∀ source, ¬ threads.Locked source) {n : Nat} (hidle : threads.notifiers n = .idle)
    (guard : GuardId) :
    ∃ later, threads.Recorded (later ++ [.triggered guard (threads.ctx.board.isTriggered guard)])
      { threads with ctx := threads.ctx.trigger guard } := by
  unfold Context.trigger Switchboard.trigger
  split
  · next htriggered =>
    rw [htriggered]
    exact ⟨[], .cons .nil (.triggerAgain htriggered)⟩
  · next hclear =>
    have hclear := Bool.eq_false_iff.2 hclear
    have hmove := Move.trigger hidle hclear
    have hreachable := hmove.reachable h
    -- The notifier goes on to signal the hooks of the guard.
    have hsteps := hreachable.steps_pending (Function.update_self ..) (by
      rintro ⟨m, hm, hholds⟩
      dsimp only at hholds
      rw [Function.update_of_ne hm] at hholds
      exact hfree _ ⟨m, hholds⟩)
    dsimp only at hsteps
    rw [Function.update_idem, ← hidle, Function.update_eq_self] at hsteps
    obtain ⟨later, hlater⟩ := hreachable.exists_recorded hsteps
    rw [hclear]
    exact ⟨later, (Recorded.cons .nil hmove).append hlater⟩

/-! ## The contract -/

/-- Between two states of the threads, and for each guard: the triggers that found it clear, together
with what was pending and carried at first, are those that some wait reported, that some wait carries
and has yet to report, and that are pending.  With no wait under way nothing is carried.  Every step
of a thread is recorded.  A guard that is triggered remains so until a wait comes to carry the
trigger, and that wait carries it until it returns and reports it.  Any number of triggers without a
report leave one trigger pending, and exactly one report is due for it.  What is done in one go is
recorded as well: triggers of guards, any other operations, and waits that find something at once. -/
theorem Reachable.triggers_conserved {start : Threads} {deeds : List Deed} (h : Reachable start)
    (hrun : start.Recorded deeds threads) {g : GuardId}
    (hg : g < start.ctx.board.guards.length) :
    ((start.ctx.board.isTriggered g).toNat + start.carried g + deeds.countP (Deed.raises g) =
      deeds.countP (Deed.reports g) + threads.carried g +
        (threads.ctx.board.isTriggered g).toNat) ∧
    ((∀ id, threads.calls id = none) → threads.carried g = 0) ∧
    (∀ next, Step threads next → ∃ deed, Move threads deed next) ∧
    (∀ next, Step threads next → threads.ctx.board.isTriggered g = true →
      next.ctx.board.isTriggered g = false →
      ∃ id call, next.calls id = some call ∧ call.carries g = true ∧
        Call.isCarrying g (threads.calls id) = false) ∧
    (∀ deed next id call, Move threads deed next → threads.calls id = some call →
      call.carries g = true →
      (∃ call', next.calls id = some call' ∧ call'.carries g = true) ∨
        ∃ session outcome, deed = .returned session outcome ∧
          session.reports g outcome = true) ∧
    ((∃ already, .triggered g already ∈ deeds) → deeds.countP (Deed.reports g) = 0 →
      threads.carried g = 0 →
      threads.ctx.board.isTriggered g = true ∧
      (start.ctx.board.isTriggered g).toNat + start.carried g + deeds.countP (Deed.raises g) = 1 ∧
      ∀ since last, threads.Recorded since last → since.countP (Deed.raises g) = 0 →
        since.countP (Deed.reports g) + last.carried g +
          (last.ctx.board.isTriggered g).toNat = 1) ∧
    ((∀ source, ¬ threads.Locked source) → ∀ n, threads.notifiers n = .idle →
      (∀ guard, ∃ later, threads.Recorded
        (later ++ [.triggered guard (threads.ctx.board.isTriggered guard)])
        { threads with ctx := threads.ctx.trigger guard }) ∧
      (∀ operation : Operation, (∀ id, operation = .dropWaitSet id → threads.calls id = none) →
        ∃ since, threads.Recorded since
          { threads with ctx := (operation.perform threads.ctx).2 }) ∧
      ∀ id handles timeout now count kept ctx, threads.calls id = none →
        threads.ctx.startWait id handles timeout now = (ctx, .finished ⟨.ok count, kept⟩) →
        ∃ session since, threads.Recorded (.returned session ⟨.ok count, kept⟩ :: since)
          { threads with ctx }) := by
  have hbalance := hrun.balance h hg
  have hreachable := hrun.reachable h
  have hlength : g < threads.ctx.board.guards.length := Nat.lt_of_lt_of_le hg hrun.le_guards
  refine ⟨hbalance, fun hnone => ?_, fun next hstep => hreachable.exists_move hstep,
    fun next hstep htriggered hclear => hreachable.exists_carrying hlength hstep htriggered hclear,
    fun deed next id call hmove hcall hcarries => hmove.carries_or_reports hreachable hcall hcarries,
    ?_, fun hfree n hidle => ⟨hreachable.exists_recorded_trigger hfree hidle, ?_, ?_⟩⟩
  · unfold carried
    simp [hnone, Call.isCarrying]
  · rintro ⟨already, hmem⟩ hreports hcarried
    have hpending := hrun.pending_or_carried h hg hmem hreports
    rw [hcarried, Nat.zero_add] at hpending
    have htriggered : threads.ctx.board.isTriggered g = true := by
      cases hflag : threads.ctx.board.isTriggered g with
      | true => rfl
      | false =>
        rw [hflag] at hpending
        cases hpending
    rw [htriggered, Bool.toNat_true] at hbalance
    refine ⟨htriggered, by omega, fun since last hsince hraises => ?_⟩
    have hlater := hsince.balance hreachable hlength
    rw [htriggered, Bool.toNat_true] at hlater
    omega
  · exact fun operation hdrop => hreachable.exists_recorded
      (hreachable.steps_perform hfree hidle operation hdrop)
  · exact fun id handles timeout now count kept ctx hnone hstart =>
      hreachable.exists_recorded_startWait hfree hnone hstart

/-- A guard is triggered and a wait for it returns: with one report more than there were triggers that
found the guard clear, nothing is left. -/
theorem Reachable.exists_trigger_reported : ∃ start threads deeds, Reachable start ∧
    start.Recorded deeds threads ∧ 2 < start.ctx.board.guards.length ∧
    start.ctx.board.isTriggered 2 = true ∧ threads.ctx.board.isTriggered 2 = false ∧
    deeds.countP (Deed.reports 2) = deeds.countP (Deed.raises 2) + 1 := by
  obtain ⟨ctx, hctx, hlength, htriggered, after, hstart, hclear⟩ : ∃ ctx : Context, ctx.Reachable ∧
      2 < ctx.board.guards.length ∧ ctx.board.isTriggered 2 = true ∧
      ∃ after, ctx.startWait 0 [some (.guard 2)] none 0 =
        (after, .finished ⟨.ok 1, [some (.guard 2)]⟩) ∧ after.board.isTriggered 2 = false :=
    ⟨_, ⟨.start 7,
      { domainId := 0, enclave := "/", discoveryRange := .localhost, discoveryPeers := [],
        instanceId := none, waitSetCapacity := 4, qosProfilePath := none },
      _, _, [.createWaitSet 1, .createGuard, .trigger 2], rfl, rfl⟩, by decide, rfl, _, rfl, rfl⟩
  have h := Reachable.start hctx
  obtain ⟨session, deeds, hrun⟩ := h.exists_recorded_startWait (fun _ ⟨_, hholds⟩ => hholds) rfl hstart
  obtain ⟨-, hidle, -⟩ := h.triggers_conserved (g := 2) .nil hlength
  obtain ⟨hbalance, hdone, -⟩ := h.triggers_conserved (g := 2) hrun hlength
  rw [hidle fun _ => rfl, hdone fun _ => rfl, htriggered, hclear] at hbalance
  refine ⟨_, _, _, h, hrun, hlength, htriggered, hclear, ?_⟩
  rw [← Nat.add_comm 1]
  exact hbalance.symm

end Threads

end PubSub
