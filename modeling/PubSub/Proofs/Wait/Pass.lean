import PubSub.Proofs.Context.Course
import PubSub.Proofs.Wait.Enrolment
import PubSub.Proofs.Wait.WakeUp

/-!
# What a pass reports

A pass polls the handles one after the other, and a guard that is found triggered is consumed on the
way.  With each source listed once, no poll sees what an earlier one consumed, so that a pass reports
what was ready when it began, and consumes what it reports and nothing else.  `Context.Passed` says so
for each way in which a pass can end.  It does not matter what happened while the wait blocked
(`Context.Passed.followWait`), since a pass that blocks leaves everything as it was.
-/

namespace PubSub

/-! ## Polls -/

namespace Switchboard

variable {board : Switchboard} {guard g : GuardId}

theorem isTriggered_consume_iff :
    (board.consume guard).2.isTriggered g = true ↔ board.isTriggered g = true ∧ g ≠ guard := by
  refine ⟨isTriggered_consume, fun ⟨htriggered, hne⟩ => ?_⟩
  unfold consume isTriggered at *
  rwa [List.getD_eq_getElem?_getD, List.getElem?_set_ne (Ne.symm hne), ← List.getD_eq_getElem?_getD]

/-- To consume a guard that is not triggered changes nothing. -/
theorem consume_of_clear (h : board.isTriggered guard = false) : (board.consume guard).2 = board := by
  have hset : board.guards.set guard false = board.guards := by
    refine List.ext_getElem? fun i => ?_
    by_cases hi : guard = i
    · subst hi
      unfold isTriggered at h
      rw [List.getD_eq_getElem?_getD] at h
      rw [List.getElem?_set]
      cases hguard : board.guards[guard]? with
      | none => simp [List.getElem?_eq_none_iff.1 hguard]
      | some triggered =>
        rw [hguard] at h
        obtain ⟨hlt, -⟩ := List.getElem?_eq_some_iff.1 hguard
        simpa [hlt] using h.symm
    · rw [List.getElem?_set_ne hi]
  unfold consume
  rw [hset]

end Switchboard

namespace Context

variable {ctx ctx' : Context} {source : Source} {handles : List (Option Source)}

/-- What a poll finds depends on the graph and on the guards. -/
theorem poll_fst_congr (hgraph : ctx'.graph = ctx.graph)
    (hguards : ctx'.board.guards = ctx.board.guards) (source : Source) :
    (ctx'.poll source).1 = (ctx.poll source).1 := by
  cases source with
  | endpoint gid channel =>
    show (ctx'.graph.locals.find? gid).any _ = (ctx.graph.locals.find? gid).any _
    rw [hgraph]
  | guard g =>
    show ctx'.board.guards.getD g false = ctx.board.guards.getD g false
    rw [hguards]

/-- A poll of one source does not change what a poll of another one finds. -/
theorem poll_poll_fst {polled : Source} (hne : source ≠ polled) :
    ((ctx.poll polled).2.poll source).1 = (ctx.poll source).1 := by
  cases polled with
  | endpoint gid channel => rfl
  | guard g =>
    cases source with
    | endpoint gid channel => rfl
    | guard g' =>
      have hne' : g' ≠ g := fun heq => hne (heq ▸ rfl)
      refine Bool.eq_iff_iff.2 ?_
      exact Switchboard.isTriggered_consume_iff.trans (and_iff_left hne')

/-- A poll of a source that is not ready changes nothing. -/
theorem poll_of_not_isReady (h : ¬ ctx.IsReady source) : ctx.poll source = (false, ctx) := by
  have hfalse : (ctx.poll source).1 = false := Bool.eq_false_iff.2 h
  cases source with
  | endpoint gid channel => exact Prod.ext hfalse rfl
  | guard g =>
    refine Prod.ext hfalse ?_
    show { ctx with board := (ctx.board.consume g).2 } = ctx
    rw [Switchboard.consume_of_clear hfalse]

/-! ## Scans -/

/-- The handle is present, and a poll of it would find it ready. -/
def finds (ctx : Context) (handle : Option Source) : Bool :=
  handle.any fun source => (ctx.poll source).1

theorem finds_congr (hgraph : ctx'.graph = ctx.graph)
    (hguards : ctx'.board.guards = ctx.board.guards) : ctx'.finds = ctx.finds := by
  funext handle
  cases handle with
  | none => rfl
  | some source => exact poll_fst_congr hgraph hguards source

/-- A scan of distinct sources finds what was ready when it began. -/
theorem fst_scan (hnodup : (handles.filterMap id).Nodup) :
    (ctx.scan handles).1 = handles.map ctx.finds := by
  induction handles generalizing ctx with
  | nil => rfl
  | cons handle rest ih =>
    cases handle with
    | none => exact congrArg (false :: ·) (ih hnodup)
    | some source =>
      obtain ⟨hnot, hrest⟩ := List.nodup_cons.1 hnodup
      have hsame : rest.map (ctx.poll source).2.finds = rest.map ctx.finds := by
        refine List.map_congr_left fun handle hmem => ?_
        cases handle with
        | none => rfl
        | some other =>
          refine poll_poll_fst ?_
          rintro rfl
          exact hnot (List.mem_filterMap.2 ⟨some other, hmem, rfl⟩)
      exact congrArg ((ctx.poll source).1 :: ·) ((ih hrest).trans hsame)

/-- A scan consumes the guards that it polls. -/
theorem isTriggered_scan {g : GuardId} :
    (ctx.scan handles).2.board.isTriggered g = true ↔
      ctx.board.isTriggered g = true ∧ some (.guard g) ∉ handles := by
  induction handles generalizing ctx with
  | nil => exact (and_iff_left List.not_mem_nil).symm
  | cons handle rest ih =>
    cases handle with
    | none =>
      rw [List.mem_cons, or_iff_right (by simp)]
      exact ih
    | some source =>
      have hrest : (ctx.scan (some source :: rest)).2.board.isTriggered g = true ↔
          (ctx.poll source).2.board.isTriggered g = true ∧ some (.guard g) ∉ rest := ih
      rw [hrest, List.mem_cons, not_or]
      cases source with
      | endpoint gid channel => simp [poll]
      | guard g' =>
        have hconsumed : (ctx.poll (.guard g')).2.board.isTriggered g = true ↔
            ctx.board.isTriggered g = true ∧ g ≠ g' := Switchboard.isTriggered_consume_iff
        rw [hconsumed, and_assoc]
        simp

/-- A scan that finds nothing changes nothing. -/
theorem scan_of_not_isReady (h : ∀ source, some source ∈ handles → ¬ ctx.IsReady source) :
    (ctx.scan handles).2 = ctx := by
  induction handles with
  | nil => rfl
  | cons handle rest ih =>
    have hrest := ih fun source hmem => h source (List.mem_cons_of_mem _ hmem)
    cases handle with
    | none => exact hrest
    | some source =>
      have hpoll := poll_of_not_isReady (h source List.mem_cons_self)
      show ((ctx.poll source).2.scan rest).2 = ctx
      rw [hpoll]
      exact hrest

/-! ## Passes -/

/-- Ready handles ended the wait: they stay, and the guards among them are consumed. -/
structure Reported (handles : List (Option Source)) (before after : Context)
    (kept : List (Option Source)) (count : Nat) : Prop where
  kept_eq : kept = handles.map fun handle => if before.finds handle then handle else none
  count_eq : kept.countP (·.isSome) = count
  consumed : ∀ g, after.board.isTriggered g = true ↔
    before.board.isTriggered g = true ∧ some (.guard g) ∉ kept
  graph : after.graph = before.graph

/-- The guard of the wait set ended the wait, and no other guard is consumed. -/
structure Cancelled (guard : GuardId) (handles : List (Option Source)) (before after : Context)
    (kept : List (Option Source)) : Prop where
  unlisted : some (.guard guard) ∉ handles
  triggered : before.board.isTriggered guard = true
  not_ready : ∀ source, some source ∈ handles → ¬ before.IsReady source
  kept_eq : kept = handles.map fun _ => none
  consumed : ∀ g, after.board.isTriggered g = true ↔
    before.board.isTriggered g = true ∧ g ≠ guard
  graph : after.graph = before.graph

/-- None of the sources was ready, and nothing is consumed. -/
structure Unready (guard : GuardId) (handles : List (Option Source)) (before after : Context) :
    Prop where
  not_ready : ∀ source ∈ waitSources guard handles, ¬ before.IsReady source
  guards : after.board.guards = before.board.guards
  graph : after.graph = before.graph

/-- What a pass that begins in the context `before` leads to. -/
def Passed (guard : GuardId) (handles : List (Option Source)) (before : Context) :
    Context × WaitProgress → Prop
  | (after, .finished ⟨.ok count, kept⟩) =>
    if 0 < count then Reported handles before after kept count
    else Cancelled guard handles before after kept
  | (after, .finished ⟨.error error, kept⟩) =>
    error = .timeout ∧ kept = handles.map (fun _ => none) ∧ Unready guard handles before after
  | (after, .blocked session) =>
    session.guard = guard ∧ session.handles = handles ∧ Unready guard handles before after

theorem keep_finds (ctx : Context) (handles : List (Option Source)) :
    Session.keep handles (handles.map ctx.finds) =
      handles.map fun handle => if ctx.finds handle then handle else none := by
  unfold Session.keep
  induction handles with
  | nil => rfl
  | cons handle rest ih =>
    rw [List.map_cons, List.zip_cons_cons, List.map_cons, ih, List.map_cons]

theorem guards_finishWait (ctx : Context) (session : Session) (result : Except Error Nat)
    (ready : List Bool) :
    (ctx.finishWait session result ready).1.board.guards = ctx.board.guards :=
  Switchboard.guards_withdrawAll ..

theorem isTriggered_finishWait (ctx : Context) (session : Session) (result : Except Error Nat)
    (ready : List Bool) (g : GuardId) :
    (ctx.finishWait session result ready).1.board.isTriggered g = ctx.board.isTriggered g :=
  congrArg (·.getD g false) (guards_finishWait ctx session result ready)

/-- Of the handles, those that stay are the ready ones. -/
theorem mem_kept {source : Source} :
    some source ∈ (handles.map fun handle => if ctx.finds handle then handle else none) ↔
      some source ∈ handles ∧ ctx.IsReady source := by
  rw [List.mem_map]
  constructor
  · rintro ⟨handle, hmem, heq⟩
    split at heq
    · next hfinds =>
      subst heq
      exact ⟨hmem, hfinds⟩
    · cases heq
  · rintro ⟨hmem, hready⟩
    exact ⟨some source, hmem, if_pos hready⟩

theorem countP_kept (ctx : Context) (handles : List (Option Source)) :
    (handles.map fun handle => if ctx.finds handle then handle else none).countP (·.isSome) =
      (handles.map ctx.finds).count true := by
  induction handles with
  | nil => rfl
  | cons handle rest ih =>
    rw [List.map_cons, List.map_cons, List.countP_cons, List.count_cons, ih]
    cases handle with
    | none => rfl
    | some source => cases hfinds : ctx.finds (some source) <;> rfl

/-- A pass that finds handles ready reports them. -/
theorem reported_finishWait {session : Session}
    (hnodup : (session.handles.filterMap id).Nodup) {count : Nat}
    (hcount : (session.handles.map ctx.finds).count true = count) :
    Reported session.handles ctx
      ((ctx.scan session.handles).2.finishWait session (.ok count) (ctx.scan session.handles).1).1
      (Session.keep session.handles (ctx.scan session.handles).1) count := by
  rw [fst_scan hnodup, keep_finds]
  refine ⟨rfl, (countP_kept ..).trans hcount, fun g => ?_, ?_⟩
  · rw [isTriggered_finishWait, mem_kept]
    refine isTriggered_scan.trans (and_congr_right fun htriggered => not_congr ?_)
    exact (and_iff_left htriggered).symm
  · exact graph_scan ..

/-- Where nothing is ready, no handle stays. -/
theorem kept_of_not_isReady (h : ∀ source, some source ∈ handles → ¬ ctx.IsReady source) :
    (handles.map fun handle => if ctx.finds handle then handle else none) =
      handles.map fun _ => none := by
  refine List.map_congr_left fun handle hmem => ?_
  cases handle with
  | none => exact ite_self none
  | some source => exact if_neg (h source hmem)

/-- A pass that has found nothing times out or blocks, and changes nothing. -/
theorem passed_unready {session : Session} {ready : List Bool}
    (hkeep : Session.keep session.handles ready = session.handles.map fun _ => none)
    (hunready : ∀ source ∈ waitSources session.guard session.handles, ¬ ctx.IsReady source)
    (late : Bool) :
    Passed session.guard session.handles ctx
      (if late then ctx.finishWait session (.error .timeout) ready else (ctx, .blocked session)) := by
  cases late with
  | true => exact ⟨rfl, hkeep, hunready, guards_finishWait ctx session (.error .timeout) ready, rfl⟩
  | false => exact ⟨rfl, rfl, hunready, rfl, rfl⟩

/-- A pass over distinct handles reports what was ready when it began. -/
theorem passed_passWait {session : Session} (hnodup : (session.handles.filterMap id).Nodup)
    (now : Nat) : Passed session.guard session.handles ctx (ctx.passWait session now) := by
  unfold passWait
  dsimp only
  by_cases hcount : 0 < (ctx.scan session.handles).1.count true
  · have hfound : (session.handles.map ctx.finds).count true =
        (ctx.scan session.handles).1.count true := by rw [fst_scan hnodup]
    rw [if_pos hcount]
    exact (if_pos hcount).mpr (reported_finishWait hnodup hfound)
  · have hunready : ∀ source, some source ∈ session.handles → ¬ ctx.IsReady source := by
      intro source hmem hready
      refine hcount (List.count_pos_iff.2 ?_)
      rw [fst_scan hnodup]
      exact List.mem_map.2 ⟨some source, hmem, hready⟩
    have hscan : ctx.scan session.handles = (session.handles.map ctx.finds, ctx) :=
      Prod.ext (fst_scan hnodup) (scan_of_not_isReady hunready)
    have hkeep := (keep_finds ctx session.handles).trans (kept_of_not_isReady hunready)
    rw [if_neg hcount, hscan]
    cases hlists : session.listsGuard with
    | true =>
      refine passed_unready hkeep (fun source hmem => ?_) _
      exact hunready source ((mem_waitSources_cases hmem).resolve_right fun h => h.2 hlists)
    | false =>
      have hunlisted : some (.guard session.guard) ∉ session.handles :=
        fun hmem => Bool.false_ne_true (hlists.symm.trans (List.contains_iff_mem.2 hmem))
      by_cases hown : ctx.IsReady (.guard session.guard)
      · have hpoll : (ctx.poll (.guard session.guard)).1 = true := hown
        rw [if_neg Bool.false_ne_true, if_pos hpoll]
        refine ⟨hunlisted, hown, hunready, hkeep, fun g => ?_, rfl⟩
        have hafter := isTriggered_finishWait (ctx.poll (.guard session.guard)).2 session (.ok 0)
          (session.handles.map ctx.finds) g
        exact (Bool.eq_iff_iff.1 hafter).trans Switchboard.isTriggered_consume_iff
      · rw [if_neg Bool.false_ne_true, poll_of_not_isReady hown, if_neg Bool.false_ne_true]
        refine passed_unready hkeep (fun source hmem => ?_) _
        rcases mem_waitSources_cases hmem with hlisted | ⟨rfl, -⟩
        · exact hunready source hlisted
        · exact hown

/-! ## Waits -/

section

variable {guard : GuardId} {before : Context}

/-- Only the graph and the guards matter for how a pass began. -/
theorem Passed.congr (hgraph : ctx'.graph = ctx.graph)
    (hguards : ctx'.board.guards = ctx.board.guards) {result : Context × WaitProgress}
    (h : Passed guard handles ctx' result) : Passed guard handles ctx result := by
  have hpoll : ∀ source, ctx.IsReady source ↔ ctx'.IsReady source := fun source =>
    Bool.eq_iff_iff.1 (poll_fst_congr hgraph hguards source).symm
  have htriggered : ∀ g, ctx'.board.isTriggered g = ctx.board.isTriggered g :=
    fun g => congrArg (·.getD g false) hguards
  have hfinds := finds_congr hgraph hguards
  have hunready : ∀ {after}, Unready guard handles ctx' after → Unready guard handles ctx after :=
    fun h => ⟨fun source hmem => (hpoll source).not.2 (h.not_ready source hmem),
      h.guards.trans hguards, h.graph.trans hgraph⟩
  obtain ⟨after, ⟨error | count, kept⟩ | session⟩ := result
  · exact ⟨h.1, h.2.1, hunready h.2.2⟩
  · by_cases hcount : 0 < count
    · have hreported : Reported handles ctx' after kept count := (if_pos hcount).mp h
      refine (if_pos hcount).mpr ⟨?_, hreported.count_eq, fun g => ?_, ?_⟩
      · rw [hreported.kept_eq, hfinds]
      · rw [← htriggered]
        exact hreported.consumed g
      · exact hreported.graph.trans hgraph
    · have hcancelled : Cancelled guard handles ctx' after kept := (if_neg hcount).mp h
      refine (if_neg hcount).mpr ⟨hcancelled.unlisted, ?_, fun source hmem => ?_,
        hcancelled.kept_eq, fun g => ?_, hcancelled.graph.trans hgraph⟩
      · rw [← htriggered]
        exact hcancelled.triggered
      · exact (hpoll source).not.2 (hcancelled.not_ready source hmem)
      · rw [← htriggered]
        exact hcancelled.consumed g
  · exact ⟨h.1, h.2.1, hunready h.2.2⟩

theorem guards_collect (ctx : Context) (session : Session) :
    (ctx.collect session).board.guards = ctx.board.guards := by
  unfold collect
  split <;> rfl

theorem passed_resumeWait {session : Session} (hnodup : (session.handles.filterMap id).Nodup)
    (now : Nat) : Passed session.guard session.handles ctx (ctx.resumeWait session now) := by
  unfold resumeWait
  split
  · exact (passed_passWait hnodup now).congr (graph_collect ..) (guards_collect ..)
  · exact passed_passWait hnodup now

/-- The context in which the last pass of a wait began: `entered`, or what happened while the wait
blocked for the last time led to it. -/
def lastPass (entered : Context) : Context × WaitProgress → List Interval → Context
  | (ctx, .blocked session), interval :: rest =>
    (interval.meanwhile ctx).lastPass
      ((interval.meanwhile ctx).resumeWait session interval.resumed) rest
  | _, _ => entered

/-- However often a wait blocks, and whatever happens then, it ends as its last pass does. -/
theorem Passed.followWait (hnodup : (handles.filterMap id).Nodup)
    {state : Context × WaitProgress} (h : Passed guard handles before state)
    (intervals : List Interval) :
    Passed guard handles (before.lastPass state intervals) (Context.followWait state intervals) := by
  induction intervals generalizing before state with
  | nil => obtain ⟨after, ⟨error | count, kept⟩ | session⟩ := state <;> exact h
  | cons interval rest ih =>
    obtain ⟨after, ⟨error | count, kept⟩ | session⟩ := state
    · exact h
    · exact h
    · obtain ⟨rfl, rfl, -⟩ := h
      exact ih (passed_resumeWait hnodup interval.resumed)

end

end Context

end PubSub
