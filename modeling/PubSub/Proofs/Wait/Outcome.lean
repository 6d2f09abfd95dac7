import PubSub.Proofs.Wait.Claims
import PubSub.Proofs.Wait.Pass

/-!
# How a wait ends

A wait is refused, or its sources are enrolled and it passes over them.  Which of the two it is
depends on the number of its handles, on handles listed twice, and on what other waits hold; slots are
never the reason.  Together with what a pass reports (`Context.Passed`) this tells for every way in
which a wait can end what becomes of its handles, of the guards and of everything else
(`Threads.Reachable.wait_contract`).
-/

namespace PubSub

/-! ## Sources -/

section

variable {guard : GuardId} {handles : List (Option Source)}

/-- The guard of the wait set is added only where it is not listed. -/
theorem waitSources_eq (guard : GuardId) (handles : List (Option Source)) :
    waitSources guard handles = handles.filterMap id ∧ .guard guard ∈ handles.filterMap id ∨
      waitSources guard handles = .guard guard :: handles.filterMap id ∧
        .guard guard ∉ handles.filterMap id := by
  unfold waitSources
  dsimp only
  split
  · next hlisted => exact Or.inl ⟨rfl, List.contains_iff_mem.1 hlisted⟩
  · next hunlisted => exact Or.inr ⟨rfl, fun hmem => hunlisted (List.contains_iff_mem.2 hmem)⟩

theorem nodup_waitSources : (waitSources guard handles).Nodup ↔ (handles.filterMap id).Nodup := by
  rcases waitSources_eq guard handles with ⟨heq, -⟩ | ⟨heq, hunlisted⟩
  · rw [heq]
  · rw [heq, List.nodup_cons]
    exact and_iff_right hunlisted

theorem countP_waitSources :
    (waitSources guard handles).countP (· ≠ .guard guard) = requestedHandles guard handles := by
  rcases waitSources_eq guard handles with ⟨heq, -⟩ | ⟨heq, -⟩
  · rw [heq]
    rfl
  · rw [heq, List.countP_cons_of_neg (by simp)]
    rfl

end

/-! ## The first pass -/

namespace Context

variable {ctx : Context} {k : WaitSetId} {waitSet : WaitSet}

/-- More slots than handles are enough for a wait of a wait set whose slots are all free. -/
theorem ample_reserve (ctx : Context) (k : WaitSetId) (htidy : Call.Tidy waitSet [])
    (handles : List (Option Source)) :
    ∃ reserved, waitSet.reserve (requestedHandles waitSet.guard handles + 1) = .ok reserved ∧
      reserved.guard = waitSet.guard ∧
      Switchboard.Ample { ctx.board with waitSets := ctx.board.waitSets.insert k reserved } k
        waitSet.guard (waitSources waitSet.guard handles) := by
  obtain ⟨reserved, hreserve, hcapacity, hcases⟩ := waitSet.exists_reserve
    (Nat.succ_pos (requestedHandles waitSet.guard handles))
  have hreserved : reserved.guard = waitSet.guard ∧ Call.Tidy reserved [] := by
    rcases hcases with rfl | ⟨capacity, rfl⟩
    · exact ⟨rfl, htidy⟩
    · exact ⟨rfl, .idle waitSet capacity⟩
  obtain ⟨hguard, hidle⟩ := hreserved
  refine ⟨reserved, hreserve, hguard, reserved, ?_, hidle.tallied, ?_⟩
  · rw [Table.find?_insert, if_pos rfl]
  · rw [hidle.active, countP_waitSources]
    split <;> simp only [List.length_nil] <;> omega

/-- The wait set is asked for too many handles, for a source listed twice, or for a claimed source. -/
def Refuses (ctx : Context) (waitSet : WaitSet) (handles : List (Option Source)) : Prop :=
  (waitSet.maxHandles ≠ 0 ∧ waitSet.maxHandles < requestedHandles waitSet.guard handles) ∨
    ¬ (handles.filterMap id).Nodup ∨
    ∃ source ∈ waitSources waitSet.guard handles, source ∈ ctx.board.claimed

/-- A wait of a wait set without a wait is refused, or passes over its handles. -/
theorem startWait_passed (hfind : ctx.board.waitSets.find? k = some waitSet)
    (htidy : Call.Tidy waitSet []) (handles : List (Option Source)) (timeout : Option Nat)
    (now : Nat) :
    (ctx.Refuses waitSet handles ∧
      ∃ argument board, ctx.startWait k handles timeout now =
        ({ ctx with board }, .finished ⟨.error (.invalidArgument argument), handles⟩) ∧
        board.guards = ctx.board.guards) ∨
    (¬ ctx.Refuses waitSet handles ∧
      ctx.Passed waitSet.guard handles (ctx.startWait k handles timeout now)) := by
  obtain ⟨reserved, hreserve, hguard, hample⟩ := ctx.ample_reserve k htidy handles
  unfold startWait
  dsimp only
  rw [hfind]
  dsimp only
  by_cases hmany : waitSet.maxHandles ≠ 0 ∧ waitSet.maxHandles < requestedHandles waitSet.guard handles
  · rw [if_pos hmany]
    exact Or.inl ⟨Or.inl hmany, _, ctx.board, rfl, rfl⟩
  · rw [if_neg hmany, hreserve]
    dsimp only
    rw [hguard]
    have henroll := hample.enrollAll []
    have hguards := Switchboard.guards_enrollAll
      { ctx.board with waitSets := ctx.board.waitSets.insert k reserved } k []
      (waitSources waitSet.guard handles)
    generalize Switchboard.enrollAll _ k [] _ = result at henroll hguards
    obtain ⟨enrolled, board⟩ := result
    by_cases hfree : (waitSources waitSet.guard handles).Nodup ∧
        ∀ source ∈ waitSources waitSet.guard handles, source ∉ ctx.board.claimed
    · rw [if_pos hfree] at henroll
      obtain ⟨hooks, rfl⟩ := henroll
      have hnodup := nodup_waitSources.1 hfree.1
      refine Or.inr ⟨?_, ?_⟩
      · rintro (h | h | ⟨source, hmem, hclaimed⟩)
        exacts [hmany h, h hnodup, hfree.2 source hmem hclaimed]
      · have hpassed := @passed_passWait { ctx with board }
          ⟨k, waitSet.guard, handles, hooks, Wake.deadline? now timeout⟩ hnodup now
        refine hpassed.congr ?_ ?_
        exacts [rfl, hguards]
    · rw [if_neg hfree] at henroll
      cases henroll
      refine Or.inl ⟨Or.inr ?_, _, board, rfl, hguards⟩
      rw [nodup_waitSources, not_and_or] at hfree
      refine hfree.imp_right fun h => ?_
      simpa using h

end Context

/-! ## The ends of a pass -/

namespace Context

variable {before after : Context} {guard : GuardId} {handles kept : List (Option Source)}
  {result : Context × WaitProgress} {count : Nat}

/-- The guard of the wait set is consumed only where it is listed. -/
theorem Reported.isTriggered_of_unlisted (h : Reported handles before after kept count)
    (hunlisted : some (.guard guard) ∉ handles) :
    after.board.isTriggered guard = before.board.isTriggered guard := by
  refine Bool.eq_iff_iff.2 ((h.consumed guard).trans (and_iff_left fun hmem => ?_))
  rw [h.kept_eq] at hmem
  exact hunlisted (mem_kept.1 hmem).1

namespace Passed

variable (h : before.Passed guard handles result)

include h

theorem reported (hcount : 0 < count) (hend : result.2 = .finished ⟨.ok count, kept⟩) :
    Reported handles before result.1 kept count := by
  obtain ⟨after, progress⟩ := result
  obtain rfl : progress = _ := hend
  exact (if_pos hcount).mp h

theorem cancelled (hend : result.2 = .finished ⟨.ok 0, kept⟩) :
    Cancelled guard handles before result.1 kept := by
  obtain ⟨after, progress⟩ := result
  obtain rfl : progress = _ := hend
  exact h

theorem failed {error : Error} (hend : result.2 = .finished ⟨.error error, kept⟩) :
    error = .timeout ∧ kept = handles.map (fun _ => none) ∧
      Unready guard handles before result.1 := by
  obtain ⟨after, progress⟩ := result
  obtain rfl : progress = _ := hend
  exact h

theorem blocked {session : Session} (hend : result.2 = .blocked session) :
    Unready guard handles before result.1 := by
  obtain ⟨after, progress⟩ := result
  obtain rfl : progress = _ := hend
  exact h.2.2

end Passed

end Context

/-! ## The contract -/

/-- How a wait of a wait set without a wait ends, whatever other waits hold and whatever happens while
it blocks.  With ready handles, those and no others stay, and the guards among them are consumed and
no others; this leaves the guard of the wait set as it was unless it is listed.  With none ready and
that guard unlisted and triggered, or at the deadline, no handle stays.  A pass after which the wait
blocks changes nothing.  It is refused exactly if it has too many handles, lists a source twice, or
needs one that another wait holds, and then nothing changes.  There is no other error.  Its passes are
courses of the threads: unless it is refused at once it comes to where `Context.startWait` leaves it,
and from where it blocks to where `Context.advanceWait` does. -/
theorem Threads.Reachable.wait_contract {threads : Threads} (h : Reachable threads)
    {k : WaitSetId} {waitSet : WaitSet} (hnone : threads.calls k = none)
    (hfind : threads.ctx.board.waitSets.find? k = some waitSet) (handles : List (Option Source))
    (timeout : Option Nat) (now : Nat) (intervals : List Context.Interval) :
    let before := threads.ctx.lastPass (threads.ctx.startWait k handles timeout now) intervals
    let result := threads.ctx.wait k handles timeout now intervals
    (∀ count kept, 0 < count → result.2 = .finished ⟨.ok count, kept⟩ →
      Context.Reported handles before result.1 kept count ∧
      (some (.guard waitSet.guard) ∉ handles →
        result.1.board.isTriggered waitSet.guard = before.board.isTriggered waitSet.guard)) ∧
    (∀ kept, result.2 = .finished ⟨.ok 0, kept⟩ →
      Context.Cancelled waitSet.guard handles before result.1 kept) ∧
    (∀ kept, result.2 = .finished ⟨.error .timeout, kept⟩ →
      kept = handles.map (fun _ => none) ∧
      Context.Unready waitSet.guard handles before result.1) ∧
    (∀ session, result.2 = .blocked session →
      Context.Unready waitSet.guard handles before result.1) ∧
    ((∃ argument kept, result.2 = .finished ⟨.error (.invalidArgument argument), kept⟩) ↔
      (waitSet.maxHandles ≠ 0 ∧ waitSet.maxHandles < requestedHandles waitSet.guard handles) ∨
      ¬ (handles.filterMap id).Nodup ∨
      ∃ source ∈ waitSources waitSet.guard handles,
        ∃ other c, other ≠ k ∧ threads.calls other = some c ∧ source ∈ c.held) ∧
    (∀ argument kept, result.2 = .finished ⟨.error (.invalidArgument argument), kept⟩ →
      kept = handles ∧ result.1.graph = threads.ctx.graph ∧
      result.1.board.guards = threads.ctx.board.guards) ∧
    (∀ error kept, result.2 = .finished ⟨.error error, kept⟩ →
      error = .timeout ∨ ∃ argument, error = .invalidArgument argument) ∧
    ((∀ source, ¬ threads.Locked source) →
      (∃ error, threads.ctx.startWait k handles timeout now =
        (threads.ctx, .finished ⟨.error error, handles⟩)) ∨
      ∃ call, (threads.ctx.startWait k handles timeout now).2.At k call ∧
        Steps threads
          { threads with
            ctx := (threads.ctx.startWait k handles timeout now).1
            calls := Function.update threads.calls k (some call) }) ∧
    (∀ (later : Threads) progress call, (∀ source, ¬ later.Locked source) →
      later.calls k = some call → progress.At k call → ∀ resumed,
      ∃ call', (later.ctx.advanceWait resumed progress).2.At k call' ∧
        Steps later
          { later with
            ctx := (later.ctx.advanceWait resumed progress).1
            calls := Function.update later.calls k (some call') }) := by
  intro before result
  have hstarts := fun hfree => @steps_startWait threads k hfree hnone handles timeout now
  have hadvances := fun (later : Threads) progress call hfree hcall hat =>
    @steps_advanceWait later k hfree call hcall progress hat
  have hsound := h.invariants.1
  have hrestored := h.restored
  have htidy := hrestored.tidy k waitSet hfind
  rw [hnone] at htidy
  -- What is claimed is what others hold.
  have hheld : ∀ source, source ∈ threads.ctx.board.claimed ↔
      ∃ other c, other ≠ k ∧ threads.calls other = some c ∧ source ∈ c.held := by
    refine fun source => ⟨(hrestored.idle hsound hnone).1 source, ?_⟩
    rintro ⟨other, c, -, hc, hmem⟩
    exact (hsound.call other c hc).held_claimed source hmem
  have hrefuses : threads.ctx.Refuses waitSet handles ↔ _ :=
    or_congr_right (or_congr_right (exists_congr fun source => and_congr_right fun _ => hheld source))
  rcases Context.startWait_passed hfind htidy handles timeout now with
    ⟨hrefused, argument, board, hresult, hguards⟩ | ⟨hnot, hpassed⟩
  · have hend : result =
        ({ threads.ctx with board }, .finished ⟨.error (.invalidArgument argument), handles⟩) := by
      show Context.followWait _ intervals = _
      rw [hresult]
      cases intervals <;> rfl
    rw [hend]
    refine ⟨?_, ?_, ?_, ?_, ⟨fun _ => hrefuses.1 hrefused, fun _ => ⟨argument, handles, rfl⟩⟩, ?_, ?_,
      hstarts, hadvances⟩
    · rintro count kept - ⟨⟩
    · rintro kept ⟨⟩
    · rintro kept ⟨⟩
    · rintro session ⟨⟩
    · rintro argument' kept ⟨⟩
      exact ⟨rfl, rfl, hguards⟩
    · rintro error kept ⟨⟩
      exact Or.inr ⟨argument, rfl⟩
  · have hnodup : (handles.filterMap id).Nodup :=
      not_not.1 fun htwice => hnot (Or.inr (Or.inl htwice))
    have hpassed : before.Passed waitSet.guard handles result := hpassed.followWait hnodup intervals
    have hallowed := hrefuses.not.1 hnot
    refine ⟨fun count kept hcount hend => ?_, fun kept hend => hpassed.cancelled hend,
      fun kept hend => (hpassed.failed hend).2, fun session hend => hpassed.blocked hend,
      ⟨?_, fun hrefused => absurd hrefused hallowed⟩, fun argument kept hend => ?_,
      fun error kept hend => Or.inl (hpassed.failed hend).1, hstarts, hadvances⟩
    · have hreported := hpassed.reported hcount hend
      exact ⟨hreported, hreported.isTriggered_of_unlisted⟩
    · rintro ⟨argument, kept, hend⟩
      cases (hpassed.failed hend).1
    · cases (hpassed.failed hend).1

/-- A wait for a guard that is triggered, with a handle absent. -/
theorem Threads.Reachable.exists_wait_reporting : ∃ threads waitSet, Reachable threads ∧
    threads.calls 0 = none ∧ threads.ctx.board.waitSets.find? 0 = some waitSet ∧
    Context.Reported [none, some (.guard 2)] threads.ctx
      (threads.ctx.wait 0 [none, some (.guard 2)] none 0 []).1 [none, some (.guard 2)] 1 ∧
    (threads.ctx.wait 0 [none, some (.guard 2)] none 0 []).1.board.isTriggered waitSet.guard =
      threads.ctx.board.isTriggered waitSet.guard := by
  have hctx : Context.Reachable _ := ⟨.start 7,
    { domainId := 0, enclave := "/", discoveryRange := .localhost, discoveryPeers := [],
      instanceId := none, waitSetCapacity := 4, qosProfilePath := none },
    _, _, [.createWaitSet 1, .createGuard, .trigger 2], rfl, rfl⟩
  have h := wait_contract (k := 0) (start hctx) rfl rfl [none, some (.guard 2)] none 0 []
  obtain ⟨hreported, hown⟩ := h.1 1 [none, some (.guard 2)] Nat.one_pos rfl
  exact ⟨_, _, start hctx, rfl, rfl, hreported, hown (by decide)⟩

end PubSub
