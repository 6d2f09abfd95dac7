import PubSub.Proofs.Wait.Undisturbed
import PubSub.Proofs.Wake.Tally

/-!
# Claims are exclusive and given back

What is claimed is what some wait holds, and nothing else: `Threads.Restored` says that every claim is
held by a wait under way, and that the slots in use and pending at a driver are those of the hooks of
its wait.  Together with `Threads.Sound` this tells what is left behind by a wait that has returned,
on whatever path: nothing (`Threads.Reachable.exclusive_and_restored`).
-/

namespace PubSub

namespace Call

/-! ## Claims -/

/-- What is claimed after a step of a wait is held by it, or was claimed without being held by it. -/
theorem Step.claimed {locked : Source → Prop} {id : WaitSetId} {ctx ctx' : Context}
    {call call' : Option Call} (h : Step locked id ctx call ctx' call')
    (hsound : ∀ c, call = some c → c.Sound id ctx.board) {source : Source}
    (hclaimed : source ∈ ctx'.board.claimed) :
    source ∈ heldBy call' ∨ source ∈ ctx.board.claimed ∧ source ∉ heldBy call := by
  -- A source that was claimed stays on the side on which it was, unless it is given up.
  have hkept : source ∈ ctx.board.claimed → (source ∈ heldBy call → source ∈ heldBy call') →
      source ∈ heldBy call' ∨ source ∈ ctx.board.claimed ∧ source ∉ heldBy call := by
    intro hold hheld
    by_cases hmem : source ∈ heldBy call
    · exact Or.inl (hheld hmem)
    · exact Or.inr ⟨hold, hmem⟩
  cases h with
  | claim hclaim =>
    obtain ⟨-, rfl⟩ := Switchboard.claim_eq_some hclaim
    rcases List.mem_cons.1 hclaimed with rfl | hold
    · exact Or.inl List.mem_cons_self
    · exact hkept hold fun hmem => List.mem_cons_of_mem _ hmem
  | unclaim | giveBack =>
    obtain ⟨hold, hne⟩ := Switchboard.mem_claimed_unclaim.1 hclaimed
    exact hkept hold fun hmem => (List.mem_cons.1 hmem).resolve_left hne
  | register hregister =>
    obtain ⟨waitSet, driver, -, -, rfl⟩ := Switchboard.register_eq_ok hregister
    exact hkept hclaimed fun hmem => hmem
  | @attach session hook todo hfree =>
    have hperm : (session.enrolled ++ [hook]).Perm (hook :: session.enrolled) :=
      List.perm_append_singleton hook session.enrolled
    exact hkept hclaimed fun hmem => (hperm.map Hook.source).mem_iff.2 hmem
  | @detach session outcome hook rest henrolled hfree =>
    refine hkept hclaimed fun hmem => ?_
    simp only [heldBy, held, Stage.midway, henrolled] at hmem
    exact hmem
  | release =>
    obtain ⟨waitSet, hfind, -⟩ := (hsound _ rfl).owned
    have hid := (hsound _ rfl).hooks_waitSet _ List.mem_cons_self
    rw [hid, Switchboard.release_eq hfind] at hclaimed
    exact hkept hclaimed fun hmem => hmem
  | finish henrolled =>
    refine hkept hclaimed fun hmem => ?_
    simp only [heldBy, held, Stage.midway, henrolled] at hmem
    cases hmem
  | @poll session found polled rest => cases polled <;> exact hkept hclaimed fun hmem => hmem
  | start => exact hkept hclaimed fun hmem => by cases hmem
  | refuse | scan | skip | ready | noneReady | listed | cancelled | goOn | expire | block | wake
  | timeUp | lower | takeWord | drained => exact hkept hclaimed fun hmem => hmem

/-- A wait that comes to a claimed source is refused, and changes nothing. -/
theorem Step.refused {locked : Source → Prop} {id : WaitSetId} {ctx ctx' : Context}
    {session : Session} {source : Source} {todo : List Source} {call' : Option Call}
    (h : Step locked id ctx (some ⟨session, .enrolling (source :: todo)⟩) ctx' call')
    (hclaimed : source ∈ ctx.board.claimed) :
    ctx' = ctx ∧ call' = some
      ⟨session, .leaving ⟨.error (.invalidArgument .handleInUse), session.handles⟩⟩ := by
  cases h with
  | claim hclaim => exact absurd hclaimed (Switchboard.claim_eq_some hclaim).1
  | refuse => exact ⟨rfl, rfl⟩

/-! ## Slots -/

/-- The hooks with a slot of the wait of a wait set, if there is one. -/
def hooksOf : Option Call → List Hook
  | some call => call.hooks
  | none => []

/-- The slots in use and pending at the driver of a wait set are those of the hooks. -/
structure Tidy (waitSet : WaitSet) (hooks : List Hook) : Prop where
  tallied : waitSet.driver.slots.Tallied
  active : waitSet.driver.activeSlots = hooks.length
  pending : ∀ slot, waitSet.driver.pending.contains slot = true →
    slot ∈ hooks.map (·.registration.slot)

namespace Tidy

variable {waitSet : WaitSet} {hooks : List Hook} {driver : Wake.Driver}

theorem idle (waitSet : WaitSet) (capacity : Nat) :
    Tidy { waitSet with driver := .idle capacity } [] where
  tallied := .empty
  active := rfl
  pending slot hslot := absurd (hslot.symm.trans (Wake.Bits.contains_empty ..)) (by decide)

/-- The order of the hooks does not matter. -/
theorem perm (h : Tidy waitSet hooks) {hooks' : List Hook} (hperm : hooks.Perm hooks') :
    Tidy waitSet hooks' :=
  ⟨h.tallied, h.active.trans hperm.length_eq,
    fun slot hslot => (hperm.map _).mem_iff.1 (h.pending slot hslot)⟩

/-- A driver with the same slots, of which only those of the hooks are pending. -/
theorem congr (h : Tidy waitSet hooks) (hslots : driver.slots = waitSet.driver.slots)
    (hpending : ∀ slot, driver.pending.contains slot = true →
      waitSet.driver.pending.contains slot = true ∨ slot ∈ hooks.map (·.registration.slot)) :
    Tidy { waitSet with driver } hooks := by
  refine ⟨?_, ?_, fun slot hslot => (hpending slot hslot).elim (h.pending slot) id⟩
  · show driver.slots.Tallied
    rw [hslots]
    exact h.tallied
  · show driver.slots.active = _
    rw [hslots]
    exact h.active

theorem register (h : Tidy waitSet hooks) {source : Source} {id : WaitSetId}
    {registration : Wake.Registration}
    (hreg : waitSet.driver.register = .ok (registration, driver)) :
    Tidy { waitSet with driver } (⟨source, id, registration⟩ :: hooks) := by
  obtain ⟨slots, halloc, rfl⟩ := Wake.Driver.register_eq_ok hreg
  obtain ⟨htallied, hactive⟩ := h.tallied.allocate? halloc
  refine ⟨htallied, hactive.trans (congrArg (· + 1) h.active), fun slot hslot => ?_⟩
  exact List.mem_cons_of_mem _ (h.pending slot hslot)

theorem release {hook : Hook} (h : Tidy waitSet (hook :: hooks)) (hsound : waitSet.driver.Sound)
    (howns : waitSet.driver.slots.owns hook.registration = true) :
    Tidy { waitSet with driver := (waitSet.driver.release hook.registration).2 } hooks := by
  rw [Wake.Driver.release_of_owns howns]
  obtain ⟨htallied, hactive⟩ := h.tallied.release hsound.slots howns
  refine ⟨htallied, ?_, fun slot hslot => ?_⟩
  · have hlength : waitSet.driver.slots.active = hooks.length + 1 := h.active
    exact Nat.succ.inj (hactive.trans hlength)
  · obtain ⟨hbefore, hne⟩ := (Wake.Bits.contains_clear ..).1 hslot
    exact (List.mem_cons.1 (h.pending slot hbefore)).resolve_left hne

end Tidy

/-- A step of a wait leaves its driver with the slots of the hooks that it has then. -/
theorem Step.tidy {locked : Source → Prop} {id : WaitSetId} {ctx ctx' : Context}
    {call call' : Option Call} (h : Step locked id ctx call ctx' call')
    (hsound : ∀ c, call = some c → c.Sound id ctx.board) (hboard : ctx.board.Sound)
    (htidy : ∀ waitSet, ctx.board.waitSets.find? id = some waitSet → Tidy waitSet (hooksOf call)) :
    ∀ waitSet', ctx'.board.waitSets.find? id = some waitSet' → Tidy waitSet' (hooksOf call') := by
  intro waitSet' hfind'
  have hset : ∀ {driver : Wake.Driver} {waitSet : WaitSet},
      (ctx.board.setDriver id driver).waitSets.find? id = some waitSet' →
      ctx.board.waitSets.find? id = some waitSet → { waitSet with driver } = waitSet' := by
    intro driver waitSet hnew hold
    rw [Switchboard.find?_setDriver_self hold] at hnew
    exact Option.some.inj hnew
  cases h with
  | @start waitSet reserved handles deadline hfind hfew hreserve =>
    rw [Table.find?_insert, if_pos rfl] at hfind'
    obtain rfl := Option.some.inj hfind'
    rcases WaitSet.reserve_eq_ok hreserve with rfl | ⟨capacity, rfl⟩
    · exact htidy reserved hfind
    · exact .idle waitSet capacity
  | claim hclaim =>
    obtain ⟨-, rfl⟩ := Switchboard.claim_eq_some hclaim
    exact htidy waitSet' hfind'
  | register hregister =>
    obtain ⟨waitSet, driver, hfind, hreg, rfl⟩ := Switchboard.register_eq_ok hregister
    obtain rfl := hset hfind' hfind
    exact (htidy waitSet hfind).register hreg
  | @attach session hook todo hfree =>
    exact (htidy waitSet' hfind').perm (List.perm_append_singleton hook session.enrolled).symm
  | @lower session waitSet hfind =>
    obtain rfl := hset hfind' hfind
    exact (htidy waitSet hfind).congr rfl fun slot hslot => Or.inl hslot
  | @takeWord session waitSet k hfind hword =>
    obtain rfl := hset hfind' hfind
    refine (htidy waitSet hfind).congr rfl fun slot hslot => Or.inl ?_
    exact ((Wake.Bits.contains_takeWord ..).1 hslot).1
  | @detach session outcome hook rest henrolled hfree =>
    have hbefore := htidy waitSet' hfind'
    simp only [hooksOf, hooks, Stage.slotted, List.nil_append, henrolled] at hbefore
    exact hbefore
  | @release session outcome hook =>
    obtain ⟨waitSet, hfind, howned⟩ := (hsound _ rfl).owned
    have hid : hook.waitSet = id := (hsound _ rfl).hooks_waitSet hook List.mem_cons_self
    dsimp only at hfind'
    rw [hid, Switchboard.release_eq hfind] at hfind'
    obtain rfl := hset hfind' hfind
    exact (htidy waitSet hfind).release (hboard id waitSet hfind) (howned hook List.mem_cons_self)
  | finish henrolled =>
    have hbefore := htidy waitSet' hfind'
    simp only [hooksOf, hooks, Stage.slotted, List.nil_append, henrolled] at hbefore
    exact hbefore
  | @poll session found polled rest => cases polled <;> exact htidy waitSet' hfind'
  | refuse | giveBack | scan | skip | ready | noneReady | listed | cancelled | goOn | expire | block
  | wake | timeUp | drained | unclaim => exact htidy waitSet' hfind'

/-! ## Returning -/

/-- The wait has settled its outcome and only gives back what it holds. -/
def Returns (call : Call) (outcome : WaitOutcome) : Prop :=
  match call.stage with
  | .leaving settled | .detached _ settled | .released _ settled => settled = outcome
  | _ => False

/-- The number of steps until a wait that gives back what it holds has returned. -/
def stepsLeft : Option Call → Nat
  | some ⟨session, .detached ..⟩ => 3 * session.enrolled.length + 3
  | some ⟨session, .released ..⟩ => 3 * session.enrolled.length + 2
  | some ⟨session, _⟩ => 3 * session.enrolled.length + 1
  | none => 0

/-- A wait that returns does so with the same outcome after each step, and is one step closer. -/
theorem Returns.step {call : Call} {outcome : WaitOutcome} (hreturns : call.Returns outcome)
    {locked : Source → Prop} {id : WaitSetId} {ctx ctx' : Context} {call' : Option Call}
    (h : Step locked id ctx (some call) ctx' call') :
    stepsLeft call' + 1 = stepsLeft (some call) ∧ ∀ c, call' = some c → c.Returns outcome := by
  cases h with
  | detach henrolled hfree =>
    refine ⟨?_, fun c hc => ?_⟩
    · simp only [stepsLeft, henrolled, List.length_cons]
      omega
    · cases hc
      exact hreturns
  | release | unclaim =>
    refine ⟨rfl, fun c hc => ?_⟩
    cases hc
    exact hreturns
  | finish henrolled =>
    refine ⟨?_, fun c hc => by cases hc⟩
    simp only [stepsLeft, henrolled, List.length_nil]
  | claim | refuse | register | giveBack | attach | scan | skip | poll | ready | noneReady | listed
  | cancelled | goOn | expire | block | wake | timeUp | lower | takeWord | drained =>
    cases hreturns

/-- A wait that returns has a step to make, unless the hooks of a source that it holds are locked. -/
theorem Returns.exists_step {call : Call} {outcome : WaitOutcome}
    (hreturns : call.Returns outcome) {locked : Source → Prop} (id : WaitSetId) (ctx : Context)
    (hfree : ∀ source ∈ call.held, ¬ locked source) :
    ∃ ctx' call', Step locked id ctx (some call) ctx' call' := by
  obtain ⟨session, stage⟩ := call
  cases stage with
  | leaving settled =>
    cases henrolled : session.enrolled with
    | nil => exact ⟨_, _, .finish henrolled⟩
    | cons hook rest =>
      refine ⟨_, _, .detach henrolled (hfree hook.source ?_)⟩
      simp only [held, Stage.midway, List.nil_append, henrolled]
      exact List.mem_cons_self
  | detached hook settled => exact ⟨_, _, .release⟩
  | released source settled => exact ⟨_, _, .unclaim⟩
  | enrolling | claimed | registered | scanning | checking | deciding | blocked | woken
  | draining => cases hreturns

end Call

namespace Threads

/-! ## All waits at once -/

/-- Every claim is held by a wait, and every driver is tidy. -/
structure Restored (threads : Threads) : Prop where
  claimed : ∀ source ∈ threads.ctx.board.claimed,
    ∃ id c, threads.calls id = some c ∧ source ∈ c.held
  tidy : ∀ id waitSet, threads.ctx.board.waitSets.find? id = some waitSet →
    Call.Tidy waitSet (Call.hooksOf (threads.calls id))

namespace Restored

variable {threads : Threads}

theorem start {ctx : Context} (h : ctx.Quiet) :
    Restored ⟨ctx, fun _ => none, fun _ => .idle⟩ where
  claimed source hmem := by
    rw [show ctx.board.claimed = [] from h.claimed] at hmem
    cases hmem
  tidy id waitSet hfind := by
    obtain ⟨capacity, hidle⟩ := h.idle id waitSet hfind
    have htidy := Call.Tidy.idle waitSet capacity
    rwa [← hidle] at htidy

theorem call_step (h : threads.Restored) (hsound : threads.Sound) {id : WaitSetId} {ctx : Context}
    {call : Option Call}
    (hstep : Call.Step threads.Locked id threads.ctx (threads.calls id) ctx call) :
    Restored { threads with ctx, calls := Function.update threads.calls id call } := by
  have hother : ∀ k, k ≠ id → Function.update threads.calls id call k = threads.calls k :=
    fun k hk => Function.update_of_ne hk ..
  refine ⟨fun source hmem => ?_, fun k waitSet hfind => ?_⟩
  · rcases hstep.claimed (hsound.call id) hmem with hheld | ⟨hold, hnot⟩
    · cases call with
      | none => cases hheld
      | some c => exact ⟨id, c, Function.update_self .., hheld⟩
    · obtain ⟨k, c, hc, hheld⟩ := h.claimed source hold
      have hk : k ≠ id := by
        rintro rfl
        rw [hc] at hnot
        exact hnot hheld
      exact ⟨k, c, (hother k hk).trans hc, hheld⟩
  · dsimp only at hfind ⊢
    by_cases hk : k = id
    · subst hk
      rw [Function.update_self]
      exact hstep.tidy (hsound.call k) hsound.board (h.tidy k) waitSet hfind
    · rw [hother k hk]
      rw [(hstep.footprint (hsound.call id)).waitSets k hk] at hfind
      exact h.tidy k waitSet hfind

/-- A notifier that marks a slot does so for a hook that has it. -/
theorem tidy_mark (h : threads.Restored) (hsound : threads.Sound) {hook : Hook}
    {waitSet : WaitSet} (hattached : hook ∈ threads.ctx.board.hooks)
    (hfind : threads.ctx.board.waitSets.find? hook.waitSet = some waitSet) :
    Call.Tidy { waitSet with driver := (waitSet.driver.mark hook.registration.slot).2 }
      (Call.hooksOf (threads.calls hook.waitSet)) := by
  refine (h.tidy hook.waitSet waitSet hfind).congr rfl fun slot hslot => ?_
  refine ((Wake.Bits.contains_mark ..).1 hslot).imp id ?_
  rintro ⟨rfl, -⟩
  obtain ⟨c, hc, hmem⟩ := hsound.attached hook hattached
  rw [hc]
  exact List.mem_map_of_mem (List.mem_append_right _ hmem)

theorem setDriver (h : threads.Restored) {id : WaitSetId} {waitSet : WaitSet}
    (hfind : threads.ctx.board.waitSets.find? id = some waitSet) {driver : Wake.Driver}
    (htidy : Call.Tidy { waitSet with driver } (Call.hooksOf (threads.calls id)))
    (notifiers : Nat → Notifying) :
    Restored { threads with
      ctx := { threads.ctx with board := threads.ctx.board.setDriver id driver }, notifiers } := by
  refine ⟨h.claimed, fun k waitSet' hfind' => ?_⟩
  dsimp only at hfind' ⊢
  by_cases hk : k = id
  · subst hk
    rw [Switchboard.find?_setDriver_self hfind] at hfind'
    rwa [← Option.some.inj hfind']
  · rw [Switchboard.find?_setDriver, if_neg hk] at hfind'
    exact h.tidy k waitSet' hfind'

/-- Other contexts and notifiers with the same claims and wait sets. -/
theorem congr (h : threads.Restored) {ctx : Context} (notifiers : Nat → Notifying)
    (hclaimed : ctx.board.claimed = threads.ctx.board.claimed)
    (hwaitSets : ctx.board.waitSets = threads.ctx.board.waitSets) :
    Restored { threads with ctx, notifiers } := by
  refine ⟨fun source hmem => h.claimed source ?_, fun id waitSet hfind => h.tidy id waitSet ?_⟩
  · rwa [← hclaimed]
  · rwa [← hwaitSets]

theorem notify_step (h : threads.Restored) (hsound : threads.Sound) {n : Nat} {ctx : Context}
    {notifying : Notifying}
    (hstep : Notifying.Step threads.Locked threads.ctx (threads.notifiers n) ctx notifying) :
    Restored { threads with ctx, notifiers := Function.update threads.notifiers n notifying } := by
  have htodo := hsound.notified n
  generalize threads.notifiers n = before at hstep htodo
  cases hstep with
  | markNew hfind hnew | markOld hfind hold =>
    exact h.setDriver hfind (h.tidy_mark hsound (htodo _ List.mem_cons_self).1 hfind) _
  | @raise hook todo waitSet hfind =>
    have htidy := h.tidy hook.waitSet waitSet hfind
    have hraised : Call.Tidy { waitSet with driver := waitSet.driver.raise } _ :=
      htidy.congr rfl fun slot hslot => Or.inl hslot
    exact h.setDriver hfind hraised _
  | call =>
    have hboard := Context.board_callBack threads.ctx
    exact h.congr _ (by rw [hboard]) (by rw [hboard])
  | trigger | change | lock | unlock => exact h.congr _ rfl rfl

/-- A wait set that comes or goes has no hooks. -/
theorem edit_step (h : threads.Restored) (hsound : threads.Sound)
    (hnumbered : threads.ctx.board.Numbered) {ctx : Context}
    (hapart : threads.ctx.Apart threads.Free ctx) : Restored { threads with ctx } := by
  refine ⟨fun source hmem => h.claimed source (hapart.claimed ▸ hmem), fun k waitSet hfind => ?_⟩
  rcases hsound.waitSets_of_apart hnumbered hapart k with hsame | ⟨hnone, hidle⟩
  · exact h.tidy k waitSet (hsame.symm.trans hfind)
  · obtain ⟨capacity, hdriver⟩ := hidle waitSet hfind
    have htidy := Call.Tidy.idle waitSet capacity
    dsimp only
    rw [hnone]
    rwa [← hdriver] at htidy

end Restored

theorem Reachable.restored {threads : Threads} (h : Reachable threads) : threads.Restored := by
  induction h with
  | start hctx => exact .start hctx.quiet
  | @step threads _ hreachable hstep ih =>
    have hsound := hreachable.invariants.1
    cases hstep with
    | call h => exact ih.call_step hsound h
    | notify h => exact ih.notify_step hsound h
    | edit h => exact ih.edit_step hsound hreachable.numbered h.apart

/-! ## What a wait leaves behind -/

variable {threads : Threads}

theorem Sound.eq_of_held (h : threads.Sound) {id id' : WaitSetId} {c c' : Call} {source : Source}
    (hc : threads.calls id = some c) (hc' : threads.calls id' = some c')
    (hmem : source ∈ c.held) (hmem' : source ∈ c'.held) : id = id' := by
  by_contra hne
  exact h.disjoint id id' c c' hne hc hc' source hmem hmem'

/-- A step of the wait of one wait set leaves what the others rely on. -/
theorem Sound.others_kept (h : threads.Sound) {id : WaitSetId} {ctx' : Context}
    {call' : Option Call}
    (hstep : Call.Step threads.Locked id threads.ctx (threads.calls id) ctx' call')
    {other : WaitSetId} (hne : other ≠ id) {c : Call} (hc : threads.calls other = some c) :
    (∀ source ∈ c.held, source ∈ ctx'.board.claimed) ∧
      (∀ hook ∈ c.session.enrolled, hook ∈ ctx'.board.hooks) ∧
      ctx'.board.waitSets.find? other = threads.ctx.board.waitSets.find? other := by
  have hfoot := hstep.footprint (h.call id)
  have hcall := h.call other c hc
  refine ⟨fun source hmem => ?_, fun hook hmem => ?_, hfoot.waitSets other hne⟩
  · exact hfoot.claimed source (h.not_mem_heldBy hne hc hmem) (hcall.held_claimed source hmem)
  · refine (hfoot.hooks hook (h.not_mem_heldBy hne hc ?_)).2 (hcall.enrolled_attached hook hmem)
    exact List.mem_append_right _ (List.mem_map_of_mem hmem)

/-- A wait set without a wait has no claim, no hook and no slot. -/
theorem Restored.idle (h : threads.Restored) (hsound : threads.Sound) {id : WaitSetId}
    (hnone : threads.calls id = none) :
    (∀ source ∈ threads.ctx.board.claimed,
      ∃ other c, other ≠ id ∧ threads.calls other = some c ∧ source ∈ c.held) ∧
    (∀ hook ∈ threads.ctx.board.hooks, hook.waitSet ≠ id) ∧
    ∀ waitSet, threads.ctx.board.waitSets.find? id = some waitSet →
      waitSet.driver.activeSlots = 0 ∧
        ∀ slot, waitSet.driver.pending.contains slot = false := by
  refine ⟨fun source hmem => ?_, fun hook hmem => ?_, fun waitSet hfind => ?_⟩
  · obtain ⟨other, c, hc, hheld⟩ := h.claimed source hmem
    refine ⟨other, c, ?_, hc, hheld⟩
    rintro rfl
    exact absurd (hnone.symm.trans hc) (by simp)
  · rintro rfl
    obtain ⟨c, hc, -⟩ := hsound.attached hook hmem
    exact absurd (hnone.symm.trans hc) (by simp)
  · have htidy := h.tidy id waitSet hfind
    rw [hnone] at htidy
    refine ⟨htidy.active, fun slot => ?_⟩
    cases hslot : waitSet.driver.pending.contains slot
    · rfl
    · exact absurd (htidy.pending slot hslot) List.not_mem_nil

/-- However waits interleave: no source is held twice, by one wait or by two, and what is claimed is
what is held.  A wait that comes to a claimed source is refused without changing anything, and no step
of a wait touches what another one holds.  A wait that is settled gives back what it holds step by
step, and when it has returned no claim is its own, no hook leads to its wait set, and no slot of its
driver is in use or pending.  With nobody in between, the steps are those of `Switchboard.enrollAll`
and `Switchboard.withdrawAll`. -/
theorem Reachable.exclusive_and_restored (h : Reachable threads) :
    (∀ id c, threads.calls id = some c → c.held.Nodup) ∧
    (∀ id id' c c' source, threads.calls id = some c → threads.calls id' = some c' →
      source ∈ c.held → source ∈ c'.held → id = id') ∧
    (∀ source, source ∈ threads.ctx.board.claimed ↔
      ∃ id c, threads.calls id = some c ∧ source ∈ c.held) ∧
    (∀ id session source todo ctx' call',
      threads.calls id = some ⟨session, .enrolling (source :: todo)⟩ →
      source ∈ threads.ctx.board.claimed →
      Call.Step threads.Locked id threads.ctx (threads.calls id) ctx' call' →
      ctx' = threads.ctx ∧ call' = some
        ⟨session, .leaving ⟨.error (.invalidArgument .handleInUse), session.handles⟩⟩) ∧
    (∀ id ctx' call', Call.Step threads.Locked id threads.ctx (threads.calls id) ctx' call' →
      ∀ other c, other ≠ id → threads.calls other = some c →
        (∀ source ∈ c.held, source ∈ ctx'.board.claimed) ∧
        (∀ hook ∈ c.session.enrolled, hook ∈ ctx'.board.hooks) ∧
        ctx'.board.waitSets.find? other = threads.ctx.board.waitSets.find? other) ∧
    (∀ id c outcome, threads.calls id = some c → c.Returns outcome →
      ((∀ source ∈ c.held, ¬ threads.Locked source) →
        ∃ ctx' call', Call.Step threads.Locked id threads.ctx (some c) ctx' call') ∧
      ∀ ctx' call', Call.Step threads.Locked id threads.ctx (some c) ctx' call' →
        Call.stepsLeft call' + 1 = Call.stepsLeft (some c) ∧
          ∀ c', call' = some c' → c'.Returns outcome) ∧
    (∀ id, threads.calls id = none →
      (∀ source ∈ threads.ctx.board.claimed,
        ∃ other c, other ≠ id ∧ threads.calls other = some c ∧ source ∈ c.held) ∧
      (∀ hook ∈ threads.ctx.board.hooks, hook.waitSet ≠ id) ∧
      ∀ waitSet, threads.ctx.board.waitSets.find? id = some waitSet →
        waitSet.driver.activeSlots = 0 ∧
          ∀ slot, waitSet.driver.pending.contains slot = false) ∧
    ((∀ source, ¬ threads.Locked source) → ∀ id session,
      (∀ todo, threads.calls id = some ⟨session, .enrolling todo⟩ →
        Steps threads
          { threads with
            ctx := { threads.ctx with
              board := (threads.ctx.board.enrollAll id session.enrolled todo).2 }
            calls := Function.update threads.calls id <| some <|
              match (threads.ctx.board.enrollAll id session.enrolled todo).1 with
              | .ok enrolled => ⟨{ session with enrolled }, .enrolling []⟩
              | .error error =>
                ⟨{ session with enrolled := [] }, .leaving ⟨.error error, session.handles⟩⟩ }) ∧
      ∀ outcome, threads.calls id = some ⟨session, .leaving outcome⟩ →
        Steps threads
          { threads with
            ctx := { threads.ctx with board := threads.ctx.board.withdrawAll session.enrolled }
            calls := Function.update threads.calls id none }) := by
  have hsound := h.invariants.1
  have hrestored := h.restored
  refine ⟨fun id c hc => (hsound.call id c hc).nodup_held, ?_, fun source => ⟨?_, ?_⟩, ?_, ?_, ?_, ?_,
    fun hfree id session => ⟨fun todo => steps_enrollAll hfree, fun outcome => steps_withdrawAll hfree⟩⟩
  · exact fun id id' c c' source hc hc' hmem hmem' => hsound.eq_of_held hc hc' hmem hmem'
  · exact hrestored.claimed source
  · rintro ⟨id, c, hc, hmem⟩
    exact (hsound.call id c hc).held_claimed source hmem
  · intro id session source todo ctx' call' hc hclaimed hstep
    rw [hc] at hstep
    exact hstep.refused hclaimed
  · exact fun id ctx' call' hstep other c hne hc => hsound.others_kept hstep hne hc
  · exact fun id c outcome _ hreturns =>
      ⟨hreturns.exists_step id threads.ctx, fun ctx' call' hstep => hreturns.step hstep⟩
  · exact fun id hnone => hrestored.idle hsound hnone

/-- A wait holds the guard of another wait set, whose own wait comes too late. -/
theorem Reachable.exists_refused : ∃ threads holder session, Reachable threads ∧
    threads.calls 0 = some holder ∧ .guard 2 ∈ holder.held ∧
    threads.calls 1 = some ⟨session, .enrolling [.guard 2]⟩ ∧
    ∀ ctx' call', Call.Step threads.Locked 1 threads.ctx (threads.calls 1) ctx' call' →
      ctx' = threads.ctx ∧ call' = some
        ⟨session, .leaving ⟨.error (.invalidArgument .handleInUse), session.handles⟩⟩ := by
  have hctx : Context.Reachable _ := ⟨.start 7,
    { domainId := 0, enclave := "/", discoveryRange := .localhost, discoveryPeers := [],
      instanceId := none, waitSetCapacity := 4, qosProfilePath := none },
    _, _, [.createWaitSet 1, .createWaitSet 1], rfl, rfl⟩
  have hholder := (((((start hctx).step
    (@Step.call _ 0 _ _ (@Call.Step.start _ _ _ _ _ [some (.guard 2)] none rfl (by decide) rfl))).step
    (@Step.call _ 0 _ _ (.claim rfl))).step
    (@Step.call _ 0 _ _ (.register rfl))).step
    (@Step.call _ 0 _ _ (.attach fun ⟨n, h⟩ => h))).step
    (@Step.call _ 0 _ _ (.claim rfl))
  have hboth := hholder.step
    (@Step.call _ 1 _ _ (@Call.Step.start _ _ _ _ _ [] none rfl (by decide) rfl))
  have h := exclusive_and_restored hboth
  have hclaimed := (h.2.2.1 (.guard 2)).2 ⟨0, _, rfl, List.mem_cons_self⟩
  exact ⟨_, _, _, hboth, rfl, List.mem_cons_self, rfl,
    fun ctx' call' hstep => h.2.2.2.1 1 _ _ _ ctx' call' rfl hclaimed hstep⟩

end Threads

end PubSub
