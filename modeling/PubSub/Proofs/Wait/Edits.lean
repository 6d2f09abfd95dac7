import PubSub.Proofs.Wait.Quiet
import PubSub.Proofs.Wait.Ready

/-!
# What operations leave to the waits

Operations go on while waits are under way.  The steps of an operation that notify nobody leave all
claims, hooks and guards as they are, and the wait sets that have a wait (`Context.Apart`).  A new wait
set cannot take the place of another one, because wait sets are numbered as they come
(`Threads.Reachable.numbered`).
-/

namespace PubSub

/-! ## Numbers of wait sets -/

namespace Switchboard

/-- The next wait set has a number of its own. -/
def Numbered (board : Switchboard) : Prop := ∀ k ∈ board.waitSets.keys, k < board.nextWaitSet

/-- There are as many guards and the same wait sets, whatever became of them. -/
structure SameStock (board board' : Switchboard) : Prop where
  guards : board'.guards.length = board.guards.length
  keys : ∀ k, k ∈ board'.waitSets.keys ↔ k ∈ board.waitSets.keys
  nextWaitSet : board'.nextWaitSet = board.nextWaitSet

namespace SameStock

variable {board board' : Switchboard}

theorem refl (board : Switchboard) : board.SameStock board := ⟨rfl, fun _ => Iff.rfl, rfl⟩

theorem setDriver (board : Switchboard) (id : WaitSetId) (driver : Wake.Driver) :
    board.SameStock (board.setDriver id driver) :=
  ⟨rfl, fun _ => by rw [Switchboard.setDriver, Table.keys_modify], rfl⟩

theorem setGuard (board : Switchboard) (guard : GuardId) (triggered : Bool) :
    board.SameStock { board with guards := board.guards.set guard triggered } :=
  ⟨List.length_set, fun _ => Iff.rfl, rfl⟩

theorem numbered (h : board.SameStock board') (hnumbered : board.Numbered) : board'.Numbered := by
  intro k hk
  rw [h.nextWaitSet]
  exact hnumbered k ((h.keys k).1 hk)

end SameStock

namespace Numbered

variable {board board' : Switchboard}

theorem notify (h : board.Numbered) (source : Source) : (board.notify source).Numbered := by
  intro k hk
  rw [Switchboard.notify, Table.keys_map] at hk
  exact h k hk

theorem newWaitSet (h : board.Numbered) {maxHandles slots : Nat} {id : WaitSetId}
    (hnew : board.newWaitSet maxHandles slots = .ok (id, board')) : board'.Numbered := by
  obtain ⟨-, rfl⟩ := newWaitSet_eq_ok hnew
  intro k hk
  rcases Table.mem_keys_insert.1 hk with rfl | hk
  · exact Nat.lt_succ_self _
  · exact Nat.lt_succ_of_lt (h k hk)

theorem dropWaitSet (h : board.Numbered) (id : WaitSetId) : (board.dropWaitSet id).Numbered :=
  fun k hk => h k (Table.mem_keys_erase.1 hk).2

theorem turns (h : board.Numbered) (hturns : board.Turns board') : board'.Numbered := by
  induction hturns with
  | refl => exact h
  | notify _ source ih => exact ih.notify source
  | @trigger board' _ guard ih =>
    unfold Switchboard.trigger
    split
    · exact ih
    · exact ((SameStock.setGuard board' guard true).numbered ih).notify (.guard guard)
  | newGuard _ ih => exact ih
  | newWaitSet _ hnew ih => exact ih.newWaitSet hnew
  | dropWaitSet _ id ih => exact ih.dropWaitSet id

end Numbered

end Switchboard

/-- A wait makes no guard and no wait set, and drops none. -/
theorem Call.Step.sameStock {locked : Source → Prop} {k : WaitSetId} {ctx ctx' : Context}
    {call call' : Option Call} (h : Call.Step locked k ctx call ctx' call') :
    ctx.board.SameStock ctx'.board := by
  have hpoll : ∀ source : Source, ctx.board.SameStock (ctx.poll source).2.board := by
    intro source
    cases source with
    | endpoint gid channel => exact .refl _
    | guard g => exact .setGuard ..
  cases h with
  | @start waitSet reserved handles deadline hfind =>
    refine ⟨rfl, fun j => Table.mem_keys_insert.trans (or_iff_right_of_imp ?_), rfl⟩
    rintro rfl
    exact Table.mem_keys_iff.2 ⟨waitSet, hfind⟩
  | poll | cancelled | goOn => exact hpoll _
  | claim hclaim =>
    obtain ⟨-, rfl⟩ := Switchboard.claim_eq_some hclaim
    exact ⟨rfl, fun _ => Iff.rfl, rfl⟩
  | register hregister =>
    obtain ⟨waitSet, driver, -, -, rfl⟩ := Switchboard.register_eq_ok hregister
    exact .setDriver ..
  | release =>
    unfold Switchboard.release
    split
    · exact .refl _
    · exact .setDriver ..
  | lower | takeWord => exact .setDriver ..
  | refuse | giveBack | attach | scan | skip | ready | noneReady | listed | expire | block | wake
  | timeUp | drained | detach | unclaim | finish => exact ⟨rfl, fun _ => Iff.rfl, rfl⟩

theorem Notifying.Step.sameStock {locked : Source → Prop} {ctx ctx' : Context}
    {notifying notifying' : Notifying} (h : Notifying.Step locked ctx notifying ctx' notifying') :
    ctx.board.SameStock ctx'.board := by
  cases h with
  | trigger => exact .setGuard ..
  | call =>
    rw [Context.board_callBack]
    exact .refl _
  | markNew | markOld | raise => exact .setDriver ..
  | change | lock | unlock => exact .refl _

/-! ## What an edit leaves alone -/

namespace Context

variable {free : WaitSetId → Prop} {ctx ctx' : Context}

/-- A wait set goes only if it is free, and one that comes has a new number and was not signalled.  A
guard that comes is not triggered. -/
structure Apart (free : WaitSetId → Prop) (ctx ctx' : Context) : Prop where
  claimed : ctx'.board.claimed = ctx.board.claimed
  hooks : ctx'.board.hooks = ctx.board.hooks
  isTriggered : ∀ g, ctx'.board.isTriggered g = ctx.board.isTriggered g
  guards : ctx.board.guards.length ≤ ctx'.board.guards.length
  isReady : ∀ source, ctx'.IsReady source → ctx.IsReady source
  waitSets : ∀ k, ctx'.board.waitSets.find? k = ctx.board.waitSets.find? k ∨
    (ctx.board.nextWaitSet ≤ k ∨ free k ∧ ctx'.board.waitSets.find? k = none) ∧
      ∀ waitSet, ctx'.board.waitSets.find? k = some waitSet →
        ∃ capacity, waitSet.driver = .idle capacity
  nextWaitSet : ctx.board.nextWaitSet ≤ ctx'.board.nextWaitSet

theorem Edit.apart (h : Edit free ctx ctx') : Apart free ctx ctx' := by
  have htriggered := ctx.board.isTriggered_newGuard
  have hguards : ctx.board.guards.length ≤ (ctx.board.guards ++ [false]).length := by simp
  cases h with
  | aside hboard hready =>
    obtain ⟨_, _, _, _, _, board⟩ := ctx'
    obtain rfl : board = ctx.board := hboard
    exact ⟨rfl, rfl, fun _ => rfl, Nat.le_refl _, hready, fun _ => Or.inl rfl, Nat.le_refl _⟩
  | createGuard =>
    exact ⟨rfl, rfl, htriggered, hguards, fun _ h => isReady_congr h rfl htriggered,
      fun k => Or.inl rfl, Nat.le_refl _⟩
  | createWaitSet maxHandles =>
    unfold Context.createWaitSet
    split
    · next id board hnew =>
      obtain ⟨-, rfl⟩ := Switchboard.newWaitSet_eq_ok hnew
      refine ⟨rfl, rfl, htriggered, hguards, fun _ h => isReady_congr h rfl htriggered,
        fun k => ?_, Nat.le_succ _⟩
      dsimp only
      rw [Table.find?_insert]
      split
      · next hk =>
        subst hk
        refine Or.inr ⟨Or.inl (Nat.le_refl _), fun waitSet hfind => ?_⟩
        rw [← Option.some.inj hfind]
        exact ⟨_, rfl⟩
      · exact Or.inl rfl
    · exact ⟨rfl, rfl, fun _ => rfl, Nat.le_refl _, fun _ h => h, fun _ => Or.inl rfl, Nat.le_refl _⟩
  | @dropWaitSet id hfree =>
    refine ⟨rfl, rfl, fun _ => rfl, Nat.le_refl _, fun _ h => isReady_congr h rfl fun _ => rfl,
      fun k => ?_, Nat.le_refl _⟩
    unfold Context.dropWaitSet Switchboard.dropWaitSet
    dsimp only
    rw [Table.find?_erase]
    split
    · next hk =>
      subst hk
      exact Or.inr ⟨Or.inr ⟨hfree, rfl⟩, fun waitSet hfind => by cases hfind⟩
    · exact Or.inl rfl

theorem Edit.turns (h : Edit free ctx ctx') : Turns ctx ctx' := by
  cases h with
  | aside hboard => exact .of_board hboard
  | createGuard => exact Switchboard.Turns.newGuard .refl
  | createWaitSet maxHandles => exact turns_perform ctx (.createWaitSet maxHandles)
  | @dropWaitSet id => exact Switchboard.Turns.dropWaitSet .refl id

theorem Reachable.numbered (h : ctx.Reachable) : ctx.board.Numbered := by
  have hnew : Switchboard.Numbered { Switchboard.empty with guards := [false] } :=
    fun k hk => nomatch hk
  exact hnew.turns h.turns

end Context

namespace Threads

variable {threads : Threads} {ctx : Context}

theorem Reachable.numbered (h : threads.Reachable) : threads.ctx.board.Numbered := by
  induction h with
  | start hctx => exact hctx.numbered
  | step _ hstep ih =>
    cases hstep with
    | call h => exact h.sameStock.numbered ih
    | notify h => exact h.sameStock.numbered ih
    | edit h => exact ih.turns h.turns

/-- A wait set that comes or goes has no wait. -/
theorem Sound.waitSets_of_apart (h : threads.Sound) (hnumbered : threads.ctx.board.Numbered)
    (hapart : threads.ctx.Apart threads.Free ctx) (k : WaitSetId) :
    ctx.board.waitSets.find? k = threads.ctx.board.waitSets.find? k ∨
      threads.calls k = none ∧ ∀ waitSet, ctx.board.waitSets.find? k = some waitSet →
        ∃ capacity, waitSet.driver = .idle capacity := by
  refine (hapart.waitSets k).imp_right (And.imp_left ?_)
  rintro (hnew | ⟨hfree, -⟩)
  · refine Option.eq_none_iff_forall_ne_some.2 fun c hc => ?_
    obtain ⟨waitSet, hfind, -⟩ := (h.call k c hc).owned
    exact Nat.not_lt_of_le hnew (hnumbered k (Table.mem_keys_iff.2 ⟨waitSet, hfind⟩))
  · exact hfree

theorem Sound.find?_of_apart (h : threads.Sound) (hnumbered : threads.ctx.board.Numbered)
    (hapart : threads.ctx.Apart threads.Free ctx) {k : WaitSetId} {c : Call}
    (hc : threads.calls k = some c) :
    ctx.board.waitSets.find? k = threads.ctx.board.waitSets.find? k := by
  refine (h.waitSets_of_apart hnumbered hapart k).resolve_right ?_
  rintro ⟨hnone, -⟩
  cases hc.symm.trans hnone

theorem Sound.edit_step (h : threads.Sound) (hnumbered : threads.ctx.board.Numbered)
    (hapart : threads.ctx.Apart threads.Free ctx) : Sound { threads with ctx } := by
  refine ⟨fun k waitSet hfind => ?_, fun k c hc => ?_, h.disjoint, fun hook hmem => ?_,
    fun n hook hmem => ?_⟩
  · rcases hapart.waitSets k with hsame | ⟨-, hidle⟩
    · exact h.board k waitSet (hsame ▸ hfind)
    · obtain ⟨capacity, hdriver⟩ := hidle waitSet hfind
      rw [hdriver]
      exact .idle capacity
  · refine (h.call k c hc).congr (fun source _ hin => ?_) (fun hook _ hin => ?_)
      fun waitSet hfind => ⟨waitSet, (h.find?_of_apart hnumbered hapart hc).trans hfind, rfl⟩
    · rwa [hapart.claimed]
    · rwa [hapart.hooks]
  · exact h.attached hook (hapart.hooks ▸ hmem)
  · obtain ⟨hin, hholds⟩ := h.notified n hook hmem
    exact ⟨hapart.hooks.symm ▸ hin, hholds⟩

end Threads

end PubSub
