import Mathlib.Tactic.SplitIfs
import PubSub.Context.Wait
import PubSub.Proofs.Wait.Board
import PubSub.Proofs.Wait.Operations

/-!
# Whose guard is whose

A context has a guard for its graph from the start, and every wait set brings one of its own.  Guards
are never given up and a wait set keeps its guard, so that in every context that arises the guard of
the graph is none of those of the wait sets (`Context.Arises.guarded`): a wait that does not list it
leaves it alone.
-/

namespace PubSub

/-! ## Boards with the same guards -/

/-- There are as many guards as before, and each wait set has the guard that it had. -/
structure Switchboard.SameGuards (board board' : Switchboard) : Prop where
  length : board'.guards.length = board.guards.length
  own : ∀ id waitSet', board'.waitSets.find? id = some waitSet' →
    ∃ waitSet, board.waitSets.find? id = some waitSet ∧ waitSet.guard = waitSet'.guard

namespace Switchboard.SameGuards

variable {board board' board'' : Switchboard}

/-- Only guards and wait sets matter. -/
theorem of_waitSets (hlength : board'.guards.length = board.guards.length)
    (hwaitSets : board'.waitSets = board.waitSets) : board.SameGuards board' where
  length := hlength
  own _ waitSet' hfind := ⟨waitSet', hwaitSets ▸ hfind, rfl⟩

theorem refl (board : Switchboard) : board.SameGuards board := of_waitSets rfl rfl

theorem trans (h : board.SameGuards board') (h' : board'.SameGuards board'') :
    board.SameGuards board'' := by
  refine ⟨h'.length.trans h.length, fun id waitSet'' hfind'' => ?_⟩
  obtain ⟨waitSet', hfind', hguard'⟩ := h'.own id waitSet'' hfind''
  obtain ⟨waitSet, hfind, hguard⟩ := h.own id waitSet' hfind'
  exact ⟨waitSet, hfind, hguard.trans hguard'⟩

theorem setDriver (board : Switchboard) (id : WaitSetId) (driver : Wake.Driver) :
    board.SameGuards (board.setDriver id driver) := by
  refine ⟨rfl, fun k waitSet' hfind' => ?_⟩
  rw [find?_setDriver] at hfind'
  split at hfind'
  · obtain ⟨waitSet, hfind, rfl⟩ := Option.map_eq_some_iff.1 hfind'
    exact ⟨waitSet, hfind, rfl⟩
  · exact ⟨waitSet', hfind', rfl⟩

theorem notify (board : Switchboard) (source : Source) :
    board.SameGuards (board.notify source) := by
  refine ⟨rfl, fun k waitSet' hfind' => ?_⟩
  unfold Switchboard.notify at hfind'
  rw [Table.find?_map] at hfind'
  obtain ⟨waitSet, hfind, rfl⟩ := Option.map_eq_some_iff.1 hfind'
  exact ⟨waitSet, hfind, rfl⟩

theorem trigger (board : Switchboard) (guard : GuardId) :
    board.SameGuards (board.trigger guard) := by
  unfold Switchboard.trigger
  split
  · exact refl board
  · have hset : board.SameGuards { board with guards := board.guards.set guard true } :=
      of_waitSets List.length_set rfl
    exact hset.trans (notify _ _)

theorem consume (board : Switchboard) (guard : GuardId) :
    board.SameGuards (board.consume guard).2 :=
  of_waitSets List.length_set rfl

theorem release (board : Switchboard) (id : WaitSetId) (registration : Wake.Registration) :
    board.SameGuards (board.release id registration) := by
  unfold Switchboard.release
  split
  · exact refl board
  · exact setDriver ..

theorem withdrawAll (board : Switchboard) (hooks : List Hook) :
    board.SameGuards (board.withdrawAll hooks) := by
  unfold Switchboard.withdrawAll
  induction hooks generalizing board with
  | nil => exact refl board
  | cons hook rest ih =>
    have hdetach : board.SameGuards (board.detach hook.source hook.registration.id) :=
      of_waitSets rfl rfl
    have hrelease := hdetach.trans (release _ hook.waitSet hook.registration)
    have hwithdraw : board.SameGuards (board.withdraw hook) :=
      hrelease.trans (of_waitSets rfl rfl)
    exact hwithdraw.trans (ih _)

theorem enroll {id : WaitSetId} {source : Source} {hook : Hook}
    (h : board.enroll id source = .ok (hook, board')) : board.SameGuards board' := by
  unfold Switchboard.enroll at h
  split at h
  · cases h
  · next claimed hclaim =>
    obtain ⟨-, rfl⟩ := claim_eq_some hclaim
    cases hregister : Switchboard.register { board with claimed := source :: board.claimed } id with
    | error error =>
      rw [hregister] at h
      cases h
    | ok result =>
      rw [hregister] at h
      obtain ⟨registration, registered⟩ := result
      obtain ⟨waitSet, driver, -, -, rfl⟩ := register_eq_ok hregister
      cases h
      exact (of_waitSets rfl rfl).trans ((setDriver _ id driver).trans (of_waitSets rfl rfl))

theorem enrollAll (board : Switchboard) (id : WaitSetId) (done : List Hook)
    (todo : List Source) : board.SameGuards (board.enrollAll id done todo).2 := by
  induction todo generalizing board done with
  | nil => exact refl board
  | cons source rest ih =>
    unfold Switchboard.enrollAll
    split
    · next hook board' henroll => exact (enroll henroll).trans (ih board' _)
    · exact withdrawAll ..

/-- A wait set with more slots has the same guard. -/
theorem reserve {id : WaitSetId} {waitSet reserved : WaitSet} {needed : Nat}
    (hfind : board.waitSets.find? id = some waitSet)
    (hreserve : waitSet.reserve needed = .ok reserved) :
    board.SameGuards { board with waitSets := board.waitSets.insert id reserved } := by
  have hguard : waitSet.guard = reserved.guard := by
    rcases WaitSet.reserve_eq_ok hreserve with rfl | ⟨capacity, rfl⟩ <;> rfl
  refine ⟨rfl, fun k waitSet' hfind' => ?_⟩
  rw [Table.find?_insert] at hfind'
  split at hfind'
  · next heq =>
    obtain rfl := Option.some.inj hfind'
    exact ⟨waitSet, heq ▸ hfind, hguard⟩
  · exact ⟨waitSet', hfind', rfl⟩

end Switchboard.SameGuards

/-! ## Contexts with the same guards -/

/-- The boards of the contexts have the same guards. -/
def Context.SameGuards (ctx ctx' : Context) : Prop := ctx.board.SameGuards ctx'.board

namespace Context.SameGuards

variable {ctx ctx' ctx'' : Context}

theorem refl (ctx : Context) : SameGuards ctx ctx := Switchboard.SameGuards.refl ctx.board

theorem trans (h : SameGuards ctx ctx') (h' : SameGuards ctx' ctx'') : SameGuards ctx ctx'' :=
  Switchboard.SameGuards.trans h h'

theorem of_board (h : ctx'.board = ctx.board) : SameGuards ctx ctx' := by
  unfold SameGuards
  rw [h]
  exact .refl ctx.board

/-! ### Waits -/

theorem poll (ctx : Context) (source : Source) : SameGuards ctx (ctx.poll source).2 := by
  cases source with
  | endpoint gid channel => exact refl ctx
  | guard g => exact Switchboard.SameGuards.consume ctx.board g

theorem scan (ctx : Context) (handles : List (Option Source)) :
    SameGuards ctx (ctx.scan handles).2 := by
  induction handles generalizing ctx with
  | nil => exact refl ctx
  | cons handle rest ih =>
    cases handle with
    | none => exact ih ctx
    | some source => exact (poll ctx source).trans (ih _)

theorem passWait (ctx : Context) (session : Session) (now : Nat) :
    SameGuards ctx (ctx.passWait session now).1 := by
  have hscan := scan ctx session.handles
  have hown := hscan.trans (poll _ (.guard session.guard))
  unfold Context.passWait
  dsimp only
  split_ifs
  · exact hscan.trans (Switchboard.SameGuards.withdrawAll ..)
  · exact hscan.trans (Switchboard.SameGuards.withdrawAll ..)
  · exact hscan.trans (Switchboard.SameGuards.withdrawAll ..)
  · exact hscan
  · exact hown.trans (Switchboard.SameGuards.withdrawAll ..)
  · exact hown.trans (Switchboard.SameGuards.withdrawAll ..)
  · exact hown

theorem startWait (ctx : Context) (id : WaitSetId) (handles : List (Option Source))
    (timeout : Option Nat) (now : Nat) :
    SameGuards ctx (ctx.startWait id handles timeout now).1 := by
  unfold Context.startWait
  dsimp only
  split
  · exact refl ctx
  · next waitSet hfind =>
    split
    · exact refl ctx
    · split
      · exact refl ctx
      · next reserved hreserve =>
        have henrolled := (Switchboard.SameGuards.reserve hfind hreserve).trans
          (.enrollAll _ id [] (waitSources reserved.guard handles))
        split
        · next heq =>
          rw [heq] at henrolled
          exact henrolled
        · next enrolled board heq =>
          rw [heq] at henrolled
          have hpass := passWait { ctx with board }
            ⟨id, reserved.guard, handles, enrolled, Wake.deadline? now timeout⟩ now
          exact Switchboard.SameGuards.trans henrolled hpass

theorem resumeWait (ctx : Context) (session : Session) (now : Nat) :
    SameGuards ctx (ctx.resumeWait session now).1 := by
  have hcollect : SameGuards ctx (ctx.collect session) := by
    unfold Context.collect
    split
    · exact refl ctx
    · exact Switchboard.SameGuards.setDriver ..
  unfold Context.resumeWait
  split
  · exact hcollect.trans (passWait ..)
  · exact passWait ..

end Context.SameGuards

/-! ## The guard of the graph -/

/-- The graph has a guard, and it is not the guard of a wait set. -/
structure Context.Guarded (ctx : Context) : Prop where
  exists_guard : graphGuard < ctx.board.guards.length
  own_ne : ∀ id waitSet, ctx.board.waitSets.find? id = some waitSet → waitSet.guard ≠ graphGuard

namespace Context.Guarded

variable {ctx ctx' : Context}

theorem of_same (h : ctx.Guarded) (hsame : ctx.SameGuards ctx') : ctx'.Guarded where
  exists_guard := by
    rw [hsame.length]
    exact h.exists_guard
  own_ne id waitSet' hfind' := by
    obtain ⟨waitSet, hfind, hguard⟩ := hsame.own id waitSet' hfind'
    rw [← hguard]
    exact h.own_ne id waitSet hfind

theorem of_board (h : ctx.Guarded) (hboard : ctx'.board = ctx.board) : ctx'.Guarded :=
  h.of_same (.of_board hboard)

theorem createGuard (h : ctx.Guarded) : ctx.createGuard.2.Guarded where
  exists_guard := by
    show graphGuard < (ctx.board.guards ++ [false]).length
    rw [List.length_append]
    exact Nat.lt_add_right _ h.exists_guard
  own_ne := h.own_ne

/-- The guard of a new wait set is a new one. -/
theorem newWaitSet (h : ctx.Guarded) {maxHandles slots : Nat} {id : WaitSetId}
    {board : Switchboard} (hnew : ctx.board.newWaitSet maxHandles slots = .ok (id, board)) :
    Guarded { ctx with board } := by
  obtain ⟨-, rfl⟩ := Switchboard.newWaitSet_eq_ok hnew
  refine ⟨h.createGuard.exists_guard, fun k waitSet hfind => ?_⟩
  rw [Table.find?_insert] at hfind
  split at hfind
  · obtain rfl := Option.some.inj hfind
    exact Nat.ne_of_gt h.exists_guard
  · exact h.own_ne k waitSet hfind

theorem dropWaitSet (h : ctx.Guarded) (id : WaitSetId) : (ctx.dropWaitSet id).Guarded where
  exists_guard := h.exists_guard
  own_ne k waitSet hfind := by
    unfold Context.dropWaitSet Switchboard.dropWaitSet at hfind
    rw [Table.find?_erase] at hfind
    split at hfind
    · cases hfind
    · exact h.own_ne k waitSet hfind

theorem turns (h : ctx.Guarded) (hturns : ctx.Turns ctx') : ctx'.Guarded := by
  have hboard : ∀ board, ctx.board.Turns board → Guarded { ctx with board } := by
    intro board hturns
    induction hturns with
    | refl => exact h
    | notify _ source ih => exact ih.of_same (Switchboard.SameGuards.notify ..)
    | trigger _ guard ih => exact ih.of_same (Switchboard.SameGuards.trigger ..)
    | newGuard _ ih => exact ih.createGuard
    | newWaitSet _ hnew ih => exact ih.newWaitSet hnew
    | dropWaitSet _ id ih => exact ih.dropWaitSet id
  exact (hboard ctx'.board hturns).of_board rfl

/-- Every operation leaves the graph its guard. -/
theorem perform (h : ctx.Guarded) (operation : Operation) : (operation.perform ctx).2.Guarded :=
  h.turns (turns_perform ctx operation)

end Context.Guarded

/-- The clearing of the graph is a change of it. -/
theorem Context.Guarded.shutdown {ctx : Context} (h : ctx.Guarded) : ctx.shutdown.2.Guarded := by
  have hstopped : Guarded { ctx with dispatcher := ctx.dispatcher.stop } := h.of_board rfl
  unfold Context.shutdown
  dsimp only
  split
  · exact hstopped
  · exact hstopped.turns (turns_change ..)

theorem Context.guarded_create {host host' : Host} {options : Options} {ctx : Context}
    (h : Context.create host options = .ok (ctx, host')) : ctx.Guarded := by
  unfold Context.create at h
  cases hvalid : options.validate with
  | error error =>
    rw [hvalid] at h
    cases h
  | ok =>
    rw [hvalid] at h
    cases h
    exact ⟨Nat.one_pos, fun id waitSet hfind => nomatch hfind⟩

/-- The contexts that operations and waits lead to, in any order and also after the context was
ended. -/
inductive Context.Arises : Context → Prop
  | create {host host' : Host} {options : Options} {ctx : Context}
      (h : Context.create host options = .ok (ctx, host')) : Arises ctx
  | perform {ctx : Context} (h : Arises ctx) (operation : Operation) :
      Arises (operation.perform ctx).2
  | startWait {ctx : Context} (h : Arises ctx) (id : WaitSetId) (handles : List (Option Source))
      (timeout : Option Nat) (now : Nat) : Arises (ctx.startWait id handles timeout now).1
  | resumeWait {ctx : Context} (h : Arises ctx) (session : Session) (now : Nat) :
      Arises (ctx.resumeWait session now).1
  | shutdown {ctx : Context} (h : Arises ctx) : Arises ctx.shutdown.2

theorem Context.Arises.guarded {ctx : Context} (h : ctx.Arises) : ctx.Guarded := by
  induction h with
  | create hcreate => exact guarded_create hcreate
  | perform _ operation ih => exact ih.perform operation
  | startWait _ id handles timeout now ih => exact ih.of_same (.startWait ..)
  | resumeWait _ session now ih => exact ih.of_same (.resumeWait ..)
  | shutdown _ ih => exact ih.shutdown

end PubSub
