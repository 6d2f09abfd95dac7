import PubSub.Proofs.Context.Deeds
import PubSub.Proofs.Context.Signal

/-!
# What operations make of a board

Operations do five things to the board of a context: they notify those who wait for a source, they
trigger guards, and they make guards, make wait sets and drop wait sets.  Whatever all of these keep,
every operation keeps (`Context.turns_perform`, `Context.Reachable.turns`).
-/

namespace PubSub

/-- What becomes of a board by such things, one after the other. -/
inductive Switchboard.Turns (board : Switchboard) : Switchboard → Prop
  | refl : Turns board board
  | notify {board' : Switchboard} (h : Turns board board') (source : Source) :
      Turns board (board'.notify source)
  | trigger {board' : Switchboard} (h : Turns board board') (guard : GuardId) :
      Turns board (board'.trigger guard)
  | newGuard {board' : Switchboard} (h : Turns board board') : Turns board board'.newGuard.2
  | newWaitSet {board' board'' : Switchboard} (h : Turns board board') {maxHandles slots : Nat}
      {id : WaitSetId} (hnew : board'.newWaitSet maxHandles slots = .ok (id, board'')) :
      Turns board board''
  | dropWaitSet {board' : Switchboard} (h : Turns board board') (id : WaitSetId) :
      Turns board (board'.dropWaitSet id)

theorem Switchboard.Turns.trans {board board' board'' : Switchboard} (h : board.Turns board')
    (h' : board'.Turns board'') : board.Turns board'' := by
  induction h' with
  | refl => exact h
  | notify _ source ih => exact ih.notify source
  | trigger _ guard ih => exact ih.trigger guard
  | newGuard _ ih => exact ih.newGuard
  | newWaitSet _ hnew ih => exact ih.newWaitSet hnew
  | dropWaitSet _ id ih => exact ih.dropWaitSet id

namespace Context

variable {ctx ctx' ctx'' : Context}

/-- The boards of contexts before and after. -/
def Turns (ctx ctx' : Context) : Prop := ctx.board.Turns ctx'.board

theorem Turns.of_board (h : ctx'.board = ctx.board) : Turns ctx ctx' := by
  unfold Turns
  rw [h]
  exact .refl

theorem Turns.trans (h : Turns ctx ctx') (h' : Turns ctx' ctx'') : Turns ctx ctx'' :=
  Switchboard.Turns.trans h h'

/-! ## Events -/

theorem turns_signal (ctx : Context) (gid : Gid) (channel : Channel) (f : Core → Core) :
    Turns ctx (ctx.signal gid channel f) := by
  unfold Context.signal
  split
  · exact .of_board rfl
  · unfold Turns
    simp only [board_dispatch]
    exact .notify .refl _

theorem turns_announce (ctx : Context) (notices : List Notice) :
    Turns ctx (ctx.announce notices) := by
  have hfires : Turns ctx (notices.foldl fire ctx) := by
    induction notices generalizing ctx with
    | nil => exact .of_board rfl
    | cons notice rest ih =>
      have hfire : Turns ctx (ctx.fire notice) := by cases notice <;> exact turns_signal ..
      exact hfire.trans (ih _)
  exact Switchboard.Turns.trigger hfires graphGuard

theorem turns_change (ctx : Context) (graph : Graph) (notices : List Notice) :
    Turns ctx (ctx.change graph notices) :=
  turns_announce { ctx with graph } notices

theorem turns_deliverAll (ctx : Context) (receivers : List Gid) (message : Message) :
    Turns ctx (ctx.deliverAll receivers message) := by
  unfold Context.deliverAll
  induction receivers generalizing ctx with
  | nil => exact .of_board rfl
  | cons gid rest ih => exact (turns_signal ..).trans (ih _)

/-! ## Operations -/

theorem board_take (ctx : Context) (gid : Gid) : (ctx.take gid).2.board = ctx.board := by
  unfold Context.take
  split <;> rfl

theorem board_setCallback (ctx : Context) (gid : Gid) (channel : Channel)
    (callback : Option CallbackId) : (ctx.setCallback gid channel callback).board = ctx.board := by
  unfold Context.setCallback
  split
  · rfl
  · exact board_dispatch ..

theorem board_takeUpTo (ctx : Context) (gid : Gid) (count : Nat) :
    (ctx.takeUpTo gid count).2.board = ctx.board := by
  induction count generalizing ctx with
  | zero => rfl
  | succ count ih =>
    have htake := ctx.board_take gid
    unfold Context.takeUpTo
    split
    · next ctx' heq => rwa [heq] at htake
    · next message ctx' heq =>
      rw [heq] at htake
      exact (ih ctx').trans htake

/-- Whatever an operation does, its board only turns. -/
theorem turns_of_does {operation : Operation} {reply : Except Error Reply}
    (h : operation.Does ctx reply ctx') : Turns ctx ctx' := by
  cases h with
  | refused | announceKnownNode | withdrawUnknownNode | announceKnownEndpoint
  | withdrawUnknownEndpoint | createKnownNode | destroyUnknownNode | createKnownEndpoint
  | destroyUnknownEndpoint | sendResponseToNone | sendResponseToOther | takeStatus | takeNoStatus
  | createNoWaitSet => exact .of_board rfl
  | announceNode | withdrawNode | announceEndpoint | withdrawEndpoint | destroyNode
  | destroyEndpoint => exact turns_change ..
  | createNode | createEndpoint => exact turns_change ctx.mint.2 ..
  | publish gid | sendRequest gid => exact turns_deliverAll (ctx.nextSequence gid).2 ..
  | take gid | takeRequest gid | takeResponse gid => exact .of_board (board_take ctx gid)
  | takeSequence gid count => exact .of_board (board_takeUpTo ctx gid count)
  | sendResponse => exact turns_signal ..
  | setCallback => exact .of_board (board_setCallback ctx ..)
  | createGuard => exact Switchboard.Turns.newGuard .refl
  | trigger guard => exact Switchboard.Turns.trigger .refl guard
  | createWaitSet hnew => exact Switchboard.Turns.newWaitSet .refl hnew
  | dropWaitSet id => exact Switchboard.Turns.dropWaitSet .refl id

theorem turns_perform (ctx : Context) (operation : Operation) :
    Turns ctx (operation.perform ctx).2 :=
  turns_of_does (operation.does ctx)

theorem turns_run (ctx : Context) (operations : List Operation) :
    Turns ctx (Operation.run ctx operations) := by
  unfold Operation.run
  induction operations generalizing ctx with
  | nil => exact .of_board rfl
  | cons operation rest ih => exact (ctx.turns_perform operation).trans (ih _)

/-- The board of a new context. -/
theorem board_create {host host' : Host} {options : Options}
    (h : Context.create host options = .ok (ctx, host')) :
    ctx.board = { Switchboard.empty with guards := [false] } := by
  unfold Context.create at h
  cases hvalid : options.validate with
  | error error =>
    rw [hvalid] at h
    cases h
  | ok =>
    rw [hvalid] at h
    cases h
    rfl

/-- What has become of the board of a context that operations led to. -/
theorem Reachable.turns (h : ctx.Reachable) :
    Switchboard.Turns { Switchboard.empty with guards := [false] } ctx.board := by
  obtain ⟨host, options, start, next, operations, hcreate, rfl⟩ := h
  rw [← board_create hcreate]
  exact turns_run start operations

end Context

end PubSub
