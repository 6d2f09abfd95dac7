import PubSub.Proofs.Wait.Board
import PubSub.Proofs.Wait.Operations

/-!
# Contexts without waits

As long as nobody waits, nothing is claimed, no hook is attached and every driver is as good as new.
Operations keep it that way (`Context.Reachable.quiet`), whatever they notify.
-/

namespace PubSub

/-- Nobody waits, and no driver has been signalled. -/
structure Switchboard.Quiet (board : Switchboard) : Prop where
  claimed : board.claimed = []
  hooks : board.hooks = []
  idle : ∀ id waitSet, board.waitSets.find? id = some waitSet →
    ∃ capacity, waitSet.driver = .idle capacity

namespace Switchboard.Quiet

variable {board : Switchboard}

theorem notify (h : board.Quiet) (source : Source) : (board.notify source).Quiet := by
  refine ⟨h.claimed, h.hooks, fun id waitSet hfind => ?_⟩
  unfold Switchboard.notify at hfind
  rw [Table.find?_map, h.hooks] at hfind
  obtain ⟨waitSet', hfind', rfl⟩ := Option.map_eq_some_iff.1 hfind
  exact h.idle id waitSet' hfind'

theorem trigger (h : board.Quiet) (guard : GuardId) : (board.trigger guard).Quiet := by
  unfold Switchboard.trigger
  split
  · exact h
  · have hset : Quiet { board with guards := board.guards.set guard true } :=
      ⟨h.claimed, h.hooks, h.idle⟩
    exact hset.notify (.guard guard)

theorem newWaitSet (h : board.Quiet) {maxHandles slots : Nat} {id : WaitSetId}
    {board' : Switchboard} (hnew : board.newWaitSet maxHandles slots = .ok (id, board')) :
    board'.Quiet := by
  obtain ⟨-, rfl⟩ := newWaitSet_eq_ok hnew
  refine ⟨h.claimed, h.hooks, fun k waitSet hfind => ?_⟩
  rw [Table.find?_insert] at hfind
  split at hfind
  · obtain rfl := Option.some.inj hfind
    exact ⟨_, rfl⟩
  · exact h.idle k waitSet hfind

theorem dropWaitSet (h : board.Quiet) (id : WaitSetId) : (board.dropWaitSet id).Quiet := by
  refine ⟨h.claimed, h.hooks, fun k waitSet hfind => ?_⟩
  unfold Switchboard.dropWaitSet at hfind
  rw [Table.find?_erase] at hfind
  split at hfind
  · cases hfind
  · exact h.idle k waitSet hfind

theorem turns {board' : Switchboard} (h : board.Quiet) (hturns : board.Turns board') :
    board'.Quiet := by
  induction hturns with
  | refl => exact h
  | notify _ source ih => exact ih.notify source
  | trigger _ guard ih => exact ih.trigger guard
  | newGuard _ ih => exact ⟨ih.claimed, ih.hooks, ih.idle⟩
  | newWaitSet _ hnew ih => exact ih.newWaitSet hnew
  | dropWaitSet _ id ih => exact ih.dropWaitSet id

end Switchboard.Quiet

namespace Context

/-- The board of the context is quiet. -/
def Quiet (ctx : Context) : Prop := ctx.board.Quiet

/-- A context that operations led to is quiet. -/
theorem Reachable.quiet {ctx : Context} (h : ctx.Reachable) : ctx.Quiet := by
  have hnew : Switchboard.Quiet { Switchboard.empty with guards := [false] } :=
    ⟨rfl, rfl, fun id waitSet hfind => by cases hfind⟩
  exact hnew.turns h.turns

end Context

end PubSub
