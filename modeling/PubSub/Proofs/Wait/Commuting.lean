import PubSub.Proofs.Wait.Board

/-!
# Signals commute

Several sources may become ready one after the other, in an order that nobody chose.  Marking slots
pending, signalling them and notifying of sources leave the same board behind in any order
(`Switchboard.notify_perm`): a slot stays pending once it is, and the event stays raised.
-/

namespace PubSub

namespace Wake

theorem Bits.mark_mark_comm (bits : Bits) (i j : Nat) :
    ((bits.mark i).2.mark j).2 = ((bits.mark j).2.mark i).2 := by
  by_cases hi : bits.size ≤ i
  · have hout (bits' : Bits) (hsize : bits'.size = bits.size) : (bits'.mark i).2 = bits' := by
      rw [mark, if_pos (hsize ▸ hi)]
    rw [hout bits rfl, hout _ (size_mark ..)]
  · by_cases hj : bits.size ≤ j
    · have hout (bits' : Bits) (hsize : bits'.size = bits.size) : (bits'.mark j).2 = bits' := by
        rw [mark, if_pos (hsize ▸ hj)]
      rw [hout bits rfl, hout _ (size_mark ..)]
    · have hmark (bits' : Bits) (hsize : bits'.size = bits.size) {k : Nat} (hk : ¬ bits.size ≤ k) :
          (bits'.mark k).2 = bits'.modifyWord k (· ||| bit k) := by
        rw [mark, if_neg (hsize ▸ hk)]
      rw [hmark bits rfl hi, hmark bits rfl hj, hmark (bits.modifyWord i _) rfl hj,
        hmark (bits.modifyWord j _) rfl hi]
      unfold modifyWord
      simp only [mk.injEq, true_and]
      by_cases hword : i / wordSize = j / wordSize
      · rw [hword, List.modify_modify_eq, List.modify_modify_eq]
        congr 1
        funext word
        simp only [Function.comp_apply]
        rw [UInt64.or_assoc, UInt64.or_comm (bit i), ← UInt64.or_assoc]
      · exact List.modify_modify_ne _ _ _ hword

namespace Driver

/-- The slots that are pending after a signal, and whether the event is raised. -/
theorem signal_eq_raised (driver : Driver) (slot : Nat) :
    driver.signal slot =
      { driver with
        pending := (driver.pending.mark slot).2
        raised := driver.raised || !(driver.pending.mark slot).1 } := by
  unfold signal
  rcases driver.pending.mark slot with ⟨old, pending⟩
  cases old <;> simp

theorem signal_signal_comm (driver : Driver) (i j : Nat) :
    (driver.signal i).signal j = (driver.signal j).signal i := by
  have hraised : (!(driver.pending.mark i).1 || !((driver.pending.mark i).2.mark j).1) =
      (!(driver.pending.mark j).1 || !((driver.pending.mark j).2.mark i).1) := by
    rw [Bool.eq_iff_iff]
    simp only [Bool.or_eq_true, Bool.not_eq_true', Bool.eq_false_iff, ne_eq, Bits.fst_mark,
      Bits.size_mark, Bits.contains_mark]
    grind
  simp only [signal_eq_raised, Bool.or_assoc, hraised, driver.pending.mark_mark_comm i j]

end Driver

end Wake

namespace Switchboard

theorem signalHook_comm (board : Switchboard) (a b : Hook) :
    (board.signalHook a).signalHook b = (board.signalHook b).signalHook a := by
  unfold signalHook Table.modify
  simp only [Table.map_map]
  congr 2
  funext id waitSet
  by_cases ha : id = a.waitSet
  · by_cases hb : id = b.waitSet
    · simp only [if_pos ha, if_pos hb]
      rw [Wake.Driver.signal_signal_comm]
    · simp only [if_pos ha, if_neg hb]
  · simp only [if_neg ha]

/-- To notify of two sources is to signal the hooks of the first and then those of the second. -/
theorem notify_notify_eq (board : Switchboard) (a b : Source) :
    (board.notify a).notify b =
      (board.hooks.filter (·.source = a) ++ board.hooks.filter (·.source = b)).foldl signalHook
        board := by
  rw [notify_eq_foldl _ b, show (board.notify a).hooks = board.hooks from rfl,
    notify_eq_foldl board a, List.foldl_append]

theorem notify_notify_comm (board : Switchboard) (a b : Source) :
    (board.notify a).notify b = (board.notify b).notify a := by
  rw [notify_notify_eq, notify_notify_eq]
  exact List.perm_append_comm.foldl_eq' (fun x _ y _ z => signalHook_comm z x y) board

/-- Nobody who waits can tell in which order sources became ready. -/
theorem notify_perm {sources sources' : List Source} (h : sources.Perm sources')
    (board : Switchboard) : sources.foldl notify board = sources'.foldl notify board :=
  h.foldl_eq' (fun a _ b _ board => notify_notify_comm board a b) board

end Switchboard

end PubSub
