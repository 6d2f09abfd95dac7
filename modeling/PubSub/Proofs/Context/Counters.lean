import PubSub.Proofs.Context.Books
import PubSub.Proofs.Context.Changes
import PubSub.Proofs.Context.Reports
import PubSub.Proofs.Context.Requests

/-!
# How far counters get

The graph counts its changes, an endpoint its messages, a notifier the events that no callback learnt
of, and a status what was entered in its book.  These are numbers without a bound, where a machine has
words that come round.  But no counter is ahead of what it counts: the operations of a history
(`Context.Course.counted`), the events of an outlet (`Reporting.Reachable.unnotified_le`) and the
notices of an endpoint (`Context.KeepsBooks.bounded`).  So the words show the same numbers until there
are `2 ^ 63` operations, `2 ^ 64` events or `2 ^ 31` notices.
-/

namespace PubSub

/-! ## Changes and messages -/

namespace Context

variable {ctx : Context} {history : List Act} {n : Nat}

theorem Course.arises (h : ctx.Course history) : ctx.Arises := by
  induction h with
  | create hcreate => exact .create hcreate
  | perform _ operation _ ih => exact ih.perform operation
  | startWait _ id handles timeout now ih => exact ih.startWait id handles timeout now
  | resumeWait _ session now ih => exact ih.resumeWait session now

/-- The counters of a context are not ahead of a number of operations. -/
structure Counted (ctx : Context) (n : Nat) : Prop where
  version : ctx.graph.version ≤ n
  sent : ∀ gid, ctx.graph.sentBy gid ≤ n

theorem Counted.congr {ctx' : Context} (h : ctx.Counted n) (hgraph : ctx'.graph = ctx.graph) :
    ctx'.Counted n :=
  ⟨hgraph ▸ h.version, hgraph ▸ h.sent⟩

/-- An operation is counted as one change at most. -/
theorem Guarded.version_perform_le (h : ctx.Guarded) (operation : Operation) :
    (operation.perform ctx).2.graph.version ≤ ctx.graph.version + 1 := by
  by_cases htrigger : operation = .trigger graphGuard
  · rw [htrigger]
    exact Nat.le_succ _
  · have htells := (h.accounted_perform operation htrigger).tellsChange
    by_cases hdiffers : ctx.Differs (operation.perform ctx).2
    · exact Nat.le_of_eq (htells.changed hdiffers).1
    · exact Nat.le_succ_of_le (Nat.le_of_eq (htells.unchanged hdiffers).1)

/-- An operation sends one message of an endpoint at most. -/
theorem sentBy_perform_le (operation : Operation) (ctx : Context) (k : Gid) :
    (operation.perform ctx).2.graph.sentBy k ≤ ctx.graph.sentBy k + 1 := by
  cases hcore : (operation.perform ctx).2.graph.locals.find? k with
  | none =>
    rw [Graph.sentBy, hcore]
    exact Nat.zero_le _
  | some core =>
    cases hgives : Act.gives ⟨operation, (operation.perform ctx).1⟩ k with
    | true =>
      obtain ⟨handle, hcreated, hgid⟩ := (Option.any_eq_true _ _).1 hgives
      have hfresh := (operation.does ctx).sentBy_created hcreated
      rw [of_decide_eq_true hgid] at hfresh
      rw [hfresh]
      exact Nat.zero_le _
    | false =>
      rw [(operation.does ctx).sentBy (by rw [hcore]; rfl) hgives]
      split <;> omega

theorem Course.counted (h : ctx.Course history) : ctx.Counted history.length := by
  induction h with
  | create hcreate =>
    have hgraph := graph_create hcreate
    exact ⟨Nat.le_of_eq (congrArg Graph.version hgraph), fun gid =>
      Nat.le_of_eq (congrArg (Graph.sentBy · gid) hgraph)⟩
  | @perform ctx history hcourse operation _ ih =>
    have hversion := hcourse.arises.guarded.version_perform_le operation
    refine ⟨Nat.le_trans hversion (Nat.succ_le_succ ih.version), fun gid => ?_⟩
    exact Nat.le_trans (sentBy_perform_le operation ctx gid) (Nat.succ_le_succ (ih.sent gid))
  | startWait _ id handles timeout now ih =>
    exact ih.congr (graph_startWait ..)
  | resumeWait _ session now ih =>
    exact ih.congr (graph_resumeWait ..)

/-- In a short history the count of changes fits into 64 bits, and the numbers of messages into 64 bits
with a sign. -/
theorem Course.counters_fit (h : ctx.Course history) (hshort : history.length < 2 ^ 63) :
    (UInt64.ofNat ctx.graph.version).toNat = ctx.graph.version ∧
      ∀ gid core, ctx.graph.locals.find? gid = some core →
        (Int64.ofInt core.sent).toInt = core.sent := by
  have hcounted := h.counted
  refine ⟨UInt64.toNat_ofNat_of_lt' ?_, fun gid core hcore => ?_⟩
  · have hversion := hcounted.version
    show ctx.graph.version < 2 ^ 64
    omega
  · have hsent := hcounted.sent gid
    rw [Graph.sentBy, hcore] at hsent
    replace hsent : core.sent ≤ history.length := hsent
    exact Int64.toInt_ofInt_of_le (by omega) (by omega)

end Context

/-! ## Events -/

/-- A notifier has no more left than there were events. -/
theorem Reporting.Reachable.unnotified_le {r : Reporting} (h : r.Reachable) (outlet : Outlet) :
    (r.notifier outlet).unnotified ≤ r.log.events outlet := by
  have hevents := h.sound.accounted.events outlet
  have hbalance := h.sound.accounted.balance outlet
  omega

/-- What is left fits into 64 bits if there are fewer events. -/
theorem Reporting.Reachable.unnotified_fits {r : Reporting} (h : r.Reachable) {outlet : Outlet}
    (hfew : r.log.events outlet < 2 ^ 64) :
    (UInt64.ofNat (r.notifier outlet).unnotified).toNat = (r.notifier outlet).unnotified :=
  UInt64.toNat_ofNat_of_lt' (Nat.lt_of_le_of_lt (h.unnotified_le outlet) hfew)

/-! ## Statuses -/

/-- With fewer notices the counters of a status fit into 32 bits, those of changes with a sign. -/
theorem Context.KeepsBooks.counters_fit {ctx : Context} {handle : Handle} {life : List Moment}
    {core : Core} (h : ctx.KeepsBooks handle life core)
    (hfew : (life.map (·.noticed handle)).sum < 2 ^ 31) (slot : StatusSlot) :
    (UInt32.ofNat (core.status slot).total).toNat = (core.status slot).total ∧
      (Int32.ofInt (core.status slot).totalChange).toInt = (core.status slot).totalChange ∧
      (UInt32.ofNat core.matched.current).toNat = core.matched.current ∧
      (Int32.ofInt core.matched.currentChange).toInt = core.matched.currentChange := by
  obtain ⟨htotal, htotalChange, hcurrent, hcurrentChange⟩ := h.bounded slot
  have hword {n : Nat} (hn : n < 2 ^ 31) : n < UInt32.size := Nat.lt_trans hn (by decide)
  refine ⟨UInt32.toNat_ofNat_of_lt' (hword ?_), Int32.toInt_ofInt_of_le ?_ ?_,
    UInt32.toNat_ofNat_of_lt' (hword ?_), Int32.toInt_ofInt_of_le ?_ ?_⟩ <;> omega

end PubSub
