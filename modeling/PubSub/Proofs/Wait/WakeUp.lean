import Mathlib.Data.List.Nodup
import PubSub.Proofs.Wait.Edits

/-!
# No lost wake-up

Three things can keep a notifier from raising the event of a wait: a guard that is triggered already,
a slot that is pending already, and an event that is raised already.  That none of them loses a
wake-up rests on two invariants.  By `Threads.Signalled` a pending slot has raised the event, is about
to, or is about to be collected.  By `Threads.Watched` a source that a wait has found not ready, and
that is ready by now, has a pending slot or a notifier on its way to the slot.  A wait that blocks has
found all of its sources not ready (`Threads.Reachable.signalled_or_unfinished`).
-/

namespace PubSub

/-! ## Pending slots -/

/-- The thread is about to raise the event for a slot that it marked. -/
def Notifying.Raises : Notifying → WaitSetId → Nat → Prop
  | raising hook _, id, slot => hook.waitSet = id ∧ hook.registration.slot = slot
  | _, _, _ => False

/-- The wait has lowered the event and not yet taken the word of the slot. -/
def Call.Drains (call : Option Call) (slot : Nat) : Prop :=
  ∃ session k, call = some ⟨session, .draining k⟩ ∧ k ≤ slot / 64

/-- A slot that is pending after a step of the wait was pending before, or is about to be collected.
The event was not lowered in between. -/
theorem Call.Step.signalled {locked : Source → Prop} {id : WaitSetId} {ctx ctx' : Context}
    {call call' : Option Call} (h : Call.Step locked id ctx call ctx' call')
    (hsound : ∀ c, call = some c → c.Sound id ctx.board) (hboard : ctx.board.Sound)
    {waitSet' : WaitSet} (hfind' : ctx'.board.waitSets.find? id = some waitSet') {slot : Nat}
    (hslot : waitSet'.driver.pending.contains slot = true) :
    Drains call' slot ∨ ∃ waitSet, ctx.board.waitSets.find? id = some waitSet ∧
      waitSet.driver.pending.contains slot = true ∧
      (waitSet.driver.raised = true → waitSet'.driver.raised = true) ∧
      (Drains call slot → Drains call' slot) := by
  have hset : ∀ {driver : Wake.Driver} {waitSet : WaitSet},
      (ctx.board.setDriver id driver).waitSets.find? id = some waitSet' →
      ctx.board.waitSets.find? id = some waitSet → waitSet'.driver = driver := by
    intro driver waitSet hnew hold
    rw [Switchboard.find?_setDriver_self hold] at hnew
    rw [← Option.some.inj hnew]
  -- A wait that is not collecting leaves its pending slots to the event.
  have hnone : (∀ session k, call ≠ some ⟨session, .draining k⟩) →
      Drains call slot → Drains call' slot := by
    rintro hno ⟨session, k, hcall, -⟩
    exact absurd hcall (hno session k)
  have hkept : ctx.board.waitSets.find? id = some waitSet' →
      (∀ session k, call ≠ some ⟨session, .draining k⟩) →
      Drains call' slot ∨ ∃ waitSet, ctx.board.waitSets.find? id = some waitSet ∧
        waitSet.driver.pending.contains slot = true ∧
        (waitSet.driver.raised = true → waitSet'.driver.raised = true) ∧
        (Drains call slot → Drains call' slot) :=
    fun hfind hno => Or.inr ⟨waitSet', hfind, hslot, fun h => h, hnone hno⟩
  cases h with
  | @start waitSet reserved handles deadline hfind hfew hreserve =>
    rw [Table.find?_insert, if_pos rfl] at hfind'
    obtain rfl := Option.some.inj hfind'
    rcases WaitSet.reserve_eq_ok hreserve with rfl | ⟨capacity, rfl⟩
    · exact hkept hfind fun _ _ h => by cases h
    · exact absurd (hslot.symm.trans (Wake.Bits.contains_empty ..)) (by decide)
  | claim hclaim =>
    obtain ⟨-, rfl⟩ := Switchboard.claim_eq_some hclaim
    exact hkept hfind' fun _ _ h => by cases h
  | register hregister =>
    obtain ⟨waitSet, driver, hfind, hreg, rfl⟩ := Switchboard.register_eq_ok hregister
    obtain ⟨-, hpending, hraised, -⟩ := (hboard id waitSet hfind).register hreg
    obtain rfl := hset hfind' hfind
    rw [hpending] at hslot
    exact Or.inr ⟨waitSet, hfind, hslot, fun h => hraised.trans h, hnone fun _ _ h => by cases h⟩
  | @release session outcome hook =>
    obtain ⟨waitSet, hfind, -⟩ := (hsound _ rfl).owned
    have hid : hook.waitSet = id := (hsound _ rfl).hooks_waitSet hook List.mem_cons_self
    dsimp only at hfind'
    rw [hid, Switchboard.release_eq hfind] at hfind'
    obtain ⟨-, hraised, hpending, -⟩ := (hboard id waitSet hfind).release hook.registration
    have hdriver := hset hfind' hfind
    rw [hdriver] at hslot ⊢
    exact Or.inr ⟨waitSet, hfind, hpending slot hslot, fun h => hraised.trans h,
      hnone fun _ _ h => by cases h⟩
  | @lower session waitSet hfind => exact Or.inl ⟨session, 0, rfl, Nat.zero_le _⟩
  | @takeWord session waitSet k hfind hword =>
    have hdriver := hset hfind' hfind
    rw [hdriver] at hslot ⊢
    obtain ⟨hold, hne⟩ := (Wake.Bits.contains_takeWord ..).1 hslot
    refine Or.inr ⟨waitSet, hfind, hold, fun h => h, ?_⟩
    rintro ⟨session', k', hcall, hle⟩
    cases hcall
    exact ⟨session, k + 1, rfl, by omega⟩
  | @drained session waitSet k hfind hword =>
    refine Or.inr ⟨waitSet', hfind', hslot, fun h => h, ?_⟩
    rintro ⟨session', k', hcall, hle⟩
    cases hcall
    obtain rfl := Option.some.inj (hfind.symm.trans hfind')
    have hlt := Wake.Bits.div_lt_length (Wake.Bits.contains_iff.1 hslot).1
    omega
  | @poll session found source rest =>
    cases source <;> exact hkept hfind' fun _ _ h => by cases h
  | refuse | giveBack | attach | scan | skip | ready | noneReady | listed | cancelled | goOn | expire
  | block | wake | timeUp | detach | unclaim | finish =>
    exact hkept hfind' fun _ _ h => by cases h

/-- A slot that is pending after a step of a notifier was pending before, or the event is about to be
raised for it. -/
theorem Notifying.Step.signalled {locked : Source → Prop} {ctx ctx' : Context}
    {notifying notifying' : Notifying} (h : Notifying.Step locked ctx notifying ctx' notifying')
    {id : WaitSetId} {waitSet' : WaitSet} (hfind' : ctx'.board.waitSets.find? id = some waitSet')
    {slot : Nat} (hslot : waitSet'.driver.pending.contains slot = true) :
    notifying'.Raises id slot ∨ ∃ waitSet, ctx.board.waitSets.find? id = some waitSet ∧
      waitSet.driver.pending.contains slot = true ∧
      (waitSet.driver.raised = true ∨ notifying.Raises id slot → waitSet'.driver.raised = true) := by
  have hset : ∀ {k : WaitSetId} {driver : Wake.Driver} {waitSet : WaitSet},
      ctx.board.waitSets.find? k = some waitSet →
      (ctx.board.setDriver k driver).waitSets.find? id = some waitSet' →
      (id = k ∧ waitSet'.driver = driver) ∨
        id ≠ k ∧ ctx.board.waitSets.find? id = some waitSet' := by
    intro k driver waitSet hold hnew
    rw [Switchboard.find?_setDriver] at hnew
    by_cases hk : id = k
    · subst hk
      rw [if_pos rfl, hold] at hnew
      exact Or.inl ⟨rfl, by rw [← Option.some.inj hnew]⟩
    · rw [if_neg hk] at hnew
      exact Or.inr ⟨hk, hnew⟩
  have hkept : ctx.board.waitSets.find? id = some waitSet' → ¬ notifying.Raises id slot →
      notifying'.Raises id slot ∨ ∃ waitSet, ctx.board.waitSets.find? id = some waitSet ∧
        waitSet.driver.pending.contains slot = true ∧
        (waitSet.driver.raised = true ∨ notifying.Raises id slot → waitSet'.driver.raised = true) :=
    fun hfind hno => Or.inr ⟨waitSet', hfind, hslot, fun h => h.resolve_right hno⟩
  cases h with
  | @markNew source hook todo waitSet hfind hnew =>
    rcases hset hfind hfind' with ⟨rfl, hdriver⟩ | ⟨-, hfind'⟩
    · rw [hdriver] at hslot ⊢
      rcases (Wake.Bits.contains_mark ..).1 hslot with hold | ⟨rfl, -⟩
      · exact Or.inr ⟨waitSet, hfind, hold, fun h => h.resolve_right fun h => h⟩
      · exact Or.inl ⟨rfl, rfl⟩
    · exact hkept hfind' fun h => h
  | @markOld source hook todo waitSet hfind hold =>
    rcases hset hfind hfind' with ⟨rfl, hdriver⟩ | ⟨-, hfind'⟩
    · rw [hdriver] at hslot ⊢
      have hbefore : waitSet.driver.pending.contains slot = true := by
        rcases (Wake.Bits.contains_mark ..).1 hslot with hbefore | ⟨rfl, hlt⟩
        · exact hbefore
        · exact ((Wake.Bits.fst_mark ..).1 hold).resolve_left (Nat.not_le.2 hlt)
      exact Or.inr ⟨waitSet, hfind, hbefore, fun h => h.resolve_right fun h => h⟩
    · exact hkept hfind' fun h => h
  | @raise hook todo waitSet hfind =>
    rcases hset hfind hfind' with ⟨rfl, hdriver⟩ | ⟨hne, hfind'⟩
    · rw [hdriver] at hslot ⊢
      exact Or.inr ⟨waitSet, hfind, hslot, fun _ => rfl⟩
    · exact hkept hfind' fun h => hne h.1.symm
  | call =>
    rw [Context.board_callBack] at hfind'
    exact hkept hfind' fun h => h
  | trigger | change | lock | unlock => exact hkept hfind' fun h => h

namespace Threads

/-- A pending slot has raised the event of its wait set, is about to, or is about to be collected. -/
def Signalled (threads : Threads) : Prop :=
  ∀ id waitSet slot, threads.ctx.board.waitSets.find? id = some waitSet →
    waitSet.driver.pending.contains slot = true →
      waitSet.driver.raised = true ∨ (∃ n, (threads.notifiers n).Raises id slot) ∨
        Call.Drains (threads.calls id) slot

namespace Signalled

variable {threads : Threads}

theorem call_step (h : threads.Signalled) (hsound : threads.Sound) {id : WaitSetId} {ctx : Context}
    {call : Option Call}
    (hstep : Call.Step threads.Locked id threads.ctx (threads.calls id) ctx call) :
    Signalled { threads with ctx, calls := Function.update threads.calls id call } := by
  intro k waitSet' slot hfind' hslot
  dsimp only at hfind' ⊢
  by_cases hk : k = id
  · subst hk
    rw [Function.update_self]
    rcases hstep.signalled (hsound.call k) hsound.board hfind' hslot with
      hdrains | ⟨waitSet, hfind, hold, hraised, hdrains⟩
    · exact Or.inr (Or.inr hdrains)
    · rcases h k waitSet slot hfind hold with hup | hraises | hdrain
      · exact Or.inl (hraised hup)
      · exact Or.inr (Or.inl hraises)
      · exact Or.inr (Or.inr (hdrains hdrain))
  · rw [Function.update_of_ne hk]
    rw [(hstep.footprint (hsound.call id)).waitSets k hk] at hfind'
    exact h k waitSet' slot hfind' hslot

theorem notify_step (h : threads.Signalled) {n : Nat} {ctx : Context} {notifying : Notifying}
    (hstep : Notifying.Step threads.Locked threads.ctx (threads.notifiers n) ctx notifying) :
    Signalled { threads with ctx, notifiers := Function.update threads.notifiers n notifying } := by
  intro k waitSet' slot hfind' hslot
  dsimp only at hfind' ⊢
  rcases hstep.signalled hfind' hslot with hraises | ⟨waitSet, hfind, hold, hraised⟩
  · exact Or.inr (Or.inl ⟨n, by rwa [Function.update_self]⟩)
  · rcases h k waitSet slot hfind hold with hup | ⟨m, hraises⟩ | hdrains
    · exact Or.inl (hraised (Or.inl hup))
    · by_cases hm : m = n
      · subst hm
        exact Or.inl (hraised (Or.inr hraises))
      · exact Or.inr (Or.inl ⟨m, by rwa [Function.update_of_ne hm]⟩)
    · exact Or.inr (Or.inr hdrains)

theorem edit_step (h : threads.Signalled) {ctx : Context}
    (hapart : threads.ctx.Apart threads.Free ctx) : Signalled { threads with ctx } := by
  intro id waitSet slot hfind hslot
  rcases hapart.waitSets id with hsame | ⟨-, hidle⟩
  · exact h id waitSet slot (hsame.symm.trans hfind) hslot
  · obtain ⟨capacity, hdriver⟩ := hidle waitSet hfind
    rw [hdriver] at hslot
    exact absurd (hslot.symm.trans (Wake.Bits.contains_empty ..)) (by decide)

end Signalled

end Threads

/-! ## Sources that were found not ready -/

/-- The pass that the wait is at has found the source not ready. -/
def Call.Settled (call : Call) (source : Source) : Prop :=
  match call.stage with
  | .scanning found rest =>
    true ∉ found ∧ some source ∈ call.session.handles ∧ some source ∉ rest
  | .checking _ => some source ∈ call.session.handles
  | .deciding _ | .blocked =>
    source ∈ waitSources call.session.guard call.session.handles
  | _ => False

/-- The thread changed the source of the hook and has not come to its slot. -/
def Notifying.Owes : Notifying → Hook → Prop
  | calling gid channel, hook => .endpoint gid channel = hook.source
  | pending source, hook => source = hook.source
  | marking _ todo, hook | raising _ todo, hook => hook ∈ todo
  | idle, _ => False

theorem mem_waitSources_cases {guard : GuardId} {handles : List (Option Source)} {source : Source}
    (h : source ∈ waitSources guard handles) :
    some source ∈ handles ∨ source = .guard guard ∧ ¬ handles.contains (some (.guard guard)) := by
  have hlisted : ∀ s, s ∈ handles.filterMap id ↔ some s ∈ handles := by
    intro s
    simp [List.mem_filterMap]
  unfold waitSources at h
  dsimp only at h
  split at h
  · exact Or.inl ((hlisted source).1 h)
  · next hnot =>
    rcases List.mem_cons.1 h with rfl | h
    · refine Or.inr ⟨rfl, ?_⟩
      simpa [hlisted] using hnot
    · exact Or.inl ((hlisted source).1 h)

/-- A source that is settled and ready after a step of its wait was so before. -/
theorem Call.Step.settled {locked : Source → Prop} {id : WaitSetId} {ctx ctx' : Context}
    {call : Option Call} {call' : Call} (h : Call.Step locked id ctx call ctx' (some call'))
    {source : Source} (hsettled : call'.Settled source) (hready : ctx'.IsReady source) :
    ∃ c, call = some c ∧ c.session = call'.session ∧ c.Settled source ∧ ctx.IsReady source ∧
      ctx'.board.waitSets = ctx.board.waitSets := by
  have hpoll : ∀ s, (ctx.poll s).2.board.waitSets = ctx.board.waitSets := by
    intro s
    cases s <;> rfl
  cases h with
  | scan | timeUp | drained => exact absurd hsettled.2.1 hsettled.2.2
  | skip =>
    obtain ⟨hnone, hlisted, hrest⟩ := hsettled
    refine ⟨_, rfl, rfl, ⟨fun hmem => hnone (List.mem_append_left _ hmem), hlisted, ?_⟩, hready, rfl⟩
    rintro (_ | ⟨_, hmem⟩)
    exact hrest hmem
  | @poll session found polled rest =>
    obtain ⟨hnone, hlisted, hrest⟩ := hsettled
    have hfalse : (ctx.poll polled).1 = false := by
      cases hb : (ctx.poll polled).1
      · rfl
      · exact absurd (List.mem_append_right _ (by rw [hb]; exact List.mem_cons_self)) hnone
    have hne : source ≠ polled := by
      rintro rfl
      exact Context.not_isReady_poll hfalse hready
    refine ⟨_, rfl, rfl, ⟨fun hmem => hnone (List.mem_append_left _ hmem), hlisted, ?_⟩,
      Context.isReady_of_poll hready, hpoll polled⟩
    rintro (_ | ⟨_, hmem⟩)
    · exact hne rfl
    · exact hrest hmem
  | noneReady hcount =>
    refine ⟨_, rfl, rfl, ⟨List.count_eq_zero.1 hcount, hsettled, List.not_mem_nil⟩, hready, rfl⟩
  | listed hlists =>
    refine ⟨_, rfl, rfl, ?_, hready, rfl⟩
    rcases mem_waitSources_cases hsettled with hlisted | ⟨-, hnot⟩
    · exact hlisted
    · exact absurd hlists hnot
  | @goOn session found hlists hfalse =>
    have hne : source ≠ .guard session.guard := by
      rintro rfl
      exact Context.not_isReady_poll hfalse hready
    refine ⟨_, rfl, rfl, ?_, Context.isReady_of_poll hready, hpoll _⟩
    exact (mem_waitSources_cases hsettled).resolve_right fun h => hne h.1
  | block => exact ⟨_, rfl, rfl, hsettled, hready, rfl⟩
  | start | claim | refuse | register | giveBack | attach | ready | cancelled | expire | wake | lower
  | takeWord | detach | release | unclaim => cases hsettled

/-- A notifier owes a signal to all hooks of a source that it makes ready. -/
theorem Notifying.Step.isReady {locked : Source → Prop} {ctx ctx' : Context}
    {notifying notifying' : Notifying} (h : Notifying.Step locked ctx notifying ctx' notifying')
    {hook : Hook} (hready : ctx'.IsReady hook.source) :
    ctx.IsReady hook.source ∨ notifying'.Owes hook := by
  cases h with
  | trigger => exact (Context.isReady_trigger hready).imp_right fun h => h.symm
  | @change gid incident =>
    rcases Context.isReady_modifyCore hready with hold | ⟨core, channel, hcore, hsource, hnew⟩
    · exact Or.inl hold
    · by_cases hchannel : channel = incident.channel
      · exact Or.inr (hchannel ▸ hsource.symm)
      · rw [Core.isReady_apply core hchannel] at hnew
        left
        unfold Context.IsReady
        rw [hsource]
        show (ctx.graph.locals.find? gid).any (·.isReady channel) = true
        rw [hcore]
        exact hnew
  | call => exact Or.inl (Context.isReady_callBack hready)
  | lock | unlock => exact Or.inl hready
  | markNew | markOld | raise => exact Or.inl (Context.isReady_congr hready rfl fun _ => rfl)

/-- What a notifier owes it still owes after a step, unless it marked the slot. -/
theorem Notifying.Step.owes {locked : Source → Prop} {ctx ctx' : Context}
    {notifying notifying' : Notifying} (h : Notifying.Step locked ctx notifying ctx' notifying')
    {hook : Hook} (hattached : hook ∈ ctx.board.hooks) {waitSet waitSet' : WaitSet}
    (hfind : ctx.board.waitSets.find? hook.waitSet = some waitSet)
    (hfind' : ctx'.board.waitSets.find? hook.waitSet = some waitSet')
    (hsound : waitSet.driver.Sound) (howns : waitSet.driver.slots.owns hook.registration = true)
    (howes : notifying.Owes hook) :
    notifying'.Owes hook ∨ waitSet'.driver.pending.contains hook.registration.slot = true := by
  -- Marking the slot of the hook is what was owed.
  have hmarked : (ctx.board.setDriver hook.waitSet
        (waitSet.driver.mark hook.registration.slot).2).waitSets.find? hook.waitSet =
          some waitSet' →
      waitSet'.driver.pending.contains hook.registration.slot = true := by
    intro hset
    rw [Switchboard.find?_setDriver_self hfind] at hset
    rw [← Option.some.inj hset]
    exact hsound.contains_mark howns
  cases h with
  | trigger | change | unlock => cases howes
  | call => exact Or.inl howes
  | lock => exact Or.inl (List.mem_filter.2 ⟨hattached, decide_eq_true (Eq.symm howes)⟩)
  | @markNew source first todo waitSet₁ hfirst hnew =>
    rcases List.mem_cons.1 howes with rfl | hmem
    · obtain rfl := Option.some.inj (hfind.symm.trans hfirst)
      exact Or.inr (hmarked hfind')
    · exact Or.inl hmem
  | @markOld source first todo waitSet₁ hfirst hold =>
    rcases List.mem_cons.1 howes with rfl | hmem
    · obtain rfl := Option.some.inj (hfind.symm.trans hfirst)
      exact Or.inr (hmarked hfind')
    · exact Or.inl hmem
  | raise => exact Or.inl howes

namespace Threads

/-- A source that a wait has found not ready and that is ready has a pending slot, or a notifier that
owes it a signal. -/
def Watched (threads : Threads) : Prop :=
  ∀ id c waitSet, threads.calls id = some c →
    threads.ctx.board.waitSets.find? id = some waitSet → ∀ hook ∈ c.session.enrolled,
      c.Settled hook.source → threads.ctx.IsReady hook.source →
        waitSet.driver.pending.contains hook.registration.slot = true ∨
          ∃ n, (threads.notifiers n).Owes hook

namespace Watched

variable {threads : Threads}

theorem call_step (h : threads.Watched) (hsound : threads.Sound) {id : WaitSetId} {ctx : Context}
    {call : Option Call}
    (hstep : Call.Step threads.Locked id threads.ctx (threads.calls id) ctx call) :
    Watched { threads with ctx, calls := Function.update threads.calls id call } := by
  intro k c waitSet hc hfind hook hmem hsettled hready
  have hfoot := hstep.footprint (hsound.call id)
  dsimp only at hc hfind hready ⊢
  by_cases hk : k = id
  · subst hk
    rw [Function.update_self] at hc
    subst hc
    obtain ⟨c₀, hc₀, hsession, hsettled₀, hready₀, hsame⟩ := hstep.settled hsettled hready
    rw [hsame] at hfind
    exact h k c₀ waitSet hc₀ hfind hook (hsession ▸ hmem) hsettled₀ hready₀
  · rw [Function.update_of_ne hk] at hc
    rw [hfoot.waitSets k hk] at hfind
    exact h k c waitSet hc hfind hook hmem hsettled (hfoot.isReady hready)

theorem notify_step (h : threads.Watched) (hsound : threads.Sound) {n : Nat} {ctx : Context}
    {notifying : Notifying}
    (hstep : Notifying.Step threads.Locked threads.ctx (threads.notifiers n) ctx notifying) :
    Watched { threads with ctx, notifiers := Function.update threads.notifiers n notifying } := by
  intro k c waitSet' hc hfind' hook hmem hsettled hready
  dsimp only at hc hfind' hready ⊢
  have hcall := hsound.call k c hc
  have hid : hook.waitSet = k := hcall.hooks_waitSet hook (List.mem_append_right _ hmem)
  obtain ⟨waitSet, hfind, hgrown⟩ := hstep.grown.back k waitSet' hfind'
  have hself : ∀ notifying', notifying' = notifying → notifying'.Owes hook →
      ∃ m, (Function.update threads.notifiers n notifying m).Owes hook := by
    rintro notifying' rfl howes
    exact ⟨n, by rwa [Function.update_self]⟩
  rcases hstep.isReady hready with hready | howes
  · rcases h k c waitSet hc hfind hook hmem hsettled hready with hpending | ⟨m, howes⟩
    · exact Or.inl (hgrown.pending _ hpending)
    · by_cases hm : m = n
      · subst hm
        obtain ⟨waitSet₁, hfind₁, howned⟩ := hcall.owned
        obtain rfl := Option.some.inj (hfind.symm.trans hfind₁)
        have howns := howned hook (List.mem_append_right _ hmem)
        have hattached := hcall.enrolled_attached hook hmem
        rcases hstep.owes hattached (hid.symm ▸ hfind) (hid.symm ▸ hfind')
            (hsound.board k waitSet hfind) howns howes with howes | hpending
        · exact Or.inr (hself _ rfl howes)
        · exact Or.inl hpending
      · exact Or.inr ⟨m, by rwa [Function.update_of_ne hm]⟩
  · exact Or.inr (hself _ rfl howes)

/-- An edit makes nothing ready. -/
theorem edit_step (h : threads.Watched) (hsound : threads.Sound)
    (hnumbered : threads.ctx.board.Numbered) {ctx : Context}
    (hapart : threads.ctx.Apart threads.Free ctx) : Watched { threads with ctx } := by
  intro k c waitSet hc hfind hook hmem hsettled hready
  have hold := (hsound.find?_of_apart hnumbered hapart hc).symm.trans hfind
  exact h k c waitSet hc hold hook hmem hsettled (hapart.isReady _ hready)

end Watched

/-! ## All states -/

theorem start_sound {ctx : Context} (h : ctx.Quiet) :
    Sound ⟨ctx, fun _ => none, fun _ => .idle⟩ where
  board id waitSet hfind := by
    obtain ⟨capacity, hidle⟩ := h.idle id waitSet hfind
    rw [hidle]
    exact .idle capacity
  call id c hc := by cases hc
  disjoint id id' c c' _ hc := by cases hc
  attached hook hmem := by
    rw [show ctx.board.hooks = [] from h.hooks] at hmem
    cases hmem
  notified n hook hmem := by cases hmem

theorem start_signalled {ctx : Context} (h : ctx.Quiet) :
    Signalled ⟨ctx, fun _ => none, fun _ => .idle⟩ := by
  intro id waitSet slot hfind hslot
  obtain ⟨capacity, hidle⟩ := h.idle id waitSet hfind
  rw [hidle] at hslot
  exact absurd (hslot.symm.trans (Wake.Bits.contains_empty ..)) (by decide)

/-- Every state that is reached satisfies the invariants. -/
theorem Reachable.invariants {threads : Threads} (h : Reachable threads) :
    threads.Sound ∧ threads.Signalled ∧ threads.Watched := by
  induction h with
  | start hctx =>
    exact ⟨start_sound hctx.quiet, start_signalled hctx.quiet, fun id c waitSet hc => by cases hc⟩
  | @step threads _ hreachable hstep ih =>
    obtain ⟨hsound, hsignalled, hwatched⟩ := ih
    cases hstep with
    | call h =>
      exact ⟨hsound.call_step h, hsignalled.call_step hsound h, hwatched.call_step hsound h⟩
    | notify h =>
      exact ⟨hsound.notify_step h, hsignalled.notify_step h, hwatched.notify_step hsound h⟩
    | edit h =>
      have hnumbered := hreachable.numbered
      exact ⟨hsound.edit_step hnumbered h.apart, hsignalled.edit_step h.apart,
        hwatched.edit_step hsound hnumbered h.apart⟩

end Threads

/-! ## Nothing is missed -/

theorem Notifying.Holds.unfinished {notifying : Notifying} {source : Source}
    (h : notifying.Holds source) : notifying.Unfinished source := by
  cases notifying with
  | marking | raising => exact h
  | idle | calling | pending => cases h

theorem Notifying.Raises.exists_todo {notifying : Notifying} {id : WaitSetId} {slot : Nat}
    (h : notifying.Raises id slot) :
    ∃ hook ∈ notifying.todo, hook.waitSet = id ∧ hook.registration.slot = slot := by
  cases notifying with
  | raising hook todo => exact ⟨hook, List.mem_cons_self, h⟩
  | idle | calling | pending | marking => cases h

/-- A thread that owes a signal to a hook has not finished with its source. -/
theorem Notifying.Owes.unfinished {notifying : Notifying} {hook : Hook}
    (h : notifying.Owes hook)
    (hnotified : ∀ hook ∈ notifying.todo, notifying.Holds hook.source) :
    notifying.Unfinished hook.source := by
  cases notifying with
  | calling | pending => exact h
  | marking => exact (hnotified hook h).unfinished
  | raising => exact (hnotified hook (List.mem_cons_of_mem _ h)).unfinished
  | idle => cases h

/-- While a wait blocks without its event being raised, each of its sources that is ready has a
notifier that has not finished with it.  Once all notifiers are done, the event is raised. -/
theorem Threads.Reachable.signalled_or_unfinished {threads : Threads} (h : Reachable threads)
    {id : WaitSetId} {session : Session}
    (hcall : threads.calls id = some ⟨session, .blocked⟩) {source : Source}
    (hsource : source ∈ waitSources session.guard session.handles)
    (hready : threads.ctx.IsReady source) :
    (threads.ctx.isSignalled session = false →
      ∃ n, (threads.notifiers n).Unfinished source) ∧
    ((∀ n, threads.notifiers n = .idle) → threads.ctx.isSignalled session = true) := by
  obtain ⟨hsound, hsignalled, hwatched⟩ := h.invariants
  have hown := hsound.call id _ hcall
  obtain ⟨waitSet, hfind, -⟩ := hown.owned
  have henrolled := hown.remaining [] rfl
  rw [List.append_nil] at henrolled
  obtain ⟨hook, hmem, rfl⟩ : ∃ hook ∈ session.enrolled, hook.source = source := by
    rw [← List.mem_map, henrolled]
    exact hsource
  have hevent : threads.ctx.isSignalled session = waitSet.driver.raised := by
    unfold Context.isSignalled
    rw [show session.waitSet = id from hown.waitSet_eq, hfind]
    rfl
  have hunfinished : threads.ctx.isSignalled session = false →
      ∃ n, (threads.notifiers n).Unfinished hook.source := by
    intro hclear
    rcases hwatched id _ waitSet hcall hfind hook hmem hsource hready with hpending | ⟨n, howes⟩
    · rcases hsignalled id waitSet _ hfind hpending with hraised | ⟨n, hraises⟩ | hdrains
      · rw [hevent, hraised] at hclear
        cases hclear
      · -- The slot belongs to the hook, so that it is this source that is being notified.
        obtain ⟨hook', htodo, hid, hslot⟩ := hraises.exists_todo
        obtain ⟨hattached, hholds⟩ := hsound.notified n hook' htodo
        obtain ⟨c, hc, hmem'⟩ := hsound.attached hook' hattached
        rw [hid, hcall] at hc
        obtain rfl := Option.some.inj hc
        obtain rfl : hook' = hook := List.inj_on_of_nodup_map hown.nodup_slots
          (List.mem_append_right _ hmem') (List.mem_append_right _ hmem) hslot
        exact ⟨n, hholds.unfinished⟩
      · obtain ⟨session', k, hdraining, -⟩ := hdrains
        rw [hcall] at hdraining
        cases hdraining
    · exact ⟨n, howes.unfinished fun hook' hmem' => (hsound.notified n hook' hmem').2⟩
  refine ⟨hunfinished, fun hidle => ?_⟩
  cases hclear : threads.ctx.isSignalled session
  · obtain ⟨n, hn⟩ := hunfinished hclear
    rw [hidle n] at hn
    cases hn
  · rfl

/-- A wait for nothing but its own guard blocks, and the guard is triggered. -/
theorem Threads.Reachable.exists_blocked_ready : ∃ threads id session source,
    Reachable threads ∧ threads.calls id = some ⟨session, .blocked⟩ ∧
    source ∈ waitSources session.guard session.handles ∧ threads.ctx.IsReady source ∧
    threads.ctx.isSignalled session = false ∧ ∃ n, (threads.notifiers n).Unfinished source := by
  have hctx : Context.Reachable _ := ⟨.start 7,
    { domainId := 0, enclave := "/", discoveryRange := .localhost, discoveryPeers := [],
      instanceId := none, waitSetCapacity := 4, qosProfilePath := none },
    _, _, [.createWaitSet 1], rfl, rfl⟩
  have henrolled := ((((start hctx).step
    (@Step.call _ 0 _ _ (@Call.Step.start _ _ _ _ _ [] none rfl (by decide) rfl))).step
    (@Step.call _ 0 _ _ (.claim rfl))).step
    (@Step.call _ 0 _ _ (.register rfl))).step
    (@Step.call _ 0 _ _ (.attach fun ⟨n, h⟩ => h))
  have hblocked := ((((henrolled.step (@Step.call _ 0 _ _ .scan)).step
    (@Step.call _ 0 _ _ (.noneReady rfl))).step
    (@Step.call _ 0 _ _ (.goOn rfl rfl))).step
    (@Step.call _ 0 _ _ .block))
  have htriggered := hblocked.step (@Step.notify _ 0 _ _ (@Notifying.Step.trigger _ _ 1 rfl))
  have h := @signalled_or_unfinished _ htriggered 0 _ rfl (.guard 1) List.mem_cons_self rfl
  exact ⟨_, 0, _, .guard 1, htriggered, rfl, List.mem_cons_self, rfl, rfl, h.1 rfl⟩

end PubSub
