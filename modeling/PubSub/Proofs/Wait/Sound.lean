import PubSub.Proofs.Wait.Calls

/-!
# Claims, slots and hooks under concurrent waits

Whatever the order of the steps, the waits stay out of each other's way.  `Threads.Sound` says that
every wait keeps what it relies on, that no two waits enrolled the same source, and that notifiers
only signal hooks that are attached.
-/

namespace PubSub

/-! ## What a step of a notifier can change at all -/

/-- The second driver differs from the first only in that more slots are pending, or the event is
raised. -/
structure Wake.Driver.Grown (driver driver' : Wake.Driver) : Prop where
  slots : driver'.slots = driver.slots
  sound : driver.Sound → driver'.Sound
  pending : ∀ i, driver.pending.contains i = true → driver'.pending.contains i = true
  raised : driver.raised = true → driver'.raised = true

namespace Wake.Driver.Grown

theorem refl (driver : Driver) : driver.Grown driver := ⟨rfl, id, fun _ h => h, id⟩

theorem mark (driver : Driver) (slot : Nat) : driver.Grown (driver.mark slot).2 :=
  ⟨rfl, fun h => h.mark slot, fun _ h => (Bits.contains_mark ..).2 (Or.inl h), id⟩

theorem raise (driver : Driver) : driver.Grown driver.raise :=
  ⟨rfl, fun h => h.raise, fun _ h => h, fun _ => rfl⟩

end Wake.Driver.Grown

/-- Claims and hooks are the same, and each driver has grown. -/
structure Switchboard.Grown (board board' : Switchboard) : Prop where
  claimed : board'.claimed = board.claimed
  hooks : board'.hooks = board.hooks
  forth : ∀ id waitSet, board.waitSets.find? id = some waitSet →
    ∃ waitSet', board'.waitSets.find? id = some waitSet' ∧ waitSet.driver.Grown waitSet'.driver
  back : ∀ id waitSet', board'.waitSets.find? id = some waitSet' →
    ∃ waitSet, board.waitSets.find? id = some waitSet ∧ waitSet.driver.Grown waitSet'.driver

namespace Switchboard.Grown

variable {board board' : Switchboard} {id : WaitSetId}

theorem refl (board : Switchboard) : board.Grown board :=
  ⟨rfl, rfl, fun _ waitSet h => ⟨waitSet, h, .refl _⟩, fun _ waitSet h => ⟨waitSet, h, .refl _⟩⟩

theorem setDriver {waitSet : WaitSet} (hfind : board.waitSets.find? id = some waitSet)
    {driver : Wake.Driver} (hgrown : waitSet.driver.Grown driver) :
    board.Grown (board.setDriver id driver) := by
  have hset := find?_setDriver_self hfind driver
  have hother : ∀ k, k ≠ id →
      (board.setDriver id driver).waitSets.find? k = board.waitSets.find? k := by
    intro k hk
    rw [find?_setDriver, if_neg hk]
  refine ⟨rfl, rfl, fun k waitSet' hk => ?_, fun k waitSet' hk => ?_⟩
  · by_cases heq : k = id
    · subst heq
      obtain rfl := Option.some.inj (hfind.symm.trans hk)
      exact ⟨_, hset, hgrown⟩
    · exact ⟨waitSet', (hother k heq).trans hk, .refl _⟩
  · by_cases heq : k = id
    · subst heq
      obtain rfl := Option.some.inj (hset.symm.trans hk)
      exact ⟨waitSet, hfind, hgrown⟩
    · exact ⟨waitSet', (hother k heq).symm.trans hk, .refl _⟩

theorem sound (h : board.Grown board') (hsound : board.Sound) : board'.Sound := by
  intro k waitSet' hk
  obtain ⟨waitSet, hfind, hgrown⟩ := h.back k waitSet' hk
  exact hgrown.sound (hsound k waitSet hfind)

theorem call_sound (h : board.Grown board') {call : Call} (hcall : call.Sound id board) :
    call.Sound id board' := by
  refine hcall.congr (fun _ _ h' => h.claimed ▸ h') (fun _ _ h' => h.hooks ▸ h')
    fun waitSet hfind => ?_
  obtain ⟨waitSet', hfind', hgrown⟩ := h.forth id waitSet hfind
  exact ⟨waitSet', hfind', hgrown.slots⟩

end Switchboard.Grown

/-- The hooks whose slots a notifier has yet to signal. -/
def Notifying.todo : Notifying → List Hook
  | marking _ todo => todo
  | raising hook todo => hook :: todo
  | _ => []

theorem Context.board_callBack (ctx : Context) (gid : Gid) (channel : Channel) :
    (ctx.callBack gid channel).board = ctx.board := by
  unfold callBack
  split
  · rfl
  · dsimp only
    cases ((_ : Core).notifier channel).raise.2 <;> rfl

namespace Notifying.Step

variable {locked : Source → Prop} {ctx ctx' : Context} {notifying notifying' : Notifying}

theorem grown (h : Notifying.Step locked ctx notifying ctx' notifying') :
    ctx.board.Grown ctx'.board := by
  cases h with
  | trigger =>
    exact ⟨rfl, rfl, fun _ waitSet h => ⟨waitSet, h, .refl _⟩,
      fun _ waitSet h => ⟨waitSet, h, .refl _⟩⟩
  | change => exact .refl ctx.board
  | call =>
    rw [Context.board_callBack]
    exact .refl ctx.board
  | lock => exact .refl ctx.board
  | markNew hfind => exact .setDriver hfind (.mark ..)
  | markOld hfind => exact .setDriver hfind (.mark ..)
  | raise hfind => exact .setDriver hfind (.raise _)
  | unlock => exact .refl ctx.board

/-- A notifier takes on only hooks that are attached to the source that it has locked. -/
theorem todo (h : Notifying.Step locked ctx notifying ctx' notifying')
    (hnotified : ∀ hook ∈ notifying.todo, hook ∈ ctx.board.hooks ∧ notifying.Holds hook.source) :
    ∀ hook ∈ notifying'.todo, hook ∈ ctx.board.hooks ∧ notifying'.Holds hook.source := by
  intro hook hmem
  cases h with
  | lock =>
    obtain ⟨hin, hsource⟩ := List.mem_filter.1 hmem
    exact ⟨hin, (of_decide_eq_true hsource).symm⟩
  | @markNew source first todo waitSet hfind hnew =>
    have hfirst : source = first.source := (hnotified first List.mem_cons_self).2
    obtain ⟨hin, hsource⟩ := hnotified hook hmem
    exact ⟨hin, hfirst.symm.trans hsource⟩
  | markOld => exact hnotified hook (List.mem_cons_of_mem _ hmem)
  | raise => exact hnotified hook (List.mem_cons_of_mem _ hmem)
  | trigger | change | call | unlock => cases hmem

end Notifying.Step

/-! ## All waits at once -/

namespace Threads

/-- Every wait keeps what it relies on, no source is held by two of them, the attached hooks are
theirs, and notifiers signal no others. -/
structure Sound (threads : Threads) : Prop where
  board : threads.ctx.board.Sound
  call : ∀ id c, threads.calls id = some c → c.Sound id threads.ctx.board
  disjoint : ∀ id id' c c', id ≠ id' → threads.calls id = some c → threads.calls id' = some c' →
    ∀ source ∈ c.held, source ∉ c'.held
  attached : ∀ hook ∈ threads.ctx.board.hooks,
    ∃ c, threads.calls hook.waitSet = some c ∧ hook ∈ c.session.enrolled
  notified : ∀ n, ∀ hook ∈ (threads.notifiers n).todo,
    hook ∈ threads.ctx.board.hooks ∧ (threads.notifiers n).Holds hook.source

namespace Sound

variable {threads : Threads}

/-- What other waits hold is not what the wait of this wait set holds. -/
theorem not_mem_heldBy (h : threads.Sound) {id id' : WaitSetId} (hne : id' ≠ id) {c : Call}
    (hc : threads.calls id' = some c) {source : Source} (hmem : source ∈ c.held) :
    source ∉ Call.heldBy (threads.calls id) := by
  cases hcall : threads.calls id with
  | none => exact List.not_mem_nil
  | some c' => exact h.disjoint id' id c c' hne hc hcall source hmem

theorem call_step (h : threads.Sound) {id : WaitSetId} {ctx : Context} {call : Option Call}
    (hstep : Call.Step threads.Locked id threads.ctx (threads.calls id) ctx call) :
    Sound { threads with ctx, calls := Function.update threads.calls id call } := by
  have hown := h.call id
  have hfoot := hstep.footprint hown
  have hself : Function.update threads.calls id call id = call := Function.update_self ..
  have hother : ∀ k, k ≠ id → Function.update threads.calls id call k = threads.calls k :=
    fun k hk => Function.update_of_ne hk ..
  -- What another wait holds was claimed, and the wait came to hold only what was not.
  have hapart : ∀ c k c', k ≠ id → call = some c → threads.calls k = some c' →
      ∀ source ∈ c.held, source ∉ c'.held := by
    intro c k c' hk hc hc' source hmem hmem'
    rcases hstep.held_or_not_claimed c hc source hmem with hheld | hnot
    · exact h.not_mem_heldBy hk hc' hmem' hheld
    · exact hnot ((h.call k c' hc').held_claimed source hmem')
  refine ⟨hstep.board_sound hown h.board, fun k c hc => ?_, fun k k' c c' hne hc hc' => ?_,
    fun hook hmem => ?_, fun n hook hmem => ?_⟩
  · by_cases hk : k = id
    · subst hk
      exact hstep.sound hown h.board c (hself.symm.trans hc)
    · have hc : threads.calls k = some c := (hother k hk).symm.trans hc
      refine (h.call k c hc).congr (fun source hmem => ?_) (fun hook hmem hin => ?_)
        fun waitSet hfind => ⟨waitSet, (hfoot.waitSets k hk).trans hfind, rfl⟩
      · exact hfoot.claimed source (h.not_mem_heldBy hk hc hmem)
      · refine (hfoot.hooks hook (h.not_mem_heldBy hk hc ?_)).2 hin
        exact List.mem_append_right _ (List.mem_map_of_mem hmem)
  · by_cases hk : k = id
    · subst hk
      exact hapart c k' c' (Ne.symm hne) (hself.symm.trans hc) ((hother k' (Ne.symm hne)).symm.trans hc')
    · have hold : threads.calls k = some c := (hother k hk).symm.trans hc
      by_cases hk' : k' = id
      · subst hk'
        intro source hmem hmem'
        exact hapart c' k c hk (hself.symm.trans hc') hold source hmem' hmem
      · exact h.disjoint k k' c c' hne hold ((hother k' hk').symm.trans hc')
  · rcases hstep.attached hown hook hmem with ⟨c, hc, hin⟩ | ⟨hold, hnot⟩
    · have hid : hook.waitSet = id :=
        (hstep.sound hown h.board c hc).hooks_waitSet hook (List.mem_append_right _ hin)
      exact ⟨c, by rw [hid]; exact hself.trans hc, hin⟩
    · obtain ⟨c, hc, hin⟩ := h.attached hook hold
      have hne : hook.waitSet ≠ id := fun heq => hnot c (heq ▸ hc) hin
      exact ⟨c, (hother _ hne).trans hc, hin⟩
  · obtain ⟨hin, hholds⟩ := h.notified n hook hmem
    exact ⟨hstep.locked_attached hown hin ⟨n, hholds⟩, hholds⟩

theorem notify_step (h : threads.Sound) {n : Nat} {ctx : Context} {notifying : Notifying}
    (hstep : Notifying.Step threads.Locked threads.ctx (threads.notifiers n) ctx notifying) :
    Sound { threads with ctx, notifiers := Function.update threads.notifiers n notifying } := by
  have hgrown := hstep.grown
  refine ⟨hgrown.sound h.board, fun k c hc => hgrown.call_sound (h.call k c hc), h.disjoint,
    fun hook hmem => h.attached hook (hgrown.hooks ▸ hmem), fun k hook hmem => ?_⟩
  dsimp only at hmem ⊢
  rw [hgrown.hooks]
  by_cases hk : k = n
  · subst hk
    rw [Function.update_self] at hmem ⊢
    exact hstep.todo (h.notified k) hook hmem
  · rw [Function.update_of_ne hk] at hmem ⊢
    exact h.notified k hook hmem

end Sound

end Threads

end PubSub
