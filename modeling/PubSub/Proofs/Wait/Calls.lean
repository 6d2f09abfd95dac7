import PubSub.Proofs.Wait.Board
import PubSub.Proofs.Wait.Threads

/-!
# What a wait holds

A wait holds the sources that it has claimed, and slots of its driver for the hooks on them.
`Call.Sound` says what it can rely on, and `Call.Step.sound` that its own steps keep it so.  What its
steps mean to others is taken care of by one lemma about what such a step can change at all
(`Call.Step.footprint`).
-/

namespace PubSub

/-! ## What a wait holds -/

namespace Stage

/-- The source in the midst of being enrolled or given up. -/
def midway : Stage → List Source
  | claimed source _ | released source _ => [source]
  | registered hook _ | detached hook _ => [hook.source]
  | _ => []

/-- The hook that has a slot without being attached. -/
def slotted : Stage → List Hook
  | registered hook _ | detached hook _ => [hook]
  | _ => []

/-- The sources still to be enrolled, until the enrolments are undone. -/
def remaining : Stage → Option (List Source)
  | enrolling todo => some todo
  | claimed source todo => some (source :: todo)
  | registered hook todo => some (hook.source :: todo)
  | leaving _ | detached .. | released .. => none
  | _ => some []

end Stage

namespace Call

/-- The sources that the wait has claimed. -/
def held (call : Call) : List Source :=
  call.stage.midway ++ call.session.enrolled.map Hook.source

/-- The hooks with a slot. -/
def hooks (call : Call) : List Hook :=
  call.stage.slotted ++ call.session.enrolled

/-- What a wait of a wait set can rely on. -/
structure Sound (id : WaitSetId) (board : Switchboard) (call : Call) : Prop where
  waitSet_eq : call.session.waitSet = id
  hooks_waitSet : ∀ hook ∈ call.hooks, hook.waitSet = id
  nodup_held : call.held.Nodup
  held_claimed : ∀ source ∈ call.held, source ∈ board.claimed
  enrolled_attached : ∀ hook ∈ call.session.enrolled, hook ∈ board.hooks
  nodup_slots : (call.hooks.map (·.registration.slot)).Nodup
  owned : ∃ waitSet, board.waitSets.find? id = some waitSet ∧
    ∀ hook ∈ call.hooks, waitSet.driver.slots.owns hook.registration = true
  remaining : ∀ todo, call.stage.remaining = some todo →
    call.session.enrolled.map Hook.source ++ todo =
      waitSources call.session.guard call.session.handles

end Call

/-! ## What a step of a wait can change at all -/

/-- The claimed sources of the wait of a wait set, if there is one. -/
def Call.heldBy : Option Call → List Source
  | some call => call.held
  | none => []

/-- The second context differs from the first only in what is up to the wait of one wait set: the
driver of the wait set and whatever belongs to the sources that the wait holds.  Guards may have been
consumed. -/
structure Context.Footprint (held : List Source) (id : WaitSetId) (ctx ctx' : Context) : Prop where
  graph : ctx'.graph = ctx.graph
  guards : ∀ g, ctx'.board.isTriggered g = true → ctx.board.isTriggered g = true
  claimed : ∀ source, source ∉ held → source ∈ ctx.board.claimed → source ∈ ctx'.board.claimed
  hooks : ∀ hook : Hook, hook.source ∉ held →
    (hook ∈ ctx'.board.hooks ↔ hook ∈ ctx.board.hooks)
  waitSets : ∀ k, k ≠ id → ctx'.board.waitSets.find? k = ctx.board.waitSets.find? k

namespace Context.Footprint

variable {held : List Source} {id : WaitSetId} {ctx : Context}

theorem refl (ctx : Context) : Footprint held id ctx ctx :=
  ⟨rfl, fun _ h => h, fun _ _ h => h, fun _ _ => Iff.rfl, fun _ _ => rfl⟩

theorem setDriver (ctx : Context) (driver : Wake.Driver) :
    Footprint held id ctx { ctx with board := ctx.board.setDriver id driver } := by
  refine ⟨rfl, fun _ h => h, fun _ _ h => h, fun _ _ => Iff.rfl, fun k hk => ?_⟩
  rw [Switchboard.find?_setDriver, if_neg hk]

theorem unclaim (ctx : Context) {source : Source} (h : source ∈ held) :
    Footprint held id ctx { ctx with board := ctx.board.unclaim source } := by
  refine ⟨rfl, fun _ h => h, fun s hs hclaimed => ?_, fun _ _ => Iff.rfl, fun _ _ => rfl⟩
  refine Switchboard.mem_claimed_unclaim.2 ⟨hclaimed, ?_⟩
  rintro rfl
  exact hs h

theorem poll (ctx : Context) (source : Source) : Footprint held id ctx (ctx.poll source).2 := by
  cases source with
  | endpoint gid channel => exact refl ctx
  | guard g =>
    exact ⟨rfl, fun _ h => (Switchboard.isTriggered_consume h).1, fun _ _ h => h,
      fun _ _ => Iff.rfl, fun _ _ => rfl⟩

end Context.Footprint

theorem Call.Step.footprint {locked : Source → Prop} {id : WaitSetId} {ctx ctx' : Context}
    {call call' : Option Call} (h : Call.Step locked id ctx call ctx' call')
    (hsound : ∀ c, call = some c → c.Sound id ctx.board) :
    Context.Footprint (heldBy call) id ctx ctx' := by
  cases h with
  | start hfind hfew hreserve =>
    refine ⟨rfl, fun _ h => h, fun _ _ h => h, fun _ _ => Iff.rfl, fun k hk => ?_⟩
    rw [Table.find?_insert, if_neg hk]
  | claim hclaim =>
    obtain ⟨-, rfl⟩ := Switchboard.claim_eq_some hclaim
    exact ⟨rfl, fun _ h => h, fun _ _ h => List.mem_cons_of_mem _ h, fun _ _ => Iff.rfl,
      fun _ _ => rfl⟩
  | register hregister =>
    obtain ⟨waitSet, driver, -, -, rfl⟩ := Switchboard.register_eq_ok hregister
    exact .setDriver ctx driver
  | giveBack hregister => exact .unclaim ctx List.mem_cons_self
  | @attach session hook todo hfree =>
    refine ⟨rfl, fun _ h => h, fun _ _ h => h, fun h hnot => ?_, fun _ _ => rfl⟩
    rw [Switchboard.mem_hooks_attach]
    refine ⟨fun hmem => hmem.resolve_right ?_, Or.inl⟩
    rintro rfl
    exact hnot List.mem_cons_self
  | poll => exact .poll ctx _
  | cancelled => exact .poll ctx _
  | goOn => exact .poll ctx _
  | lower hfind => exact .setDriver ctx _
  | takeWord hfind hword => exact .setDriver ctx _
  | @detach session outcome hook rest henrolled hfree =>
    refine ⟨rfl, fun _ h => h, fun _ _ h => h, fun h hnot => ?_, fun _ _ => rfl⟩
    rw [Switchboard.mem_hooks_detach]
    refine ⟨And.left, fun hmem => ⟨hmem, Or.inl ?_⟩⟩
    intro heq
    refine hnot ?_
    simp [heldBy, held, Stage.midway, henrolled, heq]
  | @release session outcome hook =>
    obtain ⟨waitSet, hfind, -⟩ := (hsound _ rfl).owned
    have hid : hook.waitSet = id := (hsound _ rfl).hooks_waitSet hook List.mem_cons_self
    rw [hid, Switchboard.release_eq hfind]
    exact .setDriver ctx _
  | unclaim => exact .unclaim ctx List.mem_cons_self
  | refuse | scan | skip | ready | noneReady | listed | expire | block | wake | timeUp | drained
  | finish => exact .refl ctx

/-! ## A wait keeps what it relies on -/

namespace Call.Sound

variable {id : WaitSetId} {board board' : Switchboard} {session : Session} {stage : Stage}

/-- Only the claims, the hooks and the wait set itself matter. -/
theorem congr {call : Call} (h : call.Sound id board)
    (hclaimed : ∀ source ∈ call.held, source ∈ board.claimed → source ∈ board'.claimed)
    (hhooks : ∀ hook ∈ call.session.enrolled, hook ∈ board.hooks → hook ∈ board'.hooks)
    (hslots : ∀ waitSet, board.waitSets.find? id = some waitSet →
      ∃ waitSet', board'.waitSets.find? id = some waitSet' ∧
        waitSet'.driver.slots = waitSet.driver.slots) : call.Sound id board' := by
  refine { h with
    held_claimed := fun source hmem => hclaimed source hmem (h.held_claimed source hmem)
    enrolled_attached := fun hook hmem => hhooks hook hmem (h.enrolled_attached hook hmem)
    owned := ?_ }
  obtain ⟨waitSet, hfind, howns⟩ := h.owned
  obtain ⟨waitSet', hfind', heq⟩ := hslots waitSet hfind
  exact ⟨waitSet', hfind', fun hook hmem => heq ▸ howns hook hmem⟩

/-- A driver with the same slots changes nothing. -/
theorem setDriver {call : Call} (h : call.Sound id board) {k : WaitSetId} {waitSet : WaitSet}
    (hfind : board.waitSets.find? k = some waitSet) (driver : Wake.Driver)
    (hslots : driver.slots = waitSet.driver.slots) : call.Sound id (board.setDriver k driver) := by
  refine h.congr (fun _ _ h => h) (fun _ _ h => h) fun waitSet' hfind' => ?_
  rw [Switchboard.find?_setDriver]
  split
  · next hk =>
    subst hk
    obtain rfl : waitSet' = waitSet := Option.some.inj (hfind'.symm.trans hfind)
    exact ⟨{ waitSet' with driver }, by rw [hfind']; rfl, hslots⟩
  · exact ⟨waitSet', hfind', rfl⟩

/-- A step between two stages outside of enrolments. -/
theorem goTo (h : Sound id board ⟨session, stage⟩) {stage' : Stage}
    (hmidway : stage'.midway = stage.midway) (hslotted : stage'.slotted = stage.slotted)
    (hremaining : ∀ todo, stage'.remaining = some todo → stage.remaining = some todo) :
    Sound id board ⟨session, stage'⟩ := by
  obtain ⟨hid, hhooks, hheld, hclaimed, hattached, hslots, howned, hrem⟩ := h
  simp only [held, hooks, ← hmidway, ← hslotted] at *
  exact ⟨hid, hhooks, hheld, hclaimed, hattached, hslots, howned,
    fun todo htodo => hrem todo (hremaining todo htodo)⟩

theorem poll {call : Call} {ctx : Context} (h : call.Sound id ctx.board) (source : Source) :
    call.Sound id (ctx.poll source).2.board := by
  cases source with
  | endpoint gid channel => exact h
  | guard g => exact h.congr (fun _ _ h => h) (fun _ _ h => h) fun waitSet h => ⟨waitSet, h, rfl⟩

theorem start {waitSet : WaitSet} {handles : List (Option Source)} {deadline : Option Nat}
    (hfind : board.waitSets.find? id = some waitSet) :
    Sound id board ⟨⟨id, waitSet.guard, handles, [], deadline⟩,
      .enrolling (waitSources waitSet.guard handles)⟩ where
  waitSet_eq := rfl
  hooks_waitSet hook hmem := by cases hmem
  nodup_held := List.nodup_nil
  held_claimed source hmem := by cases hmem
  enrolled_attached hook hmem := by cases hmem
  nodup_slots := List.nodup_nil
  owned := ⟨waitSet, hfind, fun hook hmem => by cases hmem⟩
  remaining todo htodo := Option.some.inj htodo ▸ rfl

theorem claim {source : Source} {todo : List Source}
    (h : Sound id board ⟨session, .enrolling (source :: todo)⟩)
    (hclaim : board.claim source = some board') : Sound id board' ⟨session, .claimed source todo⟩ := by
  obtain ⟨hnot, rfl⟩ := Switchboard.claim_eq_some hclaim
  refine ⟨h.waitSet_eq, h.hooks_waitSet, List.nodup_cons.2 ⟨?_, h.nodup_held⟩, ?_,
    h.enrolled_attached, h.nodup_slots, h.owned, h.remaining⟩
  · exact fun hmem => hnot (h.held_claimed source hmem)
  · rintro s (_ | ⟨_, hmem⟩)
    · exact List.mem_cons_self
    · exact List.mem_cons_of_mem _ (h.held_claimed s hmem)

theorem register {source : Source} {todo : List Source} {registration : Wake.Registration}
    (h : Sound id board ⟨session, .claimed source todo⟩) (hboard : board.Sound)
    (hregister : board.register id = .ok (registration, board')) :
    Sound id board' ⟨session, .registered ⟨source, id, registration⟩ todo⟩ := by
  obtain ⟨waitSet, driver, hfind, hreg, rfl⟩ := Switchboard.register_eq_ok hregister
  obtain ⟨-, -, -, hnew, hothers⟩ := (hboard id waitSet hfind).register hreg
  obtain ⟨waitSet', hfind', howns⟩ := h.owned
  obtain rfl : waitSet' = waitSet := Option.some.inj (hfind'.symm.trans hfind)
  refine ⟨h.waitSet_eq, ?_, h.nodup_held, h.held_claimed, h.enrolled_attached,
    List.nodup_cons.2 ⟨fun hmem => ?_, h.nodup_slots⟩, ?_, h.remaining⟩
  · rintro hook (_ | ⟨_, hmem⟩)
    · rfl
    · exact h.hooks_waitSet hook hmem
  · obtain ⟨hook, hmem, heq⟩ := List.mem_map.1 hmem
    exact (hothers hook.registration (howns hook hmem)).1 heq
  · refine ⟨_, Switchboard.find?_setDriver_self hfind driver, ?_⟩
    rintro hook (_ | ⟨_, hmem⟩)
    · exact hnew
    · exact (hothers hook.registration (howns hook hmem)).2

theorem attach {hook : Hook} {todo : List Source}
    (h : Sound id board ⟨session, .registered hook todo⟩) :
    Sound id (board.attach hook)
      ⟨{ session with enrolled := session.enrolled ++ [hook] }, .enrolling todo⟩ := by
  -- What is held is the same, in another order.
  have hperm : (session.enrolled ++ [hook]).Perm (hook :: session.enrolled) :=
    List.perm_append_singleton hook session.enrolled
  have hmem : ∀ h' ∈ session.enrolled ++ [hook], h' ∈ hook :: session.enrolled :=
    fun h' hmem => hperm.mem_iff.1 hmem
  refine ⟨h.waitSet_eq, fun h' hmem' => h.hooks_waitSet h' (hmem h' hmem'),
    (hperm.map Hook.source).nodup_iff.2 h.nodup_held, fun s hs => ?_, fun h' hmem' => ?_,
    (hperm.map _).nodup_iff.2 h.nodup_slots, ?_, fun todo' htodo => ?_⟩
  · exact h.held_claimed s ((hperm.map Hook.source).mem_iff.1 hs)
  · rcases List.mem_append.1 hmem' with hmem' | hmem'
    · exact Switchboard.mem_hooks_attach.2 (Or.inl (h.enrolled_attached h' hmem'))
    · exact Switchboard.mem_hooks_attach.2 (Or.inr (List.mem_singleton.1 hmem'))
  · obtain ⟨waitSet, hfind, howns⟩ := h.owned
    exact ⟨waitSet, hfind, fun h' hmem' => howns h' (hmem h' hmem')⟩
  · obtain rfl := Option.some.inj htodo
    rw [← h.remaining _ rfl, List.map_append, List.append_assoc]
    rfl

theorem detach {hook : Hook} {rest : List Hook} {outcome : WaitOutcome}
    (h : Sound id board ⟨session, .leaving outcome⟩) (henrolled : session.enrolled = hook :: rest) :
    Sound id (board.detach hook.source hook.registration.id)
      ⟨{ session with enrolled := rest }, .detached hook outcome⟩ := by
  obtain ⟨hid, hhooks, hheld, hclaimed, hattached, hslots, howned, -⟩ := h
  simp only [held, hooks, Stage.midway, Stage.slotted, List.nil_append, henrolled] at *
  refine ⟨hid, hhooks, hheld, hclaimed, fun h' hmem => ?_, hslots, howned, fun todo htodo => ?_⟩
  · refine Switchboard.mem_hooks_detach.2 ⟨hattached h' (List.mem_cons_of_mem _ hmem), Or.inl ?_⟩
    intro heq
    exact (List.nodup_cons.1 hheld).1 (heq ▸ List.mem_map_of_mem hmem)
  · cases htodo

theorem release {hook : Hook} {outcome : WaitOutcome}
    (h : Sound id board ⟨session, .detached hook outcome⟩) (hboard : board.Sound) :
    Sound id (board.release hook.waitSet hook.registration)
      ⟨session, .released hook.source outcome⟩ := by
  obtain ⟨hid, hhooks, hheld, hclaimed, hattached, hslots, ⟨waitSet, hfind, howns⟩, -⟩ := h
  simp only [hooks, Stage.slotted, List.singleton_append, List.map_cons] at *
  obtain ⟨hnot, hslots⟩ := List.nodup_cons.1 hslots
  have hwaitSet : hook.waitSet = id := hhooks hook List.mem_cons_self
  obtain ⟨-, -, -, hothers⟩ := (hboard id waitSet hfind).release hook.registration
  rw [hwaitSet, Switchboard.release_eq hfind]
  refine ⟨hid, fun h' hmem => hhooks h' (List.mem_cons_of_mem _ hmem), hheld, hclaimed, hattached,
    hslots, ?_, fun todo htodo => ?_⟩
  · refine ⟨_, Switchboard.find?_setDriver_self hfind _,
      fun h' hmem => hothers _ (howns h' (List.mem_cons_of_mem _ hmem)) fun heq => ?_⟩
    exact hnot (List.mem_map.2 ⟨h', hmem, heq⟩)
  · cases htodo

theorem unclaim {source : Source} {outcome : WaitOutcome}
    (h : Sound id board ⟨session, .released source outcome⟩) :
    Sound id (board.unclaim source) ⟨session, .leaving outcome⟩ := by
  obtain ⟨hid, hhooks, hheld, hclaimed, hattached, hslots, howned, -⟩ := h
  obtain ⟨hnot, hheld⟩ := List.nodup_cons.1 hheld
  refine ⟨hid, hhooks, hheld, fun s hmem => ?_, hattached, hslots, howned, fun todo htodo => ?_⟩
  · refine Switchboard.mem_claimed_unclaim.2 ⟨hclaimed s (List.mem_cons_of_mem _ hmem), ?_⟩
    rintro rfl
    exact hnot hmem
  · cases htodo

end Call.Sound

/-- A wait keeps what it relies on. -/
theorem Call.Step.sound {locked : Source → Prop} {id : WaitSetId} {ctx ctx' : Context}
    {call call' : Option Call} (h : Call.Step locked id ctx call ctx' call')
    (hsound : ∀ c, call = some c → c.Sound id ctx.board) (hboard : ctx.board.Sound) :
    ∀ c, call' = some c → c.Sound id ctx'.board := by
  rintro c rfl
  cases h with
  | start hfind hfew hreserve =>
    exact .start (by rw [Table.find?_insert, if_pos rfl])
  | claim hclaim => exact (hsound _ rfl).claim hclaim
  | register hregister => exact (hsound _ rfl).register hboard hregister
  | @giveBack session source todo error hregister =>
    have hback : Sound id ctx.board ⟨session, .released source ⟨.error error, session.handles⟩⟩ :=
      (hsound _ rfl).goTo rfl rfl fun todo htodo => by cases htodo
    exact hback.unclaim
  | attach hfree => exact (hsound _ rfl).attach
  | poll => exact ((hsound _ rfl).poll _).goTo rfl rfl fun _ h => h
  | cancelled => exact ((hsound _ rfl).poll _).goTo rfl rfl fun _ h => by cases h
  | goOn => exact ((hsound _ rfl).poll _).goTo rfl rfl fun _ h => h
  | @lower session waitSet hfind =>
    exact ((hsound _ rfl).setDriver hfind waitSet.driver.lower rfl).goTo rfl rfl fun _ h => h
  | @takeWord session waitSet k hfind hword =>
    exact ((hsound _ rfl).setDriver hfind (waitSet.driver.takeWord k) rfl).goTo rfl rfl
      fun _ h => h
  | detach henrolled hfree => exact (hsound _ rfl).detach henrolled
  | release => exact (hsound _ rfl).release hboard
  | unclaim => exact (hsound _ rfl).unclaim
  | refuse | ready | expire => exact (hsound _ rfl).goTo rfl rfl fun _ h => by cases h
  | scan | skip | noneReady | listed | block | wake | timeUp | drained =>
    exact (hsound _ rfl).goTo rfl rfl fun _ h => h

/-- Drivers stay sound. -/
theorem Call.Step.board_sound {locked : Source → Prop} {id : WaitSetId} {ctx ctx' : Context}
    {call call' : Option Call} (h : Call.Step locked id ctx call ctx' call')
    (hsound : ∀ c, call = some c → c.Sound id ctx.board) (hboard : ctx.board.Sound) :
    ctx'.board.Sound := by
  cases h with
  | @start waitSet reserved handles deadline hfind hfew hreserve =>
    intro k waitSet' hk
    rw [Table.find?_insert] at hk
    split at hk
    · obtain rfl := Option.some.inj hk
      rcases WaitSet.reserve_eq_ok hreserve with rfl | ⟨capacity, rfl⟩
      · exact hboard id _ hfind
      · exact .idle capacity
    · exact hboard k waitSet' hk
  | claim hclaim =>
    obtain ⟨-, rfl⟩ := Switchboard.claim_eq_some hclaim
    exact hboard
  | register hregister =>
    obtain ⟨waitSet, driver, hfind, hreg, rfl⟩ := Switchboard.register_eq_ok hregister
    exact hboard.setDriver ((hboard id waitSet hfind).register hreg).1
  | @poll session found source rest => cases source <;> exact hboard
  | lower hfind => exact hboard.setDriver (hboard id _ hfind).lower
  | takeWord hfind hword => exact hboard.setDriver ((hboard id _ hfind).takeWord _)
  | @release session outcome hook =>
    obtain ⟨waitSet, hfind, -⟩ := (hsound _ rfl).owned
    have hid : hook.waitSet = id := (hsound _ rfl).hooks_waitSet hook List.mem_cons_self
    rw [hid, Switchboard.release_eq hfind]
    exact hboard.setDriver ((hboard id _ hfind).release hook.registration).1
  | giveBack | attach | refuse | scan | skip | ready | noneReady | listed | cancelled | goOn | expire
  | block | wake | timeUp | drained | detach | unclaim | finish => exact hboard

namespace Call.Step

variable {locked : Source → Prop} {id : WaitSetId} {ctx ctx' : Context} {call call' : Option Call}

/-- A wait is about the same from its start to its end. -/
theorem session {c c' : Call} (h : Call.Step locked id ctx (some c) ctx' (some c')) :
    c'.session.guard = c.session.guard ∧ c'.session.handles = c.session.handles ∧
      c'.session.deadline = c.session.deadline := by
  cases h <;> exact ⟨rfl, rfl, rfl⟩

/-- A source that a wait comes to hold was not claimed before. -/
theorem held_or_not_claimed (h : Call.Step locked id ctx call ctx' call') :
    ∀ c, call' = some c → ∀ source ∈ c.held, source ∈ heldBy call ∨
      source ∉ ctx.board.claimed := by
  rintro c rfl source hmem
  cases h with
  | start => cases hmem
  | claim hclaim =>
    rcases List.mem_cons.1 hmem with rfl | hmem
    · exact Or.inr (Switchboard.claim_eq_some hclaim).1
    · exact Or.inl hmem
  | @attach session hook todo hfree =>
    have hperm : (session.enrolled ++ [hook]).Perm (hook :: session.enrolled) :=
      List.perm_append_singleton hook session.enrolled
    exact Or.inl ((hperm.map Hook.source).mem_iff.1 hmem)
  | detach henrolled hfree =>
    left
    simp only [heldBy, held, Stage.midway, henrolled]
    exact hmem
  | giveBack | unclaim => exact Or.inl (List.mem_cons_of_mem _ hmem)
  | refuse | register | scan | skip | poll | ready | noneReady | listed | cancelled | goOn | expire
  | block | wake | timeUp | lower | takeWord | drained | release => exact Or.inl hmem

/-- After a step the attached hooks are those of the wait and those of others. -/
theorem attached (h : Call.Step locked id ctx call ctx' call')
    (hsound : ∀ c, call = some c → c.Sound id ctx.board) :
    ∀ hook ∈ ctx'.board.hooks, (∃ c, call' = some c ∧ hook ∈ c.session.enrolled) ∨
      hook ∈ ctx.board.hooks ∧ ∀ c, call = some c → hook ∉ c.session.enrolled := by
  intro hook hmem
  -- A step that neither attaches nor detaches leaves the hook on the side on which it was.
  have hsame : ∀ c c' : Call, call = some c → call' = some c' →
      c'.session.enrolled = c.session.enrolled → hook ∈ ctx.board.hooks →
      (∃ c, call' = some c ∧ hook ∈ c.session.enrolled) ∨
        hook ∈ ctx.board.hooks ∧ ∀ c, call = some c → hook ∉ c.session.enrolled := by
    intro c c' hc hc' heq hold
    by_cases hin : hook ∈ c.session.enrolled
    · exact Or.inl ⟨c', hc', heq ▸ hin⟩
    · refine Or.inr ⟨hold, fun c₀ hc₀ => ?_⟩
      obtain rfl := Option.some.inj (hc.symm.trans hc₀)
      exact hin
  cases h with
  | start => exact Or.inr ⟨hmem, fun c hc => by cases hc⟩
  | finish henrolled =>
    refine Or.inr ⟨hmem, fun c hc => ?_⟩
    cases hc
    rw [henrolled]
    exact List.not_mem_nil
  | @attach session hook' todo hfree =>
    rcases Switchboard.mem_hooks_attach.1 hmem with hold | rfl
    · by_cases hin : hook ∈ session.enrolled
      · exact Or.inl ⟨_, rfl, List.mem_append_left _ hin⟩
      · refine Or.inr ⟨hold, fun c hc => ?_⟩
        cases hc
        exact hin
    · exact Or.inl ⟨_, rfl, List.mem_append_right _ List.mem_cons_self⟩
  | @detach session outcome hook' rest henrolled hfree =>
    obtain ⟨hold, hne⟩ := Switchboard.mem_hooks_detach.1 hmem
    by_cases hin : hook ∈ session.enrolled
    · rw [henrolled] at hin
      rcases List.mem_cons.1 hin with rfl | hin
      · rcases hne with hne | hne <;> exact absurd rfl hne
      · exact Or.inl ⟨_, rfl, hin⟩
    · refine Or.inr ⟨hold, fun c hc => ?_⟩
      cases hc
      exact hin
  | claim hclaim =>
    obtain ⟨-, rfl⟩ := Switchboard.claim_eq_some hclaim
    exact hsame _ _ rfl rfl rfl hmem
  | register hregister =>
    obtain ⟨waitSet, driver, -, -, rfl⟩ := Switchboard.register_eq_ok hregister
    exact hsame _ _ rfl rfl rfl hmem
  | release =>
    obtain ⟨waitSet, hfind, -⟩ := (hsound _ rfl).owned
    have hid := (hsound _ rfl).hooks_waitSet _ List.mem_cons_self
    rw [hid, Switchboard.release_eq hfind] at hmem
    exact hsame _ _ rfl rfl rfl hmem
  | @poll session found source rest => cases source <;> exact hsame _ _ rfl rfl rfl hmem
  | refuse | giveBack | scan | skip | ready | noneReady | listed | cancelled | goOn | expire | block
  | wake | timeUp | lower | takeWord | drained | unclaim => exact hsame _ _ rfl rfl rfl hmem

/-- The hooks of a locked source stay. -/
theorem locked_attached (h : Call.Step locked id ctx call ctx' call')
    (hsound : ∀ c, call = some c → c.Sound id ctx.board) {hook : Hook}
    (hmem : hook ∈ ctx.board.hooks) (hlocked : locked hook.source) :
    hook ∈ ctx'.board.hooks := by
  cases h with
  | attach => exact Switchboard.mem_hooks_attach.2 (Or.inl hmem)
  | detach henrolled hfree =>
    refine Switchboard.mem_hooks_detach.2 ⟨hmem, Or.inl fun heq => ?_⟩
    exact hfree (heq ▸ hlocked)
  | claim hclaim =>
    obtain ⟨-, rfl⟩ := Switchboard.claim_eq_some hclaim
    exact hmem
  | register hregister =>
    obtain ⟨waitSet, driver, -, -, rfl⟩ := Switchboard.register_eq_ok hregister
    exact hmem
  | release =>
    obtain ⟨waitSet, hfind, -⟩ := (hsound _ rfl).owned
    have hid := (hsound _ rfl).hooks_waitSet _ List.mem_cons_self
    rw [hid, Switchboard.release_eq hfind]
    exact hmem
  | @poll session found source rest => cases source <;> exact hmem
  | start | refuse | giveBack | scan | skip | ready | noneReady | listed | cancelled | goOn | expire
  | block | wake | timeUp | lower | takeWord | drained | unclaim | finish => exact hmem

end Call.Step

end PubSub
