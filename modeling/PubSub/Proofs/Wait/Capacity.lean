import PubSub.Proofs.Wait.Outcome
import PubSub.Proofs.Wait.Undisturbed
import PubSub.Proofs.Wake.Course

/-!
# Slots for every wait

A wait set makes room for its handles and its own guard before a wait enrols them.  It counts the
handles as they come, listed twice or not, and leaves its own guard aside, which a wait enrols whether
it is listed or not.  As a wait enrols no source twice, there is always a slot left for the next one
(`Threads.Provided`).  With a limit on the handles the room is there from the start and never changes;
without one it only grows (`WaitSet.Enlarged`).
-/

namespace PubSub

/-! ## Wait sets with more room -/

/-- The same wait set with as many slots or more.  If it had one more than its limit asks for, there
are as many as before. -/
structure WaitSet.Enlarged (waitSet waitSet' : WaitSet) : Prop where
  maxHandles : waitSet'.maxHandles = waitSet.maxHandles
  guard : waitSet'.guard = waitSet.guard
  le : waitSet.driver.capacity ≤ waitSet'.driver.capacity
  eq : waitSet.maxHandles ≠ 0 → waitSet.maxHandles < waitSet.driver.capacity →
    waitSet'.driver.capacity = waitSet.driver.capacity

namespace WaitSet.Enlarged

variable {waitSet waitSet' waitSet'' : WaitSet}

theorem refl (waitSet : WaitSet) : waitSet.Enlarged waitSet :=
  ⟨rfl, rfl, Nat.le_refl _, fun _ _ => rfl⟩

theorem trans (h : waitSet.Enlarged waitSet') (h' : waitSet'.Enlarged waitSet'') :
    waitSet.Enlarged waitSet'' := by
  refine ⟨h'.maxHandles.trans h.maxHandles, h'.guard.trans h.guard, Nat.le_trans h.le h'.le,
    fun hlimit hroom => ?_⟩
  have heq := h.eq hlimit hroom
  refine (h'.eq ?_ ?_).trans heq
  · rwa [h.maxHandles]
  · rwa [h.maxHandles, heq]

theorem driver {driver : Wake.Driver} (h : driver.capacity = waitSet.driver.capacity) :
    waitSet.Enlarged { waitSet with driver } :=
  ⟨rfl, rfl, Nat.le_of_eq h.symm, fun _ _ => h⟩

/-- More slots are reserved only for more handles than a limit allows. -/
theorem reserve {needed : Nat} (hreserve : waitSet.reserve needed = .ok waitSet')
    (hfew : waitSet.maxHandles ≠ 0 → needed ≤ waitSet.maxHandles + 1) :
    waitSet.Enlarged waitSet' := by
  unfold WaitSet.reserve at hreserve
  split at hreserve
  · cases hreserve
    exact refl waitSet
  · next hlacks =>
    unfold Wake.Driver.create at hreserve
    split at hreserve
    · cases hreserve
    · cases hreserve
      refine ⟨rfl, rfl, ?_, fun hlimit hroom => ?_⟩
      · exact Nat.le_trans (Nat.le_of_not_le hlacks) (Nat.le_max_left ..)
      · have hneeded := hfew hlimit
        omega

end WaitSet.Enlarged

/-- Each wait set has as many slots or more, and there are no others. -/
def Switchboard.Enlarged (board board' : Switchboard) : Prop :=
  ∀ k, Option.Rel WaitSet.Enlarged (board.waitSets.find? k) (board'.waitSets.find? k)

namespace Switchboard.Enlarged

variable {board board' board'' : Switchboard} {k : WaitSetId} {waitSet : WaitSet}

theorem of_waitSets (h : board'.waitSets = board.waitSets) : board.Enlarged board' := by
  intro k
  rw [h]
  cases board.waitSets.find? k with
  | none => exact .none
  | some waitSet => exact .some (.refl waitSet)

theorem forth (h : board.Enlarged board') (hfind : board.waitSets.find? k = some waitSet) :
    ∃ waitSet', board'.waitSets.find? k = some waitSet' ∧ waitSet.Enlarged waitSet' := by
  have hk := h k
  rw [hfind] at hk
  generalize board'.waitSets.find? k = found at hk
  cases hk with
  | some henlarged => exact ⟨_, rfl, henlarged⟩

theorem back (h : board.Enlarged board') {waitSet' : WaitSet}
    (hfind : board'.waitSets.find? k = some waitSet') :
    ∃ waitSet, board.waitSets.find? k = some waitSet ∧ waitSet.Enlarged waitSet' := by
  have hk := h k
  rw [hfind] at hk
  generalize board.waitSets.find? k = found at hk
  cases hk with
  | some henlarged => exact ⟨_, rfl, henlarged⟩

/-- Another wait set in the place of one. -/
theorem replace {waitSet' : WaitSet} (hfind : board.waitSets.find? k = some waitSet)
    (henlarged : waitSet.Enlarged waitSet') (hself : board'.waitSets.find? k = some waitSet')
    (hother : ∀ j, j ≠ k → board'.waitSets.find? j = board.waitSets.find? j) :
    board.Enlarged board' := by
  intro j
  by_cases hj : j = k
  · subst hj
    rw [hfind, hself]
    exact .some henlarged
  · rw [hother j hj]
    cases board.waitSets.find? j with
    | none => exact .none
    | some waitSet => exact .some (.refl waitSet)

theorem setDriver {driver : Wake.Driver} (hfind : board.waitSets.find? k = some waitSet)
    (hcapacity : driver.capacity = waitSet.driver.capacity) :
    board.Enlarged (board.setDriver k driver) := by
  refine replace hfind (.driver hcapacity) (find?_setDriver_self hfind driver) fun j hj => ?_
  rw [find?_setDriver, if_neg hj]

theorem notify (board : Switchboard) (source : Source) : board.Enlarged (board.notify source) := by
  have hsignals : ∀ (hooks : List Hook) (driver : Wake.Driver),
      (hooks.foldl (fun driver h => driver.signal h.registration.slot) driver).capacity =
        driver.capacity := by
    intro hooks driver
    induction hooks generalizing driver with
    | nil => rfl
    | cons hook rest ih => exact (ih _).trans (Wake.Driver.capacity_signal ..)
  intro k
  unfold Switchboard.notify
  rw [Table.find?_map]
  cases board.waitSets.find? k with
  | none => exact .none
  | some waitSet => exact .some (.driver (hsignals ..))

end Switchboard.Enlarged

/-! ## Steps -/

theorem Call.Step.enlarged {locked : Source → Prop} {k : WaitSetId} {ctx ctx' : Context}
    {call call' : Option Call} (h : Call.Step locked k ctx call ctx' call') :
    ctx.board.Enlarged ctx'.board := by
  cases h with
  | start hfind hfew hreserve =>
    refine .replace hfind (.reserve hreserve fun hlimit => ?_) ?_ fun j hj => ?_
    · exact Nat.succ_le_succ (Nat.le_of_not_lt fun hmany => hfew ⟨hlimit, hmany⟩)
    · rw [Table.find?_insert, if_pos rfl]
    · rw [Table.find?_insert, if_neg hj]
  | claim hclaim =>
    obtain ⟨-, rfl⟩ := Switchboard.claim_eq_some hclaim
    exact .of_waitSets rfl
  | register hregister =>
    obtain ⟨waitSet, driver, hfind, hreg, rfl⟩ := Switchboard.register_eq_ok hregister
    obtain ⟨slots, -, rfl⟩ := Wake.Driver.register_eq_ok hreg
    exact .setDriver hfind rfl
  | lower hfind => exact .setDriver hfind rfl
  | takeWord hfind hword => exact .setDriver hfind rfl
  | @release session outcome hook =>
    unfold Switchboard.release
    split
    · exact .of_waitSets rfl
    · next waitSet hfind => exact .setDriver hfind (Wake.Driver.capacity_release ..)
  | @poll session found source rest => cases source <;> exact .of_waitSets rfl
  | giveBack | attach | refuse | scan | skip | ready | noneReady | listed | cancelled | goOn | expire
  | block | wake | timeUp | drained | detach | unclaim | finish => exact .of_waitSets rfl

theorem Notifying.Step.enlarged {locked : Source → Prop} {ctx ctx' : Context}
    {notifying notifying' : Notifying} (h : Notifying.Step locked ctx notifying ctx' notifying') :
    ctx.board.Enlarged ctx'.board := by
  cases h with
  | markNew hfind | markOld hfind | raise hfind => exact .setDriver hfind rfl
  | call => exact .of_waitSets (congrArg (·.waitSets) (Context.board_callBack ..))
  | trigger | change | lock | unlock => exact .of_waitSets rfl

/-- The number of the wait set is taken, and with that number there is nothing else than what became
of it. -/
structure Switchboard.Keeps (board : Switchboard) (k : WaitSetId) (waitSet : WaitSet) : Prop where
  lt : k < board.nextWaitSet
  enlarged : ∀ waitSet', board.waitSets.find? k = some waitSet' → waitSet.Enlarged waitSet'

namespace Switchboard.Keeps

variable {board board' : Switchboard} {k : WaitSetId} {waitSet : WaitSet}

theorem change (h : board.Keeps k waitSet) (hstock : board.SameStock board')
    (henlarged : board.Enlarged board') : board'.Keeps k waitSet := by
  refine ⟨hstock.nextWaitSet ▸ h.lt, fun waitSet' hfind' => ?_⟩
  obtain ⟨mid, hmid, hone⟩ := henlarged.back hfind'
  exact (h.enlarged mid hmid).trans hone

theorem apart {free : WaitSetId → Prop} {ctx ctx' : Context} (h : ctx.board.Keeps k waitSet)
    (hapart : ctx.Apart free ctx') : ctx'.board.Keeps k waitSet := by
  refine ⟨Nat.lt_of_lt_of_le h.lt hapart.nextWaitSet, fun waitSet' hfind' => ?_⟩
  rcases hapart.waitSets k with hsame | ⟨hnew | ⟨-, hgone⟩, -⟩
  · exact h.enlarged waitSet' (hsame.symm.trans hfind')
  · exact absurd h.lt (Nat.not_lt_of_le hnew)
  · cases hgone.symm.trans hfind'

end Switchboard.Keeps

theorem Threads.Steps.keeps {threads threads' : Threads} (h : Threads.Steps threads threads')
    {k : WaitSetId} {waitSet : WaitSet} (hkeeps : threads.ctx.board.Keeps k waitSet) :
    threads'.ctx.board.Keeps k waitSet := by
  induction h with
  | refl => exact hkeeps
  | tail _ hstep ih =>
    cases hstep with
    | call h => exact ih.change h.sameStock h.enlarged
    | notify h => exact ih.change h.sameStock h.enlarged
    | edit h => exact ih.apart h.apart

/-- A wait set is gone only once it is dropped, for which it must not have a wait. -/
theorem Threads.Step.dropped {threads threads' : Threads} (h : Threads.Step threads threads')
    {k : WaitSetId} (hmem : k ∈ threads.ctx.board.waitSets.keys)
    (hgone : k ∉ threads'.ctx.board.waitSets.keys) :
    threads.calls k = none ∧ threads' = { threads with ctx := threads.ctx.dropWaitSet k } := by
  cases h with
  | call h => exact absurd ((h.sameStock.keys k).2 hmem) hgone
  | notify h => exact absurd ((h.sameStock.keys k).2 hmem) hgone
  | edit h =>
    cases h with
    | aside hboard => exact absurd (hboard.symm ▸ hmem) hgone
    | createGuard => exact absurd hmem hgone
    | createWaitSet maxHandles =>
      refine absurd ?_ hgone
      unfold Context.createWaitSet
      split
      · next id board hnew =>
        obtain ⟨-, rfl⟩ := Switchboard.newWaitSet_eq_ok hnew
        exact Table.mem_keys_insert.2 (Or.inr hmem)
      · exact hmem
    | @dropWaitSet id hfree =>
      obtain rfl : k = id := not_not.1 fun hne => hgone (Table.mem_keys_erase.2 ⟨hne, hmem⟩)
      exact ⟨hfree, rfl⟩

/-! ## Wait sets with a limit -/

/-- A wait set with a limit has a slot for each handle and one for its own guard. -/
def WaitSet.Sized (waitSet : WaitSet) : Prop :=
  waitSet.maxHandles ≠ 0 → waitSet.maxHandles < maxSlots →
    waitSet.driver.capacity = waitSet.maxHandles + 1

theorem WaitSet.Enlarged.sized {waitSet waitSet' : WaitSet} (h : waitSet.Enlarged waitSet')
    (hsized : waitSet.Sized) : waitSet'.Sized := by
  unfold WaitSet.Sized
  rw [h.maxHandles]
  intro hlimit hmax
  have hcapacity := hsized hlimit hmax
  exact (h.eq hlimit (by omega)).trans hcapacity

/-- All wait sets with a limit have their slots. -/
def Switchboard.Sized (board : Switchboard) : Prop :=
  ∀ k waitSet, board.waitSets.find? k = some waitSet → waitSet.Sized

namespace Switchboard.Sized

variable {board board' : Switchboard}

theorem enlarged (h : board.Sized) (henlarged : board.Enlarged board') : board'.Sized := by
  intro k waitSet' hfind'
  obtain ⟨waitSet, hfind, hone⟩ := henlarged.back hfind'
  exact hone.sized (h k waitSet hfind)

theorem newWaitSet (h : board.Sized) {maxHandles slots : Nat} {id : WaitSetId}
    (hnew : board.newWaitSet maxHandles slots = .ok (id, board')) : board'.Sized := by
  obtain ⟨-, rfl⟩ := newWaitSet_eq_ok hnew
  intro k waitSet hfind
  rw [Table.find?_insert] at hfind
  split at hfind
  · obtain rfl := Option.some.inj hfind
    intro hlimit hmax
    show WaitSet.initialCapacity maxHandles slots = maxHandles + 1
    rw [WaitSet.initialCapacity, if_neg hlimit, Nat.min_eq_left hmax]
  · exact h k waitSet hfind

theorem dropWaitSet (h : board.Sized) (id : WaitSetId) : (board.dropWaitSet id).Sized := by
  intro k waitSet hfind
  unfold Switchboard.dropWaitSet at hfind
  rw [Table.find?_erase] at hfind
  split at hfind
  · cases hfind
  · exact h k waitSet hfind

theorem turns (h : board.Sized) (hturns : board.Turns board') : board'.Sized := by
  induction hturns with
  | refl => exact h
  | notify _ source ih => exact ih.enlarged (Enlarged.notify _ source)
  | @trigger board' _ guard ih =>
    have hset : Sized { board' with guards := board'.guards.set guard true } := ih
    unfold Switchboard.trigger
    split
    · exact ih
    · exact hset.enlarged (Enlarged.notify _ (.guard guard))
  | newGuard _ ih => exact ih
  | newWaitSet _ hnew ih => exact ih.newWaitSet hnew
  | dropWaitSet _ id ih => exact ih.dropWaitSet id

end Switchboard.Sized

theorem Context.Reachable.sized {ctx : Context} (h : ctx.Reachable) : ctx.board.Sized := by
  have hnew : Switchboard.Sized { Switchboard.empty with guards := [false] } :=
    fun k waitSet hfind => by cases hfind
  exact hnew.turns h.turns

/-! ## Room for a wait -/

/-- The sources held by a wait are among those that it is about. -/
def Call.Within (call : Call) : Prop :=
  call.held ⊆ waitSources call.session.guard call.session.handles

namespace Call

variable {locked : Source → Prop} {k : WaitSetId} {ctx ctx' : Context} {call : Call}

theorem Sound.within {board : Switchboard} (h : call.Sound k board) {todo : List Source}
    (htodo : call.stage.remaining = some todo) : call.Within := by
  intro source hmem
  rw [← h.remaining todo htodo]
  rcases List.mem_append.1 hmem with hmidway | henrolled
  · refine List.mem_append_right _ ?_
    obtain ⟨session, stage⟩ := call
    cases stage with
    | claimed | registered =>
      obtain rfl := Option.some.inj htodo
      obtain rfl := List.mem_singleton.1 hmidway
      exact List.mem_cons_self
    | detached | released => cases htodo
    | _ => cases hmidway
  · exact List.mem_append_left _ henrolled

theorem length_hooks_le (call : Call) : call.hooks.length ≤ call.held.length := by
  obtain ⟨session, stage⟩ := call
  unfold hooks held
  rw [List.length_append, List.length_append, List.length_map]
  refine Nat.add_le_add_right ?_ _
  cases stage <;> exact Nat.le_of_ble_eq_true rfl

/-- A wait holds no more sources than it has handles, its own guard counted once. -/
theorem Sound.length_held_le {board : Switchboard} (h : call.Sound k board) (hwithin : call.Within) :
    call.held.length ≤ requestedHandles call.session.guard call.session.handles + 1 := by
  have hothers : call.held.countP (· ≠ .guard call.session.guard) ≤ _ :=
    (List.subperm_of_subset h.nodup_held hwithin).countP_le _
  have hown : call.held.countP (fun source => ¬ (source ≠ .guard call.session.guard)) ≤ 1 := by
    refine Nat.le_trans (Nat.le_of_eq (List.countP_congr fun source _ => ?_))
      (List.nodup_iff_count_le_one.1 h.nodup_held (.guard call.session.guard))
    simp
  have hlength := @List.length_eq_countP_add_countP _
    (fun source => decide (source ≠ .guard call.session.guard)) call.held
  rw [countP_waitSources] at hothers
  simp only [decide_eq_true_eq] at hlength
  omega

/-- A step of a wait leaves it with sources that it is about. -/
theorem Step.within {call : Option Call} {call' : Call}
    (h : Step locked k ctx call ctx' (some call')) (hsound : call'.Sound k ctx'.board)
    (hwithin : ∀ c, call = some c → c.Within) : call'.Within := by
  cases hremaining : call'.stage.remaining with
  | some todo => exact hsound.within hremaining
  | none =>
    cases h with
    | refuse | ready | cancelled | expire | release =>
      exact fun source hmem => hwithin _ rfl hmem
    | giveBack | unclaim => exact fun source hmem => hwithin _ rfl (List.mem_cons_of_mem _ hmem)
    | detach henrolled =>
      intro source hmem
      refine hwithin _ rfl ?_
      simp only [held, Stage.midway, henrolled]
      exact hmem
    | _ => cases hremaining

/-- What a wait of a wait set was provided with: room for all of its sources.  It does not end for want
of it. -/
structure Provided (k : WaitSetId) (board : Switchboard) (call : Call) : Prop where
  within : call.Within
  room : ∃ waitSet, board.waitSets.find? k = some waitSet ∧ waitSet.guard = call.session.guard ∧
    requestedHandles call.session.guard call.session.handles + 1 ≤ waitSet.driver.capacity
  served : ∀ outcome, call.Returns outcome → outcome.result ≠ .error .badAlloc

namespace Provided

variable {board board' : Switchboard}

theorem enlarged (h : call.Provided k board) (henlarged : board.Enlarged board') :
    call.Provided k board' := by
  obtain ⟨waitSet, hfind, hguard, hroom⟩ := h.room
  obtain ⟨waitSet', hfind', hone⟩ := henlarged.forth hfind
  exact ⟨h.within, ⟨waitSet', hfind', hone.guard.trans hguard, Nat.le_trans hroom hone.le⟩, h.served⟩

theorem congr (h : call.Provided k board)
    (hsame : board'.waitSets.find? k = board.waitSets.find? k) : call.Provided k board' :=
  ⟨h.within, hsame ▸ h.room, h.served⟩

/-- No more slots are registered than there are sources, and those have room. -/
theorem activeSlots_le (h : call.Provided k board) (hsound : call.Sound k board)
    {waitSet : WaitSet} (htidy : Tidy waitSet call.hooks) :
    waitSet.driver.activeSlots ≤ requestedHandles call.session.guard call.session.handles + 1 :=
  htidy.active ▸ Nat.le_trans call.length_hooks_le (hsound.length_held_le h.within)

/-- A wait that has claimed a source finds a slot for it. -/
theorem exists_register {session : Session} {source : Source} {todo : List Source}
    (h : Provided k board ⟨session, .claimed source todo⟩)
    (hsound : Sound k board ⟨session, .claimed source todo⟩)
    (htidy : ∀ waitSet, board.waitSets.find? k = some waitSet → Tidy waitSet session.enrolled) :
    ∃ result, board.register k = .ok result := by
  obtain ⟨waitSet, hfind, -, hroom⟩ := h.room
  have hheld : session.enrolled.length + 1 ≤
      requestedHandles session.guard session.handles + 1 := by
    simpa [held, Stage.midway] using hsound.length_held_le h.within
  have hactive := (htidy waitSet hfind).active
  obtain ⟨registration, driver, hregister⟩ :=
    Wake.Driver.exists_register (htidy waitSet hfind).tallied
      (hactive ▸ Nat.le_trans hheld hroom)
  unfold Switchboard.register
  rw [hfind]
  dsimp only
  rw [hregister]
  exact ⟨_, rfl⟩

end Provided

/-- Each step of a wait leaves it provided. -/
theorem Step.provided {call call' : Option Call} (h : Step locked k ctx call ctx' call')
    (hsound : ∀ c, call = some c → c.Sound k ctx.board)
    (hafter : ∀ c, call' = some c → c.Sound k ctx'.board)
    (htidy : ∀ waitSet, ctx.board.waitSets.find? k = some waitSet → Tidy waitSet (hooksOf call))
    (hprovided : ∀ c, call = some c → c.Provided k ctx.board) :
    ∀ c, call' = some c → c.Provided k ctx'.board := by
  rintro call' rfl
  refine ⟨h.within (hafter _ rfl) fun c hc => (hprovided c hc).within, ?_, ?_⟩
  · cases call with
    | some call =>
      obtain ⟨hguard, hhandles, -⟩ := h.session
      rw [hguard, hhandles]
      exact ((hprovided call rfl).enlarged h.enlarged).room
    | none =>
      cases h with
      | @start waitSet reserved handles deadline hfind hfew hreserve =>
        obtain ⟨other, hother, hroom, -⟩ :=
          waitSet.exists_reserve (Nat.succ_pos (requestedHandles waitSet.guard handles))
        obtain rfl : other = reserved := Except.ok.inj (hother.symm.trans hreserve)
        have hguard : other.guard = waitSet.guard := by
          rcases WaitSet.reserve_eq_ok hreserve with rfl | ⟨capacity, rfl⟩ <;> rfl
        refine ⟨other, by rw [Table.find?_insert, if_pos rfl], rfl, ?_⟩
        dsimp only
        rwa [hguard]
  · intro outcome hreturns
    cases h with
    | @giveBack session source todo error hregister =>
      obtain ⟨result, hok⟩ := (hprovided _ rfl).exists_register (hsound _ rfl) htidy
      cases hok.symm.trans hregister
    | refuse | ready | cancelled | expire =>
      obtain rfl := hreturns
      exact fun h => nomatch h
    | detach | release | unclaim => exact (hprovided _ rfl).served outcome hreturns
    | _ => cases hreturns

end Call

/-! ## All wait sets at once -/

namespace Threads

variable {threads threads' : Threads}

/-- In every state that is reached, wait sets with a limit have their slots and waits are provided. -/
theorem Reachable.provided (h : Reachable threads) :
    threads.ctx.board.Sized ∧
      ∀ k c, threads.calls k = some c → c.Provided k threads.ctx.board := by
  induction h with
  | start hctx => exact ⟨hctx.sized, fun k c hc => by cases hc⟩
  | @step threads threads' hreachable hstep ih =>
    obtain ⟨hsized, hprovided⟩ := ih
    have hsound := hreachable.invariants.1
    have hafter := (hreachable.step hstep).invariants.1
    cases hstep with
    | @call id ctx call h =>
      refine ⟨hsized.enlarged h.enlarged, fun k c hc => ?_⟩
      by_cases hk : k = id
      · subst hk
        have hself : Function.update threads.calls k call k = call := Function.update_self ..
        refine h.provided (hsound.call k) (fun c' hc' => ?_) (hreachable.restored.tidy k)
          (hprovided k) c (hself.symm.trans hc)
        exact hafter.call k c' (hself.trans hc')
      · exact (hprovided k c ((Function.update_of_ne hk ..).symm.trans hc)).enlarged h.enlarged
    | notify h =>
      exact ⟨hsized.enlarged h.enlarged, fun k c hc => (hprovided k c hc).enlarged h.enlarged⟩
    | edit h =>
      refine ⟨hsized.turns h.turns, fun k c hc => (hprovided k c hc).congr ?_⟩
      exact hsound.find?_of_apart hreachable.numbered h.apart hc

/-- A wait of a wait set without a wait fails by a timeout only, unless it is refused. -/
theorem Reachable.error_wait (h : Reachable threads) {k : WaitSetId} {waitSet : WaitSet}
    (hnone : threads.calls k = none) (hfind : threads.ctx.board.waitSets.find? k = some waitSet)
    {handles kept : List (Option Source)} {timeout : Option Nat} {now : Nat}
    {intervals : List Context.Interval} {error : Error}
    (herror : (threads.ctx.wait k handles timeout now intervals).2 = .finished ⟨.error error, kept⟩) :
    error = .timeout ∨
      threads.ctx.Refuses waitSet handles ∧ ∃ argument, error = .invalidArgument argument := by
  have htidy := h.restored.tidy k waitSet hfind
  rw [hnone] at htidy
  rcases Context.startWait_passed hfind htidy handles timeout now with
    ⟨hrefused, argument, board, hresult, -⟩ | ⟨hnot, hpassed⟩
  · right
    unfold Context.wait at herror
    rw [hresult] at herror
    refine ⟨hrefused, argument, ?_⟩
    cases intervals <;> cases herror <;> rfl
  · left
    have hnodup : (handles.filterMap id).Nodup :=
      not_not.1 fun htwice => hnot (Or.inr (Or.inl htwice))
    have hend := hpassed.followWait hnodup intervals
    rw [show Context.followWait _ intervals = threads.ctx.wait k handles timeout now intervals
      from rfl] at hend
    generalize threads.ctx.wait k handles timeout now intervals = result at herror hend
    obtain ⟨after, progress⟩ := result
    obtain rfl : progress = _ := herror
    exact hend.1

/-- A wait set without a wait takes any handles within its limit. -/
theorem exists_start {k : WaitSetId} {waitSet : WaitSet}
    (hfind : threads.ctx.board.waitSets.find? k = some waitSet) {handles : List (Option Source)}
    (hfew : waitSet.maxHandles = 0 ∨ requestedHandles waitSet.guard handles ≤ waitSet.maxHandles) :
    ∃ ctx c, Call.Step threads.Locked k threads.ctx none ctx (some c) ∧
      c.session.handles = handles := by
  obtain ⟨reserved, hreserve, -⟩ :=
    waitSet.exists_reserve (Nat.succ_pos (requestedHandles waitSet.guard handles))
  refine ⟨_, _, @Call.Step.start _ k threads.ctx waitSet reserved handles none hfind ?_ hreserve, rfl⟩
  rintro ⟨hlimit, hmany⟩
  exact Nat.not_lt_of_le (hfew.resolve_left hlimit) hmany

/-- A wait under way has room for its sources, and no more slots are registered than that. -/
theorem Reachable.room (h : Reachable threads) {k : WaitSetId} {waitSet : WaitSet}
    (hfind : threads.ctx.board.waitSets.find? k = some waitSet) {c : Call}
    (hc : threads.calls k = some c) :
    waitSet.driver.activeSlots ≤ requestedHandles waitSet.guard c.session.handles + 1 ∧
      requestedHandles waitSet.guard c.session.handles + 1 ≤ waitSet.driver.capacity := by
  have hprovided := h.provided.2 k c hc
  have htidy := h.restored.tidy k waitSet hfind
  rw [hc] at htidy
  obtain ⟨other, hother, hguard, hroom⟩ := hprovided.room
  obtain rfl : other = waitSet := Option.some.inj (hother.symm.trans hfind)
  rw [hguard]
  exact ⟨hprovided.activeSlots_le (h.invariants.1.call k c hc) htidy, hroom⟩

/-- As long as a wait set is not dropped it has as many slots or more, and its slots if it has a
limit. -/
theorem Reachable.stays (h : Reachable threads) {k : WaitSetId} {waitSet : WaitSet}
    (hfind : threads.ctx.board.waitSets.find? k = some waitSet) (hsteps : Steps threads threads')
    {waitSet' : WaitSet} (hfind' : threads'.ctx.board.waitSets.find? k = some waitSet') :
    waitSet.Enlarged waitSet' ∧ waitSet'.Sized := by
  have hkeeps : threads.ctx.board.Keeps k waitSet := by
    refine ⟨h.numbered k (Table.mem_keys_iff.2 ⟨waitSet, hfind⟩), fun same hsame => ?_⟩
    obtain rfl : waitSet = same := Option.some.inj (hfind.symm.trans hsame)
    exact .refl waitSet
  have hone := (hsteps.keeps hkeeps).enlarged waitSet' hfind'
  exact ⟨hone, hone.sized (h.provided.1 k waitSet hfind)⟩

/-- A wait with handles that are within the limit, distinct and unclaimed is not refused. -/
theorem Reachable.accepts (h : Reachable threads) {k : WaitSetId} {waitSet : WaitSet}
    (hnone : threads.calls k = none) (hfind : threads.ctx.board.waitSets.find? k = some waitSet)
    {handles : List (Option Source)}
    (hfew : waitSet.maxHandles = 0 ∨ requestedHandles waitSet.guard handles ≤ waitSet.maxHandles)
    (hnodup : (handles.filterMap id).Nodup)
    (hfree : ∀ source ∈ waitSources waitSet.guard handles, source ∉ threads.ctx.board.claimed)
    {kept : List (Option Source)} {timeout : Option Nat} {now : Nat}
    {intervals : List Context.Interval} {error : Error}
    (hkept : (threads.ctx.wait k handles timeout now intervals).2 =
      .finished ⟨.error error, kept⟩) :
    error = .timeout := by
  refine (h.error_wait hnone hfind hkept).resolve_right ?_
  rintro ⟨⟨hlimit, hmany⟩ | htwice | ⟨source, hmem, hclaimed⟩, -⟩
  · rcases hfew with hzero | hle
    · exact hlimit hzero
    · exact Nat.not_lt_of_le hle hmany
  · exact htwice hnodup
  · exact hfree source hmem hclaimed

/-- Slots always suffice, for any wait set and whatever its waits list.  With a limit it has a slot
for each handle and one for its own guard, now and later.  A wait under way has room for its handles
other than that guard and one source more, has registered no more slots than that, and does not end
for want of one.  With handles within the limit, the guard of the wait set aside, a wait can start,
and it is not refused if they are distinct and unclaimed.  A wait set never has fewer slots than
before and keeps the room that was made for a wait, for as long as it is there; it is gone only once
it is dropped, for which it must not have a wait. -/
theorem Reachable.slots_suffice (h : Reachable threads) {k : WaitSetId} {waitSet : WaitSet}
    (hfind : threads.ctx.board.waitSets.find? k = some waitSet)
    (hmax : waitSet.maxHandles < maxSlots) :
    (waitSet.maxHandles ≠ 0 → waitSet.driver.capacity = waitSet.maxHandles + 1) ∧
    (∀ c, threads.calls k = some c →
      waitSet.driver.activeSlots ≤ requestedHandles waitSet.guard c.session.handles + 1 ∧
      requestedHandles waitSet.guard c.session.handles + 1 ≤ waitSet.driver.capacity ∧
      ∀ outcome, c.Returns outcome → outcome.result ≠ .error .badAlloc) ∧
    (threads.calls k = none → ∀ handles timeout now intervals,
      (∀ kept, (threads.ctx.wait k handles timeout now intervals).2 ≠
        .finished ⟨.error .badAlloc, kept⟩) ∧
      ((waitSet.maxHandles = 0 ∨ requestedHandles waitSet.guard handles ≤ waitSet.maxHandles) →
        (∃ ctx c, Call.Step threads.Locked k threads.ctx none ctx (some c) ∧
          c.session.handles = handles) ∧
        ((handles.filterMap id).Nodup →
          (∀ source ∈ waitSources waitSet.guard handles, source ∉ threads.ctx.board.claimed) →
          ∀ error kept, (threads.ctx.wait k handles timeout now intervals).2 =
            .finished ⟨.error error, kept⟩ → error = .timeout))) ∧
    (∀ threads', Steps threads threads' →
      ∀ waitSet', threads'.ctx.board.waitSets.find? k = some waitSet' →
        waitSet'.maxHandles = waitSet.maxHandles ∧ waitSet'.guard = waitSet.guard ∧
        waitSet.driver.capacity ≤ waitSet'.driver.capacity ∧
        (waitSet.maxHandles ≠ 0 → waitSet'.driver.capacity = waitSet.maxHandles + 1) ∧
        ∀ c, threads.calls k = some c →
          requestedHandles waitSet.guard c.session.handles + 1 ≤ waitSet'.driver.capacity) ∧
    ∀ threads', Step threads threads' → threads'.ctx.board.waitSets.find? k = none →
      threads.calls k = none ∧ threads' = { threads with ctx := threads.ctx.dropWaitSet k } := by
  refine ⟨fun hlimit => h.provided.1 k waitSet hfind hlimit hmax, fun c hc => ?_,
    fun hnone handles timeout now intervals => ⟨fun kept hkept => ?_, fun hfew =>
      ⟨exists_start hfind hfew, fun hnodup hfree error kept hkept => ?_⟩⟩,
    fun threads' hsteps waitSet' hfind' => ?_, fun threads' hstep hgone => ?_⟩
  · obtain ⟨hactive, hroom⟩ := h.room hfind hc
    exact ⟨hactive, hroom, (h.provided.2 k c hc).served⟩
  · rcases h.error_wait hnone hfind hkept with htimeout | ⟨-, argument, hargument⟩
    · cases htimeout
    · cases hargument
  · exact h.accepts hnone hfind hfew hnodup hfree hkept
  · obtain ⟨hone, hsized⟩ := h.stays hfind hsteps hfind'
    unfold WaitSet.Sized at hsized
    rw [hone.maxHandles] at hsized
    refine ⟨hone.maxHandles, hone.guard, hone.le, fun hlimit => hsized hlimit hmax, fun c hc => ?_⟩
    exact Nat.le_trans (h.room hfind hc).2 hone.le
  · exact hstep.dropped (Table.mem_keys_iff.2 ⟨waitSet, hfind⟩) (Table.find?_eq_none_iff.1 hgone)

/-- A wait set with a limit of one has two slots.  A wait that lists its guard and another one is not
refused, and comes to register both of them. -/
theorem Reachable.exists_slots_suffice :
    (∃ threads waitSet, Reachable threads ∧ threads.calls 0 = none ∧
      threads.ctx.board.waitSets.find? 0 = some waitSet ∧ waitSet.maxHandles = 1 ∧
      requestedHandles waitSet.guard [some (.guard waitSet.guard), some (.guard 2)] = 1 ∧
      ∀ error kept,
        (threads.ctx.wait 0 [some (.guard waitSet.guard), some (.guard 2)] (some 0) 0 []).2 =
          .finished ⟨.error error, kept⟩ → error = .timeout) ∧
    ∃ threads waitSet c, Reachable threads ∧ threads.calls 0 = some c ∧
      threads.ctx.board.waitSets.find? 0 = some waitSet ∧ waitSet.maxHandles = 1 ∧
      c.session.handles = [some (.guard waitSet.guard), some (.guard 2)] ∧
      waitSet.driver.activeSlots = 2 ∧ waitSet.driver.capacity = 2 ∧
      (∀ threads', Steps threads threads' → ∀ waitSet',
        threads'.ctx.board.waitSets.find? 0 = some waitSet' → waitSet'.driver.capacity = 2) ∧
      ∀ threads', Step threads threads' → threads'.ctx.board.waitSets.find? 0 ≠ none := by
  have hctx : Context.Reachable _ := ⟨.start 7,
    { domainId := 0, enclave := "/", discoveryRange := .localhost, discoveryPeers := [],
      instanceId := none, waitSetCapacity := 4, qosProfilePath := none },
    _, _, [.createWaitSet 1, .createGuard], rfl, rfl⟩
  have hboth := ((((((start hctx).step
    (@Step.call _ 0 _ _
      (@Call.Step.start _ _ _ _ _ [some (.guard 1), some (.guard 2)] none rfl (by decide) rfl))).step
    (@Step.call _ 0 _ _ (.claim rfl))).step
    (@Step.call _ 0 _ _ (.register rfl))).step
    (@Step.call _ 0 _ _ (.attach fun ⟨n, h⟩ => h))).step
    (@Step.call _ 0 _ _ (.claim rfl))).step
    (@Step.call _ 0 _ _ (.register rfl))
  refine ⟨?_, ?_⟩
  · obtain ⟨-, -, haccepts, -⟩ := slots_suffice (k := 0) (start hctx) rfl (by decide)
    obtain ⟨-, haccepted⟩ := haccepts rfl [some (.guard 1), some (.guard 2)] (some 0) 0 []
    obtain ⟨-, hends⟩ := haccepted (Or.inr (by decide))
    exact ⟨_, _, start hctx, rfl, rfl, rfl, rfl,
      hends (by decide) fun source _ hclaimed => nomatch hclaimed⟩
  · obtain ⟨hlimit, -, -, hlater, hgone⟩ := slots_suffice (k := 0) hboth rfl (by decide)
    refine ⟨_, _, _, hboth, rfl, rfl, rfl, rfl, rfl, hlimit (by decide),
      fun threads' hsteps waitSet' hfind' => ?_, fun threads' hstep hnone => ?_⟩
    · obtain ⟨-, -, -, hcapacity, -⟩ := hlater threads' hsteps waitSet' hfind'
      exact hcapacity (by decide)
    · cases (hgone threads' hstep hnone).1

end Threads

end PubSub
