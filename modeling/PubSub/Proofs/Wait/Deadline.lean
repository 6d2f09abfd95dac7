import PubSub.Proofs.Wait.Claims
import PubSub.Proofs.Wait.Enrolment

/-!
# When a wait gives up

A wait reads the clock once its sources are enrolled, which fixes its deadline, and again after each
scan that finds nothing.  In between it may block, and nobody promises for how long: its driver may
be signalled for no reason, or report that time is over when it is not.  `Call.Waiting` follows a
wait through all of this, and `Call.Log` is what the wait did meanwhile.  Whatever the driver
answers, and whatever others do, the wait gives up only at its deadline and after a scan that found
nothing (`Context.wait_never_early`).
-/

namespace PubSub

/-! ## What a wait does -/

/-- The sources that a scan polls, in this order: those listed, and then the guard of the wait set
unless it is listed. -/
def Session.polled (session : Session) : List Source :=
  session.handles.filterMap id ++ if session.listsGuard then [] else [.guard session.guard]

/-- The sources of the wait could not be enrolled. -/
def WaitOutcome.IsRefusal (outcome : WaitOutcome) : Prop :=
  ∃ error, outcome.result = .error error ∧ error ≠ .timeout

namespace Call

/-- What a wait has done so far. -/
structure Log where
  /-- The number of scans that it began. -/
  scans : Nat
  /-- How often it blocked. -/
  blocks : Nat
  /-- What the last scan has polled, and whether it was ready. -/
  polls : List (Source × Bool)

/-- A wait that has done nothing. -/
def Log.empty : Log := ⟨0, 0, []⟩

/-- The source that the next step of a wait polls. -/
def polls (call : Call) : Option Source :=
  match call.stage with
  | .scanning _ (some source :: _) => some source
  | .checking _ => if call.session.listsGuard then none else some (.guard call.session.guard)
  | _ => none

/-- The log after a step of a wait, which leads to a stage. -/
def Log.next (log : Log) (ctx : Context) (call : Call) (stage : Stage) : Log :=
  match call.polls, stage with
  | some source, _ => { log with polls := log.polls ++ [(source, (ctx.poll source).1)] }
  | none, .scanning [] _ => { log with scans := log.scans + 1, polls := [] }
  | none, .blocked => { log with blocks := log.blocks + 1 }
  | none, _ => log

/-- What a step of a wait has to do with the clock.  It is read for the deadline when the enrolments
are made, and then to decide whether the wait blocks. -/
def Timely (start now : Nat) (call : Call) (stage : Stage) : Prop :=
  match call.stage with
  | .enrolling [] => now = start
  | .deciding _ => stage = .blocked ↔ call.session.deadline.any (· ≤ now) = false
  | _ => True

/-- A wait for the handles whose clock read `start` when they were enrolled.  The clock never goes
back.  Others may do anything to the context, and the driver may answer at any time. -/
inductive Waiting (id : WaitSetId) (handles : List (Option Source)) (timeout : Option Nat)
    (start : Nat) : Context → Call → Nat → Log → Prop
  | enter (locked : Source → Prop) {ctx ctx' : Context} {call : Call} {now : Nat}
      (hstep : Call.Step locked id ctx none ctx' (some call))
      (hhandles : call.session.handles = handles)
      (hdeadline : call.session.deadline = Wake.deadline? start timeout) :
      Waiting id handles timeout start ctx' call now .empty
  | step (locked : Source → Prop) {ctx ctx' : Context} {call call' : Call} {now now' : Nat}
      {log : Log} (h : Waiting id handles timeout start ctx call now log) (hlater : now ≤ now')
      (hstep : Call.Step locked id ctx (some call) ctx' (some call'))
      (htimely : call.Timely start now' call'.stage) :
      Waiting id handles timeout start ctx' call' now' (log.next ctx call call'.stage)
  | others {ctx : Context} {call : Call} {now now' : Nat} {log : Log}
      (h : Waiting id handles timeout start ctx call now log) (hlater : now ≤ now')
      (ctx' : Context) : Waiting id handles timeout start ctx' call now' log
  | answer {ctx : Context} {session : Session} {now now' : Nat} {log : Log}
      (h : Waiting id handles timeout start ctx ⟨session, .blocked⟩ now log) (hlater : now ≤ now') :
      Waiting id handles timeout start ctx ⟨session, .scanning [] session.handles⟩ now'
        (log.next ctx ⟨session, .blocked⟩ (.scanning [] session.handles))

/-! ## What the log says -/

/-- The polls of the last scan are those of the handles before the ones that are left, and as many
were ready as were found.  A wait that found nothing polled all that there is to poll. -/
def Log.Tells (log : Log) (call : Call) : Prop :=
  match call.stage with
  | .scanning found rest =>
    log.polls.map Prod.fst ++ rest.filterMap id = call.session.handles.filterMap id ∧
      found.count true = log.polls.countP Prod.snd
  | .checking _ => log.polls = (call.session.handles.filterMap id).map (·, false)
  | .deciding _ => log.polls = call.session.polled.map (·, false)
  | .leaving outcome | .detached _ outcome | .released _ outcome =>
    outcome.result = .error .timeout → log.polls = call.session.polled.map (·, false)
  | _ => True

/-- There is one scan before a wait blocks for the first time, and one after each time.  A wait that
is refused did not come so far. -/
def Log.Counts (log : Log) (start now : Nat) : Stage → Prop
  | .enrolling _ | .claimed .. | .registered .. => log.scans = 0 ∧ log.blocks = 0
  | .scanning .. | .checking _ | .deciding _ => start ≤ now ∧ log.scans = log.blocks + 1
  | .blocked | .woken | .draining _ => start ≤ now ∧ log.scans = log.blocks
  | .leaving outcome | .detached _ outcome | .released _ outcome =>
    (outcome.IsRefusal → log.scans = 0 ∧ log.blocks = 0) ∧
      (¬ outcome.IsRefusal → log.scans = log.blocks + 1)

section

variable {locked : Source → Prop} {id : WaitSetId} {ctx ctx' : Context} {call call' : Call}
  {log : Log} {start now now' : Nat}

theorem Log.next_of_polls_eq_none (hnone : call.polls = none) {stage : Stage}
    (hscan : ∀ rest, stage ≠ .scanning [] rest) (hblock : stage ≠ .blocked) :
    log.next ctx call stage = log := by
  unfold Log.next
  rw [hnone]
  split <;> simp_all

/-- Where no poll was ready, all of them are marked so. -/
theorem eq_map_of_countP_eq_zero {sources : List Source} {polls : List (Source × Bool)}
    (hfst : polls.map Prod.fst = sources) (hcount : polls.countP Prod.snd = 0) :
    polls = sources.map (·, false) := by
  subst hfst
  rw [List.map_map]
  refine (List.map_id' polls).symm.trans (List.map_congr_left fun poll hmem => ?_)
  exact Prod.ext rfl (Bool.eq_false_iff.2 (List.countP_eq_zero.1 hcount poll hmem))

theorem Step.tells (h : Step locked id ctx (some call) ctx' (some call'))
    (htells : log.Tells call) : (log.next ctx call call'.stage).Tells call' := by
  cases h with
  | scan | timeUp | drained => exact ⟨rfl, rfl⟩
  | @skip session found rest =>
    rw [Log.next_of_polls_eq_none rfl (by simp) (by simp)]
    obtain ⟨hsources, hcount⟩ := htells
    exact ⟨hsources, by simpa using hcount⟩
  | @poll session found source rest =>
    obtain ⟨hsources, hcount⟩ := htells
    refine ⟨?_, ?_⟩
    · show (log.polls ++ [_]).map Prod.fst ++ _ = _
      rw [List.map_append, List.append_assoc]
      exact hsources
    · show (found ++ [_]).count true = (log.polls ++ [_]).countP Prod.snd
      rw [List.count_append, List.countP_append, hcount]
      cases (ctx.poll source).1 <;> rfl
  | @noneReady session found hcount =>
    obtain ⟨hsources, hfound⟩ := htells
    rw [List.filterMap_nil, List.append_nil] at hsources
    exact eq_map_of_countP_eq_zero hsources (hfound.symm.trans hcount)
  | @listed session found hlists =>
    have hpolls : log.polls = _ := htells
    simp [Log.next, polls, Log.Tells, Session.polled, hlists, hpolls]
  | @goOn session found hlists hpoll =>
    have hpolls : log.polls = _ := htells
    simp [Log.next, polls, Log.Tells, Session.polled, hlists, hpolls, hpoll]
  | expire => exact fun _ => htells
  | detach | release | unclaim => exact htells
  | refuse => exact fun htimeout => by cases htimeout
  | giveBack hregister =>
    obtain rfl := Switchboard.register_eq_error hregister
    exact fun htimeout => by cases htimeout
  | ready => exact fun htimeout => by cases htimeout
  | cancelled => exact fun htimeout => by cases htimeout
  | _ => trivial

theorem Step.counts (h : Step locked id ctx (some call) ctx' (some call'))
    (hcounts : log.Counts start now call.stage) (hlater : now ≤ now')
    (htimely : call.Timely start now' call'.stage) :
    (log.next ctx call call'.stage).Counts start now' call'.stage := by
  have hlate : ∀ {P : Prop}, start ≤ now ∧ P → start ≤ now' ∧ P :=
    fun h => ⟨Nat.le_trans h.1 hlater, h.2⟩
  cases h with
  | claim | register | attach => exact hcounts
  | @refuse session source todo hclaim =>
    exact ⟨fun _ => hcounts, fun hnot => absurd ⟨_, rfl, by decide⟩ hnot⟩
  | giveBack hregister =>
    obtain rfl := Switchboard.register_eq_error hregister
    exact ⟨fun _ => hcounts, fun hnot => absurd ⟨_, rfl, by decide⟩ hnot⟩
  | scan =>
    obtain rfl : now' = start := htimely
    obtain ⟨hscans, hblocks⟩ := hcounts
    exact ⟨Nat.le_refl _, congrArg (· + 1) (hscans.trans hblocks.symm)⟩
  | skip =>
    rw [Log.next_of_polls_eq_none rfl (by simp) (by simp)]
    exact hlate hcounts
  | poll | noneReady | wake | lower | takeWord => exact hlate hcounts
  | listed hlists =>
    rw [Log.next_of_polls_eq_none (by simp [polls, hlists]) (by simp) (by simp)]
    exact hlate hcounts
  | goOn hlists hpoll =>
    simp only [Log.next, polls, hlists]
    exact hlate hcounts
  | cancelled hlists hpoll =>
    simp only [Log.next, polls, hlists]
    exact ⟨fun ⟨_, herror, _⟩ => (nomatch herror), fun _ => hcounts.2⟩
  | ready => exact ⟨fun ⟨_, herror, _⟩ => (nomatch herror), fun _ => hcounts.2⟩
  | expire =>
    exact ⟨fun ⟨_, herror, hne⟩ => absurd (Except.error.inj herror).symm hne, fun _ => hcounts.2⟩
  | block => exact hlate hcounts
  | timeUp | drained => exact hlate ⟨hcounts.1, congrArg (· + 1) hcounts.2⟩
  | detach | release | unclaim => exact hcounts

/-! ## The clock -/

theorem Log.blocks_next {stage : Stage} (hblock : stage ≠ .blocked) :
    (log.next ctx call stage).blocks = log.blocks := by
  unfold Log.next
  split <;> first | rfl | exact absurd rfl hblock

theorem Step.eq_deciding (h : Step locked id ctx (some call) ctx' (some call'))
    (hstage : call'.stage = .blocked) : ∃ found, call.stage = .deciding found := by
  cases h with
  | block => exact ⟨_, rfl⟩
  | _ => cases hstage

/-- A wait that is settled on a timeout was settled on it before, or had found nothing. -/
theorem Step.returns (h : Step locked id ctx (some call) ctx' (some call')) {outcome : WaitOutcome}
    (hreturns : call'.Returns outcome) (htimeout : outcome.result = .error .timeout) :
    call.Returns outcome ∨ ∃ found, call.stage = .deciding found := by
  cases h with
  | expire => exact Or.inr ⟨_, rfl⟩
  | detach | release | unclaim => exact Or.inl hreturns
  | giveBack hregister =>
    obtain rfl := Switchboard.register_eq_error hregister
    obtain rfl := hreturns
    cases htimeout
  | refuse | ready | cancelled =>
    obtain rfl := hreturns
    cases htimeout
  | _ => cases hreturns

theorem any_le_mono {deadline : Option Nat} (hlater : now ≤ now')
    (h : deadline.any (· ≤ now) = true) : deadline.any (· ≤ now') = true := by
  cases deadline with
  | none => cases h
  | some deadline => exact decide_eq_true (Nat.le_trans (of_decide_eq_true h) hlater)

theorem Log.Counts.later {stage : Stage} (h : log.Counts start now stage) (hlater : now ≤ now') :
    log.Counts start now' stage := by
  cases stage with
  | enrolling | claimed | registered | leaving | detached | released => exact h
  | scanning | checking | deciding | blocked | woken | draining =>
    exact ⟨Nat.le_trans h.1 hlater, h.2⟩

theorem Log.Counts.scans_le {stage : Stage} (h : log.Counts start now stage) :
    log.scans ≤ log.blocks + 1 := by
  cases stage with
  | enrolling | claimed | registered => exact h.1 ▸ Nat.zero_le _
  | scanning | checking | deciding => exact Nat.le_of_eq h.2
  | blocked | woken | draining => exact h.2 ▸ Nat.le_succ _
  | leaving outcome | detached hook outcome | released source outcome =>
    by_cases hrefusal : outcome.IsRefusal
    · exact (h.1 hrefusal).1 ▸ Nat.zero_le _
    · exact Nat.le_of_eq (h.2 hrefusal)

theorem Log.Counts.of_returns (h : log.Counts start now call.stage) {outcome : WaitOutcome}
    (hreturns : call.Returns outcome) :
    (outcome.IsRefusal → log.scans = 0) ∧ (¬ outcome.IsRefusal → log.scans = log.blocks + 1) := by
  obtain ⟨session, stage⟩ := call
  cases stage with
  | leaving | detached | released =>
    obtain rfl := hreturns
    exact ⟨fun hrefusal => (h.1 hrefusal).1, h.2⟩
  | _ => cases hreturns

/-- A wait that found nothing blocks if its deadline is still to come, and not otherwise. -/
theorem Timely.due_iff (htimely : call.Timely start now call'.stage) {found : List Bool}
    (hstage : call.stage = .deciding found) :
    call'.stage = .blocked ↔ call.session.deadline.any (· ≤ now) = false := by
  unfold Timely at htimely
  rwa [hstage] at htimely

end

/-! ## The course of a wait -/

/-- The log of a wait is right, it blocked only if its deadline was still to come, and it gave up
only at its deadline. -/
structure Log.Fits (log : Log) (start now : Nat) (call : Call) : Prop where
  tells : log.Tells call
  counts : log.Counts start now call.stage
  blocked : 0 < log.blocks → call.session.deadline.any (· ≤ start) = false
  expired : ∀ outcome, call.Returns outcome → outcome.result = .error .timeout →
    call.session.deadline.any (· ≤ now) = true

namespace Log.Fits

variable {locked : Source → Prop} {id : WaitSetId} {ctx ctx' : Context} {call call' : Call}
  {log : Log} {start now now' : Nat}

theorem enter (h : Call.Step locked id ctx none ctx' (some call)) :
    Log.empty.Fits start now call := by
  cases h with
  | start hfind hfew hreserve =>
    exact ⟨trivial, ⟨rfl, rfl⟩, fun hpos => absurd hpos (Nat.lt_irrefl 0), fun _ h => h.elim⟩

theorem step (h : log.Fits start now call) (hlater : now ≤ now')
    (hstep : Call.Step locked id ctx (some call) ctx' (some call'))
    (htimely : call.Timely start now' call'.stage) :
    (log.next ctx call call'.stage).Fits start now' call' := by
  obtain ⟨-, -, hdeadline⟩ := hstep.session
  refine ⟨hstep.tells h.tells, hstep.counts h.counts hlater htimely, fun hpos => ?_,
    fun outcome hreturns htimeout => ?_⟩
  · rw [hdeadline]
    by_cases hblock : call'.stage = .blocked
    · obtain ⟨found, hdeciding⟩ := hstep.eq_deciding hblock
      have hearly := (htimely.due_iff hdeciding).1 hblock
      have hcounts := h.counts
      rw [hdeciding] at hcounts
      refine Bool.eq_false_iff.2 fun hdue => ?_
      exact Bool.false_ne_true (hearly.symm.trans
        (any_le_mono (Nat.le_trans hcounts.1 hlater) hdue))
    · rw [Log.blocks_next hblock] at hpos
      exact h.blocked hpos
  · rw [hdeadline]
    rcases hstep.returns hreturns htimeout with hbefore | ⟨found, hdeciding⟩
    · exact any_le_mono hlater (h.expired outcome hbefore htimeout)
    · have hblock : call'.stage ≠ .blocked := by
        intro hblock
        unfold Returns at hreturns
        rw [hblock] at hreturns
        exact hreturns
      exact eq_true_of_ne_false ((htimely.due_iff hdeciding).not.1 hblock)

theorem later (h : log.Fits start now call) (hlater : now ≤ now') : log.Fits start now' call :=
  ⟨h.tells, h.counts.later hlater, h.blocked, fun outcome hreturns htimeout =>
    any_le_mono hlater (h.expired outcome hreturns htimeout)⟩

theorem answer {session : Session} (h : log.Fits start now ⟨session, .blocked⟩)
    (hlater : now ≤ now') :
    (log.next ctx ⟨session, .blocked⟩ (.scanning [] session.handles)).Fits start now'
      ⟨session, .scanning [] session.handles⟩ :=
  ⟨⟨rfl, rfl⟩, ⟨Nat.le_trans h.counts.1 hlater, congrArg (· + 1) h.counts.2⟩, h.blocked,
    fun _ hreturns => hreturns.elim⟩

end Log.Fits

namespace Waiting

variable {id : WaitSetId} {handles : List (Option Source)} {timeout : Option Nat} {start now : Nat}
  {ctx : Context} {call : Call} {log : Log}

theorem fits (h : Waiting id handles timeout start ctx call now log) : log.Fits start now call := by
  induction h with
  | enter _ hstep => exact .enter hstep
  | step _ _ hlater hstep htimely ih => exact ih.step hlater hstep htimely
  | others _ hlater _ ih => exact ih.later hlater
  | answer _ hlater ih => exact ih.answer hlater

theorem session_eq (h : Waiting id handles timeout start ctx call now log) :
    call.session.handles = handles ∧ call.session.deadline = Wake.deadline? start timeout := by
  induction h with
  | enter _ _ hhandles hdeadline => exact ⟨hhandles, hdeadline⟩
  | step _ _ _ hstep _ ih =>
    obtain ⟨-, hhandles, hdeadline⟩ := hstep.session
    exact ⟨hhandles.trans ih.1, hdeadline.trans ih.2⟩
  | others _ _ _ ih | answer _ _ ih => exact ih

/-- A wait that gives up does so at its deadline, after a scan that found nothing. -/
theorem timeout_due (h : Waiting id handles timeout start ctx call now log) {outcome : WaitOutcome}
    (hreturns : call.Returns outcome) (htimeout : outcome.result = .error .timeout) :
    (Wake.deadline? start timeout).any (· ≤ now) = true ∧
      log.polls = call.session.polled.map (·, false) := by
  refine ⟨h.session_eq.2 ▸ h.fits.expired outcome hreturns htimeout, ?_⟩
  have htells := h.fits.tells
  obtain ⟨session, stage⟩ := call
  cases stage with
  | leaving | detached | released =>
    obtain rfl := hreturns
    exact htells htimeout
  | _ => cases hreturns

/-- A wait whose deadline is there from the start does not block, and scans once unless it is
refused. -/
theorem scans_once (h : Waiting id handles timeout start ctx call now log)
    (hdue : (Wake.deadline? start timeout).any (· ≤ start) = true) :
    log.blocks = 0 ∧ log.scans ≤ 1 ∧
      ∀ outcome, call.Returns outcome → (log.scans = 1 ↔ ¬ outcome.IsRefusal) := by
  have hblocks : log.blocks = 0 := by
    refine Nat.eq_zero_of_not_pos fun hpos => ?_
    have hearly := h.fits.blocked hpos
    rw [h.session_eq.2] at hearly
    exact Bool.false_ne_true (hearly.symm.trans hdue)
  have hcounts := h.fits.counts
  have hscans := hcounts.scans_le
  rw [hblocks] at hscans
  refine ⟨hblocks, hscans, fun outcome hreturns => ?_⟩
  obtain ⟨hrefused, hpassed⟩ := hcounts.of_returns hreturns
  rw [hblocks] at hpassed
  refine ⟨fun hscans hrefusal => ?_, hpassed⟩
  exact absurd (hscans.symm.trans (hrefused hrefusal)) Nat.one_ne_zero

/-! ### Waits that find nothing -/

variable {session : Session} {source : Source}

/-- No source has its hooks locked. -/
def Unlocked (_ : Source) : Prop := False

/-- A source that nobody has claimed is enrolled. -/
theorem enrolled {todo : List Source}
    (h : Waiting id handles timeout start ctx ⟨session, .enrolling (source :: todo)⟩ now log)
    {base : Context} {board board' : Switchboard} {registration : Wake.Registration}
    (hclaim : base.board.claim source = some board)
    (hregister : base.board.register id = .ok (registration, board')) :
    ∃ enrolled, Waiting id handles timeout start base ⟨{ session with enrolled }, .enrolling todo⟩
      now log := by
  have hnow := Nat.le_refl now
  have hclaimed := (h.others hnow base).step Unlocked hnow (.claim hclaim) trivial
  have hregistered := (hclaimed.others hnow base).step Unlocked hnow (.register hregister) trivial
  have hattached := hregistered.step Unlocked hnow (.attach fun hlocked => hlocked) trivial
  exact ⟨_, hattached.others hnow base⟩

theorem timely_leaving {found : List Bool} {outcome : WaitOutcome}
    (hdue : session.deadline.any (· ≤ now) = true) :
    Timely start now ⟨session, .deciding found⟩ (.leaving outcome) :=
  ⟨fun hblock => (nomatch hblock), fun hearly => absurd (hearly.symm.trans hdue) Bool.false_ne_true⟩

/-- A scan that finds its only source and the guard of the wait set not ready leads to the
deadline. -/
theorem found_nothing {scans blocks : Nat}
    (h : Waiting id handles timeout start ctx ⟨session, .scanning [] [some source]⟩ now
      ⟨scans, blocks, []⟩)
    (hunlisted : session.listsGuard = false) {base : Context}
    (hclear : (base.poll source).1 = false)
    (hown : (base.poll (.guard session.guard)).1 = false) :
    Waiting id handles timeout start base ⟨session, .deciding [false]⟩ now
      ⟨scans, blocks, [(source, false), (.guard session.guard, false)]⟩ := by
  have hnow := Nat.le_refl now
  have hpolled := (h.others hnow base).step Unlocked hnow .poll trivial
  rw [hclear] at hpolled
  have hchecking := (hpolled.step Unlocked hnow (.noneReady rfl) trivial).others hnow base
  have hdeciding := (hchecking.step Unlocked hnow (.goOn hunlisted hown) trivial).others hnow base
  simpa [Log.next, Call.polls, hunlisted, hclear, hown] using hdeciding

end Waiting

end Call

/-! ## The wait as a whole -/

theorem Switchboard.error_enrollAll_ne_timeout {board : Switchboard} {id : WaitSetId}
    {todo : List Source} {done : List Hook} {error : Error}
    (h : (board.enrollAll id done todo).1 = .error error) : error ≠ .timeout := by
  induction todo generalizing board done with
  | nil => cases h
  | cons source rest ih =>
    unfold enrollAll at h
    split at h
    · exact ih h
    · next refused henroll =>
      obtain rfl : refused = error := Except.error.inj h
      unfold enroll at henroll
      split at henroll
      · cases henroll
        decide
      · next claimed hclaim =>
        cases hregister : claimed.register id with
        | error missing =>
          rw [hregister] at henroll
          cases henroll
          obtain rfl := register_eq_error hregister
          decide
        | ok result =>
          rw [hregister] at henroll
          cases henroll

theorem Wake.any_deadline?_iff {start now : Nat} {timeout : Option Nat} :
    (deadline? start timeout).any (· ≤ now) = true ↔
      ∃ t, timeout = some t ∧ start + t ≤ lastInstant ∧ start + t ≤ now := by
  unfold deadline?
  cases timeout with
  | none => exact ⟨fun h => (nomatch h), fun ⟨_, h, _⟩ => (nomatch h)⟩
  | some t =>
    rw [Option.map_some, Option.filter_some]
    by_cases hclock : start + t ≤ lastInstant
    · rw [if_pos (decide_eq_true hclock)]
      refine ⟨fun h => ⟨t, rfl, hclock, of_decide_eq_true h⟩, ?_⟩
      rintro ⟨_, ⟨⟩, -, hdue⟩
      exact decide_eq_true hdue
    · rw [if_neg (mt of_decide_eq_true hclock)]
      refine ⟨fun h => (nomatch h), ?_⟩
      rintro ⟨_, ⟨⟩, hrepresentable, -⟩
      exact absurd hrepresentable hclock

namespace Context

/-- A wait with this deadline that has given up did so at its deadline, and one that blocks does so
before. -/
def Punctual (deadline : Option Nat) (now : Nat) : WaitProgress → Prop
  | .finished outcome => outcome.result = .error .timeout → deadline.any (· ≤ now) = true
  | .blocked session => session.deadline = deadline ∧ deadline.any (· ≤ now) = false

theorem punctual_passWait (ctx : Context) (session : Session) (now : Nat) :
    Punctual session.deadline now (ctx.passWait session now).2 := by
  unfold passWait
  dsimp only
  split
  · exact fun htimeout => nomatch htimeout
  · generalize (if session.listsGuard then _ else _) = own
    obtain ⟨cancelled, after⟩ := own
    dsimp only
    split
    · exact fun htimeout => nomatch htimeout
    · split
      · next hdue => exact fun _ => hdue
      · next hdue => exact ⟨rfl, Bool.eq_false_iff.2 hdue⟩

theorem punctual_startWait (ctx : Context) (id : WaitSetId) (handles : List (Option Source))
    (timeout : Option Nat) (now : Nat) :
    Punctual (Wake.deadline? now timeout) now (ctx.startWait id handles timeout now).2 := by
  unfold startWait
  dsimp only
  split
  · exact fun htimeout => nomatch htimeout
  · next waitSet hfind =>
    split
    · exact fun htimeout => nomatch htimeout
    · split
      · next error hreserve =>
        obtain ⟨reserved, hok, -⟩ :=
          waitSet.exists_reserve (Nat.succ_pos (requestedHandles waitSet.guard handles))
        rw [hreserve] at hok
        cases hok
      · next reserved hreserve =>
        split
        · next error board henroll =>
          intro htimeout
          exact absurd (Except.error.inj htimeout)
            (Switchboard.error_enrollAll_ne_timeout (congrArg Prod.fst henroll))
        · exact punctual_passWait ..

/-- When a wait that goes through intervals read the clock for the last time. -/
def lastReading (entered : Nat) : Context × WaitProgress → List Interval → Nat
  | (ctx, .blocked session), interval :: rest =>
    lastReading interval.resumed ((interval.meanwhile ctx).resumeWait session interval.resumed) rest
  | _, _ => entered

theorem punctual_followWait {deadline : Option Nat} {entered : Nat}
    {state : Context × WaitProgress} (h : Punctual deadline entered state.2)
    (intervals : List Interval) :
    Punctual deadline (lastReading entered state intervals) (followWait state intervals).2 := by
  induction intervals generalizing entered state with
  | nil => obtain ⟨ctx, outcome | session⟩ := state <;> exact h
  | cons interval rest ih =>
    obtain ⟨ctx, outcome | session⟩ := state
    · exact h
    · obtain ⟨rfl, -⟩ := h
      refine ih ?_
      unfold resumeWait
      split <;> exact punctual_passWait ..

/-- A wait does not give up before its time, whatever its driver answers and whatever others do.
One that settles on a timeout was given one, whose end the clock can represent and has reached, and
its last scan polled each listed handle, and the guard of the wait set unless that is listed, and
found nothing ready.  With a timeout of zero it never blocks, and scans once unless it is refused.
The wait as it is run gives up no earlier, and does not block with a timeout of zero. -/
theorem wait_never_early (id : WaitSetId) (handles : List (Option Source)) (timeout : Option Nat)
    (start : Nat) :
    (∀ ctx call now log, Call.Waiting id handles timeout start ctx call now log →
      (∀ outcome, call.Returns outcome → outcome.result = .error .timeout →
        (∃ t, timeout = some t ∧ start + t ≤ Wake.lastInstant ∧ start + t ≤ now) ∧
        call.session.handles = handles ∧ log.polls = call.session.polled.map (·, false)) ∧
      (timeout = some 0 → start ≤ Wake.lastInstant →
        log.blocks = 0 ∧ log.scans ≤ 1 ∧
        ∀ outcome, call.Returns outcome → (log.scans = 1 ↔ ¬ outcome.IsRefusal))) ∧
    ∀ ctx : Context,
      (∀ intervals kept,
        (ctx.wait id handles timeout start intervals).2 = .finished ⟨.error .timeout, kept⟩ →
        ∃ t, timeout = some t ∧ start + t ≤ Wake.lastInstant ∧
          start + t ≤ lastReading start (ctx.startWait id handles timeout start) intervals) ∧
      (timeout = some 0 → start ≤ Wake.lastInstant →
        ∀ session, (ctx.startWait id handles timeout start).2 ≠ .blocked session) := by
  have hzero : timeout = some 0 → start ≤ Wake.lastInstant →
      (Wake.deadline? start timeout).any (· ≤ start) = true :=
    fun htimeout hclock => Wake.any_deadline?_iff.2 ⟨0, htimeout, hclock, Nat.le_refl start⟩
  refine ⟨fun ctx call now log h => ⟨fun outcome hreturns htimeout => ?_,
      fun htimeout hclock => ?_⟩,
    fun ctx => ⟨fun intervals kept hkept => ?_, fun htimeout hclock session hblocked => ?_⟩⟩
  · obtain ⟨hdue, hpolls⟩ := h.timeout_due hreturns htimeout
    exact ⟨Wake.any_deadline?_iff.1 hdue, h.session_eq.1, hpolls⟩
  · exact h.scans_once (hzero htimeout hclock)
  · have hpunctual :=
      punctual_followWait (punctual_startWait ctx id handles timeout start) intervals
    rw [show followWait _ intervals = ctx.wait id handles timeout start intervals from rfl,
      hkept] at hpunctual
    exact Wake.any_deadline?_iff.1 (hpunctual rfl)
  · have hpunctual := punctual_startWait ctx id handles timeout start
    rw [hblocked] at hpunctual
    exact Bool.false_ne_true (hpunctual.2.symm.trans (hzero htimeout hclock))

/-- A wait for a guard that nobody triggers, with a timeout of five, blocks after its first scan.
Its driver answers too early, and it gives up after the second scan.  With a timeout of zero it gives
up after the first one. -/
theorem exists_wait_giving_up :
    (∃ ctx call now log, Call.Waiting 0 [some (.guard 2)] (some 5) 10 ctx call now log ∧
      call.Returns ⟨.error .timeout, [none]⟩ ∧ log.blocks = 1 ∧ 10 + 5 ≤ now ∧
      log.polls = [(.guard 2, false), (.guard 1, false)]) ∧
    (∃ ctx call now log, Call.Waiting 0 [some (.guard 2)] (some 0) 10 ctx call now log ∧
      call.Returns ⟨.error .timeout, [none]⟩ ∧ log.blocks = 0 ∧ log.scans = 1) ∧
    ∃ ctx : Context,
      (ctx.wait 0 [some (.guard 2)] (some 5) 10 [⟨id, 12⟩, ⟨id, 15⟩]).2 =
        .finished ⟨.error .timeout, [none]⟩ ∧
      10 + 5 ≤ lastReading 10 (ctx.startWait 0 [some (.guard 2)] (some 5) 10) [⟨id, 12⟩, ⟨id, 15⟩] ∧
      ∀ session, (ctx.startWait 0 [some (.guard 2)] (some 0) 10).2 ≠ .blocked session := by
  obtain ⟨ctx, hctx⟩ : ∃ ctx : Context, ctx =
      { options := ⟨0, "/", .localhost, [], none, 4, none⟩
        instanceId := 1
        gids := .start 7 1
        graph := .empty
        dispatcher := .start
        board := { Switchboard.empty with
          guards := [false, false, false]
          waitSets := Table.empty.insert 0 ⟨1, 1, .idle 2⟩ } } := ⟨_, rfl⟩
  have hfind : ctx.board.waitSets.find? 0 = some ⟨1, 1, .idle 2⟩ := by rw [hctx]; rfl
  have hclaim : ∀ source, ∃ board, ctx.board.claim source = some board := by
    intro source
    rw [hctx]
    exact ⟨_, rfl⟩
  have hregister : ∃ registration board, ctx.board.register 0 = .ok (registration, board) := by
    rw [hctx]
    exact ⟨_, _, rfl⟩
  have hclear : (ctx.poll (.guard 2)).1 = false ∧ (ctx.poll (.guard 1)).1 = false := by
    rw [hctx]
    exact ⟨rfl, rfl⟩
  obtain ⟨hlisted, hown⟩ := hclear
  obtain ⟨first, hfirst⟩ := hclaim (.guard 1)
  obtain ⟨second, hsecond⟩ := hclaim (.guard 2)
  obtain ⟨registration, board, hregistered⟩ := hregister
  have hdeciding : ∀ timeout, ∃ enrolled, Call.Waiting 0 [some (.guard 2)] timeout 10 ctx
      ⟨⟨0, 1, [some (.guard 2)], enrolled, Wake.deadline? 10 timeout⟩, .deciding [false]⟩ 10
      ⟨1, 0, [(.guard 2, false), (.guard 1, false)]⟩ := by
    intro timeout
    have hstart := @Call.Step.start Call.Waiting.Unlocked 0 ctx ⟨1, 1, .idle 2⟩ ⟨1, 1, .idle 2⟩
      [some (.guard 2)] (Wake.deadline? 10 timeout) hfind (by decide) rfl
    have hentered :=
      @Call.Waiting.enter 0 _ timeout 10 Call.Waiting.Unlocked _ _ _ 10 hstart rfl rfl
    obtain ⟨enrolled₁, henrolled₁⟩ := hentered.enrolled hfirst hregistered
    obtain ⟨enrolled₂, henrolled₂⟩ := henrolled₁.enrolled hsecond hregistered
    have hscanning := henrolled₂.step Call.Waiting.Unlocked (Nat.le_refl 10) .scan rfl
    exact ⟨_, hscanning.found_nothing rfl hlisted hown⟩
  have hwait : (ctx.wait 0 [some (.guard 2)] (some 5) 10 [⟨id, 12⟩, ⟨id, 15⟩]).2 =
      .finished ⟨.error .timeout, [none]⟩ := by
    rw [hctx]
    rfl
  refine ⟨?_, ?_, ctx, hwait, ?_, ?_⟩
  · obtain ⟨enrolled, hfirst⟩ := hdeciding (some 5)
    have hearly : (Wake.deadline? 10 (some 5)).any (· ≤ 10) = false := by decide
    have hdue : (Wake.deadline? 10 (some 5)).any (· ≤ 15) = true := by decide
    have hblocked := hfirst.step Call.Waiting.Unlocked (Nat.le_refl 10) .block
      ⟨fun _ => hearly, fun _ => rfl⟩
    have hagain := (hblocked.answer (by decide : 10 ≤ 12)).found_nothing rfl hlisted hown
    have hlate := hagain.step Call.Waiting.Unlocked (by decide : 12 ≤ 15) (.expire rfl)
      (Call.Waiting.timely_leaving hdue)
    obtain ⟨⟨t, ⟨⟩, -, hreached⟩, -, hpolls⟩ :=
      ((wait_never_early 0 [some (.guard 2)] (some 5) 10).1 _ _ _ _ hlate).1 _ rfl rfl
    exact ⟨_, _, _, _, hlate, rfl, rfl, hreached, hpolls⟩
  · obtain ⟨enrolled, hfirst⟩ := hdeciding (some 0)
    have hdue : (Wake.deadline? 10 (some 0)).any (· ≤ 10) = true := by decide
    have hlate := hfirst.step Call.Waiting.Unlocked (Nat.le_refl 10) (.expire rfl)
      (Call.Waiting.timely_leaving hdue)
    obtain ⟨hblocks, -, hscans⟩ :=
      ((wait_never_early 0 [some (.guard 2)] (some 0) 10).1 _ _ _ _ hlate).2 rfl (by decide)
    refine ⟨_, _, _, _, hlate, rfl, hblocks, (hscans _ rfl).2 ?_⟩
    exact fun ⟨_, herror, hne⟩ => hne (Except.error.inj herror).symm
  · obtain ⟨t, ⟨⟩, -, hreached⟩ :=
      ((wait_never_early 0 [some (.guard 2)] (some 5) 10).2 ctx).1 _ _ hwait
    exact hreached
  · exact ((wait_never_early 0 [some (.guard 2)] (some 0) 10).2 ctx).2 rfl (by decide)

end Context

end PubSub
