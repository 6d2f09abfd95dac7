import PubSub.Proofs.Context.Notices
import PubSub.Proofs.Wait.Commuting

/-!
# Several events at once

A change of the graph tells several endpoints something, and a publication reaches several
subscriptions: a `Beat` is one such event, and `Context.strikeAll` makes them happen one after the
other.  What that does to an endpoint depends on the beats that are for this endpoint alone
(`Context.find?_strikeAll`), and so do the jobs that are queued on its behalf
(`Context.filter_sent`); those who wait are signalled whatever the order (`Context.board_strikeAll`).
-/

namespace PubSub

/-! ## Beats -/

/-- An event at a channel of an endpoint, which leaves the notifiers to `Context.signal`. -/
structure Beat where
  gid : Gid
  channel : Channel
  step : Core → Core
  notifier_step : ∀ core channel, (step core).notifier channel = core.notifier channel

/-- The event that a notice is. -/
def Notice.beat : Notice → Beat
  | gained gid =>
    { gid, channel := .status .matched, step := fun core => { core with matched := core.matched.gain }
      notifier_step := fun _ channel => by rcases channel with _ | (_ | _ | _) <;> rfl }
  | lost gid =>
    { gid, channel := .status .matched, step := fun core => { core with matched := core.matched.lose }
      notifier_step := fun _ channel => by rcases channel with _ | (_ | _ | _) <;> rfl }
  | incompatibleQos gid policy =>
    { gid, channel := .status .incompatibleQos
      step := fun core => { core with incompatibleQos := core.incompatibleQos.add policy }
      notifier_step := fun _ channel => by rcases channel with _ | (_ | _ | _) <;> rfl }
  | incompatibleType gid =>
    { gid, channel := .status .incompatibleType
      step := fun core => { core with incompatibleType := core.incompatibleType.add }
      notifier_step := fun _ channel => by rcases channel with _ | (_ | _ | _) <;> rfl }

/-- The arrival of a message. -/
def Message.beat (message : Message) (gid : Gid) : Beat where
  gid
  channel := .data
  step := (·.enqueue message)
  notifier_step _ channel := by rcases channel with _ | (_ | _ | _) <;> rfl

@[simp] theorem Notice.gid_beat (notice : Notice) : notice.beat.gid = notice.endpoint := by
  cases notice <;> rfl

/-- What a beat makes of a core. -/
def Core.struck (core : Core) (beat : Beat) : Core :=
  (beat.step core).setNotifier beat.channel (core.notifier beat.channel).raise.1

/-- No callback is set. -/
def Core.Mute (core : Core) : Prop :=
  ∀ channel, (core.notifier channel).callback = none

theorem Core.notifier_setNotifier_eq (core : Core) (channel : Channel) (notifier : Notifier)
    (k : Channel) :
    (core.setNotifier channel notifier).notifier k =
      if k = channel then notifier else core.notifier k := by
  rcases channel with _ | (_ | _ | _) <;> rcases k with _ | (_ | _ | _) <;> rfl

theorem Core.Mute.struck {core : Core} (h : core.Mute) (beat : Beat) : (core.struck beat).Mute := by
  intro channel
  have hraise : (core.notifier beat.channel).raise.1.callback = none := by
    unfold Notifier.raise
    rw [h beat.channel]
  rw [Core.struck, Core.notifier_setNotifier_eq]
  split
  · exact hraise
  · rw [beat.notifier_step]
    exact h channel

/-! ## Notices in another order -/

namespace Notice

/-- The notice with the same policy as all others. -/
def blur : Notice → Notice
  | incompatibleQos gid _ => incompatibleQos gid .reliability
  | notice => notice

theorem blur_eq_lost {notice : Notice} {gid : Gid} (h : notice.blur = lost gid) :
    notice = lost gid := by
  cases notice <;> first | exact h | cases h

theorem policy_of_blur {notice : Notice} {gid : Gid} {policy : Qos.PolicyKind}
    (h : notice.blur = incompatibleQos gid policy) : policy = .reliability := by
  cases notice <;> cases h
  rfl

end Notice

namespace Core

/-- Two notices of which none is of a loss, and which do not name different policies, may change
places. -/
theorem struck_comm {a b : Notice} (ha : ∀ gid, a ≠ .lost gid) (hb : ∀ gid, b ≠ .lost gid)
    (hpolicy : ∀ gid p gid' q, a = .incompatibleQos gid p → b = .incompatibleQos gid' q → p = q)
    (core : Core) :
    (core.struck a.beat).struck b.beat = (core.struck b.beat).struck a.beat := by
  cases a with
  | lost gid => exact absurd rfl (ha gid)
  | gained | incompatibleType =>
    cases b with
    | lost gid => exact absurd rfl (hb gid)
    | gained | incompatibleQos | incompatibleType => rfl
  | incompatibleQos gid p =>
    cases b with
    | lost gid => exact absurd rfl (hb gid)
    | gained | incompatibleType => rfl
    | incompatibleQos gid' q =>
      obtain rfl := hpolicy gid p gid' q rfl rfl
      rfl

/-- The core without the policy that was broken last. -/
def mask (core : Core) : Core :=
  { core with incompatibleQos := { core.incompatibleQos with lastPolicy := none } }

/-- What comes of a notice, the policy aside, does not depend on policies. -/
theorem mask_struck {core core' : Core} (h : core.mask = core'.mask) (notice : Notice) :
    (core.struck notice.beat).mask = (core'.struck notice.blur.beat).mask := by
  have hmask (core : Core) : (core.struck notice.beat).mask = (core.mask.struck notice.beat).mask := by
    cases notice <;> rfl
  have hblur (core : Core) : (core.struck notice.beat).mask = (core.struck notice.blur.beat).mask := by
    cases notice <;> rfl
  rw [hmask, h, ← hmask, hblur]

theorem mask_foldl_struck {core core' : Core} (h : core.mask = core'.mask) (notices : List Notice) :
    ((notices.map Notice.beat).foldl struck core).mask =
      (((notices.map Notice.blur).map Notice.beat).foldl struck core').mask := by
  induction notices generalizing core core' with
  | nil => exact h
  | cons notice rest ih => exact ih (mask_struck h notice)

/-- Notices of which none is of a loss come to the same in any order, unless they name different
policies; then only the policy that was broken last may differ. -/
theorem foldl_struck_perm {notices notices' : List Notice} (h : notices.Perm notices')
    (hlost : ∀ notice ∈ notices, ∀ gid, notice ≠ .lost gid) (core : Core) :
    (notices'.map Notice.beat).foldl struck core = (notices.map Notice.beat).foldl struck core ∨
      ((notices'.map Notice.beat).foldl struck core).mask =
          ((notices.map Notice.beat).foldl struck core).mask ∧
        ∃ gid p gid' q, .incompatibleQos gid p ∈ notices ∧ .incompatibleQos gid' q ∈ notices ∧
          p ≠ q := by
  by_cases hpolicy : ∀ gid p gid' q, .incompatibleQos gid p ∈ notices →
      .incompatibleQos gid' q ∈ notices → p = q
  · left
    rw [List.foldl_map, List.foldl_map]
    refine (h.foldl_eq' (fun a ha b hb core => ?_) core).symm
    refine struck_comm (hlost a ha) (hlost b hb) (fun gid p gid' q hp hq => ?_) core
    exact hpolicy gid p gid' q (hp ▸ ha) (hq ▸ hb)
  · right
    constructor
    · -- With the policies blurred, the order does not matter at all.
      rw [mask_foldl_struck rfl notices', mask_foldl_struck rfl notices, List.map_map, List.map_map,
        List.foldl_map, List.foldl_map]
      congr 1
      refine (h.foldl_eq' (fun a ha b hb core => ?_) core).symm
      refine struck_comm (fun gid hgid => ?_) (fun gid hgid => ?_) (fun gid p gid' q hp hq => ?_) core
      · exact hlost a ha gid (Notice.blur_eq_lost hgid)
      · exact hlost b hb gid (Notice.blur_eq_lost hgid)
      · rw [Notice.policy_of_blur hp, Notice.policy_of_blur hq]
    · simpa only [not_forall, exists_prop] using hpolicy

end Core

namespace Context

/-- One beat. -/
def strike (ctx : Context) (beat : Beat) : Context :=
  ctx.signal beat.gid beat.channel beat.step

/-- Several beats, one after the other. -/
def strikeAll (ctx : Context) (beats : List Beat) : Context :=
  beats.foldl strike ctx

theorem change_eq (ctx : Context) (graph : Graph) (notices : List Notice) :
    ctx.change graph notices =
      (strikeAll { ctx with graph } (notices.map Notice.beat)).trigger graphGuard := by
  have hfire (ctx : Context) (notice : Notice) : ctx.fire notice = ctx.strike notice.beat := by
    cases notice <;> rfl
  unfold change announce strikeAll
  rw [List.foldl_map]
  congr 2
  funext ctx notice
  exact hfire ctx notice

theorem deliverAll_eq (ctx : Context) (receivers : List Gid) (message : Message) :
    ctx.deliverAll receivers message = ctx.strikeAll (receivers.map message.beat) := by
  unfold strikeAll
  rw [List.foldl_map]
  rfl

/-! ## What beats leave alone -/

/-- The contexts differ in cores, in the jobs queued and in the board at most. -/
structure SameFrame (ctx ctx' : Context) : Prop where
  options : ctx'.options = ctx.options
  instanceId : ctx'.instanceId = ctx.instanceId
  gids : ctx'.gids = ctx.gids
  version : ctx'.graph.version = ctx.graph.version
  nodes : ctx'.graph.nodes = ctx.graph.nodes
  endpoints : ctx'.graph.endpoints = ctx.graph.endpoints
  stopped : ctx'.dispatcher.stopped = ctx.dispatcher.stopped

theorem SameFrame.dispatch (ctx : Context) (job : Option Job) : SameFrame ctx (ctx.dispatch job) := by
  cases job <;> exact ⟨rfl, rfl, rfl, rfl, rfl, rfl, rfl⟩

theorem SameFrame.trans {ctx ctx' ctx'' : Context} (h : SameFrame ctx ctx')
    (h' : SameFrame ctx' ctx'') : SameFrame ctx ctx'' :=
  ⟨h'.options.trans h.options, h'.instanceId.trans h.instanceId, h'.gids.trans h.gids,
    h'.version.trans h.version, h'.nodes.trans h.nodes, h'.endpoints.trans h.endpoints,
    h'.stopped.trans h.stopped⟩

theorem sameFrame_strike (ctx : Context) (beat : Beat) : SameFrame ctx (ctx.strike beat) := by
  unfold strike signal
  split
  · exact ⟨rfl, rfl, rfl, rfl, rfl, rfl, rfl⟩
  · next core _ =>
    obtain ⟨hoptions, hinstance, hgids, hversion, hnodes, hendpoints, hstopped⟩ :=
      SameFrame.dispatch { ctx with graph := ctx.graph.modifyCore beat.gid fun core' =>
        (beat.step core').setNotifier beat.channel (core.notifier beat.channel).raise.1 }
          (core.notifier beat.channel).raise.2
    exact ⟨hoptions, hinstance, hgids, hversion, hnodes, hendpoints, hstopped⟩

theorem sameFrame_strikeAll (ctx : Context) (beats : List Beat) :
    SameFrame ctx (ctx.strikeAll beats) := by
  induction beats generalizing ctx with
  | nil => exact ⟨rfl, rfl, rfl, rfl, rfl, rfl, rfl⟩
  | cons beat rest ih => exact (sameFrame_strike ctx beat).trans (ih _)

/-! ## What beats do to an endpoint -/

theorem find?_strike (ctx : Context) (beat : Beat) (k : Gid) :
    (ctx.strike beat).graph.locals.find? k =
      if k = beat.gid then (ctx.graph.locals.find? k).map (·.struck beat)
      else ctx.graph.locals.find? k :=
  find?_locals_signal ..

theorem isSome_find?_strike (ctx : Context) (beat : Beat) (k : Gid) :
    ((ctx.strike beat).graph.locals.find? k).isSome = (ctx.graph.locals.find? k).isSome := by
  rw [find?_strike]
  split <;> simp

/-- A core changes by the beats that are for it. -/
theorem find?_strikeAll (ctx : Context) (beats : List Beat) (k : Gid) :
    (ctx.strikeAll beats).graph.locals.find? k =
      (ctx.graph.locals.find? k).map fun core =>
        (beats.filter (·.gid = k)).foldl Core.struck core := by
  unfold strikeAll
  induction beats generalizing ctx with
  | nil => simp
  | cons beat rest ih =>
    rw [List.foldl_cons, ih, find?_strike]
    by_cases hk : k = beat.gid
    · rw [if_pos hk, List.filter_cons_of_pos (by simpa using hk.symm), Option.map_map]
      rfl
    · rw [if_neg hk, List.filter_cons_of_neg (by simpa using Ne.symm hk)]

/-! ## What beats queue -/

/-- The job that a beat queues, if its endpoint has a callback for it. -/
def jobOf (ctx : Context) (beat : Beat) : Option Job :=
  (ctx.graph.locals.find? beat.gid).bind fun core => (core.notifier beat.channel).raise.2

/-- The jobs that beats queue, each with the endpoint on whose behalf it is queued. -/
def sent (ctx : Context) : List Beat → List (Gid × Job)
  | [] => []
  | beat :: rest => (ctx.jobOf beat).toList.map (beat.gid, ·) ++ (ctx.strike beat).sent rest

theorem jobs_strike (ctx : Context) (beat : Beat) :
    (ctx.strike beat).dispatcher.jobs = ctx.dispatcher.jobs ++ (ctx.jobOf beat).toList := by
  unfold strike signal jobOf
  split
  · next hnone => simp [hnone]
  · next core hcore =>
    rw [hcore, Option.bind_some]
    cases hjob : (core.notifier beat.channel).raise.2 with
    | none => simp [dispatch, hjob]
    | some job => simp [dispatch, hjob, Dispatcher.push]

theorem jobs_strikeAll (ctx : Context) (beats : List Beat) :
    (ctx.strikeAll beats).dispatcher.jobs =
      ctx.dispatcher.jobs ++ (ctx.sent beats).map Prod.snd := by
  induction beats generalizing ctx with
  | nil => simp [strikeAll, sent]
  | cons beat rest ih =>
    have hrest := ih (ctx.strike beat)
    rw [jobs_strike] at hrest
    refine hrest.trans ?_
    rw [sent, List.map_append, List.map_map, List.append_assoc]
    congr 2
    exact (List.map_id' _).symm

section Sent

variable {ctx ctx' : Context} {beats : List Beat} {k : Gid}

/-- For the jobs of an endpoint its own core is all that matters. -/
theorem sent_congr (hbeats : ∀ beat ∈ beats, beat.gid = k)
    (h : ctx'.graph.locals.find? k = ctx.graph.locals.find? k) : ctx'.sent beats = ctx.sent beats := by
  induction beats generalizing ctx ctx' with
  | nil => rfl
  | cons beat rest ih =>
    obtain ⟨rfl, hrest⟩ := List.forall_mem_cons.1 hbeats
    have hstrike : (ctx'.strike beat).graph.locals.find? beat.gid =
        (ctx.strike beat).graph.locals.find? beat.gid := by
      rw [find?_strike, find?_strike, h]
    unfold sent
    rw [ih hrest hstrike, jobOf, jobOf, h]

/-- The jobs of an endpoint are those that its own beats queue. -/
theorem filter_sent (ctx : Context) (beats : List Beat) (k : Gid) :
    (ctx.sent beats).filter (·.1 = k) = ctx.sent (beats.filter (·.gid = k)) := by
  induction beats generalizing ctx with
  | nil => rfl
  | cons beat rest ih =>
    rw [sent, List.filter_append, ih]
    by_cases hk : beat.gid = k
    · rw [List.filter_cons_of_pos (by simpa using hk), sent]
      congr 1
      exact List.filter_eq_self.2 (by simp [hk])
    · have hnone : ((ctx.jobOf beat).toList.map (beat.gid, ·)).filter (·.1 = k) = [] :=
        List.filter_eq_nil_iff.2 (by simp [hk])
      rw [List.filter_cons_of_neg (by simpa using hk), hnone, List.nil_append]
      refine sent_congr (fun beat' hbeat' => of_decide_eq_true (List.mem_filter.1 hbeat').2) ?_
      rw [find?_strike, if_neg (Ne.symm hk)]

/-- Nothing is queued on behalf of an endpoint without callbacks. -/
theorem sent_eq_nil (hbeats : ∀ beat ∈ beats, beat.gid = k)
    (hmute : ∀ core, ctx.graph.locals.find? k = some core → core.Mute) : ctx.sent beats = [] := by
  induction beats generalizing ctx with
  | nil => rfl
  | cons beat rest ih =>
    obtain ⟨rfl, hrest⟩ := List.forall_mem_cons.1 hbeats
    have hjob : ctx.jobOf beat = none := by
      unfold jobOf
      cases hcore : ctx.graph.locals.find? beat.gid with
      | none => rfl
      | some core =>
        rw [Option.bind_some, Notifier.raise, hmute core hcore beat.channel]
    have hstrike : ∀ core, (ctx.strike beat).graph.locals.find? beat.gid = some core → core.Mute := by
      intro core hcore
      rw [find?_strike, if_pos rfl] at hcore
      obtain ⟨core', hcore', rfl⟩ := Option.map_eq_some_iff.1 hcore
      exact (hmute core' hcore').struck beat
    rw [sent, hjob, ih hrest hstrike]
    rfl

end Sent

/-! ## What beats do to those who wait -/

theorem board_strike (ctx : Context) (beat : Beat) :
    (ctx.strike beat).board =
      if (ctx.graph.locals.find? beat.gid).isSome then
        ctx.board.notify (.endpoint beat.gid beat.channel)
      else ctx.board := by
  unfold strike signal
  split
  · next hnone => rw [hnone, if_neg (by simp)]
  · next core hcore =>
    simp [hcore]

theorem board_strikeAll (ctx : Context) (beats : List Beat) :
    (ctx.strikeAll beats).board =
      ((beats.filter fun beat => (ctx.graph.locals.find? beat.gid).isSome).map fun beat =>
        Source.endpoint beat.gid beat.channel).foldl Switchboard.notify ctx.board := by
  unfold strikeAll
  induction beats generalizing ctx with
  | nil => rfl
  | cons beat rest ih =>
    rw [List.foldl_cons, ih, board_strike]
    simp only [isSome_find?_strike]
    cases hlocal : (ctx.graph.locals.find? beat.gid).isSome with
    | true => rw [List.filter_cons, if_pos hlocal, if_pos rfl, List.map_cons, List.foldl_cons]
    | false => rw [List.filter_cons, if_neg Bool.false_ne_true, hlocal, if_neg Bool.false_ne_true]

end Context

end PubSub
