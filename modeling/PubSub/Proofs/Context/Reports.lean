import PubSub.Proofs.Context.Incidents

/-!
# Callbacks account for every event

Whatever order the steps of a `Reporting` come in, every event is in the count of one job or still
unnotified, and the dispatch thread makes one call for each job that was queued before its stop
(`Reporting.Accounted`).  So after the stop the calls for an outlet and its unnotified events add up to
the events that occurred.  Operations that run one at a time, and then the end of the context, are
among these courses (`callbacks_account`).
-/

namespace PubSub

/-! ## Jobs in the log -/

namespace Log

variable {log : Log} {outlet : Outlet}

theorem jobs_append (later earlier : Log) :
    jobs (later ++ earlier) = jobs earlier ++ jobs later := by
  unfold jobs
  rw [List.filterMap_append, List.reverse_append]

theorem history_append (later earlier : Log) (outlet : Outlet) :
    history (later ++ earlier) outlet = history later outlet ++ history earlier outlet :=
  List.filterMap_append

theorem senders_append (later earlier : Log) :
    senders (later ++ earlier) = senders earlier ++ senders later := by
  unfold senders
  rw [List.filterMap_append, List.reverse_append]

theorem senders_told (outlet : Outlet) (act : Notifier.Act) (job : Job) (log : Log) :
    senders (.told outlet act (some job) :: log) = log.senders ++ [outlet] := by
  have hsender : (Entry.told outlet act (some job)).sender = some outlet := rfl
  unfold senders
  rw [List.filterMap_cons_some hsender, List.reverse_cons]

theorem mem_jobs_iff {job : Job} : job ∈ log.jobs ↔ ∃ entry ∈ log, entry.job = some job := by
  unfold jobs
  rw [List.mem_reverse, List.mem_filterMap]

/-- If the stop is not in the log, every job has a sender. -/
theorem length_senders (h : log.countP (·.isStop) = 0) : log.senders.length = log.jobs.length := by
  induction log with
  | nil => rfl
  | cons entry log ih =>
    rw [List.countP_cons] at h
    have hrest := ih (by omega)
    cases entry with
    | occurred gid life incident => exact hrest
    | told outlet act job =>
      rw [jobs_told]
      cases job with
      | none => rw [Option.toList_none, List.append_nil]; exact hrest
      | some job => rw [senders_told, List.length_append, List.length_append, hrest]; rfl
    | stopped => exact absurd h (Nat.succ_ne_zero _)

/-- Calls for all the jobs of a log were given what the jobs of each outlet report. -/
theorem reported_eq (h : log.countP (·.isStop) = 0) {calls : List Invocation}
    (hcalls : calls.map Invocation.job = log.jobs) (outlet : Outlet) :
    log.reported calls outlet = (log.history outlet).dispatched := by
  induction log generalizing calls with
  | nil => rfl
  | cons entry log ih =>
    rw [List.countP_cons] at h
    have hrest : log.countP (·.isStop) = 0 := by omega
    cases entry with
    | occurred gid life incident => exact ih hrest hcalls
    | stopped => exact absurd h (Nat.succ_ne_zero _)
    | told sender act job =>
      rw [history_told]
      rw [jobs_told] at hcalls
      cases job with
      | none =>
        rw [Option.toList_none, List.append_nil] at hcalls
        rw [show reported (.told sender act none :: log) calls outlet = reported log calls outlet
          from rfl, ih hrest hcalls]
        split
        · exact (Nat.zero_add _).symm
        · rfl
      | some job =>
        obtain ⟨first, last, rfl, hfirst, hlast⟩ := List.map_eq_append_iff.1 hcalls
        obtain ⟨call, rfl, rfl⟩ := List.map_eq_singleton_iff.1 hlast
        have hlength : (senders log).length = first.length := by
          rw [length_senders hrest, ← hfirst, List.length_map]
        have hreported := ih hrest hfirst
        unfold reported at hreported ⊢
        rw [senders_told, List.zip_append hlength, List.filter_append, List.map_append,
          List.sum_append, hreported]
        by_cases heq : outlet = sender
        · have hmine : decide ((sender, call).1 = outlet) = true := decide_eq_true heq.symm
          rw [if_pos heq, List.zip_cons_cons, List.filter_cons, if_pos hmine]
          exact Nat.add_comm ..
        · have hother : ¬ decide ((sender, call).1 = outlet) = true :=
            fun h => heq (of_decide_eq_true h).symm
          rw [if_neg heq, List.zip_cons_cons, List.filter_cons, if_neg hother]
          rfl

/-- Calls are for the first jobs only, and later ones do not matter. -/
theorem reported_append {earlier : Log} {calls : List Invocation}
    (h : earlier.senders.length = calls.length) (later : Log) (outlet : Outlet) :
    reported (later ++ earlier) calls outlet = reported earlier calls outlet := by
  have hzip : (senders (later ++ earlier)).zip calls = earlier.senders.zip calls := by
    rw [senders_append]
    calc (earlier.senders ++ later.senders).zip calls
        = (earlier.senders ++ later.senders).zip (calls ++ []) := by rw [List.append_nil]
      _ = earlier.senders.zip calls ++ later.senders.zip [] := List.zip_append h
      _ = earlier.senders.zip calls := by rw [List.zip_nil_right, List.append_nil]
  unfold reported
  rw [hzip]

end Log

/-! ## What is true in every state -/

namespace Reporting

variable {r : Reporting} {later earlier : Log}

namespace Sound

theorem addressed (h : r.Sound) {outlet : Outlet} {act : Notifier.Act} {job : Job}
    (hlog : r.log = later ++ .told outlet act (some job) :: earlier) :
    ∃ callback count, job = .invoke callback count ∧ 1 ≤ count ∧
      (Log.history (.told outlet act (some job) :: earlier) outlet).registered = some callback := by
  have hhere : Log.history (.told outlet act (some job) :: earlier) outlet =
      (act, some job) :: Log.history earlier outlet := by
    rw [Log.history_told, if_pos rfl]
  have hhistory : r.log.history outlet =
      Log.history later outlet ++ (act, some job) :: Log.history earlier outlet := by
    rw [hlog, Log.history_append, hhere]
  rw [hhere]
  exact (h.course outlet).addressed hhistory

/-- Without the stop in the log the dispatch thread was not told to stop. -/
theorem running (h : r.Sound) (hlog : r.log.countP (·.isStop) = 0) :
    r.ctx.dispatcher.stopped = false := by
  have hstops := h.stops
  rw [hlog] at hstops
  cases hstopped : r.ctx.dispatcher.stopped with
  | false => rfl
  | true => rw [hstopped] at hstops; cases hstops

/-- The stop is in the log once at most. -/
theorem countP_earlier (h : r.Sound) (hlog : r.log = later ++ .stopped :: earlier) :
    List.countP (·.isStop) earlier = 0 := by
  have hstops := h.stops
  rw [hlog, List.countP_append, List.countP_cons_of_pos rfl] at hstops
  split at hstops <;> omega

theorem queue_eq (h : r.Sound) (hlog : r.log = later ++ .stopped :: earlier) :
    r.ctx.dispatcher.jobs = Log.jobs earlier ++ .stop :: Log.jobs later := by
  rw [h.jobs, hlog, Log.jobs_append, Log.jobs_stopped, List.append_assoc]
  rfl

theorem stop_not_mem (h : r.Sound) (hlog : r.log = later ++ .stopped :: earlier) :
    .stop ∉ Log.jobs earlier := by
  intro hmem
  obtain ⟨entry, hentry, hjob⟩ := Log.mem_jobs_iff.1 hmem
  cases entry with
  | occurred gid life incident => cases hjob
  | stopped => exact List.countP_eq_zero.1 (h.countP_earlier hlog) _ hentry rfl
  | told outlet act job =>
    obtain rfl : job = some .stop := hjob
    obtain ⟨before, after, rfl⟩ := List.append_of_mem hentry
    have hsplit : r.log = (later ++ .stopped :: before) ++
        .told outlet act (some .stop) :: after := by
      rw [hlog, List.append_assoc]
      rfl
    obtain ⟨callback, count, hinvoke, -⟩ := h.addressed hsplit
    cases hinvoke

end Sound

/-- Push callbacks account for every event exactly once. -/
structure Accounted (r : Reporting) : Prop where
  /-- Every event that occurred was raised, or is just about to be. -/
  events : ∀ outlet, r.log.events outlet = (r.log.history outlet).raised + r.due.count outlet
  /-- Every event that was raised is in the count of one job, or still unnotified. -/
  balance : ∀ outlet, (r.log.history outlet).raised =
    (r.log.history outlet).dispatched + (r.notifier outlet).unnotified
  callback : ∀ outlet, (r.notifier outlet).callback = (r.log.history outlet).registered
  flushed : ∀ outlet, (r.notifier outlet).callback ≠ none → (r.notifier outlet).unnotified = 0
  /-- A job reports one event at least, to the callback registered when it was queued. -/
  addressed : ∀ later earlier outlet act job,
    r.log = later ++ .told outlet act (some job) :: earlier →
    ∃ callback count, job = .invoke callback count ∧ 1 ≤ count ∧
      (Log.history (.told outlet act (some job) :: earlier) outlet).registered = some callback
  jobs : r.ctx.dispatcher.jobs = r.log.jobs
  /-- At any time the calls were made for the first jobs of the queue, one for each, in order. -/
  served : Dispatcher.Served r.ctx.dispatcher.jobs r.calls
  /-- As long as jobs queued before the stop are left, the dispatch thread can make the next call,
  whatever became of the calls before. -/
  next : ∀ later earlier, r.log = later ++ .stopped :: earlier →
    ¬ Dispatcher.Ended r.ctx.dispatcher.jobs r.calls →
    r.calls.length < (Log.jobs earlier).length ∧
      ∃ callback count, ∀ result, Step r { r with calls := r.calls ++ [⟨callback, count, result⟩] }
  /-- When it ends it has made a call for each job queued before the stop. -/
  ended : ∀ later earlier, r.log = later ++ .stopped :: earlier →
    Dispatcher.Ended r.ctx.dispatcher.jobs r.calls →
    r.calls.map Invocation.job = Log.jobs earlier
  run : ∀ later earlier result, r.log = later ++ .stopped :: earlier →
    (Dispatcher.run result r.ctx.dispatcher.jobs).map Invocation.job = Log.jobs earlier
  /-- Then the calls for an outlet, jobs for it that came too late and what is unnotified there make
  up the events that occurred. -/
  settled : ∀ later earlier, r.log = later ++ .stopped :: earlier →
    Dispatcher.Ended r.ctx.dispatcher.jobs r.calls → ∀ outlet, outlet ∉ r.due →
    r.log.reported r.calls outlet + (Log.history later outlet).dispatched +
      (r.notifier outlet).unnotified = r.log.events outlet

theorem Sound.accounted (h : r.Sound) : r.Accounted where
  events := h.events
  balance outlet := (h.course outlet).balance
  callback outlet := (h.course outlet).callback
  flushed outlet := (h.course outlet).flushed
  addressed _ _ _ _ _ hlog := h.addressed hlog
  jobs := h.jobs
  served := h.served
  next later earlier hlog hended := by
    obtain ⟨hlt, callback, count, hjob⟩ :=
      h.served.next hended (h.stop_not_mem hlog) (h.queue_eq hlog)
    exact ⟨hlt, callback, count, fun result => .serve ⟨callback, count, result⟩ hjob⟩
  ended later earlier hlog hended :=
    h.served.map_job hended (h.stop_not_mem hlog) (h.queue_eq hlog)
  run later earlier result hlog :=
    Dispatcher.map_job_run result (h.stop_not_mem hlog) (h.queue_eq hlog)
  settled later earlier hlog hended outlet hdue := by
    have hnone := h.countP_earlier hlog
    have hcalls := h.served.map_job hended (h.stop_not_mem hlog) (h.queue_eq hlog)
    have hlength : (Log.senders earlier).length = r.calls.length := by
      rw [Log.length_senders hnone, ← hcalls, List.length_map]
    have hreported : r.log.reported r.calls outlet = (Log.history earlier outlet).dispatched := by
      rw [hlog, ← Log.reported_eq hnone hcalls outlet]
      exact @Log.reported_append (.stopped :: earlier) _ hlength later outlet
    have hdispatched : (r.log.history outlet).dispatched =
        (Log.history later outlet).dispatched + (Log.history earlier outlet).dispatched := by
      rw [hlog, Log.history_append, Log.history_stopped, Notifier.History.dispatched_append]
    have hbalance := (h.course outlet).balance
    have hevents := h.events outlet
    rw [List.count_eq_zero.2 hdue] at hevents
    omega

/-! ## The end of a context -/

/-- The dispatch thread makes one call after the other. -/
theorem steps_serve (result : CallbackId → CallbackResult) {rest : List Job}
    (hrest : r.ctx.dispatcher.jobs.drop r.calls.length = rest) :
    Steps r { r with calls := r.calls ++ Dispatcher.run result rest } := by
  induction rest generalizing r with
  | nil =>
    rw [Dispatcher.run, List.append_nil]
    exact .refl
  | cons job rest ih =>
    cases job with
    | stop =>
      rw [Dispatcher.run, List.append_nil]
      exact .refl
    | invoke callback count =>
      have hjob : r.ctx.dispatcher.jobs[r.calls.length]? = some (.invoke callback count) := by
        rw [← List.head?_drop, hrest]
        rfl
      have hnext := @ih { r with calls := r.calls ++ [⟨callback, count, result callback⟩] } (by
        rw [List.length_append, List.length_singleton, ← List.tail_drop, hrest]
        rfl)
      dsimp only at hnext
      rw [List.append_assoc] at hnext
      exact .head (.serve ⟨callback, count, result callback⟩ hjob) hnext

/-- The end of the context: the dispatch thread is told to stop, makes the calls that are left, and
the graph is cleared. -/
theorem Reachable.exists_shutdown (h : r.Reachable) (hdue : r.due = []) (hcalls : r.calls = [])
    (hrunning : r.ctx.dispatcher.stopped = false) (result : CallbackId → CallbackResult) :
    ∃ r' : Reporting, r'.Reachable ∧ r'.ctx = r.ctx.shutdown.2 ∧ r'.due = [] ∧
      r'.log = .stopped :: r.log ∧ r'.calls = Dispatcher.run result r'.ctx.dispatcher.jobs ∧
      ∀ o, r'.notifier o = r.notifier o := by
  let stopped : Reporting :=
    { r with
      ctx := { r.ctx with dispatcher := r.ctx.dispatcher.stop }
      log := .stopped :: r.log }
  let served : Reporting :=
    { stopped with calls := Dispatcher.run result stopped.ctx.dispatcher.jobs }
  have hserve := @steps_serve stopped result _ rfl
  change Steps stopped
    { stopped with
      calls := r.calls ++
        Dispatcher.run result (stopped.ctx.dispatcher.jobs.drop r.calls.length) } at hserve
  rw [hcalls] at hserve
  have hserved : served.Reachable := (h.step (.stop hrunning)).steps hserve
  unfold Context.shutdown
  dsimp only
  split
  · exact ⟨served, hserved, rfl, hdue, rfl, rfl, fun _ => rfl⟩
  · next count graph _ hclear =>
    have hcleared := hserved.step .clear
    obtain rfl : served.ctx.graph.clear.2 = graph := congrArg Prod.snd hclear
    have htriggered := hcleared.step (@Step.aside _ (Context.change stopped.ctx _ []) rfl rfl)
    have hkept (o : Outlet) := @core_retire served _ (fun _ => true) hserved.sound.gone
      (fun k => hserved.sound.known.find?_clear k) o.gid o.life
    exact ⟨_, htriggered, rfl, hdue, rfl, rfl, fun o =>
      congrArg (fun core => (core.map (·.notifier o.channel)).getD {}) (hkept o)⟩

end Reporting

/-! ## The account -/

/-- In whatever order events, callbacks and the calls of the dispatch thread come, every event is
accounted for exactly once.  Operations that run one at a time, followed by the end of the context,
are among these courses, and then the dispatch thread has made all its calls.  What is unnotified then
is what the notifiers say when the context ends, and the events of an endpoint are the messages that
were delivered to it and the entries in its books, at the moments of its life. -/
theorem callbacks_account :
    (∀ r : Reporting, r.Reachable → r.Accounted) ∧
    ∀ ctx history result, Context.Course ctx history →
      (∃ moments, Context.Trail ctx moments ∧ moments.map Moment.act = history) ∧
      ∀ moments, Context.Trail ctx moments → moments.map Moment.act = history →
        ∃ r earlier, Reporting.Reachable r ∧ r.ctx = ctx.shutdown.2 ∧
          r.log = .stopped :: earlier ∧
          r.calls = Dispatcher.run result ctx.shutdown.2.dispatcher.jobs ∧
          (∀ outlet, r.log.reported r.calls outlet + (r.notifier outlet).unnotified =
            r.log.events outlet) ∧
          (∀ gid core channel, ctx.graph.locals.find? gid = some core →
            r.notifier ⟨gid, Moment.departures moments gid, channel⟩ = core.notifier channel) ∧
          ∀ handle life n, Lives handle moments life n ∨ Lived handle moments life n →
            ∀ channel, channel = .data ∨ handle.kind.isTopic = true →
              r.log.events ⟨handle.gid, n, channel⟩ =
                (life.map (·.occurred handle channel)).sum := by
  refine ⟨fun r h => h.sound.accounted, fun ctx history result h =>
    ⟨h.exists_trail, fun moments htrail _ => ?_⟩⟩
  obtain ⟨r, hr⟩ := htrail.exists_retelling
  obtain rfl := hr.ctx_eq
  obtain ⟨r', hr', hctx, hdue', hlog, hcalls', hnotifier⟩ :=
    hr.reachable.exists_shutdown hr.due hr.calls hr.running result
  refine ⟨r', r.log, hr', hctx, hlog, hctx ▸ hcalls', fun outlet => ?_, fun gid core channel hcore => ?_,
    fun handle life n hlife channel hchannel => ?_⟩
  · have hlog' : r'.log = [] ++ .stopped :: r.log := hlog
    have hended : Dispatcher.Ended r'.ctx.dispatcher.jobs r'.calls := by
      rw [hcalls']
      exact Dispatcher.ended_run result (hr'.sound.stop_not_mem hlog') (hr'.sound.queue_eq hlog')
    exact hr'.sound.accounted.settled [] r.log hlog hended outlet (hdue' ▸ List.not_mem_nil)
  · rw [hnotifier, ← hr.age]
    exact Reporting.notifier_eq (Reporting.core_live hcore)
  · rw [hlog]
    exact (List.countP_cons_of_neg Bool.false_ne_true).trans
      (hr.events handle life n hlife channel hchannel)

/-- Two messages come while there is no callback, one while there is, and one after it was cleared.
The first call tells of two and panics, the second tells of one, and one is left unnotified.  The same
comes of operations one at a time, with a match told to another callback. -/
theorem exists_callbacks_account :
    (∃ (r : Reporting) (outlet : Outlet), r.Reachable ∧
      r.calls = [⟨5, 2, .panicked⟩, ⟨5, 1, .returned⟩] ∧ (r.notifier outlet).unnotified = 1 ∧
      r.log.reported r.calls outlet + (r.notifier outlet).unnotified = r.log.events outlet ∧
      r.log.events outlet = 4) ∧
    ∃ (ctx : Context) (history : List Act) (outlet other : Outlet), ctx.Course history ∧
      history.length = 10 ∧ ∃ r earlier, Reporting.Reachable r ∧ r.ctx = ctx.shutdown.2 ∧
        r.log = .stopped :: earlier ∧
        r.calls = [⟨5, 2, .panicked⟩, ⟨5, 1, .panicked⟩, ⟨6, 1, .panicked⟩] ∧
        r.log.events outlet = 4 ∧ (r.notifier outlet).unnotified = 1 ∧
        r.log.reported r.calls outlet = 3 ∧
        r.log.events other = 1 ∧ (r.notifier other).unnotified = 0 ∧
        r.log.reported r.calls other = 1 := by
  constructor
  · have hstart := @Reporting.Reachable.start (.start 7) _
      { domainId := 0, enclave := "/", discoveryRange := .localhost, discoveryPeers := [],
        instanceId := none, waitSetCapacity := 4, qosProfilePath := none } _ rfl
    have hadded := hstart.step (@Reporting.Step.add _ (.mint 7 1 1)
      ⟨.subscription, "chatter", "String", "listener", "/", .standard, true, []⟩ (some false) _ _
        rfl)
    have hcame := (hadded.step (@Reporting.Step.occur _ (.mint 7 1 1) 0 _
      (.message ⟨[7], .mint 7 1 2, 1⟩) rfl)).step (@Reporting.Step.occur _ (.mint 7 1 1) 0 _
        (.message ⟨[8], .mint 7 1 2, 2⟩) rfl)
    have hcounted := (hcame.step (@Reporting.Step.raise _ ⟨.mint 7 1 1, 0, .data⟩ _ (by decide)
      rfl)).step (@Reporting.Step.raise _ ⟨.mint 7 1 1, 0, .data⟩ _ (by decide) rfl)
    have hreported := ((hcounted.step
      (@Reporting.Step.register _ ⟨.mint 7 1 1, 0, .data⟩ _ (some 5) rfl)).step
        (@Reporting.Step.occur _ (.mint 7 1 1) 0 _ (.message ⟨[9], .mint 7 1 2, 3⟩) rfl)).step
          (@Reporting.Step.raise _ ⟨.mint 7 1 1, 0, .data⟩ _ (by decide) rfl)
    have hcleared := ((hreported.step
      (@Reporting.Step.register _ ⟨.mint 7 1 1, 0, .data⟩ _ none rfl)).step
        (@Reporting.Step.occur _ (.mint 7 1 1) 0 _ (.message ⟨[10], .mint 7 1 2, 4⟩) rfl)).step
          (@Reporting.Step.raise _ ⟨.mint 7 1 1, 0, .data⟩ _ (by decide) rfl)
    have hserved := ((hcleared.step (.stop rfl)).step
      (.serve ⟨5, 2, .panicked⟩ rfl)).step (.serve ⟨5, 1, .returned⟩ rfl)
    have hsettled := (callbacks_account.1 _ hserved).settled [] _ rfl rfl ⟨.mint 7 1 1, 0, .data⟩
      (by decide)
    exact ⟨_, ⟨.mint 7 1 1, 0, .data⟩, hserved, rfl, rfl, hsettled, rfl⟩
  · have hcreate := @Context.Trail.create (.start 7) _
      { domainId := 0, enclave := "/", discoveryRange := .localhost, discoveryPeers := [],
        instanceId := none, waitSetCapacity := 4, qosProfilePath := none } _ rfl
    have hopened := ((hcreate.perform (.createNode "talker" "/") trivial).perform
      (.createEndpoint ⟨.mint 7 1 1, "talker", "/"⟩ .publisher "chatter" "String" .standard false)
        trivial).perform
      (.createEndpoint ⟨.mint 7 1 1, "talker", "/"⟩ .subscription "chatter" "String" .standard
        false) trivial
    have hsent := (hopened.perform (.publish (.mint 7 1 2) [7]) ⟨_, rfl, rfl⟩).perform
      (.publish (.mint 7 1 2) [8]) ⟨_, rfl, rfl⟩
    have hcalled := (hsent.perform (.setCallback (.mint 7 1 3) .data (some 5)) trivial).perform
      (.publish (.mint 7 1 2) [9]) ⟨_, rfl, rfl⟩
    have hcleared := (hcalled.perform (.setCallback (.mint 7 1 3) .data none) trivial).perform
      (.publish (.mint 7 1 2) [10]) ⟨_, rfl, rfl⟩
    have htrail := hcleared.perform
      (.setCallback (.mint 7 1 2) (.status .matched) (some 6)) trivial
    obtain ⟨r, earlier, hr, hctx, hlog, hcalls, haccount, hnotifier, hevents⟩ :=
      (callbacks_account.2 _ _ (fun _ => .panicked) htrail.course).2 _ htrail rfl
    let outlet : Outlet := ⟨.mint 7 1 3, 0, .data⟩
    let other : Outlet := ⟨.mint 7 1 2, 0, .status .matched⟩
    have hlistener := hevents ⟨.mint 7 1 3, .subscription, "chatter", "String", .standard⟩ _ _
      (Or.inl (.live (.live (.live (.live (.live (.live (.live (.create rfl) rfl) rfl) rfl) rfl) rfl)
        rfl) rfl)) .data (Or.inl rfl)
    have htalker := hevents ⟨.mint 7 1 2, .publisher, "chatter", "String", .standard⟩ _ _
      (Or.inl (.live (.live (.live (.live (.live (.live (.live (.live (.create rfl) rfl) rfl) rfl)
        rfl) rfl) rfl) rfl) rfl)) (.status .matched) (Or.inr rfl)
    have hcount : r.log.events outlet = 4 := hlistener.trans rfl
    have hcount' : r.log.events other = 1 := htalker.trans rfl
    have hleft : (r.notifier outlet).unnotified = 1 :=
      congrArg Notifier.unnotified (hnotifier (.mint 7 1 3) _ .data rfl)
    have hleft' : (r.notifier other).unnotified = 0 :=
      congrArg Notifier.unnotified (hnotifier (.mint 7 1 2) _ (.status .matched) rfl)
    have hbalance := haccount outlet
    have hbalance' := haccount other
    exact ⟨_, _, outlet, other, htrail.course, rfl, r, earlier, hr, hctx, hlog, hcalls, hcount, hleft,
      by omega, hcount', hleft', by omega⟩

end PubSub
