import PubSub.Proofs.Context.Signal

/-!
# What becomes of messages

Messages enter a queue at one end and leave it at the other, taken by somebody or evicted by a later
delivery.  A `Ledger` records both ends in order.  The balance is the same after every step: what was
delivered is what departed and then what still waits (`Ledger.Balanced`).  So what was taken and what
waits are deliveries in their order, and those missing were evicted, each from a full queue.
-/

namespace PubSub

/-! ## Evictions -/

namespace Core

/-- The messages that go when another one arrives. -/
def evicted (core : Core) : List Message :=
  core.inbox.take (core.inbox.length - core.kept.length)

/-- A full queue loses its oldest message, and any other queue none. -/
theorem Fits.evicted_eq {core : Core} (h : core.Fits) :
    core.evicted = if core.capacity = some core.inbox.length then core.inbox.take 1 else [] := by
  unfold evicted
  rw [h.kept_eq]
  split
  · next hfull =>
    have hpos := (h _ hfull).1
    rw [List.length_tail]
    congr 1
    omega
  · rw [Nat.sub_self, List.take_zero]

/-- A queue is what goes and then what stays. -/
theorem Fits.evicted_append_kept {core : Core} (h : core.Fits) :
    core.evicted ++ core.kept = core.inbox := by
  rw [h.evicted_eq, h.kept_eq]
  split
  · rw [← List.drop_one, List.take_append_drop]
  · rfl

/-- The oldest messages are dropped until there is room, which comes to an end. -/
theorem Fits.exists_makeRoom {core : Core} (h : core.Fits) {n : Nat} (hn : core.capacity = some n) :
    ∃ rest, makeRoom n core.inbox = some rest :=
  ⟨_, makeRoom_eq_some (h n hn).1 core.inbox⟩

end Core

/-! ## Ledgers -/

/-- How a message left a queue: one of those who take messages took it, or it was evicted from a
queue of these messages. -/
inductive Departure
  | taken (taker : Nat)
  | evicted (queue : List Message)
deriving DecidableEq

/-- Everything that was delivered to a queue, and everything that left it, in order. -/
structure Ledger where
  /-- The profile of the endpoint. -/
  profile : Qos.Profile
  delivered : List Message
  departed : List (Message × Departure)

namespace Ledger

/-- The ledger of a new endpoint. -/
def start (profile : Qos.Profile) : Ledger := ⟨profile, [], []⟩

/-- A message is delivered to the queue of the core. -/
def deliver (ledger : Ledger) (core : Core) (message : Message) : Ledger :=
  { ledger with
    delivered := ledger.delivered ++ [message]
    departed := ledger.departed ++ core.evicted.map fun gone => (gone, .evicted core.inbox) }

/-- Somebody takes a message. -/
def take (ledger : Ledger) (taker : Nat) (message : Message) : Ledger :=
  { ledger with departed := ledger.departed ++ [(message, .taken taker)] }

/-- Somebody takes several messages, one after the other. -/
def takeAll (ledger : Ledger) (taker : Nat) (messages : List Message) : Ledger :=
  { ledger with departed := ledger.departed ++ messages.map fun m => (m, .taken taker) }

/-- The messages that one taker took. -/
def takenBy (ledger : Ledger) (taker : Nat) : List Message :=
  ledger.departed.filterMap fun d => if d.2 = .taken taker then some d.1 else none

/-- The messages that were taken. -/
def taken (ledger : Ledger) : List Message :=
  ledger.departed.filterMap fun d => match d.2 with
    | .taken _ => some d.1
    | .evicted _ => none

/-- The messages that were evicted. -/
def evicted (ledger : Ledger) : List Message :=
  ledger.departed.filterMap fun d => match d.2 with
    | .taken _ => none
    | .evicted _ => some d.1

theorem takenBy_deliver (ledger : Ledger) (core : Core) (message : Message) (taker : Nat) :
    (ledger.deliver core message).takenBy taker = ledger.takenBy taker := by
  unfold takenBy deliver
  simp [List.filterMap_append, List.filterMap_map]

theorem takenBy_take (ledger : Ledger) (taker : Nat) (message : Message) (other : Nat) :
    (ledger.take taker message).takenBy other =
      ledger.takenBy other ++ if other = taker then [message] else [] := by
  unfold takenBy take
  rw [List.filterMap_append]
  by_cases h : other = taker
  · simp [h]
  · simp [h, Ne.symm h]

theorem takeAll_nil (ledger : Ledger) (taker : Nat) : ledger.takeAll taker [] = ledger := by
  unfold takeAll
  rw [List.map_nil, List.append_nil]

theorem takeAll_take (ledger : Ledger) (taker : Nat) (message : Message)
    (messages : List Message) :
    (ledger.take taker message).takeAll taker messages =
      ledger.takeAll taker (message :: messages) := by
  unfold takeAll take
  rw [List.map_cons, List.append_assoc]
  rfl

/-- What one taker took is part of what was taken. -/
theorem takenBy_sublist (ledger : Ledger) (taker : Nat) :
    (ledger.takenBy taker).Sublist ledger.taken := by
  unfold takenBy taken
  induction ledger.departed with
  | nil => exact .slnil
  | cons d rest ih =>
    obtain ⟨message, other | queue⟩ := d
    · by_cases h : other = taker
      · simpa [h] using ih
      · simpa [h] using ih.cons message
    · simpa using ih

theorem taken_sublist_departed (ledger : Ledger) :
    ledger.taken.Sublist (ledger.departed.map Prod.fst) := by
  unfold taken
  induction ledger.departed with
  | nil => exact .slnil
  | cons d rest ih =>
    obtain ⟨message, other | queue⟩ := d
    · exact ih.cons_cons message
    · exact ih.cons message

theorem departed_perm (ledger : Ledger) :
    (ledger.departed.map Prod.fst).Perm (ledger.taken ++ ledger.evicted) := by
  unfold taken evicted
  induction ledger.departed with
  | nil => exact .nil
  | cons d rest ih =>
    obtain ⟨message, other | queue⟩ := d
    · exact ih.cons message
    · exact (ih.cons message).trans List.perm_middle.symm

/-! ## The balance -/

/-- A valid profile was asked for, and the policies it left open were chosen for some peers. -/
def Settled (profile : Qos.Profile) : Prop :=
  ∃ asked role peers, asked.validate = .ok () ∧
    profile = Qos.resolve asked role peers fallbackProfile

/-- The queue of a core is what its ledger leaves it with. -/
structure Balanced (ledger : Ledger) (core : Core) : Prop where
  settled : Settled ledger.profile
  capacity : core.capacity = ledger.profile.queueCapacity
  fits : core.Fits
  delivered : ledger.delivered = ledger.departed.map Prod.fst ++ core.inbox
  evicted : ∀ message queue, (message, .evicted queue) ∈ ledger.departed →
    ledger.profile.queueCapacity = some queue.length ∧ queue.head? = some message

namespace Balanced

variable {ledger : Ledger} {core core' : Core}

/-- The queue of a new endpoint is empty. -/
theorem start {profile : Qos.Profile} (hsettled : Settled profile)
    (hcapacity : core.capacity = profile.queueCapacity) (hinbox : core.inbox = []) :
    (Ledger.start profile).Balanced core where
  settled := hsettled
  capacity := hcapacity
  fits n hn := by
    rw [hcapacity] at hn
    rw [hinbox]
    exact ⟨Qos.Profile.queueCapacity_pos hn, Nat.zero_le n⟩
  delivered := by rw [hinbox]; rfl
  evicted message queue hmem := by cases hmem

/-- Only the queue and its bound matter. -/
theorem congr (h : ledger.Balanced core) (hcapacity : core'.capacity = core.capacity)
    (hinbox : core'.inbox = core.inbox) : ledger.Balanced core' where
  settled := h.settled
  capacity := hcapacity.trans h.capacity
  fits n hn := by
    rw [hcapacity] at hn
    rw [hinbox]
    exact h.fits n hn
  delivered := by rw [hinbox]; exact h.delivered
  evicted := h.evicted

theorem deliver (h : ledger.Balanced core) (message : Message) :
    (ledger.deliver core message).Balanced (core.enqueue message) where
  settled := h.settled
  capacity := h.capacity
  fits := h.fits.enqueue message
  delivered := by
    have hdeparted : (ledger.deliver core message).departed.map Prod.fst =
        ledger.departed.map Prod.fst ++ core.evicted := by
      unfold Ledger.deliver
      rw [List.map_append, List.map_map]
      exact congrArg (_ ++ ·) (List.map_id _)
    show ledger.delivered ++ [message] = _ ++ (core.kept ++ [message])
    rw [hdeparted, h.delivered, List.append_assoc, List.append_assoc,
      ← List.append_assoc core.evicted, h.fits.evicted_append_kept]
  evicted gone queue hmem := by
    rcases List.mem_append.1 hmem with hold | hnew
    · exact h.evicted gone queue hold
    · obtain ⟨gone', hgone, heq⟩ := List.mem_map.1 hnew
      cases heq
      rw [h.fits.evicted_eq] at hgone
      split at hgone
      · next hfull =>
        refine ⟨h.capacity.symm.trans hfull, ?_⟩
        cases hinbox : core.inbox with
        | nil =>
          rw [hinbox] at hgone
          cases hgone
        | cons first rest =>
          rw [hinbox] at hgone
          exact congrArg some (List.mem_singleton.1 hgone).symm
      · cases hgone

theorem take (h : ledger.Balanced core) (taker : Nat) {message : Message}
    (hmessage : core.dequeue.1 = some message) :
    (ledger.take taker message).Balanced core.dequeue.2 := by
  unfold Core.dequeue at hmessage ⊢
  split at hmessage
  · cases hmessage
  · next first rest hinbox =>
    obtain rfl := Option.some.inj hmessage
    refine ⟨h.settled, h.capacity, fun n hn => ?_, ?_, fun gone queue hmem => ?_⟩
    · obtain ⟨hpos, hle⟩ := h.fits n hn
      rw [hinbox] at hle
      exact ⟨hpos, Nat.le_of_succ_le hle⟩
    · have hdelivered := h.delivered
      rw [hinbox] at hdelivered
      unfold Ledger.take
      rw [hdelivered, List.map_append, List.append_assoc]
      rfl
    · rcases List.mem_append.1 hmem with hold | hnew
      · exact h.evicted gone queue hold
      · cases List.mem_singleton.1 hnew

/-! ## What the balance tells -/

/-- What was taken and what waits are deliveries, in their order and each of them once. -/
theorem sublist (h : ledger.Balanced core) :
    (ledger.taken ++ core.inbox).Sublist ledger.delivered := by
  rw [h.delivered]
  exact ledger.taken_sublist_departed.append_right core.inbox

/-- Each delivery was taken, waits, or was evicted. -/
theorem perm (h : ledger.Balanced core) :
    ledger.delivered.Perm (ledger.taken ++ core.inbox ++ ledger.evicted) := by
  rw [h.delivered]
  refine (ledger.departed_perm.append_right core.inbox).trans ?_
  rw [List.append_assoc, List.append_assoc]
  exact List.perm_append_comm.append_left ledger.taken

/-- Without a bound nothing is evicted. -/
theorem evicted_eq_nil (h : ledger.Balanced core) (hnone : ledger.profile.queueCapacity = none) :
    ledger.evicted = [] := by
  refine List.filterMap_eq_nil_iff.2 ?_
  rintro ⟨message, taker | queue⟩ hmem
  · rfl
  · have hfull := (h.evicted message queue hmem).1
    rw [hnone] at hfull
    cases hfull

/-- Without a bound nothing is missing. -/
theorem delivered_eq (h : ledger.Balanced core) (hnone : ledger.profile.queueCapacity = none) :
    ledger.taken ++ core.inbox = ledger.delivered := by
  have hlength := ledger.departed_perm.length_eq
  rw [h.evicted_eq_nil hnone, List.append_nil] at hlength
  rw [h.delivered, ledger.taken_sublist_departed.eq_of_length hlength.symm]

end Balanced

/-- The queue is bounded, and first in is first out: what was taken and what waits is a selection of
the deliveries in their order, and the others were evicted, each as the oldest of a full queue. -/
structure Fifo (ledger : Ledger) (core : Core) : Prop where
  capacity : core.capacity = ledger.profile.queueCapacity
  room : ∀ n, core.capacity = some n → ∃ rest, makeRoom n core.inbox = some rest
  bounded : ∀ n, core.capacity = some n → core.inbox.length ≤ n
  selection : (ledger.taken ++ core.inbox).Sublist ledger.delivered
  missing : ledger.delivered.Perm (ledger.taken ++ core.inbox ++ ledger.evicted)
  evicted : ∀ message queue, (message, .evicted queue) ∈ ledger.departed →
    core.capacity = some queue.length ∧ queue.head? = some message
  keepAll : ledger.profile.history = .keepAll → ledger.taken ++ core.inbox = ledger.delivered

theorem Balanced.fifo {ledger : Ledger} {core : Core} (h : ledger.Balanced core) :
    ledger.Fifo core where
  capacity := h.capacity
  room n hn := h.fits.exists_makeRoom hn
  bounded n hn := (h.fits n hn).2
  selection := h.sublist
  missing := h.perm
  evicted message queue hmem := h.capacity ▸ h.evicted message queue hmem
  keepAll hall := h.delivered_eq (by rw [Qos.Profile.queueCapacity, hall])

end Ledger

end PubSub
