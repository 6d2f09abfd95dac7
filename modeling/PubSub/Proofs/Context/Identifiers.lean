import Mathlib.Algebra.Group.Nat.Defs
import Mathlib.Data.List.Nodup
import PubSub.Proofs.Context.Samples

/-!
# Identifiers are given once

A context numbers what it creates, and an identifier is made of such a number, most significant byte
first, so that identifiers are in the order of their numbers (`Gid.mint_lt`).  The identifiers that a
context has minted are those of the numbers from one on (`Context.Course.minted`).  The numbers come
round after `2 ^ 64` of them, but not before: as long as a history is shorter than that, every
identifier in it was given to one endpoint at most (`Context.Course.timesGiven_le_one`).
-/

namespace PubSub

/-! ## Numbers in identifiers -/

/-- Bytes that differ decide the order, whatever follows as many of them. -/
theorem append_lt_append {a b : List UInt8} (hlength : a.length = b.length) (h : a < b)
    (c d : List UInt8) : a ++ c < b ++ d := by
  induction a generalizing b with
  | nil =>
    rw [List.eq_nil_of_length_eq_zero hlength.symm] at h
    exact absurd h (List.lt_irrefl [])
  | cons x a ih =>
    cases b with
    | nil => cases hlength
    | cons y b =>
      rw [List.cons_append, List.cons_append, List.cons_lt_cons_iff]
      exact (List.cons_lt_cons_iff.1 h).imp_right fun ⟨heq, hrest⟩ =>
        ⟨heq, ih (Nat.succ.inj hlength) hrest⟩

/-- Numbers of one width are in the order of their bytes. -/
theorem bigEndian_lt {width m n : Nat} (hn : n < 256 ^ width) (h : m < n) :
    bigEndian width m < bigEndian width n := by
  induction width generalizing m n with
  | zero =>
    rw [Nat.pow_zero] at hn
    omega
  | succ width ih =>
    have hdiv : n / 256 < 256 ^ width := by
      rw [Nat.pow_succ] at hn
      omega
    unfold bigEndian
    rcases Nat.lt_or_eq_of_le (show m / 256 ≤ n / 256 by omega) with hlt | heq
    · exact append_lt_append (by simp) (ih hdiv hlt) _ _
    · rw [heq]
      refine List.append_left_lt (List.cons_lt_cons_iff.2 (.inl ?_))
      rw [UInt8.lt_iff_toNat_lt, UInt8.toNat_ofNat', UInt8.toNat_ofNat']
      omega

theorem bigEndian_inj {width m n : Nat} (hm : m < 256 ^ width) (hn : n < 256 ^ width)
    (h : bigEndian width m = bigEndian width n) : m = n := by
  rcases Nat.lt_trichotomy m n with hlt | heq | hlt
  · exact absurd (h ▸ bigEndian_lt hn hlt) (List.lt_irrefl _)
  · exact heq
  · exact absurd (h ▸ bigEndian_lt hm hlt) (List.lt_irrefl _)

namespace Gid

/-- The identifiers of a context are in the order of their numbers. -/
theorem mint_lt (process instanceId : UInt32) {i j : UInt64} (h : i < j) :
    mint process instanceId i < mint process instanceId j := by
  have hentity : bigEndian 8 i.toNat < bigEndian 8 j.toNat := bigEndian_lt j.toNat_lt h
  simp only [lt_def, mint, List.append_assoc]
  exact List.append_left_lt (List.append_left_lt (append_lt_append (by simp) hentity _ _))

/-- An identifier tells the process, the instance of the context, and the number. -/
theorem mint_inj {process process' instanceId instanceId' : UInt32} {i j : UInt64}
    (h : mint process instanceId i = mint process' instanceId' j) :
    process = process' ∧ instanceId = instanceId' ∧ i = j := by
  obtain ⟨hnumbers, -⟩ := List.append_inj (congrArg bytes h) (by simp)
  obtain ⟨hcontext, hentity⟩ := List.append_inj hnumbers (by simp)
  obtain ⟨hprocess, hinstance⟩ := List.append_inj hcontext (by simp)
  exact ⟨UInt32.toNat.inj (bigEndian_inj process.toNat_lt process'.toNat_lt hprocess),
    UInt32.toNat.inj (bigEndian_inj instanceId.toNat_lt instanceId'.toNat_lt hinstance),
    UInt64.toNat.inj (bigEndian_inj i.toNat_lt j.toNat_lt hentity)⟩

end Gid

/-! ## What is minted -/

/-- The identifier that an act minted.  One that was taken already is refused to an endpoint, and lost. -/
def Act.minted : Act → Option Gid
  | ⟨.createNode .., .ok (.node node)⟩ => some node.gid
  | ⟨.createEndpoint .., .ok (.endpoint handle)⟩ => some handle.gid
  | ⟨.createEndpoint .., .error (.invalidArgument (.duplicateEndpoint gid))⟩ => some gid
  | _ => none

/-- The identifiers that were minted, latest first. -/
def minted (history : List Act) : List Gid := history.filterMap Act.minted

/-- The instance of a context, and the identifiers that it hands out. -/
def Context.issuer (ctx : Context) : UInt32 × GidSource := (ctx.instanceId, ctx.gids)

/-- An act mints the next identifier or none. -/
def Act.Mints (act : Act) (ctx ctx' : Context) : Prop :=
  (act.minted = none ∧ ctx'.issuer = ctx.issuer) ∨
  (act.minted = some ctx.mint.1 ∧ ctx'.issuer = ctx.mint.2.issuer)

namespace Context

variable (ctx : Context)

theorem issuer_dispatch (job : Option Job) : (ctx.dispatch job).issuer = ctx.issuer := by
  cases job <;> rfl

theorem issuer_signal (gid : Gid) (channel : Channel) (f : Core → Core) :
    (ctx.signal gid channel f).issuer = ctx.issuer := by
  unfold signal
  split
  · rfl
  · exact issuer_dispatch ..

theorem issuer_change (graph : Graph) (notices : List Notice) :
    (ctx.change graph notices).issuer = ctx.issuer := by
  have hfires : ∀ c : Context, (notices.foldl fire c).issuer = c.issuer := by
    induction notices with
    | nil => exact fun c => rfl
    | cons notice rest ih =>
      intro c
      refine (ih (c.fire notice)).trans ?_
      cases notice <;> exact issuer_signal ..
  exact hfires { ctx with graph }

theorem issuer_deliverAll (receivers : List Gid) (message : Message) :
    (ctx.deliverAll receivers message).issuer = ctx.issuer := by
  unfold deliverAll
  induction receivers generalizing ctx with
  | nil => rfl
  | cons gid rest ih => exact (ih _).trans (issuer_signal ..)

theorem issuer_take (gid : Gid) : (ctx.take gid).2.issuer = ctx.issuer := by
  unfold take
  split <;> rfl

theorem issuer_takeUpTo (gid : Gid) (count : Nat) : (ctx.takeUpTo gid count).2.issuer = ctx.issuer := by
  induction count generalizing ctx with
  | zero => rfl
  | succ count ih =>
    have htake := ctx.issuer_take gid
    unfold takeUpTo
    split
    · next ctx' heq => rwa [heq] at htake
    · next message ctx' heq =>
      rw [heq] at htake
      exact (ih ctx').trans htake

theorem issuer_poll (source : Source) : (ctx.poll source).2.issuer = ctx.issuer := by
  cases source <;> rfl

theorem issuer_scan (handles : List (Option Source)) : (ctx.scan handles).2.issuer = ctx.issuer := by
  induction handles generalizing ctx with
  | nil => rfl
  | cons handle rest ih =>
    cases handle with
    | none => exact ih ctx
    | some source => exact (ih _).trans (ctx.issuer_poll source)

theorem issuer_passWait (session : Session) (now : Nat) :
    (ctx.passWait session now).1.issuer = ctx.issuer := by
  have hscan := ctx.issuer_scan session.handles
  have hown := (issuer_poll (ctx.scan session.handles).2 (.guard session.guard)).trans hscan
  unfold passWait
  dsimp only
  split_ifs
  exacts [hscan, hscan, hscan, hscan, hown, hown, hown]

theorem issuer_startWait (id : WaitSetId) (handles : List (Option Source)) (timeout : Option Nat)
    (now : Nat) : (ctx.startWait id handles timeout now).1.issuer = ctx.issuer := by
  unfold startWait
  dsimp only
  split
  · rfl
  · split
    · rfl
    · split
      · rfl
      · split
        · rfl
        · exact issuer_passWait ..

theorem issuer_resumeWait (session : Session) (now : Nat) :
    (ctx.resumeWait session now).1.issuer = ctx.issuer := by
  have hcollect : (ctx.collect session).issuer = ctx.issuer := by
    unfold collect
    split <;> rfl
  unfold resumeWait
  split
  · exact (issuer_passWait ..).trans hcollect
  · exact issuer_passWait ..

end Context

namespace Operation

/-- An endpoint has the identifier that was minted. -/
theorem minted_of_created {operation : Operation} {ctx : Context} {handle : Handle}
    (hcreated : created (operation.perform ctx).1 = some handle) :
    Act.minted ⟨operation, (operation.perform ctx).1⟩ = some handle.gid := by
  obtain ⟨_, _, _, _, _, _, rfl⟩ := (operation.does ctx).eq_createEndpoint hcreated
  generalize (perform ctx _).1 = reply at hcreated ⊢
  unfold created at hcreated
  split at hcreated
  · cases hcreated
    rfl
  · cases hcreated

/-- No refusal but that of a known endpoint tells of an identifier. -/
theorem minted_error (operation : Operation) {error : Error}
    (hother : ∀ gid, error ≠ .invalidArgument (.duplicateEndpoint gid)) :
    Act.minted ⟨operation, .error error⟩ = none := by
  unfold Act.minted
  split
  · next heq => cases heq
  · next heq => cases heq
  · next gid heq =>
    cases heq
    exact absurd rfl (hother gid)
  · rfl

theorem Does.mints {ctx ctx' : Context} {operation : Operation} {reply : Except Error Reply}
    (h : operation.Does ctx reply ctx') : Act.Mints ⟨operation, reply⟩ ctx ctx' := by
  cases h with
  | refused _ hother => exact Or.inl ⟨minted_error operation hother, rfl⟩
  | announceKnownNode | withdrawUnknownNode | announceKnownEndpoint | withdrawUnknownEndpoint
  | destroyUnknownNode | destroyUnknownEndpoint | sendResponseToNone | sendResponseToOther
  | takeStatus | takeNoStatus | createGuard | trigger | createWaitSet | createNoWaitSet
  | dropWaitSet => exact Or.inl ⟨rfl, rfl⟩
  | announceNode | withdrawNode | announceEndpoint | withdrawEndpoint | destroyNode
  | destroyEndpoint => exact Or.inl ⟨rfl, ctx.issuer_change ..⟩
  | createNode => exact Or.inr ⟨rfl, ctx.mint.2.issuer_change ..⟩
  | createKnownNode => exact Or.inr ⟨rfl, rfl⟩
  | createEndpoint _ hhandle =>
    subst hhandle
    exact Or.inr ⟨rfl, ctx.mint.2.issuer_change ..⟩
  | createKnownEndpoint hadd =>
    -- The identifier is in the refusal.
    unfold Graph.addEndpoint at hadd
    split at hadd <;> cases hadd
    exact Or.inr ⟨rfl, rfl⟩
  | publish gid | sendRequest gid =>
    exact Or.inl ⟨rfl, (ctx.nextSequence gid).2.issuer_deliverAll ..⟩
  | take gid | takeRequest gid | takeResponse gid => exact Or.inl ⟨rfl, ctx.issuer_take gid⟩
  | takeSequence gid count => exact Or.inl ⟨rfl, ctx.issuer_takeUpTo gid count⟩
  | sendResponse => exact Or.inl ⟨rfl, ctx.issuer_signal ..⟩
  | setCallback =>
    refine Or.inl ⟨rfl, ?_⟩
    unfold Context.setCallback
    split
    · rfl
    · exact Context.issuer_dispatch ..

theorem mints_perform (operation : Operation) (ctx : Context) :
    Act.Mints ⟨operation, (operation.perform ctx).1⟩ ctx (operation.perform ctx).2 :=
  (operation.does ctx).mints

end Operation

/-! ## No identifier is minted twice -/

/-- The identifiers minted are those of the numbers from one on, and endpoints have none but these. -/
structure Context.Minted (ctx : Context) (history : List Act) : Prop where
  instanceId : ctx.gids.instanceId = ctx.instanceId
  next : ctx.gids.next = UInt64.ofNat ((minted history).length + 1)
  numbered : (minted history).reverse = (List.range' 1 (minted history).length).map fun n =>
    Gid.mint ctx.gids.process ctx.instanceId (UInt64.ofNat n)
  given : ∀ gid, timesGiven history gid ≤ (minted history).count gid

namespace Context.Minted

variable {ctx ctx' : Context} {history : List Act} {act : Act}

theorem congr (h : ctx.Minted history) (hissuer : ctx'.issuer = ctx.issuer) :
    ctx'.Minted history := by
  obtain ⟨hinstance, hgids⟩ := Prod.mk.inj hissuer
  obtain ⟨heq, hnext, hnumbered, hgiven⟩ := h
  exact ⟨by rw [hinstance, hgids, heq], by rw [hgids, hnext], by rw [hinstance, hgids, hnumbered],
    hgiven⟩

/-- The next number is in the identifier that is minted next. -/
theorem step (h : ctx.Minted history) (hmints : act.Mints ctx ctx')
    (hcreated : ∀ handle, Operation.created act.reply = some handle →
      act.minted = some handle.gid) : ctx'.Minted (act :: history) := by
  have hgiven (gid : Gid) : timesGiven (act :: history) gid ≤ (minted (act :: history)).count gid := by
    have hbefore := h.given gid
    unfold timesGiven minted at hbefore ⊢
    rw [List.countP_cons, List.filterMap_cons]
    cases hreply : Operation.created act.reply with
    | none => cases act.minted <;> simp [List.count_cons] <;> omega
    | some handle =>
      rw [hcreated handle hreply, Option.any_some, List.count_cons, beq_eq_decide]
      omega
  rcases hmints with ⟨hnone, hissuer⟩ | ⟨hsome, hissuer⟩
  · have hminted : minted (act :: history) = minted history := List.filterMap_cons_none hnone
    refine Minted.congr ⟨h.instanceId, ?_, ?_, hgiven⟩ hissuer
    · rw [hminted, h.next]
    · rw [hminted, h.numbered]
  · have hminted : minted (act :: history) = ctx.mint.1 :: minted history :=
      List.filterMap_cons_some hsome
    have hmint : ctx.mint.1 = Gid.mint ctx.gids.process ctx.instanceId
        (UInt64.ofNat (1 + (minted history).length)) := by
      rw [← h.instanceId, Nat.add_comm, ← h.next]
      rfl
    refine @Minted.congr ctx.mint.2 ctx' _ ⟨h.instanceId, ?_, ?_, hgiven⟩ hissuer
    · show ctx.gids.next + 1 = _
      rw [h.next, hminted, List.length_cons, ← UInt64.ofNat_one, ← UInt64.ofNat_add]
    · rw [hminted, List.reverse_cons, List.length_cons, List.range'_1_concat, List.map_append,
        h.numbered, hmint]
      rfl

theorem getElem?_eq (h : ctx.Minted history) {i : Nat} {gid : Gid}
    (hi : (minted history).reverse[i]? = some gid) :
    gid = Gid.mint ctx.gids.process ctx.instanceId (UInt64.ofNat (i + 1)) := by
  rw [h.numbered, List.getElem?_map] at hi
  obtain ⟨n, hn, rfl⟩ := Option.map_eq_some_iff.1 hi
  obtain ⟨_, rfl⟩ := List.getElem?_eq_some_iff.1 hn
  rw [List.getElem_range', Nat.one_mul, Nat.add_comm]

/-- The identifiers are in the order in which they were minted, the latest being the greatest. -/
theorem descending (h : ctx.Minted history) (hshort : (minted history).length < UInt64.size) :
    (minted history).Pairwise fun a b => b < a := by
  rw [← List.pairwise_reverse, h.numbered, List.pairwise_map]
  refine List.Pairwise.imp_of_mem (fun hm hn hlt => Gid.mint_lt _ _ ?_) List.pairwise_lt_range'
  rw [List.mem_range'_1] at hm hn
  rw [UInt64.lt_iff_toNat_lt, UInt64.toNat_ofNat_of_lt' (by omega),
    UInt64.toNat_ofNat_of_lt' (by omega)]
  exact hlt

theorem nodup (h : ctx.Minted history) (hshort : (minted history).length < UInt64.size) :
    (minted history).Nodup := by
  refine (h.descending hshort).imp fun hlt => ?_
  rintro rfl
  exact List.lt_irrefl _ hlt

end Context.Minted

/-- Whatever happened to a context, it has minted the identifiers in turn. -/
theorem Context.Course.minted {ctx : Context} {history : List Act} (h : ctx.Course history) :
    ctx.Minted history := by
  induction h with
  | @create host host' options ctx hcreate =>
    unfold Context.create at hcreate
    cases hvalid : options.validate with
    | error error =>
      rw [hvalid] at hcreate
      cases hcreate
    | ok =>
      rw [hvalid] at hcreate
      cases hcreate
      exact ⟨rfl, rfl, rfl, fun gid => Nat.le_refl 0⟩
  | perform _ operation _ ih =>
    exact ih.step (operation.mints_perform _) fun _ => Operation.minted_of_created
  | startWait _ id handles timeout now ih => exact ih.congr (issuer_startWait ..)
  | resumeWait _ session now ih => exact ih.congr (issuer_resumeWait ..)

/-- As long as a history is shorter than the numbers of a context reach, no identifier was given to two
endpoints. -/
theorem Context.Course.timesGiven_le_one {ctx : Context} {history : List Act}
    (h : ctx.Course history) (hshort : history.length < UInt64.size) (gid : Gid) :
    timesGiven history gid ≤ 1 := by
  have hlength : (PubSub.minted history).length ≤ history.length := List.length_filterMap_le ..
  have hnodup := h.minted.nodup (Nat.lt_of_le_of_lt hlength hshort)
  exact Nat.le_trans (h.minted.given gid) (List.nodup_iff_count_le_one.1 hnodup gid)

end PubSub
