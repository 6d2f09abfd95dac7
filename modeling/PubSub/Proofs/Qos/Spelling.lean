import PubSub.Proofs.Text.LowerCase
import PubSub.Qos.Document

/-!
# Profiles spelled out as entries

An entry spells a profile out if it states every policy of it: the settings by their names in letters
of either case, the bounds by keywords or in milliseconds (`Entry.SpellsOut`).  Such an entry
describes exactly that profile, whatever preset it starts from and whatever stands in the fields that
do not count.  In turn, what any entry describes is a valid profile, and the policies that the entry
leaves out are those of its preset (`Entry.Keeps`).  Both follow from one reading of
`Entry.toUncheckedProfile`, policy by policy (`Entry.toUncheckedProfile_eq_ok_iff`), and are put
together in `Entry.spelling_inverse`.
-/

namespace PubSub.Qos

/-! ## Words -/

/-- The names of the values are ASCII words in lower case. -/
def PlainNames (α : Type) [Named α] : Prop :=
  ∀ a : α, Text.IsAscii (name a).toList ∧ Text.Spells (name a) (name a)

theorem plainNames_history : PlainNames History := by
  rintro (_ | _ | _ | _) <;> decide

theorem plainNames_reliability : PlainNames (Setting Reliability) := by
  rintro (_ | _ | _ | (_ | _)) <;> decide

theorem plainNames_durability : PlainNames (Setting Durability) := by
  rintro (_ | _ | _ | (_ | _)) <;> decide

theorem plainNames_liveliness : PlainNames (Setting Liveliness) := by
  rintro (_ | _ | _ | (_ | _)) <;> decide

/-- A name is read back, in letters of either case. -/
theorem readWord_of_spells {α : Type} [Named α] (hplain : PlainNames α) {word : String} {a : α}
    (h : Text.Spells word (name a)) (field : String) : readWord field word = .ok a := by
  rw [readWord, Text.lower_of_spells (hplain a).1 h, ofName?_name]

/-! ## Bounds -/

/-- A finite bound is a whole number of milliseconds, not zero and within the range of an entry. -/
def Bound.WholeMillis (bound : Bound) : Prop :=
  ∀ span, bound = .finite span → ∃ ms, 0 < ms ∧ ms < UInt64.size ∧ span = Span.ofMillis ms

/-- The entry states the bound by a keyword in letters of either case or, without one, in
milliseconds.  What stands beside these does not count. -/
def BoundEntry.SpellsOut (entry : BoundEntry) : Bound → Prop
  | .unspecified => (∃ word, entry.keyword = some word ∧ Text.Spells word "system_default") ∨
      entry.keyword = none ∧ entry.millis = some 0
  | .infinite => ∃ word, entry.keyword = some word ∧ Text.Spells word "infinite"
  | .bestAvailable => ∃ word, entry.keyword = some word ∧ Text.Spells word "best_available"
  | .finite span => entry.keyword = none ∧ entry.millis = some (span / Span.ofMillis 1)

theorem Bound.ofMillis_of_wholeMillis {span : Span} (h : (Bound.finite span).WholeMillis) :
    Bound.ofMillis (span / Span.ofMillis 1) = .finite span := by
  obtain ⟨ms, hpos, -, rfl⟩ := h span rfl
  have hdiv : ms * 1000000 / (1 * 1000000) = ms := by omega
  have hne : ms * 1000000 ≠ 0 := by omega
  rw [Span.ofMillis, Span.ofMillis, hdiv, Bound.ofMillis, Bound.ofSpan, Span.ofMillis, if_neg hne]

theorem BoundEntry.toBound_of_keyword {entry : BoundEntry} {word : String}
    (h : entry.keyword = some word) : entry.toBound = readBoundKeyword word := by
  rw [BoundEntry.toBound, h]

theorem BoundEntry.toBound_of_millis {entry : BoundEntry} {ms : Nat}
    (hkeyword : entry.keyword = none) (hmillis : entry.millis = some ms) :
    entry.toBound = .ok (.ofMillis ms) := by
  rw [BoundEntry.toBound, hkeyword, hmillis]

/-- A bound that is spelled out is read back. -/
theorem BoundEntry.toBound_of_spellsOut {entry : BoundEntry} {bound : Bound}
    (hwhole : bound.WholeMillis) (h : entry.SpellsOut bound) : entry.toBound = .ok bound := by
  cases bound with
  | unspecified =>
    rcases h with ⟨word, hkeyword, hword⟩ | ⟨hkeyword, hmillis⟩
    · rw [toBound_of_keyword hkeyword, readBoundKeyword, Text.lower_of_spells (by decide) hword]
      rfl
    · rw [toBound_of_millis hkeyword hmillis]
      rfl
  | infinite =>
    obtain ⟨word, hkeyword, hword⟩ := h
    rw [toBound_of_keyword hkeyword, readBoundKeyword, Text.lower_of_spells (by decide) hword]
    rfl
  | bestAvailable =>
    obtain ⟨word, hkeyword, hword⟩ := h
    rw [toBound_of_keyword hkeyword, readBoundKeyword, Text.lower_of_spells (by decide) hword]
    rfl
  | finite span =>
    obtain ⟨hkeyword, hmillis⟩ := h
    rw [toBound_of_millis hkeyword hmillis, Bound.ofMillis_of_wholeMillis hwhole]

/-! ## Entries policy by policy -/

namespace Entry

/-- The profile that an entry starts from. -/
def base (entry : Entry) : Except Error Profile :=
  match entry.preset with
  | some word => readPreset word
  | none => .ok .standard

/-- The lease of an optional liveliness, or else the former one. -/
def overrideLease (former : Bound) : Option LivelinessEntry → Except Error Bound
  | some liveliness => liveliness.toLease former
  | none => .ok former

/-- Each policy of the profile is what the entry makes of that of the base. -/
structure Overrides (entry : Entry) (base profile : Profile) : Prop where
  reliability :
    overrideWord "reliability" base.reliability entry.reliability = .ok profile.reliability
  durability : overrideWord "durability" base.durability entry.durability = .ok profile.durability
  history :
    overrideWord "history kind" base.history (entry.history.map (·.kind)) = .ok profile.history
  depth : (entry.history.bind (·.depth)).getD base.depth = profile.depth
  deadline : overrideBound base.deadline entry.deadline = .ok profile.deadline
  lifespan : overrideBound base.lifespan entry.lifespan = .ok profile.lifespan
  liveliness : overrideWord "liveliness kind" base.liveliness (entry.liveliness.map (·.kind)) =
    .ok profile.liveliness
  livelinessLease :
    overrideLease base.livelinessLease entry.liveliness = .ok profile.livelinessLease
  avoidRosNamespaceConventions :
    entry.avoidRosNamespaceConventions.getD base.avoidRosNamespaceConventions =
      profile.avoidRosNamespaceConventions

/-- The reading of an entry in one line of steps, each of which can fail. -/
theorem toUncheckedProfile_eq (entry : Entry) :
    entry.toUncheckedProfile = (do
      let base ← entry.base
      let reliability ← overrideWord "reliability" base.reliability entry.reliability
      let durability ← overrideWord "durability" base.durability entry.durability
      let history ← overrideWord "history kind" base.history (entry.history.map (·.kind))
      let deadline ← overrideBound base.deadline entry.deadline
      let lifespan ← overrideBound base.lifespan entry.lifespan
      let liveliness ←
        overrideWord "liveliness kind" base.liveliness (entry.liveliness.map (·.kind))
      let livelinessLease ← overrideLease base.livelinessLease entry.liveliness
      return {
        history, reliability, durability, deadline, lifespan, liveliness, livelinessLease
        depth := (entry.history.bind (·.depth)).getD base.depth
        avoidRosNamespaceConventions :=
          entry.avoidRosNamespaceConventions.getD base.avoidRosNamespaceConventions }) := by
  unfold toUncheckedProfile base
  cases entry.preset <;> cases entry.liveliness <;> rfl

theorem toUncheckedProfile_eq_ok_iff {entry : Entry} {profile : Profile} :
    entry.toUncheckedProfile = .ok profile ↔
      ∃ base, entry.base = .ok base ∧ entry.Overrides base profile := by
  rw [toUncheckedProfile_eq]
  simp only [bind_eq_ok_iff]
  constructor
  · rintro ⟨base, hbase, reliability, hreliability, durability, hdurability, history, hhistory,
      deadline, hdeadline, lifespan, hlifespan, liveliness, hliveliness, lease, hlease, heq⟩
    cases heq
    exact ⟨base, hbase, hreliability, hdurability, hhistory, rfl, hdeadline, hlifespan,
      hliveliness, hlease, rfl⟩
  · rintro ⟨base, hbase, h⟩
    refine ⟨base, hbase, _, h.reliability, _, h.durability, _, h.history, _, h.deadline, _,
      h.lifespan, _, h.liveliness, _, h.livelinessLease, ?_⟩
    rw [h.depth, h.avoidRosNamespaceConventions]
    rfl

/-! ## Spelling out -/

/-- The entry states every policy of the profile: the settings by their names, the bounds in blocks,
and the lease in a block of its own.  It may start from any preset there is. -/
structure SpellsOut (entry : Entry) (profile : Profile) : Prop where
  base : ∃ base, entry.base = .ok base
  reliability : ∃ word, entry.reliability = some word ∧
    Text.Spells word (name profile.reliability)
  durability : ∃ word, entry.durability = some word ∧ Text.Spells word (name profile.durability)
  history : ∃ written, entry.history = some written ∧
    Text.Spells written.kind (name profile.history) ∧ written.depth = some profile.depth
  deadline : ∃ written, entry.deadline = some written ∧ written.SpellsOut profile.deadline
  lifespan : ∃ written, entry.lifespan = some written ∧ written.SpellsOut profile.lifespan
  liveliness : ∃ written, entry.liveliness = some written ∧
    Text.Spells written.kind (name profile.liveliness) ∧
    ∃ lease, written.lease = some lease ∧ lease.SpellsOut profile.livelinessLease
  avoidRosNamespaceConventions :
    entry.avoidRosNamespaceConventions = some profile.avoidRosNamespaceConventions

end Entry

/-- The finite bounds are whole numbers of milliseconds. -/
structure Profile.WholeMillis (profile : Profile) : Prop where
  deadline : profile.deadline.WholeMillis
  lifespan : profile.lifespan.WholeMillis
  livelinessLease : profile.livelinessLease.WholeMillis

theorem overrideWord_of_spells {α : Type} [Named α] (hplain : PlainNames α) {word : String} {a : α}
    (h : Text.Spells word (name a)) (field : String) (former : α) :
    overrideWord field former (some word) = .ok a :=
  readWord_of_spells hplain h field

/-- A preset shows through nowhere. -/
theorem Entry.SpellsOut.overrides {entry : Entry} {profile : Profile} (h : entry.SpellsOut profile)
    (hwhole : profile.WholeMillis) (base : Profile) : entry.Overrides base profile := by
  obtain ⟨word, hreliability, hword⟩ := h.reliability
  obtain ⟨word', hdurability, hword'⟩ := h.durability
  obtain ⟨history, hhistory, hkind, hdepth⟩ := h.history
  obtain ⟨deadline, hdeadline, hwritten⟩ := h.deadline
  obtain ⟨lifespan, hlifespan, hwritten'⟩ := h.lifespan
  obtain ⟨liveliness, hliveliness, hkind', lease, hlease, hwrittenLease⟩ := h.liveliness
  constructor
  · rw [hreliability]
    exact overrideWord_of_spells plainNames_reliability hword ..
  · rw [hdurability]
    exact overrideWord_of_spells plainNames_durability hword' ..
  · rw [hhistory]
    exact overrideWord_of_spells plainNames_history hkind ..
  · rw [hhistory, Option.bind_some, hdepth, Option.getD_some]
  · rw [hdeadline]
    exact BoundEntry.toBound_of_spellsOut hwhole.deadline hwritten
  · rw [hlifespan]
    exact BoundEntry.toBound_of_spellsOut hwhole.lifespan hwritten'
  · rw [hliveliness]
    exact overrideWord_of_spells plainNames_liveliness hkind' ..
  · rw [hliveliness, overrideLease, LivelinessEntry.toLease, hlease]
    exact BoundEntry.toBound_of_spellsOut hwhole.livelinessLease hwrittenLease
  · rw [h.avoidRosNamespaceConventions, Option.getD_some]

/-! ## An entry for every profile -/

/-- The bound by its keyword or in milliseconds. -/
def Bound.toEntry : Bound → BoundEntry
  | .unspecified => ⟨none, none, some "system_default"⟩
  | .infinite => ⟨none, none, some "infinite"⟩
  | .bestAvailable => ⟨none, none, some "best_available"⟩
  | .finite span => ⟨some (span / Span.ofMillis 1), none, none⟩

/-- The entry that states every policy and nothing else. -/
def Profile.toEntry (profile : Profile) : Entry where
  preset := none
  reliability := some (name profile.reliability)
  durability := some (name profile.durability)
  history := some ⟨name profile.history, some profile.depth⟩
  deadline := some profile.deadline.toEntry
  lifespan := some profile.lifespan.toEntry
  liveliness :=
    some ⟨name profile.liveliness, some profile.livelinessLease.toEntry, none, none⟩
  avoidRosNamespaceConventions := some profile.avoidRosNamespaceConventions

theorem Bound.spellsOut_toEntry (bound : Bound) : bound.toEntry.SpellsOut bound := by
  cases bound with
  | unspecified => exact .inl ⟨_, rfl, by decide⟩
  | infinite => exact ⟨_, rfl, by decide⟩
  | bestAvailable => exact ⟨_, rfl, by decide⟩
  | finite span => exact ⟨rfl, rfl⟩

theorem Profile.spellsOut_toEntry (profile : Profile) : profile.toEntry.SpellsOut profile where
  base := ⟨.standard, rfl⟩
  reliability := ⟨_, rfl, (plainNames_reliability _).2⟩
  durability := ⟨_, rfl, (plainNames_durability _).2⟩
  history := ⟨_, rfl, (plainNames_history _).2, rfl⟩
  deadline := ⟨_, rfl, profile.deadline.spellsOut_toEntry⟩
  lifespan := ⟨_, rfl, profile.lifespan.spellsOut_toEntry⟩
  liveliness :=
    ⟨_, rfl, (plainNames_liveliness _).2, _, rfl, profile.livelinessLease.spellsOut_toEntry⟩
  avoidRosNamespaceConventions := rfl

/-! ## What an entry leaves out -/

/-- The policies that the entry does not state are those of the base. -/
structure Entry.Keeps (entry : Entry) (base profile : Profile) : Prop where
  reliability : entry.reliability = none → profile.reliability = base.reliability
  durability : entry.durability = none → profile.durability = base.durability
  history : entry.history = none → profile.history = base.history
  depth : (∀ written, entry.history = some written → written.depth = none) →
    profile.depth = base.depth
  deadline : entry.deadline = none → profile.deadline = base.deadline
  lifespan : entry.lifespan = none → profile.lifespan = base.lifespan
  liveliness : entry.liveliness = none → profile.liveliness = base.liveliness
  livelinessLease :
    (∀ written, entry.liveliness = some written →
      written.lease = none ∧ written.leaseMillis = none ∧ written.leaseSeconds = none) →
    profile.livelinessLease = base.livelinessLease
  avoidRosNamespaceConventions : entry.avoidRosNamespaceConventions = none →
    profile.avoidRosNamespaceConventions = base.avoidRosNamespaceConventions

theorem eq_of_overrideWord_none {α : Type} [Named α] {field : String} {former value : α}
    (h : overrideWord field former none = .ok value) : value = former :=
  (Except.ok.inj h).symm

theorem eq_of_overrideBound_none {former value : Bound}
    (h : overrideBound former none = .ok value) : value = former :=
  (Except.ok.inj h).symm

/-- Without any field for it, a lease is not changed. -/
theorem LivelinessEntry.toLease_of_silent {written : LivelinessEntry}
    (h : written.lease = none ∧ written.leaseMillis = none ∧ written.leaseSeconds = none)
    (former : Bound) : written.toLease former = .ok former := by
  obtain ⟨hblock, hmillis, hseconds⟩ := h
  rw [toLease, hblock, hmillis, hseconds]

theorem Entry.Overrides.keeps {entry : Entry} {base profile : Profile}
    (h : entry.Overrides base profile) : entry.Keeps base profile where
  reliability hnone := eq_of_overrideWord_none (hnone ▸ h.reliability)
  durability hnone := eq_of_overrideWord_none (hnone ▸ h.durability)
  history hnone := eq_of_overrideWord_none (hnone ▸ h.history)
  depth hnone := by
    rw [← h.depth]
    cases hhistory : entry.history with
    | none => rfl
    | some written => simp [hnone written hhistory]
  deadline hnone := eq_of_overrideBound_none (hnone ▸ h.deadline)
  lifespan hnone := eq_of_overrideBound_none (hnone ▸ h.lifespan)
  liveliness hnone := eq_of_overrideWord_none (hnone ▸ h.liveliness)
  livelinessLease hnone := by
    have hlease := h.livelinessLease
    cases hliveliness : entry.liveliness with
    | none =>
      rw [hliveliness] at hlease
      exact (Except.ok.inj hlease).symm
    | some written =>
      have hsilent := written.toLease_of_silent (hnone written hliveliness) base.livelinessLease
      rw [hliveliness, overrideLease, hsilent] at hlease
      exact (Except.ok.inj hlease).symm
  avoidRosNamespaceConventions hnone := by
    rw [← h.avoidRosNamespaceConventions, hnone, Option.getD_none]

/-- Every valid profile with finite bounds in whole milliseconds can be spelled out, and an entry that
spells it out describes exactly this profile.  What any entry describes is a valid profile with the
policies of its preset where the entry is silent. -/
theorem Entry.spelling_inverse :
    (∀ profile : Profile, profile.validate = .ok () → profile.WholeMillis →
      (∃ entry : Entry, entry.SpellsOut profile) ∧
      ∀ entry : Entry, entry.SpellsOut profile → entry.toProfile = .ok profile) ∧
    ∀ (entry : Entry) (profile : Profile), entry.toProfile = .ok profile →
      profile.validate = .ok () ∧
      ∃ base, entry.base = .ok base ∧ entry.Keeps base profile := by
  constructor
  · intro profile hvalid hwhole
    refine ⟨⟨profile.toEntry, profile.spellsOut_toEntry⟩, fun entry h => ?_⟩
    obtain ⟨base, hbase⟩ := h.base
    refine toProfile_eq_ok_iff.2 ⟨?_, hvalid⟩
    exact toUncheckedProfile_eq_ok_iff.2 ⟨base, hbase, h.overrides hwhole base⟩
  · intro entry profile h
    have hunchecked := (toProfile_eq_ok_iff.1 h).1
    obtain ⟨base, hbase, hoverrides⟩ := toUncheckedProfile_eq_ok_iff.1 hunchecked
    exact ⟨validate_of_toProfile h, base, hbase, hoverrides.keeps⟩

/-- Words in mixed case, a preset that disagrees in every policy, and fields that do not count beside
those that do.  The second entry states the reliability alone. -/
theorem Entry.exists_spelling_inverse : ∃ (entry sparse : Entry) (profile : Profile),
    entry.SpellsOut profile ∧ entry.preset = some "System_Default" ∧
    entry.deadline = some ⟨some 250, some 9, none⟩ ∧
    entry.lifespan = some ⟨some 3, none, some "Infinite"⟩ ∧
    entry.toProfile = .ok profile ∧
    sparse.preset = some "SENSOR_DATA" ∧ sparse.history = none ∧
    ∃ other, sparse.toProfile = .ok other ∧ other.validate = .ok () ∧ other.depth = 5 := by
  let profile : Profile :=
    { history := .keepLast, depth := 7, reliability := .exactly .bestEffort
      durability := .exactly .transientLocal, deadline := .finite (Span.ofMillis 250)
      lifespan := .infinite, liveliness := .exactly .manualByTopic
      livelinessLease := .bestAvailable, avoidRosNamespaceConventions := true }
  let entry : Entry :=
    { preset := some "System_Default", reliability := some "BEST_effort"
      durability := some "Transient_Local", history := some ⟨"KEEP_last", some 7⟩
      deadline := some ⟨some 250, some 9, none⟩
      lifespan := some ⟨some 3, none, some "Infinite"⟩
      liveliness := some ⟨"manual_by_TOPIC", some ⟨some 4, none, some "best_AVAILABLE"⟩,
        some 5, some 6⟩
      avoidRosNamespaceConventions := some true }
  let sparse : Entry :=
    { preset := some "SENSOR_DATA", reliability := some "reliable", durability := none
      history := none, deadline := none, lifespan := none, liveliness := none
      avoidRosNamespaceConventions := none }
  have hspells : entry.SpellsOut profile :=
    { base := ⟨.systemDefault, by rfl⟩
      reliability := ⟨_, rfl, by decide⟩
      durability := ⟨_, rfl, by decide⟩
      history := ⟨_, rfl, by decide, rfl⟩
      deadline := ⟨_, rfl, rfl, rfl⟩
      lifespan := ⟨_, rfl, _, rfl, by decide⟩
      liveliness := ⟨_, rfl, by decide, _, rfl, _, rfl, by decide⟩
      avoidRosNamespaceConventions := rfl }
  have hwhole : profile.WholeMillis :=
    { deadline := fun span h => ⟨250, by decide, by decide, (Bound.finite.inj h).symm⟩
      lifespan := fun span h => by cases h
      livelinessLease := fun span h => by cases h }
  have hsparse : sparse.toProfile =
      .ok { Profile.sensorData with reliability := .exactly .reliable } := by rfl
  obtain ⟨hvalid, base, hbase, hkeeps⟩ := spelling_inverse.2 _ _ hsparse
  refine ⟨entry, sparse, profile, hspells, rfl, rfl, rfl,
    (spelling_inverse.1 profile rfl hwhole).2 entry hspells, rfl, rfl, _, hsparse, hvalid, ?_⟩
  cases hbase
  exact hkeeps.depth (by rintro _ ⟨⟩)

end PubSub.Qos
