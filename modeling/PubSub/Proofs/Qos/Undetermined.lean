import PubSub.Proofs.Qos.Liveliness

/-!
# What a compatible verdict says about values that are not known yet

A system default, an unknown or a best-available value stands for some concrete one.
`Profile.DecidedAs` says which: any reliability and durability; for the liveliness either kind,
except that the default is automatic; any bound in place of a best-available one.  A verdict of
compatible holds for all of them as far as reliability, durability, deadline and lease go: their
checks raise a doubt wherever an error could still come up (`SuitsButLiveliness.of_decidedAs`).  The
check of the liveliness doubts only what meets manual-by-topic, so that two profiles, one of which is
unknown or best-available in its liveliness, are found compatible and may clash after all
(`decided_of_compatible`).
-/

namespace PubSub.Qos

/-! ## Putting concrete values in place -/

/-- An undetermined setting may have become any exact one; nothing else has changed. -/
def Setting.DecidedAs {α : Type} (setting decided : Setting α) : Prop :=
  decided = setting ∨ setting.isUndetermined = true ∧ ∃ value, decided = .exactly value

/-- The kind of liveliness is not known, and need not be the default. -/
def Setting.HidesKind (setting : Setting Liveliness) : Prop :=
  setting = .unknown ∨ setting = .bestAvailable

/-- A default liveliness is automatic; one whose kind is hidden may have become either. -/
def Setting.KindDecidedAs (setting decided : Setting Liveliness) : Prop :=
  decided = setting ∨ setting = .systemDefault ∧ decided = .exactly .automatic ∨
    setting.HidesKind ∧ ∃ kind, decided = .exactly kind

/-- A best-available bound may have become any other. -/
def Bound.DecidedAs (bound decided : Bound) : Prop :=
  decided = bound ∨ bound = .bestAvailable ∧ decided ≠ .bestAvailable

/-- The same profile with concrete values in place of undetermined ones. -/
structure Profile.DecidedAs (profile decided : Profile) : Prop where
  history : decided.history = profile.history
  depth : decided.depth = profile.depth
  reliability : profile.reliability.DecidedAs decided.reliability
  durability : profile.durability.DecidedAs decided.durability
  deadline : profile.deadline.DecidedAs decided.deadline
  lifespan : profile.lifespan.DecidedAs decided.lifespan
  liveliness : profile.liveliness.KindDecidedAs decided.liveliness
  livelinessLease : profile.livelinessLease.DecidedAs decided.livelinessLease
  avoidRosNamespaceConventions :
    decided.avoidRosNamespaceConventions = profile.avoidRosNamespaceConventions

theorem Setting.DecidedAs.eq_exactly {α : Type} {value : α} {decided : Setting α}
    (h : (Setting.exactly value).DecidedAs decided) : decided = .exactly value := by
  rcases h with heq | ⟨hopen, -⟩
  · exact heq
  · cases hopen

theorem Bound.DecidedAs.eq_self {bound decided : Bound} (h : bound.DecidedAs decided)
    (hne : bound ≠ .bestAvailable) : decided = bound := by
  rcases h with heq | ⟨hopen, -⟩
  · exact heq
  · exact absurd hopen hne

/-- Only the liveliness of a profile has been decided. -/
theorem Profile.decidedAs_liveliness {profile : Profile} {decided : Setting Liveliness}
    (h : profile.liveliness.KindDecidedAs decided) :
    profile.DecidedAs { profile with liveliness := decided } :=
  ⟨rfl, rfl, .inl rfl, .inl rfl, .inl rfl, .inl rfl, h, .inl rfl, rfl⟩

/-! ## Policies about which nothing is said -/

variable {offer request : Profile}

/-- A verdict of compatible leaves nothing to say. -/
theorem findings_of_compatible (h : (check offer request).verdict = .compatible) :
    findings offer request = [] := by
  rw [List.eq_nil_iff_forall_not_mem]
  intro reason hmem
  unfold check at h
  dsimp only at h
  split at h
  · cases h
  · next herrors =>
    split at h
    · cases h
    · next hwarnings =>
      simp only [Bool.not_eq_true, Bool.not_eq_false', List.isEmpty_iff,
        List.filter_eq_nil_iff, decide_eq_true_iff] at herrors hwarnings
      cases hseverity : reason.severity with
      | error => exact herrors reason hmem hseverity
      | warning => exact hwarnings reason hmem hseverity

/-- So nothing is said about any of the five policies. -/
structure Unobjected (offer request : Profile) : Prop where
  reliability : explainReliability offer.reliability request.reliability = none
  durability : explainDurability offer.durability request.durability = none
  deadline : explainBound offer.deadline request.deadline = none
  liveliness : explainLiveliness offer.liveliness request.liveliness = none
  livelinessLease : explainBound offer.livelinessLease request.livelinessLease = none

theorem Unobjected.of_compatible (h : (check offer request).verdict = .compatible) :
    Unobjected offer request := by
  have hnone := findings_of_compatible h
  simp only [findings, List.filterMap_eq_nil_iff, List.mem_cons, List.not_mem_nil, or_false, id,
    forall_eq_or_imp, forall_eq, Option.map_eq_none_iff] at hnone
  obtain ⟨hreliability, hdurability, hdeadline, hliveliness, hlease⟩ := hnone
  exact ⟨hreliability, hdurability, hdeadline, hliveliness, hlease⟩

theorem explainReliability_eq_none_iff {offer request : Setting Reliability} :
    explainReliability offer request = none ↔ request = .exactly .bestEffort ∨
      offer = .exactly .reliable ∧ request = .exactly .reliable := by
  rcases offer with _ | _ | _ | (_ | _) <;> rcases request with _ | _ | _ | (_ | _) <;>
    simp [explainReliability]

theorem explainDurability_eq_none_iff {offer request : Setting Durability} :
    explainDurability offer request = none ↔ request = .exactly .volatile ∨
      offer = .exactly .transientLocal ∧ request = .exactly .transientLocal := by
  rcases offer with _ | _ | _ | (_ | _) <;> rcases request with _ | _ | _ | (_ | _) <;>
    simp [explainDurability]

/-- Liveliness passes in silence if the kinds agree or if one is left open and the other is not
manual-by-topic. -/
theorem explainLiveliness_eq_none_iff {offer request : Setting Liveliness} :
    explainLiveliness offer request = none ↔ offer = request ∨
      (offer.isUndetermined = true ∨ request.isUndetermined = true) ∧
        offer ≠ .exactly .manualByTopic ∧ request ≠ .exactly .manualByTopic := by
  rcases offer with _ | _ | _ | (_ | _) <;> rcases request with _ | _ | _ | (_ | _) <;>
    simp [explainLiveliness, Setting.isUndetermined]

/-- A best-available bound never passes in silence, so that there is nothing to decide. -/
theorem explainBound_decided {offer request offer' request' : Bound}
    (h : explainBound offer request = none) (hoffer : offer.DecidedAs offer')
    (hrequest : request.DecidedAs request') : explainBound offer' request' = none := by
  have hset : ¬ (offer = .bestAvailable ∨ request = .bestAvailable) := by
    intro hopen
    unfold explainBound at h
    rw [if_pos (by simpa using hopen)] at h
    cases h
  obtain ⟨hoffered, hrequested⟩ := not_or.1 hset
  rw [hoffer.eq_self hoffered, hrequest.eq_self hrequested]
  exact h

theorem harmless_none : Harmless none := nofun

/-- Where nothing is said, every policy but the liveliness stays harmless whatever is decided. -/
theorem SuitsButLiveliness.of_decidedAs {offer' request' : Profile}
    (h : Unobjected offer request) (hoffer : offer.DecidedAs offer')
    (hrequest : request.DecidedAs request') : SuitsButLiveliness offer' request' where
  reliability := by
    rw [harmless_explainReliability]
    rintro ⟨hoffered, hrequested⟩
    have hoffer := hoffer.reliability
    have hrequest := hrequest.reliability
    rcases explainReliability_eq_none_iff.1 h.reliability with heq | ⟨heq, -⟩
    · rw [heq] at hrequest
      cases hrequested.symm.trans hrequest.eq_exactly
    · rw [heq] at hoffer
      cases hoffered.symm.trans hoffer.eq_exactly
  durability := by
    rw [harmless_explainDurability]
    rintro ⟨hoffered, hrequested⟩
    have hoffer := hoffer.durability
    have hrequest := hrequest.durability
    rcases explainDurability_eq_none_iff.1 h.durability with heq | ⟨heq, -⟩
    · rw [heq] at hrequest
      cases hrequested.symm.trans hrequest.eq_exactly
    · rw [heq] at hoffer
      cases hoffered.symm.trans hoffer.eq_exactly
  deadline := by
    rw [explainBound_decided h.deadline hoffer.deadline hrequest.deadline]
    exact harmless_none
  livelinessLease := by
    rw [explainBound_decided h.livelinessLease hoffer.livelinessLease hrequest.livelinessLease]
    exact harmless_none

/-! ## The liveliness -/

/-- With neither kind hidden, what passes in silence cannot be decided into a clash. -/
theorem kind_eq_of_not_hidden {offer request : Setting Liveliness} {a b : Liveliness}
    (h : explainLiveliness offer request = none) (hoffer : offer.KindDecidedAs (.exactly a))
    (hrequest : request.KindDecidedAs (.exactly b))
    (hset : ¬ (offer.HidesKind ∨ request.HidesKind)) : a = b := by
  obtain ⟨hoffered, hrequested⟩ := not_or.1 hset
  rcases hoffer with rfl | ⟨rfl, hoffer⟩ | ⟨hhidden, -⟩
  · rcases hrequest with rfl | ⟨rfl, hrequest⟩ | ⟨hhidden, -⟩
    · rcases explainLiveliness_eq_none_iff.1 h with heq | ⟨hopen | hopen, -⟩
      · exact Setting.exactly.inj heq
      · cases hopen
      · cases hopen
    · cases hrequest
      cases a with
      | automatic => rfl
      | manualByTopic => cases h
    · exact absurd hhidden hrequested
  · cases hoffer
    rcases hrequest with rfl | ⟨rfl, hrequest⟩ | ⟨hhidden, -⟩
    · cases b with
      | automatic => rfl
      | manualByTopic => cases h
    · exact (Setting.exactly.inj hrequest).symm
    · exact absurd hhidden hrequested
  · exact absurd hhidden hoffered

/-- Every setting can be decided as some kind. -/
theorem Setting.exists_kindDecidedAs (setting : Setting Liveliness) :
    ∃ kind, setting.KindDecidedAs (.exactly kind) := by
  cases setting with
  | systemDefault => exact ⟨.automatic, .inr (.inl ⟨rfl, rfl⟩)⟩
  | unknown => exact ⟨.automatic, .inr (.inr ⟨.inl rfl, _, rfl⟩)⟩
  | bestAvailable => exact ⟨.automatic, .inr (.inr ⟨.inr rfl, _, rfl⟩)⟩
  | exactly kind => exact ⟨kind, .inl rfl⟩

/-- A hidden kind can be decided against whatever it meets. -/
theorem exists_kinds_of_hidden {offer request : Setting Liveliness}
    (h : offer.HidesKind ∨ request.HidesKind) :
    ∃ a b, offer.KindDecidedAs (.exactly a) ∧ request.KindDecidedAs (.exactly b) ∧ a ≠ b := by
  rcases h with hhidden | hhidden
  · obtain ⟨b, hrequest⟩ := request.exists_kindDecidedAs
    exact ⟨b.other, b, .inr (.inr ⟨hhidden, _, rfl⟩), hrequest, b.other_ne⟩
  · obtain ⟨a, hoffer⟩ := offer.exists_kindDecidedAs
    exact ⟨a, a.other, hoffer, .inr (.inr ⟨hhidden, _, rfl⟩), a.other_ne.symm⟩

theorem SuitsButLiveliness.clashes_iff_kinds (h : SuitsButLiveliness offer request) :
    Clashes offer request ↔
      ∃ a b, offer.liveliness = .exactly a ∧ request.liveliness = .exactly b ∧ a ≠ b := by
  rw [h.clashes_iff]
  constructor
  · intro hclash
    obtain ⟨hoffer, hclash⟩ := not_or.1 hclash
    obtain ⟨hrequest, hne⟩ := not_or.1 hclash
    obtain ⟨a, ha⟩ := Setting.isUndetermined_eq_false_iff.1 (Bool.eq_false_iff.2 hoffer)
    obtain ⟨b, hb⟩ := Setting.isUndetermined_eq_false_iff.1 (Bool.eq_false_iff.2 hrequest)
    refine ⟨a, b, ha, hb, fun heq => hne ?_⟩
    rw [ha, hb, heq]
  · rintro ⟨a, b, ha, hb, hne⟩ hagree
    rw [ha, hb] at hagree
    rcases hagree with hopen | hopen | heq
    · cases hopen
    · cases hopen
    · exact hne (Setting.exactly.inj heq)

/-- After a verdict of compatible, profiles with concrete values in place can clash only by being set
to different kinds of liveliness; and they can come to that exactly if one of the two had hidden its
kind, by being unknown or best-available in it. -/
theorem decided_of_compatible (h : (check offer request).verdict = .compatible) :
    (∀ offer' request', offer.DecidedAs offer' → request.DecidedAs request' →
      (Clashes offer' request' ↔
        ∃ a b, offer'.liveliness = .exactly a ∧ request'.liveliness = .exactly b ∧ a ≠ b)) ∧
    ((∃ offer' request', offer.DecidedAs offer' ∧ request.DecidedAs request' ∧
        Clashes offer' request') ↔
      offer.liveliness.HidesKind ∨ request.liveliness.HidesKind) := by
  have hnone := Unobjected.of_compatible h
  have hclashes : ∀ offer' request', offer.DecidedAs offer' → request.DecidedAs request' →
      (Clashes offer' request' ↔
        ∃ a b, offer'.liveliness = .exactly a ∧ request'.liveliness = .exactly b ∧ a ≠ b) :=
    fun offer' request' hoffer hrequest =>
      (SuitsButLiveliness.of_decidedAs hnone hoffer hrequest).clashes_iff_kinds
  refine ⟨hclashes, ?_, ?_⟩
  · rintro ⟨offer', request', hoffer, hrequest, hclash⟩
    obtain ⟨a, b, ha, hb, hne⟩ := (hclashes offer' request' hoffer hrequest).1 hclash
    have hoffer := hoffer.liveliness
    have hrequest := hrequest.liveliness
    rw [ha] at hoffer
    rw [hb] at hrequest
    exact Classical.byContradiction fun hset =>
      hne (kind_eq_of_not_hidden hnone.liveliness hoffer hrequest hset)
  · intro hhidden
    obtain ⟨a, b, hoffer, hrequest, hne⟩ := exists_kinds_of_hidden hhidden
    have hoffer := Profile.decidedAs_liveliness hoffer
    have hrequest := Profile.decidedAs_liveliness hrequest
    exact ⟨_, _, hoffer, hrequest, (hclashes _ _ hoffer hrequest).2 ⟨a, b, rfl, rfl, hne⟩⟩

/-- Whatever the defaults of a publisher are, sensor streams take what it sends. -/
theorem exists_decided_of_compatible :
    (check .systemDefault .sensorData).verdict = .compatible ∧
      ¬ ∃ offer' request', Profile.systemDefault.DecidedAs offer' ∧
        Profile.sensorData.DecidedAs request' ∧ Clashes offer' request' := by
  have hcompatible : (check .systemDefault .sensorData).verdict = .compatible := by decide
  refine ⟨hcompatible, ?_⟩
  rw [(decided_of_compatible hcompatible).2]
  rintro ((h | h) | (h | h)) <;> cases h

/-- A publisher of unknown liveliness is found compatible with an automatic subscription, and clashes
with it if it turns out to be manual-by-topic. -/
theorem exists_clash_after_compatible :
    let offer := { Profile.standard with liveliness := .unknown }
    let offer' := { Profile.standard with liveliness := .exactly .manualByTopic }
    let request := { Profile.standard with liveliness := .exactly .automatic }
    (check offer request).verdict = .compatible ∧ offer.DecidedAs offer' ∧
      request.DecidedAs request ∧ Clashes offer' request := by
  intro offer offer' request
  refine ⟨by decide, ?_, ?_, by decide⟩
  · exact @Profile.decidedAs_liveliness offer _ (.inr (.inr ⟨.inl rfl, _, rfl⟩))
  · exact @Profile.decidedAs_liveliness request _ (.inl rfl)

end PubSub.Qos
