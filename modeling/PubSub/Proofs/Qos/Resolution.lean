import PubSub.Qos.Resolution

/-!
# Resolution leaves nothing open

Each policy is resolved by a rule of its own: settings and bounds from the peers, lifespan from the
fallback alone.  What the rules have in common is stated here.  The outcome is concrete if the
fallback is (`hasBestAvailable_resolve`), it differs from the profile only where that was open
(`settles_resolve`), and nothing is left of it that could be resolved once more
(`resolve_of_concrete`).
-/

namespace PubSub.Qos

/-! ## Single policies -/

/-- A bound that is open gives way to a concrete one. -/
theorem ite_isBestAvailable_ne {bound chosen : Bound} (h : chosen ≠ .bestAvailable) :
    (if bound.isBestAvailable then chosen else bound) ≠ .bestAvailable := by
  split
  · exact h
  · next hclosed => exact fun hopen => hclosed (Bound.isBestAvailable_eq_true.2 hopen)

/-- A bound that is chosen for peers is a length of time, or there is none. -/
theorem bestBound_ne_bestAvailable (role : Role) (peers : List Bound) :
    bestBound role peers ≠ .bestAvailable := by
  unfold bestBound
  dsimp only
  split <;> nofun

/-- The bound is concrete whatever the fallback is. -/
theorem resolveBound_ne_bestAvailable (role : Role) (peers : List Bound) (fallback : Bound) :
    resolveBound role peers fallback ≠ .bestAvailable := by
  unfold resolveBound
  split
  · exact ite_isBestAvailable_ne nofun
  · exact bestBound_ne_bestAvailable role peers

section

variable {α : Type} {best : List Profile → α} {peers : List Profile} {fallback setting : Setting α}

theorem resolveSetting_of_ne (h : setting ≠ .bestAvailable) :
    resolveSetting best peers fallback setting = setting := by
  cases setting <;> first | rfl | exact absurd rfl h

theorem resolveSetting_ne_bestAvailable (hfallback : fallback ≠ .bestAvailable) :
    resolveSetting best peers fallback setting ≠ .bestAvailable := by
  by_cases hopen : setting = .bestAvailable
  · subst hopen
    show (if _ then _ else _) ≠ _
    split
    · exact hfallback
    · nofun
  · rw [resolveSetting_of_ne hopen]
    exact hopen

end

/-! ## Whole profiles -/

theorem Profile.hasBestAvailable_eq_false_iff {profile : Profile} :
    profile.hasBestAvailable = false ↔
      profile.reliability ≠ .bestAvailable ∧ profile.durability ≠ .bestAvailable ∧
        profile.liveliness ≠ .bestAvailable ∧ profile.deadline ≠ .bestAvailable ∧
        profile.livelinessLease ≠ .bestAvailable ∧ profile.lifespan ≠ .bestAvailable := by
  have hbound (bound : Bound) : bound.isBestAvailable = false ↔ bound ≠ .bestAvailable :=
    Bool.eq_false_iff.trans (not_congr Bound.isBestAvailable_eq_true)
  simp only [hasBestAvailable, Bool.or_eq_false_iff, decide_eq_false_iff_not, hbound, and_assoc]

/-- The second profile differs from the first only in policies that the first leaves open. -/
structure Profile.Settles (profile settled : Profile) : Prop where
  history : settled.history = profile.history
  depth : settled.depth = profile.depth
  reliability : profile.reliability ≠ .bestAvailable → settled.reliability = profile.reliability
  durability : profile.durability ≠ .bestAvailable → settled.durability = profile.durability
  deadline : profile.deadline ≠ .bestAvailable → settled.deadline = profile.deadline
  lifespan : profile.lifespan ≠ .bestAvailable → settled.lifespan = profile.lifespan
  liveliness : profile.liveliness ≠ .bestAvailable → settled.liveliness = profile.liveliness
  livelinessLease : profile.livelinessLease ≠ .bestAvailable →
    settled.livelinessLease = profile.livelinessLease
  avoidRosNamespaceConventions :
    settled.avoidRosNamespaceConventions = profile.avoidRosNamespaceConventions

/-- There is nothing to settle about a concrete profile. -/
theorem Profile.Settles.eq_of_concrete {profile settled : Profile} (h : profile.Settles settled)
    (hconcrete : profile.hasBestAvailable = false) : settled = profile := by
  obtain ⟨hreliability, hdurability, hliveliness, hdeadline, hlease, hlifespan⟩ :=
    hasBestAvailable_eq_false_iff.1 hconcrete
  cases settled
  cases profile
  obtain ⟨rfl, rfl, hr, hd, hdl, hls, hl, hll, rfl⟩ := h
  obtain rfl := hr hreliability
  obtain rfl := hd hdurability
  obtain rfl := hdl hdeadline
  obtain rfl := hls hlifespan
  obtain rfl := hl hliveliness
  obtain rfl := hll hlease
  rfl

section

variable (profile : Profile) (role : Role) (peers : List Profile) (fallback : Profile)

/-- Resolution touches what is open and nothing else. -/
theorem settles_resolve : profile.Settles (resolve profile role peers fallback) where
  history := rfl
  depth := rfl
  reliability := resolveSetting_of_ne
  durability := resolveSetting_of_ne
  deadline h := if_neg fun hopen => h (Bound.isBestAvailable_eq_true.1 hopen)
  lifespan h := if_neg fun hopen => h (Bound.isBestAvailable_eq_true.1 hopen)
  liveliness := resolveSetting_of_ne
  livelinessLease h := if_neg fun hopen => h (Bound.isBestAvailable_eq_true.1 hopen)
  avoidRosNamespaceConventions := rfl

theorem resolve_of_concrete (h : profile.hasBestAvailable = false) :
    resolve profile role peers fallback = profile :=
  (settles_resolve profile role peers fallback).eq_of_concrete h

/-- A concrete fallback leaves nothing open. -/
theorem hasBestAvailable_resolve (h : fallback.hasBestAvailable = false) :
    (resolve profile role peers fallback).hasBestAvailable = false := by
  obtain ⟨hreliability, hdurability, hliveliness, -, -, hlifespan⟩ :=
    Profile.hasBestAvailable_eq_false_iff.1 h
  refine Profile.hasBestAvailable_eq_false_iff.2 ⟨?_, ?_, ?_, ?_, ?_, ?_⟩
  · exact resolveSetting_ne_bestAvailable hreliability
  · exact resolveSetting_ne_bestAvailable hdurability
  · exact resolveSetting_ne_bestAvailable hliveliness
  · exact ite_isBestAvailable_ne (resolveBound_ne_bestAvailable _ _ _)
  · exact ite_isBestAvailable_ne (resolveBound_ne_bestAvailable _ _ _)
  · exact ite_isBestAvailable_ne hlifespan

end

end PubSub.Qos
