import PubSub.Qos.Resolution

/-!
# The order of the peers does not matter

`resolve` reads a list of peers, which come in whatever order the graph keeps them.  Each choice is
made from what all peers have in common, from numbers of peers, or from the least or the greatest of
their bounds, so that any other order leads to the same profile (`resolve_perm`).
-/

namespace PubSub.Qos

variable {peers peers' : List Profile}

theorem bestReliability_perm (h : peers.Perm peers') (role : Role) :
    bestReliability role peers = bestReliability role peers' := by
  cases role with
  | publisher => rfl
  | subscription => rw [bestReliability, bestReliability, h.all_eq]

theorem bestDurability_perm (h : peers.Perm peers') (role : Role) :
    bestDurability role peers = bestDurability role peers' := by
  cases role with
  | publisher => rfl
  | subscription => rw [bestDurability, bestDurability, h.all_eq]

theorem bestLiveliness_perm (h : peers.Perm peers') (role : Role) :
    bestLiveliness role peers = bestLiveliness role peers' := by
  have hcount (kind : Liveliness) : countLiveliness kind peers = countLiveliness kind peers' :=
    h.countP_eq _
  unfold bestLiveliness
  rw [hcount, hcount, h.length_eq]

/-- The least of some spans is the same in any order. -/
theorem min?_perm {spans spans' : List Span} (h : spans.Perm spans') : spans.min? = spans'.min? := by
  apply Option.ext
  intro span
  rw [List.min?_eq_some_iff, List.min?_eq_some_iff, h.mem_iff]
  simp only [h.mem_iff]

theorem max?_perm {spans spans' : List Span} (h : spans.Perm spans') : spans.max? = spans'.max? := by
  apply Option.ext
  intro span
  rw [List.max?_eq_some_iff, List.max?_eq_some_iff, h.mem_iff]
  simp only [h.mem_iff]

theorem bestBound_perm {bounds bounds' : List Bound} (h : bounds.Perm bounds') (role : Role) :
    bestBound role bounds = bestBound role bounds' := by
  have hspans := h.filterMap Bound.span?
  unfold bestBound
  dsimp only
  rw [min?_perm hspans, max?_perm hspans, h.all_eq]

theorem resolveBound_perm {bounds bounds' : List Bound} (h : bounds.Perm bounds') (role : Role)
    (fallback : Bound) : resolveBound role bounds fallback = resolveBound role bounds' fallback := by
  rw [resolveBound, resolveBound, h.isEmpty_eq, bestBound_perm h]

theorem resolveSetting_perm {α : Type} {best : List Profile → α} (h : peers.Perm peers')
    (hbest : best peers = best peers') (fallback setting : Setting α) :
    resolveSetting best peers fallback setting = resolveSetting best peers' fallback setting := by
  cases setting with
  | bestAvailable => rw [resolveSetting, resolveSetting, h.isEmpty_eq, hbest]
  | systemDefault | unknown | exactly => rfl

/-- What is resolved depends on which peers there are, and how many of each, but not on their order. -/
theorem resolve_perm (h : peers.Perm peers') (profile : Profile) (role : Role) (fallback : Profile) :
    resolve profile role peers fallback = resolve profile role peers' fallback := by
  unfold resolve
  rw [resolveSetting_perm h (bestReliability_perm h role),
    resolveSetting_perm h (bestDurability_perm h role),
    resolveSetting_perm h (bestLiveliness_perm h role), resolveBound_perm (h.map _),
    resolveBound_perm (h.map _)]

end PubSub.Qos
