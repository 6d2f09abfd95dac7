import PubSub.Proofs.Qos.BestAvailable

/-!
# The report of a compatibility check

`Violated` is the rule of each policy: when an offer cannot serve a request on its account.  Five
policies have one (`checkedPolicies`), the others concern each side on its own.  `explain` is what
`check` finds about a policy, and its errors are exactly the violations (`harmless_explain_iff`).  The
report lists what was found (`reasons_perm_findings`), errors first and each part in the order of the
policies; `check_documents` puts together what there is to know about verdict and reasons.
-/

namespace PubSub.Qos

/-! ## The rules -/

/-- A bound is demanded, and the offer has none or a longer one.  A best-available bound on either
side is not held against the other. -/
def Bound.FallsShort (offer request : Bound) : Prop :=
  ∃ requested, request = .finite requested ∧
    (offer = .unspecified ∨ offer = .infinite ∨
      ∃ offered, offer = .finite offered ∧ requested < offered)

/-- The offer cannot serve the request on account of this policy. -/
def Violated (offer request : Profile) : PolicyKind → Prop
  | .reliability =>
    offer.reliability = .exactly .bestEffort ∧ request.reliability = .exactly .reliable
  | .durability =>
    offer.durability = .exactly .volatile ∧ request.durability = .exactly .transientLocal
  | .deadline => offer.deadline.FallsShort request.deadline
  | .liveliness =>
    ∃ offered requested, offer.liveliness = .exactly offered ∧
      request.liveliness = .exactly requested ∧ offered ≠ requested
  | .livelinessLease => offer.livelinessLease.FallsShort request.livelinessLease
  | .history | .depth | .lifespan | .avoidRosNamespaceConventions => False

/-- The policies that have a rule, in the order in which a report names them. -/
def checkedPolicies : List PolicyKind :=
  [.reliability, .durability, .deadline, .liveliness, .livelinessLease]

theorem nodup_checkedPolicies : checkedPolicies.Nodup := by decide

/-! ## What is found about a policy -/

/-- What there is to say about the offered and the requested value of a policy. -/
def explain (offer request : Profile) : PolicyKind → Option Explanation
  | .reliability => explainReliability offer.reliability request.reliability
  | .durability => explainDurability offer.durability request.durability
  | .deadline => explainBound offer.deadline request.deadline
  | .liveliness => explainLiveliness offer.liveliness request.liveliness
  | .livelinessLease => explainBound offer.livelinessLease request.livelinessLease
  | .history | .depth | .lifespan | .avoidRosNamespaceConventions => none

variable {offer request : Profile}

theorem not_harmless_iff {found : Option Explanation} :
    ¬ Harmless found ↔ ∃ explanation, found = some explanation ∧ explanation.severity = .error := by
  constructor
  · exact exists_error_of_not_harmless
  · rintro ⟨explanation, hfound, herror⟩ hharmless
    exact hharmless.not_error hfound herror

theorem harmless_explainBound_iff {offer request : Bound} :
    Harmless (explainBound offer request) ↔ ¬ offer.FallsShort request := by
  cases request with
  | unspecified | infinite | bestAvailable =>
    refine iff_of_true (harmless_explainBound ?_) ?_
    · intro requested hrequest
      cases hrequest
    · rintro ⟨requested, hrequest, -⟩
      cases hrequest
  | finite requested =>
    cases offer with
    | unspecified | infinite =>
      simp [Bound.FallsShort, Harmless, explainBound, Bound.span?, Bound.isBestAvailable,
        Explanation.severity]
    | bestAvailable =>
      simp [Bound.FallsShort, Harmless, explainBound, Bound.isBestAvailable, Explanation.severity]
    | finite offered =>
      by_cases hlt : requested < offered <;>
        simp [Bound.FallsShort, Harmless, explainBound, Bound.span?, Bound.isBestAvailable,
          Explanation.severity, hlt]

/-- The errors are the violations. -/
theorem harmless_explain_iff {policy : PolicyKind} :
    Harmless (explain offer request policy) ↔ ¬ Violated offer request policy := by
  cases policy with
  | reliability => exact harmless_explainReliability
  | durability => exact harmless_explainDurability
  | deadline | livelinessLease => exact harmless_explainBound_iff
  | liveliness =>
    unfold explain Violated
    rw [harmless_explainLiveliness]
    rcases offer.liveliness with _ | _ | _ | (_ | _) <;>
      rcases request.liveliness with _ | _ | _ | (_ | _) <;> simp [Setting.isUndetermined]
  | history | depth | lifespan | avoidRosNamespaceConventions =>
    simp [explain, Violated, Harmless]

theorem exists_error_iff {policy : PolicyKind} :
    (∃ explanation, explain offer request policy = some explanation ∧
      explanation.severity = .error) ↔ Violated offer request policy := by
  rw [← not_harmless_iff, harmless_explain_iff, Classical.not_not]

/-! ## The list of findings -/

theorem findings_eq : findings offer request =
    checkedPolicies.filterMap fun policy => (explain offer request policy).map (Reason.mk policy) :=
  rfl

theorem mem_checkedPolicies_of_explain {policy : PolicyKind} {explanation : Explanation}
    (h : explain offer request policy = some explanation) : policy ∈ checkedPolicies := by
  cases policy with
  | reliability | durability | deadline | liveliness | livelinessLease => simp [checkedPolicies]
  | history | depth | lifespan | avoidRosNamespaceConventions => cases h

theorem mem_findings_iff {reason : Reason} :
    reason ∈ findings offer request ↔
      explain offer request reason.policy = some reason.explanation := by
  rw [findings_eq, List.mem_filterMap]
  constructor
  · rintro ⟨policy, -, hfound⟩
    obtain ⟨explanation, hexplain, rfl⟩ := Option.map_eq_some_iff.1 hfound
    exact hexplain
  · intro hexplain
    refine ⟨reason.policy, mem_checkedPolicies_of_explain hexplain, ?_⟩
    rw [hexplain]
    rfl

/-- The policies of the findings are checked ones, in their order. -/
theorem map_policy_findings :
    ((findings offer request).map (·.policy)).Sublist checkedPolicies := by
  have hmap : ∀ policies : List PolicyKind,
      (policies.filterMap fun policy =>
        (explain offer request policy).map (Reason.mk policy)).map (·.policy) =
      policies.filter fun policy => (explain offer request policy).isSome := by
    intro policies
    induction policies with
    | nil => rfl
    | cons policy policies ih =>
      cases hfound : explain offer request policy <;> simp [hfound, ih]
  rw [findings_eq, hmap]
  exact List.filter_sublist

/-- The report leaves out no finding and adds none. -/
theorem reasons_perm_findings : (check offer request).reasons.Perm (findings offer request) := by
  have hwarnings : (findings offer request).filter (·.severity = .warning) =
      (findings offer request).filter fun reason => !decide (reason.severity = .error) := by
    apply List.filter_congr
    intro reason _
    cases reason.severity <;> rfl
  unfold check
  dsimp only
  rw [hwarnings]
  exact List.filter_append_perm _ _

/-! ## The report -/

/-- The report says about an offer and a request what the rules say. -/
structure Report.Documents (report : Report) (offer request : Profile) : Prop where
  incompatible_iff : report.verdict = .incompatible ↔ ∃ policy, Violated offer request policy
  compatible_iff : report.verdict = .compatible ↔ report.reasons = []
  /-- There is an error about exactly the policies whose rule is violated. -/
  error_iff : ∀ policy, (∃ reason ∈ report.reasons, reason.policy = policy ∧
    reason.severity = .error) ↔ Violated offer request policy
  /-- No policy is named twice. -/
  nodup : (report.reasons.map (·.policy)).Nodup
  /-- Errors come first; among them, and among the warnings, the policies are in their order. -/
  ordered : ∃ errors warnings, report.reasons = errors ++ warnings ∧
    (∀ reason ∈ errors, reason.severity = .error) ∧
    (∀ reason ∈ warnings, reason.severity = .warning) ∧
    (errors.map (·.policy)).Sublist checkedPolicies ∧
    (warnings.map (·.policy)).Sublist checkedPolicies

theorem exists_error_reason_iff (policy : PolicyKind) :
    (∃ reason ∈ (check offer request).reasons, reason.policy = policy ∧
      reason.severity = .error) ↔ Violated offer request policy := by
  rw [← exists_error_iff]
  simp only [reasons_perm_findings.mem_iff, mem_findings_iff]
  constructor
  · rintro ⟨reason, hfound, rfl, herror⟩
    exact ⟨reason.explanation, hfound, herror⟩
  · rintro ⟨explanation, hfound, herror⟩
    exact ⟨⟨policy, explanation⟩, hfound, rfl, herror⟩

theorem clashes_iff_violated : Clashes offer request ↔ ∃ policy, Violated offer request policy := by
  rw [clashes_iff]
  simp only [← exists_error_reason_iff, reasons_perm_findings.mem_iff]
  constructor
  · rintro ⟨reason, hmem, herror⟩
    exact ⟨reason.policy, reason, hmem, rfl, herror⟩
  · rintro ⟨policy, reason, hmem, -, herror⟩
    exact ⟨reason, hmem, herror⟩

theorem verdict_eq_compatible_iff :
    (check offer request).verdict = .compatible ↔ (check offer request).reasons = [] := by
  unfold check
  dsimp only
  cases (findings offer request).filter (·.severity = .error) <;>
    cases (findings offer request).filter (·.severity = .warning) <;> simp

/-- The findings of one severity keep the order of the policies. -/
theorem map_policy_filter_findings (severity : Severity) :
    (((findings offer request).filter (·.severity = severity)).map (·.policy)).Sublist
      checkedPolicies :=
  (List.filter_sublist.map _).trans map_policy_findings

/-- The profile with other values for the policies that concern one side alone. -/
def Profile.withLocalPolicies (profile : Profile) (history : History) (depth : Nat)
    (lifespan : Bound) (avoidRosNamespaceConventions : Bool) : Profile :=
  { profile with history, depth, lifespan, avoidRosNamespaceConventions }

/-- The report documents what the rules say of offer and request, and history, depth, lifespan and
naming conventions of either side have no influence on it. -/
theorem check_documents (offer request : Profile) :
    (check offer request).Documents offer request ∧
      ∀ history depth lifespan conventions history' depth' lifespan' conventions',
        check (offer.withLocalPolicies history depth lifespan conventions)
            (request.withLocalPolicies history' depth' lifespan' conventions') =
          check offer request := by
  refine ⟨?_, fun _ _ _ _ _ _ _ _ => rfl⟩
  constructor
  case incompatible_iff => exact clashes_iff_violated
  case compatible_iff => exact verdict_eq_compatible_iff
  case error_iff => exact exists_error_reason_iff
  case nodup =>
    have hnodup : ((findings offer request).map (·.policy)).Nodup :=
      map_policy_findings.nodup nodup_checkedPolicies
    exact (reasons_perm_findings.map _).nodup_iff.2 hnodup
  case ordered =>
    refine ⟨_, _, rfl, ?_, ?_, map_policy_filter_findings _, map_policy_filter_findings _⟩
    · intro reason hmem
      exact of_decide_eq_true (List.mem_filter.1 hmem).2
    · intro reason hmem
      exact of_decide_eq_true (List.mem_filter.1 hmem).2

/-- The durability is checked before the liveliness, but only casts doubt on the match. -/
example :
    let offer := { Profile.standard with
      durability := .unknown, liveliness := .exactly .automatic }
    let request := { Profile.standard with
      durability := .exactly .transientLocal, liveliness := .exactly .manualByTopic }
    (check offer request).reasons.map (·.policy) = [.liveliness, .durability] := by decide

end PubSub.Qos
