import PubSub.Context.Basic
import PubSub.Proofs.Text.LowerCase
import PubSub.Proofs.Text.Numeral

/-!
# Which environments can be read

A variable gives a text if it is set to one that is not blank, and the text in force of a variable
with a fallback is its own or else that of the fallback.  Reading settings succeeds exactly on the
environments in which the texts in force are well-formed (`Environment.WellFormed`), and the settings
read are fit for a context except that the enclave may be relative.  A fallback that is shadowed by
its primary variable is not looked at: environments that differ only there are read alike, down to
the error (`Environment.AgreeUnshadowed.read_eq`).  `Environment.reading_contract` puts this together.
-/

namespace PubSub

namespace Environment

variable {env env' : Environment} {key fallback text : String}

/-! ## Texts in force -/

/-- The variable is set to a text that is not blank. -/
def Gives (env : Environment) (key text : String) : Prop :=
  env key = some text ∧ ∃ c ∈ text.toList, Text.isBlank c = false

/-- The text is that of the variable or, if the variable gives none, that of its fallback. -/
def InForce (env : Environment) (key fallback text : String) : Prop :=
  env.Gives key text ∨ (∀ other, ¬ env.Gives key other) ∧ env.Gives fallback text

theorem get_eq_some_iff : env.get key = some text ↔ env.Gives key text := by
  rw [get, Option.filter_eq_some_iff]
  simp [Gives, Text.isBlankText]

theorem get_eq_none_iff : env.get key = none ↔ ∀ text, ¬ env.Gives key text := by
  simp only [Option.eq_none_iff_forall_ne_some, ne_eq, get_eq_some_iff]

theorem exists_getEither_iff :
    (∃ named, env.getEither key fallback = some (named, text)) ↔ env.InForce key fallback text := by
  unfold getEither InForce
  rw [← get_eq_none_iff, ← get_eq_some_iff, ← get_eq_some_iff]
  cases env.get key <;> cases env.get fallback <;> simp

theorem getEither_eq_none_iff :
    env.getEither key fallback = none ↔ ∀ text, ¬ env.InForce key fallback text := by
  constructor
  · intro h text hforce
    obtain ⟨named, hsome⟩ := exists_getEither_iff.2 hforce
    rw [h] at hsome
    cases hsome
  · intro h
    cases hget : env.getEither key fallback with
    | none => rfl
    | some given => exact absurd (exists_getEither_iff.1 ⟨given.1, hget⟩) (h given.2)

/-! ## Single settings -/

/-- The names of the discovery ranges. -/
def rangeNames : List String := ["system_default", "off", "localhost", "subnet"]

/-- Every text in force that is read as a number or a name is one, blanks around it aside. -/
structure WellFormed (env : Environment) : Prop where
  domain : ∀ text, env.InForce "HDDS_DOMAIN_ID" "ROS_DOMAIN_ID" text →
    ∃ id, Text.Denotes (Text.trim text.toList) id ∧ id ≤ 232
  range : ∀ text, env.Gives "HDDS_DISCOVERY_RANGE" text →
    ∃ name ∈ rangeNames, Text.Spells (Text.trimmed text) name
  capacity : ∀ text, env.Gives "HDDS_WAITSET_CAPACITY" text →
    ∃ n, Text.Denotes (Text.trim text.toList) n ∧ 0 < n ∧ n < UInt64.size

theorem domainId_of_none (h : ∀ text, ¬ env.InForce "HDDS_DOMAIN_ID" "ROS_DOMAIN_ID" text) :
    env.domainId = .ok 0 := by
  rw [domainId, getEither_eq_none_iff.2 h]
  rfl

theorem domainId_eq_ok_iff {id : Nat} (h : env.InForce "HDDS_DOMAIN_ID" "ROS_DOMAIN_ID" text) :
    env.domainId = .ok id ↔ Text.Denotes (Text.trim text.toList) id ∧ id ≤ 232 := by
  obtain ⟨named, hget⟩ := exists_getEither_iff.2 h
  rw [domainId, hget]
  dsimp only
  constructor
  · intro hok
    split at hok
    · cases hok
    · next n hnumber =>
      split at hok
      · cases hok
      · next hle =>
        cases hok
        exact ⟨(Text.unsigned?_eq_some_iff.1 hnumber).1, Nat.not_lt.1 hle⟩
  · rintro ⟨hdenotes, hle⟩
    have hnumber : Text.unsigned? (UInt32.size - 1) (Text.trim text.toList) = some id :=
      Text.unsigned?_eq_some_iff.2 ⟨hdenotes, Nat.le_trans hle (by decide)⟩
    rw [hnumber]
    exact if_neg (Nat.not_lt.2 hle)

theorem exists_domainId_iff : (∃ id, env.domainId = .ok id) ↔
    ∀ text, env.InForce "HDDS_DOMAIN_ID" "ROS_DOMAIN_ID" text →
      ∃ id, Text.Denotes (Text.trim text.toList) id ∧ id ≤ 232 := by
  constructor
  · rintro ⟨id, hok⟩ text hforce
    exact ⟨id, (domainId_eq_ok_iff hforce).1 hok⟩
  · intro h
    by_cases hforce : ∃ text, env.InForce "HDDS_DOMAIN_ID" "ROS_DOMAIN_ID" text
    · obtain ⟨text, hforce⟩ := hforce
      obtain ⟨id, hid⟩ := h text hforce
      exact ⟨id, (domainId_eq_ok_iff hforce).2 hid⟩
    · exact ⟨0, domainId_of_none (not_exists.1 hforce)⟩

/-- An id that was read is in range. -/
theorem domainId_le {id : Nat} (h : env.domainId = .ok id) : id ≤ maxDomainId := by
  by_cases hforce : ∃ text, env.InForce "HDDS_DOMAIN_ID" "ROS_DOMAIN_ID" text
  · obtain ⟨text, hforce⟩ := hforce
    exact ((domainId_eq_ok_iff hforce).1 h).2
  · rw [domainId_of_none (not_exists.1 hforce)] at h
    cases h
    exact Nat.zero_le _

theorem exists_ofName?_iff {cs : List Char} : (∃ range, DiscoveryRange.ofName? cs = some range) ↔
    ∃ name ∈ rangeNames, cs.map Char.toLower = name.toList := by
  have hname (name : String) : cs.map Char.toLower = name.toList ↔
      String.ofList (cs.map Char.toLower) = name := by
    rw [← String.toList_inj, String.toList_ofList]
  simp only [hname, DiscoveryRange.ofName?, rangeNames]
  split <;> simp_all

theorem exists_namedRange_iff : (∃ range, env.namedRange = .ok range) ↔
    ∀ text, env.Gives "HDDS_DISCOVERY_RANGE" text →
      ∃ name ∈ rangeNames, Text.Spells (Text.trimmed text) name := by
  unfold namedRange
  cases hget : env.get "HDDS_DISCOVERY_RANGE" with
  | none => exact ⟨fun _ text hgives => absurd hgives (get_eq_none_iff.1 hget text),
      fun _ => ⟨_, rfl⟩⟩
  | some text =>
    have honly : ∀ other, env.Gives "HDDS_DISCOVERY_RANGE" other ↔ text = other := by
      intro other
      rw [← get_eq_some_iff, hget, Option.some.injEq]
    simp only [honly, forall_eq', Text.Spells, Text.trimmed, String.toList_ofList]
    rw [← exists_ofName?_iff]
    cases DiscoveryRange.ofName? (Text.trim text.toList) <;> simp

theorem waitSetCapacity_eq_ok_iff {n : Nat} (h : env.Gives "HDDS_WAITSET_CAPACITY" text) :
    env.waitSetCapacity = .ok n ↔
      Text.Denotes (Text.trim text.toList) n ∧ 0 < n ∧ n < UInt64.size := by
  have hlt : n < UInt64.size ↔ n ≤ UInt64.size - 1 := by
    rw [UInt64.size]
    omega
  rw [waitSetCapacity, get_eq_some_iff.2 h, hlt, and_left_comm, ← Text.unsigned?_eq_some_iff]
  dsimp only
  split
  · next m hnumber =>
    rw [hnumber]
    constructor
    · rintro ⟨⟩
      exact ⟨Nat.succ_pos m, rfl⟩
    · rintro ⟨-, ⟨⟩⟩
      rfl
  · next hnot =>
    refine ⟨nofun, fun ⟨hpos, hnumber⟩ => ?_⟩
    cases n with
    | zero => cases hpos
    | succ m => exact absurd hnumber (hnot m)

theorem waitSetCapacity_of_none (h : ∀ text, ¬ env.Gives "HDDS_WAITSET_CAPACITY" text) :
    env.waitSetCapacity = .ok defaultSlotCapacity := by
  rw [waitSetCapacity, get_eq_none_iff.2 h]
  rfl

theorem exists_waitSetCapacity_iff : (∃ n, env.waitSetCapacity = .ok n) ↔
    ∀ text, env.Gives "HDDS_WAITSET_CAPACITY" text →
      ∃ n, Text.Denotes (Text.trim text.toList) n ∧ 0 < n ∧ n < UInt64.size := by
  constructor
  · rintro ⟨n, hok⟩ text hgives
    exact ⟨n, (waitSetCapacity_eq_ok_iff hgives).1 hok⟩
  · intro h
    by_cases hgives : ∃ text, env.Gives "HDDS_WAITSET_CAPACITY" text
    · obtain ⟨text, hgives⟩ := hgives
      obtain ⟨n, hn⟩ := h text hgives
      exact ⟨n, (waitSetCapacity_eq_ok_iff hgives).2 hn⟩
    · exact ⟨_, waitSetCapacity_of_none (not_exists.1 hgives)⟩

/-- A capacity that was read is not zero. -/
theorem waitSetCapacity_pos {n : Nat} (h : env.waitSetCapacity = .ok n) : 0 < n := by
  by_cases hgives : ∃ text, env.Gives "HDDS_WAITSET_CAPACITY" text
  · obtain ⟨text, hgives⟩ := hgives
    exact ((waitSetCapacity_eq_ok_iff hgives).1 h).2.1
  · rw [waitSetCapacity_of_none (not_exists.1 hgives)] at h
    cases h
    decide

/-! ## All settings -/

/-- The settings with these numbers and this range, and the rest as the environment has it. -/
def settingsWith (env : Environment) (domainId : Nat) (range : DiscoveryRange) (capacity : Nat) :
    Settings where
  domainId
  enclave := env.enclave
  discoveryRange := if env.localhostOnly then .localhost else range
  discoveryPeers := env.discoveryPeers
  waitSetCapacity := capacity
  logLevel := (env.get "HDDS_LOG_LEVEL").getD Settings.standard.logLevel
  qosProfilePath := env.get "HDDS_QOS_PROFILE_PATH"

theorem read_eq (env : Environment) : Settings.read env = (do
    let domainId ← env.domainId
    let range ← env.namedRange
    let capacity ← env.waitSetCapacity
    return env.settingsWith domainId range capacity) := rfl

theorem read_eq_ok_iff {settings : Settings} : Settings.read env = .ok settings ↔
    ∃ domainId, env.domainId = .ok domainId ∧ ∃ range, env.namedRange = .ok range ∧
      ∃ capacity, env.waitSetCapacity = .ok capacity ∧
        env.settingsWith domainId range capacity = settings := by
  rw [read_eq]
  simp only [bind_eq_ok_iff, pure, Except.pure, Except.ok.injEq]

theorem exists_read_iff : (∃ settings, Settings.read env = .ok settings) ↔ env.WellFormed := by
  constructor
  · rintro ⟨settings, h⟩
    obtain ⟨domainId, hdomain, range, hrange, capacity, hcapacity, -⟩ := read_eq_ok_iff.1 h
    exact ⟨exists_domainId_iff.1 ⟨_, hdomain⟩, exists_namedRange_iff.1 ⟨_, hrange⟩,
      exists_waitSetCapacity_iff.1 ⟨_, hcapacity⟩⟩
  · intro h
    obtain ⟨domainId, hdomain⟩ := exists_domainId_iff.2 h.domain
    obtain ⟨range, hrange⟩ := exists_namedRange_iff.2 h.range
    obtain ⟨capacity, hcapacity⟩ := exists_waitSetCapacity_iff.2 h.capacity
    exact ⟨_, read_eq_ok_iff.2 ⟨_, hdomain, _, hrange, _, hcapacity, rfl⟩⟩

/-- A context can be made of settings that were read, unless the enclave is relative. -/
theorem validate_ofSettings {settings : Settings} (h : Settings.read env = .ok settings) :
    (Options.ofSettings settings).validate =
      if settings.enclave.toList.head? = some '/' then .ok ()
      else .error (.invalidArgument (.relativeEnclave settings.enclave)) := by
  obtain ⟨domainId, hdomain, range, -, capacity, hcapacity, rfl⟩ := read_eq_ok_iff.1 h
  have hle : ¬ maxDomainId < domainId := Nat.not_lt.2 (domainId_le hdomain)
  have hpos : capacity ≠ 0 := Nat.ne_of_gt (waitSetCapacity_pos hcapacity)
  by_cases habsolute : env.enclave.toList.head? = some '/' <;>
    simp [Options.validate, Options.ofSettings, settingsWith, hle, hpos, habsolute]

/-! ## Environments that are read alike -/

/-- Whatever is read is the same in both environments, the static peers aside. -/
structure SameButPeers (env env' : Environment) : Prop where
  domain : env'.getEither "HDDS_DOMAIN_ID" "ROS_DOMAIN_ID" =
    env.getEither "HDDS_DOMAIN_ID" "ROS_DOMAIN_ID"
  enclave : env'.getEither "HDDS_ENCLAVE" "ROS_SECURITY_ENCLAVE" =
    env.getEither "HDDS_ENCLAVE" "ROS_SECURITY_ENCLAVE"
  localhost : env'.getEither "HDDS_LOCALHOST_ONLY" "ROS_LOCALHOST_ONLY" =
    env.getEither "HDDS_LOCALHOST_ONLY" "ROS_LOCALHOST_ONLY"
  plain : ∀ key ∈ ["HDDS_DISCOVERY_RANGE", "HDDS_WAITSET_CAPACITY", "HDDS_LOG_LEVEL",
    "HDDS_QOS_PROFILE_PATH"], env'.get key = env.get key

/-- The settings differ in the peers at most, and an error is the same. -/
theorem SameButPeers.read_eq (h : env.SameButPeers env') : Settings.read env' =
    (Settings.read env).map fun settings =>
      { settings with discoveryPeers := env'.discoveryPeers } := by
  have hdomain : env'.domainId = env.domainId := by
    unfold domainId
    rw [h.domain]
  have hrange : env'.namedRange = env.namedRange := by
    unfold namedRange
    rw [h.plain _ (by decide)]
  have hcapacity : env'.waitSetCapacity = env.waitSetCapacity := by
    unfold waitSetCapacity
    rw [h.plain _ (by decide)]
  have hrest (domainId : Nat) (range : DiscoveryRange) (capacity : Nat) :
      env'.settingsWith domainId range capacity =
        { env.settingsWith domainId range capacity with discoveryPeers := env'.discoveryPeers } := by
    unfold settingsWith Environment.enclave localhostOnly
    rw [h.enclave, h.localhost, h.plain _ (by decide), h.plain _ (by decide)]
  rw [Environment.read_eq, Environment.read_eq, hdomain, hrange, hcapacity]
  simp only [hrest]
  cases env.domainId <;> cases env.namedRange <;> cases env.waitSetCapacity <;> rfl

theorem SameButPeers.refl (env : Environment) : env.SameButPeers env :=
  ⟨rfl, rfl, rfl, fun _ _ => rfl⟩

/-! ## Shadowed fallbacks -/

/-- The variables that have a fallback, each with it. -/
def fallbacks : List (String × String) :=
  [("HDDS_DOMAIN_ID", "ROS_DOMAIN_ID"), ("HDDS_ENCLAVE", "ROS_SECURITY_ENCLAVE"),
    ("HDDS_LOCALHOST_ONLY", "ROS_LOCALHOST_ONLY"), ("HDDS_DISCOVERY_PEERS", "HDDS_INITIAL_PEERS")]

/-- The variable is the fallback of one that gives a text. -/
def Shadowed (env : Environment) (key : String) : Prop :=
  ∃ primary text, (primary, key) ∈ fallbacks ∧ env.Gives primary text

/-- The environments agree on every variable that is not shadowed in the first. -/
def AgreeUnshadowed (env env' : Environment) : Prop :=
  ∀ key, ¬ env.Shadowed key → env' key = env key

namespace AgreeUnshadowed

theorem get_eq (h : env.AgreeUnshadowed env') (hkey : key ∉ fallbacks.map Prod.snd) :
    env'.get key = env.get key := by
  have hsame : env' key = env key := by
    refine h key fun ⟨primary, text, hmem, _⟩ => hkey ?_
    exact List.mem_map.2 ⟨_, hmem, rfl⟩
  rw [Environment.get, Environment.get, hsame]

/-- A fallback is consulted only when it is not shadowed. -/
theorem getEither_eq (h : env.AgreeUnshadowed env') (hmem : (key, fallback) ∈ fallbacks) :
    env'.getEither key fallback = env.getEither key fallback := by
  have hkeys : ∀ pair ∈ fallbacks, pair.1 ∉ fallbacks.map Prod.snd := by decide
  have hunique : ∀ pair ∈ fallbacks, ∀ pair' ∈ fallbacks, pair.2 = pair'.2 → pair.1 = pair'.1 := by
    decide
  have hprimary : env'.get key = env.get key := h.get_eq (hkeys _ hmem)
  unfold getEither
  rw [hprimary]
  cases hget : env.get key with
  | some text => rfl
  | none =>
    have hopen : ¬ env.Shadowed fallback := by
      rintro ⟨primary, text, hmem', hgives⟩
      obtain rfl : primary = key := hunique _ hmem' _ hmem rfl
      exact get_eq_none_iff.1 hget text hgives
    rw [Environment.get, Environment.get, h fallback hopen]

theorem sameButPeers (h : env.AgreeUnshadowed env') : env.SameButPeers env' where
  domain := h.getEither_eq (by decide)
  enclave := h.getEither_eq (by decide)
  localhost := h.getEither_eq (by decide)
  plain key hkey := by
    have hplain : ∀ key ∈ ["HDDS_DISCOVERY_RANGE", "HDDS_WAITSET_CAPACITY", "HDDS_LOG_LEVEL",
        "HDDS_QOS_PROFILE_PATH"], key ∉ fallbacks.map Prod.snd := by decide
    exact h.get_eq (hplain key hkey)

/-- Shadowed variables do not matter. -/
theorem read_eq (h : env.AgreeUnshadowed env') : Settings.read env' = Settings.read env := by
  have hpeers : env'.discoveryPeers = env.discoveryPeers := by
    unfold discoveryPeers
    rw [h.getEither_eq (by decide)]
  rw [h.sameButPeers.read_eq, hpeers, ← (SameButPeers.refl env).read_eq]

end AgreeUnshadowed

/-- Settings are read exactly from well-formed environments; a context accepts them unless the enclave
is relative; and what the fallbacks of given variables hold changes nothing about the result. -/
theorem reading_contract (env : Environment) :
    ((∃ settings, Settings.read env = .ok settings) ↔ env.WellFormed) ∧
    (∀ settings, Settings.read env = .ok settings →
      (Options.ofSettings settings).validate =
        if settings.enclave.toList.head? = some '/' then .ok ()
        else .error (.invalidArgument (.relativeEnclave settings.enclave))) ∧
    ∀ env', env.AgreeUnshadowed env' → Settings.read env' = Settings.read env :=
  ⟨exists_read_iff, fun _ h => validate_ofSettings h, fun _ h => h.read_eq⟩

/-- A padded domain id with a sign, a range in capitals, and a relative enclave; the fallback of the
domain id is no number, and changing it to a good one or removing it makes no difference. -/
theorem exists_reading_contract : ∃ (env : Environment) (settings : Settings),
    env "HDDS_DOMAIN_ID" = some " +0232 " ∧ env "ROS_DOMAIN_ID" = some "abc" ∧
    env "HDDS_DISCOVERY_RANGE" = some "SubNet" ∧
    Settings.read env = .ok settings ∧ env.WellFormed ∧ settings.domainId = 232 ∧
    (Options.ofSettings settings).validate = .error (.invalidArgument (.relativeEnclave "robot")) ∧
    ∀ value, Settings.read (fun key => if key = "ROS_DOMAIN_ID" then value else env key) =
      .ok settings := by
  let env : Environment := fun key =>
    match key with
    | "HDDS_DOMAIN_ID" => some " +0232 "
    | "ROS_DOMAIN_ID" => some "abc"
    | "HDDS_ENCLAVE" => some "robot"
    | "HDDS_DISCOVERY_RANGE" => some "SubNet"
    | _ => none
  let settings : Settings :=
    { Settings.standard with domainId := 232, enclave := "robot", discoveryRange := .subnet }
  have hread : Settings.read env = .ok settings := by rfl
  obtain ⟨hwell, hvalid, hshadowed⟩ := reading_contract env
  have hrelative : ¬ "robot".toList.head? = some '/' := by decide
  refine ⟨env, settings, rfl, rfl, rfl, hread, hwell.1 ⟨settings, hread⟩, rfl,
    (hvalid settings hread).trans (if_neg hrelative), fun value => ?_⟩
  rw [← hread]
  refine hshadowed _ fun key hopen => if_neg ?_
  rintro rfl
  exact hopen ⟨"HDDS_DOMAIN_ID", " +0232 ", by decide, rfl, '+', by decide, by decide⟩

end Environment

end PubSub
