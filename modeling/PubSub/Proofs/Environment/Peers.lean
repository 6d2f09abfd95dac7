import Mathlib.Logic.Function.Basic
import PubSub.Proofs.Environment.Reading
import PubSub.Proofs.Text.Fields

/-!
# The list of static peers

A peer is a text that can stand in the list: not empty, without a comma and without blanks at its
ends.  An environment that names peers in any layout (`PeerList`) is read with exactly these peers,
and in every other setting, and in its failures, as it was before.  All peers that are ever read are
of this kind, so that writing them out again changes nothing (`Environment.peers_round_trip`).
-/

namespace PubSub

namespace Environment

/-- A text that can stand in a list of peers. -/
def IsPeer (peer : String) : Prop := Text.IsField ',' peer.toList

instance (peer : String) : Decidable (IsPeer peer) :=
  inferInstanceAs (Decidable (Text.IsField ',' peer.toList))

/-- The text lists the peers in order, set apart by commas, with blanks and blank items at will. -/
def PeerList (text : String) (peers : List String) : Prop :=
  Text.Writes ',' text.toList (peers.map String.toList)

/-- The environment with a value for the variable of the peers. -/
def withPeers (env : Environment) (text : String) : Environment :=
  Function.update env "HDDS_DISCOVERY_PEERS" (some text)

variable {env : Environment} {text : String} {peers : List String}

/-- Joined by commas, peers are listed. -/
theorem peerList_intercalate (peers : List String) : PeerList (",".intercalate peers) peers :=
  ⟨peers.map String.toList, .refl _, String.toList_intercalate⟩

theorem fields_of_peerList (hpeers : ∀ peer ∈ peers, IsPeer peer) (h : PeerList text peers) :
    (Text.fields ',' text.toList).map String.ofList = peers := by
  have hfields : ∀ field ∈ peers.map String.toList, Text.IsField ',' field := by
    intro field hmem
    obtain ⟨peer, hpeer, rfl⟩ := List.mem_map.1 hmem
    exact hpeers peer hpeer
  rw [Text.fields_of_writes (by decide) hfields h, List.map_map]
  simp [Function.comp_def]

/-- The variable of the peers is consulted for nothing else. -/
theorem sameButPeers_withPeers (env : Environment) (text : String) :
    env.SameButPeers (env.withPeers text) := by
  have hget (key : String) (hne : key ≠ "HDDS_DISCOVERY_PEERS") :
      (env.withPeers text).get key = env.get key := by
    rw [Environment.get, Environment.get, withPeers, Function.update_of_ne hne]
  refine ⟨?_, ?_, ?_, fun key hkey => hget key ?_⟩
  · rw [getEither, getEither, hget _ (by decide), hget _ (by decide)]
  · rw [getEither, getEither, hget _ (by decide), hget _ (by decide)]
  · rw [getEither, getEither, hget _ (by decide), hget _ (by decide)]
  · rintro rfl
    revert hkey
    decide

theorem discoveryPeers_withPeers (hpeers : ∀ peer ∈ peers, IsPeer peer) (hne : peers ≠ [])
    (h : PeerList text peers) : (env.withPeers text).discoveryPeers = peers := by
  have hfields := fields_of_peerList hpeers h
  have hnotBlank : ∃ c ∈ text.toList, Text.isBlank c = false := by
    refine Text.exists_not_blank ',' fun hnil => hne ?_
    rw [← hfields, hnil, List.map_nil]
  have hget : (env.withPeers text).get "HDDS_DISCOVERY_PEERS" = some text :=
    get_eq_some_iff.2 ⟨Function.update_self .., hnotBlank⟩
  rw [discoveryPeers, getEither, hget]
  exact hfields

/-- Peers that were read can be listed. -/
theorem isPeer_of_mem_discoveryPeers {peer : String} (h : peer ∈ env.discoveryPeers) :
    IsPeer peer := by
  unfold discoveryPeers at h
  split at h
  · obtain ⟨field, hfield, rfl⟩ := List.mem_map.1 h
    rw [IsPeer, String.toList_ofList]
    exact Text.isField_of_mem_fields hfield
  · cases h

/-- Whatever the layout of a list of peers and whatever the rest of the environment, exactly these
peers are read.  The peers of settings that were read are such peers, and listing them again leaves
the settings as they are. -/
theorem peers_round_trip :
    (∀ (peers : List String) (text : String), peers ≠ [] → (∀ peer ∈ peers, IsPeer peer) →
      PeerList text peers → ∀ env : Environment, Settings.read (env.withPeers text) =
        (Settings.read env).map fun settings => { settings with discoveryPeers := peers }) ∧
    ∀ (env : Environment) (settings : Settings), Settings.read env = .ok settings →
      (∀ peer ∈ settings.discoveryPeers, IsPeer peer) ∧
      (settings.discoveryPeers ≠ [] →
        Settings.read (env.withPeers (",".intercalate settings.discoveryPeers)) = .ok settings) := by
  have hread (peers : List String) (text : String) (hne : peers ≠ [])
      (hpeers : ∀ peer ∈ peers, IsPeer peer) (hlist : PeerList text peers) (env : Environment) :
      Settings.read (env.withPeers text) =
        (Settings.read env).map fun settings => { settings with discoveryPeers := peers } := by
    rw [(sameButPeers_withPeers env text).read_eq, discoveryPeers_withPeers hpeers hne hlist]
  refine ⟨hread, fun env settings h => ?_⟩
  have hpeers : ∀ peer ∈ settings.discoveryPeers, IsPeer peer := by
    obtain ⟨_, -, _, -, _, -, rfl⟩ := read_eq_ok_iff.1 h
    exact fun peer hpeer => isPeer_of_mem_discoveryPeers hpeer
  refine ⟨hpeers, fun hne => ?_⟩
  rw [hread _ _ hne hpeers (peerList_intercalate _), h]
  rfl

/-- Two peers among blank items, one of them between blanks beyond ASCII, and a fallback that names
another. -/
theorem exists_peers_round_trip : ∃ (env : Environment) (settings : Settings),
    env "HDDS_INITIAL_PEERS" = some "10.0.0.9" ∧
    PeerList " 10.0.0.1, ,\u00a0b\u3000,," ["10.0.0.1", "b"] ∧
    Settings.read (env.withPeers " 10.0.0.1, ,\u00a0b\u3000,,") = .ok settings ∧
    settings.discoveryPeers = ["10.0.0.1", "b"] ∧
    Settings.read ((env.withPeers " 10.0.0.1, ,\u00a0b\u3000,,").withPeers "10.0.0.1,b") =
      .ok settings := by
  let env : Environment := fun key => if key = "HDDS_INITIAL_PEERS" then some "10.0.0.9" else none
  let settings : Settings := { Settings.standard with discoveryPeers := ["10.0.0.1", "b"] }
  have hread : Settings.read env = .ok { Settings.standard with discoveryPeers := ["10.0.0.9"] } := by
    rfl
  have hlist : PeerList " 10.0.0.1, ,\u00a0b\u3000,," ["10.0.0.1", "b"] := by
    have hspace : Text.Blank [' '] := by decide
    have hnone : Text.Blank [] := by decide
    have hleft : Text.Blank ['\u00a0'] := by decide
    have hright : Text.Blank ['\u3000'] := by decide
    exact ⟨_, .field hspace hnone (.blank hspace (.field hleft hright (.blank hnone
      (.blank hnone .nil)))), rfl⟩
  have hsettings : Settings.read (env.withPeers " 10.0.0.1, ,\u00a0b\u3000,,") = .ok settings := by
    rw [peers_round_trip.1 _ _ (by decide) (by decide) hlist, hread]
    rfl
  exact ⟨env, settings, rfl, hlist, hsettings, rfl,
    (peers_round_trip.2 _ settings hsettings).2 (by decide)⟩

end Environment

end PubSub
