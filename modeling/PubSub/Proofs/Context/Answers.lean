import PubSub.Graph.Query
import PubSub.Proofs.Context.Endpoints

/-!
# What the queries answer

The queries read the tables of a graph in whatever order the entries are in, filter them in seven
ways, and put the answer in order.  `Graph.Shows` says what the answers amount to: those of a list of
endpoints and a list of nodes, each with its identifier.  It is enough that the tables hold the
entries of the lists in some order, the match sets aside (`Graph.Holds.shows`), and graphs that hold
the same entries give the same answers (`Graph.Holds.sameAnswers`).
-/

namespace PubSub

/-! ## Tables and lists -/

theorem nodup_of_nodup_keys {κ α : Type} {list : List (κ × α)} (h : (list.map Prod.fst).Nodup) :
    list.Nodup :=
  List.Pairwise.of_map Prod.fst (fun _ _ hne heq => hne (congrArg Prod.fst heq)) h

/-- A table in which every look-up ends as in a list holds the entries of the list. -/
theorem Table.entries_perm {κ α : Type} [DecidableEq κ] {table : Table κ α} {list : List (κ × α)}
    (hlist : (list.map Prod.fst).Nodup) (h : ∀ key, table.find? key = list.lookup key) :
    table.entries.Perm list := by
  rw [List.perm_ext_iff_of_nodup (nodup_of_nodup_keys table.nodup_keys) (nodup_of_nodup_keys hlist)]
  rintro ⟨key, value⟩
  rw [← Table.find?_eq_some_iff, h, Table.lookup_eq_some_iff_mem hlist]

/-- Lists in ascending order are the same if they have the same elements. -/
theorem eq_of_ascending {α : Type} {r : α → α → Prop} (hasymm : ∀ {a b}, r a b → ¬ r b a)
    {list list' : List α} (h : list.Pairwise r) (h' : list'.Pairwise r)
    (hmem : ∀ a, a ∈ list ↔ a ∈ list') : list = list' := by
  have hne {a b : α} (hab : r a b) : a ≠ b := by
    rintro rfl
    exact hasymm hab hab
  refine List.Perm.eq_of_pairwise (fun _ _ _ _ hab hba => absurd hba (hasymm hab)) h h' ?_
  exact (List.perm_ext_iff_of_nodup (h.imp hne) (h'.imp hne)).2 hmem

/-! ## Identifiers in order -/

namespace Gid

theorem le_trans {a b c : Gid} (hab : a ≤ b) (hbc : b ≤ c) : a ≤ c := List.le_trans hab hbc

theorem le_total (a b : Gid) : a ≤ b ∨ b ≤ a := List.le_total a.bytes b.bytes

theorem lt_of_le_of_ne {a b : Gid} (hle : a ≤ b) (hne : a ≠ b) : a < b := by
  rw [lt_def]
  refine Classical.byContradiction fun hnot => hne ?_
  exact Gid.ext (List.le_antisymm hle (List.not_lt.1 hnot))

theorem lt_asymm {a b : Gid} (hab : a < b) : ¬ b < a := List.lt_asymm hab

end Gid

/-! ## Texts in order -/

theorem nodup_eraseDups : (texts : List String) → texts.eraseDups.Nodup
  | [] => by simp
  | text :: rest => by
    rw [List.eraseDups_cons, List.nodup_cons]
    refine ⟨?_, nodup_eraseDups _⟩
    simp [List.mem_eraseDups]
termination_by texts => texts.length
decreasing_by exact Nat.lt_succ_of_le (List.length_filter_le _ _)

theorem mem_sortedTexts {text : String} {texts : List String} :
    text ∈ sortedTexts texts ↔ text ∈ texts := by
  rw [sortedTexts, List.mem_mergeSort, List.mem_eraseDups]

theorem sortedTexts_ascending (texts : List String) : (sortedTexts texts).Pairwise (· < ·) := by
  have hsorted : (sortedTexts texts).Pairwise fun a b => decide (a ≤ b) = true := by
    refine List.pairwise_mergeSort (fun a b c hab hbc => ?_) (fun a b => ?_) _
    · exact decide_eq_true (String.le_trans (of_decide_eq_true hab) (of_decide_eq_true hbc))
    · rw [Bool.or_eq_true, decide_eq_true_iff, decide_eq_true_iff]
      exact String.le_total a b
  have hnodup : (sortedTexts texts).Nodup :=
    (List.mergeSort_perm ..).nodup_iff.2 (nodup_eraseDups texts)
  refine (hsorted.and hnodup).imp fun ⟨hle, hne⟩ => ?_
  exact Std.lt_of_le_of_ne (of_decide_eq_true hle) hne

/-- It only matters which texts there are. -/
theorem sortedTexts_congr {texts texts' : List String} (h : ∀ text, text ∈ texts ↔ text ∈ texts') :
    sortedTexts texts = sortedTexts texts' := by
  refine eq_of_ascending String.lt_asymm (sortedTexts_ascending texts)
    (sortedTexts_ascending texts') fun text => ?_
  rw [mem_sortedTexts, mem_sortedTexts, h]

/-! ## Names with their types -/

/-- The answer lists what occurs: each name once, with its types, each once, both in alphabetical
order. -/
structure Catalogues (answer : NamesAndTypes) (occurs : String → String → Prop) : Prop where
  mem_iff : ∀ name typeName,
    (∃ types, (name, types) ∈ answer ∧ typeName ∈ types) ↔ occurs name typeName
  mem_names_iff : ∀ name, name ∈ answer.map Prod.fst ↔ ∃ typeName, occurs name typeName
  names_ascending : (answer.map Prod.fst).Pairwise (· < ·)
  types_ascending : ∀ entry ∈ answer, entry.2.Pairwise (· < ·)

theorem names_namesAndTypes (endpoints : List Endpoint) :
    (namesAndTypes endpoints).map Prod.fst = sortedTexts (endpoints.map (·.name)) := by
  rw [namesAndTypes, List.map_map]
  exact List.map_id' _

theorem catalogues_namesAndTypes (endpoints : List Endpoint) :
    Catalogues (namesAndTypes endpoints) fun name typeName =>
      ∃ e ∈ endpoints, e.name = name ∧ e.typeName = typeName where
  mem_iff name typeName := by
    constructor
    · rintro ⟨types, hentry, htype⟩
      obtain ⟨name', -, heq⟩ := List.mem_map.1 hentry
      obtain ⟨rfl, rfl⟩ := Prod.mk.inj heq
      obtain ⟨e, he, rfl⟩ := List.mem_map.1 (mem_sortedTexts.1 htype)
      obtain ⟨he, hname⟩ := List.mem_filter.1 he
      exact ⟨e, he, of_decide_eq_true hname, rfl⟩
    · rintro ⟨e, he, rfl, rfl⟩
      refine ⟨_, List.mem_map.2 ⟨e.name, mem_sortedTexts.2 (List.mem_map_of_mem he), rfl⟩, ?_⟩
      exact mem_sortedTexts.2 (List.mem_map_of_mem (List.mem_filter.2 ⟨he, decide_eq_true rfl⟩))
  mem_names_iff name := by
    rw [names_namesAndTypes, mem_sortedTexts, List.mem_map]
    constructor
    · rintro ⟨e, he, rfl⟩
      exact ⟨e.typeName, e, he, rfl, rfl⟩
    · rintro ⟨typeName, e, he, rfl, -⟩
      exact ⟨e, he, rfl⟩
  names_ascending := by
    rw [names_namesAndTypes]
    exact sortedTexts_ascending _
  types_ascending entry hentry := by
    obtain ⟨name, -, rfl⟩ := List.mem_map.1 hentry
    exact sortedTexts_ascending _

/-- The order of the endpoints does not matter. -/
theorem namesAndTypes_perm {endpoints endpoints' : List Endpoint} (h : endpoints.Perm endpoints') :
    namesAndTypes endpoints = namesAndTypes endpoints' := by
  unfold namesAndTypes
  rw [sortedTexts_congr fun _ => (h.map _).mem_iff]
  refine List.map_congr_left fun name _ => ?_
  rw [sortedTexts_congr fun _ => ((h.filter _).map _).mem_iff]

/-- Nor do the match sets. -/
theorem namesAndTypes_map_blank (endpoints : List Endpoint) :
    namesAndTypes (endpoints.map Endpoint.blank) = namesAndTypes endpoints := by
  unfold namesAndTypes
  simp only [List.filter_map, List.map_map]
  rfl

/-! ## Nodes in order -/

namespace NodeInfo

/-- The three texts of a node in the order in which they are compared. -/
theorem le_iff {a b : NodeInfo} : a.le b = true ↔ a.name < b.name ∨ a.name = b.name ∧
    (a.nodeNamespace < b.nodeNamespace ∨
      a.nodeNamespace = b.nodeNamespace ∧ a.enclave ≤ b.enclave) := by
  have hle {s t : String} (hne : s ≠ t) : s ≤ t ↔ s < t :=
    ⟨fun h => Std.lt_of_le_of_ne h hne, Std.le_of_lt⟩
  unfold le
  by_cases hname : a.name = b.name
  · rw [if_neg (not_not_intro hname)]
    by_cases hnamespace : a.nodeNamespace = b.nodeNamespace
    · rw [if_neg (not_not_intro hnamespace)]
      simp [hname, hnamespace]
    · rw [if_pos hnamespace]
      simp [hname, hnamespace, hle hnamespace]
  · rw [if_pos hname]
    simp [hname, hle hname]

theorem le_trans {a b c : NodeInfo} (hab : a.le b = true) (hbc : b.le c = true) :
    a.le c = true := by
  rw [le_iff] at *
  grind

theorem le_total (a b : NodeInfo) : a.le b = true ∨ b.le a = true := by
  rw [le_iff, le_iff]
  grind

theorem le_antisymm {a b : NodeInfo} (hab : a.le b = true) (hba : b.le a = true) : a = b := by
  rw [le_iff] at hab hba
  cases a
  cases b
  grind

end NodeInfo

/-! ## What a graph holds -/

/-- The answer without a match set. -/
def EndpointInfo.blank (info : EndpointInfo) : EndpointInfo := ⟨info.gid, info.endpoint.blank⟩

/-- The endpoints in the order in which they are walked, match sets aside. -/
def Graph.roster (graph : Graph) : List (Gid × Endpoint) :=
  graph.endpoints.entries.map fun e => (e.1, e.2.blank)

/-- The tables hold these endpoints, match sets aside, and these nodes, in some order. -/
structure Graph.Holds (graph : Graph) (live : List (Gid × Endpoint))
    (known : List (Gid × NodeInfo)) : Prop where
  endpoints : graph.roster.Perm live
  nodes : graph.nodes.entries.Perm known

/-- The answers are those of a list of endpoints and a list of nodes. -/
structure Graph.Shows (graph : Graph) (live : List (Gid × Endpoint))
    (known : List (Gid × NodeInfo)) : Prop where
  count : ∀ kind name,
    graph.count kind name = live.countP fun e => e.2.kind = kind && e.2.name = name
  endpointInfos : ∀ kind name,
    ((graph.endpointInfos kind name).map EndpointInfo.blank).Perm
      ((live.filter fun e => e.2.kind = kind && e.2.name = name).map fun e => ⟨e.1, e.2⟩)
  endpointInfos_ascending : ∀ kind name,
    (graph.endpointInfos kind name).Pairwise fun a b => a.gid < b.gid
  length_endpointInfos : ∀ kind name,
    (graph.endpointInfos kind name).length = graph.count kind name
  topics : Catalogues graph.topicNamesAndTypes fun name typeName =>
    ∃ e ∈ live, e.2.kind.isTopic = true ∧ e.2.name = name ∧ e.2.typeName = typeName
  mem_topics_iff : ∀ name, name ∈ graph.topicNamesAndTypes.map Prod.fst ↔
    graph.count .publisher name ≠ 0 ∨ graph.count .subscription name ≠ 0
  services : Catalogues graph.serviceNamesAndTypes fun name typeName =>
    ∃ e ∈ live, e.2.kind.isTopic = false ∧ e.2.name = name ∧ e.2.typeName = typeName
  mem_services_iff : ∀ name, name ∈ graph.serviceNamesAndTypes.map Prod.fst ↔
    graph.count .service name ≠ 0 ∨ graph.count .client name ≠ 0
  unknownNode : ∀ kind nodeName nodeNamespace,
    (¬ ∃ n ∈ known, n.2.name = nodeName ∧ n.2.nodeNamespace = nodeNamespace) →
      graph.namesAndTypesByNode kind nodeName nodeNamespace =
        .error (.invalidArgument (.unknownNode (trimSlashes nodeNamespace) nodeName))
  knownNode : ∀ kind nodeName nodeNamespace,
    (∃ n ∈ known, n.2.name = nodeName ∧ n.2.nodeNamespace = nodeNamespace) →
      ∃ answer, graph.namesAndTypesByNode kind nodeName nodeNamespace = .ok answer ∧
        Catalogues answer fun name typeName => ∃ e ∈ live, (e.2.kind = kind ∧
          e.2.nodeName = nodeName ∧ e.2.nodeNamespace = nodeNamespace) ∧
            e.2.name = name ∧ e.2.typeName = typeName
  nodeInfos : graph.nodeInfos.Perm (known.map Prod.snd)
  nodeInfos_ascending : graph.nodeInfos.Pairwise fun a b => a.le b = true
  nodeNames : graph.nodeNames = graph.nodeInfos.map fun n => (n.name, n.nodeNamespace)

/-- Nobody can tell the graphs apart by asking, match sets aside. -/
structure Graph.SameAnswers (graph graph' : Graph) : Prop where
  count : ∀ kind name, graph'.count kind name = graph.count kind name
  endpointInfos : ∀ kind name, (graph'.endpointInfos kind name).map EndpointInfo.blank =
    (graph.endpointInfos kind name).map EndpointInfo.blank
  topicNamesAndTypes : graph'.topicNamesAndTypes = graph.topicNamesAndTypes
  serviceNamesAndTypes : graph'.serviceNamesAndTypes = graph.serviceNamesAndTypes
  namesAndTypesByNode : ∀ kind nodeName nodeNamespace,
    graph'.namesAndTypesByNode kind nodeName nodeNamespace =
      graph.namesAndTypesByNode kind nodeName nodeNamespace
  nodeInfos : graph'.nodeInfos = graph.nodeInfos
  nodeNames : graph'.nodeNames = graph.nodeNames

namespace Graph

/-- Answers come in the order of their identifiers, of which no two are the same. -/
theorem endpointInfos_ascending (graph : Graph) (kind : EndpointKind) (name : String) :
    (graph.endpointInfos kind name).Pairwise fun a b => a.gid < b.gid := by
  unfold endpointInfos
  generalize hmine : (graph.endpoints.entries.filter fun e => e.2.kind = kind && e.2.name = name) =
    mine
  have hsorted : ((mine.map fun e => EndpointInfo.mk e.1 e.2).mergeSort fun a b =>
      decide (a.gid ≤ b.gid)).Pairwise fun a b => decide (a.gid ≤ b.gid) = true := by
    refine List.pairwise_mergeSort (fun a b c hab hbc => ?_) (fun a b => ?_) _
    · exact decide_eq_true (Gid.le_trans (of_decide_eq_true hab) (of_decide_eq_true hbc))
    · rw [Bool.or_eq_true, decide_eq_true_iff, decide_eq_true_iff]
      exact Gid.le_total a.gid b.gid
  have hgids : (mine.map Prod.fst).Nodup := by
    rw [← hmine]
    exact (List.filter_sublist.map Prod.fst).nodup graph.endpoints.nodup_keys
  have hnodup : (mine.map fun e => EndpointInfo.mk e.1 e.2).Pairwise fun a b => a.gid ≠ b.gid := by
    rw [List.pairwise_map]
    exact List.pairwise_map.1 hgids
  have hnodup := (List.mergeSort_perm _ fun (a b : EndpointInfo) =>
    decide (a.gid ≤ b.gid)).symm.pairwise hnodup Ne.symm
  exact (hsorted.and hnodup).imp fun ⟨hle, hne⟩ => Gid.lt_of_le_of_ne (of_decide_eq_true hle) hne

theorem nodeInfos_ascending (graph : Graph) :
    graph.nodeInfos.Pairwise fun a b => a.le b = true := by
  refine @List.pairwise_mergeSort _ NodeInfo.le (fun a b c => NodeInfo.le_trans) (fun a b => ?_) _
  rw [Bool.or_eq_true]
  exact NodeInfo.le_total a b

namespace Holds

variable {graph graph' : Graph} {live : List (Gid × Endpoint)} {known : List (Gid × NodeInfo)}

/-- It is enough to look the identifiers up. -/
theorem of_find? (hlive : (live.map Prod.fst).Nodup) (hknown : (known.map Prod.fst).Nodup)
    (hendpoints : ∀ gid, (graph.endpoints.find? gid).map Endpoint.blank = live.lookup gid)
    (hnodes : ∀ gid, graph.nodes.find? gid = known.lookup gid) : graph.Holds live known where
  endpoints := by
    have hroster (gid : Gid) : (graph.endpoints.map fun _ => Endpoint.blank).find? gid =
        live.lookup gid := by
      rw [Table.find?_map, ← hendpoints]
    exact Table.entries_perm hlive hroster
  nodes := Table.entries_perm hknown hnodes

/-- The order of the lists is of no importance. -/
theorem perm (h : graph.Holds live known) {live' : List (Gid × Endpoint)}
    {known' : List (Gid × NodeInfo)} (hlive : live.Perm live') (hknown : known.Perm known') :
    graph.Holds live' known' :=
  ⟨h.endpoints.trans hlive, h.nodes.trans hknown⟩

section

variable (h : graph.Holds live known)

include h

theorem values : (graph.endpoints.values.map Endpoint.blank).Perm (live.map Prod.snd) := by
  have hvalues := h.endpoints.map Prod.snd
  rw [roster, List.map_map] at hvalues
  rw [Table.values, List.map_map]
  exact hvalues

theorem count (kind : EndpointKind) (name : String) :
    graph.count kind name = live.countP fun e => e.2.kind = kind && e.2.name = name := by
  have hcount := h.values.countP_eq fun e => e.kind = kind && e.name = name
  rw [List.countP_map, List.countP_map] at hcount
  exact hcount

theorem endpointInfos (kind : EndpointKind) (name : String) :
    ((graph.endpointInfos kind name).map EndpointInfo.blank).Perm
      ((live.filter fun e => e.2.kind = kind && e.2.name = name).map fun e => ⟨e.1, e.2⟩) := by
  have hmine := (h.endpoints.filter fun e => e.2.kind = kind && e.2.name = name).map fun e =>
    EndpointInfo.mk e.1 e.2
  rw [roster, List.filter_map, List.map_map] at hmine
  unfold Graph.endpointInfos
  refine ((List.mergeSort_perm ..).map _).trans ?_
  rw [List.map_map]
  exact hmine

/-- What names and types are made of may be read off the list. -/
theorem namesAndTypes {p : Endpoint → Bool} (hp : ∀ e : Endpoint, p e.blank = p e) :
    PubSub.namesAndTypes (graph.endpoints.values.filter p) =
      PubSub.namesAndTypes ((live.map Prod.snd).filter p) := by
  have hfilter : (graph.endpoints.values.map Endpoint.blank).filter p =
      (graph.endpoints.values.filter p).map Endpoint.blank := by
    rw [List.filter_map]
    congr 2
    funext e
    exact hp e
  rw [← namesAndTypes_map_blank, ← hfilter]
  exact namesAndTypes_perm (h.values.filter p)

theorem catalogues {p : Endpoint → Bool} (hp : ∀ e : Endpoint, p e.blank = p e) :
    Catalogues (PubSub.namesAndTypes (graph.endpoints.values.filter p)) fun name typeName =>
      ∃ e ∈ live, p e.2 = true ∧ e.2.name = name ∧ e.2.typeName = typeName := by
  rw [h.namesAndTypes hp]
  have hlists := catalogues_namesAndTypes ((live.map Prod.snd).filter p)
  simp only [List.mem_filter, List.mem_map, and_assoc] at hlists
  simpa using hlists

theorem any_nodes (p : NodeInfo → Bool) : graph.nodes.values.any p = known.any fun n => p n.2 := by
  have hany := (h.nodes.map Prod.snd).any_eq (f := p)
  rw [List.any_map (l := known)] at hany
  exact hany

/-- A name is a key if it has an endpoint of one of the two kinds. -/
theorem mem_names_iff {isTopic : Bool} {answer : NamesAndTypes}
    (hanswer : Catalogues answer fun name typeName =>
      ∃ e ∈ live, e.2.kind.isTopic = isTopic ∧ e.2.name = name ∧ e.2.typeName = typeName)
    {a b : EndpointKind} (hkinds : ∀ kind : EndpointKind, kind.isTopic = isTopic ↔ kind = a ∨ kind = b)
    (name : String) :
    name ∈ answer.map Prod.fst ↔ graph.count a name ≠ 0 ∨ graph.count b name ≠ 0 := by
  have hcount (kind : EndpointKind) : graph.count kind name ≠ 0 ↔
      ∃ e ∈ live, e.2.kind = kind ∧ e.2.name = name := by
    rw [h.count, ← Nat.pos_iff_ne_zero, List.countP_pos_iff]
    simp only [Bool.and_eq_true, decide_eq_true_iff]
  rw [hanswer.mem_names_iff, hcount, hcount]
  constructor
  · rintro ⟨typeName, e, he, hkind, hname, -⟩
    rcases (hkinds _).1 hkind with hkind | hkind
    · exact .inl ⟨e, he, hkind, hname⟩
    · exact .inr ⟨e, he, hkind, hname⟩
  · rintro (⟨e, he, hkind, hname⟩ | ⟨e, he, hkind, hname⟩)
    · exact ⟨_, e, he, (hkinds _).2 (.inl hkind), hname, rfl⟩
    · exact ⟨_, e, he, (hkinds _).2 (.inr hkind), hname, rfl⟩

theorem topics : Catalogues graph.topicNamesAndTypes fun name typeName =>
    ∃ e ∈ live, e.2.kind.isTopic = true ∧ e.2.name = name ∧ e.2.typeName = typeName :=
  h.catalogues fun _ => rfl

theorem services : Catalogues graph.serviceNamesAndTypes fun name typeName =>
    ∃ e ∈ live, e.2.kind.isTopic = false ∧ e.2.name = name ∧ e.2.typeName = typeName := by
  have hlists := h.catalogues (p := fun e => !e.kind.isTopic) fun _ => rfl
  unfold Graph.serviceNamesAndTypes
  simpa only [Bool.not_eq_true'] using hlists

theorem unknownNode {nodeName nodeNamespace : String}
    (hno : ¬ ∃ n ∈ known, n.2.name = nodeName ∧ n.2.nodeNamespace = nodeNamespace)
    (kind : EndpointKind) :
    graph.namesAndTypesByNode kind nodeName nodeNamespace =
      .error (.invalidArgument (.unknownNode (trimSlashes nodeNamespace) nodeName)) := by
  unfold Graph.namesAndTypesByNode
  rw [h.any_nodes, if_neg]
  simpa only [List.any_eq_true, Bool.and_eq_true, decide_eq_true_iff] using hno

theorem knownNode {nodeName nodeNamespace : String}
    (hknown : ∃ n ∈ known, n.2.name = nodeName ∧ n.2.nodeNamespace = nodeNamespace)
    (kind : EndpointKind) :
    ∃ answer, graph.namesAndTypesByNode kind nodeName nodeNamespace = .ok answer ∧
      Catalogues answer fun name typeName => ∃ e ∈ live, (e.2.kind = kind ∧
        e.2.nodeName = nodeName ∧ e.2.nodeNamespace = nodeNamespace) ∧
          e.2.name = name ∧ e.2.typeName = typeName := by
  unfold Graph.namesAndTypesByNode
  rw [h.any_nodes, if_pos]
  · refine ⟨_, rfl, ?_⟩
    have hlists := h.catalogues (p := fun e => e.kind = kind && e.nodeName = nodeName &&
      e.nodeNamespace = nodeNamespace) fun _ => rfl
    simpa only [Bool.and_eq_true, decide_eq_true_iff, and_assoc] using hlists
  · simpa only [List.any_eq_true, Bool.and_eq_true, decide_eq_true_iff] using hknown

theorem nodeInfos : graph.nodeInfos.Perm (known.map Prod.snd) :=
  (List.mergeSort_perm ..).trans (h.nodes.map Prod.snd)

/-- The answers of a graph are those of the entries that it holds. -/
theorem shows : graph.Shows live known where
  count := h.count
  endpointInfos := h.endpointInfos
  endpointInfos_ascending := graph.endpointInfos_ascending
  length_endpointInfos kind name := by
    rw [h.count, List.countP_eq_length_filter, ← List.length_map EndpointInfo.blank,
      (h.endpointInfos kind name).length_eq, List.length_map]
  topics := h.topics
  mem_topics_iff := h.mem_names_iff h.topics fun kind => by cases kind <;> decide
  services := h.services
  mem_services_iff := h.mem_names_iff h.services fun kind => by cases kind <;> decide
  unknownNode kind _ _ hno := h.unknownNode hno kind
  knownNode kind _ _ hknown := h.knownNode hknown kind
  nodeInfos := h.nodeInfos
  nodeInfos_ascending := graph.nodeInfos_ascending
  nodeNames := rfl

theorem nodeInfos_eq (h' : graph'.Holds live known) : graph'.nodeInfos = graph.nodeInfos :=
  List.Perm.eq_of_pairwise (fun _ _ _ _ => NodeInfo.le_antisymm) graph'.nodeInfos_ascending
    graph.nodeInfos_ascending (h'.nodeInfos.trans h.nodeInfos.symm)

/-- Graphs that hold the same entries cannot be told apart. -/
theorem sameAnswers (h' : graph'.Holds live known) : graph.SameAnswers graph' where
  count kind name := by rw [h.count, h'.count]
  endpointInfos kind name := by
    have hasc (graph : Graph) : ((graph.endpointInfos kind name).map EndpointInfo.blank).Pairwise
        fun a b => a.gid < b.gid := by
      rw [List.pairwise_map]
      exact graph.endpointInfos_ascending kind name
    have hperm := (h'.endpointInfos kind name).trans (h.endpointInfos kind name).symm
    exact eq_of_ascending Gid.lt_asymm (hasc graph') (hasc graph) fun _ => hperm.mem_iff
  topicNamesAndTypes := by
    unfold Graph.topicNamesAndTypes
    rw [h.namesAndTypes fun _ => rfl, h'.namesAndTypes fun _ => rfl]
  serviceNamesAndTypes := by
    unfold Graph.serviceNamesAndTypes
    rw [h.namesAndTypes fun _ => rfl, h'.namesAndTypes fun _ => rfl]
  namesAndTypesByNode kind nodeName nodeNamespace := by
    unfold Graph.namesAndTypesByNode
    rw [h.any_nodes, h'.any_nodes, h.namesAndTypes fun _ => rfl, h'.namesAndTypes fun _ => rfl]
  nodeInfos := h.nodeInfos_eq h'
  nodeNames := by
    unfold Graph.nodeNames
    rw [h.nodeInfos_eq h']

end

end Holds

end Graph

end PubSub
