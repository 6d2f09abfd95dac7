/-!
# Keyed tables

A `Table` is a list of entries with distinct keys. Looking a key up after an update is described by
one lemma per operation (`find?_insert`, `find?_erase`, `find?_modify`); the order of the entries
only shows in walks over the table.
-/

namespace PubSub

/-- Values by distinct keys. -/
structure Table (κ α : Type) where
  entries : List (κ × α)
  nodup_keys : (entries.map Prod.fst).Nodup := by simp

namespace Table

variable {κ α : Type} [DecidableEq κ]

/-- The table without entries. -/
def empty : Table κ α where
  entries := []

instance : Inhabited (Table κ α) := ⟨empty⟩

/-- The keys in the order of the entries. -/
def keys (t : Table κ α) : List κ := t.entries.map Prod.fst

/-- The values in the order of the entries. -/
def values (t : Table κ α) : List α := t.entries.map Prod.snd

/-- The number of entries. -/
def size (t : Table κ α) : Nat := t.entries.length

/-- The value of a key. -/
def find? (t : Table κ α) (k : κ) : Option α := t.entries.lookup k

/-- The key has a value. -/
def contains (t : Table κ α) (k : κ) : Bool := (t.find? k).isSome

/-- Every value changed by a function of its key and itself. -/
def map {β : Type} (t : Table κ α) (f : κ → α → β) : Table κ β where
  entries := t.entries.map fun e => (e.1, f e.1 e.2)
  nodup_keys := by
    have h := t.nodup_keys
    rwa [show (t.entries.map fun e => (e.1, f e.1 e.2)).map Prod.fst = t.entries.map Prod.fst by
      simp [Function.comp_def]]

/-- The value of one key changed by a function, if it has one. -/
def modify (t : Table κ α) (k : κ) (f : α → α) : Table κ α :=
  t.map fun k' a => if k' = k then f a else a

/-- The table without a key. -/
def erase (t : Table κ α) (k : κ) : Table κ α where
  entries := t.entries.filter fun e => e.1 ≠ k
  nodup_keys := (List.filter_sublist.map Prod.fst).nodup t.nodup_keys

/-- The table with a value for a key: in place of its former value, or else at the end. -/
def insert (t : Table κ α) (k : κ) (a : α) : Table κ α :=
  if h : k ∈ t.keys then t.modify k fun _ => a
  else
    { entries := t.entries ++ [(k, a)]
      nodup_keys := by
        have h' : ∀ x ∈ t.entries, ¬x.1 = k := by
          intro x hx hk
          exact h (hk ▸ List.mem_map_of_mem hx)
        simp only [List.map_append, List.map_cons, List.map_nil]
        refine List.nodup_append.2 ⟨t.nodup_keys, by simp, ?_⟩
        rintro x hx y hy rfl
        obtain rfl : x = k := by simpa using hy
        exact h hx }

/-- The table of a list of pairs; of pairs with the same key, the last one counts. -/
def ofList (pairs : List (κ × α)) : Table κ α :=
  pairs.foldl (fun t e => t.insert e.1 e.2) empty

omit [DecidableEq κ] in
@[simp] theorem entries_empty : (empty : Table κ α).entries = [] := rfl

@[simp] theorem find?_empty (k : κ) : (empty : Table κ α).find? k = none := rfl

theorem lookup_eq_some_iff_mem {l : List (κ × α)} (hl : (l.map Prod.fst).Nodup) {k : κ} {a : α} :
    l.lookup k = some a ↔ (k, a) ∈ l := by
  induction l with
  | nil => simp
  | cons e l ih =>
    obtain ⟨k', a'⟩ := e
    simp only [List.map_cons, List.nodup_cons] at hl
    by_cases h : k = k'
    · subst h
      have hk : ∀ a, (k, a) ∉ l := fun a ha => hl.1 (List.mem_map.2 ⟨(k, a), ha, rfl⟩)
      simp only [List.lookup_cons, beq_self_eq_true, Option.some.injEq, List.mem_cons,
        Prod.mk.injEq, true_and, hk, or_false]
      exact eq_comm
    · have hb : (k == k') = false := by simpa using h
      simp [List.lookup_cons, hb, h, ih hl.2]

/-- A lookup finds exactly the entries. -/
theorem find?_eq_some_iff {t : Table κ α} {k : κ} {a : α} :
    t.find? k = some a ↔ (k, a) ∈ t.entries :=
  lookup_eq_some_iff_mem t.nodup_keys

theorem mem_keys_iff {t : Table κ α} {k : κ} : k ∈ t.keys ↔ ∃ a, t.find? k = some a := by
  simp [keys, find?_eq_some_iff]

theorem find?_eq_none_iff {t : Table κ α} {k : κ} : t.find? k = none ↔ k ∉ t.keys := by
  rw [mem_keys_iff]
  cases t.find? k <;> simp

theorem contains_iff {t : Table κ α} {k : κ} : t.contains k = true ↔ k ∈ t.keys := by
  rw [mem_keys_iff, contains]
  cases t.find? k <;> simp

omit [DecidableEq κ] in
@[simp] theorem keys_map {β : Type} (t : Table κ α) (f : κ → α → β) : (t.map f).keys = t.keys := by
  simp [keys, map, Function.comp_def]

@[simp] theorem keys_modify (t : Table κ α) (k : κ) (f : α → α) : (t.modify k f).keys = t.keys := by
  simp [modify]

theorem find?_map {β : Type} (t : Table κ α) (f : κ → α → β) (k : κ) :
    (t.map f).find? k = (t.find? k).map (f k) := by
  cases h : t.find? k with
  | none => rw [find?_eq_none_iff] at h; simpa [find?_eq_none_iff] using h
  | some a =>
    rw [find?_eq_some_iff] at h
    rw [Option.map_some, find?_eq_some_iff]
    exact List.mem_map.2 ⟨(k, a), h, rfl⟩

theorem find?_modify (t : Table κ α) (k k' : κ) (f : α → α) :
    (t.modify k f).find? k' = if k' = k then (t.find? k').map f else t.find? k' := by
  rw [modify, find?_map]
  split <;> cases t.find? k' <;> simp_all

theorem find?_erase (t : Table κ α) (k k' : κ) :
    (t.erase k).find? k' = if k' = k then none else t.find? k' := by
  split
  · next h =>
    subst h
    rw [find?_eq_none_iff]
    simp [keys, erase]
  · next h =>
    cases h' : t.find? k' with
    | none =>
      rw [find?_eq_none_iff] at h' ⊢
      intro hk
      exact h' ((List.filter_sublist.map Prod.fst).subset hk)
    | some a =>
      rw [find?_eq_some_iff] at h' ⊢
      exact List.mem_filter.2 ⟨h', by simpa using h⟩

theorem find?_insert (t : Table κ α) (k k' : κ) (a : α) :
    (t.insert k a).find? k' = if k' = k then some a else t.find? k' := by
  unfold insert
  split
  · next h =>
    rw [find?_modify]
    split
    · next hk =>
      subst hk
      obtain ⟨b, hb⟩ := mem_keys_iff.1 h
      simp [hb]
    · rfl
  · next h =>
    split
    · next hk =>
      subst hk
      rw [find?_eq_some_iff]
      simp
    · next hk =>
      cases h' : t.find? k' with
      | none =>
        rw [find?_eq_none_iff] at h' ⊢
        simp only [keys, List.map_append, List.map_cons, List.map_nil, List.mem_append,
          List.mem_singleton] at h' ⊢
        simp [h', hk]
      | some b =>
        rw [find?_eq_some_iff] at h' ⊢
        simp [h']

theorem mem_keys_insert {t : Table κ α} {k k' : κ} {a : α} :
    k' ∈ (t.insert k a).keys ↔ k' = k ∨ k' ∈ t.keys := by
  simp only [mem_keys_iff, find?_insert]
  split <;> simp_all

theorem mem_keys_erase {t : Table κ α} {k k' : κ} :
    k' ∈ (t.erase k).keys ↔ k' ≠ k ∧ k' ∈ t.keys := by
  simp only [mem_keys_iff, find?_erase]
  split <;> simp_all

omit [DecidableEq κ] in
theorem map_map {β γ : Type} (t : Table κ α) (f : κ → α → β) (g : κ → β → γ) :
    (t.map f).map g = t.map fun k a => g k (f k a) := by
  simp [map, Function.comp_def]

theorem modify_modify (t : Table κ α) (k : κ) (f g : α → α) :
    (t.modify k f).modify k g = t.modify k fun a => g (f a) := by
  unfold modify
  rw [map_map]
  congr 1
  funext k' a
  split <;> rfl

/-- Only the value that is there matters. -/
theorem modify_congr {t : Table κ α} {k : κ} {a : α} (h : t.find? k = some a) {f g : α → α}
    (hfg : f a = g a) : t.modify k f = t.modify k g := by
  unfold modify map
  simp only [mk.injEq]
  refine List.map_congr_left fun e he => ?_
  split
  · next hk =>
    have hfind := find?_eq_some_iff.2 he
    rw [hk, h] at hfind
    rw [← Option.some.inj hfind, hfg]
  · rfl

end Table

end PubSub
