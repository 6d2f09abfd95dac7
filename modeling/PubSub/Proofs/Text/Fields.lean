import Mathlib.Data.List.Basic
import Mathlib.Data.List.TakeWhile
import PubSub.Text.Character

/-!
# Fields of a separated list

What `trim` leaves has no blank at either end (`trimmed_trim`), and blanks around such a text are
dropped again (`trim_append_append`).  Hence `fields` inverts every way of writing a list: the items
joined by the separator, each padded with blanks at will, and blank items in between
(`fields_of_writes`).  Its own results can always be written so (`isField_of_mem_fields`).
-/

namespace PubSub.Text

/-- Every character is blank. -/
def Blank (cs : List Char) : Prop := ∀ c ∈ cs, isBlank c = true

/-- There is no blank at either end. -/
structure Trimmed (cs : List Char) : Prop where
  head : ∀ c, cs.head? = some c → isBlank c = false
  last : ∀ c, cs.getLast? = some c → isBlank c = false

-- The characters are a finite type, and an instance found by search may walk all of them.
instance (cs : List Char) : Decidable (Blank cs) := List.decidableBAll _ cs

instance (cs : List Char) : Decidable (Trimmed cs) :=
  decidable_of_iff (cs.head?.all (!isBlank ·) = true ∧ cs.getLast?.all (!isBlank ·) = true) <| by
    simp only [Option.all_eq_true, Bool.not_eq_true']
    exact ⟨fun h => ⟨h.1, h.2⟩, fun h => ⟨h.head, h.last⟩⟩

/-! ## Trimming -/

section

variable {left cs right : List Char}

theorem trimStart_append (h : Blank left) : trimStart (left ++ cs) = trimStart cs :=
  List.dropWhile_append_of_pos h

theorem trimStart_eq_nil (h : Blank cs) : trimStart cs = [] :=
  List.dropWhile_eq_nil_iff.2 h

theorem trimStart_of_head (h : ∀ c, cs.head? = some c → isBlank c = false) :
    trimStart cs = cs := by
  cases cs with
  | nil => rfl
  | cons c rest => exact List.dropWhile_cons_of_neg (by simp [h c rfl])

theorem head_trimStart {c : Char} (h : (trimStart cs).head? = some c) : isBlank c = false := by
  have hhead := List.head?_dropWhile_not isBlank cs
  unfold trimStart at h
  rwa [h] at hhead

theorem trimEnd_eq (cs : List Char) : trimEnd cs = (trimStart cs.reverse).reverse := rfl

theorem trim_eq_nil (h : Blank cs) : trim cs = [] := by
  rw [trim, trimStart_eq_nil h]
  rfl

/-- Blanks around a text are dropped. -/
theorem trim_append_append (hleft : Blank left) (hright : Blank right) (hne : cs ≠ [])
    (h : Trimmed cs) : trim (left ++ cs ++ right) = cs := by
  have hstart : trimStart (left ++ cs ++ right) = cs ++ right := by
    rw [List.append_assoc, trimStart_append hleft]
    refine trimStart_of_head fun c hc => h.head c ?_
    rwa [List.head?_append_of_ne_nil _ hne] at hc
  have hright' : Blank right.reverse := fun c hc => hright c (List.mem_reverse.1 hc)
  have hend : trimStart cs.reverse = cs.reverse := by
    refine trimStart_of_head fun c hc => h.last c ?_
    rwa [List.head?_reverse] at hc
  rw [trim, hstart, trimEnd_eq, List.reverse_append, trimStart_append hright', hend,
    List.reverse_reverse]

theorem trimEnd_isPrefix (cs : List Char) : trimEnd cs <+: cs := by
  have hsuffix : trimStart cs.reverse <:+ cs.reverse := List.dropWhile_suffix isBlank
  simpa [trimEnd_eq] using List.reverse_prefix.2 hsuffix

theorem trim_isInfix (cs : List Char) : trim cs <:+: cs :=
  (trimEnd_isPrefix _).isInfix.trans (List.dropWhile_suffix isBlank).isInfix

theorem trimmed_trim (cs : List Char) : Trimmed (trim cs) where
  head c hc := by
    obtain ⟨rest, heq⟩ := trimEnd_isPrefix (trimStart cs)
    have hne : trim cs ≠ [] := by
      rintro hnil
      simp [hnil] at hc
    have hhead : (trimStart cs).head? = some c := by
      rw [← heq, ← hc]
      exact List.head?_append_of_ne_nil _ hne
    exact head_trimStart hhead
  last c hc := by
    rw [trim, trimEnd_eq, List.getLast?_reverse] at hc
    exact head_trimStart hc

end

/-! ## Splitting -/

/-- The items of a text hold its characters but the separator. -/
theorem mem_of_mem_splitOn {separator c : Char} {cs item : List Char}
    (h : item ∈ cs.splitOn separator) (hc : c ∈ item) : c ∈ cs ∧ c ≠ separator := by
  induction cs generalizing item with
  | nil =>
    rw [List.splitOn_nil, List.mem_singleton] at h
    simp [h] at hc
  | cons first rest ih =>
    rw [List.splitOn_cons_eq_if_modifyHead] at h
    split at h
    · rcases List.mem_cons.1 h with rfl | h
      · cases hc
      · exact (ih h hc).imp_left (List.mem_cons_of_mem first)
    · next hne =>
      cases hsplit : rest.splitOn separator with
      | nil => exact absurd hsplit (List.splitOn_ne_nil separator rest)
      | cons item' others =>
        rw [hsplit] at ih h
        rcases List.mem_cons.1 h with rfl | h
        · rcases List.mem_cons.1 hc with rfl | hc
          · exact ⟨List.mem_cons_self, by simpa using hne⟩
          · exact (ih List.mem_cons_self hc).imp_left (List.mem_cons_of_mem first)
        · exact (ih (List.mem_cons_of_mem item' h) hc).imp_left (List.mem_cons_of_mem first)

/-! ## Written lists -/

/-- A text that can stand in a list: it is not empty, does not hold the separator and has no blank at
either end. -/
structure IsField (separator : Char) (cs : List Char) : Prop where
  nonempty : cs ≠ []
  separator_not_mem : separator ∉ cs
  trimmed : Trimmed cs

instance (separator : Char) (cs : List Char) : Decidable (IsField separator cs) :=
  decidable_of_iff (cs ≠ [] ∧ separator ∉ cs ∧ Trimmed cs)
    ⟨fun h => ⟨h.1, h.2.1, h.2.2⟩, fun h => ⟨h.nonempty, h.separator_not_mem, h.trimmed⟩⟩

/-- The items are the fields, each padded with blanks, and any number of blank ones. -/
inductive Pads : List (List Char) → List (List Char) → Prop
  | nil : Pads [] []
  | blank {pad : List Char} {items fields : List (List Char)} (hpad : Blank pad)
      (h : Pads items fields) : Pads (pad :: items) fields
  | field {left right field : List Char} {items fields : List (List Char)} (hleft : Blank left)
      (hright : Blank right) (h : Pads items fields) :
      Pads ((left ++ field ++ right) :: items) (field :: fields)

/-- The text consists of such items with the separator between them. -/
def Writes (separator : Char) (cs : List Char) (fields : List (List Char)) : Prop :=
  ∃ items, Pads items fields ∧ cs = [separator].intercalate items

variable {separator : Char} {cs : List Char}

theorem Pads.refl (fields : List (List Char)) : Pads fields fields := by
  induction fields with
  | nil => exact .nil
  | cons field rest ih =>
    have hnone : Blank [] := by decide
    have hitem : Pads (([] ++ field ++ []) :: rest) (field :: rest) := .field hnone hnone ih
    rwa [List.nil_append, List.append_nil] at hitem

theorem Pads.separator_not_mem (hseparator : isBlank separator = false)
    {items fields : List (List Char)} (h : Pads items fields)
    (hfields : ∀ field ∈ fields, IsField separator field) :
    ∀ item ∈ items, separator ∉ item := by
  have hblank {pad : List Char} (hpad : Blank pad) : separator ∉ pad := by
    intro hmem
    rw [hpad separator hmem] at hseparator
    cases hseparator
  induction h with
  | nil => simp
  | blank hpad _ ih => exact List.forall_mem_cons.2 ⟨hblank hpad, ih hfields⟩
  | field hleft hright _ ih =>
    obtain ⟨hfield, hrest⟩ := List.forall_mem_cons.1 hfields
    refine List.forall_mem_cons.2 ⟨?_, ih hrest⟩
    simp [hblank hleft, hblank hright, hfield.separator_not_mem]

/-- Trimming takes the padding off, and blank items are left out. -/
theorem Pads.filter_map_trim {items fields : List (List Char)} (h : Pads items fields)
    (hfields : ∀ field ∈ fields, IsField separator field) :
    (items.map trim).filter (!·.isEmpty) = fields := by
  induction h with
  | nil => rfl
  | blank hpad _ ih =>
    rw [List.map_cons, trim_eq_nil hpad]
    exact ih hfields
  | @field left right field items fields hleft hright _ ih =>
    obtain ⟨hfield, hrest⟩ := List.forall_mem_cons.1 hfields
    rw [List.map_cons, trim_append_append hleft hright hfield.nonempty hfield.trimmed,
      List.filter_cons_of_pos (by simp [hfield.nonempty]), ih hrest]

/-- Whatever the padding, the fields are read back. -/
theorem fields_of_writes (hseparator : isBlank separator = false) {list : List (List Char)}
    (hfields : ∀ field ∈ list, IsField separator field) (h : Writes separator cs list) :
    fields separator cs = list := by
  obtain ⟨items, hpads, rfl⟩ := h
  unfold fields
  by_cases hitems : items = []
  · subst hitems
    cases hpads
    rfl
  · rw [List.splitOn_intercalate separator (hpads.separator_not_mem hseparator hfields) hitems,
      hpads.filter_map_trim hfields]

/-- What is read could be written. -/
theorem isField_of_mem_fields {field : List Char} (h : field ∈ fields separator cs) :
    IsField separator field := by
  obtain ⟨hmem, hne⟩ := List.mem_filter.1 h
  obtain ⟨item, hitem, rfl⟩ := List.mem_map.1 hmem
  refine ⟨by simpa using hne, fun hin => ?_, trimmed_trim item⟩
  exact (mem_of_mem_splitOn hitem ((trim_isInfix item).subset hin)).2 rfl

/-- A text with a field in it is not blank. -/
theorem exists_not_blank (separator : Char) (h : fields separator cs ≠ []) : ∃ c ∈ cs, isBlank c = false := by
  obtain ⟨field, hfield⟩ := List.exists_mem_of_ne_nil _ h
  obtain ⟨hnonempty, -, htrimmed⟩ := isField_of_mem_fields hfield
  obtain ⟨c, rest, rfl⟩ := List.exists_cons_of_ne_nil hnonempty
  obtain ⟨item, hitem, heq⟩ := List.mem_map.1 (List.mem_filter.1 hfield).1
  have hc : c ∈ item := (trim_isInfix item).subset (heq ▸ List.mem_cons_self)
  exact ⟨c, (mem_of_mem_splitOn hitem hc).1, htrimmed.head c rfl⟩

end PubSub.Text
