import Mathlib.Tactic

/-!
Finite maps in insertion order.

A map is a list of entries with pairwise different keys. Writing an existing key
keeps its place, writing a new one appends, and deleting closes the gap, so the
list of entries is what an iteration over the map visits.

* `Assoc.get`, `Assoc.set`, `Assoc.erase` act on plain lists of pairs, where the
  first entry of a key is the one that counts; `get_set` and `get_erase` say what
  they do to every key.
* `Edits` are edits of one key each, made one after another: a key that none of them is about stays
  as it is (`Edits.frame`), and with different keys each of them holds at the end (`Edits.value`).
* `OrdMap` carries the distinctness of the keys as a field; `mem_entries_iff` says that
  its entries are its lookups.
-/

namespace Assoc

variable {κ α : Type*} [DecidableEq κ]

/-- The value of the first entry with key `k`. -/
def get : List (κ × α) → κ → Option α
  | [], _ => none
  | (k', v) :: l, k => if k' = k then some v else get l k

/-- Overwrites the first entry with key `k`, or appends one. -/
def set : List (κ × α) → κ → α → List (κ × α)
  | [], k, v => [(k, v)]
  | (k', v') :: l, k, v => if k' = k then (k', v) :: l else (k', v') :: set l k v

/-- Drops every entry with key `k`. -/
def erase (l : List (κ × α)) (k : κ) : List (κ × α) := l.filter fun e => e.1 ≠ k

@[simp] lemma get_nil (k : κ) : get ([] : List (κ × α)) k = none := rfl

lemma get_cons (k' : κ) (v : α) (l : List (κ × α)) (k : κ) :
    get ((k', v) :: l) k = if k' = k then some v else get l k := rfl

/-- Writing changes exactly the written key. -/
lemma get_set (l : List (κ × α)) (k k' : κ) (v : α) :
    get (set l k v) k' = if k = k' then some v else get l k' := by
  induction l with
  | nil => simp [set, get]
  | cons e l ih =>
      obtain ⟨j, w⟩ := e
      by_cases hj : j = k
      · subst hj
        by_cases hk : j = k' <;> simp [set, get, hk]
      · by_cases hk : j = k'
        · subst hk
          simp [set, get, hj, Ne.symm hj]
        · simp [set, get, hj, hk, ih]

@[simp] lemma get_set_self (l : List (κ × α)) (k : κ) (v : α) :
    get (set l k v) k = some v := by
  rw [get_set, if_pos rfl]

/-- Setting a key to the value that it has. -/
lemma set_of_get {l : List (κ × α)} {k : κ} {v : α} (h : get l k = some v) : set l k v = l := by
  induction l with
  | nil => cases h
  | cons e l ih =>
      obtain ⟨j, w⟩ := e
      rw [get_cons] at h
      rw [set]
      split_ifs at h ⊢ with hj
      · rw [hj, Option.some.inj h]
      · rw [ih h]

lemma get_set_of_ne (l : List (κ × α)) {k k' : κ} (h : k ≠ k') (v : α) :
    get (set l k v) k' = get l k' := by
  rw [get_set, if_neg h]

/-- Deleting changes exactly the deleted key. -/
lemma get_erase (l : List (κ × α)) (k k' : κ) :
    get (erase l k) k' = if k = k' then none else get l k' := by
  induction l with
  | nil => simp [erase]
  | cons e l ih =>
      obtain ⟨j, w⟩ := e
      rw [erase] at ih ⊢
      by_cases hj : j = k
      · subst hj
        by_cases hk : j = k' <;> simp [get, hk] at ih ⊢ <;> exact ih
      · by_cases hk : j = k'
        · subst hk
          simp [get, hj, Ne.symm hj]
        · simp [get, hj, hk] at ih ⊢
          exact ih

lemma mem_of_get {l : List (κ × α)} {k : κ} {v : α} (h : get l k = some v) : (k, v) ∈ l := by
  induction l with
  | nil => simp at h
  | cons e l ih =>
      obtain ⟨j, w⟩ := e
      rw [get_cons] at h
      split at h
      next hj =>
        obtain rfl := Option.some.inj h
        exact List.mem_cons.mpr (Or.inl (by rw [hj]))
      next => exact List.mem_cons_of_mem _ (ih h)

/-- With distinct keys every entry is the one that counts. -/
lemma get_of_mem {l : List (κ × α)} (hl : (l.map Prod.fst).Nodup) {k : κ} {v : α}
    (h : (k, v) ∈ l) : get l k = some v := by
  induction l with
  | nil => simp at h
  | cons e l ih =>
      obtain ⟨j, w⟩ := e
      simp only [List.map_cons, List.nodup_cons] at hl
      rcases List.mem_cons.mp h with h | h
      · obtain ⟨rfl, rfl⟩ := Prod.mk.inj h
        rw [get_cons, if_pos rfl]
      · have hne : j ≠ k := fun hj =>
          hl.1 (hj ▸ List.mem_map.mpr ⟨(k, v), h, rfl⟩)
        rw [get_cons, if_neg hne]
        exact ih hl.2 h

lemma get_eq_none_iff {l : List (κ × α)} {k : κ} : get l k = none ↔ k ∉ l.map Prod.fst := by
  induction l with
  | nil => simp
  | cons e l ih =>
      obtain ⟨j, w⟩ := e
      rw [get_cons]
      by_cases hj : j = k
      · simp [hj]
      · simp only [if_neg hj, ih, List.map_cons, List.mem_cons, not_or]
        exact ⟨fun h => ⟨Ne.symm hj, h⟩, fun h => h.2⟩

lemma mem_keys_set {l : List (κ × α)} {k j : κ} {v : α} :
    j ∈ (set l k v).map Prod.fst ↔ j = k ∨ j ∈ l.map Prod.fst := by
  rw [← not_iff_not, ← get_eq_none_iff, get_set, not_or, ← get_eq_none_iff]
  by_cases h : k = j
  · simp [h]
  · simp [h, Ne.symm h]

lemma nodup_set {l : List (κ × α)} (hl : (l.map Prod.fst).Nodup) (k : κ) (v : α) :
    ((set l k v).map Prod.fst).Nodup := by
  induction l with
  | nil => simp [set]
  | cons e l ih =>
      obtain ⟨j, w⟩ := e
      simp only [List.map_cons, List.nodup_cons] at hl
      by_cases hj : j = k
      · simp only [set, if_pos hj, List.map_cons, List.nodup_cons]
        exact hl
      · simp only [set, if_neg hj, List.map_cons, List.nodup_cons]
        refine ⟨fun hmem => ?_, ih hl.2⟩
        rcases mem_keys_set.mp hmem with h | h
        · exact hj h
        · exact hl.1 h

lemma nodup_erase {l : List (κ × α)} (hl : (l.map Prod.fst).Nodup) (k : κ) :
    ((erase l k).map Prod.fst).Nodup :=
  hl.sublist (List.Sublist.map _ List.filter_sublist)

lemma length_set (l : List (κ × α)) (k : κ) (v : α) :
    (set l k v).length = if (get l k).isSome then l.length else l.length + 1 := by
  induction l with
  | nil => rfl
  | cons e l ih =>
      obtain ⟨j, w⟩ := e
      rw [set, get_cons]
      by_cases hj : j = k
      · rw [if_pos hj, if_pos hj]
        rfl
      · rw [if_neg hj, if_neg hj, List.length_cons, ih, List.length_cons]
        split <;> rfl

/-! ### Edits -/

/-- An edit of one key, made if it is due: what it makes of the value. -/
structure Edit (κ α : Type*) where
  key : κ
  due : Prop
  value : Option α → Option α → Prop

/-- An edit leads from one list to the other. -/
structure Edit.Makes (e : Edit κ α) (l l' : List (κ × α)) : Prop where
  frame : ∀ k, (e.due → k ≠ e.key) → get l' k = get l k
  value : e.due → e.value (get l e.key) (get l' e.key)

/-- Edits lead from one list to another, one after the other. -/
inductive Edits : List (Edit κ α) → List (κ × α) → List (κ × α) → Prop where
  | nil (l : List (κ × α)) : Edits [] l l
  | cons {e : Edit κ α} {es : List (Edit κ α)} {l l' l'' : List (κ × α)} (h : e.Makes l l')
      (hs : Edits es l' l'') : Edits (e :: es) l l''

/-- An edit that is not due changes nothing. -/
lemma Edit.makes_of_not_due {e : Edit κ α} (h : ¬ e.due) (l : List (κ × α)) : e.Makes l l :=
  ⟨fun _ _ => rfl, fun hdue => absurd hdue h⟩

/-- An edit that is due writes its key. -/
lemma Edit.makes_set {e : Edit κ α} (hdue : e.due) {l : List (κ × α)} {v : α}
    (hv : e.value (get l e.key) (some v)) : e.Makes l (set l e.key v) := by
  refine ⟨fun k hk => get_set_of_ne l (hk hdue).symm v, fun _ => ?_⟩
  rw [get_set_self]
  exact hv

/-- A key that no due edit is about stays as it is. -/
lemma Edits.frame {es : List (Edit κ α)} {l l' : List (κ × α)} (h : Edits es l l') {k : κ}
    (hk : ∀ e ∈ es, e.due → k ≠ e.key) : get l' k = get l k := by
  induction h with
  | nil => rfl
  | cons h hs ih =>
      rw [ih fun e he => hk e (List.mem_cons_of_mem _ he), h.frame k (hk _ List.mem_cons_self)]

/-- Edits of different keys do not disturb each other. -/
lemma Edits.value {es : List (Edit κ α)} {l l' : List (κ × α)} (h : Edits es l l')
    (hkeys : (es.map Edit.key).Nodup) {e : Edit κ α} (he : e ∈ es) (hdue : e.due) :
    e.value (get l e.key) (get l' e.key) := by
  induction h with
  | nil => cases he
  | @cons first es l m l' h hs ih =>
      rw [List.map_cons, List.nodup_cons] at hkeys
      have hother : ∀ e ∈ es, e.key ≠ first.key := fun e he heq =>
        hkeys.1 (heq ▸ List.mem_map_of_mem he)
      rcases List.mem_cons.mp he with rfl | he
      · rw [hs.frame fun e' he' _ => (hother e' he').symm]
        exact h.value hdue
      · rw [← h.frame e.key fun _ => hother e he]
        exact ih hkeys.2 he

end Assoc

/-- A map from keys to values, listed in the order in which the keys were first
written. -/
structure OrdMap (κ α : Type*) where
  entries : List (κ × α)
  nodup : (entries.map Prod.fst).Nodup

namespace OrdMap

variable {κ α : Type*}

/-- The keys in the order of the entries. -/
def keys (m : OrdMap κ α) : List κ := m.entries.map Prod.fst

/-- The values in the order of the entries. -/
def values (m : OrdMap κ α) : List α := m.entries.map Prod.snd

def size (m : OrdMap κ α) : ℕ := m.entries.length

/-- The map without entries. -/
def empty : OrdMap κ α := ⟨[], List.nodup_nil⟩

variable [DecidableEq κ]

def get (m : OrdMap κ α) (k : κ) : Option α := Assoc.get m.entries k

def has (m : OrdMap κ α) (k : κ) : Bool := (m.get k).isSome

def set (m : OrdMap κ α) (k : κ) (v : α) : OrdMap κ α :=
  ⟨Assoc.set m.entries k v, Assoc.nodup_set m.nodup k v⟩

def erase (m : OrdMap κ α) (k : κ) : OrdMap κ α :=
  ⟨Assoc.erase m.entries k, Assoc.nodup_erase m.nodup k⟩

@[simp] lemma get_empty (k : κ) : (empty : OrdMap κ α).get k = none := rfl

lemma get_set (m : OrdMap κ α) (k k' : κ) (v : α) :
    (m.set k v).get k' = if k = k' then some v else m.get k' :=
  Assoc.get_set m.entries k k' v

@[simp] lemma get_set_self (m : OrdMap κ α) (k : κ) (v : α) : (m.set k v).get k = some v :=
  Assoc.get_set_self m.entries k v

lemma get_set_of_ne (m : OrdMap κ α) {k k' : κ} (h : k ≠ k') (v : α) :
    (m.set k v).get k' = m.get k' :=
  Assoc.get_set_of_ne m.entries h v

lemma get_erase (m : OrdMap κ α) (k k' : κ) :
    (m.erase k).get k' = if k = k' then none else m.get k' :=
  Assoc.get_erase m.entries k k'

lemma mem_entries_iff (m : OrdMap κ α) {k : κ} {v : α} :
    (k, v) ∈ m.entries ↔ m.get k = some v :=
  ⟨Assoc.get_of_mem m.nodup, Assoc.mem_of_get⟩

lemma mem_values_iff (m : OrdMap κ α) {v : α} : v ∈ m.values ↔ ∃ k, m.get k = some v := by
  simp only [values, List.mem_map, Prod.exists, exists_eq_right, mem_entries_iff]

lemma has_iff (m : OrdMap κ α) {k : κ} : m.has k = true ↔ ∃ v, m.get k = some v :=
  Option.isSome_iff_exists

lemma size_set (m : OrdMap κ α) (k : κ) (v : α) :
    (m.set k v).size = if m.has k then m.size else m.size + 1 :=
  Assoc.length_set m.entries k v

lemma size_erase_le (m : OrdMap κ α) (k : κ) : (m.erase k).size ≤ m.size :=
  List.length_filter_le _ _

lemma has_set (m : OrdMap κ α) (k k' : κ) (v : α) :
    (m.set k v).has k' = (decide (k = k') || m.has k') := by
  rw [has, get_set]
  by_cases h : k = k' <;> simp [h, has]

lemma mem_keys_iff (m : OrdMap κ α) {k : κ} : k ∈ m.keys ↔ m.has k = true := by
  rw [← not_iff_not, keys, ← Assoc.get_eq_none_iff, Bool.not_eq_true]
  exact Option.isSome_eq_false_iff.trans Option.isNone_iff_eq_none |>.symm

/-- The keys after a list of entries is written. -/
lemma has_foldl_set (es : List (κ × α)) (k : κ) : ∀ m : OrdMap κ α,
    (es.foldl (fun m e => m.set e.1 e.2) m).has k = true ↔
      m.has k = true ∨ k ∈ es.map Prod.fst := by
  induction es with
  | nil => simp
  | cons e es ih =>
      intro m
      rw [List.foldl_cons, ih, has_set, List.map_cons, List.mem_cons, Bool.or_eq_true,
        decide_eq_true_eq, eq_comm (a := k)]
      tauto

/-- Changes all values. -/
def mapValues {β : Type*} (f : α → β) (m : OrdMap κ α) : OrdMap κ β where
  entries := m.entries.map fun e => (e.1, f e.2)
  nodup := by
    rw [List.map_map]
    exact m.nodup

lemma get_mapValues {β : Type*} (f : α → β) (m : OrdMap κ α) (k : κ) :
    (m.mapValues f).get k = (m.get k).map f := by
  obtain ⟨entries, nodup⟩ := m
  show Assoc.get (entries.map fun e => (e.1, f e.2)) k = (Assoc.get entries k).map f
  clear nodup
  induction entries with
  | nil => rfl
  | cons e l ih =>
      rw [List.map_cons, Assoc.get_cons, Assoc.get_cons, ih]
      split <;> rfl

/-- A map is empty as soon as every lookup fails. -/
lemma eq_empty_iff (m : OrdMap κ α) : m = empty ↔ ∀ k, m.get k = none := by
  refine ⟨fun h k => by rw [h, get_empty], fun h => ?_⟩
  obtain ⟨entries, nodup⟩ := m
  cases entries with
  | nil => rfl
  | cons e l =>
      have := h e.1
      simp [get, Assoc.get] at this

end OrdMap
