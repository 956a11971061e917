import Merossity.Lib.OrdMap

/-!
Replicas that follow a log of events.

A store publishes its changes to a log, and a replica applies the events of the log one after
the other. `pending` is what the replica shows once it has applied the rest of the log, so that
"the replica follows the store" is an equation between `pending` and the store.

* `pending_append`, `pending_apply` and `pending_eq` are the rules: the store changes, the
  replica applies an event, and the replica has applied all of them.
* `overwrite` is what an entry makes of what is shown under a key. `foldl_overwrite_snapshot`: the
  entries of a store show the store.
-/

namespace Replica

variable {V E : Type*} (apply : V → E → V)

/-- What a replica shows that has applied the first `n` events, once it has applied the rest. -/
def pending (v : V) (log : List E) (n : ℕ) : V := (log.drop n).foldl apply v

variable {apply}

/-- The log grows. -/
lemma pending_append {v : V} {log : List E} {n : ℕ} (hn : n ≤ log.length) (es : List E) :
    pending apply v (log ++ es) n = es.foldl apply (pending apply v log n) := by
  rw [pending, List.drop_append_of_le_length hn, List.foldl_append]
  rfl

/-- The replica applies an event. -/
lemma pending_apply {v : V} {log : List E} {n : ℕ} {e : E} (he : log[n]? = some e) :
    pending apply (apply v e) log (n + 1) = pending apply v log n := by
  obtain ⟨hlt, rfl⟩ := List.getElem?_eq_some_iff.mp he
  rw [pending, pending, List.drop_eq_getElem_cons hlt, List.foldl_cons]

/-- The replica has applied all events. -/
lemma pending_eq {v : V} {log : List E} {n : ℕ} (hn : log.length ≤ n) :
    pending apply v log n = v := by
  rw [pending, List.drop_eq_nil_of_le hn]
  rfl

/-- Events that change nothing may be left out. -/
lemma foldl_filter (p : E → Bool) (hp : ∀ v e, p e = false → apply v e = v) (es : List E) (v : V) :
    (es.filter p).foldl apply v = es.foldl apply v := by
  induction es generalizing v with
  | nil => rfl
  | cons e es ih =>
      cases he : p e with
      | true => rw [List.filter_cons_of_pos he, List.foldl_cons, List.foldl_cons, ih]
      | false =>
          rw [List.filter_cons_of_neg (by rw [he]; exact Bool.false_ne_true), List.foldl_cons,
            hp v e he, ih]

/-! ### Maps of entries -/

section Maps

variable {K A W : Type*} [DecidableEq K] (key : A → K) (shown : A → W)

/-- What an entry makes of what is shown under a key. -/
def overwrite (k : K) (v : Option W) (a : A) : Option W := if key a = k then some (shown a) else v

variable {key shown} {k : K} {v : Option W}

lemma overwrite_overwrite (a : A) :
    overwrite key shown k (overwrite key shown k v a) a = overwrite key shown k v a := by
  simp only [overwrite]
  split <;> rfl

/-- What is shown stays shown. -/
lemma isSome_overwrite {a : A} (hv : v.isSome) : (overwrite key shown k v a).isSome := by
  rw [overwrite]
  split
  · rfl
  · exact hv

lemma isSome_foldl_overwrite (as : List A) (hv : v.isSome) :
    (as.foldl (overwrite key shown k) v).isSome :=
  List.foldlRecOn (motive := fun v => v.isSome = true) as (overwrite key shown k) hv
    fun _ hv _ _ => isSome_overwrite hv

/-- An entry is stored under its key. -/
lemma shown_set (m : OrdMap K A) (a : A) :
    ((m.set (key a) a).get k).map shown = overwrite key shown k ((m.get k).map shown) a := by
  rw [OrdMap.get_set, overwrite]
  split <;> rfl

lemma shown_foldl_set (as : List A) : ∀ m : OrdMap K A,
    ((as.foldl (fun m a => m.set (key a) a) m).get k).map shown =
      as.foldl (overwrite key shown k) ((m.get k).map shown) := by
  induction as with
  | nil => exact fun _ => rfl
  | cons a as ih =>
      intro m
      rw [List.foldl_cons, List.foldl_cons, ih, shown_set]

lemma foldl_overwrite_of_notMem (as : List A) :
    (∀ a ∈ as, key a ≠ k) → ∀ v, as.foldl (overwrite key shown k) v = v := by
  induction as with
  | nil => exact fun _ _ => rfl
  | cons a as ih =>
      intro h v
      rw [List.foldl_cons, overwrite, if_neg (h a List.mem_cons_self)]
      exact ih (fun a' ha' => h a' (List.mem_cons_of_mem _ ha')) v

/-- A list of entries with different keys shows each of them. -/
lemma foldl_overwrite_of_mem {a : A} (as : List A) : (as.map key).Nodup → a ∈ as → key a = k →
    ∀ v, as.foldl (overwrite key shown k) v = some (shown a) := by
  induction as with
  | nil => exact fun _ ha => absurd ha List.not_mem_nil
  | cons a' as ih =>
      intro hnodup ha hkey v
      obtain ⟨hnotin, hnodup⟩ := List.nodup_cons.mp hnodup
      rw [List.foldl_cons]
      rcases List.mem_cons.mp ha with rfl | ha
      · rw [overwrite, if_pos hkey]
        refine foldl_overwrite_of_notMem as (fun a' ha' h => hnotin ?_) _
        exact List.mem_map.mpr ⟨a', ha', h.trans hkey.symm⟩
      · exact ih hnodup ha hkey _

/-- The entries of a store, in any order, show the store to a replica that shows no key which the
store does not have. -/
lemma foldl_overwrite_snapshot {m : OrdMap K A} (hm : ∀ j a, m.get j = some a → key a = j)
    {as : List A} (has : as.Perm m.values) (hv : v.isSome → ((m.get k).map shown).isSome) :
    as.foldl (overwrite key shown k) v = (m.get k).map shown := by
  have hmem : ∀ a, a ∈ as ↔ m.get (key a) = some a := by
    intro a
    rw [has.mem_iff, OrdMap.mem_values_iff]
    refine ⟨fun ⟨j, ha⟩ => ?_, fun ha => ⟨_, ha⟩⟩
    rwa [hm j a ha]
  have hnodup : (as.map key).Nodup := by
    have hkeys : m.values.map key = m.keys := by
      rw [OrdMap.values, OrdMap.keys, List.map_map]
      refine List.map_congr_left fun e he => ?_
      exact hm e.1 e.2 ((OrdMap.mem_entries_iff _).mp he)
    rw [(has.map _).nodup_iff, hkeys]
    exact m.nodup
  cases ha : m.get k with
  | some a =>
      have hkey := hm k a ha
      exact foldl_overwrite_of_mem as hnodup ((hmem a).mpr (hkey.symm ▸ ha)) hkey v
  | none =>
      have hnone : v = none := by
        rw [← Option.not_isSome_iff_eq_none]
        intro h
        have hsome := hv h
        rw [ha] at hsome
        cases hsome
      rw [hnone]
      refine foldl_overwrite_of_notMem as (fun a' hmem' hkey => ?_) none
      rw [← hkey, (hmem a').mp hmem'] at ha
      cases ha

end Maps

end Replica
