import Merossity.Lib.Versions

/-!
Operations that are throttled.

An operation is started for a key at some time, and ends later. A throttle knows the keys for
which an operation is under way, and starts one only if there is none for its key, and if the
last start for the key is far enough in the past. `apart` says when it is.

* `Throttle.Inv`: of each key at most one operation is under way, and its starts are apart.
* `Inv.start`, `Inv.finish` and `Inv.later` are the rules for an operation that starts, for one
  that ends, and for a clock that goes on.
-/

/-- The keys for which an operation is under way, and a log of the starts. -/
structure Throttle (κ τ : Type*) where
  active : List κ
  starts : List (κ × τ)

namespace Throttle

open Versions (ofKey)

variable {κ τ : Type*} [DecidableEq κ]

def empty : Throttle κ τ := ⟨[], []⟩

def start (t : Throttle κ τ) (k : κ) (now : τ) : Throttle κ τ :=
  ⟨t.active ++ [k], t.starts ++ [(k, now)]⟩

def finish (t : Throttle κ τ) (k : κ) : Throttle κ τ :=
  { t with active := t.active.filter (· ≠ k) }

lemma ofKey_start (t : Throttle κ τ) (k : κ) (now : τ) (k' : κ) :
    ofKey k' (t.start k now).starts = ofKey k' t.starts ++ if k = k' then [now] else [] := by
  rw [start, Versions.ofKey_append]
  by_cases hk : k = k' <;> simp [ofKey, hk]

/-- The last start of a key. -/
def last (t : Throttle κ τ) (k : κ) : Option τ := (ofKey k t.starts).getLast?

lemma last_start (t : Throttle κ τ) (k : κ) (now : τ) (k' : κ) :
    (t.start k now).last k' = if k = k' then some now else t.last k' := by
  rw [last, ofKey_start]
  by_cases hk : k = k' <;> simp [hk, last]

variable [Preorder τ] {apart : τ → τ → Prop} {clock now : τ} {t : Throttle κ τ} {k : κ}

/-- At most one operation of a key is under way, and the starts of a key are apart. -/
structure Inv (apart : τ → τ → Prop) (clock : τ) (t : Throttle κ τ) : Prop where
  single : t.active.Nodup
  past : ∀ k, ∀ s ∈ ofKey k t.starts, s ≤ clock
  spaced : ∀ k, (ofKey k t.starts).Pairwise apart

lemma inv_empty (clock : τ) : (empty : Throttle κ τ).Inv apart clock where
  single := List.nodup_nil
  past _ _ h := by cases h
  spaced _ := List.Pairwise.nil

/-- Time goes on. -/
lemma Inv.later (h : t.Inv apart clock) (hnow : clock ≤ now) : t.Inv apart now where
  single := h.single
  past k s hs := (h.past k s hs).trans hnow
  spaced := h.spaced

/-- What is apart from the last start is apart from all of them. -/
lemma Inv.apart_of_last (h : t.Inv apart clock) (hnow : clock ≤ now)
    (hmono : ∀ a b c, apart a b → b ≤ c → apart a c)
    (hlast : ∀ s, t.last k = some s → apart s now) : ∀ s ∈ ofKey k t.starts, apart s now := by
  intro s hs
  have hspaced := h.spaced k
  have hpast := h.past k
  rw [last] at hlast
  rcases List.eq_nil_or_concat' (ofKey k t.starts) with hnil | ⟨earlier, newest, heq⟩
  · rw [hnil] at hs
    cases hs
  · rw [heq] at hs hspaced hpast hlast
    have hnewest : apart newest now := hlast newest List.getLast?_concat
    rcases List.mem_append.mp hs with hs | hs
    · have hbefore : apart s newest := (List.pairwise_append.mp hspaced).2.2 s hs newest (by simp)
      have hle : newest ≤ now := (hpast newest (by simp)).trans hnow
      exact hmono s newest now hbefore hle
    · obtain rfl := List.mem_singleton.mp hs
      exact hnewest

/-- An operation starts. -/
lemma Inv.start (h : t.Inv apart clock) (hnow : clock ≤ now)
    (hmono : ∀ a b c, apart a b → b ≤ c → apart a c) (hidle : k ∉ t.active)
    (hlast : ∀ s, t.last k = some s → apart s now) : (t.start k now).Inv apart now where
  single := by
    refine List.nodup_append.mpr ⟨h.single, List.nodup_singleton k, fun a ha b hb hab => ?_⟩
    obtain rfl := List.mem_singleton.mp hb
    exact hidle (hab ▸ ha)
  past k' s hs := by
    rw [ofKey_start, List.mem_append] at hs
    rcases hs with hs | hs
    · exact (h.past k' s hs).trans hnow
    · split at hs
      · exact (List.mem_singleton.mp hs).le
      · cases hs
  spaced k' := by
    rw [ofKey_start]
    split_ifs with hk
    · subst hk
      refine List.pairwise_append.mpr ⟨h.spaced k, List.pairwise_singleton _ _, ?_⟩
      intro s hs now' hnow'
      obtain rfl := List.mem_singleton.mp hnow'
      exact h.apart_of_last hnow hmono hlast s hs
    · rw [List.append_nil]
      exact h.spaced k'

/-- An operation ends. -/
lemma Inv.finish (h : t.Inv apart clock) (k : κ) : (t.finish k).Inv apart clock where
  single := h.single.filter _
  past := h.past
  spaced := h.spaced

end Throttle
