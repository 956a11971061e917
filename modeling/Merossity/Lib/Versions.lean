import Merossity.Lib.OrdMap

/-!
Versions that are written to a log.

A store has for each key a current version or none, and versions are appended to a log of keys
and versions. `Versions.Inv` says that the versions of a key increase along the log and that
none of them is above the current one.

* `Grows`: no version of the store decreases.
* `Inv.mono` and `Inv.write` are the rules for a change of the store alone, and for a version
  that is logged and stored.
* `get_foldl_set`: a map to which a log is written shows the last version of each key.
-/

namespace Versions

variable {κ ν : Type*} [Preorder ν] {current current' current'' : κ → Option ν}

/-- No version decreases, and no key is lost. -/
def Grows (current current' : κ → Option ν) : Prop :=
  ∀ k c, current k = some c → ∃ c', current' k = some c' ∧ c ≤ c'

lemma Grows.refl (current : κ → Option ν) : Grows current current := fun _ c hc => ⟨c, hc, le_rfl⟩

lemma Grows.trans (h : Grows current current') (h' : Grows current' current'') :
    Grows current current'' := by
  intro k c hc
  obtain ⟨c', hc', hle⟩ := h k c hc
  obtain ⟨c'', hc'', hle'⟩ := h' k c' hc'
  exact ⟨c'', hc'', hle.trans hle'⟩

variable [DecidableEq κ]

/-- The versions of a key in a log. -/
def ofKey (k : κ) (log : List (κ × ν)) : List ν := (log.filter fun e => e.1 = k).map Prod.snd

omit [Preorder ν] in
lemma ofKey_append (k : κ) (log log' : List (κ × ν)) :
    ofKey k (log ++ log') = ofKey k log ++ ofKey k log' := by
  rw [ofKey, List.filter_append, List.map_append]
  rfl

/-- The versions of a key increase along the log, up to the current one. -/
structure Inv (current : κ → Option ν) (log : List (κ × ν)) : Prop where
  le : ∀ k v, (k, v) ∈ log → ∃ c, current k = some c ∧ v ≤ c
  increasing : ∀ k, (ofKey k log).Pairwise (· < ·)

lemma inv_nil (current : κ → Option ν) : Inv current [] where
  le _ _ h := by cases h
  increasing _ := List.Pairwise.nil

/-- The store changes. -/
lemma Inv.mono {log : List (κ × ν)} (h : Inv current log) (hgrows : Grows current current') :
    Inv current' log where
  le k v hv := by
    obtain ⟨c, hc, hle⟩ := h.le k v hv
    obtain ⟨c', hc', hle'⟩ := hgrows k c hc
    exact ⟨c', hc', hle.trans hle'⟩
  increasing := h.increasing

/-- A version above the current one is logged, and stored. -/
lemma Inv.write {log : List (κ × ν)} (h : Inv current log) (hgrows : Grows current current')
    {k : κ} {v : ν} (hnew : ∀ c, current k = some c → c < v) (hstored : current' k = some v) :
    Inv current' (log ++ [(k, v)]) where
  le k' v' hv := by
    rcases List.mem_append.mp hv with hv | hv
    · exact (h.mono hgrows).le k' v' hv
    · obtain ⟨rfl, rfl⟩ := Prod.mk.inj (List.mem_singleton.mp hv)
      exact ⟨v', hstored, le_rfl⟩
  increasing k' := by
    rw [ofKey_append, List.pairwise_append]
    refine ⟨h.increasing k', ?_, fun v' hv' w hw => ?_⟩
    · by_cases hk : k = k' <;> simp [ofKey, hk]
    · obtain ⟨e, he, rfl⟩ := List.mem_map.mp hw
      obtain ⟨hmem, hkey⟩ := List.mem_filter.mp he
      obtain rfl := List.mem_singleton.mp hmem
      obtain rfl : k = k' := by simpa using hkey
      obtain ⟨e', he', rfl⟩ := List.mem_map.mp hv'
      obtain ⟨hmem', hkey'⟩ := List.mem_filter.mp he'
      obtain rfl : e'.1 = k := by simpa using hkey'
      obtain ⟨c, hc, hle⟩ := h.le e'.1 e'.2 hmem'
      exact hle.trans_lt (hnew c hc)

/-- Of the versions that are written one after the other, the last one stays. -/
lemma get_foldl_set {α : Type*} (log : List (κ × α)) (k : κ) : ∀ m : OrdMap κ α,
    (log.foldl (fun m e => m.set e.1 e.2) m).get k = ((ofKey k log).getLast?).or (m.get k) := by
  induction log with
  | nil => exact fun m => rfl
  | cons e log ih =>
      intro m
      rw [List.foldl_cons, ih, OrdMap.get_set]
      by_cases hk : e.1 = k
      · have hcons : ofKey k (e :: log) = e.2 :: ofKey k log := by simp [ofKey, hk]
        rw [if_pos hk, hcons]
        cases hlog : ofKey k log <;> simp [List.getLast?_cons]
      · have hcons : ofKey k (e :: log) = ofKey k log := by simp [ofKey, hk]
        rw [if_neg hk, hcons]

end Versions
