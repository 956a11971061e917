import Merossity.Lib.OrdMap

/-!
Tasks that are shared while they are in flight.

A call for a key joins the task that is registered for the key, or else starts a task and
registers it; the call that started a task removes the entry when it returns. `Flight` is
the map of registered tasks together with all tasks and calls there have been.

* `enter`, `advance` and `leave` are the three things that happen: a call comes in, a task
  goes on or settles, and a call returns with the result of its task.
* `WellFormed` is the invariant: an entry stands for exactly one call that started its task
  and has not returned. `WellFormed.of_enters`, `WellFormed.advance` and `WellFormed.leave`
  preserve it.
* `Later` is what every sequence of steps keeps: results are final, and what is registered
  later was registered before or is a newer task.
-/

namespace Flight

/-- A task is under way with some data, or has its result. -/
inductive Status (δ ρ : Type*) where
  | running (d : δ)
  | settled (r : ρ)

/-- A task for a key. -/
structure Task (κ δ ρ : Type*) where
  key : κ
  status : Status δ ρ

/-- A call: its key, the task it awaits, whether it started that task, and its result once it
has returned. -/
structure Call (κ ρ : Type*) where
  key : κ
  task : ℕ
  creator : Bool
  result : Option ρ

end Flight

/-- The registered task of every key, and the tasks and calls so far. -/
structure Flight (κ δ ρ : Type*) where
  entries : OrdMap κ ℕ
  tasks : List (Flight.Task κ δ ρ)
  calls : List (Flight.Call κ ρ)

namespace Flight

variable {κ δ ρ : Type*}

/-- No call yet. -/
def empty : Flight κ δ ρ := ⟨OrdMap.empty, [], []⟩

/-- The key and the data of a task under way. -/
def running (f : Flight κ δ ρ) (t : ℕ) : Option (κ × δ) :=
  match f.tasks[t]? with
  | some ⟨k, .running d⟩ => some (k, d)
  | _ => none

/-- A task goes on, or settles. -/
def advance (f : Flight κ δ ρ) (t : ℕ) (s : Status δ ρ) : Flight κ δ ρ :=
  { f with tasks := f.tasks.modify t fun x => { x with status := s } }

lemma getElem?_concat {α : Type*} {l : List α} {a b : α} {n : ℕ}
    (h : (l ++ [a])[n]? = some b) : l[n]? = some b ∨ n = l.length ∧ b = a := by
  rcases lt_or_ge n l.length with hn | hn
  · exact Or.inl (by rwa [List.getElem?_append_left hn] at h)
  · rw [List.getElem?_append_right hn] at h
    have hlt := (List.getElem?_eq_some_iff.mp h).1
    rw [List.length_singleton] at hlt
    exact Or.inr ⟨by omega, List.mem_singleton.mp (List.mem_of_getElem? h)⟩

lemma running_eq_some {f : Flight κ δ ρ} {t : ℕ} {k : κ} {d : δ} :
    f.running t = some (k, d) ↔ f.tasks[t]? = some ⟨k, .running d⟩ := by
  rw [running]
  split
  next k' d' h => simp [h]
  next h => exact ⟨fun hn => (by cases hn), fun ht => absurd ht (h k d)⟩

variable [DecidableEq κ]

/-- A call for `k`; a task that it starts begins with `d`. -/
def enter (f : Flight κ δ ρ) (k : κ) (d : δ) : Flight κ δ ρ :=
  match f.entries.get k with
  | some t => { f with calls := f.calls ++ [⟨k, t, false, none⟩] }
  | none =>
      { entries := f.entries.set k f.tasks.length
        tasks := f.tasks ++ [⟨k, .running d⟩]
        calls := f.calls ++ [⟨k, f.tasks.length, true, none⟩] }

/-- A call returns with the result of its task, once that has settled. -/
def leave (f : Flight κ δ ρ) (c : ℕ) : Option (Flight κ δ ρ) :=
  match f.calls[c]? with
  | some ⟨k, t, creator, none⟩ => match f.tasks[t]? with
    | some ⟨_, .settled r⟩ =>
        some { f with
          entries := if creator then f.entries.erase k else f.entries
          calls := f.calls.set c ⟨k, t, creator, some r⟩ }
    | _ => none
  | _ => none

lemma enter_joins {f : Flight κ δ ρ} {k : κ} {t : ℕ} (h : f.entries.get k = some t) (d : δ) :
    f.enter k d = { f with calls := f.calls ++ [⟨k, t, false, none⟩] } := by
  simp only [enter, h]

lemma enter_starts {f : Flight κ δ ρ} {k : κ} (h : f.entries.get k = none) (d : δ) :
    f.enter k d =
      { entries := f.entries.set k f.tasks.length
        tasks := f.tasks ++ [⟨k, .running d⟩]
        calls := f.calls ++ [⟨k, f.tasks.length, true, none⟩] } := by
  simp only [enter, h]

/-- After a call the task of its key is registered. -/
lemma has_enter (f : Flight κ δ ρ) (k : κ) (d : δ) (k' : κ) :
    (f.enter k d).entries.has k' = (decide (k = k') || f.entries.has k') := by
  cases h : f.entries.get k with
  | some t =>
      rw [enter_joins h]
      by_cases hk : k = k'
      · subst hk
        rw [OrdMap.has, h]
        simp
      · simp [hk]
  | none =>
      rw [enter_starts h]
      exact OrdMap.has_set _ _ _ _

lemma size_enter (f : Flight κ δ ρ) (k : κ) (d : δ) :
    (f.enter k d).entries.size =
      if f.entries.has k then f.entries.size else f.entries.size + 1 := by
  cases h : f.entries.get k with
  | some t =>
      have hhas : f.entries.has k = true := (OrdMap.has_iff _).mpr ⟨t, h⟩
      rw [enter_joins h, if_pos hhas]
  | none =>
      rw [enter_starts h]
      exact OrdMap.size_set _ _ _

/-- Every call is appended. -/
lemma calls_enter (f : Flight κ δ ρ) (k : κ) (d : δ) : ∃ t creator,
    (f.enter k d).calls = f.calls ++ [⟨k, t, creator, none⟩] := by
  cases h : f.entries.get k with
  | some t => exact ⟨t, false, by rw [enter_joins h]⟩
  | none => exact ⟨f.tasks.length, true, by rw [enter_starts h]⟩

/-- What it takes for a call to return. -/
lemma leave_eq_some {f g : Flight κ δ ρ} {c : ℕ} (h : f.leave c = some g) :
    ∃ k k' t creator r, f.calls[c]? = some ⟨k, t, creator, none⟩ ∧
      f.tasks[t]? = some ⟨k', .settled r⟩ ∧
      g = { f with
        entries := if creator then f.entries.erase k else f.entries
        calls := f.calls.set c ⟨k, t, creator, some r⟩ } := by
  rw [leave] at h
  split at h
  next k t creator hc =>
    split at h
    next k' r ht => exact ⟨k, k', t, creator, r, hc, ht, (Option.some.inj h).symm⟩
    next => cases h
  next => cases h

lemma size_leave_le {f g : Flight κ δ ρ} {c : ℕ} (h : f.leave c = some g) :
    g.entries.size ≤ f.entries.size := by
  obtain ⟨k, k', t, creator, r, -, -, rfl⟩ := leave_eq_some h
  cases creator with
  | true => exact OrdMap.size_erase_le _ _
  | false => exact le_rfl

/-- A task that runs after a call ran before, or the call has started it. -/
lemma running_enter {f : Flight κ δ ρ} {k : κ} {d : δ} {t : ℕ} {k' : κ} {d' : δ}
    (ht : (f.enter k d).running t = some (k', d')) :
    f.running t = some (k', d') ∨ f.entries.has k = false ∧ k' = k ∧ d' = d := by
  cases hk : f.entries.get k with
  | some u =>
      rw [enter_joins hk] at ht
      exact Or.inl ht
  | none =>
      rw [running_eq_some, enter_starts hk] at ht
      rcases getElem?_concat ht with ht | ⟨-, ht⟩
      · exact Or.inl (running_eq_some.mpr ht)
      · cases ht
        exact Or.inr ⟨by rw [OrdMap.has, hk]; rfl, rfl, rfl⟩

/-! ### Sequences of calls -/

/-- Calls come in, one after the other, for tasks that satisfy `P`. -/
inductive Enters (P : κ → δ → Prop) (f : Flight κ δ ρ) : Flight κ δ ρ → Prop where
  | refl : Enters P f f
  | enter {g : Flight κ δ ρ} (h : Enters P f g) (k : κ) (d : δ) (hd : P k d) :
      Enters P f (g.enter k d)

variable {P : κ → δ → Prop}

/-- A task that runs afterwards ran before, or satisfies `P`. -/
lemma Enters.running {f g : Flight κ δ ρ} (h : Enters P f g) {t : ℕ} {k : κ} {d : δ}
    (ht : g.running t = some (k, d)) : f.running t = some (k, d) ∨ P k d := by
  induction h with
  | refl => exact Or.inl ht
  | enter _ j e he ih =>
      rcases running_enter ht with ht | ⟨-, rfl, rfl⟩
      · exact ih ht
      · exact Or.inr he

/-- A registered task stays registered while calls come in. -/
lemma Enters.get {f g : Flight κ δ ρ} (h : Enters P f g) {k : κ} {t : ℕ}
    (hk : f.entries.get k = some t) : g.entries.get k = some t := by
  induction h with
  | refl => exact hk
  | @enter g _ j d _ ih =>
      cases hj : g.entries.get j with
      | some u =>
          rw [enter_joins hj]
          exact ih
      | none =>
          have hne : j ≠ k := by
            rintro rfl
            rw [hj] at ih
            cases ih
          rw [enter_starts hj]
          exact (OrdMap.get_set_of_ne _ hne _).trans ih

/-- A call that comes in while a task of its key is registered joins that task. -/
lemma Enters.joins {f g : Flight κ δ ρ} (h : Enters P f g) {k : κ} {t : ℕ}
    (hk : f.entries.get k = some t) {i : ℕ} {c : Call κ ρ} (hi : f.calls.length ≤ i)
    (hc : g.calls[i]? = some c) (hkey : c.key = k) : c.task = t ∧ c.creator = false := by
  induction h with
  | refl => exact absurd (List.getElem?_eq_some_iff.mp hc).1 (not_lt.mpr hi)
  | @enter g hg j d _ ih =>
      cases hj : g.entries.get j with
      | some u =>
          rw [enter_joins hj] at hc
          rcases getElem?_concat hc with hc | ⟨-, rfl⟩
          · exact ih hc
          · rw [show j = k from hkey, hg.get hk] at hj
            exact ⟨(Option.some.inj hj).symm, rfl⟩
      | none =>
          rw [enter_starts hj] at hc
          rcases getElem?_concat hc with hc | ⟨-, rfl⟩
          · exact ih hc
          · rw [show j = k from hkey, hg.get hk] at hj
            cases hj

/-- No task settles while calls come in. -/
lemma Enters.settled {f g : Flight κ δ ρ} (h : Enters P f g) {t : ℕ} {k : κ} {r : ρ}
    (ht : g.tasks[t]? = some ⟨k, .settled r⟩) : f.tasks[t]? = some ⟨k, .settled r⟩ := by
  induction h with
  | refl => exact ht
  | @enter g _ j d _ ih =>
      cases hj : g.entries.get j with
      | some u =>
          rw [enter_joins hj] at ht
          exact ih ht
      | none =>
          rw [enter_starts hj] at ht
          rcases getElem?_concat ht with ht | ⟨-, ht⟩
          · exact ih ht
          · cases ht

lemma Enters.trans {f g h : Flight κ δ ρ} (hfg : Enters P f g) (hgh : Enters P g h) :
    Enters P f h := by
  induction hgh with
  | refl => exact hfg
  | enter _ k d hd ih => exact ih.enter k d hd

/-- A task stays as it is while calls come in. -/
lemma Enters.tasks {f g : Flight κ δ ρ} (h : Enters P f g) {t : ℕ} {x : Task κ δ ρ}
    (ht : f.tasks[t]? = some x) : g.tasks[t]? = some x := by
  induction h with
  | refl => exact ht
  | @enter g _ j d _ ih =>
      cases hj : g.entries.get j with
      | some u =>
          rw [enter_joins hj]
          exact ih
      | none =>
          rw [enter_starts hj]
          exact (List.getElem?_append_left (List.getElem?_eq_some_iff.mp ih).1).trans ih

/-- A call stays as it is while others come in. -/
lemma Enters.calls {f g : Flight κ δ ρ} (h : Enters P f g) {i : ℕ} {c : Call κ ρ}
    (hc : f.calls[i]? = some c) : g.calls[i]? = some c := by
  induction h with
  | refl => exact hc
  | @enter g _ j d _ ih =>
      obtain ⟨t, creator, hcalls⟩ := calls_enter g j d
      rw [hcalls]
      exact (List.getElem?_append_left (List.getElem?_eq_some_iff.mp ih).1).trans ih

/-- A task that is new when calls have come in is under way, and satisfies `P`. -/
lemma Enters.fresh {f g : Flight κ δ ρ} (h : Enters P f g) {t : ℕ} {k : κ} {s : Status δ ρ}
    (ht : g.tasks[t]? = some ⟨k, s⟩) (hnew : f.tasks.length ≤ t) :
    ∃ d, s = .running d ∧ P k d := by
  induction h with
  | refl => exact absurd (List.getElem?_eq_some_iff.mp ht).1 (not_lt.mpr hnew)
  | @enter g _ j d hd ih =>
      cases hj : g.entries.get j with
      | some u =>
          rw [enter_joins hj] at ht
          exact ih ht
      | none =>
          rw [enter_starts hj] at ht
          rcases getElem?_concat ht with ht | ⟨-, ht⟩
          · exact ih ht
          · obtain ⟨rfl, rfl⟩ := Task.mk.inj ht
            exact ⟨d, rfl, hd⟩

/-! ### The invariant -/

/-- An entry stands for the one call that started its task and has not returned. -/
structure WellFormed (f : Flight κ δ ρ) : Prop where
  /-- every call awaits a task of its key -/
  task : ∀ c ∈ f.calls, ∃ s, f.tasks[c.task]? = some ⟨c.key, s⟩
  /-- what a call has returned is the result of its task -/
  result : ∀ c ∈ f.calls, ∀ r, c.result = some r → f.tasks[c.task]? = some ⟨c.key, .settled r⟩
  /-- the entries are the tasks whose creators have not returned -/
  entry : ∀ k t, f.entries.get k = some t ↔ (⟨k, t, true, none⟩ : Call κ ρ) ∈ f.calls
  /-- a task is started by one call -/
  one : ∀ (i j : ℕ) (c d : Call κ ρ), f.calls[i]? = some c → f.calls[j]? = some d →
    c.creator = true → d.creator = true → c.task = d.task → i = j
  /-- a task under way is registered -/
  registered : ∀ t k d, f.running t = some (k, d) → f.entries.get k = some t

lemma wellFormed_empty : WellFormed (empty : Flight κ δ ρ) where
  task := by simp [empty]
  result := by simp [empty]
  entry := by simp [empty]
  one := by simp [empty]
  registered := by simp [empty, running]

namespace WellFormed

variable {f g : Flight κ δ ρ}

lemma task_lt (hf : f.WellFormed) {c : Call κ ρ} (hc : c ∈ f.calls) : c.task < f.tasks.length := by
  obtain ⟨s, hs⟩ := hf.task c hc
  exact (List.getElem?_eq_some_iff.mp hs).1

/-- At most one task of a key is under way. -/
theorem eq_of_running (hf : f.WellFormed) {k : κ} {t t' : ℕ} {d d' : δ}
    (h : f.running t = some (k, d)) (h' : f.running t' = some (k, d')) : t = t' := by
  have ht := hf.registered t k d h
  rw [hf.registered t' k d' h'] at ht
  exact (Option.some.inj ht).symm

/-- When every call has returned, no task is registered. -/
theorem entries_eq_empty (hf : f.WellFormed) (h : ∀ c ∈ f.calls, c.result ≠ none) :
    f.entries = OrdMap.empty := by
  rw [OrdMap.eq_empty_iff]
  intro k
  cases hk : f.entries.get k with
  | none => rfl
  | some t => exact absurd rfl (h _ ((hf.entry k t).mp hk))

lemma tasks_enter (f : Flight κ δ ρ) (k : κ) (d : δ) {t : ℕ} {x : Task κ δ ρ}
    (ht : f.tasks[t]? = some x) : (f.enter k d).tasks[t]? = some x := by
  cases hk : f.entries.get k with
  | some u => rw [enter_joins hk]; exact ht
  | none =>
      rw [enter_starts hk]
      exact (List.getElem?_append_left (List.getElem?_eq_some_iff.mp ht).1).trans ht

/-- A call joins: one more call, which started nothing. -/
lemma joins {k : κ} {t : ℕ} (hf : f.WellFormed) (hk : f.entries.get k = some t) :
    WellFormed { f with calls := f.calls ++ [⟨k, t, false, none⟩] } := by
  have hjoined := hf.task _ ((hf.entry k t).mp hk)
  refine ⟨fun c hc => ?_, fun c hc r hr => ?_, fun j u => ?_, fun i j c e hi hj hc he h => ?_,
    hf.registered⟩
  · rcases List.mem_append.mp hc with hc | hc
    · exact hf.task c hc
    · obtain rfl := List.mem_singleton.mp hc
      exact hjoined
  · rcases List.mem_append.mp hc with hc | hc
    · exact hf.result c hc r hr
    · obtain rfl := List.mem_singleton.mp hc
      cases hr
  · rw [List.mem_append, List.mem_singleton, hf.entry j u]
    simp
  · have old : ∀ (n : ℕ) (b : Call κ ρ), (f.calls ++ [⟨k, t, false, none⟩])[n]? = some b →
        b.creator = true → f.calls[n]? = some b := by
      intro n b hn hb
      rcases getElem?_concat hn with hn | ⟨-, rfl⟩
      · exact hn
      · cases hb
    exact hf.one i j c e (old i c hi hc) (old j e hj he) hc he h

/-- A call starts the task number `f.tasks.length`. -/
lemma starts {k : κ} (hf : f.WellFormed) (d : δ) (hk : f.entries.get k = none) :
    WellFormed
      { f with
        tasks := f.tasks ++ [⟨k, .running d⟩]
        entries := f.entries.set k f.tasks.length
        calls := f.calls ++ [⟨k, f.tasks.length, true, none⟩] } := by
  have hnew : (f.tasks ++ [⟨k, .running d⟩])[f.tasks.length]? = some ⟨k, .running d⟩ := by simp
  refine ⟨fun c hc => ?_, fun c hc r hr => ?_, fun j u => ?_, fun i j c e hi hj hc he h => ?_,
    fun t j e ht => ?_⟩
  · rcases List.mem_append.mp hc with hc | hc
    · obtain ⟨s, hs⟩ := hf.task c hc
      exact ⟨s, (List.getElem?_append_left (hf.task_lt hc)).trans hs⟩
    · obtain rfl := List.mem_singleton.mp hc
      exact ⟨_, hnew⟩
  · rcases List.mem_append.mp hc with hc | hc
    · exact (List.getElem?_append_left (hf.task_lt hc)).trans (hf.result c hc r hr)
    · obtain rfl := List.mem_singleton.mp hc
      cases hr
  · rw [OrdMap.get_set, List.mem_append, List.mem_singleton, ← hf.entry j u]
    by_cases hj : k = j
    · subst hj
      simp [hk, eq_comm]
    · simp [hj, Ne.symm hj]
  · rcases getElem?_concat hi with hi | ⟨hi', rfl⟩ <;>
      rcases getElem?_concat hj with hj | ⟨hj', rfl⟩
    · exact hf.one i j c e hi hj hc he h
    · have := hf.task_lt (List.mem_of_getElem? hi)
      exact absurd this (by rw [h]; exact lt_irrefl _)
    · have := hf.task_lt (List.mem_of_getElem? hj)
      exact absurd this (by rw [← h]; exact lt_irrefl _)
    · rw [hi', hj']
  · rcases getElem?_concat (running_eq_some.mp ht) with ht | ⟨rfl, hmem⟩
    · have hreg := hf.registered t j e (running_eq_some.mpr ht)
      have hne : k ≠ j := by
        rintro rfl
        rw [hk] at hreg
        cases hreg
      exact (OrdMap.get_set_of_ne _ hne _).trans hreg
    · obtain ⟨rfl, -⟩ := Task.mk.inj hmem
      exact OrdMap.get_set_self _ _ _

protected lemma enter (hf : f.WellFormed) (k : κ) (d : δ) : (f.enter k d).WellFormed := by
  cases hk : f.entries.get k with
  | some t =>
      rw [enter_joins hk]
      exact hf.joins hk
  | none =>
      rw [enter_starts hk]
      exact hf.starts d hk

omit [DecidableEq κ] in
/-- What a step of a task leaves of the tasks. -/
lemma tasks_advance (f : Flight κ δ ρ) {t u : ℕ} {k : κ} {d : δ} {s : Status δ ρ}
    (ht : f.running t = some (k, d)) :
    (f.advance t s).tasks[u]? = if t = u then some ⟨k, s⟩ else f.tasks[u]? := by
  rw [running_eq_some] at ht
  rw [advance, List.getElem?_modify]
  by_cases h : t = u
  · subst h
    simp [ht]
  · simp [h]

omit [DecidableEq κ] in
/-- What runs after a step of a task ran before, with the same key. -/
lemma running_advance (f : Flight κ δ ρ) {t u : ℕ} {k k' : κ} {d d' : δ} {s : Status δ ρ}
    (ht : f.running t = some (k, d)) (hu : (f.advance t s).running u = some (k', d')) :
    ∃ d₀, f.running u = some (k', d₀) := by
  rw [running_eq_some, tasks_advance f ht] at hu
  split at hu
  next h =>
    obtain ⟨rfl, -⟩ := Task.mk.inj (Option.some.inj hu)
    exact ⟨d, h ▸ ht⟩
  next => exact ⟨d', running_eq_some.mpr hu⟩

omit [DecidableEq κ] in
/-- What has settled after a step of a task had settled before, or settles in the step. -/
lemma settled_advance {f : Flight κ δ ρ} {t u : ℕ} {k k' : κ} {d : δ} {s : Status δ ρ} {r : ρ}
    (ht : f.running t = some (k, d)) (hu : (f.advance t s).tasks[u]? = some ⟨k', .settled r⟩) :
    f.tasks[u]? = some ⟨k', .settled r⟩ ∨ t = u ∧ k = k' ∧ s = .settled r := by
  rw [tasks_advance f ht] at hu
  split at hu
  next h =>
    obtain ⟨rfl, rfl⟩ := Task.mk.inj (Option.some.inj hu)
    exact .inr ⟨h, rfl, rfl⟩
  next => exact .inl hu

protected lemma advance (hf : f.WellFormed) {t : ℕ} {k : κ} {d : δ} (s : Status δ ρ)
    (ht : f.running t = some (k, d)) : (f.advance t s).WellFormed := by
  have hrun := running_eq_some.mp ht
  refine ⟨fun c hc => ?_, fun c hc r hr => ?_, hf.entry, hf.one, fun u j e hu => ?_⟩
  · obtain ⟨s', hs'⟩ := hf.task c hc
    rw [tasks_advance f ht]
    by_cases h : t = c.task
    · rw [← h, hrun] at hs'
      obtain ⟨hkey, -⟩ := Task.mk.inj (Option.some.inj hs')
      exact ⟨s, by rw [if_pos h, hkey]⟩
    · exact ⟨s', by rw [if_neg h, hs']⟩
  · have hres := hf.result c hc r hr
    have hne : t ≠ c.task := by
      intro h
      rw [← h, hrun] at hres
      cases hres
    rw [tasks_advance f ht, if_neg hne, hres]
  · obtain ⟨d₀, hu⟩ := running_advance f ht hu
    exact hf.registered u j d₀ hu

lemma of_enters {P : κ → δ → Prop} (hf : f.WellFormed) (h : Enters P f g) : g.WellFormed := by
  induction h with
  | refl => exact hf
  | enter _ k d _ ih => exact ih.enter k d

omit [DecidableEq κ] in
/-- The calls that have not returned when one has: they are others. -/
lemma mem_calls_returned {calls : List (Call κ ρ)} {c : ℕ} {x b : Call κ ρ}
    (hc : calls[c]? = some x) (r : ρ) (hb : b.result = none) :
    b ∈ calls.set c { x with result := some r } ↔ ∃ i, i ≠ c ∧ calls[i]? = some b := by
  constructor
  · intro hmem
    obtain ⟨i, hi⟩ := List.mem_iff_getElem?.mp hmem
    by_cases hic : c = i
    · subst hic
      rw [List.getElem?_set_self (List.getElem?_eq_some_iff.mp hc).1] at hi
      obtain rfl := Option.some.inj hi
      cases hb
    · rw [List.getElem?_set_ne hic] at hi
      exact ⟨i, Ne.symm hic, hi⟩
  · rintro ⟨i, hic, hi⟩
    refine List.mem_iff_getElem?.mpr ⟨i, ?_⟩
    rw [List.getElem?_set_ne (Ne.symm hic)]
    exact hi

omit [DecidableEq κ] in
/-- A call that returns keeps its task, and whether it started it. -/
lemma getElem?_calls_returned {calls : List (Call κ ρ)} {c n : ℕ} {x b : Call κ ρ}
    (hc : calls[c]? = some x) {r : ρ}
    (hn : (calls.set c { x with result := some r })[n]? = some b) :
    ∃ b', calls[n]? = some b' ∧ b'.creator = b.creator ∧ b'.task = b.task := by
  by_cases hcn : c = n
  · subst hcn
    rw [List.getElem?_set_self (List.getElem?_eq_some_iff.mp hc).1] at hn
    obtain rfl := Option.some.inj hn
    exact ⟨x, hc, rfl, rfl⟩
  · rw [List.getElem?_set_ne hcn] at hn
    exact ⟨b, hn, rfl, rfl⟩

/-- The entries once a call has returned: that of its task goes, if the call started it. -/
lemma entry_leave {c : ℕ} {k : κ} {t : ℕ} {creator : Bool} (hf : f.WellFormed) (r : ρ)
    (hc : f.calls[c]? = some ⟨k, t, creator, none⟩) (j : κ) (u : ℕ) :
    (if creator then f.entries.erase k else f.entries).get j = some u ↔
      (⟨j, u, true, none⟩ : Call κ ρ) ∈ f.calls.set c ⟨k, t, creator, some r⟩ := by
  have hset : (⟨j, u, true, none⟩ : Call κ ρ) ∈ f.calls.set c ⟨k, t, creator, some r⟩ ↔
      ∃ i, i ≠ c ∧ f.calls[i]? = some ⟨j, u, true, none⟩ := mem_calls_returned hc r rfl
  rw [hset]
  cases creator with
  | true =>
      simp only [if_true]
      have hreg := (hf.entry k t).mpr (List.mem_of_getElem? hc)
      rw [OrdMap.get_erase]
      by_cases hj : k = j
      · subst hj
        simp only [if_true]
        refine ⟨fun hn => (by cases hn), ?_⟩
        rintro ⟨i, hic, hi⟩
        have hu := (hf.entry k u).mpr (List.mem_of_getElem? hi)
        rw [hreg] at hu
        exact absurd (hf.one i c _ _ hi hc rfl rfl (Option.some.inj hu).symm) hic
      · rw [if_neg hj, hf.entry j u]
        constructor
        · intro hu
          obtain ⟨i, hi⟩ := List.mem_iff_getElem?.mp hu
          refine ⟨i, ?_, hi⟩
          rintro rfl
          rw [hc] at hi
          exact hj (Call.mk.inj (Option.some.inj hi)).1
        · rintro ⟨i, -, hi⟩
          exact List.mem_of_getElem? hi
  | false =>
      simp only [Bool.false_eq_true, if_false]
      rw [hf.entry j u]
      constructor
      · intro hu
        obtain ⟨i, hi⟩ := List.mem_iff_getElem?.mp hu
        refine ⟨i, ?_, hi⟩
        rintro rfl
        rw [hc] at hi
        cases hi
      · rintro ⟨i, -, hi⟩
        exact List.mem_of_getElem? hi

protected lemma leave {c : ℕ} (hf : f.WellFormed) (h : f.leave c = some g) : g.WellFormed := by
  obtain ⟨k, k', t, creator, r, hc, ht, rfl⟩ := leave_eq_some h
  have hmem := List.mem_of_getElem? hc
  have hkey : k' = k := by
    obtain ⟨s, hs⟩ := hf.task _ hmem
    rw [ht] at hs
    exact (Task.mk.inj (Option.some.inj hs)).1
  subst hkey
  refine ⟨fun b hb => ?_, fun b hb r' hr' => ?_, hf.entry_leave r hc,
    fun i j b e hi hj hb he heq => ?_, fun u j e hu => ?_⟩
  · rcases List.mem_or_eq_of_mem_set hb with hb | rfl
    · exact hf.task b hb
    · exact ⟨_, ht⟩
  · rcases List.mem_or_eq_of_mem_set hb with hb | rfl
    · exact hf.result b hb r' hr'
    · obtain rfl := Option.some.inj hr'
      exact ht
  · obtain ⟨b', hb', hbc, hbt⟩ := getElem?_calls_returned hc hi
    obtain ⟨e', he', hec, het⟩ := getElem?_calls_returned hc hj
    exact hf.one i j b' e' hb' he' (hbc.trans hb) (hec.trans he) (by rw [hbt, het, heq])
  · have hreg := hf.registered u j e hu
    cases creator with
    | true =>
        have hne : k' ≠ j := by
          rintro rfl
          rw [(hf.entry k' t).mpr hmem] at hreg
          obtain rfl := Option.some.inj hreg
          rw [show f.tasks[t]? = _ from running_eq_some.mp hu] at ht
          cases ht
        simp only [if_true]
        rw [OrdMap.get_erase, if_neg hne, hreg]
    | false => exact hreg

/-- A call that has not returned awaits a task under way, or can return. -/
theorem pending (hf : f.WellFormed) {i : ℕ} {c : Call κ ρ} (hc : f.calls[i]? = some c)
    (hres : c.result = none) :
    (∃ d, f.running c.task = some (c.key, d)) ∨ (f.leave i).isSome = true := by
  obtain ⟨s, hs⟩ := hf.task c (List.mem_of_getElem? hc)
  cases s with
  | running d => exact Or.inl ⟨d, running_eq_some.mpr hs⟩
  | settled r =>
      obtain ⟨k, t, creator, result⟩ := c
      obtain rfl : result = none := hres
      right
      rw [leave]
      simp only [hc]
      simp only [hs, Option.isSome_some]

/-- An entry is removed only by the return of the call that started its task, and it is that
task that is registered then. -/
theorem removed {c : ℕ} (hf : f.WellFormed) (h : f.leave c = some g) {k : κ} {t : ℕ}
    (hk : f.entries.get k = some t) (hg : g.entries.get k ≠ some t) :
    f.calls[c]? = some ⟨k, t, true, none⟩ := by
  obtain ⟨j, j', u, creator, r, hc, hu, rfl⟩ := leave_eq_some h
  cases creator with
  | false => exact absurd hk hg
  | true =>
      simp only [if_true] at hg
      by_cases hj : j = k
      · subst hj
        have hreg := (hf.entry j u).mpr (List.mem_of_getElem? hc)
        rw [hk] at hreg
        obtain rfl := Option.some.inj hreg
        exact hc
      · rw [OrdMap.get_erase, if_neg hj] at hg
        exact absurd hk hg

end WellFormed

/-! ### What is kept -/

/-- What every sequence of steps from `f` to `g` keeps. -/
structure Later (f g : Flight κ δ ρ) : Prop where
  /-- results are final -/
  settled : ∀ (t : ℕ) (k : κ) (r : ρ), f.tasks[t]? = some ⟨k, .settled r⟩ →
    g.tasks[t]? = some ⟨k, .settled r⟩
  tasks_le : f.tasks.length ≤ g.tasks.length
  calls_le : f.calls.length ≤ g.calls.length
  /-- what is registered was registered before, or is a newer task -/
  entry : ∀ k t, g.entries.get k = some t → f.entries.get k = some t ∨ f.tasks.length ≤ t
  /-- a call keeps its key and its task -/
  call : ∀ (i : ℕ) (c : Call κ ρ), f.calls[i]? = some c →
    ∃ r, g.calls[i]? = some { c with result := r }
  /-- what a call has returned stays -/
  returned : ∀ (i : ℕ) (c : Call κ ρ) (r : ρ), f.calls[i]? = some c → c.result = some r →
    g.calls[i]? = some c
  /-- a new call awaits a task that was registered before, or a newer one -/
  newer : ∀ (i : ℕ) (c : Call κ ρ), f.calls.length ≤ i → g.calls[i]? = some c →
    f.entries.get c.key = some c.task ∨ f.tasks.length ≤ c.task

namespace Later

variable {f g h : Flight κ δ ρ}

protected lemma refl (f : Flight κ δ ρ) : Later f f where
  settled _ _ _ ht := ht
  tasks_le := le_rfl
  calls_le := le_rfl
  entry _ _ ht := Or.inl ht
  call _ c hc := ⟨c.result, hc⟩
  returned _ _ _ hc _ := hc
  newer _ _ hi hc := absurd (List.getElem?_eq_some_iff.mp hc).1 (not_lt.mpr hi)

protected lemma trans (hfg : Later f g) (hgh : Later g h) : Later f h where
  settled t k r ht := hgh.settled t k r (hfg.settled t k r ht)
  tasks_le := hfg.tasks_le.trans hgh.tasks_le
  calls_le := hfg.calls_le.trans hgh.calls_le
  entry k t ht := by
    rcases hgh.entry k t ht with ht | ht
    · exact hfg.entry k t ht
    · exact Or.inr (hfg.tasks_le.trans ht)
  call i c hc := by
    obtain ⟨r, hr⟩ := hfg.call i c hc
    obtain ⟨r', hr'⟩ := hgh.call i _ hr
    exact ⟨r', hr'⟩
  returned i c r hc hr := hgh.returned i c r (hfg.returned i c r hc hr) hr
  newer i c hi hc := by
    rcases lt_or_ge i g.calls.length with hlt | hge
    · obtain ⟨r, hr⟩ := hgh.call i _ (List.getElem?_eq_getElem hlt)
      rw [hc] at hr
      have hnew := hfg.newer i _ hi (List.getElem?_eq_getElem hlt)
      rwa [Option.some.inj hr]
    · rcases hgh.newer i c hge hc with ht | ht
      · exact hfg.entry _ _ ht
      · exact Or.inr (hfg.tasks_le.trans ht)

lemma enter (f : Flight κ δ ρ) (k : κ) (d : δ) : Later f (f.enter k d) where
  settled t j r ht := WellFormed.tasks_enter f k d ht
  tasks_le := by
    cases hk : f.entries.get k with
    | some t => rw [enter_joins hk]
    | none => rw [enter_starts hk]; simp
  calls_le := by
    obtain ⟨t, creator, hcalls⟩ := calls_enter f k d
    rw [hcalls, List.length_append]
    exact Nat.le_add_right _ _
  entry j t ht := by
    cases hk : f.entries.get k with
    | some u =>
        rw [enter_joins hk] at ht
        exact Or.inl ht
    | none =>
        rw [enter_starts hk, OrdMap.get_set] at ht
        split at ht
        next => exact Or.inr (le_of_eq (Option.some.inj ht))
        next => exact Or.inl ht
  call i c hc := by
    obtain ⟨t, creator, hcalls⟩ := calls_enter f k d
    have hlt := (List.getElem?_eq_some_iff.mp hc).1
    exact ⟨c.result, by rw [hcalls, List.getElem?_append_left hlt, hc]⟩
  returned i c r hc _ := by
    obtain ⟨t, creator, hcalls⟩ := calls_enter f k d
    rw [hcalls, List.getElem?_append_left (List.getElem?_eq_some_iff.mp hc).1, hc]
  newer i c hi hc := by
    cases hk : f.entries.get k with
    | some t =>
        rw [enter_joins hk, List.getElem?_append_right hi] at hc
        obtain rfl := List.mem_singleton.mp (List.mem_of_getElem? hc)
        exact Or.inl hk
    | none =>
        rw [enter_starts hk, List.getElem?_append_right hi] at hc
        obtain rfl := List.mem_singleton.mp (List.mem_of_getElem? hc)
        exact Or.inr le_rfl

lemma advance (f : Flight κ δ ρ) {t : ℕ} {k : κ} {d : δ} (s : Status δ ρ)
    (ht : f.running t = some (k, d)) : Later f (f.advance t s) where
  settled u j r hu := by
    have hne : t ≠ u := by
      rintro rfl
      rw [running_eq_some, hu] at ht
      cases ht
    rw [WellFormed.tasks_advance f ht, if_neg hne, hu]
  tasks_le := by rw [Flight.advance, List.length_modify]
  calls_le := le_rfl
  entry _ _ hu := Or.inl hu
  call _ c hc := ⟨c.result, hc⟩
  returned _ _ _ hc _ := hc
  newer _ _ hi hc := absurd (List.getElem?_eq_some_iff.mp hc).1 (not_lt.mpr hi)

lemma of_enters {P : κ → δ → Prop} (hfg : Enters P f g) : Later f g := by
  induction hfg with
  | refl => exact .refl f
  | enter _ k d _ ih => exact ih.trans (enter _ k d)

lemma leave {c : ℕ} (hleave : f.leave c = some g) : Later f g := by
  obtain ⟨k, k', t, creator, r, hc, ht, rfl⟩ := leave_eq_some hleave
  refine ⟨fun _ _ _ hu => hu, le_rfl, by rw [List.length_set], fun j u hu => Or.inl ?_,
    fun i b hb => ?_, fun i b r' hb hr' => ?_, fun i b hi hb => ?_⟩
  · cases creator with
    | false => exact hu
    | true =>
        simp only [if_true] at hu
        rw [OrdMap.get_erase] at hu
        split at hu
        next => cases hu
        next => exact hu
  · by_cases hci : c = i
    · subst hci
      rw [hc] at hb
      obtain rfl := Option.some.inj hb
      exact ⟨some r, List.getElem?_set_self (List.getElem?_eq_some_iff.mp hc).1⟩
    · exact ⟨b.result, by rw [List.getElem?_set_ne hci, hb]⟩
  · have hci : c ≠ i := by
      rintro rfl
      rw [hc] at hb
      obtain rfl := Option.some.inj hb
      cases hr'
    rw [List.getElem?_set_ne hci, hb]
  · have hlt := (List.getElem?_eq_some_iff.mp hb).1
    rw [List.length_set] at hlt
    exact absurd hlt (not_lt.mpr hi)

end Later

end Flight
