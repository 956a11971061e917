import Merossity.Poller.SingleFlight

/-!
What a refresh answers for the devices that it names.

* `PollNow.Serves` is the invariant of a call of `pollNow`: a device that it names is in its queue,
  or a worker awaits a poll of it, or its outcome has been collected.
* `outcome_of_named`: when the call has returned, there is an outcome for every device that it
  names.
-/

namespace Merossity

open Js Machine

/-- The devices that a call of `pollNow` names. -/
def PollOptions.named (options : PollOptions) : List String :=
  match options.uuids with
  | some uuids => (uuids.map trim).filter (· ≠ "")
  | none => []

/-- The devices that are polled are those that are named, if there are any. -/
lemma Poller.requestedUuids_of_named {options : PollOptions} {u : String}
    (hu : u ∈ options.named) (p : Poller) :
    u ∈ p.requestedUuids options ∧ "" ∉ p.requestedUuids options := by
  obtain ⟨uuids, reason, timeoutMs⟩ := options
  match uuids, hu with
  | some (uuid :: uuids), hu =>
      refine ⟨List.mem_eraseDups.mpr hu, fun hempty => ?_⟩
      have hne := (List.mem_filter.mp (List.mem_eraseDups.mp hempty)).2
      exact absurd rfl (of_decide_eq_true hne)

/-- A call of `pollNow` serves a device that it names. -/
def PollNow.Serves (f : Flight String PollTask PollResult) (q : PollNow) (u : String) : Prop :=
  match q.phase with
  | .syncing | .synced => True
  | .polling queue workers => "" ∉ queue ∧ workers ≠ [] ∧ (.finished ∈ workers → queue = []) ∧
      (u ∈ queue ∨ (∃ c call, .awaiting c ∈ workers ∧ f.calls[c]? = some call ∧ call.key = u) ∨
        ∃ r, q.Collected r ∧ r.uuid = u)
  | .returned _ => ∃ r, q.Collected r ∧ r.uuid = u

lemma PollNow.serves_of_polling {f : Flight String PollTask PollResult} {q : PollNow} {u : String}
    {queue : List String} {workers : List Worker} (hphase : q.phase = .polling queue workers) :
    q.Serves f u ↔ "" ∉ queue ∧ workers ≠ [] ∧ (.finished ∈ workers → queue = []) ∧
      (u ∈ queue ∨ (∃ c call, .awaiting c ∈ workers ∧ f.calls[c]? = some call ∧ call.key = u) ∨
        ∃ r, q.Collected r ∧ r.uuid = u) := by
  rw [PollNow.Serves, hphase]

lemma PollNow.Serves.mono {f g : Flight String PollTask PollResult} {q : PollNow} {u : String}
    (hq : q.Serves f u) (h : f.Later g) : q.Serves g u := by
  rw [PollNow.Serves] at hq ⊢
  split at hq
  next => trivial
  next => trivial
  next queue workers _ =>
    obtain ⟨hempty, hworkers, hended, hserved⟩ := hq
    refine ⟨hempty, hworkers, hended, hserved.imp_right (Or.imp_left ?_)⟩
    rintro ⟨c, call, hc, hcall, hkey⟩
    obtain ⟨r, hr⟩ := h.call c call hcall
    exact ⟨c, _, hc, hr, hkey⟩
  next => exact hq

namespace Poller

/-- What is awaited after a worker goes on was awaited before, or it is the call of that worker. -/
lemma mem_set_of_mem {workers : List Worker} {w c c' : ℕ} (worker : Worker)
    (hw : workers[w]? = some (.awaiting c)) (hc' : .awaiting c' ∈ workers) :
    .awaiting c' ∈ workers.set w worker ∨ c' = c := by
  obtain ⟨i, hi⟩ := List.mem_iff_getElem?.mp hc'
  by_cases hiw : w = i
  · subst hiw
    rw [hw] at hi
    exact Or.inr (Worker.awaiting.inj (Option.some.inj hi)).symm
  · exact Or.inl (List.mem_of_getElem? ((List.getElem?_set_ne hiw).trans hi))

/-- When all workers have ended, no call is awaited. -/
lemma not_awaiting_of_allFinished {workers : List Worker} (h : allFinished workers = true) (c : ℕ) :
    .awaiting c ∉ workers := by
  intro hc
  have hfinished := List.all_eq_true.mp h _ hc
  cases hfinished

lemma finished_of_allFinished {workers : List Worker} (h : allFinished workers = true)
    (hne : workers ≠ []) : .finished ∈ workers := by
  obtain ⟨worker, rest, rfl⟩ := List.exists_cons_of_ne_nil hne
  cases worker with
  | finished => exact List.mem_cons_self
  | awaiting c => exact absurd List.mem_cons_self (not_awaiting_of_allFinished h c)

variable [Runtime] {p p' : Poller} {a : Act}

lemma Proceeds.options_eq {q q' : PollNow} (h : Proceeds p p' q q') : q'.options = q.options := by
  cases h with
  | works queue queue' workers w c worker r => cases r <;> rfl
  | _ => rfl

/-- A step keeps a device served. -/
lemma serves_step {q q' : PollNow} {u : String} (hf : p.inFlight.WellFormed) (hkeyed : p.Keyed)
    (hlater : p.inFlight.Later p'.inFlight) (hu : u ∈ q.options.named)
    (hserves : q.Serves p.inFlight u) (h : Proceeds p p' q q') : q'.Serves p'.inFlight u := by
  have hmono := hserves.mono hlater
  cases h with
  | stays => exact hmono
  | syncs => exact trivial
  | starts i now queue workers hphase hstart htakes hworkers =>
      obtain ⟨hrequested, hempty⟩ := p.requestedUuids_of_named hu
      exact ⟨fun hmem => hempty (htakes.rest hmem), hworkers, htakes.ended hempty,
        (htakes.taken hempty u hrequested).imp_right Or.inl⟩
  | works queue queue' workers w c worker r hphase hw hc htakes =>
      obtain ⟨hempty, hworkers, hended, hserved⟩ := (PollNow.serves_of_polling hphase).mp hserves
      refine ⟨fun hmem => hempty (htakes.rest hmem), ?_, htakes.set_ended hempty hended, ?_⟩
      · exact fun hnil => hworkers ((List.set_eq_nil_iff w worker).mp hnil)
      · obtain ⟨hlt, -⟩ := List.getElem?_eq_some_iff.mp hw
        have hnew : worker ∈ workers.set w worker := List.mem_set hlt worker
        rcases hserved with hqueue | ⟨c', call, hc', hcall, hkey⟩ | ⟨r', hr', huuid⟩
        · rcases htakes.taken hempty u hqueue with hqueue | ⟨c', call, hc', hcall, hkey⟩
          · exact Or.inl hqueue
          · exact Or.inr (Or.inl ⟨c', call, List.mem_singleton.mp hc' ▸ hnew, hcall, hkey⟩)
        · rcases mem_set_of_mem worker hw hc' with hc' | rfl
          · obtain ⟨r', hr'⟩ := hlater.call c' call hcall
            exact Or.inr (Or.inl ⟨c', _, hc', hr', hkey⟩)
          · -- the outcome of the call that was awaited is collected
            obtain ⟨call', hcall', hres⟩ := Option.bind_eq_some_iff.mp hc
            obtain rfl := Option.some.inj (hcall.symm.trans hcall')
            have htask := hf.result call (List.mem_of_getElem? hcall) r hres
            exact Or.inr (Or.inr ⟨r, collected_collect.mpr (Or.inr rfl),
              (hkeyed.result _ _ r htask).trans hkey⟩)
        · exact Or.inr (Or.inr ⟨r', collected_collect.mpr (Or.inl hr'), huuid⟩)
  | returns queue workers now hphase hall =>
      obtain ⟨-, hworkers, hended, hserved⟩ := (PollNow.serves_of_polling hphase).mp hserves
      have hqueue := hended (finished_of_allFinished hall hworkers)
      rcases hserved with hmem | ⟨c, call, hc, -⟩ | hcollected
      · rw [hqueue] at hmem
        cases hmem
      · exact absurd hc (not_awaiting_of_allFinished hall c)
      · exact hcollected

/-- Every call of `pollNow` serves the devices that it names. -/
lemma Reachable.serves {file : FileText} (h : p.Reachable file) (q : PollNow) (hq : q ∈ p.pollNows)
    (u : String) (hu : u ∈ q.options.named) : q.Serves p.inFlight u := by
  have hinv : p.FlightsInv ∧ p.Keyed ∧ ∀ q ∈ p.pollNows, ∀ u ∈ q.options.named,
      q.Serves p.inFlight u := by
    refine h.invariant (I := fun p => p.FlightsInv ∧ p.Keyed ∧ ∀ q ∈ p.pollNows,
      ∀ u ∈ q.options.named, q.Serves p.inFlight u)
      ⟨⟨Flight.wellFormed_empty, Flight.wellFormed_empty⟩, keyed_init file, by simp [init]⟩ ?_
    rintro p a p' ⟨hf, hkeyed, hserves⟩ - hstep
    refine ⟨hf.step hstep, hkeyed.step hstep, fun q' hq' u hu => ?_⟩
    rcases mem_pollNows_step hstep hq' with ⟨q, hq, hproceeds⟩ | ⟨options, -, rfl⟩
    · have hu' := hproceeds.options_eq ▸ hu
      exact serves_step hf.1 hkeyed (step_later hstep) hu' (hserves q hq u hu') hproceeds
    · exact trivial
  exact hinv.2.2 q hq u hu

/-- **Every named device gets an answer.** When a call of `pollNow` has returned, it has collected
an outcome for every device that it names. -/
theorem Reachable.outcome_of_named {file : FileText} (h : p.Reachable file) {q : PollNow}
    (hq : q ∈ p.pollNows) {now : ℤ} (hphase : q.phase = .returned now) {u : String}
    (hu : u ∈ q.options.named) : ∃ r, q.Collected r ∧ r.uuid = u := by
  have hserves := h.serves q hq u hu
  rwa [PollNow.Serves, hphase] at hserves

end Poller

end Merossity
