import Merossity.Poller.Readings
import Merossity.Poller.Refreshes
import Merossity.Poller.Tracked

/-!
Devices without a host entry.

* `Surveyed` is the poller with all devices that have had a host entry so far.
* `Surveyed.Inv`: a poll ends with a reading only if its device has had a host entry, so that a
  refresh answers with an error for the others.
* `tracks_configured_iff`: along a run the poller tracks only devices that have had a host entry
  if and only if it is only asked to poll and to boost such devices. `tracks_ghost` is a run in
  which it is asked for another one.
-/

namespace Merossity

open Js Machine

namespace Poller

variable [Runtime]

/-- A poll goes on after it has read the configuration only if its device has a host entry. -/
lemma mem_hostsIn_of_resume {p : Poller} {uuid : String} {timeoutMs : Option Number}
    {reply : (c : Call) → Reply c} {prog : Prog Call Reply (Except JsError DeviceReading)}
    (h : p.resume reply (readDevice uuid timeoutMs).run = some prog) :
    uuid ∈ hostsIn p.file ∨ ∃ e, prog = .ret (.error e) := by
  have hread : prog = (do
      let host ← requireHost (loadMerossConfig p.file) uuid
      let key ← requireLanKey
      let resp ← getSystemAll (.str host) key (some (timeoutMs.getD (.fin DEFAULT_POLL_TIMEOUT_MS)))
      eval (deviceReading host resp) : Async DeviceReading).run := (Option.some.inj h).symm
  rw [requireHost] at hread
  cases hknown : knownHostOf (hostOf (loadMerossConfig p.file) uuid) with
  | none =>
      rw [hknown] at hread
      exact Or.inr ⟨_, hread⟩
  | some known =>
      left
      rw [hostOf_eq] at hknown
      by_contra hnot
      rw [Assoc.get_eq_none_iff.mpr hnot] at hknown
      cases hknown

/-- What a step is asked to track, it tracks. -/
lemma has_of_asked {p p' : Poller} {a : Act} (hp : p.Rooted) (h : p.step a = some p') {u : String}
    (hu : u ∈ p.asked a) : p'.metaByUuid.has u = true := by
  cases stretch_of_step h with
  | boostDevice uuid now =>
      rw [asked] at hu
      split at hu
      next => cases hu
      next hne =>
        obtain rfl := List.mem_singleton.mp hu
        rw [has_boostMeta, Bool.or_eq_true, decide_eq_true_eq]
        exact Or.inl ⟨hne, rfl⟩
  | pollNowStarts i now q hq hphase =>
      obtain ⟨options, phase, states, errors⟩ := q
      obtain rfl : phase = .synced := hphase
      simp only [asked, hq] at hu
      exact has_of_requested hp hu
  | _ => cases hu

/-- Only a step that can be taken asks for devices. -/
lemma asked_eq_nil_of_step_eq_none {p : Poller} {a : Act} (h : p.step a = none) :
    p.asked a = [] := by
  cases a with
  | boostDevice uuid now => cases h
  | pollNowStarts i now =>
      rw [asked]
      split
      next hq =>
        simp only [step, hq] at h
        cases h
      next => rfl
  | _ => rfl

end Poller

/-- The poller, with the devices that have had a host entry so far. -/
structure Surveyed where
  poller : Poller
  hosts : List String

namespace Surveyed

def init (file : FileText) : Surveyed := ⟨.init file, hostsIn file⟩

/-- The poller tracks only devices that have had a host entry, and a refresh answers with an error
for the others. -/
structure TracksConfigured (s : Surveyed) : Prop where
  states : ∀ u, s.poller.stateByUuid.has u = true → u ∈ s.hosts
  metas : ∀ u, s.poller.metaByUuid.has u = true → u ∈ s.hosts
  sent : ∀ id sent, s.poller.subscribers.get id = some sent → ∀ e ∈ sent, ∀ u ∈ e.uuids,
    u ∈ s.hosts
  recoveries : ∀ r ∈ s.poller.recoveries, r.uuid ∈ s.hosts
  errors : ∀ q ∈ s.poller.pollNows, ∀ u ∈ q.options.named, u ∉ s.hosts →
    (∀ r ∈ q.states, r.uuid ≠ u) ∧
      ∀ now, q.phase = .returned now → ∃ e ∈ q.errors, e.uuid = u

/-- A step is asked only for devices that have had a host entry. -/
def Requests (s : Surveyed) (a : Act) : Prop := ∀ u ∈ s.poller.asked a, u ∈ s.hosts

variable [Runtime]

def step (s : Surveyed) (a : Act) : Option Surveyed :=
  (s.poller.step a).map fun p => ⟨p, s.hosts ++ hostsIn p.file⟩

/-- A step leads to a state in which the poller tracks only such devices. -/
def KeepsConfigured (s : Surveyed) (a : Act) : Prop :=
  ∀ s', s.step a = some s' → s'.TracksConfigured

/-- What holds whatever the poller is asked for: a poll that has read the configuration and goes on,
or has ended with a reading, is of a device with a host entry. -/
structure Inv (file : FileText) (s : Surveyed) : Prop where
  reachable : s.poller.Reachable file
  rooted : s.poller.Rooted
  file : ∀ u ∈ hostsIn s.poller.file, u ∈ s.hosts
  running : ∀ (t : ℕ) u task, s.poller.inFlight.running t = some (u, task) →
    Poller.StateTask u task ∨ u ∈ s.hosts
  settled : ∀ (t : ℕ) u r, s.poller.inFlight.tasks[t]? = some ⟨u, .settled (.state r)⟩ → u ∈ s.hosts
  answers : ∀ q ∈ s.poller.pollNows, ∀ r ∈ q.states, r.uuid ∈ s.hosts

lemma inv_init (file : FileText) : (init file).Inv file where
  reachable := .refl
  rooted := Poller.rooted_init file
  file _ hu := hu
  running _ _ _ ht := by cases ht
  settled _ _ _ ht := by cases ht
  answers _ hq := by cases hq

namespace Inv

variable {file : FileText} {s s' : Surveyed} {a : Act}

/-- A poll that ends with a reading is of a device with a host entry. -/
lemma mem_of_completion (hs : s.Inv file) {c : Completion} (hc : s.poller.completion a = some c)
    {reading : DeviceReading} (hok : c.outcome = .ok reading) : c.uuid ∈ s.hosts := by
  obtain ⟨reply, random, task, -, ht, hresume, -, -⟩ := Poller.completion_eq_some hc
  rcases hs.running c.task c.uuid task ht with ⟨timeoutMs, hprog⟩ | hmem
  · rw [hprog] at hresume
    rcases Poller.mem_hostsIn_of_resume hresume with hmem | ⟨e, he⟩
    · exact hs.file c.uuid hmem
    · rw [hok] at he
      cases he
  · exact hmem

/-- An outcome that is not an error is of a device with a host entry. -/
lemma mem_of_result (hs : s.Inv file) {c : ℕ} {r : DeviceStateDto}
    (hc : (s.poller.inFlight.calls[c]?).bind Flight.Call.result = some (.state r)) :
    r.uuid ∈ s.hosts := by
  obtain ⟨call, hcall, hres⟩ := Option.bind_eq_some_iff.mp hc
  have htask := hs.reachable.flightsInv.1.result call (List.mem_of_getElem? hcall) _ hres
  have hkey : r.uuid = call.key := hs.rooted.keyed.result _ _ _ htask
  exact hkey ▸ hs.settled call.task call.key r htask

lemma step (hs : s.Inv file) (h : s.step a = some s') : s'.Inv file := by
  obtain ⟨p', hp', rfl⟩ := Option.map_eq_some_iff.mp h
  have hold : ∀ u ∈ s.hosts, u ∈ s.hosts ++ hostsIn p'.file := fun u hu =>
    List.mem_append_left _ hu
  refine ⟨hs.reachable.tail a trivial hp', hs.rooted.step hp',
    fun u hu => List.mem_append_right _ hu, fun t u task ht => ?_, fun t u r ht => ?_,
    fun q' hq' r hr => hold _ ?_⟩
  · -- a poll that goes on has found its host, or has found it before
    refine Poller.running_step (P := fun u prog => (∃ timeoutMs, prog =
      (readDevice u timeoutMs).run) ∨ u ∈ s.hosts ++ hostsIn p'.file)
      (fun u timeoutMs => Or.inl ⟨timeoutMs, rfl⟩)
      (fun t reply _ _ u task prog _ _ hprog hresume hret => ?_)
      (fun t u task ht => (hs.running t u task ht).imp_right (hold u)) hp' t u task ht
    rcases hprog with ⟨timeoutMs, hstart⟩ | hmem
    · rw [hstart] at hresume
      rcases Poller.mem_hostsIn_of_resume hresume with hmem | ⟨e, he⟩
      · exact Or.inr (hold u (hs.file u hmem))
      · exact absurd he (hret _)
    · exact Or.inr hmem
  · rcases Poller.settled_step hp' ht with ht | ⟨c, hc, -, rfl, hr⟩
    · exact hold u (hs.settled t u r ht)
    · rw [Poller.resultOf] at hr
      split at hr
      next reading hok => exact hold _ (hs.mem_of_completion hc hok)
      next => cases hr
  · rcases Poller.mem_pollNows_step hp' hq' with ⟨q, hq, hproceeds⟩ | ⟨options, -, rfl⟩
    · cases hproceeds with
      | works queue queue' workers w c worker r' hphase hw hc htakes =>
          have hcollected : (Poller.collect q r').Collected (.state r) := hr
          rcases Poller.collected_collect.mp hcollected with hr | rfl
          · exact hs.answers q hq r hr
          · exact hs.mem_of_result hc
      | _ => exact hs.answers _ hq r hr
    · cases hr

/-- What the poller tracks has a meta. -/
lemma tracksConfigured (hs : s.Inv file)
    (hmetas : ∀ u, s.poller.metaByUuid.has u = true → u ∈ s.hosts) : s.TracksConfigured where
  states u hu := by
    obtain ⟨r, hr⟩ := (OrdMap.has_iff _).mp hu
    exact hmetas u (hs.rooted.states u r hr)
  metas := hmetas
  sent id sent hsent e he u hu := hmetas u (hs.rooted.sent id sent hsent e he u hu)
  recoveries r hr := hmetas r.uuid (hs.rooted.recoveries r.uuid (List.mem_map_of_mem hr))
  errors q hq u hu hnot := by
    have hstates : ∀ r ∈ q.states, r.uuid ≠ u := fun r hr huuid =>
      hnot (huuid ▸ hs.answers q hq r hr)
    refine ⟨hstates, fun now hphase => ?_⟩
    obtain ⟨r, hr, huuid⟩ := hs.reachable.outcome_of_named hq hphase hu
    cases r with
    | state r => exact absurd huuid (hstates r hr)
    | error e => exact ⟨e, hr, huuid⟩

/-- A step that is asked only for devices with a host entry tracks no others. -/
lemma metas_step (hs : s.Inv file)
    (hmetas : ∀ u, s.poller.metaByUuid.has u = true → u ∈ s.hosts) (hrequests : s.Requests a)
    (h : s.step a = some s') (u : String) (hu : s'.poller.metaByUuid.has u = true) :
    u ∈ s'.hosts := by
  obtain ⟨p', hp', rfl⟩ := Option.map_eq_some_iff.mp h
  refine List.mem_append_left _ ?_
  rcases (Poller.metas_step hs.rooted hp' u).2 hu with hu | hu | hu
  · exact hmetas u hu
  · exact hrequests u hu
  · exact hs.file u hu

/-- Conversely, what a step is asked for it tracks. -/
lemma requests_of_keeps (hs : s.Inv file) (h : s.KeepsConfigured a) : s.Requests a := by
  intro u hu
  cases hp' : s.poller.step a with
  | none =>
      rw [Poller.asked_eq_nil_of_step_eq_none hp'] at hu
      cases hu
  | some p' =>
      have hmem := (h ⟨p', _⟩ (by rw [Surveyed.step, hp']; rfl)).metas u
        (Poller.has_of_asked hs.rooted hp' hu)
      have hfile : p'.file = s.poller.file := by
        cases Poller.stretch_of_step hp' with
        | boostDevice => rfl
        | pollNowStarts i now q =>
            obtain ⟨_, _, _, ⟨f, tf, metas, -, -, rfl⟩, -, heq⟩ :=
              Poller.startPollNow_eq s.poller i q now
            rw [heq]
            rfl
        | _ => cases hu
      rcases List.mem_append.mp hmem with hmem | hmem
      · exact hmem
      · exact hs.file u (hfile ▸ hmem)

end Inv

/-- The steps of a run keep to configured devices exactly if their requests do. -/
lemma along_keepsConfigured_iff {file : FileText} (acts : List Act) : ∀ s : Surveyed, s.Inv file →
    (∀ u, s.poller.metaByUuid.has u = true → u ∈ s.hosts) →
      (Along step KeepsConfigured acts s ↔ Along step Requests acts s) := by
  induction acts with
  | nil => exact fun _ _ _ => Iff.rfl
  | cons a acts ih =>
      intro s hs hmetas
      have hiff : s.KeepsConfigured a ↔ s.Requests a := by
        refine ⟨hs.requests_of_keeps, fun hrequests s' h => ?_⟩
        exact (hs.step h).tracksConfigured (hs.metas_step hmetas hrequests h)
      rw [Along, Along, hiff]
      refine and_congr_right fun hrequests => ?_
      cases h : s.step a with
      | none => exact Iff.rfl
      | some s' => exact ih s' (hs.step h) (hs.metas_step hmetas hrequests h)

end Surveyed

/-- **The poller tracks configured devices**: along a run every step leads to a state in which the
poller tracks only devices that have had a host entry, and in which a refresh answers with an error
for the others, exactly when no step is asked to poll or to boost another device. -/
theorem tracks_configured_iff [Runtime] (file : FileText) (acts : List Act) :
    Along Surveyed.step Surveyed.KeepsConfigured acts (Surveyed.init file) ↔
      Along Surveyed.step Surveyed.Requests acts (Surveyed.init file) :=
  Surveyed.along_keepsConfigured_iff acts _ (Surveyed.inv_init file) fun _ hu => by cases hu

/-- The `n`-th call of `pollNow` names a device without a host entry. -/
def ghostRefresh (n : ℕ) (now : ℤ) : List Act :=
  [.pollNow (refreshOptions "ghost"), .pollNowSyncs n now, .pollNowStarts n now,
    .pollGoesOn n silence now 0, .pollReturns n, .workerGoesOn n 0 now, .pollNowReturns n now]

/-- A device without a host entry is polled three times. It has a meta and a state, a subscriber is
sent the state, and the third failure starts a recovery. -/
theorem tracks_ghost : let _ := plainRuntime; ∃ s,
    Reaches Surveyed.step Always (Surveyed.init plugConfig) s ∧ "ghost" ∉ s.hosts ∧
      s.poller.metaByUuid.has "ghost" = true ∧ s.poller.stateByUuid.has "ghost" = true ∧
      (∃ sent, s.poller.subscribers.get 1 = some sent ∧ ∃ e ∈ sent, "ghost" ∈ e.uuids) ∧
      s.poller.recoveries.map Recovery.uuid = ["ghost"] ∧ ¬ s.TracksConfigured := by
  let _ := plainRuntime
  have hrun : (run Surveyed.step (.connect :: (ghostRefresh 0 6000 ++ ghostRefresh 1 6000
      ++ ghostRefresh 2 6000)) (Surveyed.init plugConfig)).map (fun s =>
        (s.hosts.contains "ghost", s.poller.metaByUuid.has "ghost",
          s.poller.stateByUuid.has "ghost",
          (s.poller.subscribers.get 1).map fun sent => sent.any fun e => e.uuids.contains "ghost",
          s.poller.recoveries.map Recovery.uuid)) =
      some (false, true, true, some true, ["ghost"]) := by decide +kernel
  obtain ⟨s, hs, hend⟩ := Option.map_eq_some_iff.mp hrun
  simp only [Prod.mk.injEq] at hend
  obtain ⟨hhosts, hmeta, hstate, hsent, hrecovery⟩ := hend
  have hghost : "ghost" ∉ s.hosts := fun hmem => by simp [hmem] at hhosts
  obtain ⟨sent, hget, hany⟩ := Option.map_eq_some_iff.mp hsent
  obtain ⟨e, he, hcontains⟩ := List.any_eq_true.mp hany
  exact ⟨s, reaches_run _ (along_always _ _) hs, hghost, hmeta, hstate,
    ⟨sent, hget, e, he, List.contains_iff_mem.mp hcontains⟩, hrecovery,
    fun htracks => hghost (htracks.metas "ghost" hmeta)⟩

end Merossity
