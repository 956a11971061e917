import Merossity.Lib.Throttle
import Merossity.Poller.Metas
import Merossity.Poller.SingleFlight
import Merossity.Poller.Store

/-!
The recovery of hosts.

* `Ledger` is what the guards of `tryResolveHost` and its caller depend on. `ledger_step`: a step
  changes it as the poll that ends in it demands, or the recovery that ends in it.
* `Timed` is the poller with a log of the polls that ended and of the recoveries that started,
  and with the time of its clock.
* `recoveries_throttled`: of a device at most one recovery is under way, it starts at a failed
  poll which is at least the third one in a row, its mark is released whatever its outcome, and
  the starts are a cooldown apart. A start at the time `0` is the exception: `lastResolveAttemptAt`
  is tested for truth, and `recovers_twice` is a run with such a start.
-/

namespace Merossity

open Js Machine
open Versions (ofKey)

/-! ### The ledger -/

/-- A poll that ends has failed. -/
def Completion.failed (c : Completion) : Bool :=
  match c.outcome with
  | .ok _ => false
  | .error _ => true

/-- What decides on recoveries: the failures that are counted of a device, the last attempt, the
marks, and the devices of the recoveries under way. -/
@[ext]
structure Ledger where
  failures : String → ℕ
  lastAttempt : String → Option ℤ
  resolving : List String
  recovering : List String

namespace Ledger

/-- A poll is counted. -/
def count (l : Ledger) (uuid : String) (failed : Bool) : Ledger :=
  { l with failures := fun key =>
      if uuid = key then (if failed then l.failures key + 1 else 0) else l.failures key }

/-- A recovery starts. -/
def recover (l : Ledger) (uuid : String) (now : ℤ) : Ledger :=
  { l with
    lastAttempt := fun key => if uuid = key then some now else l.lastAttempt key
    resolving := l.resolving ++ [uuid]
    recovering := l.recovering ++ [uuid] }

/-- The guards of a recovery. -/
def mayRecover (l : Ledger) (uuid : String) (now : ℤ) : Bool :=
  !l.resolving.contains uuid && !isWithin (l.lastAttempt uuid) now RESOLVE_COOLDOWN_MS

/-- A poll that ends starts a recovery. -/
def startsRecovery (l : Ledger) (c : Completion) : Bool :=
  c.failed && 3 ≤ l.failures c.uuid + 1 && l.mayRecover c.uuid c.now

/-- A poll ends. -/
def poll (l : Ledger) (c : Completion) : Ledger :=
  if l.startsRecovery c then (l.count c.uuid c.failed).recover c.uuid c.now
  else l.count c.uuid c.failed

/-- A recovery ends. -/
def finish (l : Ledger) (i : ℕ) (uuid : String) : Ledger :=
  { l with resolving := l.resolving.filter (· ≠ uuid), recovering := l.recovering.eraseIdx i }

end Ledger

def failuresOf (metas : OrdMap String PollMeta) (uuid : String) : ℕ :=
  ((metas.get uuid).map PollMeta.failureCount).getD 0

def lastAttemptOf (metas : OrdMap String PollMeta) (uuid : String) : Option ℤ :=
  (metas.get uuid).bind PollMeta.lastResolveAttemptAt

section Metas

variable (metas : OrdMap String PollMeta) (uuid : String) (now : ℤ)

@[simp] lemma failuresOf_ensureMeta :
    failuresOf (ensureMeta metas uuid now) = failuresOf metas := by
  funext key
  rw [failuresOf, failuresOf, get_ensureMeta]
  split_ifs
  · cases metas.get key <;> rfl
  · rfl

@[simp] lemma lastAttemptOf_ensureMeta :
    lastAttemptOf (ensureMeta metas uuid now) = lastAttemptOf metas := by
  funext key
  rw [lastAttemptOf, lastAttemptOf, get_ensureMeta]
  split_ifs
  · cases metas.get key <;> rfl
  · rfl

/-- A change that leaves the counter alone. -/
lemma failuresOf_modifyMeta {f : PollMeta → PollMeta}
    (hf : ∀ pm, (f pm).failureCount = pm.failureCount) :
    failuresOf (modifyMeta metas uuid f) = failuresOf metas := by
  funext key
  rw [failuresOf, failuresOf, get_modifyMeta]
  split_ifs
  · cases metas.get key with
    | some pm => exact hf pm
    | none => rfl
  · rfl

/-- A change that leaves the last attempt alone. -/
lemma lastAttemptOf_modifyMeta {f : PollMeta → PollMeta}
    (hf : ∀ pm, (f pm).lastResolveAttemptAt = pm.lastResolveAttemptAt) :
    lastAttemptOf (modifyMeta metas uuid f) = lastAttemptOf metas := by
  funext key
  rw [lastAttemptOf, lastAttemptOf, get_modifyMeta]
  split_ifs
  · cases metas.get key with
    | some pm => exact hf pm
    | none => rfl
  · rfl

@[simp] lemma failuresOf_boostMeta :
    failuresOf (boostMeta metas uuid now) = failuresOf metas := by
  rw [boostMeta]
  split_ifs
  · rfl
  · rw [failuresOf_modifyMeta _ _ (by exact fun _ => rfl), failuresOf_ensureMeta]

@[simp] lemma lastAttemptOf_boostMeta :
    lastAttemptOf (boostMeta metas uuid now) = lastAttemptOf metas := by
  rw [boostMeta]
  split_ifs
  · rfl
  · rw [lastAttemptOf_modifyMeta _ _ (by exact fun _ => rfl), lastAttemptOf_ensureMeta]

lemma failuresOf_foldl_ensureMeta {α : Type} (hosts : List (String × α)) :
    ∀ metas, failuresOf (hosts.foldl (fun m e => ensureMeta m e.1 now) metas) =
      failuresOf metas := by
  induction hosts with
  | nil => exact fun _ => rfl
  | cons e hosts ih => exact fun metas => (ih _).trans (failuresOf_ensureMeta metas e.1 now)

lemma lastAttemptOf_foldl_ensureMeta {α : Type} (hosts : List (String × α)) :
    ∀ metas, lastAttemptOf (hosts.foldl (fun m e => ensureMeta m e.1 now) metas) =
      lastAttemptOf metas := by
  induction hosts with
  | nil => exact fun _ => rfl
  | cons e hosts ih => exact fun metas => (ih _).trans (lastAttemptOf_ensureMeta metas e.1 now)

end Metas

namespace Poller

def ledger (p : Poller) : Ledger where
  failures := failuresOf p.metaByUuid
  lastAttempt := lastAttemptOf p.metaByUuid
  resolving := p.resolving
  recovering := p.recoveries.map Recovery.uuid

/-- Only the metas, the marks and the recoveries count. -/
lemma ledger_congr {p q : Poller} (hfailures : failuresOf p.metaByUuid = failuresOf q.metaByUuid)
    (hattempts : lastAttemptOf p.metaByUuid = lastAttemptOf q.metaByUuid)
    (hresolving : p.resolving = q.resolving)
    (hrecovering : p.recoveries.map Recovery.uuid = q.recoveries.map Recovery.uuid) :
    p.ledger = q.ledger := by
  rw [ledger, ledger, hfailures, hattempts, hresolving, hrecovering]

/-- A change of the metas that a failure count and an attempt survive. -/
lemma ledger_modifyMeta {p q : Poller} {uuid : String} {f : PollMeta → PollMeta}
    (hmetas : q.metaByUuid = modifyMeta p.metaByUuid uuid f)
    (hfailures : ∀ pm, (f pm).failureCount = pm.failureCount)
    (hattempts : ∀ pm, (f pm).lastResolveAttemptAt = pm.lastResolveAttemptAt)
    (hresolving : q.resolving = p.resolving) (hrecoveries : q.recoveries = p.recoveries) :
    q.ledger = p.ledger :=
  ledger_congr (by rw [hmetas, failuresOf_modifyMeta _ _ hfailures])
    (by rw [hmetas, lastAttemptOf_modifyMeta _ _ hattempts]) hresolving (by rw [hrecoveries])

lemma ledger_syncKnownHosts (p : Poller) (now : ℤ) : (p.syncKnownHosts now).ledger = p.ledger :=
  ledger_congr (failuresOf_foldl_ensureMeta now _ _) (lastAttemptOf_foldl_ensureMeta now _ _)
    rfl rfl

/-- Starting polls leaves the ledger alone. -/
lemma ledger_enlists [Runtime] {P : String → Prop} {p q : Poller} (h : Enlists P p q) :
    q.ledger = p.ledger := by
  induction h with
  | refl => rfl
  | @poll q _ uuid _ reason timeoutMs now ih =>
      rw [← ih]
      refine ledger_congr ?_ ?_ rfl rfl
      · rw [pollDevice]
        split_ifs <;> simp
      · rw [pollDevice]
        split_ifs <;> simp
  | @telemetry q _ uuid _ reason timeoutMs now ih =>
      rw [← ih]
      refine ledger_congr ?_ ?_ rfl rfl
      · rw [pollTelemetry]
        split_ifs <;> simp
      · rw [pollTelemetry]
        split_ifs <;> simp
  | boost _ uuid _ now ih =>
      rw [← ih]
      exact ledger_congr (failuresOf_boostMeta _ uuid now) (lastAttemptOf_boostMeta _ uuid now)
        rfl rfl

/-- A poll is counted in the meta of its device. -/
lemma ledger_count {p q : Poller} {uuid : String} {f : PollMeta → PollMeta} {failed : Bool}
    (hnoted : p.metaByUuid.has uuid = true)
    (hmetas : q.metaByUuid = modifyMeta p.metaByUuid uuid f)
    (hfailures : ∀ pm, (f pm).failureCount = if failed then pm.failureCount + 1 else 0)
    (hattempts : ∀ pm, (f pm).lastResolveAttemptAt = pm.lastResolveAttemptAt)
    (hresolving : q.resolving = p.resolving) (hrecoveries : q.recoveries = p.recoveries) :
    q.ledger = p.ledger.count uuid failed := by
  refine Ledger.ext ?_ ?_ hresolving (congrArg (List.map Recovery.uuid) hrecoveries)
  · funext key
    show failuresOf q.metaByUuid key = if uuid = key then
      (if failed then failuresOf p.metaByUuid key + 1 else 0) else failuresOf p.metaByUuid key
    rw [failuresOf, hmetas, get_modifyMeta]
    by_cases hkey : uuid = key
    · subst hkey
      obtain ⟨pm, hpm⟩ := (OrdMap.has_iff _).mp hnoted
      simp only [failuresOf, hpm, Option.map_some, Option.getD_some, if_true, hfailures]
    · rw [if_neg hkey, if_neg hkey]
      rfl
  · show lastAttemptOf q.metaByUuid = lastAttemptOf p.metaByUuid
    rw [hmetas, lastAttemptOf_modifyMeta _ _ hattempts]

/-- `tryResolveHost` up to its first `await`, with its guards. -/
lemma ledger_startRecovery (p : Poller) (uuid : String) (now : ℤ) :
    (p.startRecovery uuid now).ledger =
      if p.ledger.mayRecover uuid now then p.ledger.recover uuid now else p.ledger := by
  have hattempt : ((ensureMeta p.metaByUuid uuid now).get uuid).bind
      PollMeta.lastResolveAttemptAt = lastAttemptOf p.metaByUuid uuid := by
    rw [← lastAttemptOf_ensureMeta p.metaByUuid uuid now, lastAttemptOf]
  rw [startRecovery, hattempt, Ledger.mayRecover]
  show (if p.resolving.contains uuid then p else _).ledger = if (!p.resolving.contains uuid &&
    !isWithin (lastAttemptOf p.metaByUuid uuid) now RESOLVE_COOLDOWN_MS) then _ else _
  cases p.resolving.contains uuid with
  | true => rfl
  | false =>
      cases isWithin (lastAttemptOf p.metaByUuid uuid) now RESOLVE_COOLDOWN_MS with
      | true =>
          refine ledger_congr ?_ ?_ rfl rfl
          · exact failuresOf_ensureMeta p.metaByUuid uuid now
          · exact lastAttemptOf_ensureMeta p.metaByUuid uuid now
      | false =>
          refine Ledger.ext ?_ ?_ rfl (List.map_append ..)
          · show failuresOf (modifyMeta _ uuid _) = failuresOf p.metaByUuid
            rw [failuresOf_modifyMeta _ _ (by exact fun _ => rfl), failuresOf_ensureMeta]
          · funext key
            show lastAttemptOf (modifyMeta _ uuid _) key =
              if uuid = key then some now else lastAttemptOf p.metaByUuid key
            rw [lastAttemptOf, get_modifyMeta, get_ensureMeta]
            by_cases hkey : uuid = key
            · simp only [hkey, if_true, Option.map_some, Option.bind_some]
            · simp only [hkey, if_false, lastAttemptOf]

/-- A failed poll is counted, and then a recovery may start. -/
lemma ledger_applyFailure {p : Poller} {t : ℕ} {uuid : String} {task : PollTask} {e : JsError}
    {now : ℤ} {random : ℚ} (hnoted : p.metaByUuid.has uuid = true) :
    (p.applyFailure t uuid task e.message now random).ledger =
      p.ledger.poll ⟨t, uuid, task.reason, task.startedAt, .error e, now⟩ := by
  have hcount : (p.noteFailure t uuid task e.message now random).ledger =
      p.ledger.count uuid true :=
    ledger_count hnoted rfl (fun _ => rfl) (fun _ => rfl) rfl rfl
  have hfailures : failuresOf (p.noteFailure t uuid task e.message now random).metaByUuid uuid =
      p.ledger.failures uuid + 1 := by
    have hsame : failuresOf (p.noteFailure t uuid task e.message now random).metaByUuid uuid =
        (p.ledger.count uuid true).failures uuid := congrFun (congrArg Ledger.failures hcount) uuid
    rw [hsame]
    simp [Ledger.count]
  have happly : (p.applyFailure t uuid task e.message now random).ledger =
      if 3 ≤ failuresOf (p.noteFailure t uuid task e.message now random).metaByUuid uuid then
        ((p.noteFailure t uuid task e.message now random).startRecovery uuid now).ledger
      else (p.noteFailure t uuid task e.message now random).ledger :=
    apply_ite Poller.ledger _ _ _
  have hmay : (p.ledger.count uuid true).mayRecover uuid now = p.ledger.mayRecover uuid now := rfl
  rw [happly, hfailures, ledger_startRecovery, hcount, hmay, Ledger.poll, Ledger.startsRecovery]
  by_cases hthree : 3 ≤ p.ledger.failures uuid + 1
  · simp [hthree, Completion.failed]
  · simp [hthree, Completion.failed]

/-- A recovery that goes on keeps its device. -/
lemma recovering_set {p : Poller} {i : ℕ} {r : Recovery} (hr : p.recoveries[i]? = some r)
    (prog : Prog Call Reply (Except JsError (Option (String × Option String)))) :
    (p.recoveries.set i { r with prog }).map Recovery.uuid = p.recoveries.map Recovery.uuid := by
  refine List.ext_getElem? fun j => ?_
  rw [List.map_set, List.getElem?_set]
  by_cases hj : i = j
  · subst hj
    obtain ⟨hlt, hget⟩ := List.getElem?_eq_some_iff.mp hr
    simp [hlt, hget]
  · rw [if_neg hj]

lemma ledger_endRecovery (p : Poller) (i : ℕ) (r : Recovery)
    (found : Option (String × Option String)) (now : ℤ) :
    (endRecovery p i r found now).ledger = p.ledger.finish i r.uuid := by
  have hrecovering : (p.recoveries.eraseIdx i).map Recovery.uuid =
      (p.recoveries.map Recovery.uuid).eraseIdx i := (List.eraseIdx_map ..).symm
  cases found with
  | none => exact Ledger.ext rfl rfl rfl hrecovering
  | some f =>
      refine Ledger.ext ?_ ?_ rfl hrecovering
      · exact failuresOf_modifyMeta p.metaByUuid r.uuid fun _ => rfl
      · exact lastAttemptOf_modifyMeta p.metaByUuid r.uuid fun _ => rfl

/-- **What a step does to the ledger**: a poll that ends is counted and may start a recovery, and a
recovery that ends releases its mark. -/
theorem ledger_step [Runtime] {p p' : Poller} {a : Act} (hp : p.Noted) (h : p.step a = some p') :
    match p.completion a with
    | some c => p'.ledger = p.ledger.poll c
    | none => p'.ledger = p.ledger ∨ ∃ i reply now r outcome, a = .recoveryGoesOn i reply now ∧
        p.recoveries[i]? = some r ∧ p.resume reply r.prog = some (.ret outcome) ∧
          p'.ledger = p.ledger.finish i r.uuid := by
  cases stretch_of_step h with
  | boostDevice uuid now =>
      exact Or.inl (ledger_congr (failuresOf_boostMeta _ uuid now)
        (lastAttemptOf_boostMeta _ uuid now) rfl rfl)
  | tick now =>
      obtain ⟨q, hq, heq⟩ := tickBody_enlists p now
      have hledger : q.ledger = p.ledger := ledger_enlists hq
      rw [heq]
      exact Or.inl hledger
  | tickGoesOn now =>
      obtain ⟨q, hq, heq⟩ := tickBody_enlists p now
      have hledger : q.ledger = p.ledger := ledger_enlists hq
      rw [heq]
      exact Or.inl hledger
  | tickSyncs now => exact Or.inl (ledger_syncKnownHosts p now)
  | pollNowSyncs i now q => exact Or.inl (ledger_syncKnownHosts p now)
  | pollNowStarts i now q =>
      obtain ⟨p₁, queue, workers, hp₁, -, -, heq⟩ := startPollNow_enlists p i q now
      have hledger : p₁.ledger = p.ledger := ledger_enlists hp₁
      rw [heq]
      exact Or.inl hledger
  | workerGoesOn i w now q queue workers c r =>
      obtain ⟨p₁, queue', worker, hp₁, -, heq⟩ :=
        collectAndTake_enlists p i q queue workers w r now
      have hledger : p₁.ledger = p.ledger := ledger_enlists hp₁
      rw [heq]
      exact Or.inl hledger
  | pollAwaits t reply now random uuid task prog ht hprog hret =>
      rw [completion_awaits ht hprog hret]
      exact Or.inl rfl
  | pollReads t reply now random uuid task reading ht hprog =>
      rw [completion_ends ht hprog]
      exact ledger_count (hp.state t uuid task ht) rfl (fun _ => rfl) (fun _ => rfl) rfl rfl
  | pollFails t reply now random uuid task e ht hprog =>
      rw [completion_ends ht hprog]
      exact ledger_applyFailure (hp.state t uuid task ht)
  | telemetrySkips t reply now uuid task =>
      exact Or.inl (ledger_modifyMeta rfl (fun _ => rfl) (fun _ => rfl) rfl rfl)
  | telemetryReads t reply now uuid task host parsed =>
      exact Or.inl (ledger_modifyMeta rfl (fun _ => rfl) (fun _ => rfl) rfl rfl)
  | telemetryFails t reply now uuid task e =>
      exact Or.inl (ledger_modifyMeta rfl (fun _ => rfl) (fun _ => rfl) rfl rfl)
  | recoveryAwaits i reply now r prog hr hprog =>
      exact Or.inl (ledger_congr rfl rfl rfl (recovering_set hr prog))
  | recoveryEnds i reply now r found hr hprog =>
      exact Or.inr ⟨i, reply, now, r, found, rfl, hr, hprog, ledger_endRecovery _ i r _ now⟩
  | _ => exact Or.inl rfl

/-- The recoveries that are started in a step, which leads to `p'`. -/
def started (p p' : Poller) : List Recovery := p'.recoveries.drop p.recoveries.length

lemma map_started (p p' : Poller) : (p.started p').map Recovery.uuid =
    p'.ledger.recovering.drop p.ledger.recovering.length := by
  simp [started, ledger, List.map_drop]

section

variable [Runtime] {p p' : Poller} {a : Act}

/-- A recovery is started by a poll that ends, if its guards allow it. -/
lemma started_of_completion {c : Completion} (hp : p.Noted) (h : p.step a = some p')
    (hc : p.completion a = some c) : (p.started p').map Recovery.uuid =
      if p.ledger.startsRecovery c then [c.uuid] else [] := by
  have hledger := ledger_step hp h
  rw [hc] at hledger
  rw [map_started, show p'.ledger = p.ledger.poll c from hledger, Ledger.poll]
  split_ifs
  · exact List.drop_left
  · exact List.drop_length

/-- No other step starts one. -/
lemma started_of_no_completion (hp : p.Noted) (h : p.step a = some p')
    (hc : p.completion a = none) : p.started p' = [] := by
  have hledger := ledger_step hp h
  rw [hc] at hledger
  have hmap : (p.started p').map Recovery.uuid = [] := by
    rw [map_started]
    rcases hledger with hledger | ⟨i, reply, now, r, outcome, -, -, -, hledger⟩
    · rw [hledger, List.drop_length]
    · rw [hledger]
      exact List.drop_eq_nil_of_le (List.eraseIdx_sublist ..).length_le
  exact List.map_eq_nil_iff.mp hmap

end

end Poller

/-! ### Runs -/

/-- The time at which a step is taken. -/
def Act.now : Act → Option ℤ
  | .boostDevice _ now => some now
  | .heartbeat _ now => some now
  | .tick now => some now
  | .tickSyncs now => some now
  | .tickGoesOn now => some now
  | .pollNowSyncs _ now => some now
  | .pollNowStarts _ now => some now
  | .workerGoesOn _ _ now => some now
  | .pollNowReturns _ now => some now
  | .pollGoesOn _ _ now _ => some now
  | .telemetryGoesOn _ _ now => some now
  | .recoveryGoesOn _ _ now => some now
  | _ => none

/-- The poller, with the time, the polls that have ended, and the recoveries that were started,
with their times. -/
structure Timed where
  poller : Poller
  clock : ℤ
  polls : List Completion
  recoveries : List (String × ℤ)

/-- How many polls of a device in a row have failed. -/
def consecutiveFailures (uuid : String) (polls : List Completion) : ℕ :=
  ((polls.filter fun c => c.uuid = uuid).rtakeWhile Completion.failed).length

lemma consecutiveFailures_concat (uuid : String) (polls : List Completion) (c : Completion) :
    consecutiveFailures uuid (polls ++ [c]) =
      if c.uuid = uuid then (if c.failed then consecutiveFailures uuid polls + 1 else 0)
      else consecutiveFailures uuid polls := by
  rw [consecutiveFailures, List.filter_append]
  split_ifs with huuid hfailed
  · simp [huuid, hfailed, consecutiveFailures]
  · simp [huuid, hfailed]
  · simp [huuid, consecutiveFailures]

/-- The second time is a cooldown after the first one, or the first one is the time `0`, which
counts as no attempt. -/
def SpacedOut (t t' : ℤ) : Prop := t = 0 ∨ t + RESOLVE_COOLDOWN_MS ≤ t'

lemma SpacedOut.mono (a b c : ℤ) (h : SpacedOut a b) (hbc : b ≤ c) : SpacedOut a c :=
  h.imp_right fun hab => hab.trans hbc

/-- The guard of the cooldown. -/
lemma isWithin_eq_false_iff (last : Option ℤ) (now : ℤ) :
    isWithin last now RESOLVE_COOLDOWN_MS = false ↔ ∀ t, last = some t → SpacedOut t now := by
  cases last with
  | none => simp [isWithin]
  | some t =>
      simp only [isWithin, Option.some.injEq, forall_eq', SpacedOut, Bool.and_eq_false_iff,
        decide_eq_false_iff_not, ne_eq, not_not, not_lt]
      have harith : RESOLVE_COOLDOWN_MS ≤ now - t ↔ t + RESOLVE_COOLDOWN_MS ≤ now := by omega
      rw [harith]

lemma Ledger.startsRecovery_iff (l : Ledger) (c : Completion) : l.startsRecovery c = true ↔
    c.failed = true ∧ 3 ≤ l.failures c.uuid + 1 ∧ c.uuid ∉ l.resolving ∧
      ∀ t, l.lastAttempt c.uuid = some t → SpacedOut t c.now := by
  rw [← isWithin_eq_false_iff]
  simp [startsRecovery, mayRecover, and_assoc]

/-- The only entry with a key is erased by its index, and by its key. -/
lemma eraseIdx_eq_filter {l : List String} (hl : l.Nodup) {i : ℕ} {k : String}
    (hi : l[i]? = some k) : l.eraseIdx i = l.filter (· ≠ k) := by
  obtain ⟨hlt, rfl⟩ := List.getElem?_eq_some_iff.mp hi
  rw [← hl.erase_getElem i hlt, hl.erase_eq_filter]
  refine List.filter_congr fun key _ => ?_
  rw [Bool.eq_iff_iff]
  simp

namespace Timed

def init (file : FileText) (clock : ℤ) : Timed := ⟨.init file, clock, [], []⟩

def step [Runtime] (s : Timed) (a : Act) : Option Timed :=
  (s.poller.step a).map fun p =>
    let now := a.now.getD s.clock
    { poller := p
      clock := now
      polls := s.polls ++ (s.poller.completion a).toList
      recoveries := s.recoveries ++ (s.poller.started p).map fun r => (r.uuid, now) }

/-- The clock does not go back. -/
def Ticks (s : Timed) (a : Act) : Prop := s.clock ≤ a.now.getD s.clock

instance (s : Timed) (a : Act) : Decidable (s.Ticks a) :=
  inferInstanceAs (Decidable (s.clock ≤ a.now.getD s.clock))

/-- The recoveries as operations that are throttled. -/
def throttle (s : Timed) : Throttle String ℤ := ⟨s.poller.resolving, s.recoveries⟩

/-- The ledger of the poller tells what has happened. -/
structure Inv (s : Timed) : Prop where
  noted : s.poller.Noted
  failures : ∀ uuid, s.poller.ledger.failures uuid = consecutiveFailures uuid s.polls
  attempts : ∀ uuid, s.poller.ledger.lastAttempt uuid = s.throttle.last uuid
  marks : s.poller.ledger.recovering = s.poller.ledger.resolving
  throttled : s.throttle.Inv SpacedOut s.clock

lemma inv_init (file : FileText) (clock : ℤ) : (init file clock).Inv where
  noted := Poller.noted_init file
  failures _ := rfl
  attempts _ := rfl
  marks := rfl
  throttled := Throttle.inv_empty clock

variable [Runtime] {s s' : Timed} {a : Act}

omit [Runtime] in
lemma step_eq_some [Runtime] (h : s.step a = some s') : s.poller.step a = some s'.poller ∧
    s'.clock = a.now.getD s.clock ∧ s'.polls = s.polls ++ (s.poller.completion a).toList ∧
      s'.recoveries = s.recoveries ++ ((s.poller.started s'.poller).map Recovery.uuid).map
        fun uuid => (uuid, a.now.getD s.clock) := by
  obtain ⟨p, hp, rfl⟩ := Option.map_eq_some_iff.mp h
  exact ⟨hp, rfl, rfl, by rw [List.map_map]; rfl⟩

/-- The polls that have ended say what the counters are after a step. -/
lemma Inv.failures_step (hs : s.Inv) (h : s.step a = some s') (uuid : String) :
    s'.poller.ledger.failures uuid = consecutiveFailures uuid s'.polls := by
  obtain ⟨hp, -, hpolls, -⟩ := step_eq_some h
  have hledger := Poller.ledger_step hs.noted hp
  rw [hpolls]
  cases hc : s.poller.completion a with
  | none =>
      rw [hc] at hledger
      rw [Option.toList_none, List.append_nil, ← hs.failures uuid]
      rcases hledger with hledger | ⟨i, reply, now, r, outcome, -, -, -, hledger⟩
      · rw [hledger]
      · rw [hledger]
        rfl
  | some c =>
      rw [hc] at hledger
      rw [show s'.poller.ledger = _ from hledger, Option.toList_some, consecutiveFailures_concat,
        ← hs.failures uuid, Ledger.poll]
      split <;> rfl

/-- A poll that ends starts an operation of the throttle, if the guards allow it. -/
lemma Inv.throttle_poll (hs : s.Inv) (h : s.step a = some s') {c : Completion}
    (hc : s.poller.completion a = some c) : s'.throttle =
      if s.poller.ledger.startsRecovery c then s.throttle.start c.uuid c.now else s.throttle := by
  obtain ⟨hp, -, -, hrecoveries⟩ := step_eq_some h
  have hledger := Poller.ledger_step hs.noted hp
  rw [hc] at hledger
  obtain ⟨reply, random, task, rfl, -⟩ := Poller.completion_eq_some hc
  have hresolving : s'.poller.resolving = (s.poller.ledger.poll c).resolving :=
    congrArg Ledger.resolving hledger
  rw [throttle, hrecoveries, hresolving, Poller.started_of_completion hs.noted hp hc, Ledger.poll]
  split_ifs
  · rfl
  · rw [List.map_nil, List.append_nil]
    rfl

/-- A recovery that ends ends an operation of the throttle, and no other step changes it. -/
lemma Inv.throttle_other (hs : s.Inv) (h : s.step a = some s')
    (hc : s.poller.completion a = none) : s'.throttle = s.throttle ∨
      ∃ uuid, s'.throttle = s.throttle.finish uuid := by
  obtain ⟨hp, -, -, hrecoveries⟩ := step_eq_some h
  have hledger := Poller.ledger_step hs.noted hp
  rw [hc] at hledger
  rw [throttle, hrecoveries, Poller.started_of_no_completion hs.noted hp hc, List.map_nil,
    List.map_nil, List.append_nil]
  rcases hledger with hledger | ⟨i, reply, now, r, outcome, -, -, -, hledger⟩
  · left
    rw [show s'.poller.resolving = s.poller.resolving from congrArg Ledger.resolving hledger]
    rfl
  · right
    refine ⟨r.uuid, ?_⟩
    rw [show s'.poller.resolving = _ from congrArg Ledger.resolving hledger]
    rfl

lemma Inv.step (hs : s.Inv) (hticks : s.Ticks a) (h : s.step a = some s') : s'.Inv := by
  obtain ⟨hp, hclock, -, -⟩ := step_eq_some h
  have hle : s.clock ≤ s'.clock := hclock ▸ hticks
  have hledger := Poller.ledger_step hs.noted hp
  cases hc : s.poller.completion a with
  | none =>
      rw [hc] at hledger
      have hattempts : s'.poller.ledger.lastAttempt = s.poller.ledger.lastAttempt := by
        rcases hledger with hledger | ⟨i, reply, now, r, outcome, -, -, -, hledger⟩
        · rw [hledger]
        · rw [hledger]
          rfl
      refine ⟨hs.noted.step hp, hs.failures_step h, fun uuid => ?_, ?_, ?_⟩
      · rw [hattempts, hs.attempts]
        rcases hs.throttle_other h hc with heq | ⟨k, heq⟩
        · rw [heq]
        · rw [heq]
          rfl
      · rcases hledger with hledger | ⟨i, reply, now, r, outcome, -, hr, -, hledger⟩
        · rw [hledger]
          exact hs.marks
        · -- the mark is the only one of its device, so that both lists lose the same entry
          have hi : s.poller.ledger.resolving[i]? = some r.uuid := by
            rw [← hs.marks, Poller.ledger, List.getElem?_map, hr]
            rfl
          have hnodup : s.poller.ledger.resolving.Nodup := hs.throttled.single
          rw [hledger, Ledger.finish, hs.marks]
          exact eraseIdx_eq_filter hnodup hi
      · rcases hs.throttle_other h hc with heq | ⟨k, heq⟩
        · rw [heq]
          exact hs.throttled.later hle
        · rw [heq]
          exact (hs.throttled.finish k).later hle
  | some c =>
      rw [hc] at hledger
      have hthrottle := hs.throttle_poll h hc
      obtain ⟨reply, random, task, rfl, -⟩ := Poller.completion_eq_some hc
      refine ⟨hs.noted.step hp, hs.failures_step h, fun uuid => ?_, ?_, ?_⟩
      · rw [show s'.poller.ledger = _ from hledger, hthrottle, Ledger.poll]
        split_ifs
        · rw [Throttle.last_start, ← hs.attempts]
          rfl
        · exact hs.attempts uuid
      · rw [show s'.poller.ledger = _ from hledger, Ledger.poll]
        split_ifs
        · exact congrArg (· ++ [c.uuid]) hs.marks
        · exact hs.marks
      · rw [hthrottle]
        split_ifs with hstarts
        · obtain ⟨-, -, hidle, hspaced⟩ := (Ledger.startsRecovery_iff _ c).mp hstarts
          have hnow : s'.clock = c.now := hclock
          rw [hnow] at hle ⊢
          exact hs.throttled.start hle SpacedOut.mono hidle
            fun t ht => hspaced t ((hs.attempts c.uuid).trans ht)
        · exact hs.throttled.later hle

/-- A failed poll is one more failure in a row than was counted. -/
lemma Inv.consecutiveFailures_step (hs : s.Inv) (h : s.step a = some s') {c : Completion}
    (hc : s.poller.completion a = some c) (hfailed : c.failed = true) :
    consecutiveFailures c.uuid s'.polls = s.poller.ledger.failures c.uuid + 1 := by
  obtain ⟨-, -, hpolls, -⟩ := step_eq_some h
  rw [hpolls, hc, Option.toList_some, consecutiveFailures_concat, if_pos rfl, if_pos hfailed,
    hs.failures]

omit [Runtime] in
/-- The mark is released when a recovery ends. -/
lemma not_mem_resolving_of_ends [Runtime] {i : ℕ} {reply : (c : Call) → Reply c} {now : ℤ}
    {r : Recovery} {outcome : Except JsError (Option (String × Option String))}
    (h : s.step (.recoveryGoesOn i reply now) = some s') (hr : s.poller.recoveries[i]? = some r)
    (hprog : s.poller.resume reply r.prog = some (.ret outcome)) :
    r.uuid ∉ s'.poller.resolving := by
  have hledger : s'.poller.ledger = s.poller.ledger.finish i r.uuid := by
    obtain ⟨hp, -⟩ := step_eq_some h
    simp only [Poller.step, Poller.recoveryGoesOn, hr, hprog] at hp
    cases outcome with
    | ok found =>
        rw [← Option.some.inj hp]
        exact Poller.ledger_endRecovery _ i r found now
    | error e =>
        rw [← Option.some.inj hp]
        exact Poller.ledger_endRecovery _ i r none now
  have hresolving : s'.poller.resolving = s.poller.resolving.filter (· ≠ r.uuid) :=
    congrArg Ledger.resolving hledger
  rw [hresolving]
  simp

end Timed

/-- Recoveries are throttled, in a state and in the steps from there. -/
structure Throttled [Runtime] (s : Timed) : Prop where
  /-- of a device at most one recovery is under way -/
  single : (s.poller.recoveries.map Recovery.uuid).Nodup
  /-- the starts of the recoveries of a device are a cooldown apart -/
  apart : ∀ uuid, (ofKey uuid s.recoveries).Pairwise SpacedOut
  /-- a recovery is started by a failed poll of its device, at least the third one in a row -/
  third : ∀ a s', s.step a = some s' → ∀ r ∈ s.poller.started s'.poller,
    ∃ c, s.poller.completion a = some c ∧ c.uuid = r.uuid ∧ c.failed = true ∧
      3 ≤ consecutiveFailures r.uuid s'.polls
  /-- a device is marked exactly as long as a recovery of it is under way -/
  mark : ∀ uuid, uuid ∈ s.poller.resolving ↔ ∃ r ∈ s.poller.recoveries, r.uuid = uuid
  /-- the mark is released when a recovery ends, whatever its outcome -/
  released : ∀ i reply now s' r outcome, s.step (.recoveryGoesOn i reply now) = some s' →
    s.poller.recoveries[i]? = some r → s.poller.resume reply r.prog = some (.ret outcome) →
      r.uuid ∉ s'.poller.resolving
  /-- with no recovery under way, and the cooldown over, such a poll starts one -/
  again : ∀ a s' c, s.step a = some s' → s.poller.completion a = some c → c.failed = true →
    3 ≤ consecutiveFailures c.uuid s'.polls → c.uuid ∉ s.poller.resolving →
      (∀ t ∈ ofKey c.uuid s.recoveries, SpacedOut t c.now) →
        (s.poller.started s'.poller).map Recovery.uuid = [c.uuid]

/-- **Recoveries are throttled**, in every run by a clock that does not go back. -/
theorem recoveries_throttled [Runtime] (file : FileText) (clock : ℤ) (s : Timed)
    (h : Reaches Timed.step Timed.Ticks (Timed.init file clock) s) : Throttled s := by
  have hs : s.Inv := h.invariant (Timed.inv_init file clock) fun _ _ _ hs hticks hstep =>
    hs.step hticks hstep
  have hmark : s.poller.recoveries.map Recovery.uuid = s.poller.resolving := hs.marks
  refine ⟨hmark ▸ hs.throttled.single, hs.throttled.spaced, ?_, ?_, ?_, ?_⟩
  · intro a s' hstep r hr
    obtain ⟨hp, -⟩ := Timed.step_eq_some hstep
    cases hc : s.poller.completion a with
    | none =>
        rw [Poller.started_of_no_completion hs.noted hp hc] at hr
        cases hr
    | some c =>
        have hstarted := Poller.started_of_completion hs.noted hp hc
        have huuid : r.uuid ∈ (s.poller.started s'.poller).map Recovery.uuid :=
          List.mem_map_of_mem hr
        rw [hstarted] at huuid
        split_ifs at huuid with hstarts
        · obtain ⟨hfailed, hthree, -⟩ := (Ledger.startsRecovery_iff _ c).mp hstarts
          obtain huuid := List.mem_singleton.mp huuid
          rw [← hs.consecutiveFailures_step hstep hc hfailed] at hthree
          exact ⟨c, rfl, huuid.symm, hfailed, huuid ▸ hthree⟩
        · cases huuid
  · intro uuid
    rw [← hmark, List.mem_map]
  · intro i reply now s' r outcome hstep hr hprog
    exact Timed.not_mem_resolving_of_ends hstep hr hprog
  · intro a s' c hstep hc hfailed hthree hidle hspaced
    obtain ⟨hp, -⟩ := Timed.step_eq_some hstep
    rw [hs.consecutiveFailures_step hstep hc hfailed] at hthree
    have hstarts : s.poller.ledger.startsRecovery c = true := by
      refine (Ledger.startsRecovery_iff _ c).mpr ⟨hfailed, hthree, hidle, fun t ht => ?_⟩
      rw [hs.attempts] at ht
      exact hspaced t (List.mem_of_getLast? ht)
    rw [Poller.started_of_completion hs.noted hp hc, if_pos hstarts]

/-- The `n`-th call of `pollNow` polls a plug that does not answer. -/
def failedRefresh (n : ℕ) (now : ℤ) : List Act :=
  [.pollNow (refreshOptions "u"), .pollNowSyncs n now, .pollNowStarts n now,
    .pollGoesOn n silence now 0, .pollGoesOn n silence now 0, .pollGoesOn n silence now 0,
    .pollReturns n]

/-- The third one starts a recovery, which does not find the plug. -/
def failedRecovery (now : ℤ) : List Act :=
  failedRefresh 0 now ++ failedRefresh 1 now ++ failedRefresh 2 now
    ++ [.recoveryGoesOn 0 silence now, .recoveryGoesOn 0 silence now, .recoveryGoesOn 0 silence now]

/-- The next failure within the cooldown starts none. -/
theorem recoveries_throttled_plug : let _ := plainRuntime; ∃ s,
    run Timed.step (failedRecovery 6000 ++ failedRefresh 3 6001) (Timed.init plugConfig 6000) =
      some s ∧ s.recoveries = [("u", 6000)] ∧ Throttled s := by
  let _ := plainRuntime
  have hrun : (run Timed.step (failedRecovery 6000 ++ failedRefresh 3 6001)
      (Timed.init plugConfig 6000)).map Timed.recoveries = some [("u", 6000)] := by decide +kernel
  have hticks : passes Timed.step (fun s a => decide (s.Ticks a))
      (failedRecovery 6000 ++ failedRefresh 3 6001) (Timed.init plugConfig 6000) = true := by
    decide +kernel
  obtain ⟨s, hs, hrecoveries⟩ := Option.map_eq_some_iff.mp hrun
  exact ⟨s, hs, hrecoveries, recoveries_throttled plugConfig 6000 s (reaches_run _
    (along_of_passes (fun _ _ h => of_decide_eq_true h) _ _ hticks) hs)⟩

/-- After a recovery at the time `0` the next failure starts another one. -/
theorem recovers_twice : ¬ ∀ (_ : Runtime) (file : FileText) (clock : ℤ) (s : Timed),
    Reaches Timed.step Timed.Ticks (Timed.init file clock) s → ∀ uuid,
      (ofKey uuid s.recoveries).Pairwise fun t t' => t + RESOLVE_COOLDOWN_MS ≤ t' := by
  intro hall
  let _ := plainRuntime
  have hrun : (run Timed.step (failedRecovery 0 ++ failedRefresh 3 1)
      (Timed.init plugConfig 0)).map Timed.recoveries = some [("u", 0), ("u", 1)] := by
    decide +kernel
  have hticks : passes Timed.step (fun s a => decide (s.Ticks a))
      (failedRecovery 0 ++ failedRefresh 3 1) (Timed.init plugConfig 0) = true := by
    decide +kernel
  obtain ⟨s, hs, hrecoveries⟩ := Option.map_eq_some_iff.mp hrun
  have hapart := hall plainRuntime plugConfig 0 s (reaches_run _
    (along_of_passes (fun _ _ h => of_decide_eq_true h) _ _ hticks) hs) "u"
  rw [hrecoveries] at hapart
  exact absurd hapart (by decide)

end Merossity
