import Merossity.Api.TelemetryHistory
import Merossity.Poller.Pacing
import Merossity.Poller.PowerStream
import Merossity.Poller.Recovery

/-!
The table of samples, which `pollTelemetry` fills through `insertTelemetrySample` of
`api/telemetry-db.ts`.

* `sampleOf` is the row that a step inserts. A write that throws is passed over.
* `Sampled` is the poller with the table. `SampleLog` says how the rows of a device lie between the
  starts of its polls.
* `samples_bounded`: in every run by a clock that does not go back, the rows of a device are in the
  order of time, and a window of time holds a bounded number of them.
* `history_samples_le`: so does a bucket of the history.
* `fresh_reading_stored`: as long as no write fails, the measurement that is shown is the last row.
-/

namespace Merossity

open Js Machine Pacing

/-- A row of `telemetry_sample`, in the order of `id`. -/
structure PowerSample where
  uuid : String
  channel : ℕ
  atMs : ℤ
  voltageV : Option ℚ
  currentA : Option ℚ
  powerW : Option ℚ
  rawVoltageDv : Option ℤ
  rawCurrentMa : Option ℤ
  rawPowerMw : Option ℤ
  source : PowerSource

/-- A row, and when the poll was started that read it. -/
structure StoredSample where
  startedAt : ℤ
  row : PowerSample

/-- The columns that the history reads. -/
def PowerSample.toRow (r : PowerSample) : TelemetrySampleRow :=
  ⟨r.uuid, r.channel, r.atMs.toNat, r.voltageV, r.currentA, r.powerW⟩

/-- The row that a step inserts. -/
def Poller.sampleOf (p : Poller) : Act → Option StoredSample
  | .telemetryGoesOn t reply now => match p.telemetryInFlight.running t with
    | some (uuid, task) => match p.resume reply task.prog with
      | some (.ret (.ok (some (_, parsed)))) => some
          { startedAt := task.startedAt
            row :=
              { uuid, channel := parsed.channel, atMs := now
                voltageV := parsed.voltageV, currentA := parsed.currentA, powerW := parsed.powerW
                rawVoltageDv := parsed.voltageDv, rawCurrentMa := parsed.currentMa
                rawPowerMw := parsed.powerMw, source := task.reason } }
      | _ => none
    | none => none
  | _ => none

/-- The row of a measurement shows what the measurement shows. -/
structure PowerSample.Shows (row : PowerSample) (r : DevicePowerDto) : Prop where
  channel : row.channel = r.channel
  voltageV : row.voltageV = r.voltageV
  currentA : row.currentA = r.currentA
  powerW : row.powerW = r.powerW
  rawVoltageDv : row.rawVoltageDv = r.voltageDv
  rawCurrentMa : row.rawCurrentMa = r.currentMa
  rawPowerMw : row.rawPowerMw = r.powerMw
  source : row.source = r.source
  atMs_le : row.atMs ≤ r.updatedAt

namespace Poller

/-- A row is inserted by a telemetry poll that ends with a measurement. -/
lemma sampleOf_eq_some {p : Poller} {a : Act} {e : StoredSample} (h : p.sampleOf a = some e) :
    p.powerOutcome a = some (e.row.uuid, .measured) ∧ p.Underway e.row.uuid e.startedAt ∧
      a.now = some e.row.atMs := by
  cases a with
  | telemetryGoesOn t reply now =>
      simp only [sampleOf] at h
      split at h
      next uuid task ht =>
        split at h
        next host parsed hprog =>
          obtain rfl := Option.some.inj h
          refine ⟨?_, ⟨t, task, ht, rfl⟩, rfl⟩
          simp only [powerOutcome, ht, hprog]
        next => cases h
      next => cases h
  | _ => cases h

lemma le_nextTelemetryUpdatedAt (prev : Option DevicePowerDto) (now : ℤ) :
    now ≤ nextTelemetryUpdatedAt prev now := by
  cases prev with
  | none => exact le_rfl
  | some prev => exact le_max_left _ _

/-- The measurement of the row. -/
lemma measurement_of_sampleOf {p : Poller} {a : Act} {m : Measurement}
    (hm : p.measurement a = some m) : match m.outcome with
      | .ok _ => ∃ e, p.sampleOf a = some e ∧ e.row.uuid = m.uuid ∧ e.row.Shows (p.nextPower m)
      | .error _ => p.sampleOf a = none ∧ (p.nextPower m).stale = true := by
  cases a with
  | telemetryGoesOn t reply now =>
      simp only [measurement] at hm
      split at hm
      next uuid task ht =>
        split at hm
        next read hprog =>
          obtain rfl := Option.some.inj hm
          obtain ⟨host, parsed⟩ := read
          have hsample : ∃ e, p.sampleOf (.telemetryGoesOn t reply now) = some e ∧
              e = StoredSample.mk task.startedAt ⟨uuid, parsed.channel, now, parsed.voltageV,
                parsed.currentA, parsed.powerW, parsed.voltageDv, parsed.currentMa, parsed.powerMw,
                task.reason⟩ := by simp only [sampleOf, ht, hprog, Option.some.injEq, exists_eq_left']
          obtain ⟨e, he, rfl⟩ := hsample
          exact ⟨_, he, rfl, rfl, rfl, rfl, rfl, rfl, rfl, rfl, rfl, le_nextTelemetryUpdatedAt _ now⟩
        next e hprog =>
          obtain rfl := Option.some.inj hm
          exact ⟨by simp only [sampleOf, ht, hprog], rfl⟩
        next => cases hm
      next => cases hm
  | _ => cases hm

lemma sampleOf_of_no_measurement {p : Poller} {a : Act} (h : p.measurement a = none) :
    p.sampleOf a = none := by
  cases hs : p.sampleOf a with
  | none => rfl
  | some e =>
      cases a with
      | telemetryGoesOn t reply now =>
          simp only [sampleOf] at hs
          split at hs
          next uuid task ht =>
            split at hs
            next host parsed hprog => simp only [measurement, ht, hprog] at h; cases h
            next => cases hs
          next => cases hs
      | _ => cases hs

end Poller

/-! ### The poller and its table -/

/-- The poller with its log, the table and the time of the clock. -/
structure Sampled where
  log : PowerLog
  table : List StoredSample
  clock : ℤ

namespace Sampled

def init (file : FileText) (clock : ℤ) : Sampled := ⟨.init file, [], clock⟩

/-- A stretch of code, in which a write succeeds or throws. -/
def step [Runtime] (s : Sampled) (a : Act × Bool) : Option Sampled :=
  (s.log.step a.1).map fun log =>
    { log
      table := s.table ++ if a.2 then (s.log.poller.sampleOf a.1).toList else []
      clock := a.1.now.getD s.clock }

/-- The clock does not go back. -/
def Ticks (s : Sampled) (a : Act × Bool) : Prop := s.clock ≤ a.1.now.getD s.clock

instance (s : Sampled) (a : Act × Bool) : Decidable (s.Ticks a) :=
  inferInstanceAs (Decidable (s.clock ≤ a.1.now.getD s.clock))

/-- The rows of a device. -/
def samplesOf (s : Sampled) (u : String) : List StoredSample :=
  s.table.filter fun e => e.row.uuid = u

/-- When the polls of a device were started that have ended. -/
def endedStarts (rs : List (Attempt PowerOutcome)) : List ℤ :=
  (rs.filter fun r => r.outcome.isSome).map Attempt.startedAt

@[simp] lemma endedStarts_begin (now : ℤ) (rs : List (Attempt PowerOutcome)) :
    endedStarts (begin now rs) = endedStarts rs := by
  simp [endedStarts, begin]

lemma endedStarts_finish_begin (o : PowerOutcome) (now : ℤ) (rs : List (Attempt PowerOutcome)) :
    endedStarts (finish o (begin now rs)) = endedStarts rs ++ [now] := by
  simp [endedStarts, finish_begin]

/-- How the rows of a device lie between the starts of its polls. -/
structure SampleLog (s : Sampled) (u : String) : Prop where
  sub : ((s.samplesOf u).map StoredSample.startedAt).Sublist (endedStarts (s.log.rounds u))
  within : ∀ e ∈ s.samplesOf u, e.startedAt ≤ e.row.atMs ∧ e.row.atMs ≤ s.clock
  before : ∀ st, s.log.poller.Underway u st →
    st ≤ s.clock ∧ ∀ e ∈ s.samplesOf u, e.row.atMs ≤ st
  spaced : (s.samplesOf u).Pairwise fun e e' => e.row.atMs ≤ e'.startedAt

lemma sampleLog_init (file : FileText) (clock : ℤ) (u : String) : SampleLog (init file clock) u where
  sub := List.Sublist.refl _
  within _ h := by cases h
  before st h := by
    obtain ⟨t, task, ht, -⟩ := h
    cases ht
  spaced := List.Pairwise.nil

variable [Runtime] {s s' : Sampled} {a : Act × Bool} {u : String}

omit [Runtime] in
lemma step_eq_some [Runtime] (h : s.step a = some s') : s.log.step a.1 = some s'.log ∧
    s'.clock = a.1.now.getD s.clock ∧ s'.samplesOf u = s.samplesOf u ++
      (if a.2 then (s.log.poller.sampleOf a.1).toList else []).filter fun e => e.row.uuid = u := by
  obtain ⟨log, hlog, rfl⟩ := Option.map_eq_some_iff.mp h
  exact ⟨hlog, rfl, List.filter_append _ _⟩

omit [Runtime] in
/-- No row of a device is inserted unless a poll of it ends with a measurement. -/
lemma samplesOf_eq_self [Runtime] (h : s.step a = some s')
    (hout : ∀ o, s.log.poller.powerOutcome a.1 ≠ some (u, o)) : s'.samplesOf u = s.samplesOf u := by
  obtain ⟨-, -, hsamples⟩ := step_eq_some (u := u) h
  rw [hsamples]
  split_ifs
  · cases hs : s.log.poller.sampleOf a.1 with
    | none => simp
    | some e =>
        have hne : e.row.uuid ≠ u := by
          rintro rfl
          exact hout _ (Poller.sampleOf_eq_some hs).1
        simp [hne]
  · simp

lemma SampleLog.step (hs : s.SampleLog u) (hinv : s.log.Inv) (hticks : s.Ticks a)
    (h : s.step a = some s') : s'.SampleLog u := by
  obtain ⟨hlog, hclock, hsamples⟩ := step_eq_some (u := u) h
  obtain ⟨p, hp, hlog'⟩ := Option.map_eq_some_iff.mp hlog
  have hle : s.clock ≤ s'.clock := hclock ▸ hticks
  have hpoller : s'.log.poller = p := by rw [← hlog']
  have hrounds : s'.log.rounds u = PowerLog.ended u (s.log.rounds u)
      (s.log.poller.powerOutcome a.1) ++ s.log.poller.newRounds p u := by rw [← hlog']
  cases Poller.powerStep_of_step hinv.flights.2 hinv.noted hp u with
  | rests hout hnew hrun hsame =>
      rw [PowerLog.ended_eq_self hout, hnew, List.append_nil] at hrounds
      have hsame := samplesOf_eq_self h hout
      refine ⟨by rw [hsame, hrounds]; exact hs.sub, fun e he => ?_, fun st hst => ?_, ?_⟩
      · obtain ⟨hstart, hend⟩ := hs.within e (hsame ▸ he)
        exact ⟨hstart, hend.trans hle⟩
      · obtain ⟨hst, hrows⟩ := hs.before st ((hrun st).mp (hpoller ▸ hst))
        exact ⟨hst.trans hle, hsame ▸ hrows⟩
      · rw [hsame]
        exact hs.spaced
  | starts now d n hact hout hnew hidle hrun hdue hdle hsame =>
      rw [PowerLog.ended_eq_self hout, hnew] at hrounds
      have hsame := samplesOf_eq_self h hout
      have hnow : s'.clock = now := by rcases hact with hact | hact <;> rw [hclock, hact] <;> rfl
      refine ⟨?_, fun e he => ?_, fun st hst => ?_, ?_⟩
      · rw [hsame, hrounds]
        exact (endedStarts_begin now (s.log.rounds u)).symm ▸ hs.sub
      · obtain ⟨hstart, hend⟩ := hs.within e (hsame ▸ he)
        exact ⟨hstart, hend.trans hle⟩
      · -- the poll starts after the rows were inserted
        obtain rfl := (hrun st).mp (hpoller ▸ hst)
        refine ⟨hnow.ge, fun e he => ?_⟩
        exact ((hs.within e (hsame ▸ he)).2.trans hle).trans hnow.le
      · rw [hsame]
        exact hs.spaced
  | ends o st d n hout hnew hrun hidle htimes hset =>
      obtain ⟨earlier, hearlier⟩ := (hinv.tracks u).underway st hrun
      rw [hout, hnew, List.append_nil, PowerLog.ended, if_pos rfl, hearlier] at hrounds
      have hsub := hs.sub
      rw [hearlier, endedStarts_begin] at hsub
      obtain ⟨hst, hrows⟩ := hs.before st hrun
      -- the row that is inserted, if one is
      have hnew : s'.samplesOf u = s.samplesOf u ∨ ∃ e, s'.samplesOf u = s.samplesOf u ++ [e] ∧
          e.startedAt = st ∧ e.row.atMs = s'.clock := by
        rw [hsamples]
        split_ifs
        · cases hsample : s.log.poller.sampleOf a.1 with
          | none => simp
          | some e =>
              obtain ⟨hmeasured, hunder, hnow⟩ := Poller.sampleOf_eq_some hsample
              rw [hout] at hmeasured
              obtain rfl : u = e.row.uuid := (Prod.mk.inj (Option.some.inj hmeasured)).1
              refine .inr ⟨e, by simp, ?_, by rw [hclock, hnow]; rfl⟩
              obtain ⟨t, task, ht, rfl⟩ := hrun
              obtain ⟨t', task', ht', hstart⟩ := hunder
              obtain rfl := hinv.flights.2.eq_of_running ht' ht
              rw [ht] at ht'
              cases ht'
              exact hstart.symm
        · simp
      have hidle' : ∀ st', ¬ s'.log.poller.Underway u st' := by
        rw [hpoller]
        exact hidle
      rcases hnew with hnew | ⟨e, hnew, hstart, hatMs⟩
      · refine ⟨?_, fun e he => ?_, fun st' hst' => absurd hst' (hidle' st'), ?_⟩
        · rw [hnew, hrounds, endedStarts_finish_begin]
          exact hsub.trans (List.sublist_append_left _ _)
        · obtain ⟨hstart, hend⟩ := hs.within e (hnew ▸ he)
          exact ⟨hstart, hend.trans hle⟩
        · rw [hnew]
          exact hs.spaced
      · refine ⟨?_, fun e' he' => ?_, fun st' hst' => absurd hst' (hidle' st'), ?_⟩
        · rw [hnew, hrounds, endedStarts_finish_begin, List.map_append, List.map_singleton, hstart]
          exact hsub.append (List.Sublist.refl _)
        · rw [hnew] at he'
          rcases List.mem_append.mp he' with he' | he'
          · obtain ⟨hstart', hend⟩ := hs.within e' he'
            exact ⟨hstart', hend.trans hle⟩
          · obtain rfl := List.mem_singleton.mp he'
            exact ⟨by omega, hatMs.le⟩
        · rw [hnew]
          refine List.pairwise_append.mpr ⟨hs.spaced, List.pairwise_singleton _ _, ?_⟩
          intro e' he' e'' he''
          obtain rfl := List.mem_singleton.mp he''
          rw [hstart]
          exact hrows e' he'

/-- The rows of every device lie between the starts of its polls. -/
structure Inv (s : Sampled) : Prop where
  log : s.log.Inv
  samples : ∀ u, s.SampleLog u

lemma inv_of_reaches {file : FileText} {clock : ℤ} {s : Sampled}
    (h : Reaches Sampled.step Ticks (init file clock) s) : s.Inv := by
  refine h.invariant ⟨PowerLog.inv_of_reaches .refl, sampleLog_init file clock⟩ ?_
  intro s a s' hs hticks hstep
  obtain ⟨hlog, -⟩ := step_eq_some (u := "") hstep
  exact ⟨hs.log.step hlog, fun u => (hs.samples u).step hs.log hticks hstep⟩

/-- The starts of the polls of the rows are the interval apart. -/
lemma Inv.spaced_starts (hs : s.Inv) (u : String) : (s.samplesOf u).Pairwise fun e e' =>
    e.startedAt + telemetryIntervalMs ≤ e'.startedAt := by
  have hge := telemetryIntervalMs_ge
  have hstarts := (hs.log.tracks u).paced.pairwise_starts (by omega) PowerOutcome.interval_le_pause
  have hended : (endedStarts (s.log.rounds u)).Sublist ((s.log.rounds u).map Attempt.startedAt) :=
    List.filter_sublist.map _
  exact List.pairwise_map.mp (hstarts.sublist ((hs.samples u).sub.trans hended))

/-- A window of time holds a bounded number of rows. -/
lemma Inv.length_samples_le (hs : s.Inv) (u : String) (t : ℤ) {len : ℤ} (hlen : 0 ≤ len) :
    ((s.samplesOf u).filter fun e => t ≤ e.row.atMs ∧ e.row.atMs ≤ t + len).length ≤
      len / telemetryIntervalMs + 2 := by
  have hge := telemetryIntervalMs_ge
  exact length_noted_le StoredSample.startedAt (fun e => e.row.atMs) (by omega)
    (hs.spaced_starts u) (hs.samples u).spaced (fun e he => ((hs.samples u).within e he).1) t hlen

end Sampled

/-- How the rows of a device are stored. -/
structure SamplesBounded [Runtime] (s : Sampled) (u : String) : Prop where
  /-- a row is inserted when its poll ends, and the next poll starts later -/
  between : (s.samplesOf u).Pairwise fun e e' =>
    e.row.atMs ≤ e'.startedAt ∧ e'.startedAt ≤ e'.row.atMs
  /-- the rows are in the order of time -/
  ordered : (s.samplesOf u).Pairwise fun e e' => e.row.atMs ≤ e'.row.atMs
  /-- a window of time holds a bounded number of rows -/
  bounded : ∀ t len, 0 ≤ len →
    ((s.samplesOf u).filter fun e => t ≤ e.row.atMs ∧ e.row.atMs ≤ t + len).length ≤
      len / telemetryIntervalMs + 2

/-- **The table of samples** grows at the pace of the polls: in every run by a clock that does not
go back, whichever writes fail, the rows of a device are in the order of time, and a window of time
holds at most two more than the interval fits into it. -/
theorem samples_bounded [Runtime] (file : FileText) (clock : ℤ) (s : Sampled)
    (h : Reaches Sampled.step Sampled.Ticks (Sampled.init file clock) s) (u : String) :
    SamplesBounded s u := by
  have hs := Sampled.inv_of_reaches h
  have hbetween := ((hs.samples u).spaced).imp_of_mem (S := fun e e' : StoredSample =>
    e.row.atMs ≤ e'.startedAt ∧ e'.startedAt ≤ e'.row.atMs) fun {e e'} _ he' hle =>
      ⟨hle, ((hs.samples u).within e' he').1⟩
  exact ⟨hbetween, hbetween.imp fun hle => hle.1.trans hle.2, fun t _ hlen =>
    hs.length_samples_le u t hlen⟩

/-- Two measurements of a plug, which are stored. -/
def measuredTwice : List (Act × Bool) :=
  (tickMeasures 0 6000 5000 ++ tickMeasures 1 40000 6000).map fun a => (a, true)

/-- The clock does not go back in this run. -/
lemma along_measuredTwice : let _ := plainRuntime;
    Along Sampled.step Sampled.Ticks measuredTwice (Sampled.init plugConfig 0) := by
  let _ := plainRuntime
  have hticks : passes Sampled.step (fun s a => decide (s.Ticks a)) measuredTwice
      (Sampled.init plugConfig 0) = true := by decide +kernel
  exact along_of_passes (fun _ _ h => of_decide_eq_true h) _ _ hticks

theorem samples_bounded_plug : let _ := plainRuntime; ∃ s,
    run Sampled.step measuredTwice (Sampled.init plugConfig 0) = some s ∧
    (s.samplesOf "u").map (fun e => e.row.atMs) = [6000, 40000] ∧ SamplesBounded s "u" := by
  let _ := plainRuntime
  have hrun : (run Sampled.step measuredTwice (Sampled.init plugConfig 0)).map
      (fun s => (s.samplesOf "u").map fun e => e.row.atMs) = some [6000, 40000] := by
    decide +kernel
  obtain ⟨s, hs, hrows⟩ := Option.map_eq_some_iff.mp hrun
  exact ⟨s, hs, hrows, samples_bounded plugConfig 0 s (reaches_run _ along_measuredTwice hs) "u"⟩

/-! ### The history and the measurements -/

/-- No row is older than the start of the service. -/
lemma Sampled.le_atMs [Runtime] {file : FileText} {clock : ℤ} {s : Sampled}
    (h : Reaches Sampled.step Sampled.Ticks (Sampled.init file clock) s) :
    clock ≤ s.clock ∧ ∀ e ∈ s.table, clock ≤ e.row.atMs := by
  refine h.invariant (I := fun s => clock ≤ s.clock ∧ ∀ e ∈ s.table, clock ≤ e.row.atMs)
    ⟨le_rfl, fun e he => by cases he⟩ ?_
  rintro s a s' ⟨hclock, htable⟩ hticks hstep
  obtain ⟨log, -, rfl⟩ := Option.map_eq_some_iff.mp hstep
  have hle : clock ≤ a.1.now.getD s.clock := hclock.trans hticks
  refine ⟨hle, fun e he => ?_⟩
  rcases List.mem_append.mp he with he | he
  · exact htable e he
  · split_ifs at he
    · have hnow := (Poller.sampleOf_eq_some (Option.mem_toList.mp he)).2.2
      rwa [hnow] at hle
    · cases he

/-- **A point of the history** is about the rows of its bucket, and they are at most two more than
the interval of the polls fits into it, for every request that the handler admits. -/
theorem history_samples_le [Runtime] [Sqlite] (file : FileText) (clock : ℤ) (hclock : 0 ≤ clock)
    (s : Sampled) (h : Reaches Sampled.step Sampled.Ticks (Sampled.init file clock) s)
    (p : HistoryParams) :
    ∀ pt ∈ getTelemetryHistoryBuckets (s.table.map fun e => e.row.toRow) p,
      ∃ rows : List StoredSample,
      pt = bucketPoint pt.t (rows.map fun e => e.row.toRow) ∧ rows.Sublist (s.samplesOf p.uuid) ∧
        (∀ e ∈ rows, pt.t ≤ e.row.atMs ∧ e.row.atMs < pt.t + p.bucketMs) ∧
          rows.length ≤ p.bucketMs / telemetryIntervalMs + 2 := by
  intro pt hpt
  obtain ⟨t, -, rfl⟩ := exists_of_mem_buckets hpt
  have htime : ∀ e ∈ s.table, (e.row.atMs.toNat : ℤ) = e.row.atMs := fun e he =>
    Int.toNat_of_nonneg (hclock.trans ((Sampled.le_atMs h).2 e he))
  have hrows : contributors (s.table.map fun e => e.row.toRow) p t =
      ((s.samplesOf p.uuid).filter fun e => e.row.channel = p.channel ∧ p.fromMs ≤ e.row.atMs ∧
        e.row.atMs ≤ p.toMs ∧ t ≤ e.row.atMs ∧ e.row.atMs < t + p.bucketMs).map
          fun e => e.row.toRow := by
    rw [contributors, List.filter_map, Sampled.samplesOf, List.filter_filter]
    refine congrArg _ (List.filter_congr fun e he => ?_)
    simp only [Function.comp, HistoryParams.Selects, PowerSample.toRow, htime e he]
    rw [Bool.eq_iff_iff]
    simp only [decide_eq_true_eq, Bool.and_eq_true]
    tauto
  refine ⟨_, by rw [hrows]; rfl, List.filter_sublist, fun e he => ?_, ?_⟩
  · have hin := of_decide_eq_true (List.mem_filter.mp he).2
    exact ⟨hin.2.2.2.1, hin.2.2.2.2⟩
  · have hbucket := p.bucketMs_pos
    have hle := (Sampled.inv_of_reaches h).length_samples_le p.uuid t hbucket.le
    refine le_trans (Int.ofNat_le.mpr ?_) hle
    rw [← List.countP_eq_length_filter, ← List.countP_eq_length_filter]
    refine List.countP_mono_left fun e _ hin => ?_
    simp only [decide_eq_true_eq] at hin ⊢
    omega

/-- No write throws. -/
def Sampled.Stores (_ : Sampled) (a : Act × Bool) : Prop := a.2 = true

/-- **A measurement that is shown is stored**: as long as no write throws, in every run, whatever
the clock, the last row of a device with a fresh measurement is that measurement. -/
theorem fresh_reading_stored [Runtime] (file : FileText) (clock : ℤ) (s : Sampled)
    (h : Reaches Sampled.step Sampled.Stores (Sampled.init file clock) s) (u : String)
    (r : DevicePowerDto) (hr : s.log.poller.powerByUuid.get u = some r) (hfresh : r.stale = false) :
    ∃ e, (s.samplesOf u).getLast? = some e ∧ e.row.Shows r := by
  have hinv : ∀ r, s.log.poller.powerByUuid.get u = some r → r.stale = false →
      ∃ e, (s.samplesOf u).getLast? = some e ∧ e.row.Shows r := by
    refine h.invariant (I := fun s => ∀ r, s.log.poller.powerByUuid.get u = some r →
      r.stale = false → ∃ e, (s.samplesOf u).getLast? = some e ∧ e.row.Shows r)
      (fun r hr => by cases hr) ?_
    intro s a s' hs hstores hstep r hr hfresh
    obtain ⟨hlog, -, hsamples⟩ := Sampled.step_eq_some (u := u) hstep
    obtain ⟨p, hp, hlog'⟩ := Option.map_eq_some_iff.mp hlog
    have hpoller : s'.log.poller = p := by rw [← hlog']
    rw [hpoller, Poller.powerByUuid_step hp] at hr
    rw [show a.2 = true from hstores, if_pos rfl] at hsamples
    cases hm : s.log.poller.measurement a.1 with
    | none =>
        rw [hm] at hr
        rw [Poller.sampleOf_of_no_measurement hm, Option.toList_none, List.filter_nil,
          List.append_nil] at hsamples
        rw [hsamples]
        exact hs r hr hfresh
    | some m =>
        have hsample := Poller.measurement_of_sampleOf hm
        rw [hm] at hr
        dsimp only at hr
        rw [OrdMap.get_set] at hr
        cases houtcome : m.outcome with
        | ok read =>
            rw [houtcome] at hsample
            obtain ⟨e, he, huuid, hshows⟩ := hsample
            rw [he, Option.toList_some] at hsamples
            split_ifs at hr with hkey
            · obtain rfl := Option.some.inj hr
              rw [hsamples, List.filter_singleton, huuid, decide_eq_true hkey, cond_true]
              exact ⟨e, List.getLast?_concat, hshows⟩
            · rw [hsamples, List.filter_singleton, huuid, decide_eq_false hkey,
                cond_false, List.append_nil]
              exact hs r hr hfresh
        | error err =>
            rw [houtcome] at hsample
            obtain ⟨hnone, hstale⟩ := hsample
            rw [hnone, Option.toList_none, List.filter_nil, List.append_nil] at hsamples
            split_ifs at hr with hkey
            · obtain rfl := Option.some.inj hr
              rw [hstale] at hfresh
              cases hfresh
            · rw [hsamples]
              exact hs r hr hfresh
  exact hinv r hr hfresh

/-- The point of the last half minute is about the second measurement. -/
theorem history_samples_le_plug : let _ := plainRuntime; let _ := exactSqlite; ∃ s,
    run Sampled.step measuredTwice (Sampled.init plugConfig 0) = some s ∧
    ∃ pt, getTelemetryHistoryBuckets (s.table.map fun e => e.row.toRow)
        ⟨"u", 0, 30000, 60000, 60000, by omega, by omega, by omega⟩ = [pt] ∧
      ∃ rows : List StoredSample, pt = bucketPoint pt.t (rows.map fun e => e.row.toRow) ∧
        rows.length ≤ 60000 / telemetryIntervalMs + 2 := by
  let _ := plainRuntime
  let _ := exactSqlite
  have hrun : (run Sampled.step measuredTwice (Sampled.init plugConfig 0)).map
      (fun s => getTelemetryHistoryBuckets (s.table.map fun e => e.row.toRow)
        ⟨"u", 0, 30000, 60000, 60000, by omega, by omega, by omega⟩) =
      some [⟨0, some 6, some 6, none, none⟩] := by decide +kernel
  obtain ⟨s, hs, hpoints⟩ := Option.map_eq_some_iff.mp hrun
  obtain ⟨rows, heq, -, -, hlength⟩ := history_samples_le plugConfig 0 le_rfl s
    (reaches_run _ along_measuredTwice hs) ⟨"u", 0, 30000, 60000, 60000, by omega, by omega,
      by omega⟩ _ (hpoints ▸ List.mem_singleton_self _)
  exact ⟨s, hs, _, hpoints, rows, heq, hlength⟩

/-- The measurement that is shown in the end is the second row. -/
theorem fresh_reading_stored_plug : let _ := plainRuntime; ∃ s r e,
    run Sampled.step measuredTwice (Sampled.init plugConfig 0) = some s ∧
    s.log.poller.powerByUuid.get "u" = some r ∧ r.powerW = some 6 ∧
    (s.samplesOf "u").getLast? = some e ∧ e.row.Shows r := by
  let _ := plainRuntime
  have hrun : (run Sampled.step measuredTwice (Sampled.init plugConfig 0)).map
      (fun s => (s.log.poller.powerByUuid.get "u").map fun r => (r.stale, r.powerW)) =
      some (some (false, some 6)) := by decide +kernel
  have hstores : passes Sampled.step (fun _ a => a.2) measuredTwice (Sampled.init plugConfig 0) =
      true := by decide +kernel
  obtain ⟨s, hs, hreading⟩ := Option.map_eq_some_iff.mp hrun
  obtain ⟨r, hr, hshown⟩ := Option.map_eq_some_iff.mp hreading
  obtain ⟨hfresh, hpower⟩ := Prod.mk.inj hshown
  obtain ⟨e, he, hshows⟩ := fresh_reading_stored plugConfig 0 s (reaches_run _
    (along_of_passes (fun _ _ h => h) _ _ hstores) hs) "u" r hr hfresh
  exact ⟨s, r, e, hs, hr, hpower, he, hshows⟩

end Merossity
