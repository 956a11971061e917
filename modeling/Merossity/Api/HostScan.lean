import Merossity.Api.ConfigHandlers
import Merossity.Lib.WorkerPool
import Merossity.Meross.Cidr
import Merossity.Meross.Mac

/-!
The scan for a device, for `resolveHostByUuidScan` of `meross/lan/discovery.ts`, with its workers.

* `HostOutcome` is what comes of a probe, and `probesOf` are the probes that were answered: the
  reply to the call of a handler that stands for all workers.
* `scanRules` is the body of a worker: it stops once the device is found, and a worker that is under
  way then may still find another one.
* `scan_finds_device`: in every run the addresses are probed at most once; when all workers have
  ended the result is the host of a response that matches, and there is none exactly if no response
  did, all addresses having been probed.
* `scanHosts` is the function for any number of workers, and returns what they have found.
-/

namespace Merossity

open Js Machine WorkerPool

/-! ### Probes -/

/-- The response of a host and the time at which it is handled, or `none` for an error or a
timeout. -/
abbrev HostOutcome : Type := Option (Json × String)

/-- The devices that answered, in the order in which their responses were handled. -/
def probesOf {σ : Type} (p : WorkerPool String HostOutcome σ) : List Probe :=
  p.handled.filterMap fun e => e.2.map fun o => ⟨e.1, o.1, o.2⟩

lemma mem_probesOf_iff {σ : Type} {p : WorkerPool String HostOutcome σ} {probe : Probe} :
    probe ∈ probesOf p ↔ (probe.ip, some (probe.resp, probe.time)) ∈ p.handled := by
  obtain ⟨ip, resp, time⟩ := probe
  rw [probesOf, List.mem_filterMap]
  constructor
  · rintro ⟨⟨ip', outcome⟩, he, heq⟩
    obtain ⟨⟨resp', time'⟩, rfl, hprobe⟩ := Option.map_eq_some_iff.mp heq
    obtain ⟨rfl, rfl, rfl⟩ := Probe.mk.inj hprobe
    exact he
  · exact fun he => ⟨_, he, rfl⟩

/-! ### The workers -/

/-- The number of workers: `Math.max(1, Math.floor(options.concurrency))` if that is finite, and
else `24`. -/
def scanWorkers (concurrency : Option Number) : Except String ℕ :=
  match finiteOnly concurrency with
  | some n => workerCount n
  | none => .ok 24

/-- A worker assigns the host if the response matches, and stops when there is one. -/
def scanRules (uuid : String) (targetMac : Option String) :
    Rules String HostOutcome (Option (String × Option String)) where
  handle found ip outcome := match outcome with
    | none => found
    | some (resp, time) => match scanMatch uuid targetMac ⟨ip, resp, time⟩ with
      | some hit => some hit
      | none => found
  stop found := found.isSome
  lasting found ip outcome h := by
    split
    next => exact h
    next resp time =>
      cases scanMatch uuid targetMac ⟨ip, resp, time⟩ with
      | none => exact h
      | some hit => rfl

/-- The workers of a scan have started. -/
def startScan (uuid : String) (targetMac : Option String) (ips : List String) (n : ℕ) :
    WorkerPool String HostOutcome (Option (String × Option String)) :=
  start (scanRules uuid targetMac) ips none n

/-- The response identifies the device: by its uuid, or by the MAC address that is looked for. -/
def Identifies (uuid : String) (targetMac : Option String) (resp : Json) : Prop :=
  extractLanUuid resp = some uuid ∨ ∃ mac, extractLanMac resp = some mac ∧ targetMac = some mac

/-- A response is a match exactly if it identifies the device. -/
lemma scanMatch_eq_some_iff {uuid : String} {targetMac : Option String} {p : Probe}
    {hit : String × Option String} :
    scanMatch uuid targetMac p = some hit ↔
      Identifies uuid targetMac p.resp ∧ hit = (p.ip, extractLanMac p.resp) := by
  have hmac : (extractLanMac p.resp).isSome = true ∧ targetMac = extractLanMac p.resp
      ∧ targetMac ≠ some "" ↔ ∃ mac, extractLanMac p.resp = some mac ∧ targetMac = some mac := by
    cases hreported : extractLanMac p.resp with
    | none => simp
    | some mac =>
        have hne := (canonicalMac_of_extractLanMac hreported).ne_empty
        constructor
        · rintro ⟨-, htarget, -⟩
          exact ⟨mac, rfl, htarget⟩
        · rintro ⟨mac', hmac', htarget⟩
          obtain rfl := Option.some.inj hmac'
          exact ⟨rfl, htarget, fun heq => hne (Option.some.inj (htarget.symm.trans heq))⟩
  rw [scanMatch, Identifies, ← hmac]
  split
  next hmatch =>
    constructor
    · intro heq
      exact ⟨hmatch, (Option.some.inj heq).symm⟩
    · rintro ⟨-, rfl⟩
      rfl
  next hmatch =>
    constructor
    · intro heq
      cases heq
    · rintro ⟨hidentifies, -⟩
      exact absurd hidentifies hmatch

/-! ### The result -/

/-- The result is the last match. -/
lemma foldl_scan (uuid : String) (targetMac : Option String)
    (handled : List (String × HostOutcome)) :
    handled.foldl (fun s e => (scanRules uuid targetMac).handle s e.1 e.2) none =
      lastOr (scanMatch uuid targetMac) none
        (handled.filterMap fun e => e.2.map fun o => (⟨e.1, o.1, o.2⟩ : Probe)) := by
  rw [lastOr_filterMap, lastOr]
  congr 1
  funext found e
  obtain ⟨ip, _ | ⟨resp, time⟩⟩ := e
  · rfl
  · show _ = (scanMatch uuid targetMac ⟨ip, resp, time⟩).or found
    rw [scanRules]
    dsimp only
    cases scanMatch uuid targetMac ⟨ip, resp, time⟩ <;> rfl

section

variable {uuid : String} {targetMac : Option String} {ips : List String} {n : ℕ}
  {p : WorkerPool String HostOutcome (Option (String × Option String))}

lemma shared_eq_lastOr (h : p.Inv (scanRules uuid targetMac) ips n none) :
    p.shared = lastOr (scanMatch uuid targetMac) none (probesOf p) :=
  h.shared_eq.trans (foldl_scan uuid targetMac p.handled)

/-- The result of a scan: the host of a response that identifies the device, with the MAC address of
that response; none exactly if no response did, and then every address was probed. -/
structure ScanResult (uuid : String) (targetMac : Option String) (ips : List String)
    (p : WorkerPool String HostOutcome (Option (String × Option String))) : Prop where
  sound : ∀ host mac, p.shared = some (host, mac) → host ∈ ips ∧
    ∃ resp time, (host, some (resp, time)) ∈ p.handled ∧ Identifies uuid targetMac resp
      ∧ mac = extractLanMac resp
  none_iff : p.shared = none ↔
    ∀ host resp time, (host, some (resp, time)) ∈ p.handled → ¬ Identifies uuid targetMac resp
  covered : p.shared = none → (p.handled.map Prod.fst).Perm ips

lemma scanResult_of_finished (h : p.Inv (scanRules uuid targetMac) ips n none)
    (hfinished : p.Finished) (hn : n ≠ 0) : ScanResult uuid targetMac ips p where
  sound host mac hshared := by
    rw [shared_eq_lastOr h] at hshared
    obtain ⟨probe, hprobe, hmatch⟩ := lastOr_eq_some hshared
    obtain ⟨hidentifies, heq⟩ := scanMatch_eq_some_iff.mp hmatch
    obtain ⟨rfl, rfl⟩ := Prod.mk.inj heq
    have hmem := mem_probesOf_iff.mp hprobe
    exact ⟨h.handled_subperm.subset (List.mem_map_of_mem (f := Prod.fst) hmem), _, _, hmem,
      hidentifies, rfl⟩
  none_iff := by
    rw [shared_eq_lastOr h, lastOr_eq_none_iff]
    constructor
    · intro hnone host resp time hmem hidentifies
      have hnot := hnone ⟨host, resp, time⟩ (mem_probesOf_iff.mpr hmem)
      have hmatch : scanMatch uuid targetMac ⟨host, resp, time⟩ =
          some (host, extractLanMac resp) := scanMatch_eq_some_iff.mpr ⟨hidentifies, rfl⟩
      rw [hmatch] at hnot
      cases hnot
    · intro hnone probe hprobe
      refine Option.eq_none_iff_forall_ne_some.mpr fun hit hmatch => ?_
      exact hnone _ _ _ (mem_probesOf_iff.mp hprobe) (scanMatch_eq_some_iff.mp hmatch).1
  covered hshared := by
    obtain ⟨hhandled, hstop | hall⟩ := h.finished hfinished hn
    · rw [hshared] at hstop
      cases hstop
    · rwa [hall] at hhandled

end

/-- There is at least one worker. -/
lemma scanWorkers_pos {concurrency : Option Number} {n : ℕ} (h : scanWorkers concurrency = .ok n) :
    n ≠ 0 := by
  rw [scanWorkers] at h
  split at h
  next m hm =>
    obtain ⟨m', hm', hfin⟩ := Option.bind_eq_some_iff.mp hm
    obtain ⟨q, hq, rfl⟩ := Option.map_eq_some_iff.mp hfin
    cases m' with
    | fin q =>
        rw [workerCount] at h
        split at h
        · cases h
        · obtain rfl := Except.ok.inj h
          omega
    | inf negative => cases hq
    | nan => cases hq
  next =>
    obtain rfl := Except.ok.inj h
    decide

/-- The function, with the number of workers that its options say. -/
def scanHosts (uuid cidr : String) (key : Json) (perHostTimeoutMs concurrency : Option Number)
    (targetMac : Option String) : Async (Option (String × Option String)) :=
  match listHostsInCidr cidr with
  | .error _ => return none
  | .ok [] => return none
  | .ok ips => do
      let timeoutMs := ((finiteOnly perHostTimeoutMs).map (atLeast 200)).getD (.fin 900)
      let workers ← eval (scanWorkers concurrency)
      let probes ← call (.probeHosts ips key timeoutMs workers)
      return lastOr (scanMatch uuid targetMac) none probes

/-- No caller says how many workers there are. -/
lemma resolveHostByUuidScan_eq (uuid cidr : String) (key : Json) (perHostTimeoutMs : Option Number)
    (targetMac : Option String) : resolveHostByUuidScan uuid cidr key perHostTimeoutMs targetMac
      = scanHosts uuid cidr key perHostTimeoutMs none targetMac := by
  rw [resolveHostByUuidScan, scanHosts]
  rcases listHostsInCidr cidr with _ | _ | _ <;> rfl

section

variable {cidr : String} {ips : List String} {concurrency : Option Number} {n : ℕ} {uuid : String}
  {targetMac : Option String} {p : WorkerPool String HostOutcome (Option (String × Option String))}

/-- The function returns what the workers have found. -/
lemma scanHosts_run {env : Environment} (hcidr : listHostsInCidr cidr = .ok ips)
    (hn : scanWorkers concurrency = .ok n) (h : p.Inv (scanRules uuid targetMac) ips n none)
    (henv : ∀ tr key timeoutMs, env tr (.probeHosts ips key timeoutMs n) = probesOf p)
    (key : Json) (perHostTimeoutMs : Option Number) :
    (Prog.run env (scanHosts uuid cidr key perHostTimeoutMs concurrency targetMac).run).1
      = .ok p.shared := by
  rw [shared_eq_lastOr h, scanHosts, hcidr]
  cases ips with
  | nil =>
      have hnone : p.handled = [] := by
        have hle := h.handled_subperm.length_le
        simpa using hle
      rw [probesOf, hnone]
      rfl
  | cons ip rest =>
      rw [hn, ← henv [] key (((finiteOnly perHostTimeoutMs).map (atLeast 200)).getD (.fin 900))]
      rfl

/-- **The scan** of an accepted range, in every run of its workers: no address is probed twice; the
workers come to their ends, after at most one step for each address; and when they have, the result
is right, and the function returns it. -/
theorem scan_finds_device (hcidr : listHostsInCidr cidr = .ok ips)
    (hn : scanWorkers concurrency = .ok n)
    (h : Reaches (step (scanRules uuid targetMac)) Always (startScan uuid targetMac ips n) p) :
    p.begun.Nodup ∧ p.begun ⊆ ips ∧ p.handled.length ≤ ips.length
      ∧ (∃ p', Reaches (step (scanRules uuid targetMac)) Always p p' ∧ p'.Finished)
      ∧ (p.Finished → (p.handled.map Prod.fst).Perm p.begun ∧ ScanResult uuid targetMac ips p
        ∧ ∀ (env : Environment) (key : Json) (perHostTimeoutMs : Option Number),
          (∀ tr key timeoutMs, env tr (.probeHosts ips key timeoutMs n) = probesOf p) →
          (Prog.run env (scanHosts uuid cidr key perHostTimeoutMs concurrency targetMac).run).1
            = .ok p.shared) := by
  have hinv := inv_of_reaches h
  have hbegun := hinv.begun_eq
  have hn' := scanWorkers_pos hn
  refine ⟨?_, ?_, ?_, exists_finished none hinv, fun hfinished => ⟨?_, ?_, ?_⟩⟩
  · rw [hbegun]
    exact (nodup_listHostsInCidr hcidr).sublist (List.take_sublist _ _)
  · rw [hbegun]
    exact List.take_subset _ _
  · have hle := hinv.handled_subperm.length_le
    rwa [List.length_map] at hle
  · exact (hinv.finished hfinished hn').1
  · exact scanResult_of_finished hinv hfinished hn'
  · exact fun env key perHostTimeoutMs henv => scanHosts_run hcidr hn hinv henv key perHostTimeoutMs

end

/-- A reply with a uuid. -/
def replyOf (uuid : String) : Json :=
  .obj [("payload", .obj [("all", .obj [("system", .obj [("hardware",
    .obj [("uuid", .str uuid)])])])])]

/-- One worker: the first address does not answer, the second one does. -/
theorem scan_finds_device_second :
    ∃ p : WorkerPool String HostOutcome (Option (String × Option String)),
    p.shared = some ("10.0.0.2", none) ∧ p.begun.Nodup
      ∧ ScanResult "u" none ["10.0.0.1", "10.0.0.2"] p := by
  obtain ⟨p, hp⟩ : ∃ p, run (step (scanRules "u" none)) [(0, none), (0, some (replyOf "u", "t"))]
      (startScan "u" none ["10.0.0.1", "10.0.0.2"] 1) = some p := ⟨_, rfl⟩
  have hcidr : listHostsInCidr "10.0.0.0/30" = .ok ["10.0.0.1", "10.0.0.2"] := by decide +kernel
  have hn : scanWorkers (some (.fin 1)) = .ok 1 := by decide +kernel
  obtain ⟨hnodup, -, -, -, hend⟩ :=
    scan_finds_device hcidr hn (reaches_run _ (along_always _ _) hp)
  obtain rfl := Option.some.inj hp
  exact ⟨_, rfl, hnodup, (hend (fun w hw => List.mem_singleton.mp hw)).2.1⟩

end Merossity
