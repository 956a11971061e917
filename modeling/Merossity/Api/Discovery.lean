import Merossity.Api.HostMacs
import Merossity.Api.HostScan

/-!
The discovery of `api/discover-hosts.ts`, with its workers.

* `discoverRules` is the body of a worker: it never stops early, and assigns the host of every
  device that answers.
* `DiscoversAll` says that every address has been probed, once, and that the map has one entry for
  each uuid that answered.
* `discovers_all_iff`: an answer without an error means this, except for a number of workers that
  is no number, and for a device whose uuid is `__proto__`.
-/

namespace Merossity

open Js Machine WorkerPool

/-! ### The workers -/

/-- A worker assigns the entry of the device that answered. -/
def discoverRules : Rules String HostOutcome Fields where
  handle found ip outcome := match outcome with
    | none => found
    | some (resp, time) => match foundHost ⟨ip, resp, time⟩ with
      | some entry => assign found entry.1 entry.2
      | none => found
  stop _ := false
  lasting _ _ _ h := h

/-- The workers of a discovery have started. -/
def startDiscovery (ips : List String) (n : ℕ) : WorkerPool String HostOutcome Fields :=
  start discoverRules ips [] n

/-- The object has the entries of the responses, in the order in which they were handled. -/
lemma foldl_discover (handled : List (String × HostOutcome)) :
    handled.foldl (fun s e => discoverRules.handle s e.1 e.2) [] =
      foundMap ((handled.filterMap fun e => e.2.map fun o => (⟨e.1, o.1, o.2⟩ : Probe)).filterMap
        foundHost) := by
  induction handled using List.reverseRecOn with
  | nil => rfl
  | append_singleton handled e ih =>
      obtain ⟨ip, outcome⟩ := e
      rw [List.foldl_append, ih, List.filterMap_append, List.filterMap_append, foundMap, foundMap,
        List.foldl_append]
      cases outcome with
      | none => rfl
      | some o =>
          simp only [List.foldl_cons, List.foldl_nil, discoverRules, List.filterMap_cons,
            List.filterMap_nil, Option.map_some]
          cases foundHost ⟨ip, o.1, o.2⟩ <;> rfl

/-! ### The map -/

section

variable {ips : List String} {n : ℕ} {p : WorkerPool String HostOutcome Fields}

/-- A device has answered with the uuid. -/
def Replied (p : WorkerPool String HostOutcome Fields) (uuid : String) : Prop :=
  ∃ ip resp time, (ip, some (resp, time)) ∈ p.handled ∧ extractLanUuid resp = some uuid

lemma shared_eq_foundMap (h : p.Inv discoverRules ips n []) :
    p.shared = foundMap ((probesOf p).filterMap foundHost) :=
  h.shared_eq.trans (foldl_discover p.handled)

lemma foundHost_eq_some {probe : Probe} {uuid : String} {entry : Json}
    (h : foundHost probe = some (uuid, entry)) :
    extractLanUuid probe.resp = some uuid ∧ entry.get? "host" = some (.str probe.ip) := by
  obtain ⟨uuid', huuid, heq⟩ := Option.map_eq_some_iff.mp h
  obtain ⟨rfl, rfl⟩ := Prod.mk.inj heq
  exact ⟨huuid, rfl⟩

/-- The entries of the responses with a uuid. -/
lemma mem_found_iff {uuid : String} :
    (∃ e ∈ (probesOf p).filterMap foundHost, e.1 = uuid) ↔ Replied p uuid := by
  constructor
  · rintro ⟨⟨_, entry⟩, he, rfl⟩
    obtain ⟨probe, hprobe, hfound⟩ := List.mem_filterMap.mp he
    exact ⟨_, _, _, mem_probesOf_iff.mp hprobe, (foundHost_eq_some hfound).1⟩
  · rintro ⟨ip, resp, time, hmem, huuid⟩
    obtain ⟨entry, hfound⟩ : ∃ entry, foundHost ⟨ip, resp, time⟩ = some (uuid, entry) := by
      rw [foundHost, huuid]
      exact ⟨_, rfl⟩
    exact ⟨_, List.mem_filterMap.mpr ⟨_, mem_probesOf_iff.mpr hmem, hfound⟩, rfl⟩

/-- The object has an entry for every uuid that answered but `__proto__`. -/
lemma mem_keys_shared_iff (h : p.Inv discoverRules ips n []) (uuid : String) :
    uuid ∈ p.shared.map Prod.fst ↔ uuid ≠ "__proto__" ∧ Replied p uuid := by
  have hnone : lastOr (fun e : String × Json => if e.1 = uuid then some e.2 else none) none
      ((probesOf p).filterMap foundHost) = none ↔ ¬ Replied p uuid := by
    rw [lastOr_eq_none_iff, ← mem_found_iff, not_exists]
    refine forall_congr' fun e => ?_
    rw [not_and]
    refine imp_congr_right fun _ => ?_
    by_cases he : e.1 = uuid <;> simp [he]
  rw [← not_iff_not, ← Assoc.get_eq_none_iff, shared_eq_foundMap h, get_foundMap]
  by_cases hproto : uuid = "__proto__"
  · simp [hproto]
  · rw [if_neg hproto, hnone]
    simp [hproto]

/-- The host of an entry has answered with its uuid. -/
lemma host_of_get_shared (h : p.Inv discoverRules ips n []) {uuid : String} {entry : Json}
    (hget : Assoc.get p.shared uuid = some entry) : ∃ ip resp time,
      (ip, some (resp, time)) ∈ p.handled ∧ extractLanUuid resp = some uuid
        ∧ entry.get? "host" = some (.str ip) := by
  rw [shared_eq_foundMap h, get_foundMap] at hget
  split at hget
  · cases hget
  · obtain ⟨⟨uuid', entry'⟩, he, heq⟩ := lastOr_eq_some hget
    rw [Option.ite_none_right_eq_some] at heq
    obtain ⟨rfl, heq⟩ := heq
    obtain rfl := Option.some.inj heq
    obtain ⟨probe, hprobe, hfound⟩ := List.mem_filterMap.mp he
    obtain ⟨huuid, hhost⟩ := foundHost_eq_some hfound
    exact ⟨_, _, _, mem_probesOf_iff.mp hprobe, huuid, hhost⟩

/-- Every address has been probed, once; the map has one entry for each uuid that answered, with an
address that answered with it; and these are counted. -/
structure DiscoversAll (ips : List String) (p : WorkerPool String HostOutcome Fields)
    (hosts : Fields) (count : ℕ) : Prop where
  probed : p.begun.Nodup ∧ ∀ ip, ip ∈ p.begun ↔ ip ∈ ips
  handled : (p.handled.map Prod.fst).Perm ips
  keys : (hosts.map Prod.fst).Nodup
  mem_iff : ∀ uuid, uuid ∈ hosts.map Prod.fst ↔ Replied p uuid
  host : ∀ uuid entry, Assoc.get hosts uuid = some entry → ∃ ip resp time,
    (ip, some (resp, time)) ∈ p.handled ∧ extractLanUuid resp = some uuid
      ∧ entry.get? "host" = some (.str ip)
  count_eq : count = hosts.length

/-- Without workers nothing happens. -/
lemma eq_start_of_reaches_zero {p : WorkerPool String HostOutcome Fields}
    (h : Reaches (step discoverRules) Always (startDiscovery ips 0) p) :
    p = startDiscovery ips 0 := by
  refine h.invariant (I := fun p => p = startDiscovery ips 0) rfl ?_
  rintro _ ⟨w, r⟩ p' rfl _ hstep
  cases hstep

/-- The workers have done their work if there are any, or nothing is to be done. -/
lemma discoversAll_iff (hnodup : ips.Nodup)
    (h : Reaches (step discoverRules) Always (startDiscovery ips n) p) (hfinished : p.Finished) :
    DiscoversAll ips p p.shared p.shared.length ↔
      (n = 0 → ips = []) ∧ ¬ Replied p "__proto__" := by
  have hinv : p.Inv discoverRules ips n [] := inv_of_reaches h
  constructor
  · intro hall
    constructor
    · rintro rfl
      obtain rfl := eq_start_of_reaches_zero h
      exact List.nil_perm.mp hall.handled
    · exact fun hproto => ((mem_keys_shared_iff hinv _).mp ((hall.mem_iff _).mpr hproto)).1 rfl
  · rintro ⟨hworkers, hproto⟩
    obtain ⟨hperm, hbegun⟩ : (p.handled.map Prod.fst).Perm ips ∧ p.begun = ips := by
      by_cases hn : n = 0
      · subst hn
        obtain rfl := hworkers rfl
        obtain rfl := eq_start_of_reaches_zero h
        exact ⟨.nil, rfl⟩
      · obtain ⟨hperm, hstop | hbegun⟩ := hinv.finished hfinished hn
        · cases hstop
        · exact ⟨hbegun ▸ hperm, hbegun⟩
    refine ⟨⟨hbegun ▸ hnodup, fun ip => by rw [hbegun]⟩, hperm, ?_, fun uuid => ?_,
      fun uuid entry hget => host_of_get_shared hinv hget, rfl⟩
    · rw [shared_eq_foundMap hinv]
      exact nodup_foundMap _
    · rw [mem_keys_shared_iff hinv]
      refine and_iff_right_of_imp ?_
      rintro hanswered rfl
      exact hproto hanswered

end

/-! ### The handler -/

/-- There is no worker exactly if the number of workers is no number. -/
lemma workerCount_eq_zero_iff {concurrency : Option Number} {n : ℕ}
    (h : workerCount (concurrency.getD (.fin 24)) = .ok n) : n = 0 ↔ concurrency = some .nan := by
  have hpos : ∀ m : Number, workerCount m = .ok n → (n = 0 ↔ m = .nan) := by
    intro m hm
    cases m with
    | fin q =>
        rw [workerCount] at hm
        split at hm
        · cases hm
        · obtain rfl := Except.ok.inj hm
          refine iff_of_false (by omega) (by simp)
    | inf negative => cases negative <;> cases hm; simp
    | nan => cases hm; simp
  rw [hpos _ h]
  cases concurrency <;> simp

/-- The workers of the runs that surroundings choose: they have all ended. -/
def Conducts (env : Environment)
    (scan : List String → ℕ → WorkerPool String HostOutcome Fields) : Prop :=
  ∀ ips n, Reaches (step discoverRules) Always (startDiscovery ips n) (scan ips n)
    ∧ (scan ips n).Finished
    ∧ ∀ tr key timeoutMs, env tr (.probeHosts ips key timeoutMs n) = probesOf (scan ips n)

/-- The handler answers with the entries that its workers have made. -/
lemma exec_probeAll {env : Environment}
    {scan : List String → ℕ → WorkerPool String HostOutcome Fields} (hscan : Conducts env scan)
    (ips : List String) (key : Json) (timeoutMs : Number) (n : ℕ)
    (tr : List (Prog.Event Call Reply)) :
    (Prog.exec (Prog.recording env) (probeAll ips key timeoutMs n).run tr).1
      = .ok (probesOf (scan ips n)) := by
  obtain ⟨hreach, -, henv⟩ := hscan ips n
  rw [probeAll]
  split
  next hn =>
    subst hn
    rw [eq_start_of_reaches_zero hreach]
    rfl
  next => exact congrArg Except.ok (henv tr key timeoutMs)

/-- What the handler answers, and from what. -/
lemma exists_scan_of_isOk {req : Request} {env : Environment}
    {scan : List String → ℕ → WorkerPool String HostOutcome Fields} (hscan : Conducts env scan)
    {answer : Response} (h : (Prog.run env (createDiscoverHostsHandler req).run).1 = .ok answer)
    (hok : answer.isOk = true) : ∃ text cidr ips concurrency n,
      truthyText ((parseJsonBody req).get? "cidr") = .ok text ∧ (text ≠ "" → cidr = text)
        ∧ listHostsInCidr cidr = .ok ips
        ∧ optionalNumber ((parseJsonBody req).get? "concurrency") = .ok concurrency
        ∧ workerCount (concurrency.getD (.fin 24)) = .ok n
        ∧ answer = apiOk [("cidr", .str cidr), ("count", .num (.fin (scan ips n).shared.length)),
          ("hosts", .obj (scan ips n).shared)] := by
  rw [createDiscoverHostsHandler] at h
  obtain ⟨text, htext, h⟩ := Prog.exec_bind_eq_ok h
  obtain ⟨cidr, hcidr, h⟩ := Prog.exec_bind_eq_ok h
  obtain ⟨perHostTimeoutMs, -, h⟩ := Prog.exec_bind_eq_ok h
  obtain ⟨concurrency, hconcurrency, h⟩ := Prog.exec_bind_eq_ok h
  replace htext := eq_ok_of_exec_eval htext
  replace hconcurrency := eq_ok_of_exec_eval hconcurrency
  have hgiven : text ≠ "" → cidr = text := by
    intro hne
    rw [effectiveCidr, if_pos hne] at hcidr
    exact (eq_of_exec_pure hcidr).symm
  split at h
  next =>
    obtain rfl := eq_of_exec_pure h
    cases hok
  next =>
    obtain ⟨key, -, h⟩ := Prog.exec_bind_eq_ok h
    obtain ⟨_, -, h⟩ := Prog.exec_bind_eq_ok h
    split at h
    next =>
      obtain rfl := eq_of_exec_pure h
      cases hok
    next ips hips =>
      obtain ⟨n, hn, h⟩ := Prog.exec_bind_eq_ok h
      replace hn := eq_ok_of_exec_eval hn
      obtain ⟨probes, hprobes, h⟩ := Prog.exec_bind_eq_ok h
      rw [exec_probeAll hscan] at hprobes
      obtain rfl := Except.ok.inj hprobes
      obtain ⟨cfg, -, h⟩ := Prog.exec_bind_eq_ok h
      obtain ⟨_, -, h⟩ := Prog.exec_bind_eq_ok h
      obtain rfl := eq_of_exec_pure h
      refine ⟨text, cidr, ips, concurrency, n, htext, hgiven, hips, hconcurrency, hn, ?_⟩
      rw [shared_eq_foundMap (inv_of_reaches (hscan ips n).1)]

/-- **A discovery** that answers without an error, in every order in which the probes complete: it
has probed every address once and reports every device, exactly if `concurrency` is a number or
there is no address, and no device has the uuid `__proto__`. -/
theorem discovers_all_iff {req : Request} {env : Environment}
    {scan : List String → ℕ → WorkerPool String HostOutcome Fields} (hscan : Conducts env scan)
    {answer : Response} (h : (Prog.run env (createDiscoverHostsHandler req).run).1 = .ok answer)
    (hok : answer.isOk = true) : ∃ text cidr ips concurrency n hosts, ∃ count : ℕ,
      truthyText ((parseJsonBody req).get? "cidr") = .ok text ∧ (text ≠ "" → cidr = text)
        ∧ listHostsInCidr cidr = .ok ips
        ∧ optionalNumber ((parseJsonBody req).get? "concurrency") = .ok concurrency
        ∧ workerCount (concurrency.getD (.fin 24)) = .ok n
        ∧ answer = apiOk [("cidr", .str cidr), ("count", .num (.fin count)), ("hosts", .obj hosts)]
        ∧ (DiscoversAll ips (scan ips n) hosts count ↔
          (concurrency = some .nan → ips = []) ∧ ¬ Replied (scan ips n) "__proto__") := by
  obtain ⟨text, cidr, ips, concurrency, n, htext, hcidr, hips, hconcurrency, hn, rfl⟩ :=
    exists_scan_of_isOk hscan h hok
  obtain ⟨hreach, hfinished, -⟩ := hscan ips n
  refine ⟨text, cidr, ips, concurrency, n, _, _, htext, hcidr, hips, hconcurrency, hn, rfl, ?_⟩
  rw [discoversAll_iff (nodup_listHostsInCidr hips) hreach hfinished, workerCount_eq_zero_iff hn]

/-- Surroundings with a key, in which the probes go as `scan` says. -/
def conducted (scan : List String → ℕ → WorkerPool String HostOutcome Fields) : Environment
  | _, .probeHosts ips _ _ n => probesOf (scan ips n)
  | _, .env _ => some "k"
  | _, c => silence c

/-- Every run of the workers is one that surroundings choose. -/
lemma exists_conducts {ips : List String} {n : ℕ} {p : WorkerPool String HostOutcome Fields}
    (hp : Reaches (step discoverRules) Always (startDiscovery ips n) p) (hfinished : p.Finished) :
    ∃ scan, Conducts (conducted scan) scan ∧ scan ips n = p := by
  have hscan : ∀ ips' n', ∃ p', Reaches (step discoverRules) Always (startDiscovery ips' n') p'
      ∧ p'.Finished ∧ (ips' = ips → n' = n → p' = p) := by
    intro ips' n'
    by_cases heq : ips' = ips ∧ n' = n
    · obtain ⟨rfl, rfl⟩ := heq
      exact ⟨p, hp, hfinished, fun _ _ => rfl⟩
    · obtain ⟨p', hp', hfinished'⟩ := exists_finished none (inv_start n')
      exact ⟨p', hp', hfinished', fun hips hn => absurd ⟨hips, hn⟩ heq⟩
  choose scan hreach hend heq using hscan
  exact ⟨scan, fun ips' n' => ⟨hreach ips' n', hend ips' n', fun _ _ _ => rfl⟩, heq ips n rfl rfl⟩

/-- A range of two addresses. -/
def discoverRequest (concurrency : Json) : Request :=
  ⟨"application/json", some (.obj [("cidr", .str "10.0.0.0/30"), ("concurrency", concurrency)])⟩

/-- One worker has probed them, and both devices have answered. -/
def discoveredTwo : WorkerPool String HostOutcome Fields where
  jobs := ["10.0.0.1", "10.0.0.2"]
  next := 3
  workers := [none]
  shared := [("u", .obj [("host", .str "10.0.0.1"), ("updatedAt", .str "t")]),
    ("v", .obj [("host", .str "10.0.0.2"), ("updatedAt", .str "t")])]
  begun := ["10.0.0.1", "10.0.0.2"]
  handled := [("10.0.0.1", some (replyOf "u", "t")), ("10.0.0.2", some (replyOf "v", "t"))]

/-- With one worker, both devices are reported. -/
theorem discovers_all_two : ∃ env scan, ∃ hosts : Fields, ∃ count : ℕ, Conducts env scan
    ∧ (Prog.run env (createDiscoverHostsHandler (discoverRequest (.num (.fin 1)))).run).1
      = .ok (apiOk [("cidr", .str "10.0.0.0/30"), ("count", .num (.fin count)),
        ("hosts", .obj hosts)])
    ∧ DiscoversAll ["10.0.0.1", "10.0.0.2"] discoveredTwo hosts count := by
  have hrun : run (step discoverRules) [(0, some (replyOf "u", "t")), (0, some (replyOf "v", "t"))]
      (startDiscovery ["10.0.0.1", "10.0.0.2"] 1) = some discoveredTwo := by rfl
  obtain ⟨scan, hscan, heq⟩ := exists_conducts (reaches_run _ (along_always _ _) hrun)
    fun w hw => List.mem_singleton.mp hw
  obtain ⟨answer, hanswer, hok⟩ : ∃ answer, (Prog.run (conducted scan)
      (createDiscoverHostsHandler (discoverRequest (.num (.fin 1)))).run).1 = .ok answer
      ∧ answer.isOk = true := ⟨_, rfl, rfl⟩
  obtain ⟨text, cidr, ips, concurrency, n, hosts, count, htext, hcidr, hips, hconcurrency, hn, rfl,
    hiff⟩ := discovers_all_iff hscan hanswer hok
  obtain rfl : "10.0.0.0/30" = text := Except.ok.inj htext
  obtain rfl := hcidr (by decide)
  obtain rfl : ["10.0.0.1", "10.0.0.2"] = ips :=
    Except.ok.inj (Eq.trans (by decide +kernel) hips)
  obtain rfl : some (.fin 1) = concurrency := Except.ok.inj hconcurrency
  obtain rfl : 1 = n := Except.ok.inj hn
  rw [heq] at hiff
  refine ⟨_, scan, hosts, count, hscan, hanswer, hiff.mpr ⟨(by intro h; cases h), ?_⟩⟩
  rintro ⟨ip, resp, time, hmem, huuid⟩
  simp only [discoveredTwo, List.mem_cons, Prod.mk.injEq, Option.some.injEq, List.not_mem_nil,
    or_false] at hmem
  obtain ⟨-, rfl, -⟩ | ⟨-, rfl, -⟩ := hmem <;> exact absurd huuid (by decide +kernel)

/-- With the number of workers `"abc"` nothing is probed, and the answer is that there is no
device. -/
theorem not_discoversAll_of_text : ∃ env scan, Conducts env scan
    ∧ (Prog.run env (createDiscoverHostsHandler (discoverRequest (.str "abc"))).run).1
      = .ok (apiOk [("cidr", .str "10.0.0.0/30"), ("count", .num (.fin (0 : ℕ))),
        ("hosts", .obj [])])
    ∧ listHostsInCidr "10.0.0.0/30" = .ok ["10.0.0.1", "10.0.0.2"]
    ∧ ¬ DiscoversAll ["10.0.0.1", "10.0.0.2"] (scan ["10.0.0.1", "10.0.0.2"] 0) [] 0 := by
  obtain ⟨scan, hscan, heq⟩ := exists_conducts
    (Reaches.refl (s := startDiscovery ["10.0.0.1", "10.0.0.2"] 0)) fun w hw => by cases hw
  refine ⟨_, scan, hscan, rfl, by decide +kernel, fun hall => ?_⟩
  have hperm := hall.handled
  rw [heq] at hperm
  cases hperm.length_eq

end Merossity
