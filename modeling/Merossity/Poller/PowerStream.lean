import Merossity.Poller.Subscriber

/-!
A subscriber of the measurements.

* `powerView` is what is shown of a device in a map of measurements, and `seePower` what an event
  makes of it. `powerView_step`: the events of a step make of what is shown before it what is shown
  after it, as long as no device `movesUnnoticed`.
* `PowerSubscription` is the poller with a subscriber that overwrites its map with what it
  receives, and that may be disconnected at any time.
* `power_stream`: such a subscriber shows what the poller has, once it has received what it was
  sent. `power_stream_misses_move`: not if a device has moved and measures the same values.
-/

namespace Merossity

open Js Machine

/-! ### What is shown of a device -/

/-- What is shown of a device in a map of measurements. -/
def powerView (readings : OrdMap String DevicePowerDto) (uuid : String) :
    Option Poller.PowerReading :=
  (readings.get uuid).map DevicePowerDto.shown

/-- What an entry makes of what is shown of a device. -/
def seeReading (uuid : String) : Option Poller.PowerReading → DevicePowerDto →
    Option Poller.PowerReading :=
  Replica.overwrite DevicePowerDto.uuid DevicePowerDto.shown uuid

/-- What an event makes of it. No client listens to `device_power_stale`. -/
def seePower (uuid : String) (v : Option Poller.PowerReading) :
    StreamEvent → Option Poller.PowerReading
  | .powerSnapshot readings => readings.foldl (seeReading uuid) v
  | .devicePower r => seeReading uuid v r
  | _ => v

/-- A device that is shown stays shown. -/
lemma isSome_foldl_seePower {uuid : String} {v : Option Poller.PowerReading}
    (events : List StreamEvent) (hv : v.isSome) : (events.foldl (seePower uuid) v).isSome := by
  refine List.foldlRecOn (motive := fun v => v.isSome = true) events (seePower uuid) hv
    fun v hv e _ => ?_
  cases e with
  | powerSnapshot readings => exact Replica.isSome_foldl_overwrite readings hv
  | devicePower r => exact Replica.isSome_overwrite hv
  | _ => exact hv

namespace Poller

/-- The snapshot shows the measurements. -/
lemma seePower_greeting [Runtime] {p : Poller} (hp : p.PowerKept) {uuid : String}
    {v : Option PowerReading} (hv : v.isSome → (powerView p.powerByUuid uuid).isSome) :
    p.greeting.foldl (seePower uuid) v = powerView p.powerByUuid uuid := by
  obtain ⟨states, sorted, hperm, hgreeting⟩ : ∃ states sorted,
      sorted.Perm p.powerByUuid.values ∧
        p.greeting = [.snapshot states, .powerSnapshot sorted, .pollerHealth] :=
    ⟨_, _, List.perm_insertionSort _ _, rfl⟩
  rw [hgreeting]
  exact Replica.foldl_overwrite_snapshot hp.key hperm hv

/-- The events of a telemetry poll that ends show its entry, if it is a change. -/
lemma foldl_powerEvents {p : Poller} {a : Act} {m : Measurement} (hm : p.measurement a = some m)
    (uuid : String) (v : Option PowerReading) : (p.powerEvents a).foldl (seePower uuid) v =
      if powerChanged (p.powerByUuid.get m.uuid) (p.nextPower m) then
        seeReading uuid v (p.nextPower m) else v := by
  obtain ⟨key, reason, outcome, now⟩ := m
  rw [powerEvents, hm]
  cases outcome with
  | ok read =>
      dsimp only
      split_ifs <;> rfl
  | error e =>
      obtain ⟨became, hevents⟩ := @powerFailureEvents_eq (p.powerByUuid.get key)
        (p.nextPower ⟨key, reason, .error e, now⟩) rfl
      dsimp only
      rw [hevents]
      split_ifs <;> rfl

/-- **The events of a step.** They make of what is shown of the measurements before the step what
is shown after it, unless a device moves unnoticed. -/
theorem powerView_step [Runtime] {p p' : Poller} {a : Act} (hp : p.PowerKept)
    (h : p.step a = some p') (hplace : ∀ m, p.measurement a = some m → p.movesUnnoticed m = false)
    (uuid : String) : powerView p'.powerByUuid uuid =
      (p.powerEvents a).foldl (seePower uuid) (powerView p.powerByUuid uuid) := by
  have hpower := powerByUuid_step h
  cases hm : p.measurement a with
  | none =>
      rw [hm] at hpower
      rw [powerEvents, hm, show p'.powerByUuid = p.powerByUuid from hpower]
      rfl
  | some m =>
      rw [hm] at hpower
      have hstored : p'.powerByUuid = p.powerByUuid.set (p.nextPower m).uuid (p.nextPower m) := by
        rw [nextPower_uuid]
        exact hpower
      have hset : powerView p'.powerByUuid uuid =
          seeReading uuid (powerView p.powerByUuid uuid) (p.nextPower m) := by
        rw [powerView, hstored]
        exact Replica.shown_set p.powerByUuid (p.nextPower m)
      rw [hset, foldl_powerEvents hm]
      split_ifs with hchanged
      · rfl
      · -- what is not announced is shown already
        obtain ⟨prev, hprev⟩ : ∃ prev, p.powerByUuid.get m.uuid = some prev := by
          cases hprev : p.powerByUuid.get m.uuid with
          | some prev => exact ⟨prev, rfl⟩
          | none =>
              rw [hprev] at hchanged
              exact absurd rfl hchanged
        rw [hprev, Bool.not_eq_true] at hchanged
        have hsame := shown_of_unchanged hp hprev (hplace m hm) hchanged
        rw [seeReading, Replica.overwrite, nextPower_uuid]
        split_ifs with hkey
        · rw [powerView, ← hkey, hprev, Option.map_some, hsame]
        · rfl

/-! ### Connections -/

/-- A client that shows `v` of a device will show what the poller has once it has received what its
connection was sent, and shows nothing of a device that the poller does not have. -/
structure FollowsPower (p : Poller) (link : Option Link) (uuid : String)
    (v : Option PowerReading) : Prop where
  shows : ∀ l, link = some l → ∃ sent, p.subscribers.get l.id = some sent ∧
    l.received ≤ sent.length ∧
      Replica.pending (seePower uuid) v sent l.received = powerView p.powerByUuid uuid
  known : v.isSome → (powerView p.powerByUuid uuid).isSome

section

variable {p p' : Poller} {uuid : String} {v : Option PowerReading}

/-- An event is received. -/
lemma FollowsPower.receive {l : Link} {sent : List StreamEvent} {e : StreamEvent}
    (h : p.FollowsPower (some l) uuid v) (hsent : p.subscribers.get l.id = some sent)
    (he : sent[l.received]? = some e) :
    p.FollowsPower (some { l with received := l.received + 1 }) uuid (seePower uuid v e) := by
  have hshows := WillSee.receive h.shows hsent he
  refine ⟨hshows, fun hv => ?_⟩
  obtain ⟨sent, -, -, hpending⟩ := hshows _ rfl
  rw [← hpending]
  exact isSome_foldl_seePower _ hv

/-- A connection is opened. -/
lemma FollowsPower.connect [Runtime] (hp : p.PowerKept)
    (hknown : v.isSome → (powerView p.powerByUuid uuid).isSome) :
    p.connect.FollowsPower (some ⟨p.nextSubscriberId, 0⟩) uuid v :=
  ⟨WillSee.connect (seePower_greeting hp hknown), hknown⟩

/-- A step of the poller. -/
lemma FollowsPower.step [Runtime] {a : Act} {link : Option Link}
    (h : p.FollowsPower link uuid v) (hp : p.PowerKept) (hfresh : p.FreshIds)
    (hcancel : ∀ l, link = some l → a ≠ .cancel l.id)
    (hplace : ∀ m, p.measurement a = some m → p.movesUnnoticed m = false)
    (hstep : p.step a = some p') : p'.FollowsPower link uuid v := by
  have hview := powerView_step hp hstep hplace uuid
  have hother : ∀ v e, StreamEvent.isPower e = false → seePower uuid v e = v := by
    intro v e he
    cases e <;> first | rfl | cases he
  refine ⟨WillSee.step h.shows hfresh hcancel hstep fun new _ hpower => ?_, fun hv => ?_⟩
  · rw [hview, ← hpower, Replica.foldl_filter StreamEvent.isPower hother]
  · rw [hview]
    exact isSome_foldl_seePower _ (h.known hv)

end

end Poller

/-! ### A subscriber -/

/-- The poller with a subscriber, which has a connection and a map of measurements. -/
structure PowerSubscription where
  poller : Poller
  link : Option Link
  readings : OrdMap String DevicePowerDto

/-- A subscriber overwrites the entries that an event is about. -/
def applyPowerEvent (readings : OrdMap String DevicePowerDto) :
    StreamEvent → OrdMap String DevicePowerDto
  | .powerSnapshot entries => entries.foldl (fun m r => m.set r.uuid r) readings
  | .devicePower r => readings.set r.uuid r
  | _ => readings

lemma powerView_applyPowerEvent (readings : OrdMap String DevicePowerDto) (e : StreamEvent)
    (uuid : String) :
    powerView (applyPowerEvent readings e) uuid = seePower uuid (powerView readings uuid) e := by
  cases e with
  | powerSnapshot entries => exact Replica.shown_foldl_set entries readings
  | devicePower r => exact Replica.shown_set readings r
  | _ => rfl

namespace PowerSubscription

/-- The subscriber has not connected yet. -/
def init (file : FileText) : PowerSubscription := ⟨.init file, none, .empty⟩

/-- A connection that is lost drops what was not received of it, and the map stays. -/
def step [Runtime] (s : PowerSubscription) : SubscriptionAct → Option PowerSubscription
  | .poller a => (s.poller.step a).map fun p =>
      { s with poller := p, link := s.link.filter fun l => a.cancels ≠ some l.id }
  | .connect =>
      some { s with poller := s.poller.connect, link := some ⟨s.poller.nextSubscriberId, 0⟩ }
  | .receive => match s.link with
    | some l => ((s.poller.subscribers.get l.id).bind fun sent => sent[l.received]?).map fun e =>
        { s with
          link := some { l with received := l.received + 1 }
          readings := applyPowerEvent s.readings e }
    | none => none
  | .disconnect => some { s with link := none }

/-- In a step no device moves unnoticed. -/
def noticesMoves (s : PowerSubscription) : SubscriptionAct → Bool
  | .poller a => (s.poller.measurement a).all fun m => !s.poller.movesUnnoticed m
  | _ => true

def NoticesMoves (s : PowerSubscription) (a : SubscriptionAct) : Prop := s.noticesMoves a = true

/-- The subscriber follows the measurements. -/
structure Inv (s : PowerSubscription) : Prop where
  kept : s.poller.PowerKept
  fresh : s.poller.FreshIds
  follows : ∀ uuid, s.poller.FollowsPower s.link uuid (powerView s.readings uuid)

lemma inv_init (file : FileText) : (init file).Inv where
  kept := Poller.powerKept_init file
  fresh := Poller.freshIds_init file
  follows _ := ⟨fun _ hl => (by cases hl), fun hv => (by cases hv)⟩

variable [Runtime]

lemma Inv.step {s s' : PowerSubscription} {a : SubscriptionAct} (hs : s.Inv)
    (hmoves : s.NoticesMoves a) (h : s.step a = some s') : s'.Inv := by
  cases a with
  | poller a =>
      obtain ⟨p, hp, rfl⟩ := Option.map_eq_some_iff.mp h
      refine ⟨hs.kept.step hp, hs.fresh.step hp, fun uuid => ?_⟩
      have hf : s.poller.FollowsPower (s.link.filter fun l => a.cancels ≠ some l.id) uuid
          (powerView s.readings uuid) :=
        ⟨fun l hl => (hs.follows uuid).shows l (Option.filter_eq_some_iff.mp hl).1,
          (hs.follows uuid).known⟩
      refine hf.step hs.kept hs.fresh (fun l hl => ?_) (fun m hm => ?_) hp
      · rintro rfl
        simpa [Act.cancels] using (Option.filter_eq_some_iff.mp hl).2
      · rw [NoticesMoves, noticesMoves, hm] at hmoves
        simpa using hmoves
  | connect =>
      cases h
      have hp : s.poller.step .connect = some s.poller.connect := rfl
      exact ⟨hs.kept.step hp, hs.fresh.step hp,
        fun uuid => .connect hs.kept (hs.follows uuid).known⟩
  | receive =>
      simp only [PowerSubscription.step] at h
      split at h
      next l hl =>
        obtain ⟨e, he, rfl⟩ := Option.map_eq_some_iff.mp h
        obtain ⟨sent, hsent, he⟩ := Option.bind_eq_some_iff.mp he
        refine ⟨hs.kept, hs.fresh, fun uuid => ?_⟩
        rw [powerView_applyPowerEvent]
        exact (hl ▸ hs.follows uuid).receive hsent he
      next => cases h
  | disconnect =>
      cases h
      exact ⟨hs.kept, hs.fresh, fun uuid => ⟨fun _ hl => (by cases hl), (hs.follows uuid).known⟩⟩

end PowerSubscription

/-- **The stream of measurements.** In every run in which no device moves unnoticed, a subscriber
that has applied the snapshot and all events that its connection was sent has an entry for every
device that the poller has a measurement of and for no other, and the entry shows the same. -/
theorem power_stream [Runtime] (file : FileText) (s : PowerSubscription)
    (h : Reaches PowerSubscription.step PowerSubscription.NoticesMoves
      (PowerSubscription.init file) s) (l : Link) (hl : s.link = some l)
    (sent : List StreamEvent) (hsent : s.poller.subscribers.get l.id = some sent)
    (hall : l.received = sent.length) (uuid : String) :
    (s.readings.get uuid).map DevicePowerDto.shown =
      (s.poller.powerByUuid.get uuid).map DevicePowerDto.shown := by
  have hinv : s.Inv := h.invariant (PowerSubscription.inv_init file)
    fun _ _ _ hs hmoves hstep => hs.step hmoves hstep
  exact Poller.WillSee.eq (hl ▸ (hinv.follows uuid).shows) hsent hall

/-- A configuration with a key and a plug at another address. -/
def plugMoved : FileText :=
  .json (.obj [("cloud", .obj [("key", .str "k")]),
    ("hosts", .obj [("u", .obj [("host", .str "10.0.0.10")])])])

/-- The reply of a plug to `Appliance.Control.Electricity`. -/
def powerReply (power : ℚ) : Json :=
  .obj [("payload", .obj [("electricity", .obj [("power", .num (.fin power))])])]

/-- The `n`-th tick starts polls of a plug, which sends a measurement and no state. -/
def tickMeasures (n : ℕ) (now : ℤ) (power : ℚ) : List Act :=
  [.tick now, .tickSyncs now, .tickGoesOn now,
    .telemetryGoesOn n silence now, .telemetryGoesOn n silence now,
    .telemetryGoesOn n (deviceSends (powerReply power)) now, .telemetryReturns n,
    .pollGoesOn n silence now 0, .pollGoesOn n silence now 0, .pollGoesOn n silence now 0,
    .pollReturns n]

/-- A subscriber receives all events of a run in which the plug moves between two measurements. -/
def measuredMove (power : ℚ) (events : ℕ) : List SubscriptionAct :=
  .connect :: (tickMeasures 0 6000 5000 ++ [Act.fileChanges plugMoved]
    ++ tickMeasures 1 40000 power).map .poller ++ List.replicate events .receive

/-- The move is noticed with another measurement. -/
theorem power_stream_plug : let _ := plainRuntime; ∃ s,
    run PowerSubscription.step (measuredMove 6000 9) (PowerSubscription.init plugConfig) = some s ∧
    (s.readings.get "u").map (fun r => r.host) = some "10.0.0.10" ∧
      (s.readings.get "u").map DevicePowerDto.shown =
        (s.poller.powerByUuid.get "u").map DevicePowerDto.shown := by
  let _ := plainRuntime
  have hlink : (run PowerSubscription.step (measuredMove 6000 9)
      (PowerSubscription.init plugConfig)).map (fun s => (s.link,
        (s.readings.get "u").map (fun r => r.host),
          (s.poller.subscribers.get 1).map List.length)) =
      some (some ⟨1, 9⟩, some "10.0.0.10", some 9) := by decide +kernel
  have hmoves : passes PowerSubscription.step PowerSubscription.noticesMoves (measuredMove 6000 9)
      (PowerSubscription.init plugConfig) = true := by decide +kernel
  obtain ⟨s, hs, hend⟩ := Option.map_eq_some_iff.mp hlink
  obtain ⟨hl, hrest⟩ := Prod.mk.inj hend
  obtain ⟨hhost, hlength⟩ := Prod.mk.inj hrest
  obtain ⟨sent, hsent, hreceived⟩ := Option.map_eq_some_iff.mp hlength
  exact ⟨s, hs, hhost, power_stream plugConfig s (reaches_run _
    (along_of_passes (fun _ _ h => h) _ _ hmoves) hs) _ hl sent hsent hreceived.symm "u"⟩

/-- With the same measurement it is not. -/
theorem power_stream_misses_move :
    ¬ ∀ (_ : Runtime) (file : FileText) (s : PowerSubscription),
      Reaches PowerSubscription.step Always (PowerSubscription.init file) s → ∀ l, s.link = some l →
        ∀ sent, s.poller.subscribers.get l.id = some sent → l.received = sent.length → ∀ uuid,
          (s.readings.get uuid).map DevicePowerDto.shown =
            (s.poller.powerByUuid.get uuid).map DevicePowerDto.shown := by
  intro hall
  let _ := plainRuntime
  have hlink : (run PowerSubscription.step (measuredMove 5000 8)
      (PowerSubscription.init plugConfig)).map (fun s => (s.link,
        ((s.readings.get "u").map fun r => r.host, (s.poller.powerByUuid.get "u").map
          fun r => r.host), (s.poller.subscribers.get 1).map List.length)) =
      some (some ⟨1, 8⟩, (some "10.0.0.9", some "10.0.0.10"), some 8) := by decide +kernel
  obtain ⟨s, hs, hend⟩ := Option.map_eq_some_iff.mp hlink
  obtain ⟨hl, hrest⟩ := Prod.mk.inj hend
  obtain ⟨hhosts, hlength⟩ := Prod.mk.inj hrest
  obtain ⟨hclient, hserver⟩ := Prod.mk.inj hhosts
  obtain ⟨sent, hsent, hreceived⟩ := Option.map_eq_some_iff.mp hlength
  have hsame := hall plainRuntime plugConfig s (reaches_run _ (along_always _ _) hs) _ hl sent hsent
    hreceived.symm "u"
  have hhost := congrArg (Option.map Poller.PowerReading.host) hsame
  rw [Option.map_map, Option.map_map] at hhost
  have hdiffer : some "10.0.0.9" = some "10.0.0.10" := hclient.symm.trans (hhost.trans hserver)
  exact absurd hdiffer (by decide)

end Merossity
