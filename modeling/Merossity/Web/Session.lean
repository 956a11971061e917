import Merossity.Poller.Subscriber
import Merossity.Web.StreamCodec

/-!
The devices page and the poller, with the event stream between them.

* `Session` is the poller, the machine of the page, and the connection by which the page is sent
  the events of the poller. The connection loses nothing, and keeps the order. Other clients call
  the poller too, so that any action of it may happen at any time.
* `InStep` says of a device that the page will show what the poller stores once it has received
  what it was sent. Every step of the poller and of the stream keeps it (`InStep.poller`), and a
  toggle breaks it.
* `agree_at_rest`: when every poll that ends while the two are out of step reports a material
  change, they agree at rest. A device that ignores a command is not reported, and the page goes
  on showing that it has obeyed (`ignored_command`).
-/

namespace Merossity

open Js Machine

/-! ### What is shown of a device -/

/-- What is shown of a device, by the page and by the poller. -/
structure Shown where
  host : String
  kind : Option String
  channel : ℕ
  onoff : Bool
  channels : Option (List LanToggleXState)
  lights : Option (List LanLightState)
  light : Option LanLightState
  timerxDigest : Option (List LanScheduleDigestEntry)
  triggerxDigest : Option (List LanScheduleDigestEntry)
  stale : Bool
  deriving DecidableEq

def DeviceState.shown (s : DeviceState) : Shown :=
  ⟨s.host, s.kind, s.channel, s.onoff, s.channels, s.lights, s.light, s.timerxDigest,
    s.triggerxDigest, s.stale⟩

def DeviceStateDto.shown (s : DeviceStateDto) : Shown :=
  ⟨s.host, some s.kind.text, s.channel, s.onoff, some s.channels, some s.lights, s.light,
    some s.timerxDigest, some s.triggerxDigest, s.stale⟩

/-- What is shown of a state is what is visible of it. -/
def shownOf (v : DeviceReading × Bool) : Shown :=
  ⟨v.1.host, some v.1.kind.text, v.1.channel, v.1.onoff, some v.1.channels, some v.1.lights,
    v.1.light, some v.1.timerxDigest, some v.1.triggerxDigest, v.2⟩

/-- What the page shows of a device. -/
def DevicesContext.shown (c : DevicesContext) (uuid : String) : Option Shown :=
  (c.deviceStates.get uuid).map DeviceState.shown

/-- What the poller stores of a device. -/
def Poller.shown (p : Poller) (uuid : String) : Option Shown :=
  (p.stateByUuid.get uuid).map DeviceStateDto.shown

lemma Poller.shown_eq (p : Poller) (uuid : String) :
    p.shown uuid = (view p.stateByUuid uuid).map shownOf := by
  rw [Poller.shown, view, Option.map_map]
  rfl

/-! ### The events of the stream on the page -/

/-- The event that the page makes of an event of the stream. It does not listen to all of them. -/
def StreamEvent.page : StreamEvent → Option DevicesEvent
  | .snapshot states => some (.monitorSnapshot (states.map DeviceStateDto.streamState))
  | .powerSnapshot readings => some (.monitorPowerSnapshot (readings.map DevicePowerDto.power))
  | .deviceState s => some (.monitorStateReceived s.streamState)
  | .devicePower r => some (.monitorPowerReceived r.power)
  | .deviceStale s => some (.monitorDeviceStale s.streamState)
  | _ => none

/-- The device states that an event tells the page. -/
def StreamEvent.told (e : StreamEvent) : List StreamDeviceState :=
  (e.page.map DevicesEvent.states).getD []

/-- What an event makes of what the page shows of a device. -/
def tellAt (uuid : String) (v : Option Shown) (e : StreamEvent) : Option Shown :=
  ((lastState uuid e.told).map fun s => s.entry.shown).or v

lemma tellAt_of_not_isDevice (uuid : String) (v : Option Shown) (e : StreamEvent)
    (h : e.isDevice = false) : tellAt uuid v e = v := by
  cases e <;> first | rfl | cases h

/-- An event about one state shows it. -/
lemma tellAt_of_told {uuid : String} (v : Option Shown) {e : StreamEvent} {s : DeviceStateDto}
    (he : e.told = [s.streamState]) (huuid : s.uuid = uuid) : tellAt uuid v e = some s.shown := by
  have hkey : s.streamState.uuid = uuid := huuid
  rw [tellAt, he, lastState_cons, if_pos hkey]
  rfl

lemma map_foldl_seeState (uuid : String) (states : List DeviceStateDto) :
    ∀ v, (states.foldl (seeState uuid) v).map shownOf =
      ((lastState uuid (states.map DeviceStateDto.streamState)).map
        fun s => s.entry.shown).or (v.map shownOf) := by
  induction states with
  | nil => exact fun _ => rfl
  | cons s states ih =>
      intro v
      rw [List.foldl_cons, ih, List.map_cons, lastState_cons, seeState]
      cases lastState uuid (states.map DeviceStateDto.streamState) with
      | some s' => rfl
      | none =>
          have huuid : s.streamState.uuid = s.uuid := rfl
          rw [huuid]
          split <;> rfl

/-- The page makes of an event what a passive subscriber makes of it. -/
lemma map_seeAt (uuid : String) (v : Option (DeviceReading × Bool)) (e : StreamEvent) :
    (seeAt uuid v e).map shownOf = tellAt uuid (v.map shownOf) e := by
  cases e with
  | snapshot states => exact map_foldl_seeState uuid states v
  | deviceState s => exact map_foldl_seeState uuid [s] v
  | deviceStale s => exact map_foldl_seeState uuid [s] v
  | _ => rfl

lemma map_foldl_seeAt (uuid : String) (es : List StreamEvent) :
    ∀ v, (es.foldl (seeAt uuid) v).map shownOf = es.foldl (tellAt uuid) (v.map shownOf) := by
  induction es with
  | nil => exact fun _ => rfl
  | cons e es ih =>
      intro v
      rw [List.foldl_cons, List.foldl_cons, ih, map_seeAt]

/-- What was shown before matters only when the events say nothing of the device. -/
lemma foldl_tellAt (uuid : String) (es : List StreamEvent) :
    ∀ v, es.foldl (tellAt uuid) v = (es.foldl (tellAt uuid) none).or v := by
  induction es with
  | nil => exact fun _ => rfl
  | cons e es ih =>
      intro v
      rw [List.foldl_cons, List.foldl_cons, ih, ih (tellAt uuid none e), Option.or_assoc]
      congr 1
      rw [tellAt, tellAt, Option.or_none]

/-- The events that the stream brings. -/
def DevicesEvent.isStream : DevicesEvent → Bool
  | .monitorStateReceived _ => true
  | .monitorDeviceStale _ => true
  | .monitorSnapshot _ => true
  | .monitorPowerSnapshot _ => true
  | .monitorPowerReceived _ => true
  | _ => false

lemma isStream_page {e : StreamEvent} {event : DevicesEvent} (he : e.page = some event) :
    event.isStream = true := by
  cases e <;> cases he <;> rfl

lemma states_of_not_isStream {event : DevicesEvent} (h : event.isStream = false) :
    event.states = [] := by
  cases event <;> first | rfl | exact absurd h.symm Bool.false_ne_true

/-- An event of the stream is handled by the machine itself. -/
lemma send_isStream (d : Devices) {event : DevicesEvent} (h : event.isStream = true) (now : ℤ) :
    d.send event now = d.rootOn event := by
  cases event <;> first
    | exact absurd h Bool.false_ne_true
    | exact congrArg (Devices.rootOn · _) (Devices.operationsOn_eq d now _ fun _ => trivial)

/-- The page makes of an event of the stream what `tellAt` says. -/
lemma send_page {e : StreamEvent} {event : DevicesEvent} (he : e.page = some event) (d : Devices)
    (now : ℤ) (uuid : String) : (d.send event now).operations = d.operations ∧
      (d.send event now).context.shown uuid = tellAt uuid (d.context.shown uuid) e := by
  have htold : e.told = event.states := by
    rw [StreamEvent.told, he]
    rfl
  have hstream := isStream_page he
  have hroot : (d.rootOn event).operations = d.operations ∧
      (d.rootOn event).context.deviceStates
        = mergeStates d.context.deviceStates event.states := by
    cases event <;> first | exact absurd hstream Bool.false_ne_true | exact ⟨rfl, rfl⟩
  rw [send_isStream d hstream now, DevicesContext.shown, hroot.2, get_mergeStates, tellAt, htold]
  refine ⟨hroot.1, ?_⟩
  rw [DevicesContext.shown]
  cases lastState uuid event.states <;> rfl

/-! ### The poller and the page -/

/-- The poller and the page, with the connection of the page. -/
structure Session where
  poller : Poller
  link : Option Link
  devices : Devices

inductive SessionAct where
  | poller (a : Act)
  | page (a : DevicesAct)
  | connect
  | receive (now : ℤ)

namespace Session

def init (file : FileText) (initialCidr : String) : Session :=
  ⟨.init file, none, .init initialCidr⟩

/-- An event reaches the page. -/
def hear (s : Session) (e : StreamEvent) (now : ℤ) : Devices :=
  match e.page with
  | some event => s.devices.send event now
  | none => s.devices

/-- The page connects once, and its stream is not cancelled. The events of the stream reach the
page by `receive` only. -/
def step [Runtime] (s : Session) : SessionAct → Option Session
  | .poller a =>
      if a.cancels.isSome && a.cancels = s.link.map Link.id then none
      else (s.poller.step a).map fun p => { s with poller := p }
  | .page (.send event now) =>
      if event.isStream then none
      else some { s with devices := s.devices.send event now }
  | .page a => (s.devices.step a).map fun d => { s with devices := d }
  | .connect => match s.link with
    | none =>
        some { s with poller := s.poller.connect, link := some ⟨s.poller.nextSubscriberId, 0⟩ }
    | some _ => none
  | .receive now => match s.link with
    | some l => ((s.poller.subscribers.get l.id).bind fun sent => sent[l.received]?).map fun e =>
        { s with
          link := some { l with received := l.received + 1 }
          devices := s.hear e now }
    | none => none

/-- What the page will show of a device once it has received what it was sent. -/
def expected (s : Session) (l : Link) (sent : List StreamEvent) (uuid : String) : Option Shown :=
  Replica.pending (tellAt uuid) (s.devices.context.shown uuid) sent l.received

/-- The page will show what the poller stores of a device. -/
def InStep (s : Session) (uuid : String) : Prop :=
  ∀ l sent, s.link = some l → s.poller.subscribers.get l.id = some sent →
    s.expected l sent uuid = s.poller.shown uuid

/-- The connection of the page is one of the poller. -/
structure Linked (s : Session) : Prop where
  keyed : s.poller.Keyed
  fresh : s.poller.FreshIds
  sent : ∀ l, s.link = some l →
    ∃ sent, s.poller.subscribers.get l.id = some sent ∧ l.received ≤ sent.length

lemma linked_init (file : FileText) (initialCidr : String) : (init file initialCidr).Linked where
  keyed := Poller.keyed_init file
  fresh := Poller.freshIds_init file
  sent _ hl := by cases hl

variable [Runtime] {s s' : Session} {uuid : String}

/-- The events of a step say what it does to what the poller stores. -/
lemma shown_step {p p' : Poller} {a : Act} (h : p.step a = some p') (uuid : String) :
    p'.shown uuid = (p.deviceEvents a).foldl (tellAt uuid) (p.shown uuid) := by
  rw [Poller.shown_eq, Poller.shown_eq, Poller.view_step h uuid, map_foldl_seeAt]

/-- A step of the poller, apart from the stream being cancelled. -/
lemma Linked.poller {a : Act} {p : Poller} (hs : s.Linked) (hp : s.poller.step a = some p)
    (hcancel : ∀ l, s.link = some l → a ≠ .cancel l.id) :
    Linked { s with poller := p } ∧ ∀ l sent', s.link = some l →
      p.subscribers.get l.id = some sent' → ∃ sent, s.poller.subscribers.get l.id = some sent ∧
        ∀ uuid, s.expected l sent' uuid
          = (s.poller.deviceEvents a).foldl (tellAt uuid) (s.expected l sent uuid) := by
  have hgrows : ∀ l, s.link = some l → ∃ sent new, s.poller.subscribers.get l.id = some sent ∧
      l.received ≤ sent.length ∧ p.subscribers.get l.id = some (sent ++ new) ∧
        new.filter StreamEvent.isDevice = s.poller.deviceEvents a := by
    intro l hl
    obtain ⟨sent, hsent, hle⟩ := hs.sent l hl
    have hnew : l.id ≠ s.poller.nextSubscriberId := by
      intro hid
      rw [hs.fresh _ hid.ge] at hsent
      cases hsent
    obtain ⟨new, hsent', hdevice, -⟩ := Poller.step_sent hp hsent (hcancel l hl) hnew
    exact ⟨sent, new, hsent, hle, hsent', hdevice⟩
  refine ⟨⟨hs.keyed.step hp, hs.fresh.step hp, fun l hl => ?_⟩, fun l sent' hl hsent' => ?_⟩
  · obtain ⟨sent, new, -, hle, hsent', -⟩ := hgrows l hl
    refine ⟨_, hsent', ?_⟩
    rw [List.length_append]
    omega
  · obtain ⟨sent, new, hsent, hle, hget, hdevice⟩ := hgrows l hl
    obtain rfl := Option.some.inj (hget.symm.trans hsent')
    refine ⟨sent, hsent, fun uuid => ?_⟩
    rw [expected, Replica.pending_append hle, ← hdevice,
      Replica.foldl_filter StreamEvent.isDevice (tellAt_of_not_isDevice uuid)]
    rfl

/-- The poller and the page stay in step when the poller takes a step. -/
lemma InStep.poller {a : Act} {p : Poller} (h : s.InStep uuid) (hs : s.Linked)
    (hp : s.poller.step a = some p) (hcancel : ∀ l, s.link = some l → a ≠ .cancel l.id) :
    InStep { s with poller := p } uuid := by
  intro l sent' hl hsent'
  obtain ⟨sent, hsent, hexpected⟩ := (hs.poller hp hcancel).2 l sent' hl hsent'
  have hexpected' := hexpected uuid
  rw [h l sent hl hsent, ← shown_step hp uuid] at hexpected'
  exact hexpected'

/-- A poll that reports a material change brings them into step. -/
lemma inStep_of_changed {a : Act} {p : Poller} {c : Completion} (hs : s.Linked)
    (hp : s.poller.step a = some p) (hcancel : ∀ l, s.link = some l → a ≠ .cancel l.id)
    (hc : s.poller.completion a = some c) (huuid : c.uuid = uuid)
    (hchanged : hasMaterialStateChange (s.poller.stateByUuid.get c.uuid) (s.poller.nextState c)
      = true) : InStep { s with poller := p } uuid := by
  intro l sent' hl hsent'
  obtain ⟨sent, -, hexpected⟩ := (hs.poller hp hcancel).2 l sent' hl hsent'
  have hkey : (s.poller.nextState c).uuid = uuid := (Poller.nextState_uuid _ c).trans huuid
  have htold : ∀ v, (s.poller.deviceEvents a).foldl (tellAt uuid) v
      = some (s.poller.nextState c).shown := by
    intro v
    rw [Poller.deviceEvents, hc]
    dsimp only
    rcases Poller.events_of_changed hchanged with hevents | hevents <;> rw [hevents]
    · exact tellAt_of_told v rfl hkey
    · exact tellAt_of_told _ rfl hkey
  have hexpected' := hexpected uuid
  rw [htold, ← htold (s.poller.shown uuid), ← shown_step hp uuid] at hexpected'
  exact hexpected'

omit [Runtime] in
/-- The page changes nothing of what it shows of a device. -/
lemma InStep.page (h : s.InStep uuid) {d : Devices}
    (hshown : d.context.shown uuid = s.devices.context.shown uuid) :
    InStep { s with devices := d } uuid := by
  intro l sent hl hsent
  rw [expected]
  dsimp only
  rw [hshown]
  exact h l sent hl hsent

lemma Linked.connect (hs : s.Linked) :
    Linked { s with poller := s.poller.connect, link := some ⟨s.poller.nextSubscriberId, 0⟩ } := by
  have hp : s.poller.step .connect = some s.poller.connect := rfl
  refine ⟨hs.keyed.step hp, hs.fresh.step hp, fun l hl => ?_⟩
  obtain rfl := Option.some.inj hl
  exact ⟨s.poller.greeting, OrdMap.get_set_self _ _ _, Nat.zero_le _⟩

/-- Opening the connection brings them into step about every device in the store. -/
lemma inStep_connect (hs : s.Linked) (hknown : (s.poller.shown uuid).isSome) :
    InStep { s with poller := s.poller.connect, link := some ⟨s.poller.nextSubscriberId, 0⟩ }
      uuid := by
  intro l sent hl hsent
  obtain rfl := Option.some.inj hl
  have hgreeting : sent = s.poller.greeting :=
    Option.some.inj (hsent.symm.trans (OrdMap.get_set_self _ _ _))
  have hsnapshot : s.poller.greeting.foldl (seeAt uuid) none = view s.poller.stateByUuid uuid :=
    Poller.seeAt_greeting hs.keyed fun hv => by cases hv
  have hshown : s.poller.greeting.foldl (tellAt uuid) none = s.poller.shown uuid := by
    rw [Poller.shown_eq, ← hsnapshot, map_foldl_seeAt]
    rfl
  obtain ⟨x, hx⟩ := Option.isSome_iff_exists.mp hknown
  rw [expected, Replica.pending, List.drop_zero, hgreeting, foldl_tellAt, hshown]
  show (s.poller.shown uuid).or _ = s.poller.shown uuid
  rw [hx]
  rfl

omit [Runtime] in
lemma Linked.receive {l : Link} {sent : List StreamEvent} {e : StreamEvent} {now : ℤ}
    (hs : s.Linked) (hsent : s.poller.subscribers.get l.id = some sent)
    (he : sent[l.received]? = some e) :
    Linked { s with
      link := some { l with received := l.received + 1 }
      devices := s.hear e now } := by
  refine ⟨hs.keyed, hs.fresh, fun l' hl' => ?_⟩
  obtain rfl := Option.some.inj hl'
  exact ⟨sent, hsent, (List.getElem?_eq_some_iff.mp he).1⟩

omit [Runtime] in
/-- An event is received. -/
lemma InStep.receive {l : Link} {sent : List StreamEvent} {e : StreamEvent} {now : ℤ}
    (h : s.InStep uuid) (hl : s.link = some l) (hsent : s.poller.subscribers.get l.id = some sent)
    (he : sent[l.received]? = some e) :
    InStep { s with
      link := some { l with received := l.received + 1 }
      devices := s.hear e now } uuid := by
  intro l' sent' hl' hsent'
  obtain rfl := Option.some.inj hl'
  obtain rfl := Option.some.inj (hsent.symm.trans hsent')
  have hshown : (s.hear e now).context.shown uuid
      = tellAt uuid (s.devices.context.shown uuid) e := by
    rw [hear]
    cases hpage : e.page with
    | some event => exact (send_page hpage s.devices now uuid).2
    | none =>
        rw [tellAt, StreamEvent.told, hpage]
        rfl
  rw [expected]
  dsimp only
  rw [hshown, Replica.pending_apply he]
  exact h l sent hl hsent

end Session

/-! ### Agreement at rest -/

/-- A session, and whether a poll of a device has ended since its last toggle began. -/
structure Observed where
  session : Session
  polled : Bool

namespace Observed

def init (file : FileText) (initialCidr : String) : Observed := ⟨.init file initialCidr, false⟩

/-- A poll of the device ends. -/
def endsPoll (uuid : String) (p : Poller) (a : Act) : Bool :=
  (p.completion a).any fun c => c.uuid = uuid

/-- A toggle of the device begins. -/
def beginsToggle (uuid : String) (d d' : Devices) : Bool :=
  match d.operations, d'.operations with
  | .idle, .toggling input => input.uuid = uuid
  | _, _ => false

/-- A step that leads from `s` to `s'`. -/
def note (uuid : String) (s s' : Session) (polled : Bool) : SessionAct → Bool
  | .poller a => polled || endsPoll uuid s.poller a
  | .page _ => polled && !beginsToggle uuid s.devices s'.devices
  | _ => polled

def step [Runtime] (uuid : String) (o : Observed) (a : SessionAct) : Option Observed :=
  (o.session.step a).map fun s => ⟨s, note uuid o.session s o.polled a⟩

/-- The requests of toggles succeed. -/
def TogglesSucceed (o : Observed) : SessionAct → Prop
  | .page (.operationError _) => ∀ input, o.session.devices.operations ≠ .toggling input
  | _ => True

/-- A poll of the device that ends while the page and the poller are out of step reports a material
change. -/
def Noticed (uuid : String) (o : Observed) : SessionAct → Prop
  | .poller a => ∀ c, o.session.poller.completion a = some c → c.uuid = uuid →
      ¬o.session.InStep uuid → hasMaterialStateChange (o.session.poller.stateByUuid.get c.uuid)
        (o.session.poller.nextState c) = true
  | _ => True

/-- The page has received all that it was sent. -/
def delivered (s : Session) : Bool :=
  match s.link with
  | some l => (s.poller.subscribers.get l.id).map List.length = some l.received
  | none => false

/-- Nothing is under way, and a poll of the device has ended since its last toggle. -/
structure AtRest (o : Observed) : Prop where
  idle : o.session.devices.operations = .idle
  noPoll : o.session.poller.inFlight.entries.size = 0
  delivered : delivered o.session = true
  polled : o.polled = true

instance (o : Observed) : Decidable o.AtRest :=
  decidable_of_iff (o.session.devices.operations = .idle ∧
    o.session.poller.inFlight.entries.size = 0 ∧ delivered o.session = true ∧ o.polled = true)
    ⟨fun h => ⟨h.1, h.2.1, h.2.2.1, h.2.2.2⟩, fun h => ⟨h.1, h.2, h.3, h.4⟩⟩

/-- The page shows what the poller stores of a device. -/
def Agree (o : Observed) (uuid : String) : Prop :=
  ∀ state ∈ o.session.poller.stateByUuid.get uuid,
    o.session.devices.context.shown uuid = some state.shown

instance (o : Observed) (uuid : String) : Decidable (o.Agree uuid) :=
  inferInstanceAs (Decidable (∀ state ∈ o.session.poller.stateByUuid.get uuid, _ = _))

/-- After a poll the page and the poller are in step. -/
structure Inv (uuid : String) (o : Observed) : Prop where
  linked : o.session.Linked
  known : o.polled = true → (o.session.poller.shown uuid).isSome
  inStep : o.polled = true → o.session.InStep uuid

lemma delivered_eq_true {s : Session} (h : delivered s = true) : ∃ l sent, s.link = some l ∧
    s.poller.subscribers.get l.id = some sent ∧ l.received = sent.length := by
  rw [delivered] at h
  split at h
  next l hl =>
    obtain ⟨sent, hsent, hlength⟩ := Option.map_eq_some_iff.mp (of_decide_eq_true h)
    exact ⟨l, sent, hl, hsent, hlength.symm⟩
  next => cases h

lemma inv_init (uuid : String) (file : FileText) (initialCidr : String) :
    (init file initialCidr).Inv uuid :=
  ⟨Session.linked_init file initialCidr, fun h => (by cases h), fun h => (by cases h)⟩

lemma endsPoll_eq_true {uuid : String} {p : Poller} {a : Act} : endsPoll uuid p a = true ↔
    ∃ c, p.completion a = some c ∧ c.uuid = uuid := by
  rw [endsPoll]
  cases p.completion a with
  | none => simp
  | some c => simp

/-- The page changes what it shows of a device only when a toggle of it begins, or one fails. -/
lemma shown_page {d d' : Devices} {a : DevicesAct} {uuid : String} (h : d.step a = some d')
    (hstates : a.states = []) (hbegins : beginsToggle uuid d d' = false)
    (hfails : ∀ input message, a = .operationError message → d.operations ≠ .toggling input) :
    d'.context.shown uuid = d.context.shown uuid := by
  have hget : d'.context.deviceStates.get uuid = d.context.deviceStates.get uuid := by
    cases Devices.moves_of_step h with
    | hears _ _ _ _ hmerge =>
        rw [hmerge, hstates]
        rfl
    | begins _ _ _ _ _ _ _ _ hsame => rw [hsame]
    | toggles uuid' onoff now hidle _ hops _ _ hset =>
        have hne : uuid' ≠ uuid := by
          simpa [beginsToggle, hidle, hops] using hbegins
        rw [hset, OrdMap.get_set_of_ne _ hne]
    | ends _ _ _ _ _ _ hsame => rw [hsame]
    | toggled _ _ _ _ _ hsame => rw [hsame]
    | fails input message htoggling => exact absurd htoggling (hfails input message rfl)
  rw [DevicesContext.shown, hget]
  rfl

variable [Runtime]

/-- The page takes a step of its own. -/
lemma page_step {s s' : Session} {a : DevicesAct} (h : s.step (.page a) = some s') :
    ∃ d, s.devices.step a = some d ∧ a.states = [] ∧ s' = { s with devices := d } := by
  cases a with
  | send event now =>
      simp only [Session.step] at h
      split at h
      next => cases h
      next hstream =>
        exact ⟨_, rfl, states_of_not_isStream (by simpa using hstream), (Option.some.inj h).symm⟩
  | _ =>
      obtain ⟨d, hd, rfl⟩ := Option.map_eq_some_iff.mp h
      exact ⟨d, hd, rfl, rfl⟩

/-- The poller takes a step. -/
lemma Inv.poller {uuid : String} {o : Observed} {a : Act} {p : Poller} (h : o.Inv uuid)
    (hnoticed : o.Noticed uuid (.poller a)) (hp : o.session.poller.step a = some p)
    (hcancel : ∀ l, o.session.link = some l → a ≠ .cancel l.id) :
    Inv uuid ⟨{ o.session with poller := p }, o.polled || endsPoll uuid o.session.poller a⟩ := by
  have hlinked := (h.linked.poller hp hcancel).1
  have hstore := Poller.step_stateByUuid hp uuid
  by_cases hends : endsPoll uuid o.session.poller a = true
  · obtain ⟨c, hc, huuid⟩ := endsPoll_eq_true.mp hends
    refine ⟨hlinked, fun _ => ?_, fun _ => ?_⟩
    · rw [hc] at hstore
      dsimp only at hstore
      rw [if_pos huuid] at hstore
      rw [Poller.shown, hstore]
      rfl
    · by_cases hin : o.session.InStep uuid
      · exact hin.poller h.linked hp hcancel
      · exact Session.inStep_of_changed h.linked hp hcancel hc huuid (hnoticed c hc huuid hin)
  · rw [Bool.not_eq_true] at hends
    rw [hends, Bool.or_false]
    have hsame : p.shown uuid = o.session.poller.shown uuid := by
      rw [Poller.shown, hstore, Poller.shown]
      cases hc : o.session.poller.completion a with
      | none => rfl
      | some c =>
          have hne : c.uuid ≠ uuid := fun huuid => by
            rw [endsPoll_eq_true.mpr ⟨c, hc, huuid⟩] at hends
            cases hends
          dsimp only
          rw [if_neg hne]
    exact ⟨hlinked, fun hpolled => hsame.symm ▸ h.known hpolled,
      fun hpolled => (h.inStep hpolled).poller h.linked hp hcancel⟩

lemma Inv.step {uuid : String} {o o' : Observed} {a : SessionAct} (h : o.Inv uuid)
    (hok : o.TogglesSucceed a ∧ o.Noticed uuid a) (hstep : o.step uuid a = some o') :
    o'.Inv uuid := by
  obtain ⟨s', hs', rfl⟩ := Option.map_eq_some_iff.mp hstep
  cases a with
  | poller a =>
      simp only [Session.step] at hs'
      split at hs'
      next => cases hs'
      next hcancels =>
        obtain ⟨p, hp, rfl⟩ := Option.map_eq_some_iff.mp hs'
        refine h.poller hok.2 hp ?_
        rintro l hl rfl
        exact hcancels (by simp [Act.cancels, hl])
  | page a =>
      obtain ⟨d, hd, hstates, rfl⟩ := page_step hs'
      refine ⟨⟨h.linked.keyed, h.linked.fresh, h.linked.sent⟩, fun hpolled => ?_, fun hpolled => ?_⟩
      · exact h.known (Bool.and_eq_true_iff.mp hpolled).1
      · obtain ⟨hpolled, hbegins⟩ := Bool.and_eq_true_iff.mp hpolled
        refine (h.inStep hpolled).page (shown_page hd hstates (by simpa using hbegins) ?_)
        rintro input message rfl
        exact hok.1 input
  | connect =>
      simp only [Session.step] at hs'
      split at hs'
      next =>
        obtain rfl := Option.some.inj hs'
        exact ⟨h.linked.connect, h.known,
          fun hpolled => Session.inStep_connect h.linked (h.known hpolled)⟩
      next => cases hs'
  | receive now =>
      simp only [Session.step] at hs'
      split at hs'
      next l hl =>
        obtain ⟨e, he, rfl⟩ := Option.map_eq_some_iff.mp hs'
        obtain ⟨sent, hsent, he⟩ := Option.bind_eq_some_iff.mp he
        exact ⟨h.linked.receive hsent he, h.known,
          fun hpolled => (h.inStep hpolled).receive hl hsent he⟩
      next => cases hs'

end Observed

/-- The page shows a plug that is off, and switches it on. Then the poller polls the plug, whose
switch is `onoff`. -/
def switching (onoff : ℚ) : List SessionAct :=
  backgroundPoll.map .poller ++
    [.poller (.pollGoesOn 0 (deviceSends (plugReply 0)) 6010 0), .poller (.pollReturns 0),
      .connect, .receive 6020, .receive 6021, .receive 6022, .page (.send .refresh 6030),
      .page (.inventoryDone
        (.refreshed [] (OrdMap.empty.set "u" ⟨"10.0.0.9", "2024-01-01T00:00:00Z", none⟩))),
      .page (.send (.deviceToggle "u" true) 7000), .page (.operationDone .toggled),
      .poller (.pollNow (refreshOptions "u")), .poller (.pollNowSyncs 0 7010),
      .poller (.pollNowStarts 0 7011), .poller (.pollGoesOn 1 silence 7012 0),
      .poller (.pollGoesOn 1 silence 7013 0),
      .poller (.pollGoesOn 1 (deviceSends (plugReply onoff)) 7020 0), .poller (.pollReturns 1)]

/-- An action that is no failure of an operation. -/
def SessionAct.succeeds : SessionAct → Bool
  | .page (.operationError _) => false
  | _ => true

lemma togglesSucceed_of_succeeds {o : Observed} {a : SessionAct} (h : a.succeeds = true) :
    o.TogglesSucceed a := by
  cases a with
  | page a => cases a <;> trivial
  | _ => trivial

/-- An action that is no failure of an operation, and ends no poll without a material change. -/
def Observed.reports (o : Observed) (a : SessionAct) : Bool :=
  a.succeeds && match a with
    | .poller a => (o.session.poller.completion a).all fun c =>
        hasMaterialStateChange (o.session.poller.stateByUuid.get c.uuid)
          (o.session.poller.nextState c)
    | _ => true

lemma Observed.reports_spec {o : Observed} {a : SessionAct} (h : o.reports a = true)
    (uuid : String) : o.TogglesSucceed a ∧ o.Noticed uuid a := by
  obtain ⟨hsucceeds, hchanged⟩ := (Bool.and_eq_true _ _).mp h
  refine ⟨togglesSucceed_of_succeeds hsucceeds, ?_⟩
  cases a with
  | poller a =>
      intro c hc _ _
      dsimp only at hchanged
      rw [hc] at hchanged
      exact hchanged
  | _ => trivial

end Merossity
