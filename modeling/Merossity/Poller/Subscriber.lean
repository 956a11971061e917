import Merossity.Poller.Stream

/-!
A passive subscriber of the event stream.

* `WillSee` says what a client will see once it has received what its connection was sent, and
  `Follows` that it is what the store shows of a device. The steps of the poller keep it, and so do
  the ways in which a connection is opened, used and lost.
* `Subscription` is the poller together with a subscriber that overwrites its map with what it
  receives. It may be disconnected at any time, which drops what it has not received, and keeps
  its map when it connects again.
* `stream_is_complete`: a subscriber that has received what its connection was sent sees what the
  store shows.
-/

namespace Merossity

open Js Machine

/-! ### Connections -/

/-- A connection to the event stream, and how many of its events have been received. -/
structure Link where
  id : ℕ
  received : ℕ
  deriving DecidableEq

namespace Poller

/-! ### What a client will see -/

section

variable {V : Type}

/-- A client that sees `v` will see `shown` once it has received what its connection was sent. -/
def WillSee (p : Poller) (link : Option Link) (see : V → StreamEvent → V) (v shown : V) : Prop :=
  ∀ l, link = some l → ∃ sent, p.subscribers.get l.id = some sent ∧ l.received ≤ sent.length ∧
    Replica.pending see v sent l.received = shown

variable {p p' : Poller} {see : V → StreamEvent → V} {v shown shown' : V}

/-- A client that has received what it was sent sees it. -/
lemma WillSee.eq {l : Link} {sent : List StreamEvent} (h : p.WillSee (some l) see v shown)
    (hsent : p.subscribers.get l.id = some sent) (hall : l.received = sent.length) :
    v = shown := by
  obtain ⟨sent', hsent', -, hpending⟩ := h l rfl
  rw [hsent] at hsent'
  obtain rfl := Option.some.inj hsent'
  rw [← hpending, Replica.pending_eq hall.ge]

/-- An event is received. -/
lemma WillSee.receive {l : Link} {sent : List StreamEvent} {e : StreamEvent}
    (h : p.WillSee (some l) see v shown) (hsent : p.subscribers.get l.id = some sent)
    (he : sent[l.received]? = some e) :
    p.WillSee (some { l with received := l.received + 1 }) see (see v e) shown := by
  obtain ⟨sent', hsent', -, hpending⟩ := h l rfl
  rw [hsent] at hsent'
  obtain rfl := Option.some.inj hsent'
  intro l' hl'
  obtain rfl := Option.some.inj hl'
  exact ⟨sent, hsent, (List.getElem?_eq_some_iff.mp he).1,
    (Replica.pending_apply he).trans hpending⟩

/-- A connection is opened. -/
lemma WillSee.connect [Runtime] (h : p.greeting.foldl see v = shown) :
    p.connect.WillSee (some ⟨p.nextSubscriberId, 0⟩) see v shown := by
  intro l hl
  obtain rfl := Option.some.inj hl
  exact ⟨p.greeting, OrdMap.get_set_self _ _ _, Nat.zero_le _, h⟩

/-- A step of the poller, whose events make `shown'` of `shown`. -/
lemma WillSee.step [Runtime] {a : Act} {link : Option Link} (h : p.WillSee link see v shown)
    (hfresh : p.FreshIds) (hcancel : ∀ l, link = some l → a ≠ .cancel l.id)
    (hstep : p.step a = some p')
    (hsee : ∀ new : List StreamEvent, new.filter StreamEvent.isDevice = p.deviceEvents a →
      new.filter StreamEvent.isPower = p.powerEvents a → new.foldl see shown = shown') :
    p'.WillSee link see v shown' := by
  intro l hl
  obtain ⟨sent, hsent, hle, hpending⟩ := h l hl
  have hnew : l.id ≠ p.nextSubscriberId := by
    intro hid
    rw [hfresh _ hid.ge] at hsent
    cases hsent
  obtain ⟨new, hsent', hdevice, hpower⟩ := step_sent hstep hsent (hcancel l hl) hnew
  refine ⟨sent ++ new, hsent', ?_, ?_⟩
  · rw [List.length_append]
    omega
  · rw [Replica.pending_append hle, hpending, hsee new hdevice hpower]

end

/-! ### What is seen of the store -/

/-- A client that sees `v` of a device will see what the store shows once it has received what
its connection was sent, and sees nothing of a device that is not in the store. -/
structure Follows (p : Poller) (link : Option Link) (uuid : String)
    (v : Option (DeviceReading × Bool)) : Prop where
  shows : ∀ l, link = some l → ∃ sent, p.subscribers.get l.id = some sent ∧
    l.received ≤ sent.length ∧
      Replica.pending (seeAt uuid) v sent l.received = view p.stateByUuid uuid
  known : v.isSome → (view p.stateByUuid uuid).isSome

section

variable {p p' : Poller} {uuid : String} {v : Option (DeviceReading × Bool)}

/-- A client that has received what it was sent sees what the store shows. -/
lemma Follows.eq {l : Link} {sent : List StreamEvent} (h : p.Follows (some l) uuid v)
    (hsent : p.subscribers.get l.id = some sent) (hall : l.received = sent.length) :
    v = view p.stateByUuid uuid :=
  WillSee.eq h.shows hsent hall

/-- An event is received. -/
lemma Follows.receive {l : Link} {sent : List StreamEvent} {e : StreamEvent}
    (h : p.Follows (some l) uuid v) (hsent : p.subscribers.get l.id = some sent)
    (he : sent[l.received]? = some e) :
    p.Follows (some { l with received := l.received + 1 }) uuid (seeAt uuid v e) := by
  have hshows := WillSee.receive h.shows hsent he
  refine ⟨hshows, fun hv => ?_⟩
  obtain ⟨sent, -, -, hpending⟩ := hshows _ rfl
  rw [← hpending]
  exact isSome_pending sent _ hv

/-- The connection is lost. -/
lemma Follows.close {link : Option Link} (h : p.Follows link uuid v) : p.Follows none uuid v :=
  ⟨fun _ hl => (by cases hl), h.known⟩

/-- A connection is opened. -/
lemma Follows.connect [Runtime] (hkeyed : p.Keyed)
    (hknown : v.isSome → (view p.stateByUuid uuid).isSome) :
    p.connect.Follows (some ⟨p.nextSubscriberId, 0⟩) uuid v :=
  ⟨WillSee.connect (seeAt_greeting hkeyed hknown), hknown⟩

/-- A step of the poller. -/
lemma Follows.step [Runtime] {a : Act} {link : Option Link} (h : p.Follows link uuid v)
    (hfresh : p.FreshIds) (hcancel : ∀ l, link = some l → a ≠ .cancel l.id)
    (hstep : p.step a = some p') : p'.Follows link uuid v := by
  have hview := view_step hstep uuid
  have hother : ∀ v e, StreamEvent.isDevice e = false → seeAt uuid v e = v := by
    intro v e he
    cases e <;> first | rfl | cases he
  refine ⟨WillSee.step h.shows hfresh hcancel hstep fun new hdevice _ => ?_, fun hv => ?_⟩
  · rw [hview, ← hdevice, Replica.foldl_filter StreamEvent.isDevice hother]
  · rw [hview]
    exact isSome_pending (p.deviceEvents a) 0 (h.known hv)

end

end Poller

/-! ### A passive subscriber -/

/-- The poller with a subscriber, which has a connection and a map of device states. -/
structure Subscription where
  poller : Poller
  link : Option Link
  states : OrdMap String DeviceStateDto

inductive SubscriptionAct where
  | poller (a : Act)
  | connect
  | receive
  | disconnect

/-- The subscriber whose stream is cancelled. -/
def Act.cancels : Act → Option ℕ
  | .cancel id => some id
  | _ => none

/-- A subscriber overwrites the entries that an event is about. -/
def applyEvent (states : OrdMap String DeviceStateDto) :
    StreamEvent → OrdMap String DeviceStateDto
  | .snapshot entries => entries.foldl (fun m s => m.set s.uuid s) states
  | .deviceState s => states.set s.uuid s
  | .deviceStale s => states.set s.uuid s
  | _ => states

lemma view_applyEvent (states : OrdMap String DeviceStateDto) (e : StreamEvent) (uuid : String) :
    view (applyEvent states e) uuid = seeAt uuid (view states uuid) e := by
  cases e with
  | snapshot entries => exact Replica.shown_foldl_set entries states
  | deviceState s => exact view_set rfl uuid
  | deviceStale s => exact view_set rfl uuid
  | _ => rfl

namespace Subscription

/-- The subscriber has not connected yet. -/
def init (file : FileText) : Subscription := ⟨.init file, none, .empty⟩

/-- A connection that is lost drops what was not received of it, and the map stays. -/
def step [Runtime] (s : Subscription) : SubscriptionAct → Option Subscription
  | .poller a => (s.poller.step a).map fun p =>
      { s with poller := p, link := s.link.filter fun l => a.cancels ≠ some l.id }
  | .connect =>
      some { s with poller := s.poller.connect, link := some ⟨s.poller.nextSubscriberId, 0⟩ }
  | .receive => match s.link with
    | some l => ((s.poller.subscribers.get l.id).bind fun sent => sent[l.received]?).map fun e =>
        { s with
          link := some { l with received := l.received + 1 }
          states := applyEvent s.states e }
    | none => none
  | .disconnect => some { s with link := none }

/-- The subscriber follows the store. -/
structure Inv (s : Subscription) : Prop where
  keyed : s.poller.Keyed
  fresh : s.poller.FreshIds
  follows : ∀ uuid, s.poller.Follows s.link uuid (view s.states uuid)

variable [Runtime]

omit [Runtime] in
lemma inv_init (file : FileText) : (init file).Inv where
  keyed := Poller.keyed_init file
  fresh := Poller.freshIds_init file
  follows _ := ⟨fun _ hl => (by cases hl), fun hv => (by cases hv)⟩

lemma Inv.step {s s' : Subscription} {a : SubscriptionAct} (hs : s.Inv) (h : s.step a = some s') :
    s'.Inv := by
  cases a with
  | poller a =>
      obtain ⟨p, hp, rfl⟩ := Option.map_eq_some_iff.mp h
      refine ⟨hs.keyed.step hp, hs.fresh.step hp, fun uuid => ?_⟩
      have hf : s.poller.Follows (s.link.filter fun l => a.cancels ≠ some l.id) uuid
          (view s.states uuid) :=
        ⟨fun l hl => (hs.follows uuid).shows l (Option.filter_eq_some_iff.mp hl).1,
          (hs.follows uuid).known⟩
      refine hf.step hs.fresh (fun l hl => ?_) hp
      rintro rfl
      simpa [Act.cancels] using (Option.filter_eq_some_iff.mp hl).2
  | connect =>
      cases h
      have hp : s.poller.step .connect = some s.poller.connect := rfl
      exact ⟨hs.keyed.step hp, hs.fresh.step hp,
        fun uuid => .connect hs.keyed (hs.follows uuid).known⟩
  | receive =>
      simp only [Subscription.step] at h
      split at h
      next l hl =>
        obtain ⟨e, he, rfl⟩ := Option.map_eq_some_iff.mp h
        obtain ⟨sent, hsent, he⟩ := Option.bind_eq_some_iff.mp he
        refine ⟨hs.keyed, hs.fresh, fun uuid => ?_⟩
        rw [view_applyEvent]
        exact (hl ▸ hs.follows uuid).receive hsent he
      next => cases h
  | disconnect =>
      cases h
      exact ⟨hs.keyed, hs.fresh, fun uuid => (hs.follows uuid).close⟩

end Subscription

/-- **The stream is complete.** A subscriber that has applied the snapshot and all events that
its connection was sent has an entry for every device in the store and for no other, and the
entry shows what the store shows. -/
theorem stream_is_complete [Runtime] (file : FileText) (s : Subscription)
    (h : Reaches Subscription.step Always (Subscription.init file) s) (l : Link)
    (hl : s.link = some l) (sent : List StreamEvent)
    (hsent : s.poller.subscribers.get l.id = some sent) (hall : l.received = sent.length)
    (uuid : String) :
    (s.states.get uuid).map DeviceStateDto.visible =
      (s.poller.stateByUuid.get uuid).map DeviceStateDto.visible := by
  have hinv : s.Inv :=
    h.invariant (Subscription.inv_init file) fun _ _ _ hs _ hstep => hs.step hstep
  exact (hl ▸ hinv.follows uuid).eq hsent hall

/-- A plug is switched on while the subscriber is disconnected. -/
def missedSwitch : List SubscriptionAct :=
  .connect :: backgroundPoll.map .poller
    ++ [.receive, .disconnect, .poller (.pollGoesOn 0 (deviceSends (plugReply 1)) 6010 0),
      .connect, .receive, .receive, .receive]

/-- The subscriber of that run sees the switch when it is connected again. -/
theorem stream_is_complete_plug : let _ := plainRuntime; ∃ s,
    run Subscription.step missedSwitch (Subscription.init plugConfig) = some s ∧
    (s.states.get "u").map (fun s => s.onoff) = some true ∧
      (s.states.get "u").map DeviceStateDto.visible =
        (s.poller.stateByUuid.get "u").map DeviceStateDto.visible := by
  let _ := plainRuntime
  have hlink : (run Subscription.step missedSwitch (Subscription.init plugConfig)).map
      (fun s => (s.link, (s.states.get "u").map (fun s => s.onoff),
        (s.poller.subscribers.get 2).map List.length)) =
      some (some ⟨2, 3⟩, some true, some 3) := by decide +kernel
  obtain ⟨s, hs, hend⟩ := Option.map_eq_some_iff.mp hlink
  obtain ⟨hl, hrest⟩ := Prod.mk.inj hend
  obtain ⟨honoff, hlength⟩ := Prod.mk.inj hrest
  obtain ⟨sent, hsent, hreceived⟩ := Option.map_eq_some_iff.mp hlength
  exact ⟨s, hs, honoff, stream_is_complete plugConfig s
    (reaches_run missedSwitch (along_always _ _) hs) _ hl sent hsent hreceived.symm "u"⟩

end Merossity
