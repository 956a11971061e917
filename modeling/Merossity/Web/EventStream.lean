import Merossity.Lib.Backoff
import Merossity.Lib.Machine
import Merossity.Web.DevicesMachine

/-!
The actor `streamEvents` of `devicesMachine.ts`, which keeps the page connected to the event stream.

* `StreamEvents` are the variables of the actor, and the browser with the event sources that are
  open and the timers that are pending. `step` is one callback, or the disposal. Callbacks run only
  of sources that are open and of timers that are pending, and whatever is sent to the machine of
  the page may make it dispose of the actor at once.
* `Phase` is what the actor is for: it is connected, or waits to connect again, or is disposed of.
  `Represents` says how the variables and the browser look in each phase, and `represents_step` that
  every step is one of the phases.
* `Paced` says that the delays are those of a client that waits longer after every failure.
* `one_connection` puts this together for all runs.
-/

namespace Merossity

open Machine Backoff

/-! ### The actor -/

/-- `reconnectDelaysMs`. -/
def reconnectDelaysMs : List ℕ := [1000, 2000, 5000, 10000, 30000]

/-- The event sources that are open and the timers that are pending, by their numbers. -/
structure Browser where
  sources : List ℕ
  timers : List ℕ
  fresh : ℕ

/-- The variables of the actor; `sent` are the events that it has sent to the machine, and `log` its
connections and delays. -/
structure StreamEvents where
  retryIndex : ℕ
  source : Option ℕ
  reconnectTimer : Option ℕ
  closed : Bool
  browser : Browser
  sent : List DevicesEvent
  log : List (Mark ℕ)

/-- What happens to the actor; with `stops` the machine disposes of it when an event is sent. -/
inductive StreamAct where
  | onopen (source : ℕ) (stops : Bool)
  | onerror (source : ℕ) (stops : Bool)
  | onmessage (source : ℕ) (event : Option DevicesEvent) (stops : Bool)
  | onTimeout (timer : ℕ)
  | dispose

/-- The event source that the callback is of. -/
def StreamAct.source : StreamAct → Option ℕ
  | onopen source _ => some source
  | onerror source _ => some source
  | onmessage source _ _ => some source
  | onTimeout _ => none
  | dispose => none

/-- The actor is disposed of, now or in the callback. -/
def StreamAct.stops : StreamAct → Bool
  | onopen _ stops => stops
  | onerror _ stops => stops
  | onmessage _ event stops => event.isSome && stops
  | onTimeout _ => false
  | dispose => true

namespace StreamEvents

/-- `closeSource`. -/
def closeSource (s : StreamEvents) : StreamEvents :=
  match s.source with
  | none => s
  | some source => { s with
      source := none
      browser := { s.browser with sources := s.browser.sources.filter (· ≠ source) } }

/-- `scheduleReconnect`. -/
def scheduleReconnect (s : StreamEvents) : StreamEvents :=
  if s.closed || s.reconnectTimer.isSome then s
  else
    let delay := reconnectDelaysMs.getD (min s.retryIndex (reconnectDelaysMs.length - 1)) 0
    { s with
      retryIndex := s.retryIndex + 1
      reconnectTimer := some s.browser.fresh
      browser := { s.browser with
        timers := s.browser.timers ++ [s.browser.fresh], fresh := s.browser.fresh + 1 }
      log := s.log ++ [.wait delay] }

/-- `openStream`. -/
def openStream (s : StreamEvents) : StreamEvents :=
  if s.closed then s
  else
    let s := s.closeSource
    { s with
      source := some s.browser.fresh
      browser := { s.browser with
        sources := s.browser.sources ++ [s.browser.fresh], fresh := s.browser.fresh + 1 } }

/-- `if (reconnectTimer) { clearTimeout(reconnectTimer); reconnectTimer = null }`. -/
def clearTimer (s : StreamEvents) : StreamEvents :=
  match s.reconnectTimer with
  | none => s
  | some timer => { s with
      reconnectTimer := none
      browser := { s.browser with timers := s.browser.timers.filter (· ≠ timer) } }

/-- The function that `streamEvents` returns. -/
def dispose (s : StreamEvents) : StreamEvents :=
  let s : StreamEvents := { s with closed := true }
  s.clearTimer.closeSource

/-- `sendBack`. The machine handles the event before the callback goes on. -/
def sendBack (s : StreamEvents) (event : DevicesEvent) (stops : Bool) : StreamEvents :=
  let s : StreamEvents := { s with sent := s.sent ++ [event] }
  if stops then s.dispose else s

/-- `ev.onopen`. -/
def opened (s : StreamEvents) (stops : Bool) : StreamEvents :=
  let s : StreamEvents := { s with retryIndex := 0, log := s.log ++ [.success] }
  s.sendBack .monitorStreamConnected stops

/-- `ev.onerror`. -/
def failed (s : StreamEvents) (stops : Bool) : StreamEvents :=
  (s.sendBack .monitorStreamDisconnected stops).closeSource.scheduleReconnect

/-- The listeners of `ev`: what they make of a message is sent, if it is anything. -/
def heard (s : StreamEvents) (event : Option DevicesEvent) (stops : Bool) : StreamEvents :=
  match event with
  | none => s
  | some event => s.sendBack event stops

/-- The callback of the timer, which is no longer pending. -/
def timedOut (s : StreamEvents) (timer : ℕ) : StreamEvents :=
  let s : StreamEvents := { s with
    reconnectTimer := none
    browser := { s.browser with timers := s.browser.timers.filter (· ≠ timer) } }
  s.openStream

/-- The actor, when it has been started. -/
def start : StreamEvents := openStream ⟨0, none, none, false, ⟨[], [], 0⟩, [], []⟩

/-- One callback, or the disposal. -/
def step (s : StreamEvents) : StreamAct → Option StreamEvents
  | .onopen source stops => if source ∈ s.browser.sources then some (s.opened stops) else none
  | .onerror source stops => if source ∈ s.browser.sources then some (s.failed stops) else none
  | .onmessage source event stops =>
      if source ∈ s.browser.sources then some (s.heard event stops) else none
  | .onTimeout timer => if timer ∈ s.browser.timers then some (s.timedOut timer) else none
  | .dispose => some s.dispose

end StreamEvents

/-! ### Phases -/

/-- What the actor does: it has an event source, or waits for a timer, or it is done. -/
inductive Phase where
  | connected (source : ℕ)
  | waiting (timer : ℕ)
  | disposed
  deriving DecidableEq

namespace Phase

def source : Phase → Option ℕ
  | connected source => some source
  | _ => none

def timer : Phase → Option ℕ
  | waiting timer => some timer
  | _ => none

def closed : Phase → Bool
  | disposed => true
  | _ => false

/-- The steps from one phase to another. -/
inductive Moves : Phase → StreamAct → Phase → Prop where
  | opens {source : ℕ} : Moves (connected source) (.onopen source false) (connected source)
  | hears {source : ℕ} {event : Option DevicesEvent} {stops : Bool}
      (h : (event.isSome && stops) = false) :
      Moves (connected source) (.onmessage source event stops) (connected source)
  | fails {source timer : ℕ} : Moves (connected source) (.onerror source false) (waiting timer)
  | retries {timer source : ℕ} : Moves (waiting timer) (.onTimeout timer) (connected source)
  | stops {source : ℕ} {a : StreamAct} (hsource : a.source = some source) (h : a.stops = true) :
      Moves (connected source) a disposed
  | disposes {phase : Phase} : Moves phase .dispose disposed

/-- A phase is left for good by a disposal, and by nothing else. -/
lemma Moves.closed_eq {phase phase' : Phase} {a : StreamAct} (h : Moves phase a phase') :
    phase'.closed = (phase.closed || a.stops) := by
  cases h with
  | opens => rfl
  | hears h => exact h.symm
  | fails => rfl
  | retries => rfl
  | stops _ h => rw [h, Bool.or_true]; rfl
  | disposes => rw [StreamAct.stops, Bool.or_true]; rfl

end Phase

namespace StreamEvents

variable {s t : StreamEvents} {source timer : Option ℕ} {closed : Bool}

/-- The variables of the actor, of which the browser has nothing but what they refer to. -/
structure Holds (s : StreamEvents) (source timer : Option ℕ) (closed : Bool) : Prop where
  source_eq : s.source = source
  timer_eq : s.reconnectTimer = timer
  closed_eq : s.closed = closed
  sources_eq : s.browser.sources = source.toList
  timers_eq : s.browser.timers = timer.toList

lemma Holds.closeSource (h : s.Holds source timer closed) :
    s.closeSource.Holds none timer closed := by
  cases source with
  | none =>
      rw [StreamEvents.closeSource, h.source_eq]
      exact h
  | some source =>
      rw [StreamEvents.closeSource, h.source_eq]
      exact ⟨rfl, h.timer_eq, h.closed_eq, by simp [h.sources_eq], h.timers_eq⟩

lemma Holds.clearTimer (h : s.Holds source timer closed) :
    s.clearTimer.Holds source none closed := by
  cases timer with
  | none =>
      rw [StreamEvents.clearTimer, h.timer_eq]
      exact h
  | some timer =>
      rw [StreamEvents.clearTimer, h.timer_eq]
      exact ⟨h.source_eq, rfl, h.closed_eq, h.sources_eq, by simp [h.timers_eq]⟩

lemma Holds.dispose (h : s.Holds source timer closed) : s.dispose.Holds none none true := by
  have hclosed : Holds { s with closed := true } source timer true :=
    ⟨h.source_eq, h.timer_eq, rfl, h.sources_eq, h.timers_eq⟩
  exact hclosed.clearTimer.closeSource

/-- A reconnect is scheduled, unless the actor has been disposed of. -/
lemma Holds.scheduleReconnect (h : s.Holds none none closed) :
    ∃ timer : ℕ, s.scheduleReconnect.Holds none (if closed then none else some timer) closed := by
  refine ⟨s.browser.fresh, ?_⟩
  rw [StreamEvents.scheduleReconnect, h.closed_eq, h.timer_eq]
  cases closed with
  | true => exact h
  | false => exact ⟨h.source_eq, rfl, rfl, h.sources_eq, by simp [h.timers_eq]⟩

/-- The stream is opened, unless the actor has been disposed of. -/
lemma Holds.openStream (h : s.Holds source timer false) :
    ∃ source : ℕ, s.openStream.Holds (some source) timer false := by
  have hclose := h.closeSource
  refine ⟨s.closeSource.browser.fresh, ?_⟩
  rw [StreamEvents.openStream, h.closed_eq]
  exact ⟨rfl, hclose.timer_eq, hclose.closed_eq, by simp [hclose.sources_eq], hclose.timers_eq⟩

/-- What the machine does with an event that it is sent. -/
lemma Holds.sendBack (h : s.Holds source timer closed) (event : DevicesEvent) (stops : Bool) :
    (s.sendBack event stops).Holds (if stops then none else source)
      (if stops then none else timer) (closed || stops) := by
  have hsent : Holds { s with sent := s.sent ++ [event] } source timer closed :=
    ⟨h.source_eq, h.timer_eq, h.closed_eq, h.sources_eq, h.timers_eq⟩
  cases stops with
  | true => simpa [StreamEvents.sendBack] using hsent.dispose
  | false => simpa [StreamEvents.sendBack] using hsent

/-! ### The actor and its phases -/

/-- The variables and the browser in a phase. -/
def Represents (s : StreamEvents) (phase : Phase) : Prop :=
  s.Holds phase.source phase.timer phase.closed

lemma represents_start : start.Represents (.connected 0) := ⟨rfl, rfl, rfl, rfl, rfl⟩

/-- A callback of a source runs only while the actor is connected, by that source. -/
lemma Represents.eq_connected {phase : Phase} {id : ℕ} (h : s.Represents phase)
    (hid : id ∈ s.browser.sources) : phase = .connected id := by
  rw [h.sources_eq] at hid
  cases phase with
  | connected source =>
      obtain rfl : id = source := by simpa [Phase.source] using hid
      rfl
  | waiting timer => simp [Phase.source] at hid
  | disposed => simp [Phase.source] at hid

lemma Represents.eq_waiting {phase : Phase} {id : ℕ} (h : s.Represents phase)
    (hid : id ∈ s.browser.timers) : phase = .waiting id := by
  rw [h.timers_eq] at hid
  cases phase with
  | connected source => simp [Phase.timer] at hid
  | waiting timer =>
      obtain rfl : id = timer := by simpa [Phase.timer] using hid
      rfl
  | disposed => simp [Phase.timer] at hid

/-- What a step can do. -/
lemma step_cases {a : StreamAct} (h : s.step a = some t) :
    (∃ id stops, a = .onopen id stops ∧ id ∈ s.browser.sources ∧ t = s.opened stops) ∨
    (∃ id stops, a = .onerror id stops ∧ id ∈ s.browser.sources ∧ t = s.failed stops) ∨
    (∃ id event stops, a = .onmessage id event stops ∧ id ∈ s.browser.sources ∧
      t = s.heard event stops) ∨
    (∃ id, a = .onTimeout id ∧ id ∈ s.browser.timers ∧ t = s.timedOut id) ∨
    (a = .dispose ∧ t = s.dispose) := by
  cases a with
  | onopen id stops =>
      obtain ⟨hid, hsome⟩ := Option.ite_none_right_eq_some.mp h
      exact .inl ⟨id, stops, rfl, hid, (Option.some.inj hsome).symm⟩
  | onerror id stops =>
      obtain ⟨hid, hsome⟩ := Option.ite_none_right_eq_some.mp h
      exact .inr (.inl ⟨id, stops, rfl, hid, (Option.some.inj hsome).symm⟩)
  | onmessage id event stops =>
      obtain ⟨hid, hsome⟩ := Option.ite_none_right_eq_some.mp h
      exact .inr (.inr (.inl ⟨id, event, stops, rfl, hid, (Option.some.inj hsome).symm⟩))
  | onTimeout id =>
      obtain ⟨hid, hsome⟩ := Option.ite_none_right_eq_some.mp h
      exact .inr (.inr (.inr (.inl ⟨id, rfl, hid, (Option.some.inj hsome).symm⟩)))
  | dispose => exact .inr (.inr (.inr (.inr ⟨rfl, (Option.some.inj h).symm⟩)))

/-- **Every step** is one of the phases. -/
lemma represents_step {phase : Phase} {a : StreamAct} (h : s.Represents phase)
    (hstep : s.step a = some t) : ∃ phase', phase.Moves a phase' ∧ t.Represents phase' := by
  rcases step_cases hstep with ⟨id, stops, rfl, hid, rfl⟩ | ⟨id, stops, rfl, hid, rfl⟩ |
    ⟨id, event, stops, rfl, hid, rfl⟩ | ⟨id, rfl, hid, rfl⟩ | ⟨rfl, rfl⟩
  · -- the source is open
    obtain rfl := h.eq_connected hid
    have hlogged : Holds { s with retryIndex := 0, log := s.log ++ [.success] } (some id) none
        false := ⟨h.source_eq, h.timer_eq, h.closed_eq, h.sources_eq, h.timers_eq⟩
    have hsent := hlogged.sendBack .monitorStreamConnected stops
    cases stops with
    | true => exact ⟨.disposed, .stops rfl rfl, hsent⟩
    | false => exact ⟨.connected id, .opens, hsent⟩
  · -- it has failed, and nothing is scheduled if the machine has disposed of the actor
    obtain rfl := h.eq_connected hid
    have hsent := h.sendBack .monitorStreamDisconnected stops
    cases stops with
    | true =>
        obtain ⟨timer, hfailed⟩ := hsent.closeSource.scheduleReconnect
        exact ⟨.disposed, .stops rfl rfl, hfailed⟩
    | false =>
        obtain ⟨timer, hfailed⟩ := hsent.closeSource.scheduleReconnect
        exact ⟨.waiting timer, .fails, hfailed⟩
  · obtain rfl := h.eq_connected hid
    cases event with
    | none => exact ⟨.connected id, .hears rfl, h⟩
    | some event =>
        have hsent := h.sendBack event stops
        cases stops with
        | true => exact ⟨.disposed, .stops rfl rfl, hsent⟩
        | false => exact ⟨.connected id, .hears rfl, hsent⟩
  · obtain rfl := h.eq_waiting hid
    have hfired : Holds { s with
        reconnectTimer := none
        browser := { s.browser with timers := s.browser.timers.filter (· ≠ id) } } none none
        false :=
      ⟨h.source_eq, rfl, h.closed_eq, h.sources_eq, by simp [h.timers_eq, Phase.timer]⟩
    obtain ⟨source, hopen⟩ := hfired.openStream
    exact ⟨.connected source, .retries, hopen⟩
  · exact ⟨.disposed, .disposes, h.dispose⟩

/-- A run of the actor is one of the phases, and ends disposed of if it has been at any time. -/
lemma represents_run {as : List StreamAct} {phase : Phase} (h : s.Represents phase)
    (hrun : run step as s = some t) : ∃ phase', t.Represents phase' ∧
      phase'.closed = (phase.closed || as.any StreamAct.stops) := by
  induction as generalizing s phase with
  | nil =>
      obtain rfl := Option.some.inj hrun
      exact ⟨phase, h, by simp⟩
  | cons a as ih =>
      obtain ⟨u, hu, hrest⟩ := Option.bind_eq_some_iff.mp hrun
      obtain ⟨phase', hmoves, hphase'⟩ := represents_step h hu
      obtain ⟨phase'', hphase'', hclosed⟩ := ih hphase' hrest
      refine ⟨phase'', hphase'', ?_⟩
      rw [hclosed, hmoves.closed_eq, List.any_cons, Bool.or_assoc]

/-! ### Delays -/

/-- The actor waits longer after every failure, and counts the failures in `retryIndex`. -/
structure Paced (s : StreamEvents) : Prop where
  retryIndex_eq : s.retryIndex = failures s.log
  escalates : Escalates reconnectDelaysMs s.log

/-- What does not touch the log and the counter keeps the pace. -/
lemma Paced.of_eq (h : s.Paced) (hretry : t.retryIndex = s.retryIndex) (hlog : t.log = s.log) :
    t.Paced := by
  refine ⟨?_, ?_⟩
  · rw [hretry, hlog, h.retryIndex_eq]
  · rw [hlog]
    exact h.escalates

lemma Paced.closeSource (h : s.Paced) : s.closeSource.Paced := by
  rw [StreamEvents.closeSource]
  split <;> exact h.of_eq rfl rfl

lemma Paced.clearTimer (h : s.Paced) : s.clearTimer.Paced := by
  rw [StreamEvents.clearTimer]
  split <;> exact h.of_eq rfl rfl

lemma Paced.dispose (h : s.Paced) : s.dispose.Paced := by
  have hclosed : Paced { s with closed := true } := h.of_eq rfl rfl
  exact hclosed.clearTimer.closeSource

lemma Paced.openStream (h : s.Paced) : s.openStream.Paced := by
  rw [StreamEvents.openStream]
  split_ifs
  · exact h
  · exact h.closeSource.of_eq rfl rfl

lemma Paced.scheduleReconnect (h : s.Paced) : s.scheduleReconnect.Paced := by
  rw [StreamEvents.scheduleReconnect]
  split_ifs
  · exact h
  · have hdelay : entry reconnectDelaysMs s.retryIndex = some (reconnectDelaysMs.getD
        (min s.retryIndex (reconnectDelaysMs.length - 1)) 0) := entry_eq_getD (by decide) _ 0
    refine ⟨?_, ?_⟩
    · rw [failures_wait, h.retryIndex_eq]
    · rw [h.retryIndex_eq] at hdelay ⊢
      exact h.escalates.wait hdelay

lemma Paced.sendBack (h : s.Paced) (event : DevicesEvent) (stops : Bool) :
    (s.sendBack event stops).Paced := by
  have hsent : Paced { s with sent := s.sent ++ [event] } := h.of_eq rfl rfl
  rw [StreamEvents.sendBack]
  split_ifs
  · exact hsent.dispose
  · exact hsent

lemma paced_start : start.Paced := ⟨rfl, .nil⟩

/-- Every step keeps the pace. -/
lemma Paced.step {a : StreamAct} (h : s.Paced) (hstep : s.step a = some t) : t.Paced := by
  rcases step_cases hstep with ⟨id, stops, rfl, -, rfl⟩ | ⟨id, stops, rfl, -, rfl⟩ |
    ⟨id, event, stops, rfl, -, rfl⟩ | ⟨id, rfl, -, rfl⟩ | ⟨rfl, rfl⟩
  · have hlogged : Paced { s with retryIndex := 0, log := s.log ++ [.success] } :=
      ⟨failures_success.symm, h.escalates.success⟩
    exact hlogged.sendBack _ _
  · exact (h.sendBack _ _).closeSource.scheduleReconnect
  · cases event with
    | none => exact h
    | some event => exact h.sendBack _ _
  · have hfired : Paced { s with
        reconnectTimer := none
        browser := { s.browser with timers := s.browser.timers.filter (· ≠ id) } } :=
      h.of_eq rfl rfl
    exact hfired.openStream
  · exact h.dispose

lemma paced_of_reaches (h : Reaches step Always start s) : s.Paced :=
  h.invariant paced_start fun _ _ _ hs _ hstep => hs.step hstep

end StreamEvents

/-! ### All runs -/

open StreamEvents in
/-- **One connection.** In every run the actor has at most one event source that is open and at most
one timer that is pending, and never both. Until it is disposed of it has exactly one of the two,
and after that neither. The delay of a reconnect is the entry for the number of reconnects since the
last connection; the delays do not get shorter until there is a connection, and start over with
it. -/
theorem one_connection {as : List StreamAct} {s : StreamEvents}
    (h : run StreamEvents.step as start = some s) :
    s.browser.sources.length ≤ 1 ∧ s.browser.timers.length ≤ 1
    ∧ (s.browser.sources = [] ∨ s.browser.timers = [])
    ∧ ((∀ a ∈ as, a.stops = false) → s.browser.sources.length + s.browser.timers.length = 1)
    ∧ ((∃ a ∈ as, a.stops = true) → s.browser.sources = [] ∧ s.browser.timers = [])
    ∧ (∀ before d after, s.log = before ++ .wait d :: after →
      reconnectDelaysMs[min (failures before) 4]? = some d)
    ∧ (∀ before d between d' after, s.log = before ++ .wait d :: between ++ .wait d' :: after →
      .success ∉ between → d ≤ d')
    ∧ ∀ before d after, s.log = before ++ .success :: .wait d :: after → d = 1000 := by
  obtain ⟨phase, hphase, hclosed⟩ := represents_run represents_start h
  have hpaced := paced_of_reaches (reaches_run as (along_always _ _) h)
  have hsorted : reconnectDelaysMs.Pairwise (· ≤ ·) := by decide
  rw [hphase.sources_eq, hphase.timers_eq]
  refine ⟨?_, ?_, ?_, ?_, ?_, hpaced.escalates, ?_, ?_⟩
  · cases phase <;> simp [Phase.source]
  · cases phase <;> simp [Phase.timer]
  · cases phase <;> simp [Phase.source, Phase.timer]
  · intro hnone
    rw [List.any_eq_false.mpr fun a ha => by simp [hnone a ha]] at hclosed
    cases phase with
    | connected source => simp [Phase.source, Phase.timer]
    | waiting timer => simp [Phase.source, Phase.timer]
    | disposed => cases hclosed
  · intro hsome
    rw [List.any_eq_true.mpr hsome] at hclosed
    cases phase with
    | connected source => cases hclosed
    | waiting timer => cases hclosed
    | disposed => exact ⟨rfl, rfl⟩
  · intro before d between d' after hlog hbetween
    exact hpaced.escalates.le hsorted hlog hbetween
  · intro before d after hlog
    exact (Option.some.inj (hpaced.escalates.reset hlog)).symm

/-- Two failures in a row, a connection, another failure, and the disposal during the next wait. -/
def streamRun : List StreamAct :=
  [.onerror 0 false, .onTimeout 1, .onerror 2 false, .onTimeout 3, .onopen 4 false,
    .onerror 4 false, .dispose]

theorem one_connection_disposed : ∃ s,
    run StreamEvents.step streamRun StreamEvents.start = some s
      ∧ s.log = [.wait 1000, .wait 2000, .success, .wait 1000]
      ∧ s.browser.sources = [] ∧ s.browser.timers = [] := by
  have hrun : ∃ s, run StreamEvents.step streamRun StreamEvents.start = some s
      ∧ s.log = [.wait 1000, .wait 2000, .success, .wait 1000] := ⟨_, rfl, rfl⟩
  obtain ⟨s, hs, hlog⟩ := hrun
  have hdisposed := (one_connection hs).2.2.2.2.1
  exact ⟨s, hs, hlog, hdisposed ⟨.dispose, by simp [streamRun], rfl⟩⟩

end Merossity
