import Merossity.Api.CommandHandlers
import Merossity.Api.Consumption
import Merossity.Lib.Machine
import Merossity.Lib.Versions

/-!
The table of daily energy, which `api/get-device-consumptionx.ts` fills through
`upsertConsumptionDay` of `api/telemetry-db.ts`.

* `EnergyStore` is the table with the requests under way, each suspended at a call. When the reply
  of the device arrives, its entries are written one by one, without a further `await`; a write that
  throws is skipped. `written` keeps what was written.
* `ofKey_written`: what a reply writes of a row are its valid entries for that day, in the order of
  the device.
* `stored_days`: a row is the last one written. There is no comparison of times, so it is the newest
  one if the device and the schedule of the requests bring the entries in the order of their times.
-/

namespace Merossity

open Js Machine Versions

/-! ### The table -/

/-- `PRIMARY KEY(uuid, channel, date)`. -/
structure DayKey where
  uuid : String
  channel : ℕ
  date : String
  deriving DecidableEq

/-- The columns `at_s` and `wh`. -/
structure DayRow where
  atS : ℕ
  wh : ℕ
  deriving DecidableEq

/-- `{ uuid, channel, date: e.date, atS: e.time, wh: e.value }`. -/
def dayOf (uuid : String) (channel : ℕ) (e : ConsumptionXEntry) : DayKey × DayRow :=
  (⟨uuid, channel, e.date⟩, ⟨e.time, e.value⟩)

/-- `upsertConsumptionDay`: the row is made, or its columns are overwritten. -/
def upsertConsumptionDay (rows : OrdMap DayKey DayRow) (day : DayKey × DayRow) :
    OrdMap DayKey DayRow :=
  rows.set day.1 day.2

/-- The days of which the write does not throw. -/
def survive {α : Type} (fails : ℕ → Bool) (days : List α) : List α :=
  (days.zipIdx.filter fun e => !fails e.2).map Prod.fst

/-! ### Requests -/

/-- What the handler reads off the request: the device and the channel, or an answer. -/
def consumptionRequest (req : Request) : Except String (Except Response (String × ℕ)) := do
  let body := parseJsonBody req
  let uuid ← toText (coalesce (body.get? "uuid") (some (.str "")))
  let channel ← channelField body
  if trim uuid = "" then return .error (apiErr "Missing uuid" "missing_uuid")
  else match channel.natural? with
    | none => return .error (apiErr "Invalid channel" "invalid_channel")
    | some channel => return .ok (trim uuid, channel)

/-- `getConsumptionX`. -/
def getConsumptionX (host key : Json) (channel : ℕ) (timeoutMs : Option Number) : Async Json :=
  postLan "Appliance.Control.ConsumptionX" "GET"
    (.obj [("consumptionx", .obj [("channel", natJson channel)])]) host key timeoutMs

/-- The handler up to the reply of the device: the host, and the reply. -/
def askConsumption (uuid : String) (channel : ℕ) : Async (Json × Json) := do
  let host ← requireLanHost uuid
  let key ← requireLanKey
  let resp ← getConsumptionX host key channel (some (.fin 5000))
  return (host, resp)

def ConsumptionXEntry.json (e : ConsumptionXEntry) : Json :=
  .obj [("date", .str e.date), ("time", natJson e.time), ("value", natJson e.value)]

inductive EnergyPhase where
  | asking (prog : Prog Call Reply (Except JsError (Json × Json)))
  | answered (answer : Response)

structure EnergyRequest where
  uuid : String
  channel : ℕ
  phase : EnergyPhase

/-- The table, the requests, and what has been written so far. -/
structure EnergyStore where
  rows : OrdMap DayKey DayRow
  requests : List EnergyRequest
  written : List (DayKey × DayRow)

/-- A request comes in, or one goes on with the reply to its call; `fails` are the positions of the
entries of which the write throws. -/
inductive EnergyAct where
  | post (req : Request)
  | goesOn (i : ℕ) (reply : (c : Call) → Reply c) (fails : ℕ → Bool)

/-- No write of the step throws. -/
def EnergyAct.Succeeds : EnergyAct → Prop
  | .post _ => True
  | .goesOn _ _ fails => ∀ j, fails j = false

namespace EnergyStore

def start : EnergyStore := ⟨OrdMap.empty, [], []⟩

def setPhase (s : EnergyStore) (i : ℕ) (r : EnergyRequest) (phase : EnergyPhase) : EnergyStore :=
  { s with requests := s.requests.set i { r with phase } }

/-- The loop over the entries. -/
def write (s : EnergyStore) (days : List (DayKey × DayRow)) : EnergyStore :=
  { s with rows := days.foldl upsertConsumptionDay s.rows, written := s.written ++ days }

/-- The end of the handler, when the reply of the device is there. -/
def respond [Runtime] (s : EnergyStore) (i : ℕ) (r : EnergyRequest) (host resp : Json)
    (fails : ℕ → Bool) : EnergyStore :=
  match extractConsumptionX resp with
  | .ok list =>
      (s.write (survive fails (list.map (dayOf r.uuid r.channel)))).setPhase i r
        (.answered (apiOk [("host", host), ("list", .arr (list.map ConsumptionXEntry.json))]))
  | .error message => s.setPhase i r (.answered (apiErr message "lan_error"))

/-- One stretch of code. -/
def step [Runtime] (s : EnergyStore) : EnergyAct → Option EnergyStore
  | .post req => match consumptionRequest req with
    | .ok (.ok (uuid, channel)) => some { s with
        requests := s.requests ++ [⟨uuid, channel, .asking (askConsumption uuid channel).run⟩] }
    | _ => some s
  | .goesOn i reply fails => match s.requests[i]? with
    | some r => match r.phase with
      | .asking (.call c k) => match k (reply c) with
        | .ret (.ok (host, resp)) => some (s.respond i r host resp fails)
        | .ret (.error e) => some (s.setPhase i r (.answered (apiErr e.message "lan_error")))
        | prog => some (s.setPhase i r (.asking prog))
      | _ => none
    | none => none

/-- The reply of a device arrives, to the request of a device and a channel. -/
def arriving (s : EnergyStore) : EnergyAct → Option (String × ℕ × Json)
  | .post _ => none
  | .goesOn i reply _ => match s.requests[i]? with
    | some r => match r.phase with
      | .asking (.call c k) => match k (reply c) with
        | .ret (.ok (_, resp)) => some (r.uuid, r.channel, resp)
        | _ => none
      | _ => none
    | none => none

end EnergyStore

/-! ### What a reply writes -/

lemma survive_sublist {α : Type} (fails : ℕ → Bool) (days : List α) :
    (survive fails days).Sublist days := by
  have h : (survive fails days).Sublist (days.zipIdx.map Prod.fst) := List.filter_sublist.map _
  rwa [List.zipIdx_map_fst] at h

lemma survive_of_forall {α : Type} {fails : ℕ → Bool} (h : ∀ j, fails j = false) (days : List α) :
    survive fails days = days := by
  rw [survive, List.filter_eq_self.mpr fun e _ => by simp [h e.2], List.zipIdx_map_fst]

/-- The rows of a day among the entries of a device. -/
lemma ofKey_map_dayOf (k : DayKey) (uuid : String) (channel : ℕ) (l : List ConsumptionXEntry) :
    ofKey k (l.map (dayOf uuid channel)) =
      if k.uuid = uuid ∧ k.channel = channel then
        (l.filter fun e => e.date = k.date).map fun e => ⟨e.time, e.value⟩
      else [] := by
  have hkey : ∀ e, (dayOf uuid channel e).1 = k ↔
      (k.uuid = uuid ∧ k.channel = channel) ∧ e.date = k.date := by
    intro e
    obtain ⟨kuuid, kchannel, kdate⟩ := k
    simp only [dayOf, DayKey.mk.injEq]
    tauto
  rw [ofKey, List.filter_map, List.map_map]
  split_ifs with hdevice
  · refine congrArg (List.map _) (List.filter_congr fun e _ => ?_)
    simp [hkey, hdevice]
  · rw [List.filter_eq_nil_iff.mpr fun e _ => by simp [hkey, hdevice], List.map_nil]

section

variable [Runtime]

/-- The rows that a reply has for a day: its valid entries, in the order of the device. -/
def daysOf (uuid : String) (channel : ℕ) (resp : Json) (k : DayKey) : List DayRow :=
  ofKey k (((consumptionList resp).filterMap consumptionOf).map (dayOf uuid channel))

/-- What is written of a reply. -/
def arrivedDays (uuid : String) (channel : ℕ) (resp : Json) (fails : ℕ → Bool) :
    List (DayKey × DayRow) :=
  match extractConsumptionX resp with
  | .ok list => survive fails (list.map (dayOf uuid channel))
  | .error _ => []

/-- Sorting by date leaves the rows of a day in the order of the device. -/
lemma ofKey_arrivedDays [DateOrder] (uuid : String) (channel : ℕ) (resp : Json)
    (fails : ℕ → Bool) (k : DayKey) :
    (ofKey k (arrivedDays uuid channel resp fails)).Sublist (daysOf uuid channel resp k)
      ∧ ((∀ item ∈ consumptionList resp, ConvertibleEntry item) → (∀ j, fails j = false) →
        ofKey k (arrivedDays uuid channel resp fails) = daysOf uuid channel resp k) := by
  rw [arrivedDays]
  cases hextract : extractConsumptionX resp with
  | error message =>
      refine ⟨List.nil_sublist _, fun hitems _ => ?_⟩
      obtain ⟨out, hout⟩ := exists_extract_iff.mpr hitems
      rw [hextract] at hout
      cases hout
  | ok list =>
      have hsame : ofKey k (list.map (dayOf uuid channel)) = daysOf uuid channel resp k := by
        rw [daysOf, ofKey_map_dayOf, ofKey_map_dayOf,
          (stableSort_extract hextract).filter_key k.date]
      refine ⟨?_, fun _ hfails => ?_⟩
      · rw [← hsame]
        exact ((survive_sublist fails _).filter _).map _
      · rw [← hsame]
        exact congrArg (ofKey k) (survive_of_forall hfails _)

namespace EnergyStore

variable {s s' : EnergyStore} {a : EnergyAct}

/-- A step writes the entries of a reply that arrives, or nothing. -/
lemma step_cases (h : s.step a = some s') :
    s.arriving a = none ∧ s'.rows = s.rows ∧ s'.written = s.written ∨
      ∃ i reply fails uuid channel resp, a = .goesOn i reply fails
        ∧ s.arriving a = some (uuid, channel, resp)
        ∧ s'.rows = (s.write (arrivedDays uuid channel resp fails)).rows
        ∧ s'.written = (s.write (arrivedDays uuid channel resp fails)).written := by
  cases a with
  | post req =>
      left
      rw [step] at h
      split at h <;> (obtain rfl := Option.some.inj h; exact ⟨rfl, rfl, rfl⟩)
  | goesOn i reply fails =>
      simp only [step] at h
      split at h
      next r hr =>
        split at h
        next c k hphase =>
          split at h
          next host resp hk =>
            obtain rfl := Option.some.inj h
            right
            refine ⟨i, reply, fails, r.uuid, r.channel, resp, rfl, ?_, ?_⟩
            · simp only [arriving, hr, hphase, hk]
            · rw [respond, arrivedDays]
              cases extractConsumptionX resp with
              | ok list => exact ⟨rfl, rfl⟩
              | error message => exact ⟨rfl, (List.append_nil _).symm⟩
          next e hk =>
            obtain rfl := Option.some.inj h
            left
            refine ⟨?_, rfl, rfl⟩
            simp only [arriving, hr, hphase, hk]
          next prog hok herr =>
            obtain rfl := Option.some.inj h
            left
            refine ⟨?_, rfl, rfl⟩
            simp only [arriving, hr, hphase]
        next => cases h
      next => cases h

/-- The table shows what was written last. -/
def Shows (s : EnergyStore) : Prop := ∀ k, s.rows.get k = (ofKey k s.written).getLast?

lemma Shows.step (hs : s.Shows) (h : s.step a = some s') : s'.Shows := by
  intro k
  rcases step_cases h with ⟨-, hrows, hwritten⟩ |
    ⟨i, reply, fails, uuid, channel, resp, -, -, hrows, hwritten⟩
  · rw [hrows, hwritten, hs k]
  · rw [hrows, hwritten]
    have hget := get_foldl_set (arrivedDays uuid channel resp fails) k s.rows
    rw [hs k] at hget
    rw [write, ofKey_append, List.getLast?_append]
    exact hget

/-- What has been written stays written. -/
lemma written_step (h : s.step a = some s') : s.written <+: s'.written := by
  rcases step_cases h with ⟨-, -, hwritten⟩ |
    ⟨i, reply, fails, uuid, channel, resp, -, -, -, hwritten⟩
  · rw [hwritten]
  · rw [hwritten]
    exact List.prefix_append _ _

/-- A step writes the valid entries of the reply that arrives, for each day in the order of the
device: all of them if no write throws, and no conversion. -/
def Writes (s : EnergyStore) (a : EnergyAct) (s' : EnergyStore) : Prop :=
  match s.arriving a with
  | none => s'.written = s.written
  | some (uuid, channel, resp) => ∀ k, ∃ days,
      ofKey k s'.written = ofKey k s.written ++ days
        ∧ days.Sublist (daysOf uuid channel resp k)
        ∧ ((∀ item ∈ consumptionList resp, ConvertibleEntry item) → a.Succeeds →
          days = daysOf uuid channel resp k)

lemma writes_of_step [DateOrder] (h : s.step a = some s') : s.Writes a s' := by
  rw [Writes]
  rcases step_cases h with ⟨harriving, -, hwritten⟩ |
    ⟨i, reply, fails, uuid, channel, resp, rfl, harriving, -, hwritten⟩
  · rw [harriving]
    exact hwritten
  · rw [harriving]
    intro k
    obtain ⟨hsub, hall⟩ := ofKey_arrivedDays uuid channel resp fails k
    exact ⟨_, by rw [hwritten, write, ofKey_append], hsub, hall⟩

omit [Runtime] in
/-- Of rows in the order of their times the last one is the newest. -/
lemma Shows.newest (hs : s.Shows) {k : DayKey}
    (hsorted : (ofKey k s.written).Pairwise fun a b => a.atS ≤ b.atS) {row : DayRow}
    (hrow : row ∈ ofKey k s.written) : ∃ cur, s.rows.get k = some cur ∧ row.atS ≤ cur.atS := by
  rw [hs k]
  rcases List.eq_nil_or_concat' (ofKey k s.written) with hnil | ⟨earlier, last, heq⟩
  · rw [hnil] at hrow
    cases hrow
  · rw [heq] at hsorted hrow ⊢
    refine ⟨last, List.getLast?_concat, ?_⟩
    rcases List.mem_append.mp hrow with hrow | hrow
    · exact (List.pairwise_append.mp hsorted).2.2 row hrow last List.mem_cons_self
    · rw [List.mem_singleton.mp hrow]

omit [Runtime] in
/-- What is shown has been written. -/
lemma Shows.mem_written (hs : s.Shows) {k : DayKey} {row : DayRow}
    (hrow : s.rows.get k = some row) : row ∈ ofKey k s.written := by
  rw [hs k] at hrow
  exact List.mem_of_getLast? hrow

end EnergyStore

open EnergyStore in
/-- **Daily energy.** In every run the row of a day is the last entry that was written for it, and
what is written of a reply are its valid entries in the order of the device. If the entries of a day
are written in the order of their times, the row is the newest of them, and its time does not
decrease. -/
theorem stored_days [DateOrder] {s : EnergyStore}
    (h : Reaches EnergyStore.step Always EnergyStore.start s) :
    (∀ k, s.rows.get k = (ofKey k s.written).getLast?)
    ∧ (∀ a s', s.step a = some s' → s.Writes a s')
    ∧ ∀ s', Reaches EnergyStore.step Always s s' → ∀ k,
      (ofKey k s'.written).Pairwise (fun a b => a.atS ≤ b.atS) →
        ∀ row, row ∈ ofKey k s'.written ∨ s.rows.get k = some row →
          ∃ cur, s'.rows.get k = some cur ∧ row.atS ≤ cur.atS := by
  have hshows : ∀ {s₀ t : EnergyStore}, s₀.Shows → Reaches EnergyStore.step Always s₀ t →
      t.Shows := fun h₀ ht => ht.invariant h₀ fun _ _ _ hs _ hstep => hs.step hstep
  have hs : s.Shows := hshows (fun k => rfl) h
  refine ⟨hs, fun a s' => writes_of_step, fun s' hs' k hsorted row hrow => ?_⟩
  refine (hshows hs hs').newest hsorted ?_
  rcases hrow with hrow | hrow
  · exact hrow
  · have hgrows : s.written <+: s'.written :=
      hs'.invariant (I := fun t => s.written <+: t.written) List.prefix_rfl
        fun _ _ _ hpre _ hstep => hpre.trans (written_step hstep)
    exact ((hgrows.filter _).map _).subset (hs.mem_written hrow)

end

/-- A request for the daily energy of a plug. -/
def energyRequest : Request := ⟨"application/json", some (.obj [("uuid", .str "u")])⟩

/-- A reply with two readings of one day, with their times. -/
def twoReadings (time time' : ℚ) : Json :=
  payloadReply "consumptionx" (.arr [
    .obj [("date", .str "2024-05-01"), ("time", .num (.fin time)), ("value", .num (.fin 7))],
    .obj [("date", .str "2024-05-01"), ("time", .num (.fin time')), ("value", .num (.fin 9))]])

/-- A device that sends a reply, and a configuration that knows the device. -/
def energyReply (resp : Json) : (c : Call) → Reply c
  | .readFile => .json (.obj [("cloud", .obj [("key", .str "k")]),
      ("hosts", .obj [("u", .obj [("host", .str "10.0.0.9")])])])
  | .fetchConfig _ => .response 200 "OK" "" (.ok resp)
  | c => silence c

/-- One request, up to its answer. -/
def energyRun (resp : Json) : List EnergyAct :=
  [.post energyRequest, .goesOn 0 (energyReply resp) fun _ => false,
    .goesOn 0 (energyReply resp) fun _ => false, .goesOn 0 (energyReply resp) fun _ => false]

/-- Two readings in the order of their times, of which the second one stays. -/
theorem stored_days_ordered : let _ := plainRuntime; ∃ s,
    run EnergyStore.step (energyRun (twoReadings 1 2)) EnergyStore.start = some s
      ∧ s.rows.get ⟨"u", 0, "2024-05-01"⟩ = some ⟨2, 9⟩
      ∧ s.rows.get ⟨"u", 0, "2024-05-01"⟩
        = (ofKey ⟨"u", 0, "2024-05-01"⟩ s.written).getLast? := by
  let _ := plainRuntime
  have _ := dateOrder_plainRuntime
  have hrun : ∃ s, run EnergyStore.step (energyRun (twoReadings 1 2)) EnergyStore.start = some s
      ∧ s.rows.get ⟨"u", 0, "2024-05-01"⟩ = some ⟨2, 9⟩ := ⟨_, rfl, by decide +kernel⟩
  obtain ⟨s, hs, hrow⟩ := hrun
  exact ⟨s, hs, hrow, (stored_days (reaches_run _ (along_always _ _) hs)).1 _⟩

/-- Two readings in the other order, of which the older one stays. -/
theorem older_reading_stays : ¬ ∀ (_ : Runtime) (s : EnergyStore), DateOrder →
    Reaches EnergyStore.step Always EnergyStore.start s → ∀ k row, row ∈ ofKey k s.written →
      ∃ cur, s.rows.get k = some cur ∧ row.atS ≤ cur.atS := by
  intro hall
  let _ := plainRuntime
  have hrun : ∃ s, run EnergyStore.step (energyRun (twoReadings 2 1)) EnergyStore.start = some s
      ∧ s.rows.get ⟨"u", 0, "2024-05-01"⟩ = some ⟨1, 9⟩
      ∧ ⟨2, 7⟩ ∈ ofKey ⟨"u", 0, "2024-05-01"⟩ s.written := ⟨_, rfl, by decide +kernel⟩
  obtain ⟨s, hs, hrow, hmem⟩ := hrun
  obtain ⟨cur, hcur, hle⟩ := hall plainRuntime s dateOrder_plainRuntime
    (reaches_run _ (along_always _ _) hs) _ _ hmem
  rw [hrow] at hcur
  obtain rfl := Option.some.inj hcur
  exact absurd hle (by decide)

end Merossity
