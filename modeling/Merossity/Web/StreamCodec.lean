import Merossity.Lib.Sse
import Merossity.Poller.NormalForm
import Merossity.Web.DevicesMachine

/-!
The event stream on its way from the poller to the devices page.

* `DeviceStateDto.streamState` is what a state of the poller is on the page.
* `DeviceStateDto.json` is the object that the poller makes text of, and `pushed` are the bytes that
  a subscriber is sent of it.
* `parseStreamState` and `parseSnapshotStates` are the parsers of the page.
* `decode_sentBytes`: the page reads off the stream the events that it was sent, in their order.
* `stream_round_trip`: the page reads the bytes of a state that the poller makes as one event, and
  the data of the event as that state.
-/

namespace Merossity

open Js Machine

/-! ### States of the poller on the page -/

def PollReason.text : PollReason → String
  | .poller => "poller"
  | .manual => "manual"

/-- What a state of the poller is on the page. -/
def DeviceStateDto.streamState (s : DeviceStateDto) : StreamDeviceState where
  uuid := s.uuid
  host := s.host
  kind := some s.kind.text
  channel := s.channel
  onoff := s.onoff
  channels := some s.channels
  lights := some s.lights
  light := s.light
  timerxDigest := some s.timerxDigest
  triggerxDigest := some s.triggerxDigest
  updatedAt := s.updatedAt
  stale := s.stale
  source := some s.source.text
  error := s.error

/-- What a measurement of the poller is on the page. -/
def DevicePowerDto.power (r : DevicePowerDto) : DevicePower where
  uuid := r.uuid
  host := r.host
  channel := r.channel
  voltageV := r.voltageV
  currentA := r.currentA
  powerW := r.powerW
  updatedAt := r.updatedAt
  stale := r.stale
  error := r.error

/-! ### The objects that are sent -/

/-- The payload of a `device_state` event and of a `device_stale` event. -/
def DeviceStateDto.json (s : DeviceStateDto) : Json :=
  .obj ([("uuid", .str s.uuid), ("host", .str s.host), ("kind", .str s.kind.text),
      ("channel", natJson s.channel), ("onoff", onoffJson s.onoff),
      ("channels", .arr (s.channels.map LanToggleXState.json)),
      ("lights", .arr (s.lights.map LanLightState.json)),
      ("light", (s.light.map LanLightState.json).getD .null),
      ("timerxDigest", .arr (s.timerxDigest.map LanScheduleDigestEntry.json)),
      ("triggerxDigest", .arr (s.triggerxDigest.map LanScheduleDigestEntry.json)),
      ("updatedAt", .num (.fin s.updatedAt)), ("source", .str s.source.text),
      ("stale", .bool s.stale)]
    ++ (s.error.map fun message => ("error", Json.str message)).toList)

/-- The payload of a `snapshot` event. -/
def snapshotJson (states : List DeviceStateDto) : Json :=
  .obj [("states", .arr (states.map DeviceStateDto.json))]

/-- `JSON.stringify` and `JSON.parse`, which throws on what is no JSON. -/
structure JsonText where
  stringify : Json → String
  parse : String → Option Json

/-- The text of a value is one line, and is read as that value. -/
structure JsonText.Keeps (text : JsonText) (v : Json) : Prop where
  parse_stringify : text.parse (text.stringify v) = some v
  oneLine : Sse.OneLine (text.stringify v)

/-- The bytes that `pushToSubscriber` enqueues. -/
def pushed (text : JsonText) (type : String) (payload : Json) : ByteArray :=
  (Sse.frame type (text.stringify payload)).toUTF8

/-- The bytes of the events that a subscriber is sent, one after the other. -/
def sentBytes (text : JsonText) (es : List (String × Json)) : ByteArray :=
  es.foldr (fun e bytes => pushed text e.1 e.2 ++ bytes) ByteArray.empty

/-! ### The parsers of the page -/

/-- `isObjectRecord(v) ? v : null`. -/
def objectRecord (v : Option Json) : Option Json := v.filter Json.isObject

/-- `Number(entry?.onoff) === 1 ? 1 : 0`. -/
def parseOnoff (entry : Option Json) : Except String Bool := do
  let onoff ← toNumber (Json.opt entry "onoff")
  return onoff = .fin 1

/-- `Array.isArray(v)`, and the items that can be decoded. -/
def parseItems {α : Type} (decode : Json → Except String (Option α)) (v : Option Json) :
    Except String (List α) :=
  match v.bind Json.arr? with
  | some items => decodeItems decode items
  | none => .ok []

/-- An item of `parseChannels`. -/
def parseChannel (item : Json) : Except String (Option LanToggleXChannel) := do
  let entry := objectRecord (some item)
  let channel ← toNumber (Json.opt entry "channel")
  match channel.natural? with
  | none => return none
  | some channel =>
      let onoff ← parseOnoff entry
      return some { channel, onoff }

/-- `parseChannels`. -/
def parseChannels (v : Option Json) : Except String (List LanToggleXChannel) := do
  let out ← parseItems parseChannel v
  return sortByChannel LanToggleXState.channel out

/-- `Number.isFinite(Number(v)) ? Number(v) : undefined`. -/
def parseFinite (v : Option Json) : Except String (Option ℚ) := do
  let n ← toNumber v
  return n.finite?

/-- `parseLight`, and an item of `parseLights`. -/
def parseLight (v : Option Json) : Except String (Option LanLightChannel) := do
  let entry := objectRecord v
  let channel ← toNumber (Json.opt entry "channel")
  match channel.natural? with
  | none => return none
  | some channel =>
      let onoff ← parseOnoff entry
      let luminance ← parseFinite (Json.opt entry "luminance")
      let temperature ← parseFinite (Json.opt entry "temperature")
      let rgb ← parseFinite (Json.opt entry "rgb")
      return some { channel, onoff, luminance, temperature, rgb }

/-- `parseLights`. -/
def parseLights (v : Option Json) : Except String (List LanLightChannel) := do
  let out ← parseItems (fun item => parseLight (some item)) v
  return sortByChannel LanLightState.channel out

/-- An item of `parseScheduleDigest`. -/
def parseScheduleEntry (item : Json) : Except String (Option LanScheduleDigestEntry) := do
  let entry := objectRecord (some item)
  let channel ← toNumber (Json.opt entry "channel")
  let id ← toText (coalesce (Json.opt entry "id") (some (.str "")))
  let count ← parseFinite (Json.opt entry "count")
  return channel.natural?.bind fun channel =>
    if trim id = "" then none
    else some { channel, id := trim id, count := ((count.map Number.round).getD 0).toNat }

/-- `parseScheduleDigest`. -/
def parseScheduleDigest [Runtime] (v : Option Json) :
    Except String (List LanScheduleDigestEntry) := do
  let out ← parseItems parseScheduleEntry v
  return out.insertionSort scheduleLe

/-- `Number.isFinite(t) && t > 0` of a time. -/
def parseTime (n : Number) : Option ℚ := n.finite?.filter (0 < ·)

/-- `parseStreamState`. -/
def parseStreamState [Runtime] (raw : Json) : Except String (Option StreamDeviceState) := do
  match objectRecord (some raw) with
  | none => return none
  | some v =>
      let uuid ← toText (coalesce (v.get? "uuid") (some (.str "")))
      let host ← toText (coalesce (v.get? "host") (some (.str "")))
      let channel ← toNumber (v.get? "channel")
      let onoff ← parseOnoff (some v)
      let updatedAt ← toNumber (v.get? "updatedAt")
      if trim uuid = "" then return none
      else match channel.natural?, parseTime updatedAt with
        | some channel, some updatedAt =>
            let channels ← parseChannels (v.get? "channels")
            let lights ← parseLights (v.get? "lights")
            let light ← parseLight (v.get? "light")
            let timerxDigest ← parseScheduleDigest (v.get? "timerxDigest")
            let triggerxDigest ← parseScheduleDigest (v.get? "triggerxDigest")
            return some
              { uuid := trim uuid, host
                kind := (v.get? "kind").bind Json.str?
                channel, onoff
                channels := some channels, lights := some lights, light
                timerxDigest := some timerxDigest, triggerxDigest := some triggerxDigest
                updatedAt
                stale := truthy (v.get? "stale")
                source := (v.get? "source").bind Json.str?
                error := (v.get? "error").bind Json.str? }
        | _, _ => return none

/-- `parseSnapshotStates`. -/
def parseSnapshotStates [Runtime] (raw : Json) : Except String (List StreamDeviceState) :=
  parseItems parseStreamState (Json.opt (objectRecord (some raw)) "states")

/-- `parseMessage`. -/
def parseMessage (text : JsonText) (data : String) : Json := (text.parse data).getD .null

/-! ### The parsers undo the encoding -/

lemma ok_bind {α β : Type} (a : α) (f : α → Except String β) : (Except.ok a >>= f) = f a := rfl

lemma natural?_natCast (n : ℕ) : (Number.fin (n : ℚ)).natural? = some n := by
  simp [Number.natural?]

/-- A list of items that are each read as `f` of what they encode. -/
lemma parseItems_map {α β : Type} {decode : Json → Except String (Option β)} {encode : α → Json}
    {f : α → β} {l : List α} (h : ∀ a ∈ l, decode (encode a) = .ok (some (f a))) :
    parseItems decode (some (.arr (l.map encode))) = .ok (l.map f) := by
  show decodeItems decode (l.map encode) = .ok (l.map f)
  induction l with
  | nil => rfl
  | cons a l ih =>
      rw [List.map_cons, decodeItems, h a List.mem_cons_self, ok_bind,
        ih fun a' ha' => h a' (List.mem_cons_of_mem _ ha')]
      rfl

lemma parseOnoff_json (v : Json) (onoff : Bool) (h : v.get? "onoff" = some (onoffJson onoff)) :
    parseOnoff (some v) = .ok onoff := by
  have hopt : Json.opt (some v) "onoff" = some (onoffJson onoff) := h
  rw [parseOnoff, hopt, onoffJson]
  cases onoff <;> rfl

lemma parseFinite_field (v : Json) (k : String) (q : Option ℚ)
    (h : v.get? k = q.map fun q => Json.num (.fin q)) :
    parseFinite (Json.opt (some v) k) = .ok q := by
  have hopt : Json.opt (some v) k = q.map fun q => Json.num (.fin q) := h
  rw [parseFinite, hopt]
  cases q <;> rfl

lemma parseChannel_json (c : LanToggleXState) : parseChannel c.json = .ok (some c) := by
  have heq : parseChannel c.json = match (Number.fin (c.channel : ℚ)).natural? with
      | none => .ok none
      | some channel => parseOnoff (some c.json) >>= fun onoff => .ok (some { channel, onoff }) :=
    rfl
  rw [heq, natural?_natCast]
  dsimp only
  rw [parseOnoff_json c.json c.onoff rfl]
  rfl

lemma parseLight_json (l : LanLightState) : parseLight (some l.json) = .ok (some l) := by
  have heq : parseLight (some l.json) = match (Number.fin (l.channel : ℚ)).natural? with
      | none => .ok none
      | some channel => do
          let onoff ← parseOnoff (some l.json)
          let luminance ← parseFinite (Json.opt (some l.json) "luminance")
          let temperature ← parseFinite (Json.opt (some l.json) "temperature")
          let rgb ← parseFinite (Json.opt (some l.json) "rgb")
          return some { channel, onoff, luminance, temperature, rgb } := rfl
  obtain ⟨channel, onoff, luminance, temperature, rgb⟩ := l
  rw [heq, natural?_natCast]
  dsimp only
  rw [parseOnoff_json _ onoff rfl, ok_bind, parseFinite_field _ "luminance" luminance ?_, ok_bind,
    parseFinite_field _ "temperature" temperature ?_, ok_bind, parseFinite_field _ "rgb" rgb ?_]
  · rfl
  all_goals cases luminance <;> cases temperature <;> cases rgb <;> rfl

lemma parseScheduleEntry_json (e : LanScheduleDigestEntry) (hid : trim e.id = e.id ∧ e.id ≠ "") :
    parseScheduleEntry e.json = .ok (some e) := by
  have heq : parseScheduleEntry e.json =
      .ok ((Number.fin (e.channel : ℚ)).natural?.bind fun channel =>
        if trim e.id = "" then none
        else some { channel, id := trim e.id, count := (Number.round (e.count : ℚ)).toNat }) := rfl
  rw [heq, natural?_natCast, hid.1, Number.round_natCast, Option.bind_some, if_neg hid.2,
    Int.toNat_natCast]

lemma parseChannels_json {l : List LanToggleXState} (h : SortedBy LanToggleXState.channel l) :
    parseChannels (some (.arr (l.map LanToggleXState.json))) = .ok l := by
  rw [parseChannels, parseItems_map (f := id) fun c _ => parseChannel_json c, ok_bind, List.map_id,
    h.sort_eq]
  rfl

lemma parseLights_json {l : List LanLightState} (h : SortedBy LanLightState.channel l) :
    parseLights (some (.arr (l.map LanLightState.json))) = .ok l := by
  rw [parseLights, parseItems_map (f := id) fun l _ => parseLight_json l, ok_bind, List.map_id,
    h.sort_eq]
  rfl

lemma parsePrimaryLight_json (l : Option LanLightState) :
    parseLight (some ((l.map LanLightState.json).getD .null)) = .ok l := by
  cases l with
  | none => rfl
  | some l => exact parseLight_json l

lemma parseTime_intCast {t : ℤ} (h : 0 < t) : parseTime (.fin (t : ℚ)) = some (t : ℚ) := by
  have ht : (0 : ℚ) < t := by exact_mod_cast h
  simp [parseTime, Number.finite?, ht]

variable [Runtime]

lemma parseScheduleDigest_json {l : List LanScheduleDigestEntry} (h : NormalDigest l) :
    parseScheduleDigest (some (.arr (l.map LanScheduleDigestEntry.json))) = .ok l := by
  rw [parseScheduleDigest,
    parseItems_map (f := id) fun e he => parseScheduleEntry_json e (h.ids e he),
    ok_bind, List.map_id, h.sorted.insertionSort_eq]
  rfl

/-- A uuid that the parsers of the page leave as it is. -/
structure TrimmedUuid (uuid : String) : Prop where
  trim_eq : trim uuid = uuid
  ne_empty : uuid ≠ ""

/-- The parser of the page undoes the encoding of a normal state. -/
theorem parseStreamState_json {s : DeviceStateDto} (hs : s.Normal) (huuid : TrimmedUuid s.uuid) :
    parseStreamState s.json = .ok (some s.streamState) := by
  obtain ⟨⟨channels, lights, timerx, triggerx⟩, hupdatedAt⟩ := hs
  have huuid' : toText (coalesce (s.json.get? "uuid") (some (.str ""))) = .ok s.uuid := rfl
  have hhost : toText (coalesce (s.json.get? "host") (some (.str ""))) = .ok s.host := rfl
  have hchannel : toNumber (s.json.get? "channel") = .ok (.fin s.channel) := rfl
  have hupdatedAt' : toNumber (s.json.get? "updatedAt") = .ok (.fin s.updatedAt) := rfl
  have hchannels : parseChannels (s.json.get? "channels") = .ok s.channels :=
    parseChannels_json channels
  have hlights : parseLights (s.json.get? "lights") = .ok s.lights := parseLights_json lights
  have hlight : parseLight (s.json.get? "light") = .ok s.light := parsePrimaryLight_json s.light
  have htimerx : parseScheduleDigest (s.json.get? "timerxDigest") = .ok s.timerxDigest :=
    parseScheduleDigest_json timerx
  have htriggerx : parseScheduleDigest (s.json.get? "triggerxDigest") = .ok s.triggerxDigest :=
    parseScheduleDigest_json triggerx
  have herror : (s.json.get? "error").bind Json.str? = s.error := by
    obtain ⟨reading, uuid, updatedAt, source, stale, error⟩ := s
    cases error <;> rfl
  have hobject : objectRecord (some s.json) = some s.json := rfl
  rw [parseStreamState, hobject]
  simp only [huuid', hhost, hchannel, parseOnoff_json s.json s.onoff rfl, hupdatedAt', ok_bind,
    huuid.trim_eq, if_neg huuid.ne_empty, natural?_natCast, parseTime_intCast hupdatedAt,
    hchannels, hlights, hlight, htimerx, htriggerx, herror]
  rfl

/-- The parser of the page undoes the encoding of a list of normal states. -/
theorem parseSnapshotStates_json {states : List DeviceStateDto}
    (h : ∀ s ∈ states, s.Normal ∧ TrimmedUuid s.uuid) :
    parseSnapshotStates (snapshotJson states) = .ok (states.map DeviceStateDto.streamState) :=
  parseItems_map fun s hs => parseStreamState_json (h s hs).1 (h s hs).2

/-! ### Round trips -/

omit [Runtime] in
/-- The page reads one event off the bytes of a frame, and parses its data. -/
lemma decode_pushed {text : JsonText} {type : String} {v : Json} (h : text.Keeps v)
    (htype : type ≠ "") (htype' : Sse.OneLine type) : ∃ data,
    Sse.decode (pushed text type v) = some [(type, data)] ∧ parseMessage text data = v := by
  refine ⟨_, Sse.decode_frame htype htype' h.oneLine, ?_⟩
  rw [parseMessage, h.parse_stringify]
  rfl

omit [Runtime] in
lemma sentBytes_eq (text : JsonText) (es : List (String × Json)) : sentBytes text es =
    (String.join ((es.map fun e => (e.1, text.stringify e.2)).map
      fun e => Sse.frame e.1 e.2)).toUTF8 := by
  induction es with
  | nil => rfl
  | cons e es ih =>
      rw [List.map_cons, List.map_cons, String.join_cons, String.toUTF8_eq_toByteArray,
        String.toByteArray_append, ← String.toUTF8_eq_toByteArray, ← String.toUTF8_eq_toByteArray,
        ← ih]
      rfl

omit [Runtime] in
/-- The page reads off the stream the events that it was sent, in their order, and parses the data
of each as what was sent. -/
theorem decode_sentBytes {text : JsonText} {es : List (String × Json)}
    (h : ∀ e ∈ es, text.Keeps e.2 ∧ e.1 ≠ "" ∧ Sse.OneLine e.1) :
    (Sse.decode (sentBytes text es)).map (List.map fun e => (e.1, parseMessage text e.2))
      = some es := by
  rw [sentBytes_eq, Sse.decode_frames, Option.map_some, List.map_map]
  · have hmap : ∀ e ∈ es, (e.1, parseMessage text (text.stringify e.2)) = id e := by
      intro e he
      rw [parseMessage, (h e he).1.parse_stringify]
      rfl
    exact congrArg some ((List.map_congr_left hmap).trans (List.map_id es))
  · intro e he
    obtain ⟨e', he', rfl⟩ := List.mem_map.mp he
    obtain ⟨htext, htype, htype'⟩ := h e' he'
    exact ⟨htype, htype', htext.oneLine⟩

/-- **Decoding undoes encoding.** For every state that the poller can make, of a device with a
trimmed uuid: the page reads the bytes of it as one event of the type that was given, and the data
of the event as the state. A snapshot of such states is read as those states, in their order. -/
theorem stream_round_trip [LocaleOrder] (text : JsonText) :
    (∀ s type, Poller.CanMake s → TrimmedUuid s.uuid → text.Keeps s.json → type ≠ "" →
      Sse.OneLine type → ∃ data, Sse.decode (pushed text type s.json) = some [(type, data)] ∧
        parseStreamState (parseMessage text data) = .ok (some s.streamState)) ∧
    ∀ states, (∀ s ∈ states, Poller.CanMake s ∧ TrimmedUuid s.uuid) →
      text.Keeps (snapshotJson states) → ∃ data,
        Sse.decode (pushed text "snapshot" (snapshotJson states)) = some [("snapshot", data)] ∧
          parseSnapshotStates (parseMessage text data)
            = .ok (states.map DeviceStateDto.streamState) := by
  refine ⟨fun s type hs huuid htext htype htype' => ?_, fun states hstates htext => ?_⟩
  · obtain ⟨data, hdata, hparse⟩ := decode_pushed htext htype htype'
    exact ⟨data, hdata, hparse ▸ parseStreamState_json hs.normal huuid⟩
  · obtain ⟨data, hdata, hparse⟩ := @decode_pushed text "snapshot" _ htext (by decide) rfl
    refine ⟨data, hdata, hparse ▸ parseSnapshotStates_json fun s hs => ?_⟩
    exact ⟨(hstates s hs).1.normal, (hstates s hs).2⟩

omit [Runtime]

/-- A plug that is on, as the poller stores it. -/
def plugDto : DeviceStateDto where
  host := "10.0.0.9"
  kind := .togglex
  channel := 0
  onoff := true
  channels := [⟨0, true⟩]
  lights := []
  light := none
  timerxDigest := []
  triggerxDigest := []
  uuid := "u"
  updatedAt := 6010
  source := .poller
  stale := false
  error := none

lemma canMake_plugDto : let _ := plainRuntime; Poller.CanMake plugDto := by
  let _ := plainRuntime
  have hrun : (run Poller.step
      (backgroundPoll ++ [.pollGoesOn 0 (deviceSends (plugReply 1)) 6010 0])
      (Poller.init plugConfig)).map (fun p => p.stateByUuid.get "u") = some (some plugDto) := by
    decide +kernel
  obtain ⟨p, hp, hstate⟩ := Option.map_eq_some_iff.mp hrun
  have hclocked : passes Poller.step (fun _ a => Poller.clocked a)
      (backgroundPoll ++ [.pollGoesOn 0 (deviceSends (plugReply 1)) 6010 0])
      (Poller.init plugConfig) = true := by
    decide +kernel
  exact ⟨plugConfig, p, reaches_run _ (along_of_passes (fun _ _ h => h) _ _ hclocked) hp,
    Or.inl ⟨"u", hstate⟩⟩

/-- The text of that state. -/
def plugText : String :=
  "\x7b\"uuid\":\"u\",\"host\":\"10.0.0.9\",\"kind\":\"togglex\",\"channel\":0,\"onoff\":1," ++
    "\"channels\":[\x7b\"channel\":0,\"onoff\":1\x7d],\"lights\":[],\"light\":null," ++
    "\"timerxDigest\":[],\"triggerxDigest\":[],\"updatedAt\":6010,\"source\":\"poller\"," ++
    "\"stale\":false\x7d"

/-- The text of the snapshot of that state. -/
def plugSnapshotText : String := "\x7b\"states\":[" ++ plugText ++ "]\x7d"

/-- `JSON.stringify` and `JSON.parse` on that state and on the snapshot of it. -/
def plugJsonText : JsonText where
  stringify v := if (v.get? "states").isSome then plugSnapshotText else plugText
  parse text :=
    if text = plugText then some plugDto.json
    else if text = plugSnapshotText then some (snapshotJson [plugDto])
    else none

lemma oneLine_plugText : Sse.OneLine plugText := by
  refine Sse.OneLine.append (Sse.OneLine.append (Sse.OneLine.append ?_ ?_) ?_) ?_
  all_goals decide +kernel

lemma oneLine_plugSnapshotText : Sse.OneLine plugSnapshotText :=
  Sse.OneLine.append (Sse.OneLine.append (by decide +kernel) oneLine_plugText) (by decide +kernel)

lemma keeps_plugDto : plugJsonText.Keeps plugDto.json := by
  have hstates : (plugDto.json.get? "states").isSome = false := rfl
  constructor
  · simp only [plugJsonText, hstates, Bool.false_eq_true, if_false, if_true]
  · simpa only [plugJsonText, hstates, Bool.false_eq_true, if_false] using oneLine_plugText

lemma keeps_plugSnapshot : plugJsonText.Keeps (snapshotJson [plugDto]) := by
  have hstates : ((snapshotJson [plugDto]).get? "states").isSome = true := rfl
  have hne : plugSnapshotText ≠ plugText := by decide +kernel
  constructor
  · simp only [plugJsonText, hstates, hne, if_false, if_true]
  · simpa only [plugJsonText, hstates, if_true] using oneLine_plugSnapshotText

/-- That state, and the snapshot of it, are read as they are. -/
theorem stream_round_trip_plug : let _ := plainRuntime;
    (∃ data, Sse.decode (pushed plugJsonText "device_state" plugDto.json)
      = some [("device_state", data)] ∧
        parseStreamState (parseMessage plugJsonText data) = .ok (some plugDto.streamState)) ∧
    ∃ data, Sse.decode (pushed plugJsonText "snapshot" (snapshotJson [plugDto]))
      = some [("snapshot", data)] ∧
        parseSnapshotStates (parseMessage plugJsonText data) = .ok [plugDto.streamState] := by
  let _ := plainRuntime
  have _ := localeOrder_plainRuntime
  have huuid : TrimmedUuid plugDto.uuid := ⟨by decide +kernel, by decide⟩
  obtain ⟨hstates, hsnapshots⟩ := stream_round_trip plugJsonText
  refine ⟨hstates plugDto "device_state" canMake_plugDto huuid keeps_plugDto (by decide)
      (by decide),
    hsnapshots [plugDto] (fun s hs => ?_) keeps_plugSnapshot⟩
  obtain rfl := List.mem_singleton.mp hs
  exact ⟨canMake_plugDto, huuid⟩

end Merossity
