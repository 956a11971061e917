import Merossity.Meross.CloudRuns

/-!
The device lists that the cloud returns.

* `locations` are the places where `extractCloudDeviceList` looks for a list, in their order
  (`extractCloudDeviceList_eq`).
* `Opens` is what a place must look like to be taken, and `Sound` data has devices only in the first
  place that is taken, and no devices elsewhere if that place is empty.
* **`returnsDevices_iff`**: `merossCloudListDevices` returns devices only, and an empty list only if
  there are none, as long as the data is sound.
-/

namespace Merossity

open Js

/-! ### Where the list is looked for -/

/-- The candidates of `extractCloudDeviceList`. -/
def wrappers (obj : Json) : List (Option Json) :=
  [obj.get? "devList", obj.get? "deviceList", obj.get? "list", obj.get? "devices",
    Json.opt (obj.get? "data") "devList", Json.opt (obj.get? "data") "deviceList",
    Json.opt (obj.get? "data") "list",
    if truthy (obj.get? "payload") then coerceJson (obj.get? "payload") else none].map coerceJson

/-- A candidate, and its lists under the keys that are supported there. -/
def places (c : Option Json) : List (Option Json) :=
  [c, Json.opt c "devList", Json.opt c "list", Json.opt c "devices"]

/-- The places where a device list is looked for. -/
def locations (data : Option Json) : List (Option Json) :=
  coerceJson data :: match coerceJson data with
    | some obj => if obj.isObject then (wrappers obj).flatMap places else []
    | none => []

lemma findSome?_flatMap {α β γ : Type} (l : List α) (g : α → List β) (f : β → Option γ) :
    (l.flatMap g).findSome? f = l.findSome? fun a => (g a).findSome? f := by
  induction l with
  | nil => rfl
  | cons a l ih =>
      rw [List.flatMap_cons, List.findSome?_append, ih, List.findSome?_cons]
      cases (g a).findSome? f <;> rfl

lemma findSome?_places (c : Option Json) : (places c).findSome? deviceList? = candidateList c := by
  rw [candidateList, places]
  simp only [List.findSome?_cons, List.findSome?_nil]
  cases deviceList? c <;> cases deviceList? (Json.opt c "devList")
    <;> cases deviceList? (Json.opt c "list") <;> cases deviceList? (Json.opt c "devices") <;> rfl

/-- The list that is found is that of the first place which has one. -/
lemma extractCloudDeviceList_eq (data : Option Json) :
    extractCloudDeviceList data = (locations data).findSome? deviceList? := by
  rw [extractCloudDeviceList, locations, List.findSome?_cons]
  cases deviceList? (coerceJson data) with
  | some list => rfl
  | none =>
      cases coerceJson data with
      | none => rfl
      | some obj =>
          dsimp only
          by_cases hobject : obj.isObject = true
          · have hplaces : candidateList = fun c => (places c).findSome? deviceList? :=
              funext fun c => (findSome?_places c).symm
            rw [if_pos hobject, if_pos hobject, findSome?_flatMap, hplaces]
            rfl
          · rw [if_neg hobject, if_neg hobject]
            rfl

/-! ### Sound data -/

/-- Devices only. -/
def AllDevices (list : List Json) : Prop := ∀ d ∈ list, isDeviceLike d = true

/-- The place holds a list that is empty, or begins with a device. -/
def Opens (place : Option Json) (list : List Json) : Prop :=
  place = some (.arr list) ∧ ∀ d, list.head? = some d → isDeviceLike d = true

/-- No place holds a list of devices, unless it is empty. -/
def NoDevices (places : List (Option Json)) : Prop :=
  ∀ list, some (.arr list) ∈ places → AllDevices list → list = []

/-- In the first place whose list is empty or begins with a device, there are devices only; and if
that list is empty, no place has devices. -/
def Sound (data : Option Json) : Prop :=
  ∀ before place after list, locations data = before ++ place :: after →
    (∀ p ∈ before, ∀ l, ¬Opens p l) → Opens place list →
    AllDevices list ∧ (list = [] → NoDevices (locations data))

lemma deviceList?_eq_some_iff {place : Option Json} {list : List Json} :
    deviceList? place = some list ↔ Opens place list := by
  rcases place with _ | (_ | _ | _ | _ | (_ | ⟨d, ds⟩) | _)
  case some.arr.nil =>
    constructor
    · rintro ⟨rfl⟩
      exact ⟨rfl, by simp⟩
    · rintro ⟨h, -⟩
      obtain rfl := Json.arr.inj (Option.some.inj h)
      rfl
  case some.arr.cons =>
    rw [deviceList?]
    constructor
    · intro h
      split_ifs at h with hd
      obtain rfl := Option.some.inj h
      exact ⟨rfl, by simpa using hd⟩
    · rintro ⟨h, hhead⟩
      obtain rfl := Json.arr.inj (Option.some.inj h)
      exact if_pos (hhead d rfl)
  all_goals exact iff_of_false (by simp [deviceList?]) (by simp [Opens])

/-- What is found is devices, and no empty list if there are any, exactly if the data is sound. -/
lemma sound_iff {data : Option Json} : Sound data ↔
    ∀ list, extractCloudDeviceList data = some list →
      AllDevices list ∧ (list = [] → NoDevices (locations data)) := by
  have hclosed {place : Option Json} : deviceList? place = none ↔ ∀ l, ¬Opens place l := by
    simp only [← deviceList?_eq_some_iff, Option.eq_none_iff_forall_ne_some, ne_eq]
  simp only [extractCloudDeviceList_eq, List.findSome?_eq_some_iff, deviceList?_eq_some_iff,
    hclosed]
  constructor
  · rintro h list ⟨before, place, after, hlocations, hopens, hbefore⟩
    exact h before place after list hlocations hbefore hopens
  · intro h before place after list hlocations hbefore hopens
    exact h list ⟨before, place, after, hlocations, hopens, hbefore⟩

/-! ### Every run -/

/-- What `merossCloudListDevices` makes of the last response. -/
def listed (resp : Json) : Except JsError (List Json) :=
  if apiStatus resp ≠ .fin 0 then
    .error ⟨"Cloud devList failed", some (some (apiStatus resp), resp.get? "info")⟩
  else
    match extractCloudDeviceList (resp.get? "data") with
    | some list => .ok list
    | none => .error ⟨missingDevList (resp.get? "data"), some (none, none)⟩

/-- `merossCloudListDevices` is one request with its redirects, and a look at the last response. -/
lemma merossCloudListDevices_eq {creds : Json} {domain : String} (timeoutMs : Option Number)
    (hdomain : creds.get? "domain" = some (.str domain)) :
    merossCloudListDevices creds timeoutMs = (do
      let result ← postWithRedirect "/v1/Device/devList" (.obj []) (creds.get? "token") "https"
        domain (timeoutMs.getD (.fin 15000))
      ExceptT.mk (.ret (listed result.2))) := by
  rw [merossCloudListDevices, hdomain]
  refine bind_congr fun result => ?_
  obtain ⟨host, resp⟩ := result
  dsimp only
  rw [listed]
  split_ifs
  · rfl
  · cases extractCloudDeviceList (resp.get? "data") <;> rfl

/-- A run of `merossCloudListDevices` consists of requests to the cloud, and returns what is listed
in the last reply. -/
lemma runs_merossCloudListDevices {creds : Json} {timeoutMs : Option Number}
    {tr : List (Prog.Event Call Reply)} {r : Except JsError (List Json)}
    (h : Prog.Runs (merossCloudListDevices creds timeoutMs).run tr r) :
    ∃ exs, tr = cloudTrace exs ∧ ∀ list, r = .ok list ↔ ∃ ex resp, exs.getLast? = some ex
      ∧ ex.outcome = .ok resp ∧ listed resp = .ok list := by
  by_cases hdomain : ∃ domain, creds.get? "domain" = some (.str domain)
  · obtain ⟨domain, hdomain⟩ := hdomain
    rw [merossCloudListDevices_eq timeoutMs hdomain, Prog.runs_bind] at h
    rcases h with ⟨e, h, rfl⟩ | ⟨⟨host, resp⟩, tr₁, tr₂, rfl, h, rfl, rfl⟩
    · rcases runs_postWithRedirect_cases h with ⟨message, -, rfl, -⟩ | ⟨exs, rfl, -, hfollows⟩
      · exact ⟨[], rfl, by simp⟩
      · obtain ⟨ex, hex, herror⟩ := hfollows.last_error
        refine ⟨exs, rfl, fun list => iff_of_false (by simp) ?_⟩
        rintro ⟨ex', resp, hex', hout, -⟩
        obtain rfl : ex = ex' := Option.some.inj (hex.symm.trans hex')
        cases herror.symm.trans hout
    · rcases runs_postWithRedirect_cases h with ⟨message, -, -, hr⟩ | ⟨exs, rfl, -, hfollows⟩
      · cases hr
      · obtain ⟨ex, hex, -, hout⟩ := hfollows.last_ok
        refine ⟨exs, List.append_nil _, fun list => ?_⟩
        constructor
        · exact fun hlisted => ⟨ex, resp, hex, hout, hlisted⟩
        · rintro ⟨ex', resp', hex', hout', hlisted⟩
          obtain rfl : ex = ex' := Option.some.inj (hex.symm.trans hex')
          obtain rfl := Except.ok.inj (hout.symm.trans hout')
          exact hlisted
  · have hthrows : merossCloudListDevices creds timeoutMs
        = throwNew "domain.replace is not a function" := by
      rw [merossCloudListDevices]
      split
      · next domain h => exact absurd ⟨domain, h⟩ hdomain
      · rfl
    rw [hthrows] at h
    obtain ⟨rfl, rfl⟩ := Prog.runs_throw.mp h
    exact ⟨[], rfl, by simp⟩

lemma listed_eq_ok_iff {resp : Json} {list : List Json} : listed resp = .ok list ↔
    apiStatus resp = .fin 0 ∧ extractCloudDeviceList (resp.get? "data") = some list := by
  rw [listed]
  by_cases hstatus : apiStatus resp = .fin 0
  · rw [if_neg (not_not_intro hstatus)]
    cases extractCloudDeviceList (resp.get? "data") <;> simp [hstatus]
  · rw [if_pos hstatus]
    simp [hstatus]

/-- The list that is returned has devices only; and it is not empty, if a place in the data of the
last reply has devices. -/
def ReturnsDevices (exs : List CloudExchange) (r : Except JsError (List Json)) : Prop :=
  ∀ list, r = .ok list → AllDevices list ∧ (list = [] →
    ∀ ex resp, exs.getLast? = some ex → ex.outcome = .ok resp →
      NoDevices (locations (resp.get? "data")))

/-- **The list of the devices** has devices only, and is not empty if there are any, exactly if the
data of the last reply is sound, in case its status is 0. -/
theorem returnsDevices_iff (env : Environment) (creds : Json) (timeoutMs : Option Number) :
    ∃ exs, (Prog.run env (merossCloudListDevices creds timeoutMs).run).2 = cloudTrace exs
      ∧ (ReturnsDevices exs (Prog.run env (merossCloudListDevices creds timeoutMs).run).1 ↔
        ∀ ex resp, exs.getLast? = some ex → ex.outcome = .ok resp → apiStatus resp = .fin 0 →
          Sound (resp.get? "data")) := by
  obtain ⟨exs, htrace, hr⟩ := runs_merossCloudListDevices
    (Prog.runs_run env (merossCloudListDevices creds timeoutMs).run)
  refine ⟨exs, htrace, ?_⟩
  constructor
  · intro h ex resp hex hout hstatus
    refine sound_iff.mpr fun list hlist => ?_
    obtain ⟨hdevices, hempty⟩ := h list
      ((hr list).mpr ⟨ex, resp, hex, hout, listed_eq_ok_iff.mpr ⟨hstatus, hlist⟩⟩)
    exact ⟨hdevices, fun hnil => hempty hnil ex resp hex hout⟩
  · intro h list hlist
    obtain ⟨ex, resp, hex, hout, hlisted⟩ := (hr list).mp hlist
    obtain ⟨hstatus, hextract⟩ := listed_eq_ok_iff.mp hlisted
    obtain ⟨hdevices, hempty⟩ := sound_iff.mp (h ex resp hex hout hstatus) list hextract
    refine ⟨hdevices, fun hnil ex' resp' hex' hout' => ?_⟩
    obtain rfl : ex = ex' := Option.some.inj (hex.symm.trans hex')
    obtain rfl := Except.ok.inj (hout.symm.trans hout')
    exact hempty hnil

/-- A cloud whose device list has a null in it. -/
def untidyCloud : (c : Call) → Reply c
  | .cloudFetch _ => .response 200 (some (.obj [("apiStatus", .num (.fin 0)),
      ("data", .arr [.obj [("uuid", .str "a")], .null])]))
  | c => silence c

/-- The null is returned along with the device. -/
theorem not_returnsDevices_null : ∃ exs,
    (Prog.run (fun _ => untidyCloud) (merossCloudListDevices
      (.obj [("domain", .str "iotx.meross.com"), ("token", .str "t")]) none).run).2
        = cloudTrace exs
      ∧ ¬ReturnsDevices exs (Prog.run (fun _ => untidyCloud) (merossCloudListDevices
        (.obj [("domain", .str "iotx.meross.com"), ("token", .str "t")]) none).run).1 := by
  refine ⟨[⟨_, _⟩], rfl, fun h => ?_⟩
  have hnull : isDeviceLike .null = true := (h _ rfl).1 .null (by simp)
  exact Bool.false_ne_true hnull

/-- An empty list hides the devices in a place that is looked at later. -/
example : extractCloudDeviceList (some (.obj [("devList", .arr []),
    ("list", .arr [.obj [("uuid", .str "a")]])])) = some [] := rfl

end Merossity
