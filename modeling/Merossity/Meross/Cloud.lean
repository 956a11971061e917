import Merossity.Api.Shared
import Merossity.Js.Parse

/-!
The Meross cloud: `meross/cloud/http.ts`.

* `authenticatedPost` is one request, `postWithRedirect` follows the redirects to another
  regional domain, and `merossCloudLogin` tries the domains in turn.
* `extractCloudDeviceList` finds the device list in what the cloud sends.
* The password stands for its hash, and the description of the host computer is left out
  of the parameters.
-/

namespace Merossity

open Js

/-- `new MerossCloudError(message, apiStatus, info)`, thrown. -/
def throwCloud {α : Type} (message : String) (apiStatus : Option Number) (info : Option Json) :
    Async α :=
  throw { message, cloud := some (apiStatus, info) }

/-- `stripScheme`. -/
def stripScheme (domain : String) : String :=
  let rest :=
    if startsWith domain "http://" then domain.toList.drop 7
    else if startsWith domain "https://" then domain.toList.drop 8
    else domain.toList
  String.ofList (rest.rdropWhile (· = '/'))

/-- `resp.apiStatus`, a number in every response that is accepted. -/
def apiStatus (resp : Json) : Number :=
  match resp.get? "apiStatus" with
  | some (.num n) => n
  | _ => .nan

/-- `authenticatedPost`. -/
def authenticatedPost (endpoint : String) (params : Json) (token : Option Json)
    (scheme domain : String) (timeoutMs : Number) : Async Json := do
  let authorization ← eval
    (if truthy token then (toText token).map ("Basic " ++ ·) else .ok "Basic")
  let reply ← call (.cloudFetch { scheme, domain, endpoint, params, authorization, timeoutMs })
  match reply with
  | .failed message => throwNew message
  | .response status json =>
      match json with
      | none => throwCloud s!"Invalid cloud response ({status})" none none
      | some v =>
          match v.isObject, v.get? "apiStatus" with
          | true, some (.num _) => return v
          | _, _ => throwCloud s!"Invalid cloud response ({status})" none none

/-- The domain that a response redirects to. -/
def redirectDomain (resp : Json) : Option String :=
  match resp.path ["data", "domain"] with
  | some (.str domain) =>
      if apiStatus resp = .fin 1030 ∧ domain ≠ "" then some (stripScheme domain) else none
  | _ => none

/-- The loop of `postWithRedirect`, with the number of redirects it still follows. -/
def followRedirects (post : String → Async Json) : ℕ → String → Async (String × Json)
  | 0, domain => do
      let resp ← post domain
      return (domain, resp)
  | attempts + 1, domain => do
      let resp ← post domain
      match redirectDomain resp with
      | some next => followRedirects post attempts next
      | none => return (domain, resp)

/-- `postWithRedirect`. -/
def postWithRedirect (endpoint : String) (params : Json) (token : Option Json)
    (scheme domain : String) (timeoutMs : Number) : Async (String × Json) :=
  followRedirects (fun domain => authenticatedPost endpoint params token scheme domain timeoutMs) 2
    (stripScheme domain)

/-! ### Signing in -/

/-- `DEFAULT_FALLBACK_DOMAINS`, the first one being `DEFAULT_DOMAIN`. -/
def fallbackDomains : List String :=
  ["iotx.meross.com", "iotx-ap.meross.com", "iotx-us.meross.com", "iotx-eu.meross.com"]

/-- `domainCandidates`. -/
def domainCandidates (option : Option String) : List String :=
  let defaults := fallbackDomains.map stripScheme
  match option with
  | none => defaults.eraseDups
  | some option =>
      if option = "" then defaults.eraseDups
      else if defaults.contains (stripScheme option) then
        stripScheme option :: defaults.filter (· ≠ stripScheme option)
      else [stripScheme option]

/-- The loop over the candidates: only status 1004 goes on to the next one. -/
def signInLoop (post : String → Async (String × Json)) :
    List String → Async (Option (String × Json))
  | [] => return none
  | candidate :: rest => do
      let result ← post candidate
      if apiStatus result.2 = .fin 1004 ∧ rest ≠ [] then signInLoop post rest
      else return some result

/-- `merossCloudLogin`: the credentials. -/
def merossCloudLogin (email password : String) (mfaCode domain scheme : Option String)
    (timeoutMs : Option Number) : Async Fields := do
  let scheme := scheme.getD "https"
  let timeoutMs := timeoutMs.getD (.fin 15000)
  let signInParams : Fields :=
    [("email", .str email), ("password", .str password), ("accountCountryCode", .str "us"),
      ("agree", .num (.fin 0)), ("encryption", .num (.fin 1))]
    ++ (match mfaCode with
      | some code => if code ≠ "" then [("mfaCode", .str code)] else []
      | none => [])
  let result ← signInLoop (fun candidate =>
    postWithRedirect "/v1/Auth/signIn" (.obj signInParams) none scheme candidate timeoutMs)
    (domainCandidates domain)
  match result with
  | none => throwCloud "Cloud signIn failed" none none
  | some (resolvedDomain, resp) =>
      if apiStatus resp ≠ .fin 0 then
        throwCloud "Cloud signIn failed" (some (apiStatus resp)) (resp.get? "info")
      else
        let data := coalesce (resp.get? "data") (some (.obj []))
        let token ← eval (toText (coalesce (Json.opt data "token") (some (.str ""))))
        let key ← eval (toText (coalesce (Json.opt data "key") (some (.str ""))))
        let userId ← eval (toText (coalesce (Json.opt data "userid")
          (coalesce (Json.opt data "userId") (some (.str "")))))
        let userEmail ← eval (toText (coalesce (Json.opt data "email") (some (.str email))))
        let mqttDomain : Fields := match Json.opt data "mqttDomain" with
          | some (.str mqttDomain) => [("mqttDomain", .str mqttDomain)]
          | _ => []
        let finalDomain := stripScheme (match Json.opt data "domain" with
          | some (.str domain) => domain
          | _ => resolvedDomain)
        if token = "" ∨ key = "" ∨ userId = "" then
          throwCloud "Cloud signIn did not return token/key/userid" none none
        else
          return [("domain", .str finalDomain)] ++ mqttDomain ++ [("token", .str token),
            ("key", .str key), ("userId", .str userId), ("userEmail", .str userEmail)]

/-! ### The device list -/

/-- `isDeviceLike`. -/
def isDeviceLike (v : Json) : Bool := v.isObject && ((v.get? "uuid").bind Json.str?).isSome

/-- `coerceJson`. -/
def coerceJson (v : Option Json) : Option Json :=
  match v with
  | some (.str s) =>
      if startsWith (trim s) "\x7b" || startsWith (trim s) "[" then
        match parse (trim s) with
        | some w => some w
        | none => some (.str s)
      else some (.str s)
  | v => v

/-- `isDeviceList`, together with the list. -/
def deviceList? (v : Option Json) : Option (List Json) :=
  match v with
  | some (.arr []) => some []
  | some (.arr (d :: ds)) => if isDeviceLike d then some (d :: ds) else none
  | _ => none

/-- What the loop of `extractCloudDeviceList` takes from one candidate. -/
def candidateList (c : Option Json) : Option (List Json) :=
  ((deviceList? c).or (deviceList? (Json.opt c "devList"))).or
    ((deviceList? (Json.opt c "list")).or (deviceList? (Json.opt c "devices")))

/-- `extractCloudDeviceList`. -/
def extractCloudDeviceList (data : Option Json) : Option (List Json) :=
  let coerced := coerceJson data
  match deviceList? coerced with
  | some list => some list
  | none =>
      match coerced with
      | none => none
      | some obj =>
          if obj.isObject then
            let inner := obj.get? "data"
            let payload := obj.get? "payload"
            let candidates := [obj.get? "devList", obj.get? "deviceList", obj.get? "list",
              obj.get? "devices", Json.opt inner "devList", Json.opt inner "deviceList",
              Json.opt inner "list", if truthy payload then coerceJson payload else none]
            (candidates.map coerceJson).findSome? candidateList
          else none

/-- `typeof data`, with the two names that the error message has for objects. -/
def dataType : Option Json → String
  | none => "undefined"
  | some .null => "null"
  | some (.bool _) => "boolean"
  | some (.num _) => "number"
  | some (.str _) => "string"
  | some (.arr _) => "array"
  | some (.obj _) => "object"

/-- The message for a response without a device list. -/
def missingDevList (data : Option Json) : String :=
  let keys := match data with
    | some (.obj fs) => (fs.map Prod.fst).take 20
    | _ => []
  "Cloud devList response missing devList[] (dataType=" ++ dataType data
    ++ (if keys = [] then "" else " keys=" ++ String.intercalate "," keys) ++ ")"

/-- `merossCloudListDevices`, of the credentials in the configuration. -/
def merossCloudListDevices (creds : Json) (timeoutMs : Option Number) : Async (List Json) := do
  match creds.get? "domain" with
  | some (.str domain) =>
      let (_, resp) ← postWithRedirect "/v1/Device/devList" (.obj []) (creds.get? "token") "https"
        domain (timeoutMs.getD (.fin 15000))
      if apiStatus resp ≠ .fin 0 then
        throwCloud "Cloud devList failed" (some (apiStatus resp)) (resp.get? "info")
      else
        match extractCloudDeviceList (resp.get? "data") with
        | some list => return list
        | none => throwCloud (missingDevList (resp.get? "data")) none none
  | _ => throwNew "domain.replace is not a function"

end Merossity
