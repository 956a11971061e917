import Merossity.Meross.Cloud
import Merossity.Meross.Lan

/-!
The operations that write the configuration: `login-cloud.ts`, `refresh-cloud-devices.ts`,
`resolve-host.ts`, `discover-hosts.ts`, `network-cidr.ts`, the scan of
`meross/lan/discovery.ts`, and `tryResolveHost` of `state-poller.ts` apart from what it does
to the state of the poller.
-/

namespace Merossity

open Js

/-! ### Fields of a request -/

/-- `v ? String(v) : ''`. -/
def truthyText (v : Option Json) : Except String String :=
  if truthy v then toText v else .ok ""

/-- `v !== undefined ? Number(v) : undefined`. -/
def optionalNumber (v : Option Json) : Except String (Option Number) :=
  match v with
  | none => .ok none
  | some v => (toNumber (some v)).map some

/-- `Number.isFinite(n) ? n : undefined`. -/
def finiteOnly (n : Option Number) : Option Number :=
  n.bind fun n => n.finite?.map fun _ => n

/-- `Math.max(m, n)`. -/
def atLeast (m : ℚ) : Number → Number
  | .fin q => .fin (max m q)
  | .inf true => .fin m
  | n => n

/-! ### Cloud -/

/-- `inferMfaRequired`; the text of a response that is no string has no lower case. -/
def inferMfaRequired (e : JsError) : Except String Bool :=
  match e.cloud with
  | none => .ok false
  | some (_, info) =>
      match coalesce info (some (.str "")) with
      | some (.str info) =>
          .ok (["mfa", "totp", "verify", "verification"].any (includes (toLowerCase info)))
      | _ => .error "toLowerCase is not a function"

/-- The details of a cloud error in an answer. -/
def cloudDetails (e : JsError) : Option Json :=
  e.cloud.map fun (apiStatus, info) =>
    .obj ((apiStatus.map fun n => ("apiStatus", Json.num n)).toList
      ++ (info.map fun v => ("info", v)).toList)

/-- `summarizeCloud`, of credentials that `merossCloudLogin` returns. -/
def summarizeCloud (creds : Fields) : Fields :=
  let token := match Assoc.get creds "token" with
    | some (.str token) => token.toList
    | _ => []
  let redacted :=
    if token = [] then ""
    else String.ofList (token.take 4) ++ "…" ++ String.ofList (token.drop (token.length - 4))
  (["domain", "mqttDomain", "userId", "userEmail", "key"].filterMap fun k =>
    (Assoc.get creds k).map fun v => (k, v)) ++ [("tokenRedacted", .str redacted)]

/-- `createLoginCloudHandler`, without what it logs. -/
def createLoginCloudHandler (req : Request) : Async Response := do
  let body := parseJsonBody req
  let email ← textField body "email"
  let password ← textField body "password"
  let mfaCode ← eval (truthyText (body.get? "mfaCode"))
  let domain ← eval (truthyText (body.get? "domain"))
  let scheme := match body.get? "scheme" with
    | some (.str "http") => some "http"
    | some (.str "https") => some "https"
    | _ => none
  let timeoutMs ← eval (optionalNumber (body.get? "timeoutMs"))
  if email = "" ∨ password = "" then
    return apiErr "Missing email/password in request body." "missing_creds"
  else
    tryCatch (do
      let creds ← merossCloudLogin email password (some mfaCode)
        (if truthy (body.get? "domain") then some domain else none) scheme (finiteOnly timeoutMs)
      let cfg ← readConfig
      let updatedAt ← call .nowIso
      writeConfig cfg (.cloud (.obj (Assoc.set creds "updatedAt" (.str updatedAt))))
      return apiOk [("cloud", .obj (summarizeCloud creds))]) fun e => do
        let mfa ← eval (inferMfaRequired e)
        if mfa then
          return apiErr "MFA required. Provide a TOTP code and try again." "mfa_required"
            (cloudDetails e)
        else
          match e.cloud with
          | some _ => return apiErr e.message "cloud_error" (cloudDetails e)
          | none => return apiErr e.message "unknown" none 500

/-- `createRefreshCloudDevicesHandler`. -/
def createRefreshCloudDevicesHandler (req : Request) : Async Response := do
  let body := parseJsonBody req
  let timeoutMs ← eval (optionalNumber (body.get? "timeoutMs"))
  let cfg ← readConfig
  if truthy (cfg.get? "cloud") then
    tryCatch (do
      let list ← merossCloudListDevices ((cfg.get? "cloud").getD .null) (finiteOnly timeoutMs)
      let updatedAt ← call .nowIso
      writeConfig cfg (.devices updatedAt list)
      return apiOk [("count", .num (.fin list.length)), ("list", .arr list)]) fun e =>
        match e.cloud with
        | some _ => return apiErr e.message "cloud_error" (cloudDetails e)
        | none => return apiErr e.message "unknown" none 500
  else return apiErr "Not logged in. Run /api/cloud/login first." "not_logged_in"

/-! ### Scanning the LAN -/

/-- `resolveIpv4FromMac`. -/
def resolveIpv4FromMac (mac : String) : Async (Option String) := do
  let target ← eval (normalizeMac mac)
  let arpOut ← call (.runCmd ["arp", "-a"])
  match findInArp target (splitOn arpOut '\n') with
  | some ip => return some ip
  | none =>
      let neighOut ← call (.runCmd ["ip", "neigh"])
      return findInNeigh target (splitOn neighOut '\n')

/-- What a worker of the scan makes of a reply: the address and the MAC address, if the device
is the wanted one. -/
def scanMatch (uuid : String) (targetMac : Option String) (p : Probe) :
    Option (String × Option String) :=
  let mac := extractLanMac p.resp
  if extractLanUuid p.resp = some uuid ∨ (mac.isSome ∧ targetMac = mac ∧ targetMac ≠ some "") then
    some (p.ip, mac)
  else none

/-- `resolveHostByUuidScan`. Workers that are under way when the device is found still handle
their replies, so the last match counts. -/
def resolveHostByUuidScan (uuid cidr : String) (key : Json) (perHostTimeoutMs : Option Number)
    (targetMac : Option String) : Async (Option (String × Option String)) :=
  match listHostsInCidr cidr with
  | .error _ => return none
  | .ok [] => return none
  | .ok ips => do
      let timeoutMs := ((finiteOnly perHostTimeoutMs).map (atLeast 200)).getD (.fin 900)
      let probes ← call (.probeHosts ips key timeoutMs 24)
      return lastOr (scanMatch uuid targetMac) none probes

/-- `cidr || defaultSuggestedCidr() || ''`. -/
def effectiveCidr (cidr : String) : Async String := do
  if cidr ≠ "" then return cidr
  else
    let suggested ← call .suggestedCidr
    return suggested.getD ""

/-- `pingSweep` of a range, if there is one. Nobody looks at its failure. -/
def pingSweep (cidr : String) : Async Unit :=
  if cidr ≠ "" then call (.pingSweep cidr) else pure ()

/-! ### Hosts -/

/-- Writes the host that was found. -/
def saveHost (uuid host : String) (mac : Option String) : Async Unit := do
  let cfg ← readConfig
  let updatedAt ← call .nowIso
  writeConfig cfg (.host uuid host updatedAt mac)

/-- The end of the resolve handler: the host that was found is written, and otherwise the
answer is `notFound`. -/
def answerHost (uuid : String) (found : Option (String × Option String)) (notFound : Async String) :
    Async Response :=
  match found.filter fun hit => hit.1 ≠ "" with
  | some (ip, mac) => do
      saveHost uuid ip mac
      return apiOk ([("uuid", .str uuid), ("host", .str ip)]
        ++ (mac.map fun mac => ("mac", Json.str mac)).toList)
  | none => do
      let message ← notFound
      return apiErr message "host_not_found"

/-- The message of a scan by uuid that found nothing. -/
def notFoundByUuid (cidrTried : String) : Async String := do
  let suggested ← call .suggestedCidr
  let hint := match suggested with
    | some s => if s ≠ "" ∧ s ≠ cidrTried then [s!"Suggested: {s}."] else []
    | none => []
  return String.intercalate " " (["Could not find device on LAN by uuid.",
    s!"CIDR tried: {cidrTried}."] ++ hint ++ ["Confirm the device is awake on that network."])

/-- `createResolveHostHandler`. -/
def createResolveHostHandler (req : Request) : Async Response := do
  let body := parseJsonBody req
  let uuid ← textField body "uuid"
  let mac ← eval (toText (coalesce (body.get? "mac") (coalesce (body.get? "macAddress")
    (some (.str "")))))
  let cidr ← eval (truthyText (body.get? "cidr"))
  let perHostTimeoutMs ← eval (optionalNumber (body.get? "perHostTimeoutMs"))
  if uuid = "" then return apiErr "Missing uuid" "missing_uuid"
  else if mac ≠ "" then
    pingSweep cidr
    let ip ← resolveIpv4FromMac mac
    let normalizedMac := (normalizeMac mac).toOption
    match ip with
    | some ip => answerHost uuid (some (ip, normalizedMac)) (pure "")
    | none =>
        let cidr ← effectiveCidr cidr
        if cidr = "" then
          answerHost uuid none (pure ("Could not resolve IP from MAC. Provide a CIDR "
            ++ "(e.g. 192.168.1.0/24) so we can scan the LAN by uuid, "
            ++ "and ensure the device is online."))
        else
          let key ← requireLanKey
          pingSweep cidr
          let resolved ← resolveHostByUuidScan uuid cidr key perHostTimeoutMs normalizedMac
          answerHost uuid (resolved.map fun hit => (hit.1, hit.2.or normalizedMac))
            (pure ("Could not resolve IP from MAC (and LAN scan by uuid did not find it). "
              ++ "Ensure the device is online and CIDR is correct."))
  else
    let cidr ← effectiveCidr cidr
    if cidr = "" then
      return apiErr ("No MAC address available. Provide a CIDR (e.g. 192.168.68.0/22) so we can "
        ++ "scan the LAN by uuid.") "missing_mac"
    else
      let key ← requireLanKey
      pingSweep cidr
      let resolved ← resolveHostByUuidScan uuid cidr key perHostTimeoutMs none
      answerHost uuid resolved (notFoundByUuid cidr)

/-- What a worker of the discovery assigns for a reply. -/
def foundHost (p : Probe) : Option (String × Json) :=
  (extractLanUuid p.resp).map fun uuid =>
    (uuid, .obj ([("host", .str p.ip), ("updatedAt", .str p.time)]
      ++ ((extractLanMac p.resp).map fun mac => ("mac", Json.str mac)).toList))

/-- The length of `Array.from({ length: Math.max(1, Math.floor(n)) })`, the number of workers. -/
def workerCount : Number → Except String ℕ
  | .fin q => if (2 : ℚ) ^ 32 ≤ q then .error "Invalid array length" else .ok (max 1 q.floor.toNat)
  | .inf true => .ok 1
  | .inf false => .error "Invalid array length"
  | .nan => .ok 0

/-- The scan of the discovery. -/
def probeAll (ips : List String) (key : Json) (timeoutMs : Number) (workers : ℕ) :
    Async (List Probe) :=
  if workers = 0 then pure [] else call (.probeHosts ips key timeoutMs workers)

/-- `createDiscoverHostsHandler`. -/
def createDiscoverHostsHandler (req : Request) : Async Response := do
  let body := parseJsonBody req
  let cidr ← eval (truthyText (body.get? "cidr"))
  let cidr ← effectiveCidr cidr
  let perHostTimeoutMs ← eval (optionalNumber (body.get? "perHostTimeoutMs"))
  let concurrency ← eval (optionalNumber (body.get? "concurrency"))
  if cidr = "" then return apiErr "Missing cidr" "missing_cidr"
  else
    let key ← requireLanKey
    pingSweep cidr
    match listHostsInCidr cidr with
    | .error _ => return apiErr s!"Invalid CIDR: {cidr}" "invalid_cidr"
    | .ok ips =>
        let workers ← eval (workerCount (concurrency.getD (.fin 24)))
        let timeoutMs := (perHostTimeoutMs.map (atLeast 200)).getD (.fin 900)
        let probes ← probeAll ips key timeoutMs workers
        let found := probes.filterMap foundHost
        let cfg ← readConfig
        writeConfig cfg (.hosts found)
        return apiOk [("cidr", .str cidr), ("count", .num (.fin (foundMap found).length)),
          ("hosts", .obj (foundMap found))]

/-- `createNetworkCidrHandler().POST`. -/
def createNetworkCidrHandler (req : Request) : Async Response := do
  let body := parseJsonBody req
  let cidrRaw := trim (← textField body "cidr")
  if cidrRaw = "" then return apiErr "Missing cidr" "missing_cidr"
  else
    let cfg ← readConfig
    let updatedAt ← call .nowIso
    writeConfig cfg (.network cidrRaw updatedAt)
    return apiOk [("cidr", .str cidrRaw)]

/-- The address that `tryResolveHost` finds for a MAC address, after a sweep. -/
def findByMac (cidr : String) (mac : Option String) : Async (Option String) :=
  match mac with
  | none => return none
  | some mac => do
      pingSweep cidr
      tryCatch (resolveIpv4FromMac mac) fun _ => return none

/-- The host that `tryResolveHost` finds: by its MAC address, and otherwise by a scan. -/
def findHost (uuid cidr : String) (key : Json) (mac : Option String) :
    Async (Option (String × Option String)) := do
  let host ← findByMac cidr mac
  match host with
  | some host => return some (host, mac)
  | none =>
      if cidr = "" then return none
      else
        let resolved ← resolveHostByUuidScan uuid cidr key (some (.fin 900)) mac
        return (resolved.map fun hit => (hit.1, hit.2.or mac)).filter fun hit => hit.1 ≠ ""

/-- The body of `tryResolveHost`: the host that was found and written, with its MAC address. -/
def tryResolveHost (uuid : String) : Async (Option (String × Option String)) :=
  tryCatch (do
    let cfg ← readConfig
    let key ← requireLanKey
    let stored ← eval (toText (coalesce (Json.opt (cfg.get? "network") "cidr") (some (.str ""))))
    let cidr ← effectiveCidr (trim stored)
    let cloudDevice ← eval (findCloudDevice true cfg uuid)
    let raw ← eval (toText (coalesce (Json.opt (hostOf cfg uuid) "mac")
      (coalesce (Json.opt cloudDevice "macAddress") (coalesce (Json.opt cloudDevice "mac")
        (some (.str ""))))))
    -- a MAC address that cannot be normalized is tried as it is
    let mac := if trim raw = "" then none
      else some ((normalizeMac (trim raw)).toOption.getD (trim raw))
    let found ← findHost uuid cidr key mac
    match found with
    | none => return none
    | some (host, mac) =>
        saveHost uuid host mac
        return some (host, mac)) fun _ => return none

end Merossity
