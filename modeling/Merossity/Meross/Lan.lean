import Merossity.Js.Json

/-!
Addresses on the LAN: `meross/lan/mac.ts`, the pure part of `meross/lan/ping-sweep.ts` and of
`meross/lan/resolve-ip.ts`, and what `meross/lan/discovery.ts` reads from a reply.

* `parseCidr` and `listHostsInCidr` compute on 32 bits, and read the result as signed, as
  the bit operators of the source do.
* `arpAddress` and `neighAddress` are the two regular expressions of `resolveIpv4FromMac`,
  each applied to one line.
-/

namespace Merossity

open Js

/-! ### MAC addresses -/

/-- `MAC_RE`: six pairs of hexadecimal digits, separated by `:` or `-`. -/
def isMac : List Char → Bool
  | [a, b] => isHexDigit a && isHexDigit b
  | a :: b :: c :: l => isHexDigit a && isHexDigit b && (c = ':' || c = '-') && isMac l
  | _ => false

/-- The pairs of an even number of characters, separated by colons. -/
def colonPairs : List Char → List Char
  | a :: b :: c :: l => a :: b :: ':' :: colonPairs (c :: l)
  | l => l

/-- `normalizeMac`. -/
def normalizeMac (mac : String) : Except String String :=
  let normalized := (toLowerCase (trim mac)).toList.map fun c => if c = '-' then ':' else c
  let compact := normalized.filter (· ≠ ':')
  if normalized.length = 17 && isMac normalized then .ok (String.ofList normalized)
  else if compact.length = 12 && compact.all isHexDigit then
    .ok (String.ofList (colonPairs compact))
  else .error s!"Invalid MAC address: {mac}"

/-! ### Address ranges -/

/-- The bytes of an address. -/
def parseOctets (ip : String) : Option (List ℕ) :=
  (splitOn ip '.').mapM fun p =>
    (parseInt10 p).bind fun n => if 0 ≤ n ∧ n ≤ 255 then some n.toNat else none

/-- `ipToInt`. -/
def ipToInt (ip : String) : Except String (BitVec 32) :=
  match parseOctets ip with
  | some [a, b, c, d] =>
      .ok ((BitVec.ofNat 32 a <<< 24) ||| (BitVec.ofNat 32 b <<< 16) ||| (BitVec.ofNat 32 c <<< 8)
        ||| BitVec.ofNat 32 d)
  | _ => .error s!"Invalid IPv4: {ip}"

/-- `intToIp`. -/
def intToIp (n : BitVec 32) : String :=
  let octet (shift : ℕ) := toString ((n >>> shift) &&& 255).toNat
  octet 24 ++ "." ++ octet 16 ++ "." ++ octet 8 ++ "." ++ octet 0

/-- A range of addresses, its ends as signed numbers. -/
structure Cidr where
  network : ℤ
  broadcast : ℤ
  pre : ℕ

/-- `parseCidr`. -/
def parseCidr (cidr : String) : Except String Cidr :=
  let invalid := Except.error s!"Invalid CIDR: {cidr}"
  let parts := splitOn cidr '/'
  let ip := parts.headD ""
  match parseInt10 ((parts[1]?).getD "") with
  | none => invalid
  | some p =>
      if ip = "" ∨ p < 0 ∨ 32 < p then invalid
      else (ipToInt ip).map fun base =>
        let mask : BitVec 32 := if p = 0 then 0 else BitVec.allOnes 32 <<< (32 - p.toNat)
        ⟨(base &&& mask).toInt, ((base &&& mask) ||| ~~~mask).toInt, p.toNat⟩

/-- `listHostsInCidr`. -/
def listHostsInCidr (cidr : String) : Except String (List String) :=
  (parseCidr cidr).map fun c =>
    if 31 ≤ c.pre then []
    else (List.range (c.broadcast - c.network - 1).toNat).map fun i =>
      intToIp (BitVec.ofInt 32 (c.network + 1 + i))

/-! ### Replies to `Appliance.System.All` -/

/-- `a ?? b ?? …` of the values under several keys. -/
def firstOf (v : Option Json) (ks : List String) : Option Json :=
  ks.foldr (fun k w => coalesce (Json.opt v k) w) none

/-- `extractLanUuid`. -/
def extractLanUuid (resp : Json) : Option String :=
  let hardware := resp.path ["payload", "all", "system", "hardware"]
  match firstOf hardware ["uuid", "UUID", "deviceUuid", "deviceUUID"] with
  | some (.str uuid) => if trim uuid ≠ "" then some (trim uuid) else none
  | _ => none

/-- `extractLanMac`. -/
def extractLanMac (resp : Json) : Option String :=
  let system := resp.path ["payload", "all", "system"]
  let raw := coalesce (firstOf (Json.opt system "hardware") ["macAddress", "mac", "macaddr", "MAC"])
    (coalesce (firstOf (Json.opt system "network") ["macAddress", "mac"])
      (firstOf (Json.opt system "wifi") ["macAddress", "mac"]))
  match raw with
  | some (.str mac) => if trim mac ≠ "" then (normalizeMac mac).toOption else none
  | _ => none

/-! ### The neighbour tables -/

/-- `\d+\.\d+\.\d+\.\d+` at the front: the address and what follows it. -/
def readAddress (l : List Char) : Option (String × List Char) :=
  let digits := List.takeWhile Char.isDigit
  let skip := List.dropWhile Char.isDigit
  match digits l, skip l with
  | a@(_ :: _), '.' :: l =>
      match digits l, skip l with
      | b@(_ :: _), '.' :: l =>
          match digits l, skip l with
          | c@(_ :: _), '.' :: l =>
              match digits l with
              | [] => none
              | d => some (String.ofList (a ++ '.' :: b ++ '.' :: c ++ '.' :: d), skip l)
          | _, _ => none
      | _, _ => none
  | _, _ => none

/-- `line.match(/\((\d+\.\d+\.\d+\.\d+)\)/)`, the first one in the line. -/
def arpAddress : List Char → Option String
  | [] => none
  | c :: l =>
      match (if c = '(' then readAddress l else none) with
      | some (ip, ')' :: _) => some ip
      | _ => arpAddress l

/-- A character of `\w`. -/
def isWord (c : Char) : Bool := c.isAlphanum || c = '_'

/-- The address after `lladdr` at the front, `/lladdr\s+([0-9a-f:]{17})\b/`. -/
def linkAddress (l : List Char) : Option String :=
  match l with
  | 'l' :: 'l' :: 'a' :: 'd' :: 'd' :: 'r' :: rest =>
      let mac := (rest.dropWhile isSpace).take 17
      let after := ((rest.dropWhile isSpace).drop 17).head?
      let boundary := (mac.getLast?.map isWord).getD false != (after.map isWord).getD false
      if (rest.head?.map isSpace).getD false && mac.length = 17 && boundary
          && mac.all fun c => c.isDigit || ('a' ≤ c && c ≤ 'f') || c = ':' then
        some (String.ofList mac)
      else none
  | _ => none

/-- `lower.match(/\blladdr\s+([0-9a-f:]{17})\b/)`, the first one in the line; `prev` is the
character before. -/
def findLinkAddress (prev : Option Char) : List Char → Option String
  | [] => none
  | c :: l =>
      match (if (prev.map isWord).getD false then none else linkAddress (c :: l)) with
      | some mac => some mac
      | none => findLinkAddress (some c) l

/-- `lower.match(/^(\d+\.\d+\.\d+\.\d+)\s/)`. -/
def neighAddress (line : List Char) : Option String :=
  match readAddress line with
  | some (ip, c :: _) => if isSpace c then some ip else none
  | _ => none

/-- The loop over the lines of `arp -a`. -/
def findInArp (target : String) : List String → Option String
  | [] => none
  | line :: lines =>
      match (if includes (toLowerCase line) target then arpAddress line.toList else none) with
      | some ip => some ip
      | none => findInArp target lines

/-- The loop over the lines of `ip neigh`. -/
def findInNeigh (target : String) : List String → Option String
  | [] => none
  | line :: lines =>
      let lower := (toLowerCase line).toList
      match (if findLinkAddress none lower = some target then neighAddress lower else none) with
      | some ip => some ip
      | none => findInNeigh target lines

end Merossity
