import Merossity.Js.Json

/-!
The configuration file: `meross/config.ts`, and the object literals with which the
handlers rebuild the configuration.

* `FileText` is what `JSON.parse` makes of the file, `loadMerossConfig` what a reader
  of the configuration gets.
* `ConfigEdit` lists the six places that write the configuration by the literal they
  write, and `ConfigEdit.apply` is that literal. Each of them owns one section:
  `get?_apply_of_ne` says that the other ones are as in the configuration it spreads.
* Within the section `hosts`, `hostOf_apply` says which entries an edit writes.
* `Agrees` relates a configuration to the commits that led to it, and `Agrees.commit` is the
  step from one commit to the next.
-/

namespace Merossity

open Js

/-- The content of the configuration file, as far as `JSON.parse` tells contents apart:
no file, text that is no JSON, or the text of a JSON value. -/
inductive FileText where
  | missing
  | notJson
  | json (v : Json)

/-- `loadMerossConfig`: every failure to read an object is the empty configuration. -/
def loadMerossConfig : FileText → Json
  | .json v => if v.isObject then v else .obj []
  | _ => .obj []

/-! ### The sections -/

/-- The sections of `MerossConfig`. -/
inductive Section where
  | cloud
  | devices
  | hosts
  | network
  deriving DecidableEq

/-- The key of a section in the file. -/
def Section.key : Section → String
  | cloud => "cloud"
  | devices => "devices"
  | hosts => "hosts"
  | network => "network"

lemma Section.key_injective : Function.Injective Section.key := by
  intro a b h
  cases a <;> cases b <;> first | rfl | exact absurd h (by decide)

/-- `{ ...cfg.k }`, the fields of a section; nothing is spread from `undefined`. -/
def sectionFields (cfg : Json) (s : Section) : Fields :=
  ((cfg.get? s.key).map Json.ownEntries).getD []

/-- `cfg.hosts?.[uuid]`. -/
def hostOf (cfg : Json) (uuid : String) : Option Json := Json.opt (cfg.get? "hosts") uuid

lemma hostOf_eq (cfg : Json) (uuid : String) :
    hostOf cfg uuid = Assoc.get (sectionFields cfg .hosts) uuid := by
  rw [hostOf, sectionFields, Section.key, Json.opt]
  cases cfg.get? "hosts" <;> rfl

/-! ### The literals the handlers write -/

/-- A configuration written back: the literal of each handler that writes one, with what
the handler puts into it.

* `cloud`: `{ ...cfg, cloud }` (`login-cloud.ts`);
* `devices`: `{ ...cfg, devices: { updatedAt, list } }` (`refresh-cloud-devices.ts`);
* `network`: `{ ...cfg, network: { ...cfg.network, cidr, updatedAt } }`
  (`network-cidr.ts`);
* `host`: `{ ...cfg, hosts: nextHosts }` with one entry assigned (`resolve-host.ts` and
  `tryResolveHost`);
* `hosts`: `{ ...cfg, hosts: { ...cfg.hosts, ...found } }` (`discover-hosts.ts`), where the
  entries of `found` were assigned in this order. -/
inductive ConfigEdit where
  | cloud (creds : Json)
  | devices (updatedAt : String) (list : List Json)
  | network (cidr updatedAt : String)
  | host (uuid host updatedAt : String) (mac : Option String)
  | hosts (found : Fields)

/-- The object that `discover-hosts.ts` assigns the entries of the hosts it finds to. -/
def foundMap (found : Fields) : Fields := found.foldl (fun o e => assign o e.1 e.2) []

namespace ConfigEdit

/-- The section that the literal rebuilds. -/
def owned : ConfigEdit → Section
  | cloud _ => .cloud
  | devices _ _ => .devices
  | network _ _ => .network
  | host _ _ _ _ => .hosts
  | hosts _ => .hosts

/-- The entry of a host: a MAC address that the entry had, unless a new one is known. -/
def hostEntry (prev : Option Json) (host updatedAt : String) (mac : Option String) : Json :=
  let kept := Json.opt prev "mac"
  let fs : Fields := [("host", .str host), ("updatedAt", .str updatedAt)]
    ++ (if truthy kept then [("mac", kept.getD .null)] else [])
  .obj (match mac with
    | some m => Assoc.set fs "mac" (.str m)
    | none => fs)

/-- The new value of the section. -/
def value (edit : ConfigEdit) (cfg : Json) : Json :=
  match edit with
  | cloud creds => creds
  | devices updatedAt list => .obj [("updatedAt", .str updatedAt), ("list", .arr list)]
  | network cidr updatedAt =>
      .obj (Assoc.set (Assoc.set (sectionFields cfg .network) "cidr" (.str cidr))
        "updatedAt" (.str updatedAt))
  | host uuid ip updatedAt mac =>
      let nextHosts := sectionFields cfg .hosts
      .obj (assign nextHosts uuid (hostEntry (Assoc.get nextHosts uuid) ip updatedAt mac))
  | hosts found => .obj (merge (sectionFields cfg .hosts) (foundMap found))

/-- The configuration written back, spread from `cfg`. -/
def apply (edit : ConfigEdit) (cfg : Json) : Json := cfg.spread edit.owned.key (edit.value cfg)

/-- An edit leaves the sections it does not own, and all other keys, as they are in the
configuration it spreads. -/
lemma get?_apply_of_ne (edit : ConfigEdit) (cfg : Json) {k : String}
    (h : edit.owned.key ≠ k) : (edit.apply cfg).get? k = cfg.get? k := by
  rw [apply, Json.get?_spread, if_neg h]

lemma get?_apply_self (edit : ConfigEdit) (cfg : Json) :
    (edit.apply cfg).get? edit.owned.key = some (edit.value cfg) := by
  rw [apply, Json.get?_spread, if_pos rfl]

lemma load_apply (edit : ConfigEdit) (cfg : Json) :
    loadMerossConfig (.json (edit.apply cfg)) = edit.apply cfg := rfl

/-- The entries of `hosts` that a handler means to write, each with its last value. -/
def hostEntries (edit : ConfigEdit) (cfg : Json) : Fields :=
  match edit with
  | host uuid ip updatedAt mac =>
      [(uuid, hostEntry (Assoc.get (sectionFields cfg .hosts) uuid) ip updatedAt mac)]
  | hosts found => merge [] found
  | _ => []

/-- The keys of these entries. -/
def hostKeys : ConfigEdit → List String
  | host uuid _ _ _ => [uuid]
  | hosts found => found.map Prod.fst
  | _ => []

lemma get_hostEntries_eq_none (edit : ConfigEdit) (cfg : Json) {uuid : String} :
    Assoc.get (edit.hostEntries cfg) uuid = none ↔ uuid ∉ edit.hostKeys := by
  cases edit with
  | host u ip updatedAt mac =>
      rw [Assoc.get_eq_none_iff]
      rfl
  | hosts found => rw [hostEntries, Assoc.get_eq_none_iff, mem_keys_merge, hostKeys]; simp
  | _ => exact iff_of_true rfl List.not_mem_nil

/-- The edit assigns no entry to the key `__proto__`. -/
def Plain : ConfigEdit → Prop
  | host uuid _ _ _ => uuid ≠ "__proto__"
  | hosts found => ∀ e ∈ found, e.1 ≠ "__proto__"
  | _ => True

lemma foundMap_of_plain {found : Fields} (h : (hosts found).Plain) :
    foundMap found = merge [] found := by
  have hfold : ∀ (l o : Fields), (∀ e ∈ l, e.1 ≠ "__proto__") →
      l.foldl (fun o e => assign o e.1 e.2) o = merge o l := by
    intro l
    induction l with
    | nil => exact fun o _ => rfl
    | cons e l ih =>
        intro o hl
        rw [List.foldl_cons, assign_of_ne o (hl e List.mem_cons_self)]
        exact ih _ fun e he => hl e (List.mem_cons_of_mem _ he)
  exact hfold found [] h

/-- An edit of another section keeps the entries of all hosts. -/
lemma hostOf_apply_of_ne (edit : ConfigEdit) (cfg : Json) (h : edit.owned.key ≠ "hosts")
    (uuid : String) : hostOf (edit.apply cfg) uuid = hostOf cfg uuid := by
  rw [hostOf, get?_apply_of_ne _ _ h, hostOf]

/-- The hosts of an edit of the section `hosts` are those of its literal. -/
lemma hostOf_apply_of_hosts {edit : ConfigEdit} (h : edit.owned = .hosts) (cfg : Json)
    (uuid : String) : hostOf (edit.apply cfg) uuid = (edit.value cfg).get? uuid := by
  have hself := get?_apply_self edit cfg
  rw [h] at hself
  rw [hostOf, show "hosts" = Section.hosts.key from rfl, hself]
  rfl

/-- A plain edit writes exactly its entries, and keeps the entries of all other hosts. -/
lemma hostOf_apply (edit : ConfigEdit) (cfg : Json) (h : edit.Plain) (uuid : String) :
    hostOf (edit.apply cfg) uuid
      = (Assoc.get (edit.hostEntries cfg) uuid).or (hostOf cfg uuid) := by
  cases edit with
  | cloud creds => exact hostOf_apply_of_ne (.cloud creds) cfg (by simp [owned, Section.key]) uuid
  | devices updatedAt list =>
      exact hostOf_apply_of_ne (.devices updatedAt list) cfg (by simp [owned, Section.key]) uuid
  | network cidr updatedAt =>
      exact hostOf_apply_of_ne (.network cidr updatedAt) cfg (by simp [owned, Section.key]) uuid
  | host u ip updatedAt mac =>
      rw [hostOf_apply_of_hosts rfl, hostOf_eq]
      simp only [value, hostEntries, Json.get?_obj, Assoc.get_cons, Assoc.get_nil]
      by_cases hk : u = uuid
      · rw [if_pos hk, ← hk, get_assign_self _ h, Option.some_or]
      · rw [if_neg hk, get_assign_of_ne _ hk, Option.none_or]
  | hosts found =>
      rw [hostOf_apply_of_hosts rfl, hostOf_eq, value, Json.get?_obj, foundMap_of_plain h]
      have hnodup : ((merge [] found).map Prod.fst).Nodup := @nodup_merge [] List.nodup_nil found
      exact get_merge _ hnodup uuid

end ConfigEdit

/-! ### Histories of writes -/

/-- The last value that the elements of a list give, or else the initial one. -/
def lastOr {α β : Type} (f : α → Option β) (init : Option β) (l : List α) : Option β :=
  l.foldl (fun v a => (f a).or v) init

@[simp] lemma lastOr_concat {α β : Type} (f : α → Option β) (init : Option β) (l : List α) (a : α) :
    lastOr f init (l ++ [a]) = (f a).or (lastOr f init l) := by
  rw [lastOr, List.foldl_append]
  rfl

/-- The last value is one of them. -/
lemma lastOr_eq_some {α β : Type} {f : α → Option β} {l : List α} {b : β}
    (h : lastOr f none l = some b) : ∃ a ∈ l, f a = some b := by
  induction l using List.reverseRecOn with
  | nil => cases h
  | append_singleton l a ih =>
      rw [lastOr_concat] at h
      cases ha : f a with
      | none =>
          rw [ha, Option.none_or] at h
          obtain ⟨a', ha', hb⟩ := ih h
          exact ⟨a', List.mem_append_left _ ha', hb⟩
      | some b' =>
          rw [ha, Option.some_or] at h
          exact ⟨a, by simp, ha.trans h⟩

/-- There is no last value exactly if no element gives one. -/
lemma lastOr_eq_none_iff {α β : Type} {f : α → Option β} {l : List α} :
    lastOr f none l = none ↔ ∀ a ∈ l, f a = none := by
  induction l using List.reverseRecOn with
  | nil => simp [lastOr]
  | append_singleton l a ih =>
      rw [lastOr_concat, Option.or_eq_none_iff, ih]
      simp only [List.mem_append, List.mem_singleton]
      constructor
      · rintro ⟨ha, hl⟩ a' (ha' | rfl)
        · exact hl a' ha'
        · exact ha
      · exact fun h => ⟨h a (.inr rfl), fun a' ha' => h a' (.inl ha')⟩

/-- The last value of what is read off a list. -/
lemma lastOr_filterMap {α β γ : Type} (f : β → Option γ) (g : α → Option β) (init : Option γ)
    (l : List α) : lastOr f init (l.filterMap g) = lastOr (fun a => (g a).bind f) init l := by
  rw [lastOr, List.foldl_filterMap, lastOr]
  congr 1
  funext v a
  cases g a <;> rfl

/-- What is made of the last value. -/
lemma map_lastOr {α β γ : Type} (g : β → γ) (f : α → Option β) (l : List α) :
    (lastOr f none l).map g = lastOr (fun a => (f a).map g) none l := by
  induction l using List.reverseRecOn with
  | nil => rfl
  | append_singleton l a ih => rw [lastOr_concat, lastOr_concat, Option.map_or, ih]

/-- A configuration written back: the configuration that the handler holds, and what it makes
of it. -/
structure Commit where
  base : Json
  edit : ConfigEdit

namespace Commit

/-- What is written to the file. -/
def result (c : Commit) : Json := c.edit.apply c.base

/-- The value that the handler means to give a section. -/
def sectionValue (s : Section) (c : Commit) : Option Json :=
  if c.edit.owned = s then some (c.edit.value c.base) else none

/-- The entry that the handler means to give a host. -/
def hostValue (uuid : String) (c : Commit) : Option Json :=
  Assoc.get (c.edit.hostEntries c.base) uuid

end Commit

/-- The configuration is what the commits meant to make of the initial one: each of the
sections `cloud`, `devices` and `network` and each entry of `hosts` has the value of the last
commit that was about it, and other keys are as they were. -/
structure Agrees (initial : Json) (log : List Commit) (cfg : Json) : Prop where
  sections : ∀ s : Section, s ≠ .hosts →
    cfg.get? s.key = lastOr (Commit.sectionValue s) (initial.get? s.key) log
  hosts : ∀ uuid, hostOf cfg uuid = lastOr (Commit.hostValue uuid) (hostOf initial uuid) log
  others : ∀ k, (∀ s : Section, s.key ≠ k) → cfg.get? k = initial.get? k

namespace Agrees

variable {initial cfg base : Json} {log : List Commit} {edit : ConfigEdit}

lemma refl (cfg : Json) : Agrees cfg [] cfg := ⟨fun _ _ => rfl, fun _ => rfl, fun _ _ => rfl⟩

/-- One more commit, of a handler whose configuration differs from the current one at most in
what the handler writes. -/
lemma commit (h : Agrees initial log cfg) (hplain : edit.Plain)
    (hbase : ∀ k, edit.owned.key ≠ k → k ≠ "hosts" → base.get? k = cfg.get? k)
    (hhosts : ∀ uuid, Assoc.get (edit.hostEntries base) uuid = none →
      hostOf base uuid = hostOf cfg uuid) :
    Agrees initial (log ++ [⟨base, edit⟩]) (edit.apply base) where
  sections s hs := by
    rw [lastOr_concat, ← h.sections s hs, Commit.sectionValue]
    by_cases howned : edit.owned = s
    · rw [if_pos howned, ← howned, ConfigEdit.get?_apply_self, Option.some_or]
    · have hkey : edit.owned.key ≠ s.key := fun hk => howned (Section.key_injective hk)
      rw [if_neg howned, ConfigEdit.get?_apply_of_ne _ _ hkey, Option.none_or]
      exact hbase s.key hkey fun hk => hs (Section.key_injective hk)
  hosts uuid := by
    rw [lastOr_concat, ← h.hosts uuid, ConfigEdit.hostOf_apply edit base hplain, Commit.hostValue]
    cases hentry : Assoc.get (edit.hostEntries base) uuid with
    | none => rw [Option.none_or, Option.none_or, hhosts uuid hentry]
    | some v => rw [Option.some_or, Option.some_or]
  others k hk := by
    rw [← h.others k hk, ConfigEdit.get?_apply_of_ne _ _ (hk edit.owned)]
    exact hbase k (hk edit.owned) (hk .hosts).symm

end Agrees

end Merossity
