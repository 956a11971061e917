import Merossity.Api.CommandHandlers
import Merossity.Lib.Grouping

/-!
The history of the measurements: `getTelemetryHistoryBuckets` of `api/telemetry-db.ts` and the
handler of `api/get-telemetry-power-history.ts`.

* `Sqlite` stands for the aggregate functions of the database, and `LawfulSqlite` says what they
  compute.
* `HistoryParams` are the parameters that the handler admits, and carry what it has checked.
* `getTelemetryHistoryBuckets` groups the selected samples by the start of their bucket.
  `bucketStart_eq_iff` says which samples these are, and `BucketsOf` what the points are about.
* `history_buckets` puts this together, for every table and every request that is admitted.
-/

namespace Merossity

open Js Grouping

/-! ### The table -/

/-- The columns of `telemetry_sample` that the history reads. -/
structure TelemetrySampleRow where
  uuid : String
  channel : ℕ
  atMs : ℕ
  voltageV : Option ℚ
  currentA : Option ℚ
  powerW : Option ℚ
  deriving DecidableEq

/-- `AVG` and `MAX` of the values of a column that are not null. -/
class Sqlite where
  avg : List ℚ → Option ℚ
  max : List ℚ → Option ℚ

/-- `AVG` is the mean, up to a rounding that keeps the order and leaves the values of the column as
they are, and `MAX` is the greatest of the values. Both are null if there are no values. -/
class LawfulSqlite [Sqlite] : Prop where
  avg_nil : Sqlite.avg [] = none
  avg_eq (xs : List ℚ) (h : xs ≠ []) : ∃ round : ℚ → ℚ, Monotone round ∧ (∀ x ∈ xs, round x = x) ∧
    Sqlite.avg xs = some (round (xs.sum / xs.length))
  max_nil : Sqlite.max [] = none
  max_eq (xs : List ℚ) (h : xs ≠ []) : ∃ m ∈ xs, (∀ x ∈ xs, x ≤ m) ∧ Sqlite.max xs = some m

/-- `TelemetryBucketPoint`. -/
structure TelemetryBucketPoint where
  t : ℤ
  powerWAvg : Option ℚ
  powerWMax : Option ℚ
  voltageVAvg : Option ℚ
  currentAAvg : Option ℚ
  deriving DecidableEq

/-! ### Requests -/

/-- The parameters of a request that is admitted. -/
structure HistoryParams where
  uuid : String
  channel : ℕ
  fromMs : ℤ
  toMs : ℤ
  bucketMs : ℤ
  from_le_to : fromMs ≤ toMs
  span_le : toMs - fromMs ≤ 30 * 24 * 60 * 60 * 1000
  le_bucketMs : 1000 ≤ bucketMs

/-- `Number.isFinite(raw) ? Math.max(low, Math.floor(raw)) : fallback`. -/
def clampMs (low fallback : ℤ) (raw : Number) : { n : ℤ // min low fallback ≤ n } :=
  match raw.finite? with
  | some q => ⟨max low q.floor, (min_le_left _ _).trans (le_max_left _ _)⟩
  | none => ⟨fallback, min_le_right _ _⟩

/-- `body.k === undefined ? fallback : Number(body.k)`. -/
def msField (body : Json) (k : String) (fallback : ℤ) : Except String Number :=
  match body.get? k with
  | none => .ok (.fin fallback)
  | some raw => toNumber (some raw)

/-- What the handler reads off the request: its parameters, or an answer. -/
def historyRequest (req : Request) (now : ℤ) : Except String (Except Response HistoryParams) := do
  let body := parseJsonBody req
  let uuid ← toText (coalesce (body.get? "uuid") (some (.str "")))
  let channel ← channelField body
  if trim uuid = "" then return .error (apiErr "Missing uuid" "missing_uuid")
  else match channel.natural? with
    | none => return .error (apiErr "Invalid channel" "invalid_channel")
    | some channel =>
        let toMsRaw ← msField body "toMs" now
        let fromMsRaw ← msField body "fromMs" (now - 6 * 60 * 60 * 1000)
        let bucketMsRaw ← msField body "bucketMs" 60000
        let toMs := (clampMs 0 now toMsRaw).1
        let fromMs := (clampMs 0 (now - 6 * 60 * 60 * 1000) fromMsRaw).1
        let bucketMs := clampMs 1000 60000 bucketMsRaw
        if hrange : fromMs ≤ toMs then
          if hspan : toMs - fromMs ≤ 30 * 24 * 60 * 60 * 1000 then
            return .ok ⟨trim uuid, channel, fromMs, toMs, bucketMs.1, hrange, hspan, bucketMs.2⟩
          else return .error (apiErr "Range too large (max 30 days)" "invalid_range")
        else return .error (apiErr "fromMs must be <= toMs" "invalid_range")

/-! ### Buckets -/

/-- `uuid = ? AND channel = ? AND at_ms >= ? AND at_ms <= ?`. -/
def HistoryParams.Selects (p : HistoryParams) (r : TelemetrySampleRow) : Prop :=
  r.uuid = p.uuid ∧ r.channel = p.channel ∧ p.fromMs ≤ r.atMs ∧ (r.atMs : ℤ) ≤ p.toMs

instance (p : HistoryParams) : DecidablePred p.Selects := fun r =>
  inferInstanceAs (Decidable (r.uuid = p.uuid ∧ r.channel = p.channel ∧ p.fromMs ≤ r.atMs ∧
    (r.atMs : ℤ) ≤ p.toMs))

/-- `CAST(at_ms / ? AS INTEGER) * ?`. The quotient of two integers is truncated by the division, and
that by a width which is too large for an integer by the cast. -/
def bucketStart (bucketMs : ℤ) (atMs : ℕ) : ℤ := (atMs : ℤ).tdiv bucketMs * bucketMs

/-- The columns of the result, for the samples of a group. -/
def bucketPoint [Sqlite] (t : ℤ) (rows : List TelemetrySampleRow) : TelemetryBucketPoint where
  t
  powerWAvg := Sqlite.avg (rows.filterMap TelemetrySampleRow.powerW)
  powerWMax := Sqlite.max (rows.filterMap TelemetrySampleRow.powerW)
  voltageVAvg := Sqlite.avg (rows.filterMap TelemetrySampleRow.voltageV)
  currentAAvg := Sqlite.avg (rows.filterMap TelemetrySampleRow.currentA)

/-- `getTelemetryHistoryBuckets`. -/
def getTelemetryHistoryBuckets [Sqlite] (table : List TelemetrySampleRow) (p : HistoryParams) :
    List TelemetryBucketPoint :=
  (groups (fun r => bucketStart p.bucketMs r.atMs) (table.filter p.Selects)).map fun g =>
    bucketPoint g.1 g.2

def TelemetryBucketPoint.json (pt : TelemetryBucketPoint) : Json :=
  let value (v : Option ℚ) : Json := (v.map fun q => .num (.fin q)).getD .null
  .obj [("t", intNum pt.t), ("powerWAvg", value pt.powerWAvg), ("powerWMax", value pt.powerWMax),
    ("voltageVAvg", value pt.voltageVAvg), ("currentAAvg", value pt.currentAAvg)]

/-- The answer to a request that is admitted. -/
def historyAnswer (p : HistoryParams) (points : List TelemetryBucketPoint) : Response :=
  apiOk [("fromMs", intNum p.fromMs), ("toMs", intNum p.toMs), ("bucketMs", intNum p.bucketMs),
    ("points", .arr (points.map TelemetryBucketPoint.json))]

/-- `createGetTelemetryPowerHistoryHandler`; `now` is `Date.now()`. -/
def createGetTelemetryPowerHistoryHandler [Sqlite] (table : List TelemetrySampleRow)
    (req : Request) (now : ℤ) : Except String Response := do
  match ← historyRequest req now with
  | .error answer => return answer
  | .ok p => return historyAnswer p (getTelemetryHistoryBuckets table p)

/-! ### Which samples are in a bucket -/

/-- The bucket of a timestamp is the one that begins at a multiple of the width and contains it. -/
lemma bucketStart_eq_iff {bucketMs t : ℤ} (hbucket : 0 < bucketMs) {atMs : ℕ} :
    bucketStart bucketMs atMs = t ↔ bucketMs ∣ t ∧ t ≤ atMs ∧ (atMs : ℤ) < t + bucketMs := by
  have hdiv : bucketStart bucketMs atMs = (atMs : ℤ) / bucketMs * bucketMs := by
    rw [bucketStart, Int.tdiv_eq_ediv_of_nonneg (Int.natCast_nonneg atMs)]
  rw [hdiv]
  constructor
  · rintro rfl
    refine ⟨dvd_mul_left _ _, Int.ediv_mul_le _ hbucket.ne', ?_⟩
    have hlt := Int.lt_ediv_add_one_mul_self (atMs : ℤ) hbucket
    linarith
  · rintro ⟨⟨n, rfl⟩, hle, hlt⟩
    have hn : (atMs : ℤ) / bucketMs = n := by
      rw [Int.ediv_eq_iff_of_pos hbucket]
      constructor <;> linarith
    rw [hn, mul_comm]

/-- The selected samples of the bucket that begins at `t`. -/
def contributors (table : List TelemetrySampleRow) (p : HistoryParams) (t : ℤ) :
    List TelemetrySampleRow :=
  table.filter fun r => p.Selects r ∧ t ≤ r.atMs ∧ (r.atMs : ℤ) < t + p.bucketMs

namespace HistoryParams

variable (p : HistoryParams) (table : List TelemetrySampleRow)

lemma bucketMs_pos : 0 < p.bucketMs := by
  have h := p.le_bucketMs
  omega

/-- The start of the bucket of a sample. -/
def startOf (r : TelemetrySampleRow) : ℤ := bucketStart p.bucketMs r.atMs

/-- The starts of the buckets with a selected sample. -/
def starts : List ℤ := keys p.startOf (table.filter p.Selects)

variable {p table} {t : ℤ}

lemma startOf_eq_iff {r : TelemetrySampleRow} : p.startOf r = t ↔
    p.bucketMs ∣ t ∧ t ≤ r.atMs ∧ (r.atMs : ℤ) < t + p.bucketMs :=
  bucketStart_eq_iff p.bucketMs_pos

lemma dvd_of_mem_starts (h : t ∈ p.starts table) : p.bucketMs ∣ t := by
  obtain ⟨r, -, hr⟩ := mem_keys_iff.mp h
  exact (startOf_eq_iff.mp hr).1

/-- The group of a bucket are its samples. -/
lemma group_eq_contributors (h : p.bucketMs ∣ t) :
    group p.startOf (table.filter p.Selects) t = contributors table p t := by
  rw [group, contributors, List.filter_filter]
  refine List.filter_congr fun r _ => ?_
  simp [startOf_eq_iff, h, and_comm]

/-- A selected sample is in one of the buckets. -/
lemma startOf_mem_starts {r : TelemetrySampleRow} (hr : r ∈ table) (hselects : p.Selects r) :
    p.startOf r ∈ p.starts table :=
  mem_keys_iff.mpr ⟨r, List.mem_filter.mpr ⟨hr, decide_eq_true hselects⟩, rfl⟩

/-- The samples of the buckets are the selected ones. -/
lemma perm_contributors : ((p.starts table).flatMap (contributors table p)).Perm
    (table.filter p.Selects) := by
  have hgroups : (groups p.startOf (table.filter p.Selects)).flatMap Prod.snd
      = (p.starts table).flatMap (contributors table p) := by
    rw [groups, List.flatMap_map]
    exact List.flatMap_congr fun t ht =>
      group_eq_contributors (dvd_of_mem_starts ht)
  rw [← hgroups]
  exact perm_groups

/-- There are so many multiples of the width in the range, and one before it. -/
lemma length_starts_le :
    ((p.starts table).length : ℤ) ≤ (p.toMs - p.fromMs) / p.bucketMs + 2 := by
  have hpos := p.bucketMs_pos
  have hincreasing : ((p.starts table).map (· / p.bucketMs)).Pairwise (· < ·) := by
    rw [List.pairwise_map]
    refine pairwise_keys.imp_of_mem fun {a a'} ha ha' hlt => ?_
    obtain ⟨n, rfl⟩ := dvd_of_mem_starts ha
    obtain ⟨n', rfl⟩ := dvd_of_mem_starts ha'
    rw [Int.mul_ediv_cancel_left _ hpos.ne', Int.mul_ediv_cancel_left _ hpos.ne']
    exact lt_of_mul_lt_mul_left hlt hpos.le
  have hmem : ∀ k ∈ (p.starts table).map (· / p.bucketMs),
      p.fromMs / p.bucketMs ≤ k ∧ k ≤ p.toMs / p.bucketMs := by
    intro k hk
    obtain ⟨t, ht, rfl⟩ := List.mem_map.mp hk
    obtain ⟨r, hr, rfl⟩ := mem_keys_iff.mp ht
    obtain ⟨-, -, hfrom, hto⟩ := of_decide_eq_true (List.mem_filter.mp hr).2
    have hquotient : p.startOf r / p.bucketMs = (r.atMs : ℤ) / p.bucketMs := by
      rw [startOf, bucketStart, Int.mul_ediv_cancel _ hpos.ne',
        Int.tdiv_eq_ediv_of_nonneg (Int.natCast_nonneg _)]
    rw [hquotient]
    exact ⟨Int.ediv_le_ediv hpos hfrom, Int.ediv_le_ediv hpos hto⟩
  have hle := Int.ediv_le_ediv hpos p.from_le_to
  have hlength := length_le_of_increasing hincreasing hmem (by omega)
  have hspan : p.toMs / p.bucketMs - p.fromMs / p.bucketMs - 1
      ≤ (p.toMs - p.fromMs) / p.bucketMs := by
    rw [Int.le_ediv_iff_mul_le hpos]
    calc (p.toMs / p.bucketMs - p.fromMs / p.bucketMs - 1) * p.bucketMs
        = p.toMs / p.bucketMs * p.bucketMs - (p.fromMs / p.bucketMs + 1) * p.bucketMs := by ring
      _ ≤ p.toMs - p.fromMs :=
          sub_le_sub (Int.ediv_mul_le _ hpos.ne') (Int.lt_ediv_add_one_mul_self _ hpos).le
  rw [List.length_map] at hlength
  omega

end HistoryParams

/-! ### The aggregates -/

section

variable [Sqlite]

lemma avg_eq_none_iff [LawfulSqlite] {xs : List ℚ} : Sqlite.avg xs = none ↔ xs = [] := by
  constructor
  · intro h
    by_contra hne
    obtain ⟨round, -, -, havg⟩ := LawfulSqlite.avg_eq xs hne
    simp [h] at havg
  · rintro rfl
    exact LawfulSqlite.avg_nil

lemma max_eq_none_iff [LawfulSqlite] {xs : List ℚ} : Sqlite.max xs = none ↔ xs = [] := by
  constructor
  · intro h
    by_contra hne
    obtain ⟨m, -, -, hmax⟩ := LawfulSqlite.max_eq xs hne
    simp [h] at hmax
  · rintro rfl
    exact LawfulSqlite.max_nil

/-- A mean is no greater than the maximum, and rounding keeps that order. -/
lemma avg_le_max [LawfulSqlite] {xs : List ℚ} {a m : ℚ} (ha : Sqlite.avg xs = some a)
    (hm : Sqlite.max xs = some m) : a ≤ m := by
  have hne : xs ≠ [] := by
    rintro rfl
    simp [LawfulSqlite.avg_nil] at ha
  obtain ⟨round, hmono, hround, havg⟩ := LawfulSqlite.avg_eq xs hne
  obtain ⟨m', hmem, hle, hmax⟩ := LawfulSqlite.max_eq xs hne
  obtain rfl := Option.some.inj (hmax.symm.trans hm)
  obtain rfl := Option.some.inj (havg.symm.trans ha)
  calc round (xs.sum / xs.length) ≤ round m' := hmono (mean_le hne hle)
    _ = m' := hround m' hmem

/-! ### What the points are about -/

/-- The points are about the buckets of the selected samples. -/
structure BucketsOf (table : List TelemetrySampleRow) (p : HistoryParams)
    (points : List TelemetryBucketPoint) : Prop where
  increasing : points.Pairwise fun pt pt' => pt.t < pt'.t
  multiple : ∀ pt ∈ points, p.bucketMs ∣ pt.t
  point_eq : ∀ pt ∈ points, pt = bucketPoint pt.t (contributors table p pt.t)
  partition : (points.flatMap fun pt => contributors table p pt.t).Perm (table.filter p.Selects)
  exists_unique : ∀ r ∈ table, p.Selects r →
    ∃! pt, pt ∈ points ∧ pt.t ≤ r.atMs ∧ (r.atMs : ℤ) < pt.t + p.bucketMs
  contributors_ne_nil : ∀ pt ∈ points, contributors table p pt.t ≠ []
  null_iff : ∀ pt ∈ points, pt.powerWAvg = none ↔ pt.powerWMax = none
  avg_le_max : ∀ pt ∈ points, ∀ a m, pt.powerWAvg = some a → pt.powerWMax = some m → a ≤ m
  length_le : (points.length : ℤ) ≤ (p.toMs - p.fromMs) / p.bucketMs + 2

variable {table : List TelemetrySampleRow} {p : HistoryParams}

lemma getTelemetryHistoryBuckets_eq : getTelemetryHistoryBuckets table p =
    (p.starts table).map fun t => bucketPoint t (contributors table p t) := by
  rw [getTelemetryHistoryBuckets, groups, List.map_map]
  refine List.map_congr_left fun t ht => ?_
  exact congrArg (bucketPoint t)
    (HistoryParams.group_eq_contributors (HistoryParams.dvd_of_mem_starts ht))

lemma exists_of_mem_buckets {pt : TelemetryBucketPoint}
    (h : pt ∈ getTelemetryHistoryBuckets table p) :
    ∃ t ∈ p.starts table, pt = bucketPoint t (contributors table p t) := by
  obtain ⟨⟨t, rows⟩, hmem, rfl⟩ := List.mem_map.mp h
  obtain ⟨ht, hrows⟩ := mem_groups_iff.mp hmem
  have hstart : t ∈ p.starts table := ht
  have hgroup : group p.startOf (table.filter p.Selects) t = contributors table p t :=
    HistoryParams.group_eq_contributors (HistoryParams.dvd_of_mem_starts hstart)
  exact ⟨t, hstart, congrArg (bucketPoint t) (hrows.trans hgroup)⟩

lemma bucketsOf_getTelemetryHistoryBuckets [LawfulSqlite] (table : List TelemetrySampleRow)
    (p : HistoryParams) : BucketsOf table p (getTelemetryHistoryBuckets table p) where
  increasing := List.pairwise_map.mpr pairwise_groups
  multiple pt hpt := by
    obtain ⟨t, ht, rfl⟩ := exists_of_mem_buckets hpt
    exact HistoryParams.dvd_of_mem_starts ht
  point_eq pt hpt := by
    obtain ⟨t, -, rfl⟩ := exists_of_mem_buckets hpt
    rfl
  partition := by
    rw [getTelemetryHistoryBuckets_eq, List.flatMap_map]
    exact HistoryParams.perm_contributors
  exists_unique r hr hselects := by
    have hstart := HistoryParams.startOf_mem_starts hr hselects
    have hself : p.startOf r = p.startOf r := rfl
    obtain ⟨-, hle, hlt⟩ := HistoryParams.startOf_eq_iff.mp hself
    refine ⟨bucketPoint (p.startOf r) (contributors table p (p.startOf r)), ⟨?_, hle, hlt⟩, ?_⟩
    · rw [getTelemetryHistoryBuckets_eq]
      exact List.mem_map_of_mem hstart
    · rintro pt ⟨hpt, hle', hlt'⟩
      obtain ⟨t, ht, rfl⟩ := exists_of_mem_buckets hpt
      have heq : p.startOf r = t :=
        HistoryParams.startOf_eq_iff.mpr ⟨HistoryParams.dvd_of_mem_starts ht, hle', hlt'⟩
      rw [heq]
  contributors_ne_nil pt hpt := by
    obtain ⟨t, ht, rfl⟩ := exists_of_mem_buckets hpt
    have hgroup : group p.startOf (table.filter p.Selects) t = contributors table p t :=
      HistoryParams.group_eq_contributors (HistoryParams.dvd_of_mem_starts ht)
    exact hgroup ▸ group_ne_nil ht
  null_iff pt hpt := by
    obtain ⟨t, -, rfl⟩ := exists_of_mem_buckets hpt
    exact avg_eq_none_iff.trans max_eq_none_iff.symm
  avg_le_max pt hpt a m ha hm := by
    obtain ⟨t, -, rfl⟩ := exists_of_mem_buckets hpt
    exact avg_le_max ha hm
  length_le := by
    rw [getTelemetryHistoryBuckets_eq, List.length_map]
    exact HistoryParams.length_starts_le

end

/-- A database that computes without rounding. -/
@[reducible] def exactSqlite : Sqlite where
  avg xs := if xs = [] then none else some (xs.sum / xs.length)
  max xs := xs.max?

lemma lawfulSqlite_exactSqlite : @LawfulSqlite exactSqlite :=
  let _ := exactSqlite
  { avg_nil := rfl
    avg_eq := fun xs h => ⟨id, monotone_id, fun _ _ => rfl, if_neg h⟩
    max_nil := rfl
    max_eq := fun xs h => by
      cases hmax : xs.max? with
      | none => exact absurd (List.max?_eq_none_iff.mp hmax) h
      | some m =>
          obtain ⟨hmem, hle⟩ := List.max?_eq_some_iff.mp hmax
          exact ⟨m, hmem, hle, hmax⟩ }

/-- A sample of a plug. -/
def plugSample (atMs : ℕ) (powerW : Option ℚ) : TelemetrySampleRow :=
  ⟨"plug", 0, atMs, none, none, powerW⟩

/-- Samples at the edges of two buckets, one of them without a power, and one out of range. -/
def plugSamples : List TelemetrySampleRow :=
  [plugSample 2000 (some 5), plugSample 1999 (some 1), plugSample 1000 (some 2),
    plugSample 1500 none, plugSample 3001 (some 7)]

/-- The range of the samples, in buckets of one second. -/
def plugParams : HistoryParams := ⟨"plug", 0, 1000, 3000, 1000, by omega, by omega, by omega⟩

end Merossity
