import Merossity.Api.ConfigSequence
import Merossity.Lib.Machine

/-!
Operations on the configuration file that run side by side.

* A `Pool` is the file together with the operations under way, each suspended at a call.
  `step` lets one of them go on: a read sees the file as it was last completely written, or
  what has been written so far by an operation that is in the middle of its write.
* Every operation keeps what it has read last, and which writes were completed since (`Seen`).
* `PoolInv` is the invariant: a snapshot differs from the file only in what was written since
  it was taken. `no_lost_update` follows for runs in which a write is completed only if nothing
  was written since that the write does not replace, and `never_destroys` for runs in which no
  section was added since.
-/

namespace Merossity

open Js

/-! ### The pool -/

/-- What an operation has read last: the configuration; whether it read a completely written
file, and one that was not damaged; and the writes that were completed since. -/
structure Seen where
  config : Json
  whole : Bool
  intact : Bool
  since : List ConfigEdit

/-- An operation under way. -/
structure Task where
  op : Operation
  prog : Prog Call Reply (Except JsError Bool)
  seen : Option Seen

/-- A completed write, with the configuration that was last written completely before, and
whether there was a file. -/
structure Write where
  commit : Commit
  previous : Json
  existed : Bool

/-- The file as it was last completely written, the configuration that was last completely
written, which is not that of a damaged file, the operations under way, and the writes so
far. -/
structure Pool where
  file : FileText
  last : Json
  damaged : Bool
  tasks : List Task
  log : List Write

/-- What a read sees: the file as it was last completely written, or, of the write that
the given operation is in the middle of, a part or all of it. -/
inductive View where
  | whole
  | torn (writer : ℕ)
  | ahead (writer : ℕ)

/-- The read sees a completely written file. -/
def View.isWhole : View → Bool
  | whole => true
  | torn _ => false
  | ahead _ => false

/-- What may happen next: an operation starts, the call of one returns, a read takes place, or
a write is completed. -/
inductive Action where
  | spawn (op : Operation)
  | resume (i : ℕ) (reply : (c : Call) → Reply c)
  | read (i : ℕ) (view : View)
  | endWrite (i : ℕ)

/-- A file that is there at the start: it holds what was last completely written, or it is
damaged. -/
inductive Start where
  | intact (file : FileText)
  | damaged (file : FileText) (last : Json)

/-- The pool before any operation. -/
def Pool.init : Start → Pool
  | .intact file => ⟨file, loadMerossConfig file, false, [], []⟩
  | .damaged file last => ⟨file, last, true, [], []⟩

namespace Pool

/-- The write that an operation is in the middle of. -/
def writing (p : Pool) (i : ℕ) : Option (Task × Commit) :=
  match p.tasks[i]? with
  | some t => match t.prog with
    | .call (.endWrite base edit) _ => some (t, ⟨base, edit⟩)
    | _ => none
  | none => none

/-- What a read sees. -/
def view (p : Pool) : View → Option FileText
  | .whole => some p.file
  | .torn j => (p.writing j).map fun _ => .notJson
  | .ahead j => (p.writing j).map fun w => .json w.2.result

/-- The snapshot of an operation, after a write has been completed. -/
def noteWrite (edit : ConfigEdit) (t : Task) : Task :=
  { t with seen := t.seen.map fun s => { s with since := s.since ++ [edit] } }

/-- Replaces an operation. -/
def setTask (p : Pool) (i : ℕ) (t : Task) : Pool := { p with tasks := p.tasks.set i t }

/-- The file and the operations, one step later. -/
def step (p : Pool) : Action → Option Pool
  | .spawn op => some { p with tasks := p.tasks ++ [⟨op, op.prog.run, none⟩] }
  | .resume i reply =>
      match p.tasks[i]? with
      | none => none
      | some t => match t.prog with
        | .ret _ => none
        | .call .readFile _ => none
        | .call (.endWrite _ _) _ => none
        | .call c k => some (p.setTask i { t with prog := k (reply c) })
  | .read i v =>
      match p.tasks[i]? with
      | none => none
      | some t => match t.prog with
        | .call .readFile k => (p.view v).map fun text =>
            p.setTask i { t with
              prog := k text
              seen := some ⟨loadMerossConfig text, v.isWhole, v.isWhole && !p.damaged, []⟩ }
        | _ => none
  | .endWrite i =>
      match p.tasks[i]? with
      | none => none
      | some t => match t.prog with
        | .call (.endWrite base edit) k =>
            some { file := .json (edit.apply base)
                   last := edit.apply base
                   damaged := false
                   tasks := (p.tasks.map (noteWrite edit)).set i
                     { noteWrite edit t with prog := k () }
                   log := p.log ++ [⟨⟨base, edit⟩, p.last, !(p.file matches .missing)⟩] }
        | _ => none

/-! ### What a step does -/

/-- A step that is no write leaves the file as it is. -/
def Quiet (p p' : Pool) : Prop :=
  p'.file = p.file ∧ p'.last = p.last ∧ p'.damaged = p.damaged ∧ p'.log = p.log

/-- An operation keeps to its specification, and its snapshot, if it has one, has the
property `S`. -/
def TaskInv (S : Seen → Prop) (t : Task) : Prop :=
  (∃ s : Progress, Prog.wp (watchWrites t.op.Writes) t.prog (fun _ _ => True) s ∧
    s.seen = t.seen.map Seen.config) ∧ ∀ s, t.seen = some s → S s

lemma taskInv_spawn (S : Seen → Prop) (op : Operation) : TaskInv S ⟨op, op.prog.run, none⟩ := by
  have hspec : Prog.wp (watchWrites op.Writes) op.prog.run (fun _ _ => True) .start :=
    Prog.wp_mono (Prog.wp_run_iff.mpr (Prog.ewp_mono op.spec (fun _ _ _ => trivial)
      fun _ _ _ => trivial)) fun _ _ h => h
  exact ⟨⟨.start, hspec, rfl⟩, fun s hs => by cases hs⟩

lemma taskInv_noteWrite {S S' : Seen → Prop} {t : Task} (edit : ConfigEdit) (h : TaskInv S t)
    (hS : ∀ s, S s → S' { s with since := s.since ++ [edit] }) : TaskInv S' (noteWrite edit t) := by
  obtain ⟨⟨s, hwp, hseen⟩, ht⟩ := h
  refine ⟨⟨s, hwp, ?_⟩, fun s' hs' => ?_⟩
  · rw [hseen, noteWrite, Option.map_map]
    rfl
  · obtain ⟨s₀, hs₀, rfl⟩ := Option.map_eq_some_iff.mp hs'
    exact hS s₀ (ht s₀ hs₀)

lemma next_seen_of_ne {writes : List Probe → ConfigEdit → Prop} {s : Progress} {c : Call}
    (r : Reply c) (hread : c ≠ .readFile) : ((watchWrites writes).next s c r).seen = s.seen := by
  cases c <;> first | rfl | exact absurd rfl hread

/-- The call of an operation returns that is neither a read nor the end of a write. -/
lemma taskInv_resume {S : Seen → Prop} {t : Task} {c : Call}
    {k : Reply c → Prog Call Reply (Except JsError Bool)} (h : TaskInv S t)
    (hprog : t.prog = .call c k) (hread : c ≠ .readFile) (r : Reply c) :
    TaskInv S { t with prog := k r } := by
  obtain ⟨⟨s, hwp, hseen⟩, ht⟩ := h
  rw [hprog] at hwp
  refine ⟨⟨_, hwp.2 r, ?_⟩, ht⟩
  rw [next_seen_of_ne _ hread]
  exact hseen

/-- An operation reads the file, and has a new snapshot. -/
lemma taskInv_read {S : Seen → Prop} {t : Task}
    {k : FileText → Prog Call Reply (Except JsError Bool)} (h : TaskInv S t)
    (hprog : t.prog = .call .readFile k) {text : FileText} {sn : Seen}
    (hsn : sn.config = loadMerossConfig text) (hS : S sn) :
    TaskInv S { t with prog := k text, seen := some sn } := by
  obtain ⟨⟨s, hwp, -⟩, -⟩ := h
  rw [hprog] at hwp
  refine ⟨⟨_, hwp.2 text, congrArg some hsn.symm⟩, fun s' hs' => ?_⟩
  obtain rfl := Option.some.inj hs'
  exact hS

/-- An operation writes what it spreads its snapshot into. -/
lemma taskInv_endWrite {S : Seen → Prop} {t : Task} {base : Json} {edit : ConfigEdit}
    {k : Unit → Prog Call Reply (Except JsError Bool)} (h : TaskInv S t)
    (hprog : t.prog = .call (.endWrite base edit) k) :
    ∃ sn, t.seen = some sn ∧ sn.config = base ∧ S sn ∧ ∀ S' : Seen → Prop,
      (∀ s, S s → S' { s with since := s.since ++ [edit] }) →
        TaskInv S' { noteWrite edit t with prog := k () } := by
  obtain ⟨⟨s, hwp, hseen⟩, ht⟩ := h
  rw [hprog] at hwp
  obtain ⟨⟨hbase, -, -⟩, hnext⟩ := hwp
  rw [hseen] at hbase
  obtain ⟨sn, hsn, hconfig⟩ := Option.map_eq_some_iff.mp hbase
  refine ⟨sn, hsn, hconfig, ht sn hsn, fun S' hS' => ⟨⟨_, hnext (), ?_⟩, fun s' hs' => ?_⟩⟩
  · show s.seen = _
    rw [hseen, noteWrite, Option.map_map]
    rfl
  · obtain ⟨s₀, hs₀, rfl⟩ := Option.map_eq_some_iff.mp hs'
    exact hS' s₀ (ht s₀ hs₀)

/-- What a step does. It is no write, and then the snapshots have the property `S` if a new one
has it; or it completes the write of an operation that spreads its snapshot, and then this write
is noted with all snapshots. -/
lemma step_spec {S : Seen → Prop} {p p' : Pool} {a : Action} (h : p.step a = some p')
    (hS : ∀ t ∈ p.tasks, TaskInv S t) :
    (Quiet p p' ∧ ((∀ v text, p.view v = some text → S ⟨loadMerossConfig text, v.isWhole,
        v.isWhole && !p.damaged, []⟩) → ∀ t ∈ p'.tasks, TaskInv S t)) ∨
      ∃ i t s edit, a = .endWrite i ∧ p.writing i = some (t, ⟨s.config, edit⟩) ∧ t.seen = some s ∧
        S s ∧ p'.file = .json (edit.apply s.config) ∧ p'.last = edit.apply s.config ∧
        p'.log = p.log ++ [⟨⟨s.config, edit⟩, p.last, !(p.file matches .missing)⟩] ∧
        p'.damaged = false ∧ ∀ S' : Seen → Prop,
          (∀ s, S s → S' { s with since := s.since ++ [edit] }) → ∀ t ∈ p'.tasks, TaskInv S' t := by
  -- what holds of all tasks holds of them when one is replaced
  have hset : ∀ {S : Seen → Prop} {tasks : List Task} {i : ℕ} {t : Task},
      (∀ t ∈ tasks, TaskInv S t) → TaskInv S t → ∀ t' ∈ tasks.set i t, TaskInv S t' := by
    intro S tasks i t htasks ht t' ht'
    rcases List.mem_or_eq_of_mem_set ht' with ht' | rfl
    · exact htasks t' ht'
    · exact ht
  cases a with
  | spawn op =>
      obtain rfl := Option.some.inj h
      refine Or.inl ⟨⟨rfl, rfl, rfl, rfl⟩, fun _ t ht => ?_⟩
      rcases List.mem_append.mp ht with ht | ht
      · exact hS t ht
      · obtain rfl := List.mem_singleton.mp ht
        exact taskInv_spawn S op
  | resume i reply =>
      rw [step] at h
      split at h
      next => cases h
      next t hi =>
        split at h
        next => cases h
        next => cases h
        next => cases h
        next c k hread hend hprog =>
          obtain rfl := Option.some.inj h
          have hc : c ≠ .readFile := by
            rintro rfl
            exact hread k rfl HEq.rfl
          exact Or.inl ⟨⟨rfl, rfl, rfl, rfl⟩, fun _ => hset hS
            (taskInv_resume (hS t (List.mem_of_getElem? hi)) hprog hc (reply c))⟩
  | read i v =>
      rw [step] at h
      split at h
      next => cases h
      next t hi =>
        split at h
        next k hprog =>
          obtain ⟨text, htext, rfl⟩ := Option.map_eq_some_iff.mp h
          exact Or.inl ⟨⟨rfl, rfl, rfl, rfl⟩, fun hnew => hset hS
            (taskInv_read (hS t (List.mem_of_getElem? hi)) hprog rfl (hnew v text htext))⟩
        next => cases h
  | endWrite i =>
      rw [step] at h
      split at h
      next => cases h
      next t hi =>
        split at h
        next base edit k hprog =>
          obtain rfl := Option.some.inj h
          obtain ⟨sn, hsn, rfl, hsnap, hnext⟩ :=
            taskInv_endWrite (hS t (List.mem_of_getElem? hi)) hprog
          have hwriting : p.writing i = some (t, ⟨sn.config, edit⟩) := by
            rw [writing, hi]
            simp only [hprog]
          refine Or.inr ⟨i, t, sn, edit, rfl, hwriting, hsn, hsnap, rfl, rfl, rfl, rfl, ?_⟩
          intro S' hS'
          refine hset (fun t' ht' => ?_) (hnext S' hS')
          obtain ⟨t₀, ht₀, rfl⟩ := List.mem_map.mp ht'
          exact taskInv_noteWrite edit (hS t₀ ht₀) hS'
        next => cases h

end Pool

/-! ### No lost update -/

/-- A later write of `edit` replaces everything that `e` means to write. -/
def ConfigEdit.Replaces (edit e : ConfigEdit) : Prop :=
  e.owned = edit.owned ∧ ∀ uuid ∈ e.hostKeys, uuid ∈ edit.hostKeys

/-- A write is completed only from a snapshot of a completely written file, when the writes
that were completed since are all replaced by this one; and it assigns no entry to `__proto__`. -/
def Fresh (p : Pool) : Action → Prop
  | .endWrite i => ∀ t c, p.writing i = some (t, c) → c.edit.Plain ∧
      ∀ s, t.seen = some s → s.whole = true ∧ ∀ e ∈ s.since, c.edit.Replaces e
  | _ => True

/-- The current configuration differs from a snapshot only in what was written since. -/
structure Tracks (base : Json) (since : List ConfigEdit) (cfg : Json) : Prop where
  keys : ∀ k, k ≠ "hosts" → (∀ e ∈ since, e.owned.key ≠ k) → base.get? k = cfg.get? k
  hosts : ∀ uuid, (∀ e ∈ since, uuid ∉ e.hostKeys) → hostOf base uuid = hostOf cfg uuid

namespace Tracks

variable {base base' cfg : Json} {since since' : List ConfigEdit} {edit : ConfigEdit}

/-- A write that replaces all that was written since its snapshot keeps the rest of the
current configuration. -/
lemma keys_of_replaces (h : Tracks base since cfg) (hsince : ∀ e ∈ since, edit.Replaces e)
    {k : String} (hk : edit.owned.key ≠ k) (hhosts : k ≠ "hosts") : base.get? k = cfg.get? k :=
  h.keys k hhosts fun e he => (hsince e he).1 ▸ hk

lemma hosts_of_replaces (h : Tracks base since cfg) (hsince : ∀ e ∈ since, edit.Replaces e)
    {uuid : String} (huuid : uuid ∉ edit.hostKeys) : hostOf base uuid = hostOf cfg uuid :=
  h.hosts uuid fun e he hmem => huuid ((hsince e he).2 uuid hmem)

/-- The snapshot of another operation differs from the new configuration only in what was
written since, that write included. -/
lemma commit (h' : Tracks base' since' cfg) (h : Tracks base since cfg)
    (hsince : ∀ e ∈ since, edit.Replaces e) (hplain : edit.Plain) :
    Tracks base' (since' ++ [edit]) (edit.apply base) where
  keys k hk howned := by
    have hedit := howned edit (List.mem_append_right _ List.mem_cons_self)
    rw [ConfigEdit.get?_apply_of_ne _ _ hedit, h.keys_of_replaces hsince hedit hk]
    exact h'.keys k hk fun e he => howned e (List.mem_append_left _ he)
  hosts uuid huuid := by
    have hedit := huuid edit (List.mem_append_right _ List.mem_cons_self)
    rw [ConfigEdit.hostOf_apply edit base hplain, (edit.get_hostEntries_eq_none base).mpr hedit,
      Option.none_or, h.hosts_of_replaces hsince hedit]
    exact h'.hosts uuid fun e he => huuid e (List.mem_append_left _ he)

end Tracks

/-- What a snapshot has to do with the file. -/
def TracksFile (p : Pool) (s : Seen) : Prop :=
  s.whole = true → Tracks s.config s.since (loadMerossConfig p.file)

/-- The invariant of the pool: every snapshot of a completely written file differs from the file
only in what was written since, and the file is what the writes meant to make of it. -/
structure PoolInv (initial : Json) (p : Pool) : Prop where
  tasks : ∀ t ∈ p.tasks, Pool.TaskInv (TracksFile p) t
  agrees : Agrees initial (p.log.map Write.commit) (loadMerossConfig p.file)

lemma PoolInv.step {initial : Json} (p : Pool) (a : Action) (p' : Pool) (h : PoolInv initial p)
    (hok : Fresh p a) (hstep : p.step a = some p') : PoolInv initial p' := by
  rcases Pool.step_spec hstep h.tasks with ⟨⟨hfile, -, -, hlog⟩, htasks⟩ |
    ⟨i, t, s, edit, rfl, hwriting, hseen, hs, hfile, -, hlog, -, htasks⟩
  · have hnew : ∀ v text, p.view v = some text → TracksFile p ⟨loadMerossConfig text, v.isWhole,
        v.isWhole && !p.damaged, []⟩ := by
      intro v text htext hwhole
      cases v with
      | whole =>
          obtain rfl := Option.some.inj htext
          exact ⟨fun _ _ _ => rfl, fun _ _ => rfl⟩
      | torn j => cases hwhole
      | ahead j => cases hwhole
    have heq : TracksFile p' = TracksFile p := by
      funext s
      rw [TracksFile, TracksFile, hfile]
    refine ⟨?_, ?_⟩
    · rw [heq]
      exact htasks hnew
    · rw [hlog, hfile]
      exact h.agrees
  · obtain ⟨hplain, hfresh⟩ := hok t _ hwriting
    obtain ⟨hwhole, hsince⟩ := hfresh s hseen
    have htracks := hs hwhole
    refine ⟨htasks _ fun s' hs' hwhole' => ?_, ?_⟩
    · rw [hfile, ConfigEdit.load_apply]
      exact (hs' hwhole').commit htracks hsince hplain
    · rw [hlog, hfile, List.map_append, ConfigEdit.load_apply]
      refine h.agrees.commit hplain
        (fun k hk hhosts => htracks.keys_of_replaces hsince hk hhosts) ?_
      intro uuid huuid
      exact htracks.hosts_of_replaces hsince ((edit.get_hostEntries_eq_none s.config).mp huuid)

/-- **No lost update**: in every run in which each write is completed from a fresh snapshot, each
section and each host has the value of the last operation that meant to write it. -/
theorem no_lost_update (start : Start) (p : Pool)
    (h : Machine.Reaches Pool.step Fresh (Pool.init start) p) :
    Agrees (loadMerossConfig (Pool.init start).file) (p.log.map Write.commit)
      (loadMerossConfig p.file) := by
  have hinit : PoolInv (loadMerossConfig (Pool.init start).file) (Pool.init start) := by
    cases start with
    | intact file => exact ⟨fun t ht => absurd ht List.not_mem_nil, Agrees.refl _⟩
    | damaged file last => exact ⟨fun t ht => absurd ht List.not_mem_nil, Agrees.refl _⟩
  exact (h.invariant hinit PoolInv.step).agrees

/-- A request to save a range, from its start to its end. -/
def networkRun : List Action :=
  [.spawn (.network (jsonRequest (.obj [("cidr", .str "10.0.0.0/24")]))), .read 0 .whole,
    .resume 0 silence, .resume 0 silence, .resume 0 silence, .endWrite 0]

theorem no_lost_update_network : ∃ p,
    Machine.run Pool.step networkRun (Pool.init (.intact .missing)) = some p ∧
      Agrees (.obj []) (p.log.map Write.commit) (loadMerossConfig p.file) := by
  refine ⟨_, rfl, no_lost_update (.intact .missing) _ (Machine.reaches_run networkRun ?_ rfl)⟩
  refine ⟨trivial, trivial, trivial, trivial, trivial, ?_, trivial⟩
  intro t c h
  cases h
  refine ⟨trivial, fun s hs => ?_⟩
  cases hs
  exact ⟨rfl, fun e he => absurd he List.not_mem_nil⟩

/-- A cloud that knows no devices. -/
def emptyCloud (c : Call) : Reply c :=
  match c with
  | .cloudFetch _ => .response 200 (some (.obj [("apiStatus", .num (.fin 0)),
      ("data", .obj [("devList", .arr [])])]))
  | c => silence c

/-- A refresh that awaits the cloud while a range is saved. -/
def refreshRun : List Action :=
  [.spawn (.refresh (jsonRequest (.obj []))), .read 0 .whole,
    .spawn (.network (jsonRequest (.obj [("cidr", .str "10.0.0.0/24")]))), .read 1 .whole,
    .resume 1 silence, .resume 1 silence, .resume 1 silence, .endWrite 1,
    .resume 0 emptyCloud, .resume 0 silence, .resume 0 silence, .resume 0 silence, .endWrite 0]

/-- All operations have returned. -/
def Pool.Finished (p : Pool) : Prop := ∀ t ∈ p.tasks, ∃ r, t.prog = .ret r

/-- A refresh writes back the configuration that it had read before it asked the cloud: the
range that was saved in between is lost. -/
theorem refresh_loses_network :
    ¬ ∀ (start : Start) (p : Pool), Machine.Reaches Pool.step Machine.Always (Pool.init start) p →
      p.Finished → Agrees (loadMerossConfig (Pool.init start).file) (p.log.map Write.commit)
        (loadMerossConfig p.file) := by
  intro hall
  have h := hall (.intact (.json (.obj [("cloud", .obj [("domain", .str "d")])]))) _
    (Machine.reaches_run refreshRun (Machine.along_always _ _) rfl)
  have hagrees := h fun t ht => by
    rcases List.mem_cons.mp ht with rfl | ht
    · exact ⟨_, rfl⟩
    · obtain rfl := List.mem_singleton.mp ht
      exact ⟨_, rfl⟩
  have hsome := congrArg Option.isSome (hagrees.sections .network (by decide))
  exact absurd hsome (by decide)

/-! ### No section destroyed -/

/-- A write is completed only from a snapshot of a completely written, undamaged file, which has
every section that was written since, unless it is the section of this write. -/
def Complete (p : Pool) : Action → Prop
  | .endWrite i => ∀ t c, p.writing i = some (t, c) → ∀ s, t.seen = some s →
      s.intact = true ∧
        ∀ e ∈ s.since, e.owned = c.edit.owned ∨ (s.config.get? e.owned.key).isSome = true
  | _ => True

/-- A write keeps every section that it does not own, of those in the configuration that was
last completely written. -/
def Write.KeepsSections (w : Write) : Prop :=
  w.existed = true → ∀ s : Section, s ≠ w.commit.edit.owned →
    (w.previous.get? s.key).isSome = true → (w.commit.result.get? s.key).isSome = true

/-- A snapshot has the sections of the last completely written configuration, apart from those
that were written since. -/
def KnowsSections (p : Pool) (s : Seen) : Prop :=
  s.intact = true → ∀ sec : Section,
    ((s.config.get? sec.key).isSome = true → (p.last.get? sec.key).isSome = true) ∧
      ((p.last.get? sec.key).isSome = true →
        (s.config.get? sec.key).isSome = true ∨ ∃ e ∈ s.since, e.owned = sec)

/-- The invariant of the pool for the sections. -/
structure SectionInv (p : Pool) : Prop where
  tasks : ∀ t ∈ p.tasks, Pool.TaskInv (KnowsSections p) t
  undamaged : p.damaged = false → loadMerossConfig p.file = p.last
  keeps : ∀ w ∈ p.log, w.KeepsSections

lemma isSome_apply {edit : ConfigEdit} {cfg : Json} {sec : Section} :
    ((edit.apply cfg).get? sec.key).isSome = true ↔
      edit.owned = sec ∨ (cfg.get? sec.key).isSome = true := by
  by_cases h : edit.owned = sec
  · rw [← h, ConfigEdit.get?_apply_self]
    exact iff_of_true rfl (Or.inl rfl)
  · rw [ConfigEdit.get?_apply_of_ne _ _ fun hk => h (Section.key_injective hk)]
    exact ⟨Or.inr, fun h' => h'.resolve_left h⟩

lemma SectionInv.step (p : Pool) (a : Action) (p' : Pool) (h : SectionInv p) (hok : Complete p a)
    (hstep : p.step a = some p') : SectionInv p' := by
  rcases Pool.step_spec hstep h.tasks with ⟨⟨hfile, hlast, hdamaged, hlog⟩, htasks⟩ |
    ⟨i, t, s, edit, rfl, hwriting, hseen, hs, hfile, hlast, hlog, hdamaged, htasks⟩
  · have hnew : ∀ v text, p.view v = some text → KnowsSections p ⟨loadMerossConfig text, v.isWhole,
        v.isWhole && !p.damaged, []⟩ := by
      intro v text htext hintact sec
      cases v with
      | whole =>
          obtain rfl := Option.some.inj htext
          have hundamaged : p.damaged = false := by simpa [View.isWhole] using hintact
          rw [← h.undamaged hundamaged]
          exact ⟨id, Or.inl⟩
      | torn j => cases hintact
      | ahead j => cases hintact
    have heq : KnowsSections p' = KnowsSections p := by
      funext s
      rw [KnowsSections, KnowsSections, hlast]
    refine ⟨?_, ?_, ?_⟩
    · rw [heq]
      exact htasks hnew
    · rw [hdamaged, hfile, hlast]
      exact h.undamaged
    · rw [hlog]
      exact h.keeps
  · obtain ⟨hintact, hsince⟩ := hok t _ hwriting s hseen
    have hknows := hs hintact
    -- no section of the last configuration is missing in the new one
    have hkeep : ∀ sec : Section, (p.last.get? sec.key).isSome = true →
        ((edit.apply s.config).get? sec.key).isSome = true := by
      intro sec hsec
      rw [isSome_apply]
      rcases (hknows sec).2 hsec with hbase | ⟨e, he, rfl⟩
      · exact Or.inr hbase
      · rcases hsince e he with howned | hbase
        · exact Or.inl howned.symm
        · exact Or.inr hbase
    refine ⟨htasks _ fun s' hs' hintact' sec => ⟨fun hbase => ?_, fun hsec => ?_⟩, fun _ => ?_, ?_⟩
    · rw [hlast]
      exact hkeep sec ((hs' hintact' sec).1 hbase)
    · rw [hlast, isSome_apply] at hsec
      rcases hsec with howned | hbase
      · exact Or.inr ⟨edit, List.mem_append_right _ List.mem_cons_self, howned⟩
      · rcases (hs' hintact' sec).2 ((hknows sec).1 hbase) with hbase' | ⟨e, he, howned⟩
        · exact Or.inl hbase'
        · exact Or.inr ⟨e, List.mem_append_left _ he, howned⟩
    · rw [hfile, hlast, ConfigEdit.load_apply]
    · rw [hlog]
      intro w hw
      rcases List.mem_append.mp hw with hw | hw
      · exact h.keeps w hw
      · obtain rfl := List.mem_singleton.mp hw
        exact fun _ sec _ hsec => hkeep sec hsec

/-- **A configuration that cannot be read is never destroyed** in the runs in which each write
is completed from a snapshot of an undamaged file: no write lacks a section that the last
completely written configuration has, and that the operation does not own. -/
theorem never_destroys (start : Start) (p : Pool)
    (h : Machine.Reaches Pool.step Complete (Pool.init start) p) :
    ∀ w ∈ p.log, w.KeepsSections := by
  have hinit : SectionInv (Pool.init start) := by
    cases start with
    | intact file =>
        exact ⟨fun t ht => absurd ht List.not_mem_nil, fun _ => rfl,
          fun w hw => absurd hw List.not_mem_nil⟩
    | damaged file last =>
        exact ⟨fun t ht => absurd ht List.not_mem_nil, fun hd => (by cases hd),
          fun w hw => absurd hw List.not_mem_nil⟩
  exact (h.invariant hinit SectionInv.step).keeps

theorem never_destroys_network : ∃ p,
    Machine.run Pool.step networkRun (Pool.init (.intact (.json (.obj [("cloud", .obj [])]))))
      = some p ∧ ∀ w ∈ p.log, w.KeepsSections := by
  refine ⟨_, rfl, never_destroys (.intact (.json (.obj [("cloud", .obj [])]))) _
    (Machine.reaches_run networkRun ?_ rfl)⟩
  refine ⟨trivial, trivial, trivial, trivial, trivial, ?_, trivial⟩
  intro t c h s hs
  cases h
  cases hs
  exact ⟨rfl, fun e he => absurd he List.not_mem_nil⟩

/-- A range is saved to a truncated file: the credentials that the last completely written
configuration had are replaced by nothing. -/
theorem network_destroys_cloud :
    ¬ ∀ (start : Start) (p : Pool), Machine.Reaches Pool.step Machine.Always (Pool.init start) p →
      ∀ w ∈ p.log, w.KeepsSections := by
  intro hall
  have h := hall (.damaged .notJson (.obj [("cloud", .obj [])])) _
    (Machine.reaches_run networkRun (Machine.along_always _ _) rfl) _ List.mem_cons_self rfl .cloud
    (by decide) rfl
  exact absurd h (by decide)

end Merossity
