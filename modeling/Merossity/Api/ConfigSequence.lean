import Merossity.Api.ConfigOps

/-!
Operations on the configuration file that run one after another.

* `serve` runs an operation against the file, with the surroundings replying to all other
  calls; `runAll` runs a sequence of operations, each in its own surroundings.
* `runOp_spec` is what one operation does to the file, and `sequential` what a sequence does,
  as long as no host is found under the key `__proto__`, which an assignment does not make a
  property.
-/

namespace Merossity

open Js

/-- The write among the calls of an operation. -/
def commitOf (history : List (Prog.Event Call Reply)) : Option Commit :=
  lastOr (fun ev : Prog.Event Call Reply => match ev with
    | ⟨.endWrite base edit, _⟩ => some ⟨base, edit⟩
    | _ => none) none history

/-- The devices that answered the scans of an operation. -/
def probedIn (history : List (Prog.Event Call Reply)) : List Probe :=
  history.flatMap fun ev => match ev with
    | ⟨.probeHosts .., probes⟩ => probes
    | _ => []

/-- The file replies to reads and takes writes, which succeed; the surroundings reply to
everything else. -/
def serve (env : Environment) (t : FileText × List (Prog.Event Call Reply)) (c : Call) :
    Reply c × FileText × List (Prog.Event Call Reply) :=
  match c with
  | .readFile => (t.1, t.1, t.2 ++ [⟨.readFile, t.1⟩])
  | .beginWrite base edit => ((), t.1, t.2 ++ [⟨.beginWrite base edit, ()⟩])
  | .endWrite base edit => ((), .json (edit.apply base), t.2 ++ [⟨.endWrite base edit, ()⟩])
  | c => (env t.2 c, t.1, t.2 ++ [⟨c, env t.2 c⟩])

/-- An operation that has run: the file before and after it, its result, and its calls. -/
structure Outcome where
  op : Operation
  before : FileText
  result : Except JsError Bool
  after : FileText
  history : List (Prog.Event Call Reply)

/-- Runs one operation. -/
def runOp (op : Operation) (env : Environment) (file : FileText) : Outcome :=
  let out := Prog.exec (serve env) op.prog.run (file, [])
  ⟨op, file, out.1, out.2.1, out.2.2⟩

/-- Runs operations one after another. -/
def runAll : List (Operation × Environment) → FileText → List Outcome
  | [], _ => []
  | (op, env) :: rest, file => runOp op env file :: runAll rest (runOp op env file).after

/-- The file at the end. -/
def finalFile (file : FileText) (outs : List Outcome) : FileText :=
  outs.foldl (fun _ o => o.after) file

namespace Outcome

/-- The operation answered `{ ok: true }`, or found a host. -/
def Succeeded (o : Outcome) : Prop := o.result = .ok true

/-- What the operation has written. -/
def commit (o : Outcome) : Option Commit := commitOf o.history

/-- No host is found under the key `__proto__`: none is asked for, and no device that answers a
discovery says that this is its uuid. -/
def Ordinary (o : Outcome) : Prop :=
  match o.op with
  | .resolve req =>
      toText (coalesce ((parseJsonBody req).get? "uuid") (some (.str ""))) ≠ .ok "__proto__"
  | .recover uuid => uuid ≠ "__proto__"
  | .discover _ => ∀ p ∈ probedIn o.history, extractLanUuid p.resp ≠ some "__proto__"
  | _ => True

end Outcome

/-- What operations that run one after another make of the file. The configuration is what the
writes of the operations meant to make of it; an operation writes exactly if it succeeds, then
one of its own literals spread from the configuration before it; and a failed operation leaves
the file as it is. -/
structure Sequential (file : FileText) (outs : List Outcome) : Prop where
  config : Agrees (loadMerossConfig file) (outs.filterMap Outcome.commit)
    (loadMerossConfig (finalFile file outs))
  commits : ∀ o ∈ outs, ∀ c, o.commit = some c →
    c.base = loadMerossConfig o.before ∧ o.op.Writes (probedIn o.history) c.edit
  succeeded : ∀ o ∈ outs, o.Succeeded ↔ o.commit.isSome = true
  failed : ∀ o ∈ outs, ¬ o.Succeeded → o.after = o.before

/-! ### One operation -/

/-- What the file and the history have to do with the progress of an operation that began with
the file `file`. -/
structure Serves (op : Operation) (file : FileText) (t : FileText × List (Prog.Event Call Reply))
    (s : Progress) : Prop where
  commit : commitOf t.2 = s.commit
  probed : probedIn t.2 = s.probed
  seen : s.commit = none → ∀ cfg, s.seen = some cfg → cfg = loadMerossConfig file
  unwritten : s.commit = none → t.1 = file
  written : ∀ c, s.commit = some c →
    c.base = loadMerossConfig file ∧ op.Writes s.probed c.edit ∧ t.1 = .json c.result

lemma commitOf_concat (history : List (Prog.Event Call Reply)) {c : Call} (r : Reply c)
    (hc : ∀ base edit, c ≠ .endWrite base edit) :
    commitOf (history ++ [⟨c, r⟩]) = commitOf history := by
  rw [commitOf, lastOr_concat]
  cases c <;> first | rfl | exact absurd rfl (hc _ _)

lemma probedIn_concat (history : List (Prog.Event Call Reply)) {c : Call} (r : Reply c)
    (hc : ∀ ips key timeoutMs workers, c ≠ .probeHosts ips key timeoutMs workers) :
    probedIn (history ++ [⟨c, r⟩]) = probedIn history := by
  rw [probedIn, List.flatMap_append]
  cases c <;> first | exact List.append_nil _ | exact absurd rfl (hc _ _ _ _)

/-- A call that changes neither the file nor the progress of the operation. -/
lemma Serves.remote {op : Operation} {file : FileText} {t : FileText × List (Prog.Event Call Reply)}
    {s : Progress} (h : Serves op file t s) {c : Call} (r : Reply c)
    (hwrite : ∀ base edit, c ≠ .endWrite base edit)
    (hprobe : ∀ ips key timeoutMs workers, c ≠ .probeHosts ips key timeoutMs workers) :
    Serves op file (t.1, t.2 ++ [⟨c, r⟩]) s where
  commit := (commitOf_concat t.2 r hwrite).trans h.commit
  probed := (probedIn_concat t.2 r hprobe).trans h.probed
  seen := h.seen
  unwritten := h.unwritten
  written := h.written

/-- The file keeps up with the progress of an operation. -/
lemma Serves.step {op : Operation} {file : FileText} {env : Environment}
    (t : FileText × List (Prog.Event Call Reply)) (s : Progress) (c : Call)
    (h : Serves op file t s) (hok : (watchWrites op.Writes).ok s c) :
    Serves op file (serve env t c).2 ((watchWrites op.Writes).next s c (serve env t c).1) := by
  cases c with
  | readFile =>
      refine ⟨?_, ?_, fun hs cfg hcfg => ?_, h.unwritten, h.written⟩
      · exact (commitOf_concat t.2 _ fun _ _ => by simp).trans h.commit
      · exact (probedIn_concat t.2 _ fun _ _ _ _ => by simp).trans h.probed
      · rw [← h.unwritten hs]
        exact (Option.some.inj hcfg).symm
  | endWrite base edit =>
      obtain ⟨hseen, hs, hwrites⟩ := hok
      refine ⟨?_, ?_, fun hs' => ?_, fun hs' => ?_, fun c hc => ?_⟩
      · exact lastOr_concat _ _ _ _
      · exact (probedIn_concat t.2 _ fun _ _ _ _ => by simp).trans h.probed
      · cases hs'
      · cases hs'
      · obtain rfl := Option.some.inj hc
        exact ⟨h.seen hs base hseen, hwrites, rfl⟩
  | probeHosts ips key timeoutMs workers =>
      have hs : s.commit = none := hok
      refine ⟨?_, ?_, h.seen, h.unwritten, fun c hc => ?_⟩
      · exact (commitOf_concat t.2 _ fun _ _ => by simp).trans h.commit
      · show probedIn (t.2 ++ _) = s.probed ++ _
        rw [probedIn, List.flatMap_append, ← h.probed, probedIn]
        exact congrArg _ (List.append_nil _)
      · exact absurd (hs.symm.trans hc) (by simp)
  | _ => exact h.remote _ (fun _ _ => by simp) fun _ _ _ _ => by simp

/-- What one operation does to the file: it succeeds and writes one of its literals, spread from
the configuration in the file, or it fails and leaves the file as it is. -/
lemma runOp_spec (op : Operation) (env : Environment) (file : FileText) :
    ((runOp op env file).Succeeded ∧ ∃ c, (runOp op env file).commit = some c ∧
        c.base = loadMerossConfig file ∧ op.Writes (probedIn (runOp op env file).history) c.edit ∧
        (runOp op env file).after = .json c.result) ∨
      (¬ (runOp op env file).Succeeded ∧ (runOp op env file).commit = none ∧
        (runOp op env file).after = file) := by
  have hstart : Serves op file (file, []) .start :=
    ⟨rfl, rfl, fun _ cfg hcfg => (by cases hcfg), fun _ => rfl, fun c hc => (by cases hc)⟩
  have hspec : Prog.wp (watchWrites op.Writes) op.prog.run (fun s r => match r with
      | .ok ok => Reports s ok
      | .error e => Idle s e) .start := Prog.wp_run_iff.mpr op.spec
  obtain ⟨s, hs, hpost⟩ := Prog.wp_exec (serve env) (Serves op file) hspec hstart
    fun t s c h hok => h.step t s c hok
  have hcommit : (runOp op env file).commit = s.commit := hs.commit
  have hresult : (runOp op env file).Succeeded ↔ s.commit.isSome = true := by
    have hdef : (runOp op env file).result = (Prog.exec (serve env) op.prog.run (file, [])).1 := rfl
    rw [Outcome.Succeeded, hdef]
    cases hr : (Prog.exec (serve env) op.prog.run (file, [])).1 with
    | ok ok =>
        rw [hr] at hpost
        have hreports : ok = true ↔ s.commit.isSome = true := hpost
        rw [← hreports]
        exact ⟨Except.ok.inj, congrArg _⟩
    | error e =>
        rw [hr] at hpost
        have hidle : s.commit = none := hpost
        rw [hidle]
        exact iff_of_false (fun h => by cases h) Bool.false_ne_true
  cases hc : s.commit with
  | none =>
      refine Or.inr ⟨fun h => ?_, hcommit.trans hc, hs.unwritten hc⟩
      rw [hresult, hc] at h
      cases h
  | some c =>
      obtain ⟨hbase, hwrites, hafter⟩ := hs.written c hc
      refine Or.inl ⟨hresult.mpr (by rw [hc]; rfl), c, hcommit.trans hc, hbase, ?_, hafter⟩
      rw [← hs.probed] at hwrites
      exact hwrites

/-- An ordinary operation writes no host under the key `__proto__`. -/
lemma Operation.Writes.plain {o : Outcome} (ho : o.Ordinary) {edit : ConfigEdit}
    (h : o.op.Writes (probedIn o.history) edit) : edit.Plain := by
  rw [Outcome.Ordinary] at ho
  cases hop : o.op with
  | resolve req =>
      rw [hop] at ho h
      cases edit with
      | host uuid ip time mac =>
          rintro rfl
          exact ho h
      | _ => exact h.elim
  | recover uuid =>
      rw [hop] at ho h
      cases edit with
      | host uuid' ip time mac =>
          obtain rfl : uuid' = uuid := h
          exact ho
      | _ => exact h.elim
  | discover req =>
      rw [hop] at ho h
      cases edit with
      | hosts found =>
          obtain rfl : found = (probedIn o.history).filterMap foundHost := h
          intro e he
          obtain ⟨p, hp, hfound⟩ := List.mem_filterMap.mp he
          obtain ⟨uuid, huuid, rfl⟩ := Option.map_eq_some_iff.mp hfound
          rintro rfl
          exact ho p hp huuid
      | _ => exact h.elim
  | _ =>
      rw [hop] at h
      cases edit <;> first | exact trivial | exact h.elim

/-! ### Sequences of operations -/

lemma finalFile_cons (file : FileText) (o : Outcome) (outs : List Outcome) :
    finalFile file (o :: outs) = finalFile o.after outs := rfl

/-- The configuration along a sequence of operations. -/
lemma agrees_runAll {initial : Json} (ops : List (Operation × Environment)) :
    ∀ (file : FileText) (log : List Commit), Agrees initial log (loadMerossConfig file) →
      (∀ o ∈ runAll ops file, o.Ordinary) →
      Agrees initial (log ++ (runAll ops file).filterMap Outcome.commit)
        (loadMerossConfig (finalFile file (runAll ops file))) := by
  induction ops with
  | nil =>
      intro file log h _
      rw [runAll, List.filterMap_nil, List.append_nil]
      exact h
  | cons op ops ih =>
      intro file log h hord
      obtain ⟨op, env⟩ := op
      rw [runAll] at hord ⊢
      have hhead := hord _ List.mem_cons_self
      have htail := fun o ho => hord o (List.mem_cons_of_mem _ ho)
      rw [finalFile_cons]
      rcases runOp_spec op env file with ⟨-, c, hc, hbase, hwrites, hafter⟩ | ⟨-, hc, hafter⟩
      · have hstep : Agrees initial (log ++ [c]) (loadMerossConfig (runOp op env file).after) := by
          rw [hafter]
          obtain ⟨base, edit⟩ := c
          obtain rfl : base = loadMerossConfig file := hbase
          exact h.commit (Operation.Writes.plain hhead hwrites) (fun _ _ _ => rfl) fun _ _ => rfl
        rw [List.filterMap_cons_some hc]
        have hrest := ih _ _ hstep htail
        rwa [List.append_assoc] at hrest
      · rw [List.filterMap_cons_none hc]
        refine ih _ _ ?_ htail
        rw [hafter]
        exact h

lemma mem_runAll {ops : List (Operation × Environment)} {o : Outcome} :
    ∀ {file : FileText}, o ∈ runAll ops file → ∃ op env before, o = runOp op env before := by
  induction ops with
  | nil => exact fun h => absurd h List.not_mem_nil
  | cons op ops ih =>
      intro file h
      rcases List.mem_cons.mp h with rfl | h
      · exact ⟨op.1, op.2, file, rfl⟩
      · exact ih h

/-- **Sequential configuration semantics**: the six operations, run one after another in any
surroundings, make of any file what their successes mean to make of it. -/
theorem sequential (file : FileText) (ops : List (Operation × Environment))
    (hord : ∀ o ∈ runAll ops file, o.Ordinary) : Sequential file (runAll ops file) where
  config := agrees_runAll ops file [] (Agrees.refl _) hord
  commits o ho c hc := by
    obtain ⟨op, env, before, rfl⟩ := mem_runAll ho
    rcases runOp_spec op env before with ⟨-, c', hc', hbase, hwrites, -⟩ | ⟨-, hc', -⟩
    · obtain rfl := Option.some.inj (hc.symm.trans hc')
      exact ⟨hbase, hwrites⟩
    · exact absurd (hc.symm.trans hc') (by simp)
  succeeded o ho := by
    obtain ⟨op, env, before, rfl⟩ := mem_runAll ho
    rcases runOp_spec op env before with ⟨hs, c, hc, -⟩ | ⟨hs, hc, -⟩
    · exact iff_of_true hs (by rw [hc]; rfl)
    · exact iff_of_false hs (by rw [hc]; exact Bool.false_ne_true)
  failed o ho hs := by
    obtain ⟨op, env, before, rfl⟩ := mem_runAll ho
    rcases runOp_spec op env before with ⟨hs', -⟩ | ⟨-, -, hafter⟩
    · exact absurd hs' hs
    · exact hafter

/-- A request with a JSON body. -/
def jsonRequest (body : Json) : Request := ⟨"application/json", some body⟩

/-- Two ranges saved one after another. -/
theorem sequential_network :
    Sequential (.json (.obj [("theme", .str "dark")]))
      (runAll [(.network (jsonRequest (.obj [("cidr", .str "10.0.0.0/24")])), fun _ => silence),
        (.network (jsonRequest (.obj [("cidr", .str " 10.0.1.0/24 ")])), fun _ => silence)]
        (.json (.obj [("theme", .str "dark")]))) :=
  sequential _ _ fun o ho => by
    rcases List.mem_cons.mp ho with rfl | ho
    · trivial
    · obtain rfl := List.mem_singleton.mp ho
      trivial

/-- Surroundings in which the address of a MAC address is known. -/
def neighbour (c : Call) : Reply c :=
  match c with
  | .runCmd _ => "? (10.0.0.2) at c4:e7:ae:1a:c4:74 on en0"
  | c => silence c

/-- A host resolved for the uuid `__proto__` is answered, and not persisted. -/
theorem resolve_proto_not_persisted :
    ¬ ∀ (file : FileText) (ops : List (Operation × Environment)),
      Sequential file (runAll ops file) := by
  intro hall
  have h := (hall (.json (.obj [])) [(.resolve (jsonRequest (.obj [("uuid", .str "__proto__"),
    ("mac", .str "c4:e7:ae:1a:c4:74")])), fun _ => neighbour)]).config.hosts "__proto__"
  have hsome := congrArg Option.isSome h
  exact absurd hsome (by decide)

end Merossity
