import Merossity.Api.ConfigOps
import Merossity.Meross.SignIn

/-!
The credentials that signing in returns, and what the login handler makes of them.

* `BareHost` is a domain that can stand in a URL, and `NamesHost` are the texts that `stripScheme`
  makes one of (`bareHost_stripScheme_iff`).
* `Usable` credentials have all their texts, and a bare host.
* **`returnsUsable_iff`**: the credentials are usable as long as the text that names the domain
  names a host; and nothing is written but credentials that `merossCloudLogin` has returned.
-/

namespace Merossity

open Js

/-! ### Bare hosts -/

/-- What `stripScheme` drops at the front. -/
def schemes : List String := ["http://", "https://"]

/-- A host without a scheme before it, and without a slash behind it. -/
def BareHost (s : String) : Prop :=
  s ≠ "" ∧ (∀ scheme ∈ schemes, startsWith s scheme = false) ∧ s.toList.getLast? ≠ some '/'

/-- Slashes only. -/
def Slashes (l : List Char) : Prop := ∀ c ∈ l, c = '/'

/-- The texts that name a host: it stands there alone or after one scheme, and slashes may
follow. -/
inductive NamesHost : String → Prop
  | plain {s host : String} {slashes : List Char} : s.toList = host.toList ++ slashes →
      BareHost host → Slashes slashes → (∀ scheme ∈ schemes, startsWith s scheme = false) →
      NamesHost s
  | schemed {s scheme host : String} {slashes : List Char} : scheme ∈ schemes →
      s.toList = scheme.toList ++ (host.toList ++ slashes) → BareHost host → Slashes slashes →
      NamesHost s

lemma rdropWhile_append_slashes {l slashes : List Char} (h : Slashes slashes) :
    (l ++ slashes).rdropWhile (· = '/') = l.rdropWhile (· = '/') := by
  have hrev : ∀ c ∈ slashes.reverse, decide (c = '/') = true := fun c hc =>
    decide_eq_true (h c (List.mem_reverse.mp hc))
  rw [List.rdropWhile, List.reverse_append, List.dropWhile_append_of_pos hrev, List.rdropWhile]

/-- Without its last slashes, a text is a host if it is a host and slashes. -/
lemma bareHost_rdropWhile_iff {l : List Char} :
    BareHost (String.ofList (l.rdropWhile (· = '/'))) ↔
      ∃ host : String, ∃ slashes, l = host.toList ++ slashes ∧ BareHost host ∧ Slashes slashes := by
  constructor
  · intro h
    refine ⟨_, l.rtakeWhile (· = '/'), ?_, h, fun c hc => ?_⟩
    · rw [String.toList_ofList, List.rdropWhile_append_rtakeWhile]
    · exact of_decide_eq_true (List.mem_rtakeWhile_imp (p := fun c => decide (c = '/')) hc)
  · rintro ⟨host, slashes, rfl, hhost, hslashes⟩
    have hself : host.toList.rdropWhile (· = '/') = host.toList := by
      refine List.rdropWhile_eq_self_iff.mpr fun hne hlast => hhost.2.2 ?_
      rw [List.getLast?_eq_some_getLast hne, of_decide_eq_true hlast]
    rwa [rdropWhile_append_slashes hslashes, hself, String.ofList_toList]

lemma startsWith_eq_true_iff {s pre : String} :
    startsWith s pre = true ↔ ∃ rest, s.toList = pre.toList ++ rest := by
  rw [startsWith, List.isPrefixOf_iff_prefix]
  exact ⟨fun ⟨rest, h⟩ => ⟨rest, h.symm⟩, fun ⟨rest, h⟩ => ⟨rest, h.symm⟩⟩

/-- A text starts with one scheme at most. -/
lemma scheme_unique {s scheme scheme' : String} (hmem : scheme ∈ schemes)
    (hmem' : scheme' ∈ schemes) (h : startsWith s scheme = true)
    (h' : startsWith s scheme' = true) : scheme = scheme' := by
  have hpre : scheme.toList <+: s.toList := List.isPrefixOf_iff_prefix.mp h
  have hpre' : scheme'.toList <+: s.toList := List.isPrefixOf_iff_prefix.mp h'
  have hsame : ∀ a ∈ schemes, ∀ b ∈ schemes, a.toList <+: b.toList → a = b := by decide
  rcases le_total scheme.toList.length scheme'.toList.length with hle | hle
  · exact hsame _ hmem _ hmem' (List.prefix_of_prefix_length_le hpre hpre' hle)
  · exact (hsame _ hmem' _ hmem (List.prefix_of_prefix_length_le hpre' hpre hle)).symm

/-- What `stripScheme` leaves of a text that starts with a scheme. -/
lemma stripScheme_of_scheme {s scheme : String} {rest : List Char} (hmem : scheme ∈ schemes)
    (hs : s.toList = scheme.toList ++ rest) :
    stripScheme s = String.ofList (rest.rdropWhile (· = '/')) := by
  have hstarts : startsWith s scheme = true := startsWith_eq_true_iff.mpr ⟨rest, hs⟩
  rcases List.mem_pair.mp hmem with rfl | rfl
  · rw [stripScheme, if_pos hstarts, hs]
    rfl
  · have hhttp : ¬startsWith s "http://" = true := fun h =>
      absurd (scheme_unique (by simp [schemes]) hmem h hstarts) (by decide)
    rw [stripScheme, if_neg hhttp, if_pos hstarts, hs]
    rfl

/-- What `stripScheme` leaves of a text without a scheme. -/
lemma stripScheme_of_plain {s : String} (hs : ∀ scheme ∈ schemes, startsWith s scheme = false) :
    stripScheme s = String.ofList (s.toList.rdropWhile (· = '/')) := by
  have hhttp : startsWith s "http://" = false := hs _ (by simp [schemes])
  have hhttps : startsWith s "https://" = false := hs _ (by simp [schemes])
  rw [stripScheme, hhttp, hhttps]
  rfl

/-- **The texts that name a host** are those that `stripScheme` makes a bare host of. -/
lemma bareHost_stripScheme_iff {s : String} : BareHost (stripScheme s) ↔ NamesHost s := by
  by_cases hscheme : ∃ scheme ∈ schemes, startsWith s scheme = true
  · obtain ⟨scheme, hmem, hstarts⟩ := hscheme
    obtain ⟨rest, hs⟩ := startsWith_eq_true_iff.mp hstarts
    rw [stripScheme_of_scheme hmem hs, bareHost_rdropWhile_iff]
    constructor
    · rintro ⟨host, slashes, rfl, hhost, hslashes⟩
      exact .schemed hmem hs hhost hslashes
    · rintro (⟨-, -, -, hplain⟩ | ⟨hmem', hs', hhost, hslashes⟩)
      · rw [hplain scheme hmem] at hstarts
        cases hstarts
      · obtain rfl := scheme_unique hmem hmem' hstarts (startsWith_eq_true_iff.mpr ⟨_, hs'⟩)
        exact ⟨_, _, List.append_cancel_left (hs.symm.trans hs'), hhost, hslashes⟩
  · have hplain : ∀ scheme ∈ schemes, startsWith s scheme = false := fun scheme hmem =>
      Bool.eq_false_iff.mpr fun h => hscheme ⟨scheme, hmem, h⟩
    rw [stripScheme_of_plain hplain, bareHost_rdropWhile_iff]
    constructor
    · rintro ⟨host, slashes, hs, hhost, hslashes⟩
      exact .plain hs hhost hslashes hplain
    · rintro (⟨hs, hhost, hslashes, -⟩ | ⟨hmem, hs, -, -⟩)
      · exact ⟨_, _, hs, hhost, hslashes⟩
      · exact absurd ⟨_, hmem, startsWith_eq_true_iff.mpr ⟨_, hs⟩⟩ hscheme

/-! ### What a reply grants -/

/-- Credentials with which the cloud can be asked: all texts are there, and the domain is a bare
host. -/
structure Usable (creds : Fields) : Prop where
  texts : ∀ k ∈ ["token", "key", "userId"], ∃ text, Assoc.get creds k = some (.str text) ∧ text ≠ ""
  domain : ∃ host, Assoc.get creds "domain" = some (.str host) ∧ BareHost host

/-- The response signs in: its status is 0, and it has the texts. -/
structure Grants (email : String) (resp : Json) : Prop where
  status : apiStatus resp = .fin 0
  texts : ∃ granted, grantedTexts email (replyData resp) = .ok granted
    ∧ granted.token ≠ "" ∧ granted.key ≠ "" ∧ granted.userId ≠ ""

/-- A response is made credentials of exactly if it signs in, and the texts are in them. -/
lemma grant_eq_ok {email resolved : String} {resp : Json} {creds : Fields}
    (h : grant email resolved resp = .ok creds) : Grants email resp
      ∧ (∀ k ∈ ["token", "key", "userId"], ∃ text,
        Assoc.get creds k = some (.str text) ∧ text ≠ "")
      ∧ Assoc.get creds "domain"
        = some (.str (stripScheme (domainText (replyData resp) resolved))) := by
  by_cases hstatus : apiStatus resp = .fin 0
  · rw [grant, if_neg (not_not_intro hstatus)] at h
    obtain ⟨granted, hgranted, h⟩ := bind_eq_ok h
    split_ifs at h with hempty
    obtain ⟨htoken, hkey, huserId⟩ : granted.token ≠ "" ∧ granted.key ≠ ""
        ∧ granted.userId ≠ "" := by simpa only [not_or] using hempty
    refine ⟨⟨hstatus, granted, mapError_eq_ok hgranted, htoken, hkey, huserId⟩, ?_, ?_⟩
    · rw [← Except.ok.inj h]
      simp only [List.forall_mem_cons]
      refine ⟨⟨granted.token, ?_, htoken⟩, ⟨granted.key, ?_, hkey⟩,
        ⟨granted.userId, ?_, huserId⟩, List.forall_mem_nil _⟩
      all_goals
        rw [mqttField]
        split <;> rfl
    · rw [← Except.ok.inj h]
      rfl
  · rw [grant, if_pos hstatus] at h
    cases h

lemma exists_grant {email : String} (resolved : String) {resp : Json} (h : Grants email resp) :
    ∃ creds, grant email resolved resp = .ok creds := by
  obtain ⟨hstatus, granted, hgranted, htoken, hkey, huserId⟩ := h
  rw [grant, if_neg (not_not_intro hstatus), hgranted]
  exact ⟨_, if_neg (by simp [htoken, hkey, huserId])⟩

/-- What a response grants is usable exactly if the text for the domain names a host. -/
lemma usable_grant_iff {email resolved : String} {resp : Json} :
    (∀ creds, grant email resolved resp = .ok creds → Usable creds) ↔
      (Grants email resp → NamesHost (domainText (replyData resp) resolved)) := by
  constructor
  · intro h hgrants
    obtain ⟨creds, hcreds⟩ := exists_grant resolved hgrants
    obtain ⟨-, -, hdomain⟩ := grant_eq_ok hcreds
    obtain ⟨host, hhost, hbare⟩ := (h creds hcreds).domain
    rw [hdomain] at hhost
    obtain rfl := Json.str.inj (Option.some.inj hhost)
    exact bareHost_stripScheme_iff.mp hbare
  · intro h creds hcreds
    obtain ⟨hgrants, htexts, hdomain⟩ := grant_eq_ok hcreds
    exact ⟨htexts, _, hdomain, bareHost_stripScheme_iff.mpr (h hgrants)⟩

/-! ### What is saved -/

/-- A call that writes something else than these credentials. -/
def Call.savesOnly (creds : Fields) : Call → Prop
  | .beginWrite _ edit => ∃ time, edit = .cloud (.obj (Assoc.set creds "updatedAt" (.str time)))
  | .endWrite _ edit => ∃ time, edit = .cloud (.obj (Assoc.set creds "updatedAt" (.str time)))
  | _ => True

/-- A call that writes nothing. -/
def Call.keeps : Call → Prop
  | .beginWrite _ _ => False
  | .endWrite _ _ => False
  | _ => True

/-- A history writes nothing, or begins with a login, and writes the credentials that it returns. -/
def SavesGranted (tr : List (Prog.Event Call Reply)) : Prop :=
  (∀ ev ∈ tr, Call.keeps ev.1)
    ∨ ∃ email password mfaCode domain scheme timeoutMs login rest creds, tr = login ++ rest
      ∧ Prog.Runs (merossCloudLogin email password mfaCode domain scheme timeoutMs).run login
        (.ok creds)
      ∧ (∀ ev ∈ login, Call.keeps ev.1) ∧ ∀ ev ∈ rest, Call.savesOnly creds ev.1

lemma Call.remote.keeps {c : Call} (h : c.remote) : c.keeps := by
  cases c <;> first | exact h | exact trivial

/-- All histories of the program are so. -/
def SavesOnlyGranted {α : Type} (p : Async α) : Prop :=
  ∀ tr r, Prog.Runs p.run tr r → SavesGranted tr

section SavesOnlyGranted

variable {α β : Type}

lemma of_makes {P : Call → Prop} {p : Async α} (hp : Makes P p) {tr : List (Prog.Event Call Reply)}
    {r : Except JsError α} (h : Prog.Runs p.run tr r) : ∀ ev ∈ tr, P ev.1 :=
  hp.only.of_runs h

/-- An expression that throws ends the program, and one that does not makes no call. -/
lemma saves_eval_bind {e : Except String α} {f : α → Async β}
    (hf : ∀ a, SavesOnlyGranted (f a)) : SavesOnlyGranted (eval e >>= f) := by
  intro tr r h
  rw [Prog.runs_bind] at h
  rcases h with ⟨e', ⟨rfl, -⟩, -⟩ | ⟨a, tr₁, tr₂, rfl, ⟨rfl, -⟩, h⟩
  · exact .inl (by simp)
  · exact hf a tr₂ r h

/-- What goes on after signing in saves the credentials only. -/
lemma saves_login_bind {email password : String} {mfaCode domain scheme : Option String}
    {timeoutMs : Option Number} {f : Fields → Async β}
    (hf : ∀ creds, Makes (Call.savesOnly creds) (f creds)) :
    SavesOnlyGranted (merossCloudLogin email password mfaCode domain scheme timeoutMs >>= f) := by
  have hkeeps {tr : List (Prog.Event Call Reply)} {r : Except JsError Fields}
      (h : Prog.Runs (merossCloudLogin email password mfaCode domain scheme timeoutMs).run tr r) :
      ∀ ev ∈ tr, Call.keeps ev.1 := fun ev hev =>
    (of_makes (merossCloudLogin_remote _ _ _ _ _ _) h ev hev).keeps
  intro tr r h
  rw [Prog.runs_bind] at h
  rcases h with ⟨e, h, -⟩ | ⟨creds, tr₁, tr₂, rfl, h, hrest⟩
  · exact .inl (hkeeps h)
  · exact .inr ⟨email, password, mfaCode, domain, scheme, timeoutMs, tr₁, tr₂, creds, rfl, h,
      hkeeps h, of_makes (hf creds) hrest⟩

lemma saves_tryCatch {p : Async α} {f : JsError → Async α} (hp : SavesOnlyGranted p)
    (hf : ∀ e, Makes (fun _ => False) (f e)) : SavesOnlyGranted (tryCatch p f) := by
  intro tr r h
  rw [Prog.runs_tryCatch] at h
  rcases h with ⟨a, h, -⟩ | ⟨e, tr₁, tr₂, rfl, h, hcatch⟩
  · exact hp tr _ h
  · have hnil : tr₂ = [] := List.eq_nil_iff_forall_not_mem.mpr (of_makes (hf e) hcatch)
    rw [hnil, List.append_nil]
    exact hp tr₁ _ h

end SavesOnlyGranted

/-- The login handler saves nothing but credentials that `merossCloudLogin` has returned. -/
lemma saves_createLoginCloudHandler (req : Request) :
    SavesOnlyGranted (createLoginCloudHandler req) := by
  rw [createLoginCloudHandler]
  refine saves_eval_bind fun email => saves_eval_bind fun password => ?_
  refine saves_eval_bind fun mfaCode => saves_eval_bind fun domain => ?_
  refine saves_eval_bind fun timeoutMs => ?_
  by_cases hmissing : email = "" ∨ password = ""
  · rw [if_pos hmissing]
    rintro tr r ⟨rfl, -⟩
    exact .inl (by simp)
  · rw [if_neg hmissing]
    refine saves_tryCatch (saves_login_bind fun creds => ?_) fun e => ?_
    · refine makes_bind (makes_bind (makes_call trivial) fun _ => makes_pure _) fun cfg => ?_
      refine makes_bind (makes_call trivial) fun updatedAt => makes_bind ?_ fun _ => makes_pure _
      refine makes_bind (makes_call trivial) fun _ => ?_
      exact makes_bind (makes_call ⟨updatedAt, rfl⟩) fun _ => makes_call ⟨updatedAt, rfl⟩
    · refine makes_bind (makes_eval _) fun mfa => makes_ite (makes_pure _) ?_
      cases e.cloud <;> exact makes_pure _

/-! ### Every run -/

/-- Credentials that are returned are usable. -/
def ReturnsUsable (r : Except JsError Fields) : Prop := ∀ creds, r = .ok creds → Usable creds

/-- **Signing in returns usable credentials** exactly if the last reply, in case it signs in, names
a host: its own domain does, or if it has none then the host that it is from. And nothing is saved
but credentials that were returned. -/
theorem returnsUsable_iff (env : Environment) (email password : String)
    (mfaCode domain scheme : Option String) (timeoutMs : Option Number) (req : Request) :
    (∃ exs, (Prog.run env
          (merossCloudLogin email password mfaCode domain scheme timeoutMs).run).2 = cloudTrace exs
      ∧ (ReturnsUsable (Prog.run env
          (merossCloudLogin email password mfaCode domain scheme timeoutMs).run).1 ↔
        ∀ ex resp, exs.getLast? = some ex → ex.outcome = .ok resp → Grants email resp →
          NamesHost (domainText (replyData resp) ex.request.domain)))
    ∧ SavesGranted (Prog.run env (createLoginCloudHandler req).run).2 := by
  constructor
  · obtain ⟨rounds, htrace, -, -, ex, hex, hr⟩ := runs_merossCloudLogin (Prog.runs_run env
      (merossCloudLogin email password mfaCode domain scheme timeoutMs).run)
    refine ⟨exchangesOf rounds, htrace, ?_⟩
    rw [hr, ReturnsUsable]
    constructor
    · intro h ex' resp hex' hout
      obtain rfl : ex = ex' := Option.some.inj (hex.symm.trans hex')
      refine usable_grant_iff.mp fun creds hcreds => h creds ?_
      rw [hout]
      exact hcreds
    · intro h creds hcreds
      obtain ⟨resp, hout, hgrant⟩ := bind_eq_ok hcreds
      exact usable_grant_iff.mpr (h ex resp hex hout) creds hgrant
  · exact saves_createLoginCloudHandler req _ _ (Prog.runs_run env _)

/-- A cloud that signs in, and names no domain. -/
def namelessCloud : (c : Call) → Reply c
  | .cloudFetch _ => .response 200 (some (.obj [("apiStatus", .num (.fin 0)),
      ("data", .obj [("token", .str "t"), ("key", .str "k"), ("userid", .str "1"),
        ("domain", .str "")])]))
  | c => silence c

/-- The domain of the credentials is empty, if the reply has an empty one. -/
theorem not_returnsUsable_nameless : ¬ReturnsUsable (Prog.run (fun _ => namelessCloud)
    (merossCloudLogin "a@b.c" "secret" none none none none).run).1 := by
  intro h
  obtain ⟨host, hhost, hbare⟩ := (h _ rfl).domain
  have hempty : some (Json.str "") = some (.str host) := hhost
  obtain rfl := Json.str.inj (Option.some.inj hempty)
  exact hbare.1 rfl

end Merossity
