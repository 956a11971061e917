import Merossity.Api.CloudCreds
import Merossity.Lib.Machine

/-!
Signing in from the web page: `authMachine.ts`, `appMachine.ts` and the effect of `AuthView.tsx`
that joins them, with the server and its configuration file behind them.

* `Page` is what is shown: the page asks for the stored account when it is loaded, and shows the
  form if there is none; a promise is part of the state that has invoked it. `Visit.step` are the
  user, the server, the answers, and everything else that happens to the file.
* `Visit.told` is the account that the page has been told of, and `Held` relates it to the file.
* `stays_signed_in`: a page that shows the devices shows them again after every reload, and those
  of the same account unless somebody else signs in.
* `login_asks_meross`: the form is sent only when it is complete, and the password goes to the
  domains of Meross, or to where one of these redirects.
-/

namespace Merossity

open Js Machine

/-! ### The form -/

inductive LoginRegion where
  | auto
  | global
  | us
  | eu
  | ap

/-- `domainForRegion`. -/
def domainForRegion : LoginRegion → Option String
  | .global => some "iotx.meross.com"
  | .us => some "iotx-us.meross.com"
  | .eu => some "iotx-eu.meross.com"
  | .ap => some "iotx-ap.meross.com"
  | .auto => none

/-- `isTotpValid`. -/
def isTotpValid (s : String) : Bool :=
  (trim s).toList.length = 6 && (trim s).toList.all Char.isDigit

/-- What `fetch` makes of a request: it rejects, or the server has answered. -/
inductive WebReply where
  | failed (message : String)
  | answered (r : Except JsError Response)

/-- What `apiGet` and `apiPost` throw: an `ApiError`, or what `fetch` rejects with. -/
inductive WebError where
  | api (message : String) (code : Option String) (details : Option Json)
  | other (message : String)

/-- `apiGet` and `apiPost`: the data of an answer. A handler that throws is answered by the server,
with a status and no JSON. -/
def apiResult : WebReply → Except WebError Json
  | .failed message => .error (.other message)
  | .answered (.error _) => .error (.api "500 Internal Server Error" none none)
  | .answered (.ok (.ok data)) => .ok data
  | .answered (.ok (.err message code details _)) => .error (.api message (some code) details)

/-- `formatAuthError`. -/
def formatAuthError : WebError → String
  | .other message => message
  | .api message code details =>
      let info := match Json.opt details "info" with
        | some (.str info) => trim info
        | _ => ""
      let apiStatus := match Json.opt details "apiStatus" with
        | some (.num n) => some n
        | _ => none
      if code = some "mfa_required" then
        "MFA required. Enter a current 6-digit TOTP code and try again."
      else
        match apiStatus with
        | some n => (if info ≠ "" then info else message) ++ " (Meross status " ++ n.toText ++ ")."
        | none => if info ≠ "" then info else message

structure AuthContext where
  email : String := ""
  password : String := ""
  totp : String := ""
  region : LoginRegion := .auto
  cloud : Option Json := none
  error : Option String := none

/-- The guard `canSubmit`. -/
def AuthContext.canSubmit (c : AuthContext) : Bool :=
  isTotpValid c.totp && (trim c.email ≠ "" && c.password ≠ "")

/-- The body that `loginFlow` posts. -/
def AuthContext.body (c : AuthContext) : Fields :=
  [("email", .str (trim c.email)), ("password", .str c.password), ("mfaCode", .str (trim c.totp))]
    ++ ((domainForRegion c.region).map fun domain => ("domain", Json.str domain)).toList

inductive AuthEvent where
  | setEmail (email : String)
  | setPassword (password : String)
  | setTotp (totp : String)
  | setRegion (region : LoginRegion)
  | submit

/-- The states. The promise of `loginFlow` has the body that it posts, and what `fetch` makes of
it. -/
inductive AuthState where
  | editing
  | submitting (body : Fields) (reply : Option WebReply)
  | success

/-- `authMachine`. -/
structure AuthMachine where
  state : AuthState := .editing
  context : AuthContext := {}

namespace AuthMachine

/-- What the events of all states assign. -/
def assigns (c : AuthContext) : AuthEvent → AuthContext
  | .setEmail email => { c with email, error := none }
  | .setPassword password => { c with password, error := none }
  | .setTotp totp => { c with totp, error := none }
  | .setRegion region => { c with region, error := none }
  | .submit => c

/-- The transition that an event is handled with; a machine in its final state takes none. -/
def send (m : AuthMachine) (e : AuthEvent) : AuthMachine :=
  match m.state with
  | .success => m
  | .submitting _ _ => { m with context := assigns m.context e }
  | .editing =>
      match e with
      | .submit =>
          if m.context.canSubmit then { m with state := .submitting m.context.body none } else m
      | e => { m with context := assigns m.context e }

/-- `loginFlow`: the summary that is answered. -/
def loginFlow (reply : WebReply) : Except WebError (Option Json) :=
  (apiResult reply).map fun data => coalesce (data.get? "cloud") none

/-- `onDone` and `onError`. -/
def settles (m : AuthMachine) (reply : WebReply) : AuthMachine :=
  match loginFlow reply with
  | .ok cloud =>
      { state := .success
        context := { m.context with cloud, error := none, password := "", totp := "" } }
  | .error e =>
      { state := .editing, context := { m.context with error := some (formatAuthError e) } }

end AuthMachine

/-! ### The page -/

/-- The states of `appMachine`, with the form where it is shown. -/
inductive Page where
  | booting (reply : Option WebReply)
  | auth (cloud : Option Json) (form : AuthMachine)
  | devices (cloud : Json)

/-- The guard `hasCloudKey`. -/
def hasCloudKey (cloud : Option Json) : Bool := truthy (Json.opt cloud "key")

/-- `checkCloudCreds`. -/
def checkCloudCreds (reply : WebReply) : Option Json :=
  match apiResult reply with
  | .ok data => coalesce (data.get? "cloud") none
  | .error _ => none

namespace Page

/-- `determiningView`. -/
def determiningView (cloud : Option Json) : Page :=
  match cloud with
  | some c => if hasCloudKey (some c) then devices c else auth (some c) {}
  | none => auth none {}

/-- The effect of `AuthView`, which takes a sign-in that has succeeded to `auth_loginSuccess`. -/
def signIn (cloud : Option Json) (form : AuthMachine) : Page :=
  match form.state, form.context.cloud with
  | .success, some c => if truthy (some c) then devices c else auth cloud form
  | _, _ => auth cloud form

/-- The answer to the request under way arrives. -/
def receives : Page → Option Page
  | booting (some reply) => some (determiningView (checkCloudCreds reply))
  | auth cloud form =>
      match form.state with
      | .submitting _ (some reply) => some (signIn cloud (form.settles reply))
      | _ => none
  | _ => none

/-- The account whose devices are shown. -/
def account : Page → Option Json
  | devices cloud => some cloud
  | _ => none

end Page

/-- A page, and the file of the server. -/
structure Visit where
  file : FileText
  page : Page

/-- What happens: the user and the effects of the form, the server handling the request under way,
its failure, its answer, a reload, and other operations on the file. A request that the page has
given up may still be handled: it is then one of the other operations. -/
inductive VisitAct where
  | send (e : AuthEvent)
  | serve (env : Environment)
  | lose (message : String)
  | receive
  | reload
  | other (op : Operation) (env : Environment)

namespace Visit

/-- The page is loaded. -/
def load (file : FileText) : Visit := ⟨file, .booting none⟩

/-- The form with the outcome of its request. -/
def reply (cloud : Option Json) (form : AuthMachine) (body : Fields) (r : WebReply) : Page :=
  .auth cloud { form with state := .submitting body (some r) }

def step (v : Visit) : VisitAct → Option Visit
  | .send e =>
      match v.page with
      | .auth cloud form => some { v with page := .auth cloud (form.send e) }
      | _ => none
  | .serve env =>
      match v.page with
      | .booting none =>
          let out := handle env createGetCloudCredsHandler v.file
          some ⟨out.2, .booting (some (.answered out.1))⟩
      | .auth cloud form =>
          match form.state with
          | .submitting body none =>
              let out := handle env (createLoginCloudHandler (jsonRequest (.obj body))) v.file
              some ⟨out.2, reply cloud form body (.answered out.1)⟩
          | _ => none
      | _ => none
  | .lose message =>
      match v.page with
      | .booting _ => some { v with page := .booting (some (.failed message)) }
      | .auth cloud form =>
          match form.state with
          | .submitting body _ => some { v with page := reply cloud form body (.failed message) }
          | _ => none
      | _ => none
  | .receive => v.page.receives.map fun page => { v with page }
  | .reload => some (load v.file)
  | .other op env => some { v with file := (runOp op env v.file).after }

end Visit

/-! ### What the page has been told -/

namespace Visit

/-- The account that the page has been told of: whose devices it shows, or shows as soon as the
answer that has been sent arrives. -/
def told (v : Visit) : Option Json := (v.page.receives.getD v.page).account

/-- The account whose devices the page shows, at the latest once its request is answered. -/
def shows (v : Visit) : Option Json :=
  match v.page with
  | .booting none =>
      (Page.determiningView (checkCloudCreds (.answered (credsAnswer v.file)))).account
  | .booting (some reply) => (Page.determiningView (checkCloudCreds reply)).account
  | .devices cloud => some cloud
  | .auth _ _ => none

end Visit

/-- The file holds an account, that is related to the given one. -/
def Stored (R : Json → Json → Prop) (file : FileText) (cloud : Json) : Prop :=
  ∃ cloud', storedSummary file = .ok cloud' ∧ hasCloudKey (some cloud') = true ∧ R cloud cloud'

/-- The account that the page has been told of is related to the one in the file. -/
def Visit.Held (R : Json → Json → Prop) (v : Visit) : Prop :=
  ∀ cloud, v.told = some cloud → Stored R v.file cloud

/-- The other operations that may take place keep an account in the file, and related. -/
def Keeps (R : Json → Json → Prop) (ok : Visit → VisitAct → Prop) : Prop :=
  ∀ v op env cloud, ok v (.other op env) → Stored R v.file cloud →
    Stored R (runOp op env v.file).after cloud

/-- Nobody signs in elsewhere. -/
def OwnLogin (_ : Visit) : VisitAct → Prop
  | .other (.login _) _ => False
  | _ => True

/-- No request of the page fails. -/
def GetsThrough (_ : Visit) : VisitAct → Prop
  | .lose _ => False
  | _ => True

section Pages

variable {cloud : Json} {reply : WebReply} {file : FileText}

lemma account_determiningView {boot : Option Json} :
    (Page.determiningView boot).account = some cloud ↔
      boot = some cloud ∧ hasCloudKey (some cloud) = true := by
  cases boot with
  | none => simp [Page.determiningView, Page.account]
  | some c =>
      rw [Page.determiningView]
      split_ifs with hkey
      · constructor
        · intro h
          obtain rfl := Option.some.inj h
          exact ⟨rfl, hkey⟩
        · exact fun h => h.1
      · constructor
        · exact fun h => by cases h
        · rintro ⟨h, hkey'⟩
          obtain rfl := Option.some.inj h
          exact absurd hkey' hkey

/-- The page is told of the account in the file, if that has a key. -/
lemma account_creds : (Page.determiningView (checkCloudCreds
      (.answered (credsAnswer file)))).account = some cloud ↔
    storedSummary file = .ok cloud ∧ hasCloudKey (some cloud) = true := by
  rw [account_determiningView]
  refine and_congr_left fun hkey => ?_
  have hanswer : checkCloudCreds (.answered (credsAnswer file))
      = (storedSummary file).toOption.bind fun c => coalesce (some c) none := by
    rw [checkCloudCreds, credsAnswer]
    cases storedSummary file <;> rfl
  rw [hanswer]
  cases hstored : storedSummary file with
  | error message =>
      constructor
      · exact fun h => by cases h
      · exact fun h => by cases h
  | ok c =>
      rw [Except.ok.injEq]
      cases c with
      | null =>
          constructor
          · exact fun h => by cases h
          · rintro rfl
            cases hkey
      | _ => exact Option.some_inj

/-- The account that a sign-in answers with. -/
def granted (reply : WebReply) : Option Json :=
  match AuthMachine.loginFlow reply with
  | .ok (some cloud) => if truthy (some cloud) then some cloud else none
  | _ => none

lemma account_signIn (cloud : Option Json) (form : AuthMachine) :
    (Page.signIn cloud (form.settles reply)).account = granted reply := by
  rw [Page.signIn, AuthMachine.settles, granted]
  rcases AuthMachine.loginFlow reply with e | _ | c
  · rfl
  · rfl
  · dsimp only
    split_ifs <;> rfl

/-- No request is under way. -/
def Page.Idle : Page → Prop
  | .booting _ => False
  | .auth _ form => ∀ body reply, form.state ≠ .submitting body reply
  | .devices _ => True

lemma Page.Idle.receives {page : Page} (h : page.Idle) : page.receives = none := by
  rcases page with reply | ⟨cloud, ⟨_ | ⟨body, reply⟩ | _, context⟩⟩ | cloud
  · exact h.elim
  · rfl
  · exact absurd rfl (h body reply)
  · rfl
  · rfl

lemma idle_determiningView (boot : Option Json) : (Page.determiningView boot).Idle := by
  cases boot with
  | none => exact fun body reply h => by cases h
  | some c =>
      rw [Page.determiningView]
      split_ifs
      · exact trivial
      · exact fun body reply h => by cases h

lemma idle_signIn (cloud : Option Json) (form : AuthMachine) (reply : WebReply) :
    (Page.signIn cloud (form.settles reply)).Idle := by
  rw [Page.signIn, AuthMachine.settles]
  rcases AuthMachine.loginFlow reply with e | _ | c
  · exact fun body reply h => by cases h
  · exact fun body reply h => by cases h
  · dsimp only
    split_ifs
    · exact trivial
    · exact fun body reply h => by cases h

/-- No request is under way once an answer has arrived. -/
lemma idle_of_receives {page page' : Page} (h : page.receives = some page') : page'.Idle := by
  rcases page with (_ | reply) | ⟨cloud, ⟨_ | ⟨body, _ | reply⟩ | _, context⟩⟩ | cloud
  · cases h
  · obtain rfl := Option.some.inj h
    exact idle_determiningView _
  · cases h
  · cases h
  · obtain rfl := Option.some.inj h
    exact idle_signIn _ _ _
  · cases h
  · cases h

/-- What a form has been told depends on its promise only. -/
def AuthState.told : AuthState → Option Json
  | .submitting _ (some reply) => granted reply
  | _ => none

lemma told_auth (file : FileText) (cloud : Option Json) (form : AuthMachine) :
    Visit.told ⟨file, .auth cloud form⟩ = form.state.told := by
  obtain ⟨state, context⟩ := form
  cases state with
  | editing => rfl
  | success => rfl
  | submitting body reply =>
      cases reply with
      | none => rfl
      | some reply => exact account_signIn cloud _

/-- No event makes an answer. -/
lemma told_send (form : AuthMachine) (e : AuthEvent) :
    (form.send e).state.told = form.state.told := by
  obtain ⟨state, context⟩ := form
  cases state with
  | success => rfl
  | submitting body reply => cases e <;> rfl
  | editing =>
      cases e with
      | submit =>
          rw [AuthMachine.send]
          dsimp only
          split_ifs <;> rfl
      | _ => rfl

/-- A sign-in that the server has handled: if it is granted, then the file has that account. -/
lemma stored_granted {R : Json → Json → Prop} (hR : ∀ c, R c c) (env : Environment) (req : Request)
    (h : granted (.answered (handle env (createLoginCloudHandler req) file).1) = some cloud) :
    Stored R (handle env (createLoginCloudHandler req) file).2 cloud := by
  rcases handle_login env req file with ⟨creds, updatedAt, hcreds, hout⟩ | ⟨-, hfail⟩
  · rw [hout] at h ⊢
    have hgranted : granted (.answered (.ok (apiOk [("cloud", .obj (summarizeCloud creds))])))
        = some (.obj (summarizeCloud creds)) := rfl
    obtain rfl := Option.some.inj (hgranted.symm.trans h)
    exact ⟨_, storedSummary_cloud hcreds updatedAt _, key_summarizeCloud hcreds, hR _⟩
  · exfalso
    rw [granted, AuthMachine.loginFlow] at h
    cases hr : (handle env (createLoginCloudHandler req) file).1 with
    | error e =>
        rw [hr] at h
        cases h
    | ok resp =>
        rw [hr] at h
        cases resp with
        | ok data => exact hfail data hr
        | err message code details status => cases h

end Pages

/-! ### One step -/

/-- What each of the steps does. -/
inductive VisitStep : Visit → VisitAct → Visit → Prop
  | send {file : FileText} {cloud : Option Json} {form : AuthMachine} (e : AuthEvent) :
      VisitStep ⟨file, .auth cloud form⟩ (.send e) ⟨file, .auth cloud (form.send e)⟩
  | creds {file : FileText} (env : Environment) :
      VisitStep ⟨file, .booting none⟩ (.serve env)
        ⟨file, .booting (some (.answered (credsAnswer file)))⟩
  | login {file file' : FileText} {cloud : Option Json} {form : AuthMachine} {body : Fields}
      {r : Except JsError Response} {env : Environment} : form.state = .submitting body none →
      handle env (createLoginCloudHandler (jsonRequest (.obj body))) file = (r, file') →
      VisitStep ⟨file, .auth cloud form⟩ (.serve env)
        ⟨file', Visit.reply cloud form body (.answered r)⟩
  | loseCreds {file : FileText} {reply : Option WebReply} (message : String) :
      VisitStep ⟨file, .booting reply⟩ (.lose message) ⟨file, .booting (some (.failed message))⟩
  | loseLogin {file : FileText} {cloud : Option Json} {form : AuthMachine} {body : Fields}
      {reply : Option WebReply} {message : String} : form.state = .submitting body reply →
      VisitStep ⟨file, .auth cloud form⟩ (.lose message)
        ⟨file, Visit.reply cloud form body (.failed message)⟩
  | receive {file : FileText} {page page' : Page} : page.receives = some page' →
      VisitStep ⟨file, page⟩ .receive ⟨file, page'⟩
  | reload {v : Visit} : VisitStep v .reload (.load v.file)
  | other {file : FileText} {page : Page} (op : Operation) (env : Environment) :
      VisitStep ⟨file, page⟩ (.other op env) ⟨(runOp op env file).after, page⟩

lemma visitStep_of_step {v v' : Visit} {a : VisitAct} (h : v.step a = some v') :
    VisitStep v a v' := by
  obtain ⟨file, page⟩ := v
  cases a with
  | send e =>
      cases page with
      | auth cloud form =>
          obtain rfl := Option.some.inj h
          exact .send e
      | _ => cases h
  | serve env =>
      rcases page with (_ | reply) | ⟨cloud, ⟨_ | ⟨body, _ | reply⟩ | _, context⟩⟩ | cloud
      · have hout := handle_creds env file
        rw [Visit.step, hout] at h
        obtain rfl := Option.some.inj h
        exact .creds env
      · cases h
      · cases h
      · rw [Visit.step] at h
        dsimp only at h
        generalize hout : handle env (createLoginCloudHandler (jsonRequest (.obj body))) file = out
          at h
        obtain rfl := Option.some.inj h
        exact .login rfl hout
      · cases h
      · cases h
      · cases h
  | lose message =>
      rcases page with reply | ⟨cloud, ⟨_ | ⟨body, reply⟩ | _, context⟩⟩ | cloud
      · obtain rfl := Option.some.inj h
        exact .loseCreds message
      · cases h
      · obtain rfl := Option.some.inj h
        exact .loseLogin rfl
      · cases h
      · cases h
  | receive =>
      obtain ⟨page', hpage', rfl⟩ := Option.map_eq_some_iff.mp h
      exact .receive hpage'
  | reload =>
      obtain rfl := Option.some.inj h
      exact .reload
  | other op env =>
      obtain rfl := Option.some.inj h
      exact .other op env

section Steps

variable {R : Json → Json → Prop} {ok : Visit → VisitAct → Prop} {v v' : Visit} {a : VisitAct}

/-- The page is told of no account but that in the file. -/
lemma Visit.Held.step (hR : ∀ c, R c c) (hkeep : Keeps R ok) (h : v.Held R) (hok : ok v a)
    (hstep : VisitStep v a v') : v'.Held R := by
  intro c hc
  cases hstep with
  | @send file cloud form e =>
      rw [told_auth, told_send, ← told_auth file cloud] at hc
      exact h c hc
  | creds env =>
      obtain ⟨hstored, hkey⟩ := account_creds.mp hc
      exact ⟨c, hstored, hkey, hR c⟩
  | @login file file' cloud form body r env hstate hout =>
      have hgranted : granted (.answered (handle env (createLoginCloudHandler
          (jsonRequest (.obj body))) file).1) = some c →
          Stored R (handle env (createLoginCloudHandler (jsonRequest (.obj body))) file).2 c :=
        stored_granted hR env _
      rw [Visit.reply, told_auth] at hc
      rw [hout] at hgranted
      exact hgranted hc
  | loseCreds message => cases hc
  | loseLogin hstate =>
      rw [Visit.reply, told_auth] at hc
      cases hc
  | receive hpage =>
      refine h c ?_
      rw [Visit.told, hpage, Option.getD_some]
      rwa [Visit.told, (idle_of_receives hpage).receives, Option.getD_none] at hc
  | reload => cases hc
  | @other file page op env => exact hkeep _ op env c hok (h c hc)

/-- What a page shows on account of the file. -/
structure Visit.Stays (R : Json → Json → Prop) (cloud : Json) (v : Visit) : Prop where
  stored : Stored R v.file cloud
  shows : ∃ cloud', v.shows = some cloud' ∧ R cloud cloud'

lemma shows_load {file : FileText} {cloud : Json} (h : Stored R file cloud) :
    ∃ cloud', (Visit.load file).shows = some cloud' ∧ R cloud cloud' := by
  obtain ⟨cloud', hstored, hkey, hrel⟩ := h
  exact ⟨cloud', account_creds.mpr ⟨hstored, hkey⟩, hrel⟩

lemma shows_of_account {file : FileText} {page : Page} {cloud : Json}
    (h : page.account = some cloud) : Visit.shows ⟨file, page⟩ = some cloud := by
  cases page with
  | devices c => exact h
  | booting reply => cases h
  | auth c form => cases h

/-- A page that shows an account goes on showing it. -/
lemma Visit.Stays.step {cloud : Json} (hkeep : Keeps R ok) (h : v.Stays R cloud) (hok : ok v a)
    (hthrough : GetsThrough v a) (hstep : VisitStep v a v') : v'.Stays R cloud := by
  obtain ⟨hstored, cloud', hshows, hrel⟩ := h
  cases hstep with
  | send e => cases hshows
  | creds env => exact ⟨hstored, cloud', hshows, hrel⟩
  | login hstate hout => cases hshows
  | loseCreds message => exact hthrough.elim
  | loseLogin hstate => exact hthrough.elim
  | @receive file page page' hpage =>
      refine ⟨hstored, cloud', ?_, hrel⟩
      rcases page with (_ | reply) | ⟨c, form⟩ | c
      · cases hpage
      · obtain rfl := Option.some.inj hpage
        exact shows_of_account hshows
      · cases hshows
      · cases hpage
  | reload => exact ⟨hstored, shows_load hstored⟩
  | @other file page op env =>
      have hstored' := hkeep _ op env cloud hok hstored
      refine ⟨hstored', ?_⟩
      rcases page with (_ | reply) | ⟨c, form⟩ | c
      · exact shows_load hstored'
      · exact ⟨cloud', hshows, hrel⟩
      · cases hshows
      · exact ⟨cloud', hshows, hrel⟩

end Steps

/-! ### Every run -/

/-- Any operation keeps an account in the file: another sign-in writes one. -/
lemma keeps_some (ok : Visit → VisitAct → Prop) : Keeps (fun _ _ => True) ok := by
  rintro v op env cloud - ⟨cloud', hstored, hkey, -⟩
  by_cases hlogin : ∃ req, op = .login req
  · obtain ⟨req, rfl⟩ := hlogin
    have hafter : (runOp (.login req) env v.file).after
        = (handle env (createLoginCloudHandler req) v.file).2 := by
      rw [runOp, Operation.prog, Prog.exec_map, handle]
    rcases handle_login env req v.file with ⟨creds, updatedAt, hcreds, hout⟩ | ⟨hsame, -⟩
    · rw [hafter, hout]
      exact ⟨_, storedSummary_cloud hcreds updatedAt _, key_summarizeCloud hcreds, trivial⟩
    · rw [hafter, hsame]
      exact ⟨cloud', hstored, hkey, trivial⟩
  · refine ⟨cloud', ?_, hkey, trivial⟩
    rw [storedSummary_runOp (fun req hop => hlogin ⟨req, hop⟩)]
    exact hstored

/-- Without another sign-in, the account stays the same. -/
lemma keeps_same {ok : Visit → VisitAct → Prop} (hok : ∀ v a, ok v a → OwnLogin v a) :
    Keeps Eq ok := by
  rintro v op env cloud hop ⟨cloud', hstored, hkey, heq⟩
  refine ⟨cloud', ?_, hkey, heq⟩
  rw [storedSummary_runOp (fun req h => ?_)]
  · exact hstored
  · subst h
    exact hok _ _ hop

/-- A run from a page that shows an account. -/
lemma stays_of_reaches {R : Json → Json → Prop} {ok ok' : Visit → VisitAct → Prop}
    (hR : ∀ c, R c c) (hkeep : Keeps R ok) (hkeep' : Keeps R ok')
    (hthrough : ∀ v a, ok' v a → GetsThrough v a) {file : FileText} {v v' : Visit} {cloud : Json}
    (h : Reaches Visit.step ok (.load file) v) (hdevices : v.page = .devices cloud)
    (h' : Reaches Visit.step ok' v v') : v'.Stays R cloud := by
  have hheld : v.Held R := h.invariant (I := Visit.Held R) (fun c hc => by cases hc)
    fun _ _ _ hinv hok hstep => hinv.step hR hkeep hok (visitStep_of_step hstep)
  have hstart : v.Stays R cloud := by
    obtain ⟨file, page⟩ := v
    obtain rfl : page = .devices cloud := hdevices
    exact ⟨hheld cloud rfl, cloud, rfl, hR cloud⟩
  exact h'.invariant (I := Visit.Stays R cloud) hstart
    fun _ _ _ hinv hok hstep =>
      hinv.step hkeep' hok (hthrough _ _ hok) (visitStep_of_step hstep)

/-- **Signed in for good.** Whatever has happened to a page that shows the devices of an account,
and whatever happens then, reloads and other operations on the file included: as long as no request
of the page fails, it shows the devices of an account, at the latest once its request is answered.
And it is the same account, unless somebody else has signed in. -/
theorem stays_signed_in (file : FileText) (v v' : Visit) (cloud : Json)
    (h : Reaches Visit.step Always (.load file) v) (hdevices : v.page = .devices cloud)
    (h' : Reaches Visit.step GetsThrough v v') :
    (∃ cloud', v'.shows = some cloud')
      ∧ (Reaches Visit.step OwnLogin (.load file) v →
        Reaches Visit.step (fun v a => GetsThrough v a ∧ OwnLogin v a) v v' →
          v'.shows = some cloud) := by
  constructor
  · obtain ⟨-, cloud', hshows, -⟩ := stays_of_reaches (fun _ => trivial) (keeps_some _)
      (keeps_some _) (fun _ _ hok => hok) h hdevices h'
    exact ⟨cloud', hshows⟩
  · intro hown hown'
    obtain ⟨-, cloud', hshows, rfl⟩ := stays_of_reaches (fun _ => rfl)
      (keeps_same fun _ _ hok => hok) (keeps_same fun _ _ hok => hok.2) (fun _ _ hok => hok.1)
      hown hdevices hown'
    exact hshows

/-- A cloud that signs in. -/
def grantingCloud : (c : Call) → Reply c
  | .cloudFetch _ => .response 200 (some (.obj [("apiStatus", .num (.fin 0)),
      ("data", .obj [("token", .str "0123456789"), ("key", .str "k"), ("userid", .str "1")])]))
  | c => silence c

/-- The form is filled in and sent, by a page that has found no account. -/
def signInRun : List VisitAct :=
  [.serve fun _ => silence, .receive, .send (.setEmail " a@b.c "), .send (.setPassword "secret"),
    .send (.setTotp "123456"), .send .submit, .serve fun _ => grantingCloud, .receive]

/-- The account is shown again after a reload. -/
theorem stays_signed_in_reload : ∃ v cloud,
    Machine.run Visit.step signInRun (.load .missing) = some v ∧ v.page = .devices cloud
      ∧ (Visit.load v.file).shows = some cloud := by
  obtain ⟨v, cloud, hrun, hdevices⟩ : ∃ v cloud,
      Machine.run Visit.step signInRun (.load .missing) = some v ∧ v.page = .devices cloud :=
    ⟨_, _, rfl, rfl⟩
  have hreload : Reaches Visit.step (fun v a => GetsThrough v a ∧ OwnLogin v a) v (.load v.file) :=
    .tail .reload .refl ⟨trivial, trivial⟩ rfl
  have hown : Along Visit.step OwnLogin signInRun (.load .missing) := by
    refine along_of_forall (fun a ha v => ?_) _
    rw [signInRun] at ha
    fin_cases ha <;> exact trivial
  refine ⟨v, cloud, hrun, hdevices, ?_⟩
  exact (stays_signed_in .missing v (.load v.file) cloud
    (reaches_run _ (along_always _ _) hrun) hdevices (.tail .reload .refl trivial rfl)).2
    (reaches_run _ hown hrun) hreload

/-! ### Where the password goes -/

/-- What the form has sent is what it had when it was complete. -/
def Page.Complete : Page → Prop
  | .auth _ form => ∀ body reply, form.state = .submitting body reply →
      ∃ c : AuthContext, c.canSubmit = true ∧ body = c.body
  | _ => True

lemma Page.Idle.complete {page : Page} (h : page.Idle) : page.Complete := by
  cases page with
  | auth cloud form => exact fun body reply hstate => absurd hstate (h body reply)
  | _ => exact trivial

lemma complete_send {form : AuthMachine} {cloud : Option Json} (h : (Page.auth cloud form).Complete)
    (e : AuthEvent) : (Page.auth cloud (form.send e)).Complete := by
  obtain ⟨state, context⟩ := form
  cases state with
  | success => exact h
  | submitting body reply => exact h
  | editing =>
      cases e with
      | submit =>
          rw [AuthMachine.send]
          dsimp only
          split_ifs with hsubmit
          · intro body reply hstate
            cases hstate
            exact ⟨context, hsubmit, rfl⟩
          · exact h
      | _ => exact h

/-- Nothing is ever sent but a complete form. -/
lemma complete_of_reaches {file : FileText} {v : Visit}
    (h : Reaches Visit.step Always (.load file) v) : v.page.Complete := by
  refine h.invariant (I := fun v => v.page.Complete) trivial fun v a v' hinv _ hstep => ?_
  cases visitStep_of_step hstep with
  | send e => exact complete_send hinv e
  | creds env => exact trivial
  | @login file file' cloud form body r env hstate hout =>
      intro body' reply hstate'
      cases hstate'
      exact hinv body none hstate
  | loseCreds message => exact trivial
  | @loseLogin file cloud form body reply message hstate =>
      intro body' reply' hstate'
      cases hstate'
      exact hinv body reply hstate
  | receive hpage => exact (idle_of_receives hpage).complete
  | reload => exact trivial
  | other op env => exact hinv

/-- A call that asks the cloud nothing. -/
def Call.leavesCloud : Call → Prop
  | .cloudFetch _ => False
  | _ => True

/-- A call that asks the cloud nothing but to sign in with what the form has, over TLS. -/
def Call.signsIn (c : AuthContext) : Call → Prop
  | .cloudFetch req => req.scheme = "https" ∧ req.endpoint = "/v1/Auth/signIn"
      ∧ req.params.get? "email" = some (.str (trim c.email))
      ∧ req.params.get? "password" = some (.str c.password)
      ∧ req.params.get? "mfaCode" = some (.str (trim c.totp))
  | _ => True

/-- The requests to the cloud that a form leads to: the first one goes to the region that was
chosen, and the others to Meross too, or to where one of them redirects. -/
def AsksMeross (c : AuthContext) (exs : List CloudExchange) : Prop :=
  (∃ ex, exs.head? = some ex
      ∧ ex.request.domain = (domainForRegion c.region).getD "iotx.meross.com")
    ∧ ∀ ex ∈ exs, Call.signsIn c (.cloudFetch ex.request)
      ∧ (ex.request.domain ∈ fallbackDomains ∨ ∃ ex' ∈ exs, Redirects ex' ex)

section Login

variable {c : AuthContext}

lemma trim_totp_ne (h : c.canSubmit = true) : trim c.totp ≠ "" := by
  intro hempty
  rw [AuthContext.canSubmit, isTotpValid, hempty] at h
  cases h

lemma canSubmit_texts (h : c.canSubmit = true) : ¬(trim c.email = "" ∨ c.password = "") := by
  rw [AuthContext.canSubmit] at h
  simp only [Bool.and_eq_true, decide_eq_true_eq] at h
  exact not_or.mpr h.2

/-- What a program does that begins with a sign-in, and then asks the cloud nothing more. -/
lemma runs_login_bind {email password : String} {mfaCode domain scheme : Option String}
    {timeoutMs : Option Number} {α : Type} {f : Fields → Async α}
    (hf : ∀ creds, Makes Call.leavesCloud (f creds)) {tr : List (Prog.Event Call Reply)}
    {r : Except JsError α}
    (h : Prog.Runs (merossCloudLogin email password mfaCode domain scheme timeoutMs >>= f).run
      tr r) :
    ∃ login rest res, tr = login ++ rest
      ∧ Prog.Runs (merossCloudLogin email password mfaCode domain scheme timeoutMs).run login res
      ∧ ∀ ev ∈ rest, Call.leavesCloud ev.1 := by
  rw [Prog.runs_bind] at h
  rcases h with ⟨e, h, -⟩ | ⟨creds, tr₁, tr₂, rfl, h, hrest⟩
  · exact ⟨tr, [], _, (List.append_nil tr).symm, h, by simp⟩
  · exact ⟨tr₁, tr₂, _, rfl, h, of_makes (hf creds) hrest⟩

/-- Saving the credentials asks the cloud nothing. -/
lemma saves_leavesCloud (creds : Fields) : Makes Call.leavesCloud (do
    let cfg ← readConfig
    let updatedAt ← call .nowIso
    writeConfig cfg (.cloud (.obj (Assoc.set creds "updatedAt" (.str updatedAt))))
    return apiOk [("cloud", .obj (summarizeCloud creds))]) := by
  refine makes_bind (makes_bind (makes_call trivial) fun _ => makes_pure _) fun cfg => ?_
  refine makes_bind (makes_call trivial) fun updatedAt => makes_bind ?_ fun _ => makes_pure _
  refine makes_bind (makes_call trivial) fun _ => ?_
  exact makes_bind (makes_call trivial) fun _ => makes_call trivial

/-- A complete form makes the handler sign in with its texts. -/
lemma runs_login {req : Request} {p : Async Response} (hp : p = createLoginCloudHandler req)
    (hbody : parseJsonBody req = .obj c.body) (h : c.canSubmit = true)
    {tr : List (Prog.Event Call Reply)} {r : Except JsError Response}
    (hruns : Prog.Runs p.run tr r) :
    ∃ login rest res, tr = login ++ rest
      ∧ Prog.Runs (merossCloudLogin (trim c.email) c.password (some (trim c.totp))
        (domainForRegion c.region) none none).run login res
      ∧ ∀ ev ∈ rest, Call.leavesCloud ev.1 := by
  have hemail : textField (.obj c.body) "email" = pure (trim c.email) := rfl
  have hpassword : textField (.obj c.body) "password" = pure c.password := rfl
  have hmfa : eval (truthyText ((Json.obj c.body).get? "mfaCode")) = pure (trim c.totp) := by
    have htruthy : truthy ((Json.obj c.body).get? "mfaCode") = true :=
      decide_eq_true (trim_totp_ne h)
    rw [truthyText, if_pos htruthy]
    rfl
  have hscheme : (Json.obj c.body).get? "scheme" = none := by
    rw [AuthContext.body]
    cases c.region <;> rfl
  have htimeout : eval (optionalNumber ((Json.obj c.body).get? "timeoutMs")) = pure none := by
    rw [AuthContext.body]
    cases c.region <;> rfl
  obtain ⟨text, hdomain, hchosen⟩ : ∃ text,
      eval (truthyText ((Json.obj c.body).get? "domain")) = pure text
        ∧ (if truthy ((Json.obj c.body).get? "domain") then some text else none)
          = domainForRegion c.region := by
    rw [AuthContext.body]
    cases c.region <;> exact ⟨_, rfl, rfl⟩
  rw [hp, createLoginCloudHandler, hbody, hemail, pure_bind, hpassword, pure_bind, hmfa, pure_bind,
    hdomain, pure_bind] at hruns
  dsimp only at hruns
  rw [htimeout, pure_bind, if_neg (canSubmit_texts h), hscheme, hchosen, Prog.runs_tryCatch]
    at hruns
  rcases hruns with ⟨a, hruns, -⟩ | ⟨e, tr₁, tr₂, rfl, hruns, hcatch⟩
  · exact runs_login_bind (fun creds => saves_leavesCloud creds) hruns
  · obtain ⟨login, rest, res, rfl, hlogin, hrest⟩ :=
      runs_login_bind (fun creds => saves_leavesCloud creds) hruns
    refine ⟨login, rest ++ tr₂, res, List.append_assoc _ _ _, hlogin, fun ev hev => ?_⟩
    rcases List.mem_append.mp hev with hev | hev
    · exact hrest ev hev
    · refine of_makes ?_ hcatch ev hev
      refine makes_bind (makes_eval _) fun mfa => makes_ite (makes_pure _) ?_
      cases e.cloud <;> exact makes_pure _

/-- The candidates for a chosen region: it is the first one, and all are domains of Meross. -/
lemma candidates_region {region : LoginRegion} {cs : List String}
    (h : Candidates (domainForRegion region) cs) :
    cs.head? = some ((domainForRegion region).getD "iotx.meross.com")
      ∧ ∀ d ∈ cs, d ∈ fallbackDomains := by
  have hregion : ∀ d, domainForRegion region = some d → d ∈ fallbackDomains := by
    cases region <;> decide
  generalize domainForRegion region = domain at h hregion ⊢
  cases h with
  | absent => exact ⟨rfl, fun d hd => hd⟩
  | empty => exact absurd (hregion "" rfl) (by decide)
  | @region d others hd hperm hsub =>
      refine ⟨congrArg some (stripScheme_of_mem d (hregion d rfl)), fun d' hd' => ?_⟩
      exact hperm.mem_iff.mp hd'
  | @custom d hne hcustom =>
      rw [stripScheme_of_mem d (hregion d rfl)] at hcustom
      exact absurd (hregion d rfl) hcustom

/-- The rounds of a sign-in to a chosen region. -/
lemma asksMeross_of_rounds {rounds : List Round}
    (h : RightRounds (domainForRegion c.region) rounds)
    (hsigns : ∀ ex ∈ exchangesOf rounds, Call.signsIn c (.cloudFetch ex.request)) :
    AsksMeross c (exchangesOf rounds) := by
  obtain ⟨cs, hcs, -, htried⟩ := h.order
  obtain ⟨hhead, hmeross⟩ := candidates_region hcs
  have hcandidate : ∀ round ∈ rounds, round.candidate ∈ fallbackDomains := fun round hround =>
    hmeross _ (htried.subset (List.mem_map_of_mem hround))
  constructor
  · obtain ⟨round, rest, rfl⟩ := List.exists_cons_of_ne_nil h.ne_nil
    obtain ⟨ex, exs, hex, hdomain, -⟩ := h.start round List.mem_cons_self
    refine ⟨ex, ?_, ?_⟩
    · rw [exchangesOf, List.flatMap_cons, hex]
      rfl
    · obtain ⟨cs', rfl⟩ := htried
      rw [hdomain, stripScheme_of_mem _ (hcandidate round List.mem_cons_self)]
      exact Option.some.inj hhead
  · intro ex hex
    refine ⟨hsigns ex hex, ?_⟩
    rcases h.host ex hex with ⟨round, hround, hdomain⟩ | hredirects
    · left
      rw [hdomain, stripScheme_of_mem _ (hcandidate round hround)]
      exact hcandidate round hround
    · exact .inr hredirects

/-- **A password goes to Meross.** In every run of the page, a sign-in that it sends is handled by
asking the region that was chosen in the form, over TLS and with what the form had when it was sent;
the requests that follow go to Meross as well, or to where a reply of the cloud redirects. -/
theorem login_asks_meross (file : FileText) (v : Visit) (cloud : Option Json) (form : AuthMachine)
    (body : Fields) (reply : Option WebReply) (env : Environment)
    (h : Reaches Visit.step Always (.load file) v) (hpage : v.page = .auth cloud form)
    (hsent : form.state = .submitting body reply) :
    ∃ c : AuthContext, c.canSubmit = true ∧ body = c.body ∧ ∃ exs rest,
      (Prog.run env (createLoginCloudHandler (jsonRequest (.obj body))).run).2
          = cloudTrace exs ++ rest
        ∧ (∀ ev ∈ rest, Call.leavesCloud ev.1) ∧ AsksMeross c exs := by
  obtain ⟨file', page⟩ := v
  obtain rfl : page = .auth cloud form := hpage
  obtain ⟨c, hsubmit, rfl⟩ := complete_of_reaches h body reply hsent
  have hbody : parseJsonBody (jsonRequest (.obj c.body)) = .obj c.body := by
    rw [parseJsonBody, jsonRequest, if_pos includes_json]
  -- the handler is a name for what `runs_login` says of it: it is not to be evaluated
  generalize hp : createLoginCloudHandler (jsonRequest (.obj c.body)) = p
  have hruns := Prog.runs_run env p.run
  obtain ⟨login, rest, res, htr, hlogin, hrest⟩ := runs_login hp.symm hbody hsubmit hruns
  obtain ⟨rounds, rfl, -, hright, -⟩ := runs_merossCloudLogin hlogin
  refine ⟨c, hsubmit, rfl, exchangesOf rounds, rest, htr, hrest, asksMeross_of_rounds hright ?_⟩
  intro ex hex
  refine of_makes (P := Call.signsIn c) (merossCloudLogin_makes ?_) hlogin
    ⟨.cloudFetch ex.request, ex.reply⟩ (List.mem_map_of_mem hex)
  intro req hscheme hendpoint hemail hpassword hmfa
  exact ⟨hscheme, hendpoint, hemail, hpassword, hmfa _ rfl (trim_totp_ne hsubmit)⟩

/-- A form that was sent to the default region. -/
theorem login_asks_meross_global : ∃ c : AuthContext, c.canSubmit = true ∧ ∃ exs rest,
    (Prog.run (fun _ => grantingCloud) (createLoginCloudHandler (jsonRequest (.obj
        [("email", .str "a@b.c"), ("password", .str "secret"), ("mfaCode", .str "123456")]))).run).2
        = cloudTrace exs ++ rest
      ∧ (∀ ev ∈ rest, Call.leavesCloud ev.1) ∧ AsksMeross c exs := by
  obtain ⟨v, form, hrun, hpage, hsent⟩ : ∃ v form,
      Machine.run Visit.step (signInRun.take 6) (.load .missing) = some v ∧ v.page = .auth none form
        ∧ form.state = .submitting [("email", .str "a@b.c"), ("password", .str "secret"),
          ("mfaCode", .str "123456")] none := ⟨_, _, rfl, rfl, rfl⟩
  obtain ⟨c, hsubmit, -, hasks⟩ := login_asks_meross .missing v none form _ none
    (fun _ => grantingCloud) (reaches_run _ (along_always _ _) hrun) hpage hsent
  exact ⟨c, hsubmit, hasks⟩

end Login

end Merossity
