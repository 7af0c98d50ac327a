import Mathlib.Data.List.Basic

set_option autoImplicit false

/- The web UI's `auth` store module (ui/src/store/modules/auth.ts): the Vuex state of the signed-in
   session and the browser's `localStorage`, which the module's `state` reads when the page loads.
   The actions commit mutations and write `localStorage`; each API call is an answer the action
   receives (`none`: the request threw). A string field of the state is `undefined` (`none`) once a
   response lacked it, and a mutation that assigns through an undefined `mfa` throws a TypeError;
   what it assigned before stays done. -/
namespace ShellHub.Ui

-- `localStorage`: a value by key, `none` for a key never written or removed.
def Storage := String → Option String

-- `localStorage.getItem(key) || ""`
def Storage.read (storage : Storage) (key : String) : String := (storage key).getD ""

def Storage.set (storage : Storage) (key value : String) : Storage :=
  fun k => if k = key then some value else storage k

def Storage.remove (storage : Storage) (key : String) : Storage :=
  fun k => if k = key then none else storage k

def Storage.setAll (storage : Storage) (items : List (String × String)) : Storage :=
  items.foldl (fun storage item => storage.set item.1 item.2) storage

def Storage.removeAll (storage : Storage) (keys : List String) : Storage := keys.foldl Storage.remove storage

@[simp] theorem Storage.read_set (storage : Storage) (key value k : String) :
    (storage.set key value).read k = if k = key then value else storage.read k := by
  unfold Storage.read Storage.set
  split <;> rfl

@[simp] theorem Storage.read_remove (storage : Storage) (key k : String) :
    (storage.remove key).read k = if k = key then "" else storage.read k := by
  unfold Storage.read Storage.remove
  split <;> rfl

@[simp] theorem Storage.setAll_nil (storage : Storage) : storage.setAll [] = storage := rfl

@[simp] theorem Storage.setAll_cons (storage : Storage) (item : String × String) (items : List (String × String)) :
    storage.setAll (item :: items) = (storage.set item.1 item.2).setAll items := rfl

@[simp] theorem Storage.removeAll_nil (storage : Storage) : storage.removeAll [] = storage := rfl

@[simp] theorem Storage.removeAll_cons (storage : Storage) (key : String) (keys : List String) :
    storage.removeAll (key :: keys) = (storage.remove key).removeAll keys := rfl

structure Mfa where
  enable : Bool
  validate : Bool

structure AuthState where
  status : String
  token : Option String
  user : Option String
  name : Option String
  tenant : Option String
  email : Option String
  id : Option String
  role : Option String
  secret : Option String
  linkMfa : Option String
  mfa : Option Mfa
  recoveryCodes : Option (List Int)
  showCongratulations : Bool
  showRecoveryModal : Bool

structure Data where
  token : Option String
  user : Option String
  name : Option String
  tenant : Option String
  email : Option String
  id : Option String
  role : Option String
  mfa : Option Mfa
  link : Option String
  secret : Option String
  codes : Option (List Int)

structure Response where
  status : Nat
  data : Data

structure Store where
  state : AuthState
  storage : Storage

def load (storage : Storage) : AuthState :=
  { status := "", token := some (storage.read "token"), user := some (storage.read "user"),
    name := some (storage.read "name"), tenant := some (storage.read "tenant"), email := some (storage.read "email"),
    id := some (storage.read "id"), role := some (storage.read "role"), secret := some "", linkMfa := some "",
    mfa := some ⟨false, false⟩, recoveryCodes := some [], showCongratulations := false, showRecoveryModal := false }

-- `isLoggedIn: (state) => !!state.token`
def AuthState.isLoggedIn (state : AuthState) : Bool := match state.token with
  | some token => token ≠ ""
  | none => false

/-! The mutations. A mutation that can throw returns whether it did. -/

def authRequest (state : AuthState) : AuthState := { state with status := "loading" }

def showCongratulationsModal (state : AuthState) : AuthState :=
  { state with showCongratulations := !state.showCongratulations }

-- `state.mfa.enable = data`
def mfaEnabled (state : AuthState) (data : Bool) : AuthState × Bool :=
  match state.mfa with
  | some mfa => ({ state with mfa := some { mfa with enable := data } }, false)
  | none => (state, true)

def mfaToken (state : AuthState) (data : Option String) : AuthState := { state with token := data }

def authSuccess (state : AuthState) (data : Data) : AuthState :=
  { state with
    status := "success", token := data.token, user := data.user, name := data.name, tenant := data.tenant,
    email := data.email, id := data.id, role := data.role, mfa := data.mfa }

def authError (state : AuthState) : AuthState := { state with status := "error" }

def logoutMutation (state : AuthState) : AuthState × Bool :=
  let cleared := { state with
    status := "", token := some "", name := some "", user := some "", tenant := some "", email := some "",
    role := some "" }
  match state.mfa with
  | some mfa => ({ cleared with mfa := some { mfa with enable := false } }, false)
  | none => (cleared, true)

def changeData (state : AuthState) (name username email : String) : AuthState :=
  { state with name := some name, user := some username, email := some email }

def mfaGenerateInfo (state : AuthState) (data : Data) : AuthState :=
  { state with linkMfa := data.link, secret := data.secret, recoveryCodes := data.codes }

def userInfo (state : AuthState) (data : Data) : AuthState :=
  { state with
    linkMfa := data.link, secret := data.secret, recoveryCodes := data.codes, mfa := data.mfa,
    token := data.token, user := data.user, name := data.name, tenant := data.tenant, email := data.email,
    id := data.id, role := data.role }

def accountRecoveryHelper (state : AuthState) : AuthState :=
  { state with showRecoveryModal := !state.showRecoveryModal }

/-! The actions. Each returns the store after it and whether it threw. -/

-- `resp.data.mfa?.enable ? "true" : "false"`
def mfaFlag (mfa : Option Mfa) : String := if (mfa.map Mfa.enable).getD false then "true" else "false"

def login (st : Store) (answer : Option Response) : Store × Bool :=
  let state := authRequest st.state
  match answer with
  | none => (⟨authError state, st.storage⟩, true)
  | some resp =>
      let d := resp.data
      (⟨authSuccess state d, st.storage.setAll [("token", d.token.getD ""), ("user", d.user.getD ""),
        ("name", d.name.getD ""), ("tenant", d.tenant.getD ""), ("email", d.email.getD ""), ("id", d.id.getD ""),
        ("namespacesWelcome", "\x7b\x7d"), ("role", d.role.getD ""), ("mfa", mfaFlag d.mfa)]⟩, false)

def loginToken (st : Store) (token : String) (answer : Option Response) : Store × Bool :=
  let state := authRequest st.state
  let storage := st.storage.set "token" token
  match answer with
  | none => (⟨authError state, storage⟩, true)
  | some resp =>
      let d := resp.data
      (⟨authSuccess state d, storage.setAll [("token", d.token.getD ""), ("user", d.user.getD ""),
        ("name", d.name.getD ""), ("tenant", d.tenant.getD ""), ("id", d.id.getD ""), ("email", d.email.getD ""),
        ("namespacesWelcome", "\x7b\x7d"), ("role", d.role.getD ""), ("mfa", mfaFlag d.mfa)]⟩, false)

-- A TypeError in a mutation inside `try` is caught like a failed request.
def disableMfa (st : Store) (answer : Option Unit) : Store × Bool :=
  match answer with
  | none => (⟨authError st.state, st.storage⟩, true)
  | some _ =>
      match mfaEnabled st.state false with
      | (state, true) => (⟨authError state, st.storage⟩, true)
      | (state, false) => (⟨state, st.storage.set "mfa" "false"⟩, false)

def enableMfa (st : Store) (answer : Option Response) : Store × Bool :=
  match answer with
  | none => (⟨authError st.state, st.storage⟩, true)
  | some resp =>
      if resp.status = 200 then
        let state := mfaToken st.state resp.data.token
        let storage := (st.storage.set "token" (resp.data.token.getD "")).set "mfa" "true"
        match mfaEnabled state true with
        | (state, true) => (⟨authError state, storage⟩, true)
        | (state, false) => (⟨showCongratulationsModal state, storage⟩, false)
      else (st, false)

def validateMfa (st : Store) (answer : Option Response) : Store × Bool :=
  match answer with
  | none => (⟨authError st.state, st.storage⟩, true)
  | some resp =>
      if resp.status = 200 then
        (⟨mfaToken st.state resp.data.token, st.storage.set "token" (resp.data.token.getD "")⟩, false)
      else (st, false)

def generateMfa (st : Store) (answer : Option Response) : Store × Bool :=
  match answer with
  | none => (⟨authError st.state, st.storage⟩, true)
  | some resp => (if resp.status = 200 then ⟨mfaGenerateInfo st.state resp.data, st.storage⟩ else st, false)

def getUserInfo (st : Store) (answer : Option Response) : Store × Bool :=
  match answer with
  | none => (⟨authError st.state, st.storage⟩, true)
  | some resp => (if resp.status = 200 then ⟨userInfo st.state resp.data, st.storage⟩ else st, false)

def recoverLoginMfa (st : Store) (answer : Option Response) : Store × Bool :=
  match answer with
  | none => (⟨authError st.state, st.storage⟩, true)
  | some resp =>
      if resp.status = 200 then
        (⟨accountRecoveryHelper (mfaToken st.state resp.data.token),
          st.storage.set "token" (resp.data.token.getD "")⟩, false)
      else (st, false)

def logout (st : Store) : Store × Bool :=
  match logoutMutation st.state with
  | (state, true) => (⟨state, st.storage⟩, true)
  | (state, false) =>
      (⟨state, st.storage.removeAll ["token", "user", "tenant", "namespacesWelcome", "noNamespace", "email", "id",
        "name", "role", "mfa"]⟩, false)

def changeUserData (st : Store) (name username email : String) : Store × Bool :=
  (⟨changeData st.state name username email,
    st.storage.setAll [("name", name), ("user", username), ("email", email)]⟩, false)

inductive Action where
  | login (answer : Option Response)
  | loginToken (token : String) (answer : Option Response)
  | disableMfa (answer : Option Unit)
  | enableMfa (answer : Option Response)
  | validateMfa (answer : Option Response)
  | generateMfa (answer : Option Response)
  | getUserInfo (answer : Option Response)
  | recoverLoginMfa (answer : Option Response)
  | logout
  | changeUserData (name username email : String)

def act (st : Store) : Action → Store × Bool
  | .login answer => login st answer
  | .loginToken token answer => loginToken st token answer
  | .disableMfa answer => disableMfa st answer
  | .enableMfa answer => enableMfa st answer
  | .validateMfa answer => validateMfa st answer
  | .generateMfa answer => generateMfa st answer
  | .getUserInfo answer => getUserInfo st answer
  | .recoverLoginMfa answer => recoverLoginMfa st answer
  | .logout => logout st
  | .changeUserData name username email => changeUserData st name username email

def run (st : Store) (actions : List Action) : Store := actions.foldl (fun st a => (act st a).1) st

/-! What a page load reads back. -/

def AuthState.sessionFields (state : AuthState) : List String :=
  [state.token.getD "", state.user.getD "", state.name.getD "", state.tenant.getD "", state.email.getD "",
    state.role.getD ""]

def Storage.sessionFields (storage : Storage) : List String :=
  [storage.read "token", storage.read "user", storage.read "name", storage.read "tenant", storage.read "email",
    storage.read "role"]

def AuthState.session (state : AuthState) : Bool × List String := (state.isLoggedIn, state.sessionFields)

def Store.Synced (st : Store) : Prop := st.state.sessionFields = st.storage.sessionFields

theorem is_logged_in_eq (state : AuthState) : state.isLoggedIn = decide (state.token.getD "" ≠ "") := by
  unfold AuthState.isLoggedIn
  cases state.token <;> simp

theorem Store.Synced.reload {st : Store} (synced : st.Synced) : (load st.storage).session = st.state.session := by
  have token := congrArg List.head? synced
  simp only [AuthState.sessionFields, Storage.sessionFields, List.head?_cons, Option.some.injEq] at token
  have fields : st.state.sessionFields = st.storage.sessionFields := synced
  simp only [AuthState.session, is_logged_in_eq, token, fields]
  rfl

theorem load_synced (storage : Storage) : (Store.mk (load storage) storage).Synced := rfl

-- The actions after which the state and `localStorage` can disagree on the session are left out: a
-- `loginToken` whose request fails (its token is already stored), a `getUserInfo` that succeeds
-- (it sets the state only), and a response without `mfa` (a later `logout` throws before it clears
-- `localStorage`).
def Action.KeepsSession : Action → Prop
  | .login (some resp) => resp.data.mfa.isSome
  | .loginToken _ none => False
  | .loginToken _ (some resp) => resp.data.mfa.isSome
  | .getUserInfo (some resp) => resp.status ≠ 200
  | _ => True

theorem Store.Synced.act_keeps {st : Store} (synced : st.Synced) (defined : st.state.mfa.isSome) (a : Action)
    (keeps : a.KeepsSession) : (act st a).1.Synced ∧ (act st a).1.state.mfa.isSome := by
  obtain ⟨mfa, stateMfa⟩ := Option.isSome_iff_exists.1 defined
  have fields := synced
  simp only [Store.Synced, AuthState.sessionFields, Storage.sessionFields, List.cons.injEq, and_true] at fields
  obtain ⟨token, user, name, tenant, email, role⟩ := fields
  cases a with
  | login answer =>
    cases answer with
    | none => exact ⟨synced, defined⟩
    | some resp => exact ⟨by simp [Store.Synced, AuthState.sessionFields, Storage.sessionFields, act, login,
        authSuccess], keeps⟩
  | loginToken _ answer =>
    cases answer with
    | none => exact keeps.elim
    | some resp => exact ⟨by simp [Store.Synced, AuthState.sessionFields, Storage.sessionFields, act, loginToken,
        authSuccess], keeps⟩
  | disableMfa answer =>
    cases answer with
    | none => exact ⟨synced, defined⟩
    | some _ =>
      simp only [act, disableMfa, mfaEnabled, stateMfa]
      exact ⟨synced, rfl⟩
  | enableMfa answer =>
    cases answer with
    | none => exact ⟨synced, defined⟩
    | some resp =>
      simp only [act, enableMfa]
      split
      · simp only [mfaToken, mfaEnabled, stateMfa]
        exact ⟨by simp [Store.Synced, AuthState.sessionFields, Storage.sessionFields, showCongratulationsModal,
          user, name, tenant, email, role], rfl⟩
      · exact ⟨synced, defined⟩
  | validateMfa answer =>
    cases answer with
    | none => exact ⟨synced, defined⟩
    | some resp =>
      simp only [act, validateMfa]
      split
      · exact ⟨by simp [Store.Synced, AuthState.sessionFields, Storage.sessionFields, mfaToken, user, name, tenant,
          email, role], defined⟩
      · exact ⟨synced, defined⟩
  | generateMfa answer =>
    cases answer with
    | none => exact ⟨synced, defined⟩
    | some resp =>
      simp only [act, generateMfa]
      split <;> exact ⟨synced, defined⟩
  | getUserInfo answer =>
    cases answer with
    | none => exact ⟨synced, defined⟩
    | some resp =>
      simp only [act, getUserInfo, if_neg keeps]
      exact ⟨synced, defined⟩
  | recoverLoginMfa answer =>
    cases answer with
    | none => exact ⟨synced, defined⟩
    | some resp =>
      simp only [act, recoverLoginMfa]
      split
      · exact ⟨by simp [Store.Synced, AuthState.sessionFields, Storage.sessionFields, mfaToken, accountRecoveryHelper,
          user, name, tenant, email, role], defined⟩
      · exact ⟨synced, defined⟩
  | logout =>
    simp only [act, logout, logoutMutation, stateMfa]
    exact ⟨by simp [Store.Synced, AuthState.sessionFields, Storage.sessionFields], rfl⟩
  | changeUserData =>
    exact ⟨by simp [Store.Synced, AuthState.sessionFields, Storage.sessionFields, act, changeUserData, changeData,
      token, tenant, role], defined⟩

theorem Store.Synced.run_keeps {st : Store} (actions : List Action) (synced : st.Synced) (defined : st.state.mfa.isSome)
    (keeps : ∀ a ∈ actions, a.KeepsSession) : (run st actions).Synced ∧ (run st actions).state.mfa.isSome := by
  induction actions generalizing st with
  | nil => exact ⟨synced, defined⟩
  | cons a actions ih =>
    obtain ⟨synced', defined'⟩ := synced.act_keeps defined a (keeps a (List.mem_cons_self _ _))
    exact ih synced' defined' fun a' mem => keeps a' (List.mem_cons_of_mem _ mem)

theorem reload_keeps_session (storage : Storage) (actions : List Action) (keeps : ∀ a ∈ actions, a.KeepsSession) :
    let st := run ⟨load storage, storage⟩ actions
    (load st.storage).session = st.state.session :=
  ((load_synced storage).run_keeps actions rfl keeps).1.reload

theorem reload_keeps_session_after_login_and_logout :
    let resp : Response := ⟨200, ⟨some "t", some "u", none, none, none, none, none, some ⟨true, false⟩, none, none, none⟩⟩
    let actions := [Action.login (some resp), Action.logout]
    (∀ a ∈ actions, a.KeepsSession) ∧
      (load (run ⟨load fun _ => none, fun _ => none⟩ actions).storage).session =
        (run ⟨load fun _ => none, fun _ => none⟩ actions).state.session :=
  ⟨by simp [Action.KeepsSession], reload_keeps_session _ _ (by simp [Action.KeepsSession])⟩

end ShellHub.Ui
