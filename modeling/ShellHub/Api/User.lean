import Mathlib.Data.List.Basic

set_option autoImplicit false

/- The API's user service (`service.UpdateDataUser`) over what its store answers. The store is
   an interface (api/store); each call's answer is an argument. The service's error
   constructors are not under src/: `ServiceError` has one constructor per constructor the
   modelled services call, with the arguments they pass. `strings.ToLower` is taken on ASCII
   letters. -/
namespace ShellHub.Api

abbrev Error := String

inductive ServiceError where
  | userNotFound (id : String)
  | badRequest
  | userDuplicated (conflicts : List String)
  | namespaceNotFound (tenantID : String)
  | namespaceMemberNotFound (id : String)
  | namespaceMemberInvalid
  | namespaceMemberDuplicated (id : String)
  | roleInvalid
  | store (err : Error)
deriving DecidableEq, Repr

structure User where
  id : String
  name : String
  username : String
  email : String
  recoveryEmail : String
deriving DecidableEq, Repr

structure UserDataUpdate where
  name : String
  username : String
  email : String
  recoveryEmail : String
deriving DecidableEq, Repr

-- models.UserChanges with the fields UpdateDataUser sets.
structure UserChanges where
  name : String
  username : String
  email : String
  recoveryEmail : String
deriving DecidableEq, Repr

def toLower (s : String) : String := ⟨s.data.map Char.toLower⟩

-- The changes UpdateDataUser builds from a request; `// TODO: convert username and email to lower case.`
def UserDataUpdate.changes (req : UserDataUpdate) : UserChanges :=
  ⟨req.name, req.username, req.email, toLower req.recoveryEmail⟩

-- The store's UserUpdate is not under src/. Modelled on the premise that an empty field of the
-- changes keeps the stored value.
def User.update (user : User) (changes : UserChanges) : User :=
  { user with
    name := if changes.name = "" then user.name else changes.name
    username := if changes.username = "" then user.username else changes.username
    email := if changes.email = "" then user.email else changes.email
    recoveryEmail := if changes.recoveryEmail = "" then user.recoveryEmail else changes.recoveryEmail }

-- `getByID` is UserGetByID's answer, `none` for an error.
def updateDataUser (getByID : Option User) (conflicts : List String × Bool) (update : Option Error)
    (userID : String) (req : UserDataUpdate) : (List String × Option ServiceError) × Option UserChanges :=
  match getByID with
  | none => (([], some (.userNotFound userID)), none)
  | some user =>
      if req.recoveryEmail = user.email ∨ req.recoveryEmail = req.email then
        ((["email", "recovery_email"], some .badRequest), none)
      else if conflicts.2 then ((conflicts.1, some (.userDuplicated conflicts.1)), none)
      else (([], update.map .store), some req.changes)

theorem update_data_user_email_checks_miss :
    let user : User := ⟨"u1", "Alice", "alice", "alice@example.com", "backup@example.com"⟩
    let nameOnly : UserDataUpdate := ⟨"Alice Liddell", "", "", ""⟩
    let caseOnly : UserDataUpdate := ⟨"", "", "Bob@example.com", "bob@example.com"⟩
    let emailOnly : UserDataUpdate := ⟨"", "", "backup@example.com", ""⟩
    ((updateDataUser (some user) ([], false) none user.id nameOnly).1 = (["email", "recovery_email"], some .badRequest) ∧
        toLower (user.update nameOnly.changes).email ≠ toLower (user.update nameOnly.changes).recoveryEmail) ∧
      ((updateDataUser (some user) ([], false) none user.id caseOnly).1 = ([], none) ∧
        toLower (user.update caseOnly.changes).email = toLower (user.update caseOnly.changes).recoveryEmail) ∧
      ((updateDataUser (some user) ([], false) none user.id emailOnly).1 = ([], none) ∧
        toLower (user.update emailOnly.changes).email = toLower (user.update emailOnly.changes).recoveryEmail) := by
  decide

theorem update_data_user_writes (getByID : Option User) (conflicts : List String × Bool) (update : Option Error)
    (userID : String) (req : UserDataUpdate) :
    let served := updateDataUser getByID conflicts update userID req
    served.2 = none ↔ ∃ e, served.1.2 = some e ∧ ∀ err, e ≠ .store err := by
  intro served
  simp only [served, updateDataUser]
  repeat' split
  all_goals simp

-- The error constructors `UpdatePasswordUser` calls; `NewErrUserUpdate` also carries the user.
inductive PasswordError where
  | userNotFound (id : String)
  | passwordNotMatch
  | passwordInvalid (err : Error)
  | userUpdate (err : Error)
deriving DecidableEq, Repr

-- `user.Password.Compare` and `models.HashUserPassword` live in pkg/models, outside src/.
def updatePasswordUser {Hash : Type} (compare : Hash → String → Bool) (hashUserPassword : String → Except Error Hash)
    (getByID : Option Hash) (update : Option Error) (id currentPassword newPassword : String) :
    Option PasswordError × Option Hash :=
  match getByID with
  | none => (some (.userNotFound id), none)
  | some stored =>
      if !compare stored currentPassword then (some .passwordNotMatch, none)
      else
        match hashUserPassword newPassword with
        | .error err => (some (.passwordInvalid err), none)
        | .ok neo => (update.map .userUpdate, some neo)

theorem update_password_user_writes {Hash : Type} (compare : Hash → String → Bool)
    (hashUserPassword : String → Except Error Hash) (getByID : Option Hash) (update : Option Error)
    (id currentPassword newPassword : String) (written : Hash) :
    (updatePasswordUser compare hashUserPassword getByID update id currentPassword newPassword).2 = some written ↔
      ∃ stored, getByID = some stored ∧ compare stored currentPassword = true ∧
        hashUserPassword newPassword = .ok written := by
  unfold updatePasswordUser
  cases getByID with
  | none => simp
  | some stored =>
    cases matching : compare stored currentPassword
    · simp [matching]
    · cases hashed : hashUserPassword newPassword <;> simp [matching]

end ShellHub.Api
