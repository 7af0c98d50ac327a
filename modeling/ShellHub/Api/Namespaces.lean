import ShellHub.Api.Namespace

set_option autoImplicit false

/- The other namespace services of api/services/namespace.go: listing and reading namespaces with
   their members' usernames (`ListNamespaces`, `GetNamespace`, `fillMembersData`), `CreateNamespace`,
   `DeleteNamespace`, `EditNamespace`, and the session-record setting. As for the member services,
   each store call's answer is a function of its arguments, and what lives outside src/ (the role
   `auth.RoleOwner`, the struct validator, `uuid.Generate`, the instance type, the billing client) is
   an argument. A store call that answers a pointer answers `none` for nil. -/
namespace ShellHub.Api

structure FilledMember (Role : Type) where
  id : String
  username : String
  role : Role
deriving DecidableEq, Repr

structure FilledNamespace (Role : Type) where
  tenantID : String
  members : List (FilledMember Role)
deriving DecidableEq, Repr

inductive NamespaceError where
  | service (err : ServiceError)
  | list (err : Error)
  | memberFillData (err : ServiceError)
  | limitReached (max : Int)
  | invalid
  | duplicated
  | createStore (err : Error)
  | billingReportNamespaceDelete (err : Error)
deriving DecidableEq, Repr

structure Quota where
  id : String
  maxNamespaces : Int
  namespaces : Int
deriving DecidableEq, Repr

structure NewNamespace (Role : Type) where
  name : String
  owner : String
  members : List (Member Role)
  sessionRecord : Bool
  connectionAnnouncement : String
  tenantID : String
  maxDevices : Int
deriving DecidableEq, Repr

structure NamespaceCreate where
  name : String
  tenantID : String
deriving DecidableEq, Repr

-- `store.ErrNoDocuments` or another store error.
inductive StoreError where
  | noDocuments
  | other (err : Error)
deriving DecidableEq, Repr

section Read

variable {Role : Type} (userGetByID : String → Except Error (Option User))

-- `for index, member := range members`: each member's user, or the first member with none.
def fillMembersData : List (Member Role) → Except ServiceError (List (FilledMember Role))
  | [] => .ok []
  | member :: members =>
      match userGetByID member.id with
      | .ok (some user) =>
          match fillMembersData members with
          | .ok filled => .ok (⟨user.id, user.username, member.role⟩ :: filled)
          | .error err => .error err
      | _ => .error (.userNotFound member.id)

-- `for index, namespace := range namespaces` in `ListNamespaces`: the first failure returns.
def fillNamespaces : List (Namespace Role) → Except ServiceError (List (FilledNamespace Role))
  | [] => .ok []
  | ns :: namespaces =>
      match fillMembersData userGetByID ns.members with
      | .error err => .error err
      | .ok members =>
          match fillNamespaces namespaces with
          | .ok filled => .ok (⟨ns.tenantID, members⟩ :: filled)
          | .error err => .error err

-- The paginator, filters and export flag only reach the store.
def listNamespaces (namespaceList : Except Error (List (Namespace Role) × Nat)) :
    Except NamespaceError (List (FilledNamespace Role) × Nat) :=
  match namespaceList with
  | .error err => .error (.list err)
  | .ok (namespaces, count) =>
      match fillNamespaces userGetByID namespaces with
      | .ok filled => .ok (filled, count)
      | .error err => .error (.memberFillData err)

def getNamespace (namespaceGet : Except Error (Option (Namespace Role))) (tenantID : String) :
    Except NamespaceError (FilledNamespace Role) :=
  match namespaceGet with
  | .ok (some ns) =>
      match fillMembersData userGetByID ns.members with
      | .ok members => .ok ⟨ns.tenantID, members⟩
      | .error err => .error (.memberFillData err)
  | _ => .error (.service (.namespaceNotFound tenantID))

def filledMember (member : Member Role) : Option (FilledMember Role) :=
  match userGetByID member.id with
  | .ok (some user) => some ⟨user.id, user.username, member.role⟩
  | _ => none

def missingUser (member : Member Role) : Bool := (filledMember userGetByID member).isNone

def fillNamespace (ns : Namespace Role) : FilledNamespace Role :=
  ⟨ns.tenantID, ns.members.filterMap (filledMember userGetByID)⟩

theorem fill_members_data_eq (members : List (Member Role)) :
    fillMembersData userGetByID members =
      match members.find? (missingUser userGetByID) with
      | some member => .error (.userNotFound member.id)
      | none => .ok (members.filterMap (filledMember userGetByID)) := by
  induction members with
  | nil => rfl
  | cons member members ih =>
    unfold fillMembersData
    cases found : userGetByID member.id with
    | error err => simp [List.find?_cons, missingUser, filledMember, found]
    | ok user =>
      cases user with
      | none => simp [List.find?_cons, missingUser, filledMember, found]
      | some user =>
        simp only [List.find?_cons, missingUser, filledMember, found, Option.isNone_some, List.filterMap_cons, ih]
        cases (members.find? (missingUser userGetByID)) <;> rfl

theorem fill_namespaces_eq (namespaces : List (Namespace Role)) :
    fillNamespaces userGetByID namespaces =
      match (namespaces.flatMap Namespace.members).find? (missingUser userGetByID) with
      | some member => .error (.userNotFound member.id)
      | none => .ok (namespaces.map (fillNamespace userGetByID)) := by
  induction namespaces with
  | nil => rfl
  | cons ns namespaces ih =>
    simp only [fillNamespaces, fill_members_data_eq, List.flatMap_cons, List.find?_append, ih]
    cases (ns.members.find? (missingUser userGetByID)) with
    | some member => rfl
    | none => cases ((namespaces.flatMap Namespace.members).find? (missingUser userGetByID)) <;> rfl

theorem read_services_fill_members (namespaces : List (Namespace Role)) (count : Nat) (ns : Namespace Role)
    (tenantID : String) :
    listNamespaces userGetByID (.ok (namespaces, count)) =
        (match (namespaces.flatMap Namespace.members).find? (missingUser userGetByID) with
        | some member => .error (.memberFillData (.userNotFound member.id))
        | none => .ok (namespaces.map (fillNamespace userGetByID), count)) ∧
      getNamespace userGetByID (.ok (some ns)) tenantID =
        (match ns.members.find? (missingUser userGetByID) with
        | some member => .error (.memberFillData (.userNotFound member.id))
        | none => .ok (fillNamespace userGetByID ns)) := by
  constructor
  · simp only [listNamespaces, fill_namespaces_eq]
    cases ((namespaces.flatMap Namespace.members).find? (missingUser userGetByID)) <;> rfl
  · simp only [getNamespace, fill_members_data_eq]
    cases (ns.members.find? (missingUser userGetByID)) <;> rfl

end Read

-- `auth.RoleOwner`, `s.validator.Struct`, `uuid.Generate()` and `envs.IsCloud()`.
structure CreateEnv (Role : Type) where
  roleOwner : Role
  valid : NewNamespace Role → Bool
  generate : String
  isCloud : Bool

section Create

variable {Role : Type} (env : CreateEnv Role) (userGetByID : Except Error (Option Quota))
  (namespaceGetByName : String → Option StoreError × Bool) (namespaceCreate : NewNamespace Role → Option Error)

-- `NamespaceGetByName` answers its error and whether the namespace pointer is non-nil.
def createNamespace (request : NamespaceCreate) (userID : String) :
    Except NamespaceError (NewNamespace Role) × Option (NewNamespace Role) :=
  match userGetByID with
  | .ok (some user) =>
      -- "When MaxNamespaces is less than zero, it means that the user has no limit of namespaces."
      if 0 < user.maxNamespaces ∧ user.maxNamespaces ≤ user.namespaces then
        (.error (.limitReached user.maxNamespaces), none)
      else
        let ns : NewNamespace Role := ⟨toLower request.name, user.id, [⟨user.id, env.roleOwner⟩], true, "",
          request.tenantID, 0⟩
        if !env.valid ns then (.error .invalid, none)
        else
          let ns := { ns with tenantID := if request.tenantID = "" then env.generate else ns.tenantID }
          let ns := { ns with maxDevices := if env.isCloud then 3 else -1 }
          match namespaceGetByName ns.name with
          | (some (.other _), _) => (.error (.service (.namespaceNotFound ns.name)), none)
          | (_, true) => (.error .duplicated, none)
          | (_, false) =>
              match namespaceCreate ns with
              | some err => (.error (.createStore err), some ns)
              | none => (.ok ns, some ns)
  | _ => (.error (.service (.userNotFound userID)), none)

theorem create_namespace_writes (request : NamespaceCreate) (userID : String) :
    let served := createNamespace env userGetByID namespaceGetByName namespaceCreate request userID
    served.2 = none ↔ ∃ e, served.1 = .error e ∧ ∀ err, e ≠ .createStore err := by
  intro served
  simp only [served, createNamespace]
  repeat' split
  all_goals simp

end Create

-- The billing fields `DeleteNamespace` reads through `ns.Billing`: `IsNil`, `HasCutomer`, `HasSubscription`.
structure Billing where
  hasCustomer : Bool
  hasSubscription : Bool
deriving DecidableEq, Repr

inductive DeleteOutcome where
  | deleted (err : Option Error)
  | error (err : NamespaceError)
  -- `ns.Billing` read through the nil namespace a store answered with no error
  | nilDeref
deriving DecidableEq, Repr

-- The billing report is the write before the delete; `report` is `s.BillingReport`'s error.
def deleteNamespace (namespaceGet : Except Error (Option (Option Billing))) (isCloud hasBilling : Bool)
    (report : Option Error) (namespaceDelete : Option Error) (tenantID : String) : DeleteOutcome × Bool :=
  match namespaceGet with
  | .error _ => (.error (.service (.namespaceNotFound tenantID)), false)
  | .ok ns =>
      if isCloud && hasBilling then
        match ns with
        | none => (.nilDeref, false)
        | some billing =>
            let able := billing.isSome && (billing.map Billing.hasCustomer).getD false &&
              (billing.map Billing.hasSubscription).getD false
            if able then
              match report with
              | some err => (.error (.billingReportNamespaceDelete err), true)
              | none => (.deleted namespaceDelete, true)
            else (.deleted namespaceDelete, false)
      else (.deleted namespaceDelete, false)

structure NamespaceEdit where
  tenant : String
  name : String
  sessionRecord : Option Bool
  connectionAnnouncement : Option String
deriving DecidableEq, Repr

-- models.NamespaceChanges
structure NamespaceChanges where
  name : String
  sessionRecord : Option Bool
  connectionAnnouncement : Option String
deriving DecidableEq, Repr

def NamespaceEdit.changes (req : NamespaceEdit) : NamespaceChanges :=
  ⟨toLower req.name, req.sessionRecord, req.connectionAnnouncement⟩

def editNamespace {Role : Type} (namespaceEdit : NamespaceChanges → Option StoreError)
    (namespaceGet : Except Error (Option (Namespace Role))) (req : NamespaceEdit) :
    Except NamespaceError (Option (Namespace Role)) :=
  match namespaceEdit req.changes with
  | some .noDocuments => .error (.service (.namespaceNotFound req.tenant))
  | some (.other err) => .error (.service (.store err))
  | none =>
      match namespaceGet with
      | .ok ns => .ok ns
      | .error err => .error (.service (.store err))

def editSessionRecordStatus (namespaceSetSessionRecord : Bool → String → Option Error) (sessionRecord : Bool)
    (tenantID : String) : Option Error :=
  namespaceSetSessionRecord sessionRecord tenantID

def getSessionRecord {Role : Type} (namespaceGet : Except Error (Option (Namespace Role)))
    (namespaceGetSessionRecord : Except Error Bool) (tenantID : String) : Except NamespaceError Bool :=
  match namespaceGet with
  | .error _ => .error (.service (.namespaceNotFound tenantID))
  | .ok _ =>
      match namespaceGetSessionRecord with
      | .ok record => .ok record
      | .error err => .error (.service (.store err))

end ShellHub.Api
