import ShellHub.Api.User

set_option autoImplicit false

/- The namespace member services (lines 220 to 366 of api/services/namespace.go). Roles, the
   role parser, the authority order, `FindMember` and the member validator live in pkg/api/auth
   and pkg/models, which are not under src/: `Library` carries them as parameters. The store is
   an interface whose calls are fields of `Store`. -/
namespace ShellHub.Api

structure Member (Role : Type) where
  id : String
  role : Role
deriving DecidableEq, Repr

structure Namespace (Role : Type) where
  tenantID : String
  members : List (Member Role)

structure Library (Role : Type) where
  roleFromString : String → Role
  hasAuthority : Role → Role → Bool
  findMember : Namespace Role → String → Option (Member Role)
  -- `s.validator.Struct(models.Member{Username: .., Role: ..})`
  validMember : String → Role → Bool

structure Store (Role : Type) where
  namespaceGet : String → Except Error (Namespace Role)
  userGetByID : String → Except Error User
  userGetByUsername : String → Except Error User
  namespaceAddMember : String → String → Role → Except Error (Namespace Role)
  namespaceEditMember : String → String → Role → Option Error
  namespaceRemoveMember : String → String → Except Error (Namespace Role)

-- The store writes a service makes; `uncache` is `s.AuthUncacheToken`, whose error is dropped.
inductive Write (Role : Type) where
  | addMember (tenantID memberID : String) (role : Role)
  | editMember (tenantID memberID : String) (role : Role)
  | removeMember (tenantID memberID : String)
  | uncache (tenantID memberID : String)

section Services

variable {Role : Type} (lib : Library Role) (store : Store Role)

def addNamespaceUser (memberUsername role tenantID userID : String) :
    Except ServiceError (Namespace Role) × List (Write Role) :=
  let memberRole := lib.roleFromString role
  if !lib.validMember memberUsername memberRole then (.error .namespaceMemberInvalid, []) else
  match store.namespaceGet tenantID with
  | .error _ => (.error (.namespaceNotFound tenantID), [])
  | .ok ns =>
  match store.userGetByID userID with
  | .error _ => (.error (.userNotFound userID), [])
  | .ok user =>
  match lib.findMember ns user.id with
  | none => (.error (.namespaceMemberNotFound user.id), [])
  | some active =>
  match store.userGetByUsername memberUsername with
  | .error _ => (.error (.userNotFound memberUsername), [])
  | .ok passive =>
  if (lib.findMember ns passive.id).isSome then (.error (.namespaceMemberDuplicated passive.id), []) else
  if !lib.hasAuthority active.role memberRole then (.error .roleInvalid, []) else
  match store.namespaceAddMember tenantID passive.id memberRole with
  | .error err => (.error (.store err), [.addMember tenantID passive.id memberRole])
  | .ok added => (.ok added, [.addMember tenantID passive.id memberRole])

-- The lookups RemoveNamespaceUser and EditNamespaceUser share: the namespace, the acting user,
-- the user acted on, both as members, and the authority of the first over the second.
def actOnMember (tenantID userID memberID : String) :
    Except ServiceError (Namespace Role × User × Member Role × Member Role) :=
  match store.namespaceGet tenantID with
  | .error _ => .error (.namespaceNotFound tenantID)
  | .ok ns =>
  match store.userGetByID userID with
  | .error _ => .error (.userNotFound userID)
  | .ok user =>
  match store.userGetByID memberID with
  | .error _ => .error (.userNotFound memberID)
  | .ok member =>
  match lib.findMember ns user.id with
  | none => .error (.namespaceMemberNotFound user.id)
  | some active =>
  match lib.findMember ns member.id with
  | none => .error (.namespaceMemberNotFound member.id)
  | some passive =>
  if !lib.hasAuthority active.role passive.role then .error .roleInvalid
  else .ok (ns, member, active, passive)

def removeNamespaceUser (tenantID memberID userID : String) :
    Except ServiceError (Namespace Role) × List (Write Role) :=
  match actOnMember lib store tenantID userID memberID with
  | .error err => (.error err, [])
  | .ok (ns, member, _, _) =>
      match store.namespaceRemoveMember tenantID member.id with
      | .error err => (.error (.store err), [.removeMember tenantID member.id])
      | .ok removed => (.ok removed, [.removeMember tenantID member.id, .uncache ns.tenantID member.id])

def editNamespaceUser (tenantID userID memberID memberNewRole : String) :
    Except ServiceError Unit × List (Write Role) :=
  match actOnMember lib store tenantID userID memberID with
  | .error err => (.error err, [])
  | .ok (ns, member, _, _) =>
      let role := lib.roleFromString memberNewRole
      match store.namespaceEditMember tenantID member.id role with
      | some err => (.error (.store err), [.editMember tenantID member.id role])
      | none => (.ok (), [.editMember tenantID member.id role, .uncache ns.tenantID member.id])

theorem act_on_member_error (tenantID userID memberID : String) (e : ServiceError)
    (failed : actOnMember lib store tenantID userID memberID = .error e) : ∀ err, e ≠ .store err := by
  unfold actOnMember at failed
  repeat' split at failed
  all_goals (cases failed <;> simp)

theorem add_namespace_user_writes (memberUsername role tenantID userID : String) :
    let served := addNamespaceUser lib store memberUsername role tenantID userID
    served.2 = [] ↔ ∃ e, served.1 = .error e ∧ ∀ err, e ≠ .store err := by
  intro served
  simp only [served, addNamespaceUser]
  repeat' split
  all_goals simp

theorem remove_namespace_user_writes (tenantID memberID userID : String) :
    let served := removeNamespaceUser lib store tenantID memberID userID
    served.2 = [] ↔ ∃ e, served.1 = .error e ∧ ∀ err, e ≠ .store err := by
  intro served
  simp only [served, removeNamespaceUser]
  split
  · rename_i e acted
    simpa using act_on_member_error lib store _ _ _ e acted
  · split <;> simp

theorem edit_namespace_user_writes (tenantID userID memberID memberNewRole : String) :
    let served := editNamespaceUser lib store tenantID userID memberID memberNewRole
    served.2 = [] ↔ ∃ e, served.1 = .error e ∧ ∀ err, e ≠ .store err := by
  intro served
  simp only [served, editNamespaceUser]
  split
  · rename_i e acted
    simpa using act_on_member_error lib store _ _ _ e acted
  · split <;> simp

end Services

-- One namespace with an administrator `u1` and an observer `u2`; every user ID and username is a
-- user of that ID, and every write succeeds.
def ownerGrantNamespace {Role : Type} (lib : Library Role) : Namespace Role :=
  ⟨"tenant", [⟨"u1", lib.roleFromString "administrator"⟩, ⟨"u2", lib.roleFromString "observer"⟩]⟩

def ownerGrantStore {Role : Type} (lib : Library Role) : Store Role :=
  ⟨fun _ => .ok (ownerGrantNamespace lib), fun id => .ok ⟨id, "", id, "", ""⟩,
    fun name => .ok ⟨name, "", name, "", ""⟩, fun _ _ _ => .ok (ownerGrantNamespace lib), fun _ _ _ => none,
    fun _ _ => .ok (ownerGrantNamespace lib)⟩

theorem edit_namespace_user_grants_owner {Role : Type} (lib : Library Role)
    (activeFound : lib.findMember (ownerGrantNamespace lib) "u1" = some ⟨"u1", lib.roleFromString "administrator"⟩)
    (passiveFound : lib.findMember (ownerGrantNamespace lib) "u2" = some ⟨"u2", lib.roleFromString "observer"⟩)
    (newcomer : lib.findMember (ownerGrantNamespace lib) "u3" = none)
    (valid : lib.validMember "u3" (lib.roleFromString "owner") = true)
    (overObserver : lib.hasAuthority (lib.roleFromString "administrator") (lib.roleFromString "observer") = true)
    (notOverOwner : lib.hasAuthority (lib.roleFromString "administrator") (lib.roleFromString "owner") = false) :
    editNamespaceUser lib (ownerGrantStore lib) "tenant" "u1" "u2" "owner" =
        (.ok (), [.editMember "tenant" "u2" (lib.roleFromString "owner"), .uncache "tenant" "u2"]) ∧
      (addNamespaceUser lib (ownerGrantStore lib) "u3" "owner" "tenant" "u1").1 = .error .roleInvalid ∧
      (lib.hasAuthority (lib.roleFromString "administrator") (lib.roleFromString "administrator") = false →
        lib.validMember "u3" (lib.roleFromString "administrator") = true →
        editNamespaceUser lib (ownerGrantStore lib) "tenant" "u1" "u2" "administrator" =
            (.ok (), [.editMember "tenant" "u2" (lib.roleFromString "administrator"), .uncache "tenant" "u2"]) ∧
          (addNamespaceUser lib (ownerGrantStore lib) "u3" "administrator" "tenant" "u1").1 = .error .roleInvalid) := by
  have edits : ∀ memberNewRole, editNamespaceUser lib (ownerGrantStore lib) "tenant" "u1" "u2" memberNewRole =
      (.ok (), [.editMember "tenant" "u2" (lib.roleFromString memberNewRole), .uncache "tenant" "u2"]) := by
    intro memberNewRole
    simp only [editNamespaceUser, actOnMember, ownerGrantStore, activeFound, passiveFound, overObserver,
      Bool.not_true, Bool.false_eq_true, if_false]
    rfl
  refine ⟨edits "owner", ?_, fun notOverPeer validPeer => ⟨edits "administrator", ?_⟩⟩
  · simp [addNamespaceUser, ownerGrantStore, activeFound, newcomer, valid, notOverOwner]
  · simp [addNamespaceUser, ownerGrantStore, activeFound, newcomer, validPeer, notOverPeer]

theorem edit_namespace_user_grants_owner_ranked :
    let lib : Library String := ⟨id, fun active passive =>
      ["observer", "operator", "administrator", "owner"].indexOf passive <
        ["observer", "operator", "administrator", "owner"].indexOf active,
      fun ns id => ns.members.find? fun m => m.id = id, fun _ _ => true⟩
    (lib.findMember (ownerGrantNamespace lib) "u1" = some ⟨"u1", lib.roleFromString "administrator"⟩ ∧
      lib.findMember (ownerGrantNamespace lib) "u2" = some ⟨"u2", lib.roleFromString "observer"⟩ ∧
      lib.findMember (ownerGrantNamespace lib) "u3" = none ∧ lib.validMember "u3" (lib.roleFromString "owner") = true ∧
      lib.hasAuthority (lib.roleFromString "administrator") (lib.roleFromString "observer") = true ∧
      lib.hasAuthority (lib.roleFromString "administrator") (lib.roleFromString "owner") = false ∧
      lib.hasAuthority (lib.roleFromString "administrator") (lib.roleFromString "administrator") = false ∧
      lib.validMember "u3" (lib.roleFromString "administrator") = true) ∧
    editNamespaceUser lib (ownerGrantStore lib) "tenant" "u1" "u2" "owner" =
        (.ok (), [.editMember "tenant" "u2" (lib.roleFromString "owner"), .uncache "tenant" "u2"]) ∧
      (addNamespaceUser lib (ownerGrantStore lib) "u3" "owner" "tenant" "u1").1 = .error .roleInvalid ∧
      (lib.hasAuthority (lib.roleFromString "administrator") (lib.roleFromString "administrator") = false →
        lib.validMember "u3" (lib.roleFromString "administrator") = true →
        editNamespaceUser lib (ownerGrantStore lib) "tenant" "u1" "u2" "administrator" =
            (.ok (), [.editMember "tenant" "u2" (lib.roleFromString "administrator"), .uncache "tenant" "u2"]) ∧
          (addNamespaceUser lib (ownerGrantStore lib) "u3" "administrator" "tenant" "u1").1 = .error .roleInvalid) :=
  ⟨by decide, edit_namespace_user_grants_owner _ (by decide) (by decide) (by decide) (by decide) (by decide)
    (by decide)⟩

end ShellHub.Api
