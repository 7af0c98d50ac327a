import Mathlib.Logic.Basic

set_option autoImplicit false

/- The public-key callback of the SSH server (`handler.PublicKey`). The target parser, the
   internal API client and the magic key live outside the repository's sources: each is a
   parameter that may answer anything, so every theorem below holds for every behaviour of
   them. Logging is not modelled; the context is modelled by the user value it holds and the
   values the callback writes into it. -/
namespace ShellHub.Auth

abbrev Error := String

-- `models.Device` as the callback reads it (`Namespace` is a Lean keyword).
structure Device where
  uid : String
  name : String
  namespaceName : String
  tenantID : String
deriving DecidableEq, Repr

-- The `map[string]string{"domain": .., "name": ..}` handed to `DeviceLookup`.
structure Lookup where
  domain : String
  name : String
deriving DecidableEq, Repr

structure Target where
  data : String
  username : String
deriving DecidableEq, Repr

-- `target.NewTarget`, `Target.IsSSHID` and `Target.SplitSSHID`.
structure Resolver where
  newTarget : String → Except Error Target
  isSSHID : Target → Bool
  splitSSHID : Target → Except Error (String × String)

structure Client where
  getDevice : String → Except Error Device
  deviceLookup : Lookup → Device × List Error
  getPublicKey : String → String → Except Error Unit
  evaluateKey : String → Device → String → Bool × Option Error

-- `ssh.FingerprintLegacyMD5` and `ssh.NewPublicKey(&magickey.GetRerefence().PublicKey)`.
structure Keys (Key : Type) where
  fingerprintLegacyMD5 : Key → String
  magicPublicKey : Except Error Key

-- The value `ctx.Value(gliderssh.ContextKeyUser).(string)` recovers, if it is a string.
structure Context where
  user : Option String

inductive Call where
  | getDevice (uid : String)
  | deviceLookup (lookup : Lookup)
  | getPublicKey (fingerprint tenant : String)
  | evaluateKey (fingerprint : String) (device : Device) (username : String)
deriving DecidableEq, Repr

def Call.asksAboutKey : Call → Bool
  | .getPublicKey .. => true
  | .evaluateKey .. => true
  | _ => false

structure Verdict where
  accepted : Bool
  calls : List Call
  writes : List (String × String)
deriving DecidableEq, Repr

def reject (calls : List Call) : Verdict := ⟨false, calls, []⟩

def accept (calls : List Call) (fingerprint : String) : Verdict :=
  ⟨true, calls, [("public_key", fingerprint)]⟩

-- Lines 43 to 76: the lookup keys, from the SSHID itself or from the device fetched by UID.
def resolveLookup (api : Client) (resolver : Resolver) (tag : Target) : Except Error Lookup × List Call :=
  if resolver.isSSHID tag then
    match resolver.splitSSHID tag with
    | .error err => (.error err, [])
    | .ok (ns, hostname) => (.ok ⟨ns, hostname⟩, [])
  else
    match api.getDevice tag.data with
    | .error err => (.error err, [.getDevice tag.data])
    | .ok device => (.ok ⟨device.namespaceName, device.name⟩, [.getDevice tag.data])

-- Lines 109 to 130: the key must be registered for the tenant and evaluate to `(true, nil)`.
def evaluate (api : Client) (fingerprint : String) (device : Device) (username : String) :
    Bool × List Call :=
  match api.getPublicKey fingerprint device.tenantID with
  | .error _ => (false, [.getPublicKey fingerprint device.tenantID])
  | .ok _ =>
      let calls := [.getPublicKey fingerprint device.tenantID, .evaluateKey fingerprint device username]
      match api.evaluateKey fingerprint device username with
      | (true, none) => (true, calls)
      | _ => (false, calls)

-- Lines 97 to 139, once the device is known: the magic key skips the two key calls.
def checkKey {Key : Type} (api : Client) (keys : Keys Key) (fingerprint : String) (device : Device)
    (username : String) (calls : List Call) : Verdict :=
  match keys.magicPublicKey with
  | .error _ => reject calls
  | .ok magic =>
      if keys.fingerprintLegacyMD5 magic ≠ fingerprint then
        match evaluate api fingerprint device username with
        | (true, more) => accept (calls ++ more) fingerprint
        | (false, more) => reject (calls ++ more)
      else accept calls fingerprint

def publicKey {Key : Type} (api : Client) (resolver : Resolver) (keys : Keys Key) (ctx : Context)
    (pubKey : Key) : Verdict :=
  match ctx.user with
  | none => reject []
  | some sshid =>
      match resolver.newTarget sshid with
      | .error _ => reject []
      | .ok tag =>
          match resolveLookup api resolver tag with
          | (.error _, calls) => reject calls
          | (.ok lookup, calls) =>
              match api.deviceLookup lookup with
              | (device, errs) =>
                  if 0 < errs.length then reject (calls ++ [.deviceLookup lookup])
                  else checkKey api keys (keys.fingerprintLegacyMD5 pubKey) device tag.username
                    (calls ++ [.deviceLookup lookup])

def Resolves (api : Client) (resolver : Resolver) (tag : Target) (lookup : Lookup) : Prop :=
  if resolver.isSSHID tag then
    ∃ ns hostname, resolver.splitSSHID tag = .ok (ns, hostname) ∧ lookup = ⟨ns, hostname⟩
  else ∃ device, api.getDevice tag.data = .ok device ∧ lookup = ⟨device.namespaceName, device.name⟩

theorem resolve_lookup_ok (api : Client) (resolver : Resolver) (tag : Target) (lookup : Lookup) :
    (resolveLookup api resolver tag).1 = .ok lookup ↔ Resolves api resolver tag lookup := by
  unfold resolveLookup Resolves
  split
  · split <;> rename_i outcome <;> simp [outcome, and_assoc, eq_comm]
  · split <;> rename_i outcome <;> simp [outcome, and_assoc, eq_comm]

theorem resolve_lookup_calls (api : Client) (resolver : Resolver) (tag : Target) :
    ∀ call ∈ (resolveLookup api resolver tag).2, call.asksAboutKey = false := by
  unfold resolveLookup
  split
  · split <;> simp
  · split <;> simp [Call.asksAboutKey]

theorem evaluate_accepts (api : Client) (fingerprint : String) (device : Device) (username : String) :
    (evaluate api fingerprint device username).1 = true ↔
      api.getPublicKey fingerprint device.tenantID = .ok () ∧
        api.evaluateKey fingerprint device username = (true, none) := by
  unfold evaluate
  split
  · simp_all
  · rename_i registered
    split <;> simp_all

section CheckKey

variable {Key : Type} (api : Client) (keys : Keys Key) (fingerprint : String) (device : Device)
  (username : String) (calls : List Call)

theorem check_key_accepts :
    (checkKey api keys fingerprint device username calls).accepted = true ↔
      ∃ magic, keys.magicPublicKey = .ok magic ∧ (keys.fingerprintLegacyMD5 magic = fingerprint ∨
        api.getPublicKey fingerprint device.tenantID = .ok () ∧
          api.evaluateKey fingerprint device username = (true, none)) := by
  unfold checkKey
  split
  · simp_all [reject]
  · rename_i magic known
    by_cases same : keys.fingerprintLegacyMD5 magic = fingerprint
    · simp [same, known, accept]
    · rw [if_pos same, ← evaluate_accepts]
      split <;> simp_all [accept, reject]

theorem check_key_writes :
    (checkKey api keys fingerprint device username calls).writes =
      if (checkKey api keys fingerprint device username calls).accepted then [("public_key", fingerprint)]
      else [] := by
  unfold checkKey
  split
  · rfl
  · split
    · split <;> rfl
    · rfl

theorem check_key_calls (quiet : ∀ call ∈ calls, call.asksAboutKey = false) :
    ∀ call ∈ (checkKey api keys fingerprint device username calls).calls, call.asksAboutKey = true →
      ∃ magic, keys.magicPublicKey = .ok magic ∧ keys.fingerprintLegacyMD5 magic ≠ fingerprint := by
  intro call mem asks
  unfold checkKey at mem
  split at mem
  · simp_all [reject]
  · rename_i magic known
    by_cases same : keys.fingerprintLegacyMD5 magic = fingerprint
    · simp_all [accept]
    · exact ⟨magic, known, same⟩

end CheckKey

def ResolvedDevice (api : Client) (resolver : Resolver) (ctx : Context) (tag : Target)
    (device : Device) : Prop :=
  ∃ sshid lookup, ctx.user = some sshid ∧ resolver.newTarget sshid = .ok tag ∧
    Resolves api resolver tag lookup ∧ api.deviceLookup lookup = (device, [])

theorem resolved_device_unique (api : Client) (resolver : Resolver) (ctx : Context) (tag tag' : Target)
    (device device' : Device) (first : ResolvedDevice api resolver ctx tag device)
    (second : ResolvedDevice api resolver ctx tag' device') : tag = tag' ∧ device = device' := by
  obtain ⟨sshid, lookup, user, target, resolves, found⟩ := first
  obtain ⟨sshid', lookup', user', target', resolves', found'⟩ := second
  obtain rfl : sshid = sshid' := Option.some.inj (user.symm.trans user')
  obtain rfl : tag = tag' := Except.ok.inj (target.symm.trans target')
  rw [← resolve_lookup_ok] at resolves resolves'
  obtain rfl : lookup = lookup' := Except.ok.inj (resolves.symm.trans resolves')
  exact ⟨rfl, (Prod.mk.inj (found.symm.trans found')).1⟩

theorem public_key_stages {Key : Type} (api : Client) (resolver : Resolver) (keys : Keys Key)
    (ctx : Context) (pubKey : Key) :
    (∃ calls, publicKey api resolver keys ctx pubKey = reject calls ∧
        (∀ call ∈ calls, call.asksAboutKey = false) ∧
        ∀ tag device, ¬ ResolvedDevice api resolver ctx tag device) ∨
      ∃ tag device calls, ResolvedDevice api resolver ctx tag device ∧
        (∀ call ∈ calls, call.asksAboutKey = false) ∧
        publicKey api resolver keys ctx pubKey =
          checkKey api keys (keys.fingerprintLegacyMD5 pubKey) device tag.username calls := by
  cases user : ctx.user with
  | none => exact .inl ⟨[], by simp [publicKey, user], by simp, by simp [ResolvedDevice, user]⟩
  | some sshid =>
    cases target : resolver.newTarget sshid with
    | error err =>
      exact .inl ⟨[], by simp [publicKey, user, target], by simp, by simp [ResolvedDevice, user, target]⟩
    | ok tag =>
      have quiet := resolve_lookup_calls api resolver tag
      rcases resolved : resolveLookup api resolver tag with ⟨_ | lookup, calls⟩
      · refine .inl ⟨calls, by simp [publicKey, user, target, resolved], by simpa [resolved] using quiet,
          fun _ _ ⟨_, _, user', target', resolves', _⟩ => ?_⟩
        cases user.symm.trans user'
        cases target.symm.trans target'
        simp [← resolve_lookup_ok, resolved] at resolves'
      · have resolves : Resolves api resolver tag lookup := by rw [← resolve_lookup_ok, resolved]
        have prefixQuiet : ∀ call ∈ calls ++ [.deviceLookup lookup], call.asksAboutKey = false := by
          simpa [resolved, or_imp, forall_and, Call.asksAboutKey] using quiet
        rcases found : api.deviceLookup lookup with ⟨device, _ | ⟨err, errs⟩⟩
        · exact .inr ⟨tag, device, _, ⟨sshid, lookup, user, target, resolves, found⟩, prefixQuiet,
            by simp [publicKey, user, target, resolved, found]⟩
        · refine .inl ⟨_, by simp [publicKey, user, target, resolved, found], prefixQuiet,
            fun _ _ ⟨_, _, user', target', resolves', found'⟩ => ?_⟩
          cases user.symm.trans user'
          cases target.symm.trans target'
          simp only [← resolve_lookup_ok, resolved, Except.ok.injEq] at resolves'
          simp [← resolves', found] at found'

theorem public_key_fail_closed {Key : Type} (api : Client) (resolver : Resolver) (keys : Keys Key)
    (ctx : Context) (pubKey : Key) :
    let verdict := publicKey api resolver keys ctx pubKey
    let fingerprint := keys.fingerprintLegacyMD5 pubKey
    (verdict.accepted = true ↔
      ∃ sshid tag lookup device magic, ctx.user = some sshid ∧ resolver.newTarget sshid = .ok tag ∧
        Resolves api resolver tag lookup ∧ api.deviceLookup lookup = (device, []) ∧
        keys.magicPublicKey = .ok magic ∧
        (keys.fingerprintLegacyMD5 magic = fingerprint ∨
          api.getPublicKey fingerprint device.tenantID = .ok () ∧
            api.evaluateKey fingerprint device tag.username = (true, none))) ∧
    (∀ call ∈ verdict.calls, call.asksAboutKey = true →
      ∃ magic, keys.magicPublicKey = .ok magic ∧ keys.fingerprintLegacyMD5 magic ≠ fingerprint) ∧
    verdict.writes = if verdict.accepted then [("public_key", fingerprint)] else [] := by
  intro verdict fingerprint
  rcases public_key_stages api resolver keys ctx pubKey with
    ⟨calls, shape, quiet, unresolved⟩ | ⟨tag, device, calls, resolved, quiet, shape⟩
  · simp only [verdict, shape]
    refine ⟨?_, fun call mem asks => absurd asks (by simp [quiet call mem]), rfl⟩
    simp only [reject, Bool.false_eq_true, false_iff, not_exists, not_and]
    intro sshid tag lookup device _ user target resolves found
    exact absurd ⟨sshid, lookup, user, target, resolves, found⟩ (unresolved tag device)
  · simp only [verdict, shape]
    refine ⟨?_, check_key_calls _ _ _ _ _ _ quiet, check_key_writes _ _ _ _ _ _⟩
    rw [check_key_accepts]
    constructor
    · rintro ⟨magic, known, keyed⟩
      obtain ⟨sshid, lookup, user, target, resolves, found⟩ := resolved
      exact ⟨sshid, tag, lookup, device, magic, user, target, resolves, found, known, keyed⟩
    · rintro ⟨sshid, tag', lookup, device', magic, user, target, resolves, found, known, keyed⟩
      obtain ⟨rfl, rfl⟩ :=
        resolved_device_unique api resolver ctx _ _ _ _ resolved ⟨sshid, lookup, user, target, resolves, found⟩
      exact ⟨magic, known, keyed⟩

end ShellHub.Auth
