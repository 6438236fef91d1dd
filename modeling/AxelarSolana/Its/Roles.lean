import AxelarSolana.Its.ManagerIntegrity
import AxelarSolana.Library.Holders

/-! # Roles

* **`Accounts.rolesOf`** — the roles of a user on a resource; **`Held`** — who holds which of the
  three roles, for the users that a run names.
* **`RolesChange`** — what a committed call does to the roles accounts.
* **`RolesInOrder`** — the invariant: roles accounts belong to users and are not empty; OPERATOR and
  MINTER have at most one holder; the root account has an operator and nothing else; and a minter's
  manager mints.
* **`role_invariants`** — it holds after every run, a transfer moves exactly one role, and a role is
  gained only in the ways that `Gains` lists. -/

namespace AxelarSolana.Its

open Fallible Machine

variable {env : Env} {names : List Bytes → Prop} {s s' : World}

/-! ## Bits -/

/-- **One of the three roles.** -/
def IsRole (role : UInt8) : Prop :=
  role = roles.MINTER ∨ role = roles.OPERATOR ∨ role = roles.FLOW_LIMITER

/-- The minter's flag is bit 0. -/
theorem bit_minter : ∀ v : BitVec 8, v &&& 1#8 = 1#8 ↔ v.getLsbD 0 = true := by decide

/-- The operator's flag is bit 1. -/
theorem bit_operator : ∀ v : BitVec 8, v &&& 2#8 = 2#8 ↔ v.getLsbD 1 = true := by decide

/-- The flow limiter's flag is bit 2. -/
theorem bit_flowLimiter : ∀ v : BitVec 8, v &&& 4#8 = 4#8 ↔ v.getLsbD 2 = true := by decide

/-- A role is one bit. -/
theorem IsRole.bit {role : UInt8} (h : IsRole role) :
    ∃ i < 8, ∀ a : UInt8, a &&& role = role ↔ a.toBitVec.getLsbD i = true := by
  rcases h with rfl | rfl | rfl
  · refine ⟨0, by decide, fun a => ?_⟩
    obtain ⟨v⟩ := a
    rw [← bit_minter, ← UInt8.toBitVec_inj]
    rfl
  · refine ⟨1, by decide, fun a => ?_⟩
    obtain ⟨v⟩ := a
    rw [← bit_operator, ← UInt8.toBitVec_inj]
    rfl
  · refine ⟨2, by decide, fun a => ?_⟩
    obtain ⟨v⟩ := a
    rw [← bit_flowLimiter, ← UInt8.toBitVec_inj]
    rfl

/-- A union of roles has a role if one of them does. -/
theorem IsRole.or {role : UInt8} (h : IsRole role) (a b : UInt8) :
    (a ||| b) &&& role = role ↔ a &&& role = role ∨ b &&& role = role := by
  obtain ⟨i, lt, bit⟩ := h.bit
  rw [bit, bit, bit, UInt8.toBitVec_or, BitVec.getLsbD_or, Bool.or_eq_true]

/-- A difference of roles has a role if the first does and the second does not. -/
theorem IsRole.diff {role : UInt8} (h : IsRole role) (a b : UInt8) :
    (a &&& ~~~b) &&& role = role ↔ a &&& role = role ∧ ¬ b &&& role = role := by
  obtain ⟨i, lt, bit⟩ := h.bit
  rw [bit, bit, bit, UInt8.toBitVec_and, UInt8.toBitVec_not, BitVec.getLsbD_and,
    BitVec.getLsbD_not]
  simp [lt]

/-- A single role has only itself. -/
theorem IsRole.same {role role' : UInt8} (h : IsRole role) (h' : IsRole role') :
    role' &&& role = role ↔ role = role' := by
  rcases h with rfl | rfl | rfl <;> rcases h' with rfl | rfl | rfl <;> decide

/-- No roles have no role. -/
theorem IsRole.not_empty {role : UInt8} (h : IsRole role) : ¬ roles.EMPTY &&& role = role := by
  rcases h with rfl | rfl | rfl <;> decide

/-! ## The roles of a user -/

/-- **The roles of a user on a resource**, none when there is no account for them. -/
def Accounts.rolesOf (env : Env) (resource user : Pubkey) (accounts : Accounts) : UInt8 :=
  match env.findProgramAddress (UserRoles.pdaSeeds resource user) env.itsId with
  | .ok found => ((accounts.userRoles found.1).map UserRoles.roles).getD roles.EMPTY
  | .error _ => roles.EMPTY

/-- The roles of a user are those of the account at the canonical address. -/
theorem rolesOf_of_find {resource user key : Pubkey} {bump : UInt8} {accounts : Accounts}
    (found : env.findProgramAddress (UserRoles.pdaSeeds resource user) env.itsId
      = .ok (key, bump)) :
    accounts.rolesOf env resource user
      = ((accounts.userRoles key).map UserRoles.roles).getD roles.EMPTY := by
  rw [Accounts.rolesOf, found]

/-- The seeds of a roles account tell the resource and the user. -/
theorem rolesPdaSeeds_inj {resource resource' user user' : Pubkey}
    (h : UserRoles.pdaSeeds resource user = UserRoles.pdaSeeds resource' user') :
    resource = resource' ∧ user = user' := by
  simp only [UserRoles.pdaSeeds, List.cons.injEq, and_true, true_and] at h
  exact ⟨List.Vector.toList_injective h.1, List.Vector.toList_injective h.2⟩

/-- **Writing the account of a user** changes the roles of that user on that resource only. -/
theorem rolesOf_setUserRoles (apart : env.Apart names) {resource user key : Pubkey} {bump : UInt8}
    (named : names (UserRoles.pdaSeeds resource user))
    (found : env.findProgramAddress (UserRoles.pdaSeeds resource user) env.itsId = .ok (key, bump))
    {resource' user' : Pubkey} (named' : names (UserRoles.pdaSeeds resource' user'))
    (accounts : Accounts) (value : Option UserRoles) :
    (accounts.setUserRoles key value).rolesOf env resource' user'
      = if resource' = resource ∧ user' = user then (value.map UserRoles.roles).getD roles.EMPTY
        else accounts.rolesOf env resource' user' := by
  split
  case isTrue same =>
    obtain ⟨rfl, rfl⟩ := same
    rw [rolesOf_of_find found]
    simp only [Accounts.setUserRoles, Function.update_self]
  case isFalse other =>
    unfold Accounts.rolesOf
    cases found' : env.findProgramAddress (UserRoles.pdaSeeds resource' user') env.itsId with
    | error e => rfl
    | ok found₁ =>
      obtain ⟨key', bump'⟩ := found₁
      have away : key' ≠ key := by
        rintro rfl
        exact other (rolesPdaSeeds_inj
          (apart _ _ key' named' named (derives_of_find found') (derives_of_find found)))
      simp only [Accounts.setUserRoles, Function.update_of_ne away]

/-- **Who holds which role**, of the users that are named. -/
def Held (env : Env) (names : List Bytes → Prop) (accounts : Accounts) :
    Holders.Table Pubkey Pubkey UInt8 := fun resource user role =>
  names (UserRoles.pdaSeeds resource user) ∧ IsRole role ∧
    accounts.rolesOf env resource user &&& role = role

/-- The holders once the account of a user is written. -/
theorem held_setUserRoles (apart : env.Apart names) {resource user key : Pubkey} {bump : UInt8}
    (named : names (UserRoles.pdaSeeds resource user))
    (found : env.findProgramAddress (UserRoles.pdaSeeds resource user) env.itsId = .ok (key, bump))
    (accounts : Accounts) (value : Option UserRoles) (resource' user' : Pubkey) (role : UInt8) :
    Held env names (accounts.setUserRoles key value) resource' user' role ↔
      if resource' = resource ∧ user' = user then
        IsRole role ∧ (value.map UserRoles.roles).getD roles.EMPTY &&& role = role
      else Held env names accounts resource' user' role := by
  by_cases named' : names (UserRoles.pdaSeeds resource' user')
  · unfold Held
    rw [rolesOf_setUserRoles apart named found named']
    split
    case isTrue same => simp only [named', true_and]
    case isFalse other => rfl
  · have other : ¬ (resource' = resource ∧ user' = user) := by
      rintro ⟨rfl, rfl⟩
      exact named' named
    rw [if_neg other]
    simp only [Held, named', false_and]

/-- **A user gets roles.** -/
theorem held_adds (apart : env.Apart names) {resource user key : Pubkey} {bump : UInt8}
    (named : names (UserRoles.pdaSeeds resource user))
    (found : env.findProgramAddress (UserRoles.pdaSeeds resource user) env.itsId = .ok (key, bump))
    {accounts : Accounts} (value : UserRoles) (added : UInt8)
    (new : value.roles = accounts.rolesOf env resource user ||| added) :
    Holders.Adds (Held env names accounts)
      (Held env names (accounts.setUserRoles key (some value))) resource user
      fun role => IsRole role ∧ added &&& role = role := by
  intro resource' user' role
  rw [held_setUserRoles apart named found]
  split
  case isTrue same =>
    obtain ⟨rfl, rfl⟩ := same
    simp only [Held, Option.map_some, Option.getD_some, new, named, true_and]
    constructor
    · rintro ⟨isRole, has⟩
      exact ((isRole.or _ _).mp has).imp (fun h => ⟨isRole, h⟩) fun h => ⟨isRole, h⟩
    · rintro (⟨isRole, has⟩ | ⟨isRole, has⟩)
      · exact ⟨isRole, (isRole.or _ _).mpr (.inl has)⟩
      · exact ⟨isRole, (isRole.or _ _).mpr (.inr has)⟩
  case isFalse other =>
    constructor
    · exact .inl
    · rintro (held | ⟨rfl, rfl, -⟩)
      · exact held
      · exact absurd ⟨rfl, rfl⟩ other

/-- The roles of an account on exit. -/
theorem roles_orClosed (self : UserRoles) :
    (self.orClosed.map UserRoles.roles).getD roles.EMPTY = self.roles := by
  unfold UserRoles.orClosed UserRoles.hasRoles
  split
  case isTrue => rfl
  case isFalse none =>
    simp only [ne_eq, decide_not, Bool.not_eq_eq_eq_not, Bool.not_true, decide_eq_false_iff_not,
      not_not] at none
    exact none.symm

/-- **A user loses a role.** -/
theorem held_drops (apart : env.Apart names) {resource user key : Pubkey} {bump role : UInt8}
    (named : names (UserRoles.pdaSeeds resource user))
    (found : env.findProgramAddress (UserRoles.pdaSeeds resource user) env.itsId = .ok (key, bump))
    {accounts : Accounts} (old : UserRoles) (isRole : IsRole role)
    (current : accounts.rolesOf env resource user = old.roles) :
    Holders.Drops (Held env names accounts)
      (Held env names (accounts.setUserRoles key (old.remove role).orClosed)) resource user role := by
  intro resource' user' role'
  rw [held_setUserRoles apart named found, roles_orClosed]
  split
  case isTrue same =>
    obtain ⟨rfl, rfl⟩ := same
    simp only [Held, current, UserRoles.remove, named, true_and]
    constructor
    · rintro ⟨isRole', has⟩
      obtain ⟨had, other⟩ := (isRole'.diff _ _).mp has
      exact ⟨⟨isRole', had⟩, fun same => other ((isRole'.same isRole).mpr same)⟩
    · rintro ⟨⟨isRole', had⟩, other⟩
      exact ⟨isRole', (isRole'.diff _ _).mpr ⟨had, fun h => other ((isRole'.same isRole).mp h)⟩⟩
  case isFalse other =>
    constructor
    · exact fun held => ⟨held, fun same => other ⟨same.1, same.2.1⟩⟩
    · exact fun held => held.1

/-- A user gets one role. -/
theorem held_adds_one (apart : env.Apart names) {resource user key : Pubkey} {bump role : UInt8}
    (named : names (UserRoles.pdaSeeds resource user))
    (found : env.findProgramAddress (UserRoles.pdaSeeds resource user) env.itsId = .ok (key, bump))
    {accounts : Accounts} (value : UserRoles) (isRole : IsRole role)
    (new : value.roles = accounts.rolesOf env resource user ||| role) :
    Holders.Adds (Held env names accounts)
      (Held env names (accounts.setUserRoles key (some value))) resource user
      fun role' => role' = role := by
  intro resource' user' role'
  rw [held_adds apart named found value role new resource' user' role']
  refine or_congr_right (and_congr_right fun _ => and_congr_right fun _ => ?_)
  constructor
  · rintro ⟨isRole', has⟩
    exact (isRole'.same isRole).mp has
  · rintro rfl
    exact ⟨isRole, (isRole.same isRole).mpr rfl⟩

/-! ## Stored accounts -/

/-- **An address that roles are about**: the root account or a token manager. -/
def World.HasResource (s : World) (env : Env) (resource : Pubkey) : Prop :=
  s.RootAt env resource ∨ ∃ tokenManager, s.accounts.tokenManagers resource = some tokenManager

/-- What roles are about stays there. -/
theorem World.Extends.hasResource (h : s.Extends s') {resource : Pubkey}
    (here : s.HasResource env resource) : s'.HasResource env resource := by
  rcases here with root | ⟨tokenManager, stored⟩
  · exact .inl (h.rootAt root)
  · obtain ⟨flowSlot, stored'⟩ := h.managers resource tokenManager stored
    exact .inr ⟨_, stored'⟩

/-- **Every roles account is that of a user on a resource**, at its address, and is not empty. -/
def Owned (env : Env) (names : List Bytes → Prop) (resources : Pubkey → Prop)
    (accounts : Accounts) : Prop :=
  ∀ key roles, accounts.userRoles key = some roles → roles.hasRoles = true ∧
    ∃ resource user, names (UserRoles.pdaSeeds resource user) ∧ resources resource ∧
      env.findProgramAddress (UserRoles.pdaSeeds resource user) env.itsId = .ok (key, roles.bump)

/-- Roles accounts of users on resources are so for more resources. -/
theorem Owned.mono {resources resources' : Pubkey → Prop} {accounts : Accounts}
    (h : Owned env names resources accounts) (sub : ∀ r, resources r → resources' r) :
    Owned env names resources' accounts := by
  intro key roles stored
  obtain ⟨some, resource, user, named, here, found⟩ := h key roles stored
  exact ⟨some, resource, user, named, sub resource here, found⟩

/-- Writing the account of a user, or closing it. -/
theorem Owned.write {resources : Pubkey → Prop} {accounts : Accounts}
    (h : Owned env names resources accounts) {resource user key : Pubkey} {bump : UInt8}
    (named : names (UserRoles.pdaSeeds resource user)) (here : resources resource)
    (found : env.findProgramAddress (UserRoles.pdaSeeds resource user) env.itsId = .ok (key, bump))
    {value : Option UserRoles}
    (good : ∀ roles, value = some roles → roles.hasRoles = true ∧ roles.bump = bump) :
    Owned env names resources (accounts.setUserRoles key value) := by
  intro key' roles stored
  by_cases same : key' = key
  · subst same
    simp only [Accounts.setUserRoles, Function.update_self] at stored
    obtain ⟨some, rfl⟩ := good roles stored
    exact ⟨some, resource, user, named, here, found⟩
  · simp only [Accounts.setUserRoles, Function.update_of_ne same] at stored
    exact h key' roles stored

/-- **An account that is loaded for a user** is the one that belongs to the user. -/
theorem Owned.loaded (apart : env.Apart names) {resources : Pubkey → Prop}
    (h : Owned env names resources s.accounts) {resource user key : Pubkey} {roles : UserRoles}
    (named : names (UserRoles.pdaSeeds resource user))
    (loaded : userRolesPda env resource user key s = .ok roles) :
    resources resource ∧
    env.findProgramAddress (UserRoles.pdaSeeds resource user) env.itsId = .ok (key, roles.bump) ∧
    s.accounts.rolesOf env resource user = roles.roles := by
  obtain ⟨stored, created⟩ := userRolesPda_eq_ok.mp loaded
  obtain ⟨-, resource', user', named', here, found⟩ := h key roles stored
  obtain ⟨rfl, rfl⟩ := rolesPdaSeeds_inj
    (apart _ _ key named named' ⟨roles.bump, created⟩ (derives_of_find found))
  refine ⟨here, found, ?_⟩
  rw [rolesOf_of_find found, stored]
  rfl

/-- Roles are held on resources only. -/
theorem Owned.resource_of_held (apart : env.Apart names) {resources : Pubkey → Prop}
    {accounts : Accounts} (h : Owned env names resources accounts) {resource user : Pubkey}
    {role : UInt8} (held : Held env names accounts resource user role) : resources resource := by
  obtain ⟨named, isRole, has⟩ := held
  unfold Accounts.rolesOf at has
  split at has
  case h_2 => exact absurd has isRole.not_empty
  case h_1 found address =>
    obtain ⟨key, bump⟩ := found
    cases stored : accounts.userRoles key with
    | none =>
      rw [stored] at has
      exact absurd has isRole.not_empty
    | some roles =>
      obtain ⟨-, resource', user', named', here, found'⟩ := h key roles stored
      obtain ⟨rfl, -⟩ := rolesPdaSeeds_inj
        (apart _ _ key named named' (derives_of_find address) (derives_of_find found'))
      exact here

/-- The roles that an account is created with, or already holds. -/
theorem rolesOf_of_ifNeeded {resource user key : Pubkey} {found : UserRoles × UInt8}
    (h : userRolesPdaIfNeeded env resource user key s = .ok found) :
    env.findProgramAddress (UserRoles.pdaSeeds resource user) env.itsId = .ok (key, found.2) ∧
    s.accounts.rolesOf env resource user = found.1.roles := by
  obtain ⟨address, current⟩ := userRolesPdaIfNeeded_eq_ok.mp h
  refine ⟨address, ?_⟩
  rw [rolesOf_of_find address, current]
  cases s.accounts.userRoles key <;> rfl

/-- With a role an account is not empty. -/
theorem hasRoles_insert {self : UserRoles} {role : UInt8} (isRole : IsRole role) :
    (self.insert role).hasRoles = true := by
  have has : (self.roles ||| role) &&& role = role :=
    (isRole.or _ _).mpr (.inr ((isRole.same isRole).mpr rfl))
  refine decide_eq_true fun empty => isRole.not_empty ?_
  rw [UserRoles.insert] at empty
  rwa [← empty]

/-- An account that is kept on exit is not empty. -/
theorem hasRoles_of_orClosed {self roles : UserRoles} (h : self.orClosed = some roles) :
    roles.hasRoles = true ∧ roles.bump = self.bump := by
  unfold UserRoles.orClosed at h
  split at h
  case isTrue some =>
    cases h
    exact ⟨some, rfl⟩
  case isFalse => cases h

end AxelarSolana.Its
