import AxelarSolana.Its.Roles

/-! # Role invariants

* **`RunNames`** — the seeds that a run speaks about.
* **`HeldChange`**, **`RolesChange`** — what a committed call does to the holders of roles;
  **`StepCases.roles`**.
* **`RolesInOrder`** — the invariant: roles accounts belong to users and are not empty; OPERATOR and
  MINTER have at most one holder; the root account has an operator and nothing else; and the manager
  of a minter mints.
* **`role_invariants`** — it holds after every run, a transfer moves exactly one role, and a role is
  gained only in the ways that `Gains` lists. -/

namespace AxelarSolana.Its

open Fallible Machine

variable {env : Env} {names : List Bytes → Prop} {s s' : World}

/-! ## Names -/

/-- The pairs of a resource and a user whose roles accounts an instruction is given. -/
def ItsInstruction.rolePairs (i : ItsInstruction) : List (Pubkey × Pubkey) :=
  match i.roleTransfer? with
  | some (_, resource, a) => [(resource, a.origin.key), (resource, a.destination)]
  | none =>
    match i with
    | .addTokenManagerFlowLimiter a => [(a.tokenManagerPda, a.authorityUserAccount.key),
        (a.tokenManagerPda, a.targetUserAccount)]
    | .removeTokenManagerFlowLimiter a => [(a.tokenManagerPda, a.authorityUserAccount.key),
        (a.tokenManagerPda, a.targetUserAccount)]
    | .handoverMintAuthority a _ => [(a.tokenManager, a.authority.key)]
    | _ => []

/-- The instruction of the program that a call makes. -/
def Call.instruction? : Call env → Option ItsInstruction
  | .instruction _ i _ => some i
  | .external _ _ => none

/-- **The seeds that a run speaks about**: those of its last world, and those of the roles accounts
that are created in it or given to one of its calls. -/
inductive RunNames (env : Env) (tr : List (Transition World (Call env))) (s : World) :
    List Bytes → Prop
  | world (seeds : List Bytes) (named : s.Names env seeds) : RunNames env tr s seeds
  | created (entry : LogEntry) (key resource user : Pubkey) (roles : UserRoles)
      (mem : entry ∈ s.log) (event : entry.event = .userRolesCreated key resource user roles) :
      RunNames env tr s (UserRoles.pdaSeeds resource user)
  | given (t : Transition World (Call env)) (i : ItsInstruction) (resource user : Pubkey)
      (mem : t ∈ tr) (called : t.call.instruction? = some i)
      (pair : (resource, user) ∈ i.rolePairs) :
      RunNames env tr s (UserRoles.pdaSeeds resource user)

/-- A longer run speaks about the same seeds, too. -/
theorem RunNames.mono {tr tr' : List (Transition World (Call env))} {seeds : List Bytes}
    (h : RunNames env tr s seeds) (sub : tr ⊆ tr') (ext : s.Extends s') :
    RunNames env tr' s' seeds := by
  cases h with
  | world seeds named => exact .world seeds (ext.names named)
  | created entry key resource user roles mem event =>
    exact .created entry key resource user roles (ext.log.subset mem) event
  | given t i resource user mem called pair => exact .given t i resource user (sub mem) called pair

/-! ## What a call does to the holders -/

/-- **What a call does to the holders of roles**, once the root account exists. -/
inductive HeldChange (env : Env) (names : List Bytes → Prop) (s : World) (call : Call env)
    (s' : World) : Prop
  | keeps (same : s'.accounts.userRoles = s.accounts.userRoles)
  | registers (key user : Pubkey) (tokenManager : TokenManager)
      (absent : s.accounts.tokenManagers key = none)
      (stored : s'.accounts.tokenManagers key = some tokenManager)
      (adds : Holders.Adds (Held env names s.accounts) (Held env names s'.accounts) key user
        fun role => IsRole role ∧ registrationRoles tokenManager.ty &&& role = role)
  | moves (i : ItsInstruction) (role : UInt8) (resource : Pubkey) (a : TransferRole)
      (called : call.instruction? = some i) (transfer : i.roleTransfer? = some (role, resource, a))
      (here : s.RootAt env resource ∧ role = roles.OPERATOR ∨
        ∃ tokenManager, s.accounts.tokenManagers resource = some tokenManager)
      (signed : a.origin.isSigner = true)
      (held : Held env names s.accounts resource a.origin.key role)
      (moves : Holders.Moves (Held env names s.accounts) (Held env names s'.accounts) resource role
        a.origin.key a.destination)
  | limits (a : AddTokenManagerFlowLimiter)
      (called : call.instruction? = some (.addTokenManagerFlowLimiter a))
      (stored : ∃ tokenManager, s.accounts.tokenManagers a.tokenManagerPda = some tokenManager)
      (signed : a.authorityUserAccount.isSigner = true)
      (operator : Held env names s.accounts a.tokenManagerPda a.authorityUserAccount.key
        roles.OPERATOR)
      (adds : Holders.Adds (Held env names s.accounts) (Held env names s'.accounts)
        a.tokenManagerPda a.targetUserAccount fun role => role = roles.FLOW_LIMITER)
  | unlimits (resource user : Pubkey)
      (drops : Holders.Drops (Held env names s.accounts) (Held env names s'.accounts) resource user
        roles.FLOW_LIMITER)
  | handsOver (a : HandoverMintAuthority) (tokenId : Bytes32) (tokenManager : TokenManager)
      (mint : Mint) (called : call.instruction? = some (.handoverMintAuthority a tokenId))
      (stored : s.accounts.tokenManagers a.tokenManager = some tokenManager)
      (type : tokenManager.ty = .mintBurn ∨ tokenManager.ty = .mintBurnFrom)
      (signed : a.authority.isSigner = true) (outside : env.SignsOutside a.authority.key)
      (minted : s.chain.tokens.mints tokenManager.tokenAddress = some mint)
      (authority : mint.mintAuthority = some a.authority.key)
      (reassigned : ∃ m, s'.chain.tokens.mints tokenManager.tokenAddress = some m ∧
        m.mintAuthority = some a.tokenManager)
      (adds : Holders.Adds (Held env names s.accounts) (Held env names s'.accounts)
        a.tokenManager a.authority.key fun role => role = roles.MINTER)

/-- **What a call does to the holders of roles.** -/
inductive RolesChange (env : Env) (names : List Bytes → Prop) (s : World) (call : Call env)
    (s' : World) : Prop
  | starts (rootKey user : Pubkey) (absent : s.accounts.root = none) (here : s'.RootAt env rootKey)
      (adds : Holders.Adds (Held env names s.accounts) (Held env names s'.accounts) rootKey user
        fun role => role = roles.OPERATOR)
  | changes (stays : s.accounts.root = none → s'.accounts.root = none)
      (change : HeldChange env names s call s')

/-- **What a call leaves of the roles accounts**, and what it does to the holders. -/
structure RolesStep (env : Env) (names : List Bytes → Prop) (s : World) (call : Call env)
    (s' : World) : Prop where
  owned : Owned env names (s'.HasResource env) s'.accounts
  change : RolesChange env names s call s'

section Steps

variable {call : Call env}

/-- Nobody has a role on an address that is neither the root account nor a token manager. -/
theorem not_held (apart : env.Apart names) (owned : Owned env names (s.HasResource env) s.accounts)
    {resource user : Pubkey} {role : UInt8} (noRoot : ¬ s.RootAt env resource)
    (noManager : s.accounts.tokenManagers resource = none) :
    ¬ Held env names s.accounts resource user role := by
  intro held
  rcases owned.resource_of_held apart held with root | ⟨tokenManager, stored⟩
  · exact noRoot root
  · cases noManager.symm.trans stored

/-- The roles accounts are left as they are. -/
theorem rolesStep_keeps (owned : Owned env names (s.HasResource env) s.accounts)
    (ext : s.Extends s') (same : s'.accounts.userRoles = s.accounts.userRoles)
    (stays : s.accounts.root = none → s'.accounts.root = none) :
    RolesStep env names s call s' where
  owned key roles stored := owned.mono (fun _ => ext.hasResource) key roles (same ▸ stored)
  change := .changes stays (.keeps same)

/-- The roles of a fresh account. -/
theorem or_rolesOf_of_fresh {accounts : Accounts} {resource user key : Pubkey} {bump : UInt8}
    (fresh : accounts.userRoles key = none)
    (found : env.findProgramAddress (UserRoles.pdaSeeds resource user) env.itsId
      = .ok (key, bump)) (roles : UInt8) :
    roles = accounts.rolesOf env resource user ||| roles := by
  rw [rolesOf_of_find found, fresh]
  exact UInt8.zero_or.symm

/-- Only the accounts of the program count for a registration. -/
theorem Registered.congr {t : World} {key : Pubkey} {tokenManager : TokenManager}
    {granted : List LogEvent} (h : Registered env key tokenManager granted t s')
    (same : t.accounts = s.accounts) : Registered env key tokenManager granted s s' where
  manager := by
    obtain ⟨rootKey, root, loaded, new⟩ := h.manager
    exact ⟨rootKey, root, (itsRootPda_congr same).symm.trans loaded,
      (newTokenManagerPda_congr same).symm.trans new⟩
  flowSlot := h.flowSlot
  accounts := same ▸ h.accounts

/-- A manager is registered with the roles of a user. -/
theorem Registered.rolesStep (apart : env.Apart names)
    (owned : Owned env names (s.HasResource env) s.accounts) (ext : s.Extends s') {key : Pubkey}
    {tokenManager : TokenManager} {granted : List LogEvent}
    (h : Registered env key tokenManager granted s s')
    (named : ∀ key resource user roles, LogEvent.userRolesCreated key resource user roles ∈ granted →
      names (UserRoles.pdaSeeds resource user)) : RolesStep env names s call s' := by
  obtain ⟨rootKey, root, loaded, new⟩ := h.manager
  have stays : s.accounts.root = none → s'.accounts.root = none := by
    intro absent
    cases absent.symm.trans (itsRootPda_eq_ok.mp loaded).1
  obtain ⟨accounts, grants, written⟩ := h.accounts
  cases grants with
  | nobody => exact rolesStep_keeps owned ext (by rw [written]; rfl) stays
  | user user k bump fresh address =>
    have name := named _ _ _ _ List.mem_cons_self
    have some : registrationRoles tokenManager.ty ≠ roles.EMPTY := by
      cases tokenManager.ty <;> decide
    refine ⟨?_, .changes stays (.registers key user tokenManager
      (newTokenManagerPda_eq_ok.mp new).1 h.stored ?_)⟩
    · rw [written]
      refine (owned.mono fun _ => ext.hasResource).write name (.inr ⟨tokenManager, h.stored⟩) address ?_
      rintro roles ⟨rfl⟩
      exact ⟨decide_eq_true some, rfl⟩
    · rw [written]
      exact held_adds apart name address ⟨_, bump⟩ _ (or_rolesOf_of_fresh fresh address _)

/-- **A role that is moved** was held by its origin, and leaves the accounts of both. -/
theorem RoleMoved.holders (apart : env.Apart names) {resources : Pubkey → Prop}
    (owned : Owned env names resources s.accounts) {role : UInt8} {resource : Pubkey}
    {a : TransferRole} {origin : UserRoles} {destination : UserRoles × UInt8}
    (h : RoleMoved env role resource a origin destination s s') (isRole : IsRole role)
    (nameOrigin : names (UserRoles.pdaSeeds resource a.origin.key))
    (nameDestination : names (UserRoles.pdaSeeds resource a.destination)) :
    Owned env names resources s'.accounts ∧
    Held env names s.accounts resource a.origin.key role ∧
    Holders.Moves (Held env names s.accounts) (Held env names s'.accounts) resource role
      a.origin.key a.destination := by
  obtain ⟨here, foundOrigin, current⟩ := owned.loaded apart nameOrigin h.loaded
  obtain ⟨foundDestination, had⟩ := rolesOf_of_ifNeeded h.received
  have owned₁ : Owned env names resources
      (s.accounts.setUserRoles a.originRoles (origin.remove role).orClosed) :=
    owned.write nameOrigin here foundOrigin fun _ => hasRoles_of_orClosed
  have drops := held_drops apart nameOrigin foundOrigin origin isRole current
  -- the two accounts are different, so removing the role leaves the destination's account
  have kept : (s.accounts.setUserRoles a.originRoles (origin.remove role).orClosed).rolesOf env
      resource a.destination = destination.1.roles := by
    rw [rolesOf_setUserRoles apart nameOrigin foundOrigin nameDestination, if_neg fun both =>
      h.apart both.2, had]
  rw [h.accounts]
  refine ⟨owned₁.write nameDestination here foundDestination ?_, ⟨nameOrigin, isRole, ?_⟩,
    Holders.moves_of_drops_adds drops
      (held_adds_one apart nameDestination foundDestination _ isRole ?_)⟩
  · rintro roles ⟨rfl⟩
    exact ⟨hasRoles_insert isRole, rfl⟩
  · rw [current]
    exact of_decide_eq_true h.holds
  · rw [kept]
    rfl

/-- The role that an instruction transfers, with the accounts that it is given for it. -/
theorem isRole_of_transfer {i : ItsInstruction} {role : UInt8} {resource : Pubkey}
    {a : TransferRole} (h : i.roleTransfer? = some (role, resource, a)) : IsRole role ∧
    i.rolePairs = [(resource, a.origin.key), (resource, a.destination)] := by
  refine ⟨?_, ?_⟩
  · cases i <;> cases h
    · exact .inr (.inl rfl)
    · exact .inr (.inl rfl)
    · exact .inl rfl
  · unfold ItsInstruction.rolePairs
    rw [h]

/-- A role is moved. -/
theorem RoleMoved.rolesStep (apart : env.Apart names)
    (owned : Owned env names (s.HasResource env) s.accounts) (ext : s.Extends s')
    {i : ItsInstruction} {role : UInt8} {resource : Pubkey} {a : TransferRole}
    {origin : UserRoles} {destination : UserRoles × UInt8}
    (h : RoleMoved env role resource a origin destination s s')
    (called : call.instruction? = some i)
    (transfer : i.roleTransfer? = some (role, resource, a))
    (named : ∀ user, (resource, user) ∈ i.rolePairs → names (UserRoles.pdaSeeds resource user))
    (here : s.RootAt env resource ∧ role = roles.OPERATOR ∨
      ∃ tokenManager, s.accounts.tokenManagers resource = some tokenManager)
    (stays : s.accounts.root = none → s'.accounts.root = none) : RolesStep env names s call s' := by
  obtain ⟨isRole, pairs⟩ := isRole_of_transfer transfer
  obtain ⟨owned', held, moves⟩ := h.holders apart owned isRole (named a.origin.key (by simp [pairs]))
    (named a.destination (by simp [pairs]))
  exact ⟨owned'.mono fun _ => ext.hasResource,
    .changes stays (.moves i role resource a called transfer here h.signed held moves)⟩

/-- The root account that is loaded is at its address. -/
theorem rootAt_of_loaded {rootKey : Pubkey} {root : InterchainTokenService}
    (h : itsRootPda env rootKey s = .ok root) : s.RootAt env rootKey :=
  ⟨root, itsRootPda_eq_ok.mp h⟩

/-- **An instruction called from outside** and the roles. -/
theorem Effect.rolesStep (laws : TokenLaws env.tokens) (apart : env.Apart names)
    (owned : Owned env names (s.HasResource env) s.accounts) {sysvar : Sysvar} {i : ItsInstruction}
    {l : List LogEvent} (h : Effect env sysvar s i l s') (ext : s.Extends s')
    (outside : ∀ key ∈ i.signers, env.SignsOutside key)
    (created : ∀ key resource user roles, LogEvent.userRolesCreated key resource user roles ∈ l →
      names (UserRoles.pdaSeeds resource user))
    (given : ∀ resource user, (resource, user) ∈ i.rolePairs →
      names (UserRoles.pdaSeeds resource user)) :
    RolesStep env names s (.instruction sysvar i outside) s' := by
  cases h with
  | initialises a chainName itsHubAddress bump rolesBump rootLen s' fresh address granted accounts =>
    obtain ⟨absent, found⟩ := newUserRolesPda_eq_ok.mp granted
    have name := created _ _ _ _ List.mem_cons_self
    -- the root account is at its address, so the operator's account is one of a resource
    have here : s'.RootAt env a.itsRootPda := by
      refine ⟨InterchainTokenService.new bump chainName itsHubAddress, by rw [accounts]; rfl, ?_⟩
      exact env.createProgramAddress_of_find address
    refine ⟨?_, .starts a.itsRootPda a.operator.key fresh here ?_⟩
    · rw [accounts]
      refine (owned.mono fun _ => ext.hasResource).write name (.inl here) found ?_
      rintro roles ⟨rfl⟩
      exact ⟨rfl, rfl⟩
    · rw [accounts]
      exact held_adds_one apart name found ⟨_, rolesBump⟩ (.inr (.inl rfl))
        (or_rolesOf_of_fresh absent found _)
  | pauses a paused root rootLen s' stored accounts =>
    exact rolesStep_keeps owned ext (by rw [accounts]; rfl) fun absent => by
      cases absent.symm.trans stored
  | trusts a chainName root rootLen s' stored absent accounts =>
    exact rolesStep_keeps owned ext (by rw [accounts]; rfl) fun absent => by
      cases absent.symm.trans stored
  | distrusts a chainName root rootLen s' stored present accounts =>
    exact rolesStep_keeps owned ext (by rw [accounts]; rfl) fun absent => by
      cases absent.symm.trans stored
  | limits i key tokenManager flowLimit s' names stored accounts =>
    exact rolesStep_keeps owned ext (by rw [accounts]; rfl) fun absent => by rw [accounts]; exact absent
  | movesRootRole a t root origin destination s' transfer loaded moved =>
    exact moved.rolesStep apart owned ext rfl transfer (given a.resourceAccount)
      (.inl ⟨rootAt_of_loaded loaded, rfl⟩) fun absent => by rw [moved.accounts]; exact absent
  | movesRole i role resource t tokenManager origin destination s' transfer stored moved =>
    exact moved.rolesStep apart owned ext rfl transfer (given resource) (.inr ⟨tokenManager, stored⟩)
      fun absent => by rw [moved.accounts]; exact absent
  | addsFlowLimiter a tokenManager authority target s' signed loaded operator stored received
      accounts =>
    -- the authority's account is loaded at the address of its seeds, so it tells the authority's
    -- roles
    have isRole : IsRole roles.FLOW_LIMITER := .inr (.inr rfl)
    have nameAuthority := given a.tokenManagerPda a.authorityUserAccount.key List.mem_cons_self
    have nameTarget := given a.tokenManagerPda a.targetUserAccount
      (List.mem_cons_of_mem _ List.mem_cons_self)
    obtain ⟨here, -, current⟩ := owned.loaded apart nameAuthority loaded
    obtain ⟨found, had⟩ := rolesOf_of_ifNeeded received
    refine ⟨?_, .changes (fun absent => by rw [accounts]; exact absent) (.limits a rfl
      ⟨tokenManager, stored⟩ signed ⟨nameAuthority, .inr (.inl rfl), ?_⟩ ?_)⟩
    · rw [accounts]
      refine (owned.mono fun _ => ext.hasResource).write nameTarget (ext.hasResource here) found ?_
      rintro roles ⟨rfl⟩
      exact ⟨hasRoles_insert isRole, rfl⟩
    · rw [current]
      exact of_decide_eq_true operator
    · rw [accounts]
      refine held_adds_one apart nameTarget found _ isRole ?_
      rw [had]
      rfl
  | removesFlowLimiter a tokenManager target s' stored loaded accounts =>
    have nameTarget := given a.tokenManagerPda a.targetUserAccount
      (List.mem_cons_of_mem _ List.mem_cons_self)
    obtain ⟨here, found, current⟩ := owned.loaded apart nameTarget loaded
    refine ⟨?_, .changes (fun absent => by rw [accounts]; exact absent) (.unlimits a.tokenManagerPda
      a.targetUserAccount ?_)⟩
    · rw [accounts]
      exact (owned.mono fun _ => ext.hasResource).write nameTarget (ext.hasResource here) found
        fun _ => hasRoles_of_orClosed
    · rw [accounts]
      exact held_drops apart nameTarget found target (.inr (.inr rfl)) current
  | handsOver a tokenId mint tokenManager minter s' handed =>
    -- the mint's authority goes to the manager, and the signer gets the minter's role for it
    have isRole : IsRole roles.MINTER := .inl rfl
    have name := given a.tokenManager a.authority.key List.mem_cons_self
    obtain ⟨root, -, manager⟩ := handed.manager
    have stored := (tokenManagerPda_eq_ok.mp manager).1
    obtain ⟨found, had⟩ := rolesOf_of_ifNeeded handed.loaded
    obtain ⟨m, minted, reassigned⟩ := laws.reassigned handed.called
    refine ⟨?_, .changes (fun absent => by rw [handed.accounts]; exact absent) (.handsOver a tokenId
      tokenManager mint rfl stored handed.type handed.signed ?_ (handed.address ▸ handed.minted)
      handed.authority ⟨m, handed.address ▸ minted, reassigned⟩ ?_)⟩
    · rw [handed.accounts]
      refine (owned.mono fun _ => ext.hasResource).write name
        (ext.hasResource (.inr ⟨tokenManager, stored⟩)) found ?_
      rintro roles ⟨rfl⟩
      exact ⟨hasRoles_insert isRole, rfl⟩
    · exact outside _ (mem_signersOfInfos.mpr ⟨a.authority, by simp, handed.signed, rfl⟩)
    · rw [handed.accounts]
      refine held_adds_one apart name found _ isRole ?_
      rw [had]
      rfl
  -- what only sends, registers or moves tokens leaves the roles of everybody
  | sends i message s' outbound noTransfer remote accounts =>
    exact rolesStep_keeps owned ext (by rw [accounts]) fun absent => by rw [accounts]; exact absent
  | registers i key tokenManager granted s' existing registered =>
    exact registered.rolesStep apart owned ext fun key resource user roles mem =>
      created key resource user roles (List.mem_cons_of_mem _ mem)
  | deploys a salt name symbol decimals initialSupply tokenManager granted t₁ t₂ t₃ s' native address
      deployed registered =>
    refine registered.rolesStep apart owned ext fun key resource user roles mem =>
      created key resource user roles ?_
    simp [mem]
  | transfers a tokenId destinationChain destinationAddress amount gasValue reported
      callerProgramId callerPdaSeeds data tokenManager tracked mint instruction sourceAddress after
      s' outbound accounts =>
    exact rolesStep_keeps owned ext (by rw [accounts]; rfl) fun absent => by rw [accounts]; exact absent
  | mints a amount tokenManager after s' stored address called accounts =>
    exact rolesStep_keeps owned ext (by rw [accounts]) fun absent => by rw [accounts]; exact absent

/-- **A message of the hub** and the roles. -/
theorem Received.rolesStep (apart : env.Apart names)
    (owned : Owned env names (s.HasResource env) s.accounts) {t : World} {sysvar : Sysvar}
    {outer : Execute} {message : Message} {sourceChain : String} {inner : Encoding.Message}
    {i : ItsInstruction} {l : List LogEvent}
    (h : Received env sysvar outer message sourceChain t inner i l s')
    (same : t.accounts = s.accounts) (ext : s.Extends s')
    (created : ∀ key resource user roles, LogEvent.userRolesCreated key resource user roles ∈ l →
      names (UserRoles.pdaSeeds resource user)) : RolesStep env names s call s' := by
  cases h with
  | transfer a transfer destination transferred tokenManager tracked mint instruction before after
      called s' manager parsed signers inbound calls accounts =>
    rw [same] at accounts
    exact rolesStep_keeps owned ext (by rw [accounts]; rfl) fun absent => by rw [accounts]; exact absent
  | deploy a deploy bump rolesBump after s' inbound registered =>
    exact (registered.congr same).rolesStep apart owned ext fun key resource user roles mem =>
      created key resource user roles (List.mem_cons_of_mem _ (List.mem_cons_of_mem _ mem))
  | link a link destinationTokenAddress ty bump rolesBump s' parsed inbound registered =>
    exact (registered.congr same).rolesStep apart owned ext fun key resource user roles mem =>
      created key resource user roles (List.mem_cons_of_mem _ mem)

/-- The seeds of the roles accounts that an instruction creates are named. -/
theorem Performs.created_named {ctx : Ctx} {l : List LogEvent} (h : Performs env ctx s l s')
    {tr : List (Transition World (Call env))}
    (named : ∀ seeds, RunNames env tr s' seeds → names seeds) {key resource user : Pubkey}
    {roles : UserRoles} (mem : LogEvent.userRolesCreated key resource user roles ∈ l) :
    names (UserRoles.pdaSeeds resource user) := by
  obtain ⟨entry, logged, event⟩ := h.mem_log mem
  exact named _ (.created entry key resource user roles logged event)

/-- **Every committed call** changes the roles in one of these ways. -/
theorem StepCases.roles (laws : TokenLaws env.tokens) (apart : env.Apart names)
    (h : StepCases env s call s') (named : ∀ seeds, RunNames env [⟨s, call, s'⟩] s' seeds → names seeds)
    (owned : Owned env names (s.HasResource env) s.accounts) : RolesStep env names s call s' := by
  have ext := h.extends
  cases h with
  | external call outside chain run => exact rolesStep_keeps owned ext rfl id
  | own sysvar i outside l s' notInner notExecute effect performs =>
    exact effect.rolesStep laws apart owned ext outside
      (fun key resource user roles mem => performs.created_named named mem)
      fun resource user pair => named _ (.given _ i resource user List.mem_cons_self rfl pair)
  | execute sysvar a message payload outside sourceChain inner gateway i l s' accepts received
      performs =>
    exact received.rolesStep apart owned rfl ext fun key resource user roles mem =>
      performs.created_named named mem

/-- **A committed transfer of a role**: the holder signs, and the role moves. -/
theorem StepCases.roleTransfer (apart : env.Apart names) (h : StepCases env s call s')
    (named : ∀ seeds, RunNames env [⟨s, call, s'⟩] s' seeds → names seeds)
    (owned : Owned env names (s.HasResource env) s.accounts) {i : ItsInstruction} {role : UInt8}
    {resource : Pubkey} {a : TransferRole} (called : call.instruction? = some i)
    (transfer : i.roleTransfer? = some (role, resource, a)) :
    a.origin.isSigner = true ∧ Held env names s.accounts resource a.origin.key role ∧
    Holders.Moves (Held env names s.accounts) (Held env names s'.accounts) resource role
      a.origin.key a.destination := by
  obtain ⟨isRole, pairs⟩ := isRole_of_transfer transfer
  have given : ∀ user, (resource, user) ∈ i.rolePairs → names (UserRoles.pdaSeeds resource user) :=
    fun user pair => named _ (.given _ i resource user List.mem_cons_self called pair)
  have nameOrigin := given a.origin.key (by simp [pairs])
  have nameDestination := given a.destination (by simp [pairs])
  -- whatever the resource is, the call is a transfer of the role from the origin's account
  have moved : ∃ origin destination, RoleMoved env role resource a origin destination s s' := by
    cases h with
    | external call outside chain run => cases called
    | execute sysvar a message payload outside sourceChain inner gateway i l s' accepts received
        performs =>
      cases called
      cases transfer
    | own sysvar i outside l s' notInner notExecute effect performs =>
      cases called
      cases effect with
      | movesRootRole a t root origin destination s' same loaded moved =>
        cases transfer
        cases same
        exact ⟨origin, destination, moved⟩
      | movesRole i role resource t tokenManager origin destination s' same stored moved =>
        cases same.symm.trans transfer
        exact ⟨origin, destination, moved⟩
      | limits i key tokenManager flowLimit s' limited stored accounts =>
        cases i <;> cases limited <;> cases transfer
      | sends i message s' outbound noTransfer remote accounts =>
        cases i <;> cases outbound <;> cases transfer
      | registers i key tokenManager granted s' existing registered =>
        cases i <;> cases existing <;> cases transfer
      | _ => cases transfer
  obtain ⟨origin, destination, moved⟩ := moved
  obtain ⟨-, held, moves⟩ := moved.holders apart owned isRole nameOrigin nameDestination
  exact ⟨moved.signed, held, moves⟩

end Steps

/-! ## The invariant -/

/-- **The roles are in order.** -/
structure RolesInOrder (env : Env) (names : List Bytes → Prop) (s : World) : Prop where
  owned : Owned env names (s.HasResource env) s.accounts
  operator : Holders.Unique (Held env names s.accounts) roles.OPERATOR
  minter : Holders.Unique (Held env names s.accounts) roles.MINTER
  placed : s.accounts.root ≠ none → ∃ rootKey, s.RootAt env rootKey
  root : ∀ rootKey, s.RootAt env rootKey →
    (∃ user, Held env names s.accounts rootKey user roles.OPERATOR) ∧
    ∀ user role, Held env names s.accounts rootKey user role → role = roles.OPERATOR
  minting : ∀ resource user, Held env names s.accounts resource user roles.MINTER →
    ∃ tokenManager, s.accounts.tokenManagers resource = some tokenManager ∧
      tokenManager.ty.mints = true ∧ (tokenManager.ty = .nativeInterchainToken ∨
        ∃ m, s.chain.tokens.mints tokenManager.tokenAddress = some m ∧
          m.mintAuthority = some resource)

/-- A token manager is not at the address of the root account. -/
theorem manager_not_root (apart : env.Apart names)
    (named : ∀ seeds, s.Names env seeds → names seeds) (managed : AllManaged env s) {key : Pubkey}
    (stored : ∃ tokenManager, s.accounts.tokenManagers key = some tokenManager) :
    ¬ s.RootAt env key := by
  rintro ⟨root, -, created⟩
  obtain ⟨tokenManager, stored⟩ := stored
  obtain ⟨rootKey, here, address, -⟩ := (managed key tokenManager stored).address
  have same := apart _ _ key (named _ (.tokenManager key rootKey tokenManager stored here))
    (named _ .root) (derives_of_find address) ⟨root.bump, created⟩
  cases same

/-- A token manager that is the authority of a mint stays it. -/
theorem StepCases.mintAuthority_kept (laws : TokenLaws env.tokens) (apart : env.Apart names)
    {call : Call env} (h : StepCases env s call s')
    (named : ∀ seeds, s'.Names env seeds → names seeds) (managed : AllManaged env s)
    {key mint : Pubkey} {m : Mint}
    (manager : ∃ tokenManager, s.accounts.tokenManagers key = some tokenManager)
    (stored : s.chain.tokens.mints mint = some m) (authority : m.mintAuthority = some key) :
    ∃ m', s'.chain.tokens.mints mint = some m' ∧ m'.mintAuthority = some key := by
  obtain ⟨l, calls, logged⟩ := h.tokenCalls
  -- the manager would have to sign
  obtain ⟨tokenManager, present⟩ := manager
  obtain ⟨rootKey, here, address, -⟩ := (managed key tokenManager present).address
  refine calls.authority_kept laws stored authority
    (Deployment.Derives.not_outside (derives_of_find address)) ?_
  intro call mem
  obtain ⟨entry, listed, called⟩ := logged call mem
  exact apart.not_signable
    (named _ (h.extends.names (.tokenManager key rootKey tokenManager present here)))
    (derives_of_find address) (named _ .root) (named _ (.destination entry call listed called))
    tokenManagerSeeds_ne_root tokenManagerSeeds_ne_execute

/-- The root account was where it is. -/
theorem World.Extends.rootAt_of_some (h : s.Extends s') {rootKey : Pubkey}
    (present : s.accounts.root ≠ none) (here : s'.RootAt env rootKey) : s.RootAt env rootKey := by
  obtain ⟨root, stored⟩ := Option.ne_none_iff_exists'.mp present
  obtain ⟨root', stored', bump⟩ := h.root root stored
  obtain ⟨root₁, stored₁, created⟩ := here
  cases stored'.symm.trans stored₁
  exact ⟨root, stored, bump ▸ created⟩

/-- Only the roles accounts count for the holders. -/
theorem held_congr {accounts accounts' : Accounts}
    (same : accounts'.userRoles = accounts.userRoles) :
    Held env names accounts' = Held env names accounts := by
  unfold Held Accounts.rolesOf
  rw [same]

section Preservation

variable {call : Call env}

/-- **A role stays unique** that is not the flow limiter's. -/
theorem RolesInOrder.unique (h : RolesInOrder env names s) (apart : env.Apart names)
    (named : ∀ seeds, s'.Names env seeds → names seeds) (managed : AllManaged env s)
    (managed' : AllManaged env s') (ext : s.Extends s') (change : HeldChange env names s call s')
    {role : UInt8} (unique : Holders.Unique (Held env names s.accounts) role)
    (notLimiter : role ≠ roles.FLOW_LIMITER) :
    Holders.Unique (Held env names s'.accounts) role := by
  cases change with
  | keeps same => rwa [held_congr same]
  | registers key user tokenManager absent stored adds =>
    refine unique.adds adds fun _ u => not_held apart h.owned (fun root => ?_) absent
    exact manager_not_root apart named managed' ⟨tokenManager, stored⟩ (ext.rootAt root)
  | moves i moved resource a called transfer here signed held moves => exact unique.moves moves held
  | limits a called stored signed operator adds =>
    exact unique.adds adds fun limiter => absurd limiter notLimiter
  | unlimits resource user drops => exact unique.drops drops
  | handsOver a tokenId tokenManager mint called stored type signed outside minted authority
      reassigned adds =>
    refine unique.adds adds ?_
    rintro rfl u held
    -- the manager of a minter is the authority of its mint, and does not sign
    obtain ⟨tokenManager', stored', -, native | ⟨m, minted', authority'⟩⟩ := h.minting _ u held
    · cases stored.symm.trans stored'
      rw [native] at type
      rcases type with type | type <;> cases type
    · cases stored.symm.trans stored'
      cases minted.symm.trans minted'
      rw [Option.some.inj (authority.symm.trans authority')] at outside
      obtain ⟨rootKey, -, address, -⟩ := (managed _ tokenManager stored).address
      exact Deployment.Derives.not_outside (derives_of_find address) outside

/-- **The root account keeps an operator**, and nothing else. -/
theorem RolesInOrder.keepsRoot (h : RolesInOrder env names s) (apart : env.Apart names)
    (named : ∀ seeds, s'.Names env seeds → names seeds) (managed' : AllManaged env s')
    (ext : s.Extends s') (change : HeldChange env names s call s') {rootKey : Pubkey}
    (here : s.RootAt env rootKey) :
    (∃ user, Held env names s'.accounts rootKey user roles.OPERATOR) ∧
    ∀ user role, Held env names s'.accounts rootKey user role → role = roles.OPERATOR := by
  obtain ⟨⟨operator, held⟩, only⟩ := h.root rootKey here
  -- roles of a manager are not those of the root account
  have apartFrom : ∀ key, (∃ tokenManager, s'.accounts.tokenManagers key = some tokenManager) →
      rootKey ≠ key := by
    rintro key stored rfl
    exact manager_not_root apart named managed' stored (ext.rootAt here)
  have extended : ∀ key, (∃ tokenManager, s.accounts.tokenManagers key = some tokenManager) →
      ∃ tokenManager, s'.accounts.tokenManagers key = some tokenManager := by
    rintro key ⟨tokenManager, stored⟩
    obtain ⟨flowSlot, stored'⟩ := ext.managers key tokenManager stored
    exact ⟨_, stored'⟩
  have added : ∀ {key user ks}, (∃ tokenManager, s'.accounts.tokenManagers key = some tokenManager) →
      Holders.Adds (Held env names s.accounts) (Held env names s'.accounts) key user ks →
      (∃ user, Held env names s'.accounts rootKey user roles.OPERATOR) ∧
      ∀ user role, Held env names s'.accounts rootKey user role → role = roles.OPERATOR := by
    intro key user ks stored adds
    refine ⟨⟨operator, (adds _ _ _).mpr (.inl held)⟩, fun u role after => ?_⟩
    rcases (adds _ _ _).mp after with before | ⟨same, -⟩
    · exact only u role before
    · exact absurd same (apartFrom key stored)
  cases change with
  | keeps same =>
    rw [held_congr same]
    exact ⟨⟨operator, held⟩, only⟩
  | registers key user tokenManager absent stored adds => exact added ⟨tokenManager, stored⟩ adds
  | moves i moved resource a called transfer resourceHere signed origin moves =>
    refine ⟨moves.exists_holder ⟨operator, held⟩, fun u role after => ?_⟩
    rcases (moves _ _ _).mp after with ⟨before, -⟩ | ⟨rfl, rfl, rfl⟩
    · exact only u role before
    · exact only _ _ origin
  | limits a called stored signed isOperator adds => exact added (extended _ stored) adds
  | unlimits resource user drops =>
    refine ⟨⟨operator, (drops _ _ _).mpr ⟨held, fun same => ?_⟩⟩, fun u role after =>
      only u role ((drops _ _ _).mp after).1⟩
    cases same.2.2
  | handsOver a tokenId tokenManager mint called stored type signed outside minted authority
      reassigned adds => exact added (extended _ ⟨tokenManager, stored⟩) adds

/-- The manager of an earlier minter still mints. -/
theorem RolesInOrder.minting_kept (h : RolesInOrder env names s) (laws : TokenLaws env.tokens)
    (apart : env.Apart names) (named : ∀ seeds, s'.Names env seeds → names seeds)
    (managed : AllManaged env s) (step : StepCases env s call s') {resource user : Pubkey}
    (held : Held env names s.accounts resource user roles.MINTER) :
    ∃ tokenManager, s'.accounts.tokenManagers resource = some tokenManager ∧
      tokenManager.ty.mints = true ∧ (tokenManager.ty = .nativeInterchainToken ∨
        ∃ m, s'.chain.tokens.mints tokenManager.tokenAddress = some m ∧
          m.mintAuthority = some resource) := by
  obtain ⟨tokenManager, stored, mints, origin⟩ := h.minting resource user held
  obtain ⟨flowSlot, stored'⟩ := step.extends.managers resource tokenManager stored
  refine ⟨_, stored', mints, origin.imp id ?_⟩
  rintro ⟨m, minted, authority⟩
  exact step.mintAuthority_kept laws apart named managed ⟨tokenManager, stored⟩ minted authority

/-- **The manager of a minter mints.** -/
theorem RolesInOrder.keepsMinting (h : RolesInOrder env names s) (laws : TokenLaws env.tokens)
    (apart : env.Apart names) (named : ∀ seeds, s'.Names env seeds → names seeds)
    (managed : AllManaged env s) (step : StepCases env s call s')
    (change : HeldChange env names s call s') {resource user : Pubkey}
    (held : Held env names s'.accounts resource user roles.MINTER) :
    ∃ tokenManager, s'.accounts.tokenManagers resource = some tokenManager ∧
      tokenManager.ty.mints = true ∧ (tokenManager.ty = .nativeInterchainToken ∨
        ∃ m, s'.chain.tokens.mints tokenManager.tokenAddress = some m ∧
          m.mintAuthority = some resource) := by
  -- who was a minter before has a minting manager, which stays; otherwise the call gave the role
  by_cases before : Held env names s.accounts resource user roles.MINTER
  · exact h.minting_kept laws apart named managed step before
  cases change with
  | keeps same => exact absurd (held_congr same ▸ held) before
  | registers key user tokenManager absent stored adds =>
    obtain ⟨rfl, -, -, granted⟩ := adds.gained held before
    have native : tokenManager.ty = .nativeInterchainToken := by
      cases ty : tokenManager.ty with
      | nativeInterchainToken => rfl
      | _ =>
        rw [ty] at granted
        cases granted
    exact ⟨tokenManager, stored, by rw [native]; rfl, .inl native⟩
  | moves i role moved a called transfer here signed origin moves =>
    obtain ⟨rfl, -, rfl⟩ := moves.gained held before
    exact h.minting_kept laws apart named managed step origin
  | limits a called stored signed operator adds => cases (adds.gained held before).2.2
  | unlimits moved limiter drops => exact absurd ((drops _ _ _).mp held).1 before
  | handsOver a tokenId tokenManager mint called stored type signed outside minted authority
      reassigned adds =>
    obtain ⟨rfl, -, -⟩ := adds.gained held before
    obtain ⟨flowSlot, stored'⟩ := step.extends.managers _ tokenManager stored
    have mints : tokenManager.ty.mints = true := by
      rcases type with type | type <;> rw [type] <;> rfl
    exact ⟨_, stored', mints, .inr reassigned⟩

/-- Before the root account exists nobody has a role. -/
theorem not_held_of_no_root (apart : env.Apart names) (managed : AllManaged env s)
    (owned : Owned env names (s.HasResource env) s.accounts) (absent : s.accounts.root = none)
    (resource user : Pubkey) (role : UInt8) : ¬ Held env names s.accounts resource user role := by
  have noRoot : ∀ key, ¬ s.RootAt env key := by
    rintro key ⟨root, stored, -⟩
    cases absent.symm.trans stored
  refine not_held apart owned (noRoot resource) ?_
  cases stored : s.accounts.tokenManagers resource with
  | none => rfl
  | some tokenManager =>
    obtain ⟨rootKey, here, -⟩ := (managed resource tokenManager stored).address
    exact absurd here (noRoot rootKey)

/-- **Every committed call keeps the roles in order.** -/
theorem StepCases.rolesInOrder (laws : TokenLaws env.tokens) (apart : env.Apart names)
    (managed : AllManaged env s) (step : StepCases env s call s')
    (named : ∀ seeds, RunNames env [⟨s, call, s'⟩] s' seeds → names seeds)
    (before : RolesInOrder env names s) : RolesInOrder env names s' := by
  have ext := step.extends
  have managed' := step.managed laws managed
  have world : ∀ seeds, s'.Names env seeds → names seeds := fun seeds name =>
    named seeds (.world seeds name)
  obtain ⟨owned, change⟩ := step.roles laws apart named before.owned
  cases change with
  | starts rootKey user absent here adds =>
    -- the new operator is the only one with a role
    have only : ∀ resource u role, Held env names s'.accounts resource u role →
        resource = rootKey ∧ u = user ∧ role = roles.OPERATOR := fun resource u role held =>
      adds.gained held (not_held_of_no_root apart managed before.owned absent resource u role)
    exact
      { owned
        operator := fun r u u' held held' =>
          (only r u _ held).2.1.trans (only r u' _ held').2.1.symm
        minter := fun r u u' held held' =>
          (only r u _ held).2.1.trans (only r u' _ held').2.1.symm
        placed := fun _ => ⟨rootKey, here⟩
        root := fun rootKey' here' => by
          rw [here'.unique here]
          exact ⟨⟨user, (adds _ _ _).mpr (.inr ⟨rfl, rfl, rfl⟩)⟩, fun u role held =>
            (only rootKey u role held).2.2⟩
        minting := fun resource u held => by cases (only resource u _ held).2.2 }
  | changes stays change =>
    exact
      { owned
        operator := before.unique apart world managed managed' ext change before.operator (by decide)
        minter := before.unique apart world managed managed' ext change before.minter (by decide)
        placed := fun present => by
          obtain ⟨rootKey, here⟩ := before.placed fun absent => present (stays absent)
          exact ⟨rootKey, ext.rootAt here⟩
        root := fun rootKey here => by
          refine before.keepsRoot apart world managed' ext change (ext.rootAt_of_some ?_ here)
          intro absent
          obtain ⟨root, stored, -⟩ := here
          cases (stays absent).symm.trans stored
        minting := fun resource user held =>
          before.keepsMinting laws apart world managed step change held }

end Preservation

/-! ## Every run -/

/-- **The ways to gain a role.** -/
inductive Gains (env : Env) (names : List Bytes → Prop) (t : Transition World (Call env))
    (resource user : Pubkey) (role : UInt8) : Prop
  | root (absent : t.pre.accounts.root = none) (here : t.post.RootAt env resource)
      (operator : role = roles.OPERATOR)
  | manager (tokenManager : TokenManager) (absent : t.pre.accounts.tokenManagers resource = none)
      (stored : t.post.accounts.tokenManagers resource = some tokenManager)
      (granted : registrationRoles tokenManager.ty &&& role = role)
  | handover (a : HandoverMintAuthority) (tokenId : Bytes32) (tokenManager : TokenManager)
      (mint : Mint) (called : t.call.instruction? = some (.handoverMintAuthority a tokenId))
      (stored : t.pre.accounts.tokenManagers resource = some tokenManager)
      (minted : t.pre.chain.tokens.mints tokenManager.tokenAddress = some mint)
      (authority : mint.mintAuthority = some user) (signed : a.authority = ⟨user, true⟩)
      (minter : role = roles.MINTER)
  | transfer (i : ItsInstruction) (a : TransferRole) (called : t.call.instruction? = some i)
      (transfer : i.roleTransfer? = some (role, resource, a)) (signed : a.origin.isSigner = true)
      (held : Held env names t.pre.accounts resource a.origin.key role)
      (destination : user = a.destination)
  | flowLimiter (a : AddTokenManagerFlowLimiter)
      (called : t.call.instruction? = some (.addTokenManagerFlowLimiter a))
      (signed : a.authorityUserAccount.isSigner = true)
      (operator : Held env names t.pre.accounts resource a.authorityUserAccount.key roles.OPERATOR)
      (limiter : role = roles.FLOW_LIMITER)

/-- **A role is gained in one of these ways.** -/
theorem RolesChange.gains {call : Call env} (change : RolesChange env names s call s')
    {resource user : Pubkey} {role : UInt8}
    (after : Held env names s'.accounts resource user role)
    (before : ¬ Held env names s.accounts resource user role) :
    Gains env names ⟨s, call, s'⟩ resource user role := by
  cases change with
  | starts rootKey operator absent here adds =>
    obtain ⟨rfl, -, isOperator⟩ := adds.gained after before
    exact .root absent here isOperator
  | changes stays change =>
    cases change with
    | keeps same => exact absurd (held_congr same ▸ after) before
    | registers key granted tokenManager absent stored adds =>
      obtain ⟨rfl, -, -, has⟩ := adds.gained after before
      exact .manager tokenManager absent stored has
    | moves i moved resource a called transfer here signed held moves =>
      obtain ⟨rfl, destination, rfl⟩ := moves.gained after before
      exact .transfer i a called transfer signed held destination
    | limits a called stored signed operator adds =>
      obtain ⟨rfl, -, limiter⟩ := adds.gained after before
      exact .flowLimiter a called signed operator limiter
    | unlimits limited limiter drops => exact absurd ((drops _ _ _).mp after).1 before
    | handsOver a tokenId tokenManager mint called stored type signed outside minted authority
        reassigned adds =>
      obtain ⟨rfl, rfl, minter⟩ := adds.gained after before
      refine .handover a tokenId tokenManager mint called stored minted authority ?_ minter
      rw [← signed]

/-- Before `initialize` there are no roles. -/
theorem rolesInOrder_initial (env : Env) (names : List Bytes → Prop) (owner : Pubkey → Pubkey)
    (gas : GasService.GasState) : RolesInOrder env names (World.initial owner gas) := by
  have owned : Owned env names ((World.initial owner gas).HasResource env)
      (World.initial owner gas).accounts := by
    rintro key roles ⟨⟩
  have nobody : ∀ resource user role,
      ¬ Held env names (World.initial owner gas).accounts resource user role := by
    rintro resource user role ⟨-, isRole, has⟩
    refine isRole.not_empty ?_
    have empty : (World.initial owner gas).accounts.rolesOf env resource user = roles.EMPTY := by
      unfold Accounts.rolesOf
      split <;> rfl
    rwa [empty] at has
  exact
    { owned
      operator := fun r u u' held => absurd held (nobody r u _)
      minter := fun r u u' held => absurd held (nobody r u _)
      placed := fun present => absurd rfl present
      root := by
        rintro rootKey ⟨root, stored, -⟩
        cases stored
      minting := fun r u held => absurd held (nobody r u _) }

/-- **What a committed call may do to roles**: a transfer moves the role from the holder, who signs,
to the destination, and nothing else; and a role is gained only in one of the listed ways. -/
structure RolesRespected (env : Env) (names : List Bytes → Prop)
    (t : Transition World (Call env)) : Prop where
  transfers : ∀ i role resource a, t.call.instruction? = some i →
    i.roleTransfer? = some (role, resource, a) → a.origin.isSigner = true ∧
      Held env names t.pre.accounts resource a.origin.key role ∧
      Holders.Moves (Held env names t.pre.accounts) (Held env names t.post.accounts) resource role
        a.origin.key a.destination
  gains : ∀ resource user role, Held env names t.post.accounts resource user role →
    ¬ Held env names t.pre.accounts resource user role → Gains env names t resource user role

/-- **Over every run the roles are in order**, and stay so along the transitions. -/
theorem roles_run (env : Env) (laws : TokenLaws env.tokens) (owner : Pubkey → Pubkey)
    (gas : GasService.GasState) (calls : List (Call env)) {names : List Bytes → Prop}
    (apart : env.Apart names) :
    (∀ seeds, RunNames env (trace (step env) (World.initial owner gas) calls)
      (run (step env) (World.initial owner gas) calls) seeds → names seeds) →
    RolesInOrder env names (run (step env) (World.initial owner gas) calls) ∧
    ∀ t ∈ trace (step env) (World.initial owner gas) calls, RolesRespected env names t := by
  suffices whole : AllManaged env (run (step env) (World.initial owner gas) calls) ∧ _ from whole.2
  refine run_trace_induction (P := fun (tr : List (Transition World (Call env))) s =>
    AllManaged env s ∧ ((∀ seeds, RunNames env tr s seeds → names seeds) →
      RolesInOrder env names s ∧ ∀ t ∈ tr, RolesRespected env names t)) ?_ ?_ calls
  · refine ⟨managed_run env laws owner gas [], fun _ => ⟨rolesInOrder_initial env names owner gas, ?_⟩⟩
    intro t mem
    cases mem
  · rintro tr s call s' ⟨managed, before⟩ success
    have step := step_cases success
    refine ⟨step.managed laws managed, fun named => ?_⟩
    obtain ⟨order, respected⟩ := before fun seeds name =>
      named seeds (name.mono (List.subset_append_left ..) step.extends)
    have last : ∀ seeds, RunNames env [⟨s, call, s'⟩] s' seeds → names seeds := fun seeds name =>
      named seeds (name.mono (List.subset_append_right ..) (.refl s'))
    refine ⟨step.rolesInOrder laws apart managed last order, fun t mem => ?_⟩
    rcases List.mem_append.mp mem with mem | mem
    · exact respected t mem
    · rw [List.mem_singleton.mp mem]
      exact
        { transfers := fun i role resource a called transfer =>
            step.roleTransfer apart last order.owned called transfer
          gains := fun resource user role after absent =>
            (step.roles laws apart last order.owned).change.gains after absent }

/-- **The invariants of the roles**, over every run in which the seeds that it speaks about lead to
different addresses. -/
theorem role_invariants (env : Env) (laws : TokenLaws env.tokens) (owner : Pubkey → Pubkey)
    (gas : GasService.GasState) (calls : List (Call env))
    (apart : env.Apart (RunNames env (trace (step env) (World.initial owner gas) calls)
      (run (step env) (World.initial owner gas) calls))) :
    let tr := trace (step env) (World.initial owner gas) calls
    let s := run (step env) (World.initial owner gas) calls
    RolesInOrder env (RunNames env tr s) s ∧
    ∀ t ∈ tr, RolesRespected env (RunNames env tr s) t :=
  roles_run env laws owner gas calls apart fun _ name => name

/-! ## A transfer -/

/-- How many bytes the seeds of a roles account have. -/
theorem length_rolesSeeds (resource user : Pubkey) :
    (UserRoles.pdaSeeds resource user).flatten.length = 74 := by
  have seedPrefix : UserRoles.seedPrefix.length = 10 := by decide +kernel
  simp [UserRoles.pdaSeeds, seedPrefix]

/-- Other seeds have another length. -/
theorem World.Names.length_ne {seeds : List Bytes} (h : s.Names env seeds) :
    seeds.flatten.length ≠ 74 := by
  cases h <;> simp only [length_rootSeeds, length_callContractSeeds, length_tokenManagerSeeds,
    length_tokenMintSeeds, length_executeSeeds] <;> decide

/-- The seeds of a run are those of its last world or of a roles account. -/
theorem RunNames.cases_roles {tr : List (Transition World (Call env))} {seeds : List Bytes}
    (h : RunNames env tr s seeds) :
    s.Names env seeds ∨ ∃ resource user, seeds = UserRoles.pdaSeeds resource user := by
  cases h with
  | world seeds named => exact .inl named
  | created entry key resource user roles mem event => exact .inr ⟨resource, user, rfl⟩
  | given t i resource user mem called pair => exact .inr ⟨resource, user, rfl⟩

/-- **In the environment of a table the seeds that a run speaks about lead to different
addresses.** -/
theorem tableEnv_run_apart {table : List Bytes}
    {decodePayload : Bytes → Except Error (List AccountMeta × Bytes)} (short : table.length ≤ 256)
    (tr : List (Transition World (Call (tableEnv table decodePayload)))) (s : World) :
    (tableEnv table decodePayload).Apart (RunNames (tableEnv table decodePayload) tr s) := by
  refine tableEnv_apart_of short fun x y hx hy same => ?_
  have lengths := congrArg List.length same
  rcases hx.cases_roles with hx | ⟨resource, user, rfl⟩
  · rcases hy.cases_roles with hy | ⟨resource, user, rfl⟩
    · exact hx.eq_of_flatten hy same
    · exact absurd (lengths.trans (length_rolesSeeds ..)) hx.length_ne
  · rcases hy.cases_roles with hy | ⟨resource', user', rfl⟩
    · exact absurd (lengths.symm.trans (length_rolesSeeds ..)) hy.length_ne
    · obtain ⟨rfl, rfl⟩ := flatten_pair_inj same
      rfl

/-- The environment of two operators. -/
def operatorsEnv : Env :=
  tableEnv (tokenTable walletTokenId [sampleSeeds (UserRoles.pdaSeeds (sampleAddress 0)
    (sampleWallet 6)) sampleItsId]) fun b => .ok ([], b)

/-- The service is initialised with an operator, who hands the operatorship on. -/
def operatorsCalls : List (Call operatorsEnv) :=
  tableGatewayInitializes ++
  [tableInitializes,
    tableCall (.transferOperatorship ⟨⟨sampleWallet 5, true⟩, ⟨sampleWallet 5, true⟩,
      sampleAddress 5, sampleAddress 0, sampleWallet 6, sampleAddress 9⟩) rfl]

/-- Once the operatorship is handed on, the new operator is the only one. -/
theorem role_invariants_sample :
    let tr := trace (step operatorsEnv) sampleInitial operatorsCalls
    let s := run (step operatorsEnv) sampleInitial operatorsCalls
    (∃ user, Held operatorsEnv (RunNames operatorsEnv tr s) s.accounts (sampleAddress 0) user
      roles.OPERATOR) ∧
    s.accounts.rolesOf operatorsEnv (sampleAddress 0) (sampleWallet 5) = roles.EMPTY ∧
    s.accounts.rolesOf operatorsEnv (sampleAddress 0) (sampleWallet 6) = roles.OPERATOR := by
  intro tr s
  obtain ⟨order, -⟩ := role_invariants operatorsEnv tableEnv_laws (fun _ => sampleProgramId 4)
    ⟨none, fun _ => 0, []⟩ operatorsCalls (tableEnv_run_apart (by decide +kernel) _ _)
  have here : s.RootAt operatorsEnv (sampleAddress 0) :=
    ⟨InterchainTokenService.new 255 "solana" "hub", by decide +kernel, by decide +kernel⟩
  exact ⟨(order.root _ here).1, by decide +kernel, by decide +kernel⟩

end AxelarSolana.Its
