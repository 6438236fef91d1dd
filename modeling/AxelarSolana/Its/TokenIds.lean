import AxelarSolana.Its.ManagerIntegrity
import AxelarSolana.Its.OutboundMessages
import AxelarSolana.Its.TokenManagers

/-! # Token ids

* **`TokenIdSource`** — what a token id is derived from: a deployer and a salt, or a mint; with the
  bytes that are hashed for it.
* **`TokenIdSource.eq_of_tokenId`** — the three derivations are injective and never meet.
* **`RegistersFor`**, **`SendsFor`** — a registration on this chain, and a remote deployment or link,
  for one such source.
* **`token_ids`** — over every run, nobody takes another's token id. -/

namespace AxelarSolana.Its

open Fallible Machine

/-! ## What token ids are derived from -/

/-- **What a token id is derived from**: by `interchain_token_id`, by `canonical_interchain_token_id`
or from `linked_token_deployer_salt`. -/
inductive TokenIdSource
  | interchain (deployer : Pubkey) (salt : Bytes32)
  | canonical (mint : Pubkey)
  | linked (deployer : Pubkey) (salt : Bytes32)
  deriving DecidableEq

namespace TokenIdSource

/-- Whose signature the source asks for. -/
def deployer? : TokenIdSource → Option Pubkey
  | interchain deployer _ => some deployer
  | canonical _ => none
  | linked deployer _ => some deployer

/-- The mint that the source is. -/
def mint? : TokenIdSource → Option Pubkey
  | canonical mint => some mint
  | _ => none

variable (env : Deployment)

/-- The salt that the source is hashed to. -/
def deploySalt : TokenIdSource → Bytes32
  | interchain deployer salt => env.interchainTokenDeployerSalt deployer salt
  | canonical mint => env.canonicalInterchainTokenDeploySalt mint
  | linked deployer salt => env.linkedTokenDeployerSalt deployer salt

/-- **The token id of a source.** -/
def tokenId (self : TokenIdSource) : Bytes32 :=
  env.interchainTokenIdInternal (self.deploySalt env)

/-- The bytes hashed for the salt. -/
def saltInput : TokenIdSource → Bytes
  | interchain deployer salt => Codec.utf8 "interchain-token-salt" ++
      (env.chainNameHash.toList ++ (deployer.toList ++ salt.toList))
  | canonical mint => Codec.utf8 "canonical-token-salt" ++
      (env.chainNameHash.toList ++ mint.toList)
  | linked deployer salt => Codec.utf8 "solana-custom-token-salt" ++
      (env.chainNameHash.toList ++ (deployer.toList ++ salt.toList))

/-- The bytes hashed for the token id. -/
def idInput (self : TokenIdSource) : Bytes :=
  Codec.utf8 "interchain-token-id" ++ (self.deploySalt env).toList

/-- What is hashed for a source. -/
def inputs (self : TokenIdSource) : Set Bytes := {self.saltInput env, self.idInput env}

variable {env} {self other : TokenIdSource}

/-- The salt of a source is the hash of its salt input. -/
theorem deploySalt_eq (self : TokenIdSource) :
    self.deploySalt env = env.keccak (self.saltInput env) := by
  cases self <;> simp [deploySalt, saltInput, Deployment.interchainTokenDeployerSalt,
    Deployment.canonicalInterchainTokenDeploySalt, Deployment.linkedTokenDeployerSalt,
    Syscalls.hashv]

/-- The token id of a source is the hash of its id input. -/
theorem tokenId_eq (self : TokenIdSource) : self.tokenId env = env.keccak (self.idInput env) := by
  simp [tokenId, idInput, Deployment.interchainTokenIdInternal, Syscalls.hashv]

/-- The number of bytes tells the three kinds apart. -/
theorem length_saltInput (self : TokenIdSource) : (self.saltInput env).length =
    match self with
    | interchain _ _ => 117
    | canonical _ => 84
    | linked _ _ => 120 := by
  have interchainPrefix : (Codec.utf8 "interchain-token-salt").length = 21 := by decide +kernel
  have canonicalPrefix : (Codec.utf8 "canonical-token-salt").length = 20 := by decide +kernel
  have linkedPrefix : (Codec.utf8 "solana-custom-token-salt").length = 24 := by decide +kernel
  cases self <;> simp [saltInput, interchainPrefix, canonicalPrefix, linkedPrefix]

/-- Two addresses side by side can be read back. -/
theorem append_inj_words {u v u' v' : Bytes32}
    (h : u.toList ++ v.toList = u'.toList ++ v'.toList) : u = u' ∧ v = v' := by
  obtain ⟨first, second⟩ := List.append_inj h (by simp)
  exact ⟨List.Vector.toList_injective first, List.Vector.toList_injective second⟩

/-- **No two sources are hashed from the same bytes**, although nothing separates the parts. -/
theorem saltInput_injective : Function.Injective (saltInput env) := by
  intro self other same
  have length := congrArg List.length same
  rw [length_saltInput, length_saltInput] at length
  cases self <;> cases other <;> simp only [Nat.reduceEqDiff] at length <;>
    simp only [saltInput, List.append_cancel_left_eq] at same
  -- only sources of one kind have bytes of the same length
  case interchain.interchain =>
    obtain ⟨rfl, rfl⟩ := append_inj_words same
    rfl
  case canonical.canonical => rw [List.Vector.toList_injective same]
  case linked.linked =>
    obtain ⟨rfl, rfl⟩ := append_inj_words same
    rfl

/-- **The three derivations are injective and never meet**, as long as the hash has no collision
among what is hashed for the two. -/
theorem eq_of_tokenId {hashed : Set Bytes} (free : Set.InjOn env.keccak hashed)
    (mem : self.inputs env ⊆ hashed) (mem' : other.inputs env ⊆ hashed)
    (same : self.tokenId env = other.tokenId env) : self = other := by
  rw [tokenId_eq, tokenId_eq] at same
  have ids := free (mem (Set.mem_insert_of_mem _ rfl)) (mem' (Set.mem_insert_of_mem _ rfl)) same
  have salts := List.append_cancel_left ids
  have saltsEq : self.deploySalt env = other.deploySalt env :=
    List.Vector.toList_injective salts
  rw [deploySalt_eq, deploySalt_eq] at saltsEq
  exact saltInput_injective
    (free (mem (Set.mem_insert _ _)) (mem' (Set.mem_insert _ _)) saltsEq)

end TokenIdSource

/-! ## Instructions and their sources -/

/-- What the instructions that register a token on this chain derive its id from. -/
def ItsInstruction.registers? : ItsInstruction → Option TokenIdSource
  | .deployInterchainToken a salt _ _ _ _ => some (.interchain a.deployer.key salt)
  | .registerCanonicalInterchainToken a => some (.canonical a.tokenMint)
  | .registerCustomToken a salt _ _ => some (.linked a.deployer.key salt)
  | _ => none

/-- What the remote deployments and links derive the token id from, with the account of the token
manager that they read. -/
def ItsInstruction.remote? : ItsInstruction → Option (TokenIdSource × Pubkey)
  | .deployRemoteInterchainToken a salt _ _ =>
    some (.interchain a.deployer.key salt, a.tokenManagerPda)
  | .deployRemoteCanonicalInterchainToken a _ _ => some (.canonical a.tokenMint, a.tokenManagerPda)
  | .linkToken a salt _ _ _ _ _ => some (.linked a.deployer.key salt, a.tokenManagerPda)
  | _ => none

/-- **What an instruction derives a token id from.** -/
def ItsInstruction.idSource? (i : ItsInstruction) : Option TokenIdSource :=
  i.registers? <|> i.remote?.map Prod.fst

/-- What a call derives a token id from. -/
def Call.idSource? {env : Env} : Call env → Option TokenIdSource
  | .instruction _ i _ => i.idSource?
  | .external _ _ => none

/-- What is hashed for the token ids that calls derive. -/
def hashedBy (env : Env) (calls : List (Call env)) : Set Bytes :=
  {b | ∃ call ∈ calls, ∃ source, call.idSource? = some source ∧ b ∈ source.inputs env.toDeployment}

variable {env : Env} {ctx : Ctx} {s s' : World}

/-- What a call hashes for its token id is among what the run hashes. -/
theorem inputs_subset_hashedBy {calls : List (Call env)} {call : Call env} {source : TokenIdSource}
    (mem : call ∈ calls) (derives : call.idSource? = some source) :
    source.inputs env.toDeployment ⊆ hashedBy env calls :=
  fun _ input => ⟨call, mem, source, derives, input⟩

/-! ## Registrations on this chain -/

/-- **A committed call registers a token manager for a source**: the instruction derives the id from
it, with the deployer's signature where there is one, and the address is that of the same id. -/
structure RegistersFor (env : Env) (t : Transition World (Call env)) (key : Pubkey)
    (tokenManager : TokenManager) (source : TokenIdSource) : Prop where
  call : ∃ sysvar i outside, t.call = .instruction sysvar i outside ∧ i.registers? = some source ∧
    ∀ deployer ∈ source.deployer?, deployer ∈ i.signers
  absent : t.pre.accounts.tokenManagers key = none
  stored : t.post.accounts.tokenManagers key = some tokenManager
  tokenId : tokenManager.tokenId = source.tokenId env.toDeployment
  mint : ∀ mint ∈ source.mint?, tokenManager.tokenAddress = mint
  address : ∃ rootKey, t.pre.RootAt env rootKey ∧ env.findProgramAddress
    (TokenManager.pdaSeeds (source.tokenId env.toDeployment) rootKey) env.itsId
      = .ok (key, tokenManager.bump)

/-- The managers after a registration. -/
theorem Registered.managers {key : Pubkey} {tokenManager : TokenManager} {granted : List LogEvent}
    (h : Registered env key tokenManager granted s s') : s'.accounts.tokenManagers
      = Function.update s.accounts.tokenManagers key (some tokenManager) := by
  obtain ⟨accounts, grants, written⟩ := h.accounts
  have managers : accounts.tokenManagers = s.accounts.tokenManagers := by
    cases grants <;> rfl
  rw [written, ← managers]
  rfl

/-- **What a handler that registers a token has left**: the signature of the deployer, and a manager
with the source's token id. -/
structure LeavesFor (env : Env) (i : ItsInstruction) (key : Pubkey) (source : TokenIdSource)
    (s s' : World) : Prop where
  signed : ∀ deployer ∈ source.deployer?, deployer ∈ i.signers
  absent : s.accounts.tokenManagers key = none
  stored : ∃ tokenManager, s'.accounts.tokenManagers key = some tokenManager ∧
    tokenManager.tokenId = source.tokenId env.toDeployment ∧
    ∀ mint ∈ source.mint?, tokenManager.tokenAddress = mint

/-- `deploy_interchain_token`. -/
theorem deployInterchainToken_leaves {a : DeployInterchainToken} {salt : Bytes32}
    {name symbol : String} {decimals : UInt8} {initialSupply : UInt64}
    (h : deployInterchainToken env ctx a salt name symbol decimals initialSupply s = .ok s') :
    LeavesFor env (.deployInterchainToken a salt name symbol decimals initialSupply)
      a.tokenManagerPda (.interchain a.deployer.key salt) s s' := by
  unfold deployInterchainToken at h
  obtain ⟨_, -, h⟩ := bind_eq_ok.mp h
  obtain ⟨_, signed, h⟩ := bind_eq_ok.mp h
  obtain ⟨_, -, h⟩ := bind_eq_ok.mp h
  obtain ⟨bump, new, h⟩ := bind_eq_ok.mp h
  obtain ⟨s₁, -, h⟩ := bind_eq_ok.mp h
  obtain ⟨s₂, -, h⟩ := bind_eq_ok.mp h
  obtain ⟨s₃, -, h⟩ := bind_eq_ok.mp h
  obtain ⟨rolesBump, -, h⟩ := bind_eq_ok.mp h
  obtain ⟨root, -, h⟩ := bind_eq_ok.mp h
  obtain ⟨_, -, h⟩ := bind_eq_ok.mp h
  obtain ⟨_, -, h⟩ := bind_eq_ok.mp h
  obtain ⟨_, -, h⟩ := bind_eq_ok.mp h
  obtain ⟨_, -, h⟩ := bind_eq_ok.mp h
  obtain ⟨s₄, -, h⟩ := bind_eq_ok.mp h
  obtain ⟨s₅, -, h⟩ := bind_eq_ok.mp h
  rw [pure_eq_ok] at h
  refine ⟨?_, (newTokenManagerPda_eq_ok.mp new).1, ?_⟩
  · rintro deployer ⟨rfl⟩
    exact mem_signersOfInfos.mpr ⟨a.deployer, by simp, Gateway.signer_eq_ok.mp signed, rfl⟩
  · rw [← h]
    exact ⟨_, Function.update_self .., rfl, by rintro _ ⟨⟩⟩

/-- `register_canonical_interchain_token`. -/
theorem registerCanonicalInterchainToken_leaves {a : RegisterCanonicalInterchainToken}
    (h : registerCanonicalInterchainToken env ctx a s = .ok s') :
    LeavesFor env (.registerCanonicalInterchainToken a) a.tokenManagerPda (.canonical a.tokenMint)
      s s' := by
  simp only [registerCanonicalInterchainToken, bind_eq_ok, pure_eq_ok] at h
  obtain ⟨_, -, _, -, bump, new, s₁, -, _, -, root, -, mint, -, _, -, h⟩ := h
  refine ⟨by rintro _ ⟨⟩, (newTokenManagerPda_eq_ok.mp new).1, ?_⟩
  rw [← h]
  refine ⟨_, Function.update_self .., rfl, ?_⟩
  rintro mint ⟨rfl⟩
  rfl

/-- `register_custom_token`: the roles are written after the manager. -/
theorem registerCustomToken_leaves {a : RegisterCustomToken} {salt : Bytes32}
    {tokenManagerType : TokenManagerType} {operator : Option Pubkey}
    (h : registerCustomToken env ctx a salt tokenManagerType operator s = .ok s') :
    LeavesFor env (.registerCustomToken a salt tokenManagerType operator) a.tokenManagerPda
      (.linked a.deployer.key salt) s s' := by
  simp only [registerCustomToken, bind_eq_ok, pure_eq_ok] at h
  obtain ⟨_, -, _, signed, _, -, bump, new, s₁, -, rolesBump, -, root, -, mint, -, _, -, _, -, _, -,
    h⟩ := h
  refine ⟨?_, (newTokenManagerPda_eq_ok.mp new).1, ?_⟩
  · rintro deployer ⟨rfl⟩
    exact mem_signersOfInfos.mpr ⟨a.deployer, by simp, Gateway.signer_eq_ok.mp signed, rfl⟩
  · rw [← h]
    refine ⟨TokenManager.initAccount tokenManagerType _ a.tokenMint a.tokenManagerAta bump, ?_, rfl,
      by rintro _ ⟨⟩⟩
    simp only [World.emit, World.record, createUserRolesIfGiven_tokenManagers]
    exact Function.update_self ..

/-- Every instruction that registers a token. -/
theorem process_leaves {i : ItsInstruction} {source : TokenIdSource}
    (h : process env ctx i s = .ok s') (registers : i.registers? = some source) :
    ∃ key, LeavesFor env i key source s s' := by
  cases i with
  | deployInterchainToken a salt name symbol decimals initialSupply =>
    cases registers
    exact ⟨_, deployInterchainToken_leaves h⟩
  | registerCanonicalInterchainToken a =>
    cases registers
    exact ⟨_, registerCanonicalInterchainToken_leaves h⟩
  | registerCustomToken a salt tokenManagerType operator =>
    cases registers
    exact ⟨_, registerCustomToken_leaves h⟩
  | _ => cases registers

/-- **Only these instructions create a token manager**, when they are called from outside. -/
theorem Effect.creates {sysvar : Sysvar} {i : ItsInstruction} {l : List LogEvent}
    (h : Effect env sysvar s i l s') {key : Pubkey} {tokenManager : TokenManager}
    (absent : s.accounts.tokenManagers key = none)
    (stored : s'.accounts.tokenManagers key = some tokenManager) :
    (∃ source, i.registers? = some source) ∧
      ∃ granted, Registered env key tokenManager granted s s' := by
  -- a manager that exists already is written, or none
  have unwritten (same : s'.accounts.tokenManagers key = s.accounts.tokenManagers key) : False := by
    rw [stored, absent] at same
    cases same
  have other {k : Pubkey} {old new : TokenManager} (present : s.accounts.tokenManagers k = some old)
      (written : s'.accounts = s.accounts.setTokenManager k new) : False := by
    have different : key ≠ k := by
      rintro rfl
      cases absent.symm.trans present
    refine unwritten ?_
    rw [written]
    exact Function.update_of_ne different ..
  have created {k : Pubkey} {new : TokenManager} {granted : List LogEvent}
      (registered : Registered env k new granted s s') :
      ∃ granted, Registered env key tokenManager granted s s' := by
    by_cases same : key = k
    · subst same
      rw [registered.managers, Function.update_self] at stored
      cases stored
      exact ⟨granted, registered⟩
    · refine (unwritten ?_).elim
      rw [registered.managers, Function.update_of_ne same]
  cases h with
  | registers i k new granted s' existing registered =>
    refine ⟨?_, created registered⟩
    cases i with
    | registerCanonicalInterchainToken a => exact ⟨_, rfl⟩
    | registerCustomToken a salt tokenManagerType operator => exact ⟨_, rfl⟩
    | _ => cases existing
  | deploys a salt name symbol decimals initialSupply new granted t₁ t₂ t₃ s' native address deployed
      registered => exact ⟨⟨_, rfl⟩, created registered⟩
  | limits i k old flowLimit s' names present accounts => exact (other present accounts).elim
  | transfers a tokenId destinationChain destinationAddress amount gasValue reported
      callerProgramId callerPdaSeeds data old tracked mint instruction sourceAddress after s'
      outbound accounts =>
    exact (other (tokenManagerPda_eq_ok.mp outbound.manager).1 accounts).elim
  | movesRootRole a t root origin destination s' names loaded moved =>
    exact (unwritten (by rw [moved.accounts]; rfl)).elim
  | movesRole i role resource t old origin destination s' names present moved =>
    exact (unwritten (by rw [moved.accounts]; rfl)).elim
  | handsOver a tokenId mint old minter s' handed =>
    exact (unwritten (by rw [handed.accounts]; rfl)).elim
  | _ =>
    -- what is left writes the root account or roles, or nothing at all
    exact (unwritten (by simp [*, Accounts.setRoot, Accounts.setUserRoles])).elim

/-- Whether a call executes a message of the hub. -/
def Call.executes : Call env → Bool
  | .instruction _ (.execute _ _ _) _ => true
  | _ => false

/-- **A token manager is created by a message of the hub or by a registration on this chain.** -/
theorem registersFor_of_step {call : Call env} (h : step env call s = .ok s') {key : Pubkey}
    {tokenManager : TokenManager} (absent : s.accounts.tokenManagers key = none)
    (stored : s'.accounts.tokenManagers key = some tokenManager) :
    call.executes = true ∨ ∃ source, RegistersFor env ⟨s, call, s'⟩ key tokenManager source := by
  cases step_cases h with
  | external call outside chain run => cases absent.symm.trans stored
  | execute sysvar a message payload outside sourceChain inner gateway i l s' accepts received
      performs => exact .inl rfl
  | own sysvar i outside l s' notInner notExecute effect performs =>
    obtain ⟨⟨source, registers⟩, granted, registered⟩ := effect.creates absent stored
    have processed : process env ⟨sysvar, .external, i⟩ i s = .ok s' := h
    obtain ⟨key', left⟩ := process_leaves processed registers
    obtain ⟨new, stored', tokenId, mint⟩ := left.stored
    -- the account that the handler has written is the one that is new
    have same : key' = key := by
      by_contra different
      rw [registered.managers, Function.update_of_ne different, left.absent] at stored'
      cases stored'
    subst same
    cases stored.symm.trans stored'
    obtain ⟨rootKey, root, loaded, created⟩ := registered.manager
    obtain ⟨-, address⟩ := newTokenManagerPda_eq_ok.mp created
    refine .inr ⟨source, ⟨sysvar, i, outside, rfl, registers, left.signed⟩, absent, stored, tokenId,
      mint, rootKey, ⟨root, itsRootPda_eq_ok.mp loaded⟩, ?_⟩
    rw [← tokenId]
    exact address

/-! ## Remote deployments and links -/

/-- **A remote deployment or link sends a message for a source**: the deployer signs where there is
one, the message has the source's token id, and so has the token manager at the account given. -/
structure SendsFor (env : Env) (t : Transition World (Call env)) (i : ItsInstruction)
    (key : Pubkey) (source : TokenIdSource) : Prop where
  signed : ∀ deployer ∈ source.deployer?, deployer ∈ i.signers
  manager : ∃ tokenManager, t.pre.accounts.tokenManagers key = some tokenManager ∧
    tokenManager.tokenId = source.tokenId env.toDeployment
  sent : ∃ sysvar payer rootKey gasValue root destinationChain message payload,
    OutboundSent env sysvar i payer rootKey gasValue root (.sendToHub destinationChain message)
      payload t.pre t.post ∧ message.tokenId = source.tokenId env.toDeployment

/-- Every remote deployment and link: the id in the message is that of the seeds of the token
manager's account. -/
theorem process_remote {i : ItsInstruction} {source : TokenIdSource} {key : Pubkey}
    (h : process env ctx i s = .ok s') (remote : i.remote? = some (source, key)) :
    (∀ deployer ∈ source.deployer?, deployer ∈ i.signers) ∧
    ∃ tokenManager payer rootKey gasValue root destinationChain message payload,
      tokenManagerPda env rootKey (source.tokenId env.toDeployment) key s = .ok tokenManager ∧
      OutboundSent env ctx.sysvar i payer rootKey gasValue root
        (.sendToHub destinationChain message) payload s s' ∧
      message.tokenId = source.tokenId env.toDeployment := by
  cases i with
  | deployRemoteInterchainToken a salt destinationChain gasValue =>
    cases remote
    obtain ⟨tokenManager, root, _, _, _, payload, signed, manager, sent⟩ :=
      deployRemoteInterchainToken_sent h
    refine ⟨?_, tokenManager, _, _, _, root, _, _, payload, manager, sent, rfl⟩
    rintro deployer ⟨rfl⟩
    exact mem_signersOfInfos.mpr ⟨a.deployer, by simp, signed, rfl⟩
  | deployRemoteCanonicalInterchainToken a destinationChain gasValue =>
    cases remote
    obtain ⟨tokenManager, root, _, _, _, payload, manager, sent⟩ :=
      deployRemoteCanonicalInterchainToken_sent h
    exact ⟨by rintro _ ⟨⟩, tokenManager, _, _, _, root, _, _, payload, manager, sent, rfl⟩
  | linkToken a salt destinationChain destinationTokenAddress tokenManagerType linkParams gasValue =>
    cases remote
    obtain ⟨tokenManager, root, _, payload, signed, manager, sent⟩ := linkToken_sent h
    refine ⟨?_, tokenManager, _, _, _, root, _, _, payload, manager, sent, rfl⟩
    rintro deployer ⟨rfl⟩
    exact mem_signersOfInfos.mpr ⟨a.deployer, by simp, signed, rfl⟩
  | _ => cases remote

/-! ## Addresses of token managers -/

/-- **The seeds of token managers that a run speaks about**: those of the managers stored, and those
of the token ids that its calls derive. -/
inductive ManagerNames (env : Env) (calls : List (Call env)) (s : World) : List Bytes → Prop
  | stored (key rootKey : Pubkey) (tokenManager : TokenManager)
      (present : s.accounts.tokenManagers key = some tokenManager) (root : s.RootAt env rootKey) :
      ManagerNames env calls s (TokenManager.pdaSeeds tokenManager.tokenId rootKey)
  | derived (call : Call env) (source : TokenIdSource) (rootKey : Pubkey) (mem : call ∈ calls)
      (derives : call.idSource? = some source) (root : s.RootAt env rootKey) :
      ManagerNames env calls s (TokenManager.pdaSeeds (source.tokenId env.toDeployment) rootKey)

/-- The seeds of a token manager name the token. -/
theorem tokenManagerSeeds_inj {tokenId tokenId' : Bytes32} {rootKey rootKey' : Pubkey}
    (h : TokenManager.pdaSeeds tokenId rootKey = TokenManager.pdaSeeds tokenId' rootKey') :
    tokenId = tokenId' := by
  simp only [TokenManager.pdaSeeds, List.cons.injEq, and_true, true_and] at h
  exact List.Vector.toList_injective h.2

/-! ## Whole runs -/

/-- A committed call of a run, with what the worlds around it keep to the end. -/
theorem mem_trace_extends {calls : List (Call env)} {t : Transition World (Call env)}
    (mem : t ∈ trace (step env) s calls) :
    step env t.call t.pre = .ok t.post ∧ t.call ∈ calls ∧
    (∃ before, t.pre = run (step env) s before) ∧
    t.post.Extends (run (step env) s calls) := by
  have success := step_of_mem_trace mem
  obtain ⟨before, after, split⟩ := List.append_of_mem mem
  obtain ⟨calls₁, calls₂, rfl, -, here⟩ := exists_calls_of_trace_eq split
  refine ⟨success, by simp, ⟨calls₁, here.symm⟩, ?_⟩
  rw [run_append, run_cons, here, commit_ok success]
  exact extends_run t.post calls₂

/-- **Nobody takes another's token id.** The derivations of token ids are injective and never meet.
Over every run, whose hashes have no collision and in which different seeds of token managers lead to
different addresses: a token manager that no message of the hub has created was created by a
registration for the one source that its token id is derived from; and a remote deployment or link
puts into its message the token id of its own source, which is that of the manager given, so that
when the manager was registered on this chain, both have one source. -/
theorem token_ids (env : Env) (owner : Pubkey → Pubkey) (gas : GasService.GasState)
    (calls : List (Call env)) (free : Set.InjOn env.keccak (hashedBy env calls))
    (apart : env.Apart
      (ManagerNames env calls (run (step env) (World.initial owner gas) calls))) :
    let tr := trace (step env) (World.initial owner gas) calls
    (∀ source other : TokenIdSource, Set.InjOn env.keccak
        (source.inputs env.toDeployment ∪ other.inputs env.toDeployment) →
      source.tokenId env.toDeployment = other.tokenId env.toDeployment → source = other) ∧
    (∀ t ∈ tr, ∀ key tokenManager, t.pre.accounts.tokenManagers key = none →
      t.post.accounts.tokenManagers key = some tokenManager →
      t.call.executes = true ∨ ∃ source, RegistersFor env t key tokenManager source ∧
        ∀ call ∈ calls, ∀ other, call.idSource? = some other →
          other.tokenId env.toDeployment = tokenManager.tokenId → other = source) ∧
    (∀ t ∈ tr, ∀ sysvar i outside source key, t.call = .instruction sysvar i outside →
      i.remote? = some (source, key) → SendsFor env t i key source ∧
        ∀ t' ∈ tr, ∀ tokenManager registered, RegistersFor env t' key tokenManager registered →
          registered = source) := by
  intro tr
  refine ⟨fun source other free => TokenIdSource.eq_of_tokenId free Set.subset_union_left
    Set.subset_union_right, ?_, ?_⟩
  · intro t mem key tokenManager absent stored
    obtain ⟨success, called, -, -⟩ := mem_trace_extends mem
    refine (registersFor_of_step success absent stored).imp_right ?_
    rintro ⟨source, registered⟩
    refine ⟨source, registered, fun call other_mem other derives same => ?_⟩
    obtain ⟨sysvar, i, outside, isCall, registers, -⟩ := registered.call
    have sourced : t.call.idSource? = some source := by
      rw [isCall]
      simp [Call.idSource?, ItsInstruction.idSource?, registers]
    exact TokenIdSource.eq_of_tokenId free (inputs_subset_hashedBy other_mem derives)
      (inputs_subset_hashedBy called sourced) (same.trans registered.tokenId)
  · intro t mem sysvar i outside source key isCall remote
    obtain ⟨success, called, ⟨before, pre⟩, later⟩ := mem_trace_extends mem
    have processed : process env ⟨sysvar, .external, i⟩ i t.pre = .ok t.post := by
      rw [isCall] at success
      exact success
    obtain ⟨signed, tokenManager, payer, rootKey, gasValue, root, destinationChain, message, payload,
      manager, sent, tokenId⟩ := process_remote processed remote
    obtain ⟨stored, created⟩ := tokenManagerPda_eq_ok.mp manager
    have here : t.pre.RootAt env rootKey := ⟨root, itsRootPda_eq_ok.mp sent.loaded⟩
    have kept := (step_cases success).extends.trans later
    obtain ⟨flowSlot, final⟩ := kept.managers key tokenManager stored
    have sourced : t.call.idSource? = some source := by
      rw [isCall]
      cases i <;> cases remote <;> rfl
    -- the manager given is at the address of its own id and at that of the source's
    have same : tokenManager.tokenId = source.tokenId env.toDeployment := by
      have canonical := canonical_run env owner gas before
      rw [← pre] at canonical
      obtain ⟨rootKey', here', address, -⟩ := canonical key tokenManager stored
      rw [here'.unique here] at address
      exact tokenManagerSeeds_inj (apart _ _ key
        (.stored key rootKey { tokenManager with flowSlot } final (kept.rootAt here))
        (.derived t.call source rootKey called sourced (kept.rootAt here)) (derives_of_find address)
        ⟨_, created⟩)
    refine ⟨⟨signed, ⟨tokenManager, stored, same⟩, sysvar, payer, rootKey, gasValue, root,
      destinationChain, message, payload, sent, tokenId⟩, ?_⟩
    intro t' mem' new other registered
    obtain ⟨-, called', -, later'⟩ := mem_trace_extends mem'
    obtain ⟨flowSlot', final'⟩ := later'.managers key new registered.stored
    have one : tokenManager.tokenId = new.tokenId :=
      Option.some.inj (congrArg (Option.map TokenManager.tokenId) (final.symm.trans final'))
    obtain ⟨sysvar', i', outside', isCall', registers, -⟩ := registered.call
    have sourced' : t'.call.idSource? = some other := by
      rw [isCall']
      simp [Call.idSource?, ItsInstruction.idSource?, registers]
    exact TokenIdSource.eq_of_tokenId free (inputs_subset_hashedBy called' sourced')
      (inputs_subset_hashedBy called sourced) 
      (registered.tokenId.symm.trans (one.symm.trans same))

/-! ## A token of a wallet on another chain -/

/-- In the environment of a table the seeds of token managers lead to different addresses. -/
theorem tableEnv_apart_managers {table : List Bytes}
    {decodePayload : Bytes → Except Error (List AccountMeta × Bytes)} (short : table.length ≤ 256)
    (calls : List (Call (tableEnv table decodePayload))) (s : World) :
    (tableEnv table decodePayload).Apart
      (ManagerNames (tableEnv table decodePayload) calls s) := by
  have named {seeds : List Bytes} (name : ManagerNames (tableEnv table decodePayload) calls s seeds) :
      ∃ tokenId rootKey, seeds = TokenManager.pdaSeeds tokenId rootKey := by
    cases name <;> exact ⟨_, _, rfl⟩
  refine tableEnv_apart_of short fun x y hx hy same => ?_
  obtain ⟨tokenId, rootKey, rfl⟩ := named hx
  obtain ⟨tokenId', rootKey', rfl⟩ := named hy
  obtain ⟨rfl, rfl⟩ := flatten_pair_inj same
  rfl

/-- What the id of the wallet's token is derived from. -/
def walletSource : TokenIdSource := .interchain (sampleWallet 1) (Gateway.padTo 32 [])

/-- The wallet deploys its token on a chain. -/
def walletRemote (destinationChain : String) : Call walletEnv :=
  tableCall (.deployRemoteInterchainToken ⟨⟨sampleWallet 1, true⟩, ⟨sampleWallet 1, true⟩,
    sampleAddress 2, sampleAddress 4, sampleAddress 1, sampleAddress 0, sampleAddress 8,
    sampleAddress 0⟩ (Gateway.padTo 32 []) destinationChain 0) rfl

/-- The hash has no collision among what the wallet's calls hash. -/
theorem wallet_free : Set.InjOn walletEnv.keccak
    (hashedBy walletEnv (walletStart "ethereum" ++ [walletRemote "ethereum"])) := by
  have one : ((walletStart "ethereum" ++ [walletRemote "ethereum"]).all fun call =>
      call.idSource? = none || call.idSource? = some walletSource) = true := by decide +kernel
  have two {b : Bytes} (hashed : b ∈ hashedBy walletEnv
      (walletStart "ethereum" ++ [walletRemote "ethereum"])) :
      b = walletSource.saltInput walletEnv.toDeployment ∨
        b = walletSource.idInput walletEnv.toDeployment := by
    obtain ⟨call, mem, source, derives, input⟩ := hashed
    have known := List.all_eq_true.mp one call mem
    rw [derives] at known
    simp only [reduceCtorEq, Option.some.injEq, decide_false, Bool.false_or,
      decide_eq_true_eq] at known
    subst known
    exact input
  have different : walletEnv.keccak (walletSource.saltInput walletEnv.toDeployment)
      ≠ walletEnv.keccak (walletSource.idInput walletEnv.toDeployment) := by decide +kernel
  intro b hashed b' hashed' same
  rcases two hashed with rfl | rfl <;> rcases two hashed' with rfl | rfl
  · rfl
  · exact absurd same different
  · exact absurd same.symm different
  · rfl

/-- The wallet registers its token, and what it sends to the other chain has the same source. -/
theorem token_ids_sample :
    let tr := trace (step walletEnv) sampleInitial
      (walletStart "ethereum" ++ [walletRemote "ethereum"])
    ∃ t ∈ tr, ∃ tokenManager source, RegistersFor walletEnv t (sampleAddress 1) tokenManager source ∧
      ∃ t' ∈ tr, ∃ i, SendsFor walletEnv t' i (sampleAddress 1) walletSource ∧
        source = walletSource := by
  intro tr
  obtain ⟨-, created, sent⟩ := token_ids walletEnv (fun _ => sampleProgramId 4)
    ⟨none, fun _ => 0, []⟩ (walletStart "ethereum" ++ [walletRemote "ethereum"]) wallet_free
    (tableEnv_apart_managers (by decide +kernel) _ _)
  have registration : (trace (step walletEnv) sampleInitial
      (walletStart "ethereum" ++ [walletRemote "ethereum"])).any (fun t =>
        t.pre.accounts.tokenManagers (sampleAddress 1) = none &&
        (t.post.accounts.tokenManagers (sampleAddress 1)).isSome && !t.call.executes) = true := by
    decide +kernel
  obtain ⟨t, mem, registers⟩ := List.any_eq_true.mp registration
  simp only [Bool.and_eq_true, decide_eq_true_eq, Bool.not_eq_true'] at registers
  obtain ⟨⟨absent, stored⟩, notExecute⟩ := registers
  obtain ⟨tokenManager, stored⟩ := Option.isSome_iff_exists.mp stored
  rcases created t mem _ tokenManager absent stored with executes | ⟨source, registered, -⟩
  · exact absurd (notExecute.symm.trans executes) (by decide)
  · have success : step walletEnv (walletRemote "ethereum")
        (run (step walletEnv) sampleInitial (walletStart "ethereum")) = .ok _ :=
      step_eq_commit (by decide +kernel)
    obtain ⟨t', mem', called⟩ : ∃ t' ∈ tr, t'.call = walletRemote "ethereum" := by
      rw [show tr = _ from trace_concat success]
      exact ⟨_, List.mem_append_right _ (List.mem_singleton_self _), rfl⟩
    obtain ⟨sends, same⟩ := sent t' mem' _ _ _ walletSource (sampleAddress 1) called rfl
    exact ⟨t, mem, tokenManager, source, registered, t', mem', _, sends,
      same t mem _ _ registered⟩

end AxelarSolana.Its
