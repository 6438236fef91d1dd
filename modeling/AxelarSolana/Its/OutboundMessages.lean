import AxelarSolana.Gateway.ContractCalls
import AxelarSolana.Its.Environment

/-! # Messages that leave

* **`OutboundSent`** — what a successful outbound instruction leaves at the gateway and at the gas
  service, and what it has checked.
* **`process_outbound`** — every outbound instruction does so, in every state.
* **`StepCases.sentBy`** — no other call sends in the name of the service.
* **`outbound_messages`** — both, with the contract calls of a whole run. -/

namespace AxelarSolana.Its

open Fallible Machine

variable {env : Env} {ctx : Ctx} {s s' : World}

/-! ## Outbound instructions -/

/-- The instructions that send a message to the hub: the payer, the root account and the gas
value. -/
def ItsInstruction.outbound? : ItsInstruction → Option (AccountInfo × Pubkey × UInt64)
  | .interchainTransfer a _ _ _ _ gasValue _ _ _ => some (a.payer, a.itsRootPda, gasValue)
  | .deployRemoteInterchainToken a _ _ gasValue => some (a.payer, a.itsRootPda, gasValue)
  | .deployRemoteCanonicalInterchainToken a _ gasValue => some (a.payer, a.itsRootPda, gasValue)
  | .linkToken a _ _ _ _ _ gasValue => some (a.payer, a.itsRootPda, gasValue)
  | .registerTokenMetadata a gasValue => some (a.payer, a.itsRootPda, gasValue)
  | _ => none

/-- **Whose transfer it is**: that of a user account, or of the program that the authority is a
program address of. -/
inductive TransferSource (env : Env) (s : World) (authority : Pubkey) :
    Option Pubkey → Option (List Bytes) → Pubkey → Prop
  | user (owned : s.chain.owner authority = env.systemProgramId) :
      TransferSource env s authority none none authority
  | program (programId : Pubkey) (seeds : List Bytes) (bump : UInt8)
      (found : env.findProgramAddress seeds programId = .ok (authority, bump)) :
      TransferSource env s authority (some programId) (some seeds) programId

/-- **Who sends a transfer**: the program that vouches for its account, or the authority itself. -/
theorem transferSource_ok {authority source : Pubkey} {callerProgramId : Option Pubkey}
    {callerPdaSeeds : Option (List Bytes)}
    (h : transferSource env authority callerProgramId callerPdaSeeds s = .ok source) :
    TransferSource env s authority callerProgramId callerPdaSeeds source := by
  unfold transferSource at h
  split at h
  · simp only [bind_eq_ok, require_eq_ok, pure_eq_ok] at h
    obtain ⟨⟨key, bump⟩, found, _, rfl, rfl⟩ := h
    exact .program _ _ bump found
  · simp only [bind_eq_ok, require_eq_ok, pure_eq_ok] at h
    obtain ⟨_, owned, rfl⟩ := h
    exact .user owned
  · exact absurd h throw_ne_ok

/-- **The source of the transfer that is sent**: the authority signs, owns the token account that is
debited, and is the source or a program address of it. -/
inductive SourcedTransfer (env : Env) (sysvar : Sysvar) (s : World) (sourceAddress : Bytes)
    (after : TokenState) : ItsInstruction → Prop
  | intro (a : InterchainTransfer) (tokenId : Bytes32) (destinationChain : String)
      (destinationAddress : Bytes) (amount gasValue reported : UInt64)
      (callerProgramId : Option Pubkey) (callerPdaSeeds : Option (List Bytes))
      (data : Option Bytes) (tokenManager : TokenManager) (mint : Mint)
      (instruction : TokenInstruction) (source : Pubkey)
      (signed : a.authority.isSigner = true)
      (owned : s.chain.tokens.BelongsTo a.authorityTokenAccount a.authority.key)
      (takes : Takes env sysvar a mint amount tokenManager.ty reported instruction)
      (debited : env.tokens instruction [a.authority.key] s.chain.tokens = .ok after)
      (isSource : TransferSource env s a.authority.key callerProgramId callerPdaSeeds source)
      (address : sourceAddress = source.toList) :
      SourcedTransfer env sysvar s sourceAddress after
        (.interchainTransfer a tokenId destinationChain destinationAddress amount gasValue
          callerProgramId callerPdaSeeds data)

/-- **What an outbound instruction leaves**: one contract call in the name of the service, with a
message for the hub, and a payment for its gas when there is a gas value. -/
structure OutboundSent (env : Env) (sysvar : Sysvar) (i : ItsInstruction) (payer : AccountInfo)
    (rootKey : Pubkey) (gasValue : UInt64) (root : InterchainTokenService)
    (message : Encoding.HubMessage) (payload : Bytes) (s s' : World) : Prop where
  loaded : itsRootPda env rootKey s = .ok root
  unpaused : root.paused = false
  outward : (∃ metadata, message = .registerTokenMetadata metadata ∧ i.destination? = none) ∨
    ∃ destinationChain inner, message = .sendToHub destinationChain inner ∧
      i.destination? = some destinationChain ∧ root.isTrustedChain destinationChain = true
  encoded : Encoding.HubMessage.codec.encode message = some payload
  called : s'.chain.gateway.events = s.chain.gateway.events ++ [.callContract
    ⟨env.itsId, env.keccak payload, itsHubChainName, root.itsHubAddress, payload⟩]
  paid : 0 < gasValue → s'.chain.gas.paid = s.chain.gas.paid ++
    [⟨payer.key, itsHubChainName, root.itsHubAddress, env.keccak payload, gasValue, payer.key⟩]
  unpaid : gasValue = 0 → s'.chain.gas = s.chain.gas
  source : ∀ transfer, message.sentTransfer? = some transfer →
    SourcedTransfer env sysvar s transfer.sourceAddress s'.chain.tokens i

/-- A call of a token program leaves the gateway and the gas service. -/
theorem tokenCall_elsewhere {instruction : TokenInstruction} {signers : List Pubkey}
    (h : tokenCall env ctx instruction signers s = .ok s') :
    s'.chain.gateway = s.chain.gateway ∧ s'.chain.gas = s.chain.gas := by
  obtain ⟨tokens, -, rfl⟩ := tokenCall_eq_ok.mp h
  exact ⟨rfl, rfl⟩

/-- So does taking tokens. -/
theorem takeToken_elsewhere {a : InterchainTransfer} {tokenManager : TokenManager} {mint : Mint}
    {amount reported : UInt64}
    (h : takeToken env ctx a tokenManager mint amount s = .ok (reported, s')) :
    s'.chain.gateway = s.chain.gateway ∧ s'.chain.gas = s.chain.gas := by
  simp only [takeToken, bind_eq_ok, pure_eq_ok, Prod.exists, Prod.mk.injEq] at h
  obtain ⟨_, -, reported', s₁, taken, tracked, -, -, rfl⟩ := h
  show s₁.chain.gateway = _ ∧ s₁.chain.gas = _
  split at taken
  · simp only [bind_eq_ok, pure_eq_ok, Prod.mk.injEq] at taken
    obtain ⟨s₂, call, -, rfl⟩ := taken
    exact tokenCall_elsewhere call
  · simp only [bind_eq_ok, pure_eq_ok, Prod.mk.injEq] at taken
    obtain ⟨s₂, call, -, rfl⟩ := taken
    exact tokenCall_elsewhere call
  · simp only [bind_eq_ok, pure_eq_ok, Prod.mk.injEq] at taken
    obtain ⟨s₂, call, -, rfl⟩ := taken
    exact tokenCall_elsewhere call
  · simp only [bind_eq_ok, pure_eq_ok, Prod.mk.injEq] at taken
    obtain ⟨decimals, -, s₂, call, -, rfl⟩ := taken
    exact tokenCall_elsewhere call
  · simp only [bind_eq_ok, pure_eq_ok, Prod.exists, Prod.mk.injEq] at taken
    obtain ⟨fee, decimals, -, s₂, call, transferred, -, -, rfl⟩ := taken
    exact tokenCall_elsewhere call

/-- The payment for the gas of a message. -/
theorem payForGas_ok {a : GMPAccounts} {payloadHash : Bytes32} {gasValue : UInt64}
    {gas gas' : GasService.GasState} (h : payForGas a payloadHash gasValue gas = .ok gas') :
    (0 < gasValue → gas'.paid = gas.paid ++
      [⟨a.payer.key, itsHubChainName, a.itsHubAddress, payloadHash, gasValue, a.payer.key⟩]) ∧
    (gasValue = 0 → gas' = gas) := by
  unfold payForGas at h
  split at h
  case isTrue positive =>
    simp only [GasService.payGas, bind_eq_ok, pure_eq_ok] at h
    obtain ⟨_, -, treasury, -, _, -, _, -, lamports, -, rfl⟩ := h
    refine ⟨fun _ => rfl, ?_⟩
    rintro rfl
    exact absurd positive (by decide)
  case isFalse none =>
    rw [pure_eq_ok] at h
    exact ⟨fun positive => absurd positive none, fun _ => h.symm⟩

/-- **What sending a message leaves**, from a world in which the gateway and the gas service are as
they were. -/
theorem sendToHub_outboundSent {t : World} {i : ItsInstruction} {payer : AccountInfo}
    {rootKey signingPda treasury : Pubkey} {gasValue : UInt64} {root : InterchainTokenService}
    {message : Encoding.HubMessage}
    (h : sendToHub env ctx ⟨payer, signingPda, root.itsHubAddress, treasury⟩ message gasValue t
      = .ok s')
    (gateway : t.chain.gateway = s.chain.gateway) (gas : t.chain.gas = s.chain.gas)
    (loaded : unpausedRoot env rootKey s = .ok root)
    (outward : (∃ metadata, message = .registerTokenMetadata metadata ∧ i.destination? = none) ∨
      ∃ destinationChain inner, message = .sendToHub destinationChain inner ∧
        i.destination? = some destinationChain ∧ root.isTrustedChain destinationChain = true)
    (source : ∀ transfer, message.sentTransfer? = some transfer →
      SourcedTransfer env ctx.sysvar s transfer.sourceAddress t.chain.tokens i) :
    ∃ payload, OutboundSent env ctx.sysvar i payer rootKey gasValue root message payload s s' := by
  obtain ⟨payload, gateway', gas', sent, rfl⟩ := sendToHub_ok h
  obtain ⟨loaded, unpaused⟩ := unpausedRoot_eq_ok.mp loaded
  obtain ⟨bump, -, called⟩ := sent.called
  have executed : Gateway.callContract env.toEnv ⟨⟨env.itsId, false⟩, some ⟨signingPda, true⟩⟩
    itsHubChainName root.itsHubAddress payload bump t.chain.gateway = .ok gateway' := called
  obtain ⟨-, emitted⟩ := Gateway.callContract_ok executed
  -- the message is emitted by the gateway's call, and its gas is paid to the gas service
  have paid := payForGas_ok sent.paid
  rw [gas] at paid
  refine ⟨payload,
    { loaded
      unpaused
      outward
      encoded := sent.encoded
      called := ?_
      paid := paid.1
      unpaid := paid.2
      source }⟩
  show gateway'.events = _
  rw [emitted, gateway]
  rfl

/-- The root account of an instruction that sends to a chain. -/
theorem remoteRoot_ok {key : Pubkey} {destinationChain : String} {root : InterchainTokenService}
    (h : remoteRoot env key destinationChain s = .ok root) :
    unpausedRoot env key s = .ok root ∧ root.isTrustedChain destinationChain = true := by
  simp only [remoteRoot, bind_eq_ok, require_eq_ok, pure_eq_ok] at h
  obtain ⟨_, loaded, _, -, _, trusted, rfl⟩ := h
  exact ⟨loaded, trusted⟩

/-- The root is not paused and trusts the destination chain. -/
theorem trustingRoot_ok {key : Pubkey} {destinationChain : String} {root : InterchainTokenService}
    (h : trustingRoot env key destinationChain s = .ok root) :
    unpausedRoot env key s = .ok root ∧ root.isTrustedChain destinationChain = true := by
  simp only [trustingRoot, bind_eq_ok, require_eq_ok, pure_eq_ok] at h
  obtain ⟨_, loaded, _, trusted, rfl⟩ := h
  exact ⟨loaded, trusted⟩

/-- A remote deployment of an interchain token names the token id of its deployer and salt. -/
theorem deployRemoteInterchainToken_sent {a : DeployRemoteInterchainToken} {salt : Bytes32}
    {destinationChain : String} {gasValue : UInt64}
    (h : deployRemoteInterchainToken env ctx a salt destinationChain gasValue s = .ok s') :
    ∃ tokenManager root name symbol decimals payload, a.deployer.isSigner = true ∧
      tokenManagerPda env a.itsRootPda (env.interchainTokenId a.deployer.key salt)
        a.tokenManagerPda s = .ok tokenManager ∧
      OutboundSent env ctx.sysvar (.deployRemoteInterchainToken a salt destinationChain gasValue)
        a.payer a.itsRootPda gasValue root (.sendToHub destinationChain (.deployInterchainToken
          ⟨env.interchainTokenId a.deployer.key salt, name, symbol, decimals, none⟩)) payload
        s s' := by
  simp only [deployRemoteInterchainToken, sendToHubWrap, bind_eq_ok] at h
  obtain ⟨_, -, _, signed, mint, -, found, -, _, -, _, -, tokenManager, manager, _, -, root, remote,
    ⟨name, symbol⟩, -, sent⟩ := h
  obtain ⟨loaded, trusted⟩ := remoteRoot_ok remote
  obtain ⟨payload, leaves⟩ := sendToHub_outboundSent (s := s)
    (i := .deployRemoteInterchainToken a salt destinationChain gasValue) sent rfl rfl loaded
    (.inr ⟨_, _, rfl, rfl, trusted⟩) (by rintro _ ⟨⟩)
  exact ⟨tokenManager, root, name, symbol, mint.decimals, payload, Gateway.signer_eq_ok.mp signed,
    manager, leaves⟩

/-- That of a canonical token names the token id of its mint. -/
theorem deployRemoteCanonicalInterchainToken_sent {a : DeployRemoteCanonicalInterchainToken}
    {destinationChain : String} {gasValue : UInt64}
    (h : deployRemoteCanonicalInterchainToken env ctx a destinationChain gasValue s = .ok s') :
    ∃ tokenManager root name symbol decimals payload,
      tokenManagerPda env a.itsRootPda (env.canonicalInterchainTokenId a.tokenMint)
        a.tokenManagerPda s = .ok tokenManager ∧
      OutboundSent env ctx.sysvar (.deployRemoteCanonicalInterchainToken a destinationChain gasValue)
        a.payer a.itsRootPda gasValue root (.sendToHub destinationChain (.deployInterchainToken
          ⟨env.canonicalInterchainTokenId a.tokenMint, name, symbol, decimals, none⟩)) payload
        s s' := by
  simp only [deployRemoteCanonicalInterchainToken, sendToHubWrap, bind_eq_ok] at h
  obtain ⟨_, -, mint, -, _, -, tokenManager, manager, _, -, root, remote, ⟨name, symbol⟩, -, sent⟩ :=
    h
  obtain ⟨loaded, trusted⟩ := remoteRoot_ok remote
  obtain ⟨payload, leaves⟩ := sendToHub_outboundSent (s := s)
    (i := .deployRemoteCanonicalInterchainToken a destinationChain gasValue) sent rfl rfl loaded
    (.inr ⟨_, _, rfl, rfl, trusted⟩) (by rintro _ ⟨⟩)
  exact ⟨tokenManager, root, name, symbol, mint.decimals, payload, manager, leaves⟩

/-- A link names the token id of its deployer and salt. -/
theorem linkToken_sent {a : LinkToken} {salt : Bytes32} {destinationChain : String}
    {destinationTokenAddress : Bytes} {tokenManagerType : TokenManagerType} {linkParams : Bytes}
    {gasValue : UInt64}
    (h : linkToken env ctx a salt destinationChain destinationTokenAddress tokenManagerType
      linkParams gasValue s = .ok s') :
    ∃ tokenManager root params payload, a.deployer.isSigner = true ∧
      tokenManagerPda env a.itsRootPda
        (env.interchainTokenIdInternal (env.linkedTokenDeployerSalt a.deployer.key salt))
        a.tokenManagerPda s = .ok tokenManager ∧
      OutboundSent env ctx.sysvar (.linkToken a salt destinationChain destinationTokenAddress
          tokenManagerType linkParams gasValue) a.payer a.itsRootPda gasValue root
        (.sendToHub destinationChain (.linkToken
          ⟨env.interchainTokenIdInternal (env.linkedTokenDeployerSalt a.deployer.key salt),
            tokenManagerType.toByte, tokenManager.tokenAddress.toList, destinationTokenAddress,
            params⟩)) payload s s' := by
  simp only [linkToken, sendToHubWrap, bind_eq_ok] at h
  obtain ⟨_, -, _, signed, root, remote, tokenManager, manager, _, -, _, -, sent⟩ := h
  obtain ⟨loaded, trusted⟩ := remoteRoot_ok remote
  obtain ⟨payload, leaves⟩ := sendToHub_outboundSent (s := s)
    (i := .linkToken a salt destinationChain destinationTokenAddress tokenManagerType linkParams
      gasValue) sent rfl rfl loaded
    (.inr ⟨_, _, rfl, rfl, trusted⟩) (by rintro _ ⟨⟩)
  exact ⟨tokenManager, root, _, payload, Gateway.signer_eq_ok.mp signed, manager, leaves⟩

/-- **Every outbound instruction** leaves one message for the hub. -/
theorem process_outbound {i : ItsInstruction} {payer : AccountInfo} {rootKey : Pubkey}
    {gasValue : UInt64} (h : process env ctx i s = .ok s')
    (outbound : i.outbound? = some (payer, rootKey, gasValue)) : ∃ root message payload,
      OutboundSent env ctx.sysvar i payer rootKey gasValue root message payload s s' := by
  cases i with
  | interchainTransfer a tokenId destinationChain destinationAddress amount gas callerProgramId
      callerPdaSeeds data =>
    cases outbound
    have executed : interchainTransfer env ctx a tokenId destinationChain destinationAddress amount
      gasValue callerProgramId callerPdaSeeds data s = .ok s' := h
    simp only [interchainTransfer, processOutboundTransfer, sendToHubWrap, bind_eq_ok, Prod.exists]
      at executed
    obtain ⟨_, -, _, signed, root, trusting, tokenManager, manager, _, -, _, -, mint, -, account,
      stored, _, -, _, belongs, _, -, escrow, -, _, -, _, -, _, -, source, isSource, reported, s₁,
      taken, sent⟩ := executed
    -- taking the tokens changes neither the gateway nor the gas service
    obtain ⟨instruction, tracked, takes, debited, -⟩ :=
      takeToken_ok taken (tokenManagerPda_eq_ok.mp manager).1
    obtain ⟨gateway, gas⟩ := takeToken_elsewhere taken
    obtain ⟨loaded, trusted⟩ := trustingRoot_ok trusting
    rw [tokenAccount_eq_ok] at stored
    rw [require_eq_ok] at belongs
    obtain ⟨payload, leaves⟩ := sendToHub_outboundSent sent gateway gas loaded
      (.inr ⟨_, _, rfl, rfl, trusted⟩) (by
        rintro transfer ⟨rfl⟩
        exact .intro a tokenId destinationChain destinationAddress amount gasValue reported
          callerProgramId callerPdaSeeds data tokenManager mint instruction source
          (Gateway.signer_eq_ok.mp signed) ⟨account, stored, belongs⟩ takes debited
          (transferSource_ok isSource) rfl)
    exact ⟨root, _, payload, leaves⟩
  | deployRemoteInterchainToken a salt destinationChain gas =>
    cases outbound
    obtain ⟨_, root, _, _, _, payload, -, -, leaves⟩ := deployRemoteInterchainToken_sent h
    exact ⟨root, _, payload, leaves⟩
  | deployRemoteCanonicalInterchainToken a destinationChain gas =>
    cases outbound
    obtain ⟨_, root, _, _, _, payload, -, leaves⟩ := deployRemoteCanonicalInterchainToken_sent h
    exact ⟨root, _, payload, leaves⟩
  | linkToken a salt destinationChain destinationTokenAddress tokenManagerType linkParams gas =>
    cases outbound
    obtain ⟨_, root, _, payload, -, -, leaves⟩ := linkToken_sent h
    exact ⟨root, _, payload, leaves⟩
  | registerTokenMetadata a gas =>
    cases outbound
    have executed : registerTokenMetadata env ctx a gasValue s = .ok s' := h
    simp only [registerTokenMetadata, bind_eq_ok] at executed
    obtain ⟨_, -, mint, -, root, loaded, sent⟩ := executed
    obtain ⟨payload, leaves⟩ := sendToHub_outboundSent (s := s)
      (i := .registerTokenMetadata a gasValue) sent rfl rfl loaded
      (.inl ⟨_, rfl, rfl⟩) (by rintro _ ⟨⟩)
    exact ⟨root, _, payload, leaves⟩
  | _ => cases outbound

/-! ## Nothing else sends -/

/-- **The signatures that speak for the service** at the gateway: its own, and that of its
call-contract address. -/
def Deployment.SpeaksFor (env : Deployment) (key : Pubkey) : Prop :=
  key = env.itsId ∨ env.Derives [Gateway.CallContractSigner.seedPrefix] key

/-- Nobody outside speaks for the service. -/
theorem Deployment.SignsOutside.silent {key : Pubkey} (h : env.SignsOutside key) :
    ¬ env.SpeaksFor key := by
  rintro (same | derived)
  · exact h.1 same
  · exact derived.not_outside h

/-- A call in the name of the service carries a signature that speaks for it. -/
theorem exists_speaksFor {accounts : Gateway.CallContract} {chain address : String}
    {payload : Bytes} {bump : UInt8} (h : Gateway.SignedFor env.toEnv env.itsId accounts) :
    ∃ key ∈ gatewaySigners (.callContract accounts chain address payload bump),
      env.SpeaksFor key := by
  cases signed : accounts.caller.isSigner with
  | true =>
    refine ⟨accounts.caller.key, mem_signersOfInfos.mpr ⟨_, List.mem_cons_self, signed, rfl⟩, ?_⟩
    exact .inl h.caller
  | false =>
    obtain ⟨pda, bump, created, given⟩ := h.signed signed
    refine ⟨pda, mem_signersOfInfos.mpr ⟨⟨pda, true⟩, ?_, rfl, rfl⟩, .inr ⟨bump, created⟩⟩
    rw [given]
    exact List.mem_cons_of_mem _ List.mem_cons_self

/-- An external call without such a signature sends nothing in the name of the service. -/
theorem ExternalCall.sentBy {call : ExternalCall} {chain chain' : Chain}
    (h : call.run env chain = .ok chain') (silent : ∀ key ∈ call.signers, ¬ env.SpeaksFor key) :
    chain'.gateway.sentBy env.itsId = chain.gateway.sentBy env.itsId := by
  cases call with
  | tokens instruction signers =>
    simp only [ExternalCall.run, bind_eq_ok, pure_eq_ok] at h
    obtain ⟨tokens, -, rfl⟩ := h
    rfl
  | gateway call =>
    simp only [ExternalCall.run, bind_eq_ok, pure_eq_ok] at h
    obtain ⟨gateway, processed, rfl⟩ := h
    rcases Gateway.process_sentBy processed env.itsId with same |
      ⟨accounts, address, chain, payload, bump, called, signed⟩
    · exact same
    · obtain ⟨key, mem, speaks⟩ := exists_speaksFor signed
      refine absurd speaks (silent key ?_)
      rw [ExternalCall.signers, called]
      exact mem
  | environment owner gas =>
    simp only [ExternalCall.run, pure_eq_ok] at h
    rw [← h]

/-- Calls that nobody signs who speaks for the service leave what it has sent. -/
theorem ExternalCall.sentBy_foldlM {calls : List ExternalCall} {chain chain' : Chain}
    (h : calls.foldlM (fun chain call => call.run env chain) chain = .ok chain')
    (silent : ∀ call ∈ calls, ∀ key ∈ call.signers, ¬ env.SpeaksFor key) :
    chain'.gateway.sentBy env.itsId = chain.gateway.sentBy env.itsId := by
  induction calls generalizing chain with
  | nil =>
    rw [List.foldlM_nil, pure_eq_ok] at h
    rw [h]
  | cons call calls ih =>
    rw [List.foldlM_cons, bind_eq_ok] at h
    obtain ⟨chain₁, first, rest⟩ := h
    rw [ih rest fun c mem => silent c (List.mem_cons_of_mem _ mem)]
    exact ExternalCall.sentBy first (silent call List.mem_cons_self)

/-- **Events that send nothing**: no message for the hub, and no call of a destination program with a
signature that speaks for the service. -/
structure Sendless (env : Env) (l : List LogEvent) : Prop where
  unsent : ∀ message, LogEvent.sent message ∉ l
  silent : ∀ call, LogEvent.destinationCalled call ∈ l → ∀ key, env.Signable call.programId key →
    ¬ env.SpeaksFor key

/-- A move that reports nothing sent leaves what the service has sent. -/
theorem Move.sentBy {l : List LogEvent} (h : Move env ctx s l s') (sendless : Sendless env l) :
    s'.chain.gateway.sentBy env.itsId = s.chain.gateway.sentBy env.itsId := by
  cases h with
  | send a message gasValue payload gateway gas sent =>
    exact absurd List.mem_cons_self (sendless.unsent message)
  | validate sysvar accounts message gateway processed =>
    rcases Gateway.process_sentBy processed env.itsId with same | ⟨_, _, _, _, _, called, -⟩
    · exact same
    · cases called
  | callDestination call effect chain signable run =>
    refine ExternalCall.sentBy_foldlM run fun c mem key signs => ?_
    rcases effect.2 c mem key signs with given | outside
    · exact sendless.silent call List.mem_cons_self key (signable key given)
    · exact outside.silent
  | _ => rfl

/-- **A sequence of moves without such events** sends nothing. -/
theorem Performs.sentBy {l : List LogEvent} (h : Performs env ctx s l s')
    (sendless : Sendless env l) :
    s'.chain.gateway.sentBy env.itsId = s.chain.gateway.sentBy env.itsId := by
  obtain ⟨all, run, rfl⟩ := h
  have whole : Sendless env all :=
    ⟨fun message mem => sendless.unsent message (List.mem_filter.mpr ⟨mem, rfl⟩),
      fun call mem => sendless.silent call (List.mem_filter.mpr ⟨mem, rfl⟩)⟩
  clear sendless
  induction run with
  | refl => rfl
  | step first rest ih =>
    rw [ih ⟨fun message mem => whole.unsent message (List.mem_append_right _ mem),
      fun call mem => whole.silent call (List.mem_append_right _ mem)⟩]
    exact first.sentBy ⟨fun message mem => whole.unsent message (List.mem_append_left _ mem),
      fun call mem => whole.silent call (List.mem_append_left _ mem)⟩

/-- Granting roles sends nothing. -/
theorem Granted.unsent {accounts accounts' : Accounts} {resource : Pubkey} {roles : UInt8}
    {l : List LogEvent} (h : Granted env accounts resource roles l accounts')
    (message : Encoding.HubMessage) : LogEvent.sent message ∉ l := by
  cases h with
  | nobody => exact List.not_mem_nil
  | user user key bump fresh address =>
    intro mem
    cases List.mem_singleton.mp mem

/-- Registering a manager sends nothing. -/
theorem Registered.unsent {key : Pubkey} {tokenManager : TokenManager} {l : List LogEvent}
    (h : Registered env key tokenManager l s s') (message : Encoding.HubMessage) :
    LogEvent.sent message ∉ l := by
  obtain ⟨accounts, granted, -⟩ := h.accounts
  exact granted.unsent message

/-- **Only outbound instructions send a message.** -/
theorem Effect.unsent {sysvar : Sysvar} {i : ItsInstruction} {l : List LogEvent}
    (h : Effect env sysvar s i l s') (inward : i.isOutbound = false)
    (message : Encoding.HubMessage) : LogEvent.sent message ∉ l := by
  intro mem
  cases h with
  | sends i message s' outbound noTransfer remote accounts =>
    rw [outbound] at inward
    cases inward
  | transfers => cases inward
  | registers i key tokenManager granted s' existing registered =>
    rcases List.mem_cons.mp mem with new | mem
    · cases new
    · exact registered.unsent message mem
  | deploys a salt name symbol decimals initialSupply tokenManager granted t₁ t₂ t₃ s' native address
      deployed registered =>
    simp only [List.mem_cons, List.mem_append, reduceCtorEq, List.not_mem_nil, or_false,
      false_or] at mem
    rcases mem with mem | supply
    · exact registered.unsent message mem
    · unfold initialSupplyEvents at supply
      split at supply
      · cases List.mem_singleton.mp supply
      · cases supply
  | _ =>
    -- at most one event, and no message
    first
      | cases List.mem_singleton.mp mem
      | cases mem

/-- **The instructions that receive send nothing.** -/
theorem Received.unsent {sysvar : Sysvar} {outer : Execute} {received : Message}
    {sourceChain : String} {inner : Encoding.Message} {i : ItsInstruction} {l : List LogEvent}
    (h : Received env sysvar outer received sourceChain s inner i l s')
    (message : Encoding.HubMessage) : LogEvent.sent message ∉ l := by
  intro mem
  cases h with
  | transfer a transfer destination transferred tokenManager tracked m instruction before after
      called s' manager parsed signers inbound calls accounts =>
    simp only [List.mem_cons, reduceCtorEq, false_or] at mem
    cases calls with
    | quiet noData => cases mem
    | invoked data vouching listed call invoked => cases List.mem_singleton.mp mem
  | deploy a deploy bump rolesBump after s' inbound registered =>
    simp only [List.mem_cons, reduceCtorEq, false_or] at mem
    exact registered.unsent message mem
  | link a link destinationTokenAddress ty bump rolesBump s' parsed inbound registered =>
    simp only [List.mem_cons, reduceCtorEq, false_or] at mem
    exact registered.unsent message mem

/-- **What no program address of the service is**: the address of the service itself. -/
def Deployment.NeverOwn (env : Deployment) (names : List Bytes → Prop) : Prop :=
  ∀ seeds, names seeds → ¬ env.Derives seeds env.itsId

/-- A destination program is called with no signature that speaks for the service. -/
theorem Performs.silent {l : List LogEvent} (h : Performs env ctx s l s')
    {names : List Bytes → Prop} (apart : env.Apart names) (own : env.NeverOwn names)
    (named : ∀ seeds, s'.Names env seeds → names seeds) :
    ∀ call, LogEvent.destinationCalled call ∈ l → ∀ key, env.Signable call.programId key →
      ¬ env.SpeaksFor key := by
  intro call mem key signable speaks
  obtain ⟨entry, logged, called⟩ := h.mem_log mem
  have vouching := named _ (.destination entry call logged called)
  rcases speaks with rfl | derived
  · rcases signable with outside | root | vouches
    · exact outside.1 rfl
    · exact own _ (named _ .root) root
    · exact own _ vouching vouches
  · exact apart.not_signable (named _ .callContract) derived (named _ .root) vouching
      callContractSeeds_ne_root callContractSeeds_ne_execute signable

/-- **No other call sends in the name of the service.** -/
theorem StepCases.sentBy {call : Call env} (h : StepCases env s call s')
    {names : List Bytes → Prop} (apart : env.Apart names) (own : env.NeverOwn names)
    (named : ∀ seeds, s'.Names env seeds → names seeds)
    (inward : ∀ sysvar i outside, call = .instruction sysvar i outside → i.isOutbound = false) :
    s'.chain.gateway.sentBy env.itsId = s.chain.gateway.sentBy env.itsId := by
  cases h with
  | external call outside chain run =>
    exact ExternalCall.sentBy run fun key mem => (outside key mem).silent
  | own sysvar i outside l s' notInner notExecute effect performs =>
    exact performs.sentBy ⟨effect.unsent (inward _ _ _ rfl), performs.silent apart own named⟩
  | execute sysvar a message payload outside sourceChain inner gateway i l s' accepts received
      performs =>
    rw [performs.sentBy ⟨received.unsent, performs.silent apart own named⟩]
    refine (accepting_performs accepts).sentBy ⟨fun message mem => ?_, fun call mem => ?_⟩
    · cases List.mem_singleton.mp mem
    · cases List.mem_singleton.mp mem

/-! ## Whole runs -/

/-- **The contract calls in the name of the service** that a committed call makes. -/
def hubCalls (env : Env) (t : Transition World (Call env)) : List Gateway.CallContractEvent :=
  (t.post.chain.gateway.sentBy env.itsId).drop (t.pre.chain.gateway.sentBy env.itsId).length

/-- **A committed call that sends one message**: an outbound instruction. -/
inductive SendsOne (env : Env) (t : Transition World (Call env)) : Gateway.CallContractEvent → Prop
  | intro (sysvar : Sysvar) (i : ItsInstruction)
      (outside : ∀ key ∈ i.signers, env.SignsOutside key) (payer : AccountInfo) (rootKey : Pubkey)
      (gasValue : UInt64) (root : InterchainTokenService) (message : Encoding.HubMessage)
      (payload : Bytes) (call : t.call = .instruction sysvar i outside)
      (outbound : i.outbound? = some (payer, rootKey, gasValue))
      (sent : OutboundSent env sysvar i payer rootKey gasValue root message payload t.pre t.post) :
      SendsOne env t
        ⟨env.itsId, env.keccak payload, itsHubChainName, root.itsHubAddress, payload⟩

/-- An outbound instruction names its payer, the root account and the gas value. -/
theorem exists_outbound {i : ItsInstruction} (h : i.isOutbound = true) :
    ∃ payer rootKey gasValue, i.outbound? = some (payer, rootKey, gasValue) := by
  cases i with
  | interchainTransfer | deployRemoteInterchainToken | deployRemoteCanonicalInterchainToken
  | linkToken | registerTokenMetadata => exact ⟨_, _, _, rfl⟩
  | _ => cases h

/-- The contract call of an outbound instruction is one in the name of the service. -/
theorem OutboundSent.sentBy {sysvar : Sysvar} {i : ItsInstruction} {payer : AccountInfo}
    {rootKey : Pubkey} {gasValue : UInt64} {root : InterchainTokenService}
    {message : Encoding.HubMessage} {payload : Bytes}
    (h : OutboundSent env sysvar i payer rootKey gasValue root message payload s s') :
    s'.chain.gateway.sentBy env.itsId = s.chain.gateway.sentBy env.itsId ++
      [⟨env.itsId, env.keccak payload, itsHubChainName, root.itsHubAddress, payload⟩] := by
  simp [Gateway.GatewayState.sentBy, h.called, Gateway.GatewayEvent.sentBy?]

/-- **The contract calls of one committed call**: those before stay, and it adds at most one. -/
theorem hubCalls_of_step {names : List Bytes → Prop} (apart : env.Apart names)
    (own : env.NeverOwn names) {call : Call env} (success : step env call s = .ok s')
    (named : ∀ seeds, s'.Names env seeds → names seeds) :
    s'.chain.gateway.sentBy env.itsId
      = s.chain.gateway.sentBy env.itsId ++ hubCalls env ⟨s, call, s'⟩ ∧
    (hubCalls env ⟨s, call, s'⟩ = [] ∨
      ∃ event, hubCalls env ⟨s, call, s'⟩ = [event] ∧ SendsOne env ⟨s, call, s'⟩ event) := by
  by_cases outbound : ∃ sysvar i outside, call = .instruction sysvar i outside ∧
      i.isOutbound = true
  · obtain ⟨sysvar, i, outside, rfl, outbound⟩ := outbound
    obtain ⟨payer, rootKey, gasValue, outbound⟩ := exists_outbound outbound
    have processed : process env ⟨sysvar, .external, i⟩ i s = .ok s' := success
    obtain ⟨root, message, payload, sent⟩ := process_outbound processed outbound
    have added := sent.sentBy
    have one : hubCalls env ⟨s, .instruction sysvar i outside, s'⟩
        = [⟨env.itsId, env.keccak payload, itsHubChainName, root.itsHubAddress, payload⟩] := by
      rw [hubCalls, added]
      exact List.drop_left
    rw [one]
    exact ⟨added, .inr ⟨_, rfl, .intro sysvar i outside payer rootKey gasValue root message payload
      rfl outbound sent⟩⟩
  · have same := (step_cases success).sentBy apart own named fun sysvar i outside is => by
      by_contra sends
      exact outbound ⟨sysvar, i, outside, is, by simpa using sends⟩
    have none : hubCalls env ⟨s, call, s'⟩ = [] := by
      rw [hubCalls, same]
      exact List.drop_length
    rw [none, List.append_nil]
    exact ⟨same, .inl rfl⟩

/-- **What leaves in the name of the service.** Every outbound instruction that succeeds, in whatever
state and context, sends one message for the hub, outward and within the policy, from the
authenticated source, and pays for its gas exactly when there is a gas value. And in every run, the
contract calls in the name of the service are those of its outbound instructions, one each. -/
theorem outbound_messages (env : Env) (owner : Pubkey → Pubkey) (gas : GasService.GasState)
    (calls : List (Call env)) :
    let tr := trace (step env) (World.initial owner gas) calls
    let final := run (step env) (World.initial owner gas) calls
    (∀ (ctx : Ctx) (i : ItsInstruction) (s s' : World) (payer : AccountInfo) (rootKey : Pubkey)
      (gasValue : UInt64), process env ctx i s = .ok s' →
      i.outbound? = some (payer, rootKey, gasValue) → ∃ root message payload,
        OutboundSent env ctx.sysvar i payer rootKey gasValue root message payload s s') ∧
    (env.Apart (final.Names env) → env.NeverOwn (final.Names env) →
      final.chain.gateway.sentBy env.itsId = tr.flatMap (hubCalls env) ∧
      ∀ t ∈ tr, hubCalls env t = [] ∨ ∃ event, hubCalls env t = [event] ∧ SendsOne env t event) := by
  intro tr final
  refine ⟨fun ctx i s s' payer rootKey gasValue => process_outbound, fun apart own => ?_⟩
  -- generalised over the world that is reached, whose seeds are among those of the last
  suffices whole : (∀ seeds, final.Names env seeds → final.Names env seeds) →
      final.chain.gateway.sentBy env.itsId = tr.flatMap (hubCalls env) ∧
      ∀ t ∈ tr, hubCalls env t = [] ∨ ∃ event, hubCalls env t = [event] ∧ SendsOne env t event from
    whole fun _ named => named
  refine run_trace_induction
    (P := fun (tr : List (Transition World (Call env))) s =>
      (∀ seeds, s.Names env seeds → final.Names env seeds) →
        s.chain.gateway.sentBy env.itsId = tr.flatMap (hubCalls env) ∧
        ∀ t ∈ tr, hubCalls env t = [] ∨
          ∃ event, hubCalls env t = [event] ∧ SendsOne env t event) ?_ ?_ calls
  · intro named
    exact ⟨rfl, fun t mem => by cases mem⟩
  · intro tr s call s' ih success named
    obtain ⟨before, each⟩ := ih fun seeds names =>
      named seeds ((step_cases success).extends.names names)
    obtain ⟨added, last⟩ := hubCalls_of_step apart own success named
    refine ⟨?_, fun t mem => ?_⟩
    · rw [List.flatMap_append, List.flatMap_singleton, ← before]
      exact added
    · rcases List.mem_append.mp mem with old | new
      · exact each t old
      · rw [List.mem_singleton.mp new]
        exact last

/-- In the environment of a table the service is not one of its own addresses. -/
theorem tableEnv_neverOwn {table : List Bytes}
    {decodePayload : Bytes → Except Error (List AccountMeta × Bytes)} (names : List Bytes → Prop) :
    (tableEnv table decodePayload).NeverOwn names := by
  rintro seeds - ⟨bump, created⟩
  obtain ⟨i, -, -, same⟩ := exists_of_createProgramAddress created
  have first := congrArg List.Vector.head same
  cases first

/-- A wallet sends tokens, and one message leaves for it. -/
theorem outbound_messages_sample :
    ∃ t ∈ trace (step walletEnv) sampleInitial
        (walletStart "ethereum" ++ [walletTransfer Gateway.sampleSysvar "ethereum" 5]),
      ∃ event, hubCalls walletEnv t = [event] ∧ SendsOne walletEnv t event := by
  obtain ⟨sent, each⟩ := (outbound_messages walletEnv (fun _ => sampleProgramId 4)
    ⟨none, fun _ => 0, []⟩
    (walletStart "ethereum" ++ [walletTransfer Gateway.sampleSysvar "ethereum" 5])).2
    (tableEnv_apart (by decide +kernel) _) (tableEnv_neverOwn _)
  have some : (run (step walletEnv) sampleInitial (walletStart "ethereum" ++
      [walletTransfer Gateway.sampleSysvar "ethereum" 5])).chain.gateway.sentBy walletEnv.itsId
        ≠ [] := by
    decide +kernel
  by_contra absent
  refine some (sent.trans (List.flatMap_eq_nil_iff.mpr fun t mem => ?_))
  rcases each t mem with none | one
  · exact none
  · exact absurd ⟨t, mem, one⟩ absent

end AxelarSolana.Its
