import AxelarSolana.Gateway.Session

/-! # The instructions of the gateway

Every instruction the program exposes, as a function from the gateway state to the new state:
the account constraints first, in the order in which the source lists them, then the handler.

* **`GatewayInstruction`** — an instruction with its accounts and arguments.
* **`process`** — the effect of one call; the machine whose runs the later files speak about.
* the `_ok` lemmas — one for each instruction: what a successful call has checked, and the state
  it leaves. -/

namespace AxelarSolana.Gateway

open Fallible

/-! ## Accounts and arguments -/

/-- Accounts of `call_contract`. -/
structure CallContract where
  caller : AccountInfo
  signingPda : Option AccountInfo
  deriving DecidableEq

/-- Accounts of `initialize_config`. -/
structure InitializeConfig where
  upgradeAuthority : AccountInfo
  deriving DecidableEq

/-- An initial verifier set with its hash and its tracker's address. -/
structure InitialVerifierSet where
  hash : Bytes32
  pda : Pubkey
  deriving DecidableEq

/-- Arguments of `initialize_config`. -/
structure InitializeConfigParams where
  domainSeparator : Bytes32
  initialVerifierSet : InitialVerifierSet
  minimumRotationDelay : UInt64
  operator : Pubkey
  previousVerifierRetention : U256
  deriving DecidableEq

/-- Accounts of `initialize_payload_verification_session`. -/
structure InitializePayloadVerificationSession where
  verificationSessionAccount : SessionKey
  verifierSetTrackerPda : Bytes32
  deriving DecidableEq

/-- Accounts of `verify_signature`. -/
structure VerifySignature where
  verificationSessionAccount : SessionKey
  verifierSetTrackerPda : Bytes32
  deriving DecidableEq

/-- Accounts of `approve_message`. -/
structure ApproveMessage where
  verificationSessionAccount : SessionKey
  incomingMessagePda : Bytes32
  deriving DecidableEq

/-- Accounts of `validate_message`. -/
structure ValidateMessage where
  incomingMessagePda : Bytes32
  caller : AccountInfo
  deriving DecidableEq

/-- Accounts of `rotate_signers`. -/
structure RotateSigners where
  verificationSessionAccount : SessionKey
  verifierSetTrackerPda : Bytes32
  newVerifierSetTracker : Bytes32
  operator : Option AccountInfo
  deriving DecidableEq

/-- Accounts of `transfer_operatorship`. -/
structure TransferOperatorship where
  operatorOrUpgradeAuthority : AccountInfo
  newOperator : Pubkey
  deriving DecidableEq

/-! ## Handlers -/

section

variable (env : Env) (sysvar : Sysvar)

/-- The canonical bump of an account of this program, as `ctx.bumps` reports it. -/
def canonicalBump (seeds : List Bytes) : Except Error UInt8 := do
  let found ← env.findProgramAddress seeds env.gatewayId
  pure found.2

/-- A `Signer` account. -/
def signer (account : AccountInfo) : Except Error Unit :=
  require account.isSigner (.anchor .accountNotSigner)

/-- `call_contract`. A caller that does not sign itself is a program, and must present the
signature of its call-contract address. -/
def callContract (accounts : CallContract) (destinationChain destinationContractAddress : String)
    (payload : Bytes) (signingPdaBump : UInt8) (s : GatewayState) :
    Except Error GatewayState := do
  let _config ← s.loadConfig
  (match accounts.signingPda with
    | some pda => signer pda
    | none => pure ())
  (if accounts.caller.isSigner then pure ()
    else do
      let expectedSigningPda ←
        CallContractSigner.createPda env.toSyscalls signingPdaBump accounts.caller.key
      let pda ← okOr accounts.signingPda GatewayError.invalidSigningPDA.err
      require (pda.key = expectedSigningPda) GatewayError.invalidSigningPDA.err)
  pure (s.emit (.callContract
    { sender := accounts.caller.key
      payloadHash := env.keccak payload
      destinationChain
      destinationContractAddress
      payload }))

/-- `initialize_config`. -/
def initializeConfig (accounts : InitializeConfig) (params : InitializeConfigParams)
    (s : GatewayState) : Except Error GatewayState := do
  signer accounts.upgradeAuthority
  -- accounts are created before the constraints of the others are checked
  let bump ← canonicalBump env [GatewayConfig.seedPrefix]
  require (s.config = none) Error.accountAlreadyInUse
  let trackerBump ← canonicalBump env
    [VerifierSetTracker.seedPrefix, params.initialVerifierSet.hash.toList]
  require (s.trackers params.initialVerifierSet.hash = none) Error.accountAlreadyInUse
  require (sysvar.upgradeAuthorityAddress env.gatewayId = some accounts.upgradeAuthority.key)
    GatewayError.invalidUpgradeAuthority.err
  let lastRotationTimestamp ← okOr (tryIntoU64 sysvar.unixTimestamp)
    GatewayError.invalidTimestamp.err
  let config : GatewayConfig :=
    { currentEpoch := 1
      previousVerifierSetRetention := params.previousVerifierRetention
      minimumRotationDelay := params.minimumRotationDelay
      lastRotationTimestamp
      operator := params.operator
      domainSeparator := params.domainSeparator
      bump }
  pure ({ s with config := some config }.setTracker params.initialVerifierSet.hash
    { bump := trackerBump, epoch := 1, verifierSetHash := params.initialVerifierSet.hash })

/-- `initialize_payload_verification_session`. -/
def initializePayloadVerificationSession (accounts : InitializePayloadVerificationSession)
    (merkleRoot : Bytes32) (payloadType : PayloadType) (s : GatewayState) :
    Except Error GatewayState := do
  let config ← s.loadConfig
  let tracker ← s.loadTracker accounts.verifierSetTrackerPda
  let key : SessionKey := ⟨merkleRoot, payloadType, tracker.verifierSetHash⟩
  let bump ← canonicalBump env key.pdaSeeds
  require (accounts.verificationSessionAccount = key) (.anchor .constraintSeeds)
  require (s.sessions key = none) Error.accountAlreadyInUse
  require (accounts.verifierSetTrackerPda = tracker.verifierSetHash) (.anchor .constraintSeeds)
  require (config.assertValidEpoch tracker.epoch = .ok ()) GatewayError.verifierSetTooOld.err
  pure (s.setSession key
    { signatureVerification :=
        { accumulatedThreshold := U128.zero
          signatureSlots := 0
          signingVerifierSetHash := tracker.verifierSetHash }
      bump })

/-- `verify_signature`. -/
def verifySignature (accounts : VerifySignature) (payloadMerkleRoot : Bytes32)
    (verifierInfo : SigningVerifierSetInfo) (s : GatewayState) : Except Error GatewayState := do
  let config ← s.loadConfig
  let session ← s.loadSession accounts.verificationSessionAccount
  let tracker ← s.loadTracker accounts.verifierSetTrackerPda
  -- Check: Verifier domain separator matches the gateway's domain separator
  require (config.domainSeparator = verifierInfo.leaf.domainSeparator)
    GatewayError.invalidDomainSeparator.err
  -- Check: Verifier set isn't expired
  require (config.assertValidEpoch tracker.epoch = .ok ()) GatewayError.verifierSetTooOld.err
  require (accounts.verificationSessionAccount = ⟨payloadMerkleRoot, verifierInfo.payloadType,
    session.signatureVerification.signingVerifierSetHash⟩) (.anchor .constraintSeeds)
  require (accounts.verifierSetTrackerPda = tracker.verifierSetHash) (.anchor .constraintSeeds)
  let session' ← commitState
    (SignatureVerificationSessionData.processSignature env.toCrates payloadMerkleRoot
      tracker.verifierSetHash verifierInfo) session
  pure (s.setSession accounts.verificationSessionAccount session')

/-- The event `approve_message` emits for a message. -/
def messageApprovedEvent (m : Message) : MessageApprovedEvent where
  commandId := m.commandId env.toCrates
  destinationAddress := m.destinationAddress
  payloadHash := m.payloadHash
  sourceChain := m.ccId.chain
  ccId := m.ccId.id
  sourceAddress := m.sourceAddress
  destinationChain := m.destinationChain

/-- The event `validate_message` emits for a message. -/
def messageExecutedEvent (m : Message) (destinationAddress : Pubkey) : MessageExecutedEvent where
  commandId := m.commandId env.toCrates
  destinationAddress
  payloadHash := m.payloadHash
  sourceChain := m.ccId.chain
  ccId := m.ccId.id
  sourceAddress := m.sourceAddress
  destinationChain := m.destinationChain

/-- The bump of the destination's signing address, 0 when the destination is not an address. -/
def signingPdaBump (m : Message) : Except Error UInt8 :=
  match env.pubkeyFromStr m.destinationAddress with
  | some destinationAddress => do
    let found ← ValidateMessageSigner.findPda env.toSyscalls (m.commandId env.toCrates)
      destinationAddress
    pure found.2
  | none => pure 0

/-- `approve_message`. -/
def approveMessage (accounts : ApproveMessage) (merklizedMessage : MerklizedMessage)
    (payloadMerkleRoot : Bytes32) (s : GatewayState) : Except Error GatewayState := do
  let leaf := merklizedMessage.leaf
  let commandId := leaf.message.commandId env.toCrates
  let config ← s.loadConfig
  let session ← s.loadSession accounts.verificationSessionAccount
  -- the record is created before the constraints of the session are checked
  let bump ← canonicalBump env [IncomingMessage.seedPrefix, commandId.toList]
  require (accounts.incomingMessagePda = commandId) (.anchor .constraintSeeds)
  require (s.incoming commandId = none) Error.accountAlreadyInUse
  require (accounts.verificationSessionAccount = ⟨payloadMerkleRoot, .approveMessages,
    session.signatureVerification.signingVerifierSetHash⟩) (.anchor .constraintSeeds)
  -- CHECK: Validate signature verification session is complete
  require session.isValid GatewayError.signingSessionNotValid.err
  -- Validate domain separator matches gateway config
  require (leaf.domainSeparator = config.domainSeparator) GatewayError.invalidDomainSeparator.err
  let proof ← okOr (env.merkleProofFromBytes merklizedMessage.proof)
    GatewayError.invalidMerkleProof.err
  -- Check: leaf node is part of the payload merkle root
  require (env.merkleProofVerify proof payloadMerkleRoot leaf.position.toNat
      (leaf.hash env.toCrates) leaf.setSize.toNat)
    GatewayError.leafNodeNotPartOfMerkleRoot.err
  let signingPdaBump ← signingPdaBump env leaf.message
  pure ((s.setIncoming commandId
    { bump
      signingPdaBump
      status := MessageStatus.approved
      messageHash := leaf.message.hash env.toCrates
      payloadHash := leaf.message.payloadHash }).emit
    (.messageApproved (messageApprovedEvent env leaf.message)))

/-- `validate_caller_pda`. -/
def validateCallerPda (caller : AccountInfo) (message : Message)
    (incomingMessage : IncomingMessage) : Except Error Bool := do
  let destinationAddress ← okOr (env.pubkeyFromStr message.destinationAddress)
    GatewayError.invalidDestinationAddress.err
  let expectedSigningPda ← ValidateMessageSigner.createPda env.toSyscalls
    (message.commandId env.toCrates) incomingMessage.signingPdaBump destinationAddress
  pure (caller.key = expectedSigningPda)

/-- `validate_message`. -/
def validateMessage (accounts : ValidateMessage) (message : Message) (s : GatewayState) :
    Except Error GatewayState := do
  let commandId := message.commandId env.toCrates
  let incoming ← s.loadIncoming accounts.incomingMessagePda
  require (accounts.incomingMessagePda = commandId) (.anchor .constraintSeeds)
  -- CHECK: message must be already approved
  require incoming.status.isApproved GatewayError.messageNotApproved.err
  -- CHECK: message hash must match
  require (incoming.messageHash = message.hash env.toCrates) GatewayError.invalidMessageHash.err
  require accounts.caller.isSigner (.anchor .constraintSigner)
  let callerValid ← validateCallerPda env accounts.caller message incoming
  require callerValid GatewayError.invalidSigningPDA.err
  let _config ← s.loadConfig
  let destinationAddress ← okOr (env.pubkeyFromStr message.destinationAddress)
    GatewayError.invalidDestinationAddress.err
  pure ((s.setIncoming commandId { incoming with status := MessageStatus.executed }).emit
    (.messageExecuted (messageExecutedEvent env message destinationAddress)))

/-- `enough_time_till_next_rotation`: panics when the clock is behind the last rotation. -/
def enoughTimeTillNextRotation (currentTime : UInt64) (config : GatewayConfig) :
    Except Error Bool := do
  require (config.lastRotationTimestamp ≤ currentTime) .panic
  pure (config.minimumRotationDelay ≤ currentTime - config.lastRotationTimestamp)

/-- `rotate_signers`. -/
def rotateSigners (accounts : RotateSigners) (newVerifierSetMerkleRoot : Bytes32)
    (s : GatewayState) : Except Error GatewayState := do
  let config ← s.loadConfig
  let session ← s.loadSession accounts.verificationSessionAccount
  let tracker ← s.loadTracker accounts.verifierSetTrackerPda
  (match accounts.operator with
    | some operator => signer operator
    | none => pure ())
  -- the new tracker is created before the constraints of the others are checked
  let bump ← canonicalBump env [VerifierSetTracker.seedPrefix, newVerifierSetMerkleRoot.toList]
  require (accounts.newVerifierSetTracker = newVerifierSetMerkleRoot) (.anchor .constraintSeeds)
  require (s.trackers newVerifierSetMerkleRoot = none) Error.accountAlreadyInUse
  require (accounts.verificationSessionAccount = ⟨newVerifierSetMerkleRoot, .rotateSigners,
    session.signatureVerification.signingVerifierSetHash⟩) (.anchor .constraintSeeds)
  -- Check: signature session is complete/valid
  require session.isValid GatewayError.signingSessionNotValid.err
  require (accounts.verifierSetTrackerPda = session.signatureVerification.signingVerifierSetHash)
    (.anchor .constraintSeeds)
  -- Check: we got the expected verifier hash
  require (tracker.verifierSetHash = session.signatureVerification.signingVerifierSetHash)
    GatewayError.invalidVerifierSetTrackerProvided.err
  -- Check: we aren't rotating to an already existing set
  require (tracker.verifierSetHash ≠ newVerifierSetMerkleRoot)
    GatewayError.duplicateVerifierSetRotation.err
  -- Check current verifier set isn't expired
  config.assertValidEpoch tracker.epoch
  -- the delay is enforced unless the gateway operator signs
  let enforceRotationDelay : Bool := match accounts.operator with
    | some operator => !(decide (operator.key = config.operator) && operator.isSigner)
    | none => true
  let isLatest : Bool := decide (config.currentEpoch = tracker.epoch)
  -- Check: proof is signed by latest verifiers
  require (¬ (enforceRotationDelay ∧ isLatest = false))
    GatewayError.proofNotSignedByLatestVerifierSet.err
  let currentTime ← okOr (tryIntoU64 sysvar.unixTimestamp) (.program .arithmeticOverflow)
  -- Check: enough time has passed since last rotation (if enforced)
  (if enforceRotationDelay then do
      let enough ← enoughTimeTillNextRotation currentTime config
      require enough GatewayError.rotationCooldownNotDone.err
    else pure ())
  let currentEpoch ← okOr (U256.checkedAdd config.currentEpoch U256.one)
    GatewayError.epochCalculationOverflow.err
  let config' := { config with lastRotationTimestamp := currentTime, currentEpoch }
  pure (({ s with config := some config' }.setTracker newVerifierSetMerkleRoot
    { bump, epoch := currentEpoch, verifierSetHash := newVerifierSetMerkleRoot }).emit
    (.verifierSetRotated
      { verifierSetHash := newVerifierSetMerkleRoot, epoch := currentEpoch }))

/-- `transfer_operatorship`. -/
def transferOperatorship (accounts : TransferOperatorship) (s : GatewayState) :
    Except Error GatewayState := do
  let config ← s.loadConfig
  signer accounts.operatorOrUpgradeAuthority
  require (config.operator = accounts.operatorOrUpgradeAuthority.key ∨
      sysvar.upgradeAuthorityAddress env.gatewayId = some accounts.operatorOrUpgradeAuthority.key)
    GatewayError.invalidOperatorOrAuthorityAccount.err
  require (accounts.newOperator ≠ config.operator) (.program .invalidInstructionData)
  let config' := { config with operator := accounts.newOperator }
  pure ({ s with config := some config' }.emit
    (.operatorshipTransferred { newOperator := config'.operator }))

end

/-! ## What a successful call has checked

One lemma for each instruction, from which every later property of it is derived. -/

section

variable {env : Env} {sysvar : Sysvar} {s s' : GatewayState}

/-- A signer signs. -/
@[simp] theorem signer_eq_ok {account : AccountInfo} {u : Unit} :
    signer account = .ok u ↔ account.isSigner = true := require_eq_ok

/-- The bump that is found for the seeds of an account. -/
@[simp] theorem canonicalBump_eq_ok {seeds : List Bytes} {bump : UInt8} :
    canonicalBump env seeds = .ok bump ↔
      ∃ key, env.findProgramAddress seeds env.gatewayId = .ok (key, bump) := by
  simp [canonicalBump, Prod.exists]

/-- An accepted epoch lies inside the retention window. -/
theorem GatewayConfig.assertValidEpoch_eq_ok {config : GatewayConfig} {epoch : U256} {u : Unit} :
    config.assertValidEpoch epoch = .ok u ↔
      epoch.toNat ≤ config.currentEpoch.toNat ∧
        config.currentEpoch - epoch < config.previousVerifierSetRetention := by
  simp only [assertValidEpoch, bind_eq_ok, okOr_eq_ok, require_eq_ok, U256.checkedSub]
  constructor
  · rintro ⟨elapsed, sub, inside⟩
    split at sub
    · cases sub
      exact ⟨‹_›, inside⟩
    · cases sub
  · rintro ⟨le, inside⟩
    exact ⟨_, if_pos le, inside⟩

/-- What a successful `call_contract` has checked and done. -/
theorem callContract_ok {accounts : CallContract} {chain address : String} {payload : Bytes}
    {bump : UInt8} (h : callContract env accounts chain address payload bump s = .ok s') :
    (accounts.caller.isSigner = false → ∃ pda,
      CallContractSigner.createPda env.toSyscalls bump accounts.caller.key = .ok pda ∧
      accounts.signingPda = some ⟨pda, true⟩) ∧
    s' = s.emit (.callContract ⟨accounts.caller.key, env.keccak payload, chain, address,
      payload⟩) := by
  simp only [callContract, bind_eq_ok, pure_eq_ok] at h
  obtain ⟨config, -, _, signed, _, authorised, rfl⟩ := h
  refine ⟨fun notSigner => ?_, rfl⟩
  rw [notSigner] at authorised
  simp only [Bool.false_eq_true, if_false, bind_eq_ok, okOr_eq_ok, require_eq_ok] at authorised
  obtain ⟨expected, created, pda, given, same⟩ := authorised
  rw [given] at signed
  refine ⟨expected, created, ?_⟩
  rw [given, ← same, ← signer_eq_ok.mp signed]

/-- What a successful `initialize_config` has checked and done. -/
theorem initializeConfig_ok {accounts : InitializeConfig} {params : InitializeConfigParams}
    (h : initializeConfig env sysvar accounts params s = .ok s') :
    s.config = none ∧ s.trackers params.initialVerifierSet.hash = none ∧
    ∃ config trackerBump,
      config.currentEpoch = 1 ∧
      config.previousVerifierSetRetention = params.previousVerifierRetention ∧
      config.minimumRotationDelay = params.minimumRotationDelay ∧
      tryIntoU64 sysvar.unixTimestamp = some config.lastRotationTimestamp ∧
      config.operator = params.operator ∧
      config.domainSeparator = params.domainSeparator ∧
      s' = { s with config := some config }.setTracker params.initialVerifierSet.hash
        ⟨trackerBump, 1, params.initialVerifierSet.hash⟩ := by
  simp only [initializeConfig, bind_eq_ok, require_eq_ok, okOr_eq_ok, pure_eq_ok] at h
  obtain ⟨_, -, bump, -, _, fresh, trackerBump, -, _, freshTracker, _, -, time, htime, rfl⟩ := h
  exact ⟨fresh, freshTracker, _, trackerBump, rfl, rfl, rfl, htime, rfl, rfl, rfl⟩

/-- The session that `initialize_payload_verification_session` opens. -/
def emptySession (S : Bytes32) (bump : UInt8) : SignatureVerificationSessionData where
  signatureVerification :=
    { accumulatedThreshold := U128.zero, signatureSlots := 0, signingVerifierSetHash := S }
  bump := bump

/-- What a successful `initialize_payload_verification_session` has checked and done. -/
theorem initializePayloadVerificationSession_ok
    {accounts : InitializePayloadVerificationSession} {r : Bytes32} {t : PayloadType}
    (h : initializePayloadVerificationSession env accounts r t s = .ok s') :
    ∃ config tracker bump key,
      s.config = some config ∧
      s.trackers accounts.verifierSetTrackerPda = some tracker ∧
      accounts.verifierSetTrackerPda = tracker.verifierSetHash ∧
      config.assertValidEpoch tracker.epoch = .ok () ∧
      accounts.verificationSessionAccount = ⟨r, t, tracker.verifierSetHash⟩ ∧
      s.sessions accounts.verificationSessionAccount = none ∧
      env.findProgramAddress accounts.verificationSessionAccount.pdaSeeds env.gatewayId
        = .ok (key, bump) ∧
      s' = s.setSession accounts.verificationSessionAccount
        (emptySession tracker.verifierSetHash bump) := by
  simp only [initializePayloadVerificationSession, bind_eq_ok, require_eq_ok, pure_eq_ok,
    canonicalBump_eq_ok, GatewayState.loadConfig_eq_ok, GatewayState.loadTracker_eq_ok] at h
  obtain ⟨config, hconfig, tracker, htracker, bump, ⟨key, found⟩, _, same, _, fresh, _, named, _,
    valid, rfl⟩ := h
  rw [same]
  exact ⟨config, tracker, bump, key, hconfig, htracker, named, valid, rfl, fresh, found, rfl⟩

/-- What a successful `verify_signature` has checked and done. -/
theorem verifySignature_ok {accounts : VerifySignature} {r : Bytes32}
    {info : SigningVerifierSetInfo} (h : verifySignature env accounts r info s = .ok s') :
    ∃ config session tracker,
      s.config = some config ∧
      s.sessions accounts.verificationSessionAccount = some session ∧
      s.trackers accounts.verifierSetTrackerPda = some tracker ∧
      config.domainSeparator = info.leaf.domainSeparator ∧
      config.assertValidEpoch tracker.epoch = .ok () ∧
      accounts.verificationSessionAccount =
        ⟨r, info.payloadType, session.signatureVerification.signingVerifierSetHash⟩ ∧
      accounts.verifierSetTrackerPda = tracker.verifierSetHash ∧
      tracker.verifierSetHash = session.signatureVerification.signingVerifierSetHash ∧
      SignatureAccepted env.toCrates r tracker.verifierSetHash info ∧
      session.signatureVerification.signatureSlots.getLsbD info.leaf.position.toNat = false ∧
      s' = s.setSession accounts.verificationSessionAccount { session with
        signatureVerification := session.signatureVerification.accept info.leaf } := by
  simp only [verifySignature, bind_eq_ok, require_eq_ok, pure_eq_ok, commitState_eq_ok,
    GatewayState.loadConfig_eq_ok, GatewayState.loadTracker_eq_ok, GatewayState.loadSession_eq_ok,
    SignatureVerificationSessionData.processSignature_eq_ok] at h
  obtain ⟨config, hconfig, session, hsession, tracker, htracker, _, domain, _, valid, _, key, _,
    named, session', ⟨accepted, unset, same, rfl⟩, rfl⟩ := h
  exact ⟨config, session, tracker, hconfig, hsession, htracker, domain, valid, key, named,
    same.symm, accepted, unset, rfl⟩

/-- What a successful `approve_message` has checked and done. -/
theorem approveMessage_ok {accounts : ApproveMessage} {m : MerklizedMessage} {r : Bytes32}
    (h : approveMessage env accounts m r s = .ok s') :
    ∃ config session bump signingBump,
      s.config = some config ∧
      s.sessions accounts.verificationSessionAccount = some session ∧
      accounts.verificationSessionAccount =
        ⟨r, .approveMessages, session.signatureVerification.signingVerifierSetHash⟩ ∧
      session.isValid = true ∧
      s.incoming (m.leaf.message.commandId env.toCrates) = none ∧
      m.leaf.domainSeparator = config.domainSeparator ∧
      (∃ proof, env.merkleProofFromBytes m.proof = some proof ∧
        env.merkleProofVerify proof r m.leaf.position.toNat (m.leaf.hash env.toCrates)
          m.leaf.setSize.toNat = true) ∧
      signingPdaBump env m.leaf.message = .ok signingBump ∧
      s' = (s.setIncoming (m.leaf.message.commandId env.toCrates)
        ⟨bump, signingBump, .approved, m.leaf.message.hash env.toCrates,
          m.leaf.message.payloadHash⟩).emit
        (.messageApproved (messageApprovedEvent env m.leaf.message)) := by
  simp only [approveMessage, bind_eq_ok, require_eq_ok, okOr_eq_ok, pure_eq_ok,
    GatewayState.loadConfig_eq_ok, GatewayState.loadSession_eq_ok] at h
  obtain ⟨config, hconfig, session, hsession, bump, -, _, -, _, fresh, _, key, _, valid, _,
    domain, proof, read, _, verified, signingBump, hbump, rfl⟩ := h
  exact ⟨config, session, bump, signingBump, hconfig, hsession, key, valid, fresh, domain,
    ⟨proof, read, verified⟩, hbump, rfl⟩

/-- What a successful `validate_message` has checked and done. -/
theorem validateMessage_ok {accounts : ValidateMessage} {m : Message}
    (h : validateMessage env accounts m s = .ok s') :
    ∃ incoming destination,
      s.incoming (m.commandId env.toCrates) = some incoming ∧
      accounts.incomingMessagePda = m.commandId env.toCrates ∧
      incoming.status.isApproved = true ∧
      incoming.messageHash = m.hash env.toCrates ∧
      env.pubkeyFromStr m.destinationAddress = some destination ∧
      accounts.caller.isSigner = true ∧
      ValidateMessageSigner.createPda env.toSyscalls (m.commandId env.toCrates)
        incoming.signingPdaBump destination = .ok accounts.caller.key ∧
      s' = (s.setIncoming (m.commandId env.toCrates) { incoming with status := .executed }).emit
        (.messageExecuted (messageExecutedEvent env m destination)) := by
  simp only [validateMessage, validateCallerPda, bind_eq_ok, require_eq_ok, okOr_eq_ok,
    pure_eq_ok, GatewayState.loadConfig_eq_ok, GatewayState.loadIncoming_eq_ok] at h
  obtain ⟨incoming, hincoming, _, slot, _, approved, _, hash, _, signed, _,
    ⟨destination, parsed, pda, created, rfl⟩, _, same, config, -, destination', parsed', rfl⟩ := h
  rw [parsed] at parsed'
  cases parsed'
  rw [slot] at hincoming
  refine ⟨incoming, destination, hincoming, slot, approved, hash, parsed, signed, ?_, rfl⟩
  rw [of_decide_eq_true same]
  exact created

/-- What a successful `rotate_signers` has checked and done. -/
theorem rotateSigners_ok {accounts : RotateSigners} {newRoot : Bytes32}
    (h : rotateSigners env sysvar accounts newRoot s = .ok s') :
    ∃ config session tracker currentTime currentEpoch bump,
      s.config = some config ∧
      s.sessions accounts.verificationSessionAccount = some session ∧
      accounts.verificationSessionAccount =
        ⟨newRoot, .rotateSigners, session.signatureVerification.signingVerifierSetHash⟩ ∧
      session.isValid = true ∧
      s.trackers accounts.verifierSetTrackerPda = some tracker ∧
      accounts.verifierSetTrackerPda = session.signatureVerification.signingVerifierSetHash ∧
      tracker.verifierSetHash = session.signatureVerification.signingVerifierSetHash ∧
      tracker.verifierSetHash ≠ newRoot ∧
      s.trackers newRoot = none ∧
      config.assertValidEpoch tracker.epoch = .ok () ∧
      tryIntoU64 sysvar.unixTimestamp = some currentTime ∧
      (accounts.operator ≠ some ⟨config.operator, true⟩ →
        config.currentEpoch = tracker.epoch ∧ config.lastRotationTimestamp ≤ currentTime ∧
        config.minimumRotationDelay ≤ currentTime - config.lastRotationTimestamp) ∧
      U256.checkedAdd config.currentEpoch U256.one = some currentEpoch ∧
      s' = ({ s with
          config := some { config with
            lastRotationTimestamp := currentTime
            currentEpoch := currentEpoch } }.setTracker newRoot
        ⟨bump, currentEpoch, newRoot⟩).emit (.verifierSetRotated ⟨currentEpoch, newRoot⟩) := by
  simp only [rotateSigners, bind_eq_ok, require_eq_ok, okOr_eq_ok, pure_eq_ok,
    GatewayState.loadConfig_eq_ok, GatewayState.loadSession_eq_ok,
    GatewayState.loadTracker_eq_ok] at h
  obtain ⟨config, hconfig, session, hsession, tracker, htracker, _, signed, bump, -, _, -, _, fresh,
    _, key, _, valid, _, named, _, same, _, different, _, validEpoch, _, latest, currentTime, htime,
    _, enough, currentEpoch, hepoch, rfl⟩ := h
  refine ⟨config, session, tracker, currentTime, currentEpoch, bump, hconfig, hsession, key,
    valid, htracker, named, same, different, fresh, validEpoch, htime, fun notOperator => ?_,
    hepoch, rfl⟩
  -- without the operator's signature the delay is enforced
  have enforced : (match accounts.operator with
      | some operator => !(decide (operator.key = config.operator) && operator.isSigner)
      | none => true) = true := by
    cases hop : accounts.operator with
    | none => rfl
    | some operator =>
      rw [hop] at notOperator
      obtain ⟨key, isSigner⟩ := operator
      cases isSigner <;> simp_all
  rw [enforced] at latest enough
  simp only [true_and, decide_eq_false_iff_not, not_not] at latest
  simp only [if_true, bind_eq_ok, require_eq_ok, enoughTimeTillNextRotation, pure_eq_ok] at enough
  obtain ⟨_, ⟨_, behind, rfl⟩, waited⟩ := enough
  exact ⟨latest, behind, of_decide_eq_true waited⟩

/-- What a successful `transfer_operatorship` has checked and done. -/
theorem transferOperatorship_ok {accounts : TransferOperatorship}
    (h : transferOperatorship env sysvar accounts s = .ok s') :
    ∃ config,
      s.config = some config ∧
      accounts.operatorOrUpgradeAuthority.isSigner = true ∧
      (config.operator = accounts.operatorOrUpgradeAuthority.key ∨
        sysvar.upgradeAuthorityAddress env.gatewayId
          = some accounts.operatorOrUpgradeAuthority.key) ∧
      accounts.newOperator ≠ config.operator ∧
      s' = { s with config := some { config with operator := accounts.newOperator } }.emit
        (.operatorshipTransferred ⟨accounts.newOperator⟩) := by
  simp only [transferOperatorship, bind_eq_ok, require_eq_ok, pure_eq_ok, signer_eq_ok,
    GatewayState.loadConfig_eq_ok] at h
  obtain ⟨config, hconfig, _, signed, _, authorised, _, different, rfl⟩ := h
  exact ⟨config, hconfig, signed, authorised, different, rfl⟩

end

/-! ## The machine -/

/-- **An instruction of the gateway** with its accounts and arguments. -/
inductive GatewayInstruction
  | callContract (accounts : CallContract) (destinationChain destinationContractAddress : String)
      (payload : Bytes) (signingPdaBump : UInt8)
  | initializeConfig (accounts : InitializeConfig) (params : InitializeConfigParams)
  | initializePayloadVerificationSession (accounts : InitializePayloadVerificationSession)
      (merkleRoot : Bytes32) (payloadType : PayloadType)
  | verifySignature (accounts : VerifySignature) (payloadMerkleRoot : Bytes32)
      (verifierInfo : SigningVerifierSetInfo)
  | approveMessage (accounts : ApproveMessage) (merklizedMessage : MerklizedMessage)
      (payloadMerkleRoot : Bytes32)
  | validateMessage (accounts : ValidateMessage) (message : Message)
  | rotateSigners (accounts : RotateSigners) (newVerifierSetMerkleRoot : Bytes32)
  | transferOperatorship (accounts : TransferOperatorship)
  deriving DecidableEq

/-- **A call of the gateway**, from a transaction or by another program: the chain's clock and
upgrade authority at that moment, and the instruction. -/
structure GatewayCall where
  sysvar : Sysvar
  instruction : GatewayInstruction

/-- **One call of the gateway.** -/
def process (env : Env) (call : GatewayCall) (s : GatewayState) : Except Error GatewayState :=
  match call.instruction with
  | .callContract accounts destinationChain destinationContractAddress payload bump =>
    callContract env accounts destinationChain destinationContractAddress payload bump s
  | .initializeConfig accounts params => initializeConfig env call.sysvar accounts params s
  | .initializePayloadVerificationSession accounts merkleRoot payloadType =>
    initializePayloadVerificationSession env accounts merkleRoot payloadType s
  | .verifySignature accounts payloadMerkleRoot verifierInfo =>
    verifySignature env accounts payloadMerkleRoot verifierInfo s
  | .approveMessage accounts merklizedMessage payloadMerkleRoot =>
    approveMessage env accounts merklizedMessage payloadMerkleRoot s
  | .validateMessage accounts message => validateMessage env accounts message s
  | .rotateSigners accounts newVerifierSetMerkleRoot =>
    rotateSigners env call.sysvar accounts newVerifierSetMerkleRoot s
  | .transferOperatorship accounts => transferOperatorship env call.sysvar accounts s

/-! ## The executable interface -/

/-- `validate_message_raw`: check the payload's hash, then call the gateway with the signature of
the executing program's validate-message address. -/
def validateMessageRaw (env : Env) (sysvar : Sysvar) (signingPda : Pubkey) (message : Message)
    (payload : Bytes) (gateway : GatewayState) : Except Error GatewayState := do
  require (env.keccak payload = message.payloadHash) (.custom 7000)
  process env ⟨sysvar, .validateMessage
    ⟨message.commandId env.toCrates, ⟨signingPda, true⟩⟩ message⟩ gateway

/-! ## A concrete environment

A small instance of the parameters in which runs can be evaluated: hashes keep the first 32 bytes,
trees have one leaf, and a signature is the digest followed by the signer's key. -/

/-- The first `n` bytes, filled up with zeros. -/
def padTo (n : Nat) (b : Bytes) : List.Vector UInt8 n :=
  ⟨(b ++ List.replicate n 0).take n, by simp⟩

/-- What has the right length is not padded. -/
theorem toList_padTo {n : Nat} {b : Bytes} (h : b.length = n) : (padTo n b).toList = b := by
  subst h
  simp [padTo, List.Vector.toList]

/-- **A concrete environment.** -/
def sampleEnv : Env where
  keccak b := padTo 32 b
  createProgramAddress seeds programId := some (padTo 32 (seeds.flatten ++ programId.toList))
  pubkeyFromStr s := if (Codec.utf8 s).length = 32 then some (padTo 32 (Codec.utf8 s)) else none
  secp256k1Recover digest _ signature :=
    if signature.take 32 = digest.toList then some (padTo 64 (signature.drop 32)) else none
  unambiguouslyEncode
    | .message m => Codec.utf8 m.ccId.chain ++ Codec.utf8 m.ccId.id
    | .messageLeaf l => l.domainSeparator.toList
    | .verifierSetLeaf l =>
      LittleEndian.encode 16 l.quorum.toNat ++ LittleEndian.encode 16 l.signerWeight.toNat
  merkleRoot leaves := leaves.head?
  merkleProofFromBytes b := if b = [] then some [] else none
  merkleProofVerify proof root position leafHash setSize :=
    proof = [] && position = 0 && setSize = 1 && leafHash = root
  parseCompressed key := some (padTo 65 (4 :: key.toList.tail))
  gatewayId := padTo 32 [1]

/-- The chain as the sample calls see it. -/
def sampleSysvar : Sysvar where
  unixTimestamp := 100
  epoch := 0
  upgradeAuthorityAddress := fun _ => some (padTo 32 [3])

/-- The only signer of the sample verifier set. -/
def sampleVerifierLeaf : VerifierSetLeaf where
  nonce := 0
  quorum := 1
  signerPubkey := padTo 33 [2, 7]
  signerWeight := 1
  position := 0
  setSize := 1
  domainSeparator := padTo 32 [9]

/-- The root of the sample verifier set. -/
def sampleSet : Bytes32 := sampleVerifierLeaf.hash sampleEnv.toCrates

/-- The sample signer's signature for a payload root. -/
def sampleSignature (payloadMerkleRoot : Bytes32) : SigningVerifierSetInfo where
  signature := padTo 65 ((prefixedMessageHashPayloadType sampleEnv.toCrates .approveMessages
    payloadMerkleRoot).toList ++ [7])
  leaf := sampleVerifierLeaf
  merkleProof := []
  payloadType := .approveMessages

/-- The session of a payload root approved by the sample set. -/
def sampleSession (payloadMerkleRoot : Bytes32) : SessionKey :=
  ⟨payloadMerkleRoot, .approveMessages, sampleSet⟩

/-- The gateway is initialised with the sample set. -/
def sampleInitialize : GatewayCall :=
  ⟨sampleSysvar, .initializeConfig ⟨⟨padTo 32 [3], true⟩⟩
    ⟨padTo 32 [9], ⟨sampleSet, padTo 32 []⟩, 0, padTo 32 [3], 2⟩⟩

/-- The sample set signs a payload root. -/
def sampleSign (payloadMerkleRoot : Bytes32) : List GatewayCall :=
  [⟨sampleSysvar, .initializePayloadVerificationSession
      ⟨sampleSession payloadMerkleRoot, sampleSet⟩ payloadMerkleRoot .approveMessages⟩,
    ⟨sampleSysvar, .verifySignature ⟨sampleSession payloadMerkleRoot, sampleSet⟩
      payloadMerkleRoot (sampleSignature payloadMerkleRoot)⟩]

/-- The gateway is initialised with the sample set, and only the latest set is inside the window. -/
def sampleStrictInitialize : GatewayCall :=
  ⟨sampleSysvar, .initializeConfig ⟨⟨padTo 32 [3], true⟩⟩
    ⟨padTo 32 [9], ⟨sampleSet, padTo 32 []⟩, 0, padTo 32 [3], 1⟩⟩

/-- The session in which the sample set rotates to a root. -/
def sampleRotationSession (newRoot : Bytes32) : SessionKey := ⟨newRoot, .rotateSigners, sampleSet⟩

/-- The sample signer's signature for a rotation. -/
def sampleRotationSignature (newRoot : Bytes32) : SigningVerifierSetInfo where
  signature := padTo 65 ((prefixedMessageHashPayloadType sampleEnv.toCrates .rotateSigners
    newRoot).toList ++ [7])
  leaf := sampleVerifierLeaf
  merkleProof := []
  payloadType := .rotateSigners

/-- The sample set signs and makes a rotation. -/
def sampleRotate (newRoot : Bytes32) : List GatewayCall :=
  [⟨sampleSysvar, .initializePayloadVerificationSession
      ⟨sampleRotationSession newRoot, sampleSet⟩ newRoot .rotateSigners⟩,
    ⟨sampleSysvar, .verifySignature ⟨sampleRotationSession newRoot, sampleSet⟩ newRoot
      (sampleRotationSignature newRoot)⟩,
    ⟨sampleSysvar, .rotateSigners ⟨sampleRotationSession newRoot, sampleSet, newRoot, none⟩
      newRoot⟩]

/-- The hash of every message leaf of the sample environment, and so the root of any payload of one
leaf. -/
def sampleLeafHash : Bytes32 := sampleEnv.keccak (padTo 32 [9]).toList

/-- A message is approved as the only leaf of a payload that the sample set has signed. -/
def sampleApprove (message : Message) : GatewayCall :=
  ⟨sampleSysvar, .approveMessage
    ⟨sampleSession sampleLeafHash, message.commandId sampleEnv.toCrates⟩
    ⟨⟨message, 0, 1, padTo 32 [9]⟩, []⟩ sampleLeafHash⟩

end AxelarSolana.Gateway
