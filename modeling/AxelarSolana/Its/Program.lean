import AxelarSolana.Its.Inbound
import AxelarSolana.Solana.TokenProgram

/-! # The program

* **`process`** — the effect of one instruction.
* **`Call`**, **`step`** — a call of a run: an instruction of the program or something that others
  do, with signatures from outside the program only; the machine whose runs the later files speak
  about. -/

namespace AxelarSolana.Its

/-- **One instruction of the program.** -/
def process (env : Env) (ctx : Ctx) (instruction : ItsInstruction) (s : World) :
    Except Error World :=
  match instruction with
  | .initializeService a chainName itsHubAddress =>
    initializeService env ctx a chainName itsHubAddress s
  | .setPauseStatus a paused => setPauseStatus env ctx a paused s
  | .setTrustedChain a chainName => setTrustedChain env ctx a chainName s
  | .removeTrustedChain a chainName => removeTrustedChain env ctx a chainName s
  | .deployInterchainToken a salt name symbol decimals initialSupply =>
    deployInterchainToken env ctx a salt name symbol decimals initialSupply s
  | .deployRemoteInterchainToken a salt destinationChain gasValue =>
    deployRemoteInterchainToken env ctx a salt destinationChain gasValue s
  | .registerTokenMetadata a gasValue => registerTokenMetadata env ctx a gasValue s
  | .registerCanonicalInterchainToken a => registerCanonicalInterchainToken env ctx a s
  | .deployRemoteCanonicalInterchainToken a destinationChain gasValue =>
    deployRemoteCanonicalInterchainToken env ctx a destinationChain gasValue s
  | .registerCustomToken a salt tokenManagerType operator =>
    registerCustomToken env ctx a salt tokenManagerType operator s
  | .linkToken a salt destinationChain destinationTokenAddress tokenManagerType linkParams
      gasValue =>
    linkToken env ctx a salt destinationChain destinationTokenAddress tokenManagerType linkParams
      gasValue s
  | .setFlowLimit a flowLimit => setFlowLimit env ctx a flowLimit s
  | .execute a message payload => execute env ctx a message payload s
  | .executeDeployInterchainToken a tokenId name symbol decimals minter =>
    executeDeployInterchainToken env ctx a tokenId name symbol decimals minter s
  | .executeLinkToken a tokenId destinationTokenAddress tokenManagerType linkParams =>
    executeLinkToken env ctx a tokenId destinationTokenAddress tokenManagerType linkParams s
  | .executeInterchainTransfer a message sourceChain sourceAddress destinationAddress tokenId
      amount data =>
    executeInterchainTransfer env ctx a message sourceChain sourceAddress destinationAddress
      tokenId amount data s
  | .interchainTransfer a tokenId destinationChain destinationAddress amount gasValue
      callerProgramId callerPdaSeeds data =>
    interchainTransfer env ctx a tokenId destinationChain destinationAddress amount gasValue
      callerProgramId callerPdaSeeds data s
  | .transferOperatorship a => transferOperatorship env a s
  | .addTokenManagerFlowLimiter a => addTokenManagerFlowLimiter env a s
  | .removeTokenManagerFlowLimiter a => removeTokenManagerFlowLimiter env a s
  | .setTokenManagerFlowLimit a flowLimit => setTokenManagerFlowLimit env ctx a flowLimit s
  | .transferTokenManagerOperatorship a => transferTokenManagerOperatorship env a s
  | .mintInterchainToken a amount => mintInterchainToken env ctx a amount s
  | .handoverMintAuthority a tokenId => handoverMintAuthority env ctx a tokenId s
  | .transferInterchainTokenMintership a => transferInterchainTokenMintership env a s

/-- **A call of a run**, from a transaction or by another program. -/
inductive Call (env : Env)
  | instruction (sysvar : Sysvar) (instruction : ItsInstruction)
      (outside : ∀ key ∈ instruction.signers, env.SignsOutside key)
  | external (call : ExternalCall) (outside : ∀ key ∈ call.signers, env.SignsOutside key)

/-- **One call.** -/
def step (env : Env) (call : Call env) (s : World) : Except Error World :=
  match call with
  | .instruction sysvar instruction _ =>
    process env ⟨sysvar, .external, instruction⟩ instruction s
  | .external call _ => do
    let chain ← call.run env s.chain
    pure (s.withChain chain)

/-! ## A concrete environment

An instance of the parameters in which runs can be evaluated, on top of the gateway's. Program
addresses are numbered in the order of a table, so no two of them coincide. -/

open Gateway (padTo)

/-- The address of the program. -/
def sampleItsId : Pubkey := padTo 32 (Codec.utf8 "iiiiiiiiiiiiiiiiiiiiiiiiiiiiiiii")

/-- The addresses of the programs it works with. -/
def sampleProgramId (i : UInt8) : Pubkey := padTo 32 [100, i]

/-- A wallet. -/
def sampleWallet (i : UInt8) : Pubkey := padTo 32 [i]

/-- The program address at a place of the table. -/
def sampleAddress (i : Nat) : Pubkey := padTo 32 [200, UInt8.ofNat i]

/-- What an address with the first bump is derived from. -/
def sampleSeeds (seeds : List Bytes) (programId : Pubkey) : Bytes :=
  (seeds ++ [[255]]).flatten ++ programId.toList

/-- The id of the token that the hub deploys. -/
def sampleTokenId : Bytes32 := padTo 32 [77]

/-- The id of the canonical token for the same mint, at place 2. -/
def sampleCanonicalId : Bytes32 :=
  Gateway.sampleEnv.hashv [Codec.utf8 "interchain-token-id", (Gateway.sampleEnv.hashv
    [Codec.utf8 "canonical-token-salt", (padTo 32 [88]).toList, (sampleAddress 2).toList]).toList]

/-- What the hub asks for: the deployment of a token with a minter. -/
def sampleHubMessage : Encoding.HubMessage :=
  .receiveFromHub "ethereum"
    (.deployInterchainToken ⟨sampleTokenId, "name", "symbol", 6, some (sampleWallet 4).toList⟩)

/-- The payload of the hub's message. -/
def samplePayload : Bytes := (Encoding.HubMessage.codec.encode sampleHubMessage).getD []

/-- A message with the hub's address as its source address, from another chain. -/
def sampleMessage : Message where
  ccId := ⟨"avalanche", "1"⟩
  sourceAddress := "hub"
  destinationChain := "solana"
  destinationAddress := "iiiiiiiiiiiiiiiiiiiiiiiiiiiiiiii"
  payloadHash := Gateway.sampleEnv.keccak samplePayload

/-- The same message from the hub's chain. -/
def sampleFromHub : Message := { sampleMessage with ccId := ⟨"axelar", "1"⟩ }

/-- The command id of the sample message. -/
def sampleCommandId : Bytes32 := sampleMessage.commandId Gateway.sampleEnv.toCrates

/-- The command id of the message from the hub's chain. -/
def sampleHubCommandId : Bytes32 := sampleFromHub.commandId Gateway.sampleEnv.toCrates

/-- **The table of program addresses.** -/
def sampleTable : List Bytes :=
  [sampleSeeds InterchainTokenService.pdaSeeds sampleItsId,
    sampleSeeds (TokenManager.pdaSeeds sampleTokenId (sampleAddress 0)) sampleItsId,
    sampleSeeds (TokenManager.tokenMintSeeds sampleTokenId (sampleAddress 0)) sampleItsId,
    sampleSeeds [(sampleAddress 1).toList, (sampleProgramId 2).toList, (sampleAddress 2).toList]
      (sampleProgramId 3),
    sampleSeeds [Codec.utf8 "metadata", (sampleProgramId 5).toList, (sampleAddress 2).toList]
      (sampleProgramId 5),
    sampleSeeds (UserRoles.pdaSeeds (sampleAddress 1) (sampleWallet 4)) sampleItsId,
    sampleSeeds (UserRoles.pdaSeeds (sampleAddress 0) (sampleWallet 5)) sampleItsId,
    sampleSeeds (TokenManager.pdaSeeds sampleCanonicalId (sampleAddress 0)) sampleItsId,
    sampleSeeds [(sampleAddress 7).toList, (sampleProgramId 2).toList, (sampleAddress 2).toList]
      (sampleProgramId 3),
    sampleSeeds (Gateway.ValidateMessageSigner.pdaSeeds sampleCommandId) sampleItsId,
    sampleSeeds [Gateway.GatewayConfig.seedPrefix] Gateway.sampleEnv.gatewayId,
    sampleSeeds [Gateway.VerifierSetTracker.seedPrefix, Gateway.sampleSet.toList]
      Gateway.sampleEnv.gatewayId,
    sampleSeeds (Gateway.sampleSession Gateway.sampleLeafHash).pdaSeeds Gateway.sampleEnv.gatewayId,
    sampleSeeds [Gateway.IncomingMessage.seedPrefix, sampleCommandId.toList]
      Gateway.sampleEnv.gatewayId,
    sampleSeeds (Gateway.ValidateMessageSigner.pdaSeeds sampleHubCommandId) sampleItsId,
    sampleSeeds [Gateway.IncomingMessage.seedPrefix, sampleHubCommandId.toList]
      Gateway.sampleEnv.gatewayId]

/-- The parameters that a build of the program fixes. -/
def sampleDeployment : Deployment :=
  { Gateway.sampleEnv with
    createProgramAddress := fun seeds programId =>
      (sampleTable.findIdx? fun entry => entry = seeds.flatten ++ programId.toList).map sampleAddress
    itsId := sampleItsId
    chainNameHash := padTo 32 [88]
    gasServiceId := sampleProgramId 0
    tokenProgramId := sampleProgramId 1
    token2022ProgramId := sampleProgramId 2
    associatedTokenProgramId := sampleProgramId 3
    systemProgramId := sampleProgramId 4
    mplTokenMetadataId := sampleProgramId 5
    bpfLoaders := [sampleProgramId 6] }

/-- The token programs of a deployment, by their definition. -/
def Deployment.tokenPrograms (env : Deployment) :
    TokenInstruction → List Pubkey → TokenState → Except Error TokenState :=
  TokenProgram.process fun authority mint tokenProgram => do
    let found ← env.findProgramAddress [authority.toList, tokenProgram.toList, mint.toList]
      env.associatedTokenProgramId
    pure found.1

/-- **A concrete environment.** -/
def sampleEnv : Env where
  toDeployment := sampleDeployment
  tokens := sampleDeployment.tokenPrograms
  calculateEpochFee _ _ _ := some 0
  decodePayload b := .ok ([], b)
  destinationProgram _ _ := .ok ⟨[], by simp⟩

/-- Whether addresses are neither the program nor in the table. -/
def areOutside (keys : List Pubkey) : Bool :=
  keys.all fun key => key ≠ sampleItsId && key.toList.head? ≠ some 200

/-- Only the addresses of the table belong to the program. -/
theorem sampleEnv_signsOutside {keys : List Pubkey} (h : areOutside keys = true) :
    ∀ key ∈ keys, sampleEnv.SignsOutside key := by
  intro key mem
  have outside := List.all_eq_true.mp h key mem
  simp only [Bool.and_eq_true, decide_eq_true_eq] at outside
  refine ⟨outside.1, fun seeds created => outside.2 ?_⟩
  have numbered : (sampleTable.findIdx? fun entry =>
      entry = seeds.flatten ++ sampleEnv.itsId.toList).map sampleAddress = some key := created
  obtain ⟨i, -, rfl⟩ := Option.map_eq_some_iff.mp numbered
  rfl

/-- A call of the program in the sample environment. -/
def sampleCall (instruction : ItsInstruction) (outside : areOutside instruction.signers = true) :
    Call sampleEnv :=
  .instruction Gateway.sampleSysvar instruction (sampleEnv_signsOutside outside)

/-- The calls that initialise the gateway and approve the sample message. -/
def sampleGatewayCalls : List Gateway.GatewayCall :=
  Gateway.sampleInitialize :: Gateway.sampleSign Gateway.sampleLeafHash ++
    [Gateway.sampleApprove sampleMessage]

/-- The gateway's calls of the sample are signed outside the program. -/
theorem sampleGatewayCalls_outside :
    (sampleGatewayCalls.all fun call => areOutside (gatewaySigners call.instruction)) = true := by
  decide +kernel

/-- The service is initialised. -/
def sampleInitializes : Call sampleEnv :=
  sampleCall (.initializeService ⟨⟨sampleWallet 3, true⟩, sampleAddress 0, ⟨sampleWallet 5, true⟩,
    sampleAddress 6⟩ "solana" "hub") rfl

/-- The operator of the service sets a chain as trusted. -/
def sampleTrusts (chainName : String) : Call sampleEnv :=
  sampleCall (.setTrustedChain ⟨⟨sampleWallet 5, true⟩, some (sampleAddress 6), false,
    sampleAddress 0⟩ chainName) rfl

/-- The sample message is approved; the service is initialised and trusts a chain. -/
def sampleStart : List (Call sampleEnv) :=
  sampleGatewayCalls.attach.map (fun call => .external (.gateway call.1)
    (sampleEnv_signsOutside (List.all_eq_true.mp sampleGatewayCalls_outside call.1 call.2))) ++
  [sampleInitializes, sampleTrusts "ethereum"]

/-- The accounts with which the sample message is executed. -/
def sampleExecuteAccounts : Execute where
  signingPda := ⟨sampleAddress 9, false, false⟩
  payer := ⟨sampleWallet 1, true, true⟩
  itsRootPda := ⟨sampleAddress 0, false, false⟩
  tokenManagerPda := ⟨sampleAddress 1, false, true⟩
  tokenMint := ⟨sampleAddress 2, false, true⟩
  tokenManagerAta := ⟨sampleAddress 3, false, true⟩
  tokenProgram := ⟨sampleProgramId 2, false, false⟩
  associatedTokenProgram := ⟨sampleProgramId 3, false, false⟩
  systemProgram := ⟨sampleProgramId 4, false, false⟩
  remainingAccounts :=
    [⟨sampleProgramId 7, false, false⟩, ⟨sampleProgramId 5, false, false⟩,
      ⟨sampleAddress 4, false, true⟩, ⟨sampleWallet 4, false, false⟩,
      ⟨sampleAddress 5, false, true⟩]

/-- The sample message is executed. -/
def sampleExecute : Call sampleEnv :=
  sampleCall (.execute sampleExecuteAccounts sampleMessage samplePayload) rfl

/-- The world before any call. -/
def sampleInitial : World := World.initial (fun _ => sampleProgramId 4) ⟨none, fun _ => 0, []⟩

end AxelarSolana.Its
