import AxelarSolana.Its.Addresses
import AxelarSolana.Solana.TokenLedger

/-! # Environments with a table of addresses

Instances of the parameters in which runs can be evaluated, for any table of program addresses: an
address belongs to the program exactly when it stands in the table, and the token programs follow
their laws.

* **`tableDeployment`**, **`tableEnv`** — the environment of a table.
* **`tableEnv_signsOutside`**, **`tableEnv_laws`**, **`tableEnv_movement`**, **`tableEnv_wallets`**,
  **`tableEnv_apart`** — what the assumptions of the results say of it. -/

namespace AxelarSolana.Its

open Fallible

/-- The program addresses are numbered in the order of a table. -/
def tableDeployment (table : List Bytes) : Deployment :=
  { sampleDeployment with
    createProgramAddress := fun seeds programId =>
      (table.findIdx? fun entry => entry = seeds.flatten ++ programId.toList).map sampleAddress }

/-- **The environment of a table**, with the given reading of payloads; destination programs do
nothing. -/
def tableEnv (table : List Bytes)
    (decodePayload : Bytes → Except Error (List AccountMeta × Bytes)) : Env where
  toDeployment := tableDeployment table
  tokens := (tableDeployment table).tokenPrograms
  calculateEpochFee _ _ _ := some 0
  decodePayload
  destinationProgram _ _ := .ok ⟨[], by simp⟩

variable {table : List Bytes} {decodePayload : Bytes → Except Error (List AccountMeta × Bytes)}

/-- The token programs follow their laws. -/
theorem tableEnv_laws : TokenLaws (tableEnv table decodePayload).tokens := TokenProgram.laws _

/-- The token programs move what an instruction says. -/
theorem tableEnv_movement : MovementLaws (tableEnv table decodePayload).tokens :=
  TokenProgram.movement _

/-- An address of the table stands at a place of it. -/
theorem exists_of_createProgramAddress {seeds : List Bytes} {programId key : Pubkey}
    (h : (tableDeployment table).createProgramAddress seeds programId = some key) :
    ∃ i, ∃ lt : i < table.length, table[i] = seeds.flatten ++ programId.toList ∧
      sampleAddress i = key := by
  have numbered : (table.findIdx? fun entry => entry = seeds.flatten ++ programId.toList).map
      sampleAddress = some key := h
  obtain ⟨i, found, same⟩ := Option.map_eq_some_iff.mp numbered
  obtain ⟨lt, here, -⟩ := List.findIdx?_eq_some_iff_getElem.mp found
  exact ⟨i, lt, of_decide_eq_true here, same⟩

/-- Only the addresses of the table belong to the program. -/
theorem tableEnv_signsOutside {keys : List Pubkey} (h : areOutside keys = true) :
    ∀ key ∈ keys, (tableEnv table decodePayload).SignsOutside key := by
  intro key mem
  have outside := List.all_eq_true.mp h key mem
  simp only [Bool.and_eq_true, decide_eq_true_eq] at outside
  refine ⟨outside.1, fun seeds created => outside.2 ?_⟩
  obtain ⟨i, -, -, rfl⟩ := exists_of_createProgramAddress created
  rfl

/-- **Two program addresses coincide only when they are derived from the same bytes**, in a table
that is not too long. -/
theorem tableEnv_injective (short : table.length ≤ 256) {seeds seeds' : List Bytes}
    {programId programId' key : Pubkey}
    (h : (tableDeployment table).createProgramAddress seeds programId = some key)
    (h' : (tableDeployment table).createProgramAddress seeds' programId' = some key) :
    seeds.flatten ++ programId.toList = seeds'.flatten ++ programId'.toList := by
  obtain ⟨i, lt, here, same⟩ := exists_of_createProgramAddress h
  obtain ⟨j, lt', here', same'⟩ := exists_of_createProgramAddress h'
  have numbers : UInt8.ofNat i = UInt8.ofNat j := by
    have bytes := congrArg List.Vector.toList (same.trans same'.symm)
    simpa [sampleAddress, Gateway.padTo] using bytes
  have places : i = j := by
    have equal := congrArg UInt8.toNat numbers
    rw [UInt8.toNat_ofNat', UInt8.toNat_ofNat', Nat.mod_eq_of_lt (by omega),
      Nat.mod_eq_of_lt (by omega)] at equal
    exact equal
  subst places
  exact here.symm.trans here'

/-- **Seeds with different bytes lead to different addresses**, in the environment of a table. -/
theorem tableEnv_apart_of (short : table.length ≤ 256) {names : List Bytes → Prop}
    (distinct : ∀ x y, names x → names y → x.flatten = y.flatten → x = y) :
    (tableEnv table decodePayload).Apart names := by
  rintro x y key hx hy ⟨bump, created⟩ ⟨bump', created'⟩
  have bytes := tableEnv_injective short created created'
  simp only [List.flatten_append, List.append_cancel_right_eq] at bytes
  obtain ⟨same, -⟩ := List.append_inj' bytes rfl
  exact distinct x y hx hy same

/-- An associated account is that of one wallet. -/
theorem tableEnv_associated_inj (short : table.length ≤ 256)
    {wallet mint tokenProgram wallet' mint' tokenProgram' key : Pubkey}
    (h : associatedTokenAddress (tableEnv table decodePayload) wallet mint tokenProgram = .ok key)
    (h' : associatedTokenAddress (tableEnv table decodePayload) wallet' mint' tokenProgram'
      = .ok key) : wallet = wallet' := by
  simp only [associatedTokenAddress, bind_eq_ok, pure_eq_ok] at h h'
  obtain ⟨⟨address, bump⟩, found, rfl⟩ := h
  obtain ⟨⟨address', bump'⟩, found', same⟩ := h'
  subst same
  have bytes := tableEnv_injective short (Syscalls.createProgramAddress_of_find _ found)
    (Syscalls.createProgramAddress_of_find _ found')
  simp only [List.cons_append, List.flatten_cons, List.append_assoc] at bytes
  obtain ⟨first, -⟩ := List.append_inj bytes (by simp)
  exact List.Vector.toList_injective first

/-- The token programs leave token accounts to their wallets. -/
theorem tableEnv_wallets (short : table.length ≤ 256) :
    WalletLaws (associatedTokenAddress (tableEnv table decodePayload))
      (tableEnv table decodePayload).tokens :=
  TokenProgram.wallets fun h h' => tableEnv_associated_inj short h h'

/-- Two addresses after a prefix can be read back. -/
theorem flatten_pair_inj {seed : Bytes} {u v u' v' : Bytes32}
    (h : [seed, u.toList, v.toList].flatten = [seed, u'.toList, v'.toList].flatten) :
    u = u' ∧ v = v' := by
  simp only [List.flatten_cons, List.flatten_nil, List.append_nil, List.append_cancel_left_eq] at h
  obtain ⟨first, second⟩ := List.append_inj h (by simp)
  exact ⟨List.Vector.toList_injective first, List.Vector.toList_injective second⟩

/-- How many bytes the seeds of each kind have. -/
theorem length_rootSeeds : InterchainTokenService.pdaSeeds.flatten.length = 24 := by decide +kernel

/-- The seeds of the gateway's caller are 17 bytes. -/
theorem length_callContractSeeds :
    ([Gateway.CallContractSigner.seedPrefix] : List Bytes).flatten.length = 17 := by
  decide +kernel

/-- The seeds of a token manager are 77 bytes. -/
theorem length_tokenManagerSeeds (tokenId : Bytes32) (rootKey : Pubkey) :
    (TokenManager.pdaSeeds tokenId rootKey).flatten.length = 77 := by
  have seedPrefix : TokenManager.seedPrefix.length = 13 := by decide +kernel
  simp [TokenManager.pdaSeeds, seedPrefix]

/-- The seeds of a mint are 80 bytes. -/
theorem length_tokenMintSeeds (tokenId : Bytes32) (rootKey : Pubkey) :
    (TokenManager.tokenMintSeeds tokenId rootKey).flatten.length = 80 := by
  have seed : TokenManager.interchainTokenSeed.length = 16 := by decide +kernel
  simp [TokenManager.tokenMintSeeds, seed]

/-- The seeds by which a destination program is called are 59 bytes. -/
theorem length_executeSeeds (destination : Pubkey) :
    (InterchainTransferExecute.pdaSeeds destination).flatten.length = 59 := by
  have seed : (Codec.utf8 "interchain-transfer-execute").length = 27 := by decide +kernel
  simp [InterchainTransferExecute.pdaSeeds, seed]

/-- **The seeds can be told apart by their bytes**: those of different kinds have different
lengths. -/
theorem World.Names.eq_of_flatten {env : Env} {s : World} {x y : List Bytes} (hx : s.Names env x)
    (hy : s.Names env y) (same : x.flatten = y.flatten) : x = y := by
  have length := congrArg List.length same
  cases hx <;> cases hy <;> simp only [length_rootSeeds, length_callContractSeeds,
    length_tokenManagerSeeds, length_tokenMintSeeds, length_executeSeeds, Nat.reduceEqDiff] at length
  -- only seeds of the same kind are left
  case root.root => rfl
  case callContract.callContract => rfl
  case tokenManager.tokenManager =>
    obtain ⟨rfl, tokenId⟩ := flatten_pair_inj same
    rw [tokenId]
  case tokenMint.tokenMint =>
    obtain ⟨rfl, tokenId⟩ := flatten_pair_inj same
    rw [tokenId]
  case destination.destination =>
    simp only [InterchainTransferExecute.pdaSeeds, List.flatten_cons, List.flatten_nil,
      List.append_nil, List.append_cancel_left_eq] at same
    rw [List.Vector.toList_injective same]

/-- **In the environment of a table the seeds that a world speaks about lead to different
addresses.** -/
theorem tableEnv_apart (short : table.length ≤ 256) (s : World) :
    (tableEnv table decodePayload).Apart (s.Names (tableEnv table decodePayload)) :=
  tableEnv_apart_of short fun _ _ hx hy same => hx.eq_of_flatten hy same

/-- A call of the program in the environment of a table. -/
def tableCall (instruction : ItsInstruction) (outside : areOutside instruction.signers = true) :
    Call (tableEnv table decodePayload) :=
  .instruction Gateway.sampleSysvar instruction (tableEnv_signsOutside outside)

/-- Calls of the gateway in the environment of a table. -/
def tableGatewayCalls (calls : List Gateway.GatewayCall)
    (outside : (calls.all fun call => areOutside (gatewaySigners call.instruction)) = true) :
    List (Call (tableEnv table decodePayload)) :=
  calls.attach.map fun (call : { call // call ∈ calls }) =>
    have outside : areOutside (ExternalCall.gateway call.1).signers = true :=
      List.all_eq_true.mp outside call.1 call.2
    .external (.gateway call.1) (tableEnv_signsOutside outside)

/-- The gateway is initialised. -/
def tableGatewayInitializes : List (Call (tableEnv table decodePayload)) :=
  tableGatewayCalls [Gateway.sampleInitialize] rfl

/-- The service is initialised. -/
def tableInitializes : Call (tableEnv table decodePayload) :=
  tableCall (.initializeService ⟨⟨sampleWallet 3, true⟩, sampleAddress 0, ⟨sampleWallet 5, true⟩,
    sampleAddress 5⟩ "solana" "hub") rfl

/-- The operator of the service sets a chain as trusted. -/
def tableTrusts (chainName : String) : Call (tableEnv table decodePayload) :=
  tableCall (.setTrustedChain ⟨⟨sampleWallet 5, true⟩, some (sampleAddress 5), false,
    sampleAddress 0⟩ chainName) rfl

/-- A wallet deploys a token of a hundred. -/
def tableDeploys : Call (tableEnv table decodePayload) :=
  tableCall (.deployInterchainToken ⟨⟨sampleWallet 1, true⟩, ⟨sampleWallet 1, true⟩,
    sampleAddress 0, sampleAddress 1, sampleAddress 2, sampleAddress 3, sampleProgramId 2,
    sampleAddress 4, sampleAddress 9, none, none⟩ (Gateway.padTo 32 []) "name" "symbol" 6 100) rfl

/-- **The table for one token**: the root account, the token manager, its mint, its account and the
mint's metadata, the operator's roles, the addresses of the gateway that every run needs, the one
that calls it, and some more. -/
def tokenTable (tokenId : Bytes32) (more : List Bytes) : List Bytes :=
  [sampleSeeds InterchainTokenService.pdaSeeds sampleItsId,
    sampleSeeds (TokenManager.pdaSeeds tokenId (sampleAddress 0)) sampleItsId,
    sampleSeeds (TokenManager.tokenMintSeeds tokenId (sampleAddress 0)) sampleItsId,
    sampleSeeds [(sampleAddress 1).toList, (sampleProgramId 2).toList, (sampleAddress 2).toList]
      (sampleProgramId 3),
    sampleSeeds [Codec.utf8 "metadata", (sampleProgramId 5).toList, (sampleAddress 2).toList]
      (sampleProgramId 5),
    sampleSeeds (UserRoles.pdaSeeds (sampleAddress 0) (sampleWallet 5)) sampleItsId,
    sampleSeeds [Gateway.GatewayConfig.seedPrefix] Gateway.sampleEnv.gatewayId,
    sampleSeeds [Gateway.VerifierSetTracker.seedPrefix, Gateway.sampleSet.toList]
      Gateway.sampleEnv.gatewayId,
    sampleSeeds [Gateway.CallContractSigner.seedPrefix] sampleItsId] ++ more

/-! ## A token of a wallet -/

/-- The id of the token that a wallet deploys. -/
def walletTokenId : Bytes32 :=
  sampleDeployment.interchainTokenId (sampleWallet 1) (Gateway.padTo 32 [])

/-- **The environment of a token that a wallet deploys**; the wallet has an account for it. -/
def walletEnv : Env :=
  tableEnv (tokenTable walletTokenId [sampleSeeds [(sampleWallet 1).toList,
    (sampleProgramId 2).toList, (sampleAddress 2).toList] (sampleProgramId 3)]) fun b => .ok ([], b)

/-- The service is initialised and trusts a chain, and the wallet deploys a token. -/
def walletStart (chainName : String) : List (Call walletEnv) :=
  tableGatewayInitializes ++ [tableInitializes, tableTrusts chainName, tableDeploys]

/-- The wallet sends some of the tokens to a chain. -/
def walletTransfer (sysvar : Sysvar) (destinationChain : String) (amount : UInt64) :
    Call walletEnv :=
  .instruction sysvar (.interchainTransfer ⟨⟨sampleWallet 1, true⟩, ⟨sampleWallet 1, true⟩,
    sampleAddress 8, sampleAddress 0, sampleAddress 0, sampleAddress 1, sampleProgramId 2,
    sampleAddress 2, sampleAddress 9, sampleAddress 3⟩ walletTokenId destinationChain [1] amount 0
    none none none) (tableEnv_signsOutside rfl)

/-- The operator of the service sets the flow limit of the token. -/
def walletLimit (flowLimit : Option UInt64) : Call walletEnv :=
  tableCall (.setFlowLimit ⟨⟨sampleWallet 5, true⟩, ⟨sampleWallet 5, true⟩, sampleAddress 0,
    sampleAddress 5, sampleAddress 1⟩ flowLimit) rfl

end AxelarSolana.Its
