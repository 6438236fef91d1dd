import AxelarSolana.Gateway.Payload
import AxelarSolana.Gateway.Instructions

/-! # The executable interface

The two ends of the relay of a message to a program: the relayer's instruction builder, and the
program's reconstruction of the payload from the accounts it was given.

* **`createExecuteInstruction`** — the instruction: five accounts of the interface, the accounts of
  the payload, and as data the message, the raw bytes and the scheme.
* **`validateMessage`** — rebuild the payload from the accounts from the sixth on, encode it and
  validate its hash.
* **`PassesHashCheck`** — what was rebuilt hashes to the message's payload hash.
* **`relay_binding`** — the builder's instruction passes, and whatever passes carries the bytes, the
  scheme and the accounts of the payload. -/

namespace AxelarSolana.Gateway.Executable

open Fallible

/-- `EXECUTE_IX_DISC`. -/
def executeIxDisc : Bytes := [130, 221, 242, 154, 13, 193, 189, 29]

/-- `EXECUTE_PROGRAM_ACCOUNTS_START_INDEX`. -/
def executeProgramAccountsStartIndex : Nat := 5

/-! ## Conversions of accounts -/

/-- `SolanaAccountRepr::from(&AccountMeta)`. -/
def reprOfMeta (m : AccountMeta) : SolanaAccountRepr := ⟨m.pubkey, m.isSigner, m.isWritable⟩

/-- `AccountMeta::from(SolanaAccountRepr)`. -/
def metaOfRepr (r : SolanaAccountRepr) : AccountMeta := ⟨r.pubkey, r.isSigner, r.isWritable⟩

/-- `AxelarMessagePayload::new`. -/
def newPayload (payloadWithoutAccounts : Bytes) (accounts : List AccountMeta)
    (encodingScheme : EncodingScheme) : AxelarMessagePayload where
  payloadWithoutAccounts
  solanaAccounts := accounts.map reprOfMeta
  encodingScheme

/-- `AxelarMessagePayload::account_meta`. -/
def accountMeta (p : AxelarMessagePayload) : List AccountMeta := p.solanaAccounts.map metaOfRepr

/-- A payload is built again from its bytes and its accounts. -/
theorem newPayload_accountMeta (p : AxelarMessagePayload) :
    newPayload p.payloadWithoutAccounts (accountMeta p) p.encodingScheme = p := by
  have accounts : (p.solanaAccounts.map metaOfRepr).map reprOfMeta = p.solanaAccounts := by
    rw [List.map_map]
    exact List.map_id _
  rw [newPayload, accountMeta, accounts]

/-- The accounts of a payload are those that it was built from. -/
theorem accountMeta_newPayload (b : Bytes) (metas : List AccountMeta) (s : EncodingScheme) :
    accountMeta (newPayload b metas s) = metas := by
  rw [accountMeta, newPayload, List.map_map]
  exact List.map_id _

/-! ## The relayer -/

/-- `AxelarExecuteInstruction`. -/
structure AxelarExecuteInstruction where
  message : Message
  payloadWithoutAccounts : Bytes
  encodingScheme : EncodingScheme
  deriving DecidableEq

/-- The Borsh form of an encoding scheme. -/
def encodingSchemeCodec : Codec EncodingScheme :=
  Codec.byte.refine EncodingScheme.fromU8 EncodingScheme.toU8 (by
    intro b s
    constructor
    · intro h
      unfold EncodingScheme.fromU8 at h
      by_cases zero : b = 0
      · subst zero
        cases h
        rfl
      · rw [if_neg zero] at h
        by_cases one : b = 1
        · subst one
          cases h
          rfl
        · rw [if_neg one] at h
          cases h
    · rintro rfl
      exact AxelarMessagePayload.fromU8_toU8 s)

/-- The Borsh form of the instruction's data. -/
def AxelarExecuteInstruction.codec : Codec AxelarExecuteInstruction :=
  (Message.codec.pair (Codec.bytes.pair encodingSchemeCodec)).refine
    (fun p => some ⟨p.1, p.2.1, p.2.2⟩)
    (fun i => (i.message, i.payloadWithoutAccounts, i.encodingScheme)) (by
      rintro ⟨a, b, c⟩ ⟨a', b', c'⟩
      simp [eq_comm])

/-- `AxelarExecuteAccounts`: the accounts of the interface. -/
structure AxelarExecuteAccounts where
  incomingMessagePda : Pubkey
  signingPda : Pubkey
  gatewayRootPda : Pubkey
  eventAuthority : Pubkey
  axelarGatewayProgram : Pubkey

/-- `AxelarExecuteAccounts::to_account_metas`. -/
def AxelarExecuteAccounts.toAccountMetas (a : AxelarExecuteAccounts) : List AccountMeta :=
  [⟨a.incomingMessagePda, false, true⟩, ⟨a.signingPda, false, false⟩,
    ⟨a.gatewayRootPda, false, false⟩, ⟨a.eventAuthority, false, false⟩,
    ⟨a.axelarGatewayProgram, false, false⟩]

/-- An executable program takes five accounts of its own. -/
theorem length_toAccountMetas (a : AxelarExecuteAccounts) : a.toAccountMetas.length = 5 := rfl

/-- An instruction of a transaction. -/
structure Instruction where
  programId : Pubkey
  accounts : List AccountMeta
  data : Bytes

/-- **`create_execute_instruction`.** -/
def createExecuteInstruction (programId : Pubkey) (message : Message)
    (payload : AxelarMessagePayload) (executeAccounts : AxelarExecuteAccounts) :
    Except Error Instruction := do
  -- `data()` unwraps the serialization
  let ixData ← okOr (AxelarExecuteInstruction.codec.encode
    ⟨message, payload.payloadWithoutAccounts, payload.encodingScheme⟩) .panic
  pure
    { programId
      accounts := executeAccounts.toAccountMetas ++ accountMeta payload
      data := executeIxDisc ++ ixData }

/-! ## The program -/

variable (env : Env) (alloy : Alloy)

/-- The payload a program rebuilds from the accounts of its instruction, encoded. `split_off`
panics when there are fewer accounts. -/
def reconstruct (accounts : List AccountMeta) (payloadWithoutAccounts : Bytes)
    (encodingScheme : EncodingScheme) : Except Error Bytes := do
  require (executeProgramAccountsStartIndex ≤ accounts.length) .panic
  let instructionAccounts := accounts.drop executeProgramAccountsStartIndex
  (newPayload payloadWithoutAccounts instructionAccounts encodingScheme).encode alloy

/-- **`validate_message`**, of the executable interface: `accounts` are the account metas of the
program's accounts struct. -/
def validateMessage (sysvar : Sysvar) (signingPda : Pubkey) (accounts : List AccountMeta)
    (message : Message) (payloadWithoutAccounts : Bytes) (encodingScheme : EncodingScheme)
    (gateway : GatewayState) : Except Error GatewayState := do
  let encoded ← reconstruct alloy accounts payloadWithoutAccounts encodingScheme
  validateMessageRaw env sysvar signingPda message encoded gateway

/-- **The hash check**: what is rebuilt hashes to the message's payload hash. -/
def PassesHashCheck (accounts : List AccountMeta) (message : Message) (payload : Bytes)
    (encodingScheme : EncodingScheme) (encoded : Bytes) : Prop :=
  reconstruct alloy accounts payload encodingScheme = .ok encoded ∧
    env.keccak encoded = message.payloadHash

variable {env : Env} {alloy : Alloy}

/-- After the hash check, validation is the gateway's. -/
theorem validateMessage_of_passes {sysvar : Sysvar} {signingPda : Pubkey}
    {accounts : List AccountMeta} {m : Message} {payload encoded : Bytes} {s : EncodingScheme}
    {gateway : GatewayState} (h : PassesHashCheck env alloy accounts m payload s encoded) :
    validateMessage env alloy sysvar signingPda accounts m payload s gateway =
      process env ⟨sysvar, .validateMessage ⟨m.commandId env.toCrates, ⟨signingPda, true⟩⟩ m⟩
        gateway := by
  rw [validateMessage, h.1]
  show validateMessageRaw env sysvar signingPda m encoded gateway = _
  rw [validateMessageRaw, require_pos h.2]
  rfl

/-- A validated message has passed the hash check. -/
theorem passes_of_validateMessage {sysvar : Sysvar} {signingPda : Pubkey}
    {accounts : List AccountMeta} {m : Message} {payload : Bytes} {s : EncodingScheme}
    {gateway gateway' : GatewayState}
    (h : validateMessage env alloy sysvar signingPda accounts m payload s gateway = .ok gateway') :
    ∃ encoded, PassesHashCheck env alloy accounts m payload s encoded := by
  simp only [validateMessage, validateMessageRaw, bind_eq_ok, require_eq_ok] at h
  obtain ⟨encoded, rebuilt, _, hash, -⟩ := h
  exact ⟨encoded, rebuilt, hash⟩

/-- **Encoding is injective**, across both schemes. -/
theorem encode_injective (spec : AlloySpec alloy) {p q : AxelarMessagePayload} {b : Bytes}
    (hp : p.encode alloy = .ok b) (hq : q.encode alloy = .ok b) : p = q := by
  have readP : AxelarMessagePayload.decode alloy false b = .ok p :=
    AxelarMessagePayload.decode_of_encode spec hp
  have readQ : AxelarMessagePayload.decode alloy false b = .ok q :=
    AxelarMessagePayload.decode_of_encode spec hq
  rw [readP] at readQ
  exact Except.ok.inj readQ

/-- What a program hashes: its payload with the accounts after the first five, encoded again. -/
theorem reconstruct_eq_ok {accounts : List AccountMeta} {payload b : Bytes} {s : EncodingScheme} :
    reconstruct alloy accounts payload s = .ok b ↔
      5 ≤ accounts.length ∧ (newPayload payload (accounts.drop 5) s).encode alloy = .ok b := by
  simp only [reconstruct, bind_eq_ok, require_eq_ok, exists_unit]
  rfl

/-- **No payload account occurs with stronger flags** among the accounts of a transaction. -/
def NoStrongerFlags (p : AxelarMessagePayload) (transaction : List AccountMeta) : Prop :=
  ∀ m ∈ accountMeta p, ∀ n ∈ transaction, n.pubkey = m.pubkey →
    (n.isSigner = true → m.isSigner = true) ∧ (n.isWritable = true → m.isWritable = true)

/-- The runtime leaves such an account's flags as they are. -/
theorem unionPrivileges_eq_self {metas : List AccountMeta} {m : AccountMeta} (mem : m ∈ metas)
    (weaker : ∀ n ∈ metas, n.pubkey = m.pubkey →
      (n.isSigner = true → m.isSigner = true) ∧ (n.isWritable = true → m.isWritable = true)) :
    unionPrivileges metas m = m := by
  have signer : (metas.any fun n => n.pubkey = m.pubkey && n.isSigner) = m.isSigner := by
    rw [Bool.eq_iff_iff, List.any_eq_true]
    constructor
    · rintro ⟨n, hn, both⟩
      rw [Bool.and_eq_true, decide_eq_true_eq] at both
      exact (weaker n hn both.1).1 both.2
    · intro h
      exact ⟨m, mem, by simp [h]⟩
  have writable : (metas.any fun n => n.pubkey = m.pubkey && n.isWritable) = m.isWritable := by
    rw [Bool.eq_iff_iff, List.any_eq_true]
    constructor
    · rintro ⟨n, hn, both⟩
      rw [Bool.and_eq_true, decide_eq_true_eq] at both
      exact (weaker n hn both.1).2 both.2
    · intro h
      exact ⟨m, mem, by simp [h]⟩
  rw [unionPrivileges, signer, writable]

/-- The instruction that a relayer builds: the program's accounts, those of the payload, and the
message with the payload without accounts. -/
theorem createExecuteInstruction_eq_ok {programId : Pubkey} {m : Message}
    {p : AxelarMessagePayload} {a : AxelarExecuteAccounts} {ix : Instruction} :
    createExecuteInstruction programId m p a = .ok ix ↔
      ∃ e, AxelarExecuteInstruction.codec.encode
          ⟨m, p.payloadWithoutAccounts, p.encodingScheme⟩ = some e ∧
        ix = ⟨programId, a.toAccountMetas ++ accountMeta p, executeIxDisc ++ e⟩ := by
  simp only [createExecuteInstruction, bind_eq_ok, okOr_eq_ok, pure_eq_ok]
  exact exists_congr fun e => and_congr_right fun _ => eq_comm

/-- The instruction that was built passes the check in a transaction that does not strengthen the
payload's accounts. -/
theorem passes_of_createExecuteInstruction {programId : Pubkey} {m : Message}
    {p : AxelarMessagePayload} {a : AxelarExecuteAccounts} {ix : Instruction} {encoded : Bytes}
    (henc : p.encode alloy = .ok encoded) (hash : m.payloadHash = env.keccak encoded)
    (built : createExecuteInstruction programId m p a = .ok ix) {transaction : List AccountMeta}
    (included : ix.accounts ⊆ transaction) (flags : NoStrongerFlags p transaction) :
    PassesHashCheck env alloy (ix.accounts.map (unionPrivileges transaction)) m
      p.payloadWithoutAccounts p.encodingScheme encoded := by
  obtain ⟨e, -, rfl⟩ := createExecuteInstruction_eq_ok.mp built
  have presented : (accountMeta p).map (unionPrivileges transaction) = accountMeta p := by
    conv_rhs => rw [← List.map_id (accountMeta p)]
    apply List.map_congr_left
    intro m' hm'
    exact unionPrivileges_eq_self (included (List.mem_append_right _ hm')) (flags m' hm')
  refine ⟨reconstruct_eq_ok.mpr ⟨?_, ?_⟩, hash.symm⟩
  · rw [List.length_map, List.length_append]
    exact Nat.le_add_right 5 _
  · have interface : (a.toAccountMetas.map (unionPrivileges transaction)).length = 5 :=
      List.length_map _
    rw [List.map_append, presented, List.drop_left' interface, newPayload_accountMeta]
    exact henc

/-- Whatever passes the check carries the payload. -/
theorem eq_of_passes (spec : AlloySpec alloy) {m : Message} {p : AxelarMessagePayload}
    {encoded encoded' payload : Bytes} {s : EncodingScheme} {accounts : List AccountMeta}
    (henc : p.encode alloy = .ok encoded) (hash : m.payloadHash = env.keccak encoded)
    (passes : PassesHashCheck env alloy accounts m payload s encoded')
    (free : Set.InjOn env.keccak {encoded, encoded'}) :
    payload = p.payloadWithoutAccounts ∧ s = p.encodingScheme ∧
      accounts.drop 5 = accountMeta p := by
  obtain ⟨rebuilt, hash'⟩ := passes
  obtain ⟨-, henc'⟩ := reconstruct_eq_ok.mp rebuilt
  have strings : encoded = encoded' :=
    free (Set.mem_insert _ _) (Set.mem_insert_of_mem _ rfl) (hash ▸ hash'.symm)
  subst strings
  have same := encode_injective spec henc' henc
  rw [← same]
  exact ⟨rfl, rfl, (accountMeta_newPayload _ _ _).symm⟩

/-- **Relay binding.** Let a message carry the hash of a payload's encoding. The instruction built
for it carries the payload's account metas from the sixth account on and the message, the raw bytes
and the scheme as data; run in a transaction that does not strengthen the payload's accounts,
validation rebuilds exactly the encoding and goes on to the gateway. Conversely, whatever bytes,
scheme and accounts pass the hash check are those of the payload. -/
theorem relay_binding (spec : AlloySpec alloy) {m : Message} {p : AxelarMessagePayload}
    {encoded : Bytes} (henc : p.encode alloy = .ok encoded)
    (hash : m.payloadHash = env.keccak encoded) :
    (∀ programId a ix, createExecuteInstruction programId m p a = .ok ix →
      ix.accounts.take 5 = a.toAccountMetas ∧ ix.accounts.drop 5 = accountMeta p ∧
      (∃ e, ix.data = executeIxDisc ++ e ∧ AxelarExecuteInstruction.codec.decodeAll e =
        some ⟨m, p.payloadWithoutAccounts, p.encodingScheme⟩) ∧
      ∀ transaction, ix.accounts ⊆ transaction → NoStrongerFlags p transaction →
        reconstruct alloy (ix.accounts.map (unionPrivileges transaction))
          p.payloadWithoutAccounts p.encodingScheme = .ok encoded ∧
        ∀ sysvar signingPda gateway,
          validateMessage env alloy sysvar signingPda
              (ix.accounts.map (unionPrivileges transaction)) m p.payloadWithoutAccounts
              p.encodingScheme gateway =
            process env
              ⟨sysvar, .validateMessage ⟨m.commandId env.toCrates, ⟨signingPda, true⟩⟩ m⟩
              gateway) ∧
    (∀ accounts payload s encoded', PassesHashCheck env alloy accounts m payload s encoded' →
      Set.InjOn env.keccak {encoded, encoded'} →
      payload = p.payloadWithoutAccounts ∧ s = p.encodingScheme ∧
        accounts.drop 5 = accountMeta p) := by
  constructor
  · intro programId a ix built
    obtain ⟨e, he, hix⟩ := createExecuteInstruction_eq_ok.mp built
    have accounts : ix.accounts = a.toAccountMetas ++ accountMeta p := by rw [hix]
    refine ⟨?_, ?_, ⟨e, by rw [hix], (Codec.decodeAll_eq_some _).mpr he⟩, ?_⟩
    · rw [accounts, List.take_left' (length_toAccountMetas a)]
    · rw [accounts, List.drop_left' (length_toAccountMetas a)]
    -- the runtime unites the flags of equal keys, but there are none stronger
    · intro transaction included flags
      have passes := passes_of_createExecuteInstruction henc hash built included flags
      exact ⟨passes.1, fun _ _ _ => validateMessage_of_passes passes⟩
  · exact fun accounts payload s encoded' passes free => eq_of_passes spec henc hash passes free

/-! ## A concrete message -/

/-- The encoding of a payload of three bytes and two accounts. -/
def sampleEncoded : Bytes :=
  ((samplePayload .abiEncoding).encode sampleAlloy).toOption.getD []

/-- A message for that payload. -/
def sampleExecuteMessage : Message where
  ccId := ⟨"ethereum", "0x01-0"⟩
  sourceAddress := "0xabc"
  destinationChain := "solana"
  destinationAddress := "11111111111111111111111111111111"
  payloadHash := sampleEnv.keccak sampleEncoded

/-- The accounts of the interface. -/
def sampleExecuteAccounts : AxelarExecuteAccounts where
  incomingMessagePda := padTo 32 [1]
  signingPda := padTo 32 [2]
  gatewayRootPda := padTo 32 [3]
  eventAuthority := padTo 32 [4]
  axelarGatewayProgram := padTo 32 [5]

/-- The accounts a relayer passes for the payload. -/
def sampleAccounts : List AccountMeta :=
  sampleExecuteAccounts.toAccountMetas ++ accountMeta (samplePayload .abiEncoding)

/-- The builder's instruction, alone in its transaction, is rebuilt; and the accounts that pass are
those of the payload. -/
theorem relay_binding_sample :
    (∃ ix, createExecuteInstruction (padTo 32 [6]) sampleExecuteMessage
        (samplePayload .abiEncoding) sampleExecuteAccounts = .ok ix ∧
      reconstruct sampleAlloy (ix.accounts.map (unionPrivileges ix.accounts)) [1, 2, 3]
        .abiEncoding = .ok sampleEncoded) ∧
    sampleAccounts.drop 5 = accountMeta (samplePayload .abiEncoding) := by
  have henc : (samplePayload .abiEncoding).encode sampleAlloy = .ok sampleEncoded := by
    decide +kernel
  have hash : sampleExecuteMessage.payloadHash = sampleEnv.keccak sampleEncoded := rfl
  have binding := relay_binding sampleAlloy_spec henc hash
  have passes : PassesHashCheck sampleEnv sampleAlloy sampleAccounts sampleExecuteMessage [1, 2, 3]
      .abiEncoding sampleEncoded := ⟨by decide +kernel, rfl⟩
  have free : Set.InjOn sampleEnv.keccak {sampleEncoded, sampleEncoded} := by
    rintro a (rfl | rfl) b (rfl | rfl) -
    all_goals rfl
  have some' : (AxelarExecuteInstruction.codec.encode
      ⟨sampleExecuteMessage, [1, 2, 3], .abiEncoding⟩).isSome = true := by
    decide +kernel
  obtain ⟨e, he⟩ := Option.isSome_iff_exists.mp some'
  have built := createExecuteInstruction_eq_ok.mpr
    (⟨e, he, rfl⟩ : ∃ e', AxelarExecuteInstruction.codec.encode
        ⟨sampleExecuteMessage, (samplePayload .abiEncoding).payloadWithoutAccounts,
          (samplePayload .abiEncoding).encodingScheme⟩ = some e' ∧
      (⟨padTo 32 [6], sampleAccounts, executeIxDisc ++ e⟩ : Instruction) =
        ⟨padTo 32 [6], sampleExecuteAccounts.toAccountMetas ++
          accountMeta (samplePayload .abiEncoding), executeIxDisc ++ e'⟩)
  have flags : NoStrongerFlags (samplePayload .abiEncoding) sampleAccounts := by
    have checked : (accountMeta (samplePayload .abiEncoding)).all (fun m =>
        sampleAccounts.all fun n => !decide (n.pubkey = m.pubkey) ||
          ((!n.isSigner || m.isSigner) && (!n.isWritable || m.isWritable))) = true := by
      decide +kernel
    intro m hm n hn same
    have pair := List.all_eq_true.mp (List.all_eq_true.mp checked m hm) n hn
    simpa [same, Bool.or_eq_true, Bool.and_eq_true, imp_iff_not_or] using pair
  obtain ⟨-, -, -, rebuilt⟩ := binding.1 _ _ _ built
  exact ⟨⟨_, built, (rebuilt sampleAccounts (List.Subset.refl _) flags).1⟩,
    (binding.2 sampleAccounts [1, 2, 3] .abiEncoding sampleEncoded passes free).2.2⟩

end AxelarSolana.Gateway.Executable
