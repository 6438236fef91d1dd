import AxelarSolana.Governance.ConfigWriteBack
import AxelarSolana.Governance.History
import Mathlib.Data.Set.Function

/-! # What is executed is what was scheduled

The hash that identifies a proposal is taken, once, of the decoded GMP payload that schedules it,
and again of the data that the executor presents.

* **`hashInput_inj`** — the bytes hashed determine the target, the call data and the native value,
  although the raw call data is written without its length: what stands before it is prefix-free,
  and what follows it has a fixed width.
* **`checkedFromU256LeBytesToU64_eq_ok`** — a native value is accepted when it fits 64 bits, as is.
* **`executed_is_scheduled`** — an execution that uses the account a payload scheduled makes exactly
  the call and the payment of that payload. -/

namespace AxelarSolana.Governance

open Fallible Machine

/-! ## The bytes that are hashed -/

/-- What a proposal's hash is taken of: the target, the accounts, the receiver, the data and the
value, in this order. -/
theorem hashInput_eq_ok {target : Pubkey} {callData : ExecuteProposalCallData}
    {nativeValue : Bytes32} {x : Bytes} :
    ExecutableProposal.hashInput target callData nativeValue = .ok x ↔ ∃ accounts receiver,
      (Codec.vec SolanaAccountMetadata.codec).encode callData.solanaAccounts = some accounts ∧
      (Codec.option SolanaAccountMetadata.codec).encode
        callData.solanaNativeValueReceiverAccount = some receiver ∧
      x = target.toList ++ accounts ++ receiver ++ callData.callData ++ nativeValue.toList := by
  simp only [ExecutableProposal.hashInput, bind_eq_ok, okOr_eq_ok, pure_eq_ok]
  constructor
  · rintro ⟨accounts, written, receiver, written', rfl⟩
    exact ⟨accounts, receiver, written, written', rfl⟩
  · rintro ⟨accounts, receiver, written, written', rfl⟩
    exact ⟨accounts, written, receiver, written', rfl⟩

/-- **The bytes hashed determine what they are taken of.** The native value is cut off the end by
its width; the target, the accounts and the receiver are then read off the front, one after the
other; the raw call data is what is left. -/
theorem hashInput_inj {target target' : Pubkey} {callData callData' : ExecuteProposalCallData}
    {nativeValue nativeValue' : Bytes32} {x : Bytes}
    (h : ExecutableProposal.hashInput target callData nativeValue = .ok x)
    (h' : ExecutableProposal.hashInput target' callData' nativeValue' = .ok x) :
    target = target' ∧ callData = callData' ∧ nativeValue = nativeValue' := by
  obtain ⟨accounts, receiver, written, written₁, rfl⟩ := hashInput_eq_ok.mp h
  obtain ⟨accounts', receiver', written', written₁', same⟩ := hashInput_eq_ok.mp h'
  obtain ⟨same, value⟩ := List.append_inj' same (by simp)
  simp only [List.append_assoc] at same
  obtain ⟨targets, same⟩ := List.append_inj same (by simp)
  obtain ⟨lists, same⟩ := Codec.append_inj _ written written' same
  obtain ⟨receivers, raw⟩ := Codec.append_inj _ written₁ written₁' same
  refine ⟨List.Vector.eq _ _ targets, ?_, List.Vector.eq _ _ value⟩
  obtain ⟨_, _, _⟩ := callData
  obtain ⟨_, _, _⟩ := callData'
  cases lists
  cases receivers
  cases raw
  rfl

/-- Data with the hash of a payload carry the fields of the payload, when the hash function does
not collide on the two. -/
theorem data_eq_of_hash {env : Env} {data : ExecuteProposalData} {payload : Bytes}
    {cmdPayload : GovernanceCommandPayload} {target : Pubkey} {callData : ExecuteProposalCallData}
    {hash : Bytes32}
    (decoded : calculateGmpContext env payload = .ok (cmdPayload, target, callData, hash))
    (hashed : ExecutableProposal.hashFromData env.toSyscalls data = .ok hash)
    (noCollision : Set.InjOn env.keccak
      { x | ExecutableProposal.hashInput target callData (leBytes32 cmdPayload.nativeValue) = .ok x ∨
        ExecutableProposal.hashInput data.targetAddress data.callData data.nativeValue = .ok x }) :
    data = ⟨target, callData, leBytes32 cmdPayload.nativeValue⟩ := by
  simp only [calculateGmpContext, ExecutableProposal.calculateHash, bind_eq_ok, okOr_eq_ok,
    pure_eq_ok, Prod.mk.injEq] at decoded
  obtain ⟨_, -, _, -, _, -, _, ⟨x, input, rfl⟩, rfl, rfl, rfl, rfl⟩ := decoded
  simp only [ExecutableProposal.hashFromData, ExecutableProposal.calculateHash, bind_eq_ok,
    pure_eq_ok] at hashed
  obtain ⟨y, input', collide⟩ := hashed
  have same : y = x := noCollision (.inr input') (.inl input) collide
  rw [same] at input'
  obtain ⟨targets, calls, values⟩ := hashInput_inj input' input
  obtain ⟨_, _, _⟩ := data
  cases targets
  cases calls
  cases values
  rfl

/-! ## The native value -/

/-- **A native value is accepted when it fits 64 bits**, and then as it is. -/
theorem checkedFromU256LeBytesToU64_eq_ok {leU256 : Bytes32} {value : UInt64} :
    checkedFromU256LeBytesToU64 leU256 = .ok value ↔
      LittleEndian.decode leU256.toList = value.toNat := by
  have split : LittleEndian.decode leU256.toList =
      LittleEndian.decode (leU256.toList.take 8) +
        2 ^ 64 * LittleEndian.decode (leU256.toList.drop 8) := by
    conv_lhs => rw [← List.take_append_drop 8 leU256.toList, LittleEndian.decode_append]
    simp
  have low : LittleEndian.decode (leU256.toList.take 8) < 2 ^ 64 := by
    have := LittleEndian.decode_lt (leU256.toList.take 8)
    simpa using this
  have high : (leU256.toList.drop 8).all (fun byte => byte = 0) = true ↔
      LittleEndian.decode (leU256.toList.drop 8) = 0 := by
    rw [LittleEndian.decode_eq_zero, List.all_eq_true]
    simp
  simp only [checkedFromU256LeBytesToU64, bind_eq_ok, require_eq_ok, pure_eq_ok, high]
  constructor
  · rintro ⟨_, zero, rfl⟩
    rw [split, zero, Nat.mul_zero, Nat.add_zero, UInt64.toNat_ofNat_of_lt' low]
  · intro h
    have bound := value.toNat_lt
    rw [split] at h
    have zero : LittleEndian.decode (leU256.toList.drop 8) = 0 := by omega
    refine ⟨(), zero, ?_⟩
    rw [zero, Nat.mul_zero, Nat.add_zero] at h
    rw [h, UInt64.ofNat_toNat]

/-- The little-endian bytes of a `U256` decode to its number. -/
@[simp] theorem decode_leBytes32 (x : U256) :
    LittleEndian.decode (leBytes32 x).toList = x.toNat := by
  have bound : x.toNat < 256 ^ 32 := x.isLt
  exact LittleEndian.decode_encode bound

/-! ## Executions -/

variable {env : Env}

/-- **The call and the payment of an execution**, and what it leaves: the world that its call left,
with the event, the configuration read on entry and the accounts closed. -/
theorem execution_call {depth : Nat} {ctx : Ctx} {kind : ExecutionKind}
    {data : ExecuteProposalData} {s s' : World}
    (h : process env depth ctx (kind.instruction data) s = .ok s') :
    ∃ depth' hash config key proposal value paid left, depth = depth' + 1 ∧
      Begins env kind ctx data hash config key proposal s ∧
      LittleEndian.decode data.nativeValue.toList = value.toNat ∧
      Pays data key (kind.beginning ctx hash data s) value paid ∧
      invokeSigned env (process env depth') ctx data data.instruction (kind.remaining ctx) key paid
        = .ok left ∧
      s' = (kind.ending ctx hash data config proposal.eta left).withLamports
        (kind.refund ctx key left) := by
  obtain ⟨depth', hash, config, key, proposal, left, rfl, begins, called, ended⟩ :=
    process_execution_ok h
  obtain ⟨value, paid, read, pays, invoked⟩ := executeProposalCpi_ok called
  exact ⟨depth', hash, config, key, proposal, value, paid, left, rfl, begins,
    checkedFromU256LeBytesToU64_eq_ok.mp read, pays, invoked, ended⟩

/-- The account a message schedules is that of its payload's hash. -/
theorem scheduled_at_hash {depth : Nat} {ctx : Ctx} {message : Message} {payload : Bytes}
    {s s' : World} {cmdPayload : GovernanceCommandPayload} {target : Pubkey}
    {callData : ExecuteProposalCallData} {hash : Bytes32}
    (decoded : calculateGmpContext env payload = .ok (cmdPayload, target, callData, hash))
    (command : cmdPayload.command = .scheduleTimeLockProposal)
    (h : process env depth ctx (.execute message payload) s = .ok s') :
    s.accounts.proposals hash = none ∧ ∃ proposal,
      s'.accounts.proposals = Function.update s.accounts.proposals hash (some proposal) := by
  cases depth with
  | zero => exact absurd h throw_ne_ok
  | succ depth =>
    obtain ⟨config, hash', accounts, instruction, gateway, s₁, accepted, called, rfl⟩ :=
      execute_ok h
    obtain ⟨cmdPayload', target', callData', decoded', dispatched⟩ := accepted.decoded
    rw [decoded] at decoded'
    cases decoded'
    obtain ⟨eta, nativeValue, callData, target, -, own⟩ := dispatched
    rw [command] at own
    subst own
    obtain ⟨l, effect⟩ := (process_evaluates called).effect_of_leaf (by simp) (by
      rintro (_ | _) <;> simp [ExecutionKind.instruction])
    cases effect with
    | scheduleTimelockProposal hash eta nativeValue target callData config proposal stored signed
        fresh => exact ⟨fresh, proposal, rfl⟩

/-- **What is executed is what was scheduled.**

1. A message that schedules a proposal opens the account of its own payload's hash, and no other.
2. An execution, of either kind, that uses that account has exactly the decoded fields of the
   payload, when the hash function does not collide on the two: it calls exactly that program with
   those accounts and flags and those data bytes, after paying exactly the native value from
   `governance_config` to the receiver named. It ends in the world that this call left, with the
   event reported, the configuration it found and its own accounts closed.
3. It fails when the native value needs more than 64 bits, or is not zero and no receiver is named.
4. The bytes hashed determine the target, the call data and the native value. -/
theorem executed_is_scheduled (env : Env) :
    (∀ depth ctx message payload s s' cmdPayload target callData hash,
      calculateGmpContext env payload = .ok (cmdPayload, target, callData, hash) →
      cmdPayload.command = .scheduleTimeLockProposal →
      process env depth ctx (.execute message payload) s = .ok s' →
      s.accounts.proposals hash = none ∧ ∃ proposal,
        s'.accounts.proposals = Function.update s.accounts.proposals hash (some proposal)) ∧
    (∀ depth ctx (kind : ExecutionKind) data s s' payload cmdPayload target callData hash,
      calculateGmpContext env payload = .ok (cmdPayload, target, callData, hash) →
      ExecutableProposal.hashFromData env.toSyscalls data = .ok hash →
      Set.InjOn env.keccak
        { x | ExecutableProposal.hashInput target callData (leBytes32 cmdPayload.nativeValue)
            = .ok x ∨
          ExecutableProposal.hashInput data.targetAddress data.callData data.nativeValue = .ok x } →
      process env depth ctx (kind.instruction data) s = .ok s' →
      data = ⟨target, callData, leBytes32 cmdPayload.nativeValue⟩ ∧
      ∃ depth' config key proposal value paid left, depth = depth' + 1 ∧
        s.accounts.config = some config ∧ configAddress env config.bump = some key ∧
        s.accounts.proposals hash = some proposal ∧
        UInt64.toNat value = cmdPayload.nativeValue.toNat ∧
        Pays data key (kind.beginning ctx hash data s) value paid ∧
        invokeSigned env (process env depth') ctx data
          { programId := target
            accounts := callData.solanaAccounts.map fun m =>
              ⟨m.pubkey, m.isSigner, m.isWritable⟩
            data := callData.callData } (kind.remaining ctx) key paid = .ok left ∧
        s' = (kind.ending ctx hash data config proposal.eta left).withLamports
          (kind.refund ctx key left)) ∧
    (∀ depth ctx (kind : ExecutionKind) data s s',
      2 ^ 64 ≤ LittleEndian.decode data.nativeValue.toList ∨
        LittleEndian.decode data.nativeValue.toList ≠ 0 ∧
          data.callData.solanaNativeValueReceiverAccount = none →
      process env depth ctx (kind.instruction data) s ≠ .ok s') ∧
    (∀ target target' callData callData' nativeValue nativeValue' x,
      ExecutableProposal.hashInput target callData nativeValue = .ok x →
      ExecutableProposal.hashInput target' callData' nativeValue' = .ok x →
      target = target' ∧ callData = callData' ∧ nativeValue = nativeValue') := by
  refine ⟨?_, ?_, ?_, ?_⟩
  · intro depth ctx message payload s s' cmdPayload target callData hash decoded command h
    exact scheduled_at_hash decoded command h
  · intro depth ctx kind data s s' payload cmdPayload target callData hash decoded hashed
      noCollision h
    -- the two hashes agree, so the executor's data is that of the payload
    have same := data_eq_of_hash decoded hashed noCollision
    obtain ⟨depth', hash', config, key, proposal, value, paid, left, rfl, begins, read, pays,
      invoked, ended⟩ := execution_call h
    have hashes : hash' = hash := Except.ok.inj (begins.hash_eq.symm.trans hashed)
    subst hashes
    refine ⟨same, depth', config, key, proposal, value, paid, left, rfl, begins.stored,
      begins.address, begins.pending, ?_, pays, ?_, ended⟩
    · rw [← read, same, decode_leBytes32]
    · have instruction : data.instruction =
          ⟨data.targetAddress, data.callData.solanaAccounts.map fun m =>
            ⟨m.pubkey, m.isSigner, m.isWritable⟩, data.callData.callData⟩ := by
        rw [← instruction_accounts_eq]
        rfl
      rw [instruction] at invoked
      rw [same] at invoked ⊢
      exact invoked
  · intro depth ctx kind data s s' refused h
    obtain ⟨depth', hash, config, key, proposal, value, paid, left, rfl, begins, read, pays, -⟩ :=
      execution_call h
    have bound := value.toNat_lt
    rcases refused with large | ⟨nonzero, nobody⟩
    · omega
    · cases pays with
      | nothing => exact nonzero read
      | receiver _ receiver positive named funded =>
        rw [nobody] at named
        cases named
  · intro target target' callData callData' nativeValue nativeValue' x h h'
    exact hashInput_inj h h'

/-! ## A proposal that pays -/

open Gateway (padTo)

/-- The sample environment, where every payload asks for three lamports. -/
def payoutEnv : Env :=
  { sampleEnv with
    abiDecode payload := (sampleEnv.abiDecode payload).map fun cmdPayload =>
      { cmdPayload with nativeValue := 3 } }

/-- The sample proposal, with a payment of three lamports. -/
def samplePayout : ExecuteProposalData :=
  { sampleProposal with
    callData := { sampleProposal.callData with
      solanaNativeValueReceiverAccount := some ⟨padTo 32 [9], false, true⟩ }
    nativeValue := padTo 32 [3] }

/-- The proposal that pays is scheduled. -/
def samplePayoutSchedule : List Call :=
  sampleStart ++ deliver 200 "1" (payloadOf samplePayout 0 0)

/-- The accounts with which it is executed. -/
def samplePayoutAccounts : List AccountMeta :=
  timelockAccounts (sampleRemaining ++ [⟨padTo 32 [9], false, true⟩])

/-- What its execution is called with. -/
def samplePayoutCtx : Ctx :=
  ⟨sampleSysvarAt 3800, .external, mergePrivileges samplePayoutAccounts⟩

/-- Where it is scheduled, `governance_config` holds ten lamports. -/
def samplePayoutScheduled : World :=
  run (step payoutEnv) (World.initial fun k => if k = sampleConfigKey then 10 else 0)
    samplePayoutSchedule

/-- What the payload that schedules it decodes to. -/
theorem samplePayout_decoded : (calculateGmpContext payoutEnv (payloadOf samplePayout 0 0)).map
    (fun decoded => (decoded.1.nativeValue, decoded.2)) =
      .ok (3, samplePayout.targetAddress, samplePayout.callData, sampleHash) := by
  decide +kernel

/-- Its execution succeeds, and three of the ten lamports are with the receiver. -/
theorem samplePayout_executed : ∃ s', process payoutEnv 5 samplePayoutCtx
    (ExecutionKind.timelock.instruction samplePayout) samplePayoutScheduled = .ok s' ∧
      (s'.lamports sampleConfigKey, s'.lamports (padTo 32 [9])) = (7, 3) := by
  have balances : (process payoutEnv 5 samplePayoutCtx
      (ExecutionKind.timelock.instruction samplePayout) samplePayoutScheduled).map
        (fun s' => (s'.lamports sampleConfigKey, s'.lamports (padTo 32 [9]))) = .ok (7, 3) := by
    decide +kernel
  exact map_eq_ok.mp balances

/-- The proposal that pays: its execution makes the payment and ends in the world its call left; with
a value of 65 bits it fails; and the bytes hashed tell it from the proposal that does not pay. -/
theorem executed_is_scheduled_sample :
    (∃ (s' : World) (value : UInt64) (paid left : World), process payoutEnv 5 samplePayoutCtx
        (ExecutionKind.timelock.instruction samplePayout) samplePayoutScheduled = .ok s' ∧
      value.toNat = 3 ∧
      Pays samplePayout sampleConfigKey (ExecutionKind.timelock.beginning samplePayoutCtx sampleHash
        samplePayout samplePayoutScheduled) value paid ∧
      s'.lamports = ExecutionKind.timelock.refund samplePayoutCtx sampleConfigKey left ∧
      (s'.lamports sampleConfigKey, s'.lamports (padTo 32 [9])) = (7, 3)) ∧
    (¬ ∃ s', process payoutEnv 5 samplePayoutCtx (ExecutionKind.timelock.instruction
        { samplePayout with nativeValue := padTo 32 [0, 0, 0, 0, 0, 0, 0, 0, 1] })
        samplePayoutScheduled = .ok s') ∧
    (¬ ∃ x, ExecutableProposal.hashInput samplePayout.targetAddress samplePayout.callData
        samplePayout.nativeValue = .ok x ∧
      ExecutableProposal.hashInput sampleProposal.targetAddress sampleProposal.callData
        sampleProposal.nativeValue = .ok x) := by
  obtain ⟨-, executed, refused, injective⟩ := executed_is_scheduled payoutEnv
  refine ⟨?_, ?_, ?_⟩
  · obtain ⟨s', success, balances⟩ := samplePayout_executed
    obtain ⟨⟨cmdPayload, target, callData, hash⟩, decoded, same⟩ :=
      map_eq_ok.mp samplePayout_decoded
    obtain ⟨three, same⟩ := Prod.mk.inj same
    cases same
    have hashed : ExecutableProposal.hashFromData payoutEnv.toSyscalls samplePayout =
        .ok sampleHash := by
      decide +kernel
    -- the payload and the executor's data are hashed as the same bytes
    have value : leBytes32 cmdPayload.nativeValue = samplePayout.nativeValue := by
      rw [show cmdPayload.nativeValue = 3 from three]
      decide
    obtain ⟨-, depth', config, key, proposal, value, paid, left, -, stored, address, -, amount, pays,
      -, rfl⟩ := executed 5 samplePayoutCtx .timelock samplePayout samplePayoutScheduled s' _ _ _ _ _
        decoded hashed (by
          rw [value]
          rintro x (read | read) y (read' | read') - <;> exact Except.ok.inj (read.symm.trans read'))
        success
    have found : key = sampleConfigKey := by
      have here : samplePayoutScheduled.accounts.config.bind
          (fun config => configAddress payoutEnv config.bump) = some sampleConfigKey := by
        decide +kernel
      rw [stored, Option.bind_some, address] at here
      exact Option.some.inj here
    rw [found] at pays success balances
    refine ⟨_, value, paid, left, success, ?_, pays, rfl, balances⟩
    rw [amount, show cmdPayload.nativeValue = 3 from three]
    rfl
  · rintro ⟨s', success⟩
    exact refused 5 samplePayoutCtx .timelock _ samplePayoutScheduled s' (.inl (by decide)) success
  · rintro ⟨x, read, read'⟩
    obtain ⟨-, same, -⟩ := injective _ _ _ _ _ _ x read read'
    exact absurd same (by decide)

end AxelarSolana.Governance
