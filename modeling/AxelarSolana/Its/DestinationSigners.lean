import AxelarSolana.Gateway.Payload
import AxelarSolana.Its.Environment

/-! # Signatures for destination programs

* **`destinationCalls`** — the calls of destination programs that a committed call makes.
* **`LendsNothing`** — such a call carries only the signature of the address that vouches for it and
  those that `execute` was given.
* **`lends_nothing_iff`** — this is so exactly when the payload does not list the root account as a
  signer: the root account signs the inner instruction, and with that every account of the same
  address that is passed on.
* **`root_signs_for_destination`** — a transfer that lists it. -/

namespace AxelarSolana.Its

open Fallible Machine

variable {env : Env} {s s' : World}

/-! ## Calls of destination programs -/

/-- The call of a destination program that an event reports. -/
def LogEvent.destinationCall? : LogEvent → Option DestinationCall
  | .destinationCalled call => some call
  | _ => none

/-- **The calls of destination programs** that a committed call makes. -/
def destinationCalls (t : Transition World (Call env)) : List DestinationCall :=
  ((t.post.log.drop t.pre.log.length).map LogEntry.event).filterMap LogEvent.destinationCall?

/-- A quiet event is no call of a destination program. -/
theorem destinationCall?_of_quiet {e : LogEvent} (quiet : e.loud = false) :
    e.destinationCall? = none := by
  cases e with
  | destinationCalled call => cases quiet
  | _ => rfl

/-- **The service lends no signature of its own**: the call carries the signature of the address that
vouches for it and signatures that `execute` was given, and neither the root account's nor the token
manager's. -/
structure LendsNothing (env : Env) (a : Execute) (call : DestinationCall) : Prop where
  signers : ∀ key ∈ signersOf call.accounts, key ∈ signersOf a.metas ∨
    ∃ bump, env.findProgramAddress (InterchainTransferExecute.pdaSeeds call.programId) env.itsId
      = .ok (key, bump)
  root : a.itsRootPda.pubkey ∉ signersOf call.accounts
  manager : a.tokenManagerPda.pubkey ∉ signersOf call.accounts

/-- The signatures of the call of a destination program: of the address that vouches for it, and of
accounts that the payload lists and that the service was given. -/
theorem Invoked.signer {a : ExecuteInterchainTransfer}
    {executePayload : AxelarExecuteWithInterchainTokenPayload} {vouching : AccountMeta}
    {listed : List AccountMeta} {call : DestinationCall}
    (h : Invoked env a executePayload vouching listed call) {key : Pubkey}
    (mem : key ∈ signersOf call.accounts) : key = vouching.pubkey ∨
      (∃ m ∈ listed, m.isSigner = true ∧ m.pubkey = key) ∧
      ∃ n ∈ a.metas, n.isSigner = true ∧ n.pubkey = key := by
  obtain ⟨m, here, signed, rfl⟩ := mem_signersOf.mp mem
  have privileges := List.all_eq_true.mp h.privileges m here
  simp only [hasPrivileges, signed, Bool.not_true, Bool.false_or, Bool.and_eq_true,
    Bool.or_eq_true, decide_eq_true_eq, List.any_eq_true] at privileges
  rw [h.accounts] at here
  rcases List.mem_append.mp here with own | isListed
  · -- of the five accounts of the transfer only the last signs
    simp only [List.mem_cons, List.not_mem_nil, or_false] at own
    rcases own with rfl | rfl | rfl | rfl | rfl
    · cases signed
    · cases signed
    · cases signed
    · cases signed
    · exact .inl rfl
  · rcases privileges.1 with same | ⟨n, passed, same, signs⟩
    · exact .inl same
    · exact .inr ⟨⟨m, isListed, signed, rfl⟩, n, passed, signs, same⟩

/-- A listed account that signs is a signature of the call. -/
theorem Invoked.mem_signers {a : ExecuteInterchainTransfer}
    {executePayload : AxelarExecuteWithInterchainTokenPayload} {vouching : AccountMeta}
    {listed : List AccountMeta} {call : DestinationCall}
    (h : Invoked env a executePayload vouching listed call) {m : AccountMeta} (mem : m ∈ listed)
    (signed : m.isSigner = true) : m.pubkey ∈ signersOf call.accounts := by
  rw [h.accounts]
  exact mem_signersOf.mpr ⟨m, List.mem_append_right _ mem, signed, rfl⟩

/-! ## When nothing is lent -/

/-- **When the service lends no signature of its own.** For every state and every committed `execute`
of a transfer with data, with any accounts: one destination program is called, and the call carries
no signature of the service but the one that vouches for it if and only if the payload does not list
the root account as a signer. -/
theorem lends_nothing_iff (env : Env) (s s' : World) (sysvar : Sysvar) (a : Execute)
    (message : Message) (payload : Bytes)
    (outside : ∀ key ∈ (ItsInstruction.execute a message payload).signers, env.SignsOutside key)
    (executed : step env (.instruction sysvar (.execute a message payload) outside) s = .ok s')
    (sourceChain : String) (transfer : Encoding.InterchainTransfer) (destination : Pubkey)
    (decoded : Encoding.HubMessage.codec.decodeAll payload
      = some (.receiveFromHub sourceChain (.interchainTransfer transfer)))
    (parsed : bytes32FromSlice transfer.destinationAddress = some destination)
    (data : transfer.data.getD [] ≠ [])
    (apart : env.Apart fun seeds => seeds ∈ [InterchainTokenService.pdaSeeds,
      TokenManager.pdaSeeds transfer.tokenId a.itsRootPda.pubkey,
      InterchainTransferExecute.pdaSeeds destination]) :
    ∃ listed rest call, env.decodePayload (transfer.data.getD []) = .ok (listed, rest) ∧
      destinationCalls ⟨s, .instruction sysvar (.execute a message payload) outside, s'⟩ = [call] ∧
      call.programId = destination ∧
      (LendsNothing env a call ↔
        ∀ m ∈ listed, m.isSigner = true → m.pubkey ≠ a.itsRootPda.pubkey) := by
  cases step_cases executed with
  | own sysvar i outside l s' notInner notExecute effect performs =>
    exact absurd rfl (notExecute a message payload)
  | execute sysvar a message payload outside sourceChain₁ inner gateway i l s' accepts received
      performs =>
    cases decoded.symm.trans accepts.decoded
    cases received with
    | transfer a₁ transfer destination₁ transferred tokenManager tracked mint instruction before after
        called s' manager parsed₁ signers inbound calls accounts =>
      cases parsed.symm.trans parsed₁
      cases calls with
      | quiet noData => exact absurd noData data
      | invoked _ vouching listed call invoked =>
        obtain ⟨rest, listing, -⟩ := invoked.decoded
        obtain ⟨entries, log, calls⟩ := performs.filterMap fun _ => destinationCall?_of_quiet
        obtain ⟨root, stored, -, -, -, address⟩ := accepts.root
        have programId : call.programId = destination := invoked.programId.trans inbound.destination
        obtain ⟨vouchingBump, vouches⟩ := inbound.vouching vouching invoked.given
        -- the inner instruction is given the same root account
        have sameRoot : a₁.itsRootPda.pubkey = a.itsRootPda.pubkey := by
          obtain ⟨root₁, signing⟩ := inbound.root
          rw [signingRoot_eq_ok, unpausedRoot_eq_ok, itsRootPda_eq_ok] at signing
          obtain ⟨⟨⟨stored₁, address₁⟩, -⟩, -⟩ := signing
          cases stored.symm.trans stored₁
          exact Option.some.inj (address₁.symm.trans address)
        have rootDerived : env.Derives InterchainTokenService.pdaSeeds a.itsRootPda.pubkey :=
          ⟨root.bump, address⟩
        have managerDerived : env.Derives
            (TokenManager.pdaSeeds transfer.tokenId a.itsRootPda.pubkey)
            a.tokenManagerPda.pubkey := by
          have loaded := (tokenManagerPda_eq_ok.mp inbound.manager).2
          rw [sameRoot, manager] at loaded
          exact ⟨_, loaded⟩
        refine ⟨listed, rest, call, listing, ?_, programId, fun lends m mem signed same => ?_,
          fun unlisted => ?_⟩
        · have both : s'.log = s.log ++ (⟨.accepted sourceChain (.interchainTransfer transfer),
              .execute a message payload, .external⟩ :: entries) := by
            rw [log]
            exact List.append_assoc ..
          rw [destinationCalls, both, List.drop_left, List.map_cons, List.filterMap_cons_none rfl,
            calls]
          rfl
        · refine lends.root ?_
          rw [← same]
          exact invoked.mem_signers mem signed
        · -- a signature that is neither given nor the vouching one would be the root account's
          have only : ∀ key ∈ signersOf call.accounts, key ∈ signersOf a.metas ∨
              ∃ bump, env.findProgramAddress (InterchainTransferExecute.pdaSeeds call.programId)
                env.itsId = .ok (key, bump) := by
            intro key mem
            rcases invoked.signer mem with rfl | ⟨⟨m, isListed, signed, rfl⟩, n, passed, signs, same⟩
            · exact .inr ⟨vouchingBump, programId ▸ vouches⟩
            · rcases signers n passed signs with isRoot | given
              · exact absurd (same.symm.trans isRoot) (unlisted m isListed signed)
              · exact .inl (same ▸ given)
          have notOwn : ∀ seeds key, seeds ∈ [InterchainTokenService.pdaSeeds,
              TokenManager.pdaSeeds transfer.tokenId a.itsRootPda.pubkey] →
              env.Derives seeds key → key ∉ signersOf call.accounts := by
            intro seeds key mem derived signs
            rcases only key signs with given | ⟨bump, found⟩
            · exact derived.not_outside (outside key given)
            · rw [programId] at found
              have same := apart seeds _ key (List.mem_append_left [_] mem)
                (List.mem_append_right [_, _] List.mem_cons_self) derived (derives_of_find found)
              subst same
              simp only [InterchainTransferExecute.pdaSeeds, InterchainTokenService.pdaSeeds,
                TokenManager.pdaSeeds, List.mem_cons, List.cons.injEq, List.not_mem_nil, or_false,
                reduceCtorEq, and_false] at mem
          exact
            { signers := only
              root := notOwn _ _ List.mem_cons_self rootDerived
              manager := notOwn _ _ (List.mem_cons_of_mem _ List.mem_cons_self) managerDerived }

/-! ## A payload that lists the root account -/

/-- The program that receives. -/
def lendingProgram : Pubkey := sampleProgramId 8

/-- The data of the transfer: a payload that lists the root account as a signer. -/
def lendingData : Bytes :=
  ((Gateway.AxelarMessagePayload.encode Gateway.sampleAlloy
    ⟨[7], [⟨sampleAddress 0, true, false⟩], .borsh⟩).toOption).getD []

/-- The transfer that the hub asks for. -/
def lendingTransfer : Encoding.InterchainTransfer :=
  ⟨walletTokenId, [1], lendingProgram.toList, 5, some lendingData⟩

/-- The payload of the hub's message. -/
def lendingPayload : Bytes :=
  (Encoding.HubMessage.codec.encode
    (.receiveFromHub "ethereum" (.interchainTransfer lendingTransfer))).getD []

/-- The message of the hub. -/
def lendingMessage : Message where
  ccId := ⟨"axelar", "1"⟩
  sourceAddress := "hub"
  destinationChain := "solana"
  destinationAddress := "iiiiiiiiiiiiiiiiiiiiiiiiiiiiiiii"
  payloadHash := Gateway.sampleEnv.keccak lendingPayload

/-- The command id of the message. -/
def lendingCommandId : Bytes32 := lendingMessage.commandId Gateway.sampleEnv.toCrates

/-- **The environment of the transfer**: payloads are read as `AxelarMessagePayload::decode` does. -/
def lendingEnv : Env :=
  tableEnv (tokenTable walletTokenId
    [sampleSeeds [(sampleWallet 1).toList, (sampleProgramId 2).toList, (sampleAddress 2).toList]
        (sampleProgramId 3),
      sampleSeeds (Gateway.ValidateMessageSigner.pdaSeeds lendingCommandId) sampleItsId,
      sampleSeeds (Gateway.sampleSession Gateway.sampleLeafHash).pdaSeeds
        Gateway.sampleEnv.gatewayId,
      sampleSeeds [Gateway.IncomingMessage.seedPrefix, lendingCommandId.toList]
        Gateway.sampleEnv.gatewayId,
      sampleSeeds (InterchainTransferExecute.pdaSeeds lendingProgram) sampleItsId,
      sampleSeeds [itsTokenAuthoritySeed] lendingProgram,
      sampleSeeds [(sampleAddress 14).toList, (sampleProgramId 2).toList, (sampleAddress 2).toList]
        (sampleProgramId 3)])
    fun b => (Gateway.AxelarMessagePayload.decode Gateway.sampleAlloy false b).map fun p =>
      (p.solanaAccounts.map fun r => ⟨r.pubkey, r.isSigner, r.isWritable⟩, p.payloadWithoutAccounts)

/-- The message is approved; the service is initialised, trusts a chain, and a wallet deploys the
token. -/
def lendingStart : List (Call lendingEnv) :=
  tableGatewayCalls (Gateway.sampleInitialize :: Gateway.sampleSign Gateway.sampleLeafHash ++
    [Gateway.sampleApprove lendingMessage]) rfl ++
  [tableInitializes, tableTrusts "ethereum", tableDeploys]

/-- The world before any call: the destination is owned by the loader. -/
def lendingInitial : World :=
  World.initial (fun key => if key = lendingProgram then sampleProgramId 6 else sampleProgramId 4)
    ⟨none, fun _ => 0, []⟩

/-- The accounts with which the message is executed; the last is the root account again, which does
not sign. -/
def lendingAccounts : Execute where
  signingPda := ⟨sampleAddress 10, false, false⟩
  payer := ⟨sampleWallet 1, true, true⟩
  itsRootPda := ⟨sampleAddress 0, false, false⟩
  tokenManagerPda := ⟨sampleAddress 1, false, true⟩
  tokenMint := ⟨sampleAddress 2, false, true⟩
  tokenManagerAta := ⟨sampleAddress 3, false, true⟩
  tokenProgram := ⟨sampleProgramId 2, false, false⟩
  associatedTokenProgram := ⟨sampleProgramId 3, false, false⟩
  systemProgram := ⟨sampleProgramId 4, false, false⟩
  remainingAccounts :=
    [⟨lendingProgram, false, false⟩, ⟨sampleAddress 14, false, false⟩,
      ⟨sampleAddress 15, false, true⟩, ⟨sampleAddress 13, false, false⟩,
      ⟨sampleAddress 0, false, false⟩]

/-- Nobody signs for the service. -/
theorem lendingAccounts_outside : ∀ key ∈
    (ItsInstruction.execute lendingAccounts lendingMessage lendingPayload).signers,
    lendingEnv.SignsOutside key := tableEnv_signsOutside (by decide +kernel)

/-- The message is executed. -/
def lendingExecute : Call lendingEnv :=
  .instruction Gateway.sampleSysvar (.execute lendingAccounts lendingMessage lendingPayload)
    lendingAccounts_outside

/-- **The root account signs for the destination program** that a payload names, when the payload
lists it as a signer. -/
theorem root_signs_for_destination :
    let s := run (step lendingEnv) lendingInitial lendingStart
    ∃ s', step lendingEnv lendingExecute s = .ok s' ∧
      ∃ call ∈ destinationCalls ⟨s, lendingExecute, s'⟩,
        sampleAddress 0 ∈ signersOf call.accounts ∧
        ¬ LendsNothing lendingEnv lendingAccounts call := by
  intro s
  have result : ((step lendingEnv lendingExecute s).toOption.any fun s' =>
      (destinationCalls ⟨s, lendingExecute, s'⟩).any fun call =>
        sampleAddress 0 ∈ signersOf call.accounts) = true := by
    decide +kernel
  obtain ⟨s', executed, called⟩ := (Option.any_eq_true _ _).mp result
  obtain ⟨call, mem, signs⟩ := List.any_eq_true.mp called
  refine ⟨s', toOption_eq_some.mp executed, call, mem, of_decide_eq_true signs, fun lends => ?_⟩
  exact lends.root (of_decide_eq_true signs)

/-- In the environment of a table the addresses of a transfer differ. -/
theorem tableEnv_transfer_apart {table : List Bytes}
    {decodePayload : Bytes → Except Error (List AccountMeta × Bytes)} (short : table.length ≤ 256)
    (tokenId : Bytes32) (rootKey destination : Pubkey) :
    (tableEnv table decodePayload).Apart fun seeds => seeds ∈ [InterchainTokenService.pdaSeeds,
      TokenManager.pdaSeeds tokenId rootKey, InterchainTransferExecute.pdaSeeds destination] := by
  refine tableEnv_apart_of short fun x y hx hy same => ?_
  have length := congrArg List.length same
  simp only [List.mem_cons, List.not_mem_nil, or_false] at hx hy
  rcases hx with rfl | rfl | rfl <;> rcases hy with rfl | rfl | rfl <;>
    simp only [length_rootSeeds, length_tokenManagerSeeds, length_executeSeeds,
      Nat.reduceEqDiff] at length ⊢

/-- The transfer lends the root account's signature because its payload lists the root account. -/
theorem lends_nothing_iff_sample :
    ∃ s' listed rest call,
      step lendingEnv lendingExecute (run (step lendingEnv) lendingInitial lendingStart) = .ok s' ∧
      lendingEnv.decodePayload lendingData = .ok (listed, rest) ∧ call.programId = lendingProgram ∧
      (LendsNothing lendingEnv lendingAccounts call ↔
        ∀ m ∈ listed, m.isSigner = true → m.pubkey ≠ sampleAddress 0) := by
  have succeeds : ((step lendingEnv lendingExecute
      (run (step lendingEnv) lendingInitial lendingStart)).toOption.any fun _ => true) = true := by
    decide +kernel
  obtain ⟨s', executed, -⟩ := (Option.any_eq_true _ _).mp succeeds
  have decoded : Encoding.HubMessage.codec.decodeAll lendingPayload
      = some (.receiveFromHub "ethereum" (.interchainTransfer lendingTransfer)) := by
    decide +kernel
  obtain ⟨listed, rest, call, listing, -, programId, iff⟩ := lends_nothing_iff lendingEnv _ s' _
    lendingAccounts lendingMessage lendingPayload lendingAccounts_outside
    (toOption_eq_some.mp executed) "ethereum" lendingTransfer lendingProgram decoded
    (by decide +kernel) (by decide +kernel) (tableEnv_transfer_apart (by decide +kernel) _ _ _)
  exact ⟨s', listed, rest, call, toOption_eq_some.mp executed, listing, programId, iff⟩

end AxelarSolana.Its
