import AxelarSolana.Gateway.Destinations
import AxelarSolana.Its.OutboundMessages
import AxelarSolana.Memo.Program

/-! # What reaches the memo program, and what leaves it

Runs in which the program's instructions alternate with anything that others do without its
signature.

* **`step`** — an instruction of the program, or what others do.
* **`Delivered`** — the invariant: counter, executed messages and contract calls are those of the
  committed instructions.
* **`memo_exactly_once`** — every message is received at most once, and only as it was approved.
* **`memo_transfers_never_leave`** — no interchain transfer of the program succeeds. -/

namespace AxelarSolana.Memo

open Fallible Machine

/-! ## Runs -/

/-- **Whether an address may sign outside the program.** -/
def Env.SignsOutside (env : Env) (key : Pubkey) : Prop :=
  key ≠ env.memoId ∧ ∀ seeds, env.its.createProgramAddress seeds env.memoId ≠ some key

/-- **A call of a run**: an instruction of the program, or what others do. They call the gateway
without a signature of the program and leave the rest of the chain in any state. -/
inductive Call (env : Env)
  | instruction (sysvar : Sysvar) (instruction : MemoInstruction)
  | others (calls : List Gateway.GatewayCall) (its : Its.World)
      (outside : ∀ call ∈ calls, ∀ key ∈ Its.gatewaySigners call.instruction, env.SignsOutside key)

/-- **One call.** -/
def step (env : Env) (call : Call env) (w : World) : Except Error World :=
  match call with
  | .instruction sysvar instruction => process env sysvar instruction w
  | .others calls its _ => do
    let gateway ← calls.foldlM (fun g call => Gateway.process env.its.toEnv call g) w.gateway
    pure ({ w with its }.setGateway gateway)

/-- Before any call, on a chain with the given state otherwise. -/
def World.genesis (its : Its.World) : World :=
  World.setGateway ⟨none, its⟩ .initial

/-- How many memos the counter account reports. -/
def World.received (w : World) : Nat := (w.counter.map fun c => c.counter.toNat).getD 0

variable {env : Env}

/-- The message that a call receives. -/
def Call.message? : Call env → Option Message
  | .instruction _ (.execute _ message _ _) => some message
  | _ => none

/-- The transfer that a call receives. -/
def Call.transfer? : Call env → Option Its.AxelarExecuteWithInterchainTokenPayload
  | .instruction _ (.executeWithInterchainToken _ executePayload) => some executePayload
  | _ => none

/-- The contract call that a call sends. -/
def Call.sent? : Call env → Option Gateway.CallContractEvent
  | .instruction _ (.sendMemo _ destinationChain destinationAddress memo) =>
    some ⟨env.memoId, env.its.keccak (Codec.utf8 memo), destinationChain, destinationAddress,
      Codec.utf8 memo⟩
  | _ => none

/-! ## The instructions -/

variable {sysvar : Sysvar} {w w' : World}

/-- The counter is at the address of its seeds, with the bump that it holds. -/
@[simp] theorem counterAccount_eq_ok {key : Pubkey} {counter : Counter} :
    counterAccount env key w = .ok counter ↔ w.counter = some counter ∧
      env.its.createProgramAddress (Counter.pdaSeeds ++ [[counter.bump]]) env.memoId = some key := by
  simp only [counterAccount, bind_eq_ok, okOr_eq_ok, require_eq_ok, pure_eq_ok]
  constructor
  · rintro ⟨c, stored, _, created, rfl⟩
    exact ⟨stored, created⟩
  · rintro ⟨stored, created⟩
    exact ⟨counter, stored, (), created, rfl⟩

/-- The counter goes up by one. -/
theorem increase_ok {counter counter' : Counter} (h : counter.increase = .ok counter') :
    counter'.counter.toNat = counter.counter.toNat + 1 ∧ counter'.bump = counter.bump := by
  simp only [Counter.increase, bind_eq_ok, okOr_eq_ok, pure_eq_ok] at h
  obtain ⟨next, added, rfl⟩ := h
  exact ⟨toNat_of_checkedAdd added, rfl⟩

/-- `init` sets up the counter at the address found for its seeds. -/
theorem init_ok {a : Init} (h : init env a w = .ok w') : ∃ bump,
    w.counter = none ∧ env.its.findProgramAddress Counter.pdaSeeds env.memoId
      = .ok (a.counter, bump) ∧ w' = w.setCounter ⟨0, bump⟩ := by
  simp only [init, bind_eq_ok, Syscalls.initPda_eq_ok, pure_eq_ok] at h
  obtain ⟨_, -, bump, ⟨fresh, found⟩, rfl⟩ := h
  exact ⟨bump, fresh, found, rfl⟩

/-- **What `execute` has checked**: the text is UTF-8, the payload hash commits to it, to the counter
account and to the scheme, and the gateway has accepted the message for the program. -/
theorem execute_ok {a : Execute} {message : Message} {payload : Bytes}
    {encodingScheme : Gateway.EncodingScheme}
    (h : execute env sysvar a message payload encodingScheme w = .ok w') :
    ∃ counter counter' gateway memo encoded,
      w.counter = some counter ∧
      env.its.createProgramAddress (Counter.pdaSeeds ++ [[counter.bump]]) env.memoId
        = some a.counter.pubkey ∧
      counter.increase = .ok counter' ∧
      Codec.utf8 memo = payload ∧
      (Gateway.Executable.newPayload payload [a.counter] encodingScheme).encode env.alloy
        = .ok encoded ∧
      env.its.keccak encoded = message.payloadHash ∧
      Gateway.process env.its.toEnv ⟨sysvar, .validateMessage
        ⟨message.commandId env.its.toCrates, ⟨a.executable.signingPda, true⟩⟩ message⟩ w.gateway
        = .ok gateway ∧
      (∃ incoming, w.gateway.incoming (message.commandId env.its.toCrates) = some incoming ∧
        env.its.createProgramAddress (Gateway.ValidateMessageSigner.pdaSeeds
          (message.commandId env.its.toCrates) ++ [[incoming.signingPdaBump]]) env.memoId
          = some a.executable.signingPda) ∧
      w' = (w.setGateway gateway).setCounter counter' := by
  simp only [execute, executableAccounts, fromUtf8, bind_eq_ok, require_eq_ok, okOr_eq_ok,
    pure_eq_ok, counterAccount_eq_ok, Codec.ofUtf8_eq_some,
    Gateway.GatewayState.loadIncoming_eq_ok] at h
  obtain ⟨_, ⟨incoming, approved, config, -, _, -, _, signing, -⟩, counter, ⟨stored, created⟩, _, -,
    gateway, validated, memo, text, counter', increased, rfl⟩ := h
  obtain ⟨encoded, passes⟩ := Gateway.Executable.passes_of_validateMessage validated
  rw [Gateway.Executable.validateMessage_of_passes passes] at validated
  obtain ⟨-, encodes⟩ := Gateway.Executable.reconstruct_eq_ok.mp passes.1
  exact ⟨counter, counter', gateway, memo, encoded, stored, created, increased, text, encodes,
    passes.2, validated, ⟨incoming, approved, signing⟩, rfl⟩

/-- **What `execute_with_interchain_token` has checked**: the text is UTF-8, and the address of the
interchain token service for calls of this program signs. -/
theorem executeWithInterchainToken_ok {a : ExecuteWithInterchainToken}
    {executePayload : Its.AxelarExecuteWithInterchainTokenPayload}
    (h : executeWithInterchainToken env a executePayload w = .ok w') :
    ∃ counter counter' memo,
      w.counter = some counter ∧
      counter.increase = .ok counter' ∧
      Codec.utf8 memo = executePayload.data ∧
      a.interchainTransferExecute.isSigner = true ∧
      (∃ bump, env.its.findProgramAddress (Its.InterchainTransferExecute.pdaSeeds env.memoId)
        env.its.itsId = .ok (a.interchainTransferExecute.key, bump)) ∧
      w'.counter = some counter' ∧ w'.gateway = w.gateway := by
  simp only [executeWithInterchainToken, executableWithInterchainTokenAccounts, fromUtf8, bind_eq_ok,
    require_eq_ok, okOr_eq_ok, pure_eq_ok, counterAccount_eq_ok, Codec.ofUtf8_eq_some,
    Gateway.signer_eq_ok] at h
  obtain ⟨mint, ⟨_, -, _, -, _, -, _, signed, _, -, _, -, _, -, _, -, _, -, _, -, _, -,
    ⟨key, bump⟩, found, _, same, -⟩, counter, ⟨stored, -⟩, memo, text, counter', increased,
    finished⟩ := h
  refine ⟨counter, counter', memo, stored, increased, text, signed, ⟨bump, same ▸ found⟩, ?_⟩
  split at finished
  · simp only [bind_eq_ok, pure_eq_ok] at finished
    obtain ⟨tokens, -, rfl⟩ := finished
    exact ⟨rfl, rfl⟩
  · rw [pure_eq_ok] at finished
    rw [← finished]
    exact ⟨rfl, rfl⟩

/-- `send_memo` does nothing but call the gateway with the memo, in the name of the program. -/
theorem sendMemo_ok {a : SendMemo} {destinationChain destinationAddress memo : String}
    (h : sendMemo env sysvar a destinationChain destinationAddress memo w = .ok w') :
    ∃ gateway bump, w' = w.setGateway gateway ∧
      Gateway.process env.its.toEnv ⟨sysvar, .callContract
        ⟨⟨env.memoId, false⟩, some ⟨a.signingPda, true⟩⟩ destinationChain destinationAddress
        (Codec.utf8 memo) bump⟩ w.gateway = .ok gateway := by
  simp only [sendMemo, bind_eq_ok, require_eq_ok, pure_eq_ok] at h
  obtain ⟨⟨key, bump⟩, -, _, -, gateway, called, rfl⟩ := h
  exact ⟨gateway, bump, rfl, called⟩

/-! ## Interchain transfers -/

/-- **The derivation of addresses tells one bump from two**: the counter account's address is not
that of its seeds with another bump. -/
def Env.BumpsApart (env : Env) : Prop :=
  ∀ b b' key, env.its.createProgramAddress (Counter.pdaSeeds ++ [[b]]) env.memoId = some key →
    env.its.createProgramAddress (Counter.pdaSeeds ++ [[b]] ++ [[b']]) env.memoId ≠ some key

/-- **The derivation of addresses tells programs apart**: validate-message addresses of two programs
differ. -/
def Env.ProgramsApart (env : Env) : Prop :=
  ∀ commandId bump programId programId' key,
    env.its.createProgramAddress (Gateway.ValidateMessageSigner.pdaSeeds commandId ++ [[bump]])
      programId = some key →
    env.its.createProgramAddress (Gateway.ValidateMessageSigner.pdaSeeds commandId ++ [[bump]])
      programId' = some key → programId = programId'

/-- The service does not find the counter account from seeds that already have its bump. -/
theorem transferSource_ne_ok (apart : env.BumpsApart) {bump : UInt8} {key source : Pubkey}
    (created : env.its.createProgramAddress (Counter.pdaSeeds ++ [[bump]]) env.memoId = some key)
    {its : Its.World} : Its.transferSource env.its key (some env.memoId)
      (some (Counter.pdaSeeds ++ [[bump]])) its ≠ .ok source := by
  intro h
  cases Its.transferSource_ok h with
  | program programId seeds again found =>
    exact apart bump again key created (Syscalls.createProgramAddress_of_find _ found)

/-- **No interchain transfer of the program succeeds.** -/
theorem sendInterchainTransfer_ne_ok (apart : env.BumpsApart) {a : SendInterchainTransfer}
    {tokenId : Bytes32} {destinationChain : String} {destinationAddress : Bytes}
    {amount gasValue : UInt64} :
    sendInterchainTransfer env sysvar a tokenId destinationChain destinationAddress amount gasValue w
      ≠ .ok w' := by
  intro h
  simp only [sendInterchainTransfer, Its.process, Its.interchainTransfer, bind_eq_ok, pure_eq_ok,
    counterAccount_eq_ok] at h
  obtain ⟨_, -, counter, ⟨-, created⟩, its, ⟨_, -, _, -, _, -, _, -, _, -, _, -, _, -, _, -, _, -,
    _, -, _, -, _, -, _, -, _, -, _, -, source, sourced, -⟩, -⟩ := h
  exact transferSource_ne_ok apart created sourced

/-! ## The invariant -/

/-- Calls of the gateway that are not signed by the program leave what was executed for it and what
it has sent. -/
theorem process_outside {call : Gateway.GatewayCall} {g g' : Gateway.GatewayState}
    (outside : ∀ key ∈ Its.gatewaySigners call.instruction, env.SignsOutside key)
    (h : Gateway.process env.its.toEnv call g = .ok g') :
    g'.executedFor env.memoId = g.executedFor env.memoId ∧
      g'.sentBy env.memoId = g.sentBy env.memoId := by
  constructor
  · rcases Gateway.process_executedFor h env.memoId with same | ⟨accounts, m, called, execution⟩
    · exact same
    · -- an execution for the program is signed by one of its addresses
      obtain ⟨incoming, -, -, -, created, -⟩ := execution.record
      have signs : accounts.caller.key ∈ Its.gatewaySigners call.instruction := by
        rw [called]
        exact mem_signersOfInfos.mpr ⟨_, List.mem_singleton_self _, execution.signed, rfl⟩
      exact absurd (okOr_eq_ok.mp created) ((outside _ signs).2 _)
  · rcases Gateway.process_sentBy h env.memoId with same |
      ⟨accounts, chain, address, payload, bump, called, signedFor⟩
    · exact same
    · exfalso
      cases signs : accounts.caller.isSigner with
      | true =>
        have mem : env.memoId ∈ Its.gatewaySigners call.instruction := by
          rw [called]
          exact mem_signersOfInfos.mpr ⟨_, List.mem_cons_self, signs, signedFor.caller⟩
        exact (outside _ mem).1 rfl
      | false =>
        obtain ⟨pda, bump', created, given⟩ := signedFor.signed signs
        have mem : pda ∈ Its.gatewaySigners call.instruction := by
          rw [called]
          refine mem_signersOfInfos.mpr ⟨⟨pda, true⟩, ?_, rfl, rfl⟩
          rw [given]
          exact List.mem_cons_of_mem _ (List.mem_singleton_self _)
        exact (outside _ mem).2 _ created

/-- Any number of such calls. -/
theorem processes_outside {calls : List Gateway.GatewayCall} {g g' : Gateway.GatewayState}
    (outside : ∀ call ∈ calls, ∀ key ∈ Its.gatewaySigners call.instruction, env.SignsOutside key)
    (h : calls.foldlM (fun g call => Gateway.process env.its.toEnv call g) g = .ok g') :
    g'.executedFor env.memoId = g.executedFor env.memoId ∧
      g'.sentBy env.memoId = g.sentBy env.memoId := by
  induction calls generalizing g with
  | nil =>
    rw [List.foldlM_nil, pure_eq_ok] at h
    rw [h]
    exact ⟨rfl, rfl⟩
  | cons call calls ih =>
    rw [List.foldlM_cons, bind_eq_ok] at h
    obtain ⟨g₁, first, rest⟩ := h
    have now := process_outside (outside call List.mem_cons_self) first
    have later := ih (fun c mem => outside c (List.mem_cons_of_mem _ mem)) rest
    exact ⟨later.1.trans now.1, later.2.trans now.2⟩

/-- What was executed with the program's validate-message address was executed for the program. -/
theorem executed_of_signing (programs : env.ProgramsApart) {m : Message} {signingPda : Pubkey}
    {g g' : Gateway.GatewayState} {incoming : Gateway.IncomingMessage}
    (stored : g.incoming (m.commandId env.its.toCrates) = some incoming)
    (signing : env.its.createProgramAddress (Gateway.ValidateMessageSigner.pdaSeeds
      (m.commandId env.its.toCrates) ++ [[incoming.signingPdaBump]]) env.memoId = some signingPda)
    (h : Gateway.process env.its.toEnv ⟨sysvar, .validateMessage
      ⟨m.commandId env.its.toCrates, ⟨signingPda, true⟩⟩ m⟩ g = .ok g') :
    Gateway.Execution env.its.toEnv m env.memoId ⟨signingPda, true⟩ g g' := by
  obtain ⟨destination, execution⟩ := Gateway.execution_of_process h
  obtain ⟨incoming', stored', -, -, created, -⟩ := execution.record
  rw [stored] at stored'
  cases stored'
  rw [programs _ _ _ _ _ signing (okOr_eq_ok.mp created)]
  exact execution

/-- The counter has the canonical bump. -/
def World.Canonical (env : Env) (w : World) : Prop :=
  ∀ counter, w.counter = some counter → ∃ key,
    env.its.findProgramAddress Counter.pdaSeeds env.memoId = .ok (key, counter.bump)

/-- **What one call delivers**: the message or the transfer that it receives is counted, a message is
executed at the gateway, and a memo is sent there. -/
structure Delivers (env : Env) (call : Call env) (w w' : World) : Prop where
  steps : Steps (Gateway.process env.its.toEnv) w.gateway w'.gateway
  counted : w'.received = w.received + (call.message?.toList.length + call.transfer?.toList.length)
  executed : w'.gateway.executedFor env.memoId = w.gateway.executedFor env.memoId ++
    call.message?.toList.map fun m => Gateway.messageExecutedEvent env.its.toEnv m env.memoId
  sent : w'.gateway.sentBy env.memoId = w.gateway.sentBy env.memoId ++ call.sent?.toList
  canonical : w.Canonical env → w'.Canonical env

/-- What has been received is what the counter says. -/
theorem received_of_counter {counter : Counter} (stored : w.counter = some counter) :
    w.received = counter.counter.toNat := by
  rw [World.received, stored]
  rfl

/-- A counter that goes up keeps its bump. -/
theorem canonical_of_increase {counter counter' : Counter} (stored : w.counter = some counter)
    (stored' : w'.counter = some counter') (increased : counter.increase = .ok counter')
    (canonical : w.Canonical env) : w'.Canonical env := by
  intro c written
  rw [stored', Option.some.injEq] at written
  rw [← written, (increase_ok increased).2]
  exact canonical counter stored

/-- **Every call delivers what it stands for.** -/
theorem delivers_of_step (bumps : env.BumpsApart) (programs : env.ProgramsApart) {call : Call env}
    (h : step env call w = .ok w') : Delivers env call w w' := by
  cases call with
  | others gatewayCalls its outside =>
    simp only [step, bind_eq_ok, pure_eq_ok] at h
    obtain ⟨gateway, folded, rfl⟩ := h
    -- the calls of others are not signed by the program's addresses
    obtain ⟨executed, sent⟩ := processes_outside outside folded
    exact
      { steps := steps_of_foldlM folded
        counted := rfl
        executed := executed.trans (List.append_nil _).symm
        sent := sent.trans (List.append_nil _).symm
        canonical := id }
  | instruction sysvar instruction =>
    cases instruction with
    | init a =>
      obtain ⟨bump, fresh, found, rfl⟩ := init_ok h
      refine ⟨.refl, ?_, (List.append_nil _).symm, (List.append_nil _).symm, fun _ c written => ?_⟩
      · rw [World.received, World.received, fresh]
        rfl
      · cases written
        exact ⟨a.counter, found⟩
    | execute a message payload encodingScheme =>
      obtain ⟨counter, counter', gateway, memo, encoded, stored, -, increased, -, -, -, validated,
        ⟨incoming, present, signing⟩, rfl⟩ := execute_ok h
      have execution := executed_of_signing programs present signing validated
      refine ⟨.single ⟨_, validated⟩, ?_, execution.executedFor, ?_,
        canonical_of_increase stored rfl increased⟩
      · rw [received_of_counter stored, received_of_counter (World.counter_setCounter _ _)]
        exact (increase_ok increased).1
      · -- an execution sends nothing
        refine Eq.trans ?_ (List.append_nil _).symm
        refine Gateway.sentBy_of_events execution.events fun e mem => ?_
        rw [List.mem_singleton.mp mem]
        rfl
    | executeWithInterchainToken a executePayload =>
      obtain ⟨counter, counter', memo, stored, increased, -, -, -, written, same⟩ :=
        executeWithInterchainToken_ok h
      refine ⟨?_, ?_, ?_, ?_, canonical_of_increase stored written increased⟩
      · rw [same]
        exact .refl
      · rw [received_of_counter stored, received_of_counter written]
        exact (increase_ok increased).1
      · rw [same]
        exact (List.append_nil _).symm
      · rw [same]
        exact (List.append_nil _).symm
    | emitMemo message =>
      cases h
      exact ⟨.refl, rfl, (List.append_nil _).symm, (List.append_nil _).symm, id⟩
    | sendMemo a destinationChain destinationAddress memo =>
      obtain ⟨gateway, bump, rfl, called⟩ := sendMemo_ok h
      have sends : Gateway.callContract env.its.toEnv
          ⟨⟨env.memoId, false⟩, some ⟨a.signingPda, true⟩⟩ destinationChain destinationAddress
          (Codec.utf8 memo) bump w.gateway = .ok gateway := called
      refine ⟨.single ⟨_, called⟩, rfl, ?_, (Gateway.callContract_sentBy sends).2, id⟩
      -- a contract call executes no message
      obtain same | ⟨accounts, m, other, -⟩ := Gateway.process_executedFor called env.memoId
      · exact same.trans (List.append_nil _).symm
      · cases other
    | sendInterchainTransfer a tokenId destinationChain destinationAddress amount gasValue =>
      exact absurd h (sendInterchainTransfer_ne_ok bumps)

/-- **What the committed calls have delivered.** -/
structure Delivered (env : Env) (calls : List (Call env)) (w : World) : Prop where
  reached : Steps (Gateway.process env.its.toEnv) .initial w.gateway
  counted : w.received = (calls.filterMap Call.message?).length +
    (calls.filterMap Call.transfer?).length
  executed : w.gateway.executedFor env.memoId = (calls.filterMap Call.message?).map
    fun m => Gateway.messageExecutedEvent env.its.toEnv m env.memoId
  sent : w.gateway.sentBy env.memoId = calls.filterMap Call.sent?
  canonical : w.Canonical env

/-- A filter of one more call. -/
theorem filterMap_concat {β : Type} (f : Call env → Option β) (calls : List (Call env))
    (call : Call env) : (calls ++ [call]).filterMap f = calls.filterMap f ++ (f call).toList := by
  rw [List.filterMap_append]
  cases value : f call with
  | none => rw [List.filterMap_cons_none value]; rfl
  | some b => rw [List.filterMap_cons_some value]; rfl

/-- **One call keeps the books.** -/
theorem Delivered.concat {calls : List (Call env)} {call : Call env} (inv : Delivered env calls w)
    (h : Delivers env call w w') : Delivered env (calls ++ [call]) w' where
  reached := inv.reached.trans h.steps
  counted := by
    rw [filterMap_concat, filterMap_concat, List.length_append, List.length_append, h.counted,
      inv.counted]
    omega
  executed := by rw [filterMap_concat, List.map_append, h.executed, inv.executed]
  sent := by rw [filterMap_concat, h.sent, inv.sent]
  canonical := h.canonical inv.canonical

/-- **The books of a run.** -/
theorem delivered_run (bumps : env.BumpsApart) (programs : env.ProgramsApart) (its : Its.World)
    (calls : List (Call env)) :
    Delivered env ((trace (step env) (.genesis its) calls).map Transition.call)
      (run (step env) (.genesis its) calls) := by
  refine run_trace_induction (P := fun tr w => Delivered env (tr.map Transition.call) w) ?_ ?_ calls
  · refine ⟨.refl, rfl, rfl, rfl, fun counter stored => ?_⟩
    cases stored
  · intro tr w call w' inv h
    rw [List.map_append]
    exact inv.concat (delivers_of_step bumps programs h)

/-! ## The results -/

/-- **A message received as it was approved**: its text is UTF-8, its payload hash commits to the text,
to the program's counter account and to the scheme, and the gateway approved a message with its
command id and its hash before. -/
structure ReceivedAsApproved (env : Env) (m : Message) (counter : AccountMeta) (payload : Bytes)
    (encodingScheme : Gateway.EncodingScheme) (g : Gateway.GatewayState) : Prop where
  text : ∃ memo, Codec.utf8 memo = payload
  committed : ∃ encoded, (Gateway.Executable.newPayload payload [counter] encodingScheme).encode
    env.alloy = .ok encoded ∧ env.its.keccak encoded = m.payloadHash
  approved : ∃ m₀ s₁ s₂, Steps (Gateway.process env.its.toEnv) .initial s₁ ∧
    Gateway.Approval env.its.toEnv m₀ s₁ s₂ ∧ Steps (Gateway.process env.its.toEnv) s₂ g ∧
    m₀.commandId env.its.toCrates = m.commandId env.its.toCrates ∧
    m₀.hash env.its.toCrates = m.hash env.its.toCrates

/-- What `execute` receives in a state that the gateway reaches. -/
theorem receivedAsApproved {a : Execute} {m : Message} {payload : Bytes}
    {encodingScheme : Gateway.EncodingScheme}
    (reached : Steps (Gateway.process env.its.toEnv) .initial w.gateway)
    (h : execute env sysvar a m payload encodingScheme w = .ok w') :
    ReceivedAsApproved env m a.counter payload encodingScheme w.gateway := by
  obtain ⟨counter, counter', gateway, memo, encoded, -, -, -, text, encodes, hash, validated, -⟩ :=
    execute_ok h
  obtain ⟨destination, execution⟩ := Gateway.execution_of_process validated
  obtain ⟨incoming, stored, approved, same, -⟩ := execution.record
  obtain ⟨m₀, s₁, s₂, before, approval, after, id, hash₀⟩ :=
    Gateway.approval_of_record reached stored approved
  exact ⟨⟨memo, text⟩, ⟨encoded, encodes, hash⟩,
    m₀, s₁, s₂, before, approval, after, id, hash₀.trans same⟩

/-- **Memos are received exactly once.** In every run of the program among anything that others do
without its signature:

1. the counter is the number of messages and of transfers that the program has received;
2. no message's command id is received twice, and what the gateway has executed for the program is
   the messages that the program has received, in the same order;
3. the contract calls in the name of the program are those that `send_memo` has made;
4. every message is received as it was approved;
5. every transfer is received with the signature of the interchain token service's address for this
   program. -/
theorem memo_exactly_once (env : Env) (bumps : env.BumpsApart) (programs : env.ProgramsApart)
    (its : Its.World) (calls : List (Call env)) :
    let tr := trace (step env) (.genesis its) calls
    let w := run (step env) (.genesis its) calls
    let messages := tr.filterMap fun t => t.call.message?
    w.received = messages.length + (tr.filterMap fun t => t.call.transfer?).length ∧
    ((messages.map fun m => m.commandId env.its.toCrates).Nodup ∧
      w.gateway.executedFor env.memoId =
        messages.map fun m => Gateway.messageExecutedEvent env.its.toEnv m env.memoId) ∧
    w.gateway.sentBy env.memoId = tr.filterMap (fun t => t.call.sent?) ∧
    (∀ t ∈ tr, ∀ sysvar a m payload encodingScheme,
      t.call = .instruction sysvar (.execute a m payload encodingScheme) →
      ReceivedAsApproved env m a.counter payload encodingScheme t.pre.gateway) ∧
    (∀ t ∈ tr, ∀ sysvar a executePayload,
      t.call = .instruction sysvar (.executeWithInterchainToken a executePayload) →
      a.interchainTransferExecute.isSigner = true ∧ ∃ bump,
        env.its.findProgramAddress (Its.InterchainTransferExecute.pdaSeeds env.memoId) env.its.itsId
          = .ok (a.interchainTransferExecute.key, bump)) := by
  intro tr w messages
  have books := delivered_run bumps programs its calls
  have counted := books.counted
  have executed := books.executed
  have sent := books.sent
  rw [List.filterMap_map] at counted executed sent
  rw [List.filterMap_map] at counted
  have records : Gateway.EventsMatchRecords w.gateway :=
    books.reached.keep (fun _ _ _ inv h => inv.process h) Gateway.eventsMatchRecords_initial
  have nodup := Gateway.executedFor_nodup records env.memoId
  rw [executed, List.map_map] at nodup
  refine ⟨counted, ⟨nodup, executed⟩, sent, ?_, ?_⟩
  · intro t mem sysvar a m payload encodingScheme called
    -- the state before a committed call is one that a run reaches
    obtain ⟨pre, post, split⟩ := List.append_of_mem mem
    obtain ⟨past, rest, -, -, here⟩ := exists_calls_of_trace_eq split
    have reached := (delivered_run bumps programs its past).reached
    rw [here] at reached
    have ok := step_of_mem_trace mem
    rw [called] at ok
    exact receivedAsApproved reached ok
  · intro t mem sysvar a executePayload called
    have ok := step_of_mem_trace mem
    rw [called] at ok
    obtain ⟨_, _, _, -, -, -, signed, found, -⟩ := executeWithInterchainToken_ok ok
    exact ⟨signed, found⟩

/-! ## A concrete run -/

/-- The address of the program. -/
def sampleMemoId : Pubkey := Gateway.padTo 32 (Codec.utf8 "mmmmmmmmmmmmmmmmmmmmmmmmmmmmmmmm")

/-- The accounts with which the program receives a memo. -/
def sampleExecute : Execute where
  executable := ⟨Its.sampleAddress 2, Its.sampleAddress 1, Its.sampleAddress 3,
    Its.sampleWallet 9, Gateway.sampleEnv.gatewayId⟩
  counter := ⟨Its.sampleAddress 0, false, true⟩

/-- The memo. -/
def sampleText : Bytes := Codec.utf8 "hello"

/-- A message with the memo, for the program. -/
def sampleMessage : Message where
  ccId := ⟨"avalanche", "1"⟩
  sourceAddress := "0xabc"
  destinationChain := "solana"
  destinationAddress := "mmmmmmmmmmmmmmmmmmmmmmmmmmmmmmmm"
  payloadHash := Gateway.sampleEnv.keccak
    (((Gateway.Executable.newPayload sampleText [sampleExecute.counter] .borsh).encode
      Gateway.sampleAlloy).toOption.getD [])

/-- The table of program addresses. -/
def sampleTable : List Bytes :=
  [Its.sampleSeeds Counter.pdaSeeds sampleMemoId,
    Its.sampleSeeds (Gateway.ValidateMessageSigner.pdaSeeds
      (sampleMessage.commandId Gateway.sampleEnv.toCrates)) sampleMemoId,
    Its.sampleSeeds [Gateway.IncomingMessage.seedPrefix,
      (sampleMessage.commandId Gateway.sampleEnv.toCrates).toList] Gateway.sampleEnv.gatewayId,
    Its.sampleSeeds [Gateway.GatewayConfig.seedPrefix] Gateway.sampleEnv.gatewayId,
    Its.sampleSeeds [Gateway.VerifierSetTracker.seedPrefix, Gateway.sampleSet.toList]
      Gateway.sampleEnv.gatewayId,
    Its.sampleSeeds (Gateway.sampleSession Gateway.sampleLeafHash).pdaSeeds
      Gateway.sampleEnv.gatewayId]

/-- **A concrete environment.** -/
def sampleEnv : Env where
  its := Its.tableEnv sampleTable fun b => .ok ([], b)
  memoId := sampleMemoId
  alloy := Gateway.sampleAlloy

/-- In a table two addresses coincide only when they are derived from the same bytes. -/
theorem sampleEnv_injective {seeds seeds' : List Bytes} {programId programId' key : Pubkey}
    (h : sampleEnv.its.createProgramAddress seeds programId = some key)
    (h' : sampleEnv.its.createProgramAddress seeds' programId' = some key) :
    seeds.flatten ++ programId.toList = seeds'.flatten ++ programId'.toList :=
  have short : sampleTable.length ≤ 256 := by decide
  Its.tableEnv_injective short h h'

/-- In the sample environment a second bump leads to another address. -/
theorem sampleEnv_bumps : sampleEnv.BumpsApart := by
  intro b b' key created again
  have length := congrArg List.length (sampleEnv_injective created again)
  simp at length

/-- In the sample environment the validate-message addresses of two programs differ. -/
theorem sampleEnv_programs : sampleEnv.ProgramsApart := by
  intro commandId bump programId programId' key created created'
  have bytes := sampleEnv_injective created created'
  rw [List.append_cancel_left_eq] at bytes
  exact List.Vector.toList_injective bytes

/-- The wallets do not belong to the program. -/
theorem sampleEnv_signsOutside {calls : List Gateway.GatewayCall}
    (wallets : (calls.all fun call => (Its.gatewaySigners call.instruction).all fun key =>
      decide (key = Its.sampleWallet 3)) = true) :
    ∀ call ∈ calls, ∀ key ∈ Its.gatewaySigners call.instruction, sampleEnv.SignsOutside key := by
  intro call mem key signs
  have wallet := List.all_eq_true.mp (List.all_eq_true.mp wallets call mem) key signs
  rw [of_decide_eq_true wallet]
  refine ⟨by decide, fun seeds created => ?_⟩
  obtain ⟨i, -, -, same⟩ := Its.exists_of_createProgramAddress created
  have first := congrArg (fun v => v.toList.head?) same
  cases first

/-- The message is approved, the program is initialised, and receives the memo; a second time it does
not. -/
def sampleRun : List (Call sampleEnv) :=
  [.others (Gateway.sampleInitialize :: Gateway.sampleSign Gateway.sampleLeafHash ++
      [Gateway.sampleApprove sampleMessage]) Its.sampleInitial (sampleEnv_signsOutside rfl),
    .instruction Gateway.sampleSysvar (.init ⟨⟨Its.sampleWallet 1, true⟩, Its.sampleAddress 0⟩),
    .instruction Gateway.sampleSysvar (.execute sampleExecute sampleMessage sampleText .borsh),
    .instruction Gateway.sampleSysvar (.execute sampleExecute sampleMessage sampleText .borsh)]

/-- In the sample run one memo is received. -/
theorem memo_exactly_once_sample :
    (run (step sampleEnv) (.genesis Its.sampleInitial) sampleRun).received = 1 := by
  rw [(memo_exactly_once sampleEnv sampleEnv_bumps sampleEnv_programs Its.sampleInitial
    sampleRun).1]
  decide +kernel

/-- **No interchain transfer of the program succeeds**, in any state of the chain. The program tells
the service the seeds of its counter account with the bump, from which the service derives another
address; from the seeds without the bump it would derive the counter account in every state that a
run reaches. -/
theorem memo_transfers_never_leave (env : Env) (bumps : env.BumpsApart) :
    (∀ sysvar a tokenId destinationChain destinationAddress amount gasValue w w',
      sendInterchainTransfer env sysvar a tokenId destinationChain destinationAddress amount
        gasValue w ≠ .ok w') ∧
    (env.ProgramsApart → ∀ its calls counter key its',
      (run (step env) (.genesis its) calls).counter = some counter →
      env.its.createProgramAddress (Counter.pdaSeeds ++ [[counter.bump]]) env.memoId = some key →
      Its.transferSource env.its key (some env.memoId) (some (Counter.pdaSeeds ++ [[counter.bump]]))
        its' ≠ .ok env.memoId ∧
      Its.transferSource env.its key (some env.memoId) (some Counter.pdaSeeds) its'
        = .ok env.memoId) := by
  constructor
  · exact fun _ _ _ _ _ _ _ _ _ => sendInterchainTransfer_ne_ok bumps
  · intro programs its calls counter key its' stored created
    refine ⟨transferSource_ne_ok bumps created, ?_⟩
    obtain ⟨key', found⟩ := (delivered_run bumps programs its calls).canonical counter stored
    have same := Syscalls.createProgramAddress_of_find _ found
    rw [created, Option.some.injEq] at same
    subst same
    simp only [Its.transferSource, bind_eq_ok, require_eq_ok, pure_eq_ok]
    exact ⟨_, found, (), rfl, trivial⟩

/-- In the sample environment the service would find the counter account from its seeds alone. -/
theorem memo_transfers_never_leave_sample :
    Its.transferSource sampleEnv.its (Its.sampleAddress 0) (some sampleMemoId)
      (some Counter.pdaSeeds) Its.sampleInitial = .ok sampleMemoId := by
  have stored : (run (step sampleEnv) (.genesis Its.sampleInitial) sampleRun).counter
      = some ⟨1, 255⟩ := by
    decide +kernel
  exact ((memo_transfers_never_leave sampleEnv sampleEnv_bumps).2 sampleEnv_programs
    Its.sampleInitial sampleRun ⟨1, 255⟩ (Its.sampleAddress 0) Its.sampleInitial stored
    (by decide +kernel)).2

end AxelarSolana.Memo
