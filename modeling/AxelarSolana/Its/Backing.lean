import AxelarSolana.Gateway.Destinations
import AxelarSolana.Its.InboundEffects
import AxelarSolana.Its.SupplyAndEscrow
import AxelarSolana.Its.TrustedChains
import AxelarSolana.Library.Matching

/-! # What backs the tokens that the service gives out

* **`transferred`** — the amount of a token that a payload of the hub transfers.
* **`StepCases.released`** — a committed call executes the transfer of its payload, or none.
* **`backed_run`** — what a call executes was approved for the service, from the hub's address.
* **`releases_are_backed`** — hence all that is given out for a token is bounded by what the verifiers
  have approved, and so are the account and the supply of its manager. -/

namespace AxelarSolana.Its

open Fallible Machine Totals

variable {env : Env} {ctx : Ctx} {s s' : World} {l : List LogEvent}

/-! ## What a call releases -/

/-- **The amount of a token that a payload of the hub transfers.** -/
def transferred (tokenId : Bytes32) (payload : Bytes) : Int :=
  match Encoding.HubMessage.codec.decodeAll payload with
  | some (.receiveFromHub _ inner) =>
    inner.transfer?.elim 0 fun transfer => transfer.amountOf tokenId
  | _ => 0

/-- The message that a call executes, with its payload. -/
def Call.executed? : Call env → Option (Message × Bytes)
  | .instruction _ (.execute _ message payload) _ => some (message, payload)
  | _ => none

/-- **What a call releases** of a token when it succeeds. -/
def Call.releases (tokenId : Bytes32) (call : Call env) : Int :=
  call.executed?.elim 0 fun executed => transferred tokenId executed.2

/-- Only `execute` executes a message. -/
theorem executed?_of_notExecute {sysvar : Sysvar} {i : ItsInstruction}
    {outside : ∀ key ∈ i.signers, env.SignsOutside key}
    (notExecute : ∀ a message payload, i ≠ .execute a message payload) :
    (Call.instruction sysvar i outside : Call env).executed? = none := by
  cases i with
  | execute a message payload => exact absurd rfl (notExecute a message payload)
  | _ => rfl

/-- The events of a grant of roles accept no message. -/
theorem Granted.unaccepted {accounts accounts' : Accounts} {resource : Pubkey} {roles : UInt8}
    (h : Granted env accounts resource roles l accounts') (sourceChain : String)
    (message : Encoding.Message) : LogEvent.accepted sourceChain message ∉ l := by
  cases h <;> simp

/-- The other instructions accept no message. -/
theorem Effect.unaccepted {sysvar : Sysvar} {i : ItsInstruction} (h : Effect env sysvar s i l s')
    (sourceChain : String) (message : Encoding.Message) :
    LogEvent.accepted sourceChain message ∉ l := by
  intro mem
  cases h with
  | registers i key tokenManager events s' existing registered =>
    obtain ⟨accounts, grants, -⟩ := registered.accounts
    rcases List.mem_cons.mp mem with new | mem
    · cases new
    · exact grants.unaccepted sourceChain message mem
  | deploys a salt name symbol decimals initialSupply tokenManager events t₁ t₂ t₃ s' native address
      deployed registered =>
    obtain ⟨accounts, grants, -⟩ := registered.accounts
    simp only [List.mem_cons, List.mem_append, reduceCtorEq, List.not_mem_nil, or_false,
      false_or] at mem
    rcases mem with mem | supply
    · exact grants.unaccepted sourceChain message mem
    · unfold initialSupplyEvents at supply
      split at supply
      · cases List.mem_singleton.mp supply
      · cases supply
  | transfers =>
    simp only [List.mem_cons, reduceCtorEq, List.not_mem_nil, or_false] at mem
  | _ =>
    -- at most one event, and no acceptance
    first
      | cases List.mem_singleton.mp mem
      | cases mem

/-- The instructions that receive accept no other message. -/
theorem Received.unaccepted {sysvar : Sysvar} {outer : Execute} {received : Message}
    {chain : String} {inner : Encoding.Message} {i : ItsInstruction}
    (h : Received env sysvar outer received chain s inner i l s') (sourceChain : String)
    (message : Encoding.Message) : LogEvent.accepted sourceChain message ∉ l := by
  intro mem
  cases h with
  | transfer a transfer destination transferred tokenManager tracked m instruction before after
      called s' manager parsed signers inbound calls accounts =>
    simp only [List.mem_cons, reduceCtorEq, false_or] at mem
    cases calls with
    | quiet noData => cases mem
    | invoked data vouching listed call invoked => cases List.mem_singleton.mp mem
  | deploy a deploy bump rolesBump after s' inbound registered =>
    obtain ⟨accounts, grants, -⟩ := registered.accounts
    simp only [List.mem_cons, reduceCtorEq, false_or] at mem
    exact grants.unaccepted sourceChain message mem
  | link a link destinationTokenAddress ty bump rolesBump s' parsed inbound registered =>
    obtain ⟨accounts, grants, -⟩ := registered.accounts
    simp only [List.mem_cons, reduceCtorEq, false_or] at mem
    exact grants.unaccepted sourceChain message mem

/-- Moves that accept no message execute no transfer. -/
theorem Performs.releases_nothing (h : Performs env ctx s l s')
    (unaccepted : ∀ sourceChain message, LogEvent.accepted sourceChain message ∉ l)
    (tokenId : Bytes32) : ∃ entries, s'.log = s.log ++ entries ∧
      total (LogEntry.executedFor tokenId) entries = 0 := by
  obtain ⟨events, log, rfl⟩ := h.log
  refine ⟨events.map ctx.entry, log, total_eq_zero fun entry mem => ?_⟩
  obtain ⟨e, listed, rfl⟩ := List.mem_map.mp mem
  cases e with
  | accepted sourceChain message =>
    exact absurd (List.mem_filter.mpr ⟨listed, rfl⟩) (unaccepted sourceChain message)
  | _ => rfl

/-- **What a committed call executes** is the transfer of its payload. -/
theorem StepCases.released {call : Call env} (h : StepCases env s call s') (tokenId : Bytes32) :
    ∃ entries, s'.log = s.log ++ entries ∧
      total (LogEntry.executedFor tokenId) entries = call.releases tokenId := by
  cases h with
  | external call outside chain run => exact ⟨[], (List.append_nil _).symm, rfl⟩
  | own sysvar i outside l s' notInner notExecute effect performs =>
    obtain ⟨entries, log, nothing⟩ := performs.releases_nothing effect.unaccepted tokenId
    refine ⟨entries, log, ?_⟩
    rw [nothing, Call.releases, executed?_of_notExecute notExecute, Option.elim_none]
  | execute sysvar a message payload outside sourceChain inner gateway i l s' accepts received
      performs =>
    obtain ⟨entries, log, nothing⟩ := performs.releases_nothing received.unaccepted tokenId
    refine ⟨⟨.accepted sourceChain inner, .execute a message payload, .external⟩ :: entries, ?_, ?_⟩
    · rw [log]
      exact List.append_assoc ..
    · rw [total_cons, nothing, Int.add_zero]
      show inner.transfer?.elim 0 (fun transfer => transfer.amountOf tokenId)
        = transferred tokenId payload
      rw [transferred, accepts.decoded]

/-- A call that executes a message has accepted it. -/
theorem StepCases.accepts {call : Call env} (h : StepCases env s call s') {message : Message}
    {payload : Bytes} (executes : call.executed? = some (message, payload)) :
    ∃ sysvar a sourceChain inner gateway, Accepts env ⟨sysvar, .external, .execute a message payload⟩
      a message payload sourceChain inner gateway s := by
  cases h with
  | external => cases executes
  | own sysvar i outside l s' notInner notExecute effect performs =>
    rw [executed?_of_notExecute notExecute] at executes
    cases executes
  | execute sysvar a m p outside sourceChain inner gateway i l s' accepts received performs =>
    cases executes
    exact ⟨sysvar, a, sourceChain, inner, gateway, accepts⟩

/-! ## The hub's address -/

/-- The address of the hub never changes. -/
theorem Configures.itsHubAddress {call : Call env} (h : Configures s call s')
    {root : InterchainTokenService} (stored : s.accounts.root = some root) :
    ∃ root', s'.accounts.root = some root' ∧ root'.itsHubAddress = root.itsHubAddress := by
  cases h with
  | keeps same => exact ⟨root, same.trans stored, rfl⟩
  | initialises chainName itsHubAddress bump fresh =>
    rw [fresh] at stored
    cases stored
  | pauses r paused stored₀ same =>
    cases stored.symm.trans stored₀
    exact ⟨_, same, rfl⟩
  | trusts r chainName stored₀ absent same =>
    cases stored.symm.trans stored₀
    refine ⟨_, same, ?_⟩
    unfold InterchainTokenService.addTrustedChain
    split <;> rfl
  | distrusts r chainName stored₀ present same =>
    cases stored.symm.trans stored₀
    exact ⟨_, same, rfl⟩

/-- The hub's address stays what it was, over every run. -/
theorem itsHubAddress_run {root : InterchainTokenService} (stored : s.accounts.root = some root)
    (calls : List (Call env)) : ∃ root', (run (step env) s calls).accounts.root = some root' ∧
      root'.itsHubAddress = root.itsHubAddress := by
  refine run_invariant (P := fun u : World => ∃ root', u.accounts.root = some root' ∧
    root'.itsHubAddress = root.itsHubAddress) ⟨root, stored, rfl⟩ ?_ calls
  rintro u call u' ⟨root₁, stored₁, same⟩ success
  obtain ⟨root₂, stored₂, same'⟩ := (step_cases success).configures.itsHubAddress stored₁
  exact ⟨root₂, stored₂, same'.trans same⟩

/-! ## Whole runs -/

/-- **The messages of a run have different hashes**: those that were approved at the gateway and those
that the calls of the run execute. -/
def HashesApart (env : Env) (calls : List (Call env)) (g : Gateway.GatewayState) : Prop :=
  Set.InjOn (Message.hash env.toCrates) {m | m ∈ g.approvedMessages ∨
    ∃ call ∈ calls, ∃ payload, call.executed? = some (m, payload)}

/-- **A valuation of payload hashes** for a token: no payload of a run transfers more than its hash is
worth. -/
def Prices (env : Env) (tokenId : Bytes32) (value : Bytes32 → Nat) (calls : List (Call env)) :
    Prop :=
  ∀ call ∈ calls, ∀ message payload, call.executed? = some (message, payload) →
    transferred tokenId payload ≤ value (env.keccak payload)

section Run

variable {owner : Pubkey → Pubkey} {gas : GasService.GasState} {calls : List (Call env)}

/-- **What a call executes was approved** for the service, from the address of the hub. -/
theorem backed_run
    (own : ∀ call ∈ calls, ∀ message payload, call.executed? = some (message, payload) →
      OwnAddress env message)
    (apart : HashesApart env calls (run (step env) (World.initial owner gas) calls).chain.gateway)
    {t : Transition World (Call env)}
    (mem : t ∈ trace (step env) (World.initial owner gas) calls) {message : Message}
    {payload : Bytes} (executes : t.call.executed? = some (message, payload))
    {root : InterchainTokenService}
    (stored : (run (step env) (World.initial owner gas) calls).accounts.root = some root) :
    env.keccak payload = message.payloadHash ∧
    message ∈ (run (step env) (World.initial owner gas) calls).chain.gateway.approvedFor env.toEnv
      root.itsHubAddress env.itsId := by
  obtain ⟨before, after, split⟩ := List.append_of_mem mem
  obtain ⟨calls₁, calls₂, divided, -, here⟩ := exists_calls_of_trace_eq split
  have called : t.call ∈ calls := by
    rw [divided]
    exact List.mem_append_right _ List.mem_cons_self
  have success := step_of_mem_trace mem
  have reached := gateway_steps_run env owner gas calls₁
  rw [here] at reached
  have later : run (step env) (World.initial owner gas) calls
      = run (step env) t.pre (t.call :: calls₂) := by
    rw [divided, run_append, here]
  have ahead : Steps (Gateway.process env.toEnv) t.pre.chain.gateway
      (run (step env) (World.initial owner gas) calls).chain.gateway := by
    rw [later]
    refine run_invariant (P := fun u : World =>
      Steps (Gateway.process env.toEnv) t.pre.chain.gateway u.chain.gateway) .refl ?_ _
    intro u call u' before success
    exact Relation.ReflTransGen.trans before (step_cases success).gateway_steps
  obtain ⟨sysvar, a, sourceChain, inner, gateway, accepts⟩ := (step_cases success).accepts executes
  obtain ⟨payloadHash, execution⟩ := accepts.execution (own _ called message payload executes)
  refine ⟨payloadHash, ?_⟩
  -- the approved message has the hash of the executed one, so it is this message
  obtain ⟨incoming, record, status, hash, -, -⟩ := execution.record
  obtain ⟨m, approved, -, hash'⟩ := Gateway.approved_of_record reached record status
  have among := Gateway.approvedMessages_steps ahead approved
  have same : m = message :=
    apart (.inl among) (.inr ⟨_, called, payload, executes⟩) (hash'.trans hash)
  rw [same] at among
  -- and it names the address that the hub still has at the end
  obtain ⟨r, loaded, -, origin, -, -⟩ := accepts.root
  obtain ⟨r', stored', address⟩ := itsHubAddress_run loaded (t.call :: calls₂)
  rw [← later, stored] at stored'
  cases stored'
  refine List.mem_filter.mpr ⟨among, decide_eq_true ⟨?_, execution.parsed⟩⟩
  rw [origin, address]

/-- What is executed for a token is what the committed calls release. -/
theorem executedFor_run (tokenId : Bytes32) :
    (run (step env) (World.initial owner gas) calls).executedFor tokenId
      = total (fun executed : Message × Bytes => transferred tokenId executed.2)
        ((trace (step env) (World.initial owner gas) calls).filterMap fun t => t.call.executed?) := by
  have log : (run (step env) (World.initial owner gas) calls).log
      = (trace (step env) (World.initial owner gas) calls).flatMap newEntries :=
    log_run World.log fun t mem => (step_cases (step_of_mem_trace mem)).extends.log
  rw [World.executedFor, log, total_flatMap, total_filterMap]
  unfold total
  congr 1
  apply List.map_congr_left
  intro t mem
  obtain ⟨entries, added, released⟩ := (step_cases (step_of_mem_trace mem)).released tokenId
  have same : newEntries t = entries := by rw [newEntries, added, List.drop_left]
  rw [same]
  exact released

/-- No two committed executions have the same command id. -/
theorem commandIds_nodup : (((trace (step env) (World.initial owner gas) calls).filterMap
    fun t => t.call.executed?).map fun executed => executed.1.commandId env.toCrates).Nodup := by
  have same : ((trace (step env) (World.initial owner gas) calls).filterMap
      fun t => t.call.executed?).map (fun executed => executed.1.commandId env.toCrates)
      = (trace (step env) (World.initial owner gas) calls).filterMap executedCommand? := by
    rw [List.map_filterMap]
    apply List.filterMap_congr
    rintro ⟨pre, call, post⟩ -
    cases call with
    | external => rfl
    | instruction sysvar i outside => cases i <;> rfl
  rw [same, List.nodup_iff_count_le_one]
  intro c
  have inv : Gateway.EventsMatchRecords
      (run (step env) (World.initial owner gas) calls).chain.gateway :=
    (gateway_steps_run env owner gas calls).keep
      (fun _ _ _ inv processed => inv.process processed) Gateway.eventsMatchRecords_initial
  exact (executions_run env owner gas calls c).trans (inv.executions_le_one c)

end Run

/-- **What the service gives out is backed by approvals.** In every run whose messages have different
hashes, and for every valuation of payload hashes for a token, with what was approved for the service
from the address of the hub, each approval at the value of its payload hash:

1. no more is executed for the token than was approved;
2. the account of a manager that locks keeps what was sent, but for what was approved;
3. the supply of a mint whose authority is its manager grows, besides what was issued, by no more
   than was approved and not sent. -/
theorem releases_are_backed (env : Env) (laws : TokenLaws env.tokens)
    (movement : MovementLaws env.tokens)
    (wallets : WalletLaws (associatedTokenAddress env) env.tokens) (owner : Pubkey → Pubkey)
    (gas : GasService.GasState) (calls : List (Call env))
    (apart : env.Apart (TransferNames env (run (step env) (World.initial owner gas) calls)))
    (own : ∀ call ∈ calls, ∀ message payload, call.executed? = some (message, payload) →
      OwnAddress env message)
    (hashes : HashesApart env calls (run (step env) (World.initial owner gas) calls).chain.gateway)
    (tokenId : Bytes32) (value : Bytes32 → Nat) (prices : Prices env tokenId value calls) :
    let s := run (step env) (World.initial owner gas) calls
    ∀ root, s.accounts.root = some root →
      let approved := total (fun m : Message => (value m.payloadHash : Int))
        (s.chain.gateway.approvedFor env.toEnv root.itsHubAddress env.itsId)
      s.executedFor tokenId ≤ approved ∧
      ∀ key tokenManager, s.accounts.tokenManagers key = some tokenManager →
        tokenManager.tokenId = tokenId →
        (tokenManager.ty.mints = false →
          s.sentFor tokenId - approved + s.putInto tokenId tokenManager.associatedTokenAccount
            ≤ s.changed (TokenState.balance tokenManager.associatedTokenAccount)) ∧
        (tokenManager.ty.mints = true → s.HasAuthority key tokenManager →
          s.changed (TokenState.supply tokenManager.tokenAddress)
            ≤ approved - s.sentFor tokenId + s.issued tokenManager.tokenAddress) := by
  intro s root stored approved
  have bounded : s.executedFor tokenId ≤ approved := by
    rw [executedFor_run]
    -- every execution is matched with the approval of its command id, and these are distinct
    refine total_le_of_matched (fun executed => executed.1.commandId env.toCrates)
      (Message.commandId env.toCrates) commandIds_nodup (fun m _ => Int.natCast_nonneg _) ?_
    rintro ⟨message, payload⟩ mem
    obtain ⟨t, listed, executes⟩ := List.mem_filterMap.mp mem
    obtain ⟨payloadHash, backed⟩ := backed_run own hashes listed executes stored
    refine ⟨message, backed, rfl, ?_⟩
    rw [← payloadHash]
    have called : t.call ∈ calls := (trace_calls_sublist _ _).subset (List.mem_map_of_mem listed)
    exact prices t.call called message payload executes
  refine ⟨bounded, ?_⟩
  rintro key tokenManager here rfl
  have atEnd : AtEnd env s := ⟨apart, managed_run env laws owner gas calls⟩
  have conserved : Conserved s key tokenManager := conserved_run laws movement wallets atEnd here
  constructor
  · intro locks
    have escrow := conserved.escrow locks
    omega
  · intro mints authority
    have supply := conserved.supply mints authority
    omega

/-- The only message that the shared calls execute. -/
theorem executed_sharedCalls : sharedCalls.filterMap Call.executed? =
    [(sharedMessage, sharedPayload)] := rfl

/-- Whatever the shared calls execute is their one message. -/
theorem eq_of_executed_sharedCalls {call : Call sharedEnv} (mem : call ∈ sharedCalls)
    {message : Message} {payload : Bytes} (executes : call.executed? = some (message, payload)) :
    message = sharedMessage ∧ payload = sharedPayload := by
  have listed := List.mem_filterMap.mpr ⟨call, mem, executes⟩
  rw [executed_sharedCalls, List.mem_singleton, Prod.mk.injEq] at listed
  exact listed

/-- Five of the wallet's token have come back, for which the hub's message was approved. -/
theorem releases_are_backed_sample :
    let s := run (step sharedEnv) sampleInitial sharedCalls
    s.executedFor walletTokenId ≤ 5 ∧
    s.changed (TokenState.supply (sampleAddress 2)) ≤ 5 - 30 + 100 := by
  intro s
  let value (h : Bytes32) : Nat := if h = sharedMessage.payloadHash then 5 else 0
  have evaluated : s.accounts.tokenManagers (sampleAddress 1) = some ⟨.nativeInterchainToken,
        walletTokenId, sampleAddress 2, sampleAddress 3, FlowState.new none 0, 255⟩ ∧
      s.accounts.root.map InterchainTokenService.itsHubAddress = some "hub" ∧
      s.chain.gateway.approvedMessages = [sharedMessage] ∧
      s.sentFor walletTokenId = 30 ∧ s.issued (sampleAddress 2) = 100 := by
    decide +kernel
  obtain ⟨native, hub, approved, away, issued⟩ := evaluated
  obtain ⟨root, stored, address⟩ := Option.map_eq_some_iff.mp hub
  have own : ∀ call ∈ sharedCalls, ∀ message payload,
      call.executed? = some (message, payload) → OwnAddress sharedEnv message := by
    intro call mem message payload executes destination bump key parsed _ _
    rw [(eq_of_executed_sharedCalls mem executes).1] at parsed
    have named : sharedEnv.pubkeyFromStr sharedMessage.destinationAddress = some sampleItsId := by
      decide +kernel
    rw [named] at parsed
    exact (Option.some.inj parsed).symm
  have hashes : HashesApart sharedEnv sharedCalls s.chain.gateway := by
    have one : ∀ m, (m ∈ s.chain.gateway.approvedMessages ∨ ∃ call ∈ sharedCalls, ∃ payload,
        call.executed? = some (m, payload)) → m = sharedMessage := by
      rintro m (among | ⟨call, mem, payload, executes⟩)
      · rw [approved, List.mem_singleton] at among
        exact among
      · exact (eq_of_executed_sharedCalls mem executes).1
    intro m here m' here' _
    rw [one m here, one m' here']
  have prices : Prices sharedEnv walletTokenId value sharedCalls := by
    intro call mem message payload executes
    rw [(eq_of_executed_sharedCalls mem executes).2]
    decide +kernel
  have worth : total (fun m : Message => (value m.payloadHash : Int))
      (s.chain.gateway.approvedFor sharedEnv.toEnv root.itsHubAddress sharedEnv.itsId) = 5 := by
    rw [address, Gateway.GatewayState.approvedFor, approved]
    decide +kernel
  have backed := releases_are_backed sharedEnv tableEnv_laws tableEnv_movement
    (tableEnv_wallets (by decide +kernel)) (fun _ => sampleProgramId 4) ⟨none, fun _ => 0, []⟩
    sharedCalls (tableEnv_apart_transfers (by decide +kernel) _) own
  rw [show run (step sharedEnv) (World.initial _ _) sharedCalls = s from rfl] at backed
  obtain ⟨bounded, managers⟩ := backed hashes walletTokenId value prices root stored
  have authority : NativeAuthority s :=
    nativeAuthority_run sharedEnv tableEnv_laws _ _ sharedCalls
      (tableEnv_apart_transfers (by decide +kernel) _) fun _ named => .world _ named
  have supply := (managers _ _ native rfl).2 rfl (authority _ _ native rfl)
  rw [worth] at bounded supply
  rw [away, issued] at supply
  exact ⟨bounded, supply⟩

end AxelarSolana.Its
