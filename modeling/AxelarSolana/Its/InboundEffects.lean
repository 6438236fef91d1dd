import AxelarSolana.Gateway.MessageLifecycle
import AxelarSolana.Its.Steps

/-! # Inbound effects

What the three inner instructions do to tokens, token managers and roles, over any run of the
gateway and the service together.

* **`inboundEffects`** — the effects of the inner instructions within one committed call.
* **`Faithful`** — the effects that a message of the hub asks for, field by field.
* **`Performed`** — how the inner instruction leads to the world after the call.
* **`Delivers`** — a committed `execute` of an approved message whose effects are those.
* **`inbound_effects`** — every effect is part of one, and each gateway message has at most one. -/

namespace AxelarSolana.Its

open Fallible Machine

/-! ## Effects -/

/-- Whether an event moves tokens, or creates a mint, a token manager or a roles account. -/
def LogEvent.isEffect : LogEvent → Bool
  | .tokens instruction _ _ => instruction.loud
  | .tokenManagerCreated .. | .userRolesCreated .. => true
  | _ => false

/-- Whether an entry is an effect of one of the three inner instructions. -/
def LogEntry.isInboundEffect (e : LogEntry) : Bool := e.instruction.isInner && e.event.isEffect

/-- **The effects of the inner instructions within a committed call.** -/
def inboundEffects {env : Env} (t : Transition World (Call env)) : List LogEntry :=
  (t.post.log.drop t.pre.log.length).filter LogEntry.isInboundEffect

/-! ## What a message asks for -/

/-- **The call that gives the tokens of a transfer**: the amount of the message is minted for the
recipient, or unlocked from the manager's account. -/
inductive GivesAmount (env : Env) (key : Pubkey) (tokenManager : TokenManager)
    (tokenProgram recipient : Pubkey) (amount : UInt64) : TokenInstruction → Prop
  | mint (mints : TokenManagerType.mints tokenManager.ty = true) :
      GivesAmount env key tokenManager tokenProgram recipient amount
        (.mintTo tokenProgram tokenManager.tokenAddress recipient key amount)
  | unlock (escrow : Pubkey) (decimals : UInt8) (ty : tokenManager.ty = .lockUnlock)
      (ata : associatedTokenAddress env key tokenManager.tokenAddress tokenProgram = .ok escrow) :
      GivesAmount env key tokenManager tokenProgram recipient amount
        (.transferChecked tokenProgram escrow tokenManager.tokenAddress recipient key amount
          decimals)
  | unlockWithFee (escrow : Pubkey) (decimals : UInt8) (fee : UInt64)
      (ty : tokenManager.ty = .lockUnlockFee)
      (ata : associatedTokenAddress env key tokenManager.tokenAddress tokenProgram = .ok escrow) :
      GivesAmount env key tokenManager tokenProgram recipient amount
        (.transferCheckedWithFee tokenProgram escrow tokenManager.tokenAddress recipient key amount
          decimals fee)

/-- **The creation of the roles account** of a user on a resource, when there is a user. -/
inductive GrantsRoles (env : Env) (resource : Pubkey) (roles : UInt8) (s : World) :
    Option Pubkey → List LogEvent → Prop
  | nobody : GrantsRoles env resource roles s none []
  | user (user key : Pubkey) (bump : UInt8) (fresh : s.accounts.userRoles key = none)
      (address : env.findProgramAddress (UserRoles.pdaSeeds resource user) env.itsId
        = .ok (key, bump)) :
      GrantsRoles env resource roles s (some user)
        [.userRolesCreated key resource user ⟨roles, bump⟩]

/-- **The effects that a message asks for**, in the state before it and for the root account at an
address: every field is the message's own. -/
inductive Faithful (env : Env) (s : World) (root : Pubkey) :
    Encoding.Message → List LogEvent → Prop
  | transfer (transfer : Encoding.InterchainTransfer) (key : Pubkey) (tokenManager : TokenManager)
      (destination authority tokenProgram recipient : Pubkey) (instruction : TokenInstruction)
      (before after : TokenState)
      (stored : s.accounts.tokenManagers key = some tokenManager)
      (tokenId : env.createProgramAddress (TokenManager.pdaSeeds transfer.tokenId root ++
        [[tokenManager.bump]]) env.itsId = some key)
      (parsed : bytes32FromSlice transfer.destinationAddress = some destination)
      (owner : destinationAuthority env destination s = .ok authority)
      (ata : associatedTokenAddress env authority tokenManager.tokenAddress tokenProgram
        = .ok recipient)
      (nonzero : transfer.amount ≠ 0)
      (gives : GivesAmount env key tokenManager tokenProgram recipient transfer.amount
        instruction)
      (called : env.tokens instruction [key] before = .ok after) :
      Faithful env s root (.interchainTransfer transfer) [.tokens instruction before after]
  | deploy (deploy : Encoding.DeployInterchainToken) (key mint ata : Pubkey)
      (bump mintBump : UInt8) (minter : Option Pubkey) (granted : List LogEvent)
      (after : TokenState) (fresh : s.accounts.tokenManagers key = none)
      (tokenId : env.findProgramAddress (TokenManager.pdaSeeds deploy.tokenId root) env.itsId
        = .ok (key, bump))
      (mintOf : env.findProgramAddress (TokenManager.tokenMintSeeds deploy.tokenId root) env.itsId
        = .ok (mint, mintBump))
      (account : associatedTokenAddress env key mint env.token2022ProgramId = .ok ata)
      (minterOf : deploy.minter.filter (fun m => m ≠ []) = minter.map List.Vector.toList)
      (grants : GrantsRoles env key (roles.OPERATOR ||| roles.FLOW_LIMITER ||| roles.MINTER) s
        minter granted)
      (called : env.tokens (.initializeMint2 env.token2022ProgramId mint deploy.decimals key
        (some key)) [mint] s.chain.tokens = .ok after) :
      Faithful env s root (.deployInterchainToken deploy)
        (.tokens (.initializeMint2 env.token2022ProgramId mint deploy.decimals key (some key))
            s.chain.tokens after ::
          .tokenManagerCreated key (TokenManager.initAccount .nativeInterchainToken deploy.tokenId
            mint ata bump) :: granted)
  | link (link : Encoding.LinkToken) (key mint tokenProgram ata : Pubkey) (ty : TokenManagerType)
      (bump : UInt8) (granted : List LogEvent) (fresh : s.accounts.tokenManagers key = none)
      (tokenId : env.findProgramAddress (TokenManager.pdaSeeds link.tokenId root) env.itsId
        = .ok (key, bump))
      (type : TokenManagerType.tryFrom link.tokenManagerType = some ty)
      (custom : ty ≠ .nativeInterchainToken)
      (mintOf : bytes32FromSlice link.destinationTokenAddress = some mint)
      (account : associatedTokenAddress env key mint tokenProgram = .ok ata)
      (grants : GrantsRoles env key (roles.OPERATOR ||| roles.FLOW_LIMITER) s
        (bytes32FromSlice (link.params.getD [])) granted) :
      Faithful env s root (.linkToken link)
        (.tokenManagerCreated key (TokenManager.initAccount ty link.tokenId mint ata bump) ::
          granted)

variable {env : Env} {s s' : World}

/-- The roles that are written are those of the user named. -/
theorem grantsRoles_of_new {resource : Pubkey} {user key : Option Pubkey} {missing : ItsError}
    {roles : UInt8} {bump : Option UInt8} (given : user.isSome = key.isSome)
    (new : newUserRolesPdaIfGiven env resource user key missing s = .ok bump) :
    GrantsRoles env resource roles s user (userRolesEvents resource user key bump roles) := by
  rw [newUserRolesPdaIfGiven_eq_ok] at new
  rcases new with ⟨rfl, rfl⟩ | ⟨u, k, b, rfl, rfl, rfl, fresh⟩
  · rw [Option.isSome_none, Option.isSome_eq_false_iff, Option.isNone_iff_eq_none] at given
    rw [given]
    exact .nobody
  · rw [newUserRolesPda_eq_ok] at fresh
    exact .user u k b fresh.1 fresh.2

/-- The minter of a deployment is the one named, unless none or an empty one is named. -/
theorem filter_minter (minter : Option Bytes) :
    minter.filter (fun m => m ≠ []) = if minter.getD [] = [] then none else some (minter.getD []) := by
  cases minter with
  | none => rfl
  | some m => by_cases empty : m = [] <;> simp [empty]

/-- Creating roles is an effect. -/
theorem filter_isEffect_userRolesEvents {resource : Pubkey} {user key : Option Pubkey}
    {bump : Option UInt8} {roles : UInt8} :
    (userRolesEvents resource user key bump roles).filter LogEvent.isEffect
      = userRolesEvents resource user key bump roles := by
  unfold userRolesEvents
  split <;> rfl

/-- The root account of an inner instruction is that of `execute`. -/
theorem rootPda_unique {account : AccountMeta} {root : Pubkey}
    (signing : ∃ r, signingRoot env account s = .ok r)
    (loaded : ∃ r, s.accounts.root = some r ∧
      env.createProgramAddress (InterchainTokenService.pdaSeeds ++ [[r.bump]]) env.itsId
        = some root) : account.pubkey = root := by
  obtain ⟨r, signing⟩ := signing
  obtain ⟨r', stored', address'⟩ := loaded
  rw [signingRoot_eq_ok, unpausedRoot_eq_ok, itsRootPda_eq_ok] at signing
  obtain ⟨⟨⟨stored, address⟩, -⟩, -⟩ := signing
  cases stored.symm.trans stored'
  exact Option.some.inj (address.symm.trans address')

/-- **The inner instructions do what the message asks for.** -/
theorem Received.faithful {ctx : Ctx} {sysvar : Sysvar} {outer : Execute} {message : Message}
    {sourceChain : String} {inner : Encoding.Message} {gateway : Gateway.GatewayState}
    {i : ItsInstruction} {l : List LogEvent} {root : Pubkey}
    (h : Received env sysvar outer message sourceChain (s.accepting ctx sourceChain inner gateway)
      inner i l s')
    (loaded : ∃ r, s.accounts.root = some r ∧
      env.createProgramAddress (InterchainTokenService.pdaSeeds ++ [[r.bump]]) env.itsId
        = some root) :
    Faithful env s root inner (l.filter LogEvent.isEffect) := by
  cases h with
  | transfer a transfer destination transferred tokenManager tracked mint instruction before after
      called s' manager parsed signers inbound calls accounts =>
    have same := rootPda_unique inbound.root loaded
    obtain ⟨stored, tokenId⟩ := tokenManagerPda_eq_ok.mp inbound.manager
    have ata := inbound.recipient
    have escrow := inbound.ata
    rw [← inbound.address] at ata escrow
    rw [same] at tokenId
    -- the call that gives the tokens is the only effect: the account's creation and the call of the
    -- destination are none
    have loud : (LogEvent.tokens instruction before after).isEffect = true := inbound.gives.loud
    have silent : called.filter LogEvent.isEffect = [] := by
      cases calls <;> rfl
    rw [List.filter_cons_of_pos loud, List.filter_cons_of_neg (by simp [LogEvent.isEffect]), silent]
    refine .transfer transfer _ tokenManager destination _ a.tokenProgram.pubkey
      a.destinationAta.pubkey instruction before after stored tokenId parsed inbound.authority ata
      inbound.nonzero ?_ inbound.called
    have gives := inbound.gives
    generalize hty : tokenManager.ty = ty at gives
    cases gives with
    | mint mints authority =>
      rw [← inbound.address]
      exact .mint (by rwa [hty])
    | unlock =>
      rw [← inbound.address]
      exact .unlock _ _ hty escrow
    | unlockWithFee feeConfig fee config computed fits =>
      rw [← inbound.address]
      exact .unlockWithFee _ _ _ hty escrow
  | deploy a deploy bump rolesBump after s' inbound registered =>
    have same := rootPda_unique inbound.root loaded
    obtain ⟨fresh, tokenId⟩ := newTokenManagerPda_eq_ok.mp inbound.new
    obtain ⟨mintBump, mintOf⟩ := inbound.mint
    have account := inbound.ata
    rw [same] at tokenId mintOf
    have called := inbound.created
    rw [inbound.program] at account called
    rw [List.filter_cons_of_pos rfl, List.filter_cons_of_pos rfl, filter_isEffect_userRolesEvents,
      inbound.program]
    exact .deploy deploy _ _ _ bump mintBump _ _ after fresh tokenId mintOf account
      ((filter_minter _).trans inbound.minter) (grantsRoles_of_new inbound.given inbound.roles)
      called
  | link a link destinationTokenAddress ty bump rolesBump s' parsed inbound registered =>
    have same := rootPda_unique inbound.root loaded
    obtain ⟨fresh, tokenId⟩ := newTokenManagerPda_eq_ok.mp inbound.new
    rw [same] at tokenId
    rw [List.filter_cons_of_pos rfl, filter_isEffect_userRolesEvents]
    refine .link link _ _ a.tokenProgram.pubkey _ ty bump _ fresh tokenId inbound.type
      inbound.custom ?_ inbound.ata ?_
    · rw [← inbound.mint]
      exact parsed
    · rw [inbound.operator]
      exact grantsRoles_of_new inbound.given inbound.roles

/-! ## Deliveries -/

/-- **The message was approved**: by a call of the gateway, with the command id and the hash under
which it is executed. -/
def ApprovedBefore (env : Env) (message : Message) (g : Gateway.GatewayState) : Prop :=
  ∃ m g₁ g₂, Steps (Gateway.process env.toEnv) Gateway.GatewayState.initial g₁ ∧
    Gateway.Approval env.toEnv m g₁ g₂ ∧ Steps (Gateway.process env.toEnv) g₂ g ∧
    m.commandId env.toCrates = message.commandId env.toCrates ∧
    m.hash env.toCrates = message.hash env.toCrates

/-- **An inner instruction has been executed** in a call: from the world in which the message has been
accepted, its moves lead to the world after the call, to its tokens, token managers and roles, and the
effects are those that it reports. -/
def Performed {env : Env} (t : Transition World (Call env)) (sysvar : Sysvar) (a : Execute)
    (message : Message) (payload : Bytes) (sourceChain : String) (inner : Encoding.Message)
    (gateway : Gateway.GatewayState) : Prop :=
  ∃ i l,
    Received env sysvar a message sourceChain (t.pre.accepting
      ⟨sysvar, .external, .execute a message payload⟩ sourceChain inner gateway) inner i l t.post ∧
    Performs env ⟨sysvar, .execute message payload, i⟩ (t.pre.accepting
      ⟨sysvar, .external, .execute a message payload⟩ sourceChain inner gateway) l t.post ∧
    (inboundEffects t).map LogEntry.event = l.filter LogEvent.isEffect

/-- **One successful `execute`** of an approved message for the service: `Accepts` holds its other
checks (hub address, payload, trusted chain, no pause), the effects are the message's, and they are
in the world after it. -/
structure Delivers (env : Env) (t : Transition World (Call env)) (sysvar : Sysvar) (a : Execute)
    (message : Message) (payload : Bytes) (sourceChain : String) (inner : Encoding.Message)
    (gateway : Gateway.GatewayState) : Prop where
  call : ∃ outside, t.call = .instruction sysvar (.execute a message payload) outside
  accepts : Accepts env ⟨sysvar, .external, .execute a message payload⟩ a message payload
    sourceChain inner gateway t.pre
  payloadHash : env.keccak payload = message.payloadHash
  approved : ApprovedBefore env message t.pre.chain.gateway
  executed : Gateway.Execution env.toEnv message env.itsId ⟨a.signingPda.pubkey, true⟩
    t.pre.chain.gateway gateway
  faithful : Faithful env t.pre a.itsRootPda.pubkey inner
    ((inboundEffects t).map LogEntry.event)
  performed : Performed t sysvar a message payload sourceChain inner gateway
  invoker : ∀ e ∈ inboundEffects t, e.invoker = .execute message payload

/-- **The validate-message address of a message belongs to one program**: when the program that the
message names and the service have the same one, they are the same. -/
def OwnAddress (env : Env) (message : Message) : Prop :=
  ∀ destination bump key, env.pubkeyFromStr message.destinationAddress = some destination →
    env.createProgramAddress (Gateway.ValidateMessageSigner.pdaSeeds
      (message.commandId env.toCrates) ++ [[bump]]) destination = some key →
    env.createProgramAddress (Gateway.ValidateMessageSigner.pdaSeeds
      (message.commandId env.toCrates) ++ [[bump]]) env.itsId = some key →
    destination = env.itsId

/-- A validated message is executed at the gateway, for the service. -/
theorem Accepts.execution {ctx : Ctx} {a : Execute} {message : Message} {payload : Bytes}
    {sourceChain : String} {inner : Encoding.Message} {gateway : Gateway.GatewayState}
    (accepts : Accepts env ctx a message payload sourceChain inner gateway s)
    (own : OwnAddress env message) :
    env.keccak payload = message.payloadHash ∧
    Gateway.Execution env.toEnv message env.itsId ⟨a.signingPda.pubkey, true⟩ s.chain.gateway
      gateway := by
  have validated := accepts.validated
  simp only [Gateway.validateMessageRaw, bind_eq_ok, require_eq_ok] at validated
  obtain ⟨_, hash, processed⟩ := validated
  obtain ⟨destination, execution⟩ := Gateway.execution_of_process processed
  obtain ⟨incoming, record, created⟩ := accepts.signingPda
  obtain ⟨incoming', record', -, -, named, -⟩ := execution.record
  cases record.symm.trans record'
  simp only [Gateway.ValidateMessageSigner.createPda, okOr_eq_ok] at named
  have same : destination = env.itsId :=
    own destination incoming.signingPdaBump _ execution.parsed named created
  rw [same] at execution
  exact ⟨hash, execution⟩

/-! ## The effects of a call -/

/-- Effects are loud events. -/
theorem isEffect_imp_loud {e : LogEvent} (h : e.isEffect = true) : e.loud = true := by
  cases e with
  | emitted event => cases h
  | _ => first | exact h | rfl

/-- The entries that a sequence of moves adds, and the effects among them. -/
theorem Performs.effects {ctx : Ctx} {l : List LogEvent} (h : Performs env ctx s l s') :
    ∃ entries, s'.log = s.log ++ entries ∧ entries.filter LogEntry.isInboundEffect
      = if ctx.instruction.isInner then (l.filter LogEvent.isEffect).map ctx.entry else [] := by
  obtain ⟨events, log, rfl⟩ := h.log
  refine ⟨events.map ctx.entry, log, ?_⟩
  rw [List.filter_map, List.filter_filter]
  by_cases inner : ctx.instruction.isInner = true
  · rw [if_pos inner]
    congr 1
    refine List.filter_congr fun e _ => ?_
    simp only [Function.comp, Ctx.entry, LogEntry.isInboundEffect, inner, Bool.true_and]
    cases effect : e.isEffect with
    | false => rfl
    | true => rw [isEffect_imp_loud effect, Bool.and_self]
  · rw [if_neg inner, List.map_eq_nil_iff, List.filter_eq_nil_iff]
    intro e _
    simp [Ctx.entry, LogEntry.isInboundEffect, inner]

/-- The instruction that a message calls is one of the three inner ones. -/
theorem Received.isInner {sysvar : Sysvar} {outer : Execute} {message : Message}
    {sourceChain : String} {inner : Encoding.Message} {i : ItsInstruction} {l : List LogEvent}
    (h : Received env sysvar outer message sourceChain s inner i l s') : i.isInner = true := by
  cases h <;> rfl

/-- **What a committed call adds to the log**: only an execution has inbound effects, and they are
those its message asks for. -/
theorem StepCases.effects {call : Call env} (h : StepCases env s call s') :
    ∃ entries, s'.log = s.log ++ entries ∧
      (entries.filter LogEntry.isInboundEffect = [] ∨
        ∃ sysvar a message payload outside sourceChain inner gateway,
          call = .instruction sysvar (.execute a message payload) outside ∧
          Accepts env ⟨sysvar, .external, .execute a message payload⟩ a message payload sourceChain
            inner gateway s ∧
          Faithful env s a.itsRootPda.pubkey inner
            ((entries.filter LogEntry.isInboundEffect).map LogEntry.event) ∧
          Performed ⟨s, call, s'⟩ sysvar a message payload sourceChain inner gateway ∧
          ∀ e ∈ entries.filter LogEntry.isInboundEffect, e.invoker = .execute message payload) := by
  cases h with
  | external call outside chain run => exact ⟨[], (List.append_nil _).symm, .inl rfl⟩
  | own sysvar i outside l s' notInner notExecute effect performs =>
    obtain ⟨entries, log, effects⟩ := performs.effects
    refine ⟨entries, log, .inl ?_⟩
    rw [effects, if_neg (by simp [notInner])]
  | execute sysvar a message payload outside sourceChain inner gateway i l s' accepts received
      performs =>
    obtain ⟨entries, log, effects⟩ := performs.effects
    rw [if_pos received.isInner] at effects
    -- the first new entry says that the message is accepted; the inner instruction adds the others
    have grown : s'.log = s.log ++
        ⟨.accepted sourceChain inner, .execute a message payload, .external⟩ :: entries := by
      rw [log]
      exact List.append_assoc ..
    have reported : ((⟨.accepted sourceChain inner, .execute a message payload, .external⟩ ::
        entries).filter LogEntry.isInboundEffect).map LogEntry.event
          = l.filter LogEvent.isEffect := by
      rw [List.filter_cons_of_neg (by simp [LogEntry.isInboundEffect, ItsInstruction.isInner]),
        effects, List.map_map]
      have events : (LogEntry.event ∘ Ctx.entry ⟨sysvar, .execute message payload, i⟩) = id := rfl
      rw [events, List.map_id]
    refine ⟨_, grown, .inr ⟨sysvar, a, message, payload, outside, sourceChain, inner, gateway, rfl,
      accepts, ?_, ⟨i, l, received, performs, ?_⟩, ?_⟩⟩
    · rw [reported]
      obtain ⟨root, stored, -, -, -, address⟩ := accepts.root
      exact received.faithful ⟨root, stored, address⟩
    · rw [inboundEffects, grown, List.drop_left, reported]
    · rw [List.filter_cons_of_neg (by simp [LogEntry.isInboundEffect, ItsInstruction.isInner]),
        effects]
      intro e mem
      obtain ⟨event, -, rfl⟩ := List.mem_map.mp mem
      rfl

/-! ## Runs -/

/-- The command id of the message that a call executes. -/
def executedCommand? {env : Env} (t : Transition World (Call env)) : Option Bytes32 :=
  match t.call with
  | .instruction _ (.execute _ message _) _ => some (message.commandId env.toCrates)
  | _ => none

/-- What is executed at the service is executed at the gateway. -/
theorem StepCases.executions {call : Call env} (h : StepCases env s call s') (c : Bytes32) :
    Gateway.executions c s.chain.gateway + ((executedCommand? ⟨s, call, s'⟩).toList.count c)
      ≤ Gateway.executions c s'.chain.gateway := by
  cases h with
  | external call outside chain run =>
    exact Gateway.executions_steps (ExternalCall.gateway_steps run) c
  | own sysvar i outside l s' notInner notExecute effect performs =>
    have steps := Gateway.executions_steps performs.gateway_steps c
    cases i with
    | execute a message payload => exact absurd rfl (notExecute a message payload)
    | _ => exact steps
  | execute sysvar a message payload outside sourceChain inner gateway i l s' accepts received
      performs =>
    have validated := accepts.validated
    simp only [Gateway.validateMessageRaw, bind_eq_ok, require_eq_ok] at validated
    obtain ⟨_, -, processed⟩ := validated
    obtain ⟨destination, execution⟩ := Gateway.execution_of_process processed
    have steps : Gateway.executions c gateway ≤ Gateway.executions c s'.chain.gateway :=
      Gateway.executions_steps performs.gateway_steps c
    rw [execution.executions_eq] at steps
    simpa [executedCommand?, List.count_singleton] using steps

/-- **The executions of a run** are counted by the gateway. -/
theorem executions_run (env : Env) (owner : Pubkey → Pubkey) (gas : GasService.GasState)
    (calls : List (Call env)) (c : Bytes32) :
    (((trace (step env) (World.initial owner gas) calls).filterMap executedCommand?).count c)
      ≤ Gateway.executions c (run (step env) (World.initial owner gas) calls).chain.gateway := by
  refine run_trace_induction (P := fun tr s =>
    (tr.filterMap executedCommand?).count c ≤ Gateway.executions c s.chain.gateway)
    (Nat.zero_le _) ?_ calls
  intro tr s call s' before success
  have new := (step_cases success).executions c
  rw [List.filterMap_append, List.count_append]
  have last : List.filterMap executedCommand? [(⟨s, call, s'⟩ : Transition World (Call env))]
      = (executedCommand? ⟨s, call, s'⟩).toList := by
    cases h : executedCommand? (⟨s, call, s'⟩ : Transition World (Call env)) <;> simp [h]
  rw [last]
  omega

/-- **The gateway of a run** is reached by its own instructions. -/
theorem gateway_steps_run (env : Env) (owner : Pubkey → Pubkey) (gas : GasService.GasState)
    (calls : List (Call env)) :
    Steps (Gateway.process env.toEnv) Gateway.GatewayState.initial
      (run (step env) (World.initial owner gas) calls).chain.gateway := by
  refine run_invariant (P := fun s : World => Steps (Gateway.process env.toEnv)
    Gateway.GatewayState.initial s.chain.gateway) ?_ ?_ calls
  · exact .refl
  · intro s call s' reached success
    exact Relation.ReflTransGen.trans reached (step_cases success).gateway_steps

/-- The inbound effects of a log are those of its calls. -/
theorem inboundEffects_run (env : Env) (owner : Pubkey → Pubkey) (gas : GasService.GasState)
    (calls : List (Call env)) :
    (run (step env) (World.initial owner gas) calls).log.filter LogEntry.isInboundEffect
      = (trace (step env) (World.initial owner gas) calls).flatMap inboundEffects := by
  refine run_trace_induction (P := fun tr s =>
    s.log.filter LogEntry.isInboundEffect = tr.flatMap inboundEffects) rfl ?_ calls
  intro tr s call s' before success
  obtain ⟨entries, log, -⟩ := (step_cases success).effects
  rw [List.flatMap_append, log, List.filter_append, before]
  simp [inboundEffects, log]

/-- **Inbound effects are faithful and happen once.** For every run of the gateway and the service,
from the initial state and with calls in any order, when the validate-message address of each
message that is executed belongs to one program:

1. the effects of the inner instructions in the log are those of its committed calls, one call after
   the other;
2. every committed call with such effects is one successful `execute` of an approved message for the
   service, with the hub's address as its source address, the payload of its hash, a source chain
   trusted at that moment and no pause; the effects are those that the message asks for, and they are
   in the world after it;
3. no two committed executions have the same command id. -/
theorem inbound_effects (env : Env) (owner : Pubkey → Pubkey) (gas : GasService.GasState)
    (calls : List (Call env))
    (own : ∀ sysvar a message payload outside,
      Call.instruction sysvar (.execute a message payload) outside ∈ calls →
        OwnAddress env message) :
    let tr := trace (step env) (World.initial owner gas) calls
    (run (step env) (World.initial owner gas) calls).log.filter LogEntry.isInboundEffect
      = tr.flatMap inboundEffects ∧
    (∀ t ∈ tr, inboundEffects t = [] ∨ ∃ sysvar a message payload sourceChain inner gateway,
      Delivers env t sysvar a message payload sourceChain inner gateway) ∧
    (tr.filterMap executedCommand?).Nodup := by
  intro tr
  refine ⟨inboundEffects_run env owner gas calls, ?_, ?_⟩
  · intro t mem
    obtain ⟨before, after, split⟩ := List.append_of_mem mem
    obtain ⟨calls₁, calls₂, divided, -, here⟩ := exists_calls_of_trace_eq split
    obtain ⟨entries, log, effects⟩ := (step_cases (step_of_mem_trace mem)).effects
    have added : inboundEffects t = entries.filter LogEntry.isInboundEffect := by
      rw [inboundEffects, log, List.drop_left]
    rcases effects with none | ⟨sysvar, a, message, payload, outside, sourceChain, inner, gateway,
      call, accepts, faithful, performed, invoker⟩
    · exact .inl (added.trans none)
    · have called : Call.instruction sysvar (.execute a message payload) outside ∈ calls := by
        rw [divided, ← call]
        simp
      obtain ⟨payloadHash, execution⟩ :=
        accepts.execution (own sysvar a message payload outside called)
      -- the record was approved by an earlier call of the gateway
      have reached := gateway_steps_run env owner gas calls₁
      rw [here] at reached
      obtain ⟨incoming, record, status, hash, -, -⟩ := execution.record
      obtain ⟨m, g₁, g₂, first, approval, last, id, hash'⟩ :=
        Gateway.approval_of_record reached record status
      exact .inr ⟨sysvar, a, message, payload, sourceChain, inner, gateway,
        { call := ⟨outside, call⟩
          accepts
          payloadHash
          approved := ⟨m, g₁, g₂, first, approval, last, id, hash'.trans hash⟩
          executed := execution
          faithful := by rwa [added]
          performed
          invoker := by rwa [added] }⟩
  · rw [List.nodup_iff_count_le_one]
    intro c
    have inv : Gateway.EventsMatchRecords
        (run (step env) (World.initial owner gas) calls).chain.gateway :=
      (gateway_steps_run env owner gas calls).keep
        (fun _ _ _ inv processed => inv.process processed) Gateway.eventsMatchRecords_initial
    exact (executions_run env owner gas calls c).trans (inv.executions_le_one c)

/-- The calls of the sample run: the sample message is approved and executed. -/
def sampleRun : List (Call sampleEnv) := sampleStart ++ [sampleExecute]

/-- The only message that the sample run executes is the sample message. -/
theorem executed_of_mem_sampleRun {sysvar : Sysvar} {a : Execute} {message : Message}
    {payload : Bytes} {outside : ∀ key ∈ (ItsInstruction.execute a message payload).signers,
      sampleEnv.SignsOutside key}
    (mem : Call.instruction sysvar (.execute a message payload) outside ∈ sampleRun) :
    message = sampleMessage := by
  rcases List.mem_append.mp mem with start | last
  · rcases List.mem_append.mp start with gateway | service
    · obtain ⟨call, -, same⟩ := List.mem_map.mp gateway
      cases same
    · simp only [List.mem_cons, List.not_mem_nil, or_false] at service
      rcases service with same | same <;> cases same
  · cases List.mem_singleton.mp last
    rfl

/-- The program that the sample message names is the service. -/
theorem sampleMessage_ownAddress : OwnAddress sampleEnv sampleMessage := by
  intro destination bump key parsed _ _
  have named : sampleEnv.pubkeyFromStr sampleMessage.destinationAddress = some sampleItsId := by
    decide +kernel
  rw [named] at parsed
  exact (Option.some.inj parsed).symm

/-- The sample run has inbound effects, and they are those of a delivery. -/
theorem inbound_effects_sample :
    ∃ t ∈ trace (step sampleEnv) sampleInitial sampleRun, inboundEffects t ≠ [] ∧
      ∃ sysvar a message payload sourceChain inner gateway,
        Delivers sampleEnv t sysvar a message payload sourceChain inner gateway := by
  obtain ⟨log, delivered, -⟩ := inbound_effects sampleEnv (fun _ => sampleProgramId 4)
    ⟨none, fun _ => 0, []⟩ sampleRun (by
      intro sysvar a message payload outside mem
      rw [executed_of_mem_sampleRun mem]
      exact sampleMessage_ownAddress)
  have effect : (run (step sampleEnv) sampleInitial sampleRun).log.any LogEntry.isInboundEffect
      = true := by
    decide +kernel
  obtain ⟨e, mem, isEffect⟩ := List.any_eq_true.mp effect
  have inLog := List.mem_filter.mpr ⟨mem, isEffect⟩
  have inTrace : e ∈ (trace (step sampleEnv) sampleInitial sampleRun).flatMap inboundEffects :=
    log ▸ inLog
  obtain ⟨t, here, among⟩ := List.mem_flatMap.mp inTrace
  have some : inboundEffects t ≠ [] := List.ne_nil_of_mem among
  refine ⟨t, here, some, ?_⟩
  rcases delivered t here with none | delivery
  · exact absurd none some
  · exact delivery

end AxelarSolana.Its
