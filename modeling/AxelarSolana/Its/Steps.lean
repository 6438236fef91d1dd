import AxelarSolana.Its.Execution

/-! # One call

What a committed call of a run is, once and for all: the later files split on these cases and never
open a handler again.

* **`process_effect`** — the effect of an instruction called from outside.
* **`StepCases`** — a call changes the chain outside the program, is such an instruction, or
  executes a message; **`step_cases`** is the inversion. None of the three inner instructions can be
  called from outside: the root account does not sign there.
* **`gateway_steps`** — the gateway moves only by its own instructions. -/

namespace AxelarSolana.Its

open Fallible Machine

/-! ## Instructions called from outside -/

/-- Whether only `execute` calls an instruction. -/
def ItsInstruction.isInner : ItsInstruction → Bool
  | .executeInterchainTransfer .. | .executeDeployInterchainToken .. | .executeLinkToken .. => true
  | _ => false

variable {env : Env} {sysvar : Sysvar} {s s' : World} {i : ItsInstruction}

/-- **Every instruction but `execute` and the inner ones**, called from outside. -/
theorem process_effect (h : process env ⟨sysvar, .external, i⟩ i s = .ok s')
    (outside : ∀ key ∈ i.signers, env.SignsOutside key) (notInner : i.isInner = false)
    (notExecute : ∀ a message payload, i ≠ .execute a message payload) :
    ∃ l, Effect env sysvar s i l s' ∧ Performs env ⟨sysvar, .external, i⟩ s l s' := by
  cases i with
  | initializeService a chainName itsHubAddress => exact initializeService_ok h
  | setPauseStatus a paused => exact setPauseStatus_ok h
  | setTrustedChain a chainName => exact setTrustedChain_ok h
  | removeTrustedChain a chainName => exact removeTrustedChain_ok h
  | deployInterchainToken a salt name symbol decimals initialSupply =>
    exact deployInterchainToken_ok h
  | deployRemoteInterchainToken a salt destinationChain gasValue =>
    exact deployRemoteInterchainToken_ok h
  | registerTokenMetadata a gasValue => exact registerTokenMetadata_ok h
  | registerCanonicalInterchainToken a => exact registerCanonicalInterchainToken_ok h
  | deployRemoteCanonicalInterchainToken a destinationChain gasValue =>
    exact deployRemoteCanonicalInterchainToken_ok h
  | registerCustomToken a salt tokenManagerType operator => exact registerCustomToken_ok h
  | linkToken a salt destinationChain destinationTokenAddress tokenManagerType linkParams
      gasValue => exact linkToken_ok h
  | setFlowLimit a flowLimit => exact setFlowLimit_ok h
  | execute a message payload => exact absurd rfl (notExecute a message payload)
  | executeDeployInterchainToken a tokenId name symbol decimals minter => cases notInner
  | executeLinkToken a tokenId destinationTokenAddress tokenManagerType linkParams =>
    cases notInner
  | executeInterchainTransfer a message sourceChain sourceAddress destinationAddress tokenId
      amount data => cases notInner
  | interchainTransfer a tokenId destinationChain destinationAddress amount gasValue
      callerProgramId callerPdaSeeds data => exact interchainTransfer_ok h
  | transferOperatorship a => exact transferOperatorship_ok h
  | addTokenManagerFlowLimiter a => exact addTokenManagerFlowLimiter_ok h
  | removeTokenManagerFlowLimiter a => exact removeTokenManagerFlowLimiter_ok h
  | setTokenManagerFlowLimit a flowLimit => exact setTokenManagerFlowLimit_ok h
  | transferTokenManagerOperatorship a => exact transferTokenManagerOperatorship_ok h
  | mintInterchainToken a amount => exact mintInterchainToken_ok h
  | handoverMintAuthority a tokenId =>
    -- the authority signs the call, so it signs outside of the program
    refine handoverMintAuthority_ok h fun signed => outside _ ?_
    exact mem_signersOfInfos.mpr ⟨a.authority, by simp, signed, rfl⟩
  | transferInterchainTokenMintership a => exact transferInterchainTokenMintership_ok h

/-- The root account does not sign outside the program. -/
theorem not_signsOutside_of_signingRoot {account : AccountMeta} {metas : List AccountMeta}
    (root : ∃ root, signingRoot env account s = .ok root) (mem : account ∈ metas) :
    ¬ ∀ key ∈ signersOf metas, env.SignsOutside key := by
  intro outside
  obtain ⟨root, signing⟩ := root
  rw [signingRoot_eq_ok, unpausedRoot_eq_ok, itsRootPda_eq_ok] at signing
  obtain ⟨⟨⟨-, address⟩, -⟩, signed⟩ := signing
  have away := outside account.pubkey (mem_signersOf.mpr ⟨account, mem, signed, rfl⟩)
  exact away.2 _ address

/-- **No inner instruction succeeds when it is called from outside.** -/
theorem inner_not_outside (h : process env ⟨sysvar, .external, i⟩ i s = .ok s')
    (outside : ∀ key ∈ i.signers, env.SignsOutside key) : i.isInner = false := by
  cases inner : i.isInner with
  | false => rfl
  | true =>
    exfalso
    cases i with
    | executeInterchainTransfer a message sourceChain sourceAddress destinationAddress tokenId
        amount data =>
      have signable : ∀ m ∈ a.metas, m.isSigner = true →
          env.Signable a.destination.pubkey m.pubkey := fun m mem signed =>
        .inl (outside m.pubkey (mem_signersOf.mpr ⟨m, mem, signed, rfl⟩))
      obtain ⟨_, _, _, _, _, _, _, _, inbound, -⟩ := executeInterchainTransfer_ok h signable
      exact not_signsOutside_of_signingRoot inbound.root
        (by simp [ExecuteInterchainTransfer.metas]) outside
    | executeDeployInterchainToken a tokenId name symbol decimals minter =>
      obtain ⟨_, _, _, inbound, -⟩ := executeDeployInterchainToken_ok h
      exact not_signsOutside_of_signingRoot inbound.root
        (by simp [ExecuteDeployInterchainToken.metas]) outside
    | executeLinkToken a tokenId destinationTokenAddress tokenManagerType linkParams =>
      obtain ⟨_, _, _, inbound, -⟩ := executeLinkToken_ok h
      exact not_signsOutside_of_signingRoot inbound.root (by simp [ExecuteLinkToken.metas]) outside
    | _ => cases inner

/-! ## The cases of a call -/

/-- **What one committed call is.** -/
inductive StepCases (env : Env) (s : World) : Call env → World → Prop
  | external (call : ExternalCall) (outside : ∀ key ∈ call.signers, env.SignsOutside key)
      (chain : Chain) (run : call.run env s.chain = .ok chain) :
      StepCases env s (.external call outside) (s.withChain chain)
  | own (sysvar : Sysvar) (i : ItsInstruction)
      (outside : ∀ key ∈ i.signers, env.SignsOutside key) (l : List LogEvent) (s' : World)
      (notInner : i.isInner = false) (notExecute : ∀ a message payload,
        i ≠ .execute a message payload) (effect : Effect env sysvar s i l s')
      (performs : Performs env ⟨sysvar, .external, i⟩ s l s') :
      StepCases env s (.instruction sysvar i outside) s'
  | execute (sysvar : Sysvar) (a : Execute) (message : Message) (payload : Bytes)
      (outside : ∀ key ∈ signersOf a.metas, env.SignsOutside key) (sourceChain : String)
      (inner : Encoding.Message) (gateway : Gateway.GatewayState) (i : ItsInstruction)
      (l : List LogEvent) (s' : World)
      (accepts : Accepts env ⟨sysvar, .external, .execute a message payload⟩ a message payload
        sourceChain inner gateway s)
      (received : Received env sysvar a message sourceChain
        (s.accepting ⟨sysvar, .external, .execute a message payload⟩ sourceChain inner gateway)
        inner i l s')
      (performs : Performs env ⟨sysvar, .execute message payload, i⟩
        (s.accepting ⟨sysvar, .external, .execute a message payload⟩ sourceChain inner gateway) l
        s') :
      StepCases env s (.instruction sysvar (.execute a message payload) outside) s'

/-- **A committed call is one of the cases of `StepCases`.** -/
theorem step_cases {call : Call env} (h : step env call s = .ok s') : StepCases env s call s' := by
  cases call with
  | external call outside =>
    simp only [step, bind_eq_ok, pure_eq_ok] at h
    obtain ⟨chain, run, rfl⟩ := h
    exact .external call outside chain run
  | instruction sysvar i outside =>
    have processed : process env ⟨sysvar, .external, i⟩ i s = .ok s' := h
    have notInner := inner_not_outside processed outside
    by_cases isExecute : ∃ a message payload, i = .execute a message payload
    · obtain ⟨a, message, payload, rfl⟩ := isExecute
      obtain ⟨sourceChain, inner, gateway, accepts, dispatched⟩ := execute_ok processed
      obtain ⟨root, -, -, -, -, address⟩ := accepts.root
      obtain ⟨i, l, received, performs⟩ := dispatch_ok dispatched outside ⟨root.bump, address⟩
      exact .execute sysvar a message payload outside sourceChain inner gateway i l s' accepts
        received performs
    · have notExecute : ∀ a message payload, i ≠ .execute a message payload :=
        fun a message payload same => isExecute ⟨a, message, payload, same⟩
      obtain ⟨l, effect, performs⟩ := process_effect processed outside notInner notExecute
      exact .own sysvar i outside l s' notInner notExecute effect performs

/-- The acceptance of a message is itself a sequence of moves. -/
theorem accepting_performs {ctx : Ctx} {a : Execute} {message : Message} {payload : Bytes}
    {sourceChain : String} {inner : Encoding.Message} {gateway : Gateway.GatewayState}
    (accepts : Accepts env ctx a message payload sourceChain inner gateway s) :
    Performs env ctx s [.accepted sourceChain inner] (s.accepting ctx sourceChain inner gateway) := by
  have validated := accepts.validated
  simp only [Gateway.validateMessageRaw, bind_eq_ok, require_eq_ok] at validated
  obtain ⟨_, -, processed⟩ := validated
  exact performs_accept.after (performs_validate processed)

/-! ## The gateway -/

/-- A call of another program is a number of steps of the gateway. -/
theorem ExternalCall.gateway_steps {call : ExternalCall} {chain chain' : Chain}
    (h : call.run env chain = .ok chain') :
    Steps (Gateway.process env.toEnv) chain.gateway chain'.gateway := by
  cases call with
  | tokens instruction signers =>
    simp only [ExternalCall.run, bind_eq_ok, pure_eq_ok] at h
    obtain ⟨tokens, -, rfl⟩ := h
    exact .refl
  | gateway call =>
    simp only [ExternalCall.run, bind_eq_ok, pure_eq_ok] at h
    obtain ⟨gateway, processed, rfl⟩ := h
    exact .single ⟨call, processed⟩
  | environment owner gas =>
    simp only [ExternalCall.run, pure_eq_ok] at h
    rw [← h]
    exact .refl

/-- Calls of other programs are a number of steps of the gateway. -/
theorem ExternalCall.gateway_steps_foldlM {calls : List ExternalCall} {chain chain' : Chain}
    (h : calls.foldlM (fun chain call => call.run env chain) chain = .ok chain') :
    Steps (Gateway.process env.toEnv) chain.gateway chain'.gateway := by
  induction calls generalizing chain with
  | nil =>
    rw [List.foldlM_nil, pure_eq_ok] at h
    rw [h]
    exact .refl
  | cons call calls ih =>
    rw [List.foldlM_cons, bind_eq_ok] at h
    obtain ⟨chain₁, first, h⟩ := h
    exact (ExternalCall.gateway_steps first).trans (ih h)

/-- A move is a number of steps of the gateway. -/
theorem Move.gateway_steps {ctx : Ctx} {l : List LogEvent} (h : Move env ctx s l s') :
    Steps (Gateway.process env.toEnv) s.chain.gateway s'.chain.gateway := by
  cases h with
  | send a message gasValue payload gateway gas sent =>
    obtain ⟨bump, -, processed⟩ := sent.called
    exact .single ⟨_, processed⟩
  | validate sysvar accounts message gateway processed => exact .single ⟨_, processed⟩
  | callDestination call effect chain signable run => exact ExternalCall.gateway_steps_foldlM run
  | _ => exact .refl

/-- A sequence of moves is a number of steps of the gateway. -/
theorem Performs.gateway_steps {ctx : Ctx} {l : List LogEvent} (h : Performs env ctx s l s') :
    Steps (Gateway.process env.toEnv) s.chain.gateway s'.chain.gateway := by
  refine h.keep (P := fun t =>
    Steps (Gateway.process env.toEnv) s.chain.gateway t.chain.gateway) ?_ .refl
  intro _ _ _ move steps
  exact Relation.ReflTransGen.trans steps move.gateway_steps

/-- **The gateway moves only by its own instructions.** -/
theorem StepCases.gateway_steps {call : Call env} (h : StepCases env s call s') :
    Steps (Gateway.process env.toEnv) s.chain.gateway s'.chain.gateway := by
  cases h with
  | external call outside chain run => exact ExternalCall.gateway_steps run
  | own sysvar i outside l s' notInner notExecute effect performs => exact performs.gateway_steps
  | execute sysvar a message payload outside sourceChain inner gateway i l s' accepts received
      performs =>
    exact Relation.ReflTransGen.trans (accepting_performs accepts).gateway_steps
      performs.gateway_steps

end AxelarSolana.Its
