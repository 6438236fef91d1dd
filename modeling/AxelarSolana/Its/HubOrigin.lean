import AxelarSolana.Its.Program
import AxelarSolana.Library.Machine

/-! # The origin of executed messages

What `execute` checks of a message before it calls one of the three inner instructions, and what
that says about where the message comes from.

* **`Accepts`** — the checks of `execute`; **`execute_ok`** is its inversion.
* **`FromHub`** — a message of the ITS hub: both its chain and its address are the hub's.
* **`fromHub_iff_chain`** — an executed message is one of the hub exactly when its chain is the
  hub's, because only the address is compared.
* **`executed_from_another_chain`** — a message of another chain whose source address reads like the
  hub's deploys a token. -/

namespace AxelarSolana.Its

open Fallible Machine

/-! ## The checks of `execute` -/

/-- **What `execute` has checked** when it calls an inner instruction: the gateway state is the one
after the message has been validated. -/
structure Accepts (env : Env) (ctx : Ctx) (a : Execute) (message : Message) (payload : Bytes)
    (sourceChain : String) (inner : Encoding.Message) (gateway : Gateway.GatewayState)
    (s : World) : Prop where
  root : ∃ root, s.accounts.root = some root ∧ root.paused = false ∧
    message.sourceAddress = root.itsHubAddress ∧ root.isTrustedChain sourceChain = true ∧
    env.createProgramAddress (InterchainTokenService.pdaSeeds ++ [[root.bump]]) env.itsId
      = some a.itsRootPda.pubkey
  payer : a.payer.isSigner = true
  decoded : Encoding.HubMessage.codec.decodeAll payload = some (.receiveFromHub sourceChain inner)
  signingPda : ∃ incoming,
    s.chain.gateway.incoming (message.commandId env.toCrates) = some incoming ∧
    env.createProgramAddress (Gateway.ValidateMessageSigner.pdaSeeds
      (message.commandId env.toCrates) ++ [[incoming.signingPdaBump]]) env.itsId
      = some a.signingPda.pubkey
  validated : Gateway.validateMessageRaw env.toEnv ctx.sysvar a.signingPda.pubkey message payload
    s.chain.gateway = .ok gateway

/-- The world in which `execute` calls an inner instruction. -/
def World.accepting (s : World) (ctx : Ctx) (sourceChain : String) (inner : Encoding.Message)
    (gateway : Gateway.GatewayState) : World :=
  (s.withChain { s.chain with gateway }).record ctx (.accepted sourceChain inner)

variable {env : Env} {ctx : Ctx} {a : Execute} {message : Message} {payload : Bytes} {s s' : World}

/-- **What `execute` does**: it accepts the message, then the inner instruction is called. -/
theorem execute_ok (h : execute env ctx a message payload s = .ok s') :
    ∃ sourceChain inner gateway,
      Accepts env ctx a message payload sourceChain inner gateway s ∧
      dispatch env ctx a message payload sourceChain inner
        (s.accepting ctx sourceChain inner gateway) = .ok s' := by
  simp only [execute, bind_eq_ok, Gateway.GatewayState.loadIncoming_eq_ok,
    Gateway.GatewayState.loadConfig_eq_ok, require_eq_ok, okOr_eq_ok, signer_eq_ok,
    unpausedRoot_eq_ok, itsRootPda_eq_ok] at h
  obtain ⟨incoming, hincoming, _, created, config, -, _, payer, root, ⟨⟨stored, address⟩, unpaused⟩,
    _, hub, hubMessage, decoded, h⟩ := h
  cases hubMessage with
  | sendToHub destinationChain inner => exact absurd h throw_ne_ok
  | registerTokenMetadata metadata => exact absurd h throw_ne_ok
  | receiveFromHub sourceChain inner =>
    simp only [bind_eq_ok, require_eq_ok] at h
    obtain ⟨gateway, validated, _, trusted, dispatched⟩ := h
    exact ⟨sourceChain, inner, gateway, ⟨⟨root, stored, unpaused, hub, trusted, address⟩, payer,
      decoded, ⟨incoming, hincoming, created⟩, validated⟩, dispatched⟩

/-! ## The origin of a message -/

/-- **A message of the ITS hub**: from the hub's chain, and from the hub's address on it. -/
structure FromHub (s : World) (message : Message) : Prop where
  chain : message.ccId.chain = itsHubChainName
  address : ∃ root, s.accounts.root = some root ∧ message.sourceAddress = root.itsHubAddress

/-- **When an executed message is one of the hub.** For every successful `execute`, the message is
one of the hub if and only if its chain is the hub's chain. -/
theorem fromHub_iff_chain (env : Env) (ctx : Ctx) (a : Execute) (message : Message)
    (payload : Bytes) (s s' : World) (executed : execute env ctx a message payload s = .ok s') :
    FromHub s message ↔ message.ccId.chain = itsHubChainName := by
  obtain ⟨sourceChain, inner, gateway, accepts, -⟩ := execute_ok executed
  obtain ⟨root, stored, -, hub, -, -⟩ := accepts.root
  constructor
  · intro fromHub
    exact fromHub.chain
  · intro chain
    exact ⟨chain, root, stored, hub⟩

/-- The sample message is approved, and the service is ready to execute it. -/
def sampleReady : World := run (step sampleEnv) sampleInitial sampleStart

/-- Whether a token manager was created. -/
def LogEntry.createsTokenManager (e : LogEntry) : Bool :=
  match e.event with
  | .tokenManagerCreated .. => true
  | _ => false

/-- The execution of the sample message succeeds and creates a token manager. -/
theorem sampleExecute_ok : ∃ s', step sampleEnv sampleExecute sampleReady = .ok s' ∧
    s'.log.any LogEntry.createsTokenManager = true := by
  have result : ((step sampleEnv sampleExecute sampleReady).toOption.any fun s' =>
      s'.log.any LogEntry.createsTokenManager) = true := by
    decide +kernel
  cases h : step sampleEnv sampleExecute sampleReady with
  | error e =>
    rw [h] at result
    cases result
  | ok s' =>
    rw [h] at result
    exact ⟨s', rfl, result⟩

/-- **A message of another chain that deploys a token.** In a state that a run reaches, a message
approved by the gateway whose chain is not the hub's is executed, and a token manager that did not
exist is created. -/
theorem executed_from_another_chain :
    ∃ s', step sampleEnv sampleExecute (run (step sampleEnv) sampleInitial sampleStart) = .ok s' ∧
      s'.log.any LogEntry.createsTokenManager = true ∧
      ¬ FromHub (run (step sampleEnv) sampleInitial sampleStart) sampleMessage := by
  obtain ⟨s', executed, created⟩ := sampleExecute_ok
  refine ⟨s', executed, created, fun fromHub => ?_⟩
  exact absurd fromHub.chain (by decide)

/-- The message from the hub's chain is approved, too. -/
def sampleHubReady : World :=
  run (step sampleEnv) sampleReady [.external (.gateway (Gateway.sampleApprove sampleFromHub))
    (sampleEnv_signsOutside rfl)]

/-- The sample message is executed and is no message of the hub; the same message from the hub's
chain is executed and is one. -/
theorem fromHub_iff_chain_sample :
    ¬ FromHub sampleReady sampleMessage ∧ FromHub sampleHubReady sampleFromHub := by
  constructor
  · obtain ⟨s', executed, -⟩ := sampleExecute_ok
    have iff := fromHub_iff_chain sampleEnv _ sampleExecuteAccounts sampleMessage samplePayload
      sampleReady s' executed
    exact fun fromHub => absurd (iff.mp fromHub) (by decide)
  · -- it is validated by an address of its own
    have result : ((execute sampleEnv ⟨Gateway.sampleSysvar, .external, .execute
        { sampleExecuteAccounts with signingPda := ⟨sampleAddress 14, false, false⟩ } sampleFromHub
        samplePayload⟩ { sampleExecuteAccounts with signingPda := ⟨sampleAddress 14, false, false⟩ }
        sampleFromHub samplePayload sampleHubReady).toOption.any fun _ => true) = true := by
      decide +kernel
    obtain ⟨s', executed, -⟩ := (Option.any_eq_true _ _).mp result
    exact (fromHub_iff_chain sampleEnv _ _ _ _ _ s' (toOption_eq_some.mp executed)).mpr rfl

end AxelarSolana.Its
