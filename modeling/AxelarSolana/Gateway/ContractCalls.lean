import AxelarSolana.Gateway.Instructions

/-! # Contract calls by sender

* **`sentBy`** — the messages that a sender has sent through the gateway.
* **`process_sentBy`** — only `call_contract` adds to them, with the sender's own signature or that of
  its call-contract address. -/

namespace AxelarSolana.Gateway

open Fallible

/-- The contract call of a sender that an event reports. -/
def GatewayEvent.sentBy? (sender : Pubkey) : GatewayEvent → Option CallContractEvent
  | .callContract e => if e.sender = sender then some e else none
  | _ => none

/-- **The contract calls of a sender**, oldest first. -/
def GatewayState.sentBy (sender : Pubkey) (g : GatewayState) : List CallContractEvent :=
  g.events.filterMap (GatewayEvent.sentBy? sender)

/-- **A call in the name of a sender**: signed by the sender, or with the signature of its
call-contract address. -/
structure SignedFor (env : Env) (sender : Pubkey) (accounts : CallContract) : Prop where
  caller : accounts.caller.key = sender
  signed : accounts.caller.isSigner = false → ∃ pda bump,
    env.createProgramAddress [CallContractSigner.seedPrefix, [bump]] sender = some pda ∧
    accounts.signingPda = some ⟨pda, true⟩

variable {env : Env} {sender : Pubkey} {s s' : GatewayState}

/-- Other events say nothing about a sender. -/
theorem sentBy_of_events {new : List GatewayEvent} (events : s'.events = s.events ++ new)
    (other : ∀ e ∈ new, e.sentBy? sender = none) : s'.sentBy sender = s.sentBy sender := by
  rw [GatewayState.sentBy, events, List.filterMap_append, List.filterMap_eq_nil_iff.mpr other,
    List.append_nil]
  rfl

/-- `call_contract` reports one contract call, in the name of its caller. -/
theorem callContract_sentBy {accounts : CallContract} {chain address : String} {payload : Bytes}
    {bump : UInt8} (h : callContract env accounts chain address payload bump s = .ok s') :
    SignedFor env accounts.caller.key accounts ∧
    s'.sentBy accounts.caller.key = s.sentBy accounts.caller.key ++
      [⟨accounts.caller.key, env.keccak payload, chain, address, payload⟩] := by
  obtain ⟨authorised, rfl⟩ := callContract_ok h
  refine ⟨⟨rfl, fun notSigner => ?_⟩, ?_⟩
  · obtain ⟨pda, created, given⟩ := authorised notSigner
    exact ⟨pda, bump, okOr_eq_ok.mp created, given⟩
  · simp [GatewayState.sentBy, GatewayState.emit, GatewayEvent.sentBy?]

/-- **Only a call in the name of a sender adds to its contract calls.** -/
theorem process_sentBy {call : GatewayCall} (h : process env call s = .ok s') (sender : Pubkey) :
    s'.sentBy sender = s.sentBy sender ∨ ∃ accounts chain address payload bump,
      call.instruction = .callContract accounts chain address payload bump ∧
      SignedFor env sender accounts := by
  obtain ⟨sysvar, instruction⟩ := call
  cases instruction with
  | callContract accounts chain address payload bump =>
    have called : callContract env accounts chain address payload bump s = .ok s' := h
    -- only a contract call of the sender adds to what it has sent
    by_cases same : accounts.caller.key = sender
    · subst same
      exact .inr ⟨accounts, chain, address, payload, bump, rfl, (callContract_sentBy called).1⟩
    · obtain ⟨-, rfl⟩ := callContract_ok called
      refine .inl (sentBy_of_events rfl fun e mem => ?_)
      rw [List.mem_singleton.mp mem]
      exact if_neg same
  | initializeConfig accounts params =>
    obtain ⟨-, -, config, bump, -, -, -, -, -, -, rfl⟩ := initializeConfig_ok h
    exact .inl rfl
  | initializePayloadVerificationSession accounts merkleRoot payloadType =>
    obtain ⟨config, tracker, bump, key, -, -, -, -, -, -, -, rfl⟩ :=
      initializePayloadVerificationSession_ok h
    exact .inl rfl
  | verifySignature accounts payloadMerkleRoot verifierInfo =>
    obtain ⟨config, session, tracker, -, -, -, -, -, -, -, -, -, -, rfl⟩ := verifySignature_ok h
    exact .inl rfl
  | approveMessage accounts merklizedMessage payloadMerkleRoot =>
    obtain ⟨config, session, bump, signingBump, -, -, -, -, -, -, -, -, rfl⟩ := approveMessage_ok h
    refine .inl (sentBy_of_events rfl fun e mem => ?_)
    rw [List.mem_singleton.mp mem]
    rfl
  | validateMessage accounts message =>
    obtain ⟨incoming, destination, -, -, -, -, -, -, -, rfl⟩ := validateMessage_ok h
    refine .inl (sentBy_of_events rfl fun e mem => ?_)
    rw [List.mem_singleton.mp mem]
    rfl
  | rotateSigners accounts newRoot =>
    obtain ⟨config, session, tracker, currentTime, currentEpoch, bump, -, -, -, -, -, -, -, -, -, -,
      -, -, -, rfl⟩ := rotateSigners_ok h
    refine .inl (sentBy_of_events rfl fun e mem => ?_)
    rw [List.mem_singleton.mp mem]
    rfl
  | transferOperatorship accounts =>
    obtain ⟨config, -, -, -, -, rfl⟩ := transferOperatorship_ok h
    refine .inl (sentBy_of_events rfl fun e mem => ?_)
    rw [List.mem_singleton.mp mem]
    rfl

end AxelarSolana.Gateway
