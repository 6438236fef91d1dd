import AxelarSolana.Gateway.MessageLifecycle
import AxelarSolana.Library.Footprint

/-! # Calls that do not interfere

Anyone may call the gateway, so the calls that serve one message or session come between those that
serve others. What each instruction reads and writes, and what follows for the order of calls:

* **`Cell`** — the accounts of the program, and the events of one message, of one caller and of the
  administration.
* **`Write`** — a write to one account, or the emission of an event.
* **`readCells`**, **`writtenCells`** — the footprint of a call.
* **`process_writes`** — a call amounts to writes inside its footprint, which it also makes in any
  other state that agrees on what it reads.
* **`interleavings_agree`** — only the order of calls that touch the same cells matters. -/

namespace AxelarSolana.Gateway

open Fallible Footprint Machine

/-! ## Cells -/

/-- **A stream of events** that a reader of the log follows. -/
inductive Channel
  | message (commandId : Bytes32)
  | caller (sender : Pubkey)
  | administration
  deriving DecidableEq

/-- The stream an event belongs to. -/
def GatewayEvent.channel : GatewayEvent → Channel
  | .messageApproved e => .message e.commandId
  | .messageExecuted e => .message e.commandId
  | .callContract e => .caller e.sender
  | .verifierSetRotated _ => .administration
  | .operatorshipTransferred _ => .administration

/-- **The cells of the gateway's state.** -/
inductive Cell
  | config
  | tracker (hash : Bytes32)
  | session (key : SessionKey)
  | incoming (commandId : Bytes32)
  | events (channel : Channel)
  deriving DecidableEq

/-- What a cell holds. -/
abbrev Cell.Content : Cell → Type
  | .config => Option GatewayConfig
  | .tracker _ => Option VerifierSetTracker
  | .session _ => Option SignatureVerificationSessionData
  | .incoming _ => Option IncomingMessage
  | .events _ => List GatewayEvent

/-- The events of a stream, oldest first. -/
def eventsOn (channel : Channel) (events : List GatewayEvent) : List GatewayEvent :=
  events.filter fun e => e.channel = channel

/-- **The content of a cell.** -/
def Cell.content : (k : Cell) → GatewayState → k.Content
  | .config, s => s.config
  | .tracker hash, s => s.trackers hash
  | .session key, s => s.sessions key
  | .incoming commandId, s => s.incoming commandId
  | .events channel, s => eventsOn channel s.events

/-! ## Writes -/

/-- **A write to one account**, or the emission of an event. -/
inductive Write
  | config (config : GatewayConfig)
  | tracker (hash : Bytes32) (tracker : VerifierSetTracker)
  | session (key : SessionKey) (session : SignatureVerificationSessionData)
  | incoming (commandId : Bytes32) (message : IncomingMessage)
  | event (event : GatewayEvent)

/-- The cell that a write changes. -/
def Write.target : Write → Cell
  | .config _ => .config
  | .tracker hash _ => .tracker hash
  | .session key _ => .session key
  | .incoming commandId _ => .incoming commandId
  | .event e => .events e.channel

/-- The state after a write. -/
def Write.apply : Write → GatewayState → GatewayState
  | .config c, s => { s with config := some c }
  | .tracker hash t, s => s.setTracker hash t
  | .session key d, s => s.setSession key d
  | .incoming commandId m, s => s.setIncoming commandId m
  | .event e, s => s.emit e

/-- The events of a stream after one more event. -/
theorem eventsOn_append (channel : Channel) (events : List GatewayEvent) (e : GatewayEvent) :
    eventsOn channel (events ++ [e]) =
      eventsOn channel events ++ if e.channel = channel then [e] else [] := by
  by_cases same : e.channel = channel <;> simp [eventsOn, same]

/-- **Each write changes its own cell only**, by what that cell held. -/
theorem writer : Writer Cell.content Write.target Write.apply where
  other := by
    intro w s k apart
    cases w with
    | config config =>
      cases k with
      | config => exact absurd rfl apart
      | _ => rfl
    | tracker hash tracker =>
      cases k with
      | tracker hash' => exact Function.update_of_ne (fun eq => apart (congrArg Cell.tracker eq)) _ _
      | _ => rfl
    | session key session =>
      cases k with
      | session key' => exact Function.update_of_ne (fun eq => apart (congrArg Cell.session eq)) _ _
      | _ => rfl
    | incoming commandId message =>
      cases k with
      | incoming c => exact Function.update_of_ne (fun eq => apart (congrArg Cell.incoming eq)) _ _
      | _ => rfl
    | event e =>
      cases k with
      | events channel =>
        have other : e.channel ≠ channel := fun eq => apart (congrArg Cell.events eq.symm)
        show eventsOn channel (s.events ++ [e]) = eventsOn channel s.events
        rw [eventsOn_append, if_neg other, List.append_nil]
      | _ => rfl
  cellwise := by
    intro w s t k same
    cases w with
    | config config =>
      cases k with
      | config => rfl
      | _ => exact same
    | tracker hash tracker =>
      cases k with
      | tracker hash' =>
        show Function.update s.trackers hash (some tracker) hash' =
          Function.update t.trackers hash (some tracker) hash'
        rw [Function.update_apply, Function.update_apply]
        exact if_congr Iff.rfl rfl same
      | _ => exact same
    | session key session =>
      cases k with
      | session key' =>
        show Function.update s.sessions key (some session) key' =
          Function.update t.sessions key (some session) key'
        rw [Function.update_apply, Function.update_apply]
        exact if_congr Iff.rfl rfl same
      | _ => exact same
    | incoming commandId message =>
      cases k with
      | incoming c =>
        show Function.update s.incoming commandId (some message) c =
          Function.update t.incoming commandId (some message) c
        rw [Function.update_apply, Function.update_apply]
        exact if_congr Iff.rfl rfl same
      | _ => exact same
    | event e =>
      cases k with
      | events channel =>
        show eventsOn channel (s.events ++ [e]) = eventsOn channel (t.events ++ [e])
        rw [eventsOn_append, eventsOn_append]
        exact congrArg (· ++ _) same
      | _ => exact same

/-! ## Footprints -/

section

variable (env : Env)

/-- **What a call writes.** -/
def writtenCells (call : GatewayCall) : Set Cell :=
  match call.instruction with
  | .callContract accounts _ _ _ _ => {.events (.caller accounts.caller.key)}
  | .initializeConfig _ params => {.config, .tracker params.initialVerifierSet.hash}
  | .initializePayloadVerificationSession accounts _ _ =>
    {.session accounts.verificationSessionAccount}
  | .verifySignature accounts _ _ => {.session accounts.verificationSessionAccount}
  | .approveMessage _ m _ =>
    {.incoming (m.leaf.message.commandId env.toCrates),
      .events (.message (m.leaf.message.commandId env.toCrates))}
  | .validateMessage _ m =>
    {.incoming (m.commandId env.toCrates), .events (.message (m.commandId env.toCrates))}
  | .rotateSigners _ newRoot => {.config, .tracker newRoot, .events .administration}
  | .transferOperatorship _ => {.config, .events .administration}

/-- **What a call reads.** Every call reads the configuration and what it writes. -/
def readCells (call : GatewayCall) : Set Cell :=
  {.config} ∪ writtenCells env call ∪
    match call.instruction with
    | .initializePayloadVerificationSession accounts _ _ =>
      {.tracker accounts.verifierSetTrackerPda}
    | .verifySignature accounts _ _ => {.tracker accounts.verifierSetTrackerPda}
    | .approveMessage accounts _ _ => {.session accounts.verificationSessionAccount}
    | .rotateSigners accounts _ =>
      {.session accounts.verificationSessionAccount, .tracker accounts.verifierSetTrackerPda}
    | _ => ∅

end

variable {env : Env}

/-- Every call reads the configuration. -/
theorem config_mem_readCells (call : GatewayCall) : Cell.config ∈ readCells env call :=
  .inl (.inl rfl)

/-- What a call writes, it reads. -/
theorem writtenCells_subset (call : GatewayCall) : writtenCells env call ⊆ readCells env call :=
  fun _ written => .inl (.inr written)

/-- **A call that amounts to writes** inside its footprint, which it also makes in any other state
that agrees on what it reads. -/
def AmountsToWrites (env : Env) (call : GatewayCall) (s s' : GatewayState) : Prop :=
  ∃ ws : List Write, (∀ w ∈ ws, w.target ∈ writtenCells env call) ∧
    s' = applyAll Write.apply ws s ∧
    ∀ t, (∀ k ∈ readCells env call, k.content s = k.content t) →
      process env call t = .ok (applyAll Write.apply ws t)

variable {sysvar : Sysvar} {s s' : GatewayState}

/-- `call_contract` writes an event of its caller. -/
theorem callContract_writes {accounts : CallContract} {chain address : String} {payload : Bytes}
    {bump : UInt8} (h : callContract env accounts chain address payload bump s = .ok s') :
    AmountsToWrites env ⟨sysvar, .callContract accounts chain address payload bump⟩ s s' := by
  simp only [callContract, bind_eq_ok, pure_eq_ok, GatewayState.loadConfig_eq_ok] at h
  obtain ⟨config, hconfig, _, signed, _, authorised, rfl⟩ := h
  refine ⟨[.event (.callContract ⟨accounts.caller.key, env.keccak payload, chain, address,
    payload⟩)], ?_, rfl, fun t same => ?_⟩
  · rintro w mem
    rw [List.mem_singleton.mp mem]
    rfl
  · have sameConfig : s.config = t.config := same .config (config_mem_readCells _)
    rw [sameConfig] at hconfig
    simp only [process, callContract, bind_eq_ok, pure_eq_ok, GatewayState.loadConfig_eq_ok]
    exact ⟨config, hconfig, (), signed, (), authorised, rfl⟩

/-- `initialize_config` writes the configuration and a tracker. -/
theorem initializeConfig_writes {accounts : InitializeConfig} {params : InitializeConfigParams}
    (h : initializeConfig env sysvar accounts params s = .ok s') :
    AmountsToWrites env ⟨sysvar, .initializeConfig accounts params⟩ s s' := by
  simp only [initializeConfig, bind_eq_ok, require_eq_ok, okOr_eq_ok, pure_eq_ok] at h
  obtain ⟨_, signed, bump, found, _, fresh, trackerBump, foundTracker, _, freshTracker, _, authority,
    time, htime, rfl⟩ := h
  refine ⟨[.config _, .tracker params.initialVerifierSet.hash _], ?_, rfl, fun t same => ?_⟩
  · rintro w mem
    simp only [List.mem_cons, List.not_mem_nil, or_false] at mem
    rcases mem with rfl | rfl
    · exact .inl rfl
    · exact .inr rfl
  · have sameConfig : s.config = t.config := same .config (config_mem_readCells _)
    have sameTracker : s.trackers params.initialVerifierSet.hash =
        t.trackers params.initialVerifierSet.hash := same (.tracker _) (.inl (.inr (.inr rfl)))
    rw [sameConfig] at fresh
    rw [sameTracker] at freshTracker
    simp only [process, initializeConfig, bind_eq_ok, require_eq_ok, okOr_eq_ok, pure_eq_ok]
    exact ⟨(), signed, bump, found, (), fresh, trackerBump, foundTracker, (), freshTracker, (),
      authority, time, htime, rfl⟩

/-- `initialize_payload_verification_session` writes a session. -/
theorem initializePayloadVerificationSession_writes
    {accounts : InitializePayloadVerificationSession} {r : Bytes32} {type : PayloadType}
    (h : initializePayloadVerificationSession env accounts r type s = .ok s') :
    AmountsToWrites env ⟨sysvar, .initializePayloadVerificationSession accounts r type⟩ s s' := by
  simp only [initializePayloadVerificationSession, bind_eq_ok, require_eq_ok, pure_eq_ok,
    GatewayState.loadConfig_eq_ok, GatewayState.loadTracker_eq_ok] at h
  obtain ⟨config, hconfig, tracker, htracker, bump, found, _, key, _, fresh, _, named, _, valid,
    rfl⟩ := h
  refine ⟨[.session _ _], ?_, rfl, fun t same => ?_⟩
  · rintro w mem
    rw [List.mem_singleton.mp mem]
    exact congrArg Cell.session key.symm
  · have sameConfig : s.config = t.config := same .config (config_mem_readCells _)
    have sameTracker : s.trackers accounts.verifierSetTrackerPda =
        t.trackers accounts.verifierSetTrackerPda := same (.tracker _) (.inr rfl)
    have sameSession : s.sessions accounts.verificationSessionAccount =
        t.sessions accounts.verificationSessionAccount := same (.session _) (.inl (.inr rfl))
    rw [sameConfig] at hconfig
    rw [sameTracker] at htracker
    rw [← key, sameSession, key] at fresh
    simp only [process, initializePayloadVerificationSession, bind_eq_ok, require_eq_ok, pure_eq_ok,
      GatewayState.loadConfig_eq_ok, GatewayState.loadTracker_eq_ok]
    exact ⟨config, hconfig, tracker, htracker, bump, found, (), key, (), fresh, (), named, (), valid,
      rfl⟩

/-- `verify_signature` writes a session. -/
theorem verifySignature_writes {accounts : VerifySignature} {r : Bytes32}
    {info : SigningVerifierSetInfo} (h : verifySignature env accounts r info s = .ok s') :
    AmountsToWrites env ⟨sysvar, .verifySignature accounts r info⟩ s s' := by
  simp only [verifySignature, bind_eq_ok, require_eq_ok, pure_eq_ok, GatewayState.loadConfig_eq_ok,
    GatewayState.loadTracker_eq_ok, GatewayState.loadSession_eq_ok] at h
  obtain ⟨config, hconfig, session, hsession, tracker, htracker, _, domain, _, valid, _, key, _,
    named, session', processed, rfl⟩ := h
  refine ⟨[.session _ session'], ?_, rfl, fun t same => ?_⟩
  · rintro w mem
    rw [List.mem_singleton.mp mem]
    rfl
  · have sameConfig : s.config = t.config := same .config (config_mem_readCells _)
    have sameTracker : s.trackers accounts.verifierSetTrackerPda =
        t.trackers accounts.verifierSetTrackerPda := same (.tracker _) (.inr rfl)
    have sameSession : s.sessions accounts.verificationSessionAccount =
        t.sessions accounts.verificationSessionAccount := same (.session _) (.inl (.inr rfl))
    rw [sameConfig] at hconfig
    rw [sameTracker] at htracker
    rw [sameSession] at hsession
    simp only [process, verifySignature, bind_eq_ok, require_eq_ok, pure_eq_ok,
      GatewayState.loadConfig_eq_ok, GatewayState.loadTracker_eq_ok, GatewayState.loadSession_eq_ok]
    exact ⟨config, hconfig, session, hsession, tracker, htracker, (), domain, (), valid, (), key, (),
      named, session', processed, rfl⟩

/-- `approve_message` writes the record and an event of one command id. -/
theorem approveMessage_writes {accounts : ApproveMessage} {m : MerklizedMessage} {r : Bytes32}
    (h : approveMessage env accounts m r s = .ok s') :
    AmountsToWrites env ⟨sysvar, .approveMessage accounts m r⟩ s s' := by
  simp only [approveMessage, bind_eq_ok, require_eq_ok, okOr_eq_ok, pure_eq_ok,
    GatewayState.loadConfig_eq_ok, GatewayState.loadSession_eq_ok] at h
  obtain ⟨config, hconfig, session, hsession, bump, found, _, slot, _, fresh, _, key, _, valid, _,
    domain, proof, read, _, verified, signingBump, hbump, rfl⟩ := h
  refine ⟨[.incoming (m.leaf.message.commandId env.toCrates) _,
    .event (.messageApproved (messageApprovedEvent env m.leaf.message))], ?_, rfl,
    fun t same => ?_⟩
  · rintro w mem
    simp only [List.mem_cons, List.not_mem_nil, or_false] at mem
    rcases mem with rfl | rfl
    · exact .inl rfl
    · exact .inr rfl
  · have sameConfig : s.config = t.config := same .config (config_mem_readCells _)
    have sameSession : s.sessions accounts.verificationSessionAccount =
        t.sessions accounts.verificationSessionAccount := same (.session _) (.inr rfl)
    have sameRecord : s.incoming (m.leaf.message.commandId env.toCrates) =
        t.incoming (m.leaf.message.commandId env.toCrates) :=
      same (.incoming _) (.inl (.inr (.inl rfl)))
    rw [sameConfig] at hconfig
    rw [sameSession] at hsession
    rw [sameRecord] at fresh
    simp only [process, approveMessage, bind_eq_ok, require_eq_ok, okOr_eq_ok, pure_eq_ok,
      GatewayState.loadConfig_eq_ok, GatewayState.loadSession_eq_ok]
    exact ⟨config, hconfig, session, hsession, bump, found, (), slot, (), fresh, (), key, (), valid,
      (), domain, proof, read, (), verified, signingBump, hbump, rfl⟩

/-- `validate_message` writes the record and an event of one command id. -/
theorem validateMessage_writes {accounts : ValidateMessage} {m : Message}
    (h : validateMessage env accounts m s = .ok s') :
    AmountsToWrites env ⟨sysvar, .validateMessage accounts m⟩ s s' := by
  simp only [validateMessage, bind_eq_ok, require_eq_ok, okOr_eq_ok, pure_eq_ok,
    GatewayState.loadConfig_eq_ok, GatewayState.loadIncoming_eq_ok] at h
  obtain ⟨incoming, hincoming, _, slot, _, approved, _, hash, _, signed, callerValid, checked, _,
    valid, config, hconfig, destination, parsed, rfl⟩ := h
  refine ⟨[.incoming (m.commandId env.toCrates) { incoming with status := .executed },
    .event (.messageExecuted (messageExecutedEvent env m destination))], ?_, rfl,
    fun t same => ?_⟩
  · rintro w mem
    simp only [List.mem_cons, List.not_mem_nil, or_false] at mem
    rcases mem with rfl | rfl
    · exact .inl rfl
    · exact .inr rfl
  · have sameConfig : s.config = t.config := same .config (config_mem_readCells _)
    have sameRecord : s.incoming (m.commandId env.toCrates) =
        t.incoming (m.commandId env.toCrates) := same (.incoming _) (.inl (.inr (.inl rfl)))
    rw [sameConfig] at hconfig
    rw [slot, sameRecord, ← slot] at hincoming
    simp only [process, validateMessage, bind_eq_ok, require_eq_ok, okOr_eq_ok, pure_eq_ok,
      GatewayState.loadConfig_eq_ok, GatewayState.loadIncoming_eq_ok]
    exact ⟨incoming, hincoming, (), slot, (), approved, (), hash, (), signed, callerValid, checked,
      (), valid, config, hconfig, destination, parsed, rfl⟩

/-- `rotate_signers` writes the configuration, a tracker and an event. -/
theorem rotateSigners_writes {accounts : RotateSigners} {newRoot : Bytes32}
    (h : rotateSigners env sysvar accounts newRoot s = .ok s') :
    AmountsToWrites env ⟨sysvar, .rotateSigners accounts newRoot⟩ s s' := by
  simp only [rotateSigners, bind_eq_ok, require_eq_ok, okOr_eq_ok, pure_eq_ok,
    GatewayState.loadConfig_eq_ok, GatewayState.loadSession_eq_ok,
    GatewayState.loadTracker_eq_ok] at h
  obtain ⟨config, hconfig, session, hsession, tracker, htracker, _, signed, bump, found, _, slot, _,
    fresh, _, key, _, valid, _, named, _, set, _, different, _, validEpoch, _, latest, currentTime,
    htime, _, enough, currentEpoch, hepoch, rfl⟩ := h
  refine ⟨[.config _, .tracker newRoot _, .event (.verifierSetRotated _)], ?_, rfl,
    fun t same => ?_⟩
  · rintro w mem
    simp only [List.mem_cons, List.not_mem_nil, or_false] at mem
    rcases mem with rfl | rfl | rfl
    · exact .inl rfl
    · exact .inr (.inl rfl)
    · exact .inr (.inr rfl)
  · have sameConfig : s.config = t.config := same .config (config_mem_readCells _)
    have sameSession : s.sessions accounts.verificationSessionAccount =
        t.sessions accounts.verificationSessionAccount := same (.session _) (.inr (.inl rfl))
    have sameTracker : s.trackers accounts.verifierSetTrackerPda =
        t.trackers accounts.verifierSetTrackerPda := same (.tracker _) (.inr (.inr rfl))
    have sameNew : s.trackers newRoot = t.trackers newRoot :=
      same (.tracker _) (.inl (.inr (.inr (.inl rfl))))
    rw [sameConfig] at hconfig
    rw [sameSession] at hsession
    rw [sameTracker] at htracker
    rw [sameNew] at fresh
    simp only [process, rotateSigners, bind_eq_ok, require_eq_ok, okOr_eq_ok, pure_eq_ok,
      GatewayState.loadConfig_eq_ok, GatewayState.loadSession_eq_ok,
      GatewayState.loadTracker_eq_ok]
    exact ⟨config, hconfig, session, hsession, tracker, htracker, (), signed, bump, found, (), slot, (),
      fresh, (), key, (), valid, (), named, (), set, (), different, (), validEpoch, (), latest,
      currentTime, htime, (), enough, currentEpoch, hepoch, rfl⟩

/-- `transfer_operatorship` writes the configuration and an event. -/
theorem transferOperatorship_writes {accounts : TransferOperatorship}
    (h : transferOperatorship env sysvar accounts s = .ok s') :
    AmountsToWrites env ⟨sysvar, .transferOperatorship accounts⟩ s s' := by
  simp only [transferOperatorship, bind_eq_ok, require_eq_ok, pure_eq_ok,
    GatewayState.loadConfig_eq_ok] at h
  obtain ⟨config, hconfig, _, signed, _, authorised, _, different, rfl⟩ := h
  refine ⟨[.config _, .event (.operatorshipTransferred _)], ?_, rfl, fun t same => ?_⟩
  · rintro w mem
    simp only [List.mem_cons, List.not_mem_nil, or_false] at mem
    rcases mem with rfl | rfl
    · exact .inl rfl
    · exact .inr rfl
  · have sameConfig : s.config = t.config := same .config (config_mem_readCells _)
    rw [sameConfig] at hconfig
    simp only [process, transferOperatorship, bind_eq_ok, require_eq_ok, pure_eq_ok,
      GatewayState.loadConfig_eq_ok]
    exact ⟨config, hconfig, (), signed, (), authorised, (), different, rfl⟩

/-- **Every call amounts to writes inside its footprint.** -/
theorem process_writes {call : GatewayCall} (h : process env call s = .ok s') :
    AmountsToWrites env call s s' := by
  obtain ⟨sysvar, instruction⟩ := call
  cases instruction with
  | callContract accounts chain address payload bump => exact callContract_writes h
  | initializeConfig accounts params => exact initializeConfig_writes h
  | initializePayloadVerificationSession accounts r type =>
    exact initializePayloadVerificationSession_writes h
  | verifySignature accounts r info => exact verifySignature_writes h
  | approveMessage accounts m r => exact approveMessage_writes h
  | validateMessage accounts m => exact validateMessage_writes h
  | rotateSigners accounts newRoot => exact rotateSigners_writes h
  | transferOperatorship accounts => exact transferOperatorship_writes h

/-- **The gateway's calls have the footprints given.** -/
theorem framed_process (env : Env) :
    Framed (process env) Cell.content (readCells env) (writtenCells env) :=
  writer.framed writtenCells_subset fun _ _ _ => process_writes

/-! ## Interleavings -/

/-- Agreement in every cell, account by account. -/
theorem agree_iff {s t : GatewayState} : Agree Cell.content s t ↔
    s.config = t.config ∧ s.trackers = t.trackers ∧ s.sessions = t.sessions ∧
      s.incoming = t.incoming ∧ ∀ channel, eventsOn channel s.events = eventsOn channel t.events := by
  constructor
  · intro h
    exact ⟨h .config, funext fun hash => h (.tracker hash), funext fun key => h (.session key),
      funext fun c => h (.incoming c), fun channel => h (.events channel)⟩
  · rintro ⟨config, trackers, sessions, incoming, events⟩ k
    cases k with
    | config => exact config
    | tracker hash => exact congrFun trackers hash
    | session key => exact congrFun sessions key
    | incoming c => exact congrFun incoming c
    | events channel => exact events channel

/-- The command id of the message that a call delivers: approves or executes. -/
def deliveredId (env : Env) (call : GatewayCall) : Option Bytes32 :=
  call.instruction.message?.map fun m => m.commandId env.toCrates

/-- A delivery writes to the record and the events of its command id only. -/
theorem writtenCells_of_delivery {call : GatewayCall} {c : Bytes32}
    (h : deliveredId env call = some c) :
    writtenCells env call = {.incoming c, .events (.message c)} := by
  obtain ⟨m, delivered, rfl⟩ := Option.map_eq_some_iff.mp h
  obtain ⟨sysvar, instruction⟩ := call
  cases instruction with
  | approveMessage accounts item r =>
    cases delivered
    rfl
  | validateMessage accounts message =>
    cases delivered
    rfl
  | _ => cases delivered

/-- A delivery reads the configuration, sessions, and the record and the events of its command
id. -/
theorem mem_readCells_of_delivery {call : GatewayCall} {c : Bytes32}
    (h : deliveredId env call = some c) {k : Cell} (read : k ∈ readCells env call) :
    k = .config ∨ (∃ key, k = .session key) ∨ k = .incoming c ∨ k = .events (.message c) := by
  rcases read with (rfl | written) | more
  · exact .inl rfl
  · rw [writtenCells_of_delivery h] at written
    exact .inr (.inr written)
  · obtain ⟨m, delivered, rfl⟩ := Option.map_eq_some_iff.mp h
    obtain ⟨sysvar, instruction⟩ := call
    cases instruction with
    | approveMessage accounts item r => exact .inr (.inl ⟨_, more⟩)
    | validateMessage accounts message => exact more.elim
    | _ => cases delivered

/-- What a delivery writes, a delivery of another message does not read. -/
theorem disjoint_of_deliveries {a b : GatewayCall} {c c' : Bytes32}
    (ha : deliveredId env a = some c) (hb : deliveredId env b = some c') (apart : c ≠ c') :
    Disjoint (writtenCells env a) (readCells env b) := by
  refine Set.disjoint_left.mpr fun k written read => ?_
  rw [writtenCells_of_delivery ha] at written
  rcases mem_readCells_of_delivery hb read with rfl | ⟨key, rfl⟩ | rfl | rfl
  · simp at written
  · simp at written
  · simp [apart.symm] at written
  · simp [apart.symm] at written

/-- **Deliveries of different messages are independent.** -/
theorem independent_deliveries {a b : GatewayCall} (ha : deliveredId env a ≠ none)
    (hb : deliveredId env b ≠ none) (apart : deliveredId env a ≠ deliveredId env b) :
    Independent (readCells env) (writtenCells env) a b := by
  obtain ⟨c, hc⟩ := Option.ne_none_iff_exists'.mp ha
  obtain ⟨c', hc'⟩ := Option.ne_none_iff_exists'.mp hb
  rw [hc, hc'] at apart
  have other : c ≠ c' := fun eq => apart (congrArg some eq)
  exact ⟨disjoint_of_deliveries hc hc' other, disjoint_of_deliveries hc' hc other.symm⟩

/-- **Only the order of calls that touch the same cells matters.** From any state:

1. let calls be sorted into lanes such that no call writes to what a call in another lane reads. Two
   lists of calls with the same lanes, in whatever way these are interleaved and whichever calls are
   rejected, leave the same accounts, and the same events of every message, of every caller and of
   the administration, in the same order;
2. this is so for approvals and executions in any number, with one lane for each command id. -/
theorem interleavings_agree {L : Type} [DecidableEq L] (env : Env) (s : GatewayState)
    (calls calls' : List GatewayCall) :
    let s₁ := run (process env) s calls
    let s₂ := run (process env) s calls'
    let Same := s₁.config = s₂.config ∧ s₁.trackers = s₂.trackers ∧ s₁.sessions = s₂.sessions ∧
      s₁.incoming = s₂.incoming ∧
      ∀ channel, eventsOn channel s₁.events = eventsOn channel s₂.events
    (∀ lane : GatewayCall → L,
      (∀ a ∈ calls, ∀ b ∈ calls, lane a ≠ lane b →
        Independent (readCells env) (writtenCells env) a b) →
      (∀ l, inLane lane l calls = inLane lane l calls') → Same) ∧
    ((∀ call ∈ calls, deliveredId env call ≠ none) →
      (∀ c, inLane (deliveredId env) c calls = inLane (deliveredId env) c calls') → Same) := by
  intro s₁ s₂ Same
  constructor
  · intro lane independent lanes
    exact agree_iff.mp ((framed_process env).run_lanes independent lanes s)
  · intro deliveries lanes
    refine agree_iff.mp ((framed_process env).run_lanes (fun a ha b hb apart => ?_) lanes s)
    exact independent_deliveries (deliveries a ha) (deliveries b hb) apart

/-- A second message of the sample payload. -/
def sampleSecond : Message := { sampleMessage with ccId := ⟨"avalanche", "2"⟩ }

/-- Two messages are approved in either order, with the same records and events. -/
theorem interleavings_agree_sample :
    let s := run (process sampleEnv) .initial (sampleInitialize :: sampleSign sampleLeafHash)
    let s₁ := run (process sampleEnv) s [sampleApprove sampleMessage, sampleApprove sampleSecond]
    let s₂ := run (process sampleEnv) s [sampleApprove sampleSecond, sampleApprove sampleMessage]
    (s₁.incoming (sampleMessage.commandId sampleEnv.toCrates)).isSome = true ∧
    (s₁.incoming (sampleSecond.commandId sampleEnv.toCrates)).isSome = true ∧
    s₁.incoming = s₂.incoming ∧
    ∀ channel, eventsOn channel s₁.events = eventsOn channel s₂.events := by
  intro s s₁ s₂
  have apart : deliveredId sampleEnv (sampleApprove sampleMessage)
      ≠ deliveredId sampleEnv (sampleApprove sampleSecond) := by
    decide
  obtain ⟨-, agree⟩ := interleavings_agree (L := Option Bytes32) sampleEnv s
    [sampleApprove sampleMessage, sampleApprove sampleSecond]
    [sampleApprove sampleSecond, sampleApprove sampleMessage]
  obtain ⟨-, -, -, incoming, events⟩ := agree (by
    intro call mem
    simp only [List.mem_cons, List.not_mem_nil, or_false] at mem
    rcases mem with rfl | rfl <;> simp [deliveredId, sampleApprove, GatewayInstruction.message?])
    (inLane_swap apart)
  exact ⟨by decide +kernel, by decide +kernel, incoming, events⟩

end AxelarSolana.Gateway
