import AxelarSolana.Gateway.MessageLifecycle

/-! # The event log as a journal

Off-chain readers of the gateway see its events, not its accounts. How much of the state the events
tell:

* **`Journal`** — the state as a reader keeps it: the current epoch and operator, the epoch of each
  installed set, and each message with its hashes and whether it was executed.
* **`Journal.apply`** — what a reader does with an event.
* **`Journal.ofState`** — the journal that the accounts stand for.
* **`process_journal`** — a call appends the events that lead from the old journal to the new one.
* **`events_replay`** — replaying the log gives the journal of the accounts. -/

namespace AxelarSolana.Gateway

open Machine

/-! ## Journals -/

/-- A message as the journal keeps it. -/
structure JournalEntry where
  executed : Bool
  messageHash : Bytes32
  payloadHash : Bytes32
  deriving DecidableEq

/-- **What a reader of the events keeps.** -/
structure Journal where
  currentEpoch : U256
  operator : Pubkey
  epochs : Bytes32 → Option U256
  messages : Bytes32 → Option JournalEntry

/-- The message that an approval event describes. -/
def MessageApprovedEvent.message (e : MessageApprovedEvent) : Message where
  ccId := ⟨e.sourceChain, e.ccId⟩
  sourceAddress := e.sourceAddress
  destinationChain := e.destinationChain
  destinationAddress := e.destinationAddress
  payloadHash := e.payloadHash

namespace Journal

/-- **What a reader does with an event.** -/
def apply (env : Env) (j : Journal) : GatewayEvent → Journal
  | .messageApproved e =>
    { j with
      messages := Function.update j.messages e.commandId
        (some ⟨false, e.message.hash env.toCrates, e.payloadHash⟩) }
  | .messageExecuted e =>
    { j with
      messages := Function.update j.messages e.commandId
        ((j.messages e.commandId).map fun entry => { entry with executed := true }) }
  | .verifierSetRotated e =>
    { j with
      currentEpoch := e.epoch
      epochs := Function.update j.epochs e.verifierSetHash (some e.epoch) }
  | .operatorshipTransferred e => { j with operator := e.newOperator }
  | .callContract _ => j

/-- **The journal after a list of events.** -/
def replay (env : Env) (j : Journal) (events : List GatewayEvent) : Journal :=
  events.foldl (apply env) j

/-- Events are replayed one part after the other. -/
theorem replay_append (env : Env) (j : Journal) (events more : List GatewayEvent) :
    replay env j (events ++ more) = replay env (replay env j events) more :=
  List.foldl_append ..

/-- The entry that a record stands for. -/
def entryOf (incoming : IncomingMessage) : JournalEntry where
  executed := incoming.status.isExecuted
  messageHash := incoming.messageHash
  payloadHash := incoming.payloadHash

/-- **The journal that the accounts stand for.** -/
def ofState (config : GatewayConfig) (s : GatewayState) : Journal where
  currentEpoch := config.currentEpoch
  operator := config.operator
  epochs h := (s.trackers h).map VerifierSetTracker.epoch
  messages c := (s.incoming c).map entryOf

/-- The journal of a gateway that was just initialised; the initialisation emits no event. -/
def start (params : InitializeConfigParams) : Journal where
  currentEpoch := 1
  operator := params.operator
  epochs := Function.update (fun _ => none) params.initialVerifierSet.hash (some 1)
  messages _ := none

end Journal

/-! ## One call -/

/-- Reading a table after an update is updating what was read. -/
theorem map_update {α β : Type} (f : α → β) (table : Bytes32 → Option α) (key : Bytes32)
    (value : Option α) : (fun k => (Function.update table key value k).map f) =
      Function.update (fun k => (table k).map f) key (value.map f) := by
  funext k
  by_cases same : k = key
  · rw [same, Function.update_self, Function.update_self]
  · rw [Function.update_of_ne same, Function.update_of_ne same]

/-- **What a call of a configured gateway does to the journal**: the events that it appends lead from
the old journal to the new one. -/
theorem process_journal {env : Env} {call : GatewayCall} {s s' : GatewayState}
    {config : GatewayConfig} (stored : s.config = some config)
    (h : process env call s = .ok s') :
    ∃ config' new, s'.config = some config' ∧ s'.events = s.events ++ new ∧
      Journal.ofState config' s' = Journal.replay env (Journal.ofState config s) new := by
  obtain ⟨sysvar, instruction⟩ := call
  cases instruction with
  | callContract accounts chain address payload bump =>
    obtain ⟨-, rfl⟩ := callContract_ok h
    exact ⟨config, [_], stored, rfl, rfl⟩
  | initializeConfig accounts params =>
    obtain ⟨absent, -⟩ := initializeConfig_ok h
    rw [stored] at absent
    cases absent
  | initializePayloadVerificationSession accounts r t =>
    obtain ⟨_, _, _, _, -, -, -, -, -, -, -, rfl⟩ := initializePayloadVerificationSession_ok h
    exact ⟨config, [], stored, (List.append_nil _).symm, rfl⟩
  | verifySignature accounts r info =>
    obtain ⟨_, _, _, -, -, -, -, -, -, -, -, -, -, rfl⟩ := verifySignature_ok h
    exact ⟨config, [], stored, (List.append_nil _).symm, rfl⟩
  | approveMessage accounts m r =>
    obtain ⟨_, _, bump, signingBump, -, -, -, -, -, -, -, -, rfl⟩ := approveMessage_ok h
    refine ⟨config, [_], stored, rfl, ?_⟩
    show Journal.mk _ _ _ _ = Journal.mk _ _ _ _
    rw [Journal.mk.injEq]
    exact ⟨rfl, rfl, rfl, map_update _ _ _ _⟩
  | validateMessage accounts m =>
    obtain ⟨incoming, destination, record, -, -, -, -, -, -, rfl⟩ := validateMessage_ok h
    refine ⟨config, [_], stored, rfl, ?_⟩
    show Journal.mk _ _ _ _ = Journal.mk _ _ _ _
    rw [Journal.mk.injEq]
    refine ⟨rfl, rfl, rfl, ?_⟩
    -- the event carries no hash: the journal's own entry has it
    have entry : (Journal.ofState config s).messages (m.commandId env.toCrates) =
        some (Journal.entryOf incoming) := congrArg (Option.map Journal.entryOf) record
    show (fun c => (Function.update s.incoming (m.commandId env.toCrates) _ c).map _) = _
    rw [map_update]
    refine congrArg (Function.update _ _) ?_
    show _ = ((Journal.ofState config s).messages (m.commandId env.toCrates)).map _
    rw [entry]
    rfl
  | rotateSigners accounts newRoot =>
    obtain ⟨config', _, _, _, epoch, bump, stored', -, -, -, -, -, -, -, -, -, -, -, -, rfl⟩ :=
      rotateSigners_ok h
    cases stored.symm.trans stored'
    refine ⟨_, [_], rfl, rfl, ?_⟩
    show Journal.mk _ _ _ _ = Journal.mk _ _ _ _
    rw [Journal.mk.injEq]
    exact ⟨rfl, rfl, map_update _ _ _ _, rfl⟩
  | transferOperatorship accounts =>
    obtain ⟨config', stored', -, -, -, rfl⟩ := transferOperatorship_ok h
    cases stored.symm.trans stored'
    exact ⟨_, [_], rfl, rfl, rfl⟩

/-- Every call but the initialisation needs a configured gateway. -/
theorem initialize_of_unconfigured {env : Env} {call : GatewayCall} {s s' : GatewayState}
    (absent : s.config = none) (h : process env call s = .ok s') :
    ∃ accounts params, call.instruction = .initializeConfig accounts params := by
  have unloaded (config : GatewayConfig) : ¬ s.config = some config := by
    rw [absent]
    exact (Option.some_ne_none config).symm
  obtain ⟨sysvar, instruction⟩ := call
  cases instruction with
  | initializeConfig accounts params => exact ⟨accounts, params, rfl⟩
  | callContract accounts chain address payload bump =>
    simp only [process, callContract, Fallible.bind_eq_ok, GatewayState.loadConfig_eq_ok] at h
    obtain ⟨config, stored, -⟩ := h
    exact absurd stored (unloaded config)
  | initializePayloadVerificationSession accounts r t =>
    obtain ⟨config, _, _, _, stored, -⟩ := initializePayloadVerificationSession_ok h
    exact absurd stored (unloaded config)
  | verifySignature accounts r info =>
    obtain ⟨config, _, _, stored, -⟩ := verifySignature_ok h
    exact absurd stored (unloaded config)
  | approveMessage accounts m r =>
    obtain ⟨config, _, _, _, stored, -⟩ := approveMessage_ok h
    exact absurd stored (unloaded config)
  | validateMessage accounts m =>
    simp only [process, validateMessage, Fallible.bind_eq_ok, GatewayState.loadConfig_eq_ok] at h
    obtain ⟨_, -, _, -, _, -, _, -, _, -, _, -, _, -, config, stored, -⟩ := h
    exact absurd stored (unloaded config)
  | rotateSigners accounts newRoot =>
    obtain ⟨config, _, _, _, _, _, stored, -⟩ := rotateSigners_ok h
    exact absurd stored (unloaded config)
  | transferOperatorship accounts =>
    obtain ⟨config, stored, -⟩ := transferOperatorship_ok h
    exact absurd stored (unloaded config)

/-- The initialisation starts a journal. -/
theorem initializeConfig_journal {env : Env} {sysvar : Sysvar} {accounts : InitializeConfig}
    {params : InitializeConfigParams} {s' : GatewayState}
    (h : process env ⟨sysvar, .initializeConfig accounts params⟩ GatewayState.initial = .ok s') :
    ∃ config, s'.config = some config ∧ s'.events = [] ∧
      Journal.ofState config s' = Journal.start params := by
  obtain ⟨-, -, config, bump, epoch, -, -, -, operator, -, rfl⟩ := initializeConfig_ok h
  refine ⟨config, rfl, rfl, ?_⟩
  show Journal.mk _ _ _ _ = Journal.mk _ _ _ _
  rw [Journal.mk.injEq]
  exact ⟨epoch, operator, map_update _ _ _ _, rfl⟩

/-! ## Runs -/

/-- Further calls of a configured gateway append the events that lead from the old journal to the
new one. -/
theorem run_journal (env : Env) {s : GatewayState} {config : GatewayConfig}
    (stored : s.config = some config) (more : List GatewayCall) :
    ∃ config' new, (run (process env) s more).config = some config' ∧
      (run (process env) s more).events = s.events ++ new ∧
      Journal.ofState config' (run (process env) s more) =
        Journal.replay env (Journal.ofState config s) new := by
  refine run_invariant (P := fun t => ∃ config' new, t.config = some config' ∧
    t.events = s.events ++ new ∧
    Journal.ofState config' t = Journal.replay env (Journal.ofState config s) new) ?_ ?_ more
  · exact ⟨config, [], stored, (List.append_nil _).symm, rfl⟩
  · rintro t call t' ⟨config₁, new₁, stored₁, events₁, journal₁⟩ h
    obtain ⟨config₂, new₂, stored₂, events₂, journal₂⟩ := process_journal stored₁ h
    refine ⟨config₂, new₁ ++ new₂, stored₂, ?_, ?_⟩
    · rw [events₂, events₁, List.append_assoc]
    · rw [journal₂, journal₁, Journal.replay_append]

/-- **The event log is a journal of the gateway.** For every run:

1. either nothing has happened yet, or the gateway was initialised with some parameters, and
   replaying all its events from there gives the journal that its accounts stand for: the current
   epoch, the operator, the epoch of every installed set and, for every command id, whether its
   message was approved or executed, with both hashes;
2. a reader who knows the journal at some moment and sees the events of any further calls knows the
   journal after them. -/
theorem events_replay (env : Env) (calls : List GatewayCall) :
    let s := run (process env) GatewayState.initial calls
    (s = GatewayState.initial ∨
      ∃ t ∈ trace (process env) GatewayState.initial calls, ∃ accounts params config,
        t.call.instruction = .initializeConfig accounts params ∧ s.config = some config ∧
        Journal.ofState config s = Journal.replay env (Journal.start params) s.events) ∧
    (∀ config more, s.config = some config →
      ∃ config' new, (run (process env) s more).config = some config' ∧
        (run (process env) s more).events = s.events ++ new ∧
        Journal.ofState config' (run (process env) s more) =
          Journal.replay env (Journal.ofState config s) new) := by
  intro s
  constructor
  · refine run_trace_induction (P := fun tr s => s = GatewayState.initial ∨
      ∃ t ∈ tr, ∃ accounts params config, t.call.instruction = .initializeConfig accounts params ∧
        s.config = some config ∧
        Journal.ofState config s = Journal.replay env (Journal.start params) s.events)
      (.inl rfl) ?_ calls
    intro tr s call s' history h
    rcases history with rfl | ⟨t, mem, accounts, params, config, first, stored, journal⟩
    · -- the first call that succeeds is the initialisation
      obtain ⟨accounts, params, called⟩ := initialize_of_unconfigured rfl h
      obtain ⟨sysvar, instruction⟩ := call
      obtain rfl : instruction = _ := called
      obtain ⟨config, stored, none, journal⟩ := initializeConfig_journal h
      refine .inr ⟨_, List.mem_append_right _ (List.mem_singleton_self _), accounts, params, config,
        rfl, stored, ?_⟩
      rw [none, journal]
      rfl
    · obtain ⟨config', new, stored', events, journal'⟩ := process_journal stored h
      refine .inr ⟨t, List.mem_append_left _ mem, accounts, params, config', first, stored', ?_⟩
      rw [journal', journal, events, Journal.replay_append]
  · intro config more stored
    exact run_journal env stored more

end AxelarSolana.Gateway
