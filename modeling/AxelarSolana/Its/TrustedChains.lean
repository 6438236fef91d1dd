import AxelarSolana.Its.Environment
import AxelarSolana.Its.Steps
import Mathlib.Data.Set.Insert

/-! # Configuration and trusted chains

What the run of the service does to the root account, and two properties of the trusted chains.

* **`Configures`** — what a committed call does to the root account, and to the set of chains that
  its events describe.
* **`replay_eq_trusted_iff`** — the events describe the trusted chains exactly when the hub's chain
  was never set: it is reported as trusted and never added.
* **`own_chain_not_destination`** — nothing is sent to this chain itself unless it was set as
  trusted; only a transfer can be. -/

namespace AxelarSolana.Its

open Fallible Machine

/-! ## What the events say -/

/-- The chains that are reported as trusted, after one more event. -/
def LogEvent.replay (chains : Set String) : LogEvent → Set String
  | .emitted (.trustedChainSet chainName) => insert chainName chains
  | .emitted (.trustedChainRemoved chainName) => chains \ {chainName}
  | _ => chains

/-- **The chains that the events report as trusted**: `TrustedChainSet` and `TrustedChainRemoved`
replayed from the empty set. -/
def replay (log : List LogEntry) : Set String := (log.map LogEntry.event).foldl LogEvent.replay ∅

/-- **The chains that are trusted.** -/
def World.trusted (s : World) : Set String :=
  { chainName | ∃ root, s.accounts.root = some root ∧ root.isTrustedChain chainName = true }

variable {env : Env} {s s' : World}

/-- Only loud events say something about the trusted chains. -/
theorem foldl_replay_loud (events : List LogEvent) (chains : Set String) :
    (events.filter LogEvent.loud).foldl LogEvent.replay chains
      = events.foldl LogEvent.replay chains := by
  induction events generalizing chains with
  | nil => rfl
  | cons e events ih =>
    cases loud : e.loud with
    | true =>
      rw [List.filter_cons_of_pos loud]
      exact ih _
    | false =>
      rw [List.filter_cons_of_neg (by simp [loud]), List.foldl_cons, ih]
      have quiet : e.replay chains = chains := by
        cases e with
        | emitted event => cases event <;> first | rfl | cases loud
        | _ => rfl
      rw [quiet]

/-- What a sequence of moves reports. -/
theorem Performs.replay {ctx : Ctx} {l : List LogEvent} (h : Performs env ctx s l s') :
    Its.replay s'.log = l.foldl LogEvent.replay (Its.replay s.log) := by
  obtain ⟨events, log, rfl⟩ := h.log
  have entries : (events.map ctx.entry).map LogEntry.event = events := by
    rw [List.map_map]
    exact List.map_id events
  rw [foldl_replay_loud, Its.replay, log, List.map_append, List.foldl_append, entries]
  rfl

/-- A chain is trusted when it is listed. -/
theorem isTrustedChain_iff {root : InterchainTokenService} {chainName : String} :
    root.isTrustedChain chainName = true ↔ chainName ∈ root.trustedChains := by
  simp [InterchainTokenService.isTrustedChain]

/-- The hub is never added. -/
theorem isTrustedChain_addTrustedChain {root : InterchainTokenService} {added chainName : String} :
    (root.addTrustedChain added).isTrustedChain chainName = true ↔
      root.isTrustedChain chainName = true ∨ (chainName = added ∧ added ≠ itsHubChainName) := by
  unfold InterchainTokenService.addTrustedChain
  simp only [isTrustedChain_iff]
  by_cases new : added ∉ root.trustedChains ∧ added ≠ itsHubChainName
  · rw [if_pos new]
    simp [new.2]
  · rw [if_neg new]
    constructor
    · exact .inl
    · rintro (present | ⟨rfl, notHub⟩)
      · exact present
      · by_contra absent
        exact new ⟨absent, notHub⟩

/-- Removing a chain leaves the trust in the others. -/
theorem isTrustedChain_removeTrustedChain {root : InterchainTokenService}
    {removed chainName : String} :
    (root.removeTrustedChain removed).isTrustedChain chainName = true ↔
      root.isTrustedChain chainName = true ∧ chainName ≠ removed := by
  simp [isTrustedChain_iff, InterchainTokenService.removeTrustedChain]

/-! ## The root account -/

/-- The chain that a call sets as trusted. -/
def Call.trusts? : Call env → Option String
  | .instruction _ (.setTrustedChain _ chainName) _ => some chainName
  | _ => none

/-- The chain that a call removes from the trusted ones. -/
def Call.distrusts? : Call env → Option String
  | .instruction _ (.removeTrustedChain _ chainName) _ => some chainName
  | _ => none

/-- The pause status that a call sets. -/
def Call.pauses? : Call env → Option Bool
  | .instruction _ (.setPauseStatus _ paused) _ => some paused
  | _ => none

/-- The destination chain that a call names. -/
def Call.destination? : Call env → Option String
  | .instruction _ i _ => i.destination?
  | _ => none

/-- **What a committed call does to the root account**, and to the chains reported as trusted. -/
inductive Configures (s : World) (call : Call env) (s' : World) : Prop
  | keeps (root : s'.accounts.root = s.accounts.root) (events : replay s'.log = replay s.log)
      (trusts : call.trusts? = none) (distrusts : call.distrusts? = none)
      (pauses : call.pauses? = none)
  | initialises (chainName itsHubAddress : String) (bump : UInt8)
      (fresh : s.accounts.root = none)
      (root : s'.accounts.root = some (InterchainTokenService.new bump chainName itsHubAddress))
      (events : replay s'.log = replay s.log)
      (trusts : call.trusts? = none) (distrusts : call.distrusts? = none)
      (pauses : call.pauses? = none)
  | pauses (r : InterchainTokenService) (paused : Bool) (stored : s.accounts.root = some r)
      (root : s'.accounts.root = some { r with paused }) (events : replay s'.log = replay s.log)
      (trusts : call.trusts? = none) (distrusts : call.distrusts? = none)
      (pauses : call.pauses? = some paused)
  | trusts (r : InterchainTokenService) (chainName : String) (stored : s.accounts.root = some r)
      (absent : r.isTrustedChain chainName = false)
      (root : s'.accounts.root = some (r.addTrustedChain chainName))
      (events : replay s'.log = insert chainName (replay s.log))
      (trusts : call.trusts? = some chainName) (distrusts : call.distrusts? = none)
      (pauses : call.pauses? = none)
  | distrusts (r : InterchainTokenService) (chainName : String)
      (stored : s.accounts.root = some r) (present : r.isTrustedChain chainName = true)
      (root : s'.accounts.root = some (r.removeTrustedChain chainName))
      (events : replay s'.log = replay s.log \ {chainName})
      (trusts : call.trusts? = none) (distrusts : call.distrusts? = some chainName)
      (pauses : call.pauses? = none)

/-- Granting roles says nothing about the trusted chains. -/
theorem Granted.replay {accounts accounts' : Accounts} {resource : Pubkey} {roles : UInt8}
    {l : List LogEvent} (h : Granted env accounts resource roles l accounts')
    (chains : Set String) : l.foldl LogEvent.replay chains = chains := by
  cases h <;> rfl

/-- Granting roles does not touch the root account. -/
theorem Granted.root {accounts accounts' : Accounts} {resource : Pubkey} {roles : UInt8}
    {l : List LogEvent} (h : Granted env accounts resource roles l accounts') :
    accounts'.root = accounts.root := by
  cases h <;> rfl

/-- Registering a manager leaves the root account. -/
theorem Registered.root {key : Pubkey} {tokenManager : TokenManager} {l : List LogEvent}
    (h : Registered env key tokenManager l s s') : s'.accounts.root = s.accounts.root := by
  obtain ⟨accounts, granted, written⟩ := h.accounts
  rw [written]
  exact granted.root

/-- Registering a manager reports no change of trust. -/
theorem Registered.replay {key : Pubkey} {tokenManager : TokenManager} {l : List LogEvent}
    (h : Registered env key tokenManager l s s') (chains : Set String) :
    l.foldl LogEvent.replay chains = chains := by
  obtain ⟨accounts, granted, -⟩ := h.accounts
  exact granted.replay chains

/-- **What a message does to the root account**: nothing. -/
theorem Received.configures {sysvar : Sysvar} {outer : Execute} {message : Message}
    {sourceChain : String} {inner : Encoding.Message} {i : ItsInstruction} {l : List LogEvent}
    (h : Received env sysvar outer message sourceChain s inner i l s') (chains : Set String) :
    s'.accounts.root = s.accounts.root ∧ l.foldl LogEvent.replay chains = chains := by
  cases h with
  | transfer a transfer destination transferred tokenManager tracked mint instruction before after
      called s' manager parsed signers inbound calls accounts =>
    refine ⟨by rw [accounts]; rfl, ?_⟩
    cases calls <;> rfl
  | deploy a deploy bump rolesBump after s' inbound registered =>
    exact ⟨registered.root, registered.replay chains⟩
  | link a link destinationTokenAddress ty bump rolesBump s' parsed inbound registered =>
    exact ⟨registered.root, registered.replay chains⟩

/-- **Every committed call** configures the service in one of these ways. -/
theorem StepCases.configures {call : Call env} (h : StepCases env s call s') :
    Configures s call s' := by
  cases h with
  | external call outside chain run => exact .keeps rfl rfl rfl rfl rfl
  | execute sysvar a message payload outside sourceChain inner gateway i l s' accepts received
      performs =>
    -- neither accepting the message nor what it calls reports a trusted chain
    obtain ⟨root, said⟩ := received.configures (replay s.log)
    have accepting : Its.replay (s.accepting ⟨sysvar, .external, .execute a message payload⟩
        sourceChain inner gateway).log = Its.replay s.log := (accepting_performs accepts).replay
    refine .keeps root ?_ rfl rfl rfl
    rw [performs.replay, accepting, said]
  | own sysvar i outside l s' notInner notExecute effect performs =>
    have said := performs.replay
    cases effect with
    | initialises a chainName itsHubAddress bump rolesBump rootLen s' fresh address granted
        accounts =>
      exact .initialises chainName itsHubAddress bump fresh (by rw [accounts]; rfl) said rfl rfl rfl
    | pauses a paused root rootLen s' stored accounts =>
      exact .pauses root paused stored (by rw [accounts]; rfl) said rfl rfl rfl
    | trusts a chainName root rootLen s' stored absent accounts =>
      exact .trusts root chainName stored absent (by rw [accounts]; rfl) said rfl rfl rfl
    | distrusts a chainName root rootLen s' stored present accounts =>
      exact .distrusts root chainName stored present (by rw [accounts]; rfl) said rfl rfl rfl
    | limits i key tokenManager flowLimit s' names stored accounts =>
      cases i <;> first
        | exact .keeps (by rw [accounts]; rfl) said rfl rfl rfl
        | cases names
    | movesRootRole a t root origin destination s' names loaded moved =>
      exact .keeps (by rw [moved.accounts]; rfl) said rfl rfl rfl
    | movesRole i role resource t tokenManager origin destination s' names stored moved =>
      cases i <;> first
        | exact .keeps (by rw [moved.accounts]; rfl) said rfl rfl rfl
        | cases names
    | addsFlowLimiter a tokenManager authority target s' signed loaded operator stored received
        accounts => exact .keeps (by rw [accounts]; rfl) said rfl rfl rfl
    | removesFlowLimiter a tokenManager target s' stored loaded accounts =>
      exact .keeps (by rw [accounts]; rfl) said rfl rfl rfl
    | handsOver a tokenId mint tokenManager minter s' handed =>
      exact .keeps (by rw [handed.accounts]; rfl) said rfl rfl rfl
    | sends i message s' outbound noTransfer remote accounts =>
      cases i <;> first
        | exact .keeps (by rw [accounts]) said rfl rfl rfl
        | cases outbound
    | registers i key tokenManager granted s' existing registered =>
      have quiet : replay s'.log = replay s.log := said.trans (registered.replay _)
      cases i <;> first
        | exact .keeps registered.root quiet rfl rfl rfl
        | cases existing
    | deploys a salt name symbol decimals initialSupply tokenManager granted t₁ t₂ t₃ s' native address
        deployed registered =>
      refine .keeps registered.root ?_ rfl rfl rfl
      rw [said, List.foldl_cons, List.foldl_append, List.foldl_append]
      -- the events of the initial supply say nothing about chains
      have minted : ∀ chains, (initialSupplyEvents a initialSupply t₂ t₃).foldl LogEvent.replay chains
          = chains := by
        intro chains
        unfold initialSupplyEvents
        split <;> rfl
      rw [minted, registered.replay]
      rfl
    | transfers a tokenId destinationChain destinationAddress amount gasValue reported
        callerProgramId callerPdaSeeds data tokenManager tracked mint instruction sourceAddress
        after s' outbound accounts => exact .keeps (by rw [accounts]; rfl) said rfl rfl rfl
    | mints a amount tokenManager after s' stored address called accounts =>
      exact .keeps (by rw [accounts]) said rfl rfl rfl

/-! ## The trusted chains -/

variable {call : Call env}

/-- The trusted chains are those of the stored root account. -/
theorem mem_trusted {root : InterchainTokenService} {chainName : String}
    (stored : s.accounts.root = some root) :
    chainName ∈ s.trusted ↔ root.isTrustedChain chainName = true := by
  constructor
  · rintro ⟨r, stored', trusted⟩
    cases stored.symm.trans stored'
    exact trusted
  · intro trusted
    exact ⟨root, stored, trusted⟩

/-- The trusted chains depend on the root account only. -/
theorem trusted_congr (same : s'.accounts.root = s.accounts.root) : s'.trusted = s.trusted := by
  unfold World.trusted
  rw [same]

/-- **The trusted chains after a call**: the hub's is never among those added. -/
theorem Configures.trusted (h : Configures s call s') (chainName : String) :
    chainName ∈ s'.trusted ↔
      (chainName ∈ s.trusted ∨ (call.trusts? = some chainName ∧ chainName ≠ itsHubChainName)) ∧
        call.distrusts? ≠ some chainName := by
  cases h with
  | keeps root events trusts distrusts pauses =>
    rw [trusted_congr root, trusts, distrusts]
    simp
  | initialises c itsHubAddress bump fresh root events trusts distrusts pauses =>
    have before : chainName ∉ s.trusted := by
      rintro ⟨r, stored, -⟩
      rw [fresh] at stored
      cases stored
    have after : chainName ∉ s'.trusted := by
      rw [mem_trusted root]
      simp [InterchainTokenService.new, InterchainTokenService.isTrustedChain]
    rw [trusts]
    simp [before, after]
  | pauses r paused stored root events trusts distrusts pauses =>
    have same : r.isTrustedChain chainName
        = ({ r with paused } : InterchainTokenService).isTrustedChain chainName := rfl
    rw [mem_trusted root, mem_trusted stored, trusts, distrusts, same]
    simp
  | trusts r c stored absent root events trusts distrusts pauses =>
    rw [mem_trusted root, mem_trusted stored, isTrustedChain_addTrustedChain, trusts, distrusts]
    constructor
    · rintro (present | ⟨rfl, notHub⟩)
      · exact ⟨.inl present, (Option.some_ne_none _).symm⟩
      · exact ⟨.inr ⟨rfl, notHub⟩, (Option.some_ne_none _).symm⟩
    · rintro ⟨present | ⟨same, notHub⟩, -⟩
      · exact .inl present
      · cases same
        exact .inr ⟨rfl, notHub⟩
  | distrusts r c stored present root events trusts distrusts pauses =>
    rw [mem_trusted root, mem_trusted stored, isTrustedChain_removeTrustedChain, trusts, distrusts]
    constructor
    · rintro ⟨present, other⟩
      exact ⟨.inl present, fun same => other (Option.some.inj same).symm⟩
    · rintro ⟨present | ⟨none, -⟩, other⟩
      · exact ⟨present, fun same => other (congrArg some same.symm)⟩
      · cases none

/-- **The chains reported as trusted after a call.** -/
theorem Configures.replayed (h : Configures s call s') (chainName : String) :
    chainName ∈ replay s'.log ↔
      (chainName ∈ replay s.log ∨ call.trusts? = some chainName) ∧
        call.distrusts? ≠ some chainName := by
  cases h with
  | keeps root events trusts distrusts pauses => simp [events, trusts, distrusts]
  | initialises c itsHubAddress bump fresh root events trusts distrusts pauses =>
    simp [events, trusts, distrusts]
  | pauses r paused stored root events trusts distrusts pauses => simp [events, trusts, distrusts]
  | trusts r c stored absent root events trusts distrusts pauses =>
    simp [events, trusts, distrusts, eq_comm, or_comm]
  | distrusts r c stored present root events trusts distrusts pauses =>
    simp [events, trusts, distrusts, eq_comm]

/-- A call that sets a chain as trusted removes none. -/
theorem Call.distrusts?_of_trusts? {chainName : String} (h : call.trusts? = some chainName) :
    call.distrusts? = none := by
  cases call with
  | external call outside => rfl
  | instruction sysvar i outside =>
    cases i with
    | removeTrustedChain a c => cases h
    | _ => rfl

/-- Only a trusted chain is removed. -/
theorem Configures.removed (h : Configures s call s') {chainName : String}
    (removes : call.distrusts? = some chainName) : chainName ∈ s.trusted := by
  cases h with
  | distrusts r c stored present root events trusts distrusts pauses =>
    rw [distrusts] at removes
    cases removes
    exact (mem_trusted stored).mpr present
  | keeps root events trusts distrusts pauses =>
    rw [distrusts] at removes
    cases removes
  | initialises c itsHubAddress bump fresh root events trusts distrusts pauses =>
    rw [distrusts] at removes
    cases removes
  | pauses r paused stored root events trusts distrusts pauses =>
    rw [distrusts] at removes
    cases removes
  | trusts r c stored absent root events trusts distrusts pauses =>
    rw [distrusts] at removes
    cases removes

/-- **The events and the trusted chains of a run** differ in the hub's chain at most: it is reported
once it was set, and never trusted. -/
theorem replay_run (env : Env) (owner : Pubkey → Pubkey) (gas : GasService.GasState)
    (calls : List (Call env)) :
    itsHubChainName ∉ (run (step env) (World.initial owner gas) calls).trusted ∧
    ∀ chainName, chainName ∈ replay (run (step env) (World.initial owner gas) calls).log ↔
      chainName ∈ (run (step env) (World.initial owner gas) calls).trusted ∨
        (chainName = itsHubChainName ∧ ∃ t ∈ trace (step env) (World.initial owner gas) calls,
          t.call.trusts? = some itsHubChainName) := by
  refine run_trace_induction (P := fun tr (s : World) => itsHubChainName ∉ s.trusted ∧
    ∀ chainName, chainName ∈ replay s.log ↔ chainName ∈ s.trusted ∨
      (chainName = itsHubChainName ∧ ∃ t ∈ tr, t.call.trusts? = some itsHubChainName)) ?_ ?_ calls
  · constructor
    · rintro ⟨root, stored, -⟩
      cases stored
    · intro chainName
      constructor
      · intro reported
        cases reported
      · rintro (⟨root, stored, -⟩ | ⟨-, t, mem, -⟩)
        · cases stored
        · cases mem
  · rintro tr s call s' ⟨hub, same⟩ success
    have configures := (step_cases success).configures
    constructor
    · rw [configures.trusted]
      rintro ⟨present | ⟨-, notHub⟩, -⟩
      · exact hub present
      · exact notHub rfl
    · intro chainName
      rw [configures.replayed, configures.trusted, same]
      by_cases isHub : chainName = itsHubChainName
      · -- the hub's chain cannot be removed, because it is never trusted
        subst isHub
        have kept : call.distrusts? ≠ some itsHubChainName :=
          fun removes => hub (configures.removed removes)
        simp [hub, kept, or_and_right, exists_or]
      · simp [isHub]

/-- **The events describe the trusted chains** of a run exactly when the hub's chain was not set: for
every run of the service, the chains that its events report are those that are trusted if and only
if no committed `set_trusted_chain` names the hub's chain. A chain that was just set is trusted if
and only if it is not the hub's, and one that was just removed is not. -/
theorem replay_eq_trusted_iff (env : Env) (owner : Pubkey → Pubkey) (gas : GasService.GasState)
    (calls : List (Call env)) :
    let s := run (step env) (World.initial owner gas) calls
    let tr := trace (step env) (World.initial owner gas) calls
    (replay s.log = s.trusted ↔ ∀ t ∈ tr, t.call.trusts? ≠ some itsHubChainName) ∧
    ∀ t ∈ tr, ∀ chainName,
      (t.call.trusts? = some chainName →
        (chainName ∈ t.post.trusted ↔ chainName ≠ itsHubChainName)) ∧
      (t.call.distrusts? = some chainName → chainName ∉ t.post.trusted) := by
  intro s tr
  obtain ⟨hub, same⟩ := replay_run env owner gas calls
  refine ⟨⟨fun equal t mem sets => ?_, fun never => ?_⟩, ?_⟩
  · refine hub ?_
    rw [← equal, same]
    exact .inr ⟨rfl, t, mem, sets⟩
  · ext chainName
    rw [same]
    constructor
    · rintro (present | ⟨-, t, mem, sets⟩)
      · exact present
      · exact absurd sets (never t mem)
    · exact .inl
  · intro t mem chainName
    have configures := (step_cases (step_of_mem_trace mem)).configures
    constructor
    · intro sets
      -- the trusted chains before the call are those of a run
      obtain ⟨before, after, split⟩ := List.append_of_mem mem
      obtain ⟨calls₁, -, -, -, here⟩ := exists_calls_of_trace_eq split
      have hubBefore := (replay_run env owner gas calls₁).1
      rw [here] at hubBefore
      rw [configures.trusted, Call.distrusts?_of_trusts? sets]
      constructor
      · rintro ⟨present | ⟨-, notHub⟩, -⟩
        · rintro rfl
          exact hubBefore present
        · exact notHub
      · intro notHub
        exact ⟨.inr ⟨sets, notHub⟩, (Option.some_ne_none _).symm⟩
    · intro removes trusted
      exact ((configures.trusted chainName).mp trusted).2 removes

/-- The service is initialised, and the hub's chain is set as trusted. -/
def sampleSetsHub : List (Call sampleEnv) :=
  [sampleInitializes, sampleTrusts itsHubChainName]

/-- **The hub's chain is reported as trusted and is not**: its `set_trusted_chain` succeeds, emits
`TrustedChainSet` and adds nothing. -/
theorem hub_reported_not_trusted :
    itsHubChainName ∈ replay (run (step sampleEnv) sampleInitial sampleSetsHub).log ∧
    itsHubChainName ∉ (run (step sampleEnv) sampleInitial sampleSetsHub).trusted := by
  obtain ⟨absent, reported⟩ := replay_run sampleEnv (fun _ => sampleProgramId 4)
    ⟨none, fun _ => 0, []⟩ sampleSetsHub
  have set : ((trace (step sampleEnv) sampleInitial sampleSetsHub).any fun t =>
      decide (t.call.trusts? = some itsHubChainName)) = true := by
    decide +kernel
  obtain ⟨t, mem, sets⟩ := List.any_eq_true.mp set
  exact ⟨(reported itsHubChainName).mpr (.inr ⟨rfl, t, mem, of_decide_eq_true sets⟩), absent⟩

/-! ## This chain as a destination -/

/-- Whether a call is an `interchain_transfer`. -/
def Call.isTransfer : Call env → Bool
  | .instruction _ (.interchainTransfer ..) _ => true
  | _ => false

/-- A registration names no destination. -/
theorem ItsInstruction.destination?_of_isRegistration {i : ItsInstruction}
    (h : i.isRegistration = true) : i.destination? = none := by
  cases i <;> first
    | rfl
    | cases h

/-- A change of a limit names no destination. -/
theorem ItsInstruction.destination?_of_flowLimit? {i : ItsInstruction} {key : Pubkey}
    {flowLimit : Option UInt64} (h : i.flowLimit? = some (key, flowLimit)) :
    i.destination? = none := by
  cases i <;> first
    | rfl
    | cases h

/-- A transfer of a role names no destination. -/
theorem ItsInstruction.destination?_of_roleTransfer? {i : ItsInstruction}
    {moved : UInt8 × Pubkey × TransferRole} (h : i.roleTransfer? = some moved) :
    i.destination? = none := by
  cases i <;> first
    | rfl
    | cases h

/-- **A destination is trusted**, and it is another chain unless it is that of a transfer. -/
theorem StepCases.destination (h : StepCases env s call s') {destinationChain : String}
    {root : InterchainTokenService} (names : call.destination? = some destinationChain)
    (stored : s.accounts.root = some root) :
    root.isTrustedChain destinationChain = true ∧
      (call.isTransfer = true ∨ root.chainName ≠ destinationChain) := by
  cases h with
  | external call outside chain run => cases names
  | execute sysvar a message payload outside sourceChain inner gateway i l s' accepts received
      performs => cases names
  | own sysvar i outside l s' notInner notExecute effect performs =>
    cases effect with
    | transfers a tokenId c destinationAddress amount gasValue reported callerProgramId
        callerPdaSeeds data tokenManager tracked mint instruction sourceAddress after s' outbound
        accounts =>
      cases names
      obtain ⟨r, trusting⟩ := outbound.root
      simp only [trustingRoot, bind_eq_ok, unpausedRoot_eq_ok, itsRootPda_eq_ok, require_eq_ok,
        pure_eq_ok] at trusting
      obtain ⟨_, ⟨⟨stored', -⟩, -⟩, _, trusted, rfl⟩ := trusting
      cases stored.symm.trans stored'
      exact ⟨trusted, .inl rfl⟩
    | sends i message s' sent noTransfer remote accounts =>
      obtain ⟨rootKey, r, loaded⟩ := remote destinationChain names
      simp only [remoteRoot, bind_eq_ok, unpausedRoot_eq_ok, itsRootPda_eq_ok, require_eq_ok,
        pure_eq_ok] at loaded
      obtain ⟨_, ⟨⟨stored', -⟩, -⟩, _, away, _, trusted, rfl⟩ := loaded
      cases stored.symm.trans stored'
      exact ⟨trusted, .inr away⟩
    | registers i key tokenManager granted s' existing registered =>
      cases (ItsInstruction.destination?_of_isRegistration existing).symm.trans names
    | limits i key tokenManager flowLimit s' limits stored accounts =>
      cases (ItsInstruction.destination?_of_flowLimit? limits).symm.trans names
    | movesRole i role resource t tokenManager origin destination s' moves stored moved =>
      cases (ItsInstruction.destination?_of_roleTransfer? moves).symm.trans names
    | _ => cases names

/-- The name of the chain never changes. -/
theorem Configures.chainName (h : Configures s call s') {root root' : InterchainTokenService}
    (stored : s.accounts.root = some root) (stored' : s'.accounts.root = some root') :
    root'.chainName = root.chainName := by
  cases h with
  | keeps same events trusts distrusts pauses =>
    cases stored'.symm.trans (same.trans stored)
    rfl
  | initialises c itsHubAddress bump fresh same events trusts distrusts pauses =>
    rw [fresh] at stored
    cases stored
  | pauses r paused stored₀ same events trusts distrusts pauses =>
    cases stored'.symm.trans same
    cases stored.symm.trans stored₀
    rfl
  | trusts r c stored₀ absent same events trusts distrusts pauses =>
    cases stored'.symm.trans same
    cases stored.symm.trans stored₀
    unfold InterchainTokenService.addTrustedChain
    split <;> rfl
  | distrusts r c stored₀ present same events trusts distrusts pauses =>
    cases stored'.symm.trans same
    cases stored.symm.trans stored₀
    rfl

/-- This chain is not trusted as long as nobody sets it as trusted. -/
theorem own_chain_untrusted (env : Env) (owner : Pubkey → Pubkey) (gas : GasService.GasState)
    (calls : List (Call env))
    (never : ∀ t ∈ trace (step env) (World.initial owner gas) calls, ∀ root,
      t.pre.accounts.root = some root → t.call.trusts? ≠ some root.chainName) :
    ∀ root, (run (step env) (World.initial owner gas) calls).accounts.root = some root →
      root.chainName ∉ (run (step env) (World.initial owner gas) calls).trusted := by
  refine run_trace_induction (P := fun tr (s : World) =>
    (∀ t ∈ tr, ∀ root, t.pre.accounts.root = some root →
      t.call.trusts? ≠ some root.chainName) →
    ∀ root, s.accounts.root = some root → root.chainName ∉ s.trusted) ?_ ?_ calls never
  · intro _ root stored
    cases stored
  · intro tr s call s' before success never root stored'
    have configures := (step_cases success).configures
    rw [configures.trusted]
    rintro ⟨present, -⟩
    cases stored : s.accounts.root with
    | none =>
      rcases present with ⟨r, some, -⟩ | ⟨sets, -⟩
      · cases stored.symm.trans some
      · -- a chain is set only on a root account that exists
        cases configures with
        | trusts r c some absent same events trusts distrusts pauses =>
          cases stored.symm.trans some
        | keeps same events trusts distrusts pauses => cases trusts.symm.trans sets
        | initialises c a b fresh same events trusts distrusts pauses =>
          cases trusts.symm.trans sets
        | pauses r paused some same events trusts distrusts pauses =>
          cases trusts.symm.trans sets
        | distrusts r c some there same events trusts distrusts pauses =>
          cases trusts.symm.trans sets
    | some r =>
      -- the own name never changes, and the call does not trust it
      rw [configures.chainName stored stored'] at present
      rcases present with present | ⟨sets, -⟩
      · refine before (fun t mem => never t (List.mem_append_left _ mem)) r stored present
      · exact never _ (List.mem_append_right _ (List.mem_singleton_self _)) r stored sets

/-- **Nothing is sent to this chain itself**, unless it was set as trusted. In every run of the
service, a committed call that names this chain's own name as its destination is a transfer, and the
name is trusted; so none is committed when no committed `set_trusted_chain` names it. -/
theorem own_chain_not_destination (env : Env) (owner : Pubkey → Pubkey) (gas : GasService.GasState)
    (calls : List (Call env)) :
    let tr := trace (step env) (World.initial owner gas) calls
    (∀ t ∈ tr, ∀ root, t.pre.accounts.root = some root →
      t.call.destination? = some root.chainName →
        t.call.isTransfer = true ∧ root.isTrustedChain root.chainName = true) ∧
    ((∀ t ∈ tr, ∀ root, t.pre.accounts.root = some root →
        t.call.trusts? ≠ some root.chainName) →
      ∀ t ∈ tr, ∀ root, t.pre.accounts.root = some root →
        t.call.destination? ≠ some root.chainName) := by
  intro tr
  have trusted : ∀ t ∈ tr, ∀ root, t.pre.accounts.root = some root →
      t.call.destination? = some root.chainName →
        t.call.isTransfer = true ∧ root.isTrustedChain root.chainName = true := by
    intro t mem root stored names
    obtain ⟨trusted, away⟩ := (step_cases (step_of_mem_trace mem)).destination names stored
    exact ⟨away.resolve_right (not_not_intro rfl), trusted⟩
  refine ⟨trusted, fun never t mem root stored names => ?_⟩
  obtain ⟨before, after, split⟩ := List.append_of_mem mem
  obtain ⟨calls₁, -, -, past, here⟩ := exists_calls_of_trace_eq split
  have untrusted := own_chain_untrusted env owner gas calls₁ (by
    rw [past]
    intro u earlier
    have committed : u ∈ tr := by
      rw [split]
      exact List.mem_append_left _ earlier
    exact never u committed) root (by rw [here]; exact stored)
  rw [here, mem_trusted stored] at untrusted
  exact untrusted (trusted t mem root stored names).2

/-- A wallet sends tokens to the chain that is trusted, and would send some to this chain. -/
def walletSends : List (Call walletEnv) :=
  walletStart "ethereum" ++ [walletTransfer Gateway.sampleSysvar "ethereum" 40,
    walletTransfer Gateway.sampleSysvar "solana" 40]

/-- The transfer to the trusted chain is committed, and none to this chain is. -/
theorem own_chain_not_destination_sample :
    let tr := trace (step walletEnv) sampleInitial walletSends
    (∃ t ∈ tr, t.call.destination? = some "ethereum") ∧
    ∀ t ∈ tr, ∀ root, t.pre.accounts.root = some root →
      t.call.destination? ≠ some root.chainName := by
  intro tr
  have sent : (tr.any fun t => t.call.destination? = some "ethereum") = true := by decide +kernel
  have never : (tr.all fun t => t.pre.accounts.root.all fun root =>
      t.call.trusts? ≠ some root.chainName) = true := by decide +kernel
  constructor
  · obtain ⟨t, mem, named⟩ := List.any_eq_true.mp sent
    exact ⟨t, mem, of_decide_eq_true named⟩
  · refine (own_chain_not_destination walletEnv _ _ walletSends).2 fun t mem root stored => ?_
    have other := List.all_eq_true.mp never t mem
    rw [stored, Option.all_some] at other
    exact of_decide_eq_true other

/-- **A transfer to this chain itself succeeds** once the chain's own name is trusted: the tokens are
burnt. -/
theorem transfer_to_own_chain :
    let s := run (step walletEnv) sampleInitial (walletStart "solana")
    let transfer := walletTransfer Gateway.sampleSysvar "solana" 40
    ∃ root s', s.accounts.root = some root ∧ transfer.destination? = some root.chainName ∧
      step walletEnv transfer s = .ok s' ∧ s'.chain.tokens.supply (sampleAddress 2) = 60 := by
  intro s transfer
  have named : s.accounts.root.map InterchainTokenService.chainName = some "solana" := by
    decide +kernel
  have result : ((step walletEnv transfer s).toOption.any
      fun s' => s'.chain.tokens.supply (sampleAddress 2) = 60) = true := by
    decide +kernel
  obtain ⟨root, stored, chainName⟩ := Option.map_eq_some_iff.mp named
  obtain ⟨s', executed, burnt⟩ := (Option.any_eq_true _ _).mp result
  refine ⟨root, s', stored, ?_, toOption_eq_some.mp executed, of_decide_eq_true burnt⟩
  rw [chainName]
  rfl

end AxelarSolana.Its
