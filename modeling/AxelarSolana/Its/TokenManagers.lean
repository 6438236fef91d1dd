import AxelarSolana.Its.Steps

/-! # Token managers

* **`transfersOf`** — the transfers of a committed call: what it sends to the hub or accepts from
  it, with the token manager that its accounts name.
* **`ManagerChange`** — what a committed call does to the token manager at an address: it creates
  one, sets its limit, tracks a transfer, or leaves it. -/

namespace AxelarSolana.Its

open Fallible Machine

variable {env : Env} {s s' : World}

/-! ## Transfers -/

/-- The direction and the amount of the transfer that is sent or accepted with a message. -/
def LogEvent.transfer? : LogEvent → Option (FlowDirection × UInt64)
  | .sent (.sendToHub _ (.interchainTransfer transfer)) => some (.outward, transfer.amount)
  | .accepted _ (.interchainTransfer transfer) => some (.inward, transfer.amount)
  | _ => none

/-- The token manager that the accounts of a transfer name. -/
def Call.tokenManager? : Call env → Option Pubkey
  | .instruction _ (.interchainTransfer a _ _ _ _ _ _ _ _) _ => some a.tokenManagerPda
  | .instruction _ (.execute a _ _) _ => some a.tokenManagerPda.pubkey
  | _ => none

/-- **The transfers of a committed call through a token manager**: the direction and the amount of
the hub messages that it sends or accepts. -/
def transfersOf (key : Pubkey) (t : Transition World (Call env)) :
    List (FlowDirection × UInt64) :=
  if t.call.tokenManager? = some key then
    ((t.post.log.drop t.pre.log.length).map LogEntry.event).filterMap LogEvent.transfer?
  else []

/-- Only loud events are transfers. -/
theorem transfer?_of_quiet {e : LogEvent} (quiet : e.loud = false) : e.transfer? = none := by
  cases e with
  | sent message => cases quiet
  | accepted sourceChain message => cases quiet
  | _ => rfl

/-- The transfers that a sequence of moves reports. -/
theorem Performs.transfers {ctx : Ctx} {l : List LogEvent} (h : Performs env ctx s l s') :
    ∃ entries, s'.log = s.log ++ entries ∧
      (entries.map LogEntry.event).filterMap LogEvent.transfer?
        = l.filterMap LogEvent.transfer? :=
  h.filterMap fun _ => transfer?_of_quiet

/-- The transfers of a committed call are read off the entries that it adds. -/
theorem transfersOf_eq {call : Call env} {entries : List LogEntry}
    {l : List (FlowDirection × UInt64)} (log : s'.log = s.log ++ entries)
    (transfers : (entries.map LogEntry.event).filterMap LogEvent.transfer? = l) (key : Pubkey) :
    transfersOf key ⟨s, call, s'⟩ = if call.tokenManager? = some key then l else [] := by
  unfold transfersOf
  rw [log, List.drop_left, transfers]

/-! ## What a call does to a token manager -/

/-- The clock that a call reads. -/
def Call.sysvar? : Call env → Option Sysvar
  | .instruction sysvar _ _ => some sysvar
  | .external _ _ => none

/-- **What a committed call does to the token manager at an address**, with its transfers through
it. -/
inductive ManagerChange (env : Env) (key : Pubkey) (s : World) (call : Call env) :
    List (FlowDirection × UInt64) → World → Prop
  | keeps (s' : World)
      (same : s'.accounts.tokenManagers key = s.accounts.tokenManagers key) :
      ManagerChange env key s call [] s'
  | creates (tokenManager : TokenManager) (s' : World)
      (new : ∃ rootKey root, itsRootPda env rootKey s = .ok root ∧
        newTokenManagerPda env rootKey tokenManager.tokenId key s = .ok tokenManager.bump)
      (flowSlot : tokenManager.flowSlot = FlowState.new none 0)
      (stored : s'.accounts.tokenManagers key = some tokenManager) :
      ManagerChange env key s call [] s'
  | limits (tokenManager : TokenManager) (flowLimit : Option UInt64) (s' : World)
      (stored : s.accounts.tokenManagers key = some tokenManager)
      (written : s'.accounts.tokenManagers key
        = some { tokenManager with flowSlot := { tokenManager.flowSlot with flowLimit } }) :
      ManagerChange env key s call [] s'
  | tracks (sysvar : Sysvar) (tokenManager tracked : TokenManager) (direction : FlowDirection)
      (amount : UInt64) (s' : World) (clock : call.sysvar? = some sysvar)
      (stored : s.accounts.tokenManagers key = some tokenManager)
      (flow : tokenManager.trackFlow sysvar amount direction = .ok tracked)
      (written : s'.accounts.tokenManagers key = some tracked) :
      ManagerChange env key s call [(direction, amount)] s'

/-- Only the accounts of the program count. -/
theorem ManagerChange.congr {t : World} {key : Pubkey} {call : Call env}
    {l : List (FlowDirection × UInt64)} (h : ManagerChange env key t call l s')
    (same : t.accounts = s.accounts) : ManagerChange env key s call l s' := by
  cases h with
  | keeps s' kept => exact .keeps s' (by rw [← same, kept])
  | creates tokenManager s' new flowSlot stored =>
    obtain ⟨rootKey, root, loaded, fresh⟩ := new
    exact .creates tokenManager s' ⟨rootKey, root, (itsRootPda_congr same).symm.trans loaded,
      (newTokenManagerPda_congr same).symm.trans fresh⟩ flowSlot stored
  | limits tokenManager flowLimit s' stored written =>
    exact .limits tokenManager flowLimit s' (by rw [← same, stored]) written
  | tracks sysvar tokenManager tracked direction amount s' clock stored flow written =>
    exact .tracks sysvar tokenManager tracked direction amount s' clock (by rw [← same, stored])
      flow written

/-- A registration creates the manager that it names, and no other. -/
theorem Registered.managerChange {key : Pubkey} {tokenManager : TokenManager}
    {granted : List LogEvent} (h : Registered env key tokenManager granted s s') (call : Call env)
    (key' : Pubkey) : ManagerChange env key' s call [] s' := by
  obtain ⟨accounts, grants, written⟩ := h.accounts
  have managers : accounts.tokenManagers = s.accounts.tokenManagers := by
    cases grants <;> rfl
  by_cases same : key' = key
  · subst same
    refine .creates tokenManager s' h.manager h.flowSlot ?_
    rw [written]
    exact Function.update_self ..
  · refine .keeps s' ?_
    rw [written, ← managers]
    exact Function.update_of_ne same ..

/-- A transfer that is tracked changes the manager that its accounts name, and no other. -/
theorem managerChange_of_tracks {key : Pubkey} {tokenManager tracked : TokenManager}
    {sysvar : Sysvar} {amount : UInt64} {direction : FlowDirection} {call : Call env}
    (clock : call.sysvar? = some sysvar)
    (stored : s.accounts.tokenManagers key = some tokenManager)
    (flow : tokenManager.trackFlow sysvar amount direction = .ok tracked)
    (written : s'.accounts = s.accounts.setTokenManager key tracked) (key' : Pubkey) :
    ManagerChange env key' s call (if some key = some key' then [(direction, amount)] else [])
      s' := by
  by_cases same : key = key'
  · subst same
    rw [if_pos rfl]
    refine .tracks sysvar tokenManager tracked direction amount s' clock stored flow ?_
    rw [written]
    exact Function.update_self ..
  · rw [if_neg fun equal => same (Option.some.inj equal)]
    refine .keeps s' ?_
    rw [written]
    exact Function.update_of_ne (Ne.symm same) ..

/-- The accounts of the managers are left as they are. -/
theorem managerChange_of_same {call : Call env}
    (same : s'.accounts.tokenManagers = s.accounts.tokenManagers) (key : Pubkey) :
    ManagerChange env key s call [] s' := .keeps s' (congrFun same key)

/-- A limit is set for the manager that the instruction names. -/
theorem managerChange_of_limits {key : Pubkey} {tokenManager : TokenManager}
    {flowLimit : Option UInt64} (call : Call env)
    (stored : s.accounts.tokenManagers key = some tokenManager)
    (written : s'.accounts = s.accounts.setTokenManager key
      { tokenManager with flowSlot := { tokenManager.flowSlot with flowLimit } }) (key' : Pubkey) :
    ManagerChange env key' s call [] s' := by
  by_cases same : key' = key
  · subst same
    refine .limits tokenManager flowLimit s' stored ?_
    rw [written]
    exact Function.update_self ..
  · refine .keeps s' ?_
    rw [written]
    exact Function.update_of_ne same ..

/-- Granting roles is no transfer. -/
theorem Granted.transfers {accounts accounts' : Accounts} {resource : Pubkey} {roles : UInt8}
    {l : List LogEvent} (h : Granted env accounts resource roles l accounts') :
    l.filterMap LogEvent.transfer? = [] := by
  cases h <;> rfl

/-- Registering a manager is no transfer. -/
theorem Registered.transfers {key : Pubkey} {tokenManager : TokenManager} {l : List LogEvent}
    (h : Registered env key tokenManager l s s') : l.filterMap LogEvent.transfer? = [] := by
  obtain ⟨accounts, granted, -⟩ := h.accounts
  exact granted.transfers

/-- A message without a transfer is none when it is sent. -/
theorem transfer?_sent {message : Encoding.HubMessage} (h : message.sentTransfer? = none) :
    (LogEvent.sent message).transfer? = none := by
  cases message with
  | sendToHub destinationChain inner =>
    cases inner with
    | interchainTransfer transfer => cases h
    | _ => rfl
  | _ => rfl

/-- **An instruction called from outside**: only `interchain_transfer` has a transfer. -/
theorem Effect.managerChange {sysvar : Sysvar} {i : ItsInstruction} {l : List LogEvent}
    (h : Effect env sysvar s i l s') (outside : ∀ key ∈ i.signers, env.SignsOutside key)
    (key : Pubkey) :
    ManagerChange env key s (.instruction sysvar i outside)
      (if (Call.instruction sysvar i outside).tokenManager? = some key then
        l.filterMap LogEvent.transfer? else []) s' := by
  cases h with
  | transfers a tokenId destinationChain destinationAddress amount gasValue reported
      callerProgramId callerPdaSeeds data tokenManager tracked mint instruction sourceAddress after
      s' outbound accounts =>
    exact managerChange_of_tracks rfl (tokenManagerPda_eq_ok.mp outbound.manager).1 outbound.flow
      accounts key
  | registers i k tokenManager granted s' existing registered =>
    rw [List.filterMap_cons_none rfl, registered.transfers, ite_self]
    exact registered.managerChange _ key
  | deploys a salt name symbol decimals initialSupply tokenManager granted t₁ t₂ t₃ s' native address
      deployed registered =>
    have minted : (initialSupplyEvents a initialSupply t₂ t₃).filterMap LogEvent.transfer? = [] := by
      unfold initialSupplyEvents
      split <;> rfl
    rw [List.filterMap_cons_none rfl, List.filterMap_append, List.filterMap_append,
      registered.transfers, minted]
    exact (ite_self _).symm ▸ registered.managerChange _ key
  | sends i message s' outbound noTransfer remote accounts =>
    rw [List.filterMap_cons_none (transfer?_sent noTransfer), List.filterMap_nil, ite_self]
    exact managerChange_of_same (by rw [accounts]) key
  | limits i k tokenManager flowLimit s' names stored accounts =>
    rw [List.filterMap_nil, ite_self]
    exact managerChange_of_limits _ stored accounts key
  | movesRootRole a t root origin destination s' names loaded moved =>
    exact managerChange_of_same (by rw [moved.accounts]; rfl) key
  | movesRole i role resource t tokenManager origin destination s' names stored moved =>
    rw [List.filterMap_nil, ite_self]
    exact managerChange_of_same (by rw [moved.accounts]; rfl) key
  | handsOver a tokenId mint tokenManager minter s' handed =>
    exact managerChange_of_same (by rw [handed.accounts]; rfl) key
  | _ =>
    -- what is left writes the root account or roles, or nothing at all
    exact managerChange_of_same (by simp [*, Accounts.setRoot, Accounts.setUserRoles]) key

/-- **What a message does to a token manager**: a transfer is tracked, a deployment or a link creates
one. -/
theorem Received.managerChange {sysvar : Sysvar} {outer : Execute} {message : Message}
    {sourceChain : String} {inner : Encoding.Message} {i : ItsInstruction} {l : List LogEvent}
    (h : Received env sysvar outer message sourceChain s inner i l s') (payload : Bytes)
    (outside : ∀ key ∈ (ItsInstruction.execute outer message payload).signers,
      env.SignsOutside key) (key : Pubkey) :
    ManagerChange env key s (.instruction sysvar (.execute outer message payload) outside)
      (if (Call.instruction sysvar (.execute outer message payload) outside).tokenManager?
          = some key then
        (LogEvent.accepted sourceChain inner :: l).filterMap LogEvent.transfer? else []) s' := by
  cases h with
  | transfer a transfer destination transferred tokenManager tracked mint instruction before after
      called s' manager parsed signers inbound calls accounts =>
    have stored := (tokenManagerPda_eq_ok.mp inbound.manager).1
    have transfers : (LogEvent.accepted sourceChain (.interchainTransfer transfer) ::
        .tokens instruction before after :: .emitted (.interchainTransferReceived
          ⟨message.commandId env.toCrates, transfer.tokenId, sourceChain, transfer.sourceAddress,
            destination, a.destinationAta.pubkey, transferred,
            if transfer.data.getD [] = [] then none
            else some (env.keccak (transfer.data.getD []))⟩) :: called).filterMap
          LogEvent.transfer? = [(.inward, transfer.amount)] := by
      cases calls <;> rfl
    rw [transfers]
    rw [manager] at stored accounts
    exact managerChange_of_tracks rfl stored inbound.flow accounts key
  | deploy a deploy bump rolesBump after s' inbound registered =>
    rw [List.filterMap_cons_none rfl, List.filterMap_cons_none rfl, List.filterMap_cons_none rfl,
      registered.transfers, ite_self]
    exact registered.managerChange _ key
  | link a link destinationTokenAddress ty bump rolesBump s' parsed inbound registered =>
    rw [List.filterMap_cons_none rfl, List.filterMap_cons_none rfl, registered.transfers, ite_self]
    exact registered.managerChange _ key

/-- **Every committed call** changes a token manager in one of these ways. -/
theorem StepCases.managerChange {call : Call env} (h : StepCases env s call s') (key : Pubkey) :
    ManagerChange env key s call (transfersOf key ⟨s, call, s'⟩) s' := by
  cases h with
  | external call outside chain run =>
    have none : transfersOf key ⟨s, .external call outside, s.withChain chain⟩ = [] :=
      if_neg (Option.some_ne_none key).symm
    rw [none]
    exact .keeps _ rfl
  | own sysvar i outside l s' notInner notExecute effect performs =>
    obtain ⟨entries, log, transfers⟩ := performs.transfers
    rw [transfersOf_eq log transfers]
    exact effect.managerChange outside key
  | execute sysvar a message payload outside sourceChain inner gateway i l s' accepts received
      performs =>
    obtain ⟨entries, log, transfers⟩ := performs.transfers
    have both : s'.log = s.log ++
        (⟨.accepted sourceChain inner, .execute a message payload, .external⟩ :: entries) := by
      rw [log]
      exact List.append_assoc ..
    have change := received.managerChange payload outside key
    rw [transfersOf_eq both rfl]
    rw [← List.singleton_append, List.filterMap_append, ← transfers, ← List.filterMap_append]
      at change
    exact change.congr rfl

end AxelarSolana.Its
