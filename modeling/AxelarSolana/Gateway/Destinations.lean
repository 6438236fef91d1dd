import AxelarSolana.Gateway.ContractCalls
import AxelarSolana.Gateway.Journal

/-! # Messages by destination

* **`executedFor`** — the messages that were executed for a program.
* **`process_executedFor`** — only `validate_message` adds to them, with the signature of the
  program's validate-message address.
* **`executedFor_nodup`** — no command id occurs twice among them.
* **`approvedMessages`** — the messages that were approved, read off the events;
  **`approvedFor`** — those for a program from a given source address.
* **`events_steps`** — events stay, so what was approved stays approved. -/

namespace AxelarSolana.Gateway

open Machine

/-- The execution for a program that an event reports. -/
def GatewayEvent.executedFor? (programId : Pubkey) : GatewayEvent → Option MessageExecutedEvent
  | .messageExecuted e => if e.destinationAddress = programId then some e else none
  | _ => none

/-- **The messages that were executed for a program**, oldest first. -/
def GatewayState.executedFor (programId : Pubkey) (g : GatewayState) : List MessageExecutedEvent :=
  g.events.filterMap (GatewayEvent.executedFor? programId)

variable {env : Env} {programId : Pubkey} {s s' : GatewayState}

/-- Other events say nothing about a program. -/
theorem executedFor_of_events {new : List GatewayEvent} (events : s'.events = s.events ++ new)
    (other : ∀ e ∈ new, e.executedFor? programId = none) :
    s'.executedFor programId = s.executedFor programId := by
  rw [GatewayState.executedFor, events, List.filterMap_append,
    List.filterMap_eq_nil_iff.mpr other, List.append_nil]
  rfl

/-- An execution is reported for the program that the message names. -/
theorem Execution.executedFor {m : Message} {caller : AccountInfo}
    (h : Execution env m programId caller s s') :
    s'.executedFor programId = s.executedFor programId ++ [messageExecutedEvent env m programId] := by
  have reported : GatewayEvent.executedFor? programId
      (.messageExecuted (messageExecutedEvent env m programId))
        = some (messageExecutedEvent env m programId) := if_pos rfl
  rw [GatewayState.executedFor, h.events, List.filterMap_append, List.filterMap_cons_some reported]
  rfl

/-- **Only an execution for a program adds to its messages.** -/
theorem process_executedFor {call : GatewayCall} (h : process env call s = .ok s')
    (programId : Pubkey) :
    s'.executedFor programId = s.executedFor programId ∨ ∃ accounts m,
      call.instruction = .validateMessage accounts m ∧
      Execution env m programId accounts.caller s s' := by
  cases process_message_cases h with
  | silent e other record events =>
    refine .inl (executedFor_of_events events fun x mem => ?_)
    have none := other x (Option.mem_toList.mp mem)
    cases x <;> first | rfl | cases none
  | approve accounts m r called approval =>
    refine .inl (executedFor_of_events approval.events fun x mem => ?_)
    rw [List.mem_singleton.mp mem]
    rfl
  | execute accounts m destination called execution =>
    by_cases same : destination = programId
    · subst same
      exact .inr ⟨accounts, m, called, execution⟩
    · refine .inl (executedFor_of_events execution.events fun x mem => ?_)
      rw [List.mem_singleton.mp mem]
      exact if_neg same

/-- **A message is executed at most once**: no command id occurs twice among the messages of a
program. -/
theorem executedFor_nodup (inv : EventsMatchRecords s) (programId : Pubkey) :
    ((s.executedFor programId).map MessageExecutedEvent.commandId).Nodup := by
  rw [List.nodup_iff_count_le_one]
  intro c
  -- what is executed for the program is executed
  refine le_trans ?_ (inv.executions_le_one c)
  rw [executions, messageEvents, List.countP_filter, GatewayState.executedFor, List.count_eq_countP,
    List.countP_map, List.countP_filterMap]
  refine List.countP_mono_left fun e _ counted => ?_
  obtain ⟨x, reported, id⟩ := (Option.any_eq_true _ _).mp counted
  cases e with
  | messageExecuted e =>
    rw [GatewayEvent.executedFor?] at reported
    split at reported
    case isTrue =>
      cases reported
      simpa [GatewayEvent.commandId?] using id
    case isFalse => cases reported
  | _ => cases reported

/-! ## Approvals -/

/-- The message whose approval an event reports. -/
def GatewayEvent.approved? : GatewayEvent → Option Message
  | .messageApproved e => some e.message
  | _ => none

/-- **The messages that were approved**, oldest first. -/
def GatewayState.approvedMessages (g : GatewayState) : List Message :=
  g.events.filterMap GatewayEvent.approved?

/-- **The messages that were approved for a program** from a source address. -/
def GatewayState.approvedFor (env : Env) (sourceAddress : String) (programId : Pubkey)
    (g : GatewayState) : List Message :=
  g.approvedMessages.filter fun m =>
    m.sourceAddress = sourceAddress ∧ env.pubkeyFromStr m.destinationAddress = some programId

/-- A call only adds events. -/
theorem events_process {call : GatewayCall} (h : process env call s = .ok s') :
    s.events <+: s'.events := by
  cases process_message_cases h with
  | silent e other record events =>
    rw [events]
    exact List.prefix_append _ _
  | approve accounts m r called approval =>
    rw [approval.events]
    exact List.prefix_append _ _
  | execute accounts m destination called execution =>
    rw [execution.events]
    exact List.prefix_append _ _

/-- **Events stay.** -/
theorem events_steps (h : Steps (process env) s s') : s.events <+: s'.events :=
  h.keep (P := fun t => s.events <+: t.events)
    (fun _ _ _ before processed => before.trans (events_process processed)) List.prefix_rfl

/-- What was approved stays approved. -/
theorem approvedMessages_steps (h : Steps (process env) s s') :
    s.approvedMessages ⊆ s'.approvedMessages := by
  obtain ⟨new, events⟩ := events_steps h
  rw [GatewayState.approvedMessages, GatewayState.approvedMessages, ← events,
    List.filterMap_append]
  exact List.subset_append_left _ _

/-- **A record comes from the approval of a message** that has its command id and its hash. -/
theorem approved_of_record (reached : Steps (process env) GatewayState.initial s) {c : Bytes32}
    {incoming : IncomingMessage} (record : s.incoming c = some incoming)
    (status : incoming.status.isApproved = true) :
    ∃ m ∈ s.approvedMessages, m.commandId env.toCrates = c ∧
      m.hash env.toCrates = incoming.messageHash := by
  obtain ⟨m, s₁, s₂, -, approval, after, id, hash⟩ := approval_of_record reached record status
  refine ⟨m, approvedMessages_steps after ?_, id, hash⟩
  rw [GatewayState.approvedMessages, approval.events, List.filterMap_append]
  apply List.mem_append_right
  rw [List.filterMap_cons_some (show GatewayEvent.approved? _ = some m from rfl)]
  exact List.mem_cons_self

end AxelarSolana.Gateway
