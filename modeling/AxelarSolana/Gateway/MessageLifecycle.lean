import AxelarSolana.Gateway.Instructions
import AxelarSolana.Library.Machine
import Mathlib.Data.Set.Function

/-! # The lifecycle of a message

What becomes of a command id over any run of the gateway:

* **`stage`** — whether the record of a command id is absent, approved or executed.
* **`Approval`**, **`Execution`** — what a committed `approve_message` or `validate_message` has
  checked about its message.
* **`process_message_cases`** — a call approves one message, executes one, or touches neither
  records nor message events.
* **`EventsMatchRecords`** — the message events of a command id are exactly those its record
  stands for; an invariant of the gateway by itself, used wherever the gateway is a component.
* **`message_lifecycle`** — order, uniqueness and authenticity of the events of a run. -/

namespace AxelarSolana.Gateway

open Machine

/-! ## Stages -/

/-- **The stage of a command id.** -/
inductive Stage
  | absent
  | approved
  | executed
  deriving DecidableEq, Repr

/-- The stage that a record stands for. -/
def stage : Option IncomingMessage → Stage
  | none => .absent
  | some incoming => if incoming.status.isApproved then .approved else .executed

/-- **The only moves**: from absent to approved and from approved to executed. -/
inductive Stage.Next : Stage → Stage → Prop
  | approve : Stage.Next .absent .approved
  | execute : Stage.Next .approved .executed

/-- The next stage is another one. -/
theorem Stage.Next.ne {x y : Stage} (h : Stage.Next x y) : x ≠ y := by
  cases h <;> decide

/-- Without a record a message is absent. -/
@[simp] theorem stage_none : stage none = .absent := rfl

/-- The stage of a record whose status is approved. -/
theorem stage_some_approved {incoming : IncomingMessage} (h : incoming.status.isApproved = true) :
    stage (some incoming) = .approved := if_pos h

/-- The stage of a record whose status is not approved. -/
theorem stage_some_executed {incoming : IncomingMessage}
    (h : incoming.status.isApproved = false) : stage (some incoming) = .executed := by
  simp [stage, h]

/-! ## Message events -/

/-- The command id of a message event. -/
def GatewayEvent.commandId? : GatewayEvent → Option Bytes32
  | .messageApproved e => some e.commandId
  | .messageExecuted e => some e.commandId
  | _ => none

/-- **The message events of a command id**, oldest first. -/
def messageEvents (c : Bytes32) (events : List GatewayEvent) : List GatewayEvent :=
  events.filter fun e => e.commandId? = some c

/-- An event of the message is added to its events. -/
theorem messageEvents_append_self {c : Bytes32} {events : List GatewayEvent} {e : GatewayEvent}
    (h : e.commandId? = some c) :
    messageEvents c (events ++ [e]) = messageEvents c events ++ [e] := by
  simp [messageEvents, h]

/-- An event of something else is not. -/
theorem messageEvents_append_other {c : Bytes32} {events : List GatewayEvent} {e : GatewayEvent}
    (h : e.commandId? ≠ some c) : messageEvents c (events ++ [e]) = messageEvents c events := by
  simp [messageEvents, h]

/-! ## What one call does to messages -/

/-- **An approval of `m`**: its leaf lies under a payload root whose `ApproveMessages` session is
valid at that moment. -/
structure Approval (env : Env) (m : Message) (s s' : GatewayState) : Prop where
  fresh : s.incoming (m.commandId env.toCrates) = none
  payload : ∃ (r S : Bytes32) (session : SignatureVerificationSessionData) (leaf : MessageLeaf)
      (proof : List Bytes32), leaf.message = m ∧
    s.sessions ⟨r, .approveMessages, S⟩ = some session ∧ session.isValid = true ∧
    env.merkleProofVerify proof r leaf.position.toNat (leaf.hash env.toCrates)
      leaf.setSize.toNat = true ∧
    ∃ config, s.config = some config ∧ leaf.domainSeparator = config.domainSeparator
  record : ∃ incoming, s'.incoming =
      Function.update s.incoming (m.commandId env.toCrates) (some incoming) ∧
    incoming.status.isApproved = true ∧ incoming.messageHash = m.hash env.toCrates ∧
    signingPdaBump env m = .ok incoming.signingPdaBump
  events : s'.events = s.events ++ [.messageApproved (messageApprovedEvent env m)]

/-- **An execution of `m`** for the program `destination`: the record was approved, carries the
hash of `m`, and `caller` signed, with the address created from the record's bump. -/
structure Execution (env : Env) (m : Message) (destination : Pubkey) (caller : AccountInfo)
    (s s' : GatewayState) : Prop where
  parsed : env.pubkeyFromStr m.destinationAddress = some destination
  signed : caller.isSigner = true
  record : ∃ incoming, s.incoming (m.commandId env.toCrates) = some incoming ∧
    incoming.status.isApproved = true ∧ incoming.messageHash = m.hash env.toCrates ∧
    ValidateMessageSigner.createPda env.toSyscalls (m.commandId env.toCrates)
      incoming.signingPdaBump destination = .ok caller.key ∧
    s'.incoming = Function.update s.incoming (m.commandId env.toCrates)
      (some { incoming with status := .executed })
  events : s'.events = s.events ++ [.messageExecuted (messageExecutedEvent env m destination)]

/-- **The three things a call can do to messages.** -/
inductive MessageStep (env : Env) (instruction : GatewayInstruction) (s s' : GatewayState) : Prop
  | silent (e : Option GatewayEvent) (other : ∀ x ∈ e, x.commandId? = none)
      (record : s'.incoming = s.incoming) (events : s'.events = s.events ++ e.toList)
  | approve (accounts : ApproveMessage) (m : MerklizedMessage) (r : Bytes32)
      (call : instruction = .approveMessage accounts m r)
      (approval : Approval env m.leaf.message s s')
  | execute (accounts : ValidateMessage) (m : Message) (destination : Pubkey)
      (call : instruction = .validateMessage accounts m)
      (execution : Execution env m destination accounts.caller s s')

/-- A successful `validate_message` executes its message. -/
theorem execution_of_process {env : Env} {sysvar : Sysvar} {accounts : ValidateMessage}
    {m : Message} {s s' : GatewayState}
    (h : process env ⟨sysvar, .validateMessage accounts m⟩ s = .ok s') :
    ∃ destination, Execution env m destination accounts.caller s s' := by
  obtain ⟨incoming, destination, hincoming, -, approved, hash, parsed, signed, created, rfl⟩ :=
    validateMessage_ok h
  exact ⟨destination, parsed, signed, ⟨incoming, hincoming, approved, hash, created, rfl⟩, rfl⟩

/-- **What a committed call does to messages**: it leaves every record and adds no event of a
message, or it approves a message, or it executes one. -/
theorem process_message_cases {env : Env} {call : GatewayCall} {s s' : GatewayState}
    (h : process env call s = .ok s') : MessageStep env call.instruction s s' := by
  obtain ⟨sysvar, instruction⟩ := call
  cases instruction with
  | callContract accounts chain address payload bump =>
    obtain ⟨-, rfl⟩ := callContract_ok h
    exact .silent (some _) (by simp [GatewayEvent.commandId?]) rfl rfl
  | initializeConfig accounts params =>
    obtain ⟨-, -, config, bump, -, -, -, -, -, -, rfl⟩ := initializeConfig_ok h
    exact .silent none (by simp) rfl (by simp [GatewayState.setTracker])
  | initializePayloadVerificationSession accounts r t =>
    obtain ⟨config, tracker, bump, key, -, -, -, -, -, -, -, rfl⟩ :=
      initializePayloadVerificationSession_ok h
    exact .silent none (by simp) rfl (by simp [GatewayState.setSession])
  | verifySignature accounts r info =>
    obtain ⟨config, d, tracker, -, -, -, -, -, -, -, -, -, -, rfl⟩ := verifySignature_ok h
    exact .silent none (by simp) rfl (by simp [GatewayState.setSession])
  | approveMessage accounts m r =>
    obtain ⟨config, session, bump, signingBump, hconfig, hsession, key, valid, fresh, domain,
      ⟨proof, -, verified⟩, hbump, rfl⟩ := approveMessage_ok h
    rw [key] at hsession
    refine .approve accounts m r rfl ⟨fresh, ?_, ?_, rfl⟩
    · exact ⟨r, _, session, m.leaf, proof, rfl, hsession, valid, verified, config, hconfig,
        domain⟩
    · exact ⟨_, rfl, rfl, rfl, hbump⟩
  | validateMessage accounts m =>
    obtain ⟨destination, execution⟩ := execution_of_process h
    exact .execute accounts m destination rfl execution
  | rotateSigners accounts newRoot =>
    obtain ⟨-, -, -, -, -, -, -, -, -, -, -, -, -, -, -, -, -, -, -, rfl⟩ := rotateSigners_ok h
    exact .silent (some _) (by simp [GatewayEvent.commandId?]) rfl rfl
  | transferOperatorship accounts =>
    obtain ⟨-, -, -, -, -, rfl⟩ := transferOperatorship_ok h
    exact .silent (some _) (by simp [GatewayEvent.commandId?]) rfl rfl

/-- The record of a command id moves by one of the two moves, or not at all. -/
theorem MessageStep.stage_next {env : Env} {instruction : GatewayInstruction}
    {s s' : GatewayState} (h : MessageStep env instruction s s') (c : Bytes32) :
    s'.incoming c = s.incoming c ∨
      Stage.Next (stage (s.incoming c)) (stage (s'.incoming c)) := by
  cases h with
  | silent e other record events => exact .inl (by rw [record])
  | approve accounts m r call approval =>
    obtain ⟨incoming, record, approved, -, -⟩ := approval.record
    by_cases same : c = m.leaf.message.commandId env.toCrates
    · subst same
      right
      rw [approval.fresh, record, Function.update_self, stage_some_approved approved]
      exact .approve
    · exact .inl (by rw [record, Function.update_of_ne same])
  | execute accounts m destination call execution =>
    obtain ⟨incoming, before, approved, -, -, record⟩ := execution.record
    by_cases same : c = m.commandId env.toCrates
    · subst same
      right
      rw [before, record, Function.update_self, stage_some_approved approved,
        stage_some_executed rfl]
      exact .execute
    · exact .inl (by rw [record, Function.update_of_ne same])

/-- The message events of a command id before and after a call. -/
theorem MessageStep.messageEvents_eq {env : Env} {instruction : GatewayInstruction}
    {s s' : GatewayState} (h : MessageStep env instruction s s') (c : Bytes32)
    (same : s'.incoming c = s.incoming c) :
    messageEvents c s'.events = messageEvents c s.events := by
  cases h with
  | silent e other record events =>
    rw [events]
    cases e with
    | none => rw [Option.toList_none, List.append_nil]
    | some e =>
      rw [Option.toList_some]
      exact messageEvents_append_other (by rw [other e rfl]; simp)
  | approve accounts m r call approval =>
    obtain ⟨incoming, record, -, -, -⟩ := approval.record
    rw [approval.events]
    refine messageEvents_append_other fun hc => ?_
    have hc : m.leaf.message.commandId env.toCrates = c := Option.some.inj hc
    rw [← hc, record, Function.update_self, approval.fresh] at same
    cases same
  | execute accounts m destination call execution =>
    obtain ⟨incoming, before, approved, -, -, record⟩ := execution.record
    rw [execution.events]
    refine messageEvents_append_other fun hc => ?_
    have hc : m.commandId env.toCrates = c := Option.some.inj hc
    rw [← hc, record, Function.update_self, before, Option.some.injEq] at same
    rw [← same] at approved
    cases approved

/-! ## Events and records -/

/-- **The message events of every command id are those its record stands for.** -/
def EventsMatchRecords (s : GatewayState) : Prop :=
  ∀ c, match stage (s.incoming c) with
    | .absent => messageEvents c s.events = []
    | .approved => ∃ e, messageEvents c s.events = [.messageApproved e]
    | .executed => ∃ e e', messageEvents c s.events = [.messageApproved e, .messageExecuted e']

/-- Before any call there are neither records nor events. -/
theorem eventsMatchRecords_initial : EventsMatchRecords GatewayState.initial := fun _ => rfl

/-- Every call of the gateway keeps events and records in step. -/
theorem EventsMatchRecords.process {env : Env} {call : GatewayCall} {s s' : GatewayState}
    (inv : EventsMatchRecords s) (h : process env call s = .ok s') : EventsMatchRecords s' := by
  intro c
  have step := process_message_cases h
  have before := inv c
  -- a record that stays has no new event; one that moves is that of the call's message
  rcases step.stage_next c with same | moved
  · rw [same, step.messageEvents_eq c same]
    exact before
  · cases step with
    | silent e other record events =>
      rw [record] at moved
      exact absurd rfl moved.ne
    | approve accounts m r call approval =>
      obtain ⟨incoming, record, approved, -, -⟩ := approval.record
      by_cases hc : c = m.leaf.message.commandId env.toCrates
      · subst hc
        rw [approval.fresh, stage_none] at before
        rw [record, Function.update_self, stage_some_approved approved, approval.events,
          messageEvents_append_self rfl, before]
        exact ⟨_, rfl⟩
      · rw [record, Function.update_of_ne hc] at moved
        exact absurd rfl moved.ne
    | execute accounts m destination call execution =>
      obtain ⟨incoming, hincoming, approved, -, -, record⟩ := execution.record
      by_cases hc : c = m.commandId env.toCrates
      · subst hc
        rw [hincoming, stage_some_approved approved] at before
        obtain ⟨e, before⟩ := before
        rw [record, Function.update_self, stage_some_executed rfl, execution.events,
          messageEvents_append_self rfl, before]
        exact ⟨e, _, rfl⟩
      · rw [record, Function.update_of_ne hc] at moved
        exact absurd rfl moved.ne

/-- Hence at most one approval event and one execution event for a command id. -/
theorem EventsMatchRecords.counts {s : GatewayState} (inv : EventsMatchRecords s) (c : Bytes32) :
    ((messageEvents c s.events).countP fun e => e matches .messageApproved _) ≤ 1 ∧
    ((messageEvents c s.events).countP fun e => e matches .messageExecuted _) ≤ 1 := by
  have shape := inv c
  split at shape
  · simp [shape]
  · obtain ⟨e, shape⟩ := shape
    simp [shape]
  · obtain ⟨e, e', shape⟩ := shape
    simp [shape]

/-- **What is approved was approved**: an approved record comes from the approval of a message with
its command id and its hash. -/
theorem approval_of_record {env : Env} {s : GatewayState}
    (reached : Steps (process env) GatewayState.initial s) {c : Bytes32}
    {incoming : IncomingMessage} (record : s.incoming c = some incoming)
    (status : incoming.status.isApproved = true) :
    ∃ m s₁ s₂, Steps (process env) GatewayState.initial s₁ ∧ Approval env m s₁ s₂ ∧
      Steps (process env) s₂ s ∧ m.commandId env.toCrates = c ∧
      m.hash env.toCrates = incoming.messageHash := by
  induction reached generalizing incoming with
  | refl => cases record
  | @tail b d reached last ih =>
    obtain ⟨call, processed⟩ := last
    have step := process_message_cases processed
    -- either the last call left the record, or it wrote it: an approval does, and an execution
    -- makes it executed
    by_cases same : d.incoming c = b.incoming c
    · rw [same] at record
      obtain ⟨m, s₁, s₂, before, approval, after, id, hash⟩ := ih record status
      exact ⟨m, s₁, s₂, before, approval, after.tail ⟨call, processed⟩, id, hash⟩
    · cases step with
      | silent e other kept events => exact absurd (by rw [kept]) same
      | approve accounts m r call' approval =>
        obtain ⟨incoming', kept, -, hash, -⟩ := approval.record
        by_cases hc : c = m.leaf.message.commandId env.toCrates
        · subst hc
          rw [kept, Function.update_self, Option.some.injEq] at record
          subst record
          exact ⟨m.leaf.message, b, d, reached, approval, .refl, rfl, hash.symm⟩
        · exact absurd (by rw [kept, Function.update_of_ne hc]) same
      | execute accounts m destination call' execution =>
        obtain ⟨incoming', before, -, -, -, kept⟩ := execution.record
        by_cases hc : c = m.commandId env.toCrates
        · subst hc
          rw [kept, Function.update_self, Option.some.injEq] at record
          subst record
          cases status
        · exact absurd (by rw [kept, Function.update_of_ne hc]) same

/-- **How often** a message of a command id was executed. -/
def executions (c : Bytes32) (s : GatewayState) : Nat :=
  (messageEvents c s.events).countP fun e => e matches .messageExecuted _

/-- A message is executed at most once. -/
theorem EventsMatchRecords.executions_le_one {s : GatewayState} (inv : EventsMatchRecords s)
    (c : Bytes32) : executions c s ≤ 1 := (inv.counts c).2

/-- Executions are never forgotten. -/
theorem executions_mono {env : Env} {call : GatewayCall} {s s' : GatewayState}
    (h : process env call s = .ok s') (c : Bytes32) : executions c s ≤ executions c s' := by
  have appended : ∃ new, s'.events = s.events ++ new := by
    cases process_message_cases h with
    | silent e other record events => exact ⟨_, events⟩
    | approve accounts m r call approval => exact ⟨_, approval.events⟩
    | execute accounts m destination call execution => exact ⟨_, execution.events⟩
  obtain ⟨new, events⟩ := appended
  unfold executions messageEvents
  rw [events, List.filter_append, List.countP_append]
  exact Nat.le_add_right _ _

/-- Executions are never taken back. -/
theorem executions_steps {env : Env} {s s' : GatewayState} (h : Steps (process env) s s')
    (c : Bytes32) : executions c s ≤ executions c s' :=
  h.keep (P := fun t => executions c s ≤ executions c t)
    (fun _ _ _ le processed => le.trans (executions_mono processed c)) le_rfl

/-- An execution counts once, for its own command id. -/
theorem Execution.executions_eq {env : Env} {m : Message} {destination : Pubkey}
    {caller : AccountInfo} {s s' : GatewayState} (h : Execution env m destination caller s s')
    (c : Bytes32) :
    executions c s' = executions c s + if m.commandId env.toCrates = c then 1 else 0 := by
  unfold executions
  rw [h.events]
  by_cases same : m.commandId env.toCrates = c
  · rw [messageEvents_append_self (by rw [← same]; rfl), List.countP_append, if_pos same]
    rfl
  · have other : (GatewayEvent.messageExecuted (messageExecutedEvent env m destination)).commandId?
        ≠ some c := fun hc => same (Option.some.inj hc)
    rw [messageEvents_append_other other, if_neg same, Nat.add_zero]

/-! ## The history of a command id -/

/-- The message an instruction carries. -/
def GatewayInstruction.message? : GatewayInstruction → Option Message
  | .approveMessage _ m _ => some m.leaf.message
  | .validateMessage _ m => some m
  | _ => none

/-- The messages that the committed calls of a run carry. -/
def messagesOf (tr : List (Transition GatewayState GatewayCall)) : Set Message :=
  { m | ∃ t ∈ tr, t.call.instruction.message? = some m }

/-- **The history of a command id**: nothing has happened, one message was approved, or that
message was approved and later executed for the program it names, by a call that this program's
address for the message signed. -/
inductive MessageHistory (env : Env) (c : Bytes32)
    (tr : List (Transition GatewayState GatewayCall)) (s : GatewayState) : Prop
  | absent (record : s.incoming c = none) (events : messageEvents c s.events = [])
  | approved (m : Message) (t : Transition GatewayState GatewayCall) (incoming : IncomingMessage)
      (id : m.commandId env.toCrates = c) (mem : t ∈ tr)
      (call : t.call.instruction.message? = some m) (approval : Approval env m t.pre t.post)
      (record : s.incoming c = some incoming) (status : incoming.status.isApproved = true)
      (hash : incoming.messageHash = m.hash env.toCrates)
      (bump : signingPdaBump env m = .ok incoming.signingPdaBump)
      (events : messageEvents c s.events = [.messageApproved (messageApprovedEvent env m)])
  | executed (m : Message) (t u : Transition GatewayState GatewayCall)
      (incoming : IncomingMessage) (destination : Pubkey) (accounts : ValidateMessage) (bump : UInt8)
      (id : m.commandId env.toCrates = c) (order : [t, u].Sublist tr)
      (approval : Approval env m t.pre t.post)
      (call : u.call.instruction = .validateMessage accounts m)
      (execution : Execution env m destination accounts.caller u.pre u.post)
      (caller_eq : ValidateMessageSigner.findPda env.toSyscalls c destination
        = .ok (accounts.caller.key, bump))
      (record : s.incoming c = some incoming) (status : incoming.status.isApproved = false)
      (events : messageEvents c s.events = [.messageApproved (messageApprovedEvent env m),
        .messageExecuted (messageExecutedEvent env m destination)])

/-- The address created from a stored bump is the canonical one. -/
theorem createPda_of_signingPdaBump {env : Env} {m : Message} {bump : UInt8}
    {destination key : Pubkey} (stored : signingPdaBump env m = .ok bump)
    (parsed : env.pubkeyFromStr m.destinationAddress = some destination)
    (created : ValidateMessageSigner.createPda env.toSyscalls (m.commandId env.toCrates) bump
      destination = .ok key) :
    ValidateMessageSigner.findPda env.toSyscalls (m.commandId env.toCrates) destination
      = .ok (key, bump) := by
  simp only [signingPdaBump, parsed, Fallible.bind_eq_ok, Fallible.pure_eq_ok] at stored
  obtain ⟨⟨key', bump'⟩, found, rfl⟩ := stored
  have canonical := env.createProgramAddress_of_find found
  simp only [ValidateMessageSigner.createPda, Fallible.okOr_eq_ok] at created
  rw [canonical] at created
  rw [found, Option.some.inj created]

/-- The history of a command id is kept by every call, as long as the messages of the run have
pairwise different hashes. -/
theorem MessageHistory.step {env : Env} {c : Bytes32}
    {tr : List (Transition GatewayState GatewayCall)} {s s' : GatewayState} {call : GatewayCall}
    (history : MessageHistory env c tr s) (h : process env call s = .ok s')
    (noCollision : Set.InjOn (Message.hash env.toCrates) (messagesOf (tr ++ [⟨s, call, s'⟩]))) :
    MessageHistory env c (tr ++ [⟨s, call, s'⟩]) s' := by
  have step := process_message_cases h
  rcases step.stage_next c with same | moved
  · -- the record is untouched: only the trace grows
    have events := step.messageEvents_eq c same
    cases history with
    | absent record nothing => exact .absent (same.trans record) (events.trans nothing)
    | approved m t incoming id mem call approval record status hash bump evs =>
      exact .approved m t incoming id (List.mem_append_left _ mem) call approval
        (same.trans record) status hash bump (events.trans evs)
    | executed m t u incoming destination accounts bump id order approval called execution caller_eq
        record status evs =>
      exact .executed m t u incoming destination accounts bump id
        (order.trans (List.sublist_append_left _ _)) approval called execution caller_eq
        (same.trans record) status (events.trans evs)
  · cases step with
    | silent e other record events =>
      rw [record] at moved
      exact absurd rfl moved.ne
    | approve accounts m r call' approval =>
      obtain ⟨incoming, record, status, hash, bump⟩ := approval.record
      by_cases hc : c = m.leaf.message.commandId env.toCrates
      · subst hc
        have nothing : messageEvents (m.leaf.message.commandId env.toCrates) s.events = [] := by
          cases history with
          | absent _ nothing => exact nothing
          | approved _ _ _ _ _ _ _ present _ _ _ _ =>
            rw [approval.fresh] at present
            cases present
          | executed _ _ _ _ _ _ _ _ _ _ _ _ _ present _ _ =>
            rw [approval.fresh] at present
            cases present
        refine .approved m.leaf.message ⟨s, call, s'⟩ incoming rfl (by simp)
          (by simp [call', GatewayInstruction.message?]) approval ?_ status hash bump ?_
        · rw [record, Function.update_self]
        · rw [approval.events, messageEvents_append_self rfl, nothing]
          rfl
      · rw [record, Function.update_of_ne hc] at moved
        exact absurd rfl moved.ne
    | execute accounts m destination call' execution =>
      obtain ⟨incoming, before, status, hash, created, record⟩ := execution.record
      by_cases hc : c = m.commandId env.toCrates
      · subst hc
        cases history with
        | absent none _ =>
          rw [none] at before
          cases before
        | approved m₀ t incoming₀ id mem call₀ approval record₀ status₀ hash₀ bump evs =>
          cases record₀.symm.trans before
          -- the stored hash identifies the message that was approved
          have same : m₀ = m := by
            refine noCollision ⟨t, List.mem_append_left _ mem, call₀⟩ ⟨⟨s, call, s'⟩, by simp, ?_⟩
              (hash₀.symm.trans hash)
            simp [call', GatewayInstruction.message?]
          subst same
          refine .executed m₀ t ⟨s, call, s'⟩ _ destination accounts _ rfl ?_ approval call'
            execution (createPda_of_signingPdaBump bump execution.parsed created)
            (by rw [record, Function.update_self]) rfl ?_
          · exact List.Sublist.append (List.singleton_sublist.mpr mem) (List.Sublist.refl _)
          · rw [execution.events, messageEvents_append_self rfl, evs]
            rfl
        | executed _ _ _ _ _ _ _ _ _ _ _ _ _ record₀ status₀ _ =>
          cases record₀.symm.trans before
          rw [status] at status₀
          cases status₀
      · rw [record, Function.update_of_ne hc] at moved
        exact absurd rfl moved.ne

/-- Every run keeps the history of every command id. -/
theorem messageHistory_run (env : Env) (calls : List GatewayCall) (c : Bytes32)
    (noCollision : Set.InjOn (Message.hash env.toCrates)
      (messagesOf (trace (process env) GatewayState.initial calls))) :
    MessageHistory env c (trace (process env) GatewayState.initial calls)
      (run (process env) GatewayState.initial calls) := by
  refine run_trace_induction
    (P := fun tr s => Set.InjOn (Message.hash env.toCrates) (messagesOf tr) →
      MessageHistory env c tr s) (fun _ => .absent rfl rfl) ?_ calls noCollision
  intro tr s call s' history h inj
  refine (history (inj.mono ?_)).step h inj
  rintro m ⟨t, mem, ht⟩
  exact ⟨t, List.mem_append_left _ mem, ht⟩

/-! ## The lifecycle -/

/-- Every execution event of a run belongs to the executed history of its command id. -/
theorem MessageHistory.of_executed_event {env : Env} {c : Bytes32}
    {tr : List (Transition GatewayState GatewayCall)} {s : GatewayState}
    (history : MessageHistory env c tr s) {e : MessageExecutedEvent} (id : e.commandId = c)
    {before after : List GatewayEvent} (split : s.events = before ++ .messageExecuted e :: after) :
    ∃ m t u destination accounts bump,
      m.commandId env.toCrates = c ∧ e = messageExecutedEvent env m destination ∧
      .messageApproved (messageApprovedEvent env m) ∈ before ∧ [t, u].Sublist tr ∧
      Approval env m t.pre t.post ∧
      u.call.instruction = .validateMessage accounts m ∧ accounts.caller.isSigner = true ∧
      ValidateMessageSigner.findPda env.toSyscalls c destination = .ok (accounts.caller.key, bump) ∧
      Execution env m destination accounts.caller u.pre u.post := by
  have here : messageEvents c s.events
      = messageEvents c before ++ .messageExecuted e :: messageEvents c after := by
    simp [messageEvents, split, GatewayEvent.commandId?, id]
  cases history with
  | absent _ nothing =>
    rw [nothing] at here
    simp at here
  | approved m _ _ _ _ _ _ _ _ _ _ evs =>
    rw [evs] at here
    cases hb : messageEvents c before with
    | nil => simp [hb] at here
    | cons x xs => simp [hb] at here
  | executed m t u incoming destination accounts bump hid order approval called execution caller_eq
      record status evs =>
    rw [evs] at here
    cases hb : messageEvents c before with
    | nil => simp [hb] at here
    | cons x xs =>
      rw [hb, List.cons_append, List.cons.injEq] at here
      obtain ⟨first, rest⟩ := here
      -- the history holds two events, so the approval is all that comes before
      have tail : xs = [] := by
        cases xs with
        | nil => rfl
        | cons y ys => simp at rest
      rw [tail, List.nil_append, List.cons.injEq, GatewayEvent.messageExecuted.injEq] at rest
      refine ⟨m, t, u, destination, accounts, bump, hid, rest.1.symm, ?_, order, approval, called,
        execution.signed, caller_eq, execution⟩
      have mem : x ∈ messageEvents c before := by
        rw [hb]
        exact List.mem_cons_self
      rw [first]
      exact List.mem_of_mem_filter mem

/-- **The message lifecycle.** For every run and every command id `c`, when the messages of the run
have pairwise different hashes:

1. the record of `c` only goes from absent to approved to executed, one move at a time;
2. at most one approval event and at most one execution event is emitted for `c`;
3. every execution event for `c` is the event of a message `m` whose approval event came before it
   with the same fields; `m` was approved by an earlier call under a payload root whose
   `ApproveMessages` session was valid, and executed by a later call of `validate_message` for `m`,
   which the validate-message address of the program `m.destinationAddress` for `c` signed;
4. no call ever executes a message whose destination is not an address. -/
theorem message_lifecycle (env : Env) (calls : List GatewayCall) (c : Bytes32)
    (noCollision : Set.InjOn (Message.hash env.toCrates)
      { m | ∃ call ∈ calls, call.instruction.message? = some m }) :
    let tr := trace (process env) GatewayState.initial calls
    let s := run (process env) GatewayState.initial calls
    (∀ t ∈ tr, t.post.incoming c = t.pre.incoming c ∨
      Stage.Next (stage (t.pre.incoming c)) (stage (t.post.incoming c))) ∧
    ((messageEvents c s.events).countP (fun e => e matches .messageApproved _) ≤ 1 ∧
      (messageEvents c s.events).countP (fun e => e matches .messageExecuted _) ≤ 1) ∧
    (∀ e before after, e.commandId = c → s.events = before ++ .messageExecuted e :: after →
      ∃ m t u destination accounts bump,
        m.commandId env.toCrates = c ∧ e = messageExecutedEvent env m destination ∧
        .messageApproved (messageApprovedEvent env m) ∈ before ∧ [t, u].Sublist tr ∧
        Approval env m t.pre t.post ∧
        u.call.instruction = .validateMessage accounts m ∧ accounts.caller.isSigner = true ∧
        ValidateMessageSigner.findPda env.toSyscalls c destination
          = .ok (accounts.caller.key, bump) ∧
        Execution env m destination accounts.caller u.pre u.post) ∧
    (∀ t ∈ tr, ∀ accounts m, t.call.instruction = .validateMessage accounts m →
      env.pubkeyFromStr m.destinationAddress ≠ none) := by
  intro tr s
  -- the messages of the committed calls are among those of all calls
  have distinct : Set.InjOn (Message.hash env.toCrates) (messagesOf tr) := by
    refine noCollision.mono ?_
    rintro m ⟨t, mem, ht⟩
    have called := (trace_calls_sublist GatewayState.initial calls).subset
      (List.mem_map_of_mem (f := Transition.call) mem)
    exact ⟨t.call, called, ht⟩
  refine ⟨?_, ?_, ?_, ?_⟩
  · intro t mem
    exact (process_message_cases (step_of_mem_trace mem)).stage_next c
  · have inv : EventsMatchRecords s :=
      run_invariant eventsMatchRecords_initial (fun _ _ _ inv h => inv.process h) calls
    exact inv.counts c
  · intro e before after id split
    exact (messageHistory_run env calls c distinct).of_executed_event id split
  · intro t mem accounts m call none
    have executed : validateMessage env accounts m t.pre = .ok t.post := by
      have h := step_of_mem_trace mem
      simpa only [process, call] using h
    obtain ⟨incoming, destination, -, -, -, -, parsed, -⟩ := validateMessage_ok executed
    rw [none] at parsed
    cases parsed

/-- A message of the sample environment, for the program at the address of 32 letters `a`. -/
def sampleMessage : Message where
  ccId := ⟨"axelar", "1"⟩
  sourceAddress := "hub"
  destinationChain := "solana"
  destinationAddress := "aaaaaaaaaaaaaaaaaaaaaaaaaaaaaaaa"
  payloadHash := padTo 32 [4]

/-- The only leaf of the sample payload. -/
def sampleMessageLeaf : MerklizedMessage where
  leaf := ⟨sampleMessage, 0, 1, padTo 32 [9]⟩
  proof := []

/-- The root of the sample payload. -/
def sampleRoot : Bytes32 := sampleMessageLeaf.leaf.hash sampleEnv.toCrates

/-- The validate-message address of the sample message's destination. -/
def sampleCaller : Pubkey :=
  padTo 32 ((ValidateMessageSigner.pdaSeeds (sampleMessage.commandId sampleEnv.toCrates)
    ++ [[255]]).flatten ++ (padTo 32 (Codec.utf8 sampleMessage.destinationAddress)).toList)

/-- The sample message is signed, approved and executed. -/
def sampleLifecycle : List GatewayCall :=
  sampleInitialize :: sampleSign sampleRoot ++
    [⟨sampleSysvar, .approveMessage
        ⟨sampleSession sampleRoot, sampleMessage.commandId sampleEnv.toCrates⟩ sampleMessageLeaf
        sampleRoot⟩,
      ⟨sampleSysvar, .validateMessage
        ⟨sampleMessage.commandId sampleEnv.toCrates, ⟨sampleCaller, true⟩⟩ sampleMessage⟩]

/-- The execution event of the sample run follows the approval event of the same message, and comes
from a call that the address of the message's destination signed. -/
theorem message_lifecycle_sample :
    ∃ m t u accounts bump, GatewayEvent.messageApproved (messageApprovedEvent sampleEnv m) ∈
      [GatewayEvent.messageApproved (messageApprovedEvent sampleEnv sampleMessage)] ∧
      [t, u].Sublist (trace (process sampleEnv) GatewayState.initial sampleLifecycle) ∧
      u.call.instruction = .validateMessage accounts m ∧ accounts.caller.isSigner = true ∧
      ValidateMessageSigner.findPda sampleEnv.toSyscalls
        (sampleMessage.commandId sampleEnv.toCrates)
        (padTo 32 (Codec.utf8 sampleMessage.destinationAddress))
        = .ok (accounts.caller.key, bump) := by
  have noCollision : Set.InjOn (Message.hash sampleEnv.toCrates)
      { m | ∃ call ∈ sampleLifecycle, call.instruction.message? = some m } := by
    have only : ∀ m, (∃ call ∈ sampleLifecycle, call.instruction.message? = some m) →
        m = sampleMessage := by
      rintro m ⟨call, mem, h⟩
      simp only [sampleLifecycle, sampleInitialize, sampleSign, List.cons_append, List.nil_append,
        List.mem_cons, List.not_mem_nil, or_false] at mem
      rcases mem with rfl | rfl | rfl | rfl | rfl <;>
        simp_all [GatewayInstruction.message?, sampleMessageLeaf]
    intro m hm m' hm' _
    rw [only m hm, only m' hm']
  obtain ⟨-, -, executed, -⟩ := message_lifecycle sampleEnv sampleLifecycle
    (sampleMessage.commandId sampleEnv.toCrates) noCollision
  obtain ⟨m, t, u, destination, accounts, bump, -, event, approved, order, -, called, signed, found,
    -⟩ := executed
    (messageExecutedEvent sampleEnv sampleMessage
      (padTo 32 (Codec.utf8 sampleMessage.destinationAddress)))
    [.messageApproved (messageApprovedEvent sampleEnv sampleMessage)] [] rfl (by rfl)
  have same := congrArg MessageExecutedEvent.destinationAddress event
  rw [← show _ = destination from same] at found
  exact ⟨m, t, u, accounts, bump, approved, order, called, signed, found⟩

end AxelarSolana.Gateway
