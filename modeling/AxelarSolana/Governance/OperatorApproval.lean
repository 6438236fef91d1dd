import AxelarSolana.Governance.History

/-! # Operator approvals

An operator may execute a proposal before its time when its operator marker stands. Cancelling the
proposal, or executing it by timelock, closes the proposal account but not the marker, so a marker
can outlive the proposal it was made for and serve a later one with the same hash.

* **`approvalStands`** — the last scheduling, approval or cancelled approval of a hash is an
  approval.
* **`ApprovalsHeld`** — every execution by the operator found a standing approval, and every marker
  belongs to the proposal that was pending when it was made.
* **`LogEntry.Unmarked`** — an entry that closes a proposal in one of the two ways above finds no
  marker.
* **`approvals_held`** — in a run all of whose entries are unmarked, approvals are held.
* **`approval_outlives_proposal`** — a run in which they are not. -/

namespace AxelarSolana.Governance

open Fallible Machine History

/-! ## Standing approvals -/

/-- The entry schedules a proposal, approves it, or cancels its approval. -/
def LogEntry.decides (hash : Bytes32) (e : LogEntry) : Bool :=
  match e.event with
  | .emitted (.proposalScheduled hash' _ _ _ _) => hash' = hash
  | .emitted (.operatorProposalApproved hash' _ _ _) => hash' = hash
  | .emitted (.operatorProposalCancelled hash' _ _ _) => hash' = hash
  | _ => false

/-- **An approval stands**: it came after the most recent scheduling and was not cancelled since. -/
def approvalStands (hash : Bytes32) (before : List LogEntry) : Bool :=
  (last? (LogEntry.decides hash) before).any fun e => e.event.approves

/-- The entry opens or closes the proposal or the operator marker of a hash. -/
def LogEntry.concerns (hash : Bytes32) (e : LogEntry) : Bool :=
  e.isOfProposal hash || e.isOfMarker hash

/-- **The marker of a hash belongs to its pending proposal**: nothing has happened to either since
the approval, which found the same proposal. -/
def MarkerHeld (s : World) (hash : Bytes32) : Prop :=
  ∃ proposal e, s.accounts.proposals hash = some proposal ∧
    last? (LogEntry.concerns hash) s.log = some e ∧ e.event.approves = true ∧
    e.accounts.proposals hash = some proposal

/-- **Operator approvals do not outlive the proposals they approve.** -/
structure ApprovalsHeld (s : World) : Prop where
  executions : ∀ before e after hash data, s.log = before ++ e :: after →
    e.event = .operatorBegan hash data → approvalStands hash before = true
  markers : ∀ hash, s.accounts.operatorProposals hash = true → MarkerHeld s hash

/-! ## Unmarked entries -/

/-- The proposal that an event closes without its marker. -/
def LogEvent.closesProposalOnly? : LogEvent → Option Bytes32
  | .emitted (.proposalCancelled hash _ _ _ _) => some hash
  | .emitted (.proposalExecuted hash _ _ _ _) => some hash
  | _ => none

/-- **A proposal is cancelled, or executed by timelock, only while it has no operator marker.** -/
def LogEntry.Unmarked (e : LogEntry) : Prop :=
  ∀ hash, e.event.closesProposalOnly? = some hash → e.accounts.operatorProposals hash = false

variable {env : Env} {ctx : Ctx} {instruction : GovernanceInstruction} {s s' : World}

/-- What an entry needs to keep approvals: it approves and executes only what is pending, and
schedules only what is not. -/
structure Orderly (s : World) (e : LogEvent) : Prop where
  approves : ∀ hash, e.marker? = some hash → e.approves = true →
    ∃ proposal, s.accounts.proposals hash = some proposal
  schedules : ∀ hash, e.proposal? = some hash → e.closesProposalOnly? = some hash ∨
    e.marker? = some hash ∨ s.accounts.proposals hash = none
  begins : ∀ hash data, e = .operatorBegan hash data → s.accounts.operatorProposals hash = true

/-- Nothing that is decided about a hash fails to concern it. -/
theorem LogEntry.concerns_of_decides {hash : Bytes32} {e : LogEntry}
    (h : e.decides hash = true) : e.concerns hash = true := by
  unfold decides at h
  split at h <;>
    simp_all [concerns, isOfProposal, isOfMarker, LogEvent.proposal?, LogEvent.marker?]

/-- An approval opens and closes no proposal. -/
theorem LogEvent.proposal?_of_approves {e : LogEvent} (h : e.approves = true) :
    e.proposal? = none := by
  unfold approves at h
  split at h
  case h_1 => rfl
  case h_2 => cases h

/-- An approval is a decision. -/
theorem LogEntry.decides_of_approves {hash : Bytes32} {e : LogEntry}
    (h : e.concerns hash = true) (approves : e.event.approves = true) :
    e.decides hash = true := by
  unfold LogEvent.approves at approves
  split at approves
  case h_1 event =>
    simpa [concerns, isOfProposal, isOfMarker, decides, event, LogEvent.proposal?,
      LogEvent.marker?] using h
  case h_2 => cases approves

/-- A held marker stands for an approval. -/
theorem MarkerHeld.approvalStands {hash : Bytes32} (h : MarkerHeld s hash) :
    approvalStands hash s.log = true := by
  obtain ⟨proposal, e, -, last, approves, -⟩ := h
  have decides := LogEntry.decides_of_approves (last?_satisfies last) approves
  rw [Governance.approvalStands,
    last?_of_imp (fun x => LogEntry.concerns_of_decides) last decides]
  exact approves

/-! ## The invariant -/

/-- Every execution by the operator so far found a standing approval. -/
def ExecutionsApproved (log : List LogEntry) : Prop :=
  Justified (fun before e => ∀ hash data, e.event = .operatorBegan hash data →
    approvalStands hash before = true) log

/-- **What every world satisfies whose entries are unmarked.** -/
structure ApprovalInvariant (s : World) : Prop where
  executions : ExecutionsApproved s.log
  markers : ∀ hash, s.accounts.operatorProposals hash = true → MarkerHeld s hash

/-- Before any call nothing is approved and nothing was executed by the operator. -/
theorem approvalInvariant_initial (l : Pubkey → Nat) : ApprovalInvariant (World.initial l) where
  executions := justified_nil
  markers _ h := by cases h

/-- The configuration, balances and the gateway do not matter. -/
theorem ApprovalInvariant.congr (inv : ApprovalInvariant s) (log : s'.log = s.log)
    (proposals : s'.accounts.proposals = s.accounts.proposals)
    (operatorProposals : s'.accounts.operatorProposals = s.accounts.operatorProposals) :
    ApprovalInvariant s' where
  executions := by
    rw [log]
    exact inv.executions
  markers hash marked := by
    rw [operatorProposals] at marked
    have held := inv.markers hash marked
    unfold MarkerHeld at held ⊢
    rw [log, proposals]
    exact held

/-- **One more entry**, orderly and unmarked, keeps approvals. -/
theorem ApprovalInvariant.logged {e : LogEvent} (inv : ApprovalInvariant s)
    (h : Logged ctx e s s') (orderly : Orderly s e) (unmarked : (s.entry ctx e).Unmarked) :
    ApprovalInvariant s' where
  executions := by
    rw [h.log]
    refine justified_append.mpr ⟨inv.executions, fun hash data began => ?_⟩
    exact (inv.markers hash (orderly.begins hash data began)).approvalStands
  markers hash marked := by
    have proposals := h.proposals hash
    have operatorProposals := h.operatorProposals hash
    rw [marked] at operatorProposals
    by_cases own : e.marker? = some hash
    · -- the entry is the approval itself
      rw [if_pos own] at operatorProposals
      obtain ⟨proposal, pending⟩ := orderly.approves hash own operatorProposals.symm
      have other : e.proposal? = none := LogEvent.proposal?_of_approves operatorProposals.symm
      rw [if_neg (by simp [other])] at proposals
      refine ⟨proposal, s.entry ctx e, proposals.trans pending, ?_, operatorProposals.symm,
        pending⟩
      rw [h.log]
      exact last?_append_pos (by simp [LogEntry.concerns, LogEntry.isOfMarker, own])
    · rw [if_neg own] at operatorProposals
      obtain ⟨proposal, x, pending, last, approves, found⟩ :=
        inv.markers hash operatorProposals.symm
      -- while the marker stands, the entry neither closes nor schedules the proposal
      have other : e.proposal? ≠ some hash := by
        intro same
        rcases orderly.schedules hash same with closes | opens | fresh
        · have marker : s.accounts.operatorProposals hash = false := unmarked hash closes
          rw [marker] at operatorProposals
          cases operatorProposals
        · exact own opens
        · rw [fresh] at pending
          cases pending
      rw [if_neg other] at proposals
      refine ⟨proposal, x, proposals.trans pending, ?_, approves, found⟩
      rw [h.log, last?_append_neg]
      · exact last
      · simp [LogEntry.concerns, LogEntry.isOfProposal, LogEntry.isOfMarker, other, own]

/-- Every instruction without calls is orderly. -/
theorem Effect.orderly {l : Pubkey → Nat} {e : LogEvent} (h : Effect env ctx s l instruction s')
    (logged : Logged ctx e s s') : Orderly s e := by
  cases h with
  | scheduleTimelockProposal hash eta nativeValue target callData config proposal stored signed
      fresh =>
    obtain rfl := logged.event_eq rfl
    refine ⟨by simp [LogEvent.marker?], fun hash' same => ?_, by simp⟩
    cases same
    exact .inr (.inr fresh)
  | cancelTimelockProposal hash nativeValue target callData config proposal =>
    obtain rfl := logged.event_eq rfl
    exact ⟨by simp [LogEvent.marker?], fun hash' same => .inl same, by simp⟩
  | approveOperatorProposal hash nativeValue target callData config proposal stored signed
      pending =>
    obtain rfl := logged.event_eq rfl
    refine ⟨fun hash' same _ => ?_, by simp [LogEvent.proposal?], by simp⟩
    cases same
    exact ⟨proposal, pending⟩
  | _ =>
    obtain rfl := logged.event_eq rfl
    exact ⟨by simp [LogEvent.marker?, LogEvent.approves], by simp [LogEvent.proposal?], by simp⟩

/-- So is the beginning of an execution. -/
theorem Begins.orderly {kind : ExecutionKind} {data : ExecuteProposalData} {hash : Bytes32}
    {config : GovernanceConfig} {key : Pubkey} {proposal : ExecutableProposal}
    (begins : Begins env kind ctx data hash config key proposal s) :
    Orderly s (kind.began hash data) := by
  cases kind with
  | timelock => exact ⟨by simp [ExecutionKind.began, LogEvent.marker?],
      by simp [ExecutionKind.began, LogEvent.proposal?], by simp [ExecutionKind.began]⟩
  | operator =>
    refine ⟨by simp [ExecutionKind.began, LogEvent.marker?],
      by simp [ExecutionKind.began, LogEvent.proposal?], fun hash' data' began => ?_⟩
    cases began
    exact begins.ready.2

/-- And its end. -/
theorem ExecutionKind.orderly_executed (kind : ExecutionKind) (hash : Bytes32)
    (data : ExecuteProposalData) (eta : UInt64) (s : World) :
    Orderly s (.emitted (kind.executed hash data eta)) := by
  cases kind with
  | timelock => exact ⟨by simp [executed, LogEvent.marker?], fun _ same => .inl same, by simp⟩
  | operator => exact ⟨by simp [executed, LogEvent.approves], fun _ same => .inr (.inl same),
      by simp⟩

/-- **An evaluation all of whose entries are unmarked keeps approvals.** -/
theorem ApprovalInvariant.evaluates (inv : ApprovalInvariant s)
    (h : Evaluates env ctx instruction s s') (unmarked : ∀ e ∈ s'.log, e.Unmarked) :
    ApprovalInvariant s' := by
  induction h with
  | effect l effect =>
    obtain ⟨e, logged⟩ := effect.logged
    refine inv.logged logged (effect.orderly logged) (unmarked _ ?_)
    rw [logged.log]
    exact List.mem_append_right _ List.mem_cons_self
  | execute accepted inner ih => exact (ih (inv.congr rfl rfl rfl) unmarked).congr rfl rfl rfl
  | @proposal kind ctx data hash config key proposal s s₁ instruction l l' begins _ _ _ inner ih =>
    have first := kind.beginning_logged ctx hash data s
    have last := kind.ending_logged ctx hash data config proposal.eta s₁
    -- the entry for the beginning, what the call does, and the entry for the execution
    have earlier : ∀ e ∈ s₁.log, e.Unmarked := fun e mem => unmarked e (by
      rw [World.withLamports_log, last.log]
      exact List.mem_append_left _ mem)
    have before := inv.logged first begins.orderly (earlier _
      (inner.log_prefix.subset (List.mem_append_right _ List.mem_cons_self)))
    have call := ih (before.congr rfl rfl rfl) earlier
    refine (call.logged last (kind.orderly_executed hash data proposal.eta s₁)
      (unmarked _ ?_)).congr rfl rfl rfl
    rw [World.withLamports_log, last.log]
    exact List.mem_append_right _ List.mem_cons_self
  | @external kind ctx data hash config key proposal s gateway l begins _ calls =>
    have first := kind.beginning_logged ctx hash data s
    have last := kind.ending_logged ctx hash data config proposal.eta
      { kind.beginning ctx hash data s with gateway }
    have before := inv.logged first begins.orderly (unmarked _ (by
      rw [World.withLamports_log, last.log]
      exact List.mem_append_left _ (List.mem_append_right _ List.mem_cons_self)))
    have call : ApprovalInvariant { kind.beginning ctx hash data s with gateway } :=
      before.congr rfl rfl rfl
    refine (call.logged last (kind.orderly_executed hash data proposal.eta _)
      (unmarked _ ?_)).congr rfl rfl rfl
    rw [World.withLamports_log, last.log]
    exact List.mem_append_right _ List.mem_cons_self

/-! ## Runs -/

/-- **When operator approvals are held.** In every run in which no proposal is cancelled or executed
by timelock while its operator marker exists, every execution by the operator finds an approval that
came after the most recent scheduling and was not cancelled since, and every marker belongs to the
pending proposal it was made for. -/
theorem approvals_held (env : Env) (l : Pubkey → Nat) (calls : List Call)
    (unmarked : ∀ e ∈ (run (step env) (World.initial l) calls).log, e.Unmarked) :
    ApprovalsHeld (run (step env) (World.initial l) calls) := by
  have inv : (∀ e ∈ (run (step env) (World.initial l) calls).log, e.Unmarked) →
      ApprovalInvariant (run (step env) (World.initial l) calls) := by
    refine run_invariant (P := fun s => (∀ e ∈ s.log, e.Unmarked) → ApprovalInvariant s)
      (fun _ => approvalInvariant_initial l) (fun s call s' inv h unmarked => ?_) calls
    cases step_evaluates h with
    | governance sysvar accounts instruction s' unsigned evaluates =>
      have earlier : ∀ e ∈ s.log, e.Unmarked :=
        fun e mem => unmarked e (evaluates.log_prefix.subset mem)
      exact (inv earlier).evaluates evaluates unmarked
    | gateway call gateway processed => exact (inv unmarked).congr rfl rfl rfl
    | balances l => exact (inv unmarked).congr rfl rfl rfl
  refine ⟨fun before e after hash data split => ?_, (inv unmarked).markers⟩
  exact (inv unmarked).executions before e after split hash data

/-- The sample proposal is scheduled, approved and executed by the operator. -/
def sampleApproved : List Call :=
  sampleStart ++ sampleCommand 200 "1" 0 0 ++ sampleCommand 300 "2" 2 0 ++
    [sampleExecuteOperator 400]

/-- In the sample run the approval is held. -/
theorem approvals_held_sample :
    ApprovalsHeld (run (step sampleEnv) (World.initial fun _ => 0) sampleApproved) := by
  refine approvals_held sampleEnv (fun _ => 0) sampleApproved ?_
  have none : ((run (step sampleEnv) (World.initial fun _ => 0) sampleApproved).log.all fun e =>
      e.event.closesProposalOnly? = none) = true := by
    decide +kernel
  intro e mem hash closes
  have := List.all_eq_true.mp none e mem
  rw [closes] at this
  cases this

/-- The sample proposal is scheduled, approved, cancelled and scheduled again; then the operator
executes it. -/
def sampleRescheduled : List Call :=
  sampleStart ++ sampleCommand 200 "1" 0 0 ++ sampleCommand 300 "2" 2 0 ++
    sampleCommand 400 "3" 1 3800 ++ sampleCommand 500 "4" 0 0 ++ [sampleExecuteOperator 600]

/-- **An approval that outlives its proposal.** The operator executes the second proposal, before its
time, on the approval of the first, which was cancelled. -/
theorem approval_outlives_proposal :
    ¬ ApprovalsHeld (run (step sampleEnv) (World.initial fun _ => 0) sampleRescheduled) := by
  intro held
  have began : ((run (step sampleEnv) (World.initial fun _ => 0) sampleRescheduled).log.drop
      5).head?.map LogEntry.event = some (.operatorBegan sampleHash sampleProposal) := by
    decide +kernel
  have stands : approvalStands sampleHash ((run (step sampleEnv) (World.initial fun _ => 0)
      sampleRescheduled).log.take 5) = false := by
    decide +kernel
  obtain ⟨e, first, event⟩ := Option.map_eq_some_iff.mp began
  obtain ⟨after, split⟩ := List.head?_eq_some_iff.mp first
  have := held.executions _ e after sampleHash sampleProposal (by
    rw [← split, List.take_append_drop]) event
  rw [stands] at this
  cases this

end AxelarSolana.Governance
