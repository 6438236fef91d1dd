import AxelarSolana.Governance.History

/-! # The timelock

When a proposal can be executed:

* **`Schedules`** — an entry that opens a proposal no earlier than the delay configured then allows.
* **`OpenedBy`** — the last thing that happened to a proposal account is such an entry.
* **`Timely`** — what each entry that executes or closes a proposal finds before it.
* **`NoSelfReference`** — no proposal that is executed names its own hash: what one expects of a hash
  function whose digests cannot be placed inside their own preimages.
* **`timelock_safety`** — over any run: executions wait for the delay, each scheduling is consumed at
  most once, and the delay stays within its range. -/

namespace AxelarSolana.Governance

open Fallible Machine History

/-! ## The clock -/

/-- **The final time of a proposal** lies after the clock by at least the configured delay. -/
theorem atLeastDefaultEtaDelay_le {sysvar : Sysvar} {eta finalEta : UInt64} {delay : UInt32}
    (clock : 0 ≤ sysvar.unixTimestamp)
    (h : atLeastDefaultEtaDelay sysvar eta delay = .ok finalEta) :
    sysvar.unixTimestamp.toInt + delay.toNat ≤ finalEta.toNat := by
  simp only [atLeastDefaultEtaDelay, bind_eq_ok, require_eq_ok, pure_eq_ok] at h
  obtain ⟨_, fits, rfl⟩ := h
  have now := toNat_toUInt64_of_nonneg clock
  have minimum : (sysvar.unixTimestamp.toUInt64 + delay.toUInt64).toNat
      = sysvar.unixTimestamp.toUInt64.toNat + delay.toNat := by
    rw [UInt64.toNat_add, UInt32.toNat_toUInt64, Nat.mod_eq_of_lt fits]
  split
  · rw [minimum]
    omega
  · next late =>
    rw [UInt64.lt_iff_toNat_lt, minimum] at late
    omega

/-! ## Open proposals -/

/-- **A scheduling**: the proposal opens at a time no earlier than the delay configured at that
moment after the clock, and the delay is in its range. -/
structure Schedules (e : LogEntry) (hash : Bytes32) (eta : UInt64) : Prop where
  event : ∃ target callData nativeValue,
    e.event = .emitted (.proposalScheduled hash target callData nativeValue eta)
  delayed : ∃ config, e.accounts.config = some config ∧
    GovernanceConfig.ValidDelay config.minimumProposalEtaDelay ∧
    e.time.toInt + config.minimumProposalEtaDelay.toNat ≤ eta.toNat

/-- **The proposal was scheduled, and neither cancelled nor executed since.** -/
def OpenedBy (before : List LogEntry) (hash : Bytes32) (eta : UInt64) : Prop :=
  ∃ earlier e since, before = earlier ++ e :: since ∧ Schedules e hash eta ∧
    ∀ x ∈ since, x.event.proposal? ≠ some hash

/-- The proposal that an event cancels or executes. -/
def LogEvent.consumes? : LogEvent → Option Bytes32
  | .emitted (.proposalCancelled hash _ _ _ _) => some hash
  | .emitted (.proposalExecuted hash _ _ _ _) => some hash
  | .emitted (.operatorProposalExecuted hash _ _ _) => some hash
  | _ => none

/-! ## Proposals that name themselves -/

/-- **An instruction names a proposal**: it cancels it, carries a message about it, executes it, or
executes a proposal whose call does. -/
inductive Names (env : Env) : GovernanceInstruction → Bytes32 → Prop
  | cancel (hash : Bytes32) (eta : UInt64) (nativeValue target callData : Bytes) :
      Names env (.cancelTimelockProposal hash eta nativeValue target callData) hash
  | message (message : Message) (payload : Bytes) {cmdPayload : GovernanceCommandPayload}
      {target : Pubkey} {callData : ExecuteProposalCallData} {hash : Bytes32}
      (decoded : calculateGmpContext env payload = .ok (cmdPayload, target, callData, hash)) :
      Names env (.execute message payload) hash
  | execution (kind : ExecutionKind) (data : ExecuteProposalData) {hash : Bytes32}
      (hashed : ExecutableProposal.hashFromData env.toSyscalls data = .ok hash) :
      Names env (kind.instruction data) hash
  | call (kind : ExecutionKind) (data : ExecuteProposalData)
      {instruction : GovernanceInstruction} {hash : Bytes32}
      (own : data.targetAddress = env.governanceId)
      (decoded : env.decodeInstruction data.callData.callData = some instruction)
      (names : Names env instruction hash) : Names env (kind.instruction data) hash

/-- **No executed proposal names its own hash.** -/
def NoSelfReference (env : Env) (log : List LogEntry) : Prop :=
  ∀ b ∈ log, ∀ (kind : ExecutionKind) hash data, b.event = kind.began hash data →
    data.targetAddress = env.governanceId → ∀ instruction,
      env.decodeInstruction data.callData.callData = some instruction →
      ¬ Names env instruction hash

/-- `transfer_operatorship` is not about a proposal. -/
theorem not_names_transferOperatorship {env : Env} {newOperator : Pubkey} {hash : Bytes32} :
    ¬ Names env (.transferOperatorship newOperator) hash := by
  intro names
  generalize same : GovernanceInstruction.transferOperatorship newOperator = instruction at names
  cases names with
  | execution kind => cases kind <;> cases same
  | call kind => cases kind <;> cases same
  | _ => cases same

/-- Where data decode to nothing else, no proposal names itself. -/
theorem noSelfReference_of_transfers {env : Env} (log : List LogEntry)
    (transfers : ∀ data instruction, env.decodeInstruction data = some instruction →
      ∃ newOperator, instruction = .transferOperatorship newOperator) :
    NoSelfReference env log := by
  intro b mem kind hash data began own instruction decoded
  obtain ⟨newOperator, rfl⟩ := transfers _ instruction decoded
  exact not_names_transferOperatorship

variable {env : Env} {ctx : Ctx} {instruction : GovernanceInstruction} {s s' : World}

/-- **An instruction keeps a pending proposal that it does not name.** -/
theorem Evaluates.keeps_proposal (h : Evaluates env ctx instruction s s') {hash : Bytes32}
    {p : ExecutableProposal} (pending : s.accounts.proposals hash = some p)
    (unnamed : ¬ Names env instruction hash) : s'.accounts.proposals hash = some p := by
  induction h with
  | effect l effect =>
    cases effect with
    | scheduleTimelockProposal hash' eta nativeValue target callData config proposal stored signed
        fresh =>
      have other : hash ≠ hash' := by
        rintro rfl
        rw [fresh] at pending
        cases pending
      simpa [World.setProposal, other] using pending
    | cancelTimelockProposal hash' nativeValue target callData config proposal =>
      have other : hash ≠ hash' := by
        rintro rfl
        exact unnamed (.cancel hash _ _ _ _)
      simpa [World.setProposal, other] using pending
    | _ => exact pending
  | execute accepted inner ih =>
    obtain ⟨cmdPayload, target, callData, decoded, dispatched⟩ := accepted.decoded
    obtain ⟨e, command, logged⟩ := dispatched.effect inner
    -- the one entry is about the payload's own hash
    have after := logged.proposals hash
    rw [if_neg ?_] at after
    · exact after.trans pending
    · intro same
      rw [LogEvent.proposal?_of_command? command same] at unnamed
      exact unnamed (.message _ _ decoded)
  | @proposal kind ctx data hash' config key proposal s s₁ instruction l l' begins _ own decoded
      inner ih =>
    have other : hash ≠ hash' := by
      rintro rfl
      exact unnamed (.execution kind data begins.hash_eq)
    have before : ((kind.beginning ctx hash' data s).withLamports l).accounts.proposals hash
        = some p := pending
    have call := ih before fun names => unnamed (.call kind data own decoded names)
    cases kind <;> simpa [ExecutionKind.ending, ExecutionKind.close, World.setProposal,
      World.setOperatorProposal, World.setConfig, other] using call
  | @external kind ctx data hash' config key proposal s gateway l begins _ calls =>
    have other : hash ≠ hash' := by
      rintro rfl
      exact unnamed (.execution kind data begins.hash_eq)
    cases kind <;> simpa [ExecutionKind.ending, ExecutionKind.close, World.setProposal,
      World.setOperatorProposal, World.setConfig, ExecutionKind.beginning, other] using pending

/-! ## Entries in time -/

/-- **What an entry finds before it.** Every scheduling obeys the delay. An execution by timelock
began when its proposal had been scheduled, was due, and was neither cancelled nor executed since;
and, as long as no proposal names itself, so it still is when a proposal is cancelled or its
execution ends. -/
structure Timely (env : Env) (before : List LogEntry) (e : LogEntry) : Prop where
  scheduled : ∀ hash target callData nativeValue eta,
    e.event = .emitted (.proposalScheduled hash target callData nativeValue eta) →
    Schedules e hash eta
  began : ∀ hash data, e.event = .timelockBegan hash data →
    ∃ eta, OpenedBy before hash eta ∧ eta.toNat ≤ e.time.toInt
  executed : ∀ hash target callData nativeValue eta,
    e.event = .emitted (.proposalExecuted hash target callData nativeValue eta) →
    eta.toNat ≤ e.time.toInt ∧ ∃ earlier b since data, before = earlier ++ b :: since ∧
      b.event = .timelockBegan hash data ∧ b.time = e.time ∧ OpenedBy earlier hash eta
  consumed : NoSelfReference env before → ∀ hash, e.event.consumes? = some hash →
    ∃ eta, OpenedBy before hash eta ∧ ∀ target callData nativeValue eta',
      e.event = .emitted (.proposalExecuted hash target callData nativeValue eta') → eta' = eta

/-- An entry that neither opens nor closes a proposal nor begins an execution by timelock. -/
theorem timely_of_other {before : List LogEntry} {e : LogEntry} (h : e.event.proposal? = none)
    (notBegan : ∀ hash data, e.event ≠ .timelockBegan hash data) : Timely env before e where
  scheduled _ _ _ _ _ h' := by
    rw [h'] at h
    cases h
  began hash data h' := absurd h' (notBegan hash data)
  executed _ _ _ _ _ h' := by
    rw [h'] at h
    cases h
  consumed _ hash h' := by
    unfold LogEvent.consumes? at h'
    split at h' <;> simp_all [LogEvent.proposal?]

/-- **What every reachable world satisfies.** -/
structure TimelockInvariant (env : Env) (s : World) : Prop where
  accounts : AccountsMatchLog s
  timely : Justified (Timely env) s.log
  delay : ∀ config, s.accounts.config = some config →
    GovernanceConfig.ValidDelay config.minimumProposalEtaDelay

/-- Before any call nothing is scheduled and nothing was executed. -/
theorem timelockInvariant_initial (env : Env) (l : Pubkey → Nat) :
    TimelockInvariant env (World.initial l) where
  accounts := accountsMatchLog_initial l
  timely := justified_nil
  delay _ h := by cases h

/-- **A pending proposal was scheduled, and nothing has happened to it since.** -/
theorem TimelockInvariant.opened (inv : TimelockInvariant env s) {hash : Bytes32}
    {p : ExecutableProposal} (pending : s.accounts.proposals hash = some p) :
    OpenedBy s.log hash p.eta := by
  obtain ⟨e, last, eta⟩ := inv.accounts.opened pending
  obtain ⟨earlier, since, split, concerns, untouched⟩ := split_of_last? last
  have concerns : e.event.proposal? = some hash := by simpa [LogEntry.isOfProposal] using concerns
  refine ⟨earlier, e, since, split, ?_, fun x mem => ?_⟩
  · -- an event with a time is a scheduling, and that of this hash
    unfold LogEvent.eta? at eta
    split at eta
    case h_1 hash' target callData nativeValue eta' event =>
      rw [event] at concerns
      cases concerns
      cases eta
      exact (inv.timely earlier e since split).scheduled _ _ _ _ _ event
    case h_2 => cases eta
  · simpa [LogEntry.isOfProposal] using untouched x mem

/-- The invariant does not depend on balances or on the gateway. -/
theorem TimelockInvariant.congr (inv : TimelockInvariant env s) (log : s'.log = s.log)
    (accounts : s'.accounts = s.accounts) : TimelockInvariant env s' where
  accounts := inv.accounts.congr log (by rw [accounts]) (by rw [accounts])
  timely := by
    rw [log]
    exact inv.timely
  delay := by
    rw [accounts]
    exact inv.delay

/-- One more entry that is timely. -/
theorem TimelockInvariant.logged {e : LogEvent} (inv : TimelockInvariant env s)
    (h : Logged ctx e s s') (timely : Timely env s.log (s.entry ctx e))
    (delay : ∀ config, s'.accounts.config = some config →
      GovernanceConfig.ValidDelay config.minimumProposalEtaDelay) :
    TimelockInvariant env s' where
  accounts := inv.accounts.logged h
  timely := by
    rw [h.log]
    exact justified_append.mpr ⟨inv.timely, timely⟩
  delay := delay

/-- Every instruction without calls keeps it. -/
theorem TimelockInvariant.effect {l : Pubkey → Nat} (inv : TimelockInvariant env s)
    (clock : 0 ≤ ctx.sysvar.unixTimestamp) (h : Effect env ctx s l instruction s') :
    TimelockInvariant env s' := by
  obtain ⟨e, logged⟩ := h.logged
  cases h with
  | initializeConfig params config authority key fresh authorised signed address contents valid =>
    obtain rfl := logged.event_eq rfl
    refine inv.logged logged (timely_of_other rfl (by simp)) fun c stored => ?_
    cases stored
    exact valid
  | updateConfig params config stored signed valid =>
    obtain rfl := logged.event_eq rfl
    refine inv.logged logged (timely_of_other rfl (by simp)) fun c stored' => ?_
    cases stored'
    exact valid
  | transferOperatorship newOperator config stored =>
    obtain rfl := logged.event_eq rfl
    refine inv.logged logged (timely_of_other rfl (by simp)) fun c stored' => ?_
    cases stored'
    exact inv.delay config stored
  | withdrawTokens | approveOperatorProposal | cancelOperatorProposal =>
    obtain rfl := logged.event_eq rfl
    exact inv.logged logged (timely_of_other rfl (by simp)) inv.delay
  | scheduleTimelockProposal hash eta nativeValue target callData config proposal stored signed
      fresh delayed =>
    obtain rfl := logged.event_eq rfl
    -- the schedule was checked against the delay that is configured now
    refine inv.logged logged ⟨?_, by simp, by simp, by simp [LogEvent.consumes?]⟩ inv.delay
    intro hash' target' callData' nativeValue' eta' event
    cases event
    exact ⟨⟨target, callData, nativeValue, rfl⟩, config, stored, inv.delay config stored,
      atLeastDefaultEtaDelay_le clock delayed⟩
  | cancelTimelockProposal hash nativeValue target callData config proposal stored signed
      pending =>
    obtain rfl := logged.event_eq rfl
    refine inv.logged logged ⟨by simp, by simp, by simp, ?_⟩ inv.delay
    intro _ hash' consumes
    cases consumes
    exact ⟨proposal.eta, inv.opened pending, by simp⟩

/-! ## Executions -/

section

variable {kind : ExecutionKind} {data : ExecuteProposalData} {hash : Bytes32}
  {config : GovernanceConfig} {key : Pubkey} {proposal : ExecutableProposal} {s₁ : World}

/-- An execution by timelock is due. -/
theorem Begins.due (begins : Begins env .timelock ctx data hash config key proposal s) :
    proposal.eta.toNat ≤ ctx.sysvar.unixTimestamp.toInt := by
  obtain ⟨timestamp, time, due⟩ := begins.ready
  rw [← tryIntoU64_eq_some time]
  exact Int.ofNat_le.mpr (UInt64.le_iff_toNat_le.mp due)

/-- An execution begins in time. -/
theorem Begins.timely (begins : Begins env kind ctx data hash config key proposal s)
    (inv : TimelockInvariant env s) :
    Timely env s.log (s.entry ctx (kind.began hash data)) := by
  cases kind with
  | operator => exact timely_of_other rfl (by simp [ExecutionKind.began])
  | timelock =>
    refine ⟨by simp [ExecutionKind.began], ?_, by simp [ExecutionKind.began],
      by simp [ExecutionKind.began, LogEvent.consumes?]⟩
    intro hash' data' event
    cases event
    exact ⟨proposal.eta, inv.opened begins.pending, begins.due⟩

/-- An execution ends in time: what it has found still holds, as long as its call has not consumed
the proposal itself. -/
theorem Begins.timely_ended (begins : Begins env kind ctx data hash config key proposal s)
    (inv : TimelockInvariant env s) (inv₁ : TimelockInvariant env s₁) {entries : List LogEntry}
    (log : s₁.log = (kind.beginning ctx hash data s).log ++ entries)
    (kept : NoSelfReference env s₁.log → s₁.accounts.proposals hash = some proposal) :
    Timely env s₁.log (s₁.entry ctx (.emitted (kind.executed hash data proposal.eta))) := by
  cases kind with
  | operator =>
    refine ⟨by simp [ExecutionKind.executed], by simp, by simp [ExecutionKind.executed], ?_⟩
    intro noSelfReference hash' consumes
    cases consumes
    exact ⟨proposal.eta, inv₁.opened (kept noSelfReference), by simp [ExecutionKind.executed]⟩
  | timelock =>
    refine ⟨by simp [ExecutionKind.executed], by simp, ?_, ?_⟩
    · intro hash' target callData nativeValue eta event
      cases event
      refine ⟨begins.due, s.log, s.entry ctx (.timelockBegan hash data), entries, data, ?_, rfl,
        rfl, inv.opened begins.pending⟩
      simpa [ExecutionKind.beginning, ExecutionKind.began] using log
    · intro noSelfReference hash' consumes
      cases consumes
      refine ⟨proposal.eta, inv₁.opened (kept noSelfReference), ?_⟩
      intro target callData nativeValue eta' event
      cases event
      rfl

/-- Writing back the configuration that was read keeps its delay in range. -/
theorem Begins.delay_ended (begins : Begins env kind ctx data hash config key proposal s)
    (inv : TimelockInvariant env s) {c : GovernanceConfig}
    (h : (kind.ending ctx hash data config proposal.eta s₁).accounts.config = some c) :
    GovernanceConfig.ValidDelay c.minimumProposalEtaDelay := by
  have same : some config = some c := by
    cases kind <;> exact h
  cases same
  exact inv.delay config begins.stored

end

/-- **Every evaluation keeps the invariant.** -/
theorem TimelockInvariant.evaluates (inv : TimelockInvariant env s)
    (clock : 0 ≤ ctx.sysvar.unixTimestamp) (h : Evaluates env ctx instruction s s') :
    TimelockInvariant env s' := by
  induction h with
  | effect l effect => exact inv.effect clock effect
  | @execute ctx message payload s s₁ config hash accounts instruction gateway accepted inner ih =>
    have call : TimelockInvariant env s₁ := ih (inv.congr rfl rfl) clock
    refine ⟨call.accounts.congr rfl rfl rfl, call.timely, fun c stored => ?_⟩
    cases stored
    exact inv.delay config accepted.stored
  | @proposal kind ctx data hash config key proposal s s₁ instruction l l' begins _ own decoded
      inner ih =>
    have before := inv.logged (kind.beginning_logged ctx hash data s) (begins.timely inv) (by
      cases kind <;> exact inv.delay)
    have call : TimelockInvariant env s₁ := ih (before.congr rfl rfl) clock
    -- the call leaves the proposal in place, unless it names it; then it is closed
    obtain ⟨entries, frame⟩ := inner.frame
    refine TimelockInvariant.congr ?_ rfl rfl (s := kind.ending ctx hash data config proposal.eta s₁)
    refine call.logged (kind.ending_logged ctx hash data config proposal.eta s₁)
      (begins.timely_ended inv call frame.log fun noSelfReference => ?_)
      fun c => begins.delay_ended inv
    refine inner.keeps_proposal begins.pending ?_
    refine noSelfReference (s.entry ctx (kind.began hash data)) ?_ kind hash data rfl own _ decoded
    exact inner.log_prefix.subset (List.mem_append_right _ List.mem_cons_self)
  | @external kind ctx data hash config key proposal s gateway l begins _ calls =>
    have before := inv.logged (kind.beginning_logged ctx hash data s) (begins.timely inv) (by
      cases kind <;> exact inv.delay)
    have call : TimelockInvariant env { kind.beginning ctx hash data s with gateway } :=
      before.congr rfl rfl
    have log : (kind.beginning ctx hash data s).log = (kind.beginning ctx hash data s).log ++ [] :=
      (List.append_nil _).symm
    refine TimelockInvariant.congr ?_ rfl rfl (s := kind.ending ctx hash data config proposal.eta
      { kind.beginning ctx hash data s with gateway })
    refine call.logged (kind.ending_logged ctx hash data config proposal.eta _)
      (begins.timely_ended inv call log fun _ => begins.pending)
      fun c => begins.delay_ended inv

/-! ## Runs -/

/-- The clock of a call to governance is not negative. -/
def Call.ClockNonneg : Call → Prop
  | .governance sysvar _ _ => 0 ≤ sysvar.unixTimestamp
  | _ => True

instance : DecidablePred Call.ClockNonneg
  | .governance sysvar _ _ => inferInstanceAs (Decidable (0 ≤ sysvar.unixTimestamp))
  | .gateway _ => isTrue trivial
  | .balances _ => isTrue trivial

/-- **Timelock safety.** For every run whose clock is never negative:

1. whenever an execution by timelock succeeds for a hash at a time `t`, it began at `t`, and before
   that the proposal had been scheduled at some `t₀` with `t₀ + d ≤ eta ≤ t`, where `d` is the delay
   configured at `t₀`, in its range, and had been neither cancelled nor executed since;
2. as long as no proposal that is executed names itself, every cancellation and every execution of a
   proposal is the first after its scheduling, so each scheduling is consumed at most once;
3. the configured delay is in its range.

The clock need not even be monotone. -/
theorem timelock_safety (env : Env) (l : Pubkey → Nat) (calls : List Call)
    (clock : ∀ call ∈ calls, call.ClockNonneg) :
    let s := run (step env) (World.initial l) calls
    (∀ before (e : LogEntry) after hash target callData nativeValue eta,
      s.log = before ++ e :: after →
      e.event = .emitted (.proposalExecuted hash target callData nativeValue eta) →
      eta.toNat ≤ e.time.toInt ∧ ∃ earlier b since data, before = earlier ++ b :: since ∧
        b.event = .timelockBegan hash data ∧ b.time = e.time ∧ OpenedBy earlier hash eta) ∧
    (NoSelfReference env s.log → ∀ before (e : LogEntry) after hash,
      s.log = before ++ e :: after → e.event.consumes? = some hash →
      ∃ eta, OpenedBy before hash eta ∧ ∀ target callData nativeValue eta',
        e.event = .emitted (.proposalExecuted hash target callData nativeValue eta') →
        eta' = eta) ∧
    (∀ config, s.accounts.config = some config →
      3600 ≤ config.minimumProposalEtaDelay ∧ config.minimumProposalEtaDelay ≤ 86400) := by
  intro s
  have inv : TimelockInvariant env s := by
    refine run_invariant_of_mem (timelockInvariant_initial env l) ?_
    intro s call mem s' inv h
    cases step_evaluates h with
    | governance sysvar accounts instruction s' unsigned evaluates =>
      have nonneg : 0 ≤ sysvar.unixTimestamp := clock _ mem
      exact inv.evaluates nonneg evaluates
    | gateway call gateway processed => exact inv.congr rfl rfl
    | balances l => exact inv.congr rfl rfl
  refine ⟨?_, ?_, inv.delay⟩
  · intro before e after hash target callData nativeValue eta split event
    exact (inv.timely before e after split).executed hash target callData nativeValue eta event
  · intro noSelfReference before e after hash split consumes
    -- what comes before an entry of the log refers to itself no more than the log does
    refine (inv.timely before e after split).consumed (fun b mem => ?_) hash consumes
    exact noSelfReference b (by rw [split]; exact List.mem_append_left _ mem)

/-- The sample proposal is scheduled and, when it is due, executed. -/
def sampleTimelock : List Call :=
  sampleStart ++ sampleCommand 200 "1" 0 0 ++ [sampleExecuteTimelock 3800]

/-- `transfer_operatorship` is all that data decode to in the sample environment. -/
theorem sampleEnv_transfers : ∀ data instruction,
    sampleEnv.decodeInstruction data = some instruction →
      ∃ newOperator, instruction = .transferOperatorship newOperator := by
  intro data instruction decoded
  simp only [sampleEnv] at decoded
  split at decoded
  · cases decoded
    exact ⟨_, rfl⟩
  · cases decoded

/-- Its execution at time 3800 was scheduled for that time, an hour after the schedule, and is the
first to consume that scheduling; the delay is an hour. -/
theorem timelock_safety_sample :
    let s := run (step sampleEnv) (World.initial fun _ => 0) sampleTimelock
    ∃ before e earlier config, s.log = before ++ [e] ∧
      e.event = .emitted (ExecutionKind.timelock.executed sampleHash sampleProposal 3800) ∧
      OpenedBy earlier sampleHash 3800 ∧
      (∃ eta, OpenedBy before sampleHash eta ∧ eta = 3800) ∧
      s.accounts.config = some config ∧ 3600 ≤ config.minimumProposalEtaDelay := by
  intro s
  have clock : ∀ call ∈ sampleTimelock, call.ClockNonneg := by decide +kernel
  obtain ⟨executed, consumed, delay⟩ :=
    timelock_safety sampleEnv (fun _ => 0) sampleTimelock clock
  rw [show run (step sampleEnv) (World.initial fun _ => 0) sampleTimelock = s from rfl] at delay
  have last : s.log.getLast?.map LogEntry.event = some (.emitted
      (ExecutionKind.timelock.executed sampleHash sampleProposal 3800)) := by
    decide +kernel
  obtain ⟨e, last, event⟩ := Option.map_eq_some_iff.mp last
  obtain ⟨before, split⟩ := List.getLast?_eq_some_iff.mp last
  obtain ⟨-, earlier, -, -, -, -, -, -, opened⟩ := executed before e [] _ _ _ _ _ split event
  obtain ⟨eta, first, due⟩ := consumed
    (noSelfReference_of_transfers _ sampleEnv_transfers) before e [] sampleHash split
    (by rw [event]; rfl)
  have stored : s.accounts.config.isSome = true := by decide +kernel
  obtain ⟨config, stored⟩ := Option.isSome_iff_exists.mp stored
  exact ⟨before, e, earlier, config, split, event, opened, ⟨eta, first, (due _ _ _ _ event).symm⟩,
    stored, (delay config stored).1⟩

end AxelarSolana.Governance
