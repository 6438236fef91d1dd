import AxelarSolana.Its.Environment
import AxelarSolana.Its.TokenManagers
import AxelarSolana.Library.Window
import Mathlib.Algebra.Group.Prod

/-! # Flow limits

* **`trackTokenFlow`** — the two copies of the source, one for each direction, on the flow state
  alone; a failed check leaves what was written before it.
* **`FlowState.Passes`** — the check in numbers; **`trackTokenFlow_eq_ok`**, **`trackTokenFlow_error`**.
* **`flow_limit_safety`** — over every run of the service, the sums are those of the transfers of the
  epoch, and the limit bounds their difference.
* **`rebalancing_rejected_iff`** — a transfer that brings the sums closer together is rejected only
  after the limit was lowered within the epoch. -/

namespace AxelarSolana.Its

open Fallible Machine

/-! ## The check -/

/-- The other direction. -/
def FlowDirection.other : FlowDirection → FlowDirection
  | .inward => .outward
  | .outward => .inward

/-- `FlowState::add_flow` on the flow state: nothing is written when it fails. -/
def FlowState.addFlowTo (amount : UInt64) (direction : FlowDirection) :
    EStateM Error FlowState Unit := do
  let flowSlot ← lift ((← get).addFlow amount direction)
  set flowSlot

/-- `track_token_flow` of an inbound transfer. -/
def ExecuteInterchainTransfer.trackTokenFlow (sysvar : Sysvar) (amount : UInt64)
    (direction : FlowDirection) : EStateM Error FlowState Unit := do
  if (← get).flowLimit = none then return ()
  -- Reset the flow slot upon epoch change.
  let currentEpoch ← lift (currentFlowEpoch sysvar)
  if (← get).epoch ≠ currentEpoch then
    modify fun flowSlot => { flowSlot with flowIn := 0 }
    modify fun flowSlot => { flowSlot with flowOut := 0 }
    modify fun flowSlot => { flowSlot with epoch := currentEpoch }
  FlowState.addFlowTo amount direction

/-- `track_token_flow` of an outbound transfer. -/
def InterchainTransfer.trackTokenFlow (sysvar : Sysvar) (amount : UInt64)
    (direction : FlowDirection) : EStateM Error FlowState Unit := do
  if (← get).flowLimit = none then return ()
  -- Reset the flow slot upon epoch change.
  let currentEpoch ← lift (currentFlowEpoch sysvar)
  if (← get).epoch ≠ currentEpoch then
    modify fun flowSlot => { flowSlot with flowIn := 0 }
    modify fun flowSlot => { flowSlot with flowOut := 0 }
    modify fun flowSlot => { flowSlot with epoch := currentEpoch }
  FlowState.addFlowTo amount direction

namespace FlowState

variable (self : FlowState)

/-- The sum of a direction. -/
def flow (direction : FlowDirection) : Nat :=
  match direction with
  | .inward => self.flowIn.toNat
  | .outward => self.flowOut.toNat

/-- What has flowed in more than out, or the other way round. -/
def net : Nat := ((self.flowIn.toNat : ℤ) - self.flowOut.toNat).natAbs

/-- The flow in an epoch: none yet when another epoch begins. -/
def enter (epoch : UInt64) : FlowState :=
  if self.epoch = epoch then self else { self with flowIn := 0, flowOut := 0, epoch }

/-- With an amount added to the sum of a direction. -/
def added (amount : UInt64) (direction : FlowDirection) : FlowState :=
  match direction with
  | .inward => { self with flowIn := self.flowIn + amount }
  | .outward => { self with flowOut := self.flowOut + amount }

end FlowState

/-- **The flow check**: the amount is within the limit, the new sum fits in 64 bits, and the new
difference is within the limit. -/
structure FlowState.Passes (flowSlot : FlowState) (flowLimit amount : UInt64)
    (direction : FlowDirection) : Prop where
  within : amount.toNat ≤ flowLimit.toNat
  fits : flowSlot.flow direction + amount.toNat < 2 ^ 64
  balanced : ((flowSlot.flow direction + amount.toNat : ℤ) - flowSlot.flow direction.other).natAbs
    ≤ flowLimit.toNat

/-- `abs_diff` is the distance of the numbers. -/
theorem toNat_absDiff (a b : UInt64) : (absDiff a b).toNat = ((a.toNat : ℤ) - b.toNat).natAbs := by
  unfold absDiff
  split
  case isTrue less =>
    have le : a.toNat ≤ b.toNat := (UInt64.lt_iff_toNat_lt.mp less).le
    rw [UInt64.toNat_sub_of_le _ _ (UInt64.le_iff_toNat_le.mpr le)]
    omega
  case isFalse notLess =>
    have le : b.toNat ≤ a.toNat := by
      rw [UInt64.lt_iff_toNat_lt] at notLess
      omega
    rw [UInt64.toNat_sub_of_le _ _ (UInt64.le_iff_toNat_le.mpr le)]
    omega

/-- A sum that fits is that of the numbers. -/
theorem toNat_add_of_lt {a b : UInt64} (fits : a.toNat + b.toNat < 2 ^ 64) :
    (a + b).toNat = a.toNat + b.toNat := by
  rw [UInt64.toNat_add, Nat.mod_eq_of_lt fits]

/-- **`update_flow` in numbers.** -/
theorem updateFlow_eq_ok {flowLimit toAdd toCompare amount newFlow : UInt64} :
    FlowState.updateFlow flowLimit toAdd toCompare amount = .ok newFlow ↔
      (amount.toNat ≤ flowLimit.toNat ∧ toAdd.toNat + amount.toNat < 2 ^ 64 ∧
        ((toAdd.toNat + amount.toNat : ℤ) - toCompare.toNat).natAbs ≤ flowLimit.toNat) ∧
      newFlow = toAdd + amount := by
  simp only [FlowState.updateFlow, checkedAdd, bind_eq_ok, require_eq_ok, okOr_eq_ok, pure_eq_ok,
    UInt64.le_iff_toNat_le, toNat_absDiff]
  constructor
  · rintro ⟨_, within, sum, added, _, net, rfl⟩
    split at added
    case isFalse => cases added
    case isTrue fits =>
      cases added
      rw [toNat_add_of_lt fits] at net
      exact ⟨⟨within, fits, by push_cast at net; exact net⟩, rfl⟩
  · rintro ⟨⟨within, fits, net⟩, rfl⟩
    refine ⟨(), within, toAdd + amount, if_pos fits, (), ?_, rfl⟩
    rw [toNat_add_of_lt fits]
    push_cast
    exact net

/-- **`add_flow` in numbers.** -/
theorem addFlow_eq_ok {flowSlot after : FlowState} {flowLimit amount : UInt64}
    {direction : FlowDirection} (limited : flowSlot.flowLimit = some flowLimit) :
    flowSlot.addFlow amount direction = .ok after ↔
      flowSlot.Passes flowLimit amount direction ∧ after = flowSlot.added amount direction := by
  obtain ⟨_, flowIn, flowOut, epoch⟩ := flowSlot
  cases limited
  unfold FlowState.addFlow
  cases direction with
  | inward =>
    simp only [bind_eq_ok, updateFlow_eq_ok, pure_eq_ok]
    constructor
    · rintro ⟨_, ⟨⟨within, fits, net⟩, rfl⟩, rfl⟩
      exact ⟨⟨within, fits, net⟩, rfl⟩
    · rintro ⟨passes, rfl⟩
      exact ⟨_, ⟨⟨passes.within, passes.fits, passes.balanced⟩, rfl⟩, rfl⟩
  | outward =>
    simp only [bind_eq_ok, updateFlow_eq_ok, pure_eq_ok]
    constructor
    · rintro ⟨_, ⟨⟨within, fits, net⟩, rfl⟩, rfl⟩
      exact ⟨⟨within, fits, net⟩, rfl⟩
    · rintro ⟨passes, rfl⟩
      exact ⟨_, ⟨⟨passes.within, passes.fits, passes.balanced⟩, rfl⟩, rfl⟩

/-- **What `track_token_flow` does**: nothing without a limit; otherwise the sums are reset when the
epoch changes, and stay so when the check fails. -/
theorem run_trackTokenFlow (sysvar : Sysvar) (amount : UInt64) (direction : FlowDirection)
    (flowSlot : FlowState) :
    (ExecuteInterchainTransfer.trackTokenFlow sysvar amount direction).run flowSlot =
      if flowSlot.flowLimit = none then .ok () flowSlot
      else
        match currentFlowEpoch sysvar with
        | .error e => .error e flowSlot
        | .ok epoch =>
          match (flowSlot.enter epoch).addFlow amount direction with
          | .error e => .error e (flowSlot.enter epoch)
          | .ok after => .ok () after := by
  unfold ExecuteInterchainTransfer.trackTokenFlow FlowState.addFlowTo FlowState.enter
  by_cases unlimited : flowSlot.flowLimit = none
  · simp [unlimited]
  · cases now : currentFlowEpoch sysvar with
    | error e => simp [unlimited]
    | ok epoch =>
      by_cases same : flowSlot.epoch = epoch
      · cases added : flowSlot.addFlow amount direction <;> simp [unlimited, same, added]
      · cases added : FlowState.addFlow { flowSlot with flowIn := 0, flowOut := 0, epoch } amount
          direction <;> simp [unlimited, same, added]

/-- The two copies are the same transition. -/
theorem trackTokenFlow_copies (sysvar : Sysvar) (amount : UInt64) (direction : FlowDirection) :
    InterchainTransfer.trackTokenFlow sysvar amount direction
      = ExecuteInterchainTransfer.trackTokenFlow sysvar amount direction := rfl

/-- Entering an epoch leaves the limit. -/
theorem enter_flowLimit (flowSlot : FlowState) (epoch : UInt64) :
    (flowSlot.enter epoch).flowLimit = flowSlot.flowLimit := by
  unfold FlowState.enter
  split <;> rfl

/-- Entering an epoch makes it the current one. -/
theorem enter_epoch (flowSlot : FlowState) (epoch : UInt64) :
    (flowSlot.enter epoch).epoch = epoch := by
  unfold FlowState.enter
  split
  case isTrue same => exact same
  case isFalse => rfl

/-- **When a transfer passes.** -/
theorem trackTokenFlow_eq_ok {sysvar : Sysvar} {amount flowLimit epoch : UInt64}
    {direction : FlowDirection} {flowSlot after : FlowState}
    (limited : flowSlot.flowLimit = some flowLimit) (now : currentFlowEpoch sysvar = .ok epoch) :
    ExecuteInterchainTransfer.trackTokenFlow sysvar amount direction flowSlot = .ok () after ↔
      (flowSlot.enter epoch).Passes flowLimit amount direction ∧
        after = (flowSlot.enter epoch).added amount direction := by
  have run := run_trackTokenFlow sysvar amount direction flowSlot
  rw [EStateM.run, limited, now, if_neg (Option.some_ne_none _)] at run
  rw [run, ← addFlow_eq_ok ((enter_flowLimit _ _).trans limited)]
  cases added : (flowSlot.enter epoch).addFlow amount direction <;> simp [added]

/-- **A failed check leaves the sums**, apart from a reset that was due. -/
theorem trackTokenFlow_error {sysvar : Sysvar} {amount epoch : UInt64} {direction : FlowDirection}
    {flowSlot after : FlowState} {e : Error} (now : currentFlowEpoch sysvar = .ok epoch)
    (failed : ExecuteInterchainTransfer.trackTokenFlow sysvar amount direction flowSlot
      = .error e after) : after = flowSlot.enter epoch := by
  have run := run_trackTokenFlow sysvar amount direction flowSlot
  rw [EStateM.run, failed] at run
  by_cases unlimited : flowSlot.flowLimit = none
  · rw [if_pos unlimited] at run
    cases run
  · rw [if_neg unlimited, now] at run
    cases added : (flowSlot.enter epoch).addFlow amount direction with
    | error e' =>
      simp only [added, EStateM.Result.error.injEq] at run
      exact run.2
    | ok after' =>
      simp only [added] at run
      cases run

/-- The token manager keeps what `track_token_flow` leaves when it succeeds. -/
theorem trackFlow_eq (tokenManager : TokenManager) (sysvar : Sysvar) (amount : UInt64)
    (direction : FlowDirection) :
    tokenManager.trackFlow sysvar amount direction =
      (fun flowSlot => { tokenManager with flowSlot }) <$>
        commitState (ExecuteInterchainTransfer.trackTokenFlow sysvar amount direction)
          tokenManager.flowSlot := by
  have run := run_trackTokenFlow sysvar amount direction tokenManager.flowSlot
  rw [EStateM.run] at run
  rw [commitState, run]
  unfold TokenManager.trackFlow
  by_cases unlimited : tokenManager.flowSlot.flowLimit = none
  · rw [if_pos unlimited, if_pos unlimited]
    rfl
  · rw [if_neg unlimited, if_neg unlimited]
    cases now : currentFlowEpoch sysvar with
    | error e => rfl
    | ok epoch =>
      show (tokenManager.flowSlot.enter epoch).addFlow amount direction >>= _ = _
      cases added : (tokenManager.flowSlot.enter epoch).addFlow amount direction <;>
        simp only [added] <;> rfl

/-- **What tracking does to a token manager.** -/
theorem trackFlow_eq_ok {tokenManager tracked : TokenManager} {sysvar : Sysvar} {amount : UInt64}
    {direction : FlowDirection} :
    tokenManager.trackFlow sysvar amount direction = .ok tracked ↔
      (tokenManager.flowSlot.flowLimit = none ∧ tracked = tokenManager) ∨
      ∃ flowLimit epoch, tokenManager.flowSlot.flowLimit = some flowLimit ∧
        currentFlowEpoch sysvar = .ok epoch ∧
        (tokenManager.flowSlot.enter epoch).Passes flowLimit amount direction ∧
        tracked = { tokenManager with
          flowSlot := (tokenManager.flowSlot.enter epoch).added amount direction } := by
  rw [trackFlow_eq]
  simp only [map_eq_ok, commitState_eq_ok]
  have run := run_trackTokenFlow sysvar amount direction tokenManager.flowSlot
  rw [EStateM.run] at run
  -- without a limit nothing is written, not even the epoch
  cases limit : tokenManager.flowSlot.flowLimit with
  | none =>
    rw [limit, if_pos rfl] at run
    rw [run]
    constructor
    · rintro ⟨_, same, rfl⟩
      cases same
      exact .inl ⟨rfl, rfl⟩
    · rintro (⟨-, rfl⟩ | ⟨_, _, some, -⟩)
      · exact ⟨_, rfl, rfl⟩
      · cases some
  | some flowLimit =>
    cases now : currentFlowEpoch sysvar with
    | error e =>
      rw [limit, now, if_neg (Option.some_ne_none _)] at run
      rw [run]
      simp
    | ok epoch =>
      simp only [trackTokenFlow_eq_ok limit now]
      constructor
      · rintro ⟨_, ⟨passes, rfl⟩, rfl⟩
        exact .inr ⟨flowLimit, epoch, rfl, rfl, passes, rfl⟩
      · rintro (⟨none, -⟩ | ⟨_, _, same, same', passes, rfl⟩)
        · cases none
        · cases same
          cases same'
          exact ⟨_, ⟨passes, rfl⟩, rfl⟩

/-! ## The flow of a run -/

variable {env : Env} {s s' : World}

/-- The limit of the token manager at an address. -/
def World.flowLimit (key : Pubkey) (s : World) : Option UInt64 :=
  (s.accounts.tokenManagers key).bind fun tokenManager => tokenManager.flowSlot.flowLimit

/-- The epoch that a call falls in. -/
def Call.epoch? (call : Call env) : Option Nat :=
  call.sysvar?.bind fun sysvar => (currentFlowEpoch sysvar).toOption.map UInt64.toNat

/-- The clock as the committed calls read it. -/
def clocks (tr : List (Transition World (Call env))) : List ℤ :=
  tr.filterMap fun t => t.call.sysvar?.map fun sysvar => sysvar.unixTimestamp.toInt

/-- **The clock is never negative and never goes back.** -/
def ClockRuns (tr : List (Transition World (Call env))) : Prop := (0 :: clocks tr).Pairwise (· ≤ ·)

instance (tr : List (Transition World (Call env))) : Decidable (ClockRuns tr) :=
  inferInstanceAs (Decidable (List.Pairwise _ _))

/-- An epoch lasts 6 hours. -/
theorem toNat_currentFlowEpoch {sysvar : Sysvar} {epoch : UInt64}
    (h : currentFlowEpoch sysvar = .ok epoch) :
    (epoch.toNat : ℤ) = sysvar.unixTimestamp.toInt / 21600 := by
  simp only [currentFlowEpoch, flowEpochWithTimestamp, bind_eq_ok, okOr_eq_ok, pure_eq_ok] at h
  obtain ⟨unixTimestamp, converted, _, -, rfl⟩ := h
  rw [← tryIntoU64_eq_some converted, UInt64.toNat_div]
  rfl

/-- A call is in an epoch when this is the flow epoch of the clock that it reads. -/
theorem epoch?_eq_some {call : Call env} {epoch : Nat} (h : call.epoch? = some epoch) :
    ∃ sysvar e, call.sysvar? = some sysvar ∧ currentFlowEpoch sysvar = .ok e ∧
      e.toNat = epoch := by
  obtain ⟨sysvar, given, converted⟩ := Option.bind_eq_some_iff.mp h
  obtain ⟨e, now, same⟩ := Option.map_eq_some_iff.mp converted
  exact ⟨sysvar, e, given, toOption_eq_some.mp now, same⟩

/-- What came before has a running clock, too. -/
theorem ClockRuns.before {tr tr' : List (Transition World (Call env))}
    (h : ClockRuns (tr ++ tr')) : ClockRuns tr := by
  unfold ClockRuns clocks at h
  rw [List.filterMap_append, ← List.cons_append] at h
  exact (List.pairwise_append.mp h).1

/-- The epochs do not go back. -/
theorem ClockRuns.epoch_le {tr : List (Transition World (Call env))}
    {t : Transition World (Call env)} (h : ClockRuns (tr ++ [t])) {u : Transition World (Call env)}
    (mem : u ∈ tr) {epoch epoch' : Nat} (first : u.call.epoch? = some epoch)
    (last : t.call.epoch? = some epoch') : epoch ≤ epoch' := by
  obtain ⟨sysvar, e, given, now, rfl⟩ := epoch?_eq_some first
  obtain ⟨sysvar', e', given', now', rfl⟩ := epoch?_eq_some last
  unfold ClockRuns clocks at h
  rw [List.filterMap_append, ← List.cons_append] at h
  have le : sysvar.unixTimestamp.toInt ≤ sysvar'.unixTimestamp.toInt := by
    refine (List.pairwise_append.mp h).2.2 _ (List.mem_cons_of_mem _ ?_) _ ?_
    · exact List.mem_filterMap.mpr ⟨u, mem, by rw [given]; rfl⟩
    · exact List.mem_filterMap.mpr ⟨t, List.mem_singleton_self t, by rw [given']; rfl⟩
  have div : sysvar.unixTimestamp.toInt / 21600 ≤ sysvar'.unixTimestamp.toInt / 21600 :=
    Int.ediv_le_ediv (by decide) le
  rw [← toNat_currentFlowEpoch now, ← toNat_currentFlowEpoch now'] at div
  exact Int.ofNat_le.mp div

/-- An amount in a direction, as a pair of what flows in and out. -/
def FlowDirection.amounts (direction : FlowDirection) (amount : UInt64) : Nat × Nat :=
  match direction with
  | .inward => (amount.toNat, 0)
  | .outward => (0, amount.toNat)

/-- What a committed call records in the flow of a token manager: its transfer, if there is a
limit. -/
def recordedBy (key : Pubkey) (t : Transition World (Call env)) : List (Nat × Nat × Nat) :=
  match t.pre.flowLimit key, t.call.epoch? with
  | some _, some epoch => (transfersOf key t).map fun x => (epoch, x.1.amounts x.2)
  | _, _ => []

/-- **What a run records** in the flow of a token manager. -/
def recorded (key : Pubkey) (tr : List (Transition World (Call env))) : List (Nat × Nat × Nat) :=
  tr.flatMap (recordedBy key)

/-- The flow state as a window over both sums. -/
def FlowState.window (flowSlot : FlowState) : Window Nat (Nat × Nat) :=
  ⟨flowSlot.epoch.toNat, flowSlot.flowIn.toNat, flowSlot.flowOut.toNat⟩

/-- **The sums are those of the records**, in an epoch that a call was made in. -/
structure Tracks (key : Pubkey) (tr : List (Transition World (Call env))) (flowSlot : FlowState) :
    Prop where
  window : flowSlot.window.Holds (recorded key tr)
  epoch : flowSlot.epoch.toNat = 0 ∨ ∃ t ∈ tr, t.call.epoch? = some flowSlot.epoch.toNat

/-- Adding to a flow state is recording in its window. -/
theorem window_added {flowSlot : FlowState} {amount flowLimit epoch : UInt64}
    {direction : FlowDirection}
    (passes : (flowSlot.enter epoch).Passes flowLimit amount direction) :
    ((flowSlot.enter epoch).added amount direction).window
      = flowSlot.window.record epoch.toNat (direction.amounts amount) := by
  have fits := passes.fits
  unfold FlowState.enter at fits ⊢
  by_cases same : flowSlot.epoch = epoch
  · subst same
    rw [if_pos rfl] at fits ⊢
    cases direction with
    | inward => simp [FlowState.window, FlowState.added, Window.record, FlowDirection.amounts,
        toNat_add_of_lt fits]
    | outward => simp [FlowState.window, FlowState.added, Window.record, FlowDirection.amounts,
        toNat_add_of_lt fits]
  · have other : flowSlot.epoch.toNat ≠ epoch.toNat := fun equal => same (UInt64.toNat_inj.mp equal)
    rw [if_neg same]
    cases direction <;>
      simp [FlowState.window, FlowState.added, Window.record, FlowDirection.amounts, other]

/-- A call without a transfer records nothing. -/
theorem recordedBy_of_nil {key : Pubkey} {t : Transition World (Call env)}
    (h : transfersOf key t = []) : recordedBy key t = [] := by
  unfold recordedBy
  rw [h]
  split <;> rfl

/-- A run records what its last call records, after the others. -/
theorem recorded_append (key : Pubkey) (tr : List (Transition World (Call env)))
    (t : Transition World (Call env)) :
    recorded key (tr ++ [t]) = recorded key tr ++ recordedBy key t := by
  simp [recorded]

/-- The records of a manager that exists, or none before it is created. -/
def TracksAt (key : Pubkey) (tr : List (Transition World (Call env))) (s : World) : Prop :=
  match s.accounts.tokenManagers key with
  | none => recorded key tr = []
  | some tokenManager => Tracks key tr tokenManager.flowSlot

/-- A call without a transfer leaves the records. -/
theorem Tracks.quiet {key : Pubkey} {tr : List (Transition World (Call env))}
    {flowSlot : FlowState} {t : Transition World (Call env)} (h : Tracks key tr flowSlot)
    (none : recordedBy key t = []) : Tracks key (tr ++ [t]) flowSlot where
  window := by
    rw [recorded_append, none, List.append_nil]
    exact h.window
  epoch := by
    rcases h.epoch with never | ⟨u, mem, epoch⟩
    · exact .inl never
    · exact .inr ⟨u, List.mem_append_left _ mem, epoch⟩

/-- **What every call keeps**: the sums of a manager are those of its records. -/
theorem ManagerChange.tracksAt {key : Pubkey} {tr : List (Transition World (Call env))}
    {call : Call env}
    (h : ManagerChange env key s call (transfersOf key ⟨s, call, s'⟩) s')
    (clock : ClockRuns (tr ++ [⟨s, call, s'⟩])) (before : TracksAt key tr s) :
    TracksAt key (tr ++ [⟨s, call, s'⟩]) s' := by
  generalize transfers : transfersOf key ⟨s, call, s'⟩ = l at h
  unfold TracksAt at before ⊢
  cases h with
  | keeps s' same =>
    have none := recordedBy_of_nil transfers
    rw [same]
    cases stored : s.accounts.tokenManagers key with
    | none =>
      simp only [stored] at before ⊢
      rw [recorded_append, none, before, List.append_nil]
    | some tokenManager =>
      simp only [stored] at before ⊢
      exact before.quiet none
  | creates tokenManager s' new flowSlot stored =>
    have none := recordedBy_of_nil transfers
    obtain ⟨rootKey, root, -, fresh⟩ := new
    rw [newTokenManagerPda_eq_ok] at fresh
    simp only [fresh.1] at before
    simp only [stored, flowSlot]
    refine ⟨?_, .inl rfl⟩
    rw [recorded_append, before, none]
    exact Window.holds_nil 0
  | limits tokenManager flowLimit s' stored written =>
    have none := recordedBy_of_nil transfers
    simp only [stored] at before
    simp only [written]
    exact ⟨(before.quiet none).window, (before.quiet none).epoch⟩
  | tracks sysvar tokenManager tracked direction amount s' given stored flow written =>
    simp only [stored] at before
    simp only [written]
    rcases trackFlow_eq_ok.mp flow with ⟨unlimited, rfl⟩ | ⟨flowLimit, epoch, limited, now, passes,
      rfl⟩
    · -- without a limit nothing is recorded
      refine before.quiet ?_
      unfold recordedBy World.flowLimit
      simp [stored, unlimited]
    · have epoch? : call.epoch? = some epoch.toNat := by
        simp [Call.epoch?, given, toOption_eq_some.mpr now]
      have records : recordedBy key ⟨s, call, s'⟩ = [(epoch.toNat, direction.amounts amount)] := by
        unfold recordedBy World.flowLimit
        simp [stored, limited, epoch?, transfers]
      -- the clock runs forward, so the window's epoch is not after the current one
      have later : tokenManager.flowSlot.window.epoch ≤ epoch.toNat := by
        rcases before.epoch with zero | ⟨u, mem, first⟩
        · exact zero.le.trans (Nat.zero_le _)
        · exact clock.epoch_le mem first epoch?
      refine ⟨?_, .inr ⟨⟨s, call, s'⟩, by simp, ?_⟩⟩
      · rw [window_added passes, recorded_append, records]
        exact before.window.record later _
      · rw [epoch?]
        cases direction <;> exact congrArg (some ∘ UInt64.toNat) (enter_epoch _ _).symm

/-- **The sums of every run are those of its records.** -/
theorem tracksAt_run (env : Env) (owner : Pubkey → Pubkey) (gas : GasService.GasState)
    (calls : List (Call env)) (key : Pubkey)
    (clock : ClockRuns (trace (step env) (World.initial owner gas) calls)) :
    TracksAt key (trace (step env) (World.initial owner gas) calls)
      (run (step env) (World.initial owner gas) calls) := by
  refine run_trace_induction (P := fun tr (s : World) => ClockRuns tr → TracksAt key tr s) ?_ ?_
    calls clock
  · intro _
    exact rfl
  · intro tr s call s' before success clock
    exact ((step_cases success).managerChange key).tracksAt clock (before clock.before)

/-! ## Safety of the limit -/

/-- **The transfers of an epoch** through a token manager, among the committed calls of a run. -/
def transfersIn (key : Pubkey) (tr : List (Transition World (Call env))) (epoch : Nat) :
    List (FlowDirection × UInt64) :=
  (tr.filter fun t => t.call.epoch? = some epoch).flatMap (transfersOf key)

/-- The sum of the amounts in a direction. -/
def sumOf (direction : FlowDirection) (transfers : List (FlowDirection × UInt64)) : Nat :=
  ((transfers.filter fun x => x.1 = direction).map fun x => x.2.toNat).sum

/-- The sums of two lists of transfers add up. -/
theorem sumOf_append (direction : FlowDirection) (l l' : List (FlowDirection × UInt64)) :
    sumOf direction (l ++ l') = sumOf direction l + sumOf direction l' := by
  simp [sumOf]

/-- The first call of a run counts when it is in the epoch. -/
theorem transfersIn_cons (key : Pubkey) (t : Transition World (Call env))
    (tr : List (Transition World (Call env))) (epoch : Nat) :
    transfersIn key (t :: tr) epoch
      = (if t.call.epoch? = some epoch then transfersOf key t else []) ++
        transfersIn key tr epoch := by
  by_cases now : t.call.epoch? = some epoch <;> simp [transfersIn, now]

/-- Records of one epoch add up direction by direction. -/
theorem totalOf_map_amounts (epoch : Nat) (l : List (FlowDirection × UInt64)) :
    Window.totalOf (l.map fun x => (epoch, x.1.amounts x.2)) epoch
      = (sumOf .inward l, sumOf .outward l) := by
  induction l with
  | nil => rfl
  | cons x l ih =>
    rw [List.map_cons, ← List.singleton_append, Window.totalOf_append, ih,
      Window.totalOf_singleton_self]
    obtain ⟨direction, amount⟩ := x
    cases direction <;> simp [sumOf, FlowDirection.amounts]

/-- **With a limit throughout an epoch, every transfer of the epoch is recorded.** -/
theorem totalOf_recorded {key : Pubkey} {tr : List (Transition World (Call env))} {epoch : Nat}
    {flowLimit : UInt64} (throughout : ∀ t ∈ tr, t.call.epoch? = some epoch →
      t.pre.flowLimit key = some flowLimit) :
    Window.totalOf (recorded key tr) epoch
      = (sumOf .inward (transfersIn key tr epoch), sumOf .outward (transfersIn key tr epoch)) := by
  induction tr with
  | nil => rfl
  | cons t tr ih =>
    rw [transfersIn_cons, sumOf_append, sumOf_append]
    show Window.totalOf (recordedBy key t ++ recorded key tr) epoch = _
    rw [Window.totalOf_append, ih fun u mem => throughout u (List.mem_cons_of_mem _ mem)]
    -- a call of the epoch finds the limit in place, so its transfers are recorded
    have first : Window.totalOf (recordedBy key t) epoch =
        (sumOf .inward (if t.call.epoch? = some epoch then transfersOf key t else []),
          sumOf .outward (if t.call.epoch? = some epoch then transfersOf key t else [])) := by
      by_cases now : t.call.epoch? = some epoch
      · rw [if_pos now, ← totalOf_map_amounts epoch]
        unfold recordedBy
        rw [now, throughout t List.mem_cons_self now]
      · rw [if_neg now]
        refine Window.totalOf_eq_zero fun r mem other => now ?_
        unfold recordedBy at mem
        split at mem
        case h_1 given =>
          obtain ⟨x, -, rfl⟩ := List.mem_map.mp mem
          rw [given, ← other]
        case h_2 => cases mem
    rw [first]
    rfl

/-- A transfer was accepted within the limit, and the sums after it are within the limit, too. -/
theorem ManagerChange.within {key : Pubkey} {call : Call env}
    {l : List (FlowDirection × UInt64)} (h : ManagerChange env key s call l s')
    {flowLimit : UInt64} (limited : s.flowLimit key = some flowLimit) {epoch : Nat}
    (now : call.epoch? = some epoch) {x : FlowDirection × UInt64} (mem : x ∈ l) :
    x.2.toNat ≤ flowLimit.toNat ∧ ∃ tokenManager,
      s'.accounts.tokenManagers key = some tokenManager ∧
      tokenManager.flowSlot.flowLimit = some flowLimit ∧
      tokenManager.flowSlot.epoch.toNat = epoch ∧
      tokenManager.flowSlot.net ≤ flowLimit.toNat := by
  cases h with
  | tracks sysvar tokenManager tracked direction amount s' given stored flow written =>
    rw [List.mem_singleton] at mem
    subst mem
    have limit : tokenManager.flowSlot.flowLimit = some flowLimit := by
      simpa [World.flowLimit, stored] using limited
    rcases trackFlow_eq_ok.mp flow with ⟨unlimited, -⟩ | ⟨flowLimit', e, limited', now', passes, rfl⟩
    · rw [limit] at unlimited
      cases unlimited
    · cases limit.symm.trans limited'
      obtain ⟨sysvar', e', given', now'', rfl⟩ := epoch?_eq_some now
      cases given.symm.trans given'
      cases now'.symm.trans now''
      refine ⟨passes.within, _, written, ?_, ?_, ?_⟩
      · cases direction <;> exact (enter_flowLimit _ _).trans limit
      · cases direction <;> exact congrArg UInt64.toNat (enter_epoch _ _)
      -- both directions bound the same difference, with opposite signs
      · have balanced := passes.balanced
        have fits := passes.fits
        cases direction with
        | inward =>
          simp only [FlowState.net, FlowState.added, toNat_add_of_lt fits]
          push_cast
          exact balanced
        | outward =>
          simp only [FlowState.net, FlowState.added, toNat_add_of_lt fits]
          push_cast
          rw [← Int.natAbs_neg, neg_sub]
          exact balanced
  | _ => cases mem

/-- **Flow limit safety.** For every run of the service, under a clock that is never negative and
never goes back, and every token manager: when the limit was the same throughout an epoch, then after
each accepted transfer the sums are those of the hub messages accepted in that epoch, their
difference is within the limit, and so is every accepted amount. A transfer passes the check exactly
when its amount is within the limit, the new sum fits in 64 bits and the new difference is within
the limit; a failed check leaves the sums apart from a reset that was due. Both copies of the check
are the same transition, and it is the one that token managers make. -/
theorem flow_limit_safety (env : Env) (owner : Pubkey → Pubkey) (gas : GasService.GasState)
    (calls : List (Call env)) (key : Pubkey)
    (clock : ClockRuns (trace (step env) (World.initial owner gas) calls)) :
    (∀ before t after epoch flowLimit,
      trace (step env) (World.initial owner gas) calls = before ++ t :: after →
      transfersOf key t ≠ [] → t.call.epoch? = some epoch →
      (∀ u ∈ before ++ [t], u.call.epoch? = some epoch → u.pre.flowLimit key = some flowLimit) →
      ∃ tokenManager, t.post.accounts.tokenManagers key = some tokenManager ∧
        tokenManager.flowSlot.flowLimit = some flowLimit ∧
        tokenManager.flowSlot.flowIn.toNat
          = sumOf .inward (transfersIn key (before ++ [t]) epoch) ∧
        tokenManager.flowSlot.flowOut.toNat
          = sumOf .outward (transfersIn key (before ++ [t]) epoch) ∧
        tokenManager.flowSlot.net ≤ flowLimit.toNat ∧
        ∀ x ∈ transfersIn key (before ++ [t]) epoch, x.2.toNat ≤ flowLimit.toNat) ∧
    (∀ (flowSlot : FlowState) (sysvar : Sysvar) (flowLimit epoch amount : UInt64)
        (direction : FlowDirection),
      flowSlot.flowLimit = some flowLimit → currentFlowEpoch sysvar = .ok epoch →
      ((∃ after, ExecuteInterchainTransfer.trackTokenFlow sysvar amount direction flowSlot
          = .ok () after) ↔ (flowSlot.enter epoch).Passes flowLimit amount direction) ∧
      ∀ e after, ExecuteInterchainTransfer.trackTokenFlow sysvar amount direction flowSlot
        = .error e after → after = flowSlot.enter epoch) ∧
    ∀ (tokenManager : TokenManager) (sysvar : Sysvar) (amount : UInt64)
        (direction : FlowDirection),
      InterchainTransfer.trackTokenFlow sysvar amount direction
        = ExecuteInterchainTransfer.trackTokenFlow sysvar amount direction ∧
      tokenManager.trackFlow sysvar amount direction =
        (fun flowSlot => { tokenManager with flowSlot }) <$>
          commitState (ExecuteInterchainTransfer.trackTokenFlow sysvar amount direction)
            tokenManager.flowSlot := by
  refine ⟨?_, ?_, ?_⟩
  · intro before t after epoch flowLimit split transfers now throughout
    have member : ∀ u ∈ before ++ [t], u ∈ trace (step env) (World.initial owner gas) calls := by
      intro u mem
      rw [split, ← List.singleton_append, ← List.append_assoc]
      exact List.mem_append_left _ mem
    have change : ∀ u ∈ before ++ [t], ManagerChange env key u.pre u.call (transfersOf key u) u.post :=
      fun u mem => (step_cases (step_of_mem_trace (member u mem))).managerChange key
    have last : t ∈ before ++ [t] := List.mem_append_right _ (List.mem_singleton_self t)
    obtain ⟨x, mem⟩ := List.exists_mem_of_ne_nil _ transfers
    obtain ⟨-, tokenManager, stored, limited, inEpoch, net⟩ :=
      (change t last).within (throughout t last now) now mem
    have clock' : ClockRuns (before ++ [t]) := by
      rw [split, ← List.singleton_append, ← List.append_assoc] at clock
      exact clock.before
    -- the sums before the transfer are those of its own run
    obtain ⟨calls₁, -, -, past, here⟩ := exists_calls_of_trace_eq split
    have tracksBefore := tracksAt_run env owner gas calls₁ key (by rw [past]; exact clock'.before)
    rw [past, here] at tracksBefore
    have tracks := (change t last).tracksAt clock' tracksBefore
    unfold TracksAt at tracks
    simp only [stored] at tracks
    have total : (tokenManager.flowSlot.flowIn.toNat, tokenManager.flowSlot.flowOut.toNat) = _ :=
      tracks.window.total.trans (by
        show Window.totalOf _ tokenManager.flowSlot.epoch.toNat = _
        rw [inEpoch, totalOf_recorded throughout])
    refine ⟨tokenManager, stored, limited, congrArg Prod.fst total, congrArg Prod.snd total, net, ?_⟩
    intro y accepted
    obtain ⟨u, inRun, own⟩ := List.mem_flatMap.mp accepted
    obtain ⟨mem, sameEpoch⟩ := List.mem_filter.mp inRun
    have sameEpoch := of_decide_eq_true sameEpoch
    exact ((change u mem).within (throughout u mem sameEpoch) sameEpoch own).1
  · intro flowSlot sysvar flowLimit epoch amount direction limited now
    refine ⟨⟨?_, ?_⟩, ?_⟩
    · rintro ⟨after, passed⟩
      exact ((trackTokenFlow_eq_ok limited now).mp passed).1
    · intro passes
      exact ⟨_, (trackTokenFlow_eq_ok limited now).mpr ⟨passes, rfl⟩⟩
    · intro e after failed
      exact trackTokenFlow_error now failed
  · intro tokenManager sysvar amount direction
    exact ⟨trackTokenFlow_copies sysvar amount direction,
      trackFlow_eq tokenManager sysvar amount direction⟩

/-- A later time, in the second epoch. -/
def sampleLater : Sysvar := { Gateway.sampleSysvar with unixTimestamp := 30000 }

/-- The limit of the wallet's token is set in the first epoch; two transfers follow in the second. -/
def sampleLimited : List (Call walletEnv) :=
  walletStart "ethereum" ++ [walletLimit (some 50), walletTransfer sampleLater "ethereum" 30]

/-- The sums of the sample run after the second transfer of its second epoch. -/
theorem flow_limit_safety_sample :
    let s := run (step walletEnv) sampleInitial sampleLimited
    let transfer := walletTransfer sampleLater "ethereum" 15
    ∃ tokenManager,
      (commit (step walletEnv) s transfer).accounts.tokenManagers (sampleAddress 1)
        = some tokenManager ∧
      tokenManager.flowSlot.flowOut.toNat = 45 ∧ tokenManager.flowSlot.net ≤ 50 := by
  intro s transfer
  have executed : step walletEnv transfer s = .ok (commit (step walletEnv) s transfer) :=
    step_eq_commit (by decide +kernel)
  have split : trace (step walletEnv) sampleInitial (sampleLimited ++ [transfer]) = _ :=
    trace_concat executed
  have clock : ClockRuns (trace (step walletEnv) sampleInitial (sampleLimited ++ [transfer])) := by
    decide +kernel
  have throughout : ∀ u ∈ trace (step walletEnv) sampleInitial (sampleLimited ++ [transfer]),
      u.call.epoch? = some 1 → u.pre.flowLimit (sampleAddress 1) = some 50 := by
    decide +kernel
  have sum : sumOf .outward (transfersIn (sampleAddress 1)
      (trace (step walletEnv) sampleInitial (sampleLimited ++ [transfer])) 1) = 45 := by
    decide +kernel
  rw [split] at throughout sum
  obtain ⟨safe, -⟩ := flow_limit_safety walletEnv _ _ (sampleLimited ++ [transfer])
    (sampleAddress 1) clock
  obtain ⟨tokenManager, stored, -, -, flowOut, net, -⟩ :=
    safe _ _ [] 1 50 split (by decide +kernel) (by decide +kernel) throughout
  dsimp only at stored
  exact ⟨tokenManager, stored, flowOut.trans sum, net⟩

/-! ## Rebalancing -/

/-- A transfer or a change of the limit, as the flow state sees it. -/
inductive FlowCall
  | transfer (sysvar : Sysvar) (amount : UInt64) (direction : FlowDirection)
  | setLimit (flowLimit : Option UInt64)

/-- **One call on a flow state.** -/
def FlowState.step (call : FlowCall) (flowSlot : FlowState) : Except Error FlowState :=
  match call with
  | .transfer sysvar amount direction =>
    commitState (ExecuteInterchainTransfer.trackTokenFlow sysvar amount direction) flowSlot
  | .setLimit flowLimit => pure { flowSlot with flowLimit }

/-- When `update_flow` reports that the limit is exceeded. -/
theorem updateFlow_eq_exceeded {flowLimit toAdd toCompare amount : UInt64} :
    FlowState.updateFlow flowLimit toAdd toCompare amount
        = .error ItsError.flowLimitExceeded.err ↔
      flowLimit.toNat < amount.toNat ∨ (amount.toNat ≤ flowLimit.toNat ∧
        toAdd.toNat + amount.toNat < 2 ^ 64 ∧
        flowLimit.toNat < ((toAdd.toNat + amount.toNat : ℤ) - toCompare.toNat).natAbs) := by
  -- an overflow of the sum is reported as another error
  have other : ItsError.arithmeticOverflow.err ≠ ItsError.flowLimitExceeded.err := by decide
  simp only [FlowState.updateFlow, checkedAdd, bind_eq_error, require_eq_error, require_eq_ok,
    okOr_eq_error, okOr_eq_ok, pure_ne_error, UInt64.le_iff_toNat_le, toNat_absDiff]
  constructor
  · rintro (⟨above, -⟩ | ⟨_, within, ⟨-, overflow⟩ | ⟨sum, added, ⟨above, -⟩ | ⟨_, -, false⟩⟩⟩)
    · exact .inl (by omega)
    · exact absurd overflow other
    · split at added
      case isFalse => cases added
      case isTrue fits =>
        cases added
        rw [toNat_add_of_lt fits] at above
        push_cast at above
        exact .inr ⟨within, fits, by omega⟩
    · cases false
  · rintro (above | ⟨within, fits, above⟩)
    · exact .inl ⟨by omega, trivial⟩
    · refine .inr ⟨(), within, .inr ⟨toAdd + amount, if_pos fits, .inl ⟨?_, trivial⟩⟩⟩
      rw [toNat_add_of_lt fits]
      push_cast
      omega

/-- **When a transfer is rejected because of the limit.** -/
theorem step_eq_exceeded {flowSlot : FlowState} {sysvar : Sysvar} {amount flowLimit epoch : UInt64}
    {direction : FlowDirection} (limited : flowSlot.flowLimit = some flowLimit)
    (now : currentFlowEpoch sysvar = .ok epoch) :
    FlowState.step (.transfer sysvar amount direction) flowSlot
        = .error ItsError.flowLimitExceeded.err ↔
      flowLimit.toNat < amount.toNat ∨ (amount.toNat ≤ flowLimit.toNat ∧
        (flowSlot.enter epoch).flow direction + amount.toNat < 2 ^ 64 ∧
        flowLimit.toNat < (((flowSlot.enter epoch).flow direction + amount.toNat : ℤ) -
          (flowSlot.enter epoch).flow direction.other).natAbs) := by
  have run := run_trackTokenFlow sysvar amount direction flowSlot
  rw [EStateM.run, limited, now, if_neg (Option.some_ne_none _)] at run
  have added : FlowState.step (.transfer sysvar amount direction) flowSlot
      = (flowSlot.enter epoch).addFlow amount direction := by
    rw [FlowState.step, commitState, run]
    cases h : (flowSlot.enter epoch).addFlow amount direction <;> simp [h]
  rw [added]
  have limited := (enter_flowLimit flowSlot epoch).trans limited
  generalize flowSlot.enter epoch = entered at limited ⊢
  obtain ⟨_, flowIn, flowOut, epoch⟩ := entered
  cases limited
  unfold FlowState.addFlow
  cases direction <;> simp [map_eq_error, updateFlow_eq_exceeded, FlowState.flow,
    FlowDirection.other]

/-- Adding a flow leaves the epoch. -/
theorem added_epoch (flowSlot : FlowState) (amount : UInt64) (direction : FlowDirection) :
    (flowSlot.added amount direction).epoch = flowSlot.epoch := by
  cases direction <;> rfl

/-- Only the sums of the epoch count. -/
theorem epoch_eq_of_net {flowSlot : FlowState} {epoch : UInt64}
    (h : 0 < (flowSlot.enter epoch).net) : flowSlot.epoch = epoch := by
  by_contra other
  rw [FlowState.enter, if_neg other] at h
  exact absurd h (Nat.lt_irrefl 0)

/-- An accepted transfer leaves a difference within the limit. -/
theorem FlowState.Passes.net_added_le {flowSlot : FlowState} {flowLimit amount : UInt64}
    {direction : FlowDirection} (passes : flowSlot.Passes flowLimit amount direction) :
    (flowSlot.added amount direction).net ≤ flowLimit.toNat := by
  have balanced := passes.balanced
  have fits := passes.fits
  cases direction with
  | inward =>
    simp only [FlowState.flow, FlowDirection.other] at balanced fits
    simp only [FlowState.net, FlowState.added, toNat_add_of_lt fits]
    push_cast
    exact balanced
  | outward =>
    simp only [FlowState.flow, FlowDirection.other] at balanced fits
    simp only [FlowState.net, FlowState.added, toNat_add_of_lt fits]
    push_cast
    omega

/-- **A transfer of an epoch that met a limit.** -/
def PassedUnder (t : Transition FlowState FlowCall) (epoch flowLimit : UInt64) : Prop :=
  ∃ sysvar amount direction, t.call = .transfer sysvar amount direction ∧
    currentFlowEpoch sysvar = .ok epoch ∧ t.pre.flowLimit = some flowLimit

/-- **Where the sums come from**: there are none, or a transfer of their epoch was accepted under a
limit that bounds their difference. -/
theorem net_run (calls : List FlowCall) :
    (run FlowState.step (FlowState.new none 0) calls).net = 0 ∨
      ∃ t ∈ trace FlowState.step (FlowState.new none 0) calls, ∃ flowLimit,
        PassedUnder t (run FlowState.step (FlowState.new none 0) calls).epoch flowLimit ∧
        (run FlowState.step (FlowState.new none 0) calls).net ≤ flowLimit.toNat := by
  refine run_trace_induction (P := fun tr (flowSlot : FlowState) => flowSlot.net = 0 ∨
    ∃ t ∈ tr, ∃ flowLimit, PassedUnder t flowSlot.epoch flowLimit ∧ flowSlot.net ≤ flowLimit.toNat)
    ?_ ?_ calls
  · exact .inl rfl
  intro tr flowSlot call after before success
  -- a call that records nothing leaves the difference and what bounded it
  have kept : flowSlot.net = 0 ∨ ∃ t ∈ tr ++ [⟨flowSlot, call, after⟩], ∃ flowLimit,
      PassedUnder t flowSlot.epoch flowLimit ∧ flowSlot.net ≤ flowLimit.toNat := by
    rcases before with even | ⟨t, mem, rest⟩
    · exact .inl even
    · exact .inr ⟨t, List.mem_append_left _ mem, rest⟩
  cases call with
  | setLimit flowLimit =>
    cases success
    exact kept
  | transfer sysvar amount direction =>
    have accepted := commitState_eq_ok.mp success
    cases limited : flowSlot.flowLimit with
    | none =>
      have run := run_trackTokenFlow sysvar amount direction flowSlot
      rw [EStateM.run, accepted, if_pos limited] at run
      cases run
      exact kept
    | some flowLimit =>
      have run := run_trackTokenFlow sysvar amount direction flowSlot
      rw [EStateM.run, accepted, limited, if_neg (Option.some_ne_none _)] at run
      cases now : currentFlowEpoch sysvar with
      | error e =>
        rw [now] at run
        cases run
      | ok epoch =>
        obtain ⟨passes, rfl⟩ := (trackTokenFlow_eq_ok limited now).mp accepted
        refine .inr ⟨_, List.mem_append_right _ List.mem_cons_self, flowLimit,
          ⟨sysvar, amount, direction, rfl, ?_, limited⟩, passes.net_added_le⟩
        rw [now, added_epoch, enter_epoch]

/-- **When rebalancing is rejected**: a transfer within the limit that does not increase the
difference is rejected when the new difference is still above the limit, and then an earlier transfer
of the epoch was made under a higher one. -/
theorem rebalancing_rejected_iff (calls : List FlowCall) (sysvar : Sysvar)
    (amount flowLimit epoch : UInt64) (direction : FlowDirection)
    (limited : (run FlowState.step (FlowState.new none 0) calls).flowLimit = some flowLimit)
    (now : currentFlowEpoch sysvar = .ok epoch) (within : amount.toNat ≤ flowLimit.toNat) :
    let flowSlot := run FlowState.step (FlowState.new none 0) calls
    let entered := flowSlot.enter epoch
    let difference := ((entered.flow direction + amount.toNat : ℤ)
      - entered.flow direction.other).natAbs
    difference ≤ entered.net →
      (FlowState.step (.transfer sysvar amount direction) flowSlot
          = .error ItsError.flowLimitExceeded.err ↔
        entered.flow direction + amount.toNat < 2 ^ 64 ∧ flowLimit.toNat < difference) ∧
      (FlowState.step (.transfer sysvar amount direction) flowSlot
          = .error ItsError.flowLimitExceeded.err →
        ∃ t ∈ trace FlowState.step (FlowState.new none 0) calls, ∃ higher,
          PassedUnder t epoch higher ∧ flowLimit.toNat < higher.toNat) := by
  intro flowSlot entered difference rebalances
  have rejected : FlowState.step (.transfer sysvar amount direction) flowSlot
      = .error ItsError.flowLimitExceeded.err ↔
        entered.flow direction + amount.toNat < 2 ^ 64 ∧ flowLimit.toNat < difference := by
    rw [step_eq_exceeded limited now]
    constructor
    · rintro (above | ⟨-, fits, above⟩)
      · omega
      · exact ⟨fits, above⟩
    · rintro ⟨fits, above⟩
      exact .inr ⟨within, fits, above⟩
  refine ⟨rejected, fun failed => ?_⟩
  have above : flowLimit.toNat < entered.net := (rejected.mp failed).2.trans_le rebalances
  -- a difference that is not 0 was recorded in this epoch, under a limit that allowed it
  have same : flowSlot.epoch = epoch := epoch_eq_of_net ((Nat.zero_le _).trans_lt above)
  have net : entered.net = flowSlot.net := by rw [show entered = flowSlot from if_pos same]
  rw [net] at above
  rcases net_run calls with none | ⟨t, mem, higher, passed, bound⟩
  · exact absurd (above.trans_eq none) (Nat.not_lt_zero _)
  · exact ⟨t, mem, higher, same ▸ passed, above.trans_le bound⟩

/-- A limit of 100, the inbound transfer of 100 tokens that it allows, and a limit of 10. -/
def sampleLowered : List FlowCall :=
  [.setLimit (some 100), .transfer Gateway.sampleSysvar 100 .inward, .setLimit (some 10)]

/-- Five of the hundred tokens cannot leave again: 95 is above 10. -/
theorem rebalancing_rejected :
    let flowSlot := run FlowState.step (FlowState.new none 0) sampleLowered
    flowSlot.flowLimit = some 10 ∧ currentFlowEpoch Gateway.sampleSysvar = .ok flowSlot.epoch ∧
      ((flowSlot.flow .outward + 5 : ℤ) - flowSlot.flow .inward).natAbs ≤ flowSlot.net ∧
      FlowState.step (.transfer Gateway.sampleSysvar 5 .outward) flowSlot
        = .error ItsError.flowLimitExceeded.err := by
  decide +kernel

/-- The transfer of 100 tokens was made under a higher limit. -/
theorem rebalancing_rejected_iff_sample :
    ∃ t ∈ trace FlowState.step (FlowState.new none 0) sampleLowered, ∃ higher,
      PassedUnder t 0 higher ∧ 10 < higher.toNat :=
  (rebalancing_rejected_iff sampleLowered Gateway.sampleSysvar 5 10 0 .outward (by decide +kernel)
    (by decide +kernel) (by decide) (by decide +kernel)).2 (by decide +kernel)

end AxelarSolana.Its
