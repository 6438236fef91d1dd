import AxelarSolana.GasService.Treasury
import AxelarSolana.Library.Machine
import AxelarSolana.Operators.Bookkeeping
import Mathlib.Algebra.Order.BigOperators.Group.List

/-! # The ledger of the treasury

Lamports move by two mechanisms, and the program reports each move in an event of its own.

* **`Ledger.inflow`**, **`Ledger.outflow`** — what the events say.
* **`step_books`** — what one call does to the treasury and to the events.
* **`treasurySound_iff`** — the events account for the treasury's balance exactly in the runs in which
  it is never paid out to itself. -/

namespace AxelarSolana.GasService

open Fallible Machine

variable {env : Env} {w w' : GasWorld} {treasury : Pubkey} {call : GasCall}

/-! ## What is reported -/

/-- **What has come in**, by the events. -/
def Ledger.inflow (l : Ledger) : Nat :=
  (l.paid.map fun e => e.amount.toNat).sum + (l.added.map fun e => e.amount.toNat).sum

/-- **What has gone out**, by the events. -/
def Ledger.outflow (l : Ledger) : Nat :=
  (l.collected.map fun e => e.amount.toNat).sum + (l.refunded.map fun e => e.amount.toNat).sum

/-- The receiver and the amount of what a call pays out. -/
def GasCall.payout? : GasCall → Option (Pubkey × UInt64)
  | .gas (.collectFees a amount) => some (a.receiver, amount)
  | .gas (.refundFees a _ amount) => some (a.receiver, amount)
  | _ => none

/-- What a call of others donates. -/
def GasCall.donation : GasCall → Nat
  | .outside _ donation => donation
  | _ => 0

/-- The addresses whose signatures a call carries. -/
def GasCall.signers : GasCall → List Pubkey
  | .gas instruction => instruction.signers
  | .operators instruction => instruction.signers
  | .outside _ _ => []

/-- What a call pays out to the treasury itself: nothing has moved, and yet it is reported. -/
def GasCall.returned (treasury : Pubkey) (call : GasCall) : Nat :=
  match call.payout? with
  | some (receiver, amount) => if receiver = treasury then amount.toNat else 0
  | none => 0

/-! ## One call -/

/-- **What one call does to the treasury and to the events.** -/
structure Books (treasury : Pubkey) (call : GasCall) (w w' : GasWorld) : Prop where
  stored : w'.ledger.treasury = some treasury
  balance : w'.ledger.lamports treasury + w'.ledger.outflow + w.ledger.inflow
    = w.ledger.lamports treasury + call.donation + w.ledger.outflow + w'.ledger.inflow
      + call.returned treasury
  gains : call.payout? = none → w.ledger.lamports treasury ≤ w'.ledger.lamports treasury

/-- A call that pays out, with what it has checked. -/
structure Spends (env : Env) (treasury receiver : Pubkey) (amount : UInt64) (call : GasCall)
    (w w' : GasWorld) : Prop where
  signed : ∃ operator ∈ call.signers, ∃ key account,
    Operators.operatorPda env.toEnv operator key w.operators = .ok account
  nonzero : amount ≠ 0
  balance : w'.ledger.lamports treasury + (if receiver = treasury then 0 else amount.toNat)
    = w.ledger.lamports treasury
  exempt : env.IsExempt (w'.ledger.lamports treasury)

/-- What a payout has checked, for the call that an operator signs. -/
theorem Spends.of_payOut {operator : AccountInfo} {operatorPda receiver : Pubkey} {amount : UInt64}
    {ledger : Ledger} (out : PaidOut env operator operatorPda treasury receiver amount w.operators
      w.ledger.toGasState ledger.toGasState) (listed : operator.key ∈ call.signers) :
    Spends env treasury receiver amount call w { w with ledger } where
  signed := by
    obtain ⟨account, registered⟩ := out.registered
    exact ⟨operator.key, listed, operatorPda, account, registered⟩
  nonzero := out.nonzero
  balance := out.balance
  exempt := out.exempt

/-- **Every call that pays out** is signed by an operator and leaves the treasury rent exempt. -/
theorem step_spends (h : step env call w = .ok w') (stored : w.ledger.treasury = some treasury)
    {receiver : Pubkey} {amount : UInt64} (pays : call.payout? = some (receiver, amount)) :
    Spends env treasury receiver amount call w w' := by
  cases call with
  | operators i => cases pays
  | outside lamports donation => cases pays
  | gas i =>
    cases i with
    | collectFees a amount =>
      cases pays
      simp only [step, process, collectFees, bind_eq_ok, pure_eq_ok] at h
      obtain ⟨ledger, ⟨gas, paid, rfl⟩, rfl⟩ := h
      have out := payOut_ok paid
      cases stored.symm.trans out.stored
      exact .of_payOut out (mem_signersOfInfos.mpr ⟨a.operator, by simp, out.signed, rfl⟩)
    | refundFees a messageId amount =>
      cases pays
      simp only [step, process, refundFees, bind_eq_ok, pure_eq_ok] at h
      obtain ⟨ledger, ⟨gas, paid, rfl⟩, rfl⟩ := h
      have out := payOut_ok paid
      cases stored.symm.trans out.stored
      exact .of_payOut out (mem_signersOfInfos.mpr ⟨a.operator, by simp, out.signed, rfl⟩)
    | _ => cases pays

/-- **A deposit keeps the books**: what comes in is reported by one event. -/
theorem Books.of_deposit {ledger : Ledger} {amount : Nat} (idle : call.donation = 0)
    (noPayout : call.payout? = none) (stored : ledger.treasury = some treasury)
    (credited : ledger.lamports treasury = w.ledger.lamports treasury + amount)
    (inflow : ledger.inflow = w.ledger.inflow + amount) (outflow : ledger.outflow = w.ledger.outflow) :
    Books treasury call w { w with ledger } where
  stored := stored
  balance := by
    have returned : call.returned treasury = 0 := by rw [GasCall.returned, noPayout]
    show ledger.lamports treasury + ledger.outflow + w.ledger.inflow = _ + ledger.inflow + _
    omega
  gains _ := by
    show w.ledger.lamports treasury ≤ ledger.lamports treasury
    omega

/-- **A payout keeps the books**: what goes out is reported by one event, and it goes out unless the
treasury itself receives it. -/
theorem Books.of_payout {ledger : Ledger} {receiver : Pubkey} {amount : UInt64}
    (idle : call.donation = 0) (payout : call.payout? = some (receiver, amount))
    (stored : ledger.treasury = some treasury)
    (moved : ledger.lamports treasury + (if receiver = treasury then 0 else amount.toNat)
      = w.ledger.lamports treasury)
    (inflow : ledger.inflow = w.ledger.inflow)
    (outflow : ledger.outflow = w.ledger.outflow + amount.toNat) :
    Books treasury call w { w with ledger } where
  stored := stored
  balance := by
    show ledger.lamports treasury + ledger.outflow + w.ledger.inflow = _ + ledger.inflow + _
    rw [GasCall.returned, payout]
    dsimp only
    by_cases itself : receiver = treasury
    · rw [if_pos itself] at moved ⊢
      omega
    · rw [if_neg itself] at moved ⊢
      omega
  gains noPayout := by
    rw [payout] at noPayout
    cases noPayout

/-- **Every call keeps the books**, but for what the treasury is paid out of itself. -/
theorem step_books (h : step env call w = .ok w') (stored : w.ledger.treasury = some treasury) :
    Books treasury call w w' := by
  cases call with
  | operators i =>
    simp only [step, bind_eq_ok, pure_eq_ok] at h
    obtain ⟨operators, -, rfl⟩ := h
    exact ⟨stored, rfl, fun _ => le_rfl⟩
  | outside lamports donation =>
    simp only [step, pure_eq_ok] at h
    subst h
    refine ⟨stored, ?_, fun _ => ?_⟩
    · simp only [stored, if_true, GasCall.donation, GasCall.returned, GasCall.payout?,
        Ledger.inflow, Ledger.outflow]
      omega
    · simp only [stored, if_true]
      omega
  | gas i =>
    simp only [step, bind_eq_ok, pure_eq_ok] at h
    obtain ⟨ledger, processed, rfl⟩ := h
    cases i with
    | initializeTreasury a =>
      simp only [process, initializeTreasury, bind_eq_ok, Syscalls.initPda_eq_ok] at processed
      obtain ⟨_, -, _, -, _, -, bump, ⟨fresh, -⟩, -⟩ := processed
      cases stored.symm.trans fresh
    | payGas a destinationChain destinationAddress payloadHash amount refundAddress =>
      simp only [process, payGas, bind_eq_ok, require_eq_ok, okOr_eq_ok, pure_eq_ok] at processed
      obtain ⟨gas, ⟨_, -, key, here, _, -, _, -, lamports, moved, rfl⟩, rfl⟩ := processed
      cases stored.symm.trans here
      refine .of_deposit rfl rfl here (transferToTreasury_ok moved) ?_ rfl
      simp only [Ledger.inflow, List.map_append, List.sum_append, List.map_singleton,
        List.sum_singleton]
      omega
    | addGas a messageId amount refundAddress =>
      simp only [process, addGas, bind_eq_ok, require_eq_ok, okOr_eq_ok, pure_eq_ok] at processed
      obtain ⟨_, -, key, here, _, -, _, -, lamports, moved, rfl⟩ := processed
      cases stored.symm.trans here
      refine .of_deposit rfl rfl here (transferToTreasury_ok moved) ?_ rfl
      simp only [Ledger.inflow, List.map_append, List.sum_append, List.map_singleton,
        List.sum_singleton]
      omega
    | collectFees a amount =>
      simp only [process, collectFees, bind_eq_ok, pure_eq_ok] at processed
      obtain ⟨gas, paid, rfl⟩ := processed
      have out := payOut_ok paid
      cases stored.symm.trans out.stored
      obtain ⟨kept, events⟩ := out.kept
      have inflow : gas.paid = w.ledger.paid := events
      refine .of_payout rfl rfl (kept.trans stored) out.balance (by simp only [Ledger.inflow, inflow])
        ?_
      simp only [Ledger.outflow, List.map_append, List.sum_append, List.map_singleton,
        List.sum_singleton]
      omega
    | refundFees a messageId amount =>
      simp only [process, refundFees, bind_eq_ok, pure_eq_ok] at processed
      obtain ⟨gas, paid, rfl⟩ := processed
      have out := payOut_ok paid
      cases stored.symm.trans out.stored
      obtain ⟨kept, events⟩ := out.kept
      have inflow : gas.paid = w.ledger.paid := events
      refine .of_payout rfl rfl (kept.trans stored) out.balance (by simp only [Ledger.inflow, inflow])
        ?_
      simp only [Ledger.outflow, List.map_append, List.sum_append, List.map_singleton,
        List.sum_singleton]
      omega

/-! ## Every run -/

/-- A program whose treasury holds `initial` lamports and which has reported nothing yet. -/
def GasWorld.start (operators : Operators.OperatorsState) (treasury : Pubkey) (initial : Nat)
    (others : Pubkey → Nat) : GasWorld :=
  ⟨operators, ⟨⟨some treasury, Function.update others treasury initial, []⟩, [], [], []⟩⟩

/-- What others have donated. -/
def donations (tr : List (Transition GasWorld GasCall)) : Nat :=
  (tr.map fun t => t.call.donation).sum

/-- What has been paid out to the treasury itself. -/
def returns (treasury : Pubkey) (tr : List (Transition GasWorld GasCall)) : Nat :=
  (tr.map fun t => t.call.returned treasury).sum

/-- **The books of a run** from `initial` lamports: the events are off by what was returned. -/
structure Booked (treasury : Pubkey) (initial : Nat) (tr : List (Transition GasWorld GasCall))
    (w : GasWorld) : Prop where
  stored : w.ledger.treasury = some treasury
  storedBefore : ∀ t ∈ tr, t.pre.ledger.treasury = some treasury
  balance : w.ledger.lamports treasury + w.ledger.outflow
    = initial + donations tr + w.ledger.inflow + returns treasury tr

/-- **Every run is booked.** -/
theorem booked_run (env : Env) (operators : Operators.OperatorsState) (treasury : Pubkey)
    (initial : Nat) (others : Pubkey → Nat) (calls : List GasCall) :
    let start := GasWorld.start operators treasury initial others
    Booked treasury initial (trace (step env) start calls) (run (step env) start calls) := by
  intro start
  have init : Booked treasury initial [] start := by
    refine ⟨rfl, fun _ mem => absurd mem List.not_mem_nil, ?_⟩
    rw [show start.ledger.lamports treasury = initial from Function.update_self ..]
    rfl
  have keep : ∀ tr w call w', Booked treasury initial tr w → step env call w = .ok w' →
      Booked treasury initial (tr ++ [⟨w, call, w'⟩]) w' := by
    intro tr w call w' booked stepped
    have books := step_books stepped booked.stored
    refine ⟨books.stored, ?_, ?_⟩
    · intro t mem
      rcases List.mem_append.mp mem with mem | mem
      · exact booked.storedBefore t mem
      · rw [List.mem_singleton.mp mem]
        exact booked.stored
    · have before := booked.balance
      have moved := books.balance
      simp only [donations, returns, List.map_append, List.sum_append, List.map_singleton,
        List.sum_singleton] at before ⊢
      omega
  exact run_trace_induction (P := Booked treasury initial) init keep calls

/-- **What is claimed of a treasury** that held `initial` lamports: the events account for its
balance, a payment leaves it rent exempt, and operators sign for what leaves it. -/
structure TreasurySound (env : Env) (treasury : Pubkey) (initial : Nat)
    (tr : List (Transition GasWorld GasCall)) (w : GasWorld) : Prop where
  balance : (w.ledger.lamports treasury : Int)
    = initial + donations tr + w.ledger.inflow - w.ledger.outflow
  exempt : ∀ t ∈ tr, t.call.payout?.isSome → env.IsExempt (t.post.ledger.lamports treasury)
  signed : ∀ t ∈ tr, t.post.ledger.lamports treasury < t.pre.ledger.lamports treasury →
    ∃ operator ∈ t.call.signers, ∃ key account,
      Operators.operatorPda env.toEnv operator key t.pre.operators = .ok account

/-- **The ledger of the treasury**, over every run. A payment always leaves it rent exempt and
lamports leave it only with the signature of an operator; the events account for its balance exactly
in the runs in which it is never paid out to itself. -/
theorem treasurySound_iff (env : Env) (operators : Operators.OperatorsState) (treasury : Pubkey)
    (initial : Nat) (others : Pubkey → Nat) (calls : List GasCall) :
    let start := GasWorld.start operators treasury initial others
    TreasurySound env treasury initial (trace (step env) start calls) (run (step env) start calls) ↔
      ∀ t ∈ trace (step env) start calls, ∀ receiver amount,
        t.call.payout? = some (receiver, amount) → receiver ≠ treasury := by
  intro start
  have booked : Booked treasury initial (trace (step env) start calls) (run (step env) start calls) :=
    booked_run env operators treasury initial others calls
  have spends : ∀ t ∈ trace (step env) start calls, ∀ receiver amount,
      t.call.payout? = some (receiver, amount) →
        Spends env treasury receiver amount t.call t.pre t.post :=
    fun t mem _ _ pays => step_spends (step_of_mem_trace mem) (booked.storedBefore t mem) pays
  have balance := booked.balance
  constructor
  · -- what was returned is nothing, though whatever is paid out is something
    rintro ⟨claimed, -, -⟩ t mem receiver amount pays rfl
    have nothing : returns receiver (trace (step env) start calls) = 0 := by omega
    have unreturned := List.sum_eq_zero_iff.mp nothing _ (List.mem_map_of_mem mem)
    rw [GasCall.returned, pays] at unreturned
    simp only [if_true] at unreturned
    exact (spends t mem receiver amount pays).nonzero (UInt64.toNat_inj.mp unreturned)
  · intro apart
    -- nothing is returned when every receiver is another account
    have nothing : returns treasury (trace (step env) start calls) = 0 := by
      refine List.sum_eq_zero fun n among => ?_
      obtain ⟨t, mem, rfl⟩ := List.mem_map.mp among
      rw [GasCall.returned]
      split
      · next receiver amount pays => exact if_neg (apart t mem receiver amount pays)
      · rfl
    refine ⟨by omega, ?_, ?_⟩
    · intro t mem pays
      obtain ⟨⟨receiver, amount⟩, pays⟩ := Option.isSome_iff_exists.mp pays
      exact (spends t mem receiver amount pays).exempt
    · intro t mem less
      cases pays : t.call.payout? with
      | none =>
        have gains := (step_books (step_of_mem_trace mem) (booked.storedBefore t mem)).gains pays
        omega
      | some payout => exact (spends t mem payout.1 payout.2 pays).signed

/-! ## A payment to the treasury itself -/

/-- An environment in which nine bytes ask for nine lamports, with the registry of operators of the
sample. -/
def sampleEnv : Env where
  toEnv := Operators.sampleEnv
  gasServiceId := Operators.sampleKey 101
  minimumBalance space := space

/-- The registry in which the sample's first operator is registered. -/
def sampleOperators : Operators.OperatorsState :=
  run (Operators.process Operators.sampleEnv) .initial (Operators.sampleCalls.take 2)

/-- The operator collects five lamports to the treasury itself. -/
def sampleCollect (treasury : Pubkey) : GasCall :=
  .gas (.collectFees ⟨⟨Operators.sampleKey 1, true⟩,
    Operators.sampleOperatorAccount (Operators.sampleKey 1), treasury, treasury⟩ 5)

/-- **Five lamports are reported as collected, and none has left.** -/
theorem not_treasurySound :
    ¬ ∀ (env : Env) (operators : Operators.OperatorsState) (treasury : Pubkey) (initial : Nat)
      (others : Pubkey → Nat) (calls : List GasCall),
      let start := GasWorld.start operators treasury initial others
      TreasurySound env treasury initial (trace (step env) start calls)
        (run (step env) start calls) := by
  intro claimed
  have sound := claimed sampleEnv sampleOperators (Operators.sampleKey 50) 100 (fun _ => 0)
    [sampleCollect (Operators.sampleKey 50)]
  have unbalanced : ¬ (100 : Int) = 100 + 0 + 0 - 5 := by decide
  exact unbalanced sound.balance

end AxelarSolana.GasService
