import AxelarSolana.GasService.Ledger
import AxelarSolana.Library.Component

/-! # Who spends from the treasury

The treasury trusts another program: whoever has an account in the registry of operators may spend.
Over runs of both programs together:

* **`registry_component`** — the registry is a component of the gas service, which only its own
  instructions change.
* **`registryCalls`** — the committed instructions of the registry.
* **`collect_isOk_iff`** — what it takes to collect fees.
* **`registered_operators_spend`** — lamports leave the treasury with the signature of an operator
  that is registered at that moment, and every one of these can collect all that exceeds the rent. -/

namespace AxelarSolana.GasService

open Fallible Machine
open Operators (OperatorsInstruction Registered Named Tabled)

variable {env : Env} {w w' : GasWorld} {call : GasCall}

/-! ## The registry inside -/

/-- The instruction of the registry that a call is. -/
def GasCall.registry? : GasCall → Option OperatorsInstruction
  | .operators instruction => some instruction
  | _ => none

/-- **The registry is a component.** The gas service only reads it. -/
theorem registry_component (env : Env) :
    Component (step env) (Operators.process env.toEnv) GasWorld.operators GasCall.registry? where
  other call w w' silent h := by
    cases call with
    | gas instruction =>
      simp only [step, bind_eq_ok, pure_eq_ok] at h
      obtain ⟨ledger, -, rfl⟩ := h
      rfl
    | operators instruction => cases silent
    | outside lamports donation =>
      simp only [step, pure_eq_ok] at h
      rw [← h]
  accepted call instruction w w' belongs h := by
    cases call with
    | gas instruction => cases belongs
    | outside lamports donation => cases belongs
    | operators instruction =>
      cases belongs
      simp only [step, bind_eq_ok, pure_eq_ok] at h
      obtain ⟨operators, processed, rfl⟩ := h
      exact processed
  rejected call instruction w e belongs h := by
    cases call with
    | gas instruction => cases belongs
    | outside lamports donation => cases belongs
    | operators instruction =>
      cases belongs
      simp only [step, bind_eq_error, pure_ne_error, and_false, exists_false, or_false] at h
      exact ⟨e, h⟩

/-- Both programs before any call, on a chain with the given balances. -/
def GasWorld.genesis (lamports : Pubkey → Nat) : GasWorld :=
  ⟨.initial, ⟨⟨none, lamports, []⟩, [], [], []⟩⟩

/-- **The committed instructions of the registry**, in order. -/
def registryCalls (tr : List (Transition GasWorld GasCall)) : List OperatorsInstruction :=
  tr.filterMap fun t => t.call.registry?

/-- They are those that the registry commits by itself. -/
theorem registryCalls_eq (env : Env) (lamports : Pubkey → Nat) (calls : List GasCall) :
    registryCalls (trace (step env) (.genesis lamports) calls) =
      Operators.committedOf (trace (Operators.process env.toEnv) .initial
        (calls.filterMap GasCall.registry?)) := by
  have same := (registry_component env).trace_eq (.genesis lamports) calls
  rw [show (GasWorld.genesis lamports).operators = .initial from rfl] at same
  rw [Operators.committedOf, ← same, List.map_filterMap, registryCalls]
  congr 1
  funext t
  rw [restrict, Option.map_map]
  exact Option.map_id_apply.symm

/-- **The accounts of the registry**, after any run of both programs. -/
theorem tabled_joint {lamports : Pubkey → Nat} {calls : List GasCall}
    (apart : env.Apart (Named (registryCalls (trace (step env) (.genesis lamports) calls)))) :
    Tabled env.toEnv (registryCalls (trace (step env) (.genesis lamports) calls))
      (run (step env) (.genesis lamports) calls).operators := by
  rw [registryCalls_eq] at apart ⊢
  rw [(registry_component env).run_eq]
  exact Operators.tabled_run env.toEnv _ apart

/-! ## What it takes -/

/-- **What it takes to collect fees** for another account: the account of an operator, and lamports
beyond the rent that the receiver can hold. -/
theorem collect_isOk_iff {operator treasury receiver : Pubkey} {amount : UInt64}
    (other : receiver ≠ treasury) :
    (∃ operatorPda w', step env (.gas (.collectFees ⟨⟨operator, true⟩, operatorPda, treasury,
        receiver⟩ amount)) w = .ok w') ↔
      (∃ key account, Operators.operatorPda env.toEnv operator key w.operators = .ok account) ∧
      w.ledger.treasury = some treasury ∧ amount ≠ 0 ∧
      amount.toNat + env.minimumBalance Treasury.space ≤ w.ledger.lamports treasury ∧
      w.ledger.lamports receiver + amount.toNat < 2 ^ 64 := by
  -- the instruction succeeds when its payment does: the event never fails
  have spread (operatorPda : Pubkey) :
      (∃ w', step env (.gas (.collectFees ⟨⟨operator, true⟩, operatorPda, treasury, receiver⟩
          amount)) w = .ok w') ↔
        ∃ gas, payOut env ⟨operator, true⟩ operatorPda treasury receiver amount w.operators
          w.ledger.toGasState = .ok gas := by
    simp only [step, process, collectFees, bind_eq_ok, pure_eq_ok]
    constructor
    · rintro ⟨w', ledger, ⟨gas, paid, -⟩, -⟩
      exact ⟨gas, paid⟩
    · rintro ⟨gas, paid⟩
      exact ⟨_, _, ⟨gas, paid, rfl⟩, rfl⟩
  simp only [spread, payOut, transferLamports, bind_eq_ok, require_eq_ok, okOr_eq_ok, pure_eq_ok]
  constructor
  · rintro ⟨operatorPda, gas, _, -, account, registered, _, stored, _, rfl, _, nonzero, lamports,
      ⟨_, enough, _, bound, rfl⟩, _, exempt, -⟩
    rw [Function.update_of_ne other] at bound
    rw [Env.IsExempt, Function.update_of_ne (Ne.symm other), Function.update_self] at exempt
    refine ⟨⟨operatorPda, account, registered⟩, stored, nonzero, ?_, bound⟩
    omega
  · rintro ⟨⟨operatorPda, account, registered⟩, stored, nonzero, enough, bound⟩
    refine ⟨operatorPda, _, (), trivial, account, registered, treasury, stored, (), rfl, (), nonzero, _,
      ⟨(), by omega, (), ?_, rfl⟩, (), ?_, rfl⟩
    · rw [Function.update_of_ne other]
      exact bound
    · rw [Env.IsExempt, Function.update_of_ne (Ne.symm other), Function.update_self]
      omega

/-- The treasury is set up with the signature of an operator. -/
theorem step_initializes (h : step env call w = .ok w') (fresh : w.ledger.treasury = none)
    (created : w'.ledger.treasury ≠ none) :
    ∃ operator ∈ call.signers, ∃ key account,
      Operators.operatorPda env.toEnv operator key w.operators = .ok account := by
  cases call with
  | operators i =>
    simp only [step, bind_eq_ok, pure_eq_ok] at h
    obtain ⟨operators, -, rfl⟩ := h
    exact absurd fresh created
  | outside lamports donation =>
    simp only [step, pure_eq_ok] at h
    subst h
    exact absurd fresh created
  | gas i =>
    simp only [step, bind_eq_ok, pure_eq_ok] at h
    obtain ⟨ledger, processed, rfl⟩ := h
    cases i with
    | initializeTreasury a =>
      simp only [process, initializeTreasury, bind_eq_ok, require_eq_ok, okOr_eq_ok,
        Operators.operatorSeeds_eq_ok] at processed
      obtain ⟨_, -, _, signed, account, present, bump, -, lamports, -, _, address, -⟩ := processed
      -- only this instruction creates the treasury, and it asks for an operator's signature
      exact ⟨a.operator.key, mem_signersOfInfos.mpr ⟨a.operator, by simp, signed, rfl⟩,
        a.operatorPda, account, Operators.operatorPda_eq_ok.mpr ⟨present, address⟩⟩
    | payGas a destinationChain destinationAddress payloadHash amount refundAddress =>
      simp only [process, payGas, bind_eq_ok, require_eq_ok, okOr_eq_ok] at processed
      obtain ⟨gas, ⟨_, -, key, stored, -⟩, -⟩ := processed
      cases stored.symm.trans fresh
    | addGas a messageId amount refundAddress =>
      simp only [process, addGas, bind_eq_ok, require_eq_ok, okOr_eq_ok] at processed
      obtain ⟨_, -, key, stored, -⟩ := processed
      cases stored.symm.trans fresh
    | collectFees a amount =>
      simp only [process, collectFees, bind_eq_ok] at processed
      obtain ⟨gas, paid, -⟩ := processed
      cases (payOut_ok paid).stored.symm.trans fresh
    | refundFees a messageId amount =>
      simp only [process, refundFees, bind_eq_ok] at processed
      obtain ⟨gas, paid, -⟩ := processed
      cases (payOut_ok paid).stored.symm.trans fresh

/-! ## Every run -/

/-- Whoever has an account when a call is made has been registered by the calls before. -/
theorem registered_of_operatorPda {lamports : Pubkey → Nat} {calls : List GasCall}
    {before after : List (Transition GasWorld GasCall)} {t : Transition GasWorld GasCall}
    (split : trace (step env) (.genesis lamports) calls = before ++ t :: after) {operator : Pubkey}
    (accepted : ∃ key account,
      Operators.operatorPda env.toEnv operator key t.pre.operators = .ok account)
    (apart : env.Apart fun x => x = operator ∨ Named (registryCalls before) x) :
    Registered operator (registryCalls before) := by
  obtain ⟨earlier, later, -, past, here⟩ := exists_calls_of_trace_eq split
  have tabled : Tabled env.toEnv (registryCalls before) t.pre.operators := by
    rw [← past, ← here]
    refine tabled_joint ?_
    rw [past]
    exact apart.mono fun _ => .inr
  exact (tabled.accepts_iff apart).mp accepted

/-- **The operators that are registered spend**, and nobody else. Over every run of the gas service
and the registry of operators from their beginnings, whatever others do in between, when the operators
have addresses of their own:

1. every call that takes lamports out of the treasury is a payout, signed by an operator that is
   registered at that moment: the last committed call about it has added it;
2. every committed call of the registry is signed by the owner at that moment;
3. the treasury is set up by such an operator, too;
4. an operator can collect an amount for another account exactly when it is registered, the amount
   is not 0, the rest of the treasury is rent exempt and the receiver's balance does not overflow. -/
theorem registered_operators_spend (env : Env) (lamports : Pubkey → Nat) (calls : List GasCall) :
    let tr := trace (step env) (.genesis lamports) calls
    let w := run (step env) (.genesis lamports) calls
    (∀ before t after treasury, tr = before ++ t :: after →
      t.pre.ledger.treasury = some treasury →
      t.post.ledger.lamports treasury < t.pre.ledger.lamports treasury →
      t.call.payout?.isSome ∧ ∃ operator ∈ t.call.signers,
        env.Apart (fun x => x = operator ∨ Named (registryCalls before) x) →
          Registered operator (registryCalls before)) ∧
    (∀ t ∈ tr, t.call.registry?.isSome → ∀ registry,
      t.pre.operators.registry = some registry → registry.owner ∈ t.call.signers) ∧
    (∀ before t after, tr = before ++ t :: after → t.pre.ledger.treasury = none →
      t.post.ledger.treasury ≠ none → ∃ operator ∈ t.call.signers,
        env.Apart (fun x => x = operator ∨ Named (registryCalls before) x) →
          Registered operator (registryCalls before)) ∧
    ∀ operator treasury receiver amount, receiver ≠ treasury →
      env.Apart (fun x => x = operator ∨ Named (registryCalls tr) x) →
      ((∃ operatorPda w', step env (.gas (.collectFees ⟨⟨operator, true⟩, operatorPda, treasury,
          receiver⟩ amount)) w = .ok w') ↔
        Registered operator (registryCalls tr) ∧ w.ledger.treasury = some treasury ∧ amount ≠ 0 ∧
        amount.toNat + env.minimumBalance Treasury.space ≤ w.ledger.lamports treasury ∧
        w.ledger.lamports receiver + amount.toNat < 2 ^ 64) := by
  intro tr w
  have stepped {before after : List (Transition GasWorld GasCall)} {t : Transition GasWorld GasCall}
      (split : tr = before ++ t :: after) : step env t.call t.pre = .ok t.post :=
    step_of_mem_trace (show t ∈ tr by rw [split]; simp)
  refine ⟨?_, ?_, ?_, ?_⟩
  · intro before t after treasury split stored less
    -- a call that pays nothing out does not lower the treasury
    have pays : t.call.payout?.isSome := by
      by_contra silent
      have gains := (step_books (stepped split) stored).gains (Option.not_isSome_iff_eq_none.mp silent)
      omega
    obtain ⟨⟨receiver, amount⟩, payout⟩ := Option.isSome_iff_exists.mp pays
    obtain ⟨operator, signs, accepted⟩ := (step_spends (stepped split) stored payout).signed
    exact ⟨pays, operator, signs, registered_of_operatorPda split accepted⟩
  · intro t mem belongs registry stored
    have ok := step_of_mem_trace mem
    obtain ⟨pre, call, post⟩ := t
    cases call with
    | gas instruction => cases belongs
    | outside lamports donation => cases belongs
    | operators instruction =>
      have processed := (registry_component env).accepted _ instruction _ _ rfl ok
      exact (Operators.process_effect processed).owner_signs stored
  · intro before t after split fresh created
    obtain ⟨operator, signs, accepted⟩ := step_initializes (stepped split) fresh created
    exact ⟨operator, signs, registered_of_operatorPda split accepted⟩
  · intro operator treasury receiver amount other apart
    rw [collect_isOk_iff other]
    exact and_congr_left fun _ =>
      (tabled_joint (apart.mono fun _ => .inr)).accepts_iff apart

/-! ## A run of both programs -/

/-- The treasury of the sample. -/
def sampleTreasury : Pubkey :=
  ((sampleEnv.tryFindProgramAddress [Treasury.seedPrefix] sampleEnv.gasServiceId).map
    Prod.fst).getD (Operators.sampleKey 0)

/-- An operator collects five lamports for a wallet. -/
def sampleCollects (operator : Pubkey) : GasCall :=
  .gas (.collectFees ⟨⟨operator, true⟩, Operators.sampleOperatorAccount operator, sampleTreasury,
    Operators.sampleKey 9⟩ 5)

/-- Two operators are registered, and the first of them sets up the treasury. -/
def sampleSetUp : List GasCall :=
  (Operators.sampleCalls.take 3).map .operators ++
    [.gas (.initializeTreasury ⟨⟨Operators.sampleKey 9, true⟩, ⟨Operators.sampleKey 1, true⟩,
      Operators.sampleOperatorAccount (Operators.sampleKey 1), sampleTreasury⟩)]

/-- The first operator collects before it is removed. -/
def sampleJoint : List GasCall :=
  sampleSetUp ++ sampleCollects (Operators.sampleKey 1) ::
    (Operators.sampleCalls.drop 3).map .operators

/-- The balances before any call. -/
def sampleLamports (_ : Pubkey) : Nat := 1000

/-- Whoever collects in the sample run is registered at that moment; after it the operator that stays
may collect, and the one that was removed may not. -/
theorem registered_operators_spend_sample :
    let w := run (step sampleEnv) (.genesis sampleLamports) sampleJoint
    (∃ operator ∈ (sampleCollects (Operators.sampleKey 1)).signers,
      Registered operator (Operators.sampleCalls.take 3)) ∧
    (∃ operatorPda w', step sampleEnv (.gas (.collectFees ⟨⟨Operators.sampleKey 2, true⟩,
      operatorPda, sampleTreasury, Operators.sampleKey 9⟩ 5)) w = .ok w') ∧
    ¬ ∃ operatorPda w', step sampleEnv (.gas (.collectFees ⟨⟨Operators.sampleKey 1, true⟩,
      operatorPda, sampleTreasury, Operators.sampleKey 9⟩ 5)) w = .ok w' := by
  intro w
  have whole : registryCalls (trace (step sampleEnv) (.genesis sampleLamports) sampleJoint)
      = Operators.sampleCalls := by decide +kernel
  have earlier : registryCalls (trace (step sampleEnv) (.genesis sampleLamports) sampleSetUp)
      = Operators.sampleCalls.take 3 := by decide +kernel
  have apart (operator : Pubkey)
      (one : operator = Operators.sampleKey 1 ∨ operator = Operators.sampleKey 2)
      (calls : List OperatorsInstruction) (part : calls ⊆ Operators.sampleCalls) :
      sampleEnv.Apart fun x => x = operator ∨ Named calls x := by
    refine Operators.sampleEnv_apart.mono ?_
    rintro x (rfl | ⟨i, mem, about⟩)
    · exact one
    · exact Operators.named_sampleCalls ⟨i, part mem, about⟩
  obtain ⟨spends, -, -, collects⟩ :=
    registered_operators_spend sampleEnv sampleLamports sampleJoint
  rw [whole] at collects
  refine ⟨?_, ?_, ?_⟩
  · -- the payment of the run, with the calls before it
    have split : trace (step sampleEnv) (.genesis sampleLamports) sampleJoint
        = trace (step sampleEnv) (.genesis sampleLamports) sampleSetUp ++
          ⟨run (step sampleEnv) (.genesis sampleLamports) sampleSetUp,
            sampleCollects (Operators.sampleKey 1), _⟩ :: _ := rfl
    obtain ⟨-, operator, signs, registered⟩ := spends _ _ _ sampleTreasury split (by decide +kernel)
      (by decide +kernel)
    refine ⟨operator, signs, ?_⟩
    rw [earlier] at registered
    have signer : operator = Operators.sampleKey 1 := by
      simpa [sampleCollects, GasCall.signers, GasInstruction.signers, signersOfInfos] using signs
    exact registered (apart operator (.inl signer) _ (List.take_subset _ _))
  · refine (collects _ sampleTreasury _ 5 (by decide) (apart _ (.inr rfl) _ (List.Subset.refl _))).mpr
      ⟨⟨_, rfl, rfl⟩, by decide +kernel, by decide, by decide +kernel, by decide +kernel⟩
  · rw [collects _ sampleTreasury _ 5 (by decide) (apart _ (.inl rfl) _ (List.Subset.refl _))]
    rintro ⟨⟨i, last, adds⟩, -⟩
    cases last
    cases adds

end AxelarSolana.GasService
