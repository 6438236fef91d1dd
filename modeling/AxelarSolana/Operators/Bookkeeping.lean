import AxelarSolana.Library.History
import AxelarSolana.Library.Machine
import AxelarSolana.Library.Occupancy
import AxelarSolana.Operators.Registry

/-! # The books of the registry

The number of operators is kept in one account, and the operators are accounts of their own.

* **`Counted`** — the number is that of the accounts that exist.
* **`Registered`**, **`Tabled`** — an operator is registered when the last call about it has added
  it; the accounts that exist are those of the registered operators.
* **`operator_bookkeeping`** — both over every run, with whose signature moved what. -/

namespace AxelarSolana.Operators

open Fallible Machine Occupancy

variable {env : Env} {s s' : OperatorsState} {i : OperatorsInstruction}

/-! ## The number of operators -/

/-- **The registry counts the accounts of operators that exist.** -/
structure Counted (s : OperatorsState) : Prop where
  count : ∀ registry, s.registry = some registry →
    (occupied s.operators).encard = registry.operatorCount.toNat
  none : s.registry = none → ∀ key, s.operators key = none

/-- At the beginning there is nothing to count. -/
theorem counted_initial : Counted .initial where
  count _ stored := by cases stored
  none _ _ := rfl

/-- **Every instruction keeps the count.** -/
theorem Effect.counted (h : Effect env s i s') (before : Counted s) : Counted s' := by
  cases h with
  | initialises a bump signed fresh =>
    refine ⟨?_, fun absent => by cases absent⟩
    rintro registry ⟨rfl⟩
    rw [occupied_eq_empty (before.none fresh), Set.encard_empty]
    rfl
  | adds a registry bump operatorCount signed stored owner absent address counted =>
    refine ⟨?_, fun absent => by cases absent⟩
    rintro registry' ⟨rfl⟩
    rw [encard_occupied_create absent, before.count registry stored, toNat_of_checkedAdd counted]
    rfl
  | removes a registry account operatorCount signed stored owner present address counted =>
    refine ⟨?_, fun absent => by cases absent⟩
    rintro registry' ⟨rfl⟩
    have left := encard_occupied_close present
    rw [before.count registry stored, ← toNat_of_checkedSub counted] at left
    exact WithTop.add_right_cancel ENat.one_ne_top left
  | transfers a registry signed stored owner other =>
    refine ⟨?_, fun absent => by cases absent⟩
    rintro registry' ⟨rfl⟩
    exact before.count registry stored

/-- **The count is right in every state that a run reaches.** -/
theorem counted_run (env : Env) (calls : List OperatorsInstruction) :
    Counted (run (process env) .initial calls) :=
  run_invariant counted_initial (fun _ _ _ before success => (process_effect success).counted before)
    calls

/-- **Removing an operator never underflows**: an account that exists has been counted. -/
theorem Counted.removeOperator_ne (counted : Counted s) (a : RemoveOperator) :
    process env (.removeOperator a) s ≠ .error (.program .invalidAccountData) := by
  intro h
  simp only [process, removeOperator, registrySeeds, operatorSeeds, bind_eq_error, require_eq_error,
    okOr_eq_error, okOr_eq_ok, pure_ne_error, reduceCtorEq, and_false, exists_false, false_or,
    or_false, ErrorCode.err] at h
  obtain ⟨_, -, registry, stored, account, present, _, -, _, -, _, -, underflow⟩ := h
  have size := counted.count registry stored
  have positive : 0 < (occupied s.operators).encard :=
    Set.encard_pos.mpr ⟨a.operatorAccount, account, present⟩
  rw [size] at positive
  have counts : 0 < registry.operatorCount.toNat := by exact_mod_cast positive
  have below := checkedSub_eq_none.mp underflow.1
  rw [UInt64.toNat_one] at below
  omega

/-! ## Who is registered -/

/-- The operator that an instruction adds or removes. -/
def OperatorsInstruction.operator? : OperatorsInstruction → Option Pubkey
  | .addOperator a => some a.operatorToAdd
  | .removeOperator a => some a.operatorToRemove
  | _ => none

/-- Whether an instruction adds or removes an operator. -/
def OperatorsInstruction.isAbout (operator : Pubkey) (i : OperatorsInstruction) : Bool :=
  i.operator? = some operator

/-- Whether an instruction adds an operator. -/
def OperatorsInstruction.adds : OperatorsInstruction → Bool
  | .addOperator _ => true
  | _ => false

/-- **An operator is registered** after some calls when the last one about it has added it. -/
def Registered (operator : Pubkey) (committed : List OperatorsInstruction) : Prop :=
  ∃ i, History.last? (OperatorsInstruction.isAbout operator) committed = some i ∧ i.adds = true

variable {operator : Pubkey} {committed : List OperatorsInstruction}

/-- At the beginning nobody is registered. -/
theorem not_registered_nil : ¬ Registered operator [] := by
  rintro ⟨i, last, -⟩
  cases last

/-- The last call about an operator decides. -/
theorem registered_append_of_eq (h : i.operator? = some operator) :
    Registered operator (committed ++ [i]) ↔ i.adds = true := by
  have about : i.isAbout operator = true := decide_eq_true h
  unfold Registered
  rw [History.last?_append_pos about]
  simp

/-- A call about others, or about nobody, changes nothing for an operator. -/
theorem registered_append_of_ne (h : i.operator? ≠ some operator) :
    Registered operator (committed ++ [i]) ↔ Registered operator committed := by
  have about : i.isAbout operator = false := decide_eq_false h
  unfold Registered
  rw [History.last?_append_neg about]

/-- A registered operator has been added. -/
theorem Registered.mem (h : Registered operator committed) :
    ∃ i ∈ committed, i.operator? = some operator := by
  obtain ⟨i, last, -⟩ := h
  obtain ⟨before, after, rfl, about, -⟩ := History.split_of_last? last
  exact ⟨i, by simp, of_decide_eq_true about⟩

/-- **No two of these operators have accounts at one address.** -/
def Env.Apart (env : Env) (names : Pubkey → Prop) : Prop :=
  env.toSyscalls.Apart env.operatorsId fun seeds =>
    ∃ operator, names operator ∧ OperatorAccount.pdaSeeds operator = seeds

/-- The seeds of an operator's account name the operator. -/
theorem operatorSeeds_inj {operator other : Pubkey}
    (h : OperatorAccount.pdaSeeds operator = OperatorAccount.pdaSeeds other) : operator = other := by
  simp only [OperatorAccount.pdaSeeds, List.cons.injEq, and_true, true_and] at h
  exact List.Vector.toList_injective h

/-- Of these operators, only one has an account at an address. -/
theorem Env.Apart.eq {names : Pubkey → Prop} (h : env.Apart names) {operator other key : Pubkey}
    (named : names operator) (named' : names other) (derived : env.Derives operator key)
    (derived' : env.Derives other key) : operator = other :=
  operatorSeeds_inj (h _ _ key ⟨operator, named, rfl⟩ ⟨other, named', rfl⟩ derived derived')

/-- Of fewer operators, no two have accounts at one address either. -/
theorem Env.Apart.mono {names names' : Pubkey → Prop} (h : env.Apart names')
    (sub : ∀ x, names x → names' x) : env.Apart names := by
  refine Syscalls.Apart.mono h ?_
  rintro seeds ⟨operator, named, rfl⟩
  exact ⟨operator, sub operator named, rfl⟩

/-- The operators that calls speak about. -/
def Named (calls : List OperatorsInstruction) (operator : Pubkey) : Prop :=
  ∃ i ∈ calls, i.operator? = some operator

/-- The calls speak about every registered operator. -/
theorem Registered.named (h : Registered operator committed) : Named committed operator := h.mem

/-- **The accounts that exist are those of the registered operators**, each at the address of its
own key. -/
structure Tabled (env : Env) (committed : List OperatorsInstruction) (s : OperatorsState) :
    Prop where
  accounts : ∀ key account, s.operators key = some account ↔
    ∃ operator, Registered operator committed ∧
      env.findProgramAddress (OperatorAccount.pdaSeeds operator) env.operatorsId
        = .ok (key, account.bump)
  homes : ∀ operator, Registered operator committed → ∃ key bump,
    env.findProgramAddress (OperatorAccount.pdaSeeds operator) env.operatorsId = .ok (key, bump)

/-- At the beginning no operator has an account. -/
theorem tabled_initial : Tabled env [] .initial where
  accounts key account := by
    constructor
    · rintro ⟨⟩
    · rintro ⟨operator, registered, -⟩
      exact absurd registered not_registered_nil
  homes operator registered := absurd registered not_registered_nil

/-- Instructions about no operator leave the table. -/
theorem Tabled.other (h : Tabled env committed s) (same : s'.operators = s.operators)
    (about : i.operator? = none) : Tabled env (committed ++ [i]) s' := by
  have unchanged (operator : Pubkey) :
      Registered operator (committed ++ [i]) ↔ Registered operator committed :=
    registered_append_of_ne (by simp [about])
  constructor
  · intro key account
    rw [same, h.accounts key account]
    simp only [unchanged]
  · intro operator registered
    exact h.homes operator ((unchanged operator).mp registered)

/-- A call about one operator, at the address of its account. -/
theorem Tabled.homes_append (h : Tabled env committed s) {place : Pubkey} {bump : UInt8}
    (about : i.operator? = some operator)
    (home : env.findProgramAddress (OperatorAccount.pdaSeeds operator) env.operatorsId
      = .ok (place, bump)) (x : Pubkey) (registered : Registered x (committed ++ [i])) :
    ∃ key bump,
      env.findProgramAddress (OperatorAccount.pdaSeeds x) env.operatorsId = .ok (key, bump) := by
  by_cases same : x = operator
  · subst same
    exact ⟨place, bump, home⟩
  · refine h.homes x ((registered_append_of_ne ?_).mp registered)
    rw [about, Ne, Option.some.injEq]
    exact Ne.symm same

/-- What a call about one operator leaves: who has an account at any other address. -/
theorem registered_elsewhere {place key : Pubkey} {bump b : UInt8}
    (about : i.operator? = some operator)
    (home : env.findProgramAddress (OperatorAccount.pdaSeeds operator) env.operatorsId
      = .ok (place, bump)) (elsewhere : key ≠ place) :
    (∃ x, Registered x (committed ++ [i]) ∧
      env.findProgramAddress (OperatorAccount.pdaSeeds x) env.operatorsId = .ok (key, b)) ↔
    ∃ x, Registered x committed ∧
      env.findProgramAddress (OperatorAccount.pdaSeeds x) env.operatorsId = .ok (key, b) := by
  refine exists_congr fun x => and_congr_left fun found => registered_append_of_ne fun same => ?_
  rw [about, Option.some.injEq] at same
  subst same
  rw [home] at found
  cases found
  exact elsewhere rfl

/-- **Every instruction keeps the table.** -/
theorem Effect.tabled (h : Effect env s i s') (apart : env.Apart (Named (committed ++ [i])))
    (before : Tabled env committed s) : Tabled env (committed ++ [i]) s' := by
  have now {operator : Pubkey} (about : i.operator? = some operator) :
      Named (committed ++ [i]) operator := ⟨i, by simp, about⟩
  cases h with
  | initialises a bump signed fresh => exact before.other rfl rfl
  | transfers a registry signed stored owner other => exact before.other rfl rfl
  | adds a registry bump operatorCount signed stored owner absent address counted =>
    refine ⟨fun key account => ?_, before.homes_append rfl address⟩
    show Function.update s.operators a.operatorAccount (some ⟨bump⟩) key = _ ↔ _
    by_cases here : key = a.operatorAccount
    · subst here
      rw [Function.update_self, Option.some.injEq]
      constructor
      · rintro rfl
        exact ⟨a.operatorToAdd, (registered_append_of_eq rfl).mpr rfl, address⟩
      · rintro ⟨operator, registered, found⟩
        -- whoever has an account at this address is the operator that is added
        have same : operator = a.operatorToAdd :=
          apart.eq registered.named (now rfl) (derives_of_find found) (derives_of_find address)
        rw [same, address] at found
        cases found
        rfl
    · rw [Function.update_of_ne here, before.accounts key account]
      exact (registered_elsewhere rfl address here).symm
  | removes a registry account operatorCount signed stored owner present address counted =>
    have derived : env.Derives a.operatorToRemove a.operatorAccount := ⟨_, address⟩
    obtain ⟨holder, holds, home⟩ := (before.accounts _ _).mp present
    have same : holder = a.operatorToRemove := by
      obtain ⟨j, mem, about⟩ := holds.named
      exact apart.eq ⟨j, List.mem_append_left _ mem, about⟩ (now rfl) (derives_of_find home) derived
    rw [same] at home
    refine ⟨fun key account' => ?_, before.homes_append rfl home⟩
    show Function.update s.operators a.operatorAccount none key = _ ↔ _
    by_cases here : key = a.operatorAccount
    · subst here
      rw [Function.update_self]
      constructor
      · rintro ⟨⟩
      · rintro ⟨operator, registered, found⟩
        have removed : operator = a.operatorToRemove :=
          apart.eq registered.named (now rfl) (derives_of_find found) derived
        rw [removed] at registered
        cases (registered_append_of_eq rfl).mp registered
    · rw [Function.update_of_ne here, before.accounts key account']
      exact (registered_elsewhere rfl home here).symm

/-- **Who is accepted**: the operators that are registered. -/
theorem Tabled.accepts_iff (h : Tabled env committed s)
    (apart : env.Apart fun x => x = operator ∨ Named committed x) :
    (∃ key account, operatorPda env operator key s = .ok account) ↔
      Registered operator committed := by
  constructor
  · rintro ⟨key, account, accepted⟩
    obtain ⟨present, address⟩ := operatorPda_eq_ok.mp accepted
    obtain ⟨holder, registered, home⟩ := (h.accounts key account).mp present
    have same : holder = operator :=
      apart.eq (.inr registered.named) (.inl rfl) (derives_of_find home) ⟨_, address⟩
    subst same
    exact registered
  · intro registered
    obtain ⟨key, bump, home⟩ := h.homes operator registered
    exact ⟨key, ⟨bump⟩, operatorPda_eq_ok.mpr
      ⟨(h.accounts key ⟨bump⟩).mpr ⟨operator, registered, home⟩,
        env.createProgramAddress_of_find home⟩⟩

/-! ## Every run -/

/-- The instructions of a run that were committed. -/
def committedOf (tr : List (Transition OperatorsState OperatorsInstruction)) :
    List OperatorsInstruction := tr.map Transition.call

/-- **The accounts of the operators in every state that a run reaches.** -/
theorem tabled_run (env : Env) (calls : List OperatorsInstruction) :
    env.Apart (Named (committedOf (trace (process env) .initial calls))) →
      Tabled env (committedOf (trace (process env) .initial calls))
        (run (process env) .initial calls) := by
  refine run_trace_induction (P := fun tr s =>
    env.Apart (Named (committedOf tr)) → Tabled env (committedOf tr) s) ?_ ?_ calls
  · intro _
    exact tabled_initial
  · intro tr s i s' ih success apart
    have whole : committedOf (tr ++ [⟨s, i, s'⟩]) = committedOf tr ++ [i] := by
      simp [committedOf]
    rw [whole] at apart ⊢
    refine (process_effect success).tabled apart (ih (apart.mono ?_))
    rintro x ⟨j, mem, about⟩
    exact ⟨j, List.mem_append_left _ mem, about⟩

/-- **Once there is a registry, its owner signs**; only then are there operators, or a new owner. -/
theorem Effect.owner_signs (h : Effect env s i s') {registry : OperatorRegistry}
    (stored : s.registry = some registry) : registry.owner ∈ i.signers := by
  cases h with
  | initialises a bump signed fresh => cases stored.symm.trans fresh
  | adds a registry' bump operatorCount signed stored' owner absent address counted =>
    cases stored.symm.trans stored'
    exact mem_signersOfInfos.mpr ⟨a.owner, by simp, signed, owner⟩
  | removes a registry' account operatorCount signed stored' owner present address counted =>
    cases stored.symm.trans stored'
    exact mem_signersOfInfos.mpr ⟨a.owner, by simp, signed, owner⟩
  | transfers a registry' signed stored' owner other =>
    cases stored.symm.trans stored'
    exact mem_signersOfInfos.mpr ⟨a.owner, by simp, signed, owner⟩

/-- Without a registry, it is set up by its owner, and the operators stay as they are. -/
theorem Effect.owner_signs_first (h : Effect env s i s') (fresh : s.registry = none) :
    s'.operators = s.operators ∧
      ∃ registry, s'.registry = some registry ∧ registry.owner ∈ i.signers := by
  cases h with
  | initialises a bump signed fresh' =>
    exact ⟨rfl, _, rfl, mem_signersOfInfos.mpr ⟨a.owner, by simp, signed, rfl⟩⟩
  | adds a registry bump operatorCount signed stored owner absent address counted =>
    cases fresh.symm.trans stored
  | removes a registry account operatorCount signed stored owner present address counted =>
    cases fresh.symm.trans stored
  | transfers a registry signed stored owner other => cases fresh.symm.trans stored

/-- **The books of the registry**, over every run. The number of operators is that of the accounts
that exist, so removing one never underflows; every committed instruction is signed by the owner at
the time. When no two operators of the run have accounts at one address, every account is that of its
own operator, and whoever is accepted is registered: added, and not removed since. -/
theorem operator_bookkeeping (env : Env) (calls : List OperatorsInstruction) :
    let s := run (process env) .initial calls
    let tr := trace (process env) .initial calls
    Counted s ∧
    (∀ a, process env (.removeOperator a) s ≠ .error (.program .invalidAccountData)) ∧
    (∀ t ∈ tr, ∀ registry, t.pre.registry = some registry → registry.owner ∈ t.call.signers) ∧
    (∀ t ∈ tr, t.pre.registry = none → t.post.operators = t.pre.operators ∧
      ∃ registry, t.post.registry = some registry ∧ registry.owner ∈ t.call.signers) ∧
    (env.Apart (Named (committedOf tr)) → ∀ key account, s.operators key = some account →
      ∃! operator, Registered operator (committedOf tr) ∧
        env.findProgramAddress (OperatorAccount.pdaSeeds operator) env.operatorsId
          = .ok (key, account.bump)) ∧
    ∀ operator, env.Apart (fun x => x = operator ∨ Named (committedOf tr) x) →
      ((∃ key account, operatorPda env operator key s = .ok account) ↔
        Registered operator (committedOf tr)) := by
  intro s tr
  have counted : Counted s := counted_run env calls
  refine ⟨counted, counted.removeOperator_ne, ?_, ?_, ?_, ?_⟩
  · intro t mem registry stored
    exact (process_effect (step_of_mem_trace mem)).owner_signs stored
  · intro t mem fresh
    exact (process_effect (step_of_mem_trace mem)).owner_signs_first fresh
  · intro apart key account stored
    obtain ⟨operator, registered, home⟩ := ((tabled_run env calls apart).accounts key account).mp stored
    refine ⟨operator, ⟨registered, home⟩, ?_⟩
    rintro other ⟨registered', home'⟩
    exact apart.eq registered'.named registered.named (derives_of_find home') (derives_of_find home)
  · intro operator apart
    exact (tabled_run env calls (apart.mono fun _ => .inr)).accepts_iff apart

/-! ## A run -/

/-- An address of 32 equal bytes. -/
def sampleKey (b : UInt8) : Pubkey := List.Vector.replicate 32 b

/-- An environment in which an address is the last bytes of its seeds. -/
def sampleEnv : Env where
  keccak _ := sampleKey 0
  createProgramAddress seeds _ :=
    some ⟨(seeds.flatten.reverse ++ List.replicate 32 0).take 32, by simp⟩
  pubkeyFromStr _ := none
  secp256k1Recover _ _ _ := none
  operatorsId := sampleKey 100

/-- The address of the registry. -/
def sampleRegistry : Pubkey :=
  ((sampleEnv.tryFindProgramAddress OperatorRegistry.pdaSeeds sampleEnv.operatorsId).map
    Prod.fst).getD (sampleKey 0)

/-- The address of an operator's account. -/
def sampleOperatorAccount (operator : Pubkey) : Pubkey :=
  ((sampleEnv.tryFindProgramAddress (OperatorAccount.pdaSeeds operator)
    sampleEnv.operatorsId).map Prod.fst).getD (sampleKey 0)

/-- Two operators are added by the owner, and one of them is removed by the next owner. -/
def sampleCalls : List OperatorsInstruction :=
  [.initializeRegistry ⟨⟨sampleKey 9, true⟩, ⟨sampleKey 8, true⟩, sampleRegistry⟩,
    .addOperator ⟨⟨sampleKey 8, true⟩, sampleKey 1, sampleRegistry,
      sampleOperatorAccount (sampleKey 1)⟩,
    .addOperator ⟨⟨sampleKey 8, true⟩, sampleKey 2, sampleRegistry,
      sampleOperatorAccount (sampleKey 2)⟩,
    .transferOwner ⟨⟨sampleKey 8, true⟩, sampleKey 7, sampleRegistry⟩,
    .removeOperator ⟨⟨sampleKey 7, true⟩, sampleKey 1, sampleRegistry,
      sampleOperatorAccount (sampleKey 1)⟩]

/-- Two operators whose keys end differently have different addresses. -/
theorem sampleEnv_apart : sampleEnv.Apart fun x => x = sampleKey 1 ∨ x = sampleKey 2 := by
  have different {key : Pubkey} : sampleEnv.Derives (sampleKey 1) key →
      ¬ sampleEnv.Derives (sampleKey 2) key := by
    rintro ⟨bump, created⟩ ⟨bump', created'⟩
    have same := congrArg (Option.map fun key : Pubkey => key.toList[1]?)
      (created.trans created'.symm)
    have bytes : (some 1 : Option UInt8) = some 2 := Option.some.inj same
    cases bytes
  rintro x y key ⟨operator, rfl | rfl, rfl⟩ ⟨other, rfl | rfl, rfl⟩ derived derived'
  · rfl
  · exact absurd derived' (different derived)
  · exact absurd derived (different derived')
  · rfl

/-- The calls speak about these two operators. -/
theorem named_sampleCalls {x : Pubkey} (about : Named sampleCalls x) :
    x = sampleKey 1 ∨ x = sampleKey 2 := by
  obtain ⟨i, mem, about⟩ := about
  simp only [sampleCalls, List.mem_cons, List.not_mem_nil, or_false] at mem
  rcases mem with rfl | rfl | rfl | rfl | rfl <;> cases about
  · exact .inl rfl
  · exact .inr rfl
  · exact .inl rfl

/-- The operator that stays is accepted, the one that was removed is not. -/
theorem operator_bookkeeping_sample :
    let s := run (process sampleEnv) .initial sampleCalls
    (∃ key account, operatorPda sampleEnv (sampleKey 2) key s = .ok account) ∧
    ¬ ∃ key account, operatorPda sampleEnv (sampleKey 1) key s = .ok account := by
  intro s
  have committed : committedOf (trace (process sampleEnv) .initial sampleCalls) = sampleCalls := by
    decide +kernel
  obtain ⟨-, -, -, -, -, accepts⟩ := operator_bookkeeping sampleEnv sampleCalls
  rw [committed] at accepts
  constructor
  · refine (accepts (sampleKey 2) (sampleEnv_apart.mono ?_)).mpr ⟨_, rfl, rfl⟩
    rintro x (rfl | about)
    · exact .inr rfl
    · exact named_sampleCalls about
  · rw [accepts (sampleKey 1) (sampleEnv_apart.mono ?_)]
    · rintro ⟨i, last, adds⟩
      cases last
      cases adds
    · rintro x (rfl | about)
      · exact .inl rfl
      · exact named_sampleCalls about

end AxelarSolana.Operators
