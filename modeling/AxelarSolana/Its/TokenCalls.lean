import AxelarSolana.Its.Addresses
import AxelarSolana.Solana.TokenProgram

/-! # Calls of the token programs

* **`Caused`** — why a token program is called, and with which signatures.
* **`TokenCalls`** — what a call of the service does to mints and token accounts is a sequence of such
  calls; **`Performs.tokenCalls`**.
* what follows from the laws of the token programs: a mint stays (**`TokenCalls.kept`**), where a
  new one comes from (**`TokenCalls.created`**), and who changes its authority
  (**`TokenCalls.authority`**). -/

namespace AxelarSolana.Its

open Fallible Machine

variable {env : Env} {ctx : Ctx} {s s' : World} {l l' : List LogEvent} {t t' : TokenState}

/-! ## Causes -/

/-- **Why a token program is called**: others call it; or the program itself, which reassigns
nothing and reports what moves tokens; or a destination program, with the signatures it was given. -/
inductive Caused (env : Env) (l : List LogEvent) (instruction : TokenInstruction)
    (signers : List Pubkey) : Prop
  | outside (outside : ∀ key ∈ signers, env.SignsOutside key)
  | own (keeps : instruction.reassigns = false)
      (reported : instruction.loud = true →
        ∃ before after, LogEvent.tokens instruction before after ∈ l)
  | destination (call : DestinationCall) (called : LogEvent.destinationCalled call ∈ l)
      (signable : ∀ key ∈ signers, env.Signable call.programId key)

/-- **Any number of calls of token programs**, by which events are reported. -/
def TokenCalls (env : Env) (l : List LogEvent) : TokenState → TokenState → Prop :=
  Relation.ReflTransGen fun t t' => ∃ instruction signers,
    Caused env l instruction signers ∧ env.tokens instruction signers t = .ok t'

/-- A cause remains one when more loud events are reported. -/
theorem Caused.mono {instruction : TokenInstruction} {signers : List Pubkey}
    (h : Caused env l instruction signers) (sub : l.filter LogEvent.loud ⊆ l') :
    Caused env l' instruction signers := by
  cases h with
  | outside outside => exact .outside outside
  | own keeps reported =>
    refine .own keeps fun loud => ?_
    obtain ⟨before, after, mem⟩ := reported loud
    exact ⟨before, after, sub (List.mem_filter.mpr ⟨mem, loud⟩)⟩
  | destination call called signable =>
    exact .destination call (sub (List.mem_filter.mpr ⟨called, rfl⟩)) signable

/-- Only loud events count. -/
theorem TokenCalls.mono (h : TokenCalls env l t t') (sub : l.filter LogEvent.loud ⊆ l') :
    TokenCalls env l' t t' := by
  refine Relation.ReflTransGen.mono ?_ t t' h
  rintro u u' ⟨instruction, signers, caused, called⟩
  exact ⟨instruction, signers, caused.mono sub, called⟩

/-- An external call with signatures that explain it. -/
theorem ExternalCall.tokenCalls {call : ExternalCall} {chain chain' : Chain}
    (run : call.run env chain = .ok chain')
    (caused : ∀ instruction, Caused env l instruction call.signers) :
    TokenCalls env l chain.tokens chain'.tokens := by
  cases call with
  | tokens instruction signers =>
    simp only [ExternalCall.run, bind_eq_ok, pure_eq_ok] at run
    obtain ⟨tokens, called, rfl⟩ := run
    exact .single ⟨instruction, signers, caused instruction, called⟩
  | gateway call =>
    simp only [ExternalCall.run, bind_eq_ok, pure_eq_ok] at run
    obtain ⟨gateway, -, rfl⟩ := run
    exact .refl
  | environment owner gas =>
    simp only [ExternalCall.run, pure_eq_ok] at run
    rw [← run]
    exact .refl

/-- Calls of other programs are a number of calls of token programs. -/
theorem ExternalCall.tokenCalls_foldlM {calls : List ExternalCall} {chain chain' : Chain}
    (run : calls.foldlM (fun chain call => call.run env chain) chain = .ok chain')
    (caused : ∀ call ∈ calls, ∀ instruction, Caused env l instruction call.signers) :
    TokenCalls env l chain.tokens chain'.tokens := by
  induction calls generalizing chain with
  | nil =>
    rw [List.foldlM_nil, pure_eq_ok] at run
    rw [run]
    exact .refl
  | cons call calls ih =>
    rw [List.foldlM_cons, bind_eq_ok] at run
    obtain ⟨chain₁, first, rest⟩ := run
    have head := ExternalCall.tokenCalls first (caused call List.mem_cons_self)
    exact Relation.ReflTransGen.trans head
      (ih rest fun c mem => caused c (List.mem_cons_of_mem _ mem))

/-- A move is a number of calls of token programs. -/
theorem Move.tokenCalls (h : Move env ctx s l s') :
    TokenCalls env l s.chain.tokens s'.chain.tokens := by
  cases h with
  | tokenCall instruction signers tokens called authorised =>
    refine .single ⟨instruction, signers, ?_, called⟩
    cases reassigns : instruction.reassigns with
    | true => exact .outside (authorised reassigns)
    | false => exact .own reassigns fun _ => ⟨_, _, List.mem_cons_self⟩
  | callDestination call effect chain signable run =>
    refine ExternalCall.tokenCalls_foldlM run fun c mem instruction => ?_
    refine .destination call List.mem_cons_self fun key signs => ?_
    rcases effect.2 c mem key signs with given | outside
    · exact signable key given
    · exact .inl outside
  | _ => exact .refl

/-- **What a sequence of moves does to tokens.** -/
theorem Performs.tokenCalls (h : Performs env ctx s l s') :
    TokenCalls env l s.chain.tokens s'.chain.tokens := by
  obtain ⟨all, run, rfl⟩ := h
  have whole : TokenCalls env all s.chain.tokens s'.chain.tokens := by
    induction run with
    | refl => exact .refl
    | step first rest ih =>
      refine Relation.ReflTransGen.trans (first.tokenCalls.mono fun e mem => ?_)
        (ih.mono fun e mem => ?_)
      · exact List.mem_append_left _ (List.mem_of_mem_filter mem)
      · exact List.mem_append_right _ (List.mem_of_mem_filter mem)
  exact whole.mono fun e mem => mem

/-- **What a committed call does to tokens**: the calls of destination programs that explain it are
in the log. -/
theorem StepCases.tokenCalls {call : Call env} (h : StepCases env s call s') :
    ∃ l, TokenCalls env l s.chain.tokens s'.chain.tokens ∧
      ∀ call, LogEvent.destinationCalled call ∈ l →
        ∃ entry ∈ s'.log, entry.event = .destinationCalled call := by
  cases h with
  | external call outside chain run =>
    exact ⟨[], ExternalCall.tokenCalls run fun _ => .outside outside,
      fun _ mem => absurd mem List.not_mem_nil⟩
  | own sysvar i outside l s' notInner notExecute effect performs =>
    exact ⟨l, performs.tokenCalls, fun _ mem => performs.mem_log mem⟩
  | execute sysvar a message payload outside sourceChain inner gateway i l s' accepts received
      performs => exact ⟨l, performs.tokenCalls, fun _ mem => performs.mem_log mem⟩

/-! ## What the laws imply -/

/-- Calls of token programs keep the mints as the laws say. -/
theorem TokenCalls.kept (laws : TokenLaws env.tokens) (h : TokenCalls env l t t') : t.Kept t' := by
  induction h with
  | refl => exact .refl t
  | tail _ last ih =>
    obtain ⟨instruction, signers, -, called⟩ := last
    exact ih.trans fun key m stored => laws.keeps called stored

/-- Calls that reassign nothing keep the mints as the laws say. -/
theorem TokenSteps.kept (laws : TokenLaws env.tokens) (h : TokenSteps env t t') : t.Kept t' := by
  induction h with
  | refl => exact .refl t
  | tail _ last ih =>
    obtain ⟨instruction, signers, -, called⟩ := last
    exact ih.trans fun key m stored => laws.keeps called stored

/-- **Where a new mint comes from**: its address signed outside the program, or the program
initialised it, or its address signed for a destination program. -/
theorem TokenCalls.created (laws : TokenLaws env.tokens) (h : TokenCalls env l t t') {key : Pubkey}
    {m : Mint} (absent : t.mints key = none) (present : t'.mints key = some m) :
    env.SignsOutside key ∨
    (∃ tokenProgram decimals mintAuthority freezeAuthority before after,
      LogEvent.tokens (.initializeMint2 tokenProgram key decimals mintAuthority freezeAuthority)
        before after ∈ l) ∨
    ∃ call, LogEvent.destinationCalled call ∈ l ∧ env.Signable call.programId key := by
  induction h generalizing m with
  | refl => cases absent.symm.trans present
  | @tail u u' _ last ih =>
    cases stored : u.mints key with
    | some m₁ => exact ih stored
    | none =>
      -- the last call creates it
      obtain ⟨instruction, signers, caused, called⟩ := last
      have signed := laws.signs called stored present
      cases caused with
      | outside outside => exact .inl (outside key signed)
      | own keeps reported =>
        obtain ⟨tokenProgram, decimals, mintAuthority, freezeAuthority, rfl⟩ :=
          laws.creates called stored present keeps
        obtain ⟨before, after, mem⟩ := reported rfl
        exact .inr (.inl ⟨_, _, _, _, before, after, mem⟩)
      | destination call mem signable => exact .inr (.inr ⟨call, mem, signable key signed⟩)

/-- **Who changes the authority of a mint**: the authority itself, outside the program or for a
destination program. -/
theorem TokenCalls.authority (laws : TokenLaws env.tokens) (h : TokenCalls env l t t')
    {key : Pubkey} {m m' : Mint} (stored : t.mints key = some m) (stored' : t'.mints key = some m')
    (changed : m'.mintAuthority ≠ m.mintAuthority) :
    ∃ current, m.mintAuthority = some current ∧ (env.SignsOutside current ∨
      ∃ call, LogEvent.destinationCalled call ∈ l ∧ env.Signable call.programId current) := by
  induction h using Relation.ReflTransGen.head_induction_on generalizing m with
  | refl =>
    cases stored.symm.trans stored'
    exact absurd rfl changed
  | head first _ ih =>
    obtain ⟨instruction, signers, caused, called⟩ := first
    obtain ⟨m₁, stored₁, -, -⟩ := laws.keeps called stored
    by_cases same : m₁.mintAuthority = m.mintAuthority
    · rw [← same] at changed ⊢
      exact ih stored₁ changed
    · obtain ⟨reassigns, current, authority, signed⟩ := laws.authority called stored stored₁ same
      refine ⟨current, authority, ?_⟩
      cases caused with
      | outside outside => exact .inl (outside current signed)
      | own keeps reported =>
        rw [keeps] at reassigns
        cases reassigns
      | destination call mem signable => exact .inr ⟨call, mem, signable current signed⟩

/-- **An authority that never signs stays it.** -/
theorem TokenCalls.authority_kept (laws : TokenLaws env.tokens) (h : TokenCalls env l t t')
    {key mint : Pubkey} {m : Mint} (stored : t.mints mint = some m)
    (authority : m.mintAuthority = some key) (outside : ¬ env.SignsOutside key)
    (silent : ∀ call, LogEvent.destinationCalled call ∈ l → ¬ env.Signable call.programId key) :
    ∃ m', t'.mints mint = some m' ∧ m'.mintAuthority = some key := by
  obtain ⟨m', stored', -⟩ := h.kept laws mint m stored
  refine ⟨m', stored', ?_⟩
  by_contra changed
  obtain ⟨current, isCurrent, signs⟩ := h.authority laws stored stored' (by rwa [authority])
  cases authority.symm.trans isCurrent
  rcases signs with signs | ⟨call, mem, signable⟩
  · exact outside signs
  · exact silent call mem signable

/-- Calls that reassign nothing leave the authority of a mint. -/
theorem TokenSteps.authority (laws : TokenLaws env.tokens) (h : TokenSteps env t t') {key : Pubkey}
    {m m' : Mint} (stored : t.mints key = some m) (stored' : t'.mints key = some m') :
    m'.mintAuthority = m.mintAuthority := by
  induction h generalizing m' with
  | refl =>
    cases stored.symm.trans stored'
    rfl
  | tail steps last ih =>
    obtain ⟨instruction, signers, keeps, called⟩ := last
    obtain ⟨m₁, stored₁, -⟩ := TokenSteps.kept laws steps key m stored
    rw [← ih stored₁]
    by_contra changed
    obtain ⟨reassigns, -⟩ := laws.authority called stored₁ stored' changed
    rw [keeps] at reassigns
    cases reassigns

end AxelarSolana.Its
