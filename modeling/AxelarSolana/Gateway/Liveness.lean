import AxelarSolana.Gateway.EncoderAgreement
import AxelarSolana.Gateway.Epochs
import AxelarSolana.Gateway.MessageLifecycle
import AxelarSolana.Library.Progress
import Mathlib.Algebra.Order.BigOperators.Group.Finset

/-! # A signed batch goes through

Anybody may call the gateway between the calls of a relayer, submit other signatures, approve other
messages, or make the same calls first. What a relayer has to do for a batch is nevertheless done
when its calls are made, in whatever order the entries and the approvals come:

* **`SessionHas`** — a fact about a stored session that accepted signatures keep; it is lasting.
* **`Installed.between`** — a set that signs for the gateway at two times does so in between.
* **`CollisionFree`** — no collisions among the inputs that a run hashes for the set.
* **`complete_of_signed`** — a session in which every entry of a quorum is signed is complete, with
  whatever else was signed.
* **`batch_goes_through`** — sessions become valid and messages get recorded. -/

namespace AxelarSolana.Gateway

open Fallible Machine

variable {env : Env} {s s' : GatewayState} {d : Bytes32} {k : SessionKey}

/-! ## Lasting facts about a session -/

/-- **A stored session of its set** with the property `P`. -/
def SessionHas (k : SessionKey) (P : SignatureVerification → Prop) (s : GatewayState) : Prop :=
  ∃ session, s.sessions k = some session ∧
    session.signatureVerification.signingVerifierSetHash = k.signingVerifierSetHash ∧
    P session.signatureVerification

/-- What accepted leaves keep, the gateway keeps: a session is never closed and never reset. -/
theorem lasting_sessionHas {P : SignatureVerification → Prop}
    (keep : ∀ sv leaf, P sv → P (sv.accept leaf)) : Lasting (process env) (SessionHas k P) := by
  rintro s call s' ⟨session, stored, hash, holds⟩ h
  rcases process_session_cases h k with ⟨-, same⟩ | ⟨-, fresh, -⟩ | ⟨info, set⟩
  · exact ⟨session, same.trans stored, hash, holds⟩
  · rw [stored] at fresh
    cases fresh
  · obtain ⟨session', before, -, after⟩ := set.session
    cases stored.symm.trans before
    exact ⟨_, after, hash, keep _ _ holds⟩

/-- **An open session.** -/
def Opened (k : SessionKey) : GatewayState → Prop := SessionHas k fun _ => True

/-- **A session signed at a position.** -/
def SignedAt (k : SessionKey) (p : Nat) : GatewayState → Prop :=
  SessionHas k fun sv => sv.signatureSlots.getLsbD p = true

/-- **A session that has reached its quorum.** -/
def Complete (k : SessionKey) : GatewayState → Prop :=
  SessionHas k fun sv => sv.accumulatedThreshold = U128.max

/-- A session that is open stays open, whatever is called. -/
theorem lasting_opened : Lasting (process env) (Opened k) :=
  lasting_sessionHas fun _ _ _ => trivial

/-- A bit that is set stays set. -/
theorem lasting_signedAt {p : Nat} (inBounds : p < 256) :
    Lasting (process env) (SignedAt k p) := by
  refine lasting_sessionHas fun sv leaf set => ?_
  rw [SignatureVerification.getLsbD_accept _ _ inBounds, set, Bool.true_or]

/-- The marker of a complete session stays: more weight saturates, and the quorum is still
reached. -/
theorem addWeight_max (leaf : VerifierSetLeaf) :
    SignatureVerification.addWeight U128.max leaf = U128.max := by
  apply U128.get_inj
  apply BitVec.eq_of_toNat_eq
  have quorum := leaf.quorum.isLt
  rw [toNat_addWeight, U128.get_max, BitVec.toNat_allOnes, Tally.add]
  split <;> omega

/-- A session that is complete stays complete, whatever is called. -/
theorem lasting_complete : Lasting (process env) (Complete k) := by
  refine lasting_sessionHas fun sv leaf full => ?_
  show SignatureVerification.addWeight sv.accumulatedThreshold leaf = U128.max
  rw [full, addWeight_max]

/-! ## Lasting facts about the rest -/

/-- **A configured gateway** of the domain `d`. -/
def Configured (d : Bytes32) (s : GatewayState) : Prop :=
  ∃ config, s.config = some config ∧ config.domainSeparator = d

/-- The domain stays, whatever is called. -/
theorem lasting_configured : Lasting (process env) (Configured d) := by
  rintro s call s' ⟨config, stored, domain⟩ h
  have start : Extends config s config s := ⟨stored, rfl, rfl, rfl, le_rfl, fun _ _ h => h⟩
  obtain ⟨config', ext⟩ := start.step h
  exact ⟨config', ext.stored, ext.domainSeparator.trans domain⟩

/-- **A command id with a record**, approved or executed. -/
def Recorded (c : Bytes32) (s : GatewayState) : Prop := ∃ record, s.incoming c = some record

/-- No move leads to an absent record. -/
theorem Stage.Next.not_absent {x : Stage} : ¬ Stage.Next x .absent := by
  intro h
  cases h

/-- A record stays, whatever is called. -/
theorem lasting_recorded {c : Bytes32} : Lasting (process env) (Recorded c) := by
  rintro s call s' ⟨record, stored⟩ h
  cases absent : s'.incoming c with
  | some record' => exact ⟨record', absent⟩
  | none =>
    rcases (process_message_cases h).stage_next c with same | moved
    · rw [absent, stored] at same
      cases same
    · -- no move leads back to an absent record
      rw [absent, stage_none] at moved
      exact absurd moved Stage.Next.not_absent

/-- The sets that sign for the gateway at two times sign for it in between: the epoch of a set is
fixed, and the current epoch only grows. -/
theorem Installed.between {S : Bytes32} {earlier later : List GatewayCall}
    (start : Installed s d S) (finish : Installed (run (process env) s (earlier ++ later)) d S) :
    Installed (run (process env) s earlier) d S := by
  obtain ⟨config, tracker, stored, domain, htracker, hash, valid⟩ := start
  obtain ⟨config₁, ext₁⟩ := extends_run env stored earlier
  obtain ⟨config₂, ext₂⟩ := extends_run env ext₁.stored later
  obtain ⟨config₃, tracker', stored₃, -, htracker', -, valid'⟩ := finish
  rw [run_append] at stored₃ htracker'
  cases ext₂.stored.symm.trans stored₃
  have kept := ext₁.trackers S tracker htracker
  cases (ext₂.trackers S tracker kept).symm.trans htracker'
  refine ⟨config₁, tracker, ext₁.stored, ext₁.domainSeparator.trans domain, kept, hash, ?_⟩
  rw [GatewayConfig.assertValidEpoch_iff] at valid valid' ⊢
  have grown₁ := ext₁.epoch
  have grown₂ := ext₂.epoch
  rw [ext₂.retention] at valid'
  omega

/-- Only rotations age a set. -/
theorem Installed.run_of_no_rotation {S : Bytes32} {calls : List GatewayCall}
    (h : Installed s d S)
    (quiet : ∀ call ∈ calls, ∀ accounts r, call.instruction ≠ .rotateSigners accounts r) :
    Installed (run (process env) s calls) d S := by
  refine run_invariant_of_mem (P := fun s => Installed s d S) h fun s call mem s' ih step => ?_
  obtain ⟨config, tracker, stored, domain, htracker, hash, valid⟩ := ih
  cases process_epoch_cases step with
  | silent nothing trackers config' =>
    have kept : s'.trackers S = some tracker := (congrFun trackers S).trans htracker
    rcases config' with same | ⟨config', operator, before, after⟩
    · exact ⟨config, tracker, same.trans stored, domain, kept, hash, valid⟩
    · cases stored.symm.trans before
      exact ⟨_, tracker, after, domain, kept, hash, valid⟩
  | configure params config' bump root before =>
    have before : s.config = none := before
    rw [stored] at before
    cases before
  | rotate accounts newRoot S' config' tracker' called rotation =>
    exact absurd called (quiet call mem accounts newRoot)

/-! ## What each call makes true -/

/-- One call that succeeds wherever it comes. -/
theorem commit_of_executes {call : GatewayCall}
    (h : Executes env [call.instruction] s s') : commit (process env) s call = s' := by
  have ran := h [call] rfl
  rw [List.foldlM_cons, bind_eq_ok] at ran
  obtain ⟨s₁, first, rest⟩ := ran
  rw [List.foldlM_nil, pure_eq_ok] at rest
  rw [commit_ok first, rest]

/-- **The opening call leaves an open session**, also when somebody has opened it before. -/
theorem opened_of_opening {calls : List GatewayCall} {opener : GatewayCall}
    (finds : FindsAddresses env) (opens : opener.instruction = opening k)
    (installed : Installed (run (process env) GatewayState.initial calls) d
      k.signingVerifierSetHash) :
    Opened k (commit (process env) (run (process env) GatewayState.initial calls) opener) := by
  cases stored : (run (process env) GatewayState.initial calls).sessions k with
  | none =>
    obtain ⟨bump, executed⟩ := executes_opening finds installed stored
    rw [← opens] at executed
    rw [commit_of_executes executed]
    exact ⟨_, Function.update_self _ _ _, rfl, trivial⟩
  | some session =>
    obtain ⟨-, bump, -, rfl, -, -⟩ := exists_replay_of_stored stored
    exact lasting_opened.commit ⟨_, stored, replay_signingVerifierSetHash _ _, trivial⟩ opener

/-- **A submission leaves its position signed**, also when somebody has signed there before. -/
theorem signedAt_of_submission {info : SigningVerifierSetInfo} {call : GatewayCall}
    (submits : call.instruction = submission k info) (type : info.payloadType = k.payloadType)
    (domain : info.leaf.domainSeparator = d)
    (accepted : SignatureAccepted env.toCrates k.payloadMerkleRoot k.signingVerifierSetHash info)
    (opened : Opened k s) (installed : Installed s d k.signingVerifierSetHash) :
    SignedAt k (leafPosition info) (commit (process env) s call) := by
  obtain ⟨session, stored, hash, -⟩ := opened
  by_cases bit : session.signatureVerification.signatureSlots.getLsbD (leafPosition info) = true
  · exact (lasting_signedAt accepted.inBounds).commit ⟨session, stored, hash, bit⟩ call
  · obtain ⟨sysvar, instruction⟩ := call
    have submits : instruction = submission k info := submits
    rw [submits, commit_ok (process_submission installed stored hash type domain accepted
      (Bool.eq_false_iff.mpr bit) sysvar)]
    refine ⟨_, Function.update_self _ _ _, hash, ?_⟩
    show (session.signatureVerification.accept info.leaf).signatureSlots.getLsbD
      info.leaf.position.toNat = true
    rw [SignatureVerification.getLsbD_accept _ _ accepted.inBounds]
    exact Bool.or_eq_true_iff.mpr (.inr (decide_eq_true rfl))

/-- **An approval leaves a record**, also when somebody has approved before. -/
theorem recorded_of_approval {item : MerklizedMessage} {call : GatewayCall}
    (finds : FindsAddresses env) (approves : call.instruction = approval env k item)
    (type : k.payloadType = .approveMessages) (domain : item.leaf.domainSeparator = d)
    (passes : ∃ proof, PassesMerkleCheck env.toCrates k.payloadMerkleRoot item.proof
      item.leaf.position (item.leaf.hash env.toCrates) item.leaf.setSize proof)
    (complete : Complete k s) (configured : Configured d s) :
    Recorded (item.leaf.message.commandId env.toCrates) (commit (process env) s call) := by
  obtain ⟨session, stored, hash, full⟩ := complete
  obtain ⟨config, hconfig, separator⟩ := configured
  cases present : s.incoming (item.leaf.message.commandId env.toCrates) with
  | some record => exact lasting_recorded.commit ⟨record, present⟩ call
  | none =>
    obtain ⟨bump, signingBump, approved⟩ := process_approval finds hconfig stored hash type
      (decide_eq_true full) (domain.trans separator.symm) passes present
    obtain ⟨sysvar, instruction⟩ := call
    have approves : instruction = approval env k item := approves
    rw [approves, commit_ok (approved sysvar)]
    exact ⟨_, Function.update_self _ _ _⟩

/-! ## The quorum -/

variable {depth : Nat → Nat} {vs : VerifierSet}

/-- **No collisions** among the strings hashed for the tree of a set and those hashed for the proofs
that a run submits. -/
def CollisionFree (env : Crates) (depth : Nat → Nat) (vs : VerifierSet) (d : Bytes32)
    (calls : List GatewayCall) : Prop :=
  ∀ call ∈ calls, ∀ accounts r info, call.instruction = .verifySignature accounts r info →
    ∀ proof, env.merkleProofFromBytes info.merkleProof = some proof →
      Set.InjOn env.keccak {b | b ∈ vs.inputs env depth d ++ climbInputs env depth
        (.verifierSetLeaf info.leaf) proof info.leaf.position.toNat info.leaf.setSize.toNat}

/-- Whatever was accepted for a session of the set is the leaf of one of its signers. -/
theorem SetBy.mem_leaves (rs : RsMerkle env.toCrates depth) (ud : Udigest env.toCrates)
    {calls : List GatewayCall} {info : SigningVerifierSetInfo} {t : GatewayTransition}
    (hash : verifierSetHash env.toCrates vs d = .ok k.signingVerifierSetHash)
    (free : CollisionFree env.toCrates depth vs d calls) (set : SetBy env k info t)
    (mem : t ∈ trace (process env) GatewayState.initial calls) : info.leaf ∈ vs.leaves d := by
  have called : t.call ∈ calls :=
    (trace_calls_sublist GatewayState.initial calls).subset
      (List.mem_map_of_mem (f := Transition.call) mem)
  obtain ⟨accounts, r, instruction⟩ : ∃ accounts r, t.call.instruction =
      .verifySignature accounts r info := by
    have call := set.call
    unfold acceptedBy at call
    split at call
    case h_1 accounts r info' instruction =>
      split at call
      · cases call
        exact ⟨accounts, r, instruction⟩
      · cases call
    case h_2 => cases call
  obtain ⟨proof, read, verified⟩ := set.signature.proof
  obtain ⟨-, leaf⟩ := mem_of_passes_verifierSetHash rs ud hash ⟨read, verified⟩
    (free t.call called accounts r info instruction proof read)
  obtain ⟨leaf', member, same⟩ := List.mem_map.mp leaf
  cases same
  exact member

/-- The weight of the signer at a position. -/
def signerWeightAt (vs : VerifierSet) (p : Nat) : Nat :=
  (vs.signers[p]?.map fun signer => signer.2.toNat).getD 0

/-- A leaf of the set has the weight of its position. -/
theorem leafWeight_of_mem_leaves (small : vs.signers.length < 2 ^ 16)
    {info : SigningVerifierSetInfo} (mem : info.leaf ∈ vs.leaves d) :
    leafWeight info = signerWeightAt vs (leafPosition info) := by
  obtain ⟨i, signer, found, leaf, position, -⟩ := VerifierSet.genuine small mem
  have here : vs.signers[leafPosition info]? = some signer := by
    rw [leafPosition, position]
    exact found
  rw [signerWeightAt, here, leafWeight, leaf]
  rfl

/-- The weight of leaves of the set at different positions, added up over the positions. -/
theorem sum_leafWeight (small : vs.signers.length < 2 ^ 16)
    {infos : List SigningVerifierSetInfo} (genuine : ∀ info ∈ infos, info.leaf ∈ vs.leaves d)
    (distinct : (infos.map leafPosition).Nodup) :
    (infos.map leafWeight).sum = ∑ p ∈ (infos.map leafPosition).toFinset, signerWeightAt vs p := by
  rw [List.sum_toFinset _ distinct, List.map_map]
  congr 1
  exact List.map_congr_left fun info mem => leafWeight_of_mem_leaves small (genuine info mem)

/-- **A session in which a quorum is signed is complete**, whatever else was signed: the accepted
leaves are all genuine, and more positions only add weight. -/
theorem complete_of_signed (rs : RsMerkle env.toCrates depth) (ud : Udigest env.toCrates)
    {calls : List GatewayCall} {entries : List SigningVerifierSetInfo}
    (hash : verifierSetHash env.toCrates vs d = .ok k.signingVerifierSetHash)
    (free : CollisionFree env.toCrates depth vs d calls)
    (genuine : ∀ info ∈ entries, info.leaf ∈ vs.leaves d)
    (distinct : (entries.map leafPosition).Nodup) (nonempty : entries ≠ [])
    (bounds : ∀ info ∈ entries, leafPosition info < 256)
    (quorum : vs.quorum.toNat ≤ (entries.map leafWeight).sum)
    (signed : ∀ info ∈ entries,
      SignedAt k (leafPosition info) (run (process env) GatewayState.initial calls)) :
    Complete k (run (process env) GatewayState.initial calls) := by
  obtain ⟨small, -⟩ := verifierSetHash_eq_ok.mp hash
  obtain ⟨first, mem⟩ := List.exists_mem_of_ne_nil _ nonempty
  obtain ⟨session, stored, hash', -⟩ := signed first mem
  refine ⟨session, stored, hash', ?_⟩
  obtain ⟨-, bump, -, rfl, nodup, setBy⟩ := exists_replay_of_stored stored
  have accepted' : ∀ info ∈ accepted k (trace (process env) GatewayState.initial calls),
      info.leaf ∈ vs.leaves d := by
    intro info mem
    obtain ⟨t, member, set⟩ := setBy info mem
    exact set.mem_leaves rs ud hash free member
  have uniform : ∀ info ∈ accepted k (trace (process env) GatewayState.initial calls),
      info.leaf.quorum = vs.quorum := by
    intro info mem
    obtain ⟨i, signer, -, leaf, -⟩ := VerifierSet.genuine small (accepted' info mem)
    rw [leaf]
    rfl
  -- the entries' positions are among those of the accepted leaves
  have subset : (entries.map leafPosition).toFinset ⊆
      ((accepted k (trace (process env) GatewayState.initial calls)).map leafPosition).toFinset := by
    intro p hp
    obtain ⟨info, member, rfl⟩ := List.mem_map.mp (List.mem_toFinset.mp hp)
    obtain ⟨session', stored', -, bit⟩ := signed info member
    cases stored.symm.trans stored'
    rw [getLsbD_replay _ _ (bounds info member)] at bit
    exact List.mem_toFinset.mpr (of_decide_eq_true bit)
  refine (threshold_replay_eq_max_iff _ uniform).mpr ⟨?_, ?_⟩
  · intro none'
    rw [none'] at subset
    have inside := subset (List.mem_toFinset.mpr (List.mem_map_of_mem mem))
    simp at inside
  · calc vs.quorum.toNat
        ≤ (entries.map leafWeight).sum := quorum
      _ = ∑ p ∈ (entries.map leafPosition).toFinset, signerWeightAt vs p :=
          sum_leafWeight small genuine distinct
      _ ≤ ∑ p ∈ ((accepted k (trace (process env) GatewayState.initial calls)).map
            leafPosition).toFinset, signerWeightAt vs p :=
          Finset.sum_le_sum_of_subset subset
      _ = ((accepted k (trace (process env) GatewayState.initial calls)).map leafWeight).sum :=
          (sum_leafWeight small accepted' nodup).symm

/-! ## Going through -/

/-- What is recorded for a command id, when only one message with it is ever approved. -/
theorem messageHash_of_recorded {calls : List GatewayCall} {m : Message}
    (only : ∀ call ∈ calls, ∀ accounts item r, call.instruction = .approveMessage accounts item r →
      item.leaf.message.commandId env.toCrates = m.commandId env.toCrates → item.leaf.message = m)
    {record : IncomingMessage}
    (stored : (run (process env) GatewayState.initial calls).incoming
      (m.commandId env.toCrates) = some record) : record.messageHash = m.hash env.toCrates := by
  refine run_invariant_of_mem (P := fun s : GatewayState => ∀ record,
    s.incoming (m.commandId env.toCrates) = some record →
      record.messageHash = m.hash env.toCrates) ?_ ?_ record stored
  · intro record stored
    cases stored
  · intro s call mem s' ih h record stored
    cases process_message_cases h with
    | silent e other same events =>
      rw [same] at stored
      exact ih record stored
    | approve accounts item r called approval =>
      obtain ⟨incoming, same, -, hash, -⟩ := approval.record
      rw [same] at stored
      -- only the message itself is approved under its command id
      by_cases id : m.commandId env.toCrates = item.leaf.message.commandId env.toCrates
      · rw [id, Function.update_self, Option.some.injEq] at stored
        rw [← stored, hash, only call mem accounts item r called id.symm]
      · rw [Function.update_of_ne id] at stored
        exact ih record stored
    | execute accounts m' destination called execution =>
      obtain ⟨incoming, before, -, -, -, same⟩ := execution.record
      rw [same] at stored
      by_cases id : m.commandId env.toCrates = m'.commandId env.toCrates
      · rw [id, Function.update_self, Option.some.injEq] at stored
        rw [← stored]
        exact ih incoming (id ▸ before)
      · rw [Function.update_of_ne id] at stored
        exact ih record stored

/-- **A signed batch goes through.** Let the encoder write execute data for a set of at most 256
signers, with a quorum of valid signatures, and let a run of the gateway contain the opening of the
session, after it a submission of every entry, and then approvals, in any order and between any other
calls of anybody, accepted or not. When the set signs for the gateway at the opening and still does
at the end of the submissions, and the hashed strings do not collide, then at the end:

1. the session is valid, whatever other signatures were submitted to it;
2. every message whose approval was called has a record, and when no other message with its command
   id was approved, this is the record of the message. -/
theorem batch_goes_through {prover : Prover} (rs : RsMerkle env.toCrates depth)
    (ud : Udigest env.toCrates) (rp : RsMerkleProver env.toCrates prover depth)
    (finds : FindsAddresses env)
    {signersWithSignatures : PublicKey → Option EcdsaRecoverableSignature} {payload : Payload}
    {ed : ExecuteData}
    (built : executeData env.toCrates prover vs signersWithSignatures d payload = .ok ed)
    (slots : vs.signers.length ≤ 256) (valid : ValidSignatures env.toCrates vs ed)
    {before signing : List GatewayCall} {opener : GatewayCall}
    (opens : opener.instruction = opening (sessionOf payload ed))
    (submits : ∀ info ∈ ed.signingVerifierSetLeaves,
      ∃ call ∈ signing, call.instruction = submission (sessionOf payload ed) info)
    (start : Installed (run (process env) GatewayState.initial before) d
      ed.signingVerifierSetMerkleRoot)
    (finish : Installed (run (process env) GatewayState.initial (before ++ opener :: signing)) d
      ed.signingVerifierSetMerkleRoot)
    (free : CollisionFree env.toCrates depth vs d (before ++ opener :: signing))
    (approving : List GatewayCall) :
    let s := run (process env) GatewayState.initial ((before ++ opener :: signing) ++ approving)
    (∃ session, s.sessions (sessionOf payload ed) = some session ∧ session.isValid = true) ∧
    ∀ items, ed.payloadItems = .newMessages items → ∀ item ∈ items,
      (∃ call ∈ approving, call.instruction = approval env (sessionOf payload ed) item) →
      ∃ record, s.incoming (item.leaf.message.commandId env.toCrates) = some record ∧
        ((∀ call ∈ (before ++ opener :: signing) ++ approving, ∀ accounts item' r,
          call.instruction = .approveMessage accounts item' r →
          item'.leaf.message.commandId env.toCrates = item.leaf.message.commandId env.toCrates →
          item'.leaf.message = item.leaf.message) →
        record.messageHash = item.leaf.message.hash env.toCrates) := by
  intro s
  have agrees := agrees_of_executeData rs rp built
  obtain ⟨signing', -, entries, -⟩ := executeData_eq_ok.mp built
  have entry (info : SigningVerifierSetInfo) (mem : info ∈ ed.signingVerifierSetLeaves) :
      info.leaf ∈ vs.leaves d ∧ info.leaf.domainSeparator = d := by
    rw [entries] at mem
    obtain ⟨i, signer, signature, found, -, rfl⟩ := VerifierSet.mem_entries.mp mem
    exact ⟨VerifierSet.mem_leaves.mpr ⟨i, signer, found, rfl⟩, rfl⟩
  have acceptedEntry (info : SigningVerifierSetInfo) (mem : info ∈ ed.signingVerifierSetLeaves) :=
    signatureAccepted_of_mem rs rp built slots valid mem
  have distinct : (ed.signingVerifierSetLeaves.map leafPosition).Nodup := by
    rw [entries]
    exact nodup_map_leafPosition_entries (by omega)
  -- the opening
  have opened : Opened (sessionOf payload ed)
      (commit (process env) (run (process env) GatewayState.initial before) opener) :=
    opened_of_opening finds opens start
  have split (earlier : List GatewayCall) :
      run (process env) GatewayState.initial (before ++ opener :: earlier) =
        run (process env)
          (commit (process env) (run (process env) GatewayState.initial before) opener) earlier := by
    rw [run_append, run_cons]
  -- every entry is signed at the end of the submissions
  have signed : ∀ info ∈ ed.signingVerifierSetLeaves,
      SignedAt (sessionOf payload ed) (leafPosition info)
        (run (process env) GatewayState.initial (before ++ opener :: signing)) := by
    intro info mem
    obtain ⟨call, called, submitted⟩ := submits info mem
    rw [split]
    refine reaches (P := fun t => Opened (sessionOf payload ed) t ∧
        Installed t d ed.signingVerifierSetMerkleRoot)
      (lasting_signedAt (acceptedEntry info mem).inBounds) called ?_ ?_
    · intro earlier later same
      refine ⟨lasting_opened.run opened earlier, ?_⟩
      have between : Installed (run (process env) (run (process env) GatewayState.initial before)
          (opener :: earlier)) d ed.signingVerifierSetMerkleRoot := by
        have ends : Installed (run (process env) (run (process env) GatewayState.initial before)
            ((opener :: earlier) ++ call :: later)) d ed.signingVerifierSetMerkleRoot := by
          rw [← run_append, List.cons_append, ← same]
          exact finish
        exact start.between ends
      rw [run_cons] at between
      exact between
    · rintro t ⟨isOpen, installed⟩
      exact signedAt_of_submission submitted (agrees.payloadType info mem) (entry info mem).2
        (acceptedEntry info mem) isOpen installed
  have complete : Complete (sessionOf payload ed)
      (run (process env) GatewayState.initial (before ++ opener :: signing)) :=
    complete_of_signed rs ud agrees.signingRoot free (fun info mem => (entry info mem).1) distinct
      valid.nonempty (fun info mem => (acceptedEntry info mem).inBounds) valid.quorum signed
  have configured : Configured d
      (run (process env) GatewayState.initial (before ++ opener :: signing)) := by
    obtain ⟨config, -, stored, domain, -⟩ := finish
    exact ⟨config, stored, domain⟩
  constructor
  · obtain ⟨session, stored, -, full⟩ := lasting_complete.run complete approving
    refine ⟨session, ?_, decide_eq_true full⟩
    rw [← stored, ← run_append]
  · intro items shape item mem ⟨call, called, approves⟩
    -- only a batch of messages has items
    cases payload with
    | newVerifierSet w =>
      obtain ⟨rotation, -⟩ := agrees.rotation w rfl
      rw [rotation] at shape
      cases shape
    | messages ms =>
      obtain ⟨items', shape', leaves, -⟩ := agrees.messages ms rfl
      rw [shape, MerklizedPayload.newMessages.injEq] at shape'
      subst shape'
      have domain : item.leaf.domainSeparator = d := by
        have leaf : item.leaf ∈ ms.leaves d := leaves ▸ List.mem_map_of_mem mem
        obtain ⟨i, message, -, same⟩ := Messages.mem_leaves.mp leaf
        rw [same]
        rfl
      obtain ⟨record, stored⟩ : Recorded (item.leaf.message.commandId env.toCrates)
          (run (process env) (run (process env) GatewayState.initial (before ++ opener :: signing))
            approving) := by
        refine reaches (P := fun t => Complete (sessionOf (.messages ms) ed) t ∧ Configured d t)
          lasting_recorded called ?_ ?_
        · intro earlier later same
          exact ⟨lasting_complete.run complete earlier, lasting_configured.run configured earlier⟩
        · rintro t ⟨full, configured⟩
          exact recorded_of_approval finds approves rfl domain
            (agrees.messagesPass items shape item mem) full configured
      rw [← run_append] at stored
      exact ⟨record, stored, fun only => messageHash_of_recorded only stored⟩

/-- The execute data of the sample batch. -/
def sampleExecuteData : ExecuteData where
  signingVerifierSetMerkleRoot := sampleSetRoot
  signingVerifierSetLeaves := sampleVerifierSet.entries sampleCrates sampleProver sampleSignatures
    sampleDomainSeparator .approveMessages
  payloadMerkleRoot := samplePayloadRoot
  payloadItems := sampleBatch.items sampleCrates sampleProver sampleDomainSeparator
    samplePayloadRoot

/-- The three signers are installed. -/
def sampleInstallation : GatewayCall :=
  ⟨sampleSysvar, .initializeConfig ⟨⟨padTo 32 [3], true⟩⟩
    ⟨sampleDomainSeparator, ⟨sampleSetRoot, padTo 32 []⟩, 0, padTo 32 [3], 2⟩⟩

/-- The configuration it leaves. -/
def sampleConfig : GatewayConfig :=
  ⟨1, 2, 0, 100, padTo 32 [3], sampleDomainSeparator, 255⟩

/-- The installation of the sample succeeds. -/
theorem process_sampleInstallation : process sampleGateway sampleInstallation GatewayState.initial =
    .ok ({ GatewayState.initial with config := some sampleConfig }.setTracker sampleSetRoot
      ⟨255, 1, sampleSetRoot⟩) := by
  show initializeConfig sampleGateway sampleSysvar _ _ GatewayState.initial = _
  simp only [initializeConfig, signer, bind_eq_ok, require_eq_ok, okOr_eq_ok, pure_eq_ok,
    canonicalBump_eq_ok]
  exact ⟨(), trivial, 255, ⟨_, rfl⟩, (), rfl, 255, ⟨_, rfl⟩, (), rfl, (), rfl, 100, rfl, rfl⟩

/-- The call of an instruction. -/
def sampleCall (instruction : GatewayInstruction) : GatewayCall := ⟨sampleSysvar, instruction⟩

/-- The entries are submitted last first, and then once more. -/
def sampleSigning : List GatewayCall :=
  (sampleExecuteData.signingVerifierSetLeaves.reverse ++
    sampleExecuteData.signingVerifierSetLeaves).map fun info =>
      sampleCall (submission (sessionOf sampleBatch sampleExecuteData) info)

/-- The items of the sample batch. -/
def sampleItems : List MerklizedMessage :=
  (Messages.mk [sampleCrossChainMessage,
    { sampleCrossChainMessage with ccId := ⟨"ethereum", "0x02-0"⟩ }]).items sampleCrates
      sampleProver sampleDomainSeparator

/-- Both messages are approved. -/
def sampleApproving : List GatewayCall :=
  sampleItems.map fun item =>
    sampleCall (approval sampleGateway (sessionOf sampleBatch sampleExecuteData) item)

/-- The session of the sample batch is opened. -/
def sampleOpener : GatewayCall := sampleCall (opening (sessionOf sampleBatch sampleExecuteData))

/-- The data of the sample are what the encoder builds. -/
theorem sampleExecuteData_built : executeData sampleCrates sampleProver sampleVerifierSet
    sampleSignatures sampleDomainSeparator sampleBatch = .ok sampleExecuteData := by
  refine executeData_eq_ok.mpr ⟨?_, ?_, rfl, rfl⟩
  · decide +kernel
  · decide +kernel

/-- The calls before the approvals submit entries of the sample data and nothing else. -/
theorem mem_sampleSigning {call : GatewayCall}
    (mem : call ∈ [sampleInstallation] ++ sampleOpener :: sampleSigning) :
    call = sampleInstallation ∨ call = sampleOpener ∨
      ∃ info ∈ sampleExecuteData.signingVerifierSetLeaves, call =
        sampleCall (submission (sessionOf sampleBatch sampleExecuteData) info) := by
  rcases List.mem_cons.mp mem with rfl | mem
  · exact .inl rfl
  rcases List.mem_cons.mp mem with rfl | mem
  · exact .inr (.inl rfl)
  obtain ⟨info, member, rfl⟩ := List.mem_map.mp mem
  refine .inr (.inr ⟨info, ?_, rfl⟩)
  rwa [List.mem_append, List.mem_reverse, or_self] at member

/-- The strings hashed for the set of the sample and for a submitted proof do not collide. -/
def sampleFree (info : SigningVerifierSetInfo) (proof : List Bytes32) : Bool :=
  let inputs := sampleVerifierSet.inputs sampleCrates sampleDepth sampleDomainSeparator ++
    climbInputs sampleCrates sampleDepth (.verifierSetLeaf info.leaf) proof
      info.leaf.position.toNat info.leaf.setSize.toNat
  inputs.all fun a => inputs.all fun b =>
    sampleCrates.keccak a ≠ sampleCrates.keccak b || a = b

/-- Collision freedom for one entry can be evaluated. -/
theorem injOn_of_sampleFree {info : SigningVerifierSetInfo} {proof : List Bytes32}
    (h : sampleFree info proof = true) :
    Set.InjOn sampleCrates.keccak {b | b ∈ sampleVerifierSet.inputs sampleCrates sampleDepth
      sampleDomainSeparator ++ climbInputs sampleCrates sampleDepth (.verifierSetLeaf info.leaf)
        proof info.leaf.position.toNat info.leaf.setSize.toNat} :=
  injOn_of_all h

/-- The strings hashed in the sample run do not collide. -/
theorem sampleSigning_collisionFree : CollisionFree sampleCrates sampleDepth sampleVerifierSet
    sampleDomainSeparator ([sampleInstallation] ++ sampleOpener :: sampleSigning) := by
  have all : ∀ info ∈ sampleExecuteData.signingVerifierSetLeaves,
      ∀ proof ∈ sampleCrates.merkleProofFromBytes info.merkleProof,
        sampleFree info proof = true := by
    decide +kernel
  intro call mem accounts r info called proof read
  rcases mem_sampleSigning mem with rfl | rfl | ⟨info', member, rfl⟩
  · cases called
  · cases called
  · cases called
    exact injOn_of_sampleFree (all info member proof read)

/-- The two messages of the sample batch are recorded, although the entries are submitted twice. -/
theorem batch_goes_through_sample :
    {item | item ∈ sampleItems} ⊆ {item | ∃ record,
      (run (process sampleGateway) GatewayState.initial
        (([sampleInstallation] ++ sampleOpener :: sampleSigning) ++ sampleApproving)).incoming
          (item.leaf.message.commandId sampleGateway.toCrates) = some record ∧
      record.messageHash = item.leaf.message.hash sampleGateway.toCrates} := by
  have agrees := agrees_of_executeData sampleCrates_rsMerkle sampleCrates_rsMerkleProver
    sampleExecuteData_built
  have start : Installed (run (process sampleGateway) GatewayState.initial [sampleInstallation])
      sampleDomainSeparator sampleSetRoot := by
    rw [run_cons, run_nil, commit_ok process_sampleInstallation]
    refine ⟨sampleConfig, ⟨255, 1, sampleSetRoot⟩, rfl, rfl, ?_, rfl, by decide⟩
    simp only [GatewayState.setTracker, Function.update_self]
  have finish : Installed (run (process sampleGateway) GatewayState.initial
      ([sampleInstallation] ++ sampleOpener :: sampleSigning)) sampleDomainSeparator
        sampleSetRoot := by
    rw [run_append]
    refine start.run_of_no_rotation fun call mem accounts r called => ?_
    rcases mem_sampleSigning (List.mem_append_right _ mem) with rfl | rfl | ⟨info, -, rfl⟩ <;>
      cases called
  have distinct : (sampleItems.map fun item =>
      item.leaf.message.commandId sampleGateway.toCrates).Nodup := by decide +kernel
  have submits : ∀ info ∈ sampleExecuteData.signingVerifierSetLeaves, ∃ call ∈ sampleSigning,
      call.instruction = submission (sessionOf sampleBatch sampleExecuteData) info :=
    fun info mem => ⟨_, List.mem_map_of_mem (List.mem_append_right _ mem), rfl⟩
  have opens : sampleOpener.instruction = opening (sessionOf sampleBatch sampleExecuteData) := rfl
  have approved := (batch_goes_through sampleCrates_rsMerkle sampleCrates_udigest
    sampleCrates_rsMerkleProver sampleGateway_findsAddresses sampleExecuteData_built (by decide)
    (sampleValidSignatures agrees) opens submits start finish sampleSigning_collisionFree
    sampleApproving).2
  intro item mem
  obtain ⟨record, stored, hash⟩ := approved sampleItems rfl item mem
    ⟨_, List.mem_map_of_mem mem, rfl⟩
  refine ⟨record, stored, hash fun call called accounts item' r approves id => ?_⟩
  rcases List.mem_append.mp called with before | after
  · rcases mem_sampleSigning before with rfl | rfl | ⟨info, -, rfl⟩ <;> cases approves
  · obtain ⟨item'', member, rfl⟩ := List.mem_map.mp after
    cases approves
    rw [List.inj_on_of_nodup_map distinct member mem id]

end AxelarSolana.Gateway
