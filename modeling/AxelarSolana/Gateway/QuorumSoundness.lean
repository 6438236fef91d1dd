import AxelarSolana.Gateway.Instructions
import AxelarSolana.Library.Machine
import AxelarSolana.Library.Tally
import Mathlib.Algebra.BigOperators.Group.Finset.Basic

/-! # Quorum soundness of signature sessions

What a session account says after any run of the gateway:

* **`accepted k tr`** — the signatures that the committed calls of a run contributed to the
  session `k`, in order of submission.
* **`replay`** — the session these signatures produce from an empty one; `SessionHistory` is the
  invariant that the stored session is the replay of the accepted signatures.
* **`getLsbD_replay`**, **`toNat_threshold_replay`** — the replayed bits are the positions of the
  accepted leaves, and the replayed threshold is the capped tally of their weights.
* **`session_quorum_sound`** — the property of the stored session itself. -/

namespace AxelarSolana.Gateway

open Machine

/-- A committed call of the gateway. -/
abbrev GatewayTransition := Transition GatewayState GatewayCall

/-! ## Accepted signatures -/

/-- The signature a committed call contributed to the session `k`, if any. -/
def acceptedBy (k : SessionKey) (t : GatewayTransition) : Option SigningVerifierSetInfo :=
  match t.call.instruction with
  | .verifySignature accounts _ info =>
    if accounts.verificationSessionAccount = k then some info else none
  | _ => none

/-- **The signatures accepted for the session `k`** in a run. -/
def accepted (k : SessionKey) (tr : List GatewayTransition) : List SigningVerifierSetInfo :=
  tr.filterMap (acceptedBy k)

/-- The position of a submitted leaf. -/
def leafPosition (info : SigningVerifierSetInfo) : Nat :=
  info.leaf.position.toNat

/-- The weight of a submitted leaf. -/
def leafWeight (info : SigningVerifierSetInfo) : Nat :=
  info.leaf.signerWeight.toNat

/-- The committed calls that signed at position `p` of the session `k`. -/
def signsAt (k : SessionKey) (p : Nat) (t : GatewayTransition) : Bool :=
  (acceptedBy k t).any fun info => leafPosition info = p

/-- **The positions whose bit is set.** -/
def signedPositions (sv : SignatureVerification) : Finset Nat :=
  (Finset.range 256).filter fun p => sv.signatureSlots.getLsbD p = true

/-- The weight of the signature accepted at position `p`. -/
def weightAt (infos : List SigningVerifierSetInfo) (p : Nat) : Nat :=
  ((infos.find? fun info => leafPosition info = p).map leafWeight).getD 0

/-! ## What one call does to a session -/

/-- A signature accepted for the session `k` by the call of `t`: everything `verify_signature` has
checked, and the bit it has set. -/
structure SetBy (env : Env) (k : SessionKey) (info : SigningVerifierSetInfo)
    (t : GatewayTransition) : Prop where
  call : acceptedBy k t = some info
  domain : ∃ config, t.pre.config = some config ∧
    info.leaf.domainSeparator = config.domainSeparator
  payloadType : info.payloadType = k.payloadType
  signature : SignatureAccepted env.toCrates k.payloadMerkleRoot k.signingVerifierSetHash info
  session : ∃ d, t.pre.sessions k = some d ∧
    d.signatureVerification.signatureSlots.getLsbD (leafPosition info) = false ∧
    t.post.sessions k = some { d with
      signatureVerification := d.signatureVerification.accept info.leaf }

/-- **The three things a call can do to a session**: nothing, open it, or accept a signature. -/
theorem process_session_cases {env : Env} {call : GatewayCall} {s s' : GatewayState}
    (h : process env call s = .ok s') (k : SessionKey) :
    (acceptedBy k ⟨s, call, s'⟩ = none ∧ s'.sessions k = s.sessions k) ∨
    (acceptedBy k ⟨s, call, s'⟩ = none ∧ s.sessions k = none ∧ ∃ key bump,
      env.findProgramAddress k.pdaSeeds env.gatewayId = .ok (key, bump) ∧
      s'.sessions k = some (emptySession k.signingVerifierSetHash bump)) ∨
    (∃ info, SetBy env k info ⟨s, call, s'⟩) := by
  obtain ⟨sysvar, instruction⟩ := call
  cases instruction with
  | callContract accounts chain address payload bump =>
    obtain ⟨-, rfl⟩ := callContract_ok h
    exact .inl ⟨rfl, rfl⟩
  | initializeConfig accounts params =>
    obtain ⟨-, -, config, bump, -, -, -, -, -, -, rfl⟩ := initializeConfig_ok h
    exact .inl ⟨rfl, rfl⟩
  | initializePayloadVerificationSession accounts r t =>
    obtain ⟨config, tracker, bump, key, -, -, -, -, opened, fresh, found, rfl⟩ :=
      initializePayloadVerificationSession_ok h
    by_cases same : accounts.verificationSessionAccount = k
    · subst same
      refine .inr (.inl ⟨rfl, fresh, key, bump, found, ?_⟩)
      simp [GatewayState.setSession, opened]
    · exact .inl ⟨rfl, by simp [GatewayState.setSession, Function.update_of_ne (Ne.symm same)]⟩
  | verifySignature accounts r info =>
    obtain ⟨config, d, tracker, hconfig, hsession, -, domain, -, key, -, hash, signature, unset,
      rfl⟩ := verifySignature_ok h
    by_cases same : accounts.verificationSessionAccount = k
    · subst same
      rw [hash] at signature
      refine .inr (.inr ⟨info, ⟨by simp [acceptedBy], ⟨config, hconfig, domain.symm⟩, ?_, ?_,
        d, hsession, unset, by simp [GatewayState.setSession]⟩⟩)
      · rw [key]
      · rw [key]
        exact signature
    · exact .inl ⟨by simp [acceptedBy, same],
        by simp [GatewayState.setSession, Function.update_of_ne (Ne.symm same)]⟩
  | approveMessage accounts m r =>
    obtain ⟨-, -, -, -, -, -, -, -, -, -, -, -, rfl⟩ := approveMessage_ok h
    exact .inl ⟨rfl, rfl⟩
  | validateMessage accounts m =>
    obtain ⟨-, -, -, -, -, -, -, -, -, rfl⟩ := validateMessage_ok h
    exact .inl ⟨rfl, rfl⟩
  | rotateSigners accounts newRoot =>
    obtain ⟨-, -, -, -, -, -, -, -, -, -, -, -, -, -, -, -, -, -, -, rfl⟩ := rotateSigners_ok h
    exact .inl ⟨rfl, rfl⟩
  | transferOperatorship accounts =>
    obtain ⟨-, -, -, -, -, rfl⟩ := transferOperatorship_ok h
    exact .inl ⟨rfl, rfl⟩

/-! ## The replay of accepted signatures -/

/-- **The session that a list of accepted signatures produces.** -/
def replay (S : Bytes32) (infos : List SigningVerifierSetInfo) : SignatureVerification :=
  infos.foldl (fun sv info => sv.accept info.leaf)
    { accumulatedThreshold := U128.zero, signatureSlots := 0, signingVerifierSetHash := S }

/-- One more signature is accepted by the session of the others. -/
theorem replay_append (S : Bytes32) (infos : List SigningVerifierSetInfo)
    (info : SigningVerifierSetInfo) :
    replay S (infos ++ [info]) = (replay S infos).accept info.leaf := by
  simp [replay]

/-- Signatures leave the set of a session. -/
@[simp] theorem replay_signingVerifierSetHash (S : Bytes32)
    (infos : List SigningVerifierSetInfo) : (replay S infos).signingVerifierSetHash = S := by
  induction infos using List.reverseRec with
  | nil => rfl
  | append_singleton infos info ih =>
    rw [replay_append]
    exact ih

/-- The bits of the replay are the positions of the accepted leaves. -/
theorem getLsbD_replay (S : Bytes32) (infos : List SigningVerifierSetInfo) {p : Nat}
    (hp : p < 256) :
    (replay S infos).signatureSlots.getLsbD p = decide (p ∈ infos.map leafPosition) := by
  induction infos using List.reverseRec with
  | nil => simp [replay]
  | append_singleton infos info ih =>
    rw [replay_append, SignatureVerification.getLsbD_accept _ _ hp, ih]
    simp [leafPosition, Bool.decide_or]

/-- One accepted leaf moves the threshold by one step of the tally. -/
theorem toNat_addWeight (threshold : U128) (leaf : VerifierSetLeaf) :
    (SignatureVerification.addWeight threshold leaf).get.toNat =
      Tally.add (2 ^ 128 - 1) leaf.quorum.toNat threshold.get.toNat leaf.signerWeight.toNat := by
  simp only [SignatureVerification.addWeight, Tally.add, BitVec.le_def,
    U128.toNat_get_saturatingAdd, U128.get_new]
  split
  · rw [U128.get_max, BitVec.toNat_allOnes]
  · rw [U128.toNat_get_saturatingAdd, U128.get_new]

/-- The threshold of the replay is the capped tally of the accepted weights. -/
theorem toNat_threshold_replay {Q : BitVec 128} (S : Bytes32)
    {infos : List SigningVerifierSetInfo} (uniform : ∀ info ∈ infos, info.leaf.quorum = Q) :
    (replay S infos).accumulatedThreshold.get.toNat =
      Tally.value (2 ^ 128 - 1) Q.toNat (infos.map leafWeight) := by
  have cap : Q.toNat ≤ 2 ^ 128 - 1 := by
    have := Q.isLt
    omega
  induction infos using List.reverseRec with
  | nil => simp [replay]
  | append_singleton infos info ih =>
    have before := ih fun i hi => uniform i (List.mem_append_left _ hi)
    have last : info.leaf.quorum = Q := uniform info (by simp)
    rw [replay_append, List.map_append, List.map_singleton, Tally.value_append cap, ← before,
      ← last]
    exact toNat_addWeight _ _

/-- The replay is complete exactly when some signature was accepted and the accepted weights reach
the quorum. -/
theorem threshold_replay_eq_max_iff {Q : BitVec 128} (S : Bytes32)
    {infos : List SigningVerifierSetInfo} (uniform : ∀ info ∈ infos, info.leaf.quorum = Q) :
    (replay S infos).accumulatedThreshold = U128.max ↔
      infos ≠ [] ∧ Q.toNat ≤ (infos.map leafWeight).sum := by
  have cap : Q.toNat ≤ 2 ^ 128 - 1 := by
    have := Q.isLt
    omega
  have full (threshold : U128) : threshold = U128.max ↔ threshold.get.toNat = 2 ^ 128 - 1 := by
    constructor
    · intro h
      rw [h, U128.get_max, BitVec.toNat_allOnes]
    · intro h
      refine U128.get_inj (BitVec.eq_of_toNat_eq ?_)
      rw [h, U128.get_max, BitVec.toNat_allOnes]
  rw [full, toNat_threshold_replay S uniform, Tally.value_eq_max_iff cap (by omega), ne_eq,
    List.map_eq_nil_iff]

/-- With distinct positions, the weight at a leaf's position is the leaf's weight. -/
theorem weightAt_of_mem {infos : List SigningVerifierSetInfo}
    (nodup : (infos.map leafPosition).Nodup) {info : SigningVerifierSetInfo}
    (mem : info ∈ infos) : weightAt infos (leafPosition info) = leafWeight info := by
  obtain ⟨found, hfound⟩ : ∃ found, infos.find? (fun i => leafPosition i = leafPosition info)
      = some found := Option.isSome_iff_exists.mp (List.find?_isSome.mpr ⟨info, mem, by simp⟩)
  have same : leafPosition found = leafPosition info := by simpa using List.find?_some hfound
  have : found = info := List.inj_on_of_nodup_map nodup (List.mem_of_find?_eq_some hfound) mem same
  simp [weightAt, hfound, this]

/-- With distinct positions, the weights over the positions add up to the accepted weights. -/
theorem sum_weightAt {infos : List SigningVerifierSetInfo}
    (nodup : (infos.map leafPosition).Nodup) :
    ∑ p ∈ (infos.map leafPosition).toFinset, weightAt infos p = (infos.map leafWeight).sum := by
  rw [List.sum_toFinset _ nodup, List.map_map]
  congr 1
  exact List.map_congr_left fun info mem => weightAt_of_mem nodup mem

/-- The positions of the set bits are those of the accepted leaves. -/
theorem signedPositions_replay (S : Bytes32) {infos : List SigningVerifierSetInfo}
    (bounds : ∀ info ∈ infos, leafPosition info < 256) :
    signedPositions (replay S infos) = (infos.map leafPosition).toFinset := by
  ext p
  simp only [signedPositions, Finset.mem_filter, Finset.mem_range, List.mem_toFinset]
  constructor
  · rintro ⟨hp, set⟩
    rw [getLsbD_replay S infos hp] at set
    exact of_decide_eq_true set
  · intro mem
    obtain ⟨info, hinfo, rfl⟩ := List.mem_map.mp mem
    have hp := bounds info hinfo
    exact ⟨hp, by rw [getLsbD_replay S infos hp]; exact decide_eq_true mem⟩

/-- **Order independence.** Two lists of accepted leaves with the same positions, when a position
determines its leaf, replay to the same session. -/
theorem replay_eq_of_positions {Q : BitVec 128} (S : Bytes32)
    {infos infos' : List SigningVerifierSetInfo} (nodup : (infos.map leafPosition).Nodup)
    (nodup' : (infos'.map leafPosition).Nodup)
    (positions : (infos.map leafPosition).toFinset = (infos'.map leafPosition).toFinset)
    (uniform : ∀ info ∈ infos, info.leaf.quorum = Q)
    (uniform' : ∀ info ∈ infos', info.leaf.quorum = Q)
    (binding : ∀ i ∈ infos, ∀ j ∈ infos', i.leaf.position = j.leaf.position → i.leaf = j.leaf) :
    replay S infos = replay S infos' := by
  have mem_iff (p : Nat) : p ∈ infos.map leafPosition ↔ p ∈ infos'.map leafPosition := by
    rw [← List.mem_toFinset, positions, List.mem_toFinset]
  -- the slots say which positions were accepted, and the accumulator only the sum of their weights
  have bits : (replay S infos).signatureSlots = (replay S infos').signatureSlots := by
    apply BitVec.eq_of_getLsbD_eq
    intro p hp
    rw [getLsbD_replay S infos hp, getLsbD_replay S infos' hp, decide_eq_decide]
    exact mem_iff p
  have sums : (infos.map leafWeight).sum = (infos'.map leafWeight).sum := by
    rw [← sum_weightAt nodup, ← sum_weightAt nodup', ← positions]
    apply Finset.sum_congr rfl
    intro p hp
    obtain ⟨i, hi, rfl⟩ := List.mem_map.mp (List.mem_toFinset.mp hp)
    obtain ⟨j, hj, same⟩ := List.mem_map.mp ((mem_iff _).mp (List.mem_toFinset.mp hp))
    rw [weightAt_of_mem nodup hi, ← same, weightAt_of_mem nodup' hj]
    have leaves := binding i hi j hj (UInt16.toNat_inj.mp same.symm)
    rw [leafWeight, leafWeight, leaves]
  have empty : infos = [] ↔ infos' = [] := by
    rw [← List.map_eq_nil_iff (f := leafPosition), ← List.toFinset_eq_empty_iff, positions,
      List.toFinset_eq_empty_iff, List.map_eq_nil_iff]
  have thresholds : (replay S infos).accumulatedThreshold
      = (replay S infos').accumulatedThreshold := by
    apply U128.get_inj
    apply BitVec.eq_of_toNat_eq
    rw [toNat_threshold_replay S uniform, toNat_threshold_replay S uniform']
    simp only [Tally.value, sums, ne_eq, List.map_eq_nil_iff, empty]
  have hashes : (replay S infos).signingVerifierSetHash
      = (replay S infos').signingVerifierSetHash := by
    rw [replay_signingVerifierSetHash, replay_signingVerifierSetHash]
  calc replay S infos
      = ⟨(replay S infos).accumulatedThreshold, (replay S infos).signatureSlots,
          (replay S infos).signingVerifierSetHash⟩ := rfl
    _ = replay S infos' := by rw [thresholds, bits, hashes]

/-! ## The invariant of a run -/

/-- **The stored session is the replay of the signatures accepted for it.** -/
inductive SessionHistory (env : Env) (k : SessionKey) (tr : List GatewayTransition)
    (s : GatewayState) : Prop
  | absent (none : s.sessions k = none) (nothing : accepted k tr = [])
  | stored (key : Pubkey) (bump : UInt8)
      (found : env.findProgramAddress k.pdaSeeds env.gatewayId = .ok (key, bump))
      (session : s.sessions k = some ⟨replay k.signingVerifierSetHash (accepted k tr), bump⟩)
      (nodup : ((accepted k tr).map leafPosition).Nodup)
      (calls : ∀ info ∈ accepted k tr, ∃ t ∈ tr, SetBy env k info t)

/-- One more call contributes at most one signature. -/
theorem accepted_append (k : SessionKey) (tr : List GatewayTransition) (t : GatewayTransition) :
    accepted k (tr ++ [t]) = accepted k tr ++ (acceptedBy k t).toList := by
  cases h : acceptedBy k t <;> simp [accepted, h]

/-- Every run keeps the history of every session. -/
theorem sessionHistory_run (env : Env) (k : SessionKey) (calls : List GatewayCall) :
    SessionHistory env k (trace (process env) GatewayState.initial calls)
      (run (process env) GatewayState.initial calls) := by
  refine run_trace_induction (P := SessionHistory env k) (.absent rfl rfl) ?_ calls
  intro tr s call s' history h
  have grow := accepted_append k tr ⟨s, call, s'⟩
  -- a call leaves the session, opens it, or puts one signature into it
  rcases process_session_cases h k with ⟨silent, same⟩ | ⟨silent, fresh, key, bump, found, opened⟩
    | ⟨info, set⟩
  · rw [silent, Option.toList_none, List.append_nil] at grow
    cases history with
    | absent none nothing => exact .absent (same.trans none) (grow.trans nothing)
    | stored key bump found session nodup calls =>
      refine .stored key bump found (by rw [same, grow, session]) (by rwa [grow]) fun i hi => ?_
      obtain ⟨t, mem, set⟩ := calls i (grow ▸ hi)
      exact ⟨t, List.mem_append_left _ mem, set⟩
  · rw [silent, Option.toList_none, List.append_nil] at grow
    cases history with
    | absent none nothing =>
      rw [nothing] at grow
      exact .stored key bump found (by rw [opened, grow]; rfl) (by simp [grow])
        (by simp [grow])
    | stored _ _ _ session _ _ =>
      rw [fresh] at session
      cases session
  · rw [set.call, Option.toList_some] at grow
    obtain ⟨d, before, unset, after⟩ := set.session
    cases history with
    | absent none nothing =>
      rw [none] at before
      cases before
    | stored key bump found session nodup calls =>
      cases session.symm.trans before
      -- the slot was not set, and the set slots are the positions accepted so far
      have new : leafPosition info ∉ (accepted k tr).map leafPosition := by
        have bits := getLsbD_replay k.signingVerifierSetHash (accepted k tr)
          set.signature.inBounds
        exact of_decide_eq_false (bits.symm.trans unset)
      refine .stored key bump found ?_ ?_ ?_
      · rw [after, grow, replay_append]
      · rw [grow, List.map_append, List.map_singleton]
        exact List.nodup_append.mpr ⟨nodup, by simp, by
          rintro p hp q hq rfl
          rw [List.mem_singleton] at hq
          exact new (hq ▸ hp)⟩
      · intro i hi
        rw [grow, List.mem_append, List.mem_singleton] at hi
        rcases hi with hi | rfl
        · obtain ⟨t, mem, set⟩ := calls i hi
          exact ⟨t, List.mem_append_left _ mem, set⟩
        · exact ⟨_, List.mem_append_right _ (List.mem_singleton_self _), set⟩

/-! ## Soundness -/

/-- **A quorum of signatures**: accepted signatures of pairwise distinct leaves for the root and
type of a session, of total weight at least `Q`. -/
structure QuorumSigned (env : Env) (k : SessionKey) (Q : Nat)
    (infos : List SigningVerifierSetInfo) : Prop where
  nonempty : infos ≠ []
  distinct : (infos.map leafPosition).Nodup
  signed : ∀ info ∈ infos, info.payloadType = k.payloadType ∧
    SignatureAccepted env.toCrates k.payloadMerkleRoot k.signingVerifierSetHash info
  quorum : Q ≤ (infos.map leafWeight).sum

/-- **A root that commits to a verifier set**: every leaf under it is one of the set's own. This is
what the soundness of Merkle proofs says about the root of a set. -/
def CommitsTo (env : Crates) (S : Bytes32) (vs : VerifierSet) (domainSeparator : Bytes32) : Prop :=
  ∃ leaves, verifierSetLeaves vs domainSeparator = .ok leaves ∧
    ∀ leaf, LeafUnder env S leaf → leaf ∈ leaves

/-- The leaf at a position of a verifier set. -/
theorem mem_verifierSetLeaves {vs : VerifierSet} {d : Bytes32} {leaves : List VerifierSetLeaf}
    (h : verifierSetLeaves vs d = .ok leaves) {leaf : VerifierSetLeaf} (mem : leaf ∈ leaves) :
    vs.signers[leaf.position.toNat]? = some (leaf.signerPubkey, leaf.signerWeight) ∧
      leaf.quorum = vs.quorum := by
  simp only [verifierSetLeaves, Fallible.bind_eq_ok, Fallible.require_eq_ok,
    Fallible.pure_eq_ok] at h
  obtain ⟨-, short, rfl⟩ := h
  obtain ⟨i, hi, rfl⟩ := List.mem_mapIdx.mp mem
  have bound : i % 65536 = i := by omega
  simp [bound, hi]

/-- In a verifier set, signers at different positions have different keys. -/
theorem signers_key_inj (vs : VerifierSet) {i j : Nat} {key : PublicKey} {v w : BitVec 128}
    (hi : vs.signers[i]? = some (key, v)) (hj : vs.signers[j]? = some (key, w)) : i = j := by
  obtain ⟨hi', ei⟩ := List.getElem?_eq_some_iff.mp hi
  obtain ⟨hj', ej⟩ := List.getElem?_eq_some_iff.mp hj
  have ordered := List.pairwise_iff_getElem.mp vs.sorted
  rcases lt_trichotomy i j with lt | eq | gt
  · have := ordered i j hi' hj' lt
    rw [ei, ej] at this
    exact absurd this (List.lt_irrefl _)
  · exact eq
  · have := ordered j i hj' hi' gt
    rw [ei, ej] at this
    exact absurd this (List.lt_irrefl _)

/-- Distinct leaves of a verifier set are distinct signers of it. -/
theorem QuorumSigned.distinct_signers {env : Env} {k : SessionKey} {Q : Nat}
    {infos : List SigningVerifierSetInfo} (h : QuorumSigned env k Q infos) {vs : VerifierSet}
    {d : Bytes32} (commits : CommitsTo env.toCrates k.signingVerifierSetHash vs d) :
    (infos.map fun info => info.leaf.signerPubkey).Nodup ∧
      ∀ info ∈ infos, (info.leaf.signerPubkey, info.leaf.signerWeight) ∈ vs.signers := by
  obtain ⟨leaves, hleaves, genuine⟩ := commits
  have at_position : ∀ info ∈ infos,
      vs.signers[leafPosition info]? = some (info.leaf.signerPubkey, info.leaf.signerWeight) :=
    fun info mem => (mem_verifierSetLeaves hleaves
      (genuine _ (h.signed info mem).2.leafUnder)).1
  constructor
  · have inj : ∀ i ∈ infos, ∀ j ∈ infos, i.leaf.signerPubkey = j.leaf.signerPubkey → i = j := by
      intro i hi j hj same
      have hi' := at_position i hi
      rw [same] at hi'
      exact List.inj_on_of_nodup_map h.distinct hi hj (signers_key_inj vs hi' (at_position j hj))
    exact (List.nodup_map_iff_inj_on (List.Nodup.of_map _ h.distinct)).mpr inj
  · exact fun info mem => List.mem_of_getElem? (at_position info mem)

/-- What the history says about a stored session. -/
theorem exists_replay_of_stored {env : Env} {calls : List GatewayCall} {k : SessionKey}
    {d : SignatureVerificationSessionData}
    (stored : (run (process env) GatewayState.initial calls).sessions k = some d) :
    ∃ key bump, env.findProgramAddress k.pdaSeeds env.gatewayId = .ok (key, bump) ∧
      d = ⟨replay k.signingVerifierSetHash
        (accepted k (trace (process env) GatewayState.initial calls)), bump⟩ ∧
      ((accepted k (trace (process env) GatewayState.initial calls)).map leafPosition).Nodup ∧
      ∀ info ∈ accepted k (trace (process env) GatewayState.initial calls),
        ∃ t ∈ trace (process env) GatewayState.initial calls, SetBy env k info t := by
  cases sessionHistory_run env k calls with
  | absent none nothing =>
    rw [none] at stored
    cases stored
  | stored key bump found session nodup calls =>
    rw [session] at stored
    exact ⟨key, bump, found, (Option.some.inj stored).symm, nodup, calls⟩

/-- **Quorum soundness.** In every reachable state, a session opened for a root `r`, a type `t` and
a set `S` all of whose leaves carry the quorum `Q` is what its set of signed positions `A` says:

1. each position of `A` was signed by exactly one committed call, whose leaf has this position,
   the gateway's domain separator, a Merkle proof to `S` and a signature over `r` and `t`;
2. the threshold is the marker `u128::MAX` exactly when `A` is nonempty and its weights add up to
   `Q` or more in unbounded integers, and otherwise is that sum;
3. a valid session therefore has a quorum of signatures by pairwise distinct leaves, which are
   distinct signers of the set that `S` commits to;
4. when `S` has at most one leaf at each position, any run that reaches the same `A` reaches the
   same session, whatever the order of its calls. -/
theorem session_quorum_sound (env : Env) (calls : List GatewayCall) (k : SessionKey)
    (d : SignatureVerificationSessionData) (Q : BitVec 128)
    (stored : (run (process env) GatewayState.initial calls).sessions k = some d)
    (uniform : ∀ leaf, LeafUnder env.toCrates k.signingVerifierSetHash leaf → leaf.quorum = Q) :
    let tr := trace (process env) GatewayState.initial calls
    let A := signedPositions d.signatureVerification
    let total := ∑ p ∈ A, weightAt (accepted k tr) p
    let threshold := d.signatureVerification.accumulatedThreshold
    (∀ p ∈ A, ∃ t info, tr.filter (signsAt k p) = [t] ∧ leafPosition info = p ∧
      SetBy env k info t) ∧
    (threshold = U128.max ↔ A.Nonempty ∧ Q.toNat ≤ total) ∧
    (¬ (A.Nonempty ∧ Q.toNat ≤ total) → threshold.get.toNat = total) ∧
    (d.isValid = true → ∃ infos, QuorumSigned env k Q.toNat infos ∧
      ∀ vs domain, CommitsTo env.toCrates k.signingVerifierSetHash vs domain →
        (infos.map fun info => info.leaf.signerPubkey).Nodup ∧
        ∀ info ∈ infos, (info.leaf.signerPubkey, info.leaf.signerWeight) ∈ vs.signers) ∧
    ((∀ leaf leaf', LeafUnder env.toCrates k.signingVerifierSetHash leaf →
        LeafUnder env.toCrates k.signingVerifierSetHash leaf' → leaf.position = leaf'.position →
        leaf = leaf') →
      ∀ calls' d', (run (process env) GatewayState.initial calls').sessions k = some d' →
        signedPositions d'.signatureVerification = A → d' = d) := by
  intro tr A total threshold
  -- the stored session is the replay of the signatures accepted in the run, at distinct positions
  obtain ⟨key, bump, found, rfl, nodup, setBy⟩ := exists_replay_of_stored stored
  have quorum : ∀ info ∈ accepted k tr, info.leaf.quorum = Q := by
    intro info mem
    obtain ⟨t, -, set⟩ := setBy info mem
    exact uniform _ set.signature.leafUnder
  have bounds : ∀ info ∈ accepted k tr, leafPosition info < 256 := by
    intro info mem
    obtain ⟨t, -, set⟩ := setBy info mem
    exact set.signature.inBounds
  have positions : A = ((accepted k tr).map leafPosition).toFinset :=
    signedPositions_replay _ bounds
  have sum : total = ((accepted k tr).map leafWeight).sum := by
    rw [← sum_weightAt nodup, ← positions]
  have nonempty : A.Nonempty ↔ (accepted k tr).map leafWeight ≠ [] := by
    rw [positions, List.toFinset_nonempty_iff, ne_eq, ne_eq, List.map_eq_nil_iff,
      List.map_eq_nil_iff]
  -- with one quorum for all leaves, the accumulator is a tally of the weights
  have tally : threshold.get.toNat =
      Tally.value (2 ^ 128 - 1) Q.toNat ((accepted k tr).map leafWeight) :=
    toNat_threshold_replay _ quorum
  have marker : threshold = U128.max ↔ A.Nonempty ∧ Q.toNat ≤ total := by
    rw [nonempty, sum, ne_eq, List.map_eq_nil_iff]
    exact threshold_replay_eq_max_iff _ quorum
  refine ⟨?_, marker, ?_, ?_, ?_⟩
  · intro p hp
    rw [positions, List.mem_toFinset] at hp
    obtain ⟨info, mem, rfl⟩ := List.mem_map.mp hp
    obtain ⟨t, ht, set⟩ := setBy info mem
    exact ⟨t, info, filter_eq_singleton nodup ht set.call, rfl, set⟩
  · intro below
    rw [tally, sum]
    rw [nonempty, sum] at below
    exact Tally.value_of_below below
  · intro valid
    have reached := marker.mp (of_decide_eq_true valid)
    have signed : QuorumSigned env k Q.toNat (accepted k tr) := by
      refine ⟨?_, nodup, ?_, sum ▸ reached.2⟩
      · intro h
        exact (nonempty.mp reached.1) (by rw [h]; rfl)
      · intro info mem
        obtain ⟨t, -, set⟩ := setBy info mem
        exact ⟨set.payloadType, set.signature⟩
    exact ⟨accepted k tr, signed, fun vs domain commits => signed.distinct_signers commits⟩
  · intro binding calls' d' stored' same
    obtain ⟨key', bump', found', rfl, nodup', setBy'⟩ := exists_replay_of_stored stored'
    -- the other session is a replay as well; both accept the same leaf at each position
    have leaves' : ∀ info ∈ accepted k (trace (process env) GatewayState.initial calls'),
        SignatureAccepted env.toCrates k.payloadMerkleRoot k.signingVerifierSetHash info := by
      intro info mem
      obtain ⟨t, -, set⟩ := setBy' info mem
      exact set.signature
    rw [found] at found'
    cases found'
    congr 1
    refine (replay_eq_of_positions (Q := Q) _ nodup nodup' ?_ quorum
      (fun info mem => uniform _ (leaves' info mem).leafUnder) ?_).symm
    · rw [← positions, ← same]
      exact signedPositions_replay _ fun info mem => (leaves' info mem).inBounds
    · intro i hi j hj
      obtain ⟨t, -, set⟩ := setBy i hi
      exact binding _ _ set.signature.leafUnder (leaves' j hj).leafUnder

/-- Every leaf under the sample root carries the quorum 1. -/
theorem quorum_of_leafUnder_sampleSet {leaf : VerifierSetLeaf}
    (h : LeafUnder sampleEnv.toCrates sampleSet leaf) : leaf.quorum = 1 := by
  obtain ⟨proof, verified⟩ := h
  simp only [sampleEnv, Bool.and_eq_true, decide_eq_true_eq] at verified
  have bytes := congrArg List.Vector.toList verified.2
  have root : sampleSet.toList = LittleEndian.encode 16 1 ++ LittleEndian.encode 16 1 := by decide
  have leafBytes : (leaf.hash sampleEnv.toCrates).toList =
      LittleEndian.encode 16 leaf.quorum.toNat
        ++ LittleEndian.encode 16 leaf.signerWeight.toNat :=
    toList_padTo (by
      show (LittleEndian.encode 16 _ ++ LittleEndian.encode 16 _).length = 32
      simp)
  have quorum := (List.append_inj (leafBytes.symm.trans (bytes.trans root)) (by simp)).1
  have bound : leaf.quorum.toNat < 256 ^ 16 := leaf.quorum.isLt
  have value := congrArg LittleEndian.decode quorum
  rw [LittleEndian.decode_encode bound, LittleEndian.decode_encode (by omega)] at value
  exact BitVec.eq_of_toNat_eq value

/-- A hash that keeps the first halves of the two parts of a node. -/
def pairedKeccak (b : Bytes) : Bytes32 :=
  if b.length = 65 then padTo 32 ((b.drop 1).take 16 ++ (b.drop 33).take 16) else padTo 32 b

/-- The sample environment with trees of two leaves. -/
def pairedEnv : Env :=
  { sampleEnv with
    keccak := pairedKeccak
    merkleProofFromBytes := fun b =>
      if b = [] then some [] else if b.length = 32 then some [padTo 32 b] else none
    merkleProofVerify := fun proof root position leafHash setSize =>
      match proof, position with
      | [sibling], 0 => setSize = 2 && pairedKeccak (1 :: (leafHash.toList ++ sibling.toList)) = root
      | [sibling], 1 => setSize = 2 && pairedKeccak (1 :: (sibling.toList ++ leafHash.toList)) = root
      | _, _ => false }

/-- Two signers of weight 2 each, with a quorum of 3. -/
def pairedLeaf (position : UInt16) : VerifierSetLeaf :=
  { sampleVerifierLeaf with
    quorum := 3
    signerPubkey := padTo 33 [2, 7 + position.toUInt8]
    signerWeight := 2
    position
    setSize := 2 }

/-- The hash of both leaves: the quorum and the weight. -/
def pairedLeafHash : Bytes32 := padTo 32 (LittleEndian.encode 16 3 ++ LittleEndian.encode 16 2)

/-- The root of the two signers: the quorum twice. -/
def pairedSet : Bytes32 := padTo 32 (LittleEndian.encode 16 3 ++ LittleEndian.encode 16 3)

/-- The session of a payload root that the two signers sign. -/
def pairedSession : SessionKey := ⟨padTo 32 [5], .approveMessages, pairedSet⟩

/-- One of the signers signs. -/
def pairedSign (position : UInt16) : GatewayCall :=
  ⟨sampleSysvar, .verifySignature ⟨pairedSession, pairedSet⟩ pairedSession.payloadMerkleRoot
    { signature := padTo 65 ((prefixedMessageHashPayloadType pairedEnv.toCrates .approveMessages
        pairedSession.payloadMerkleRoot).toList ++ [7 + position.toUInt8])
      leaf := pairedLeaf position
      merkleProof := pairedLeafHash.toList
      payloadType := .approveMessages }⟩

/-- The second signer signs before the first, who tries twice. -/
def pairedCalls : List GatewayCall :=
  [⟨sampleSysvar, .initializeConfig ⟨⟨padTo 32 [3], true⟩⟩
      ⟨padTo 32 [9], ⟨pairedSet, padTo 32 []⟩, 0, padTo 32 [3], 2⟩⟩,
    ⟨sampleSysvar, .initializePayloadVerificationSession ⟨pairedSession, pairedSet⟩
      pairedSession.payloadMerkleRoot .approveMessages⟩,
    pairedSign 1, pairedSign 0, pairedSign 0]

/-- A node has the first halves of its parts. -/
theorem toList_pairedKeccak (left right : Bytes32) :
    (pairedKeccak (1 :: (left.toList ++ right.toList))).toList
      = left.toList.take 16 ++ right.toList.take 16 := by
  have node : (1 :: (left.toList ++ right.toList)).length = 65 := by simp
  unfold pairedKeccak
  rw [if_pos node, toList_padTo (by simp)]
  simp

/-- The hash of a leaf begins with its quorum. -/
theorem take_pairedLeafHash (leaf : VerifierSetLeaf) :
    (leaf.hash pairedEnv.toCrates).toList.take 16 = LittleEndian.encode 16 leaf.quorum.toNat := by
  have bytes : (LittleEndian.encode 16 leaf.quorum.toNat
      ++ LittleEndian.encode 16 leaf.signerWeight.toNat).length = 32 := by simp
  have hash : leaf.hash pairedEnv.toCrates = pairedKeccak (LittleEndian.encode 16 leaf.quorum.toNat
      ++ LittleEndian.encode 16 leaf.signerWeight.toNat) := rfl
  rw [hash, pairedKeccak, if_neg (by rw [bytes]; decide), toList_padTo bytes]
  exact List.take_left' (by simp)

/-- In a tree of two leaves the root has the quorum of either. -/
theorem quorum_of_leafUnder_pairedSet {leaf : VerifierSetLeaf}
    (h : LeafUnder pairedEnv.toCrates pairedSet leaf) : leaf.quorum = 3 := by
  obtain ⟨proof, verified⟩ := h
  have root : pairedSet.toList = LittleEndian.encode 16 3 ++ LittleEndian.encode 16 3 := by decide
  -- the half of the root on the side of the leaf
  have half : LittleEndian.encode 16 leaf.quorum.toNat = LittleEndian.encode 16 3 := by
    simp only [pairedEnv] at verified
    split at verified
    case h_1 sibling position =>
      simp only [Bool.and_eq_true, decide_eq_true_eq] at verified
      have bytes := congrArg List.Vector.toList verified.2
      rw [toList_pairedKeccak, root] at bytes
      rw [← take_pairedLeafHash]
      exact (List.append_inj bytes (by simp)).1
    case h_2 sibling position =>
      simp only [Bool.and_eq_true, decide_eq_true_eq] at verified
      have bytes := congrArg List.Vector.toList verified.2
      rw [toList_pairedKeccak, root] at bytes
      rw [← take_pairedLeafHash]
      exact (List.append_inj bytes (by simp)).2
    case h_3 => cases verified
  have bound : leaf.quorum.toNat < 256 ^ 16 := leaf.quorum.isLt
  have value := congrArg LittleEndian.decode half
  rw [LittleEndian.decode_encode bound, LittleEndian.decode_encode (by omega)] at value
  exact BitVec.eq_of_toNat_eq value

/-- Two of two signers sign, in any order and once each, and only then the session is valid. -/
theorem session_quorum_sound_sample :
    ∃ d, (run (process pairedEnv) GatewayState.initial pairedCalls).sessions pairedSession = some d ∧
      signedPositions d.signatureVerification = {0, 1} ∧ d.isValid = true ∧
      ∃ infos, QuorumSigned pairedEnv pairedSession 3 infos := by
  have stored : (run (process pairedEnv) GatewayState.initial pairedCalls).sessions pairedSession
      = some ⟨⟨U128.max, 3, pairedSet⟩, 255⟩ := by rfl
  have valid : (SignatureVerificationSessionData.mk ⟨U128.max, 3, pairedSet⟩ 255).isValid = true := by
    decide
  obtain ⟨-, -, -, quorum, -⟩ := session_quorum_sound pairedEnv _ _ _ 3 stored
    fun leaf => quorum_of_leafUnder_pairedSet
  obtain ⟨infos, signed, -⟩ := quorum valid
  exact ⟨_, stored, by decide +kernel, valid, infos, signed⟩

end AxelarSolana.Gateway
