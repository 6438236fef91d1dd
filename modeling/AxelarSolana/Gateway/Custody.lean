import AxelarSolana.Gateway.MessageLifecycle
import AxelarSolana.Gateway.RotationSafety

/-! # Custody of the gateway

Trust in the first verifier set reaches everything that the gateway accepts. Let some sets be
trusted to sign for trusted sets and genuine payloads only:

* **`SignsOnly`** — what a quorum of a set signs for is allowed.
* **`Custody`** — the invariant: installed sets and sets with a session are trusted, and every
  recorded message lies under a genuine payload root.
* **`custody_run`** — every run keeps it, when the first set is trusted.
* **`trust_propagates`** — trusted sets are only ever followed by trusted sets, and only messages
  under genuine roots are approved and executed. -/

namespace AxelarSolana.Gateway

open Machine

/-! ## What a set signs for -/

/-- **What a quorum of a set signs for is allowed.** All leaves under the root of the set carry the
same quorum, and whenever signatures of that weight are accepted for a payload root and type, this
root is allowed for this type. -/
def SignsOnly (env : Env) (S : Bytes32) (allowed : PayloadType → Bytes32 → Prop) : Prop :=
  ∃ Q : BitVec 128, (∀ leaf, LeafUnder env.toCrates S leaf → leaf.quorum = Q) ∧
    ∀ r t infos, QuorumSigned env ⟨r, t, S⟩ Q.toNat infos → allowed t r

/-- A valid session of a reachable state carries a quorum of signatures. -/
theorem quorumSigned_of_isValid {env : Env} {calls : List GatewayCall} {k : SessionKey}
    {d : SignatureVerificationSessionData} {Q : BitVec 128}
    (stored : (run (process env) GatewayState.initial calls).sessions k = some d)
    (valid : d.isValid = true)
    (uniform : ∀ leaf, LeafUnder env.toCrates k.signingVerifierSetHash leaf → leaf.quorum = Q) :
    ∃ infos, QuorumSigned env k Q.toNat infos := by
  obtain ⟨key, bump, -, rfl, nodup, setBy⟩ := exists_replay_of_stored stored
  have quorum : ∀ info ∈ accepted k (trace (process env) GatewayState.initial calls),
      info.leaf.quorum = Q := by
    intro info mem
    obtain ⟨t, -, set⟩ := setBy info mem
    exact uniform _ set.signature.leafUnder
  obtain ⟨nonempty, reached⟩ :=
    (threshold_replay_eq_max_iff _ quorum).mp (of_decide_eq_true valid)
  refine ⟨_, nonempty, nodup, fun info mem => ?_, reached⟩
  obtain ⟨t, -, set⟩ := setBy info mem
  exact ⟨set.payloadType, set.signature⟩

/-- A valid session is for something that its set signs for. -/
theorem SignsOnly.allowed_of_isValid {env : Env} {calls : List GatewayCall} {k : SessionKey}
    {d : SignatureVerificationSessionData} {allowed : PayloadType → Bytes32 → Prop}
    (signs : SignsOnly env k.signingVerifierSetHash allowed)
    (stored : (run (process env) GatewayState.initial calls).sessions k = some d)
    (valid : d.isValid = true) : allowed k.payloadType k.payloadMerkleRoot := by
  obtain ⟨Q, uniform, only⟩ := signs
  obtain ⟨infos, signed⟩ := quorumSigned_of_isValid stored valid uniform
  exact only _ _ infos signed

/-! ## The invariant -/

section

variable (env : Env) (Trusted Genuine : Bytes32 → Prop)

/-- What a trusted set may sign for: rotations to trusted sets, and genuine payloads. -/
def Allowed : PayloadType → Bytes32 → Prop
  | .rotateSigners, newRoot => Trusted newRoot
  | .approveMessages, r => Genuine r

/-- **A message under a genuine root**, with the leaf and the proof that were verified. -/
def UnderGenuineRoot (m : Message) : Prop :=
  ∃ (r : Bytes32) (leaf : MessageLeaf) (proof : List Bytes32), Genuine r ∧ leaf.message = m ∧
    env.merkleProofVerify proof r leaf.position.toNat (leaf.hash env.toCrates)
      leaf.setSize.toNat = true

/-- **Custody.** Installed sets are trusted, sessions are opened for trusted sets, and a record is
that of a message under a genuine root. -/
structure Custody (s : GatewayState) : Prop where
  sets : ∀ h tracker, s.trackers h = some tracker → Trusted h
  sessions : ∀ k d, s.sessions k = some d → Trusted k.signingVerifierSetHash
  records : ∀ c incoming, s.incoming c = some incoming → ∃ m, UnderGenuineRoot env Genuine m ∧
    m.commandId env.toCrates = c ∧ incoming.messageHash = m.hash env.toCrates

end

variable {env : Env} {Trusted Genuine : Bytes32 → Prop}

/-- Before any call no set is installed and nothing is approved. -/
theorem custody_initial : Custody env Trusted Genuine GatewayState.initial where
  sets := by
    intro h tracker stored
    cases stored
  sessions := by
    intro k d stored
    cases stored
  records := by
    intro c incoming stored
    cases stored

/-- A set that appears among the trackers is trusted. -/
theorem Custody.sets_of_process {s s' : GatewayState} {call : GatewayCall}
    (custody : Custody env Trusted Genuine s) (h : process env call s = .ok s')
    (first : ∀ accounts params, call.instruction = .initializeConfig accounts params →
      Trusted params.initialVerifierSet.hash)
    (valid : ∀ k d, s.sessions k = some d → d.isValid = true →
      Allowed Trusted Genuine k.payloadType k.payloadMerkleRoot) :
    ∀ h tracker, s'.trackers h = some tracker → Trusted h := by
  intro root tracker stored
  -- whichever root is written, the others were there before
  have others (newRoot : Bytes32) (written : VerifierSetTracker) (trusted : Trusted newRoot)
      (after : s'.trackers = Function.update s.trackers newRoot (some written)) :
      Trusted root := by
    by_cases same : root = newRoot
    · rw [same]
      exact trusted
    · rw [after, Function.update_of_ne same] at stored
      exact custody.sets root tracker stored
  cases process_epoch_cases h with
  | silent nothing trackers config =>
    have before : s'.trackers = s.trackers := trackers
    rw [before] at stored
    exact custody.sets root tracker stored
  | configure params config bump installed before stored' epoch time trackers =>
    rcases installed?_eq_some installed with ⟨accounts, params', called⟩ | ⟨accounts, called⟩
    · have same : installed? ⟨s, call, s'⟩ = some params'.initialVerifierSet.hash := by
        rw [installed?, called]
      rw [installed, Option.some.injEq] at same
      exact others _ _ (same ▸ first accounts params' called) trackers
    · -- a rotation needs a configured gateway
      obtain ⟨sysvar, instruction⟩ := call
      cases called
      obtain ⟨config', _, _, _, _, _, configured, -⟩ := rotateSigners_ok h
      rw [show s.config = none from before] at configured
      cases configured
  | rotate accounts newRoot S config oldTracker called rotation =>
    obtain ⟨session, open', signed⟩ := rotation.session
    obtain ⟨_, _, bump, -, -, -, -, after⟩ := rotation.after
    exact others newRoot _ (valid _ session open' signed) after

/-- A session that appears is for a trusted set. -/
theorem Custody.sessions_of_process {s s' : GatewayState} {call : GatewayCall}
    (custody : Custody env Trusted Genuine s) (h : process env call s = .ok s') :
    ∀ k d, s'.sessions k = some d → Trusted k.signingVerifierSetHash := by
  intro k d stored
  by_cases before : s.sessions k = none
  · have present : s'.sessions k ≠ none := by
      rw [stored]
      exact Option.some_ne_none d
    obtain ⟨-, config, tracker, -, installed, -⟩ := opensInside_of_process h before present
    exact custody.sets _ tracker installed
  · obtain ⟨d', present⟩ := Option.ne_none_iff_exists'.mp before
    exact custody.sessions k d' present

/-- A record that appears is that of a message under a genuine root. -/
theorem Custody.records_of_process {s s' : GatewayState} {call : GatewayCall}
    (custody : Custody env Trusted Genuine s) (h : process env call s = .ok s')
    (valid : ∀ k d, s.sessions k = some d → d.isValid = true →
      Allowed Trusted Genuine k.payloadType k.payloadMerkleRoot) :
    ∀ c incoming, s'.incoming c = some incoming → ∃ m, UnderGenuineRoot env Genuine m ∧
      m.commandId env.toCrates = c ∧ incoming.messageHash = m.hash env.toCrates := by
  intro c incoming stored
  cases process_message_cases h with
  | silent e other record events =>
    rw [record] at stored
    exact custody.records c incoming stored
  | approve accounts item root called approval =>
    obtain ⟨written, record, -, hash, -⟩ := approval.record
    by_cases same : c = item.leaf.message.commandId env.toCrates
    · rw [record, same, Function.update_self, Option.some.injEq] at stored
      obtain ⟨r, S, session, leaf, proof, message, present, complete, verified, -⟩ :=
        approval.payload
      refine ⟨item.leaf.message, ⟨r, leaf, proof, ?_, message, verified⟩, same.symm, ?_⟩
      · exact valid _ session present complete
      · rw [← stored]
        exact hash
    · rw [record, Function.update_of_ne same] at stored
      exact custody.records c incoming stored
  | execute accounts m destination called execution =>
    obtain ⟨before, present, -, -, -, record⟩ := execution.record
    by_cases same : c = m.commandId env.toCrates
    · rw [record, same, Function.update_self, Option.some.injEq] at stored
      obtain ⟨m₀, genuine, id, hash⟩ := custody.records _ before present
      refine ⟨m₀, genuine, id.trans same.symm, ?_⟩
      rw [← stored]
      exact hash
    · rw [record, Function.update_of_ne same] at stored
      exact custody.records c incoming stored

/-- **Custody is kept by every run**, when the first set is trusted and trusted sets sign for what is
allowed only. The induction is on the calls; before each one the sessions of the run so far are those
of trusted sets. -/
theorem custody_run (calls : List GatewayCall)
    (first : ∀ call ∈ calls, ∀ accounts params,
      call.instruction = .initializeConfig accounts params →
      Trusted params.initialVerifierSet.hash)
    (honest : ∀ S, Trusted S → SignsOnly env S (Allowed Trusted Genuine)) :
    Custody env Trusted Genuine (run (process env) GatewayState.initial calls) := by
  induction calls using List.reverseRecOn with
  | nil => exact custody_initial
  | append_singleton calls call ih =>
    have custody := ih fun c mem => first c (List.mem_append_left _ mem)
    have valid : ∀ k d, (run (process env) GatewayState.initial calls).sessions k = some d →
        d.isValid = true → Allowed Trusted Genuine k.payloadType k.payloadMerkleRoot :=
      fun k d stored complete =>
        (honest _ (custody.sessions k d stored)).allowed_of_isValid stored complete
    rw [run_append, run_cons, run_nil]
    cases h : process env call (run (process env) GatewayState.initial calls) with
    | error e =>
      rw [commit_error h]
      exact custody
    | ok s' =>
      rw [commit_ok h]
      exact
        { sets := custody.sets_of_process h
            (first call (List.mem_append_right _ (List.mem_singleton_self call))) valid
          sessions := custody.sessions_of_process h
          records := custody.records_of_process h valid }

/-- **Trust propagates.** Let every trusted verifier set sign, with a quorum, only for rotations to
trusted sets and for genuine payload roots, and let the gateway be initialised with a trusted set.
Then in every run:

1. every verifier set that is ever installed is trusted;
2. every approved message lies under a genuine payload root;
3. every executed message has the command id and the hash of a message under a genuine root. -/
theorem trust_propagates (env : Env) (Trusted Genuine : Bytes32 → Prop) (calls : List GatewayCall)
    (first : ∀ call ∈ calls, ∀ accounts params,
      call.instruction = .initializeConfig accounts params →
      Trusted params.initialVerifierSet.hash)
    (honest : ∀ S, Trusted S → SignsOnly env S (Allowed Trusted Genuine)) :
    let tr := trace (process env) GatewayState.initial calls
    let s := run (process env) GatewayState.initial calls
    (∀ h tracker, s.trackers h = some tracker → Trusted h) ∧
    (∀ t ∈ tr, ∀ accounts item r, t.call.instruction = .approveMessage accounts item r →
      UnderGenuineRoot env Genuine item.leaf.message) ∧
    (∀ t ∈ tr, ∀ accounts m, t.call.instruction = .validateMessage accounts m →
      ∃ m₀, UnderGenuineRoot env Genuine m₀ ∧
        m₀.commandId env.toCrates = m.commandId env.toCrates ∧
        m₀.hash env.toCrates = m.hash env.toCrates) := by
  intro tr s
  -- the state before a committed call is one that a run reaches
  have before : ∀ t ∈ tr, ∃ past, (∀ call ∈ past, call ∈ calls) ∧
      run (process env) GatewayState.initial past = t.pre := by
    intro t mem
    obtain ⟨pre, post, split⟩ := List.append_of_mem mem
    obtain ⟨past, rest, rfl, -, here⟩ := exists_calls_of_trace_eq split
    exact ⟨past, fun call mem => List.mem_append_left _ mem, here⟩
  refine ⟨(custody_run calls first honest).sets, ?_, ?_⟩
  · intro t mem accounts item r called
    obtain ⟨past, earlier, here⟩ := before t mem
    have custody := custody_run past (fun call mem => first call (earlier call mem)) honest
    have ok : process env t.call t.pre = .ok t.post := step_of_mem_trace mem
    obtain ⟨pre, ⟨sysvar, instruction⟩, post⟩ := t
    cases called
    obtain ⟨_, session, _, _, -, present, key, complete, -, -, ⟨proof, -, verified⟩, -⟩ :=
      approveMessage_ok ok
    rw [key, ← here] at present
    have genuine : Genuine r :=
      (honest _ (custody.sessions _ session present)).allowed_of_isValid present complete
    exact ⟨r, item.leaf, proof, genuine, rfl, verified⟩
  · intro t mem accounts m called
    obtain ⟨past, earlier, here⟩ := before t mem
    have custody := custody_run past (fun call mem => first call (earlier call mem)) honest
    have ok : process env t.call t.pre = .ok t.post := step_of_mem_trace mem
    obtain ⟨pre, ⟨sysvar, instruction⟩, post⟩ := t
    cases called
    obtain ⟨incoming, _, present, -, -, hash, -⟩ := validateMessage_ok ok
    rw [here] at custody
    obtain ⟨m₀, genuine, id, same⟩ := custody.records _ incoming present
    exact ⟨m₀, genuine, id, same.symm.trans hash⟩

/-- The sample environment in which nobody has signed anything but the sample root. -/
def signedOnceEnv : Env :=
  { sampleEnv with
    secp256k1Recover := fun digest _ signature =>
      if digest = prefixedMessageHashPayloadType sampleEnv.toCrates .approveMessages sampleRoot then
        some (padTo 64 (signature.drop 32))
      else none }

/-- A root with the digest of the sample root. -/
def SignedOnce (r : Bytes32) : Prop :=
  prefixedMessageHashPayloadType sampleEnv.toCrates .approveMessages r =
    prefixedMessageHashPayloadType sampleEnv.toCrates .approveMessages sampleRoot

/-- Nothing is signed but digests of the sample root. -/
theorem digest_of_signedBy {leaf : VerifierSetLeaf} {t : PayloadType} {r : Bytes32}
    {signature : EcdsaRecoverableSignature}
    (signed : SignedBy signedOnceEnv.toCrates leaf t r signature) :
    prefixedMessageHashPayloadType sampleEnv.toCrates t r =
      prefixedMessageHashPayloadType sampleEnv.toCrates .approveMessages sampleRoot := by
  by_contra other
  have unrecovered : signedOnceEnv.secp256k1Recover
      (prefixedMessageHashPayloadType signedOnceEnv.toCrates t r) (signature.get 64)
      (signature.toList.take 64) = none := if_neg other
  rw [SignedBy, SignatureVerificationSessionData.verifyEcdsaSignature, unrecovered] at signed
  cases signed

/-- The sample set signs for no rotation, and for the sample root only. -/
theorem signsOnly_signedOnceEnv :
    SignsOnly signedOnceEnv sampleSet (Allowed (fun h => h = sampleSet) SignedOnce) := by
  refine ⟨1, fun leaf under => quorum_of_leafUnder_sampleSet under, fun r t infos signed => ?_⟩
  obtain ⟨info, mem⟩ := List.exists_mem_of_ne_nil _ signed.nonempty
  obtain ⟨type, accepted⟩ := signed.signed info mem
  have digest := digest_of_signedBy accepted.signed
  rw [show info.payloadType = t from type] at digest
  cases t with
  | approveMessages => exact digest
  | rotateSigners =>
    -- the byte of the payload type is part of the digest
    have rotation : (prefixedMessageHashPayloadType sampleEnv.toCrates .rotateSigners r).toList[16]?
        = some 1 := rfl
    have approval : (prefixedMessageHashPayloadType sampleEnv.toCrates .approveMessages
        sampleRoot).toList[16]? = some 0 := rfl
    rw [show prefixedMessageHashPayloadType sampleEnv.toCrates .rotateSigners r = _ from digest,
      approval] at rotation
    cases rotation

/-- In the sample run only the sample set is ever installed. -/
theorem trust_propagates_sample :
    {h | ∃ tracker, (run (process signedOnceEnv) GatewayState.initial sampleLifecycle).trackers h
      = some tracker} ⊆ {sampleSet} := by
  rintro h ⟨tracker, installed⟩
  refine (trust_propagates signedOnceEnv (fun h => h = sampleSet) SignedOnce sampleLifecycle
    ?_ ?_).1 h tracker installed
  · intro call mem accounts params called
    simp only [sampleLifecycle, sampleInitialize, sampleSign, List.cons_append, List.nil_append,
      List.mem_cons, List.not_mem_nil, or_false] at mem
    rcases mem with rfl | rfl | rfl | rfl | rfl <;> cases called
    rfl
  · rintro S rfl
    exact signsOnly_signedOnceEnv

end AxelarSolana.Gateway
