import AxelarSolana.Gateway.Epochs

/-! # Signer rotation

Who may rotate the signers, over any run of the gateway:

* **`signedBytes`** — what a verifier signs; the payload type is part of it.
* **`InsideWindow`** — the tracker of a set is inside the retention window.
* **`RotatedSafely`** — what has come before a rotation: its session was opened for a set inside the
  window and signed for that purpose; without the operator that set is the last installed one, and
  the delay has passed since its installation.
* **`rotation_safety`** — every installed set but the first was rotated to in this way, and no root
  is installed twice. -/

namespace AxelarSolana.Gateway

open Machine History Numbering

/-! ## Digests -/

/-- **The bytes that a verifier signs.** -/
def signedBytes (payloadType : PayloadType) (message : Bytes32) : Bytes :=
  solanaOffchainPrefix ++ payloadType.toByte :: message.toList

/-- What a signer signs is the hash of the prefix, the type and the root. -/
theorem prefixedMessageHashPayloadType_eq {env : Crates} {payloadType : PayloadType}
    {message : Bytes32} :
    prefixedMessageHashPayloadType env payloadType message
      = env.keccak (signedBytes payloadType message) := by
  simp [prefixedMessageHashPayloadType, signedBytes, Syscalls.hashv]

/-- What is signed for one payload type is never signed for the other. -/
theorem signedBytes_ne (r r' : Bytes32) :
    signedBytes .approveMessages r ≠ signedBytes .rotateSigners r' := by
  intro same
  have tail := List.append_cancel_left same
  rw [List.cons.injEq] at tail
  exact absurd tail.1 (by decide)

/-! ## Sessions -/

/-- **The set `S` is inside the retention window**, as `assert_valid_epoch` decides. -/
def InsideWindow (S : Bytes32) (s : GatewayState) : Prop :=
  ∃ config tracker, s.config = some config ∧ s.trackers S = some tracker ∧
    config.assertValidEpoch tracker.epoch = .ok ()

/-- A committed call opened the session `k` for a set inside the window. -/
def OpensInside (k : SessionKey) (t : GatewayTransition) : Prop :=
  (∃ accounts, t.call.instruction = .initializePayloadVerificationSession accounts
    k.payloadMerkleRoot k.payloadType ∧ accounts.verificationSessionAccount = k) ∧
  InsideWindow k.signingVerifierSetHash t.pre

/-- A session that appears was opened by the call. -/
theorem opensInside_of_process {env : Env} {call : GatewayCall} {s s' : GatewayState}
    (h : process env call s = .ok s') {k : SessionKey} (before : s.sessions k = none) :
    s'.sessions k ≠ none → OpensInside k ⟨s, call, s'⟩ := by
  obtain ⟨sysvar, instruction⟩ := call
  cases instruction with
  | callContract accounts chain address payload bump =>
    obtain ⟨-, rfl⟩ := callContract_ok h
    exact fun present => absurd before present
  | initializeConfig accounts params =>
    obtain ⟨-, -, -, -, -, -, -, -, -, -, rfl⟩ := initializeConfig_ok h
    exact fun present => absurd before present
  | initializePayloadVerificationSession accounts r t =>
    obtain ⟨config, tracker, bump, key, hconfig, htracker, named, window, opened, -, -, rfl⟩ :=
      initializePayloadVerificationSession_ok h
    intro present
    by_cases same : accounts.verificationSessionAccount = k
    · subst same
      rw [named] at htracker
      rw [opened]
      exact ⟨⟨accounts, rfl, opened⟩, config, tracker, hconfig, htracker, window⟩
    · simp only [GatewayState.setSession, Function.update_of_ne (Ne.symm same)] at present
      exact absurd before present
  | verifySignature accounts r info =>
    obtain ⟨config, d, tracker, -, stored, -, -, -, -, -, -, -, -, rfl⟩ := verifySignature_ok h
    intro present
    by_cases same : accounts.verificationSessionAccount = k
    -- a signature goes into a session that was there before
    · rw [same, before] at stored
      cases stored
    · simp only [GatewayState.setSession, Function.update_of_ne (Ne.symm same)] at present
      exact absurd before present
  | approveMessage accounts m r =>
    obtain ⟨-, -, -, -, -, -, -, -, -, -, -, -, rfl⟩ := approveMessage_ok h
    exact fun present => absurd before present
  | validateMessage accounts m =>
    obtain ⟨-, -, -, -, -, -, -, -, -, rfl⟩ := validateMessage_ok h
    exact fun present => absurd before present
  | rotateSigners accounts newRoot =>
    obtain ⟨-, -, -, -, -, -, -, -, -, -, -, -, -, -, -, -, -, -, -, rfl⟩ := rotateSigners_ok h
    exact fun present => absurd before present
  | transferOperatorship accounts =>
    obtain ⟨-, -, -, -, -, rfl⟩ := transferOperatorship_ok h
    exact fun present => absurd before present

/-- Every stored session of a run was opened in it. -/
theorem exists_opensInside {env : Env} {calls : List GatewayCall} {k : SessionKey}
    (stored : (run (process env) GatewayState.initial calls).sessions k ≠ none) :
    ∃ u ∈ trace (process env) GatewayState.initial calls, OpensInside k u := by
  refine run_trace_induction
    (P := fun tr s => s.sessions k ≠ none → ∃ u ∈ tr, OpensInside k u) ?_ ?_ calls stored
  · intro stored
    exact absurd rfl stored
  · intro tr s call s' ih h stored
    by_cases before : s.sessions k = none
    · exact ⟨_, by simp, opensInside_of_process h before stored⟩
    · obtain ⟨u, mem, opens⟩ := ih before
      exact ⟨u, List.mem_append_left _ mem, opens⟩

/-! ## Rotations -/

/-- The clock of a committed call. -/
def clock (t : GatewayTransition) : Int := t.call.sysvar.unixTimestamp.toInt

/-- **What came before a rotation `t` to `newRoot`** under the set `S`: `before` are the committed
calls up to it. -/
structure RotatedSafely (env : Env) (before : List GatewayTransition) (t : GatewayTransition)
    (accounts : RotateSigners) (newRoot S : Bytes32) (config : GatewayConfig)
    (tracker : VerifierSetTracker) : Prop where
  stored : t.pre.config = some config
  valid : ∃ session, t.pre.sessions ⟨newRoot, .rotateSigners, S⟩ = some session ∧
    session.isValid = true
  opened : ∃ u ∈ before, OpensInside ⟨newRoot, .rotateSigners, S⟩ u
  signed : accepted ⟨newRoot, .rotateSigners, S⟩ before ≠ [] ∧
    ∀ info ∈ accepted ⟨newRoot, .rotateSigners, S⟩ before,
      info.payloadType = .rotateSigners ∧
      SignedBy env.toCrates info.leaf .rotateSigners newRoot info.signature
  set : t.pre.trackers S = some tracker
  window : tracker.epoch.toNat ≤ config.currentEpoch.toNat ∧
    config.currentEpoch.toNat - tracker.epoch.toNat < config.previousVerifierSetRetention.toNat
  fresh : newRoot ∉ installations before
  withoutOperator : accounts.operator ≠ some ⟨config.operator, true⟩ →
    tracker.epoch = config.currentEpoch ∧ ∃ p, last? installs before = some p ∧
      installed? p = some S ∧ clock p + config.minimumRotationDelay.toNat ≤ clock t

/-- A session that nobody signed is not valid. -/
theorem not_isValid_emptySession {S : Bytes32} {bump : UInt8} :
    (⟨replay S [], bump⟩ : SignatureVerificationSessionData).isValid = false := by
  show decide (U128.zero = U128.max) = false
  decide

/-- Every rotation of a run is safe. -/
theorem rotatedSafely_of_trace {env : Env} {calls : List GatewayCall}
    {before after : List GatewayTransition} {t : GatewayTransition}
    (split : trace (process env) GatewayState.initial calls = before ++ t :: after)
    {accounts : RotateSigners} {newRoot : Bytes32}
    (call : t.call.instruction = .rotateSigners accounts newRoot) :
    ∃ S config tracker, RotatedSafely env before t accounts newRoot S config tracker := by
  obtain ⟨past, -, -, rfl, here⟩ := exists_calls_of_trace_eq split
  have books := bookkeeping_run env past
  have ok : process env t.call t.pre = .ok t.post :=
    step_of_mem_trace (split ▸ List.mem_append_right _ List.mem_cons_self)
  rw [here] at books
  obtain ⟨pre, ⟨sysvar, instruction⟩, post⟩ := t
  cases call
  obtain ⟨S, config, tracker, rotation⟩ := rotation_of_process ok
  obtain ⟨session, stored, valid⟩ := rotation.session
  obtain ⟨currentTime, currentEpoch, bump, time, -, delayed, -, -⟩ := rotation.after
  have present : (run (process env) GatewayState.initial past).sessions
      ⟨newRoot, .rotateSigners, S⟩ = some session := by
    rw [here]
    exact stored
  -- the session is valid, so it replays signatures: one was accepted, and all are for this rotation
  obtain ⟨key, bump, -, rfl, -, calls⟩ := exists_replay_of_stored present
  refine ⟨S, config, tracker, rotation.stored, ⟨_, stored, valid⟩, ?_, ⟨?_, ?_⟩, rotation.signing,
    GatewayConfig.assertValidEpoch_iff.mp rotation.window, books.tracker_none.mp rotation.fresh, ?_⟩
  · exact exists_opensInside (by rw [present]; exact Option.some_ne_none _)
  · intro nobody
    rw [nobody, not_isValid_emptySession] at valid
    cases valid
  · intro info mem
    obtain ⟨u, -, set⟩ := calls info mem
    have signed := set.signature.signed
    rw [set.payloadType] at signed
    exact ⟨set.payloadType, signed⟩
  · intro other
    have latest := rotation.latest other
    refine ⟨latest.symm, ?_⟩
    cases books with
    | uninitialised absent _ _ =>
      rw [rotation.stored] at absent
      cases absent
    | initialised config₀ stored₀ nodup nonempty count trackers last =>
      cases stored₀.symm.trans rotation.stored
      obtain ⟨p, hp, root, ptime⟩ := last
      refine ⟨p, hp, ?_, ?_⟩
      · -- the set with the current epoch is the last one installed
        have books := Bookkeeping.initialised config rotation.stored nodup nonempty count trackers
          ⟨p, hp, root, ptime⟩
        have number := (books.tracker_some rotation.signing).1
        rw [root, getLast?_eq_some nodup nonempty, ← count, latest]
        exact number
      · have past := tryIntoU64_eq_some ptime
        have now := tryIntoU64_eq_some time
        have delayed := delayed other
        simp only [clock] at now ⊢
        omega

/-- A call that installs a root configures the gateway or rotates to it. -/
theorem installed?_eq_some {t : GatewayTransition} {h : Bytes32} (installed : installed? t = some h) :
    (∃ accounts params, t.call.instruction = .initializeConfig accounts params) ∨
      ∃ accounts, t.call.instruction = .rotateSigners accounts h := by
  unfold installed? at installed
  split at installed
  case h_1 accounts params call => exact .inl ⟨accounts, params, call⟩
  case h_2 accounts newRoot call =>
    cases installed
    exact .inr ⟨accounts, call⟩
  case h_3 => cases installed

/-- The configuration is created first of all. -/
theorem installations_eq_nil_of_initialize {env : Env} {calls : List GatewayCall}
    {before after : List GatewayTransition} {t : GatewayTransition}
    (split : trace (process env) GatewayState.initial calls = before ++ t :: after)
    {accounts : InitializeConfig} {params : InitializeConfigParams}
    (call : t.call.instruction = .initializeConfig accounts params) : installations before = [] := by
  obtain ⟨past, -, -, rfl, here⟩ := exists_calls_of_trace_eq split
  have ok : process env t.call t.pre = .ok t.post :=
    step_of_mem_trace (split ▸ List.mem_append_right _ List.mem_cons_self)
  have books := bookkeeping_run env past
  rw [here] at books
  obtain ⟨pre, ⟨sysvar, instruction⟩, post⟩ := t
  cases call
  obtain ⟨absent, -⟩ := initializeConfig_ok ok
  cases books with
  | uninitialised _ _ nothing => exact nothing
  | initialised _ stored _ _ _ _ _ =>
    rw [show pre.config = none from absent] at stored
    cases stored

/-- **Rotation safety.** For every run of the gateway:

1. no root is installed twice;
2. every stored tracker was installed by a committed call: by the initialisation, before any other
   installation, or by a rotation to exactly its root;
3. every rotation is safe: its session over the new root is valid, was opened for a set inside the
   window and carries only signatures for rotations; that set is still inside the window; and
   without the operator's signature it is the set installed last, by then at least the minimum
   delay ago;
4. what is signed to approve messages is never what is signed to rotate signers. -/
theorem rotation_safety (env : Env) (calls : List GatewayCall) :
    let tr := trace (process env) GatewayState.initial calls
    let s := run (process env) GatewayState.initial calls
    (installations tr).Nodup ∧
    (∀ h tracker, s.trackers h = some tracker → ∃ before t after, tr = before ++ t :: after ∧
      installed? t = some h ∧
      ((∃ accounts params, t.call.instruction = .initializeConfig accounts params) ∧
          installations before = [] ∨
        ∃ accounts, t.call.instruction = .rotateSigners accounts h)) ∧
    (∀ before t after accounts newRoot, tr = before ++ t :: after →
      t.call.instruction = .rotateSigners accounts newRoot →
      ∃ S config tracker, RotatedSafely env before t accounts newRoot S config tracker) ∧
    (∀ r r', prefixedMessageHashPayloadType env.toCrates .approveMessages r
        = env.keccak (signedBytes .approveMessages r) ∧
      prefixedMessageHashPayloadType env.toCrates .rotateSigners r'
        = env.keccak (signedBytes .rotateSigners r') ∧
      signedBytes .approveMessages r ≠ signedBytes .rotateSigners r') := by
  intro tr s
  have books := bookkeeping_run env calls
  refine ⟨?_, ?_, ?_, ?_⟩
  · cases books with
    | uninitialised _ _ nothing =>
      rw [show installations tr = [] from nothing]
      exact List.nodup_nil
    | initialised _ _ nodup _ _ _ _ => exact nodup
  · intro h tracker stored
    -- a tracker exists for every set that was installed, and for no other
    have mem : h ∈ installations tr := by
      by_contra absent
      rw [books.tracker_none.mpr absent] at stored
      cases stored
    obtain ⟨t, mem, installed⟩ := List.mem_filterMap.mp mem
    obtain ⟨before, after, split⟩ := List.append_of_mem mem
    refine ⟨before, t, after, split, installed, ?_⟩
    rcases installed?_eq_some installed with ⟨accounts, params, call⟩ | rotated
    · exact .inl ⟨⟨accounts, params, call⟩, installations_eq_nil_of_initialize split call⟩
    · exact .inr rotated
  · intro before t after accounts newRoot split call
    exact rotatedSafely_of_trace split call
  · intro r r'
    exact ⟨prefixedMessageHashPayloadType_eq, prefixedMessageHashPayloadType_eq,
      signedBytes_ne r r'⟩

end AxelarSolana.Gateway
