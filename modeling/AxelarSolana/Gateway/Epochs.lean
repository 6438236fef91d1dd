import AxelarSolana.Gateway.QuorumSoundness
import AxelarSolana.Library.History
import AxelarSolana.Library.Numbering

/-! # Epochs

The gateway numbers the verifier sets that it installs. Over any run:

* **`installations tr`** — the roots installed by the committed calls, in order.
* **`Rotation`**, **`EpochStep`** — what a committed call does to the trackers and the
  configuration.
* **`Bookkeeping`** — the invariant: the trackers are the installed roots with their numbers, the
  current epoch is how many there are, and the last of them was installed at the recorded time.
* **`epoch_bookkeeping`** — what follows for the retention window and for longer runs. -/

namespace AxelarSolana.Gateway

open Machine History Numbering

/-! ## Installations -/

/-- The root that a committed call installed. -/
def installed? (t : GatewayTransition) : Option Bytes32 :=
  match t.call.instruction with
  | .initializeConfig _ params => some params.initialVerifierSet.hash
  | .rotateSigners _ newRoot => some newRoot
  | _ => none

/-- Whether a committed call installed a root. -/
def installs (t : GatewayTransition) : Bool := (installed? t).isSome

/-- **The installed roots**, in order. -/
def installations (tr : List GatewayTransition) : List Bytes32 := tr.filterMap installed?

/-- One more call, that installs a root. -/
theorem installations_append_some {tr : List GatewayTransition} {t : GatewayTransition}
    {h : Bytes32} (installed : installed? t = some h) :
    installations (tr ++ [t]) = installations tr ++ [h] := by
  simp [installations, installed]

/-- One more call, that installs nothing. -/
theorem installations_append_none {tr : List GatewayTransition} {t : GatewayTransition}
    (nothing : installed? t = none) : installations (tr ++ [t]) = installations tr := by
  simp [installations, nothing]

/-- How many roots were installed. -/
theorem length_installations (tr : List GatewayTransition) :
    (installations tr).length = tr.countP installs := by
  induction tr with
  | nil => rfl
  | cons t tr ih =>
    cases h : installed? t with
    | none =>
      rw [List.countP_cons_of_neg (by simp [installs, h]), ← ih]
      simp [installations, h]
    | some root =>
      rw [List.countP_cons_of_pos (by simp [installs, h]), ← ih]
      simp [installations, h]

/-! ## The window -/

/-- **The retention window** in unbounded integers. -/
theorem GatewayConfig.assertValidEpoch_iff {config : GatewayConfig} {epoch : U256} :
    config.assertValidEpoch epoch = .ok () ↔ epoch.toNat ≤ config.currentEpoch.toNat ∧
      config.currentEpoch.toNat - epoch.toNat < config.previousVerifierSetRetention.toNat := by
  rw [GatewayConfig.assertValidEpoch_eq_ok]
  refine and_congr_right fun le => ?_
  rw [BitVec.lt_def, BitVec.toNat_sub_of_le (BitVec.le_def.mpr le)]

/-- The subtraction overflows only for an epoch that has not come yet. -/
theorem GatewayConfig.assertValidEpoch_ne_overflow {config : GatewayConfig} {epoch : U256}
    (le : epoch.toNat ≤ config.currentEpoch.toNat) :
    config.assertValidEpoch epoch ≠ .error GatewayError.epochCalculationOverflow.err := by
  have elapsed : U256.checkedSub config.currentEpoch epoch
      = some (config.currentEpoch - epoch) := if_pos le
  simp only [assertValidEpoch, elapsed, Fallible.okOr]
  show Fallible.require (config.currentEpoch - epoch < config.previousVerifierSetRetention) _ ≠ _
  by_cases recent : config.currentEpoch - epoch < config.previousVerifierSetRetention
  · rw [Fallible.require_pos recent]
    simp
  · rw [Fallible.require_neg recent]
    decide

/-! ## What one call does -/

/-- **A rotation to `newRoot`** under the signatures of the set `S`, whose tracker is given: what
`rotate_signers` has checked, and what it leaves. -/
structure Rotation (t : GatewayTransition) (operator : Option AccountInfo) (newRoot S : Bytes32)
    (config : GatewayConfig) (tracker : VerifierSetTracker) : Prop where
  stored : t.pre.config = some config
  session : ∃ session, t.pre.sessions ⟨newRoot, .rotateSigners, S⟩ = some session ∧
    session.isValid = true
  signing : t.pre.trackers S = some tracker
  hash : tracker.verifierSetHash = S
  fresh : t.pre.trackers newRoot = none
  window : config.assertValidEpoch tracker.epoch = .ok ()
  latest : operator ≠ some ⟨config.operator, true⟩ → config.currentEpoch = tracker.epoch
  after : ∃ currentTime currentEpoch bump,
    tryIntoU64 t.call.sysvar.unixTimestamp = some currentTime ∧
    currentEpoch.toNat = config.currentEpoch.toNat + 1 ∧
    (operator ≠ some ⟨config.operator, true⟩ →
      config.lastRotationTimestamp.toNat + config.minimumRotationDelay.toNat ≤ currentTime.toNat) ∧
    t.post.config = some { config with
      lastRotationTimestamp := currentTime
      currentEpoch := currentEpoch } ∧
    t.post.trackers = Function.update t.pre.trackers newRoot (some ⟨bump, currentEpoch, newRoot⟩)

/-- **The three things a call can do** to the trackers and the configuration. -/
inductive EpochStep (t : GatewayTransition) : Prop
  | silent (nothing : installed? t = none) (trackers : t.post.trackers = t.pre.trackers)
      (config : t.post.config = t.pre.config ∨ ∃ config operator, t.pre.config = some config ∧
        t.post.config = some { config with operator })
  | configure (params : InitializeConfigParams) (config : GatewayConfig) (bump : UInt8)
      (root : installed? t = some params.initialVerifierSet.hash)
      (before : t.pre.config = none) (stored : t.post.config = some config)
      (first : config.currentEpoch = 1)
      (time : tryIntoU64 t.call.sysvar.unixTimestamp = some config.lastRotationTimestamp)
      (trackers : t.post.trackers = Function.update t.pre.trackers params.initialVerifierSet.hash
        (some ⟨bump, 1, params.initialVerifierSet.hash⟩))
  | rotate (accounts : RotateSigners) (newRoot S : Bytes32) (config : GatewayConfig)
      (tracker : VerifierSetTracker) (call : t.call.instruction = .rotateSigners accounts newRoot)
      (rotation : Rotation t accounts.operator newRoot S config tracker)

/-- One more epoch. -/
theorem toNat_of_checkedAdd_one {x y : U256} (h : U256.checkedAdd x U256.one = some y) :
    y.toNat = x.toNat + 1 := by
  have one : U256.one.toNat = 1 := by decide
  unfold U256.checkedAdd at h
  rw [one] at h
  split at h
  case isTrue fits =>
    rw [← Option.some.inj h, BitVec.toNat_add, one, Nat.mod_eq_of_lt fits]
  case isFalse => cases h

/-- A successful `rotate_signers` is a rotation. -/
theorem rotation_of_process {env : Env} {sysvar : Sysvar} {accounts : RotateSigners}
    {newRoot : Bytes32} {s s' : GatewayState}
    (h : process env ⟨sysvar, .rotateSigners accounts newRoot⟩ s = .ok s') :
    ∃ S config tracker, Rotation ⟨s, ⟨sysvar, .rotateSigners accounts newRoot⟩, s'⟩
      accounts.operator newRoot S config tracker := by
  obtain ⟨config, session, tracker, currentTime, currentEpoch, bump, stored, hsession, key, valid,
    htracker, named, same, -, fresh, window, time, latest, next, rfl⟩ := rotateSigners_ok h
  rw [key] at hsession
  rw [named] at htracker
  refine ⟨session.signatureVerification.signingVerifierSetHash, config, tracker, stored,
    ⟨session, hsession, valid⟩, htracker, same, fresh, window, fun other => (latest other).1,
    currentTime, currentEpoch, bump, time, toNat_of_checkedAdd_one next, fun other => ?_, rfl, rfl⟩
  obtain ⟨-, behind, waited⟩ := latest other
  have waited := UInt64.le_iff_toNat_le.mp waited
  rw [UInt64.toNat_sub_of_le _ _ behind] at waited
  have behind := UInt64.le_iff_toNat_le.mp behind
  omega

/-- **What a committed call does to the configuration and the trackers.** -/
theorem process_epoch_cases {env : Env} {call : GatewayCall} {s s' : GatewayState}
    (h : process env call s = .ok s') : EpochStep ⟨s, call, s'⟩ := by
  obtain ⟨sysvar, instruction⟩ := call
  cases instruction with
  | callContract accounts chain address payload bump =>
    obtain ⟨-, rfl⟩ := callContract_ok h
    exact .silent rfl rfl (.inl rfl)
  | initializeConfig accounts params =>
    obtain ⟨fresh, -, config, bump, first, -, -, time, -, -, rfl⟩ := initializeConfig_ok h
    exact .configure params config bump rfl fresh rfl first time rfl
  | initializePayloadVerificationSession accounts r t =>
    obtain ⟨-, -, -, -, -, -, -, -, -, -, -, rfl⟩ := initializePayloadVerificationSession_ok h
    exact .silent rfl rfl (.inl rfl)
  | verifySignature accounts r info =>
    obtain ⟨-, -, -, -, -, -, -, -, -, -, -, -, -, rfl⟩ := verifySignature_ok h
    exact .silent rfl rfl (.inl rfl)
  | approveMessage accounts m r =>
    obtain ⟨-, -, -, -, -, -, -, -, -, -, -, -, rfl⟩ := approveMessage_ok h
    exact .silent rfl rfl (.inl rfl)
  | validateMessage accounts m =>
    obtain ⟨-, -, -, -, -, -, -, -, -, rfl⟩ := validateMessage_ok h
    exact .silent rfl rfl (.inl rfl)
  | rotateSigners accounts newRoot =>
    obtain ⟨S, config, tracker, rotation⟩ := rotation_of_process h
    exact .rotate accounts newRoot S config tracker rfl rotation
  | transferOperatorship accounts =>
    obtain ⟨config, stored, -, -, -, rfl⟩ := transferOperatorship_ok h
    exact .silent rfl rfl (.inr ⟨config, _, stored, rfl⟩)

/-! ## The invariant -/

/-- What a tracker says: the number of its set and the set's hash. -/
def VerifierSetTracker.entry (tracker : VerifierSetTracker) : Nat × Bytes32 :=
  (tracker.epoch.toNat, tracker.verifierSetHash)

/-- **The books of a run**: nothing before the initialisation, and afterwards one tracker for each
installed root, with its number. -/
inductive Bookkeeping (tr : List GatewayTransition) (s : GatewayState) : Prop
  | uninitialised (config : s.config = none) (trackers : ∀ h, s.trackers h = none)
      (nothing : installations tr = [])
  | initialised (config : GatewayConfig) (stored : s.config = some config)
      (nodup : (installations tr).Nodup) (nonempty : installations tr ≠ [])
      (count : config.currentEpoch.toNat = (installations tr).length)
      (trackers : ∀ h, (s.trackers h).map VerifierSetTracker.entry
        = (number (installations tr) h).map fun n => (n, h))
      (latest : ∃ t, last? installs tr = some t ∧
        installed? t = (installations tr).getLast? ∧
        tryIntoU64 t.call.sysvar.unixTimestamp = some config.lastRotationTimestamp)

section

variable {tr : List GatewayTransition} {s : GatewayState}

/-- No tracker has the hash of a root that was not installed. -/
theorem Bookkeeping.tracker_none (books : Bookkeeping tr s) {h : Bytes32} :
    s.trackers h = none ↔ h ∉ installations tr := by
  cases books with
  | uninitialised config trackers nothing => simp [trackers h, nothing]
  | initialised config stored nodup nonempty count trackers latest =>
    rw [← number_eq_none, ← Option.map_eq_none_iff (f := VerifierSetTracker.entry), trackers h,
      Option.map_eq_none_iff]

/-- A stored tracker has the number of its root. -/
theorem Bookkeeping.tracker_some (books : Bookkeeping tr s) {h : Bytes32}
    {tracker : VerifierSetTracker} (stored : s.trackers h = some tracker) :
    number (installations tr) h = some tracker.epoch.toNat ∧ tracker.verifierSetHash = h := by
  cases books with
  | uninitialised config trackers nothing =>
    rw [trackers h] at stored
    cases stored
  | initialised config _ nodup nonempty count trackers latest =>
    have entry := trackers h
    rw [stored, Option.map_some, eq_comm, Option.map_eq_some_iff] at entry
    obtain ⟨n, numbered, entry⟩ := entry
    rw [VerifierSetTracker.entry, Prod.mk.injEq] at entry
    obtain ⟨same, hash⟩ := entry
    exact ⟨by rw [numbered, same], hash.symm⟩

/-- The root with a number has a tracker. -/
theorem Bookkeeping.exists_tracker (books : Bookkeeping tr s) {h : Bytes32} {n : Nat}
    (numbered : number (installations tr) h = some n) :
    ∃ tracker, s.trackers h = some tracker ∧ tracker.epoch.toNat = n := by
  cases stored : s.trackers h with
  | none =>
    rw [number_eq_none.mpr (books.tracker_none.mp stored)] at numbered
    cases numbered
  | some tracker =>
    have number := (books.tracker_some stored).1
    exact ⟨tracker, rfl, Option.some.inj (number.symm.trans numbered)⟩

/-- Before any call there is nothing to keep. -/
theorem bookkeeping_initial : Bookkeeping [] GatewayState.initial :=
  .uninitialised rfl (fun _ => rfl) rfl

/-- A new root takes the next number. -/
theorem trackers_update {bump : UInt8} {epoch : U256} {newRoot : Bytes32} (keys : List Bytes32)
    (trackers : ∀ h, (s.trackers h).map VerifierSetTracker.entry
      = (number keys h).map fun n => (n, h))
    (new : newRoot ∉ keys) (next : epoch.toNat = keys.length + 1) (h : Bytes32) :
    (Function.update s.trackers newRoot (some ⟨bump, epoch, newRoot⟩) h).map
        VerifierSetTracker.entry
      = (number (keys ++ [newRoot]) h).map fun n => (n, h) := by
  by_cases same : h = newRoot
  · subst same
    rw [Function.update_self, number_append_self new]
    simp [VerifierSetTracker.entry, next]
  · rw [Function.update_of_ne same, number_append_of_ne same]
    exact trackers h

/-- **Every call keeps the books.** -/
theorem Bookkeeping.step {env : Env} {call : GatewayCall} {s' : GatewayState}
    (books : Bookkeeping tr s) (h : process env call s = .ok s') :
    Bookkeeping (tr ++ [⟨s, call, s'⟩]) s' := by
  cases process_epoch_cases h with
  | silent nothing trackers config =>
    -- the call installs nothing: sets and trackers stay, the configuration keeps its epoch
    have same : installations (tr ++ [⟨s, call, s'⟩]) = installations tr :=
      installations_append_none nothing
    have last : last? installs (tr ++ [⟨s, call, s'⟩]) = last? installs tr :=
      last?_append_neg (by simp [installs, nothing])
    have trackers : s'.trackers = s.trackers := trackers
    cases books with
    | uninitialised config₀ absent empty =>
      refine .uninitialised ?_ (by rw [trackers]; exact absent) (same.trans empty)
      rcases config with config | ⟨_, _, stored, -⟩
      · exact config.trans config₀
      · rw [config₀] at stored
        cases stored
    | initialised config₀ stored₀ nodup nonempty count numbers latest =>
      rcases config with config | ⟨config, operator, stored, config'⟩
      · refine .initialised config₀ (config.trans stored₀) ?_ ?_ ?_ ?_ ?_
        · rwa [same]
        · rwa [same]
        · rwa [same]
        · rwa [same, trackers]
        · rwa [same, last]
      · cases stored₀.symm.trans stored
        refine .initialised _ config' ?_ ?_ ?_ ?_ ?_
        · rwa [same]
        · rwa [same]
        · rwa [same]
        · rwa [same, trackers]
        · rwa [same, last]
  | configure params config bump root before stored first time trackers =>
    have last : last? installs (tr ++ [⟨s, call, s'⟩]) = some ⟨s, call, s'⟩ :=
      last?_append_pos (by simp [installs, root])
    cases books with
    | initialised _ stored₀ _ _ _ _ _ =>
      rw [show s.config = none from before] at stored₀
      cases stored₀
    | uninitialised _ absent empty =>
      -- the first set gets epoch 1, and nothing has been installed before it
      have roots : installations (tr ++ [⟨s, call, s'⟩]) = [params.initialVerifierSet.hash] := by
        rw [installations_append_some root, empty, List.nil_append]
      refine .initialised config stored ?_ ?_ ?_ ?_ ⟨_, last, ?_, time⟩
      · rw [roots]
        exact List.nodup_singleton _
      · rw [roots]
        exact List.cons_ne_nil _ _
      · rw [roots, first]
        rfl
      · intro h
        rw [roots, show s'.trackers = _ from trackers]
        exact trackers_update [] (fun k => by simp [show s.trackers k = none from absent k])
          List.not_mem_nil rfl h
      · rw [roots, root]
        rfl
  | rotate accounts newRoot S config tracker called rotation =>
    have root : installed? ⟨s, call, s'⟩ = some newRoot := by
      simp only [installed?]
      rw [show call.instruction = _ from called]
    have last : last? installs (tr ++ [⟨s, call, s'⟩]) = some ⟨s, call, s'⟩ :=
      last?_append_pos (by simp [installs, root])
    have roots : installations (tr ++ [⟨s, call, s'⟩]) = installations tr ++ [newRoot] :=
      installations_append_some root
    -- a set without a tracker has never been installed
    have new : newRoot ∉ installations tr := books.tracker_none.mp rotation.fresh
    obtain ⟨currentTime, currentEpoch, bump, time, next, -, config', trackers'⟩ := rotation.after
    cases books with
    | uninitialised absent _ _ =>
      have stored := rotation.stored
      rw [show s.config = none from absent] at stored
      cases stored
    | initialised config₀ stored₀ nodup nonempty count numbers latest =>
      cases stored₀.symm.trans rotation.stored
      refine .initialised _ config' ?_ ?_ ?_ ?_ ⟨_, last, ?_, time⟩
      · rw [roots]
        exact List.nodup_append.mpr ⟨nodup, List.nodup_singleton _, by
          rintro a mem b hb rfl
          rw [List.mem_singleton.mp hb] at mem
          exact new mem⟩
      · rw [roots]
        simp
      · rw [roots, List.length_append, List.length_singleton, ← count]
        exact next
      · intro h
        rw [roots, show s'.trackers = _ from trackers']
        exact trackers_update _ numbers new (by rw [next, count]) h
      · rw [roots, root, List.getLast?_append, List.getLast?_singleton, Option.some_or]

end

/-- **The books of every run.** -/
theorem bookkeeping_run (env : Env) (calls : List GatewayCall) :
    Bookkeeping (trace (process env) GatewayState.initial calls)
      (run (process env) GatewayState.initial calls) :=
  run_trace_induction bookkeeping_initial (fun _ _ _ _ books h => books.step h) calls

/-! ## Later states -/

/-- **What later calls keep**: the parameters, the trackers, and that the epoch does not fall. -/
structure Extends (config : GatewayConfig) (s : GatewayState) (config' : GatewayConfig)
    (s' : GatewayState) : Prop where
  stored : s'.config = some config'
  domainSeparator : config'.domainSeparator = config.domainSeparator
  retention : config'.previousVerifierSetRetention = config.previousVerifierSetRetention
  delay : config'.minimumRotationDelay = config.minimumRotationDelay
  epoch : config.currentEpoch.toNat ≤ config'.currentEpoch.toNat
  trackers : ∀ h tracker, s.trackers h = some tracker → s'.trackers h = some tracker

/-- One call keeps all this. -/
theorem Extends.step {env : Env} {call : GatewayCall} {config₀ config : GatewayConfig}
    {s₀ s s' : GatewayState} (ext : Extends config₀ s₀ config s)
    (h : process env call s = .ok s') : ∃ config', Extends config₀ s₀ config' s' := by
  cases process_epoch_cases h with
  | silent nothing trackers config' =>
    have keep : ∀ h tracker, s₀.trackers h = some tracker → s'.trackers h = some tracker := by
      intro h tracker stored
      rw [show s'.trackers = s.trackers from trackers]
      exact ext.trackers h tracker stored
    rcases config' with same | ⟨config', operator, stored, replaced⟩
    · exact ⟨config, same.trans ext.stored, ext.domainSeparator, ext.retention, ext.delay,
        ext.epoch, keep⟩
    · cases ext.stored.symm.trans stored
      exact ⟨_, replaced, ext.domainSeparator, ext.retention, ext.delay, ext.epoch, keep⟩
  | configure params config' bump root before stored first time trackers =>
    have before : s.config = none := before
    rw [ext.stored] at before
    cases before
  | rotate accounts newRoot S config' tracker called rotation =>
    cases ext.stored.symm.trans rotation.stored
    obtain ⟨currentTime, currentEpoch, bump, -, next, -, after, trackers⟩ := rotation.after
    refine ⟨_, after, ext.domainSeparator, ext.retention, ext.delay, ?_, ?_⟩
    · exact ext.epoch.trans (by simp only [next]; omega)
    · intro h tracker' stored
      have stored := ext.trackers h tracker' stored
      -- a rotation adds a tracker for a set that had none
      rw [show s'.trackers = _ from trackers, Function.update_of_ne]
      · exact stored
      · rintro rfl
        rw [show s.trackers _ = none from rotation.fresh] at stored
        cases stored

/-- Any number of calls keep all this. -/
theorem extends_run (env : Env) {config : GatewayConfig} {s : GatewayState}
    (stored : s.config = some config) (calls : List GatewayCall) :
    ∃ config', Extends config s config' (run (process env) s calls) := by
  refine run_invariant (P := fun s' => ∃ config', Extends config s config' s')
    ⟨config, stored, rfl, rfl, rfl, le_rfl, fun _ _ h => h⟩ ?_ calls
  rintro s₁ call s₂ ⟨config₁, ext⟩ h
  exact ext.step h

/-- An epoch that has been reached and is rejected stays rejected. -/
theorem Extends.rejected {config config' : GatewayConfig} {s s' : GatewayState}
    (ext : Extends config s config' s') {epoch : U256}
    (reached : epoch.toNat ≤ config.currentEpoch.toNat)
    (rejected : config.assertValidEpoch epoch ≠ .ok ()) :
    config'.assertValidEpoch epoch ≠ .ok () := by
  rw [ne_eq, GatewayConfig.assertValidEpoch_iff] at rejected ⊢
  rw [ext.retention]
  have later := ext.epoch
  omega

/-! ## The books -/

/-- **Epoch bookkeeping.** In every state that a run reaches after the initialisation, with the
installed roots `sets`:

1. every stored tracker has the hash of its address and an epoch between 1 and the current one;
2. every such epoch belongs to exactly one tracker;
3. the tracker of the current epoch is that of the last installed root;
4. the subtraction of the window check does not overflow for a stored tracker, and the check accepts
   exactly the trackers of the last `min retention current` installed roots;
5. after any further calls the three parameters are the same, every tracker is still there as it
   was, and one that the check rejected is rejected. -/
theorem epoch_bookkeeping (env : Env) (calls : List GatewayCall) (config : GatewayConfig)
    (stored : (run (process env) GatewayState.initial calls).config = some config) :
    let s := run (process env) GatewayState.initial calls
    let sets := installations (trace (process env) GatewayState.initial calls)
    let window := min config.previousVerifierSetRetention.toNat config.currentEpoch.toNat
    (∀ h tracker, s.trackers h = some tracker → tracker.verifierSetHash = h ∧
      0 < tracker.epoch.toNat ∧ tracker.epoch.toNat ≤ config.currentEpoch.toNat) ∧
    (∀ e, 0 < e → e ≤ config.currentEpoch.toNat →
      ∃! h, ∃ tracker, s.trackers h = some tracker ∧ tracker.epoch.toNat = e) ∧
    (∀ h, sets.getLast? = some h ↔
      ∃ tracker, s.trackers h = some tracker ∧ tracker.epoch = config.currentEpoch) ∧
    (∀ h tracker, s.trackers h = some tracker →
      config.assertValidEpoch tracker.epoch
        ≠ .error GatewayError.epochCalculationOverflow.err ∧
      (config.assertValidEpoch tracker.epoch = .ok () ↔ h ∈ sets.drop (sets.length - window))) ∧
    (∀ more, ∃ config', (run (process env) s more).config = some config' ∧
      config'.domainSeparator = config.domainSeparator ∧
      config'.previousVerifierSetRetention = config.previousVerifierSetRetention ∧
      config'.minimumRotationDelay = config.minimumRotationDelay ∧
      ∀ h tracker, s.trackers h = some tracker →
        (run (process env) s more).trackers h = some tracker ∧
        (config.assertValidEpoch tracker.epoch ≠ .ok () →
          config'.assertValidEpoch tracker.epoch ≠ .ok ())) := by
  intro s sets window
  have books := bookkeeping_run env calls
  obtain ⟨nodup, nonempty, count⟩ : sets.Nodup ∧ sets ≠ [] ∧
      config.currentEpoch.toNat = sets.length := by
    cases books with
    | uninitialised absent _ _ =>
      rw [absent] at stored
      cases stored
    | initialised config₀ stored₀ nodup nonempty count _ _ =>
      cases stored₀.symm.trans stored
      exact ⟨nodup, nonempty, count⟩
  -- a tracker's epoch is the number of its set in the order of installation
  have numbered : ∀ h tracker, s.trackers h = some tracker →
      number sets h = some tracker.epoch.toNat :=
    fun h tracker stored => (books.tracker_some stored).1
  have bounds : ∀ h tracker, s.trackers h = some tracker →
      0 < tracker.epoch.toNat ∧ tracker.epoch.toNat ≤ config.currentEpoch.toNat := by
    intro h tracker stored
    rw [count]
    exact number_bounds nodup (numbered h tracker stored)
  refine ⟨?_, ?_, ?_, ?_, ?_⟩
  · intro h tracker stored
    exact ⟨(books.tracker_some stored).2, bounds h tracker stored⟩
  · intro e pos bound
    obtain ⟨h, entry⟩ := exists_number nodup pos (count ▸ bound)
    refine ⟨h, books.exists_tracker entry, ?_⟩
    rintro h' ⟨tracker, stored, rfl⟩
    exact number_inj nodup (numbered h' tracker stored) entry
  · intro h
    rw [getLast?_eq_some nodup nonempty, ← count]
    constructor
    · intro entry
      obtain ⟨tracker, stored, epoch⟩ := books.exists_tracker entry
      exact ⟨tracker, stored, BitVec.eq_of_toNat_eq epoch⟩
    · rintro ⟨tracker, stored, epoch⟩
      rw [numbered h tracker stored, epoch]
  · intro h tracker stored
    have bound := (bounds h tracker stored).2
    refine ⟨GatewayConfig.assertValidEpoch_ne_overflow bound, ?_⟩
    rw [mem_drop_iff nodup (numbered h tracker stored), GatewayConfig.assertValidEpoch_iff,
      ← count]
    -- a set is accepted when its number is within the retention of the last
    have pos := (bounds h tracker stored).1
    simp only [window]
    omega
  · intro more
    obtain ⟨config', ext⟩ := extends_run env stored more
    refine ⟨config', ext.stored, ext.domainSeparator, ext.retention, ext.delay, ?_⟩
    intro h tracker stored
    exact ⟨ext.trackers h tracker stored, ext.rejected (bounds h tracker stored).2⟩

/-- A rotation, when only the latest set is inside the window. -/
def sampleRotated : List GatewayCall := sampleStrictInitialize :: sampleRotate (padTo 32 [6])

/-- After a rotation each of the two epochs belongs to one tracker, the second to that of the new
root, and the set of the first is outside the window from then on. -/
theorem epoch_bookkeeping_sample :
    let s := run (process sampleEnv) GatewayState.initial sampleRotated
    (∃! h, ∃ tracker, s.trackers h = some tracker ∧ tracker.epoch.toNat = 1) ∧
    (∃ tracker, s.trackers (padTo 32 [6]) = some tracker ∧ tracker.epoch = 2) ∧
    ∃ tracker, s.trackers sampleSet = some tracker ∧ ∀ more, ∃ config',
      (run (process sampleEnv) s more).config = some config' ∧
      config'.assertValidEpoch tracker.epoch ≠ .ok () := by
  intro s
  have stored : s.config = some ⟨2, 1, 0, 100, padTo 32 [3], padTo 32 [9], 255⟩ := by rfl
  have first : s.trackers sampleSet = some ⟨255, 1, sampleSet⟩ := by rfl
  have sets : installations (trace (process sampleEnv) GatewayState.initial sampleRotated)
      = [sampleSet, padTo 32 [6]] := by decide +kernel
  obtain ⟨-, unique, last, window, later⟩ := epoch_bookkeeping sampleEnv sampleRotated _ stored
  rw [sets] at last window
  have outside : ¬ GatewayConfig.assertValidEpoch
      ⟨2, 1, 0, 100, padTo 32 [3], padTo 32 [9], 255⟩ 1 = .ok () := by
    rw [(window _ _ first).2]
    decide
  refine ⟨unique 1 (by decide) (by decide), (last _).mp rfl, _, first, fun more => ?_⟩
  obtain ⟨config', stored', -, -, -, kept⟩ := later more
  exact ⟨config', stored', (kept _ _ first).2 outside⟩

end AxelarSolana.Gateway
