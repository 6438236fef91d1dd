import AxelarSolana.Gateway.MessageLifecycle
import AxelarSolana.Gateway.RotationSafety

/-! # Approvals by expired sets

Opening a session, signing and rotating all check that the set is inside the retention window;
`approve_message` does not.

* **`approval_window_iff`** — the set of an approval is inside the window exactly when fewer sets
  than were left to it then have been installed since its last accepted signature.
* **`approved_by_expired_set`** — an approval by a set that has left the window. -/

namespace AxelarSolana.Gateway

open Machine History Numbering

/-- A signature is accepted only from a set inside the window. -/
theorem insideWindow_of_acceptedBy {env : Env} {t : GatewayTransition} {k : SessionKey}
    {info : SigningVerifierSetInfo} (ok : process env t.call t.pre = .ok t.post)
    (signs : acceptedBy k t = some info) :
    InsideWindow k.signingVerifierSetHash t.pre ∧ installed? t = none := by
  obtain ⟨pre, ⟨sysvar, instruction⟩, post⟩ := t
  cases instruction with
  | verifySignature accounts r info' =>
    obtain ⟨config, session, tracker, hconfig, -, htracker, -, window, key, named, same, -, -, -⟩ :=
      verifySignature_ok ok
    by_cases here : accounts.verificationSessionAccount = k
    · subst here
      rw [named] at htracker
      rw [key, ← same]
      exact ⟨⟨config, tracker, hconfig, htracker, window⟩, rfl⟩
    · simp [acceptedBy, here] at signs
  | _ => cases signs

/-- The last signature accepted for a session that somebody signed. -/
theorem exists_last_accepted {k : SessionKey} {tr : List GatewayTransition}
    (signed : accepted k tr ≠ []) :
    ∃ signing u since, tr = signing ++ u :: since ∧ (∃ info, acceptedBy k u = some info) ∧
      ∀ x ∈ since, acceptedBy k x = none := by
  have present : last? (fun t => (acceptedBy k t).isSome) tr ≠ none := by
    intro nobody
    apply signed
    rw [accepted, List.filterMap_eq_nil_iff]
    intro t mem
    rw [last?, List.getLast?_eq_none_iff, List.filter_eq_nil_iff] at nobody
    simpa using nobody t mem
  obtain ⟨u, last⟩ := Option.ne_none_iff_exists'.mp present
  obtain ⟨signing, since, split, some, rest⟩ := split_of_last? last
  refine ⟨signing, u, since, split, Option.isSome_iff_exists.mp some, fun x mem => ?_⟩
  simpa using rest x mem

/-- The epoch that a run has reached is the number of its installations. -/
theorem currentEpoch_eq {env : Env} {calls : List GatewayCall} {config : GatewayConfig}
    (stored : (run (process env) GatewayState.initial calls).config = some config) :
    config.currentEpoch.toNat = (trace (process env) GatewayState.initial calls).countP installs := by
  cases bookkeeping_run env calls with
  | uninitialised absent _ _ =>
    rw [absent] at stored
    cases stored
  | initialised config₀ stored₀ _ _ count _ _ =>
    cases stored₀.symm.trans stored
    rw [count, length_installations]

/-- The tracker and the retention of an earlier point of a run are those of a later one. -/
theorem extends_of_trace {env : Env} {calls : List GatewayCall}
    {before between after : List GatewayTransition} {u t : GatewayTransition}
    (split : trace (process env) GatewayState.initial calls
      = (before ++ u :: between) ++ t :: after) {config : GatewayConfig}
    (stored : u.pre.config = some config) : ∃ config', Extends config u.pre config' t.pre := by
  obtain ⟨past, -, -, past_trace, here⟩ := exists_calls_of_trace_eq split
  obtain ⟨earlier, later, rfl, -, there⟩ := exists_calls_of_trace_eq past_trace
  rw [← here, run_append, there]
  exact extends_run env stored (u.call :: later)

/-- **When an approval is by a set inside the window.** In every run, an approval that uses the
session `k` comes after a last signature accepted for `k`, given while its set was inside the
window. At the approval the set is inside the window if and only if the epochs it was behind at that
signature and the installations since then are together fewer than the retention. -/
theorem approval_window_iff (env : Env) (calls : List GatewayCall)
    (before after : List GatewayTransition) (t : GatewayTransition) (accounts : ApproveMessage)
    (m : MerklizedMessage) (r : Bytes32)
    (split : trace (process env) GatewayState.initial calls = before ++ t :: after)
    (approves : t.call.instruction = .approveMessage accounts m r) :
    let k := accounts.verificationSessionAccount
    ∃ signing u since config tracker, before = signing ++ u :: since ∧
      (∃ info, acceptedBy k u = some info) ∧ (∀ x ∈ since, acceptedBy k x = none) ∧
      u.pre.config = some config ∧ u.pre.trackers k.signingVerifierSetHash = some tracker ∧
      config.assertValidEpoch tracker.epoch = .ok () ∧
      (InsideWindow k.signingVerifierSetHash t.pre ↔
        config.currentEpoch.toNat - tracker.epoch.toNat + since.countP installs
          < config.previousVerifierSetRetention.toNat) := by
  intro k
  have committed : ∀ x ∈ trace (process env) GatewayState.initial calls,
      process env x.call x.pre = .ok x.post := fun x mem => step_of_mem_trace mem
  have ok := committed t (split ▸ List.mem_append_right _ List.mem_cons_self)
  obtain ⟨past, -, -, past_trace, here⟩ := exists_calls_of_trace_eq split
  -- the session is valid, so somebody has signed it
  have signed : accepted k before ≠ [] := by
    obtain ⟨pre, ⟨sysvar, instruction⟩, post⟩ := t
    cases approves
    obtain ⟨-, session, -, -, -, stored, -, valid, -, -, -, -, -⟩ := approveMessage_ok ok
    rw [← show _ = pre from here] at stored
    obtain ⟨key, bump, -, rfl, -, -⟩ := exists_replay_of_stored stored
    intro nobody
    rw [past_trace, nobody, not_isValid_emptySession] at valid
    cases valid
  obtain ⟨signing, u, since, rfl, ⟨info, signs⟩, rest⟩ := exists_last_accepted signed
  have committed_u := committed u (split ▸ List.mem_append_left _
    (List.mem_append_right _ List.mem_cons_self))
  obtain ⟨⟨config, tracker, stored, htracker, window⟩, silent⟩ :=
    insideWindow_of_acceptedBy committed_u signs
  refine ⟨signing, u, since, config, tracker, rfl, ⟨info, signs⟩, rest, stored, htracker, window, ?_⟩
  obtain ⟨config', ext⟩ := extends_of_trace split stored
  -- both epochs count the installations before them
  have epoch : config.currentEpoch.toNat = signing.countP installs := by
    have split' : trace (process env) GatewayState.initial calls
        = signing ++ u :: (since ++ t :: after) := by simp [split]
    obtain ⟨past', -, -, past_trace', here'⟩ := exists_calls_of_trace_eq split'
    rw [← past_trace']
    exact currentEpoch_eq (by rw [here', stored])
  have epoch' : config'.currentEpoch.toNat = signing.countP installs + since.countP installs := by
    have count : config'.currentEpoch.toNat
        = (trace (process env) GatewayState.initial past).countP installs :=
      currentEpoch_eq (by rw [here, ext.stored])
    rw [count, past_trace, List.countP_append,
      List.countP_cons_of_neg (by simp [installs, silent])]
  have reached := (GatewayConfig.assertValidEpoch_iff.mp window).1
  have later := ext.trackers _ _ htracker
  have retention := congrArg BitVec.toNat ext.retention
  constructor
  · rintro ⟨config₁, tracker₁, stored₁, htracker₁, inside⟩
    cases stored₁.symm.trans ext.stored
    cases htracker₁.symm.trans later
    have recent := (GatewayConfig.assertValidEpoch_iff.mp inside).2
    omega
  · intro recent
    refine ⟨config', tracker, ext.stored, later, GatewayConfig.assertValidEpoch_iff.mpr ?_⟩
    omega

/-! ## An approval by an expired set -/

/-- A payload is signed, and then the signers are rotated. -/
def sampleSignedThenRotated : List GatewayCall :=
  sampleStrictInitialize :: sampleSign sampleLeafHash ++ sampleRotate (padTo 32 [6])

/-- **An approval by a set outside the window.** After the rotation the set that signed the payload
is no longer accepted anywhere else, but a message of the payload is approved. -/
theorem approved_by_expired_set :
    let s := run (process sampleEnv) GatewayState.initial sampleSignedThenRotated
    (∃ s', process sampleEnv (sampleApprove sampleMessage) s = .ok s') ∧
      ¬ InsideWindow sampleSet s := by
  intro s
  constructor
  · exact ⟨_, rfl⟩
  · rintro ⟨config, tracker, stored, htracker, window⟩
    cases show some _ = some config from stored
    cases show some _ = some tracker from htracker
    exact absurd window (by decide)

/-- The approval of the sample run comes after a signature of its session, and its set is inside the
window exactly when the epochs behind and the rotations since then are fewer than the retention. -/
theorem approval_window_iff_sample :
    ∃ signing u since, ∃ (config : GatewayConfig) (tracker : VerifierSetTracker),
      trace (process sampleEnv) GatewayState.initial sampleSignedThenRotated
        = signing ++ u :: since ∧
      (∃ info, acceptedBy (sampleSession sampleLeafHash) u = some info) ∧
      u.pre.config = some config ∧ u.pre.trackers sampleSet = some tracker ∧
      (InsideWindow sampleSet (run (process sampleEnv) GatewayState.initial sampleSignedThenRotated) ↔
        config.currentEpoch.toNat - tracker.epoch.toNat + since.countP installs
          < config.previousVerifierSetRetention.toNat) := by
  have split : trace (process sampleEnv) GatewayState.initial
      (sampleSignedThenRotated ++ [sampleApprove sampleMessage])
      = trace (process sampleEnv) GatewayState.initial sampleSignedThenRotated ++
        ⟨run (process sampleEnv) GatewayState.initial sampleSignedThenRotated,
          sampleApprove sampleMessage, _⟩ :: [] := rfl
  obtain ⟨signing, u, since, config, tracker, before, signs, -, stored, htracker, -, window⟩ :=
    approval_window_iff sampleEnv
      (sampleSignedThenRotated ++ [sampleApprove sampleMessage]) _ [] _ _ _ _ split rfl
  exact ⟨signing, u, since, config, tracker, before, signs, stored, htracker, window⟩

end AxelarSolana.Gateway
