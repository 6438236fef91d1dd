import AxelarSolana.Gateway.Instructions

/-! # What a rejected signature leaves behind

`process_signature` checks, then writes, and compares the verifier set last.

* **`processSignature_of_accepted`** — after the checks only the comparison can fail, and the
  weight and the slot have been written by then.
* **`processSignature_keepsOnError_iff`** — when an error leaves the session as it was. -/

namespace AxelarSolana.Gateway

open Fallible

namespace SignatureVerificationSessionData

variable {env : Crates} {r S : Bytes32} {info : SigningVerifierSetInfo}
  {s : SignatureVerificationSessionData}

/-- The session after the writes of an accepted leaf. -/
def written (s : SignatureVerificationSessionData) (leaf : VerifierSetLeaf) :
    SignatureVerificationSessionData :=
  { s with signatureVerification := s.signatureVerification.accept leaf }

/-- The writes set a slot that was free. -/
theorem written_ne {leaf : VerifierSetLeaf} (inBounds : leaf.position.toNat < 256)
    (unset : s.signatureVerification.signatureSlots.getLsbD leaf.position.toNat = false) :
    s.written leaf ≠ s := by
  intro same
  have slots := congrArg (fun session : SignatureVerificationSessionData =>
    session.signatureVerification.signatureSlots.getLsbD leaf.position.toNat) same
  have set := SignatureVerification.getLsbD_accept s.signatureVerification leaf inBounds
  simp only [written] at slots
  rw [slots, unset] at set
  simp at set

/-- **After the checks** the weight and the slot are written, and the verifier set is compared. -/
theorem processSignature_of_accepted (accepted : SignatureAccepted env r S info)
    (unset : s.signatureVerification.signatureSlots.getLsbD info.leaf.position.toNat = false) :
    processSignature env r S info s = verifyVerifierSet S (s.written info.leaf) := by
  obtain ⟨inBounds, ⟨proof, read, verified⟩, signed⟩ := accepted
  have free : s.signatureVerification.slot info.leaf.position = some false :=
    SignatureVerification.slot_eq_some.mpr ⟨inBounds, unset⟩
  have slot : s.checkSlotIsDone info.leaf = .ok () := by
    rw [checkSlotIsDone, free]
    rfl
  have passes : require (env.merkleProofVerify proof S info.leaf.position.toNat
      (info.leaf.hash env) info.leaf.setSize.toNat = true) GatewayError.invalidMerkleProof.err
    = .ok () := require_pos verified
  refine (stateful_bind_of_ok (get_eq_ok.mpr ⟨rfl, rfl⟩)).trans ?_
  refine (stateful_bind_of_ok (lift_eq_ok.mpr ⟨slot, rfl⟩)).trans ?_
  refine (stateful_bind_of_ok (lift_eq_ok.mpr ⟨okOr_eq_ok.mpr read, rfl⟩)).trans ?_
  refine (stateful_bind_of_ok (lift_eq_ok.mpr ⟨passes, rfl⟩)).trans ?_
  refine (stateful_bind_of_ok (lift_eq_ok.mpr ⟨signed, rfl⟩)).trans ?_
  refine (stateful_bind_of_ok (lift_eq_ok.mpr ⟨require_pos rfl, rfl⟩)).trans ?_
  -- the weight and the slot are written
  refine (stateful_bind_of_ok (a := ()) (accumulateThreshold_eq_ok.mpr rfl)).trans ?_
  exact stateful_bind_of_ok (a := ()) (markSlotDone_eq_ok.mpr ⟨free, rfl⟩)

/-- **Without an accepted signature for a free slot** nothing is written before the error. -/
theorem processSignature_keepsOnError (rejected : ¬ (SignatureAccepted env r S info ∧
    s.signatureVerification.signatureSlots.getLsbD info.leaf.position.toNat = false)) :
    KeepsOnError (processSignature env r S info) s := by
  unfold processSignature
  refine .get_bind (.lift_bind fun _ slot => .lift_bind fun proof read => .lift_bind fun _ verified =>
    .lift_bind fun signed ran => .lift_bind fun _ passed => ?_)
  -- every check has passed, so the signature is accepted
  simp only [checkSlotIsDone, bind_eq_ok, okOr_eq_ok, require_eq_ok] at slot read verified passed
  obtain ⟨_, free, rfl⟩ := slot
  obtain ⟨inBounds, unset⟩ := SignatureVerification.slot_eq_some.mp free
  subst passed
  exact absurd ⟨⟨inBounds, ⟨proof, read, verified⟩, ran⟩, unset⟩ rejected

/-- **A rejected signature leaves the session as it was** exactly when its verifier set is that of
the session, or an earlier check fails. -/
theorem processSignature_keepsOnError_iff (env : Crates) (r S : Bytes32)
    (info : SigningVerifierSetInfo) (s : SignatureVerificationSessionData) :
    (∀ e s', processSignature env r S info s = .error e s' → s' = s) ↔
      (SignatureAccepted env r S info →
        s.signatureVerification.signatureSlots.getLsbD info.leaf.position.toNat = false →
          s.signatureVerification.signingVerifierSetHash = S) := by
  -- past the checks the slot and the weight are written before the set is compared
  by_cases checks : SignatureAccepted env r S info ∧
    s.signatureVerification.signatureSlots.getLsbD info.leaf.position.toNat = false
  · obtain ⟨accepted, unset⟩ := checks
    rw [processSignature_of_accepted accepted unset]
    constructor
    · intro keeps _ _
      by_contra other
      have fails : verifyVerifierSet S (s.written info.leaf) =
          .error GatewayError.invalidDigitalSignature.err (s.written info.leaf) := by
        refine (stateful_bind_of_ok (get_eq_ok.mpr ⟨rfl, rfl⟩)).trans ?_
        exact lift_eq_error.mpr ⟨require_neg other, rfl⟩
      exact written_ne accepted.inBounds unset (keeps _ _ fails)
    · intro same e s' fails
      have succeeds : verifyVerifierSet S (s.written info.leaf) = .ok () (s.written info.leaf) :=
        verifyVerifierSet_eq_ok.mpr ⟨same accepted unset, rfl⟩
      rw [succeeds] at fails
      cases fails
  · constructor
    · intro _ accepted unset
      exact absurd ⟨accepted, unset⟩ checks
    · intro _ e s' fails
      exact processSignature_keepsOnError checks e s' fails

end SignatureVerificationSessionData

/-- A signature of the sample set is offered to a session of another set: it is rejected after its
weight and its slot have been written. -/
theorem not_processSignature_keepsOnError :
    ¬ ∀ (env : Crates) (r S : Bytes32) (info : SigningVerifierSetInfo)
      (s : SignatureVerificationSessionData) (e : Error) (s' : SignatureVerificationSessionData),
      SignatureVerificationSessionData.processSignature env r S info s = .error e s' → s' = s := by
  intro keeps
  have wrong := keeps sampleEnv.toCrates (padTo 32 [5]) sampleSet (sampleSignature (padTo 32 [5]))
    ⟨⟨U128.zero, 0, padTo 32 [8]⟩, 255⟩ GatewayError.invalidDigitalSignature.err
    ⟨⟨U128.max, 1, padTo 32 [8]⟩, 255⟩ rfl
  exact absurd wrong (by decide)

end AxelarSolana.Gateway
