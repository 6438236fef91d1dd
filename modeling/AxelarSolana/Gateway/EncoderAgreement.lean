import AxelarSolana.AxelarStd.Encoding
import AxelarSolana.Gateway.MerkleSoundness
import AxelarSolana.Gateway.QuorumSoundness

/-! # The encoder and the gateway agree

What the off-chain encoder writes, the gateway accepts: the two ends build the leaves, positions,
sizes and roots in separate code.

* **`Agrees`** — execute data with the roots, entries and items of their inputs, all of which pass
  the gateway's Merkle checks.
* **`Executes`** — instructions that succeed one after the other, whenever they are called.
* **`executes_submissions`** — entries submitted in any order to a fresh session; the session is
  their replay.
* **`executes_approvals`** — messages approved one after the other under a valid session.
* **`encoder_agreement`** — the encoder and the gateway together. -/

namespace AxelarSolana.Gateway

open Fallible

/-! ## Agreement of the data -/

section

variable {env : Crates} {prover : Prover} {depth : Nat → Nat} {d root : Bytes32}
  {vs : VerifierSet} {payload : Payload} {payloadType : PayloadType}
  {signersWithSignatures : PublicKey → Option EcdsaRecoverableSignature}

/-- **Execute data that agree with their inputs.** -/
structure Agrees (env : Crates) (prover : Prover) (vs : VerifierSet)
    (signersWithSignatures : PublicKey → Option EcdsaRecoverableSignature) (d : Bytes32)
    (payload : Payload) (ed : ExecuteData) : Prop where
  signingRoot : verifierSetHash env vs d = .ok ed.signingVerifierSetMerkleRoot
  payloadRoot : hashPayload env prover d payload = .ok ed.payloadMerkleRoot
  /-- One entry for each signer of the set that has a signature, and no others. -/
  entries : (ed.signingVerifierSetLeaves.map fun info => (info.leaf, info.signature)) =
    (vs.leaves d).filterMap fun leaf =>
      (signersWithSignatures leaf.signerPubkey).map fun signature => (leaf, signature)
  payloadType : ∀ info ∈ ed.signingVerifierSetLeaves, info.payloadType = payload.payloadType
  /-- Every message in order. -/
  messages : ∀ ms, payload = .messages ms → ∃ items, ed.payloadItems = .newMessages items ∧
    (items.map fun item => item.leaf) = ms.leaves d ∧
    (items.map fun item => item.leaf.message) = ms.list
  rotation : ∀ w, payload = .newVerifierSet w →
    ed.payloadItems = .verifierSetRotation ed.payloadMerkleRoot ∧
    verifierSetHash env w d = .ok ed.payloadMerkleRoot
  /-- The check of `process_signature`. -/
  entriesPass : ∀ info ∈ ed.signingVerifierSetLeaves, ∃ proof,
    PassesMerkleCheck env ed.signingVerifierSetMerkleRoot info.merkleProof info.leaf.position
      (info.leaf.hash env) info.leaf.setSize proof
  /-- The check of `approve_message`. -/
  messagesPass : ∀ items, ed.payloadItems = .newMessages items → ∀ item ∈ items, ∃ proof,
    PassesMerkleCheck env ed.payloadMerkleRoot item.proof item.leaf.position
      (item.leaf.hash env) item.leaf.setSize proof

/-- The entries pass the check under the set's hash. -/
theorem passes_of_mem_entries (rs : RsMerkle env depth) (rp : RsMerkleProver env prover depth)
    (hash : verifierSetHash env vs d = .ok root) {info : SigningVerifierSetInfo}
    (h : info ∈ vs.entries env prover signersWithSignatures d payloadType) :
    ∃ proof, PassesMerkleCheck env root info.merkleProof info.leaf.position (info.leaf.hash env)
      info.leaf.setSize proof := by
  obtain ⟨small, hroot⟩ := verifierSetHash_eq_ok.mp hash
  obtain ⟨i, signer, signature, hi, -, rfl⟩ := VerifierSet.mem_entries.mp h
  obtain ⟨inside, -⟩ := List.getElem?_eq_some_iff.mp hi
  have len := vs.length_leaves d
  have found : ((vs.leaves d).map Digestable.verifierSetLeaf)[i]? =
      some (.verifierSetLeaf (vs.leaf d i signer)) := by
    rw [List.getElem?_map, VerifierSet.leaves, List.getElem?_mapIdx, hi]
    rfl
  have verified := merkleProofVerify_of_getElem? rs rp (by rw [len]; exact small) found hroot
  have position : (UInt16.ofNat i).toNat = i := toNat_ofNat_u16 (inside.trans small)
  have setSize : (UInt16.ofNat vs.signers.length).toNat = vs.signers.length :=
    toNat_ofNat_u16 small
  refine ⟨_, rp.fromBytes_toBytes _, ?_⟩
  show env.merkleProofVerify (prover.merkleProof (vs.tree env d) (UInt16.ofNat i).toNat) root
    (UInt16.ofNat i).toNat _ (UInt16.ofNat vs.signers.length).toNat = true
  rw [position, setSize, ← len]
  exact verified

/-- The items pass the check under the batch's root. -/
theorem passes_of_mem_items (rs : RsMerkle env depth) (rp : RsMerkleProver env prover depth)
    {ms : Messages} (hash : hashPayload env prover d (.messages ms) = .ok root)
    {item : MerklizedMessage} (h : item ∈ ms.items env prover d) :
    ∃ proof, PassesMerkleCheck env root item.proof item.leaf.position (item.leaf.hash env)
      item.leaf.setSize proof := by
  obtain ⟨small, hroot⟩ := hashPayload_messages_eq_ok.mp hash
  obtain ⟨i, message, hi, rfl⟩ := Messages.mem_items.mp h
  obtain ⟨inside, -⟩ := List.getElem?_eq_some_iff.mp hi
  have len := ms.length_leaves d
  have found : ((ms.leaves d).map Digestable.messageLeaf)[i]? =
      some (.messageLeaf (ms.leaf d i message)) := by
    rw [List.getElem?_map, Messages.leaves, List.getElem?_mapIdx, hi]
    rfl
  have verified := merkleProofVerify_of_getElem? rs rp (by rw [len]; exact small) found hroot
  have position : (UInt16.ofNat i).toNat = i := toNat_ofNat_u16 (inside.trans small)
  have setSize : (UInt16.ofNat ms.list.length).toNat = ms.list.length := toNat_ofNat_u16 small
  refine ⟨_, rp.fromBytes_toBytes _, ?_⟩
  show env.merkleProofVerify (prover.merkleProof (ms.tree env d) (UInt16.ofNat i).toNat) root
    (UInt16.ofNat i).toNat _ (UInt16.ofNat ms.list.length).toNat = true
  rw [position, setSize, ← len]
  exact verified

/-- The messages of a batch's leaves. -/
theorem map_message_leaves (ms : Messages) (d : Bytes32) :
    ((ms.leaves d).map fun leaf => leaf.message) = ms.list := by
  apply List.ext_getElem?
  intro i
  rw [Messages.leaves, List.getElem?_map, List.getElem?_mapIdx]
  cases ms.list[i]? <;> rfl

/-- **The execute data agree with their inputs.** -/
theorem agrees_of_executeData (rs : RsMerkle env depth) (rp : RsMerkleProver env prover depth)
    {ed : ExecuteData}
    (h : executeData env prover vs signersWithSignatures d payload = .ok ed) :
    Agrees env prover vs signersWithSignatures d payload ed := by
  obtain ⟨signing, hash, entries, items⟩ := executeData_eq_ok.mp h
  have itemsOf (ms : Messages) (shape : payload = .messages ms) :
      ed.payloadItems = .newMessages (ms.items env prover d) := by
    rw [items, shape]
    rfl
  refine ⟨signing, hash, ?_, ?_, ?_, ?_, ?_, ?_⟩
  · rw [entries, VerifierSet.entries, List.map_filterMap]
    simp only [Option.map_map]
    rfl
  · rw [entries]
    intro info mem
    obtain ⟨i, signer, signature, -, -, rfl⟩ := VerifierSet.mem_entries.mp mem
    rfl
  · intro ms shape
    refine ⟨_, itemsOf ms shape, ?_, ?_⟩
    · rw [Messages.items, List.map_map]
      exact List.map_id _
    · rw [Messages.items, List.map_map]
      exact map_message_leaves ms d
  · intro w shape
    rw [shape] at items hash
    exact ⟨items, hashPayload_newVerifierSet_eq_ok.mp hash⟩
  · rw [entries]
    exact fun info mem => passes_of_mem_entries rs rp signing mem
  · intro items' shape item mem
    cases payload with
    | messages ms =>
      rw [itemsOf ms rfl] at shape
      cases shape
      exact passes_of_mem_items rs rp hash mem
    | newVerifierSet w =>
      rw [items] at shape
      cases shape

/-- The leaves of a set stand at the positions from 0 on. -/
theorem map_position_leaves (small : vs.signers.length < 2 ^ 16) :
    ((vs.leaves d).map fun leaf => leaf.position.toNat) = List.range vs.signers.length := by
  apply List.ext_getElem?
  intro i
  rw [VerifierSet.leaves, List.getElem?_map, List.getElem?_mapIdx]
  by_cases inside : i < vs.signers.length
  · rw [List.getElem?_eq_getElem inside, List.getElem?_range inside]
    exact congrArg some (toNat_ofNat_u16 (inside.trans small))
  · rw [List.getElem?_eq_none (by omega), List.getElem?_eq_none (by rw [List.length_range]; omega)]
    rfl

/-- **The entries have pairwise distinct positions.** -/
theorem nodup_map_leafPosition_entries (small : vs.signers.length < 2 ^ 16) :
    ((vs.entries env prover signersWithSignatures d payloadType).map leafPosition).Nodup := by
  have positions : (vs.entries env prover signersWithSignatures d payloadType).map leafPosition =
      (vs.leaves d).filterMap fun leaf =>
        (signersWithSignatures leaf.signerPubkey).map fun _ => leaf.position.toNat := by
    rw [VerifierSet.entries, List.map_filterMap]
    simp only [Option.map_map]
    rfl
  have distinct : ((vs.leaves d).map fun leaf => leaf.position.toNat).Nodup := by
    rw [map_position_leaves small]
    exact List.nodup_range
  rw [positions]
  refine (List.Pairwise.filterMap _ ?_ (List.pairwise_map.mp distinct) : List.Pairwise _ _)
  intro leaf leaf' different p hp q hq
  simp only [Option.map_eq_some_iff] at hp hq
  obtain ⟨-, -, rfl⟩ := hp
  obtain ⟨-, -, rfl⟩ := hq
  exact different

end

/-! ## Calls that succeed -/

section

variable {env : Env} {s s₁ s' : GatewayState} {d : Bytes32} {k : SessionKey}

/-- **Instructions that succeed one after the other**, at whatever times they are called. -/
def Executes (env : Env) (instructions : List GatewayInstruction) (s s' : GatewayState) : Prop :=
  ∀ calls : List GatewayCall, (calls.map fun call => call.instruction) = instructions →
    calls.foldlM (fun s call => process env call s) s = .ok s'

/-- No instruction leaves the state. -/
theorem Executes.nil : Executes env [] s s := by
  intro calls h
  rw [List.map_eq_nil_iff] at h
  rw [h]
  rfl

/-- The first instruction succeeds at any clock, and then the others. -/
theorem Executes.cons {instruction : GatewayInstruction} {rest : List GatewayInstruction}
    (first : ∀ sysvar, process env ⟨sysvar, instruction⟩ s = .ok s₁)
    (h : Executes env rest s₁ s') : Executes env (instruction :: rest) s s' := by
  intro calls same
  cases calls with
  | nil => cases same
  | cons call calls =>
    obtain ⟨sysvar, instruction'⟩ := call
    rw [List.map_cons, List.cons.injEq] at same
    obtain ⟨rfl, same⟩ := same
    rw [List.foldlM_cons, first sysvar]
    exact h calls same

/-- **The set with hash `S` signs for the gateway** in the domain `d`: its tracker is stored and
its epoch has not expired. -/
def Installed (s : GatewayState) (d S : Bytes32) : Prop :=
  ∃ config tracker, s.config = some config ∧ config.domainSeparator = d ∧
    s.trackers S = some tracker ∧ tracker.verifierSetHash = S ∧
    config.assertValidEpoch tracker.epoch = .ok ()

/-- **The runtime finds an address for all seeds that it accepts.** No such seeds are known for which
all bumps fail. -/
def FindsAddresses (env : Env) : Prop :=
  ∀ seeds programId, ValidSeeds seeds → ∃ found, env.findProgramAddress seeds programId = .ok found

/-- The runtime accepts the seeds of a session. -/
theorem validSeeds_session : ValidSeeds k.pdaSeeds := by
  have tag : SignatureVerificationSessionData.seedPrefix.length ≤ 32 := by decide
  simp [ValidSeeds, SessionKey.pdaSeeds, tag]

/-- The runtime accepts the seeds of the record of a message. -/
theorem validSeeds_incomingMessage (commandId : Bytes32) :
    ValidSeeds [IncomingMessage.seedPrefix, commandId.toList] := by
  have tag : IncomingMessage.seedPrefix.length ≤ 32 := by decide
  simp [ValidSeeds, tag]

/-- The runtime accepts the seeds of the address that validates a message. -/
theorem validSeeds_validateMessageSigner (commandId : Bytes32) :
    ValidSeeds (ValidateMessageSigner.pdaSeeds commandId) := by
  have tag : ValidateMessageSigner.seedPrefix.length ≤ 32 := by decide
  simp [ValidSeeds, ValidateMessageSigner.pdaSeeds, tag]

/-- The instruction that opens a session. -/
def opening (k : SessionKey) : GatewayInstruction :=
  .initializePayloadVerificationSession ⟨k, k.signingVerifierSetHash⟩ k.payloadMerkleRoot
    k.payloadType

/-- The instruction that submits an entry. -/
def submission (k : SessionKey) (info : SigningVerifierSetInfo) : GatewayInstruction :=
  .verifySignature ⟨k, k.signingVerifierSetHash⟩ k.payloadMerkleRoot info

/-- The instruction that approves a message. -/
def approval (env : Env) (k : SessionKey) (item : MerklizedMessage) : GatewayInstruction :=
  .approveMessage ⟨k, item.leaf.message.commandId env.toCrates⟩ item k.payloadMerkleRoot

/-- **A session can be opened** for a set that signs for the gateway. -/
theorem executes_opening (finds : FindsAddresses env)
    (installed : Installed s d k.signingVerifierSetHash) (fresh : s.sessions k = none) :
    ∃ bump, Executes env [opening k] s
      (s.setSession k (emptySession k.signingVerifierSetHash bump)) := by
  obtain ⟨config, tracker, hconfig, -, htracker, hash, valid⟩ := installed
  obtain ⟨⟨key, bump⟩, found⟩ := finds k.pdaSeeds env.gatewayId validSeeds_session
  refine ⟨bump, Executes.cons (fun sysvar => ?_) Executes.nil⟩
  show initializePayloadVerificationSession env _ _ _ s = _
  simp only [initializePayloadVerificationSession, bind_eq_ok, require_eq_ok, pure_eq_ok,
    canonicalBump_eq_ok, GatewayState.loadConfig_eq_ok, GatewayState.loadTracker_eq_ok]
  refine ⟨config, hconfig, tracker, htracker, bump, ⟨key, ?_⟩, (), ?_, (), ?_, (), hash.symm, (),
    valid, ?_⟩
  · rw [hash]
    exact found
  · rw [hash]
  · rw [hash]
    exact fresh
  · rw [hash]
    rfl

/-- **An accepted signature can be submitted.** -/
theorem process_submission {info : SigningVerifierSetInfo}
    {session : SignatureVerificationSessionData}
    (installed : Installed s d k.signingVerifierSetHash) (hsession : s.sessions k = some session)
    (hash : session.signatureVerification.signingVerifierSetHash = k.signingVerifierSetHash)
    (type : info.payloadType = k.payloadType) (domain : info.leaf.domainSeparator = d)
    (accepted : SignatureAccepted env.toCrates k.payloadMerkleRoot k.signingVerifierSetHash info)
    (free : session.signatureVerification.signatureSlots.getLsbD info.leaf.position.toNat = false)
    (sysvar : Sysvar) :
    process env ⟨sysvar, submission k info⟩ s = .ok (s.setSession k { session with
      signatureVerification := session.signatureVerification.accept info.leaf }) := by
  obtain ⟨config, tracker, hconfig, separator, htracker, tracked, valid⟩ := installed
  show verifySignature env _ _ info s = _
  simp only [verifySignature, bind_eq_ok, require_eq_ok, pure_eq_ok, commitState_eq_ok,
    GatewayState.loadConfig_eq_ok, GatewayState.loadTracker_eq_ok, GatewayState.loadSession_eq_ok,
    SignatureVerificationSessionData.processSignature_eq_ok]
  refine ⟨config, hconfig, session, hsession, tracker, htracker, (), ?_, (), valid, (), ?_, (),
    tracked.symm, _, ⟨?_, free, ?_, rfl⟩, rfl⟩
  · rw [separator, domain]
  · rw [type, hash]
  · rw [tracked]
    exact accepted
  · rw [tracked, hash]

/-- The accounts that a session write leaves alone. -/
theorem installed_setSession {S : Bytes32} {session : SignatureVerificationSessionData}
    (h : Installed s d S) : Installed (s.setSession k session) d S := h

/-- **Entries in any order.** Accepted signatures of pairwise distinct positions can be submitted
one after the other; the session is their replay. The induction is on the entries still to be
submitted, and the stored session is the replay of those already submitted. -/
theorem executes_submissions {done order : List SigningVerifierSetInfo} {bump : UInt8}
    (installed : Installed s d k.signingVerifierSetHash)
    (hsession : s.sessions k = some ⟨replay k.signingVerifierSetHash done, bump⟩)
    (distinct : ((done ++ order).map leafPosition).Nodup)
    (type : ∀ info ∈ order, info.payloadType = k.payloadType)
    (domain : ∀ info ∈ order, info.leaf.domainSeparator = d)
    (accepted : ∀ info ∈ order,
      SignatureAccepted env.toCrates k.payloadMerkleRoot k.signingVerifierSetHash info) :
    Executes env (order.map (submission k)) s
      (s.setSession k ⟨replay k.signingVerifierSetHash (done ++ order), bump⟩) := by
  induction order generalizing s done with
  | nil =>
    have same : s.setSession k ⟨replay k.signingVerifierSetHash (done ++ []), bump⟩ = s := by
      rw [List.append_nil, GatewayState.setSession, ← hsession, Function.update_eq_self]
    rw [same]
    exact Executes.nil
  | cons info order ih =>
    have new : leafPosition info ∉ done.map leafPosition := by
      rw [List.map_append, List.map_cons] at distinct
      intro mem
      exact (List.nodup_append.mp distinct).2.2 _ mem _ List.mem_cons_self rfl
    -- the slots that are set are those of the signatures before, at other positions
    have free : (replay k.signingVerifierSetHash done).signatureSlots.getLsbD
        info.leaf.position.toNat = false := by
      rw [getLsbD_replay _ _ (accepted info List.mem_cons_self).inBounds]
      exact decide_eq_false new
    refine Executes.cons (process_submission installed hsession
      (replay_signingVerifierSetHash _ _) (type info List.mem_cons_self)
      (domain info List.mem_cons_self) (accepted info List.mem_cons_self) free) ?_
    have grown : done ++ info :: order = (done ++ [info]) ++ order := by simp
    have last : (s.setSession k ⟨replay k.signingVerifierSetHash (done ++ info :: order), bump⟩) =
        (s.setSession k ⟨(replay k.signingVerifierSetHash done).accept info.leaf, bump⟩).setSession k
          ⟨replay k.signingVerifierSetHash ((done ++ [info]) ++ order), bump⟩ := by
      rw [GatewayState.setSession, GatewayState.setSession, GatewayState.setSession,
        Function.update_idem, grown]
    rw [last]
    apply ih (installed_setSession installed)
    · rw [replay_append]
      exact Function.update_self _ _ _
    · rw [← grown]
      exact distinct
    · exact fun i mem => type i (List.mem_cons_of_mem _ mem)
    · exact fun i mem => domain i (List.mem_cons_of_mem _ mem)
    · exact fun i mem => accepted i (List.mem_cons_of_mem _ mem)

/-- The state after the approval of a message. -/
def GatewayState.approve (env : Env) (s : GatewayState) (message : Message)
    (bump signingPdaBump : UInt8) : GatewayState :=
  (s.setIncoming (message.commandId env.toCrates)
    { bump
      signingPdaBump
      status := .approved
      messageHash := message.hash env.toCrates
      payloadHash := message.payloadHash }).emit
    (.messageApproved (messageApprovedEvent env message))

/-- An approval leaves the records of other command ids. -/
theorem incoming_approve_of_ne {message : Message} {bump signingPdaBump : UInt8}
    {commandId : Bytes32} (other : commandId ≠ message.commandId env.toCrates) :
    (s.approve env message bump signingPdaBump).incoming commandId = s.incoming commandId :=
  Function.update_of_ne other _ _

/-- **A message under a signed root can be approved.** -/
theorem process_approval (finds : FindsAddresses env) {item : MerklizedMessage}
    {session : SignatureVerificationSessionData} {config : GatewayConfig}
    (hconfig : s.config = some config) (hsession : s.sessions k = some session)
    (hash : session.signatureVerification.signingVerifierSetHash = k.signingVerifierSetHash)
    (type : k.payloadType = .approveMessages) (valid : session.isValid = true)
    (domain : item.leaf.domainSeparator = config.domainSeparator)
    (passes : ∃ proof, PassesMerkleCheck env.toCrates k.payloadMerkleRoot item.proof
      item.leaf.position (item.leaf.hash env.toCrates) item.leaf.setSize proof)
    (fresh : s.incoming (item.leaf.message.commandId env.toCrates) = none) :
    ∃ bump signingBump, ∀ sysvar, process env ⟨sysvar, approval env k item⟩ s =
      .ok (s.approve env item.leaf.message bump signingBump) := by
  obtain ⟨proof, read, verified⟩ := passes
  obtain ⟨⟨key, bump⟩, found⟩ := finds [IncomingMessage.seedPrefix,
    (item.leaf.message.commandId env.toCrates).toList] env.gatewayId (validSeeds_incomingMessage _)
  have signing : ∃ signingBump, signingPdaBump env item.leaf.message = .ok signingBump := by
    unfold signingPdaBump
    cases env.pubkeyFromStr item.leaf.message.destinationAddress with
    | none => exact ⟨0, rfl⟩
    | some destination =>
      obtain ⟨⟨key, bump⟩, found⟩ := finds
        (ValidateMessageSigner.pdaSeeds (item.leaf.message.commandId env.toCrates)) destination
        (validSeeds_validateMessageSigner _)
      refine ⟨bump, ?_⟩
      simp only [ValidateMessageSigner.findPda, found, bind_eq_ok, pure_eq_ok]
      exact ⟨_, rfl, rfl⟩
  obtain ⟨signingBump, hsigning⟩ := signing
  refine ⟨bump, signingBump, fun sysvar => ?_⟩
  show approveMessage env _ item _ s = _
  simp only [approveMessage, bind_eq_ok, require_eq_ok, okOr_eq_ok, pure_eq_ok,
    canonicalBump_eq_ok, GatewayState.loadConfig_eq_ok, GatewayState.loadSession_eq_ok]
  refine ⟨config, hconfig, session, hsession, bump, ⟨key, found⟩, (), trivial, (), fresh, (), ?_, (),
    valid, (), domain, proof, read, (), verified, signingBump, hsigning, rfl⟩
  rw [hash, ← type]

/-- The record of an approved message. -/
def Approved (env : Env) (s : GatewayState) (message : Message) : Prop :=
  ∃ record, s.incoming (message.commandId env.toCrates) = some record ∧
    record.status.isApproved = true ∧ record.messageHash = message.hash env.toCrates ∧
    record.payloadHash = message.payloadHash

/-- **Messages one after the other.** Messages under a signed root that have different command ids
and were not approved before can all be approved. -/
theorem executes_approvals (finds : FindsAddresses env) {items : List MerklizedMessage}
    {session : SignatureVerificationSessionData} {config : GatewayConfig}
    (hconfig : s.config = some config) (hsession : s.sessions k = some session)
    (hash : session.signatureVerification.signingVerifierSetHash = k.signingVerifierSetHash)
    (type : k.payloadType = .approveMessages) (valid : session.isValid = true)
    (domain : ∀ item ∈ items, item.leaf.domainSeparator = config.domainSeparator)
    (passes : ∀ item ∈ items, ∃ proof, PassesMerkleCheck env.toCrates k.payloadMerkleRoot
      item.proof item.leaf.position (item.leaf.hash env.toCrates) item.leaf.setSize proof)
    (distinct : (items.map fun item => item.leaf.message.commandId env.toCrates).Nodup)
    (fresh : ∀ item ∈ items, s.incoming (item.leaf.message.commandId env.toCrates) = none) :
    ∃ s', Executes env (items.map (approval env k)) s s' ∧
      (∀ item ∈ items, Approved env s' item.leaf.message) ∧
      ∀ commandId, commandId ∉ items.map (fun item => item.leaf.message.commandId env.toCrates) →
        s'.incoming commandId = s.incoming commandId := by
  induction items generalizing s with
  | nil =>
    refine ⟨s, Executes.nil, ?_, fun _ _ => rfl⟩
    intro item mem
    cases mem
  | cons item items ih =>
    rw [List.map_cons, List.nodup_cons] at distinct
    obtain ⟨new, distinct⟩ := distinct
    obtain ⟨bump, signingBump, first⟩ := process_approval finds hconfig hsession hash type valid
      (domain item List.mem_cons_self) (passes item List.mem_cons_self)
      (fresh item List.mem_cons_self)
    obtain ⟨s', rest, approved, frame⟩ := ih
      (s := s.approve env item.leaf.message bump signingBump) hconfig hsession
      (fun i mem => domain i (List.mem_cons_of_mem _ mem))
      (fun i mem => passes i (List.mem_cons_of_mem _ mem)) distinct (by
        intro i mem
        rw [incoming_approve_of_ne]
        · exact fresh i (List.mem_cons_of_mem _ mem)
        · intro same
          exact new (same ▸ List.mem_map_of_mem mem))
    refine ⟨s', Executes.cons first rest, ?_, ?_⟩
    · intro i mem
      rcases List.mem_cons.mp mem with rfl | later
      -- the later approvals have other command ids, so this record stays
      · have kept := frame _ new
        exact ⟨_, kept.trans (Function.update_self _ _ _), rfl, rfl, rfl⟩
      · exact approved i later
    · intro commandId absent
      rw [List.map_cons, List.mem_cons, not_or] at absent
      rw [frame commandId absent.2]
      exact incoming_approve_of_ne absent.1

end

/-! ## Encoder and gateway -/

section

variable {env : Env} {prover : Prover} {depth : Nat → Nat} {d root : Bytes32}
  {vs : VerifierSet} {payload : Payload} {ed : ExecuteData}
  {signersWithSignatures : PublicKey → Option EcdsaRecoverableSignature}

/-- **A quorum of valid signatures** among the entries of execute data. -/
structure ValidSignatures (env : Crates) (vs : VerifierSet) (ed : ExecuteData) : Prop where
  nonempty : ed.signingVerifierSetLeaves ≠ []
  signed : ∀ info ∈ ed.signingVerifierSetLeaves,
    SignedBy env info.leaf info.payloadType ed.payloadMerkleRoot info.signature
  quorum : vs.quorum.toNat ≤ (ed.signingVerifierSetLeaves.map leafWeight).sum

/-- The session that execute data are submitted to. -/
def sessionOf (payload : Payload) (ed : ExecuteData) : SessionKey :=
  ⟨ed.payloadMerkleRoot, payload.payloadType, ed.signingVerifierSetMerkleRoot⟩

/-- **The root a rotation to a set installs**: the payload root of every rotation to the set that is
encoded for the domain, and the hash that `rotate_signers` stores for that root. -/
def InstalledByRotation (env : Env) (vs : VerifierSet) (d root : Bytes32) : Prop :=
  (∀ prover signing signatures ed,
    executeData env.toCrates prover signing signatures d (.newVerifierSet vs) = .ok ed →
      ed.payloadMerkleRoot = root ∧ ed.payloadItems = .verifierSetRotation root) ∧
  ∀ sysvar accounts s s', rotateSigners env sysvar accounts root s = .ok s' →
    ∃ tracker, s'.trackers root = some tracker ∧ tracker.verifierSetHash = root

/-- The hash of a set is the root a rotation to it installs. -/
theorem installedByRotation (hash : verifierSetHash env.toCrates vs d = .ok root) :
    InstalledByRotation env vs d root := by
  constructor
  · intro prover signing signatures ed built
    obtain ⟨-, payloadRoot, -, items⟩ := executeData_eq_ok.mp built
    have rotated := hashPayload_newVerifierSet_eq_ok.mp payloadRoot
    rw [hash, Except.ok.injEq] at rotated
    rw [items, ← rotated]
    exact ⟨rfl, rfl⟩
  · intro sysvar accounts s s' h
    obtain ⟨config, session, tracker, time, epoch, bump, -, -, -, -, -, -, -, -, -, -, -, -, -,
      rfl⟩ := rotateSigners_ok h
    exact ⟨_, Function.update_self _ _ _, rfl⟩

/-- The entries with valid signatures are accepted. -/
theorem signatureAccepted_of_mem (rs : RsMerkle env.toCrates depth)
    (rp : RsMerkleProver env.toCrates prover depth)
    (built : executeData env.toCrates prover vs signersWithSignatures d payload = .ok ed)
    (slots : vs.signers.length ≤ 256) (valid : ValidSignatures env.toCrates vs ed)
    {info : SigningVerifierSetInfo} (mem : info ∈ ed.signingVerifierSetLeaves) :
    SignatureAccepted env.toCrates ed.payloadMerkleRoot ed.signingVerifierSetMerkleRoot info := by
  obtain ⟨signing, -, entries, -⟩ := executeData_eq_ok.mp built
  have submitted := mem
  rw [entries] at submitted
  refine ⟨?_, passes_of_mem_entries rs rp signing submitted, valid.signed info mem⟩
  obtain ⟨i, signer, signature, hi, -, rfl⟩ := VerifierSet.mem_entries.mp submitted
  obtain ⟨inside, -⟩ := List.getElem?_eq_some_iff.mp hi
  show (UInt16.ofNat i).toNat < 256
  rw [toNat_ofNat_u16 (by omega)]
  omega

/-- **Submitting the entries in any order makes the session valid.** -/
theorem executes_entries (rs : RsMerkle env.toCrates depth)
    (rp : RsMerkleProver env.toCrates prover depth)
    (built : executeData env.toCrates prover vs signersWithSignatures d payload = .ok ed)
    (slots : vs.signers.length ≤ 256) (valid : ValidSignatures env.toCrates vs ed)
    {s : GatewayState} (installed : Installed s d ed.signingVerifierSetMerkleRoot) {bump : UInt8}
    (hsession : s.sessions (sessionOf payload ed) =
      some (emptySession ed.signingVerifierSetMerkleRoot bump))
    {order : List SigningVerifierSetInfo} (perm : order.Perm ed.signingVerifierSetLeaves) :
    ∃ session : SignatureVerificationSessionData,
      Executes env (order.map (submission (sessionOf payload ed))) s
        (s.setSession (sessionOf payload ed) session) ∧
      session.signatureVerification.signingVerifierSetHash = ed.signingVerifierSetMerkleRoot ∧
      session.isValid = true := by
  obtain ⟨-, -, entries, -⟩ := executeData_eq_ok.mp built
  -- the entries of the encoder have distinct positions, in any order
  have distinct : (order.map leafPosition).Nodup := by
    rw [(perm.map leafPosition).nodup_iff, entries]
    exact nodup_map_leafPosition_entries (by omega)
  have member (info : SigningVerifierSetInfo) (mem : info ∈ order) :
      info ∈ ed.signingVerifierSetLeaves := perm.mem_iff.mp mem
  have entry (info : SigningVerifierSetInfo) (mem : info ∈ order) :
      info.payloadType = payload.payloadType ∧ info.leaf.domainSeparator = d ∧
        info.leaf.quorum = vs.quorum := by
    have submitted := member info mem
    rw [entries] at submitted
    obtain ⟨i, signer, signature, -, -, rfl⟩ := VerifierSet.mem_entries.mp submitted
    exact ⟨rfl, rfl, rfl⟩
  refine ⟨⟨replay ed.signingVerifierSetMerkleRoot ([] ++ order), bump⟩, ?_,
    replay_signingVerifierSetHash _ _, ?_⟩
  · exact executes_submissions installed hsession distinct (fun info mem => (entry info mem).1)
      (fun info mem => (entry info mem).2.1)
      (fun info mem => signatureAccepted_of_mem rs rp built slots valid (member info mem))
  · -- the replay of a permutation has the weights of the entries
    have weights : (order.map leafWeight).sum = (ed.signingVerifierSetLeaves.map leafWeight).sum :=
      (perm.map leafWeight).sum_eq
    refine decide_eq_true ((threshold_replay_eq_max_iff _
      (fun info mem => (entry info mem).2.2)).mpr ⟨?_, ?_⟩)
    · intro none'
      have empty : order = [] := none'
      rw [empty] at perm
      exact valid.nonempty perm.nil_eq.symm
    · show vs.quorum.toNat ≤ (order.map leafWeight).sum
      rw [weights]
      exact valid.quorum

/-- **The encoder and the gateway agree.** The encoder never panics, and succeeds exactly for 1 to
65535 signers and messages, or signers of a new set. The execute data it writes have one entry for
each signer with a signature and every message in order, each with a proof that passes the
gateway's check under the root it belongs to; the signing root is the one a rotation to the set
installs. For sets of at most 256 signers with a quorum of valid signatures, the entries
submitted in any order to a fresh session make it valid, and every message can then be
approved. -/
theorem encoder_agreement (rs : RsMerkle env.toCrates depth)
    (rp : RsMerkleProver env.toCrates prover depth) (finds : FindsAddresses env) (layout : Layout)
    (vs : VerifierSet) (signersWithSignatures : PublicKey → Option EcdsaRecoverableSignature)
    (d : Bytes32) (payload : Payload) :
    encode env.toCrates prover layout vs signersWithSignatures d payload ≠ .error .panic ∧
    (payload.ShortStrings →
      ((∃ b, encode env.toCrates prover layout vs signersWithSignatures d payload = .ok b) ↔
        (1 ≤ vs.signers.length ∧ vs.signers.length ≤ 65535) ∧
          1 ≤ payload.size ∧ payload.size ≤ 65535)) ∧
    ∀ b, encode env.toCrates prover layout vs signersWithSignatures d payload = .ok b →
      ∃ ed, ExecuteData.codec.decodeAll b = some ed ∧
        Agrees env.toCrates prover vs signersWithSignatures d payload ed ∧
        InstalledByRotation env vs d ed.signingVerifierSetMerkleRoot ∧
        (vs.signers.length ≤ 256 → ValidSignatures env.toCrates vs ed →
          ∀ s, Installed s d ed.signingVerifierSetMerkleRoot →
            (s.sessions (sessionOf payload ed) = none →
              ∃ bump, Executes env [opening (sessionOf payload ed)] s
                (s.setSession (sessionOf payload ed)
                  (emptySession ed.signingVerifierSetMerkleRoot bump))) ∧
            ∀ bump (order : List SigningVerifierSetInfo),
              s.sessions (sessionOf payload ed) =
                some (emptySession ed.signingVerifierSetMerkleRoot bump) →
              order.Perm ed.signingVerifierSetLeaves →
              ∃ s₁ session, Executes env (order.map (submission (sessionOf payload ed))) s s₁ ∧
                s₁.sessions (sessionOf payload ed) = some session ∧ session.isValid = true ∧
                ∀ items (approved : List MerklizedMessage), ed.payloadItems = .newMessages items →
                  approved ⊆ items →
                  (approved.map fun item => item.leaf.message.commandId env.toCrates).Nodup →
                  (∀ item ∈ approved,
                    s.incoming (item.leaf.message.commandId env.toCrates) = none) →
                  ∃ s₂, Executes env (approved.map (approval env (sessionOf payload ed))) s₁ s₂ ∧
                    ∀ item ∈ approved, Approved env s₂ item.leaf.message) := by
  refine ⟨encode_ne_panic rs rp layout, encode_isOk_iff rs rp layout, ?_⟩
  intro b written
  obtain ⟨ed, read, built⟩ := decodeAll_of_encode rs rp written
  have agrees := agrees_of_executeData rs rp built
  refine ⟨ed, read, agrees, installedByRotation agrees.signingRoot, ?_⟩
  intro slots valid s installed
  refine ⟨executes_opening finds installed, ?_⟩
  intro bump order hsession perm
  obtain ⟨session, submitted, hash, complete⟩ :=
    executes_entries rs rp built slots valid installed hsession perm
  refine ⟨_, session, submitted, Function.update_self _ _ _, complete, ?_⟩
  intro items approved shape included distinct fresh
  obtain ⟨config, tracker, hconfig, separator, -⟩ := installed
  -- only a batch of messages has items
  cases payload with
  | newVerifierSet w =>
    obtain ⟨rotation, -⟩ := agrees.rotation w rfl
    rw [rotation] at shape
    cases shape
  | messages ms =>
    obtain ⟨items', shape', leaves, -⟩ := agrees.messages ms rfl
    rw [shape, MerklizedPayload.newMessages.injEq] at shape'
    subst shape'
    have domain : ∀ item ∈ approved, item.leaf.domainSeparator = config.domainSeparator := by
      intro item mem
      have leaf : item.leaf ∈ ms.leaves d := leaves ▸ List.mem_map_of_mem (included mem)
      obtain ⟨i, message, -, same⟩ := Messages.mem_leaves.mp leaf
      rw [same, separator]
      rfl
    have stored : (s.setSession (sessionOf (.messages ms) ed) session).sessions
        (sessionOf (.messages ms) ed) = some session := Function.update_self _ _ _
    have configured : (s.setSession (sessionOf (.messages ms) ed) session).config = some config :=
      hconfig
    obtain ⟨s₂, executed, records, -⟩ := executes_approvals finds configured stored hash rfl
      complete domain
      (fun item mem => agrees.messagesPass items shape item (included mem)) distinct fresh
    exact ⟨s₂, executed, records⟩

end

/-! ## A concrete exchange -/

/-- The gateway over the concrete instance of the crates. -/
def sampleGateway : Env where
  toCrates := sampleCrates
  gatewayId := List.Vector.replicate 32 1

/-- Two messages to approve. -/
def sampleBatch : Payload :=
  .messages ⟨[sampleCrossChainMessage,
    { sampleCrossChainMessage with ccId := ⟨"ethereum", "0x02-0"⟩ }]⟩

/-- The root of the two messages. -/
def samplePayloadRoot : Bytes32 :=
  (hashPayload sampleCrates sampleProver sampleDomainSeparator sampleBatch).toOption.getD
    sampleDomainSeparator

/-- A signature over the root: the digest followed by the key. -/
def sampleSignatureBy (key : PublicKey) : EcdsaRecoverableSignature :=
  ⟨(prefixedMessageHashPayloadType sampleCrates .approveMessages samplePayloadRoot).toList ++
    key.toList.tail ++ [0], by simp⟩

/-- The first and the last of the three signers sign. -/
def sampleSignatures (key : PublicKey) : Option EcdsaRecoverableSignature :=
  if key = List.Vector.replicate 33 3 then none else some (sampleSignatureBy key)

/-- The sizes of the encoder's types on the target. -/
def sampleLayout : Layout := ⟨128, 216, 272, by decide⟩

/-- A gateway that the three signers sign for. -/
def sampleInstalled : GatewayState where
  config := some
    { currentEpoch := 1
      previousVerifierSetRetention := 2
      minimumRotationDelay := 0
      lastRotationTimestamp := 0
      operator := List.Vector.replicate 32 3
      domainSeparator := sampleDomainSeparator
      bump := 255 }
  trackers := fun _ => some ⟨255, 1, sampleSetRoot⟩
  sessions := fun _ => none
  incoming := fun _ => none
  events := []

/-- The entries that the signers and signatures determine. -/
def sampleEntries : List (VerifierSetLeaf × EcdsaRecoverableSignature) :=
  (sampleVerifierSet.leaves sampleDomainSeparator).filterMap fun leaf =>
    (sampleSignatures leaf.signerPubkey).map fun signature => (leaf, signature)

/-- In the sample environment the first bump always leads to an address. -/
theorem sampleGateway_findsAddresses : FindsAddresses sampleGateway :=
  fun _ _ _ => ⟨_, rfl⟩

/-- The signatures of the sample are valid and reach the quorum. -/
theorem sampleValidSignatures {ed : ExecuteData}
    (agrees : Agrees sampleCrates sampleProver sampleVerifierSet sampleSignatures
      sampleDomainSeparator sampleBatch ed) : ValidSignatures sampleCrates sampleVerifierSet ed := by
  have payloadRoot : hashPayload sampleCrates sampleProver sampleDomainSeparator sampleBatch =
      .ok samplePayloadRoot := by decide +kernel
  have root : ed.payloadMerkleRoot = samplePayloadRoot := by
    have same := agrees.payloadRoot.symm.trans payloadRoot
    exact Except.ok.inj same
  have entries : ed.signingVerifierSetLeaves.map (fun info => (info.leaf, info.signature)) =
      sampleEntries := agrees.entries
  refine ⟨?_, ?_, ?_⟩
  · intro none'
    rw [none'] at entries
    exact absurd entries (by decide +kernel)
  · intro info mem
    rw [agrees.payloadType info mem, root]
    have entry : (info.leaf, info.signature) ∈ sampleEntries :=
      entries ▸ List.mem_map_of_mem (f := fun info => (info.leaf, info.signature)) mem
    have all : (sampleEntries.all fun entry => decide
        ((SignatureVerificationSessionData.verifyEcdsaSignature sampleCrates entry.1.signerPubkey
          entry.2 .approveMessages samplePayloadRoot).toOption = some true)) = true := by
      decide +kernel
    exact toOption_eq_some.mp (of_decide_eq_true (List.all_eq_true.mp all _ entry))
  · have weights : ed.signingVerifierSetLeaves.map leafWeight =
        sampleEntries.map fun entry => entry.1.signerWeight.toNat := by
      rw [← entries, List.map_map]
      rfl
    rw [weights]
    decide +kernel

/-- Two of three signers' entries are submitted last first to a session opened for them, and both
messages are then approved. -/
theorem encoder_agreement_sample :
    ∃ b ed items s₀ s₁ s₂ session,
      encode sampleCrates sampleProver sampleLayout sampleVerifierSet sampleSignatures
        sampleDomainSeparator sampleBatch = .ok b ∧
      ExecuteData.codec.decodeAll b = some ed ∧ ed.payloadItems = .newMessages items ∧
      Executes sampleGateway [opening (sessionOf sampleBatch ed)] sampleInstalled s₀ ∧
      Executes sampleGateway (ed.signingVerifierSetLeaves.reverse.map
        (submission (sessionOf sampleBatch ed))) s₀ s₁ ∧
      s₁.sessions (sessionOf sampleBatch ed) = some session ∧ session.isValid = true ∧
      Executes sampleGateway (items.map (approval sampleGateway (sessionOf sampleBatch ed))) s₁
        s₂ ∧
      ∀ item ∈ items, Approved sampleGateway s₂ item.leaf.message := by
  obtain ⟨-, succeeds, agree⟩ := @encoder_agreement sampleGateway sampleProver sampleDepth
    sampleCrates_rsMerkle sampleCrates_rsMerkleProver sampleGateway_findsAddresses sampleLayout
    sampleVerifierSet sampleSignatures sampleDomainSeparator sampleBatch
  obtain ⟨b, written⟩ := (succeeds (by
    intro m mem
    rcases List.mem_cons.mp mem with rfl | mem
    · decide
    · rw [List.mem_singleton] at mem
      subst mem
      decide)).mpr (by decide)
  obtain ⟨ed, read, agrees, -, live⟩ := agree b written
  obtain ⟨items, shape, leaves, -⟩ := agrees.messages _ rfl
  have hash : verifierSetHash sampleCrates sampleVerifierSet sampleDomainSeparator =
      .ok sampleSetRoot := by decide +kernel
  have root : ed.signingVerifierSetMerkleRoot = sampleSetRoot :=
    Except.ok.inj (agrees.signingRoot.symm.trans hash)
  have installed : Installed sampleInstalled sampleDomainSeparator
      ed.signingVerifierSetMerkleRoot := by
    rw [root]
    exact ⟨_, _, rfl, rfl, rfl, rfl, by decide⟩
  have valid := sampleValidSignatures agrees
  obtain ⟨bump, opened⟩ := (live (by decide) valid _ installed).1 rfl
  obtain ⟨s₁, session, submitted, stored, complete, approve⟩ :=
    (live (by decide) valid _ (installed_setSession installed)).2 bump
      ed.signingVerifierSetLeaves.reverse (Function.update_self _ _ _) (List.reverse_perm _)
  have commandIds : (items.map fun item => item.leaf.message.commandId sampleCrates) =
      ((Messages.mk [sampleCrossChainMessage,
        { sampleCrossChainMessage with ccId := ⟨"ethereum", "0x02-0"⟩ }]).leaves
          sampleDomainSeparator).map fun leaf => leaf.message.commandId sampleCrates := by
    rw [← leaves, List.map_map]
    rfl
  obtain ⟨s₂, approved, records⟩ := approve items items shape (fun _ mem => mem) (by
    show (items.map fun item => item.leaf.message.commandId sampleCrates).Nodup
    rw [commandIds]
    decide +kernel) (fun _ _ => rfl)
  exact ⟨b, ed, items, _, s₁, s₂, session, written, read, shape, opened, submitted, stored,
    complete, approved, records⟩

end AxelarSolana.Gateway
