import AxelarSolana.Its.TrustedChains
import AxelarSolana.Library.Sized
import AxelarSolana.Library.Utf8
import Mathlib.Algebra.Order.BigOperators.Group.List

/-! # The size of the root account

The root account is the one whose length changes: it is reallocated before a handler runs, to a size
computed from the old data and the argument, and written back after it.

* **`InterchainTokenService.encode_length`** — `space` counts the bytes that are written.
* **`RootFits`** — the invariant of the account; **`step_rootFits`** keeps it.
* **`reread`** — what is read back from the account.
* **`root_account_fits`** — over every run the data fits, and writing it back never fails. -/

namespace AxelarSolana.Its

open Fallible Machine

variable {env : Env} {ctx : Ctx} {s s' : World} {root : InterchainTokenService} {dataLen : Nat}
  {chainName : String}

/-! ## Space -/

namespace InterchainTokenService

/-- **`space` is the length of the serialised account**, with its discriminator. -/
theorem encode_length {bytes : Bytes} (h : codec.encode root = some bytes) :
    discriminatorLength + bytes.length = root.space := by
  have length : bytes.length = 4 + root.itsHubAddress.utf8ByteSize
      + (4 + root.chainName.utf8ByteSize
        + (1 + (4 + (root.trustedChains.map fun chain => 4 + chain.utf8ByteSize).sum + 1))) :=
    (Codec.sized_string.pair (Codec.sized_string.pair (Codec.sized_bool.pair
      (Codec.sized_string.vec.pair Codec.sized_byte)))).refine root bytes h
  rw [length, space, spaceFor]
  omega

/-- The data has a serialisation when every length has one. -/
theorem isSome_encode_iff :
    (codec.encode root).isSome ↔ root.itsHubAddress.utf8ByteSize < 256 ^ 4 ∧
      root.chainName.utf8ByteSize < 256 ^ 4 ∧ root.trustedChains.length < 256 ^ 4 ∧
        ∀ chain ∈ root.trustedChains, chain.utf8ByteSize < 256 ^ 4 := by
  simp only [codec, Codec.isSome_refine, Codec.isSome_pair, Codec.isSome_vec, Codec.isSome_string,
    Utf8.length_utf8, Codec.bool, Codec.byte_encode, Option.isSome_some, and_true, true_and]

/-- What fits in an account of less than 4 GiB has a serialisation. -/
theorem isSome_encode (small : root.space < 256 ^ 4) : (codec.encode root).isSome := by
  have each : ∀ chain ∈ root.trustedChains, 4 + chain.utf8ByteSize
      ≤ (root.trustedChains.map fun chain => 4 + chain.utf8ByteSize).sum := by
    intro chain mem
    exact List.single_le_sum (fun _ _ => Nat.zero_le _) _ (List.mem_map_of_mem mem)
  have count : root.trustedChains.length
      ≤ (root.trustedChains.map fun chain => 4 + chain.utf8ByteSize).sum := by
    rw [← List.length_map fun chain : String => 4 + chain.utf8ByteSize]
    refine List.length_le_sum_of_one_le _ fun n mem => ?_
    obtain ⟨chain, -, rfl⟩ := List.mem_map.mp mem
    omega
  rw [space, spaceFor] at small
  refine isSome_encode_iff.mpr ⟨by omega, by omega, by omega, fun chain mem => ?_⟩
  have short := each chain mem
  omega

/-- An account is written back exactly when its data has a serialisation, and it fits. -/
theorem trySerialize_eq_ok :
    root.trySerialize dataLen = .ok () ↔ (codec.encode root).isSome ∧ root.space ≤ dataLen := by
  simp only [trySerialize, bind_eq_ok, okOr_eq_ok, require_eq_ok]
  constructor
  · rintro ⟨bytes, encoded, fits⟩
    rw [encode_length encoded] at fits
    exact ⟨Option.isSome_iff_exists.mpr ⟨bytes, encoded⟩, fits⟩
  · rintro ⟨encoded, fits⟩
    obtain ⟨bytes, encoded⟩ := Option.isSome_iff_exists.mp encoded
    refine ⟨bytes, encoded, ?_⟩
    rw [encode_length encoded]
    exact fits

/-- Adding a chain takes at most the space that was reserved for it. -/
theorem space_addTrustedChain :
    (root.addTrustedChain chainName).space ≤ root.spaceWithChainAdded chainName := by
  unfold addTrustedChain spaceWithChainAdded
  split
  · simp only [space, spaceFor, List.map_append, List.sum_append, List.map_singleton,
      List.sum_singleton]
    omega
  · omega

/-- Without duplicates one entry is removed, and the subtraction does not saturate. -/
theorem space_removeTrustedChain (nodup : root.trustedChains.Nodup)
    (present : root.isTrustedChain chainName = true) :
    (root.removeTrustedChain chainName).space = root.spaceWithChainRemoved chainName := by
  have erased : (root.removeTrustedChain chainName).trustedChains
      = root.trustedChains.erase chainName := by
    rw [nodup.erase_eq_filter]
    exact List.filter_congr fun chain _ => Bool.eq_iff_iff.mpr (by simp)
  have entry : (root.trustedChains.map fun chain => 4 + chain.utf8ByteSize).sum
      = 4 + chainName.utf8ByteSize
        + ((root.trustedChains.erase chainName).map fun chain => 4 + chain.utf8ByteSize).sum :=
    (List.sum_map_erase _ (isTrustedChain_iff.mp present)).symm
  rw [spaceWithChainRemoved, space, space, erased, entry, spaceFor, spaceFor]
  simp only [removeTrustedChain]
  omega

/-- **What is read back** from an account of a length once the data is written over what was
there. -/
def reread (root : InterchainTokenService) (dataLen : Nat) (old : Bytes) :
    Option InterchainTokenService := do
  let bytes ← codec.encode root
  let data := (bytes ++ old.drop bytes.length).take (dataLen - discriminatorLength)
  let (root, _) ← codec.decode data
  pure root

end InterchainTokenService

/-! ## The invariant -/

/-- **The root account fits** in its allocated length. -/
structure RootFits (rootLen : Nat) (root : InterchainTokenService) : Prop where
  serialises : ∃ bytes, InterchainTokenService.codec.encode root = some bytes ∧
    discriminatorLength + bytes.length = root.space
  fits : root.space ≤ rootLen
  nodup : root.trustedChains.Nodup
  noHub : itsHubChainName ∉ root.trustedChains

/-- A root account that was serialised without an error fits. -/
theorem RootFits.of_trySerialize (written : root.trySerialize dataLen = .ok ())
    (nodup : root.trustedChains.Nodup) (noHub : itsHubChainName ∉ root.trustedChains) :
    RootFits dataLen root := by
  obtain ⟨encoded, fits⟩ := InterchainTokenService.trySerialize_eq_ok.mp written
  obtain ⟨bytes, encoded⟩ := Option.isSome_iff_exists.mp encoded
  exact ⟨⟨bytes, encoded, InterchainTokenService.encode_length encoded⟩, fits, nodup, noHub⟩

/-- A root account that fits has an encoding. -/
theorem RootFits.isSome_encode (h : RootFits dataLen root) :
    (InterchainTokenService.codec.encode root).isSome := by
  obtain ⟨bytes, encoded, -⟩ := h.serialises
  exact Option.isSome_iff_exists.mpr ⟨bytes, encoded⟩

/-- **Nothing is truncated.** -/
theorem RootFits.reread (h : RootFits dataLen root) (old : Bytes) :
    root.reread dataLen old = some root := by
  obtain ⟨bytes, encoded, length⟩ := h.serialises
  have whole : bytes.length ≤ dataLen - discriminatorLength := by
    have fits := h.fits
    omega
  rw [InterchainTokenService.reread, encoded]
  simp only [Option.bind_eq_bind, Option.bind_some, List.take_append, List.take_of_length_le whole,
    InterchainTokenService.codec.decode_append encoded]
  rfl

/-- The trusted chains of an account stay as the invariant asks when one is added. -/
theorem RootFits.add (h : RootFits dataLen root) :
    (root.addTrustedChain chainName).trustedChains.Nodup ∧
      itsHubChainName ∉ (root.addTrustedChain chainName).trustedChains := by
  unfold InterchainTokenService.addTrustedChain
  split
  · next new =>
    refine ⟨h.nodup.append (List.nodup_singleton _) ?_, ?_⟩
    · rw [List.disjoint_singleton]
      exact new.1
    · rw [List.mem_append, List.mem_singleton]
      rintro (mem | same)
      · exact h.noHub mem
      · exact new.2 same.symm
  · exact ⟨h.nodup, h.noHub⟩

/-- The same when one is removed. -/
theorem RootFits.remove (h : RootFits dataLen root) :
    (root.removeTrustedChain chainName).trustedChains.Nodup ∧
      itsHubChainName ∉ (root.removeTrustedChain chainName).trustedChains :=
  ⟨h.nodup.filter _, fun mem => h.noHub (List.mem_of_mem_filter mem)⟩

/-! ## Who writes the root account -/

/-- **The root account is written back** to an account of a length. -/
structure Rewrites (s' : World) (root : InterchainTokenService) (dataLen : Nat) : Prop where
  stored : s'.accounts.root = some root
  allocated : s'.accounts.rootLen = dataLen
  written : root.trySerialize dataLen = .ok ()

/-- `initialize` writes the new root account, in the space of its two names. -/
theorem initializeService_rewrites {a : Initialize} {itsHubAddress : String}
    (h : initializeService env ctx a chainName itsHubAddress s = .ok s') :
    ∃ bump, Rewrites s' (.new bump chainName itsHubAddress)
      (InterchainTokenService.spaceFor itsHubAddress.utf8ByteSize chainName.utf8ByteSize 0) := by
  simp only [initializeService, bind_eq_ok, pure_eq_ok] at h
  obtain ⟨_, -, _, -, bump, -, rolesBump, -, _, -, _, written, rfl⟩ := h
  exact ⟨bump, rfl, rfl, written⟩

/-- `set_pause_status` writes the root account back, in its own space. -/
theorem setPauseStatus_rewrites {a : SetPauseStatus} {paused : Bool}
    (h : setPauseStatus env ctx a paused s = .ok s') :
    ∃ root, s.accounts.root = some root ∧
      Rewrites s' { root with paused } s.accounts.rootLen := by
  simp only [setPauseStatus, bind_eq_ok, require_eq_ok, pure_eq_ok, itsRootPda_eq_ok] at h
  obtain ⟨_, -, _, -, root, ⟨stored, -⟩, _, -, _, written, rfl⟩ := h
  exact ⟨root, stored, rfl, rfl, written⟩

/-- `set_trusted_chain` writes the root account back, in the space with the chain added. -/
theorem setTrustedChain_rewrites {a : SetTrustedChain}
    (h : setTrustedChain env ctx a chainName s = .ok s') :
    ∃ root, s.accounts.root = some root ∧
      Rewrites s' (root.addTrustedChain chainName) (root.spaceWithChainAdded chainName) := by
  simp only [setTrustedChain, bind_eq_ok, require_eq_ok, pure_eq_ok, itsRootPda_eq_ok] at h
  obtain ⟨_, -, root, ⟨stored, -⟩, _, -, _, written, rfl⟩ := h
  exact ⟨root, stored, rfl, rfl, written⟩

/-- `remove_trusted_chain` writes the root account back, in the space with the chain removed. -/
theorem removeTrustedChain_rewrites {a : RemoveTrustedChain}
    (h : removeTrustedChain env ctx a chainName s = .ok s') :
    ∃ root, s.accounts.root = some root ∧ root.isTrustedChain chainName = true ∧
      Rewrites s' (root.removeTrustedChain chainName) (root.spaceWithChainRemoved chainName) := by
  simp only [removeTrustedChain, bind_eq_ok, require_eq_ok, pure_eq_ok, itsRootPda_eq_ok] at h
  obtain ⟨_, -, root, ⟨stored, -⟩, _, present, _, written, rfl⟩ := h
  exact ⟨root, stored, present, rfl, rfl, written⟩

/-- **A call that removes a trusted chain** writes the root account back without it. -/
theorem step_removes {call : Call env} (h : step env call s = .ok s')
    (removes : call.distrusts? = some chainName) :
    ∃ root, s.accounts.root = some root ∧ root.isTrustedChain chainName = true ∧
      Rewrites s' (root.removeTrustedChain chainName) (root.spaceWithChainRemoved chainName) := by
  unfold Call.distrusts? at removes
  split at removes
  · cases removes
    exact removeTrustedChain_rewrites h
  · cases removes

/-- The instructions that write the root account. -/
def ItsInstruction.writesRoot : ItsInstruction → Bool
  | .initializeService .. | .setPauseStatus .. | .setTrustedChain .. | .removeTrustedChain .. =>
    true
  | _ => false

/-- Two states of the accounts with one root account. -/
def Accounts.SameRoot (accounts accounts' : Accounts) : Prop :=
  accounts'.root = accounts.root ∧ accounts'.rootLen = accounts.rootLen

/-- Registering a manager leaves the root account and its length. -/
theorem Registered.sameRoot {key : Pubkey} {tokenManager : TokenManager} {l : List LogEvent}
    (h : Registered env key tokenManager l s s') : s.accounts.SameRoot s'.accounts := by
  obtain ⟨accounts, granted, written⟩ := h.accounts
  rw [written]
  cases granted <;> exact ⟨rfl, rfl⟩

/-- A message of the hub leaves the root account and its length. -/
theorem Received.sameRoot {sysvar : Sysvar} {outer : Execute} {message : Message}
    {sourceChain : String} {inner : Encoding.Message} {i : ItsInstruction} {l : List LogEvent}
    (h : Received env sysvar outer message sourceChain s inner i l s') :
    s.accounts.SameRoot s'.accounts := by
  cases h with
  | transfer a transfer destination transferred tokenManager tracked mint instruction before after
      called s' manager parsed signers inbound calls accounts =>
    rw [accounts]
    exact ⟨rfl, rfl⟩
  | deploy a deploy bump rolesBump after s' inbound registered => exact registered.sameRoot
  | link a link destinationTokenAddress ty bump rolesBump s' parsed inbound registered =>
    exact registered.sameRoot

/-- **Every other instruction leaves the root account alone.** -/
theorem Effect.sameRoot {sysvar : Sysvar} {i : ItsInstruction} {l : List LogEvent}
    (h : Effect env sysvar s i l s') (other : i.writesRoot = false) :
    s.accounts.SameRoot s'.accounts := by
  cases h with
  | initialises => cases other
  | pauses => cases other
  | trusts => cases other
  | distrusts => cases other
  | limits i key tokenManager flowLimit s' names stored accounts =>
    rw [accounts]
    exact ⟨rfl, rfl⟩
  | movesRootRole a t root origin destination s' names loaded moved =>
    rw [moved.accounts]
    exact ⟨rfl, rfl⟩
  | movesRole i role resource t tokenManager origin destination s' names stored moved =>
    rw [moved.accounts]
    exact ⟨rfl, rfl⟩
  | addsFlowLimiter a tokenManager authority target s' signed loaded operator stored received
      accounts =>
    rw [accounts]
    exact ⟨rfl, rfl⟩
  | removesFlowLimiter a tokenManager target s' stored loaded accounts =>
    rw [accounts]
    exact ⟨rfl, rfl⟩
  | handsOver a tokenId mint tokenManager minter s' handed =>
    rw [handed.accounts]
    exact ⟨rfl, rfl⟩
  | sends i message s' outbound noTransfer remote accounts =>
    rw [accounts]
    exact ⟨rfl, rfl⟩
  | registers i key tokenManager granted s' existing registered => exact registered.sameRoot
  | deploys a salt name symbol decimals initialSupply tokenManager granted t₁ t₂ t₃ s' native address
      deployed registered => exact registered.sameRoot
  | transfers a tokenId destinationChain destinationAddress amount gasValue reported
      callerProgramId callerPdaSeeds data tokenManager tracked mint instruction sourceAddress after
      s' outbound accounts =>
    rw [accounts]
    exact ⟨rfl, rfl⟩
  | mints a amount tokenManager after s' stored address called accounts =>
    rw [accounts]
    exact ⟨rfl, rfl⟩

/-! ## Every call keeps the invariant -/

/-- The root account fits, when there is one. -/
def World.RootFits (s : World) : Prop :=
  ∀ root, s.accounts.root = some root → Its.RootFits s.accounts.rootLen root

/-- Whether the root fits depends on the account and its length only. -/
theorem World.RootFits.congr (h : s.RootFits) (same : s.accounts.SameRoot s'.accounts) :
    s'.RootFits := by
  intro root stored
  rw [same.2]
  exact h root (same.1.symm.trans stored)

/-- A root account that was written back fits, when its chains are in order. -/
theorem Rewrites.rootFits (h : Rewrites s' root dataLen) (nodup : root.trustedChains.Nodup)
    (noHub : itsHubChainName ∉ root.trustedChains) : s'.RootFits := by
  intro root' stored
  cases h.stored.symm.trans stored
  rw [h.allocated]
  exact .of_trySerialize h.written nodup noHub

/-- **Every call keeps the root account fitting.** -/
theorem step_rootFits {call : Call env} (h : step env call s = .ok s') (fits : s.RootFits) :
    s'.RootFits := by
  have cases := step_cases h
  cases call with
  | external call outside =>
    cases cases with
    | external call outside chain run => exact fits
  | instruction sysvar i outside =>
    have processed : process env ⟨sysvar, .external, i⟩ i s = .ok s' := h
    cases cases with
    | execute sysvar a message payload outside sourceChain inner gateway i l s' accepts received
        performs => exact fits.congr received.sameRoot
    | own sysvar i outside l s' notInner notExecute effect performs =>
      cases writes : i.writesRoot with
      | false => exact fits.congr (effect.sameRoot writes)
      | true =>
        cases i with
        | initializeService a chainName itsHubAddress =>
          obtain ⟨bump, rewrites⟩ := initializeService_rewrites processed
          exact rewrites.rootFits List.nodup_nil List.not_mem_nil
        | setPauseStatus a paused =>
          obtain ⟨root, stored, rewrites⟩ := setPauseStatus_rewrites processed
          exact rewrites.rootFits (fits root stored).nodup (fits root stored).noHub
        | setTrustedChain a chainName =>
          obtain ⟨root, stored, rewrites⟩ := setTrustedChain_rewrites processed
          exact rewrites.rootFits (fits root stored).add.1 (fits root stored).add.2
        | removeTrustedChain a chainName =>
          obtain ⟨root, stored, -, rewrites⟩ := removeTrustedChain_rewrites processed
          exact rewrites.rootFits (fits root stored).remove.1 (fits root stored).remove.2
        | _ => cases writes

/-- **The root account fits in every state that is reached.** -/
theorem rootFits_run (env : Env) (owner : Pubkey → Pubkey) (gas : GasService.GasState)
    (calls : List (Call env)) : (run (step env) (World.initial owner gas) calls).RootFits := by
  refine run_invariant (P := World.RootFits) ?_ (fun _ _ _ fits h => step_rootFits h fits) calls
  intro root stored
  cases stored

/-! ## Writing the account back never fails -/

/-- The runtime's `MAX_PERMITTED_DATA_LENGTH`. -/
def maxPermittedDataLength : Nat := 10 * 1024 * 1024

/-- An account within the runtime's limit is written back. -/
theorem trySerialize_of_space {size : Nat} (fits : root.space ≤ size) (small : size ≤ dataLen)
    (limited : size ≤ maxPermittedDataLength) : root.trySerialize dataLen = .ok () := by
  refine InterchainTokenService.trySerialize_eq_ok.mpr
    ⟨InterchainTokenService.isSome_encode ?_, fits.trans small⟩
  exact (fits.trans limited).trans_lt (by decide)

/-- Loading a roles account never fails to serialise. -/
theorem avoids_userRolesPda {resource user key : Pubkey} :
    Avoids (.anchor .accountDidNotSerialize) (userRolesPda env resource user key s) :=
  .bind (avoids_okOr (by decide)) fun _ _ => .bind (avoids_require (by decide)) fun _ _ => avoids_pure

/-- Loading the root account never fails to serialise. -/
theorem avoids_itsRootPda {key : Pubkey} :
    Avoids (.anchor .accountDidNotSerialize) (itsRootPda env key s) :=
  .bind (avoids_okOr (by decide)) fun _ _ => .bind (avoids_require (by decide)) fun _ _ => avoids_pure

/-- Creating an account is not writing one back. -/
theorem avoids_initPda {seeds : List Bytes} {programId key : Pubkey} {absent : Prop}
    [Decidable absent] :
    Avoids (.anchor .accountDidNotSerialize) (env.initPda seeds programId key absent) :=
  .bind (avoids_okOr (by decide)) fun _ _ => .bind (avoids_require (by decide)) fun _ _ =>
    .bind (avoids_require (by decide)) fun _ _ => avoids_pure

/-- Checking who sets trusted chains never fails to serialise. -/
theorem avoids_trustedChainAuthority {a : SetTrustedChain} :
    Avoids (.anchor .accountDidNotSerialize) (trustedChainAuthority env ctx a s) := by
  refine .bind (avoids_require (by decide)) fun _ _ => .bind (avoids_require (by decide)) fun _ _ =>
    .bind ?_ fun _ _ => ?_
  · cases a.userRoles with
    | none => exact avoids_pure
    | some key => exact .bind avoids_userRolesPda fun _ _ => avoids_require (by decide)
  · split
    · exact avoids_require (by decide)
    · exact avoids_pure

/-- `initialize` writes the account it has created. -/
theorem avoids_initializeService {a : Initialize} {itsHubAddress : String}
    (limited : InterchainTokenService.spaceFor itsHubAddress.utf8ByteSize chainName.utf8ByteSize 0
      ≤ maxPermittedDataLength) :
    Avoids (.anchor .accountDidNotSerialize)
      (initializeService env ctx a chainName itsHubAddress s) := by
  refine .bind (avoids_require (by decide)) fun _ _ => .bind (avoids_require (by decide)) fun _ _ =>
    .bind avoids_initPda fun bump _ => .bind avoids_initPda fun _ _ =>
    .bind (avoids_require (by decide)) fun _ _ => .bind ?_ fun _ _ => avoids_pure
  have space : (InterchainTokenService.new bump chainName itsHubAddress).space
      = InterchainTokenService.spaceFor itsHubAddress.utf8ByteSize chainName.utf8ByteSize 0 := rfl
  exact avoids_of_ok (trySerialize_of_space space.le le_rfl limited)

/-- `set_pause_status` changes no length. -/
theorem avoids_setPauseStatus {a : SetPauseStatus} {paused : Bool} (fits : s.RootFits) :
    Avoids (.anchor .accountDidNotSerialize) (setPauseStatus env ctx a paused s) := by
  refine .bind (avoids_require (by decide)) fun _ _ => .bind (avoids_require (by decide)) fun _ _ =>
    .bind avoids_itsRootPda fun root loaded => .bind (avoids_require (by decide)) fun _ _ =>
    .bind ?_ fun _ _ => avoids_pure
  have before := fits root (itsRootPda_eq_ok.mp loaded).1
  have encoded := InterchainTokenService.isSome_encode_iff.mp before.isSome_encode
  exact avoids_of_ok (InterchainTokenService.trySerialize_eq_ok.mpr
    ⟨InterchainTokenService.isSome_encode_iff.mpr encoded, before.fits⟩)

/-- `set_trusted_chain` has made room, also for an entry that it skips. -/
theorem avoids_setTrustedChain {a : SetTrustedChain}
    (limited : ∀ root, s.accounts.root = some root →
      root.spaceWithChainAdded chainName ≤ maxPermittedDataLength) :
    Avoids (.anchor .accountDidNotSerialize) (setTrustedChain env ctx a chainName s) := by
  refine .bind avoids_trustedChainAuthority fun _ _ => .bind avoids_itsRootPda fun root loaded =>
    .bind (avoids_require (by decide)) fun _ _ => .bind ?_ fun _ _ => avoids_pure
  exact avoids_of_ok (trySerialize_of_space InterchainTokenService.space_addTrustedChain le_rfl
    (limited root (itsRootPda_eq_ok.mp loaded).1))

/-- `remove_trusted_chain` has kept room for what remains. -/
theorem avoids_removeTrustedChain {a : RemoveTrustedChain} (fits : s.RootFits) :
    Avoids (.anchor .accountDidNotSerialize) (removeTrustedChain env ctx a chainName s) := by
  refine .bind avoids_trustedChainAuthority fun _ _ => .bind avoids_itsRootPda fun root loaded =>
    .bind (avoids_require (by decide)) fun _ present => .bind ?_ fun _ _ => avoids_pure
  have before := fits root (itsRootPda_eq_ok.mp loaded).1
  have room := (InterchainTokenService.space_removeTrustedChain before.nodup
    (require_eq_ok.mp present)).le
  obtain ⟨hub, name, count, each⟩ :=
    InterchainTokenService.isSome_encode_iff.mp before.isSome_encode
  have fewer : (root.removeTrustedChain chainName).trustedChains.length
      ≤ root.trustedChains.length := List.length_filter_le ..
  have encoded : (InterchainTokenService.codec.encode (root.removeTrustedChain chainName)).isSome :=
    InterchainTokenService.isSome_encode_iff.mpr ⟨hub, name, fewer.trans_lt count,
      fun chain mem => each chain (List.mem_of_mem_filter mem)⟩
  exact avoids_of_ok (InterchainTokenService.trySerialize_eq_ok.mpr ⟨encoded, room⟩)

/-! ## Every run -/

/-- **The root account always fits its data**, over every run of the service. Its `space` is the length
of its serialisation, the allocated length is never less, and its trusted chains are distinct and never
the hub's, so what is written is read back. Writing the account back never fails within the runtime's
limit on the length of an account, and a removal keeps exactly the room for what remains. -/
theorem root_account_fits (env : Env) (owner : Pubkey → Pubkey) (gas : GasService.GasState)
    (calls : List (Call env)) :
    let s := run (step env) (World.initial owner gas) calls
    let unwritten : Error := .anchor .accountDidNotSerialize
    (∀ root, s.accounts.root = some root → RootFits s.accounts.rootLen root ∧
      ∀ old, root.reread s.accounts.rootLen old = some root) ∧
    (∀ ctx a chainName itsHubAddress,
      InterchainTokenService.spaceFor itsHubAddress.utf8ByteSize chainName.utf8ByteSize 0
        ≤ maxPermittedDataLength →
      initializeService env ctx a chainName itsHubAddress s ≠ .error unwritten) ∧
    (∀ ctx a paused, setPauseStatus env ctx a paused s ≠ .error unwritten) ∧
    (∀ ctx a chainName, (∀ root, s.accounts.root = some root →
        root.spaceWithChainAdded chainName ≤ maxPermittedDataLength) →
      setTrustedChain env ctx a chainName s ≠ .error unwritten) ∧
    (∀ ctx a chainName, removeTrustedChain env ctx a chainName s ≠ .error unwritten) ∧
    ∀ t ∈ trace (step env) (World.initial owner gas) calls, ∀ chainName,
      t.call.distrusts? = some chainName → ∃ root, t.pre.accounts.root = some root ∧
        t.post.accounts.root = some (root.removeTrustedChain chainName) ∧
        t.post.accounts.rootLen = (root.removeTrustedChain chainName).space ∧
        ∀ old, (root.removeTrustedChain chainName).reread t.post.accounts.rootLen old
          = some (root.removeTrustedChain chainName) := by
  intro s unwritten
  have fits : s.RootFits := rootFits_run env owner gas calls
  refine ⟨fun root stored => ⟨fits root stored, (fits root stored).reread⟩,
    fun ctx a chainName itsHubAddress limited => avoids_initializeService limited,
    fun ctx a paused => avoids_setPauseStatus fits,
    fun ctx a chainName limited => avoids_setTrustedChain limited,
    fun ctx a chainName => avoids_removeTrustedChain fits, ?_⟩
  intro t mem chainName removes
  -- the world before the call is that of a shorter run, whose root account fits as well
  obtain ⟨before, after, split⟩ := List.append_of_mem mem
  obtain ⟨calls', -, -, -, here⟩ := exists_calls_of_trace_eq split
  have fitsBefore : t.pre.RootFits := by
    rw [← here]
    exact rootFits_run env owner gas calls'
  have stepped := step_of_mem_trace mem
  have fitsAfter : t.post.RootFits := step_rootFits stepped fitsBefore
  obtain ⟨root, stored, present, rewrites⟩ := step_removes stepped removes
  refine ⟨root, stored, rewrites.stored, ?_, (fitsAfter _ rewrites.stored).reread⟩
  rw [rewrites.allocated]
  exact (InterchainTokenService.space_removeTrustedChain (fitsBefore root stored).nodup present).symm

/-- Two chains are set as trusted, one of them the hub's, and the other is removed. -/
def sampleTrustedChains : List (Call sampleEnv) :=
  sampleSetsHub ++
    [sampleTrusts "ethereum",
      sampleCall (.removeTrustedChain ⟨⟨sampleWallet 5, true⟩, some (sampleAddress 6), false,
        sampleAddress 0⟩ "ethereum") rfl]

/-- The removal leaves room for nothing but the data, and another chain can be added. -/
theorem root_account_fits_sample :
    let s := run (step sampleEnv) sampleInitial sampleTrustedChains
    let unwritten : Error := .anchor .accountDidNotSerialize
    (∃ root, s.accounts.root = some root ∧ RootFits s.accounts.rootLen root) ∧
    (∀ ctx a, initializeService sampleEnv ctx a "solana" "hub" s ≠ .error unwritten) ∧
    (∀ ctx a, setTrustedChain sampleEnv ctx a "avalanche" s ≠ .error unwritten) ∧
    ∃ t ∈ trace (step sampleEnv) sampleInitial sampleTrustedChains, ∃ root : InterchainTokenService,
      t.post.accounts.root = some (root.removeTrustedChain "ethereum") ∧
      t.post.accounts.rootLen = (root.removeTrustedChain "ethereum").space := by
  intro s unwritten
  obtain ⟨fits, initializes, -, sets, -, removals⟩ := root_account_fits sampleEnv
    (fun _ => sampleProgramId 4) ⟨none, fun _ => 0, []⟩ sampleTrustedChains
  have stored : (s.accounts.root.any fun root =>
      decide (root.spaceWithChainAdded "avalanche" ≤ maxPermittedDataLength)) = true := by
    decide +kernel
  have removed : ((trace (step sampleEnv) sampleInitial sampleTrustedChains).any fun t =>
      decide (t.call.distrusts? = some "ethereum")) = true := by
    decide +kernel
  obtain ⟨root, stored, small⟩ := (Option.any_eq_true _ _).mp stored
  obtain ⟨t, mem, removes⟩ := List.any_eq_true.mp removed
  obtain ⟨pre, -, written, allocated, -⟩ := removals t mem "ethereum" (of_decide_eq_true removes)
  refine ⟨⟨root, stored, (fits root stored).1⟩,
    fun ctx a => initializes ctx a "solana" "hub" (by decide), fun ctx a => ?_,
    ⟨t, mem, pre, written, allocated⟩⟩
  refine sets ctx a "avalanche" fun other stored' => ?_
  cases stored.symm.trans stored'
  exact of_decide_eq_true small

end AxelarSolana.Its
