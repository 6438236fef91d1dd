import AxelarSolana.Library.Merkle
import AxelarSolana.AxelarStd.ExecuteData
import Mathlib.Data.Nat.Log

/-! # What a Merkle root commits to

The trees of the repository hash a leaf as it is and an inner node with a one-byte prefix; `rs_merkle`
combines digests with `Hasher::concat_and_hash` only.

* **`concatAndHash`**, **`node`** — the combining function and its binary form.
* **`RsMerkle`** — what is assumed of `rs_merkle`, and **`Udigest`** — of the leaf encoding.
* **`treeInputs`**, **`climbInputs`** — the strings that are hashed to build a tree and to check a
  proof: collision freedom of `keccak` is assumed of these only.
* **`mem_of_merkleProofVerify`** — a value with a passing proof is a leaf of the tree.
* **`subset_of_merkleRoot_eq`** — two trees with one root have the same leaves.
* **`merkle_roots_identify`** — equal roots come from equal verifier sets, messages and domains. -/

namespace AxelarSolana

open Fallible

/-! ## Combining digests -/

/-- The bytes an inner node is the hash of: a prefix and two digests. -/
def nodeBytes (p : Bytes32 × Bytes32) : Bytes := 1 :: (p.1.toList ++ p.2.toList)

/-- `Hasher::concat_and_hash`: without a right sibling the left one is taken twice. -/
def concatAndHash (env : Syscalls) (left : Bytes32) (right : Option Bytes32) : Bytes32 :=
  env.keccak (nodeBytes (left, right.getD left))

/-- `Hasher::concat_and_hash` of two digests. -/
def node (env : Syscalls) (left right : Bytes32) : Bytes32 := concatAndHash env left (some right)

/-- What is hashed for a node has 65 bytes: the prefix and two hashes. -/
theorem length_nodeBytes (p : Bytes32 × Bytes32) : (nodeBytes p).length = 65 := by
  rw [nodeBytes, List.length_cons, List.length_append, List.Vector.toList_length,
    List.Vector.toList_length]

/-- What is hashed for a node names both its parts. -/
theorem nodeBytes_injective : Function.Injective nodeBytes := by
  rintro ⟨a, b⟩ ⟨a', b'⟩ h
  have lengths : a.toList.length = a'.toList.length := by
    rw [List.Vector.toList_length, List.Vector.toList_length]
  obtain ⟨left, right⟩ := List.append_inj (List.cons.inj h).2 lengths
  exact Prod.ext (Subtype.ext left) (Subtype.ext right)

/-! ## Third-party code -/

/-- **`rs_merkle`**, with the height it gives a tree: the root is what is left at that height, an
odd last node being combined without a right sibling, and a verified proof recomputes the root by
folding the leaf's hash with the proof's hashes as directed by the position and the size. -/
structure RsMerkle (env : Crates) (depth : Nat → Nat) : Prop where
  fits : ∀ n, 0 < n → n < 2 ^ 16 → n ≤ 2 ^ depth n
  merkleRoot_eq : ∀ leaves,
    env.merkleRoot leaves = Merkle.root (node env.toSyscalls) depth leaves
  climb_of_verify : ∀ {proof root position leafHash size},
    env.merkleProofVerify proof root position leafHash size = true →
      Merkle.climb (node env.toSyscalls) (depth size) position size proof leafHash = some root

/-- **`udigest`** encodes injectively. It writes the names of a record's fields next to their
values, and the names of each record of the repository alone take more than 65 bytes. -/
structure Udigest (env : Crates) : Prop where
  injective : Function.Injective env.unambiguouslyEncode
  long : ∀ d, 65 < (env.unambiguouslyEncode d).length

/-! ## What is hashed -/

section

variable (env : Crates) (depth : Nat → Nat)

/-- **The strings hashed to build a tree**: the leaves' encodings and the inner nodes. -/
def treeInputs (leaves : List Digestable) : List Bytes :=
  leaves.map env.unambiguouslyEncode ++
    (Merkle.treePairs (node env.toSyscalls) (depth leaves.length) (merkleTree env leaves)).map
      nodeBytes

/-- **The strings hashed to check a proof**: the leaf's encoding and the inner nodes on its way. -/
def climbInputs (leaf : Digestable) (proof : List Bytes32) (position size : Nat) : List Bytes :=
  env.unambiguouslyEncode leaf ::
    (Merkle.climbPairs (node env.toSyscalls) (depth size) position size proof
      (env.leafHash leaf)).map nodeBytes

end

variable {env : Crates} {depth : Nat → Nat}

/-- A node is the hash of its bytes. -/
theorem node_eq (p : Bytes32 × Bytes32) :
    node env.toSyscalls p.1 p.2 = env.keccak (nodeBytes p) := rfl

/-- Equal nodes combine equal pairs. -/
theorem pair_eq_of_node_eq {inputs : Set Bytes} (free : Set.InjOn env.keccak inputs)
    {p q : Bytes32 × Bytes32} (hp : nodeBytes p ∈ inputs) (hq : nodeBytes q ∈ inputs)
    (same : node env.toSyscalls p.1 p.2 = node env.toSyscalls q.1 q.2) : p = q := by
  rw [node_eq, node_eq] at same
  exact nodeBytes_injective (free hp hq same)

/-- Equal leaf hashes are hashes of equal leaves. -/
theorem eq_of_leafHash_eq (ud : Udigest env) {inputs : Set Bytes}
    (free : Set.InjOn env.keccak inputs) {a b : Digestable}
    (ha : env.unambiguouslyEncode a ∈ inputs) (hb : env.unambiguouslyEncode b ∈ inputs)
    (same : env.leafHash a = env.leafHash b) : a = b :=
  ud.injective (free ha hb same)

/-- **No inner node is a leaf hash**: the hashed strings have different lengths. -/
theorem node_ne_leafHash (ud : Udigest env) {inputs : Set Bytes}
    (free : Set.InjOn env.keccak inputs) {p : Bytes32 × Bytes32} {d : Digestable}
    (hp : nodeBytes p ∈ inputs) (hd : env.unambiguouslyEncode d ∈ inputs) :
    node env.toSyscalls p.1 p.2 ≠ env.leafHash d := by
  intro same
  rw [node_eq] at same
  have strings : nodeBytes p = env.unambiguouslyEncode d := free hp hd same
  have long := ud.long d
  rw [← strings, length_nodeBytes] at long
  exact absurd long (Nat.lt_irrefl 65)

/-- A tree hashes each of its leaves. -/
theorem mem_treeInputs_leaf {leaves : List Digestable} {d : Digestable} (h : d ∈ leaves) :
    env.unambiguouslyEncode d ∈ treeInputs env depth leaves :=
  List.mem_append_left _ (List.mem_map_of_mem h)

/-- A tree hashes each of its pairs. -/
theorem mem_treeInputs_node {leaves : List Digestable} {p : Bytes32 × Bytes32}
    (h : p ∈ Merkle.treePairs (node env.toSyscalls) (depth leaves.length) (merkleTree env leaves)) :
    nodeBytes p ∈ treeInputs env depth leaves :=
  List.mem_append_right _ (List.mem_map_of_mem h)

/-- A tree has as many hashes at the bottom as leaves. -/
@[simp] theorem length_merkleTree (leaves : List Digestable) :
    (merkleTree env leaves).length = leaves.length := List.length_map _

/-! ## Soundness of proofs -/

/-- **Soundness.** A value whose proof passes under the root of a tree is one of the tree's
leaves, whatever the proof and whatever position and size it is checked with. -/
theorem mem_of_merkleProofVerify (rs : RsMerkle env depth) (ud : Udigest env)
    {leaves : List Digestable} {d : Digestable} {proof : List Bytes32} {position size : Nat}
    {root : Bytes32}
    (free : Set.InjOn env.keccak
      {b | b ∈ treeInputs env depth leaves ++ climbInputs env depth d proof position size})
    (hroot : env.merkleRoot (merkleTree env leaves) = some root)
    (verified : env.merkleProofVerify proof root position (env.leafHash d) size = true) :
    d ∈ leaves := by
  have inTree {b : Bytes} (h : b ∈ treeInputs env depth leaves) :
      b ∈ {b | b ∈ treeInputs env depth leaves ++ climbInputs env depth d proof position size} :=
    List.mem_append_left _ h
  have onPath {p : Bytes32 × Bytes32}
      (h : p ∈ Merkle.climbPairs (node env.toSyscalls) (depth size) position size proof
        (env.leafHash d)) :
      nodeBytes p ∈
        {b | b ∈ treeInputs env depth leaves ++ climbInputs env depth d proof position size} :=
    List.mem_append_right _ (List.mem_cons_of_mem _ (List.mem_map_of_mem h))
  have submitted : env.unambiguouslyEncode d ∈
      {b | b ∈ treeInputs env depth leaves ++ climbInputs env depth d proof position size} :=
    List.mem_append_right _ List.mem_cons_self
  rw [rs.merkleRoot_eq] at hroot
  -- the path to the root runs along pairs of the tree, and ends where the tree does
  have found : env.leafHash d ∈ merkleTree env leaves := by
    apply Merkle.mem_leaves_of_climb _ _ _ _ (rs.climb_of_verify verified) hroot
    · intro p hp q hq same
      rw [length_merkleTree] at hq
      exact pair_eq_of_node_eq free (onPath hp) (inTree (mem_treeInputs_node hq)) same
    · intro p hp leaf
      obtain ⟨d', mem, same⟩ := List.mem_map.mp leaf
      exact node_ne_leafHash ud free (onPath hp) (inTree (mem_treeInputs_leaf mem)) same.symm
    · intro q hq
      rw [length_merkleTree] at hq
      exact node_ne_leafHash ud free (inTree (mem_treeInputs_node hq)) submitted
  obtain ⟨d', mem, same⟩ := List.mem_map.mp found
  rw [← eq_of_leafHash_eq ud free (inTree (mem_treeInputs_leaf mem)) submitted same]
  exact mem

/-! ## Two trees with one root -/

/-- **Equal roots have the same leaves.** -/
theorem subset_of_merkleRoot_eq (rs : RsMerkle env depth) (ud : Udigest env)
    {xs ys : List Digestable} {root : Bytes32} (small : xs.length < 2 ^ 16)
    (free : Set.InjOn env.keccak {b | b ∈ treeInputs env depth xs ++ treeInputs env depth ys})
    (hx : env.merkleRoot (merkleTree env xs) = some root)
    (hy : env.merkleRoot (merkleTree env ys) = some root) : xs ⊆ ys := by
  have inX {b : Bytes} (h : b ∈ treeInputs env depth xs) :
      b ∈ {b | b ∈ treeInputs env depth xs ++ treeInputs env depth ys} :=
    List.mem_append_left _ h
  have inY {b : Bytes} (h : b ∈ treeInputs env depth ys) :
      b ∈ {b | b ∈ treeInputs env depth xs ++ treeInputs env depth ys} :=
    List.mem_append_right _ h
  intro d mem
  have fits := rs.fits xs.length (List.length_pos_of_mem mem) small
  rw [rs.merkleRoot_eq] at hx hy
  -- equal roots come from equal pairs, level by level, and a leaf is never an inner node
  have included : merkleTree env xs ⊆ merkleTree env ys := by
    apply Merkle.leaves_subset_of_root_eq _ _ _ _ _ hx hy
    · rw [length_merkleTree]
      exact fits
    · intro p hp q hq same
      rw [length_merkleTree] at hp hq
      exact pair_eq_of_node_eq free (inX (mem_treeInputs_node hp)) (inY (mem_treeInputs_node hq))
        same
    · intro p hp leaf
      rw [length_merkleTree] at hp
      obtain ⟨d', mem', same⟩ := List.mem_map.mp leaf
      exact node_ne_leafHash ud free (inX (mem_treeInputs_node hp)) (inY (mem_treeInputs_leaf mem'))
        same.symm
    · intro q hq leaf
      rw [length_merkleTree] at hq
      obtain ⟨d', mem', same⟩ := List.mem_map.mp leaf
      exact node_ne_leafHash ud free (inY (mem_treeInputs_node hq)) (inX (mem_treeInputs_leaf mem'))
        same.symm
  obtain ⟨d', mem', same⟩ := List.mem_map.mp (included (List.mem_map_of_mem mem))
  rw [← eq_of_leafHash_eq ud free (inY (mem_treeInputs_leaf mem')) (inX (mem_treeInputs_leaf mem))
    same]
  exact mem'

/-- The nonempty sets and batches that fit have a root. -/
theorem exists_merkleRoot (rs : RsMerkle env depth) {leaves : List Digestable}
    (some' : leaves ≠ []) (small : leaves.length < 2 ^ 16) :
    ∃ root, env.merkleRoot (merkleTree env leaves) = some root := by
  have pos : 0 < leaves.length := List.length_pos_iff.mpr some'
  rw [rs.merkleRoot_eq]
  apply Merkle.exists_root
  · rw [length_merkleTree]
    exact pos
  · rw [length_merkleTree]
    exact rs.fits _ pos small

/-- The root of a tree exists exactly for one leaf or more. -/
theorem merkleRoot_isSome_iff (rs : RsMerkle env depth) {leaves : List Digestable}
    (small : leaves.length < 2 ^ 16) :
    (∃ root, env.merkleRoot (merkleTree env leaves) = some root) ↔ 1 ≤ leaves.length := by
  constructor
  · rintro ⟨root, hroot⟩
    rw [rs.merkleRoot_eq] at hroot
    by_contra none'
    have empty : leaves = [] := List.length_eq_zero_iff.mp (by omega)
    subst empty
    rw [merkleTree, List.map_nil, Merkle.root_nil] at hroot
    cases hroot
  · intro pos
    exact exists_merkleRoot rs (List.length_pos_iff.mp pos) small

/-! ## Leaves carry their position -/

/-- A number below 2 to the 16 fits. -/
theorem toNat_ofNat_u16 {n : Nat} (h : n < 2 ^ 16) : (UInt16.ofNat n).toNat = n :=
  UInt16.toNat_ofNat_of_lt' h

/-- Numbers that fit are told apart. -/
theorem ofNat_u16_inj {m n : Nat} (hm : m < 2 ^ 16) (hn : n < 2 ^ 16)
    (same : UInt16.ofNat m = UInt16.ofNat n) : m = n := by
  rw [← toNat_ofNat_u16 hm, ← toNat_ofNat_u16 hn, same]

/-- The leaves of a set are those of its signers, each at its position. -/
theorem VerifierSet.mem_leaves {vs : VerifierSet} {d : Bytes32} {leaf : VerifierSetLeaf} :
    leaf ∈ vs.leaves d ↔
      ∃ i signer, vs.signers[i]? = some signer ∧ leaf = vs.leaf d i signer := by
  rw [VerifierSet.leaves, List.mem_mapIdx]
  constructor
  · rintro ⟨i, hi, rfl⟩
    exact ⟨i, vs.signers[i], List.getElem?_eq_getElem hi, rfl⟩
  · rintro ⟨i, signer, found, rfl⟩
    obtain ⟨hi, rfl⟩ := List.getElem?_eq_some_iff.mp found
    exact ⟨i, hi, rfl⟩

/-- The leaves of a batch are those of its messages, each at its position. -/
theorem Messages.mem_leaves {ms : Messages} {d : Bytes32} {leaf : MessageLeaf} :
    leaf ∈ ms.leaves d ↔ ∃ i message, ms.list[i]? = some message ∧ leaf = ms.leaf d i message := by
  rw [Messages.leaves, List.mem_mapIdx]
  constructor
  · rintro ⟨i, hi, rfl⟩
    exact ⟨i, ms.list[i], List.getElem?_eq_getElem hi, rfl⟩
  · rintro ⟨i, message, found, rfl⟩
    obtain ⟨hi, rfl⟩ := List.getElem?_eq_some_iff.mp found
    exact ⟨i, hi, rfl⟩

/-- Two lists of one length are the same when every entry of the first stands in the second with
its position. -/
theorem eq_of_positions {α : Type} {xs ys : List α} (len : xs.length = ys.length)
    (h : ∀ (i : Nat) (x : α), xs[i]? = some x → ys[i]? = some x) : xs = ys := by
  apply List.ext_getElem? fun i => ?_
  cases hx : xs[i]? with
  | some x => exact (h i x hx).symm
  | none =>
    have beyond : xs.length ≤ i := List.getElem?_eq_none_iff.mp hx
    exact (List.getElem?_eq_none_iff.mpr (len ▸ beyond)).symm

/-- **A verifier set is determined by its leaves.** -/
theorem VerifierSet.eq_of_leaves_subset {v w : VerifierSet} {d e : Bytes32}
    (nonempty : v.signers ≠ []) (hv : v.signers.length < 2 ^ 16) (hw : w.signers.length < 2 ^ 16)
    (included : v.leaves d ⊆ w.leaves e) : v = w ∧ d = e := by
  have found (i : Nat) (signer : PublicKey × BitVec 128) (hi : v.signers[i]? = some signer) :
      w.signers[i]? = some signer ∧ v.leaf d i signer = w.leaf e i signer := by
    obtain ⟨j, signer', hj, same⟩ := VerifierSet.mem_leaves.mp
      (included (VerifierSet.mem_leaves.mpr ⟨i, signer, hi, rfl⟩))
    obtain ⟨iv, -⟩ := List.getElem?_eq_some_iff.mp hi
    obtain ⟨jw, -⟩ := List.getElem?_eq_some_iff.mp hj
    -- a leaf carries its position, so it can only be found at its own place
    have position : i = j :=
      ofNat_u16_inj (iv.trans hv) (jw.trans hw) (congrArg VerifierSetLeaf.position same)
    have key : signer.1 = signer'.1 := congrArg VerifierSetLeaf.signerPubkey same
    have weight : signer.2 = signer'.2 := congrArg VerifierSetLeaf.signerWeight same
    have entry : signer = signer' := Prod.ext key weight
    subst position entry
    exact ⟨hj, same⟩
  have first : 0 < v.signers.length := List.length_pos_iff.mpr nonempty
  obtain ⟨-, leaf⟩ := found 0 _ (List.getElem?_eq_getElem first)
  have size : v.signers.length = w.signers.length :=
    ofNat_u16_inj hv hw (congrArg VerifierSetLeaf.setSize leaf)
  have signers : v.signers = w.signers := eq_of_positions size fun i x hx => (found i x hx).1
  have nonce : v.nonce = w.nonce := congrArg VerifierSetLeaf.nonce leaf
  have quorum : v.quorum = w.quorum := congrArg VerifierSetLeaf.quorum leaf
  have domain : d = e := congrArg VerifierSetLeaf.domainSeparator leaf
  cases v
  cases w
  cases nonce
  cases signers
  cases quorum
  exact ⟨rfl, domain⟩

/-- **A batch of messages is determined by its leaves.** -/
theorem Messages.eq_of_leaves_subset {ms ns : Messages} {d e : Bytes32}
    (nonempty : ms.list ≠ []) (hm : ms.list.length < 2 ^ 16) (hn : ns.list.length < 2 ^ 16)
    (included : ms.leaves d ⊆ ns.leaves e) : ms = ns ∧ d = e := by
  have found (i : Nat) (message : Message) (hi : ms.list[i]? = some message) :
      ns.list[i]? = some message ∧ ms.leaf d i message = ns.leaf e i message := by
    obtain ⟨j, message', hj, same⟩ := Messages.mem_leaves.mp
      (included (Messages.mem_leaves.mpr ⟨i, message, hi, rfl⟩))
    obtain ⟨iv, -⟩ := List.getElem?_eq_some_iff.mp hi
    obtain ⟨jw, -⟩ := List.getElem?_eq_some_iff.mp hj
    have position : i = j :=
      ofNat_u16_inj (iv.trans hm) (jw.trans hn) (congrArg MessageLeaf.position same)
    have entry : message = message' := congrArg MessageLeaf.message same
    subst position entry
    exact ⟨hj, same⟩
  have first : 0 < ms.list.length := List.length_pos_iff.mpr nonempty
  obtain ⟨-, leaf⟩ := found 0 _ (List.getElem?_eq_getElem first)
  have size : ms.list.length = ns.list.length :=
    ofNat_u16_inj hm hn (congrArg MessageLeaf.setSize leaf)
  have messages : ms.list = ns.list := eq_of_positions size fun i x hx => (found i x hx).1
  have domain : d = e := congrArg MessageLeaf.domainSeparator leaf
  cases ms
  cases ns
  cases messages
  exact ⟨rfl, domain⟩

/-! ## Roots identify -/

/-- The strings hashed for the root of a verifier set. -/
def VerifierSet.inputs (env : Crates) (depth : Nat → Nat) (vs : VerifierSet) (d : Bytes32) :
    List Bytes :=
  treeInputs env depth ((vs.leaves d).map .verifierSetLeaf)

/-- The strings hashed for the root of a batch of messages. -/
def Messages.inputs (env : Crates) (depth : Nat → Nat) (ms : Messages) (d : Bytes32) :
    List Bytes :=
  treeInputs env depth ((ms.leaves d).map .messageLeaf)

/-- There are as many leaves as signers. -/
theorem VerifierSet.length_leaves (vs : VerifierSet) (d : Bytes32) :
    ((vs.leaves d).map Digestable.verifierSetLeaf).length = vs.signers.length := by
  rw [List.length_map, VerifierSet.leaves, List.length_mapIdx]

/-- There are as many leaves as messages. -/
theorem Messages.length_leaves (ms : Messages) (d : Bytes32) :
    ((ms.leaves d).map Digestable.messageLeaf).length = ms.list.length := by
  rw [List.length_map, Messages.leaves, List.length_mapIdx]

/-- **A nonempty verifier set that fits has a hash.** -/
theorem exists_verifierSetHash (rs : RsMerkle env depth) {vs : VerifierSet} {d : Bytes32}
    (nonempty : vs.signers ≠ []) (small : vs.signers.length < 2 ^ 16) :
    ∃ root, verifierSetHash env vs d = .ok root := by
  have len := vs.length_leaves d
  have leaves : (vs.leaves d).map Digestable.verifierSetLeaf ≠ [] := by
    rw [← List.length_pos_iff, len]
    exact List.length_pos_iff.mpr nonempty
  obtain ⟨root, hroot⟩ := exists_merkleRoot rs leaves (by rw [len]; exact small)
  exact ⟨root, verifierSetHash_eq_ok.mpr ⟨small, hroot⟩⟩

/-- **A nonempty batch of messages that fits has a root.** -/
theorem exists_hashPayload_messages (rs : RsMerkle env depth) (prover : Prover) {ms : Messages}
    {d : Bytes32} (nonempty : ms.list ≠ []) (small : ms.list.length < 2 ^ 16) :
    ∃ root, hashPayload env prover d (.messages ms) = .ok root := by
  have len := ms.length_leaves d
  have leaves : (ms.leaves d).map Digestable.messageLeaf ≠ [] := by
    rw [← List.length_pos_iff, len]
    exact List.length_pos_iff.mpr nonempty
  obtain ⟨root, hroot⟩ := exists_merkleRoot rs leaves (by rw [len]; exact small)
  exact ⟨root, hashPayload_messages_eq_ok.mpr ⟨small, hroot⟩⟩

/-- **The sizes a verifier set can be hashed with.** -/
theorem verifierSetHash_isOk_iff (rs : RsMerkle env depth) {vs : VerifierSet} {d : Bytes32} :
    (∃ root, verifierSetHash env vs d = .ok root) ↔
      1 ≤ vs.signers.length ∧ vs.signers.length ≤ 65535 := by
  have len := vs.length_leaves d
  simp only [verifierSetHash_eq_ok, exists_and_left]
  constructor
  · rintro ⟨small, root⟩
    have pos := (merkleRoot_isSome_iff rs (by rw [len]; exact small)).mp root
    omega
  · rintro ⟨pos, small⟩
    refine ⟨by omega, (merkleRoot_isSome_iff rs ?_).mpr ?_⟩
    · omega
    · omega

/-- **The hash of a verifier set identifies the set and the domain.** -/
theorem verifierSet_eq_of_hash_eq (rs : RsMerkle env depth) (ud : Udigest env)
    {v w : VerifierSet} {d e : Bytes32}
    (hv : v.signers ≠ []) (hv' : v.signers.length < 2 ^ 16)
    (free : Set.InjOn env.keccak {b | b ∈ v.inputs env depth d ++ w.inputs env depth e})
    (same : verifierSetHash env v d = verifierSetHash env w e) : v = w ∧ d = e := by
  obtain ⟨root, hash⟩ := exists_verifierSetHash rs (d := d) hv hv'
  obtain ⟨-, rootV⟩ := verifierSetHash_eq_ok.mp hash
  obtain ⟨hw', rootW⟩ := verifierSetHash_eq_ok.mp (same ▸ hash)
  have included := subset_of_merkleRoot_eq rs ud (by rw [v.length_leaves]; exact hv') free rootV
    rootW
  exact VerifierSet.eq_of_leaves_subset hv hv' hw'
    ((List.map_subset_iff _ fun _ _ => Digestable.verifierSetLeaf.inj).mp included)

/-- **The root of a batch identifies the messages and the domain.** -/
theorem messages_eq_of_root_eq (rs : RsMerkle env depth) (ud : Udigest env) {prover : Prover}
    {ms ns : Messages} {d e : Bytes32}
    (hm : ms.list ≠ []) (hm' : ms.list.length < 2 ^ 16)
    (free : Set.InjOn env.keccak {b | b ∈ ms.inputs env depth d ++ ns.inputs env depth e})
    (same : hashPayload env prover d (.messages ms) = hashPayload env prover e (.messages ns)) :
    ms = ns ∧ d = e := by
  obtain ⟨root, hash⟩ := exists_hashPayload_messages rs prover (d := d) hm hm'
  obtain ⟨-, rootM⟩ := hashPayload_messages_eq_ok.mp hash
  obtain ⟨hn', rootN⟩ := hashPayload_messages_eq_ok.mp (same ▸ hash)
  have included := subset_of_merkleRoot_eq rs ud (by rw [ms.length_leaves]; exact hm') free rootM
    rootN
  exact Messages.eq_of_leaves_subset hm hm' hn'
    ((List.map_subset_iff _ fun _ _ => Digestable.messageLeaf.inj).mp included)

/-! ## A concrete instance

`rs_merkle` by its definition, over a small hash and an encoding that marks the end of each
field. -/

/-- A byte string with a mark before each byte and at its end. -/
def delimit (b : Bytes) : Bytes := b.flatMap (fun x => [1, x]) ++ [0]

/-- A delimited string ends where its length says. -/
theorem delimit_append_inj {a b r s : Bytes} (h : delimit a ++ r = delimit b ++ s) :
    a = b ∧ r = s := by
  induction a generalizing b with
  | nil =>
    cases b with
    | nil => exact ⟨rfl, by simpa [delimit] using h⟩
    | cons y b => simp [delimit] at h
  | cons x a ih =>
    cases b with
    | nil => simp [delimit] at h
    | cons y b =>
      have head : x = y ∧ delimit a ++ r = delimit b ++ s := by
        simpa [delimit, List.append_assoc] using h
      obtain ⟨rfl, tail⟩ := head
      obtain ⟨rfl, rest⟩ := ih tail
      exact ⟨rfl, rest⟩

/-- Delimited strings in a row are told apart. -/
theorem flatMap_delimit_inj {xs ys : List Bytes} (len : xs.length = ys.length)
    (h : xs.flatMap delimit = ys.flatMap delimit) : xs = ys := by
  induction xs generalizing ys with
  | nil =>
    cases ys with
    | nil => rfl
    | cons y ys => cases len
  | cons x xs ih =>
    cases ys with
    | nil => cases len
    | cons y ys =>
      rw [List.flatMap_cons, List.flatMap_cons] at h
      obtain ⟨rfl, rest⟩ := delimit_append_inj h
      rw [ih (Nat.succ.inj len) rest]

/-- The fields of a message. -/
def sampleMessageFields (m : Message) : List Bytes :=
  [Codec.utf8 m.ccId.chain, Codec.utf8 m.ccId.id, Codec.utf8 m.sourceAddress,
    Codec.utf8 m.destinationChain, Codec.utf8 m.destinationAddress, m.payloadHash.toList]

/-- The fields of a `Digestable` value, after a field that tells its type. -/
def sampleFields : Digestable → List Bytes
  | .message m => [0] :: sampleMessageFields m
  | .messageLeaf l =>
    [1] :: LittleEndian.encode 2 l.position.toNat :: LittleEndian.encode 2 l.setSize.toNat ::
      l.domainSeparator.toList :: sampleMessageFields l.message
  | .verifierSetLeaf l =>
    [[2], LittleEndian.encode 8 l.nonce.toNat, LittleEndian.encode 16 l.quorum.toNat,
      l.signerPubkey.toList, LittleEndian.encode 16 l.signerWeight.toNat,
      LittleEndian.encode 2 l.position.toNat, LittleEndian.encode 2 l.setSize.toNat,
      l.domainSeparator.toList]

/-- The fields of a message identify it. -/
theorem sampleMessageFields_injective : Function.Injective sampleMessageFields := by
  rintro ⟨⟨chain, id⟩, source, destinationChain, destination, hash⟩
    ⟨⟨chain', id'⟩, source', destinationChain', destination', hash'⟩ h
  simp only [sampleMessageFields, List.cons.injEq, and_true] at h
  obtain ⟨h₁, h₂, h₃, h₄, h₅, h₆⟩ := h
  cases Codec.utf8_injective h₁
  cases Codec.utf8_injective h₂
  cases Codec.utf8_injective h₃
  cases Codec.utf8_injective h₄
  cases Codec.utf8_injective h₅
  cases Subtype.ext h₆
  rfl

/-- Numbers that fit have different bytes. -/
theorem littleEndian_encode_inj {w m n : Nat} (hm : m < 256 ^ w) (hn : n < 256 ^ w)
    (same : LittleEndian.encode w m = LittleEndian.encode w n) : m = n := by
  rw [← LittleEndian.decode_encode hm, ← LittleEndian.decode_encode hn, same]

/-- The fields that are encoded identify what is hashed. -/
theorem sampleFields_injective : Function.Injective sampleFields := by
  rintro (m | l | l) (m' | l' | l') h
  case message.message =>
    exact congrArg _ (sampleMessageFields_injective (List.cons.inj h).2)
  case messageLeaf.messageLeaf =>
    obtain ⟨message, position, size, domain⟩ := l
    obtain ⟨message', position', size', domain'⟩ := l'
    simp only [sampleFields, List.cons.injEq, true_and] at h
    obtain ⟨h₁, h₂, h₃, h₄⟩ := h
    cases UInt16.toNat_inj.mp (littleEndian_encode_inj position.toNat_lt position'.toNat_lt h₁)
    cases UInt16.toNat_inj.mp (littleEndian_encode_inj size.toNat_lt size'.toNat_lt h₂)
    cases Subtype.ext h₃
    cases sampleMessageFields_injective h₄
    rfl
  case verifierSetLeaf.verifierSetLeaf =>
    obtain ⟨nonce, quorum, key, weight, position, size, domain⟩ := l
    obtain ⟨nonce', quorum', key', weight', position', size', domain'⟩ := l'
    simp only [sampleFields, List.cons.injEq, true_and, and_true] at h
    obtain ⟨h₁, h₂, h₃, h₄, h₅, h₆, h₇⟩ := h
    cases UInt64.toNat_inj.mp (littleEndian_encode_inj nonce.toNat_lt nonce'.toNat_lt h₁)
    cases BitVec.eq_of_toNat_eq (littleEndian_encode_inj quorum.isLt quorum'.isLt h₂)
    cases Subtype.ext h₃
    cases BitVec.eq_of_toNat_eq (littleEndian_encode_inj weight.isLt weight'.isLt h₄)
    cases UInt16.toNat_inj.mp (littleEndian_encode_inj position.toNat_lt position'.toNat_lt h₅)
    cases UInt16.toNat_inj.mp (littleEndian_encode_inj size.toNat_lt size'.toNat_lt h₆)
    cases Subtype.ext h₇
    rfl
  all_goals exact absurd (List.cons.inj h).1 (by decide)

/-- An injective encoding of more than 65 bytes. -/
def sampleEncode (d : Digestable) : Bytes :=
  List.replicate 66 0 ++ (sampleFields d).flatMap delimit

/-- The encoding of the instance is unambiguous. -/
theorem sampleEncode_injective : Function.Injective sampleEncode := by
  intro a b h
  have fields := List.append_cancel_left h
  apply sampleFields_injective
  -- the first field tells the type, and with it the number of fields
  cases a <;> cases b <;>
    first
    | exact flatMap_delimit_inj rfl fields
    | exact absurd (delimit_append_inj fields).1 (by decide)

/-- A hash that tells short byte strings apart. -/
def sampleKeccak (b : Bytes) : Bytes32 :=
  ⟨LittleEndian.encode 32 (b.foldl (fun h x => 257 * h + x.toNat + 1) 0),
    LittleEndian.length_encode _ _⟩

/-- The height `rs_merkle` gives a tree: the binary logarithm of its size, rounded up, and at
least one. -/
def sampleDepth (n : Nat) : Nat := Nat.log2 (n - 1) + 1

/-- The system calls of the instance. -/
def sampleSyscalls : Syscalls where
  keccak := sampleKeccak
  createProgramAddress seeds programId := some (sampleKeccak (seeds.flatten ++ programId.toList))
  pubkeyFromStr s := some (sampleKeccak (Codec.utf8 s))
  secp256k1Recover digest _ signature :=
    if signature.take 32 = digest.toList then
      some ⟨(signature.drop 32 ++ List.replicate 64 0).take 64, by simp⟩
    else none

/-- **`rs_merkle` by its definition**, over the system calls of the instance. -/
def sampleCrates : Crates where
  toSyscalls := sampleSyscalls
  unambiguouslyEncode := sampleEncode
  merkleRoot leaves := Merkle.root (node sampleSyscalls) sampleDepth leaves
  merkleProofFromBytes b :=
    match (Codec.fixed 32).decodeList (b.length / 32) b with
    | some (hashes, []) => some hashes
    | _ => none
  merkleProofVerify proof root position leafHash size :=
    decide (Merkle.climb (node sampleSyscalls) (sampleDepth size) position size proof leafHash =
      some root)
  parseCompressed key := some ⟨(4 :: key.toList.tail ++ List.replicate 65 0).take 65, by simp⟩

/-- Proofs by their definition. -/
def sampleProver : Prover where
  merkleProof leaves index :=
    Merkle.siblings (node sampleSyscalls) (sampleDepth leaves.length) index leaves
  merkleProofToBytes proof := proof.flatMap List.Vector.toList

/-- The trees of the instance are those that the definitions describe. -/
theorem sampleCrates_rsMerkle : RsMerkle sampleCrates sampleDepth where
  fits n hn _ := by
    have bound : n - 1 < 2 ^ (Nat.log2 (n - 1) + 1) := Nat.lt_log2_self
    rw [sampleDepth]
    omega
  merkleRoot_eq _ := rfl
  climb_of_verify h := of_decide_eq_true h

/-- The encoding of the instance is unambiguous, and longer than a node. -/
theorem sampleCrates_udigest : Udigest sampleCrates where
  injective := sampleEncode_injective
  long d := by
    show 65 < (sampleEncode d).length
    rw [sampleEncode, List.length_append, List.length_replicate]
    omega

/-- Collision freedom on finitely many strings can be evaluated. -/
theorem injOn_of_all {hash : Bytes → Bytes32} {inputs : List Bytes}
    (h : (inputs.all fun a => inputs.all fun b => hash a ≠ hash b || a = b) = true) :
    Set.InjOn hash {b | b ∈ inputs} := by
  intro a ha b hb same
  have pair := List.all_eq_true.mp (List.all_eq_true.mp h a ha) b hb
  simp only [same, ne_eq, not_true_eq_false, decide_false, Bool.false_or,
    decide_eq_true_eq] at pair
  exact pair

/-- Three signers, so that a level of the set's tree is odd. -/
def sampleVerifierSet : VerifierSet where
  nonce := 4
  signers := [(List.Vector.replicate 33 2, 5), (List.Vector.replicate 33 3, 6),
    (List.Vector.replicate 33 4, 7)]
  sorted := by decide
  quorum := 12

/-- A message. -/
def sampleCrossChainMessage : Message where
  ccId := ⟨"ethereum", "0x01-0"⟩
  sourceAddress := "0xabc"
  destinationChain := "solana"
  destinationAddress := "11111111111111111111111111111111"
  payloadHash := List.Vector.replicate 32 8

/-- A domain separator. -/
def sampleDomainSeparator : Bytes32 := List.Vector.replicate 32 9

/-- **Merkle roots identify what they commit to.** Verifier sets with one hash are the same set
hashed for the same domain; batches of messages with one root are the same messages for the same
domain; and a copy of the last message appended to a batch changes its root, although odd nodes
are paired with themselves. -/
theorem merkle_roots_identify (rs : RsMerkle env depth) (ud : Udigest env) (prover : Prover) :
    (∀ (v w : VerifierSet) (d e : Bytes32),
      v.signers ≠ [] → v.signers.length ≤ 65535 → w.signers ≠ [] → w.signers.length ≤ 65535 →
      Set.InjOn env.keccak {b | b ∈ v.inputs env depth d ++ w.inputs env depth e} →
      verifierSetHash env v d = verifierSetHash env w e → v = w ∧ d = e) ∧
    (∀ (ms ns : Messages) (d e : Bytes32),
      ms.list ≠ [] → ms.list.length ≤ 65535 → ns.list ≠ [] → ns.list.length ≤ 65535 →
      Set.InjOn env.keccak {b | b ∈ ms.inputs env depth d ++ ns.inputs env depth e} →
      hashPayload env prover d (.messages ms) = hashPayload env prover e (.messages ns) →
      ms = ns ∧ d = e) ∧
    (∀ (ms : List Message) (last : Message) (d : Bytes32),
      ms.getLast? = some last → ms.length + 1 ≤ 65535 →
      Set.InjOn env.keccak
        {b | b ∈ (Messages.mk ms).inputs env depth d ++
          (Messages.mk (ms ++ [last])).inputs env depth d} →
      hashPayload env prover d (.messages ⟨ms⟩) ≠
        hashPayload env prover d (.messages ⟨ms ++ [last]⟩)) := by
  refine ⟨?_, ?_, ?_⟩
  · intro v w d e hv hv' _ _ free same
    exact verifierSet_eq_of_hash_eq rs ud hv (by omega) free same
  · intro ms ns d e hm hm' _ _ free same
    exact messages_eq_of_root_eq rs ud hm (by omega) free same
  · intro ms last d hlast hlen free same
    have nonempty : ms ≠ [] := by
      rintro rfl
      cases hlast
    -- equal roots would make the batches equal, though one is longer
    obtain ⟨batches, -⟩ := messages_eq_of_root_eq rs ud nonempty (by simp only; omega) free same
    have lengths := congrArg List.length (Messages.mk.inj batches)
    rw [List.length_append, List.length_singleton] at lengths
    omega

/-- A set has the hash of itself only, and a batch of one message and the batch with that message
twice have different roots. -/
theorem merkle_roots_identify_sample :
    (sampleVerifierSet = sampleVerifierSet ∧ sampleDomainSeparator = sampleDomainSeparator) ∧
    (Messages.mk [sampleCrossChainMessage] = Messages.mk [sampleCrossChainMessage] ∧
      sampleDomainSeparator = sampleDomainSeparator) ∧
    hashPayload sampleCrates sampleProver sampleDomainSeparator
        (.messages ⟨[sampleCrossChainMessage]⟩) ≠
      hashPayload sampleCrates sampleProver sampleDomainSeparator
        (.messages ⟨[sampleCrossChainMessage, sampleCrossChainMessage]⟩) :=
  have identify := merkle_roots_identify sampleCrates_rsMerkle sampleCrates_udigest sampleProver
  ⟨identify.1 _ _ _ _ (by decide) (by decide) (by decide) (by decide)
      (injOn_of_all (by decide +kernel)) rfl,
    identify.2.1 _ _ _ _ (by decide) (by decide) (by decide) (by decide)
      (injOn_of_all (by decide +kernel)) rfl,
    identify.2.2 [sampleCrossChainMessage] sampleCrossChainMessage sampleDomainSeparator rfl
      (by decide) (injOn_of_all (by decide +kernel))⟩

end AxelarSolana
