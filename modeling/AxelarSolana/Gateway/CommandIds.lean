import AxelarSolana.Gateway.MessageLifecycle

/-! # Command ids

The command id of a message is the hash of its chain, a separator and its id. Either string may
contain the separator.

* **`CrossChainId.commandIdBytes`** — the bytes that are hashed.
* **`CrossChainId.Overlaps`** — how two pairs can share them.
* **`command_ids_differ_iff`** — two different pairs have different bytes exactly when neither
  overlaps the other, and what this means for the approval of their messages.
* **`approval_blocks_another`** — two messages of different chains that share a command id. -/

namespace AxelarSolana

/-- **The bytes that `Message::command_id` hashes.** -/
def CrossChainId.commandIdBytes (ccId : CrossChainId) : Bytes :=
  Codec.utf8 ccId.chain ++ 0x2D :: Codec.utf8 ccId.id

/-- A command id is the hash of the chain and the id, joined by a hyphen. -/
theorem Message.commandId_eq {env : Crates} {m : Message} :
    m.commandId env = env.keccak m.ccId.commandIdBytes := by
  simp [Message.commandId, CrossChainId.commandIdBytes, Syscalls.hashv]

/-- **The chain of `q` reaches into the id of `p`**: it is the chain of `p`, a separator and some
string, with which, and another separator, the id of `p` begins. -/
def CrossChainId.Overlaps (p q : CrossChainId) : Prop :=
  ∃ middle : String, q.chain = p.chain ++ "-" ++ middle ∧ p.id = middle ++ "-" ++ q.id

/-- Two pairs of lists with the same join. -/
theorem append_cons_eq_append_cons {α : Type} {c : α} {xs ys xs' ys' : List α} :
    xs ++ c :: ys = xs' ++ c :: ys' ↔ (xs = xs' ∧ ys = ys') ∨
      (∃ zs, xs' = xs ++ c :: zs ∧ ys = zs ++ c :: ys') ∨
      ∃ zs, xs = xs' ++ c :: zs ∧ ys' = zs ++ c :: ys := by
  rw [List.append_eq_append_iff]
  constructor
  · rintro (⟨as, rfl, tail⟩ | ⟨as, rfl, tail⟩)
    · cases as with
      | nil =>
        rw [List.nil_append, List.cons.injEq] at tail
        exact .inl ⟨by simp, tail.2⟩
      | cons a as =>
        rw [List.cons_append, List.cons.injEq] at tail
        obtain ⟨rfl, rest⟩ := tail
        exact .inr (.inl ⟨as, rfl, rest⟩)
    · cases as with
      | nil =>
        rw [List.nil_append, List.cons.injEq] at tail
        exact .inl ⟨by simp, tail.2.symm⟩
      | cons a as =>
        rw [List.cons_append, List.cons.injEq] at tail
        obtain ⟨rfl, rest⟩ := tail
        exact .inr (.inr ⟨as, rfl, rest⟩)
  · rintro (⟨rfl, rfl⟩ | ⟨zs, rfl, rfl⟩ | ⟨zs, rfl, rfl⟩)
    · exact .inl ⟨[], by simp, rfl⟩
    · exact .inl ⟨c :: zs, rfl, rfl⟩
    · exact .inr ⟨c :: zs, rfl, rfl⟩

/-- The bytes are those of one string. -/
theorem CrossChainId.commandIdBytes_eq (p : CrossChainId) :
    p.commandIdBytes = Codec.utf8 (p.chain ++ "-" ++ p.id) := by
  rw [commandIdBytes, Codec.utf8_append, Codec.utf8_append, List.append_assoc]
  rfl

/-- A split of characters is a split of strings. -/
theorem CrossChainId.overlaps_iff {p q : CrossChainId} :
    p.Overlaps q ↔ ∃ zs, q.chain.toList = p.chain.toList ++ '-' :: zs ∧
      p.id.toList = zs ++ '-' :: q.id.toList := by
  constructor
  · rintro ⟨middle, chain, id⟩
    refine ⟨middle.toList, ?_, ?_⟩
    · rw [chain, String.toList_append, String.toList_append, List.append_assoc]
      rfl
    · rw [id, String.toList_append, String.toList_append, List.append_assoc]
      rfl
  · rintro ⟨zs, chain, id⟩
    refine ⟨String.ofList zs, String.toList_injective ?_, String.toList_injective ?_⟩
    · simp [chain, String.toList_append]
    · simp [id, String.toList_append]

/-- **Which different pairs share their bytes.** -/
theorem CrossChainId.commandIdBytes_eq_iff {p q : CrossChainId} (distinct : p ≠ q) :
    p.commandIdBytes = q.commandIdBytes ↔ p.Overlaps q ∨ q.Overlaps p := by
  have bytes : p.commandIdBytes = q.commandIdBytes ↔
      p.chain.toList ++ '-' :: p.id.toList = q.chain.toList ++ '-' :: q.id.toList := by
    rw [commandIdBytes_eq, commandIdBytes_eq, Codec.utf8_injective.eq_iff, ← String.toList_inj,
      String.toList_append, String.toList_append, String.toList_append, String.toList_append,
      List.append_assoc, List.append_assoc]
    rfl
  rw [bytes, append_cons_eq_append_cons, overlaps_iff, overlaps_iff, or_iff_right]
  rintro ⟨chain, id⟩
  obtain ⟨c, i⟩ := p
  obtain ⟨c', i'⟩ := q
  rw [String.toList_inj] at chain id
  exact distinct (by rw [CrossChainId.mk.injEq]; exact ⟨chain, id⟩)

namespace Gateway

open Machine

/-- A successful call that approves a message. -/
def Approves (env : Env) (m : Message) (s s' : GatewayState) : Prop :=
  ∃ sysvar accounts merklized r, merklized.leaf.message = m ∧
    process env ⟨sysvar, .approveMessage accounts merklized r⟩ s = .ok s'

/-- What an approval does to the records. -/
theorem approval_of_approves {env : Env} {m : Message} {s s' : GatewayState}
    (h : Approves env m s s') : Approval env m s s' := by
  obtain ⟨sysvar, accounts, merklized, r, rfl, ok⟩ := h
  cases process_message_cases ok with
  | silent e other record events =>
    obtain ⟨_, _, _, _, -, -, -, -, -, -, -, -, left⟩ := approveMessage_ok ok
    rw [left] at events
    have same := List.append_cancel_left (show _ ++ [_] = _ from events)
    cases e with
    | none => cases same
    | some e =>
      have none := other e rfl
      rw [Option.toList_some, List.singleton_inj] at same
      rw [← same] at none
      cases none
  | approve accounts' merklized' r' call approval =>
    cases call
    exact approval
  | execute accounts' m destination call execution => cases call

/-- **When two command ids differ.** For messages with different cross-chain ids:

1. the bytes that are hashed for them differ if and only if neither id overlaps the other;
2. in that case, when the hash function tells these bytes apart, the command ids differ, and an
   approval of one message leaves the record of the other alone;
3. otherwise the command ids are equal, and after an approval of one message no call approves the
   other. -/
theorem command_ids_differ_iff (env : Env) (p q : Message) (distinct : p.ccId ≠ q.ccId) :
    (p.ccId.commandIdBytes ≠ q.ccId.commandIdBytes ↔
      ¬ (p.ccId.Overlaps q.ccId ∨ q.ccId.Overlaps p.ccId)) ∧
    (¬ (p.ccId.Overlaps q.ccId ∨ q.ccId.Overlaps p.ccId) →
      Set.InjOn env.keccak {p.ccId.commandIdBytes, q.ccId.commandIdBytes} →
      p.commandId env.toCrates ≠ q.commandId env.toCrates ∧
      ∀ s s', Approves env p s s' →
        s'.incoming (q.commandId env.toCrates) = s.incoming (q.commandId env.toCrates)) ∧
    (p.ccId.Overlaps q.ccId ∨ q.ccId.Overlaps p.ccId →
      p.commandId env.toCrates = q.commandId env.toCrates ∧
      ∀ s s', Approves env p s s' → ∀ s'', ¬ Approves env q s' s'') := by
  have iff := CrossChainId.commandIdBytes_eq_iff distinct
  refine ⟨not_congr iff, ?_, ?_⟩
  · intro apart inj
    have ids : p.commandId env.toCrates ≠ q.commandId env.toCrates := by
      rw [Message.commandId_eq, Message.commandId_eq]
      intro same
      exact apart (iff.mp (inj (by simp) (by simp) same))
    refine ⟨ids, fun s s' approves => ?_⟩
    obtain ⟨incoming, record, -⟩ := (approval_of_approves approves).record
    rw [record, Function.update_of_ne ids.symm]
  · intro overlaps
    have ids : p.commandId env.toCrates = q.commandId env.toCrates := by
      rw [Message.commandId_eq, Message.commandId_eq, iff.mpr overlaps]
    refine ⟨ids, fun s s' approves s'' again => ?_⟩
    obtain ⟨incoming, record, -⟩ := (approval_of_approves approves).record
    -- the second message would need the record that the first has taken
    have fresh := (approval_of_approves again).fresh
    rw [record, ← ids, Function.update_self] at fresh
    cases fresh

/-- A message from a chain, with an id. -/
def sampleMessageFrom (chain id : String) : Message := { sampleMessage with ccId := ⟨chain, id⟩ }

/-- The sample set has signed a payload. -/
def sampleSigned : GatewayState :=
  run (process sampleEnv) GatewayState.initial (sampleInitialize :: sampleSign sampleLeafHash)

/-- **Two ids with one command id.** The ids are different, but the same bytes are hashed. In a state
that a run reaches the second message is approved when it comes alone, and refused after the first
one has been approved. -/
theorem approval_blocks_another :
    let p := sampleMessageFrom "avalanche" "fuji-7"
    let q := sampleMessageFrom "avalanche-fuji" "7"
    p.ccId ≠ q.ccId ∧ p.ccId.commandIdBytes = q.ccId.commandIdBytes ∧
    (∃ s', process sampleEnv (sampleApprove q) sampleSigned = .ok s') ∧
    ∃ s', process sampleEnv (sampleApprove p) sampleSigned = .ok s' ∧
      process sampleEnv (sampleApprove q) s' = .error Error.accountAlreadyInUse := by
  intro p q
  refine ⟨by decide, by decide, ⟨_, rfl⟩, _, rfl, rfl⟩

/-- Two ids of one chain do not overlap, and an approval of one leaves the other alone. -/
theorem command_ids_differ_iff_sample :
    (sampleMessageFrom "axelar" "1").ccId.commandIdBytes
      ≠ (sampleMessageFrom "axelar" "2").ccId.commandIdBytes := by
  have iff := (command_ids_differ_iff sampleEnv (sampleMessageFrom "axelar" "1")
    (sampleMessageFrom "axelar" "2") (by decide)).1
  refine iff.mpr ?_
  have chain : ∀ middle : String, "axelar" ≠ "axelar" ++ "-" ++ middle := by
    intro middle same
    have length := congrArg String.length same
    simp only [String.length_append] at length
    have : "-".length = 1 := rfl
    omega
  rintro (⟨middle, same, -⟩ | ⟨middle, same, -⟩)
  · exact chain middle same
  · exact chain middle same

end Gateway

end AxelarSolana
