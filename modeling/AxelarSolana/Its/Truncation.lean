import AxelarSolana.Its.Inbound
import AxelarSolana.Library.Utf8

/-! # Truncated names

* **`isCharBoundary_iff`** — the boundaries of a string are where it can be cut into strings.
* **`truncateUtf8_longest`** — `truncate_utf8` always ends, with the longest fitting prefix.
* **`enforceNameLimits`** — a metadata program that refuses long names: inbound deployments do not
  notice it.
* **`truncated_names`** — both together. -/

namespace AxelarSolana.Its

open Codec Fallible

/-! ## Boundaries -/

/-- A string that begins another one is what its first bytes are. -/
theorem prefix_and_length_iff {s t : String} {i : Nat} :
    utf8 t <+: utf8 s ∧ (utf8 t).length = i ↔
      i ≤ (utf8 s).length ∧ utf8 t = (utf8 s).take i := by
  constructor
  · rintro ⟨isPrefix, rfl⟩
    exact ⟨isPrefix.length_le, List.prefix_iff_eq_take.mp isPrefix⟩
  · rintro ⟨fits, same⟩
    rw [same]
    exact ⟨List.take_prefix i _, by rw [List.length_take]; omega⟩

/-- **The boundaries of a string** are the lengths of the strings it begins with. -/
theorem isCharBoundary_iff {s : String} {i : Nat} :
    isCharBoundary (utf8 s) i = true ↔ ∃ t, utf8 t <+: utf8 s ∧ (utf8 t).length = i := by
  simp only [prefix_and_length_iff, exists_and_left]
  unfold isCharBoundary
  by_cases inside : i < (utf8 s).length
  · rw [Utf8.exists_take_iff inside.le, List.getElem?_eq_getElem inside]
    by_cases first : i = 0
    · -- the first byte of a string begins a character
      subst first
      have begins : ∃ t, utf8 t = (utf8 s).take 0 := ⟨"", rfl⟩
      rw [Utf8.exists_take_iff inside.le, List.getElem?_eq_getElem inside] at begins
      simpa using begins
    · simp only [Utf8.IsContinuation]
      grind
  · rw [List.getElem?_eq_none (by omega)]
    by_cases last : i = (utf8 s).length
    · simp [last]
    · have beyond : ¬ i ≤ (utf8 s).length := by omega
      simp [last, beyond]

/-- The loop ends at the last boundary that is not above where it starts: zero is a boundary. -/
theorem charBoundaryFrom_last (b : Bytes) (cut : Nat) :
    ∃ i ≤ cut, charBoundaryFrom b cut = .ok i ∧ isCharBoundary b i = true ∧
      ∀ j ≤ cut, isCharBoundary b j = true → j ≤ i := by
  induction cut with
  | zero =>
    have zero : isCharBoundary b 0 = true := by
      unfold isCharBoundary
      cases b <;> simp
    refine ⟨0, le_rfl, ?_, zero, fun j below _ => below⟩
    rw [charBoundaryFrom, if_pos zero]
    rfl
  | succ cut ih =>
    by_cases here : isCharBoundary b (cut + 1) = true
    · refine ⟨cut + 1, le_rfl, ?_, here, fun j below _ => below⟩
      rw [charBoundaryFrom, if_pos here]
      rfl
    · obtain ⟨i, below, ends, boundary, last⟩ := ih
      refine ⟨i, by omega, ?_, boundary, fun j low isBoundary => ?_⟩
      · rw [charBoundaryFrom, if_neg here]
        exact ends
      · have : j ≠ cut + 1 := by
          rintro rfl
          exact here isBoundary
        exact last j (by omega) isBoundary

/-! ## `truncate_utf8` -/

/-- **`truncate_utf8` keeps the longest fitting prefix**: it neither underflows nor panics, and every
string that the name begins with and that fits begins what is left. -/
theorem truncateUtf8_longest (s : String) (maxBytes : Nat) :
    ∃ t, truncateUtf8 s maxBytes = .ok t ∧ utf8 t <+: utf8 s ∧ (utf8 t).length ≤ maxBytes ∧
      ∀ u, utf8 u <+: utf8 s → (utf8 u).length ≤ maxBytes → utf8 u <+: utf8 t := by
  unfold truncateUtf8
  split
  case isTrue fits =>
    exact ⟨s, rfl, List.prefix_refl _, fits, fun u begins _ => begins⟩
  case isFalse long =>
    obtain ⟨i, below, ends, boundary, last⟩ := charBoundaryFrom_last (utf8 s) maxBytes
    obtain ⟨t, begins, length⟩ := isCharBoundary_iff.mp boundary
    have cutOff : ofUtf8 ((utf8 s).take i) = some t := by
      rw [ofUtf8_eq_some, ← length]
      exact List.prefix_iff_eq_take.mp begins
    refine ⟨t, ?_, begins, by omega, fun u begins' fits => ?_⟩
    · refine bind_eq_ok.mpr ⟨i, ends, ?_⟩
      rw [cutOff]
      rfl
    · -- the end of `u` is a boundary below the limit, so it is not above the one that was found
      have shorter := last _ fits (isCharBoundary_iff.mpr ⟨u, begins', rfl⟩)
      exact List.prefix_of_prefix_length_le begins' begins (by omega)

example : truncateUtf8 "aéz" 2 = .ok "a" := by decide +kernel

/-- A string that fits stays as it is. -/
theorem truncateUtf8_of_fits {s : String} {maxBytes : Nat} (h : (utf8 s).length ≤ maxBytes) :
    truncateUtf8 s maxBytes = .ok s := if_pos h

/-! ## Inbound deployments -/

/-- **A metadata program that refuses long names and symbols**, with any error, and otherwise does
what the given programs do. -/
def enforceNameLimits (tooLong : Error)
    (tokens : TokenInstruction → List Pubkey → TokenState → Except Error TokenState)
    (instruction : TokenInstruction) (signers : List Pubkey) (t : TokenState) :
    Except Error TokenState :=
  match instruction with
  | .createV1 _ _ _ _ name symbol => do
    require (name.utf8ByteSize ≤ maxNameLength ∧ symbol.utf8ByteSize ≤ maxSymbolLength) tooLong
    tokens instruction signers t
  | _ => tokens instruction signers t

/-- The environment with the limits enforced. -/
def Env.withNameLimits (env : Env) (tooLong : Error) : Env :=
  { env with tokens := enforceNameLimits tooLong env.tokens }

variable {env : Env} {tooLong : Error} {ctx : Ctx}

/-- The limits do not matter for names within them. -/
theorem createTokenMetadata_withNameLimits {metadata mint tokenManager payer : Pubkey}
    {name symbol : String} {s : World} (hName : name.utf8ByteSize ≤ maxNameLength)
    (hSymbol : symbol.utf8ByteSize ≤ maxSymbolLength) :
    createTokenMetadata (env.withNameLimits tooLong) ctx metadata mint tokenManager payer name
      symbol s = createTokenMetadata env ctx metadata mint tokenManager payer name symbol s := by
  unfold createTokenMetadata tokenCall Env.withNameLimits
  simp only [enforceNameLimits, require_pos (And.intro hName hSymbol)]
  rfl

/-- **An inbound deployment never fails the limits on names**: whatever name and symbol the message
has, it makes no difference whether the metadata program enforces them. -/
theorem executeDeployInterchainToken_withNameLimits {a : ExecuteDeployInterchainToken}
    {tokenId : Bytes32} {name symbol : String} {decimals : UInt8} {minter : Bytes} {s : World} :
    executeDeployInterchainToken (env.withNameLimits tooLong) ctx a tokenId name symbol decimals
      minter s =
    executeDeployInterchainToken env ctx a tokenId name symbol decimals minter s := by
  obtain ⟨name', cutName, -, hName, -⟩ := truncateUtf8_longest name maxNameLength
  obtain ⟨symbol', cutSymbol, -, hSymbol, -⟩ := truncateUtf8_longest symbol maxSymbolLength
  have cutName : truncateUtf8 name maxNameLength = pure name' := cutName
  have cutSymbol : truncateUtf8 symbol maxSymbolLength = pure symbol' := cutSymbol
  unfold executeDeployInterchainToken
  simp only [cutName, cutSymbol, pure_bind, createTokenMetadata_withNameLimits hName hSymbol]
  rfl

/-- **Truncated names**: `truncate_utf8` returns the longest prefix that is a string and fits, the
string itself when it fits, and inbound deployments never fail the limits of the metadata
program. -/
theorem truncated_names (env : Env) (tooLong : Error) :
    (∀ s maxBytes, ∃ t, truncateUtf8 s maxBytes = .ok t ∧ utf8 t <+: utf8 s ∧
      (utf8 t).length ≤ maxBytes ∧
      (∀ u, utf8 u <+: utf8 s → (utf8 u).length ≤ maxBytes → utf8 u <+: utf8 t) ∧
      ((utf8 s).length ≤ maxBytes → t = s)) ∧
    ∀ ctx a tokenId name symbol decimals minter s,
      executeDeployInterchainToken (env.withNameLimits tooLong) ctx a tokenId name symbol decimals
        minter s =
      executeDeployInterchainToken env ctx a tokenId name symbol decimals minter s := by
  refine ⟨fun s maxBytes => ?_, fun _ _ _ _ _ _ _ _ => executeDeployInterchainToken_withNameLimits⟩
  obtain ⟨t, cut, begins, fits, longest⟩ := truncateUtf8_longest s maxBytes
  refine ⟨t, cut, begins, fits, longest, fun whole => ?_⟩
  exact Except.ok.inj (cut.symm.trans (truncateUtf8_of_fits whole))

end AxelarSolana.Its
