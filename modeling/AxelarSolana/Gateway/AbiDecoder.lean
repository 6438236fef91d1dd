import AxelarSolana.Gateway.Payload

/-! # The zero-copy ABI decoder

`decode_abi_encoding` reads the raw tokens; only a debug build compares the result with the owned,
validated decode.

* **`BuildsAgree`** — both builds give the same result, which is that of the validated decode.
* **`ReadableInput`** — the offsets, lengths and flags that a release build checks.
* **`builds_agree_iff`** — the builds agree exactly on the inputs that are not readable or are laid
  out compactly, with all of the payload's padding there and zero; **`builds_disagree`** — a trailing
  word is accepted by a release build only. -/

namespace AxelarSolana.Gateway

open Fallible AxelarMessagePayload

variable {alloy : Alloy}

/-- **The builds agree on an input**: the same result with and without debug assertions, the
accepted values are those of the validated decode, and they re-encode to the input. -/
def BuildsAgree (alloy : Alloy) (data : Bytes) : Prop :=
  decodeAbiEncoding alloy true data = decodeAbiEncoding alloy false data ∧
    (∀ v, extractPayloadSliceAndSolanaAccounts alloy data = .ok v ↔
      alloy.abiDecodeParams data = some v) ∧
    ∀ b as, decodeAbiEncoding alloy false data = .ok (b, as) → alloy.abiEncodeParams b as = data

/-- **Readable inputs**: two tails inside the input, the second one of accounts whose flags are zero
or one. Padding is not looked at. -/
def ReadableInput (data : Bytes) : Prop :=
  ∃ first len second count, Abi.Readable 96 data first len second count ∧
    ∀ i < count, ∃ signer writable,
      Abi.natAt data (second + 32 + 96 * i + 32) = some signer ∧ signer ≤ 1 ∧
      Abi.natAt data (second + 32 + 96 * i + 64) = some writable ∧ writable ≤ 1

/-- The words of an account stand where its index says. -/
theorem natAt_tokens {data : Bytes} {second : Nat} {ws : List AccountTokens}
    (h : Abi.elementsAt tokensCodec data second = some ws) {i : Nat} {t : AccountTokens}
    (hi : ws[i]? = some t) :
    Abi.natAt data (second + 32 + 96 * i + 32) = some (Abi.toNat t.2.1.toList) ∧
      Abi.natAt data (second + 32 + 96 * i + 64) = some (Abi.toNat t.2.2.toList) := by
  obtain ⟨-, body, rest, hbody, hdata⟩ := Abi.elementsAt_eq_some.mp h
  obtain ⟨e, after, henc, hdrop⟩ := tokensCodec_fixedSize.drop_encodeList hbody hi rest
  rw [tokensCodec_encode] at henc
  cases henc
  have element : data.drop (second + 32 + 96 * i) =
      t.1.toList ++ (t.2.1.toList ++ (t.2.2.toList ++ after)) := by
    rw [← List.drop_drop, hdata, hdrop, List.append_assoc, List.append_assoc]
  have signer : data.drop (second + 32 + 96 * i + 32) =
      t.2.1.toList ++ (t.2.2.toList ++ after) := by
    rw [← List.drop_drop, element, List.drop_left' t.1.toList_length]
  have writable : data.drop (second + 32 + 96 * i + 32 + 32) = t.2.2.toList ++ after := by
    rw [← List.drop_drop, signer, List.drop_left' t.2.1.toList_length]
  exact ⟨Abi.natAt_of_drop t.2.1.toList_length signer,
    Abi.natAt_of_drop t.2.2.toList_length writable⟩

/-- **Exactly the readable inputs are accepted** by the zero-copy decoder. -/
theorem extract_isOk_iff (spec : AlloySpec alloy) {data : Bytes} :
    (∃ v, extractPayloadSliceAndSolanaAccounts alloy data = .ok v) ↔ ReadableInput data := by
  constructor
  · rintro ⟨⟨b, as⟩, accepted⟩
    have decoded := extract_eq_ok.mp accepted
    rw [spec.decodeSequence] at decoded
    obtain ⟨first, len, second, count, readable⟩ :=
      (Abi.decodeParams_isSome_iff tokensCodec_fixedSize).mp ⟨_, decoded⟩
    obtain ⟨_, second', -, -, hsecond, helements⟩ := Abi.decodeParams_eq_some.mp decoded
    rw [readable.second_at] at hsecond
    cases hsecond
    have hcount := (Abi.elementsAt_eq_some.mp helements).1
    rw [readable.count_at] at hcount
    cases hcount
    -- the flags are those of tokens that were read as booleans
    refine ⟨first, len, second, _, readable, fun i hi => ?_⟩
    have token : (as.map SolanaAccountRepr.tokens)[i]? =
        some ((as.map SolanaAccountRepr.tokens)[i]) := List.getElem?_eq_getElem hi
    obtain ⟨signer, writable⟩ := natAt_tokens helements token
    rw [List.getElem_map] at signer writable
    refine ⟨_, _, signer, ?_, writable, ?_⟩
    · rw [SolanaAccountRepr.tokens, toNat_boolWord]
      exact Bool.toNat_le _
    · rw [SolanaAccountRepr.tokens, toNat_boolWord]
      exact Bool.toNat_le _
  · rintro ⟨first, len, second, count, readable, flags⟩
    obtain ⟨⟨b, ws⟩, decoded⟩ :=
      (Abi.decodeParams_isSome_iff tokensCodec_fixedSize).mpr ⟨_, _, _, _, readable⟩
    obtain ⟨_, second', -, -, hsecond, helements⟩ := Abi.decodeParams_eq_some.mp decoded
    rw [readable.second_at] at hsecond
    cases hsecond
    have hcount := (Abi.elementsAt_eq_some.mp helements).1
    rw [readable.count_at] at hcount
    cases hcount
    -- every token was read with flags 0 or 1, so it is one of an account
    obtain ⟨as, words⟩ : ∃ as, ws.mapM accountOfTokens = .ok as := by
      refine ⟨ws.map fun t =>
        ⟨t.1, Abi.toNat t.2.1.toList = 1, Abi.toNat t.2.2.toList = 1⟩, mapM_eq_ok_map ?_⟩
      intro t mem
      obtain ⟨i, hi⟩ := List.mem_iff_getElem?.mp mem
      obtain ⟨inRange, -⟩ := List.getElem?_eq_some_iff.mp hi
      obtain ⟨signer, writable, hs, small, hw, small'⟩ := flags i inRange
      obtain ⟨hs', hw'⟩ := natAt_tokens helements hi
      rw [hs'] at hs
      rw [hw'] at hw
      cases hs
      cases hw
      simp only [accountOfTokens, bind_eq_ok, require_eq_ok, pure_eq_ok, exists_unit]
      exact ⟨small, small', trivial⟩
    refine ⟨(b, as), ?_⟩
    rw [extract_eq_ok, spec.decodeSequence, decoded,
      (mapM_eq_ok_iff accountOfTokens_eq_ok).mp words]

/-- The parts of a decoded input are shorter than the input. -/
theorem length_le_of_decodeParams {data b : Bytes} {ws : List AccountTokens}
    (h : Abi.decodeParams tokensCodec data = some (b, ws)) :
    b.length ≤ data.length ∧ ws.length ≤ data.length := by
  obtain ⟨first, second, -, hb, -, hes⟩ := Abi.decodeParams_eq_some.mp h
  obtain ⟨-, rest, hrest⟩ := Abi.bytesAt_eq_some.mp hb
  obtain ⟨-, body, after, hbody, hafter⟩ := Abi.elementsAt_eq_some.mp hes
  obtain ⟨body', hbody', size⟩ := tokensCodec_fixedSize.encodeList ws
  rw [hbody] at hbody'
  cases hbody'
  have room := congrArg List.length hrest
  have room' := congrArg List.length hafter
  rw [List.length_drop, List.length_append] at room room'
  omega

/-- On an accepted input the builds agree exactly when the accepted value re-encodes to it. -/
theorem buildsAgree_iff_of_ok (spec : AlloySpec alloy) {data b : Bytes}
    {as : List SolanaAccountRepr}
    (accepted : extractPayloadSliceAndSolanaAccounts alloy data = .ok (b, as)) :
    BuildsAgree alloy data ↔ alloy.abiEncodeParams b as = data := by
  have tokens := extract_eq_ok.mp accepted
  have release : decodeAbiEncoding alloy false data = .ok (b, as) :=
    (decodeAbiEncoding_eq_ok spec).mpr ⟨tokens, fun on => absurd on Bool.false_ne_true⟩
  constructor
  · rintro ⟨-, -, reencodes⟩
    exact reencodes b as release
  · intro same
    have debug : decodeAbiEncoding alloy true data = .ok (b, as) :=
      (decodeAbiEncoding_eq_ok spec).mpr ⟨tokens, fun _ => same⟩
    have owned := spec.abiDecodeParams.mpr ⟨tokens, same⟩
    refine ⟨debug.trans release.symm, fun v => ?_, ?_⟩
    · rw [accepted, owned, Except.ok.injEq, Option.some.injEq]
    · intro b' as' decoded
      rw [release] at decoded
      cases decoded
      exact same

/-- On a rejected input the builds agree. -/
theorem buildsAgree_of_error (spec : AlloySpec alloy) {data : Bytes} {e : Error}
    (rejected : extractPayloadSliceAndSolanaAccounts alloy data = .error e) :
    BuildsAgree alloy data := by
  have both (debugAssertions : Bool) :
      decodeAbiEncoding alloy debugAssertions data = .error e := by
    rw [decodeAbiEncoding, rejected]
    rfl
  refine ⟨(both true).trans (both false).symm, fun v => ?_, ?_⟩
  · rw [rejected]
    constructor
    · rintro ⟨⟩
    · intro owned
      obtain ⟨b, as⟩ := v
      have accepted := extract_eq_ok.mpr (spec.abiDecodeParams.mp owned).1
      rw [rejected] at accepted
      cases accepted
  · intro b as decoded
    rw [both false] at decoded
    cases decoded

/-- **When the zero-copy decoder agrees with the validated one.** On every slice, the two builds
give the result of the validated decode if and only if the input is not readable at all or is laid
out compactly: the payload's tail directly after the head, its padding complete and zero, the accounts'
tail directly after that, and nothing behind the last account. -/
theorem builds_agree_iff (spec : AlloySpec alloy) {data : Bytes} (slice : data.length < 2 ^ 63) :
    BuildsAgree alloy data ↔ (ReadableInput data → Abi.Compact 96 data) := by
  cases result : extractPayloadSliceAndSolanaAccounts alloy data with
  | error e =>
    have unreadable : ¬ ReadableInput data := by
      intro readable
      obtain ⟨v, accepted⟩ := (extract_isOk_iff spec).mpr readable
      rw [result] at accepted
      cases accepted
    exact ⟨fun _ readable => absurd readable unreadable,
      fun _ => buildsAgree_of_error spec result⟩
  | ok v =>
    obtain ⟨b, as⟩ := v
    have readable := (extract_isOk_iff spec).mp ⟨_, result⟩
    have decoded := extract_eq_ok.mp result
    rw [spec.decodeSequence] at decoded
    obtain ⟨hb, ha⟩ := length_le_of_decodeParams decoded
    rw [List.length_map] at ha
    have compact := Abi.encodeParams_eq_iff_compact tokensCodec_fixedSize (by omega)
      (by rw [List.length_map]; omega) decoded
    rw [spec.encode (by omega) (by omega), Option.some.injEq] at compact
    rw [buildsAgree_iff_of_ok spec result, compact]
    exact ⟨fun h _ => h, fun h => h readable⟩

/-- The encoding of no bytes and no accounts, with one more word. -/
def trailingWord : Bytes :=
  Abi.word 64 ++ Abi.word 96 ++ Abi.word 0 ++ Abi.word 0 ++ Abi.word 0

/-- **A trailing word** is accepted by a release build and rejected by a debug build. -/
theorem builds_disagree :
    decodeAbiEncoding sampleAlloy false trailingWord = .ok ([], []) ∧
      decodeAbiEncoding sampleAlloy true trailingWord =
        .error GatewayError.payloadAbiError.err ∧
      ¬ BuildsAgree sampleAlloy trailingWord := by
  have release : decodeAbiEncoding sampleAlloy false trailingWord = .ok ([], []) := by
    decide +kernel
  have debug : decodeAbiEncoding sampleAlloy true trailingWord =
      .error GatewayError.payloadAbiError.err := by
    decide +kernel
  refine ⟨release, debug, fun agree => ?_⟩
  have same := agree.1
  rw [release, debug] at same
  cases same

/-- One byte of payload and no accounts, where the last byte of the padding is not zero. -/
def dirtyPadding : Bytes :=
  Abi.word 64 ++ Abi.word 128 ++ Abi.word 1 ++ (9 :: List.replicate 30 0 ++ [1]) ++ Abi.word 0

/-- `dirtyPadding` is readable. -/
theorem dirtyPadding_readable : ReadableInput dirtyPadding :=
  ⟨64, 1, 128, 0, ⟨by decide +kernel, by decide +kernel, by decide +kernel, by decide +kernel,
    by decide +kernel, by decide +kernel⟩, fun _ none' => absurd none' (Nat.not_lt_zero _)⟩

/-- `dirtyPadding` is not laid out compactly. -/
theorem dirtyPadding_not_compact : ¬ Abi.Compact 96 dirtyPadding := by
  rintro ⟨len, count, -, length, -, zeros, -⟩
  rw [show Abi.natAt dirtyPadding 64 = some 1 by decide +kernel] at length
  cases length
  exact absurd zeros (by decide +kernel)

/-- Without the trailing word the builds agree; where the padding is not zero they do not. -/
theorem builds_agree_iff_sample :
    BuildsAgree sampleAlloy (Abi.word 64 ++ Abi.word 96 ++ Abi.word 0 ++ Abi.word 0) ∧
      ¬ BuildsAgree sampleAlloy dirtyPadding := by
  constructor
  · exact (builds_agree_iff sampleAlloy_spec (by decide +kernel)).mpr fun _ =>
      ⟨0, 0, by decide +kernel, by decide +kernel, by decide +kernel, by decide +kernel,
        by decide +kernel, by decide +kernel⟩
  · intro agree
    have compact := (builds_agree_iff sampleAlloy_spec (by decide +kernel)).mp agree
    exact dirtyPadding_not_compact (compact dirtyPadding_readable)

end AxelarSolana.Gateway
