import WispGate.Model.Android.BulkSocket

/-! # Receptions of assets

No asset is ever received. The loop counts the ciphertext it reads, the tag included, as written,
so the length it compares with the manifest is too large whatever the cipher returns. What holds of
altered streams, that nothing is returned and no file stays, holds of the correct ones as well.
-/

namespace WispGate.Soundness.AssetReception

open Data Model Model.Android Receiver

/-- An offer describes a plaintext within the limit of a response. -/
structure Describes (offer : InboundAssetOffer) (plaintext : Bytes) : Prop where
  size : offer.size = plaintext.length
  ciphertextSize : offer.ciphertextSize = plaintext.length + 16
  bound : plaintext.length ≤ 256 * 1024 * 1024

/-- The outputs of a cipher for the pieces it is given, and the cipher after them. -/
def updates (r : Receiver) (cipher : r.Cipher) : List Bytes → Option (Bytes × r.Cipher)
  | [] => some ([], cipher)
  | chunk :: rest =>
    match r.update cipher chunk with
    | (none, _) => none
    | (some output, cipher) => (updates r cipher rest).map fun more => (output ++ more.1, more.2)

/-- The cipher of the platform decrypts in pieces what the cipher decrypts at once. -/
def Streams (r : Receiver) (aead : Aead) : Prop :=
  ∀ key nonce aad cipher chunks plaintext, r.start key nonce aad = some cipher →
    aead.decrypt key nonce (List.flatten chunks) aad = .ok plaintext →
    ∃ output later final, updates r cipher chunks = some (output, later) ∧ r.doFinal later = some final ∧
      output ++ final.getD [] = plaintext

/-- A line of the relay that confirms what is waited for. -/
structure Answers (r : Receiver) (type : String) (line : Bytes) : Prop where
  ended : ∃ text, line = text ++ [10] ∧ 10 ∉ text ∧ text.length ≤ 64 * 1024 ∧ r.confirms type text = true

section Reception

variable (r : Receiver) (aead : Aead) (sender recipient sessionId : String) (key : Bytes)
  (offer : InboundAssetOffer) (plaintext : Bytes) (input : Segments)

/-- The stream of a correct transfer, however the socket splits it. -/
def Carries : Prop :=
  ∃ nonce ciphertext ready complete, r.decodeUrl offer.nonce = some nonce ∧
    aead.encrypt key nonce plaintext (offer.aad sessionId sender recipient) = .ok ciphertext ∧
    Answers r "bulk_ready" ready ∧ Answers r "bulk_complete" complete ∧
    input.flatten = ready ++ ciphertext ++ complete

/-- A correct stream gives an asset whose file is the plaintext, any other one an exception and no
file. -/
def Delivers : Prop :=
  (Carries r aead sender recipient sessionId key offer plaintext input →
    ∃ sent asset, r.receive true (some input) sender recipient sessionId key offer =
      { sent := sent, asset := some asset, file := some plaintext }) ∧
  (¬ Carries r aead sender recipient sessionId key offer plaintext input →
    (r.receive true (some input) sender recipient sessionId key offer).asset = none ∧
      (r.receive true (some input) sender recipient sessionId key offer).file = none)

variable {r aead sender recipient sessionId key offer plaintext input}

/-- The loop counts every byte it was to read. -/
theorem copy_written {remaining written total : ℕ} {cipher later : r.Cipher} {file whole : Bytes} {rest : Segments}
    (success : r.copy remaining cipher file written input = some (whole, total, later, rest)) :
    total = written + remaining := by
  induction remaining using Nat.strong_induction_on generalizing cipher file written input with
  | _ remaining ih =>
    unfold copy at success
    split at success
    · rename_i zero
      cases success
      exact zero.symm ▸ rfl
    · rename_i positive
      split at success
      · cases success
      · rename_i chunk rest read
        have length := Segments.read_length (by omega) read
        split at success
        · cases success
        · rename_i output cipher' updated
          have counted := ih (remaining - chunk.length) (by omega) success
          omega

/-- The length check of a described offer fails after every loop that ended. -/
theorem transfer_fails (describes : Describes offer plaintext) :
    r.transfer sender recipient sessionId key offer input = none := by
  cases result : r.transfer sender recipient sessionId key offer input with
  | none => rfl
  | some received =>
    simp only [transfer, bind, Option.bind_eq_some_iff] at result
    obtain ⟨ready, -, nonce, -, cipher, -, ⟨file, written, later, rest⟩, copied, final, -, result⟩ := result
    split at result
    · rename_i same
      have counted := copy_written copied
      have length : offer.ciphertextSize.toNat = plaintext.length + 16 := by
        rw [describes.ciphertextSize]
        omega
      rw [describes.size] at same
      replace same : ((written + (final.getD []).length : ℕ) : ℤ) = plaintext.length := same
      omega
    · cases result

variable (r sender recipient sessionId key input) in
theorem receive_fails (describes : Describes offer plaintext) :
    (r.receive true (some input) sender recipient sessionId key offer).asset = none ∧
      (r.receive true (some input) sender recipient sessionId key offer).file = none := by
  simp only [receive, transfer_fails describes, not_true_eq_false, if_false, and_self]

/-- For every asset up to the limit, every offer that describes it, and every way its stream is
split: `receive` does what it should just when the stream is not the correct one. -/
theorem delivers_iff (describes : Describes offer plaintext) :
    Delivers r aead sender recipient sessionId key offer plaintext input ↔
      ¬ Carries r aead sender recipient sessionId key offer plaintext input := by
  obtain ⟨nothing, empty⟩ := receive_fails r sender recipient sessionId key input describes
  constructor
  · intro delivers carries
    obtain ⟨sent, asset, received⟩ := delivers.1 carries
    have returned := congrArg Reception.asset received
    rw [nothing] at returned
    cases returned
  · intro altered
    exact ⟨fun carries => absurd carries altered, fun _ => ⟨nothing, empty⟩⟩

end Reception

/-! ## A correct stream -/

/-- A receiver whose cipher keeps what it is given until the end. -/
def sampleReceiver : Receiver where
  text _ := ""
  long _ := none
  blank c := c == ' '
  boolean _ := false
  parse text := (loadsBytes text).toOption
  decodeUrl text := (unb64 text).toOption
  Cipher := (Bytes → Except PyError Bytes) × Bytes
  start key nonce aad := some (fun ciphertext => paddedAead.decrypt key nonce ciphertext aad, [])
  update cipher chunk := (some [], cipher.1, cipher.2 ++ chunk)
  doFinal cipher := (cipher.1 cipher.2).toOption.map some

theorem sampleReceiver_streams : Streams sampleReceiver paddedAead := by
  have kept : ∀ (chunks : List Bytes) (decrypt : Bytes → Except PyError Bytes) (taken : Bytes),
      updates sampleReceiver (decrypt, taken) chunks = some ([], decrypt, taken ++ chunks.flatten) := by
    intro chunks
    induction chunks with
    | nil =>
      intro decrypt taken
      rw [List.flatten_nil, List.append_nil]
      rfl
    | cons chunk rest ih =>
      intro decrypt taken
      have later := ih decrypt (taken ++ chunk)
      simp only [updates, sampleReceiver] at later ⊢
      rw [later, List.flatten_cons, List.append_assoc]
      rfl
  intro key nonce aad cipher chunks plaintext started opened
  obtain rfl := Option.some.inj started
  refine ⟨[], _, some plaintext, kept chunks _ [], ?_, rfl⟩
  simp [sampleReceiver, opened, Except.toOption]

def sampleAnswer (type : String) : Json := .obj [("ok", .bool true), ("type", .str type)]

def sampleOffer : InboundAssetOffer := ⟨"t1", "f1", "qr.png", "image/png", 2, b64 (List.replicate 12 0), 18⟩

/-- The relay's answers with the ciphertext of a file between them, each in a read of its own. -/
def sampleStream : Segments :=
  [utf8 (sampleAnswer "bulk_ready").dumps ++ [10], [104, 105] ++ List.replicate 16 0,
    utf8 (sampleAnswer "bulk_complete").dumps ++ [10]]

theorem sampleAnswer_answers (type : String) (plain : 10 ∉ utf8 (sampleAnswer type).dumps)
    (short : (utf8 (sampleAnswer type).dumps).length ≤ 64 * 1024) :
    Answers sampleReceiver type (utf8 (sampleAnswer type).dumps ++ [10]) := by
  refine ⟨_, rfl, plain, short, ?_⟩
  simp only [confirms, sampleReceiver, loadsBytes_dumps, Except.toOption, Option.any_some]
  simp [sampleAnswer, optBoolean, Platform.optString, Platform.getString, Json.get, Json.has, Json.lookup]

theorem sampleStream_carries :
    Carries sampleReceiver paddedAead "wisp" "phone" "s1" (List.replicate 32 0) sampleOffer [104, 105] sampleStream := by
  have ready := sampleAnswer_answers "bulk_ready" (by decide) (by decide)
  have complete := sampleAnswer_answers "bulk_complete" (by decide) (by decide)
  refine ⟨List.replicate 12 0, _, _, _, ?_, rfl, ready, complete, by simp [sampleStream]⟩
  simp [sampleReceiver, sampleOffer, Except.toOption]

theorem sampleOffer_describes : Describes sampleOffer [104, 105] := ⟨rfl, rfl, by decide⟩

/-- The end of the stream cut off, and the property with it. -/
theorem delivers_truncated : Delivers sampleReceiver paddedAead "wisp" "phone" "s1" (List.replicate 32 0) sampleOffer
    [104, 105] [] := by
  refine (delivers_iff sampleOffer_describes).mpr ?_
  rintro ⟨nonce, ciphertext, ready, complete, -, -, ⟨text, rfl, -⟩, -, whole⟩
  simp at whole

/-- A cipher that works in pieces, a correct stream, and no asset. -/
theorem delivers_nothing :
    ¬ ∀ (r : Receiver) (aead : Aead) (sender recipient sessionId : String) (key : Bytes) (offer : InboundAssetOffer)
        (plaintext : Bytes) (input : Segments), Streams r aead → aead.Gcm → Describes offer plaintext →
        Delivers r aead sender recipient sessionId key offer plaintext input := by
  intro delivers
  obtain ⟨sent, asset, received⟩ := (delivers sampleReceiver paddedAead "wisp" "phone" "s1" (List.replicate 32 0)
    sampleOffer [104, 105] sampleStream sampleReceiver_streams paddedAead_gcm sampleOffer_describes).1
    sampleStream_carries
  have returned := congrArg Reception.asset received
  rw [(receive_fails sampleReceiver _ _ _ _ _ sampleOffer_describes).1] at returned
  cases returned

end WispGate.Soundness.AssetReception
