import WispGate.Model.BulkStreams
import WispGate.Soundness.Transcripts
import WispGate.Soundness.UploadPairing

/-! # An upload however its streams are cut

The three byte loops of an upload do what encrypting, handing on and decrypting the whole would. So the
Wisp's callback gets the contents that Android read, wherever reads and sockets cut them, and with any
relay it gets contents that were sealed for its files, or is not run.
-/

namespace WispGate.Soundness.UploadStreams

open Data Model Model.Android Model.Wisp Model.Upload Model.BulkStreams UploadPairing

/-! ## Ciphers in pieces -/

/-- What is encrypted in pieces is what the cipher makes of the whole. -/
structure Encrypts (e : Encryptor) (aead : Aead) : Prop where
  starts : ∀ {key nonce data aad ciphertext : Bytes}, aead.encrypt key nonce data aad = .ok ciphertext →
    ∃ state, e.start key nonce aad = .ok state
  joins : ∀ {key nonce aad : Bytes} {state} (pieces : List Bytes), e.start key nonce aad = .ok state →
    aead.encrypt key nonce pieces.flatten aad = .ok ((feed e.update state pieces).1 ++
      e.finish (feed e.update state pieces).2)

/-- What is decrypted in pieces, with its tag at the end, is what the cipher makes of the whole. -/
structure Decrypts (d : Decryptor) (aead : Aead) : Prop where
  refuses : ∀ {key nonce aad : Bytes} {cause : PyError} (ciphertext : Bytes), d.start key nonce aad = .error cause →
    aead.decrypt key nonce ciphertext aad = .error cause
  joins : ∀ {key nonce aad tag : Bytes} {state} (pieces : List Bytes), d.start key nonce aad = .ok state →
    tag.length = 16 → aead.decrypt key nonce (pieces.flatten ++ tag) aad =
      (d.finalizeWithTag (feed d.update state pieces).2 tag).map ((feed d.update state pieces).1 ++ ·)

/-! ## The loops -/

section Loops

variable {d : Decryptor} {aead : Aead} {hkdf : Hkdf} {job : Job} {incoming : IncomingFile} {arrived : Segments}

/-- The loop feeds its cipher the blocks of the stream. -/
theorem receiveChunks_eq (remaining : ℕ) (state : d.State) (written : Bytes) (arrived : Segments) :
    receiveChunks d remaining state written arrived =
      (readBlocks blockSize blockSize_pos remaining arrived).2.map fun rest =>
        (written ++ (feed d.update state (readBlocks blockSize blockSize_pos remaining arrived).1).1,
          (feed d.update state (readBlocks blockSize blockSize_pos remaining arrived).1).2, rest) := by
  induction remaining using Nat.strongRecOn generalizing state written arrived with
  | ind remaining ih =>
    rw [receiveChunks, readBlocks]
    by_cases zero : remaining = 0
    · rw [dif_pos zero, dif_pos zero]
      simp [feed]
    · rw [dif_neg zero, dif_neg zero]
      cases taken : takeExactly (min blockSize remaining) arrived with
      | none => rfl
      | some read =>
        obtain ⟨chunk, rest⟩ := read
        have less : remaining - min blockSize remaining < remaining := by
          have positive := blockSize_pos
          omega
        dsimp only
        rw [ih _ less, feed_cons]
        simp only [List.append_assoc]

/-- With as many bytes as announced the Wisp gets what it would get from all of them at once. -/
theorem receiveBulkFile_eq (decrypts : Decrypts d aead) (tagged : 16 ≤ ciphertextSize incoming)
    (enough : ciphertextSize incoming ≤ arrived.flatten.length) :
    receiveBulkFile job d hkdf incoming arrived =
      receiveContent job aead hkdf incoming (arrived.flatten.take (ciphertextSize incoming)) := by
  unfold receiveBulkFile receiveContent
  cases nonces : receiveNonce incoming with
  | error e => rfl
  | ok nonce =>
    cases keys : job.session.bulkKey hkdf job.transferId false with
    | error e => rfl
    | ok fileKey =>
      dsimp only
      cases started : d.start fileKey nonce (bulkAad job.session.sessionId job.transfer.sender job.clientId
          job.transferId incoming.id incoming.size) with
      | error e =>
        rw [decrypts.refuses _ started]
      | ok state =>
        obtain ⟨blocks, rest, read, flat, after, -⟩ := readBlocks_of_le blockSize blockSize_pos
          (show ciphertextSize incoming - 16 ≤ arrived.flatten.length by omega)
        have last : 16 ≤ rest.flatten.length := by
          rw [after, List.length_drop]
          omega
        obtain ⟨left, taken, -⟩ := takeExactly_of_le last
        have whole : blocks.flatten ++ rest.flatten.take 16 = arrived.flatten.take (ciphertextSize incoming) := by
          rw [flat, after, ← List.take_add]
          congr 1
          omega
        have tag : (rest.flatten.take 16).length = 16 := by
          rw [List.length_take]
          omega
        dsimp only
        rw [receiveChunks_eq, read, ← whole, decrypts.joins blocks started tag]
        simp only [Option.map_some, List.nil_append, taken]
        cases d.finalizeWithTag (feed d.update state blocks).2 (rest.flatten.take 16) with
        | error e => rfl
        | ok final => rfl

/-- With fewer bytes it gets nothing. -/
theorem receiveBulkFile_short (tagged : 16 ≤ ciphertextSize incoming)
    (short : arrived.flatten.length < ciphertextSize incoming) (content : Bytes) :
    receiveBulkFile job d hkdf incoming arrived ≠ .ok content := by
  intro received
  unfold receiveBulkFile at received
  split at received
  · split at received
    · cases received
    · rw [receiveChunks_eq] at received
      by_cases enough : ciphertextSize incoming - 16 ≤ arrived.flatten.length
      · obtain ⟨blocks, rest, read, -, after, -⟩ := readBlocks_of_le blockSize blockSize_pos enough
        have few : rest.flatten.length < 16 := by
          rw [after, List.length_drop]
          omega
        rw [read] at received
        simp only [Option.map_some, takeExactly_of_lt few] at received
        cases received
      · obtain ⟨blocks, read, -⟩ := readBlocks_of_lt blockSize blockSize_pos
          (show arrived.flatten.length < ciphertextSize incoming - 16 by omega)
        rw [read] at received
        cases received
  · cases received
  · cases received

end Loops

/-! ## An honest relay -/

/-- How a file travels: in the reads of Android, the segments at the relay and those at the Wisp. -/
structure Journey where
  reads : List Bytes
  toRelay : Segments
  toWisp : Segments

/-- The reads are those of the file, and the sockets deliver what was written to them. Behind the chunks the
relay writes its completion line. -/
structure Journey.Honest (e : Encryptor) (upload : PreparedBulkUpload) (j : Journey) : Prop where
  file : j.reads.flatten = upload.file.content
  relay : j.toRelay.flatten = (BulkStreams.encryptTo e upload j.reads).1
  wisp : ∃ completion, j.toWisp.flatten =
    (copyBulkCiphertext upload.ciphertextSize j.toRelay).1.flatten ++ completion

section Honest

variable {e : Encryptor} {d : Decryptor} {aead : Aead} {hkdf : Hkdf} {upload : PreparedBulkUpload} {ciphertext : Bytes}

/-- Whatever the reads return of a file, `encryptTo` writes its ciphertext. -/
theorem encryptTo_eq (encrypts : Encrypts e aead) (sealed : upload.encryptTo aead = .ok ciphertext) {reads : List Bytes}
    (file : reads.flatten = upload.file.content) :
    BulkStreams.encryptTo e upload reads = (ciphertext, .ok upload.ciphertextSize) := by
  unfold PreparedBulkUpload.encryptTo at sealed
  split at sealed
  · cases sealed
  · rename_i nonce decoded
    split at sealed
    · cases sealed
    · rename_i whole encrypted
      split_ifs at sealed with length
      cases sealed
      obtain ⟨state, started⟩ := encrypts.starts encrypted
      have joined := encrypts.joins reads started
      rw [file, encrypted] at joined
      unfold BulkStreams.encryptTo
      rw [decoded]
      dsimp only
      rw [started]
      dsimp only
      rw [← Except.ok.inj joined, if_pos length, length]

/-- The relay hands on every byte of the announced length. -/
theorem copyBulkCiphertext_all {arrived : Segments} {length : ℕ} (same : arrived.flatten.length = length) :
    ∃ chunks rest, copyBulkCiphertext length arrived = (chunks, some rest) ∧ chunks.flatten = arrived.flatten ∧
      rest.flatten = [] := by
  obtain ⟨chunks, rest, read, flat, after, -⟩ := readBlocks_of_le blockSize blockSize_pos (Nat.le_of_eq same.symm)
  refine ⟨chunks, rest, read, ?_, ?_⟩
  · rw [flat, List.take_of_length_le (Nat.le_of_eq same)]
  · rw [after, List.drop_eq_nil_of_le (Nat.le_of_eq same)]

/-- A file of a plan arrives. -/
theorem journey_arrives (encrypts : Encrypts e aead) (decrypts : Decrypts d aead) {job : Job} {key : String} {index : ℕ}
    {file : IncomingFile} (plan : Plan job aead hkdf key index upload file ciphertext) {j : Journey}
    (honest : j.Honest e upload) :
    (BulkStreams.encryptTo e upload j.reads).2 = .ok upload.ciphertextSize ∧
      (∃ rest, (copyBulkCiphertext upload.ciphertextSize j.toRelay).2 = some rest ∧ rest.flatten = []) ∧
      receiveBulkFile job d hkdf file j.toWisp = .ok upload.file.content := by
  have written := encryptTo_eq encrypts plan.sealed honest.file
  have sized : ciphertext.length = upload.ciphertextSize := by
    have sealed := plan.sealed
    unfold PreparedBulkUpload.encryptTo at sealed
    split at sealed
    · cases sealed
    · split at sealed
      · cases sealed
      · split_ifs at sealed with length
        cases sealed
        exact length
  have relayed := honest.relay
  rw [written] at relayed
  dsimp only at relayed
  rw [← relayed] at sized
  obtain ⟨chunks, rest, copied, flat, nothing⟩ := copyBulkCiphertext_all sized
  rw [relayed] at sized
  obtain ⟨completion, delivered⟩ := honest.wisp
  rw [copied, flat, relayed] at delivered
  have announced : ciphertextSize file = ciphertext.length := plan.size
  have tagged : 16 ≤ ciphertextSize file := by
    rw [announced, sized, PreparedBulkUpload.ciphertextSize]
    omega
  refine ⟨by rw [written], ⟨rest, by rw [copied], nothing⟩, ?_⟩
  rw [receiveBulkFile_eq decrypts tagged (by rw [delivered, List.length_append]; omega), delivered, announced,
    List.take_left]
  exact plan.content

theorem exposed_announced (prepared : List PreparedBulkUpload) (index : ℕ) :
    exposed (prepared.mapIdx fun place => announced (index + place)) (prepared.map fun upload => upload.file.content) =
      prepared.map fun upload =>
        ⟨upload.file.field, upload.file.name, upload.file.contentType, upload.file.size, upload.file.content⟩ := by
  induction prepared generalizing index with
  | nil => rfl
  | cons upload rest ih =>
    have later := ih (index + 1)
    simp only [Nat.add_assoc, Nat.add_comm 1] at later
    rw [List.mapIdx_cons, List.map_cons, List.map_cons, exposed, List.zipWith_cons_cons, ← exposed, later]
    rfl

/-- The files of a plan each arrive on their own journeys. -/
theorem journeys_arrive (encrypts : Encrypts e aead) (decrypts : Decrypts d aead) {job : Job} {key : String}
    {prepared : List PreparedBulkUpload} {journeys : List Journey} (index : ℕ)
    (plans : ∀ place upload, prepared[place]? = some upload → ∃ ciphertext,
      Plan job aead hkdf key (index + place) upload (announced (index + place) upload) ciphertext)
    (honest : List.Forall₂ (fun upload j => Journey.Honest e upload j) prepared journeys) :
    receiveFiles job d hkdf (prepared.mapIdx fun place => announced (index + place)) (journeys.map Journey.toWisp) =
        .ok (prepared.map fun upload => upload.file.content) ∧
      List.Forall₂ (fun upload j => (BulkStreams.encryptTo e upload j.reads).2 = .ok upload.ciphertextSize ∧
        ∃ rest, (copyBulkCiphertext upload.ciphertextSize j.toRelay).2 = some rest ∧ rest.flatten = [])
        prepared journeys := by
  induction honest generalizing index with
  | nil => exact ⟨rfl, .nil⟩
  | @cons upload j uploads journeys first _ ih =>
    obtain ⟨ciphertext, plan⟩ := plans 0 upload rfl
    obtain ⟨written, copied, received⟩ := journey_arrives encrypts decrypts plan first
    have later : ∀ place upload, uploads[place]? = some upload → ∃ ciphertext,
        Plan job aead hkdf key (index + 1 + place) upload (announced (index + 1 + place) upload) ciphertext := by
      intro place other found
      have next := plans (place + 1) other (by rw [List.getElem?_cons_succ, found])
      rwa [← Nat.add_assoc, Nat.add_right_comm] at next
    obtain ⟨others, rest⟩ := ih (index + 1) later
    simp only [Nat.add_assoc, Nat.add_comm 1] at others
    refine ⟨?_, .cons ⟨written, copied⟩ rest⟩
    rw [List.mapIdx_cons, List.map_cons, List.map_cons, receiveFiles, received]
    dsimp only
    rw [others]
    rfl

end Honest

/-! ## Any relay -/

/-- What the associated data of an announced file names. -/
def fieldsOf (job : Job) (file : IncomingFile) : Transcripts.AadFields :=
  ⟨job.session.sessionId, job.transfer.sender, job.clientId, job.transferId, file.id, file.size⟩

/-- What the associated data of an upload names. -/
def uploadFields (upload : PreparedBulkUpload) : Transcripts.AadFields :=
  ⟨upload.sessionId, upload.sender, upload.recipient, upload.transferId, upload.file.id, upload.file.size⟩

/-- Whatever a relay made the streams of, a ciphertext in them that opens under the key of the transfer was
sealed for one of the uploads that were ever prepared. -/
def Unforged (job : Job) (aead : Aead) (hkdf : Hkdf) (uploads : List PreparedBulkUpload)
    (streams : List Segments) : Prop :=
  ∀ key, job.session.bulkKey hkdf job.transferId false = .ok key → ∀ arrived ∈ streams, ∀ size nonce aad plaintext,
    aead.decrypt key nonce (arrived.flatten.take size) aad = .ok plaintext →
      ∃ upload ∈ uploads, upload.aad = aad ∧ upload.file.content = plaintext

section Adversary

variable {d : Decryptor} {aead : Aead} {hkdf : Hkdf} {job : Job} {uploads : List PreparedBulkUpload}

/-- The content that was received for a file is that of an upload for exactly this file. -/
theorem receiveBulkFile_authentic (decrypts : Decrypts d aead) {streams : List Segments}
    (unforged : Unforged job aead hkdf uploads streams)
    (admitted : ∀ upload ∈ uploads, (uploadFields upload).Admitted) {file : IncomingFile}
    (own : (fieldsOf job file).Admitted ∧ (fieldsOf job file).Clear) (tagged : 16 ≤ ciphertextSize file)
    {arrived : Segments} (listed : arrived ∈ streams) {content : Bytes}
    (received : receiveBulkFile job d hkdf file arrived = .ok content) :
    ∃ upload ∈ uploads, uploadFields upload = fieldsOf job file ∧ upload.file.content = content := by
  have enough : ciphertextSize file ≤ arrived.flatten.length := by
    by_contra short
    exact receiveBulkFile_short tagged (by omega) content received
  rw [receiveBulkFile_eq decrypts tagged enough] at received
  unfold receiveContent at received
  split at received
  · rename_i nonce fileKey nonces keys
    split at received
    · rename_i plaintext opened
      split_ifs at received with length
      cases received
      obtain ⟨upload, mem, aad, same⟩ := unforged fileKey keys arrived listed _ _ _ _ opened
      exact ⟨upload, mem, Transcripts.AadFields.determined_of_clear own.1 own.2 _ (admitted upload mem) aad, same⟩
    · cases received
  · cases received
  · cases received

end Adversary

/-! ## One file -/

/-- A cipher in pieces that keeps what it is given until the end. -/
def bufferedEncryptor (aead : Aead) : Encryptor where
  State := (Bytes × Bytes × Bytes) × Bytes
  start key nonce aad := .ok ((key, nonce, aad), [])
  update state piece := ([], state.1, state.2 ++ piece)
  finish state := ((aead.encrypt state.1.1 state.1.2.1 state.2 state.1.2.2).toOption).getD []

def bufferedDecryptor (aead : Aead) : Decryptor where
  State := (Bytes × Bytes × Bytes) × Bytes
  start key nonce aad := .ok ((key, nonce, aad), [])
  update state piece := ([], state.1, state.2 ++ piece)
  finalizeWithTag state tag := aead.decrypt state.1.1 state.1.2.1 (state.2 ++ tag) state.1.2.2

theorem feed_buffered {σ : Type} (state : σ) (taken : Bytes) (pieces : List Bytes) :
    feed (fun state piece => (([] : Bytes), state.1, state.2 ++ piece)) (state, taken) pieces =
      ([], state, taken ++ pieces.flatten) := by
  induction pieces generalizing taken with
  | nil =>
    rw [List.flatten_nil, List.append_nil]
    rfl
  | cons piece rest ih =>
    rw [feed_cons, ih]
    simp

theorem bufferedEncryptor_encrypts : Encrypts (bufferedEncryptor paddedAead) paddedAead where
  starts _ := ⟨_, rfl⟩
  joins pieces started := by
    cases started
    rw [show feed (bufferedEncryptor paddedAead).update _ pieces = _ from feed_buffered _ _ pieces]
    simp [bufferedEncryptor, paddedAead, Except.toOption]

theorem bufferedDecryptor_decrypts (aead : Aead) : Decrypts (bufferedDecryptor aead) aead where
  refuses _ refused := by cases refused
  joins pieces started _ := by
    cases started
    rw [show feed (bufferedDecryptor aead).update _ pieces = _ from feed_buffered _ _ pieces]
    simp only [bufferedDecryptor, List.nil_append]
    cases aead.decrypt _ _ _ _ with
    | error e => rfl
    | ok plaintext => rfl

def oneUpload : PreparedBulkUpload :=
  ⟨sampleFile "a", "phone", "wisp", "session", "transfer", b64 (List.replicate 12 0), List.replicate 32 0⟩

def oneCiphertext : Bytes := 7 :: List.replicate 16 0

theorem oneUpload_sealed : oneUpload.encryptTo paddedAead = .ok oneCiphertext := by
  rw [PreparedBulkUpload.encryptTo, oneUpload, unb64_b64]
  rfl

theorem oneUpload_honest : Journey.Honest (bufferedEncryptor paddedAead) oneUpload
    ⟨[[7]], [[7, 0], List.replicate 15 0], [[7], List.replicate 16 0, [10]]⟩ := by
  have file : List.flatten [[7]] = oneUpload.file.content := rfl
  have written := encryptTo_eq bufferedEncryptor_encrypts oneUpload_sealed file
  have length : (List.flatten [[7, 0], List.replicate 15 (0 : UInt8)]).length = oneUpload.ciphertextSize := rfl
  obtain ⟨chunks, rest, copied, flat, -⟩ := copyBulkCiphertext_all length
  refine ⟨file, by rw [written]; rfl, [10], ?_⟩
  dsimp only
  rw [copied, flat]
  rfl

/-- The cipher of somebody who has sealed one file. -/
def lockedAead : Aead where
  encrypt := paddedAead.encrypt
  decrypt _ _ data aad := if aad = oneUpload.aad ∧ data = oneCiphertext then .ok [7] else .error .crypto

theorem lockedAead_unforged (streams : List Segments) :
    Unforged oneFile.job lockedAead constantHkdf [oneUpload] streams := by
  intro key _ arrived _ size nonce aad plaintext opened
  simp only [lockedAead] at opened
  split_ifs at opened with same
  cases opened
  exact ⟨oneUpload, List.mem_singleton_self _, same.1.symm, rfl⟩

theorem oneUpload_fields : (uploadFields oneUpload).Admitted ∧ (uploadFields oneUpload).Clear :=
  ⟨⟨by decide, by decide, by decide⟩, ⟨by decide, by decide, by decide, by decide⟩⟩

end WispGate.Soundness.UploadStreams
