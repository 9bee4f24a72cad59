import WispGate.Soundness.Interoperation

/-! # A handshake that completes

What the Wisp seals for an init is what Android finishes the pending handshake with, when the
network does nothing to it. The primitives that agreement takes as ideal are met by ones that hide
nothing.
-/

namespace WispGate.Soundness.Completion

open Data Model Model.Wisp Model.Android Handshakes Provenance Agreement Interoperation

/-! ## Finishing -/

section Finishing

variable {phone : Phone} {envelope : Json} {name text : String} {data : Bytes}

theorem getString_of_get (read : envelope.get name = .str text) : phone.getString envelope name = some text := by
  rw [Platform.getString, if_pos (has_of_get read), read]

theorem usAscii_b64 (data : Bytes) : usAscii (b64 data) = utf8 (b64 data) := by
  rw [utf8_ascii (b64_ascii data), usAscii]
  exact List.map_congr_left fun c member => if_pos (b64_ascii data c member)

theorem bytes_of_get (read : envelope.get name = .str (b64 data)) : phone.bytes envelope name = some data := by
  rw [Phone.bytes, getString_of_get read]
  exact decode64_b64 data

/-- The library quotes as Python does. -/
def Standard (quote : String → String) : Prop := ∀ text, quote text = .ofList (Json.quote text)

theorem Standard.quotes {quote : String → String} (standard : Standard quote) : Quotes quote := by
  intro text fuel rest
  rw [standard, String.toList_ofList, Json.readValue_quote]

/-- An acceptance, as it is sealed. -/
def acceptance (sender recipient messageId : String) (wrappedKey nonce ciphertext signature : Bytes) : Json :=
  .obj (signedFields sender recipient messageId wrappedKey nonce ciphertext ++ unsignedFields none (some signature))

section Acceptance

variable {sender recipient messageId : String} {wrappedKey nonce ciphertext signature : Bytes}

theorem acceptance_get (known : name ∉ ["sender_public_key", "signature"]) :
    (acceptance sender recipient messageId wrappedKey nonce ciphertext signature).get name =
      (Json.obj (signedFields sender recipient messageId wrappedKey nonce ciphertext)).get name := by
  simp only [List.mem_cons, List.not_mem_nil, or_false, not_or] at known
  rw [acceptance, Json.get, Json.get, lookup_signed _ _ _ _ _ _ _ _ _ known.1 known.2]

theorem acceptance_signature : (acceptance sender recipient messageId wrappedKey nonce ciphertext signature).get
    "signature" = .str (b64 signature) := by
  rw [acceptance, Json.get, Json.lookup_append, unsignedFields, Json.lookup_append]
  rfl

theorem acceptance_advertised :
    phone.optString (acceptance sender recipient messageId wrappedKey nonce ciphertext signature)
    "sender_public_key" "" = "" := by
  have absent : Json.lookup "sender_public_key" (signedFields sender recipient messageId wrappedKey nonce ciphertext ++
      unsignedFields none (some signature)) = none := by
    simp [signedFields, unsignedFields, envelopeHeader, Json.lookup]
  rw [Platform.optString, Platform.getString, if_neg (by simp [acceptance, Json.has, absent])]
  rfl

theorem acceptance_headed : Headed (acceptance sender recipient messageId wrappedKey nonce ciphertext signature)
    sender recipient messageId := by
  have found : ∀ {name}, name ≠ "sender_public_key" → name ≠ "signature" → _ := fun {name} key other =>
    lookup_signed sender recipient messageId wrappedKey nonce ciphertext none name (some signature) key other
  unfold acceptance
  generalize signedFields sender recipient messageId wrappedKey nonce ciphertext ++ unsignedFields none (some signature) =
    fields at *
  simp [Headed, envelopeHeader, Json.has, found, signedFields, Json.lookup]

/-- Android reads of an acceptance what was sealed in it. -/
theorem acceptance_opens {aead : Aead} {contentKey : Bytes} {known : String} {body : Json}
    (standard : Standard phone.quote)
    (valid : phone.verify known signature (toSign sender recipient messageId wrappedKey nonce ciphertext) = true)
    (unwraps : phone.unwrap wrappedKey = some contentKey)
    (opens : aead.decrypt contentKey nonce ciphertext (aadOf (.obj (envelopeHeader sender recipient messageId))) =
      .ok (utf8 body.dumps)) (parses : phone.parse (utf8 body.dumps) = some body) :
    phone.decrypt aead (acceptance sender recipient messageId wrappedKey nonce ciphertext signature) (some known) =
      some (body, known) := by
  have headed := @acceptance_headed sender recipient messageId wrappedKey nonce ciphertext signature
  have associated := (envelope_aads phone headed).1
  rw [standard, standard, standard, standard, standard, ← envelopeAad_text] at associated
  have keys : (acceptance sender recipient messageId wrappedKey nonce ciphertext signature).get "encrypted_key" =
      .str (b64 wrappedKey) := by
    rw [acceptance_get (by decide)]
    simp [signedFields, envelopeHeader, Json.lookup]
  have nonces : (acceptance sender recipient messageId wrappedKey nonce ciphertext signature).get "nonce" =
      .str (b64 nonce) := by
    rw [acceptance_get (by decide)]
    simp [signedFields, envelopeHeader, Json.lookup]
  have ciphers : (acceptance sender recipient messageId wrappedKey nonce ciphertext signature).get "ciphertext" =
      .str (b64 ciphertext) := by
    rw [acceptance_get (by decide)]
    simp [signedFields, envelopeHeader, Json.lookup]
  have unadvertised := @acceptance_advertised phone sender recipient messageId wrappedKey nonce ciphertext signature
  have signed := @acceptance_signature sender recipient messageId wrappedKey nonce ciphertext signature
  generalize acceptance sender recipient messageId wrappedKey nonce ciphertext signature = envelope at *
  have type : envelope.get "type" = .str "envelope" := (headed ("type", _) (by simp [envelopeHeader])).2
  have algorithm : envelope.get "algorithm" = .str e2eAlgorithm := (headed ("algorithm", _) (by simp [envelopeHeader])).2
  have chosen : phone.senderKey envelope (some known) = some known := by
    have blank : phone.isNotBlank "" = false := rfl
    simp only [Phone.senderKey, unadvertised, blank]
  have covered : phone.signedBytes envelope = some (toSign sender recipient messageId wrappedKey nonce ciphertext) := by
    simp only [Phone.signedBytes, associated, getString_of_get keys, getString_of_get nonces, getString_of_get ciphers,
      usAscii_b64, toSign, bind, Option.bind_some]
    rfl
  simp only [Phone.decrypt, getString_of_get type, getString_of_get algorithm, chosen,
    bytes_of_get signed, covered, valid,
    bytes_of_get keys, unwraps, bytes_of_get nonces, associated, bytes_of_get ciphers, opens, parses, bind,
    Option.bind_some, and_self, if_true, Except.toOption]
  rfl

/-- The acceptance of a handshake in time finishes it. -/
theorem finish_accepts {aead : Aead} {hmac : Hmac} {contentKey : Bytes} {pending : SessionHandshake.Pending} {now : ℕ}
    (standard : Standard phone.quote) (in_time : now < pending.createdAt + sessionLifetimeSeconds)
    (long : pending.master.length = 32) (nonempty : pending.sessionId ≠ "")
    (valid : phone.verify pending.peerPublicKey signature (toSign pending.owner pending.localId messageId wrappedKey nonce
      ciphertext) = true) (unwraps : phone.unwrap wrappedKey = some contentKey) {body : Json}
    (answer : body = sessionAccept (SessionCrypto.hkdf hmac) hmac pending.owner pending.localId
      ⟨pending.sessionId, pending.challenge, pending.master⟩)
    (opens : aead.decrypt contentKey nonce ciphertext
      (aadOf (.obj (envelopeHeader pending.owner pending.localId messageId))) = .ok (utf8 body.dumps))
    (parses : phone.parse (utf8 body.dumps) = some body) :
    ∃ session, SessionHandshake.finish phone aead hmac pending
      (acceptance pending.owner pending.localId messageId wrappedKey nonce ciphertext signature) now = some session := by
  have opened := acceptance_opens standard valid unwraps opens parses
  have headed := @acceptance_headed pending.owner pending.localId messageId wrappedKey nonce ciphertext signature
  generalize acceptance pending.owner pending.localId messageId wrappedKey nonce ciphertext signature = envelope at *
  have senders : phone.optString envelope "sender" "" = pending.owner :=
    optString_of_getString (getString_of_get (headed ("sender", _) (by simp [envelopeHeader])).2)
  have recipients : phone.optString envelope "recipient" "" = pending.localId :=
    optString_of_getString (getString_of_get (headed ("recipient", _) (by simp [envelopeHeader])).2)
  obtain ⟨ids, challenges, proofs⟩ := sessionAccept_reads phone
    (SessionCrypto.hkdf hmac) hmac pending.owner pending.localId
    ⟨pending.sessionId, pending.challenge, pending.master⟩
  have kinds : phone.optString body "type" "" = "session_accept" := by
    rw [answer]
    rfl
  rw [← answer] at ids challenges proofs
  have keys : SessionCrypto.deriveKeys hmac pending.master pending.sessionId =
      some ⟨SessionCrypto.hkdf hmac pending.master (utf8 pending.sessionId) androidToWisp,
        SessionCrypto.hkdf hmac pending.master (utf8 pending.sessionId) wispToAndroid⟩ := if_pos ⟨long, nonempty⟩
  have expected : SessionCrypto.acceptProof hmac pending.master pending.sessionId pending.challenge pending.localId
      pending.owner = some (phone.optString body "proof" "") := by
    rw [proofs, SessionCrypto.acceptProof, keys]
    rfl
  refine ⟨.create pending.sessionId pending.localId pending.owner
    (SessionCrypto.hkdf hmac pending.master (utf8 pending.sessionId) androidToWisp)
    (SessionCrypto.hkdf hmac pending.master (utf8 pending.sessionId) wispToAndroid) pending.createdAt true, ?_⟩
  simp only [SessionHandshake.finish, senders, recipients, Nat.not_le.mpr in_time, opened, kinds,
    ids, challenges, expected,
    keys, ne_eq, not_true_eq_false, or_self, if_false, if_true, bind, Option.bind_some]
  rfl

end Acceptance

end Finishing

/-! ## A handshake -/

section Sample

open Runtime

def sampleHmac : Hmac := fun key message => delimit key ++ message

theorem sampleHmac_injective (key key' message message' : Bytes)
    (same : sampleHmac key message = sampleHmac key' message') :
    key = key' ∧ message = message' := by
  induction key generalizing key' with
  | nil =>
    cases key' with
    | nil => exact ⟨rfl, List.append_cancel_left same⟩
    | cons b more => simp [sampleHmac, delimit] at same
  | cons b more ih =>
    cases key' with
    | nil => simp [sampleHmac, delimit] at same
    | cons b' more' =>
      simp only [sampleHmac, delimit, List.cons_append, List.cons.injEq, true_and] at same
      obtain ⟨rfl, rfl⟩ := ih more' same.2
      exact ⟨by rw [same.1], rfl⟩

/-- The Wisp of the sample, with a MAC that hides nothing. -/
def agreeEnv : Env := { handshakeEnv with hkdf := SessionCrypto.hkdf sampleHmac, hmac := sampleHmac }

def samplePending : SessionHandshake.Pending := ⟨"phone", "wisp", "wisp key", sampleMaster, "s1", "c1", 0⟩

/-- An answer of the Wisp, sealed for the phone, and what it signs of it. -/
def sealedAnswer (body : Json) : Bytes :=
  delimit [3] ++ (delimit [4] ++ (delimit (aadOf (.obj (envelopeHeader "wisp" "phone" "m2"))) ++ utf8 body.dumps))

def signedAnswer (body : Json) : Bytes := toSign "wisp" "phone" "m2" [3] [4] (sealedAnswer body)

/-- A phone for which the Wisp has signed one answer only. -/
def agreePhone (body : Json) : Phone where
  text _ := ""
  long _ := none
  blank c := c == ' '
  int _ := none
  quote text := .ofList (Json.quote text)
  parse text := (loadsBytes text).toOption
  verify _ _ bytes := decide (bytes = signedAnswer body)
  unwrap := some

/-- The process of the Wisp: it connects and reads the init. -/
def acceptingRun : List (Runtime × Event) := [(firstFrame, .frame sampleEnvelope), ({}, .reconnect)]

variable {body : Json}

theorem sealedAnswer_encrypted (body : Json) : agreeEnv.aead.encrypt [3] [4] (utf8 body.dumps)
    (aadOf (.obj (envelopeHeader "wisp" "phone" "m2"))) = .ok (sealedAnswer body) := rfl

/-- The Wisp answers the init and signs the answer. -/
theorem sample_signs (answer : sessionAccept agreeEnv.hkdf agreeEnv.hmac agreeEnv.clientId "phone"
    ⟨"s1", "c1", sampleMaster⟩ = body) :
    Signs agreeEnv (fun _ contentKey wrappedKey => wrappedKey = contentKey) [acceptingRun] (signedAnswer body) := by
  have decrypted : decryptEnvelope agreeEnv.rsa agreeEnv.aead sampleEnvelope (firstFrame.peers.keys.get? "phone") =
      .ok (sampleInit, "phone key") := sampleEnvelope_decrypts (.inl rfl)
  have to_self : sampleEnvelope.get "recipient" = .str agreeEnv.clientId := sampleEnvelope_reads.recipient
  have handled := @handleEnvelope_accepts agreeEnv firstFrame.peers sampleEnvelope sampleInit firstFrame.now "phone"
    "phone key" ⟨"s1", "c1", sampleMaster⟩ sampleEnvelope_reads.sender to_self decrypted sampleInit_read
  rw [answer] at handled
  have sealed := @encryptEnvelope_eq "wisp" "phone" "m2" [3] [4] (sealedAnswer body) none agreeEnv.aead id body [3]
    (sealedAnswer_encrypted body)
  have signed := (signedBytes_sealed "wisp" "phone" "m2" [3] [4] (sealedAnswer body) none
    (some (id (toSign "wisp" "phone" "m2" [3] [4] (sealedAnswer body))))).1
  unfold signedAnswer
  exact .accept (List.mem_singleton_self _) List.mem_cons_self handled (pin_get? decrypted) rfl rfl sealed signed

theorem agreePhone_ideal (answer : sessionAccept agreeEnv.hkdf agreeEnv.hmac agreeEnv.clientId "phone"
    ⟨"s1", "c1", sampleMaster⟩ = body) : Agreement.Ideal agreeEnv (agreePhone body)
    (fun _ contentKey wrappedKey => wrappedKey = contentKey) [acceptingRun] samplePending.peerPublicKey where
  signed signature bytes valid := by
    rw [of_decide_eq_true valid]
    exact sample_signs answer
  wrapped key contentKey wrappedKey opened wrapped unwrapped := (Option.some.inj unwrapped).symm.trans wrapped
  mac := sampleHmac_injective
  hkdf := rfl
  opens encrypted := (sampleAead_decrypt_iff _ _ _ _ _).mpr encrypted
  quotes := Standard.quotes fun _ => rfl
  parses fields _ := by
    show (loadsBytes (utf8 (Json.dumps _))).toOption = _
    rw [loadsBytes_dumps]
    rfl

theorem acceptingRun_ran : Processes agreeEnv [acceptingRun] := by
  intro taken member
  rw [List.mem_singleton.mp member]
  have connected : Runtime.step agreeEnv {} .reconnect = some firstFrame := rfl
  have delivered : Runtime.step agreeEnv firstFrame (.frame sampleEnvelope) =
      some (firstFrame.onFrame agreeEnv sampleEnvelope) := RuntimeMoves.step_frame _ _ rfl
  exact ⟨{}, _, ⟨rfl, rfl, rfl, rfl, rfl⟩, .next (.next .nil connected) delivered⟩

/-- The phone finishes its handshake, and the Wisp holds the other end of the session. -/
theorem agreement_sample : ∃ session, ∃ taken ∈ [acceptingRun], ∃ m message m', (m, Event.frame message) ∈ taken ∧
    m.step agreeEnv (.frame message) = some m' ∧ ∃ other, m'.peers.sessions.get? "phone" = some other ∧
      Mirrored (SessionCrypto.hkdf agreeEnv.hmac) agreeEnv.hkdf session other := by
  obtain ⟨body, answer⟩ : ∃ body, sessionAccept agreeEnv.hkdf agreeEnv.hmac agreeEnv.clientId "phone"
    ⟨"s1", "c1", sampleMaster⟩ = body := ⟨_, rfl⟩
  have ideal := agreePhone_ideal answer
  have opens : agreeEnv.aead.decrypt [3] [4] (sealedAnswer body) (aadOf (.obj (envelopeHeader samplePending.owner
      samplePending.localId "m2"))) = .ok (utf8 body.dumps) := by
    simp only [samplePending]
    exact ideal.opens (sealedAnswer_encrypted body)
  have parses : (agreePhone body).parse (utf8 body.dumps) = some body := by
    show (loadsBytes (utf8 body.dumps)).toOption = some body
    rw [loadsBytes_dumps]
    rfl
  have valid : (agreePhone body).verify samplePending.peerPublicKey (signedAnswer body)
      (toSign samplePending.owner samplePending.localId "m2" [3] [4] (sealedAnswer body)) = true := by
    simp only [agreePhone, samplePending, signedAnswer, decide_true]
  have in_time : 0 < samplePending.createdAt + sessionLifetimeSeconds := by decide
  have long : samplePending.master.length = 32 := by decide
  have nonempty : samplePending.sessionId ≠ "" := by decide
  obtain ⟨session, finished⟩ := @finish_accepts (agreePhone body) "m2" [3] [4] (sealedAnswer body) (signedAnswer body)
    agreeEnv.aead agreeEnv.hmac [3] samplePending 0 (fun _ => rfl) in_time long nonempty valid rfl body answer.symm opens
    parses
  obtain ⟨-, taken, member, m, message, m', read, stepped, -, -, mirrored⟩ :=
    agreement agreeEnv (agreePhone body) acceptingRun_ran ideal finished
  exact ⟨session, taken, member, m, message, m', read, stepped, mirrored⟩

end Sample

end WispGate.Soundness.Completion
