import WispGate.Model.Wisp.Runtime

/-! # What an envelope does to a Wisp

The outcomes of `_handle_envelope`. The key an envelope was verified with is the pinned one, and
remembering it never fails; so an envelope is refused, or it pins a key at first contact, or it also
installs a session.
-/

namespace WispGate.Soundness.Handshakes

open Data Model Model.Wisp

section Keys

variable {rsa : Rsa} {aead : Aead} {envelope body : Json} {known : Option String} {key : String}

/-- The key that is pinned for a peer, if there is one. -/
def pinnedKey (known : Option String) : Option String := known.filter fun key => decide (key ≠ "")

/-- What is known about a peer after it was verified with a key. -/
def Peers.pin (peers : Peers) (sender key : String) : Peers :=
  if pinnedKey (peers.keys.get? sender) = none then { peers with keys := peers.keys.insert sender key } else peers

/-- The pinned key is the one that is used, and otherwise a key that is not empty. -/
theorem senderKey_ok (read : senderKey envelope known = .ok key) :
    pinnedKey known = some key ∨ pinnedKey known = none ∧ key ≠ "" := by
  unfold senderKey at read
  dsimp only at read
  split at read
  · rename_i pinned found
    split_ifs at read
    cases read
    exact .inl found
  · rename_i unpinned
    split_ifs at read with truthy
    split at read
    · cases read
    · rename_i advertised text
      cases read
      rw [Json.asStr?_eq_some_iff] at text
      rw [text] at truthy
      exact .inr ⟨unpinned, by simpa [Json.truthy] using truthy⟩

/-- The stages an envelope that decrypts has passed. -/
theorem decryptEnvelope_ok (decrypted : decryptEnvelope rsa aead envelope known = .ok (body, key)) :
    envelope.get "algorithm" = .str e2eAlgorithm ∧ envelope.get "type" = .str "envelope" ∧
      senderKey envelope known = .ok key ∧ rsa.load key = .ok () ∧
      (∃ signature signed, unb64Member envelope "signature" = .ok signature ∧ signedBytes envelope = .ok signed ∧
        rsa.verify key signature signed = true) ∧
      openEnvelope rsa aead envelope = .ok body := by
  unfold decryptEnvelope at decrypted
  split_ifs at decrypted with unsupported
  rw [not_or, Bool.not_eq_false, Bool.not_eq_false, Json.pyEq_str_iff, Json.pyEq_str_iff] at unsupported
  cases chosen : senderKey envelope known with
  | error e => simp [chosen, bind, Except.bind] at decrypted
  | ok chosenKey =>
    cases loaded : rsa.load chosenKey with
    | error e => simp [chosen, loaded, bind, Except.bind] at decrypted
    | ok _ =>
      cases read : unb64Member envelope "signature" with
      | error e => simp [chosen, loaded, read, bind, Except.bind] at decrypted
      | ok signature =>
        cases covered : signedBytes envelope with
        | error e => simp [chosen, loaded, read, covered, bind, Except.bind] at decrypted
        | ok signed =>
          simp only [chosen, loaded, read, covered, bind, Except.bind] at decrypted
          split_ifs at decrypted with valid
          · cases opened : openEnvelope rsa aead envelope with
            | error e => simp [opened] at decrypted
            | ok content =>
              simp only [opened, pure, Except.pure, Except.ok.injEq, Prod.mk.injEq] at decrypted
              obtain ⟨rfl, rfl⟩ := decrypted
              exact ⟨unsupported.1, unsupported.2, rfl, loaded, ⟨signature, signed, rfl, rfl, valid⟩, rfl⟩

end Keys

/-! ## The outcomes -/

/-- What `_handle_envelope` leaves, up to the answer. -/
inductive Handled (env : Env) (peers : Peers) (message : Json) (now : ℕ) :
    Peers → Except PyError (String × Json) → Prop
  | refused (e : PyError) : Handled env peers message now peers (.error e)
  | pinned (e : PyError) (sender key : String) (body : Json) (from_sender : message.get "sender" = .str sender)
      (decrypted : decryptEnvelope env.rsa env.aead message (peers.keys.get? sender) = .ok (body, key))
      (other : sessionInit body = .error e) :
      Handled env peers message now (Peers.pin peers sender key) (.error e)
  | accepted (sender key : String) (body : Json) (init : SessionInit) (from_sender : message.get "sender" = .str sender)
      (to_self : message.get "recipient" = .str env.clientId)
      (decrypted : decryptEnvelope env.rsa env.aead message (peers.keys.get? sender) = .ok (body, key))
      (carries : sessionInit body = .ok init) :
      Handled env peers message now
        { Peers.pin peers sender key with
          sessions := peers.sessions.insert sender (init.session env.hkdf env.clientId sender now) }
        (.ok (sender, sessionAccept env.hkdf env.hmac env.clientId sender init))

section Outcomes

variable {env : Env} {peers peers' : Peers} {message body : Json} {now : ℕ} {sender key : String}
  {outcome : Except PyError (String × Json)}

/-- The key an envelope was verified with can be remembered. -/
theorem rememberPeer_pin (decrypted : decryptEnvelope env.rsa env.aead message
      (peers.keys.get? sender) = .ok (body, key)) :
    peers.rememberPeer sender key = .ok (Peers.pin peers sender key) := by
  obtain ⟨-, -, chosen, -⟩ := decryptEnvelope_ok decrypted
  unfold Peers.rememberPeer Peers.pin
  rcases senderKey_ok chosen with pinned | ⟨unpinned, -⟩
  · rw [show ((peers.keys.get? sender).filter fun known => decide (known ≠ "")) = some key from pinned, pinned]
    simp
  · rw [show ((peers.keys.get? sender).filter fun known => decide (known ≠ "")) = none from unpinned, unpinned]
    simp

@[simp] theorem pin_sessions : (Peers.pin peers sender key).sessions = peers.sessions := by
  unfold Peers.pin
  split_ifs
  · rfl
  · rfl

/-- The key an envelope was verified with is known afterwards. -/
theorem pin_get? (decrypted : decryptEnvelope env.rsa env.aead message (peers.keys.get? sender) = .ok (body, key)) :
    (Peers.pin peers sender key).keys.get? sender = some key := by
  obtain ⟨-, -, chosen, -⟩ := decryptEnvelope_ok decrypted
  unfold Peers.pin
  rcases senderKey_ok chosen with pinned | ⟨unpinned, -⟩
  · rw [pinned, if_neg (by simp)]
    exact (Option.filter_eq_some_iff.mp pinned).1
  · rw [if_pos unpinned]
    exact Dict.get?_insert_self _ _ _

theorem has_of_get {value : Json} {name text : String} (read : value.get name = .str text) : value.has name = true := by
  cases value with
  | obj fields =>
    cases found : Json.lookup name fields with
    | none => simp [Json.get, found] at read
    | some other => simp [Json.has, found]
  | _ => simp [Json.get] at read

/-- An envelope that decrypts to a `session_init` is accepted. -/
theorem handleEnvelope_accepts {init : SessionInit} (from_sender : message.get "sender" = .str sender)
    (to_self : message.get "recipient" = .str env.clientId)
    (decrypted : decryptEnvelope env.rsa env.aead message (peers.keys.get? sender) = .ok (body, key))
    (carries : sessionInit body = .ok init) :
    peers.handleEnvelope env.rsa env.aead env.hkdf env.hmac env.clientId message now =
      ({ Peers.pin peers sender key with
          sessions := peers.sessions.insert sender (init.session env.hkdf env.clientId sender now) },
        .ok (sender, sessionAccept env.hkdf env.hmac env.clientId sender init)) := by
  unfold Peers.handleEnvelope
  rw [if_neg (not_not.mpr (has_of_get from_sender)), to_self, if_neg (by simp), from_sender]
  simp only [decrypted, rememberPeer_pin decrypted, carries, pin_sessions]

theorem handleEnvelope_handled
    (handled : peers.handleEnvelope env.rsa env.aead env.hkdf env.hmac env.clientId message now = (peers', outcome)) :
    Handled env peers message now peers' outcome := by
  unfold Peers.handleEnvelope at handled
  split_ifs at handled with has_sender route
  · cases handled
    exact .refused _
  · rw [Bool.not_eq_false, Json.pyEq_str_iff] at route
    split at handled
    · rename_i sender from_sender
      split at handled
      · cases handled
        exact .refused _
      · rename_i body key decrypted
        rw [rememberPeer_pin decrypted] at handled
        dsimp only at handled
        split at handled
        · rename_i e other
          cases handled
          exact .pinned e sender key body from_sender decrypted other
        · rename_i init carries
          cases handled
          rw [pin_sessions]
          exact .accepted sender key body init from_sender route decrypted carries
    · rename_i other
      split_ifs at handled
      · cases handled
        exact .refused _
      · split at handled
        · cases handled
          exact .refused _
        · split at handled
          · cases handled
            exact .refused _
          · cases handled
            exact .refused _
  · cases handled
    exact .refused _

end Outcomes

/-! ## Members -/

theorem b64_ascii (data : Bytes) : ∀ c ∈ (b64 data).toList, c.toNat < 128 := by
  rw [b64, String.toList_ofList]
  exact Base64.encode_ascii data

theorem isAscii_b64 (data : Bytes) : isAscii (b64 data) = true := by
  simp only [isAscii, List.all_eq_true, decide_eq_true_eq]
  exact b64_ascii data

/-- The associated data, as far as it is determined by the members. -/
def aadOf (envelope : Json) : Bytes :=
  utf8 (Json.dumps (.obj [("algorithm", sorted (envelope.get "algorithm")),
    ("message_id", sorted (envelope.get "message_id")), ("recipient", sorted (envelope.get "recipient")),
    ("sender", sorted (envelope.get "sender")), ("type", sorted (envelope.get "type")),
    ("version", sorted (envelope.get "version"))]))

theorem envelopeAad_eq (envelope : Json) (complete : ∀ name ∈ ["version", "type", "sender", "recipient", "message_id",
    "algorithm"], envelope.has name = true) : envelopeAad envelope = .ok (aadOf envelope) := by
  simp only [List.forall_mem_cons, List.not_mem_nil, false_imp_iff, implies_true, and_true] at complete
  obtain ⟨version, type, sender, recipient, messageId, algorithm⟩ := complete
  simp only [envelopeAad, member, version, type, sender, recipient, messageId, algorithm, if_true, bind, Except.bind,
    pure, Except.pure, aadOf]

theorem asciiMember_b64 (envelope : Json) (name : String) (data : Bytes) (present : envelope.has name = true)
    (read : envelope.get name = .str (b64 data)) :
    asciiMember envelope name = .ok (utf8 (b64 data)) ∧ unb64Member envelope name = .ok data := by
  constructor
  · simp only [asciiMember, member, present, read, if_true, bind, Except.bind, asciiText, Json.asStr?, isAscii_b64,
      pure, Except.pure]
  · simp only [unb64Member, member, present, read, if_true, bind, Except.bind, Json.asStr?, unb64_b64]

/-! ## Sealed envelopes -/

section Sealing

variable (sender recipient messageId : String) (wrappedKey nonce ciphertext : Bytes) (advertised : Option String)

/-- The members of a sealed envelope that are signed. -/
def signedFields : List (String × Json) :=
  envelopeHeader sender recipient messageId ++ [("encrypted_key", .str (b64 wrappedKey)), ("nonce", .str (b64 nonce)),
    ("ciphertext", .str (b64 ciphertext))]

/-- The members of a sealed envelope that are not. -/
def unsignedFields (signature : Option Bytes) : List (String × Json) :=
  (advertised.map fun key => ("sender_public_key", Json.str key)).toList ++
    (signature.map fun bytes => ("signature", Json.str (b64 bytes))).toList

/-- What the holder of a key signs when it seals a body. -/
def toSign : Bytes :=
  [0].intercalate [aadOf (.obj (envelopeHeader sender recipient messageId)), utf8 (b64 wrappedKey), utf8 (b64 nonce),
    utf8 (b64 ciphertext)]

theorem lookup_signed (name : String) (signature : Option Bytes) (key : name ≠ "sender_public_key")
    (other : name ≠ "signature") :
    Json.lookup name (signedFields sender recipient messageId wrappedKey nonce ciphertext ++
      unsignedFields advertised signature) = Json.lookup name (signedFields sender recipient messageId wrappedKey nonce
        ciphertext) := by
  rw [Json.lookup_append, Json.lookup_eq_none]
  · rfl
  · intro field mem
    rw [unsignedFields, List.mem_append, Option.mem_toList, Option.mem_toList, Option.map_eq_some_iff,
      Option.map_eq_some_iff] at mem
    rcases mem with ⟨_, -, rfl⟩ | ⟨_, -, rfl⟩
    · exact key.symm
    · exact other.symm

/-- The signed bytes of a sealed envelope, with or without its signature. -/
theorem signedBytes_sealed (signature : Option Bytes) :
    signedBytes (.obj (signedFields sender recipient messageId wrappedKey nonce ciphertext ++
      unsignedFields advertised signature)) = .ok (toSign sender recipient messageId wrappedKey nonce ciphertext) ∧
    envelopeAad (.obj (signedFields sender recipient messageId wrappedKey nonce ciphertext ++
      unsignedFields advertised signature)) = .ok (aadOf (.obj (envelopeHeader sender recipient messageId))) := by
  have found : ∀ {name}, name ≠ "sender_public_key" → name ≠ "signature" → _ := fun {name} key other =>
    lookup_signed sender recipient messageId wrappedKey nonce ciphertext advertised name signature key other
  generalize signedFields sender recipient messageId wrappedKey nonce ciphertext ++
      unsignedFields advertised signature = fields at *
  have covered : envelopeAad (.obj fields) = .ok (aadOf (.obj fields)) := envelopeAad_eq _ (by
    simp [Json.has, found, signedFields, envelopeHeader, Json.lookup])
  have same : aadOf (.obj fields) = aadOf (.obj (envelopeHeader sender recipient messageId)) := by
    simp [aadOf, found, signedFields, envelopeHeader, Json.lookup]
  have keys := asciiMember_b64 (.obj fields) "encrypted_key" wrappedKey
    (by simp [Json.has, found, signedFields, envelopeHeader, Json.lookup])
    (by simp [found, signedFields, envelopeHeader, Json.lookup])
  have nonces := asciiMember_b64 (.obj fields) "nonce" nonce
    (by simp [Json.has, found, signedFields, envelopeHeader, Json.lookup])
    (by simp [found, signedFields, envelopeHeader, Json.lookup])
  have ciphers := asciiMember_b64 (.obj fields) "ciphertext" ciphertext
    (by simp [Json.has, found, signedFields, envelopeHeader, Json.lookup])
    (by simp [found, signedFields, envelopeHeader, Json.lookup])
  rw [same] at covered
  refine ⟨?_, covered⟩
  simp only [signedBytes, covered, keys.1, nonces.1, ciphers.1, bind, Except.bind, pure, Except.pure, toSign]

/-- The members that a receiver reads from a sealed envelope. -/
structure Reads (envelope : Json) (signature : Bytes) : Prop where
  algorithm : envelope.get "algorithm" = .str e2eAlgorithm
  type : envelope.get "type" = .str "envelope"
  sender : envelope.get "sender" = .str sender
  recipient : envelope.get "recipient" = .str recipient
  advertised : envelope.get "sender_public_key" = (advertised.map Json.str).getD .null
  encryptedKey : unb64Member envelope "encrypted_key" = .ok wrappedKey
  nonce : unb64Member envelope "nonce" = .ok nonce
  ciphertext : unb64Member envelope "ciphertext" = .ok ciphertext
  signature : unb64Member envelope "signature" = .ok signature

theorem sealed_reads (signature : Bytes) : Reads sender recipient wrappedKey nonce ciphertext advertised
    (.obj (signedFields sender recipient messageId wrappedKey nonce ciphertext ++
      unsignedFields advertised (some signature))) signature := by
  have found : ∀ {name}, name ≠ "sender_public_key" → name ≠ "signature" → _ := fun {name} key other =>
    lookup_signed sender recipient messageId wrappedKey nonce ciphertext advertised name (some signature)
      key other
  have key : Json.lookup "sender_public_key" (signedFields sender recipient messageId wrappedKey nonce ciphertext ++
      unsignedFields advertised (some signature)) = advertised.map Json.str := by
    cases advertised with
    | none => simp [signedFields, unsignedFields, envelopeHeader, Json.lookup]
    | some key => simp [signedFields, unsignedFields, envelopeHeader, Json.lookup]
  have own : Json.lookup "signature" (signedFields sender recipient messageId wrappedKey nonce ciphertext ++
      unsignedFields advertised (some signature)) = some (.str (b64 signature)) := by
    rw [Json.lookup_append, unsignedFields, Json.lookup_append]
    rfl
  generalize signedFields sender recipient messageId wrappedKey nonce ciphertext ++
      unsignedFields advertised (some signature) = fields at *
  have read : ∀ {name data}, Json.lookup name fields = some (.str (b64 data)) →
      unb64Member (.obj fields) name = .ok data := by
    intro name data there
    exact (asciiMember_b64 _ _ _ (by simp [Json.has, there]) (by simp [there])).2
  constructor
  · simp [found, signedFields, envelopeHeader, Json.lookup]
  · simp [found, signedFields, envelopeHeader, Json.lookup]
  · simp [found, signedFields, envelopeHeader, Json.lookup]
  · simp [found, signedFields, envelopeHeader, Json.lookup]
  · simp [key]
  · exact read (by simp [found, signedFields, envelopeHeader, Json.lookup])
  · exact read (by simp [found, signedFields, envelopeHeader, Json.lookup])
  · exact read (by simp [found, signedFields, envelopeHeader, Json.lookup])
  · exact read own

variable {sender recipient messageId wrappedKey nonce ciphertext advertised}
variable {rsa : Rsa} {aead : Aead} {sign : Bytes → Bytes} {body : Json} {contentKey : Bytes} {key : String}

/-- What `encrypt_envelope` returns. -/
theorem encryptEnvelope_eq (sealed : aead.encrypt contentKey nonce (utf8 body.dumps)
      (aadOf (.obj (envelopeHeader sender recipient messageId))) = .ok ciphertext) :
    encryptEnvelope aead sign sender recipient messageId body contentKey nonce wrappedKey advertised =
      .ok (.obj (signedFields sender recipient messageId wrappedKey nonce ciphertext ++ unsignedFields advertised
        (some (sign (toSign sender recipient messageId wrappedKey nonce ciphertext))))) := by
  have covered := envelopeAad_eq (.obj (envelopeHeader sender recipient messageId))
    (by simp [envelopeHeader, Json.has, Json.lookup])
  have signed := (signedBytes_sealed sender recipient messageId wrappedKey nonce ciphertext advertised none).1
  have bare : unsignedFields advertised none = (advertised.map fun key =>
    ("sender_public_key", Json.str key)).toList := by
    simp [unsignedFields]
  rw [bare, signedFields] at signed
  simp only [encryptEnvelope, covered, sealed, signed, bind, Except.bind, pure, Except.pure]
  simp only [signedFields, unsignedFields, List.append_assoc, Option.map_some, Option.toList_some]

/-- A sealed envelope opens for the holder of the private key, under the key of its signer, as what its
plaintext reads. -/
theorem decryptEnvelope_read {known : Option String} {signature plaintext : Bytes}
    (nonempty : key ≠ "") (pinned : known = some key ∧ (advertised = none ∨ advertised = some key) ∨
      known = none ∧ advertised = some key)
    (loads : rsa.load key = .ok ())
    (valid : rsa.verify key signature (toSign sender recipient messageId wrappedKey nonce ciphertext) = true)
    (unwraps : rsa.unwrap wrappedKey = .ok contentKey)
    (opens : aead.decrypt contentKey nonce ciphertext (aadOf (.obj (envelopeHeader sender recipient messageId))) =
      .ok plaintext) (read : loadsBytes plaintext = .ok body) (object : body.isObj = true) :
    decryptEnvelope rsa aead (.obj (signedFields sender recipient messageId wrappedKey nonce ciphertext ++
      unsignedFields advertised (some signature))) known = .ok (body, key) := by
  have reads := sealed_reads sender recipient messageId wrappedKey nonce ciphertext advertised signature
  obtain ⟨signed, covered⟩ :=
    signedBytes_sealed sender recipient messageId wrappedKey nonce ciphertext advertised (some signature)
  generalize Json.obj (signedFields sender recipient messageId wrappedKey nonce ciphertext ++
      unsignedFields advertised (some signature)) = envelope at *
  have chosen : senderKey envelope known = .ok key := by
    unfold senderKey
    rw [reads.advertised]
    have kept : (some key).filter (fun other => decide (other ≠ "")) = some key :=
      Option.filter_eq_some_iff.mpr ⟨rfl, decide_eq_true nonempty⟩
    rcases pinned with ⟨rfl, rfl | rfl⟩ | ⟨rfl, rfl⟩
    · dsimp only
      rw [kept]
      simp [Json.truthy]
    · dsimp only
      rw [kept]
      simp
    · simp [nonempty, Json.truthy, Json.asStr?]
  have opened : openEnvelope rsa aead envelope = .ok body := by
    simp only [openEnvelope, reads.encryptedKey, reads.nonce, reads.ciphertext, unwraps, covered, opens, bind,
      Except.bind, read, object, if_true, pure, Except.pure]
  simp only [decryptEnvelope, reads.algorithm, reads.type, reads.signature, chosen, loads, signed, valid, opened, bind,
    Except.bind, pure, Except.pure]
  simp

/-- So does one that `encrypt_envelope` sealed. -/
theorem decryptEnvelope_sealed {known : Option String} {signature : Bytes}
    (nonempty : key ≠ "") (pinned : known = some key ∧ (advertised = none ∨ advertised = some key) ∨
      known = none ∧ advertised = some key)
    (loads : rsa.load key = .ok ())
    (valid : rsa.verify key signature (toSign sender recipient messageId wrappedKey nonce ciphertext) = true)
    (unwraps : rsa.unwrap wrappedKey = .ok contentKey)
    (opens : aead.decrypt contentKey nonce ciphertext (aadOf (.obj (envelopeHeader sender recipient messageId))) =
      .ok (utf8 body.dumps)) (object : body.isObj = true) :
    decryptEnvelope rsa aead (.obj (signedFields sender recipient messageId wrappedKey nonce ciphertext ++
      unsignedFields advertised (some signature))) known = .ok (body, key) :=
  decryptEnvelope_read nonempty pinned loads valid unwraps opens (loadsBytes_dumps body) object

end Sealing

end WispGate.Soundness.Handshakes
