import WispGate.Model.Android.Sealing
import WispGate.Model.Relay.Sections
import WispGate.Soundness.Encoding
import WispGate.Soundness.Interoperation

/-! # A handshake that nobody disturbs

What Android seals opens at the Wisp and the other way round, as long as both sides quote the
identifiers alike. So a handshake whose two envelopes arrive is finished with the two ends of one
session, and neither envelope is one the relay would refuse.
-/

namespace WispGate.Soundness.Establishment

open Data Model Model.Wisp Model.Android Runtime Handshakes Agreement Interoperation Encoding

/-! ## Frames on the way -/

/-- Two objects with the same members, as a frame has before and after it was read and written. -/
structure SameMembers (a b : Json) : Prop where
  objects : a.isObj = true ∧ b.isObj = true
  has : ∀ name, a.has name = b.has name
  get : ∀ name, a.get name = b.get name

section Congruence

variable {a b : Json}

theorem SameMembers.refl (object : a.isObj = true) : SameMembers a a :=
  ⟨⟨object, object⟩, fun _ => rfl, fun _ => rfl⟩

theorem SameMembers.member (same : SameMembers a b) (name : String) : member a name = member b name := by
  unfold Model.member
  have objects : ∀ {value : Json}, value.isObj = true → ∃ fields, value = .obj fields := by
    intro value object
    cases value with
    | obj fields => exact ⟨fields, rfl⟩
    | _ => cases object
  obtain ⟨fields, rfl⟩ := objects same.objects.1
  obtain ⟨others, rfl⟩ := objects same.objects.2
  rw [same.has, same.get]

theorem SameMembers.decryptEnvelope (same : SameMembers a b) (rsa : Rsa) (aead : Aead) (known : Option String) :
    decryptEnvelope rsa aead a known = decryptEnvelope rsa aead b known := by
  have aads : envelopeAad a = envelopeAad b := by
    unfold envelopeAad
    simp only [same.member]
  have texts : ∀ name, asciiMember a name = asciiMember b name := fun name => by
    unfold asciiMember
    rw [same.member]
  have bytes : ∀ name, unb64Member a name = unb64Member b name := fun name => by
    unfold unb64Member
    rw [same.member]
  have signed : signedBytes a = signedBytes b := by
    unfold signedBytes
    rw [aads, texts, texts, texts]
  have opens : openEnvelope rsa aead a = openEnvelope rsa aead b := by
    unfold openEnvelope
    rw [aads, bytes, bytes, bytes]
  have keys : senderKey a known = senderKey b known := by
    unfold senderKey
    rw [same.get]
  unfold Wisp.decryptEnvelope
  rw [same.get, same.get, keys, bytes, signed, opens]

theorem SameMembers.phoneDecrypt (same : SameMembers a b) (phone : Phone) (aead : Aead) (known : Option String) :
    phone.decrypt aead a known = phone.decrypt aead b known := by
  have texts : ∀ name, phone.getString a name = phone.getString b name := fun name => by
    unfold Platform.getString
    rw [same.has, same.get]
  have numbers : ∀ name, phone.getInt a name = phone.getInt b name := fun name => by
    unfold Phone.getInt
    rw [same.has, same.get]
  have bytes : ∀ name, phone.bytes a name = phone.bytes b name := fun name => by
    unfold Phone.bytes
    rw [texts]
  have aads : phone.aad a = phone.aad b := by
    unfold Phone.aad Phone.quoted
    simp only [texts, numbers]
  have signed : phone.signedBytes a = phone.signedBytes b := by
    unfold Phone.signedBytes
    rw [aads, texts, texts, texts]
  have keys : phone.senderKey a known = phone.senderKey b known := by
    unfold Phone.senderKey Platform.optString
    rw [texts]
  unfold Phone.decrypt
  rw [texts, texts, keys, signed, aads]
  simp only [bytes]

end Congruence

/-! ## Envelopes -/

/-- An identifier that both sides write and quote alike. -/
def Alike (library : JsonLibrary) (text : String) : Prop := isAscii text = true ∧ PlainText library text

section Envelopes

variable {library : JsonLibrary} {phone : Handset} {aead : Aead} {sender recipient messageId key : String}
  {contentKey wrappedKey nonce ciphertext plaintext : Bytes} {advertised : Option String} {body : Json}

theorem usAscii_b64 (data : Bytes) : usAscii (b64 data) = utf8 (b64 data) := by
  have ascii := b64_ascii data
  rw [utf8_ascii ascii]
  exact List.map_congr_left fun c mem => if_pos (ascii c mem)

/-- More members do not change a header. -/
theorem headed_append (sender recipient messageId : String) {more : List (String × Json)}
    (apart : ∀ field ∈ more, ∀ entry ∈ envelopeHeader sender recipient messageId, field.1 ≠ entry.1) :
    Headed (.obj (envelopeHeader sender recipient messageId ++ more)) sender recipient messageId := by
  intro entry mem
  have own := envelopeHeader_headed sender recipient messageId entry mem
  have found : Json.lookup entry.1 (envelopeHeader sender recipient messageId ++ more) =
      Json.lookup entry.1 (envelopeHeader sender recipient messageId) := by
    rw [Json.lookup_append, Json.lookup_eq_none fun field there => apart field there entry mem]
    rfl
  simpa only [Json.has, Json.get, found] using own

variable (sender recipient messageId wrappedKey nonce ciphertext advertised) in
theorem sealed_headed (signature : Option Bytes) :
    Headed (.obj (signedFields sender recipient messageId wrappedKey nonce ciphertext ++
      unsignedFields advertised signature)) sender recipient messageId := by
  rw [signedFields, List.append_assoc]
  refine headed_append sender recipient messageId fun field mem => ?_
  have names : field.1 ∈ ["encrypted_key", "nonce", "ciphertext", "sender_public_key", "signature"] := by
    rcases List.mem_append.mp mem with mem | mem
    · simp only [List.mem_cons, List.not_mem_nil, or_false] at mem
      rcases mem with rfl | rfl | rfl <;> simp
    · rcases List.mem_append.mp mem with mem | mem
      · obtain ⟨_, -, rfl⟩ := Option.map_eq_some_iff.mp (Option.mem_toList.mp mem)
        simp
      · obtain ⟨_, -, rfl⟩ := Option.map_eq_some_iff.mp (Option.mem_toList.mp mem)
        simp
  have apart : ∀ name ∈ ["encrypted_key", "nonce", "ciphertext", "sender_public_key", "signature"],
      name ∉ ["version", "type", "sender", "recipient", "message_id", "algorithm"] := by decide
  intro entry there same
  refine apart _ names (same ▸ ?_)
  exact List.mem_map_of_mem there

/-- Android authenticates what the Wisp does. -/
theorem phone_aad (quotes : phone.quote = JSONObject.quote library)
    (alike : Alike library sender ∧ Alike library recipient ∧ Alike library messageId) {envelope : Json}
    (headed : Headed envelope sender recipient messageId) :
    phone.aad envelope = some (aadOf (.obj (envelopeHeader sender recipient messageId))) := by
  obtain ⟨senders, recipients, messages⟩ := alike
  have texts := (envelopeText_iff library ⟨messages.1, recipients.1, senders.1⟩).mpr
    ⟨messages.2, recipients.2, senders.2⟩
  rw [(envelope_aads phone.toPhone headed).1, quotes, texts]

/-- The members of a sealed envelope, as Android reads them. -/
theorem phone_reads (phone : Handset) {fields : List (String × Json)} {name : String} {data : Bytes}
    (found : Json.lookup name fields = some (.str (b64 data))) :
    phone.getString (.obj fields) name = some (b64 data) ∧ phone.bytes (.obj fields) name = some data := by
  have text : phone.getString (.obj fields) name = some (b64 data) := by
    simp [Platform.getString, Json.has, Json.get, found]
  refine ⟨text, ?_⟩
  unfold Phone.bytes
  rw [text]
  exact decode64_b64 data

variable (sender recipient messageId wrappedKey nonce ciphertext advertised) in
theorem lookup_own (name : String) (own : name = "encrypted_key" ∨ name = "nonce" ∨ name = "ciphertext")
    (signature : Option Bytes) :
    Json.lookup name (signedFields sender recipient messageId wrappedKey nonce ciphertext ++
      unsignedFields advertised signature) =
      some (.str (b64 (if name = "encrypted_key" then wrappedKey
        else if name = "nonce" then nonce else ciphertext))) := by
  have kept := lookup_signed sender recipient messageId wrappedKey nonce ciphertext advertised name signature
    (by rcases own with rfl | rfl | rfl <;> decide) (by rcases own with rfl | rfl | rfl <;> decide)
  rw [kept]
  rcases own with rfl | rfl | rfl <;> simp [signedFields, envelopeHeader, Json.lookup]

variable (wrappedKey nonce ciphertext advertised) in
theorem phone_signedBytes (quotes : phone.quote = JSONObject.quote library)
    (alike : Alike library sender ∧ Alike library recipient ∧ Alike library messageId) (signature : Option Bytes) :
    phone.signedBytes (.obj (signedFields sender recipient messageId wrappedKey nonce ciphertext ++
      unsignedFields advertised signature)) = some (toSign sender recipient messageId wrappedKey nonce ciphertext) := by
  have aad := phone_aad quotes alike
    (sealed_headed sender recipient messageId wrappedKey nonce ciphertext advertised signature)
  have found : ∀ {name}, _ → _ := fun {name} own =>
    lookup_own sender recipient messageId wrappedKey nonce ciphertext advertised name own signature
  have keys := (phone_reads phone (found (.inl rfl))).1
  have nonces := (phone_reads phone (found (.inr (.inl rfl)))).1
  have ciphers := (phone_reads phone (found (.inr (.inr rfl)))).1
  simp only [if_true, String.reduceEq, if_false] at keys nonces ciphers
  unfold Phone.signedBytes
  rw [aad, keys, nonces, ciphers]
  simp only [Option.bind_eq_bind, Option.bind_some, usAscii_b64, toSign]
  rfl

theorem encode64_small {data : Bytes} (small : data.length < 2 ^ 29) : E2EEnvelope.encode64 data = some (b64 data) := by
  have starts := (text_fits_iff (n := data.length) (by omega)).mpr (.inl small)
  have fits : ¬2 ^ 31 ≤ (data.length * 4 + 2) / 3 := by omega
  rw [encode64_eq, if_neg (not_or.mpr ⟨starts, fits⟩)]

/-- The stages of `E2EEnvelope.encrypt`. -/
theorem encrypt_stages {sign : Bytes → Bytes} {header : List (String × Json)} {aad signed : Bytes}
    {encryptedKey encodedNonce encodedCiphertext signature : String}
    (start : envelopeHeader sender recipient messageId = header)
    (keys : E2EEnvelope.encode64 wrappedKey = some encryptedKey)
    (nonces : E2EEnvelope.encode64 nonce = some encodedNonce)
    (covered : phone.aad (.obj (header ++ [("encrypted_key", .str encryptedKey), ("nonce", .str encodedNonce)])) =
      some aad)
    (sealed : aead.encrypt contentKey nonce (phone.write body) aad = .ok ciphertext)
    (ciphers : E2EEnvelope.encode64 ciphertext = some encodedCiphertext) {fields : List (String × Json)}
    (unsigned : header ++ [("encrypted_key", .str encryptedKey), ("nonce", .str encodedNonce)] ++
      [("ciphertext", .str encodedCiphertext)] ++
      (advertised.map fun key => ("sender_public_key", Json.str key)).toList = fields)
    (names : phone.signedBytes (.obj fields) = some signed)
    (signatures : E2EEnvelope.encode64 (sign signed) = some signature) :
    phone.encrypt aead sign sender recipient messageId body contentKey nonce wrappedKey advertised =
      some (.obj (fields ++ [("signature", .str signature)])) := by
  have opened : (aead.encrypt contentKey nonce (phone.write body) aad).toOption = some ciphertext := by
    rw [sealed]
    rfl
  unfold Handset.encrypt
  rw [start]
  refine Option.bind_eq_some_iff.mpr ⟨_, keys, Option.bind_eq_some_iff.mpr ⟨_, nonces, Option.bind_eq_some_iff.mpr
    ⟨_, covered, Option.bind_eq_some_iff.mpr ⟨_, opened, Option.bind_eq_some_iff.mpr ⟨_, ciphers, ?_⟩⟩⟩⟩⟩
  dsimp only
  rw [unsigned]
  exact Option.bind_eq_some_iff.mpr ⟨_, names, Option.bind_eq_some_iff.mpr ⟨_, signatures, rfl⟩⟩

/-- What `E2EEnvelope.encrypt` returns: the members that `encrypt_envelope` would write. -/
theorem phone_encrypt (quotes : phone.quote = JSONObject.quote library)
    (alike : Alike library sender ∧ Alike library recipient ∧ Alike library messageId) {sign : Bytes → Bytes}
    (small : wrappedKey.length < 2 ^ 29 ∧ nonce.length < 2 ^ 29 ∧ ciphertext.length < 2 ^ 29)
    (signs : ∀ bytes, (sign bytes).length < 2 ^ 29)
    (sealed : aead.encrypt contentKey nonce (phone.write body)
      (aadOf (.obj (envelopeHeader sender recipient messageId))) = .ok ciphertext) :
    phone.encrypt aead sign sender recipient messageId body contentKey nonce wrappedKey advertised =
      some (.obj (signedFields sender recipient messageId wrappedKey nonce ciphertext ++ unsignedFields advertised
        (some (sign (toSign sender recipient messageId wrappedKey nonce ciphertext))))) := by
  have keyed : Headed (.obj (envelopeHeader sender recipient messageId ++
      [("encrypted_key", .str (b64 wrappedKey)), ("nonce", .str (b64 nonce))])) sender recipient messageId :=
    headed_append sender recipient messageId (by simp [envelopeHeader])
  have bare : unsignedFields advertised none = (advertised.map fun key =>
      ("sender_public_key", Json.str key)).toList := by
    simp [unsignedFields]
  have complete : ∀ bytes, unsignedFields advertised (some bytes) =
      unsignedFields advertised none ++ [("signature", .str (b64 bytes))] := by
    intro bytes
    simp [unsignedFields]
  have unsigned : envelopeHeader sender recipient messageId ++
      [("encrypted_key", .str (b64 wrappedKey)), ("nonce", .str (b64 nonce))] ++
      [("ciphertext", .str (b64 ciphertext))] ++ (advertised.map fun key => ("sender_public_key", Json.str key)).toList =
      signedFields sender recipient messageId wrappedKey nonce ciphertext ++ unsignedFields advertised none := by
    rw [bare, signedFields, List.append_assoc (envelopeHeader sender recipient messageId)]
    rfl
  rw [complete, ← List.append_assoc]
  exact encrypt_stages rfl (encode64_small small.1) (encode64_small small.2.1) (phone_aad quotes alike keyed) sealed
    (encode64_small small.2.2) unsigned (phone_signedBytes wrappedKey nonce ciphertext advertised quotes alike none)
    (encode64_small (signs _))

/-- What the Wisp seals for Android opens there, under the key that is known. -/
theorem phone_decrypt (quotes : phone.quote = JSONObject.quote library)
    (alike : Alike library sender ∧ Alike library recipient ∧ Alike library messageId) {signature : Bytes}
    (valid : phone.verify key signature (toSign sender recipient messageId wrappedKey nonce ciphertext) = true)
    (unwraps : phone.unwrap wrappedKey = some contentKey)
    (opens : aead.decrypt contentKey nonce ciphertext (aadOf (.obj (envelopeHeader sender recipient messageId))) =
      .ok plaintext) (parsed : phone.parse plaintext = some body) :
    phone.decrypt aead (.obj (signedFields sender recipient messageId wrappedKey nonce ciphertext ++
      unsignedFields none (some signature))) (some key) = some (body, key) := by
  have headed := sealed_headed sender recipient messageId wrappedKey nonce ciphertext none (some signature)
  have aad := phone_aad quotes alike headed
  have signed := phone_signedBytes wrappedKey nonce ciphertext none quotes alike (some signature)
  have found : ∀ {name}, _ → _ := fun {name} own =>
    lookup_own sender recipient messageId wrappedKey nonce ciphertext none name own (some signature)
  have keys := (phone_reads phone (found (.inl rfl))).2
  have nonces := (phone_reads phone (found (.inr (.inl rfl)))).2
  have ciphers := (phone_reads phone (found (.inr (.inr rfl)))).2
  simp only [if_true, String.reduceEq, if_false] at keys nonces ciphers
  have written : Json.lookup "signature" (signedFields sender recipient messageId wrappedKey nonce ciphertext ++
      unsignedFields none (some signature)) = some (.str (b64 signature)) := by
    rw [Json.lookup_append, unsignedFields]
    rfl
  have signatures := (phone_reads phone written).2
  have unadvertised : Json.lookup "sender_public_key" (signedFields sender recipient messageId wrappedKey nonce
      ciphertext ++ unsignedFields none (some signature)) = none := by
    simp [signedFields, unsignedFields, envelopeHeader, Json.lookup]
  have type := headed ("type", .str "envelope") (by simp [envelopeHeader])
  have algorithm := headed ("algorithm", .str e2eAlgorithm) (by simp [envelopeHeader])
  generalize signedFields sender recipient messageId wrappedKey nonce ciphertext ++
      unsignedFields none (some signature) = fields at *
  have kind : phone.getString (.obj fields) "type" = some "envelope" := by
    unfold Platform.getString
    rw [if_pos type.1, type.2]
  have cipher : phone.getString (.obj fields) "algorithm" = some e2eAlgorithm := by
    unfold Platform.getString
    rw [if_pos algorithm.1, algorithm.2]
  have chosen : phone.senderKey (.obj fields) (some key) = some key := by
    have absent : phone.optString (.obj fields) "sender_public_key" "" = "" := by
      simp [Platform.optString, Platform.getString, Json.has, unadvertised]
    unfold Phone.senderKey
    rw [absent]
    rfl
  unfold Phone.decrypt
  rw [kind, cipher]
  simp only [Option.bind_eq_bind, Option.bind_some, and_self, if_true]
  rw [chosen, signatures, signed]
  simp only [Option.bind_some]
  rw [if_pos valid, keys]
  simp only [Option.bind_some]
  rw [unwraps, nonces, aad, ciphers]
  simp only [Option.bind_some]
  rw [opens]
  simp only [Except.toOption, Option.bind_some]
  rw [parsed]
  rfl

/-- The relay passes a sealed envelope of its sender on. -/
theorem sealed_forwardable (target : recipient ≠ "") (signature : Bytes) :
    Relay.forwardable sender (.obj (signedFields sender recipient messageId wrappedKey nonce ciphertext ++
      unsignedFields advertised (some signature))) = true := by
  cases advertised with
  | none =>
    simp [Relay.forwardable, Relay.frameMembers, Relay.validShape, signedFields, unsignedFields, envelopeHeader,
      Json.get, Json.has, Json.lookup, Json.keys, Json.truthy, target]
  | some key =>
    simp [Relay.forwardable, Relay.frameMembers, Relay.validShape, signedFields, unsignedFields, envelopeHeader,
      Json.get, Json.has, Json.lookup, Json.keys, Json.truthy, target]

end Envelopes

/-! ## Acquainted endpoints -/

/-- An object of texts. -/
def texts (fields : List (String × String)) : Json := .obj (fields.map fun field => (field.1, .str field.2))

/-- What the endpoints know of each other, and what their platforms do. Keys are wrapped and bytes are
signed in any of the ways that the randomised schemes allow. -/
structure Acquainted (env : Env) (phone : Handset) (library : JsonLibrary) (ownKey peerKey : String)
    (sign signBack : Bytes → Bytes) (Wrapped WrappedBack : Bytes → Bytes → Prop) : Prop where
  gcm : env.aead.Gcm
  hkdf : env.hkdf = SessionCrypto.hkdf env.hmac
  quotes : phone.quote = JSONObject.quote library
  /-- The text of an object of texts has its members, in an order of the library. -/
  writes : ∀ fields, (fields.map Prod.fst).Nodup →
    ∃ read, loadsBytes (phone.write (texts fields)) = .ok read ∧ SameMembers (texts fields) read
  parses : ∀ fields, (fields.map Prod.fst).Nodup → phone.parse (utf8 (texts fields).dumps) = some (texts fields)
  named : ownKey ≠ ""
  loads : env.rsa.load ownKey = .ok ()
  wraps : env.rsa.wraps ownKey = .ok ()
  verifies : ∀ bytes, env.rsa.verify ownKey (sign bytes) bytes = true
  verifiesBack : ∀ bytes, phone.verify peerKey (signBack bytes) bytes = true
  unwraps : ∀ {contentKey wrappedKey}, Wrapped contentKey wrappedKey → env.rsa.unwrap wrappedKey = .ok contentKey
  unwrapsBack : ∀ {contentKey wrappedKey},
    WrappedBack contentKey wrappedKey → phone.unwrap wrappedKey = some contentKey
  sizes : (∀ bytes, (sign bytes).length < 2 ^ 29) ∧
    ∀ {contentKey wrappedKey}, Wrapped contentKey wrappedKey → wrappedKey.length < 2 ^ 29

/-- What is drawn for an envelope. -/
structure Drawn where
  messageId : String
  contentKey : Bytes
  nonce : Bytes
  wrappedKey : Bytes

def Drawn.Proper (drawn : Drawn) (library : JsonLibrary) (Wrapped : Bytes → Bytes → Prop) : Prop :=
  Alike library drawn.messageId ∧ drawn.contentKey.length = 32 ∧ drawn.nonce.length = 12 ∧
    Wrapped drawn.contentKey drawn.wrappedKey

section Handshake

variable {env : Env} {phone : Handset} {library : JsonLibrary} {ownKey peerKey : String} {sign signBack : Bytes → Bytes}
  {Wrapped WrappedBack : Bytes → Bytes → Prop} {localId sessionId challenge : String} {master : Bytes} {created now : ℕ}
  {drawn : Drawn} {message envelope : Json} {m : Runtime}

/-- The body of an init, as the Wisp reads it. -/
theorem sessionInit_reads (same : SameMembers (SessionHandshake.initBody master sessionId challenge) message)
    (named : sessionId ≠ "" ∧ challenge ≠ "") (full : master.length = 32) :
    sessionInit message = .ok ⟨sessionId, challenge, master⟩ := by
  have encoded : b64 master ≠ "" := by
    intro empty
    have length := b64_length master
    rw [empty, full] at length
    cases length
  have type : message.get "type" = .str "session_init" := by rw [← same.get]; rfl
  have ids : message.get "session_id" = .str sessionId := by rw [← same.get]; rfl
  have challenges : message.get "challenge" = .str challenge := by rw [← same.get]; rfl
  have secret : message.get "master_secret" = .str (b64 master) := by rw [← same.get]; rfl
  unfold sessionInit
  rw [type, ids, challenges, secret, if_neg (by simp)]
  simp only [Json.asStr?]
  rw [if_neg (by simp [named, encoded]), unb64_b64]
  simp only [full, if_true]

/-- An envelope of a peer that carries an init: the Wisp pins its key, installs the session and answers. -/
theorem frame_accepts {init : SessionInit} {sender key : String} {body : Json} (ready : m.pc = .reading)
    (from_sender : message.get "sender" = .str sender) (to_self : message.get "recipient" = .str env.clientId)
    (decrypted : decryptEnvelope env.rsa env.aead message (m.peers.keys.get? sender) = .ok (body, key))
    (carries : sessionInit body = .ok init) (wraps : env.rsa.wraps key = .ok ()) :
    ∃ m', m.step env (.frame message) = some m' ∧ m'.pc = .draining ∧
      m.peers.handleEnvelope env.rsa env.aead env.hkdf env.hmac env.clientId message m.now =
        (m'.peers, .ok (sender, sessionAccept env.hkdf env.hmac env.clientId sender init)) ∧
      m'.peers.sessions.get? sender = some (init.session env.hkdf env.clientId sender m.now) ∧
      m'.peers.keys.get? sender = some key := by
  have line : message.isObj = true := by
    cases message with
    | obj fields => rfl
    | _ => simp [Json.get] at from_sender
  have kind := (decryptEnvelope_ok decrypted).2.1
  have handled : m.peers.handleEnvelope env.rsa env.aead env.hkdf env.hmac env.clientId message m.now = _ :=
    handleEnvelope_accepts from_sender to_self decrypted carries
  have known := pin_get? decrypted
  generalize accepts : ({ Peers.pin m.peers sender key with
    sessions := m.peers.sessions.insert sender (init.session env.hkdf env.clientId sender m.now) } : Peers) =
    peers at handled
  have session : peers.sessions.get? sender = some (init.session env.hkdf env.clientId sender m.now) := by
    rw [← accepts]
    exact Dict.get?_insert_self _ _ _
  have pinned : peers.keys.get? sender = some key := by
    rw [← accepts]
    exact known
  refine ⟨({ m with peers := peers }.record (.accepted sender (init.session env.hkdf env.clientId sender m.now))).goto
    .draining, ?_, rfl, handled, session, pinned⟩
  unfold Runtime.step onFrame onEnvelope
  dsimp only
  rw [if_pos ready, if_neg (not_not.mpr line), kind, if_neg (by simp), if_pos rfl, handled]
  dsimp only
  rw [session, pinned]
  dsimp only
  rw [wraps]

/-- What `begin` returns. -/
theorem begin_sealed (known : Acquainted env phone library ownKey peerKey sign signBack Wrapped WrappedBack)
    (route : Alike library localId ∧ Alike library env.clientId) (full : master.length = 32)
    (proper : drawn.Proper library Wrapped)
    (small : (phone.write (SessionHandshake.initBody master sessionId challenge)).length < 2 ^ 28) :
    ∃ ciphertext, env.aead.encrypt drawn.contentKey drawn.nonce
        (phone.write (SessionHandshake.initBody master sessionId challenge))
        (aadOf (.obj (envelopeHeader localId env.clientId drawn.messageId))) = .ok ciphertext ∧
      SessionHandshake.begin phone env.aead sign localId env.clientId peerKey ownKey created master sessionId challenge
        drawn.messageId drawn.contentKey drawn.nonce drawn.wrappedKey =
        some (⟨localId, env.clientId, peerKey, master, sessionId, challenge, created⟩,
          .obj (signedFields localId env.clientId drawn.messageId drawn.wrappedKey drawn.nonce ciphertext ++
            unsignedFields (some ownKey) (some (sign (toSign localId env.clientId drawn.messageId drawn.wrappedKey
              drawn.nonce ciphertext))))) := by
  obtain ⟨alike, keySize, nonceSize, wrapped⟩ := proper
  obtain ⟨ciphertext, sealed, size⟩ := known.gcm.seals drawn.contentKey drawn.nonce
    (phone.write (SessionHandshake.initBody master sessionId challenge))
    (aadOf (.obj (envelopeHeader localId env.clientId drawn.messageId))) keySize nonceSize
  have fits : drawn.wrappedKey.length < 2 ^ 29 ∧ drawn.nonce.length < 2 ^ 29 ∧ ciphertext.length < 2 ^ 29 :=
    ⟨known.sizes.2 wrapped, by omega, by omega⟩
  refine ⟨ciphertext, sealed, ?_⟩
  unfold SessionHandshake.begin
  rw [if_neg (not_not.mpr full), phone_encrypt known.quotes ⟨route.1, route.2, alike⟩ fits known.sizes.1 sealed]
  rfl

/-- Both endpoints derive the same keys and the same proof. -/
theorem derives (hmac : Hmac) (named : sessionId ≠ "") (full : master.length = 32)
    (challenge androidId wispId : String) :
    SessionCrypto.deriveKeys hmac master sessionId =
      some ⟨SessionCrypto.hkdf hmac master (utf8 sessionId) androidToWisp,
        SessionCrypto.hkdf hmac master (utf8 sessionId) wispToAndroid⟩ ∧
      SessionCrypto.acceptProof hmac master sessionId challenge androidId wispId =
        some (sessionAcceptProof (SessionCrypto.hkdf hmac) hmac master sessionId challenge androidId wispId) := by
  have derived : SessionCrypto.deriveKeys hmac master sessionId = some
      ⟨SessionCrypto.hkdf hmac master (utf8 sessionId) androidToWisp,
        SessionCrypto.hkdf hmac master (utf8 sessionId) wispToAndroid⟩ := if_pos ⟨full, named⟩
  refine ⟨derived, ?_⟩
  unfold SessionCrypto.acceptProof
  rw [derived]
  rfl

/-- A text of the header, as Android reads it from a frame with the same members. -/
theorem header_text (phone : Handset) {sender recipient messageId : String} {reply : Json}
    (headed : Headed envelope sender recipient messageId) (same : SameMembers envelope reply) {name text : String}
    (listed : (name, Json.str text) ∈ envelopeHeader sender recipient messageId) :
    phone.optString reply name "" = text := by
  obtain ⟨present, value⟩ := headed _ listed
  rw [same.has] at present
  rw [same.get] at value
  apply optString_of_getString
  unfold Platform.getString
  rw [if_pos present, value]

/-- An acceptance that opens finishes the handshake it answers. -/
theorem finish_accepts {reply : Json} {wispId key : String} (hmac : Hmac) (aead : Aead)
    (named : sessionId ≠ "") (full : master.length = 32) (live : now < created + sessionLifetimeSeconds)
    (from_owner : phone.optString reply "sender" "" = wispId) (to_local : phone.optString reply "recipient" "" = localId)
    (opened : phone.decrypt aead reply (some peerKey) = some (sessionAccept (SessionCrypto.hkdf hmac) hmac wispId localId
      ⟨sessionId, challenge, master⟩, key)) :
    SessionHandshake.finish phone.toPhone aead hmac ⟨localId, wispId, peerKey, master, sessionId, challenge, created⟩
      reply now = some (.create sessionId localId wispId
        (SessionCrypto.hkdf hmac master (utf8 sessionId) androidToWisp)
        (SessionCrypto.hkdf hmac master (utf8 sessionId) wispToAndroid) created true) := by
  obtain ⟨derived, proof⟩ := derives hmac named full challenge localId wispId
  obtain ⟨ids, challenges, proofs⟩ := sessionAccept_reads phone.toPhone (SessionCrypto.hkdf hmac) hmac wispId localId
    ⟨sessionId, challenge, master⟩
  have type : phone.optString (sessionAccept (SessionCrypto.hkdf hmac) hmac wispId localId
      ⟨sessionId, challenge, master⟩) "type" "" = "session_accept" := rfl
  generalize sessionAccept (SessionCrypto.hkdf hmac) hmac wispId localId ⟨sessionId, challenge, master⟩ = body
    at opened ids challenges proofs type
  unfold SessionHandshake.finish
  dsimp only
  rw [if_neg (by simp [from_owner, to_local, live]), opened]
  dsimp only [Option.bind_eq_bind, Option.bind_some]
  rw [if_neg (by simp [type, ids, challenges]), proof, derived]
  dsimp only [Option.bind_some]
  rw [if_pos proofs]
  rfl

/-- The answer to an init finishes the handshake. -/
theorem accept_finishes (known : Acquainted env phone library ownKey peerKey sign signBack Wrapped WrappedBack)
    (route : Alike library localId ∧ Alike library env.clientId) (named : localId ≠ "" ∧ sessionId ≠ "")
    (full : master.length = 32) (proper : drawn.Proper library WrappedBack) (installed : ℕ) :
    ∃ answer, encryptEnvelope env.aead signBack env.clientId localId drawn.messageId
        (sessionAccept env.hkdf env.hmac env.clientId localId ⟨sessionId, challenge, master⟩) drawn.contentKey
        drawn.nonce drawn.wrappedKey none = .ok answer ∧ Relay.forwardable env.clientId answer = true ∧
      ∀ reply now, SameMembers answer reply → now < created + sessionLifetimeSeconds →
        ∃ session, SessionHandshake.finish phone.toPhone env.aead env.hmac
            ⟨localId, env.clientId, peerKey, master, sessionId, challenge, created⟩ reply now = some session ∧
          Mirrored (SessionCrypto.hkdf env.hmac) env.hkdf session
            (SessionInit.session ⟨sessionId, challenge, master⟩ env.hkdf env.clientId localId installed) := by
  obtain ⟨alike, keySize, nonceSize, wrapped⟩ := proper
  have parsed := known.parses [("type", "session_accept"), ("session_id", sessionId), ("challenge", challenge),
    ("proof", sessionAcceptProof env.hkdf env.hmac master sessionId challenge localId env.clientId)] (by simp)
  have listed : texts [("type", "session_accept"), ("session_id", sessionId), ("challenge", challenge),
      ("proof", sessionAcceptProof env.hkdf env.hmac master sessionId challenge localId env.clientId)] =
      sessionAccept env.hkdf env.hmac env.clientId localId ⟨sessionId, challenge, master⟩ := rfl
  rw [listed, known.hkdf] at parsed
  obtain ⟨ciphertext, sealed, -⟩ := known.gcm.seals drawn.contentKey drawn.nonce
    (utf8 (sessionAccept env.hkdf env.hmac env.clientId localId ⟨sessionId, challenge, master⟩).dumps)
    (aadOf (.obj (envelopeHeader env.clientId localId drawn.messageId))) keySize nonceSize
  refine ⟨_, encryptEnvelope_eq sealed, sealed_forwardable named.1 _, fun reply now same live => ?_⟩
  rw [known.hkdf] at sealed
  have opened := phone_decrypt known.quotes ⟨route.2, route.1, alike⟩ (known.verifiesBack _)
    (known.unwrapsBack wrapped) (known.gcm.opens sealed) parsed
  rw [same.phoneDecrypt] at opened
  have headed := sealed_headed env.clientId localId drawn.messageId drawn.wrappedKey drawn.nonce ciphertext none
    (some (signBack (toSign env.clientId localId drawn.messageId drawn.wrappedKey drawn.nonce ciphertext)))
  refine ⟨_, finish_accepts env.hmac env.aead named.2 full live (header_text phone headed same (by simp [envelopeHeader]))
    (header_text phone headed same (by simp [envelopeHeader])) opened, ?_⟩
  exact @session_mirrored env ⟨localId, env.clientId, peerKey, master, sessionId, challenge, created⟩ known.hkdf rfl
    created installed

end Handshake

/-! ## Two endpoints -/

/-- A signature that is the beginning of what is signed. -/
def sampleSign : Bytes → Bytes := List.take 256

def sampleHmac : Hmac := fun _ _ => List.replicate 32 0

def establishedEnv : Env where
  clientId := "wisp"
  wisps := []
  printable := fun _ => true
  aead := paddedAead
  hkdf := SessionCrypto.hkdf sampleHmac
  hmac := sampleHmac
  rsa := ⟨fun _ => .ok (), fun _ signature bytes => signature = sampleSign bytes, fun _ => .ok (), .ok⟩

def establishedPhone : Handset where
  toPhone := { samplePhone .android with
    verify := fun _ signature bytes => signature = sampleSign bytes
    unwrap := some }
  write := fun body => utf8 body.dumps
  decodeUrl := fun text => (unb64 text).toOption

def sampleDrawn : Drawn := ⟨"message", List.replicate 32 0, List.replicate 12 0, List.replicate 32 0⟩

theorem establishedPhone_known : Acquainted establishedEnv establishedPhone .android "phone key" "wisp key" sampleSign
    sampleSign (fun contentKey wrapped => wrapped = contentKey ∧ contentKey.length = 32) Eq where
  gcm := paddedAead_gcm
  hkdf := rfl
  quotes := rfl
  writes fields _ := ⟨texts fields, loadsBytes_dumps _, .refl rfl⟩
  parses fields _ := by
    unfold establishedPhone samplePhone
    dsimp only
    rw [loadsBytes_dumps]
    rfl
  named := by decide
  loads := rfl
  wraps := rfl
  verifies _ := decide_eq_true rfl
  verifiesBack _ := decide_eq_true rfl
  unwraps wrapped := congrArg Except.ok wrapped.1
  unwrapsBack wrapped := congrArg some wrapped.symm
  sizes := ⟨fun bytes => by
    rw [sampleSign, List.length_take]
    omega, fun wrapped => by
    rw [wrapped.1, wrapped.2]
    norm_num⟩

end WispGate.Soundness.Establishment
