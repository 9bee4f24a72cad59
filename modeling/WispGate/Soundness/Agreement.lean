import WispGate.Model.Android.Handshake
import WispGate.Soundness.Provenance

/-! # Agreement of the two ends of a handshake

The signature of an acceptance fixes what the Wisp sealed, the content key cannot have been another,
and the proof in it depends on the master secret. So a handshake that Android finishes is one that
the holder of the peer's key took part in, with the same secret. Primitives are ideal: what verifies
was signed, what was wrapped opens as it was, and the MAC has no collisions.
-/

namespace WispGate.Soundness.Agreement

open Data Model Model.Wisp Model.Android Runtime Handshakes Provenance

/-! ## Reading base64 -/

section Base64

variable {n buffer : ℕ} {rest : List Char}

theorem alphabetIndex_digit (bound : n < 64) : alphabetIndex (Base64.digit n) = some n := by
  interval_cases n <;> rfl

/-- A digit that completes no byte. -/
theorem decodeBits_fills (bound : n < 64) :
    decodeBits buffer 0 (Base64.digit n :: rest) = decodeBits ((buffer * 64 + n) % 2 ^ 32) 6 rest := by
  simp [decodeBits, alphabetIndex_digit bound]

/-- A digit that completes a byte. -/
theorem decodeBits_completes (bound : n < 64) {bits : ℕ} (enough : 8 ≤ bits + 6) :
    decodeBits buffer bits (Base64.digit n :: rest) =
      (decodeBits ((buffer * 64 + n) % 2 ^ 32) (bits + 6 - 8) rest).map
        (UInt8.ofNat ((buffer * 64 + n) % 2 ^ 32 / 2 ^ (bits + 6 - 8)) :: ·) := by
  simp only [decodeBits, alphabetIndex_digit bound, if_pos enough]

theorem ofNat_low {a : UInt8} {n : ℕ} (same : n % 256 = a.toNat) : UInt8.ofNat n = a := by
  apply UInt8.toNat_inj.mp
  rw [UInt8.toNat_ofNat', same]

theorem decodeBits_encode (data : Bytes) (buffer : ℕ) : decodeBits buffer 0 (Base64.encode data) = some data := by
  induction data using Base64.triples generalizing buffer with
  | three a b c rest ih =>
    have la := a.toNat_lt
    have lb := b.toNat_lt
    have lc := c.toNat_lt
    rw [Base64.encode, decodeBits_fills (by omega), decodeBits_completes (by omega) (by omega),
      decodeBits_completes (by omega) (by omega), decodeBits_completes (by omega) (by omega), ih]
    simp only [Option.map_some, Option.some.injEq, List.cons.injEq, and_true]
    exact ⟨ofNat_low (by omega), ofNat_low (by omega), ofNat_low (by omega)⟩
  | two a b =>
    have la := a.toNat_lt
    have lb := b.toNat_lt
    rw [Base64.encode, decodeBits_fills (by omega), decodeBits_completes (by omega) (by omega),
      decodeBits_completes (by omega) (by omega), decodeBits]
    simp only [Option.map_some, Option.some.injEq, List.cons.injEq, and_true]
    exact ⟨ofNat_low (by omega), ofNat_low (by omega)⟩
  | one a =>
    have la := a.toNat_lt
    rw [Base64.encode, decodeBits_fills (by omega), decodeBits_completes (by omega) (by omega), decodeBits]
    simp only [Option.map_some, Option.some.injEq, List.cons.injEq, and_true]
    exact ofNat_low (by omega)
  | empty => rfl

theorem decode64_b64 (data : Bytes) : decode64 (b64 data) = some data := by
  unfold decode64 b64
  rw [String.toList_ofList]
  exact decodeBits_encode data 0

end Base64

/-! ## Texts -/

theorem b64_avoids (other : Char) (undigit : ∀ n < 64, Base64.digit n ≠ other) (data : Bytes) :
    ∀ c ∈ (b64 data).toList, c ≠ other := by
  unfold b64
  rw [String.toList_ofList]
  exact Base64.encode_avoids undigit data

theorem zero_notMem_b64 (data : Bytes) : (0 : UInt8) ∉ utf8 (b64 data) := by
  apply zero_notMem_utf8
  intro c mem zero
  exact b64_avoids (Char.ofNat 0) (by decide) data c mem (Char.toNat_inj.mp zero)

/-- Nothing else is written in US-ASCII as a text of digits is. -/
theorem usAscii_injective {text : String} {data : Bytes} (same : usAscii text = utf8 (b64 data)) : text = b64 data := by
  have ascii := b64_ascii data
  have plain : ∀ c ∈ (b64 data).toList, c ≠ '?' := b64_avoids '?' (by decide) data
  rw [utf8_ascii ascii] at same
  unfold usAscii at same
  apply String.toList_inj.mp
  generalize (b64 data).toList = digits at same ascii plain
  generalize text.toList = chars at same
  induction chars generalizing digits with
  | nil => exact (List.map_eq_nil_iff.mp same.symm).symm
  | cons c rest ih =>
    cases digits with
    | nil => cases same
    | cons d more =>
      rw [List.forall_mem_cons] at ascii plain
      rw [List.map_cons, List.map_cons, List.cons.injEq] at same
      have rests := ih more ascii.2 plain.2 same.2
      have here : c = d := by
        have codes := congrArg UInt8.toNat same.1
        have bound := ascii.1
        apply Char.toNat_inj.mp
        split_ifs at codes with small
        · rw [UInt8.toNat_ofNat', UInt8.toNat_ofNat'] at codes
          omega
        · rw [UInt8.toNat_ofNat'] at codes
          have mark : d.toNat = 63 := by
            rw [Nat.mod_eq_of_lt (by omega)] at codes
            exact codes.symm
          exact absurd (Char.toNat_inj.mp mark) plain.1
      rw [here, rests]

/-! ## Associated data -/

/-- What is quoted is read as the text. -/
def Quotes (quote : String → String) : Prop :=
  ∀ text fuel rest, Json.readValue (fuel + 1) ((quote text).toList ++ rest) = some (.str text, rest)

section Associated

variable {quote : String → String} {algorithm messageId recipient sender type : String} {version : ℤ}

theorem Quotes.peel (quotes : Quotes quote) {text other : String} {rest more : List Char}
    (same : (quote text).toList ++ rest = Json.quote other ++ more) : text = other ∧ rest = more := by
  have first := quotes text 0 rest
  rw [same, Json.readValue_quote] at first
  cases first
  exact ⟨rfl, rfl⟩

theorem aadOf_header (sender recipient messageId : String) : aadOf (.obj (envelopeHeader sender recipient messageId)) =
    utf8 (Json.dumps (.obj [("algorithm", .str e2eAlgorithm), ("message_id", .str messageId),
      ("recipient", .str recipient), ("sender", .str sender), ("type", .str "envelope"), ("version", .int 1)])) := by
  simp [aadOf, envelopeHeader, Json.lookup, sorted]

/-- A member behind its name. -/
def named (start : Char) (name : String) (value : List Char) : List Char := start :: (Json.quote name ++ ':' :: value)

theorem Quotes.member (quotes : Quotes quote) {start : Char} {name text other : String} {rest more : List Char}
    (same : named start name ((quote text).toList ++ rest) = named start name (Json.quote other ++ more)) :
    text = other ∧ rest = more :=
  quotes.peel (List.cons.inj (List.append_cancel_left (List.cons.inj same).2)).2

variable (algorithm messageId recipient sender type version) in
theorem aadText_members : ∃ rest,
    (Phone.aadText algorithm messageId recipient sender type version).toList =
      named '\x7b' "algorithm" (algorithm.toList ++ named ',' "message_id" (messageId.toList ++
        named ',' "recipient" (recipient.toList ++ named ',' "sender" (sender.toList ++ rest)))) := by
  have first : "\x7b\"algorithm\":".toList = '\x7b' :: (Json.quote "algorithm" ++ [':']) := by decide
  have second : ",\"message_id\":".toList = ',' :: (Json.quote "message_id" ++ [':']) := by decide
  have third : ",\"recipient\":".toList = ',' :: (Json.quote "recipient" ++ [':']) := by decide
  have fourth : ",\"sender\":".toList = ',' :: (Json.quote "sender" ++ [':']) := by decide
  refine ⟨",\"type\":".toList ++ (type.toList ++ (",\"version\":".toList ++
    ((toString version).toList ++ "\x7d".toList))), ?_⟩
  unfold Phone.aadText named
  simp only [String.toList_append]
  rw [first, second, third, fourth]
  -- The literals stay closed while the joins are reordered.
  generalize ",\"type\":".toList = fifth
  generalize ",\"version\":".toList = sixth
  generalize "\x7d".toList = last
  generalize Json.quote "algorithm" = algorithm'
  generalize Json.quote "message_id" = messageId'
  generalize Json.quote "recipient" = recipient'
  generalize Json.quote "sender" = sender'
  simp only [List.append_assoc, List.cons_append, List.nil_append]

variable (algorithm messageId recipient sender) in
theorem dumps_members : ∃ rest,
    (Json.dumps (.obj [("algorithm", .str algorithm), ("message_id", .str messageId), ("recipient", .str recipient),
      ("sender", .str sender), ("type", .str "envelope"), ("version", .int 1)])).toList =
      named '\x7b' "algorithm" (Json.quote algorithm ++ named ',' "message_id" (Json.quote messageId ++
        named ',' "recipient" (Json.quote recipient ++ named ',' "sender" (Json.quote sender ++ rest)))) := by
  refine ⟨Json.dumpFields [("type", .str "envelope"), ("version", .int 1)] ++ ['\x7d'], ?_⟩
  rw [Json.dumps, String.toList_ofList, Json.dump, Json.dumpFields, Json.dumpFields, Json.dumpFields]
  simp only [named, Json.dump, List.append_assoc, List.cons_append]

/-- The associated data of both endpoints name the same route. -/
theorem aadText_route (quotes : Quotes quote) {messageId' recipient' sender' : String}
    (same : utf8 (Phone.aadText (quote algorithm) (quote messageId) (quote recipient) (quote sender)
      (quote type) version) =
      aadOf (.obj (envelopeHeader sender' recipient' messageId'))) : sender = sender' ∧ recipient = recipient' := by
  rw [aadOf_header] at same
  have texts := congrArg String.toList (utf8_injective same)
  obtain ⟨rest, members⟩ := aadText_members (quote algorithm) (quote messageId) (quote recipient) (quote sender)
    (quote type) version
  obtain ⟨more, members'⟩ := dumps_members e2eAlgorithm messageId' recipient' sender'
  rw [members, members'] at texts
  have messages := (quotes.member texts).2
  have recipients := (quotes.member messages).2
  obtain ⟨same_recipient, senders⟩ := quotes.member recipients
  exact ⟨(quotes.member senders).1, same_recipient⟩

end Associated

/-! ## What Android has checked -/

section Checks

variable {phone : Phone} {aead : Aead} {hmac : Hmac} {pending : SessionHandshake.Pending} {envelope body : Json} {now : ℕ}
  {key known : String} {session : PeerSession} {signed : Bytes}

/-- The stages of an envelope that opens under a known key. -/
theorem decrypt_ok (opened : phone.decrypt aead envelope (some known) = some (body, key)) :
    (∃ signature signed, phone.signedBytes envelope = some signed ∧ phone.verify known signature signed = true) ∧
      ∃ encryptedKey contentKey nonce aad ciphertext plaintext, phone.bytes envelope "encrypted_key" = some encryptedKey ∧
        phone.unwrap encryptedKey = some contentKey ∧ phone.bytes envelope "nonce" = some nonce ∧
        phone.aad envelope = some aad ∧ phone.bytes envelope "ciphertext" = some ciphertext ∧
        aead.decrypt contentKey nonce ciphertext aad = .ok plaintext ∧ phone.parse plaintext = some body := by
  have pinned : ∀ {used}, phone.senderKey envelope (some known) = some used → used = known := by
    intro used chosen
    unfold Phone.senderKey at chosen
    dsimp only at chosen
    split at chosen
    · rename_i same _
      cases same
      split_ifs at chosen
      exact (Option.some.inj chosen).symm
    · rename_i same _
      cases same
      exact (Option.some.inj chosen).symm
    · rename_i none _
      cases none
    · rename_i none _
      cases none
  simp only [Phone.decrypt, bind, Option.bind_eq_some_iff] at opened
  obtain ⟨type, -, algorithm, -, opened⟩ := opened
  obtain ⟨kind, opened⟩ := Option.ite_none_right_eq_some.mp opened
  simp only [Option.bind_eq_some_iff] at opened
  obtain ⟨used, chosen, signature, -, signed, covered, opened⟩ := opened
  obtain ⟨valid, opened⟩ := Option.ite_none_right_eq_some.mp opened
  simp only [Option.bind_eq_some_iff] at opened
  obtain ⟨encryptedKey, keys, contentKey, unwrapped, nonce, nonces, aad, covers, ciphertext,
    ciphers, plaintext, decrypted,
    content, parsed, same⟩ := opened
  cases same
  have opens : aead.decrypt contentKey nonce ciphertext aad = .ok plaintext := by
    cases outcome : aead.decrypt contentKey nonce ciphertext aad with
    | error e => simp [outcome, Except.toOption] at decrypted
    | ok text =>
      rw [outcome] at decrypted
      exact congrArg Except.ok (Option.some.inj decrypted)
  exact ⟨⟨signature, signed, covered, pinned chosen ▸ valid⟩, encryptedKey, contentKey, nonce, aad, ciphertext, plaintext,
    keys, unwrapped, nonces, covers, ciphers, opens, parsed⟩

theorem finish_ok (finished : SessionHandshake.finish phone aead hmac pending envelope now = some session) :
    phone.optString envelope "sender" "" = pending.owner ∧ phone.optString envelope "recipient" "" = pending.localId ∧
      (∃ body key keys, phone.decrypt aead envelope (some pending.peerPublicKey) = some (body, key) ∧
        phone.optString body "session_id" "" = pending.sessionId ∧
          phone.optString body "challenge" "" = pending.challenge ∧
        SessionCrypto.acceptProof hmac pending.master pending.sessionId pending.challenge pending.localId pending.owner =
          some (phone.optString body "proof" "") ∧
        SessionCrypto.deriveKeys hmac pending.master pending.sessionId = some keys ∧
        session = .create pending.sessionId pending.localId pending.owner keys.androidToWisp keys.wispToAndroid
          pending.createdAt true) := by
  unfold SessionHandshake.finish at finished
  split_ifs at finished with route
  simp only [bind, Option.bind_eq_some_iff] at finished
  obtain ⟨⟨body, key⟩, opened, finished⟩ := finished
  simp only at finished
  split_ifs at finished with content
  simp only [Option.bind_eq_some_iff] at finished
  obtain ⟨expected, proof, finished⟩ := finished
  split_ifs at finished with same
  simp only [Option.bind_eq_some_iff] at finished
  obtain ⟨keys, derived, created⟩ := finished
  simp only [not_or, not_not] at route content
  exact ⟨route.2.1, route.2.2, body, key, keys, opened, content.2.1, content.2.2, same ▸ proof, derived,
    (Option.some.inj created).symm⟩

theorem deriveKeys_some {keys : SessionCrypto.Keys} {master : Bytes} {sessionId : String}
    (derived : SessionCrypto.deriveKeys hmac master sessionId = some keys) :
    keys = ⟨SessionCrypto.hkdf hmac master (utf8 sessionId) androidToWisp,
      SessionCrypto.hkdf hmac master (utf8 sessionId) wispToAndroid⟩ := by
  unfold SessionCrypto.deriveKeys at derived
  split_ifs at derived
  exact (Option.some.inj derived).symm

/-- Signed bytes that a Wisp has signed name its members. -/
theorem signedBytes_reads (quotes : Quotes phone.quote) {sender recipient messageId : String}
    {wrappedKey nonce ciphertext : Bytes} (covered : phone.signedBytes envelope = some signed)
    (same : signed = toSign sender recipient messageId wrappedKey nonce ciphertext) :
    phone.getString envelope "sender" = some sender ∧ phone.getString envelope "recipient" = some recipient ∧
      phone.aad envelope = some (aadOf (.obj (envelopeHeader sender recipient messageId))) ∧
      phone.bytes envelope "encrypted_key" = some wrappedKey ∧ phone.bytes envelope "nonce" = some nonce ∧
      phone.bytes envelope "ciphertext" = some ciphertext := by
  simp only [Phone.signedBytes, bind, Option.bind_eq_some_iff] at covered
  obtain ⟨aad, covers, key, keys, once, nonces, cipher, ciphers, joined⟩ := covered
  have clean : ∀ part ∈ [aadOf (.obj (envelopeHeader sender recipient messageId)), utf8 (b64 wrappedKey),
      utf8 (b64 nonce), utf8 (b64 ciphertext)], (0 : UInt8) ∉ part := by
    simp only [List.forall_mem_cons]
    exact ⟨zero_notMem_dumps _, zero_notMem_b64 _, zero_notMem_b64 _, zero_notMem_b64 _, by simp⟩
  have written : [0].intercalate [aad, usAscii key, usAscii once, usAscii cipher] = signed := Option.some.inj joined
  rw [same, toSign] at written
  have parts := intercalate_injective clean (by simp only [List.length_cons, List.length_nil]) written.symm
  simp only [List.cons.injEq, and_true] at parts
  obtain ⟨associated, keys', nonces', ciphers'⟩ := parts
  have read : ∀ {name text data}, phone.getString envelope name = some text → utf8 (b64 data) = usAscii text →
      phone.bytes envelope name = some data := by
    intro name text data found written
    rw [Phone.bytes, found, usAscii_injective written.symm]
    exact decode64_b64 data
  have covers' := covers
  simp only [Phone.aad, Phone.quoted, bind, Option.bind_eq_some_iff, Option.map_eq_some_iff] at covers'
  obtain ⟨_, ⟨algorithm, -, rfl⟩, _, ⟨id, -, rfl⟩, _, ⟨to_recipient, recipients, rfl⟩, _, ⟨from_sender, senders, rfl⟩,
    _, ⟨type, -, rfl⟩, version, -, text⟩ := covers'
  obtain ⟨rfl, rfl⟩ := aadText_route quotes ((Option.some.inj text).trans associated.symm)
  exact ⟨senders, recipients, associated ▸ covers, read keys keys', read nonces nonces', read ciphers ciphers'⟩

end Checks

/-! ## What the Wisp has signed -/

/-- The steps of the processes of a Wisp, each of which starts with pinned keys at most. -/
def Processes (env : Env) (processes : List (List (Runtime × Event))) : Prop :=
  ∀ taken ∈ processes, ∃ start m, Initial start ∧ Trail (Runtime.step env) start taken m

/-- What the Wisp signs with its identity key: the acceptances of the handshakes it has taken part in,
sealed for the keys of their peers, and its answers to the challenges of the relay. -/
inductive Signs (env : Env) (Wrapped : String → Bytes → Bytes → Prop) (processes : List (List (Runtime × Event))) :
    Bytes → Prop
  | accept {taken : List (Runtime × Event)} {m : Runtime} {message body envelope : Json} {peers : Peers}
      {sender key messageId : String} {sign : Bytes → Bytes} {contentKey nonce wrappedKey bytes : Bytes}
      (ran : taken ∈ processes) (read : (m, .frame message) ∈ taken)
      (handled : m.peers.handleEnvelope env.rsa env.aead env.hkdf env.hmac env.clientId message m.now =
        (peers, .ok (sender, body)))
      (pinned : peers.keys.get? sender = some key) (wraps : env.rsa.wraps key = .ok ())
      (wrapped : Wrapped key contentKey wrappedKey)
      (sealed : encryptEnvelope env.aead sign env.clientId sender messageId body contentKey nonce wrappedKey none =
        .ok envelope)
      (signed : signedBytes envelope = .ok bytes) : Signs env Wrapped processes bytes
  | challenge (fields : String) : Signs env Wrapped processes (utf8 ("wisp-relay-auth-v1\n" ++ fields))

/-- The ideal primitives and the platform, for the holder of a public key. -/
structure Ideal (env : Env) (phone : Phone) (Wrapped : String → Bytes → Bytes → Prop)
    (processes : List (List (Runtime × Event))) (publicKey : String) : Prop where
  /-- What verifies under the key of the Wisp was signed by it. -/
  signed : ∀ signature bytes, phone.verify publicKey signature bytes = true → Signs env Wrapped processes bytes
  /-- What was encrypted opens as that, or not at all. -/
  wrapped : ∀ key contentKey wrappedKey opened, Wrapped key contentKey wrappedKey →
    phone.unwrap wrappedKey = some opened →
    opened = contentKey
  /-- The MAC has no collisions. -/
  mac : ∀ key key' message message', env.hmac key message = env.hmac key' message' → key = key' ∧ message = message'
  /-- The key derivation is that of RFC 5869, for one block. -/
  hkdf : env.hkdf = SessionCrypto.hkdf env.hmac
  /-- What was sealed opens. -/
  opens : ∀ {key nonce data aad ciphertext}, env.aead.encrypt key nonce data aad = .ok ciphertext →
    env.aead.decrypt key nonce ciphertext aad = .ok data
  quotes : Quotes phone.quote
  /-- An object of texts is read as it was written. -/
  parses : ∀ fields : List (String × String), (fields.map Prod.fst).Nodup →
    phone.parse (utf8 (Json.dumps (.obj (fields.map fun field => (field.1, .str field.2))))) =
      some (.obj (fields.map fun field => (field.1, .str field.2)))

/-- Two ends of a session, with the same keys in opposite roles. -/
structure Mirrored (hkdf hkdf' : Hkdf) (android wisp : PeerSession) : Prop where
  sessionId : android.sessionId = wisp.sessionId
  localId : android.localId = wisp.peerId
  peerId : android.peerId = wisp.localId
  sendKey : android.sendKey = wisp.receiveKey
  receiveKey : android.receiveKey = wisp.sendKey
  bulkKey : ∀ transferId sending, android.bulkKey hkdf transferId sending = wisp.bulkKey hkdf' transferId !sending

section Agreement

variable {env : Env} {phone : Phone} {pending : SessionHandshake.Pending} {envelope : Json}
    {now : ℕ} {session : PeerSession}

/-- The acceptance of a handshake does not look like an answer to a challenge. -/
theorem signedBytes_apart {signed : Bytes} (covered : phone.signedBytes envelope = some signed) (fields : String) :
    signed ≠ utf8 ("wisp-relay-auth-v1\n" ++ fields) := by
  simp only [Phone.signedBytes, bind, Option.bind_eq_some_iff] at covered
  obtain ⟨aad, covers, key, keys, once, nonces, cipher, ciphers, joined⟩ := covered
  simp only [Phone.aad, bind, Option.bind_eq_some_iff] at covers
  obtain ⟨algorithm, -, id, -, recipient, -, sender, -, type, -, version, -, text⟩ := covers
  rw [← Option.some.inj joined, ← Option.some.inj text, List.intercalate_cons_cons]
  obtain ⟨rest, members⟩ := aadText_members algorithm id recipient sender type version
  rw [utf8_flatMap, utf8_flatMap, members, String.toList_append]
  intro same
  have heads := congrArg List.head? same
  have brace : String.utf8EncodeChar '\x7b' = [0x7b] := by decide
  have letter : "wisp-relay-auth-v1\n".toList = 'w' :: "isp-relay-auth-v1\n".toList := by decide
  have letter' : String.utf8EncodeChar 'w' = [0x77] := by decide
  rw [letter, named, List.flatMap_cons, List.cons_append, List.flatMap_cons, brace, letter'] at heads
  simp at heads

/-- What an acceptance of the Wisp is sealed from. -/
theorem encryptEnvelope_ok {aead : Aead} {sign : Bytes → Bytes}
    {sender recipient messageId : String} {body envelope : Json}
    {contentKey nonce wrappedKey bytes : Bytes}
    (sealed : encryptEnvelope aead sign sender recipient messageId body contentKey nonce wrappedKey none = .ok envelope)
    (signed : signedBytes envelope = .ok bytes) :
    ∃ ciphertext, aead.encrypt contentKey nonce (utf8 body.dumps)
        (aadOf (.obj (envelopeHeader sender recipient messageId))) =
      .ok ciphertext ∧ bytes = toSign sender recipient messageId wrappedKey nonce ciphertext := by
  cases outcome : aead.encrypt contentKey nonce (utf8 body.dumps)
      (aadOf (.obj (envelopeHeader sender recipient messageId))) with
  | error e =>
    have covered := envelopeAad_eq (.obj (envelopeHeader sender recipient messageId))
      (by simp [envelopeHeader, Json.has, Json.lookup])
    simp [encryptEnvelope, covered, outcome, bind, Except.bind] at sealed
  | ok ciphertext =>
    refine ⟨ciphertext, rfl, ?_⟩
    rw [encryptEnvelope_eq outcome] at sealed
    cases sealed
    rw [(signedBytes_sealed sender recipient messageId wrappedKey nonce ciphertext none _).1] at signed
    exact (Except.ok.inj signed).symm

theorem b64_injective : Function.Injective b64 := by
  intro a b same
  have read := unb64_b64 a
  rw [same, unb64_b64] at read
  exact (Except.ok.inj read).symm

/-- With no collisions, the proof of an acceptance depends on the master secret. -/
theorem master_of_proof {hmac : Hmac} (mac : ∀ key key' message message', hmac key message = hmac key' message' →
    key = key' ∧ message = message') {master master' : Bytes} {sessionId challenge challenge' androidId androidId' wispId
      wispId' : String}
    (proof : SessionCrypto.acceptProof hmac master sessionId challenge androidId wispId =
      some (sessionAcceptProof (SessionCrypto.hkdf hmac) hmac master' sessionId challenge' androidId' wispId')) :
    master = master' := by
  simp only [SessionCrypto.acceptProof, bind, Option.bind_eq_some_iff] at proof
  obtain ⟨keys, derived, encoded⟩ := proof
  rw [deriveKeys_some derived] at encoded
  have macs := b64_injective (Option.some.inj encoded)
  have keys := (mac _ _ _ _ macs).1
  have extracted := (mac _ _ _ _ keys).1
  exact (mac _ _ _ _ extracted).2

theorem optString_of_getString {name text : String} (read : phone.getString envelope name = some text) :
    phone.optString envelope name "" = text := by
  rw [Platform.optString, read]
  rfl

variable (phone) in
/-- What Android reads of an acceptance. -/
theorem sessionAccept_reads (hkdf : Hkdf) (hmac : Hmac) (clientId sender : String) (init : SessionInit) :
    phone.optString (sessionAccept hkdf hmac clientId sender init) "session_id" "" = init.sessionId ∧
      phone.optString (sessionAccept hkdf hmac clientId sender init) "challenge" "" = init.challenge ∧
      phone.optString (sessionAccept hkdf hmac clientId sender init) "proof" "" =
        sessionAcceptProof hkdf hmac init.master init.sessionId init.challenge sender clientId :=
  ⟨rfl, rfl, rfl⟩

/-- The step that reads an acceptable handshake installs its session. -/
theorem accepted_installs {m m' : Runtime} {message body : Json} {sender key : String} {init : SessionInit}
    (stepped : m.step env (.frame message) = some m') (from_sender : message.get "sender" = .str sender)
    (to_self : message.get "recipient" = .str env.clientId)
    (accepted : decryptEnvelope env.rsa env.aead message (m.peers.keys.get? sender) = .ok (body, key))
    (carries : sessionInit body = .ok init) :
    m'.peers.sessions.get? sender = some (init.session env.hkdf env.clientId sender m.now) := by
  simp only [Runtime.step] at stepped
  split_ifs at stepped
  cases stepped
  have line : message.isObj = true := by
    cases message with
    | obj fields => rfl
    | _ => simp [Json.get] at from_sender
  have kind := (decryptEnvelope_ok accepted).2.1
  unfold onFrame
  rw [if_neg (not_not.mpr line), kind, if_neg (by simp), if_pos rfl]
  simp only [onEnvelope, handleEnvelope_accepts from_sender to_self accepted carries, Dict.get?_insert_self,
    pin_get? accepted]
  split
  · exact Dict.get?_insert_self _ _ _
  · exact Dict.get?_insert_self _ _ _

/-- Both ends derive their keys from the same secret. -/
theorem session_mirrored (hkdf : env.hkdf = SessionCrypto.hkdf env.hmac) (owner : pending.owner = env.clientId)
    (createdAt now : ℕ) :
    Mirrored (SessionCrypto.hkdf env.hmac) env.hkdf
      (.create pending.sessionId pending.localId pending.owner
        (SessionCrypto.hkdf env.hmac pending.master (utf8 pending.sessionId) androidToWisp)
        (SessionCrypto.hkdf env.hmac pending.master (utf8 pending.sessionId) wispToAndroid) createdAt true)
      (SessionInit.session ⟨pending.sessionId, pending.challenge, pending.master⟩ env.hkdf env.clientId
        pending.localId now) := by
  rw [hkdf, owner]
  constructor
  · rfl
  · rfl
  · rfl
  · rfl
  · rfl
  · intro transferId sending
    cases sending
    · rfl
    · rfl

/-- A handshake that Android finishes was accepted by the holder of the peer's key: for the same session
id, challenge and master secret, in Android's name, with the other end of the same session. -/
theorem agreement (env : Env) (phone : Phone) {Wrapped : String → Bytes → Bytes → Prop}
    {processes : List (List (Runtime × Event))} (ran : Processes env processes)
    (ideal : Ideal env phone Wrapped processes pending.peerPublicKey)
    (finished : SessionHandshake.finish phone env.aead env.hmac pending envelope now = some session) :
    pending.owner = env.clientId ∧ ∃ taken ∈ processes, ∃ m message m', (m, Event.frame message) ∈ taken ∧
      m.step env (.frame message) = some m' ∧ message.get "sender" = .str pending.localId ∧
      (∃ body key, decryptEnvelope env.rsa env.aead message (m.peers.keys.get? pending.localId) = .ok (body, key) ∧
        sessionInit body = .ok ⟨pending.sessionId, pending.challenge, pending.master⟩) ∧
      ∃ other, m'.peers.sessions.get? pending.localId = some other ∧
        Mirrored (SessionCrypto.hkdf env.hmac) env.hkdf session other := by
  obtain ⟨from_owner, to_local, body, key, keys, opened, ids, challenges, proof, derived, rfl⟩ := finish_ok finished
  obtain ⟨⟨signature, signed, covered, valid⟩, encryptedKey, contentKey, nonce, aad, ciphertext, plaintext, wrappedKeys,
    unwrapped, nonces, covers, ciphers, decrypted, parsed⟩ := decrypt_ok opened
  cases ideal.signed signature signed valid with
  | challenge fields => exact absurd rfl (signedBytes_apart covered fields)
  | accept member read handled pinned wraps wrapped sealed signs =>
    rename_i taken m message answer _ peers sender pinnedKey messageId _ content once wrappedKey
    obtain ⟨cipher, encrypted, same⟩ := encryptEnvelope_ok sealed signs
    obtain ⟨senders, recipients, aads, keys', nonces', ciphers'⟩ := signedBytes_reads ideal.quotes covered same
    -- The route and the key material are those of the Wisp.
    have owner : pending.owner = env.clientId := from_owner.symm.trans (optString_of_getString senders)
    obtain rfl : pending.localId = sender := to_local.symm.trans (optString_of_getString recipients)
    obtain rfl := Option.some.inj (wrappedKeys.symm.trans keys')
    obtain rfl := Option.some.inj (nonces.symm.trans nonces')
    obtain rfl := Option.some.inj (ciphers.symm.trans ciphers')
    obtain rfl := Option.some.inj (covers.symm.trans aads)
    obtain rfl := ideal.wrapped _ _ _ _ wrapped unwrapped
    obtain rfl := Except.ok.inj (decrypted.symm.trans (ideal.opens encrypted))
    cases handleEnvelope_handled handled with
    | accepted _ used content init from_sender to_self accepted carries =>
      -- So Android reads what the Wisp answered.
      have reads := ideal.parses [("type", "session_accept"), ("session_id", init.sessionId),
        ("challenge", init.challenge),
        ("proof", sessionAcceptProof env.hkdf env.hmac init.master init.sessionId init.challenge
          pending.localId env.clientId)] (by simp)
      obtain rfl : sessionAccept env.hkdf env.hmac env.clientId pending.localId init = body :=
        Option.some.inj (reads.symm.trans parsed)
      obtain ⟨ids', challenges', proof'⟩ := sessionAccept_reads phone env.hkdf env.hmac env.clientId
        pending.localId init
      rw [proof', ideal.hkdf] at proof
      have same_id : pending.sessionId = init.sessionId := ids.symm.trans ids'
      have same_challenge : pending.challenge = init.challenge := challenges.symm.trans challenges'
      have same_master : pending.master = init.master := by
        rw [← same_id] at proof
        exact master_of_proof ideal.mac proof
      have same_init : init = ⟨pending.sessionId, pending.challenge, pending.master⟩ := by
        rw [same_id, same_challenge, same_master]
      subst same_init
      obtain ⟨start, last, -, trail⟩ := ran taken member
      obtain ⟨m', stepped⟩ := trail.stepped read
      have installed := accepted_installs stepped from_sender to_self accepted carries
      refine ⟨owner, taken, member, m, message, m', read, stepped, from_sender, ⟨content, used, accepted, carries⟩, _,
        installed, ?_⟩
      rw [deriveKeys_some derived]
      exact session_mirrored ideal.hkdf owner _ _

end Agreement

end WispGate.Soundness.Agreement
