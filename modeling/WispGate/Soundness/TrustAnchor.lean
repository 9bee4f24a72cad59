import WispGate.Model.Bootstrap
import WispGate.Soundness.Handshakes

/-! # What stands behind a trust anchor

The nonce of a bootstrap run leaves its client under the relay's key and the relay under the key that
came with it. Whoever opens neither cannot write the nonce into a message, so a response that carries
it is the relay's.
-/

namespace WispGate.Soundness.TrustAnchor

open Data Model Model.Relay Model.Bootstrap Handshakes

/-! ## Payloads -/

section Payloads

@[simp] theorem unb64_paddedB64 (data : Bytes) : unb64 (paddedB64 data) = .ok data := by
  have whole : ∀ c ∈ Base64.encode data ++ Base64.padding (Base64.encode data).length, c.toNat < 128 := by
    intro c member
    rcases List.mem_append.mp member with digit | pad
    · exact Base64.encode_ascii data c digit
    · rw [List.eq_of_mem_replicate pad]
      decide
  have full : (Base64.encode data ++ Base64.padding (Base64.encode data).length).length % 4 = 0 := by
    rw [List.length_append, Base64.padding, List.length_replicate]
    omega
  have none : Base64.padding (Base64.encode data ++ Base64.padding (Base64.encode data).length).length = [] := by
    rw [Base64.padding, full]
    rfl
  have decoded : Base64.decode (paddedB64 data) = some data := by
    unfold Base64.decode paddedB64
    rw [String.toList_ofList, if_pos (List.all_eq_true.mpr fun c member => decide_eq_true (whole c member)), none,
      List.append_nil, Base64.decodeFrom_encode]
  rw [unb64, decoded]

theorem isAscii_paddedB64 (data : Bytes) : isAscii (paddedB64 data) = true := by
  simp only [isAscii, paddedB64, String.toList_ofList, List.all_eq_true, decide_eq_true_eq]
  intro c member
  rcases List.mem_append.mp member with digit | pad
  · exact Base64.encode_ascii data c digit
  · rw [List.eq_of_mem_replicate pad]
    decide

theorem decodedMember_text {payload : Json} {key text : String} {data : Bytes} (present : payload.has key = true)
    (read : payload.get key = .str text) (ascii : isAscii text = true) (decoded : unb64 text = .ok data) :
    decodedMember payload key = .ok data := by
  simp [decodedMember, member, present, read, asciiText, Json.asStr?, ascii, decoded, bind, Except.bind]

/-- The nonce that either end reads from a payload. -/
def nonceOf (payload : Bytes) : Option Bytes := (loadsBytes payload >>= (decodedMember · "nonce")).toOption

variable {sha256 : Bytes → Bytes} {client : Client} {nonce certificateDer : Bytes}

theorem nonceOf_eq {payload : Bytes} {value : Json} (read : loadsBytes payload = .ok value)
    (decoded : decodedMember value "nonce" = .ok nonce) : nonceOf payload = some nonce := by
  unfold nonceOf
  rw [read]
  exact congrArg Except.toOption decoded

theorem nonceOf_request : nonceOf (requestPayload client nonce) = some nonce :=
  nonceOf_eq (loadsBytes_dumps _) (decodedMember_text rfl rfl (isAscii_paddedB64 nonce) (unb64_paddedB64 nonce))

theorem nonceOf_response : nonceOf (responsePayload sha256 nonce certificateDer) = some nonce :=
  nonceOf_eq (loadsBytes_dumps _) (decodedMember_text rfl rfl (isAscii_b64 nonce) (unb64_b64 nonce))

end Payloads

/-! ## What the two ends accept -/

section Ends

variable {sealings : List Sealing} {publicKey message : String} {nonce : Bytes} {payload : Json}

theorem bind_ok {α β : Type} {x : Except PyError α} {f : α → Except PyError β} {b : β} (success : (x >>= f) = .ok b) :
    ∃ a, x = .ok a ∧ f a = .ok b := by
  cases x with
  | error e => cases success
  | ok a => exact ⟨a, rfl, success⟩

theorem asciiText_ok {value : Json} {text : String} (read : asciiText value = .ok text) : value = .str text := by
  unfold asciiText at read
  split at read
  · cases read
  · rename_i found
    split_ifs at read
    cases read
    exact (Json.asStr?_eq_some_iff _ _).mp found

/-- What opens was sealed for the key. -/
theorem openPayload_ok (opened : openPayload sealings publicKey message = .ok payload) :
    ∃ sealing ∈ sealings, sealing.publicKey = publicKey ∧ loadsBytes sealing.payload = .ok payload := by
  obtain ⟨bytes, -, opened⟩ := bind_ok opened
  obtain ⟨content, opened, read⟩ := bind_ok opened
  obtain ⟨envelope, -, opened⟩ := bind_ok opened
  obtain ⟨key, -, opened⟩ := bind_ok opened
  obtain ⟨nonce, -, opened⟩ := bind_ok opened
  obtain ⟨ciphertext, -, opened⟩ := bind_ok opened
  split at opened
  · rename_i sealing found
    cases opened
    have met : sealing.parts = ⟨key, nonce, ciphertext⟩ ∧ sealing.publicKey = publicKey := by
      simpa using List.find?_some found
    exact ⟨sealing, List.mem_of_find?_eq_some found, met.2, read⟩
  · cases opened

theorem decryptBootstrapRequest_ok {env : Env} {request : BootstrapRequest}
    (decrypted : decryptBootstrapRequest env message = .ok request) : ∃ payload keyText,
    env.openSealed message = .ok payload ∧ member payload "client_public_key" = .ok (.str keyText) ∧
      env.loadKey keyText = some request.clientKey ∧ decodedMember payload "nonce" = .ok request.nonce := by
  unfold decryptBootstrapRequest at decrypted
  obtain ⟨payload, opened, decrypted⟩ := bind_ok decrypted
  dsimp only at decrypted
  split_ifs at decrypted with object
  swap
  · obtain ⟨_, thrown, -⟩ := bind_ok decrypted
    cases thrown
  split at decrypted
  · obtain ⟨value, named, decrypted⟩ := bind_ok decrypted
    obtain ⟨keyText, ascii, decrypted⟩ := bind_ok decrypted
    split at decrypted
    · cases decrypted
    rename_i clientKey loaded
    obtain ⟨nonce, read, decrypted⟩ := bind_ok decrypted
    split_ifs at decrypted
    · obtain ⟨_, thrown, -⟩ := bind_ok decrypted
      cases thrown
    cases decrypted
    exact ⟨payload, keyText, opened, asciiText_ok ascii ▸ named, loaded, read⟩
  · cases decrypted

theorem bootstrapTls_ok {sha256 : Bytes → Bytes} {result : Json} {anchor : String}
    (stored : bootstrapTls sha256 sealings publicKey nonce result = .ok anchor) : ∃ sealing ∈ sealings,
    ∃ payload certificateDer, sealing.publicKey = publicKey ∧ loadsBytes sealing.payload = .ok payload ∧
      decodedMember payload "nonce" = .ok nonce ∧ decodedMember payload "certificate_der" = .ok certificateDer ∧
      anchor = hex (sha256 certificateDer) := by
  unfold bootstrapTls at stored
  dsimp only at stored
  split_ifs at stored
  · obtain ⟨_, thrown, -⟩ := bind_ok stored
    cases thrown
  obtain ⟨value, -, stored⟩ := bind_ok stored
  obtain ⟨message, -, stored⟩ := bind_ok stored
  obtain ⟨response, decrypted, stored⟩ := bind_ok stored
  split_ifs at stored
  · obtain ⟨_, thrown, -⟩ := bind_ok stored
    cases thrown
  cases stored
  obtain ⟨payload, opened, decrypted⟩ := bind_ok decrypted
  obtain ⟨nonce', read, decrypted⟩ := bind_ok decrypted
  dsimp only at decrypted
  split_ifs at decrypted with other
  · obtain ⟨_, thrown, -⟩ := bind_ok decrypted
    cases thrown
  obtain ⟨certificateDer, certified, decrypted⟩ := bind_ok decrypted
  obtain ⟨certificateSha256, -, decrypted⟩ := bind_ok decrypted
  split_ifs at decrypted
  · obtain ⟨_, thrown, -⟩ := bind_ok decrypted
    cases thrown
  cases decrypted
  obtain ⟨sealing, member, key, content⟩ := openPayload_ok opened
  exact ⟨sealing, member, payload, certificateDer, key, content, not_not.mp other ▸ read, certified, rfl⟩

end Ends

/-! ## What the attacker can write -/

inductive Fact where
  | nonce (value : Bytes)
  | payload (content : Bytes)

/-- The nonce that a fact gives away. -/
def Fact.Carries : Fact → Bytes → Prop
  | .nonce value, mark => value = mark
  | .payload content, mark => nonceOf content = some mark

/-- What the owner of the network derives with some private keys: it opens what was sealed for them,
reads and writes payloads, and guesses no nonce that a client drew. -/
inductive Derives (corrupt : String → Prop) (s : World) : Fact → Prop
  | guessed {nonce : Bytes} : (∀ run ∈ s.runs, run.nonce ≠ nonce) → Derives corrupt s (.nonce nonce)
  | opened {sealing : Sealing} : sealing ∈ s.sealings → corrupt sealing.publicKey →
      Derives corrupt s (.payload sealing.payload)
  | read {content nonce : Bytes} : Derives corrupt s (.payload content) → nonceOf content = some nonce →
      Derives corrupt s (.nonce nonce)
  | written {content : Bytes} : (∀ nonce, nonceOf content = some nonce → Derives corrupt s (.nonce nonce)) →
      Derives corrupt s (.payload content)

/-- Nonces are fresh, a client's key loads as itself, and others seal what they can write. -/
def Ideal (env : Env) (corrupt : String → Prop) (s : World) : Bootstrap.Event → Prop
  | .begin client nonce _ => (∀ run ∈ s.runs, run.nonce ≠ nonce) ∧
      (∀ sealing ∈ s.sealings, nonceOf sealing.payload ≠ some nonce) ∧
      ∀ loaded, env.loadKey client.publicKey = some loaded → loaded.encoded = client.publicKey
  | .forge _ payload _ => Derives corrupt s (.payload payload)
  | _ => True

/-! ## The invariant -/

section Invariant

variable (env : Env) (sha256 : Bytes → Bytes) (relayKey : String) (corrupt : String → Prop)

/-- The two messages that carry the nonce of a run. -/
inductive Own (responses : List Response) (client : Client) (nonce : Bytes) (sealing : Sealing) : Prop
  | request : sealing.publicKey = relayKey → sealing.payload = requestPayload client nonce →
      Own responses client nonce sealing
  | response (certificateDer : Bytes) : ⟨client.publicKey, nonce, certificateDer⟩ ∈ responses →
      sealing.publicKey = client.publicKey → sealing.payload = responsePayload sha256 nonce certificateDer →
      Own responses client nonce sealing

/-- The relay answered a run with the certificate that an anchor is the hash of. -/
def Anchored (responses : List Response) (run : Run) (anchor : String) : Prop :=
  ∃ certificateDer, ⟨run.client.publicKey, run.nonce, certificateDer⟩ ∈ responses ∧ anchor = hex (sha256 certificateDer)

/-- What is known about a run whose client alone holds its key. -/
structure Sound (sealings : List Sealing) (responses : List Response) (run : Run) : Prop where
  loads : ∀ loaded, env.loadKey run.client.publicKey = some loaded → loaded.encoded = run.client.publicKey
  secret : ∀ sealing ∈ sealings, nonceOf sealing.payload = some run.nonce →
    Own sha256 relayKey responses run.client run.nonce sealing
  stored : ∀ anchor, run.outcome = some (.ok anchor) → Anchored sha256 responses run anchor

def Bound (s : World) : Prop :=
  ∀ run ∈ s.runs, ¬ corrupt run.client.publicKey → Sound env sha256 relayKey s.sealings s.responses run

end Invariant

section Steps

variable {env : Env} {sha256 : Bytes → Bytes} {relayKey : String} {corrupt : String → Prop} {s s' : World}

theorem Own.mono {responses responses' : List Response} {client : Client} {nonce : Bytes} {sealing : Sealing}
    (own : Own sha256 relayKey responses client nonce sealing) (more : ∀ response ∈ responses, response ∈ responses') :
    Own sha256 relayKey responses' client nonce sealing := by
  cases own with
  | request key payload => exact .request key payload
  | response certificateDer answered key payload => exact .response certificateDer (more _ answered) key payload

/-- No derivation gives away the nonce of a client that alone holds its key. -/
theorem derives_other (bound : Bound env sha256 relayKey corrupt s) (held : ¬ corrupt relayKey) {run : Run}
    (member : run ∈ s.runs) (alone : ¬ corrupt run.client.publicKey) {fact : Fact} (derived : Derives corrupt s fact) :
    ¬ fact.Carries run.nonce := by
  induction derived with
  | guessed other => exact fun same => other run member same.symm
  | opened sealed corrupted =>
    intro carries
    cases (bound run member alone).secret _ sealed carries with
    | request key => exact held (key ▸ corrupted)
    | response certificateDer answered key => exact alone (key ▸ corrupted)
  | read _ carried ih =>
    rintro rfl
    exact ih carried
  | written _ ih => exact fun carries => ih _ carries rfl

theorem encrypts_ok {parts : Parts} {publicKey : String} {payload : Bytes}
    (encrypted : s.encrypts parts publicKey payload = some s') :
    s' = { s with sealings := ⟨parts, publicKey, payload⟩ :: s.sealings } := by
  unfold World.encrypts at encrypted
  split_ifs at encrypted
  exact (Option.some.inj encrypted).symm

/-- An encryption is sound where it carries the nonce of a run in one of the run's own messages. -/
theorem Bound.encrypts {parts : Parts} {publicKey : String} {payload : Bytes}
    (bound : Bound env sha256 relayKey corrupt s)
    (encrypted : s.encrypts parts publicKey payload = some s')
    (own : ∀ run ∈ s.runs, ¬ corrupt run.client.publicKey → nonceOf payload = some run.nonce →
      Own sha256 relayKey s.responses run.client run.nonce ⟨parts, publicKey, payload⟩) :
    Bound env sha256 relayKey corrupt s' := by
  obtain rfl := encrypts_ok encrypted
  intro run member alone
  have sound := bound run member alone
  refine ⟨sound.loads, fun sealing sealed carries => ?_, sound.stored⟩
  rcases List.mem_cons.mp sealed with rfl | sealed
  · exact own run member alone carries
  · exact sound.secret sealing sealed carries

theorem begin_bound {client : Client} {nonce : Bytes} {parts : Parts} (bound : Bound env sha256 relayKey corrupt s)
    (ideal : Ideal env corrupt s (.begin client nonce parts))
    (stepped : s.step env sha256 relayKey (.begin client nonce parts) = some s') :
    Bound env sha256 relayKey corrupt s' := by
  obtain ⟨unused, unsealed, loads⟩ := ideal
  have before : Bound env sha256 relayKey corrupt { s with runs := s.runs ++ [⟨client, nonce, none⟩] } := by
    intro run member alone
    rcases List.mem_append.mp member with earlier | new
    · exact bound run earlier alone
    · obtain rfl := List.mem_singleton.mp new
      exact ⟨loads, fun sealing sealed carries => absurd carries (unsealed sealing sealed), by simp⟩
  refine before.encrypts stepped fun run member _ carries => ?_
  rw [nonceOf_request, Option.some.injEq] at carries
  rcases List.mem_append.mp member with earlier | new
  · exact absurd carries.symm (unused run earlier)
  · obtain rfl := List.mem_singleton.mp new
    -- reduced first: unification would unfold the payload
    refine .request ?_ ?_ <;> dsimp only

/-- What the relay opens with the nonce of a run is the request of the run. -/
theorem request_own (bound : Bound env sha256 relayKey corrupt s) {message : String} {parts : Parts}
    {request : BootstrapRequest}
    (decrypted : decryptBootstrapRequest (s.relayEnv env relayKey parts) message = .ok request)
    {run : Run} (member : run ∈ s.runs) (alone : ¬ corrupt run.client.publicKey) (same : request.nonce = run.nonce) :
    request.clientKey.encoded = run.client.publicKey := by
  obtain ⟨payload, keyText, opened, named, loaded, read⟩ := decryptBootstrapRequest_ok decrypted
  obtain ⟨sealing, sealed, key, content⟩ := openPayload_ok opened
  have sound := bound run member alone
  cases sound.secret sealing sealed (same ▸ nonceOf_eq content read) with
  | request _ written =>
    rw [written, requestPayload, loadsBytes_dumps] at content
    cases content
    cases named
    exact sound.loads _ loaded
  | response certificateDer _ _ written =>
    rw [written, responsePayload, loadsBytes_dumps] at content
    cases content
    cases named

theorem bootstrap_bound {now : ℕ} {hello : Json} {parts : Parts} (bound : Bound env sha256 relayKey corrupt s)
    (stepped : s.step env sha256 relayKey (.bootstrap now hello parts) = some s') :
    Bound env sha256 relayKey corrupt s' := by
  simp only [World.step] at stepped
  split_ifs at stepped
  unfold World.onBootstrap at stepped
  split at stepped
  · cases stepped
    exact bound
  rename_i certificateDer certified
  dsimp only at stepped
  split at stepped
  · cases stepped
    exact bound
  rename_i request decrypted
  obtain ⟨message, -, decrypted⟩ := bind_ok decrypted
  have answered : ∀ run ∈ s.runs, ¬ corrupt run.client.publicKey → Sound env sha256 relayKey s.sealings
      (⟨request.clientKey.encoded, request.nonce, certificateDer⟩ :: s.responses) run := by
    intro run member alone
    obtain ⟨loads, secret, stored⟩ := bound run member alone
    refine ⟨loads, fun sealing sealed carries => ?_, fun anchor ended => ?_⟩
    · exact (secret sealing sealed carries).mono fun _ => List.mem_cons_of_mem _
    · obtain ⟨certificate, listed, same⟩ := stored anchor ended
      exact ⟨certificate, List.mem_cons_of_mem _ listed, same⟩
  split at stepped
  · rename_i runtime _ _
    refine Bound.encrypts (s := { s with runtime := runtime, responses := _ }) answered stepped
      fun run member alone carries => ?_
    rw [nonceOf_response, Option.some.injEq] at carries
    have key := request_own bound decrypted member alone carries
    refine .response certificateDer ?_ key ?_
    · rw [key, carries]
      exact List.mem_cons_self
    · rw [carries]
  · cases stepped
    exact bound

theorem answer_bound {index : ℕ} {result : Json} (bound : Bound env sha256 relayKey corrupt s)
    (stepped : s.step env sha256 relayKey (.answer index result) = some s') : Bound env sha256 relayKey corrupt s' := by
  simp only [World.step] at stepped
  split at stepped
  · rename_i run found
    split_ifs at stepped
    cases stepped
    intro run' member alone
    rcases List.mem_or_eq_of_mem_set member with other | rfl
    · exact bound run' other alone
    have sound := bound run (List.mem_of_getElem? found) alone
    refine ⟨sound.loads, sound.secret, fun anchor stored => ?_⟩
    obtain ⟨sealing, sealed, payload, certificateDer, key, content, read, certified, same⟩ :=
      bootstrapTls_ok (Option.some.inj stored)
    cases sound.secret sealing sealed (nonceOf_eq content read) with
    | request _ written =>
      rw [written, requestPayload, loadsBytes_dumps] at content
      cases content
      cases certified
    | response certificate answered _ written =>
      rw [written, responsePayload, loadsBytes_dumps] at content
      cases content
      rw [decodedMember_text rfl rfl (isAscii_b64 certificate) (unb64_b64 certificate)] at certified
      cases certified
      exact ⟨_, answered, same⟩
  · cases stepped

theorem step_bound {e : Bootstrap.Event} (bound : Bound env sha256 relayKey corrupt s) (held : ¬ corrupt relayKey)
    (ideal : Ideal env corrupt s e) (stepped : s.step env sha256 relayKey e = some s') :
    Bound env sha256 relayKey corrupt s' := by
  cases e with
  | begin client nonce parts => exact begin_bound bound ideal stepped
  | bootstrap now hello parts => exact bootstrap_bound bound stepped
  | relay runtime certificateDer =>
    cases stepped
    exact bound
  | forge publicKey payload parts =>
    exact bound.encrypts stepped fun run member alone carries =>
      absurd carries (derives_other bound held member alone ideal)
  | answer index result => exact answer_bound bound stepped

end Steps

/-- An anchor that a client stores is the hash of the certificate that the relay put into a response to
this very request. -/
theorem anchored (env : Env) (sha256 : Bytes → Bytes) {relayKey : String} {corrupt : String → Prop} {s : World}
    (held : ¬ corrupt relayKey) (reach : Reach (World.step env sha256 relayKey) (Ideal env corrupt) World.Initial s)
    {run : Run} (member : run ∈ s.runs) (alone : ¬ corrupt run.client.publicKey) {anchor : String}
    (stored : run.outcome = some (.ok anchor)) : Anchored sha256 s.responses run anchor := by
  have bound := reach.invariant (Bound env sha256 relayKey corrupt)
    (fun s initial run member => absurd (initial.2.1 ▸ member) List.not_mem_nil)
    (fun s e s' _ bound ideal stepped => step_bound bound held ideal stepped)
  exact (bound run member alone).stored anchor stored

/-! ## An undisturbed exchange -/

section Exchange

variable {sealings : List Sealing} {publicKey : String}

/-- A message opens under a key to what was sealed in it. -/
def Opens (sealings : List Sealing) (parts : Parts) (publicKey : String) (payload : Bytes) : Prop :=
  (sealings.find? fun sealing => decide (sealing.parts = parts ∧ sealing.publicKey = publicKey)) =
    some ⟨parts, publicKey, payload⟩

theorem opens_cons (parts : Parts) (payload : Bytes) :
    Opens (⟨parts, publicKey, payload⟩ :: sealings) parts publicKey payload := by
  simp [Opens]

theorem openPayload_text {parts : Parts} {payload : Bytes} (opens : Opens sealings parts publicKey payload) :
    openPayload sealings publicKey parts.text = loadsBytes payload := by
  unfold Opens at opens
  have key : decodedMember parts.envelope "key" = .ok parts.key :=
    decodedMember_text rfl rfl (isAscii_paddedB64 parts.key) (unb64_paddedB64 parts.key)
  have nonce : decodedMember parts.envelope "nonce" = .ok parts.nonce :=
    decodedMember_text rfl rfl (isAscii_paddedB64 parts.nonce) (unb64_paddedB64 parts.nonce)
  have ciphertext : decodedMember parts.envelope "ciphertext" = .ok parts.ciphertext :=
    decodedMember_text rfl rfl (isAscii_paddedB64 parts.ciphertext) (unb64_paddedB64 parts.ciphertext)
  have opened : openSealing sealings publicKey (utf8 parts.envelope.dumps) = .ok payload := by
    unfold openSealing
    simp only [loadsBytes_dumps, key, nonce, ciphertext, bind, Except.bind, opens]
    rfl
  unfold openPayload Parts.text
  simp only [unb64_b64, opened, bind, Except.bind]

/-- The relay reads the request of a client with an RSA key. -/
theorem decryptBootstrapRequest_request {env : Env} {message : String} {client : Client} {nonce : Bytes} {key : LoadedKey}
    (opened : env.openSealed message = loadsBytes (requestPayload client nonce)) (ascii : isAscii client.publicKey = true)
    (loaded : env.loadKey client.publicKey = some key) (rsa : key.rsa = true) (long : 16 ≤ nonce.length) :
    decryptBootstrapRequest env message = .ok ⟨client.clientId, client.clientKind, key, nonce⟩ := by
  unfold requestPayload at opened
  rw [loadsBytes_dumps] at opened
  generalize payload : Json.obj _ = content at opened
  have read : decodedMember content "nonce" = .ok nonce := by
    subst payload
    exact decodedMember_text rfl rfl (isAscii_paddedB64 nonce) (unb64_paddedB64 nonce)
  unfold decryptBootstrapRequest
  simp only [opened, bind, Except.bind, read]
  subst payload
  simp [Json.isObj, Json.get, Json.getD, Json.lookup, Json.asStr?, Json.pyEq, Json.number?, member, Json.has,
    asciiText, ascii, loaded, rsa, Nat.not_lt.mpr long]
  rfl

theorem asciiText_str {text : String} (ascii : isAscii text = true) : asciiText (.str text) = .ok text := if_pos ascii

theorem isAscii_text (parts : Parts) : isAscii parts.text = true := isAscii_b64 _

/-- A client stores the hash of the certificate in the relay's response. -/
theorem bootstrapTls_response {sha256 : Bytes → Bytes} {parts : Parts} {nonce certificateDer : Bytes}
    (opens : Opens sealings parts publicKey (responsePayload sha256 nonce certificateDer)) :
    bootstrapTls sha256 sealings publicKey nonce (RelayRuntime.answer [("type", .str "bootstrap_response"),
      ("payload", .str parts.text)]) = .ok (hex (sha256 certificateDer)) := by
  have opened := openPayload_text opens
  rw [responsePayload, loadsBytes_dumps] at opened
  generalize payload : Json.obj _ = content at opened
  have read : decodedMember content "nonce" = .ok nonce := by
    subst payload
    exact decodedMember_text rfl rfl (isAscii_b64 nonce) (unb64_b64 nonce)
  have certificate : decodedMember content "certificate_der" = .ok certificateDer := by
    subst payload
    exact decodedMember_text rfl rfl (isAscii_b64 certificateDer) (unb64_b64 certificateDer)
  have hash : decodedMember content "certificate_sha256" = .ok (sha256 certificateDer) := by
    subst payload
    exact decodedMember_text rfl rfl (isAscii_b64 (sha256 certificateDer)) (unb64_b64 (sha256 certificateDer))
  have decrypted : decryptBootstrapResponse sha256 sealings publicKey parts.text nonce =
      .ok ⟨nonce, certificateDer, sha256 certificateDer⟩ := by
    unfold decryptBootstrapResponse
    simp [opened, read, certificate, hash, bind, Except.bind, pure, Except.pure]
  have text := asciiText_str (isAscii_text parts)
  unfold bootstrapTls
  simp [RelayRuntime.answer, Json.get, Json.lookup, Json.truthy, member, Json.has, text, decrypted,
    bind, Except.bind, pure,
    Except.pure]

theorem encrypts_unused {s : World} {parts : Parts} {payload : Bytes}
    (unused : ∀ sealing ∈ s.sealings, sealing.parts ≠ parts) :
    s.encrypts parts publicKey payload = some { s with sealings := ⟨parts, publicKey, payload⟩ :: s.sealings } := by
  have fresh : (s.sealings.any fun sealing => decide (sealing.parts = parts)) = false := by simpa using unused
  unfold World.encrypts
  rw [fresh]
  rfl

/-- A request that arrives unchanged is answered, if the relay admits its client. -/
theorem bootstrap_answers (sha256 : Bytes → Bytes) {env : Env} {relayKey : String} {s : World} {parts parts' : Parts}
    {client : Client} {nonce certificateDer : Bytes} {key : LoadedKey} {runtime : RelayRuntime} {frame : Json} {now : ℕ}
    (certified : s.certificateDer = some certificateDer)
    (opens : Opens s.sealings parts relayKey (requestPayload client nonce)) (ascii : isAscii client.publicKey = true)
    (loaded : env.loadKey client.publicKey = some key) (rsa : key.rsa = true) (long : 16 ≤ nonce.length)
    (admitted : s.runtime.bootstrap (s.relayEnv env relayKey parts') now
      ⟨client.clientId, client.clientKind, key, nonce⟩ =
      (runtime, .ok (.continues frame)))
    (unused : ∀ sealing ∈ s.sealings, sealing.parts ≠ parts') :
    s.step env sha256 relayKey (.bootstrap now (.obj [("type", .str "bootstrap_request"), ("payload", .str parts.text)])
      parts') = some { s with
        runtime := runtime
        responses := ⟨key.encoded, nonce, certificateDer⟩ :: s.responses
        sealings := ⟨parts', key.encoded, responsePayload sha256 nonce certificateDer⟩ :: s.sealings } := by
  have opened : (s.relayEnv env relayKey parts').openSealed parts.text = loadsBytes (requestPayload client nonce) :=
    openPayload_text opens
  have request := decryptBootstrapRequest_request opened ascii loaded rsa long
  have named : member (.obj [("type", .str "bootstrap_request"), ("payload", .str parts.text)]) "payload" =
      .ok (.str parts.text) := rfl
  have kind : (Json.obj [("type", .str "bootstrap_request"), ("payload", .str parts.text)]).get "type" =
      .str "bootstrap_request" := rfl
  have read : ((member (.obj [("type", .str "bootstrap_request"), ("payload", .str parts.text)]) "payload").bind
      asciiText).bind
      (decryptBootstrapRequest (s.relayEnv env relayKey parts')) =
        .ok ⟨client.clientId, client.clientKind, key, nonce⟩ := by
    rw [named]
    simp only [Except.bind, asciiText_str (isAscii_text parts), request]
  simp only [World.step, kind, if_true, World.onBootstrap, certified, read, admitted]
  exact encrypts_unused unused

/-- A response that arrives unchanged is accepted. -/
theorem answer_stores (env : Env) (sha256 : Bytes → Bytes) (relayKey : String) {s : World} {index : ℕ} {run : Run}
    {parts : Parts} {certificateDer : Bytes} (waiting : s.runs[index]? = some run) (open_ended : run.outcome = none)
    (opens : Opens s.sealings parts run.client.publicKey (responsePayload sha256 run.nonce certificateDer)) :
    s.step env sha256 relayKey (.answer index (RelayRuntime.answer [("type", .str "bootstrap_response"),
      ("payload", .str parts.text)])) =
        some { s with runs := s.runs.set index { run with outcome := some (.ok (hex (sha256 certificateDer))) } } := by
  simp only [World.step, waiting, open_ended, Option.isSome_none, Bool.false_eq_true, if_false,
    bootstrapTls_response opens]

theorem bootstrap_enrolls {rt : RelayRuntime} {env : Env} {now : ℕ} {request : BootstrapRequest}
    (unknown : rt.state.clients.get? request.clientId = none) (enabled : env.enrollmentEnabled = true) :
    ∃ runtime frame, rt.bootstrap env now request = (runtime, .ok (.continues frame)) := by
  unfold RelayRuntime.bootstrap RelayState.clientAccess RelayState.enrollClient
  simp only [unknown, enabled, and_self, if_true]
  exact ⟨_, _, rfl⟩

/-- A request under way. -/
def asking (s : World) (relayKey : String) (client : Client) (nonce : Bytes) (parts : Parts) : World := { s with
  sealings := ⟨parts, relayKey, requestPayload client nonce⟩ :: s.sealings
  runs := s.runs ++ [⟨client, nonce, none⟩] }

/-- The relay has answered a request. -/
def answering (s : World) (sha256 : Bytes → Bytes) (publicKey : String) (nonce certificateDer : Bytes) (parts : Parts)
    (runtime : RelayRuntime) : World := { s with
  runtime := runtime
  sealings := ⟨parts, publicKey, responsePayload sha256 nonce certificateDer⟩ :: s.sealings
  responses := ⟨publicKey, nonce, certificateDer⟩ :: s.responses }

/-- Whatever happened before, an exchange that is not disturbed stores the hash of the certificate. -/
theorem exchange_stores (now : ℕ) (parts' : Parts) {env : Env} {sha256 : Bytes → Bytes} {relayKey : String}
    {corrupt : String → Prop} {s : World} (reach : Reach (World.step env sha256 relayKey)
      (Ideal env corrupt) World.Initial s)
    {client : Client} {nonce certificateDer : Bytes} {parts : Parts} {key : LoadedKey}
    (ideal : Ideal env corrupt s (.begin client nonce parts)) (certified : s.certificateDer = some certificateDer)
    (unused : ∀ sealing ∈ s.sealings, sealing.parts ≠ parts ∧ sealing.parts ≠ parts') (apart : parts ≠ parts')
    (ascii : isAscii client.publicKey = true) (loaded : env.loadKey client.publicKey = some key) (rsa : key.rsa = true)
    (long : 16 ≤ nonce.length) (admitted : ∀ env' : Env, env'.enrollmentEnabled = env.enrollmentEnabled →
      ∃ runtime frame, s.runtime.bootstrap env' now ⟨client.clientId, client.clientKind, key, nonce⟩ =
        (runtime, .ok (.continues frame))) :
    ∃ s', Reach (World.step env sha256 relayKey) (Ideal env corrupt) World.Initial s' ∧
      ⟨client, nonce, some (.ok (hex (sha256 certificateDer)))⟩ ∈ s'.runs := by
  have begun : s.step env sha256 relayKey (.begin client nonce parts) = some (asking s relayKey client nonce parts) :=
    encrypts_unused (s := { s with runs := s.runs ++ [⟨client, nonce, none⟩] })
      fun sealing sealed => (unused sealing sealed).1
  obtain ⟨runtime, frame, admitted⟩ := admitted ((asking s relayKey client nonce parts).relayEnv env relayKey parts') rfl
  have others : ∀ sealing ∈ (asking s relayKey client nonce parts).sealings, sealing.parts ≠ parts' := by
    rintro sealing (_ | ⟨_, sealed⟩)
    · exact apart
    · exact (unused sealing sealed).2
  have answered := bootstrap_answers (s := asking s relayKey client nonce parts) sha256 certified (opens_cons _ _) ascii
    loaded rsa long admitted others
  rw [ideal.2.2 key loaded] at answered
  have waiting : (answering (asking s relayKey client nonce parts) sha256 client.publicKey nonce certificateDer parts'
      runtime).runs[s.runs.length]? = some ⟨client, nonce, none⟩ := by simp [answering, asking]
  have stored := answer_stores env sha256 relayKey waiting rfl (opens_cons parts' _)
  refine ⟨_, ((reach.next ideal begun).next ?_ answered).next ?_ stored, List.mem_set (by simp [answering, asking]) _⟩
  · trivial
  · trivial

def phone : Client := ⟨"phone", "android", "phone key"⟩

/-- A phone bootstraps with a relay that enrolls it, while another key is in foreign hands. -/
theorem anchored_exchange : ∃ s run, run ∈ World.runs s ∧ run.outcome = some (.ok (hex [1])) ∧
    Anchored id s.responses run (hex [1]) := by
  have start : Reach (World.step sampleEnv id "relay") (Ideal sampleEnv (· = "mallory key")) World.Initial
      { runtime := {}, certificateDer := some [1] } := .start ⟨rfl, rfl, rfl⟩
  have ideal : Ideal sampleEnv (· = "mallory key") { runtime := {}, certificateDer := some [1] }
      (.begin phone (List.replicate 24 7) ⟨[1], [], []⟩) := ⟨by simp, by simp, by simp [sampleEnv]⟩
  have alone : ¬ phone.publicKey = "mallory key" := by decide
  have held : ¬ "relay" = "mallory key" := by decide
  obtain ⟨s, reach, stored⟩ := exchange_stores 0 ⟨[2], [], []⟩ start ideal rfl (by simp) (by decide) (by decide) rfl
    rfl (by decide) fun env' enabled => bootstrap_enrolls rfl enabled
  exact ⟨s, _, stored, rfl, @anchored sampleEnv id "relay" (· = "mallory key") s held reach _ stored alone _ rfl⟩

end Exchange

end WispGate.Soundness.TrustAnchor
