import WispGate.Model.Android.Quoting
import WispGate.Soundness.Agreement

/-! # What both runtimes authenticate

Nonces and associated data are built by a sorted serializer on one side and by hand on the other.
They agree on every identifier whose characters both quote alike. Neither `org.json` writes DEL by
its number, and each escapes slashes that Python leaves alone.
-/

namespace WispGate.Soundness.Interoperation

open Data Model Model.Wisp Model.Android Handshakes Agreement JSONObject

/-! ## Quoting -/

/-- Both sides quote the characters alike: there is no DEL, and no slash that the library escapes. -/
def Plain (library : JsonLibrary) : Char → List Char → Prop
  | _, [] => True
  | before, c :: rest => c.toNat ≠ 127 ∧ (c = '/' → library = .jvm ∧ before ≠ '<') ∧ Plain library c rest

instance decidablePlain (library : JsonLibrary) : (before : Char) → (chars : List Char) →
    Decidable (Plain library before chars)
  | _, [] => inferInstanceAs (Decidable True)
  | _, c :: rest =>
    have := decidablePlain library c rest
    inferInstanceAs (Decidable (_ ∧ _ ∧ _))

/-- An identifier that is quoted alike. -/
def PlainText (library : JsonLibrary) (text : String) : Prop := Plain library (Char.ofNat 0) text.toList

instance (library : JsonLibrary) (text : String) : Decidable (PlainText library text) := decidablePlain library _ _

section Quoting

variable {library : JsonLibrary} {before c : Char} {chars rest more : List Char} {text : String}

theorem quoteChar_plain (ascii : c.toNat < 128) (printed : c.toNat ≠ 127) (slash : c ≠ '/') :
    quoteChar library before c = Json.escape c := by
  have all : ∀ n : Fin 128, n.val ≠ 127 → n.val ≠ 47 → ∀ library, quoteChar library 'a' (Char.ofNat n.val) =
      Json.escape (Char.ofNat n.val) := by
    intro n printed slash library
    revert n
    cases library <;> decide
  have same : quoteChar library before c = quoteChar library 'a' c := by
    unfold quoteChar
    rw [if_neg slash, if_neg slash]
  have other : c.toNat ≠ 47 := fun equal => slash (Char.toNat_inj.mp equal)
  have here := all ⟨c.toNat, ascii⟩ printed other library
  rw [Char.ofNat_toNat] at here
  exact same.trans here

theorem quoteChar_slash : quoteChar library before '/' =
    if library = .jvm ∧ before ≠ '<' then Json.escape '/' else ['\\', '/'] := by
  unfold quoteChar
  rw [if_neg (by decide), if_pos rfl]
  cases library
  · simp
  · by_cases less : before = '<'
    · simp [less]
    · simp only [less, or_false, reduceCtorEq, if_false, ne_eq, not_false_eq_true, and_self, if_true]
      rfl

variable (library before rest more) in
/-- Texts up to their closing quote are the same just when they are quoted alike. -/
theorem quoteChars_append_iff (ascii : ∀ c ∈ chars, c.toNat < 128) :
    quoteChars library before chars ++ '"' :: rest = chars.flatMap Json.escape ++ '"' :: more ↔
      Plain library before chars ∧ rest = more := by
  induction chars generalizing before with
  | nil => simp [quoteChars, Plain]
  | cons c chars ih =>
    rw [List.forall_mem_cons] at ascii
    rw [quoteChars, List.flatMap_cons, List.append_assoc, List.append_assoc, Plain]
    by_cases slash : c = '/'
    · subst slash
      rw [quoteChar_slash]
      have escaped : Json.escape '/' = ['/'] := by decide
      split_ifs with kept
      · rw [List.append_cancel_left_eq, ih _ ascii.2]
        simp [kept]
      · rw [escaped]
        simp [kept]
    · by_cases printed : c.toNat = 127
      · obtain rfl : c = Char.ofNat 127 := by rw [← printed, Char.ofNat_toNat]
        have left : quoteChar library before (Char.ofNat 127) = [Char.ofNat 127] := by
          unfold quoteChar
          cases library <;> rfl
        have right : Json.escape (Char.ofNat 127) = ['\\', 'u', '0', '0', '7', 'f'] := by decide
        rw [left, right]
        simp [printed]
      · rw [quoteChar_plain ascii.1 printed slash, List.append_cancel_left_eq, ih _ ascii.2]
        simp [printed, slash]

variable (library rest more) in
/-- Two texts that begin with a quoted identifier. -/
theorem quote_append_iff (ascii : isAscii text = true) :
    (quote library text).toList ++ rest = Json.quote text ++ more ↔ PlainText library text ∧ rest = more := by
  have small : ∀ c ∈ text.toList, c.toNat < 128 := by simpa [isAscii] using ascii
  have peeled := quoteChars_append_iff library (Char.ofNat 0) rest more small
  simp only [quote, String.toList_ofList, Json.quote, List.cons_append, List.append_assoc, List.nil_append,
    List.cons.injEq, true_and]
  exact peeled

theorem quote_eq (ascii : isAscii text = true) (plain : PlainText library text) :
    quote library text = String.ofList (Json.quote text) := by
  have same := (quote_append_iff library [] [] ascii).mpr ⟨plain, rfl⟩
  rw [List.append_nil, List.append_nil] at same
  rw [← same, String.ofList_toList]

end Quoting

/-! ## The two kinds of associated data -/

theorem toString_natCast (n : ℕ) : (toString (n : ℤ)).toList = Json.dumpInt n := by
  rw [Json.dumpInt, if_neg (by omega), Int.natAbs_natCast]
  exact (congrArg String.toList Nat.repr_eq_ofList_toDigits).trans String.toList_ofList

section Members

variable {library : JsonLibrary} {recipient sender sessionId messageId : String} {n : ℕ}

/-- The text of a session's associated data, split behind each quoted member. -/
theorem aadText_split (recipient sender sessionId : String) (sequence : ℤ) :
    (SessionCrypto.aadText recipient sender sequence sessionId).toList =
    "\x7b\"recipient\":".toList ++ (recipient.toList ++
      (",\"sender\":".toList ++ (sender.toList ++ (",\"sequence\":".toList ++ ((toString sequence).toList ++
        (",\"session_id\":".toList ++ (sessionId.toList ++
          ",\"type\":\"session_envelope\",\"version\":1\x7d".toList))))))) := by
  unfold SessionCrypto.aadText
  repeat rw [String.toList_append]
  repeat rw [List.append_assoc]

/-- What the sorted serializer writes is the text by hand on what Python quotes. -/
theorem sessionAad_eq (recipient sender sessionId : String) (n : ℕ) : sessionAad sessionId sender recipient (.int n) =
    utf8 (SessionCrypto.aadText (.ofList (Json.quote recipient)) (.ofList (Json.quote sender)) n
      (.ofList (Json.quote sessionId))) := by
  have first : "\x7b\"recipient\":".toList = '\x7b' :: (Json.quote "recipient" ++ [':']) := by decide
  have second : ",\"sender\":".toList = ',' :: (Json.quote "sender" ++ [':']) := by decide
  have third : ",\"sequence\":".toList = ',' :: (Json.quote "sequence" ++ [':']) := by decide
  have fourth : ",\"session_id\":".toList = ',' :: (Json.quote "session_id" ++ [':']) := by decide
  have last : ",\"type\":\"session_envelope\",\"version\":1\x7d".toList =
      Json.dumpFields [("type", .str "session_envelope"), ("version", .int 1)] ++ ['\x7d'] := by decide
  apply congrArg utf8
  apply String.toList_inj.mp
  rw [aadText_split, first, second, third, fourth, last, toString_natCast]
  simp only [String.toList_ofList]
  rw [Json.dumps, String.toList_ofList, Json.dump, Json.dumpFields, Json.dumpFields, Json.dumpFields]
  simp only [Json.dump, List.append_assoc, List.cons_append, List.nil_append]

variable (library n) in
theorem sessionAad_iff (ascii : isAscii recipient = true ∧ isAscii sender = true ∧ isAscii sessionId = true) :
    SessionCrypto.aad (quote library) sessionId sender recipient n = sessionAad sessionId sender recipient (.int n) ↔
      PlainText library recipient ∧ PlainText library sender ∧ PlainText library sessionId := by
  obtain ⟨recipients, senders, sessions⟩ := ascii
  rw [sessionAad_eq, SessionCrypto.aad]
  constructor
  · intro same
    have texts := congrArg String.toList (utf8_injective same)
    have written : ∀ text, (String.ofList (Json.quote text)).toList = Json.quote text := fun _ => String.toList_ofList
    rw [aadText_split, aadText_split, List.append_cancel_left_eq, written, written, written,
      quote_append_iff library _ _ recipients, List.append_cancel_left_eq, quote_append_iff library _ _ senders,
      List.append_cancel_left_eq, List.append_cancel_left_eq, List.append_cancel_left_eq,
      quote_append_iff library _ _ sessions] at texts
    exact ⟨texts.1, texts.2.1, texts.2.2.1⟩
  · rintro ⟨plain, plain', plain''⟩
    rw [quote_eq recipients plain, quote_eq senders plain', quote_eq sessions plain'']

/-- The text of an envelope's associated data, split behind each quoted member. -/
theorem envelopeText_split (algorithm messageId recipient sender type : String) (version : ℤ) :
    (Phone.aadText algorithm messageId recipient sender type version).toList = "\x7b\"algorithm\":".toList ++
      (algorithm.toList ++ (",\"message_id\":".toList ++ (messageId.toList ++ (",\"recipient\":".toList ++
        (recipient.toList ++ (",\"sender\":".toList ++ (sender.toList ++ (",\"type\":".toList ++ (type.toList ++
          (",\"version\":".toList ++ ((toString version).toList ++ "\x7d".toList))))))))))) := by
  unfold Phone.aadText
  repeat rw [String.toList_append]
  repeat rw [List.append_assoc]

theorem envelopeAad_text (sender recipient messageId : String) :
    aadOf (.obj (envelopeHeader sender recipient messageId)) =
    utf8 (Phone.aadText (.ofList (Json.quote e2eAlgorithm)) (.ofList (Json.quote messageId))
      (.ofList (Json.quote recipient)) (.ofList (Json.quote sender)) (.ofList (Json.quote "envelope")) 1) := by
  have first : "\x7b\"algorithm\":".toList = '\x7b' :: (Json.quote "algorithm" ++ [':']) := by decide
  have second : ",\"message_id\":".toList = ',' :: (Json.quote "message_id" ++ [':']) := by decide
  have third : ",\"recipient\":".toList = ',' :: (Json.quote "recipient" ++ [':']) := by decide
  have fourth : ",\"sender\":".toList = ',' :: (Json.quote "sender" ++ [':']) := by decide
  have fifth : ",\"type\":".toList = ',' :: (Json.quote "type" ++ [':']) := by decide
  have sixth : ",\"version\":".toList = ',' :: (Json.quote "version" ++ [':']) := by decide
  have number : (toString (1 : ℤ)).toList = Json.dumpInt 1 := toString_natCast 1
  have last : "\x7d".toList = ['\x7d'] := by decide
  have written : ∀ text, (String.ofList (Json.quote text)).toList = Json.quote text := fun _ => String.toList_ofList
  rw [aadOf_header]
  apply congrArg utf8
  apply String.toList_inj.mp
  rw [envelopeText_split, first, second, third, fourth, fifth, sixth, last, written, written, written, written, written]
  rw [Json.dumps, String.toList_ofList, Json.dump]
  simp only [Json.dumpFields, Json.dump, List.append_assoc, List.cons_append, List.nil_append]
  rw [number]

/-- An envelope has the header that a sealed one has. -/
def Headed (envelope : Json) (sender recipient messageId : String) : Prop :=
  ∀ entry ∈ envelopeHeader sender recipient messageId, envelope.has entry.1 = true ∧ envelope.get entry.1 = entry.2

/-- `E2EEnvelope.aad` and `_aad` on an envelope with such a header. -/
theorem envelope_aads (phone : Phone) {envelope : Json} (headed : Headed envelope sender recipient messageId) :
    phone.aad envelope = some (utf8 (Phone.aadText (phone.quote e2eAlgorithm) (phone.quote messageId)
      (phone.quote recipient) (phone.quote sender) (phone.quote "envelope") 1)) ∧
    envelopeAad envelope = .ok (aadOf (.obj (envelopeHeader sender recipient messageId))) := by
  simp only [Headed, envelopeHeader, List.forall_mem_cons, List.not_mem_nil, false_imp_iff, implies_true, and_true]
    at headed
  obtain ⟨version, type, senders, recipients, messages, algorithm⟩ := headed
  constructor
  · simp [Phone.aad, Phone.quoted, Platform.getString, Phone.getInt, version, type, senders, recipients, messages,
      algorithm]
  · have covered := envelopeAad_eq envelope (by simp [version, type, senders, recipients, messages, algorithm])
    rw [covered]
    simp [aadOf, version, type, senders, recipients, messages, algorithm, envelopeHeader, Json.lookup]

theorem envelopeHeader_headed (sender recipient messageId : String) :
    Headed (.obj (envelopeHeader sender recipient messageId)) sender recipient messageId := by
  simp [Headed, envelopeHeader, Json.has, Json.lookup]

variable (library) in
theorem envelopeText_iff
    (ascii : isAscii messageId = true ∧ isAscii recipient = true ∧ isAscii sender = true) :
    utf8 (Phone.aadText (quote library e2eAlgorithm) (quote library messageId) (quote library recipient)
        (quote library sender) (quote library "envelope") 1) =
      aadOf (.obj (envelopeHeader sender recipient messageId)) ↔
      PlainText library messageId ∧ PlainText library recipient ∧ PlainText library sender := by
  obtain ⟨messages, recipients, senders⟩ := ascii
  have algorithm : quote library e2eAlgorithm = .ofList (Json.quote e2eAlgorithm) :=
    quote_eq (by decide) (by cases library <;> decide)
  have type : quote library "envelope" = .ofList (Json.quote "envelope") :=
    quote_eq (by decide) (by cases library <;> decide)
  rw [envelopeAad_text, algorithm, type]
  constructor
  · intro same
    have texts := congrArg String.toList (utf8_injective same)
    have written : ∀ text, (String.ofList (Json.quote text)).toList = Json.quote text := fun _ => String.toList_ofList
    rw [envelopeText_split, envelopeText_split, List.append_cancel_left_eq, List.append_cancel_left_eq,
      List.append_cancel_left_eq, written messageId, written recipient, written sender,
      quote_append_iff library _ _ messages, List.append_cancel_left_eq, quote_append_iff library _ _ recipients,
      List.append_cancel_left_eq, quote_append_iff library _ _ senders] at texts
    exact ⟨texts.1, texts.2.1, texts.2.2.1⟩
  · rintro ⟨plain, plain', plain''⟩
    rw [quote_eq messages plain, quote_eq recipients plain', quote_eq senders plain'']

end Members

/-! ## The result -/

/-- An endpoint id that the relay authenticates. -/
def Authenticable (id : String) : Prop := id ≠ "" ∧ id.length ≤ 128 ∧ isAscii id = true

/-- Both runtimes build the same nonce for a sequence, the same associated data for a session's frame
and for an envelope, and a frame that either seals opens at the other. -/
structure Interoperates (phone : Phone) (sessionId sender recipient messageId : String) (n : ℕ) : Prop where
  nonce : ∃ bytes, SessionCrypto.nonce n = some bytes ∧ sessionNonce (.int n) = .ok bytes
  session : SessionCrypto.aad phone.quote sessionId sender recipient n = sessionAad sessionId sender recipient (.int n)
  envelope : ∀ envelope, Headed envelope sender recipient messageId →
    ∃ bytes, phone.aad envelope = some bytes ∧ envelopeAad envelope = .ok bytes
  opens : ∀ (aead : Aead) (key data ciphertext nonce nonce' : Bytes), aead.Gcm →
    SessionCrypto.nonce n = some nonce → sessionNonce (.int n) = .ok nonce' →
    (aead.encrypt key nonce data (SessionCrypto.aad phone.quote sessionId sender recipient n) = .ok ciphertext →
      aead.decrypt key nonce' ciphertext (sessionAad sessionId sender recipient (.int n)) = .ok data) ∧
    (aead.encrypt key nonce' data (sessionAad sessionId sender recipient (.int n)) = .ok ciphertext →
      aead.decrypt key nonce ciphertext (SessionCrypto.aad phone.quote sessionId sender recipient n) = .ok data)

theorem nonces_agree {n : ℕ} (bound : n < 2 ^ 63) :
    SessionCrypto.nonce n = some (sessionNoncePrefix ++ bigEndian n) ∧
      sessionNonce (.int n) = .ok (sessionNoncePrefix ++ bigEndian n) := by
  constructor
  · rw [SessionCrypto.nonce, if_pos (by omega), Int.toNat_natCast]
    rfl
  · rw [sessionNonce_nat, if_pos (by omega)]

/-- For all endpoint ids the relay authenticates, session and message ids of the same alphabet and
sequences of a `Long`: both runtimes interoperate just when no identifier holds a DEL or a slash that
the library escapes. -/
theorem interoperates_iff (library : JsonLibrary) (phone : Phone) (quotes : phone.quote = quote library)
    {sessionId sender recipient messageId : String} {n : ℕ} (source : Authenticable sender)
    (target : Authenticable recipient)
    (ascii : isAscii sessionId = true) (ascii' : isAscii messageId = true) (bound : n < 2 ^ 63) :
    Interoperates phone sessionId sender recipient messageId n ↔
      PlainText library sessionId ∧ PlainText library sender ∧ PlainText library recipient ∧
        PlainText library messageId := by
  have session := sessionAad_iff library n ⟨target.2.2, source.2.2, ascii⟩
  have header := envelopeText_iff library ⟨ascii', target.2.2, source.2.2⟩
  obtain ⟨nonce, nonce'⟩ := nonces_agree bound
  constructor
  · intro interoperates
    have same := interoperates.session
    rw [quotes] at same
    obtain ⟨plain, plain', plain''⟩ := session.mp same
    have headed := envelopeHeader_headed sender recipient messageId
    obtain ⟨bytes, android, wisp⟩ := interoperates.envelope _ headed
    obtain ⟨android', wisp'⟩ := envelope_aads phone headed
    rw [android'] at android
    rw [wisp'] at wisp
    have equal := (Option.some.inj android).trans (Except.ok.inj wisp).symm
    rw [quotes] at equal
    exact ⟨plain'', plain', plain, (header.mp equal).1⟩
  · rintro ⟨plain, lower, higher, last⟩
    have same := session.mpr ⟨higher, lower, plain⟩
    have equal := header.mpr ⟨last, higher, lower⟩
    rw [← quotes] at same equal
    refine ⟨⟨_, nonce, nonce'⟩, same, fun envelope headed => ?_, ?_⟩
    · obtain ⟨android, wisp⟩ := envelope_aads phone headed
      exact ⟨_, android, by rw [wisp, equal]⟩
    · intro aead key data ciphertext used used' gcm drawn drawn'
      obtain rfl := Option.some.inj (drawn.symm.trans nonce)
      obtain rfl := Except.ok.inj (drawn'.symm.trans nonce')
      rw [same]
      exact ⟨gcm.opens, gcm.opens⟩

/-! ## Identifiers -/

/-- An endpoint whose JSON holds texts and numbers only. -/
def samplePhone (library : JsonLibrary) : Phone where
  text _ := ""
  long _ := none
  blank c := c == ' '
  int _ := none
  quote := quote library
  parse text := (loadsBytes text).toOption
  verify _ _ _ := false
  unwrap _ := none

theorem interoperates_fixture : Interoperates (samplePhone .android) "session-1" "android-user"
    "prime-wisp" "message-1" 7 :=
  (interoperates_iff .android (samplePhone .android) rfl ⟨by decide, by decide, by decide⟩
    ⟨by decide, by decide, by decide⟩ (by decide) (by decide) (by decide)).mpr
    ⟨by decide, by decide, by decide, by decide⟩

/-- An endpoint id with a slash, on Android. -/
theorem interoperates_slash : ¬ ∀ (library : JsonLibrary) (phone : Phone), phone.quote = quote library →
    ∀ (sessionId sender recipient messageId : String) (n : ℕ), Authenticable sender → Authenticable recipient →
      isAscii sessionId = true → isAscii messageId = true → n < 2 ^ 63 →
      Interoperates phone sessionId sender recipient messageId n := by
  intro interoperates
  have same := (interoperates .android (samplePhone .android) rfl "session-1" "home/phone" "prime-wisp" "message-1" 7
    ⟨by decide, by decide, by decide⟩ ⟨by decide, by decide, by decide⟩ (by decide) (by decide) (by decide)).session
  obtain ⟨-, plain, -⟩ := (sessionAad_iff .android 7 ⟨by decide, by decide, by decide⟩).mp same
  exact absurd plain (by decide)

end WispGate.Soundness.Interoperation
