import WispGate.Soundness.Replies
import WispGate.Soundness.SessionOrder

/-! # Exceptions of the event loop

Which inputs make an exception leave the event loop, so that the relay connection is closed: frames
whose handling raises anything where nothing is caught, and anything but a value error where only
value errors are.
-/

namespace WispGate.Soundness.Resilience

open Data Model Model.Wisp Runtime RuntimeMoves Dispatching Handshakes Replies

/-- An exception has left the event loop. -/
def Torn (m : Runtime) : Prop := ∃ e, Entry.raised e ∈ m.log

/-! ## What the loop tolerates -/

/-- An envelope that opens under the key of its sender and carries a `session_init`. -/
def Introduces (env : Env) (m : Runtime) (message : Json) : Prop :=
  ∃ sender key body init, message.get "sender" = .str sender ∧ message.get "recipient" = .str env.clientId ∧
    decryptEnvelope env.rsa env.aead message (m.peers.keys.get? sender) = .ok (body, key) ∧
    sessionInit body = .ok init ∧ env.rsa.wraps key = .ok ()

/-- A body whose Wisp id can be looked up, and whose action data, if an action is run on it, is read
by `dict` or rejected with a value error. -/
def Bearable (env : Env) (m : Runtime) (sender : String) (body : Json) : Prop :=
  (body.get "wisp_id").hashKey? ≠ none ∧
    ((∃ wisp ∈ env.wisps, body.get "wisp_id" = .str wisp) → body.get "action" ∉ reserved →
      Fresh (m.tables.expireCompleted m.now) sender body →
      dictError (body.getD "action_data" (.obj [])) ≠ some .type)

/-- Assets that pass the checks before they are prepared. -/
def Deliverable (assets : List Asset) : Prop :=
  1 ≤ assets.length ∧ assets.length ≤ maxFilesPerAction ∧ (assets.map (·.size)).sum ≤ maxFileActionBytes ∧
    (assets.all Asset.valid = true ∧ (assets.map (·.id)).Nodup)

/-- A value error, a result without assets, or assets that fail their checks. -/
def Returnable (m : Runtime) (sender : String) : Result → Prop
  | .raised e _ => e = .value
  | result => result.assets = [] ∨ ¬ (Deliverable result.assets ∧ (m.peers.sessions.get? sender).isSome = true)

/-- An input that the loop survives. -/
def Tolerated (env : Env) (m : Runtime) : Event → Prop
  | .frame message =>
    (message.get "type" = .str "envelope" → Introduces env m message) ∧
    (message.get "type" = .str "session_envelope" → (message.get "sender").hashKey? ≠ none ∧
      ∀ sender session body, message.get "sender" = .str sender → m.peers.sessions.get? sender = some session →
        (session.decrypt env.aead message m.now).2 = .ok body → waits m = false →
        Bearable env (expired m) sender body) ∧
    (message.get "type" = .str "session_reset" → message.get "recipient" = .str env.clientId →
      (message.get "sender").hashKey? ≠ none)
  | .swept => ∀ sender body due, m.pc = .sweeping sender body due → Bearable env m sender body
  | .returns result =>
    (∀ sender wisp, m.pc = .state sender wisp → Returnable m sender result) ∧
      ∀ sender wisp operationId, m.pc = .action sender wisp operationId → Returnable m sender result
  | _ => True

section Torn

variable {env : Env} {m m' : Runtime} {sender wisp operationId : String} {body message : Json} {result : Result}
  {due : List Key} {e : PyError}

theorem torn_record {entry : Entry} (plain : ∀ e, entry ≠ .raised e) : Torn (m.record entry) ↔ Torn m := by
  constructor
  · rintro ⟨e, logged⟩
    rcases List.mem_cons.mp logged with same | logged
    · exact absurd same.symm (plain e)
    · exact ⟨e, logged⟩
  · rintro ⟨e, logged⟩
    exact ⟨e, List.mem_cons_of_mem _ logged⟩

theorem torn_tear (e : PyError) : Torn (m.tear e) := ⟨e, List.mem_cons_self⟩

theorem torn_raises : Torn (m.raises e) ↔ Torn m ∨ e ≠ .value := by
  unfold Runtime.raises
  by_cases value : e = .value
  · rw [if_pos value]
    exact (or_iff_left (not_not.mpr value)).symm
  · rw [if_neg value]
    exact iff_of_true (torn_tear e) (.inr value)

/-! ## After the body is open -/

theorem sendAssetsError_value (assets : List Asset) (hasSession : Bool) :
    sendAssetsError assets hasSession ≠ .value ↔ Deliverable assets ∧ hasSession = true := by
  unfold sendAssetsError Deliverable
  by_cases count : 1 ≤ assets.length ∧ assets.length ≤ maxFilesPerAction
  · rw [if_neg (not_not.mpr count)]
    by_cases large : (maxFileActionBytes : ℤ) < (assets.map (·.size)).sum
    · rw [if_pos large]
      exact iff_of_false (by simp) fun deliverable => absurd deliverable.1.2.2.1 (not_le.mpr large)
    · rw [if_neg large]
      by_cases valid : assets.all Asset.valid = true ∧ (assets.map (·.id)).Nodup
      · rw [if_neg (not_not.mpr valid)]
        cases hasSession with
        | false => simp
        | true => exact iff_of_true (by simp) ⟨⟨count.1, count.2, not_lt.mp large, valid⟩, rfl⟩
      · rw [if_pos valid]
        exact iff_of_false (by simp) fun deliverable => valid deliverable.1.2.2.2
  · rw [if_pos count]
    exact iff_of_false (by simp) fun deliverable => count ⟨deliverable.1.1, deliverable.1.2.1⟩

theorem torn_respond (unraised : ∀ e cause, result ≠ .raised e cause) :
    Torn (m.respond sender wisp result) ↔ Torn m ∨ ¬ Returnable m sender result := by
  have unfolded : Returnable m sender result ↔
      result.assets = [] ∨ ¬ (Deliverable result.assets ∧ (m.peers.sessions.get? sender).isSome = true) := by
    cases result with
    | raised e cause => exact absurd rfl (unraised e cause)
    | _ => exact Iff.rfl
  unfold respond
  by_cases none : result.assets = []
  · rw [if_pos none]
    exact (or_iff_left (not_not.mpr (unfolded.mpr (.inl none)))).symm
  · rw [if_neg none, torn_raises, sendAssetsError_value, unfolded, or_iff_right none, not_not]

theorem torn_abandon : Torn (m.abandon sender wisp operationId e) ↔ Torn m ∨ e ≠ .value := torn_raises

theorem dictError_class {value : Json} (broken : dictError value = some e) : e = .value ∨ e = .type := by
  have pair : ∀ {item : Json} {e : PyError}, pairError item = some e → e = .value ∨ e = .type := by
    intro item e broken
    unfold pairError at broken
    split at broken
    · split_ifs at broken
      cases broken
      exact .inr rfl
    · cases broken
      exact .inl rfl
    · cases broken
      exact .inr rfl
  unfold dictError at broken
  split at broken
  · cases broken
  · split at broken
    · obtain ⟨item, -, broken⟩ := List.exists_of_findSome?_eq_some broken
      exact pair broken
    · cases broken
      exact .inr rfl

/-- Two choices of the dispatcher raise more than value errors. -/
theorem torn_act (choice : Choice) : Torn (m.act sender choice) ↔ Torn m ∨
    match choice with
    | .unhashable => True
    | .action _ _ actionData => dictError actionData = some .type
    | _ => False := by
  cases choice with
  | unhashable => exact iff_of_true (torn_raises.mpr (.inr (by simp))) (.inr trivial)
  | action wisp operationId actionData =>
    simp only [act]
    split
    · rename_i e broken
      rw [torn_abandon, broken]
      rcases dictError_class broken with rfl | rfl
      · simp
      · simp
    · rename_i sound
      rw [sound]
      have unlogged : Torn (m.record (.started (sender, operationId) m.now)) ↔ Torn m := torn_record (by simp)
      exact unlogged.trans (or_iff_left (by simp)).symm
  | _ => exact (or_iff_left id).symm

theorem torn_afterSweep : Torn (m.afterSweep env sender body due) ↔ Torn m ∨ ¬ Bearable env m sender body := by
  have chosen := choose_chosen env.printable env.wisps sender body m.now (m.tables.drop due)
  unfold afterSweep
  generalize choose env.printable env.wisps (m.tables.drop due) sender body m.now = choice at chosen ⊢
  obtain ⟨tables, choice⟩ := choice
  dsimp only at chosen ⊢
  rw [torn_act]
  refine or_congr Iff.rfl ?_
  have idle : (body.get "wisp_id").hashKey? ≠ none → body.get "action" ∈ reserved → ¬ ¬ Bearable env m sender body :=
    fun hashable kind => not_not.mpr ⟨hashable, fun _ other => absurd kind other⟩
  have hashable : ∀ {wisp}, body.get "wisp_id" = .str wisp → (body.get "wisp_id").hashKey? ≠ none := by
    intro wisp named
    rw [named]
    rintro ⟨⟩
  cases chosen with
  | unhashable broken => exact iff_of_true trivial fun bearable => bearable.1 broken
  | unknown hashable nobody =>
    refine iff_of_false id (not_not.mpr ⟨hashable, ?_⟩)
    rintro ⟨wisp, known, named⟩
    exact absurd named (nobody wisp known)
  | resumes wisp known named kind reply read => exact iff_of_false id (idle (hashable named) (by simp [kind, reserved]))
  | state wisp known named kind => exact iff_of_false id (idle (hashable named) (by simp [kind, reserved]))
  | repeats wisp known named kind reply => exact iff_of_false id (idle (hashable named) (by simp [kind, reserved]))
  | begins wisp known named kind files reply uncompleted absent named_id =>
    exact iff_of_false id (idle (hashable named) (by simp [kind, reserved]))
  | refuses wisp known named kind reply absent =>
    exact iff_of_false id (idle (hashable named) (by simp [kind, reserved]))
  | answers wisp known named kind reply stale =>
    exact iff_of_false id (not_not.mpr ⟨hashable named, fun _ _ fresh => absurd fresh stale⟩)
  | acts wisp operationId known named kind read nonempty short uncompleted inactive =>
    have fresh : Fresh (m.tables.expireCompleted m.now) sender body :=
      ⟨operationId, read, nonempty, short, uncompleted, inactive⟩
    constructor
    · rintro broken ⟨-, sound⟩
      exact sound ⟨wisp, known, named⟩ kind fresh broken
    · intro unbearable
      by_contra sound
      exact unbearable ⟨hashable named, fun _ _ _ => sound⟩

theorem torn_dispatch : Torn (m.dispatch env sender body) ↔
    Torn m ∨ waits m = false ∧ ¬ Bearable env (expired m) sender body := by
  unfold dispatch
  dsimp only
  split_ifs with busy
  · have waiting : waits m = true := busy
    exact (or_iff_left (by simp [waiting])).symm
  · have ready : waits m = false := Bool.eq_false_iff.mpr busy
    rw [torn_afterSweep]
    exact or_congr Iff.rfl (and_iff_right ready).symm

theorem torn_returned (stepped : m.returned result = some m') :
    Torn m' ↔ Torn m ∨ ¬ Tolerated env m (.returns result) := by
  have finished : ∀ key, Torn (m.record (.finished key m.now)) ↔ Torn m := fun key => torn_record (by simp)
  unfold returned at stepped
  split at stepped
  · rename_i sender wisp on
    have awaited : Tolerated env m (.returns result) ↔ Returnable m sender result := by
      simp [Tolerated, on]
    rw [awaited]
    split at stepped
    · cases stepped
      exact torn_raises
    · rename_i outcome unraised
      cases stepped
      exact torn_respond fun e cause same => unraised e cause same
  · rename_i sender wisp operationId on
    have awaited : Tolerated env m (.returns result) ↔ Returnable m sender result := by
      simp [Tolerated, on]
    rw [awaited, ← finished (sender, operationId)]
    dsimp only at stepped
    split at stepped
    · cases stepped
      exact torn_abandon
    · rename_i outcome unraised
      cases stepped
      exact torn_respond fun e cause same => unraised e cause same
  · cases stepped

/-! ## Frames -/

theorem torn_onSessionEnvelope (kind : message.get "type" = .str "session_envelope") :
    Torn (m.onSessionEnvelope env message) ↔ Torn m ∨ ¬ Tolerated env m (.frame message) := by
  have awaited : Tolerated env m (.frame message) ↔ (message.get "sender").hashKey? ≠ none ∧
      ∀ sender session body, message.get "sender" = .str sender → m.peers.sessions.get? sender = some session →
        (session.decrypt env.aead message m.now).2 = .ok body → waits m = false →
        Bearable env (expired m) sender body := by
    simp [Tolerated, kind]
  rw [awaited]
  unfold onSessionEnvelope
  split
  · rename_i sender from_sender
    have hashable : (message.get "sender").hashKey? ≠ none := by
      rw [from_sender]
      rintro ⟨⟩
    rw [and_iff_right hashable]
    split
    · rename_i absent
      refine (or_iff_left (not_not.mpr ?_)).symm
      rintro other session body same found
      obtain rfl := Json.str.inj (from_sender.symm.trans same)
      rw [absent] at found
      cases found
    · rename_i session found
      split
      · rename_i session' e failed
        refine (or_iff_left (not_not.mpr ?_)).symm
        rintro other session body same found' opened
        obtain rfl := Json.str.inj (from_sender.symm.trans same)
        obtain rfl := Option.some.inj (found.symm.trans found')
        rw [failed] at opened
        cases opened
      · rename_i session' body opened
        rw [torn_dispatch]
        refine or_congr Iff.rfl ?_
        constructor
        · rintro ⟨ready, unbearable⟩ tolerated
          exact unbearable (tolerated sender session body from_sender found (congrArg Prod.snd opened) ready)
        · intro unbearable
          by_contra bearable
          rw [not_and, not_not] at bearable
          refine unbearable ?_
          rintro other session' body' same found' opened' ready
          obtain rfl := Json.str.inj (from_sender.symm.trans same)
          obtain rfl := Option.some.inj (found.symm.trans found')
          obtain rfl := Except.ok.inj ((congrArg Prod.snd opened).symm.trans opened')
          exact bearable ready
  · rename_i unread
    split_ifs with unhashable
    · rw [torn_raises]
      refine or_congr Iff.rfl (iff_of_true (by simp) ?_)
      rintro ⟨hashable, -⟩
      exact hashable (Option.isNone_iff_eq_none.mp unhashable)
    · refine (or_iff_left (not_not.mpr ⟨fun none => unhashable (Option.isNone_iff_eq_none.mpr none), ?_⟩)).symm
      rintro sender session body same
      exact absurd same (unread sender)

theorem torn_onEnvelope : Torn (m.onEnvelope env message) ↔ Torn m ∨ ¬ Introduces env m message := by
  unfold onEnvelope
  by_cases introduces : Introduces env m message
  · obtain ⟨sender, key, body, init, from_sender, to_self, decrypted, carries, wraps⟩ := introduces
    have introduces : Introduces env m message :=
      ⟨sender, key, body, init, from_sender, to_self, decrypted, carries, wraps⟩
    simp only [handleEnvelope_accepts from_sender to_self decrypted carries, Dict.get?_insert_self, pin_get? decrypted,
      wraps]
    have unlogged : ∀ peers session, Torn ({ m with peers := peers }.record (.accepted sender session)) ↔ Torn m :=
      fun peers session => torn_record (by simp)
    exact (unlogged _ _).trans (or_iff_left (not_not.mpr introduces)).symm
  · split
    · exact iff_of_true (torn_tear _) (.inr introduces)
    · rename_i peers other answer handled
      have outcome := handleEnvelope_handled handled
      cases outcome with
      | accepted sender key body init from_sender to_self decrypted carries =>
        rw [Dict.get?_insert_self, pin_get? decrypted]
        dsimp only
        split
        · exact iff_of_true (torn_tear _) (.inr introduces)
        · rename_i wraps
          exact absurd ⟨other, key, body, init, from_sender, to_self, decrypted, carries, wraps⟩ introduces

theorem torn_onSessionReset (kind : message.get "type" = .str "session_reset") :
    Torn (m.onSessionReset env message) ↔ Torn m ∨ ¬ Tolerated env m (.frame message) := by
  have awaited : Tolerated env m (.frame message) ↔
      (message.get "recipient" = .str env.clientId → (message.get "sender").hashKey? ≠ none) := by
    simp [Tolerated, kind]
  rw [awaited]
  unfold onSessionReset
  split_ifs with route
  · rw [Bool.eq_false_iff, ne_eq, Json.pyEq_str_iff] at route
    exact (or_iff_left (not_not.mpr fun same => absurd same route)).symm
  · rw [Bool.not_eq_false, Json.pyEq_str_iff] at route
    split
    · rename_i sender from_sender
      refine (or_iff_left (not_not.mpr fun _ => ?_)).symm
      rw [from_sender]
      rintro ⟨⟩
    · split_ifs with unhashable
      · refine iff_of_true (torn_tear _) (.inr fun hashable => ?_)
        exact hashable route (Option.isNone_iff_eq_none.mp unhashable)
      · exact (or_iff_left (not_not.mpr fun _ none => unhashable (Option.isNone_iff_eq_none.mpr none))).symm

/-- A frame raises just when it is not tolerated. -/
theorem torn_onFrame (line : message.isObj = true) :
    Torn (m.onFrame env message) ↔ Torn m ∨ ¬ Tolerated env m (.frame message) := by
  unfold onFrame
  rw [if_neg (not_not.mpr line)]
  split_ifs with ping envelope session reset
  · have tolerated : Tolerated env m (.frame message) := by simp [Tolerated, ping]
    split
    · split_ifs
      · exact (or_iff_left (not_not.mpr tolerated)).symm
      · exact (or_iff_left (not_not.mpr tolerated)).symm
    · exact (or_iff_left (not_not.mpr tolerated)).symm
  · rw [torn_onEnvelope]
    simp [Tolerated, envelope]
  · exact torn_onSessionEnvelope session
  · exact torn_onSessionReset reset
  · have tolerated : Tolerated env m (.frame message) := by simp [Tolerated, envelope, session, reset]
    exact (or_iff_left (not_not.mpr tolerated)).symm

/-! ## Encryption -/

/-- Every session encrypts under a key of the length the cipher takes. -/
def Keyed (m : Runtime) : Prop := ∀ peer session, m.peers.sessions.get? peer = some session → session.sendKey.length = 32

theorem sessionNonce_length {n : ℕ} {nonce : Bytes} (drawn : sessionNonce (.int n) = .ok nonce) : nonce.length = 12 := by
  rw [sessionNonce_nat] at drawn
  split_ifs at drawn
  cases drawn
  rfl

/-- Encryption raises value errors at most. -/
theorem encryptFor_error (gcm : env.aead.Gcm) (keyed : Keyed m) (failed : m.encryptFor env sender body = .error e) :
    e = .value := by
  have sealing : ∀ {session : PeerSession} {e : PyError}, m.peers.sessions.get? sender = some session →
      session.sealed env.aead body = .error e → e = .value := by
    intro session e found failed
    unfold PeerSession.sealed at failed
    split at failed
    · rename_i e drawn
      cases failed
      rw [sessionNonce_nat] at drawn
      split_ifs at drawn
      cases drawn
      rfl
    · rename_i nonce drawn
      obtain ⟨ciphertext, encrypted, -⟩ := gcm.seals session.sendKey nonce (utf8 body.dumps) session.sendAad
        (keyed sender session found) (sessionNonce_length drawn)
      rw [encrypted] at failed
      cases failed
  unfold encryptFor at failed
  split at failed
  · cases failed
    rfl
  · rename_i session found
    split at failed
    · cases failed
    · rename_i session' e encrypted
      cases failed
      unfold PeerSession.encrypt at encrypted
      split_ifs at encrypted
      · split at encrypted
        · rename_i e broken
          cases encrypted
          exact sealing found broken
        · cases encrypted
      · cases encrypted
        rfl
    · rename_i e broken _
      cases failed
      exact sealing found broken

theorem step_keyed (sized : env.hkdf.Sized) (keyed : Keyed m) {event : Event} (stepped : m.step env event = some m') :
    Keyed m' := by
  have replaced : ∀ {peer : String} {session : PeerSession}, session.sendKey.length = 32 → ∀ other found,
      (m.peers.sessions.insert peer session).get? other = some found → found.sendKey.length = 32 := by
    intro peer session long other found read
    rw [Dict.get?_insert] at read
    split_ifs at read
    · cases read
      exact long
    · exact keyed other found read
  cases step_traffic stepped with
  | silent peers same =>
    unfold Keyed
    rw [peers]
    exact keyed
  | handshake message outcome delivered handled same =>
    unfold Keyed
    generalize m'.peers = peers at handled ⊢
    cases handled with
    | refused e => exact keyed
    | pinned e sender key body from_sender decrypted other =>
      rw [pin_sessions]
      exact keyed
    | accepted sender key body init from_sender to_self decrypted carries => exact replaced (sized _ _ _)
  | forgets peer peers same =>
    unfold Keyed
    rw [peers]
    intro other session found
    rw [Dict.get?_erase] at found
    split_ifs at found
    exact keyed other session found
  | opens peer session session' frame body found decrypted peers same =>
    unfold Keyed
    rw [peers]
    rcases SessionOrder.decrypt_cases env.aead session frame m.now with
      ⟨e, failed⟩ | ⟨body, -, -, opened⟩
    · rw [failed] at decrypted
      cases decrypted
    · rw [opened] at decrypted
      cases decrypted
      exact replaced (keyed peer session found)
  | encrypts peer session body nonce ciphertext found sealed peers more =>
    unfold Keyed
    rw [peers]
    exact replaced (keyed peer session found)

/-! ## Steps and runs -/

theorem worked_torn {key : Key} {transfer : Transfer} {task : Task} (worked : Worked env m key transfer task m') :
    Torn m' ↔ Torn m := by
  cases worked with
  | proceeds alive next on =>
    unfold workerProceeds
    split_ifs
    · exact Iff.rfl
    · have unlogged : Torn (m.record (.started key m.now)) ↔ Torn m := torn_record (by simp)
      exact unlogged
  | returns alive on result =>
    have unlogged : Torn (m.record (.finished key m.now)) ↔ Torn m := torn_record (by simp)
    rw [← unlogged]
    unfold workerReturns
    split
    · exact Iff.rfl
    · dsimp only
      split_ifs
      · exact Iff.rfl
      · exact Iff.rfl
  | sends alive body sealed on encrypted =>
    obtain ⟨session, frame, nonce, ciphertext, -, -, -, rfl⟩ := encryptFor_ok encrypted
    have unlogged : Torn ((m.setSessions (m.peers.sessions.insert key.1 { session with
        sendSequence := session.sendSequence + 1 })).record (.sealed key.1 session.sendKey nonce body)) ↔ Torn m :=
      torn_record (by simp)
    exact unlogged
  | _ => exact Iff.rfl

/-- A line of the relay is a JSON object. -/
def Line : Event → Prop
  | .frame message => message.isObj = true
  | _ => True

/-- An exception leaves the loop in exactly the steps that are not tolerated. -/
theorem step_torn (gcm : env.aead.Gcm) (keyed : Keyed m) {event : Event} (line : Line event)
    (stepped : m.step env event = some m') : Torn m' ↔ Torn m ∨ ¬ Tolerated env m event := by
  have plain : Tolerated env m event → (Torn m' ↔ Torn m) → (Torn m' ↔ Torn m ∨ ¬ Tolerated env m event) :=
    fun tolerated same => same.trans (or_iff_left (not_not.mpr tolerated)).symm
  cases event with
  | tick seconds =>
    cases stepped
    exact plain trivial Iff.rfl
  | frame message =>
    simp only [Runtime.step] at stepped
    split_ifs at stepped
    cases stepped
    exact torn_onFrame line
  | eof =>
    simp only [Runtime.step] at stepped
    split_ifs at stepped
    cases stepped
    exact plain trivial Iff.rfl
  | reconnect =>
    simp only [Runtime.step] at stepped
    split_ifs at stepped
    cases stepped
    exact plain trivial Iff.rfl
  | swept =>
    simp only [Runtime.step] at stepped
    split at stepped
    · rename_i sender body due on
      split_ifs at stepped
      cases stepped
      have awaited : Tolerated env m .swept ↔ Bearable env m sender body := by
        simp [Tolerated, on]
      rw [awaited]
      exact torn_afterSweep
    · cases stepped
  | returns result => exact torn_returned stepped
  | send =>
    refine plain trivial ?_
    simp only [Runtime.step, loopSend] at stepped
    split at stepped
    · split at stepped
      · rename_i sealed encrypted
        cases stepped
        obtain ⟨session, frame, nonce, ciphertext, -, -, -, rfl⟩ := encryptFor_ok encrypted
        exact torn_record (by simp)
      · rename_i e failed
        cases stepped
        rw [encryptFor_error gcm keyed failed]
        exact Iff.rfl
    · cases stepped
  | drained written =>
    refine plain trivial ?_
    simp only [Runtime.step, loopDrained] at stepped
    split at stepped
    · cases stepped
      exact Iff.rfl
    · rename_i after on
      cases stepped
      cases written with
      | false => exact Iff.rfl
      | true =>
        cases after with
        | done => exact Iff.rfl
        | transfer key => exact Iff.rfl
    · cases stepped
  | worker key move =>
    obtain ⟨transfer, task, -, -, worked⟩ := worker_worked stepped
    exact plain trivial (worked_torn worked)
  | orphanEnds key =>
    simp only [Runtime.step] at stepped
    split_ifs at stepped
    cases stepped
    exact plain trivial (torn_record (by simp))

/-- In a run of the loop over JSON objects, no exception has left the loop just when every step was
tolerated. -/
theorem trail_torn (gcm : env.aead.Gcm) (sized : env.hkdf.Sized) {taken : List (Runtime × Event)}
    (keyed : Keyed m) (run : Trail (Runtime.step env) m taken m') (lines : ∀ at_step ∈ taken, Line at_step.2) :
    Keyed m' ∧ (Torn m' ↔ Torn m ∨ ∃ at_step ∈ taken, ¬ Tolerated env at_step.1 at_step.2) := by
  induction run with
  | nil => exact ⟨keyed, by simp⟩
  | next before stepped ih =>
    rw [List.forall_mem_cons] at lines
    obtain ⟨keyed_before, torn_before⟩ := ih lines.2
    refine ⟨step_keyed sized keyed_before stepped, ?_⟩
    rw [step_torn gcm keyed_before lines.1 stepped, torn_before, List.exists_mem_cons_iff, or_assoc]
    exact or_congr Iff.rfl or_comm

end Torn

end WispGate.Soundness.Resilience
