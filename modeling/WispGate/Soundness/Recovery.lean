import WispGate.Model.Android.Client

/-! # One start, then only resumptions

An attempt sends at most one frame in a session. The first attempt of a call sends the frame that starts the
operation. When it fails in a way that leaves the outcome open, the sessions of the owner are forgotten, so
the second attempt makes a new one and sends its resumption there.
-/

namespace WispGate.Soundness.Recovery

open Data Model Model.Android

/-! ## Events -/

/-- Events without a session frame. -/
def Quiet (events : List ClientEvent) : Prop := ∀ session body, ClientEvent.frame session body ∉ events

/-- At most one session frame, of which something holds in view of the events before it. -/
def AtMostOne (allowed : List ClientEvent → PeerSession → Json → Prop) (events : List ClientEvent) : Prop :=
  Quiet events ∨ ∃ before session body after, events = before ++ .frame session body :: after ∧ Quiet before ∧
    Quiet after ∧ allowed before session body

section Events

variable {allowed allowed' : List ClientEvent → PeerSession → Json → Prop} {events more before after : List ClientEvent}
  {session : PeerSession} {body : Json}

theorem quiet_nil : Quiet [] := fun _ _ => List.not_mem_nil

theorem Quiet.append (first : Quiet events) (second : Quiet more) : Quiet (events ++ more) := by
  intro session body mem
  rcases List.mem_append.mp mem with mem | mem
  · exact first session body mem
  · exact second session body mem

theorem AtMostOne.mono (once : AtMostOne allowed events) (weaker : ∀ before session body, allowed before session body →
    allowed' before session body) : AtMostOne allowed' events := by
  rcases once with quiet | ⟨before, session, body, after, same, quiet, still, said⟩
  · exact .inl quiet
  · exact .inr ⟨before, session, body, after, same, quiet, still, weaker _ _ _ said⟩

theorem AtMostOne.append (once : AtMostOne allowed events) (still : Quiet more) : AtMostOne allowed (events ++ more) := by
  rcases once with quiet | ⟨before, session, body, after, rfl, quiet, rest, said⟩
  · exact .inl (quiet.append still)
  · exact .inr ⟨before, session, body, after ++ more, by simp, quiet, rest.append still, said⟩

theorem AtMostOne.prepend (quiet : Quiet events) (once : AtMostOne allowed more)
    (later : ∀ before session body, allowed before session body → allowed' (events ++ before) session body) :
    AtMostOne allowed' (events ++ more) := by
  rcases once with still | ⟨before, session, body, after, rfl, first, rest, said⟩
  · exact .inl (quiet.append still)
  · exact .inr ⟨events ++ before, session, body, after, by simp, quiet.append first, rest, later _ _ _ said⟩

/-- Where a frame is among events with at most one, it is that one. -/
theorem AtMostOne.alone (once : AtMostOne allowed (before ++ .frame session body :: after)) :
    allowed before session body ∧ Quiet before ∧ Quiet after := by
  rcases once with quiet | ⟨before', session', body', after', same, quiet, still, said⟩
  · exact absurd (List.mem_append_right _ List.mem_cons_self) (quiet session body)
  · rcases List.append_eq_append_iff.mp same with ⟨middle, rfl, rest⟩ | ⟨middle, rfl, rest⟩
    · cases middle with
      | nil =>
        cases rest
        rw [List.append_nil] at said quiet
        exact ⟨said, quiet, still⟩
      | cons event middle =>
        cases rest
        exact absurd (List.mem_append_right _ List.mem_cons_self) (quiet session body)
    · cases middle with
      | nil =>
        cases rest
        rw [List.append_nil]
        exact ⟨said, quiet, still⟩
      | cons event middle =>
        cases rest
        exact absurd (List.mem_append_right _ List.mem_cons_self) (still session body)

end Events

/-! ## What a computation adds -/

/-- Only time passes. -/
structure Still (s t : ClientState) : Prop where
  peerSessions : t.peerSessions = s.peerSessions
  reconnecting : t.reconnecting = s.reconnecting
  events : t.events = s.events

/-- No session frame is sent. -/
structure Silent (s t : ClientState) : Prop where
  reconnecting : t.reconnecting = s.reconnecting
  events : ∃ added, t.events = s.events ++ added ∧ Quiet added

/-- At most one session frame is sent. -/
def Speaks (allowed : List ClientEvent → PeerSession → Json → Prop) (s t : ClientState) : Prop :=
  ∃ added, t.events = s.events ++ added ∧ AtMostOne allowed added

instance : Std.Refl Still := ⟨fun _ => ⟨rfl, rfl, rfl⟩⟩

instance : IsTrans ClientState Still where
  trans _ _ _ first second := ⟨second.peerSessions.trans first.peerSessions,
    second.reconnecting.trans first.reconnecting, second.events.trans first.events⟩

instance : Std.Refl Silent := ⟨fun _ => ⟨rfl, [], (List.append_nil _).symm, quiet_nil⟩⟩

instance : IsTrans ClientState Silent where
  trans s t u first second := by
    obtain ⟨flag, added, same, quiet⟩ := first
    obtain ⟨flag', more, same', quiet'⟩ := second
    exact ⟨flag'.trans flag, added ++ more, by rw [same', same, List.append_assoc], quiet.append quiet'⟩

section Relations

variable {allowed allowed' : List ClientEvent → PeerSession → Json → Prop} {s t u : ClientState}

theorem Still.silent (still : Still s t) : Silent s t :=
  ⟨still.reconnecting, [], by rw [still.events, List.append_nil], quiet_nil⟩

theorem Silent.speaks (silent : Silent s t) : Speaks allowed s t := by
  obtain ⟨-, added, same, quiet⟩ := silent
  exact ⟨added, same, .inl quiet⟩

theorem Speaks.silent (speaks : Speaks allowed s t) (silent : Silent t u) : Speaks allowed s u := by
  obtain ⟨added, same, once⟩ := speaks
  obtain ⟨-, more, same', quiet⟩ := silent
  exact ⟨added ++ more, by rw [same', same, List.append_assoc], once.append quiet⟩

theorem Still.speaks (still : Still s t) (speaks : Speaks allowed t u) : Speaks allowed s u := by
  obtain ⟨added, same, once⟩ := speaks
  exact ⟨added, by rw [same, still.events], once⟩

theorem Speaks.mono (speaks : Speaks allowed s t) (weaker : ∀ before session body, allowed before session body →
    allowed' before session body) : Speaks allowed' s t := by
  obtain ⟨added, same, once⟩ := speaks
  exact ⟨added, same, once.mono weaker⟩

variable {α β : Type} {c : Client α} {f : α → Client β}

theorem speaks_of_silent (silent : Keeps Silent c) : Keeps (Speaks allowed) c := silent.mono fun _ _ => Silent.speaks

theorem speaks_still (still : Keeps Still c) (later : ∀ a, Keeps (Speaks allowed) (f a)) :
    Keeps (Speaks allowed) (c >>= f) :=
  still.compose later (fun _ _ passed => passed.silent.speaks) fun _ _ _ => Still.speaks

theorem speaks_silent (speaks : Keeps (Speaks allowed) c) (later : ∀ a, Keeps Silent (f a)) :
    Keeps (Speaks allowed) (c >>= f) :=
  speaks.compose later (fun _ _ said => said) fun _ _ _ => Speaks.silent

end Relations

/-! ## The parts of an attempt -/

section Parts

variable (world : World) {α : Type}

theorem keeps_ask (answer : ℕ → α) : Keeps Still (world.ask answer) := by
  intro s
  unfold World.ask Leaves Ends
  dsimp only
  cases world.stop s.time with
  | none => exact ⟨rfl, rfl, rfl⟩
  | some stop => exact ⟨rfl, rfl, rfl⟩

theorem keeps_step : Keeps Still world.step := keeps_ask world _

theorem silent_ask (answer : ℕ → α) : Keeps Silent (world.ask answer) :=
  (keeps_ask world answer).mono fun _ _ => Still.silent

theorem silent_step : Keeps Silent world.step := silent_ask world _

theorem keeps_fail {R : ClientState → ClientState → Prop} [Std.Refl R] (text : String) :
    Keeps R (fail text : Client α) := .throw _

theorem silent_refuse : Keeps Silent (world.refuse : Client α) := (silent_ask world _).bind fun _ => keeps_fail _

/-- The failure of a block is thrown again. -/
theorem keeps_asSessionFailure {R : ClientState → ClientState → Prop} {block : Client α} (text : String)
    (keeps : Keeps R block) : Keeps R (asSessionFailure text block) := by
  refine keeps.rethrow fun stop => ?_
  split
  · exact ⟨_, rfl⟩
  · split <;> exact ⟨_, rfl⟩

/-- An event that is no session frame. -/
theorem silent_record {event : ClientEvent} (other : ∀ session body, event ≠ .frame session body) :
    Keeps Silent (record event) :=
  fun _ => ⟨rfl, [event], rfl, fun session body mem => other session body (List.mem_singleton.mp mem).symm⟩

theorem silent_readSessionResponse (session : PeerSession) (stage : String) :
    Keeps Silent (world.readSessionResponse session stage) := by
  refine keeps_asSessionFailure _ ((silent_ask world _).bind fun raw => Keeps.bind ?_ fun _ => silent_ask world _)
  unfold World.requirePeerApplicationFrame
  split
  · exact .pure _
  · split
    · exact keeps_fail _
    · exact .throw _

/-- An exchange sends its body, if it sends anything. -/
theorem speaks_exchangeSessionFrame (session : PeerSession) (body : Json) (rejection stage : String) :
    Keeps (Speaks fun _ on said => on = session ∧ said = body)
      (world.exchangeSessionFrame session body rejection stage) := by
  have sent : Keeps (Speaks fun _ on said => on = session ∧ said = body) (do
      world.step
      record (.frame session body)
      world.step) := by
    refine speaks_still (keeps_step world) fun _ => speaks_silent (fun s => ?_) fun _ => silent_step world
    exact ⟨[.frame session body], rfl, .inr ⟨[], session, body, [], rfl, quiet_nil, quiet_nil, rfl, rfl⟩⟩
  refine speaks_silent (keeps_asSessionFailure _ sent) fun _ => ?_
  refine (keeps_asSessionFailure _ (silent_ask world _)).bind fun accepted => ?_
  split
  · exact silent_readSessionResponse world session stage
  · exact keeps_fail _

theorem silent_receiveAssets (session : PeerSession) (offers : List InboundAssetOffer) :
    Keeps Silent (world.receiveAssets session offers) := by
  induction offers with
  | nil => exact .pure _
  | cons offer rest ih =>
    exact (silent_step world).bind fun _ => (silent_record (by simp)).bind fun _ => (silent_step world).bind fun _ =>
      ih.bind fun _ => .pure _

theorem silent_receiveWispState (wisp : ClientWisp) (session : PeerSession) (body : Json) :
    Keeps Silent (world.receiveWispState wisp session body) := by
  unfold World.receiveWispState
  split
  · exact .pure _
  · split
    · exact silent_refuse world
    · split
      · exact keeps_fail _
      · refine (silent_receiveAssets world session _).bind fun received =>
          (silent_readSessionResponse world session _).bind fun response => ?_
        split
        · exact silent_refuse world
        · split
          · exact .pure _
          · exact keeps_fail _

theorem silent_recovered (session : PeerSession) (resumed : Json) (operationId stage : String) :
    Keeps Silent (world.recovered session resumed operationId stage) := by
  unfold World.recovered
  split
  · exact .pure _
  · exact silent_readSessionResponse world session stage
  · exact keeps_fail _

theorem silent_sendUploads (uploads : List PreparedBulkUpload) : Keeps Silent (world.sendUploads uploads) := by
  induction uploads with
  | nil => exact .pure _
  | cons upload rest ih =>
    exact (silent_step world).bind fun _ => (silent_record (by simp)).bind fun _ => (silent_step world).bind fun _ => ih

/-- The first exchange of a file action sends its announcement. -/
theorem speaks_beginFiles (wisp : ClientWisp) (action : StagedFileAction) (session : PeerSession) :
    Keeps (Speaks fun _ on said => on = session ∧ ∃ prepared, said = beginBody wisp.id action prepared)
      (world.beginFiles wisp action session) := by
  unfold World.beginFiles
  split
  · exact speaks_of_silent (keeps_fail _)
  · refine speaks_still (keeps_ask world _) fun nonces => ?_
    dsimp only
    split
    · exact speaks_of_silent (keeps_fail _)
    · refine speaks_silent (Keeps.mono (speaks_exchangeSessionFrame world session _ _ _) fun _ _ speaks => ?_)
        fun begun => ?_
      · exact speaks.mono fun _ _ _ said => ⟨said.1, _, said.2⟩
      · split
        · exact keeps_fail _
        · split
          · exact keeps_fail _
          · split
            · exact keeps_fail _
            · exact (silent_sendUploads world _).bind fun _ => silent_readSessionResponse world session _

end Parts

/-! ## The session of an attempt -/

/-- The cache has no session of an owner. -/
def Clear (owner : String) (s : ClientState) : Prop :=
  ∀ key session, s.peerSessions.get? key = some session → ownedBy owner key = false

/-- Whatever was in the cache, a session is there now, from a handshake if the owner had none. -/
structure Opened (owner : String) (s : ClientState) (session : PeerSession) (t : ClientState) : Prop where
  reconnecting : t.reconnecting = s.reconnecting
  events : ∃ added, t.events = s.events ++ added ∧ Quiet added ∧ (Clear owner s → .established session ∈ added)

section Sessions

variable (world : World) {α : Type} {s t u : ClientState} {owner : String}

theorem ownedBy_key (owner fingerprint : String) : ownedBy owner (owner ++ ":" ++ fingerprint) = true := by
  unfold ownedBy
  simp only [List.isPrefixOf_iff_prefix, String.toList_append]
  exact List.prefix_append _ _

theorem clear_forget (owner : String) (s : ClientState) : Clear owner (s.forget owner) := by
  intro key session found
  rw [ClientState.forget, Dict.get?_filter, Option.filter_eq_some_iff] at found
  simpa using found.2

theorem silent_readSessionAcceptance (patience : ℕ) : Keeps Silent (world.readSessionAcceptance patience) := by
  induction patience with
  | zero => exact .throw _
  | succ patience ih =>
    refine (silent_ask world _).bind fun frame => ?_
    split
    · split
      · exact ih
      · exact keeps_fail _
    · exact .pure _

variable {β : Type} {c : Client α} {f : α → Client β} {Q : β → ClientState → Prop}

/-- A silent part, after other silent ones. -/
theorem ends_silent (silent : Keeps Silent c) (before : Silent s t)
    (later : ∀ a u, Silent s u → Ends (f a) u Q fun _ v => Silent s v) : Ends (c >>= f) t Q fun _ v => Silent s v :=
  (ends_bind f).mpr (Ends.mono (silent t) (fun a u passed => later a u (IsTrans.trans s t u before passed))
    fun _ u passed => IsTrans.trans s t u before passed)

/-- A handshake leaves a new session in the cache. -/
theorem handshake_opened (cacheKey : String) (before : Silent s t) :
    Ends (world.handshake cacheKey) t (fun session u => Opened owner s session u) fun _ u => Silent s u := by
  refine ends_silent (silent_step world) before fun _ _ begun => ?_
  refine ends_silent (silent_step world) begun fun _ _ sent => ?_
  refine ends_silent (silent_ask world _) sent fun accepted u read => ?_
  split
  · refine ends_silent (silent_readSessionAcceptance world _) read fun _ _ answered => ?_
    refine ends_silent (silent_ask world _) answered fun session v finished => ?_
    obtain ⟨flag, added, same, quiet⟩ := finished
    refine ⟨flag, added ++ [.established session], ?_, quiet.append ?_, fun _ =>
      List.mem_append_right _ List.mem_cons_self⟩
    · rw [← List.append_assoc, ← same]
    · intro on body mem
      cases List.mem_singleton.mp mem
  · exact read

/-- A session is in the cache, or a handshake makes one. -/
theorem sessionFor_opened (peerPublicKey : String) (s : ClientState) :
    Ends (world.sessionFor owner peerPublicKey) s (fun session t => Opened owner s session t) fun _ t => Silent s t := by
  unfold World.sessionFor
  refine (ends_bind _).mpr (Ends.mono (keeps_step world s) (fun _ t first => ?_) fun _ _ => Still.silent)
  refine (ends_bind _).mpr (Ends.mono (keeps_ask world _ t) (fun now u second => ?_) fun _ _ second => ?_)
  · have passed : Still s u := IsTrans.trans s t u first second
    refine (ends_bind _).mpr ?_
    rw [ends_get]
    split
    · rename_i session found
      refine ⟨passed.reconnecting, [], by rw [passed.events, List.append_nil], quiet_nil, fun clear => ?_⟩
      obtain ⟨cached, -⟩ := Option.filter_eq_some_iff.mp found
      rw [passed.peerSessions] at cached
      cases (ownedBy_key _ _).symm.trans (clear _ _ cached)
    · exact handshake_opened world _ ⟨passed.reconnecting, passed.silent.events⟩
  · exact (IsTrans.trans _ _ _ first second : Still s _).silent

/-- What an attempt says in a session it says since its start, and a new session is new since then. -/
theorem Opened.speaks {session : PeerSession} {allowed : PeerSession → Json → Prop} (opened : Opened owner s session t)
    (speaks : Speaks (fun _ on said => on = session ∧ allowed session said) t u) :
    Speaks (fun before on said => (Clear owner s → .established on ∈ before) ∧ allowed on said) s u := by
  obtain ⟨-, added, same, quiet, new⟩ := opened
  obtain ⟨more, same', once⟩ := speaks
  refine ⟨added ++ more, by rw [same', same, List.append_assoc], once.prepend quiet ?_⟩
  rintro before _ body ⟨rfl, said⟩
  exact ⟨fun clear => List.mem_append_left _ (new clear), said⟩

/-- An attempt says what its exchange says, and in a new session if there was none. -/
theorem inSession_speaks {wisp : ClientWisp} {block : PeerSession → Client α} {allowed : PeerSession → Json → Prop}
    (s : ClientState) (speaks : ∀ session t, t.reconnecting = s.reconnecting →
      Leaves (block session) t (Speaks (fun _ on said => on = session ∧ allowed session said) t)) :
    Leaves (world.inSession wisp block) s
      (Speaks (fun before on said => (Clear wisp.owner s → .established on ∈ before) ∧ allowed on said) s) := by
  have inside : ∀ t peerKey, Still s t → Leaves (do
      let session ← world.sessionFor wisp.owner peerKey
      let value ← block session
      world.step
      world.step
      return value) t
        (Speaks (fun before on said => (Clear wisp.owner s → .established on ∈ before) ∧ allowed on said) s) := by
    intro t peerKey still
    refine (ends_bind _).mpr (Ends.mono (sessionFor_opened world peerKey t) (fun session u opened => ?_)
      fun _ _ silent => still.speaks silent.speaks)
    have rest : ∀ value : α, Keeps Silent (do
        world.step
        world.step
        return value) := fun value => (silent_step world).bind fun _ => (silent_step world).bind fun _ => .pure _
    have said : Leaves (block session) u (Speaks (fun _ on said => on = session ∧ allowed session said) u) :=
      speaks session u (opened.reconnecting.trans still.reconnecting)
    refine (said.bind (fun _ spoken => spoken) fun value v spoken => (rest value v).mono fun _ => spoken.silent).mono ?_
    intro v spoken
    have whole := still.speaks (opened.speaks spoken)
    have clear : Clear wisp.owner s → Clear wisp.owner t := by
      intro clear key cached found
      exact clear key cached (still.peerSessions ▸ found)
    exact whole.mono fun _ _ _ law => ⟨fun none => law.1 (clear none), law.2⟩
  have outside : Keeps Still (do
      world.step
      world.step
      world.step
      world.ask world.peerKey) := (keeps_step world).bind fun _ => (keeps_step world).bind fun _ =>
    (keeps_step world).bind fun _ => keeps_ask world _
  have whole := (outside s).bind (fun _ still => still.silent.speaks) fun peerKey t still => inside t peerKey still
  unfold World.inSession
  simpa only [bind_assoc] using whole

theorem performActionAttempt_speaks (wisp : ClientWisp) (body : Json) (operationId : String) (recovering : Bool)
    (s : ClientState) : Leaves (world.performActionAttempt wisp body operationId recovering) s
      (Speaks (fun before on said => (Clear wisp.owner s → .established on ∈ before) ∧ said = body) s) := by
  refine inSession_speaks world s fun session t _ => ?_
  refine speaks_silent (speaks_exchangeSessionFrame world session body _ _) (fun response => ?_) t
  refine Keeps.bind ?_ fun response => silent_receiveWispState world wisp session response
  split
  · exact silent_recovered world session response operationId _
  · exact .pure _

/-- The end of an attempt of a file action. -/
theorem silent_completed (wisp : ClientWisp) (session : PeerSession) (completed : Json) :
    Keeps Silent (match getObject completed "transfer" with
      | none => world.receiveWispState wisp session completed
      | some transfer =>
        if world.optString transfer "type" "" = "error" then fail (world.optString transfer "error" "File action failed")
        else world.receiveWispState wisp session completed) := by
  split
  · exact silent_receiveWispState world wisp session completed
  · split
    · exact keeps_fail _
    · exact silent_receiveWispState world wisp session completed

/-- What an attempt of a file action says depends on the flag. -/
def attemptSays (wisp : ClientWisp) (action : StagedFileAction) (operationId : String)
    (reconnecting : Bool) (said : Json) :
    Prop :=
  if reconnecting then said = OperationProtocol.resume wisp.id operationId
  else ∃ prepared, said = beginBody wisp.id action prepared

theorem fileAttempt_speaks (wisp : ClientWisp) (action : StagedFileAction) (operationId : String) (s : ClientState) :
    Leaves (world.fileAttempt wisp action operationId) s (Speaks (fun before on said =>
      (Clear wisp.owner s → .established on ∈ before) ∧ attemptSays wisp action operationId s.reconnecting said) s) := by
  refine inSession_speaks world s fun session t flag => (ends_bind _).mpr ?_
  rw [ends_get, flag]
  cases s.reconnecting with
  | true =>
    -- what was resumed is complete, so nothing is begun
    simp only [if_true, bind_assoc, pure_bind]
    refine speaks_silent (speaks_exchangeSessionFrame world session _ _ _) (fun resumed => ?_) t
    exact (silent_recovered world session resumed operationId _).bind fun completed =>
      silent_completed world wisp session completed
  | false =>
    simp only [Bool.false_eq_true, if_false, pure_bind]
    exact speaks_silent (speaks_beginFiles world wisp action session)
      (fun completed => silent_completed world wisp session completed) t

end Sessions

/-! ## Calls -/

/-- Whether an event is a frame for an action. -/
def starts (action : String) : ClientEvent → Bool
  | .frame _ body => decide (body.get "action" = .str action)
  | _ => false

/-- The session frames of one call. They all name its operation, at most one starts it, and every later one
is its resumption, in a session that was established after the sessions of the owner were invalidated. -/
structure Recovers (owner operationId action : String) (resumption : Json) (events : List ClientEvent) : Prop where
  named : ∀ session body, .frame session body ∈ events → body.get "operation_id" = .str operationId
  once : (events.filter (starts action)).length ≤ 1
  resumed : ∀ before session body middle later said after,
    events = before ++ .frame session body :: (middle ++ .frame later said :: after) →
      said = resumption ∧ ∃ first second third,
        middle = first ++ .invalidated owner :: (second ++ .established later :: third)

section Calls

variable {owner operationId action : String} {resumption : Json} {events more : List ClientEvent}

/-- What the first attempt of a call sends. -/
def Started (operationId action : String) (said : Json) : Prop :=
  said.get "operation_id" = .str operationId ∧ said.get "action" = .str action

theorem filter_starts_of_quiet (quiet : Quiet events) : events.filter (starts action) = [] := by
  rw [List.filter_eq_nil_iff]
  intro event mem
  cases event with
  | frame session body => exact absurd mem (quiet session body)
  | _ => exact Bool.false_ne_true

/-- A call that ends with its first attempt. -/
theorem recovers_started (once : AtMostOne (fun _ _ said => Started operationId action said) events) :
    Recovers owner operationId action resumption events := by
  constructor
  · intro session body mem
    obtain ⟨before, after, rfl⟩ := List.append_of_mem mem
    exact once.alone.1.1
  · rcases once with quiet | ⟨before, session, body, after, rfl, first, second, -⟩
    · rw [filter_starts_of_quiet quiet]
      exact Nat.zero_le _
    · rw [List.filter_append, List.filter_cons, filter_starts_of_quiet first, filter_starts_of_quiet second]
      split <;> simp
  · rintro before session body middle later said after rfl
    obtain ⟨-, -, quiet⟩ := once.alone
    exact absurd (List.mem_append_right _ List.mem_cons_self) (quiet later said)

/-- An event is on one side of another. -/
theorem split_at {before rest : List ClientEvent} {event mark : ClientEvent}
    (same : events ++ mark :: more = before ++ event :: rest) (ne : event ≠ mark) :
    (∃ tail, events = before ++ event :: tail ∧ rest = tail ++ mark :: more) ∨
      ∃ front, before = events ++ mark :: front ∧ more = front ++ event :: rest := by
  rcases List.append_eq_append_iff.mp same with ⟨between, rfl, tail⟩ | ⟨between, rfl, tail⟩
  · cases between with
    | nil =>
      cases tail
      exact absurd rfl ne
    | cons first between =>
      cases tail
      exact .inr ⟨between, rfl, rfl⟩
  · cases between with
    | nil =>
      cases tail
      exact absurd rfl ne
    | cons first between =>
      cases tail
      exact .inl ⟨between, rfl, rfl⟩

/-- A call that goes on with a second attempt. -/
theorem recovers_resumed (once : AtMostOne (fun _ _ said => Started operationId action said) events)
    (again : AtMostOne (fun before on said => .established on ∈ before ∧ said = resumption) more)
    (named : resumption.get "operation_id" = .str operationId) (other : resumption.get "action" ≠ .str action) :
    Recovers owner operationId action resumption (events ++ .invalidated owner :: more) := by
  have first : Recovers owner operationId action resumption events := recovers_started once
  constructor
  · intro session body mem
    rcases List.mem_append.mp mem with mem | mem
    · exact first.named session body mem
    · rcases List.mem_cons.mp mem with same | mem
      · cases same
      · obtain ⟨before, after, rfl⟩ := List.append_of_mem mem
        rw [again.alone.1.2]
        exact named
  · have silent : more.filter (starts action) = [] := by
      rw [List.filter_eq_nil_iff]
      intro event mem
      cases event with
      | frame session body =>
        obtain ⟨before, after, rfl⟩ := List.append_of_mem mem
        rw [starts, again.alone.1.2]
        simpa using other
      | _ => exact Bool.false_ne_true
    rw [List.filter_append, List.filter_cons, silent]
    simpa [starts] using first.once
  · intro before session body middle later said after same
    rcases split_at same (by simp) with ⟨tail, rfl, rest⟩ | ⟨front, -, rfl⟩
    · obtain ⟨-, -, quiet⟩ := once.alone
      rcases split_at rest.symm (by simp) with ⟨between, rfl, -⟩ | ⟨between, rfl, rfl⟩
      · exact absurd (List.mem_append_right _ List.mem_cons_self) (quiet later said)
      · obtain ⟨⟨established, resumes⟩, -⟩ := again.alone
        obtain ⟨second, third, rfl⟩ := List.append_of_mem established
        exact ⟨resumes, tail, second, third, rfl⟩
    · obtain ⟨-, -, quiet⟩ := again.alone
      exact absurd (List.mem_append_right _ List.mem_cons_self) (quiet later said)

end Calls

/-! ## The result -/

section Result

variable {world : World} {α : Type} {s : ClientState}

/-- A second attempt follows at most once, after the invalidation. -/
theorem recoverMutationOnce_leaves {operationId : String} {invalidate : Client Unit} {start resume : String → Client α}
    {P Q : ClientState → Prop} (started : Leaves (start operationId) s P) (stays : ∀ t, P t → Q t)
    (resumed : ∀ t, P t → Leaves (do
      invalidate
      resume operationId) t Q) : Leaves (recoverMutationOnce operationId invalidate start resume) s Q := by
  refine (ends_tryCatch _).mpr (Ends.mono started (fun _ => stays) fun stop t met => ?_)
  split
  · exact stays t met
  · split
    · exact stays t met
    · refine (ends_bind _).mpr (Ends.mono ((ends_bind _).mp (resumed t met)) (fun _ u attempt => ?_) fun _ _ left => left)
      refine Leaves.rethrow attempt fun stop => ?_
      split
      · exact ⟨_, rfl⟩
      · split <;> exact ⟨_, rfl⟩

/-- What a call adds to the events. -/
def Adds (law : List ClientEvent → Prop) (s t : ClientState) : Prop := ∃ added, t.events = s.events ++ added ∧ law added

/-- A call of two attempts, of which the second begins without a session of the owner. -/
theorem recovers {owner operationId action : String} {resumption : Json} {start resume : String → Client α}
    (named : resumption.get "operation_id" = .str operationId) (other : resumption.get "action" ≠ .str action)
    (started : Leaves (start operationId) s (Speaks (fun _ _ said => Started operationId action said) s))
    (resumed : ∀ t, Clear owner t → Leaves (resume operationId) t
      (Speaks (fun before on said => .established on ∈ before ∧ said = resumption) t)) :
    Leaves (recoverMutationOnce operationId (invalidatePeerSession owner) start resume) s
      (Adds (Recovers owner operationId action resumption) s) := by
  refine recoverMutationOnce_leaves started ?_ ?_
  · rintro t ⟨added, same, once⟩
    exact ⟨added, same, recovers_started once⟩
  · rintro t ⟨added, same, once⟩
    let u : ClientState := { t.forget owner with events := t.events ++ [.invalidated owner] }
    have clear : Clear owner u := clear_forget owner t
    refine (resumed u clear).mono ?_
    rintro v ⟨more, same', again⟩
    refine ⟨added ++ .invalidated owner :: more, ?_, recovers_resumed once again named other⟩
    rw [same', show u.events = t.events ++ [.invalidated owner] from rfl, same]
    simp

theorem Still.adds {law : List ClientEvent → Prop} {t u : ClientState} (still : Still s t) (adds : Adds law t u) :
    Adds law s u := by
  obtain ⟨added, same, held⟩ := adds
  exact ⟨added, by rw [same, still.events], held⟩

theorem Silent.recovers {owner operationId action : String} {resumption : Json} {t : ClientState} (silent : Silent s t) :
    Adds (Recovers owner operationId action resumption) s t := by
  obtain ⟨-, added, same, quiet⟩ := silent
  exact ⟨added, same, recovers_started (.inl quiet)⟩

theorem silent_managementRequest (world : World) (request : Json) : Keeps Silent (world.managementRequest request) := by
  refine (silent_step world).bind fun _ => (silent_step world).bind fun _ => (silent_ask world _).bind fun joined => ?_
  split
  · exact (silent_record (by simp)).bind fun _ => (silent_step world).bind fun _ => silent_ask world _
  · exact keeps_fail _

theorem silent_requestManagementState (world : World) (actionError : Option String) :
    Keeps Silent (world.requestManagementState actionError) := by
  refine (silent_managementRequest world _).bind fun state => ?_
  split
  · exact .pure _
  · exact keeps_fail _

theorem silent_sendManagementAction (world : World) (action : String) :
    Keeps Silent (world.sendManagementAction action) := by
  unfold World.sendManagementAction
  split
  · exact silent_requestManagementState world _
  · refine (silent_managementRequest world _).bind fun result => ?_
    split
    · exact .pure _
    · exact silent_requestManagementState world _

theorem resume_action (wispId operationId : String) :
    (OperationProtocol.resume wispId operationId).get "action" = .str "operation_resume" := rfl

theorem sendAction_recovers (world : World) (wisp : ClientWisp) (action : String) (s : ClientState) :
    Leaves (world.sendAction wisp action) s fun t => ∃ operationId,
      Adds (Recovers wisp.owner operationId "user_action" (OperationProtocol.resume wisp.id operationId)) s t := by
  refine (keeps_step world s).bind (fun _ still => ⟨"", still.silent.recovers⟩) fun _ t first => ?_
  split
  · refine (silent_sendManagementAction world action t).mono fun u silent => ⟨"", first.adds silent.recovers⟩
  · refine (keeps_ask world world.uuid t).bind (fun _ still => ⟨"", first.adds still.silent.recovers⟩)
      fun operationId u second => ?_
    have passed : Still s u := IsTrans.trans s t u first second
    split
    · exact (silent_refuse world u).mono fun _ silent => ⟨"", passed.adds silent.recovers⟩
    · rename_i actionData _
      refine (recovers rfl (by simp [resume_action]) ?_ ?_).mono fun _ adds => ⟨operationId, passed.adds adds⟩
      · refine (performActionAttempt_speaks world wisp _ _ _ u).mono fun _ speaks => speaks.mono ?_
        rintro _ _ _ ⟨-, rfl⟩
        exact ⟨rfl, rfl⟩
      · intro v clear
        refine (performActionAttempt_speaks world wisp _ _ _ v).mono fun _ speaks => speaks.mono ?_
        rintro _ _ _ ⟨new, rfl⟩
        exact ⟨new clear, rfl⟩

theorem sendFileAction_recovers (world : World) (wisp : ClientWisp) (action : StagedFileAction) (s : ClientState) :
    Leaves (world.sendFileAction wisp action) s (Adds (Recovers wisp.owner action.transferId "file_begin"
      (OperationProtocol.resume wisp.id action.transferId)) s) := by
  refine (keeps_step world s).bind (fun _ still => still.silent.recovers) fun _ t first => ?_
  let u : ClientState := { t with reconnecting := false }
  have called : Leaves (recoverMutationOnce action.transferId (invalidatePeerSession wisp.owner)
      (fun id => do
        modify fun s => { s with reconnecting := false }
        world.fileAttempt wisp action id)
      (fun id => do
        modify fun s => { s with reconnecting := true }
        world.fileAttempt wisp action id)) u
      (Adds (Recovers wisp.owner action.transferId "file_begin"
        (OperationProtocol.resume wisp.id action.transferId)) u) := by
    refine recovers rfl (by simp [resume_action]) ?_ ?_
    · refine (fileAttempt_speaks world wisp action _ u).mono fun _ speaks => speaks.mono ?_
      rintro _ _ _ ⟨-, prepared, rfl⟩
      exact ⟨rfl, rfl⟩
    · intro v clear
      refine (fileAttempt_speaks world wisp action _ { v with reconnecting := true }).mono fun _ speaks => speaks.mono ?_
      rintro _ _ _ ⟨new, rfl⟩
      exact ⟨new clear, rfl⟩
  exact called.mono fun _ adds => first.adds adds

/-- However the steps of a call fail, it starts its operation at most once and only resumes it afterwards. -/
theorem mutations_recover (world : World) (wisp : ClientWisp) (s : ClientState) :
    (∀ action, ∃ operationId, Adds (Recovers wisp.owner operationId "user_action"
      (OperationProtocol.resume wisp.id operationId)) s (endState (world.sendAction wisp action s))) ∧
    ∀ action, Adds (Recovers wisp.owner action.transferId "file_begin"
      (OperationProtocol.resume wisp.id action.transferId)) s (endState (world.sendFileAction wisp action s)) :=
  ⟨fun action => (sendAction_recovers world wisp action s).state,
    fun action => (sendFileAction_recovers world wisp action s).state⟩

end Result

/-- A world where the connection breaks while the frame that starts an action is written. -/
def breakingWorld : World where
  toPlatform := ⟨fun _ => "", fun _ => none, fun c => c == ' '⟩
  clientId := "phone"
  hkdf := constantHkdf
  boolean _ := false
  object _ := some (.obj [])
  fingerprint key := key
  stop time := if time = 14 then some (.thrown .io "broken pipe") else none
  read _ := .obj [("ok", .bool true)]
  body _ := .obj [("operation", .obj [("type", .str "completed")])]
  peerKey _ := "key"
  now _ := 0
  session time := .create (toString time) "phone" "laptop" [] [] 0 true
  nonce _ _ := []
  uuid _ := "operation"
  message _ := ""
  patience := 1

/-- The action is started in one session and resumed in the next. -/
example : (endState (breakingWorld.sendAction ⟨"notes", "laptop", "key"⟩ "{}" {})).events.map (fun event =>
    match event with
    | .frame session body => (session.sessionId, body.get "action")
    | .established session => (session.sessionId, .null)
    | _ => ("", .null)) =
      [("12", .null), ("12", .str "user_action"), ("", .null), ("25", .null), ("25", .str "operation_resume")] := by
  decide +kernel

end WispGate.Soundness.Recovery
