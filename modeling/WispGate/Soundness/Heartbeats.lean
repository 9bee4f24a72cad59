import WispGate.Model.Android.RelayFrames

/-! # Heartbeats of a relay connection

A call remembers the ping it sent and the next call does not. So a stream of a correct relay is read
to its end just when no application frame overtakes the pong of a ping; a pong that comes after one
fails the call that reads it.
-/

namespace WispGate.Soundness.Heartbeats

open Data Model.Android RelayFrames

variable (platform : Platform) (nonces : ℕ → String)

/-! ## Streams -/

/-- An application frame is neither a ping nor a pong. -/
def Application (frame : Json) : Prop := frameType platform frame ≠ "ping" ∧ frameType platform frame ≠ "pong"

instance (frame : Json) : Decidable (Application platform frame) := inferInstanceAs (Decidable (_ ∧ _))

/-- The streams of a correct relay, from a point where a ping may be unanswered and so many nonces
are drawn: every ping is answered by one pong of its nonce, and a second timeout comes after it. -/
inductive Correct : Option String → ℕ → List Input → Prop
  | done (drawn : ℕ) : Correct none drawn []
  | timeout {drawn : ℕ} {rest : List Input} : Correct (some (nonces drawn)) (drawn + 1) rest →
      Correct none drawn (.timeout :: rest)
  | pong {nonce : String} {drawn : ℕ} {frame : Json} {rest : List Input} (type : frameType platform frame = "pong")
      (same : frameNonce platform frame = nonce) : Correct none drawn rest →
      Correct (some nonce) drawn (.frame frame :: rest)
  | ping {unanswered : Option String} {drawn : ℕ} {frame : Json} {rest : List Input}
      (type : frameType platform frame = "ping") (named : frameNonce platform frame ≠ "") :
      Correct unanswered drawn rest → Correct unanswered drawn (.frame frame :: rest)
  | application {unanswered : Option String} {drawn : ℕ} {frame : Json} {rest : List Input}
      (application : Application platform frame) : Correct unanswered drawn rest →
      Correct unanswered drawn (.frame frame :: rest)

/-- The application frames of a stream. -/
def applications : List Input → List Json
  | [] => []
  | .frame frame :: rest =>
    if Application platform frame then frame :: applications rest else applications rest
  | _ :: rest => applications rest

/-- The nonces of the peer's pings. -/
def pings : List Input → List String
  | [] => []
  | .frame frame :: rest =>
    if frameType platform frame = "ping" then frameNonce platform frame :: pings rest else pings rest
  | _ :: rest => pings rest

def isPong : Input → Bool
  | .frame frame => frameType platform frame == "pong"
  | _ => false

/-- The frames of a type among those written. -/
def written (type : String) (sent : List Json) : List Json := sent.filter fun frame => frame.get "type" == .str type

/-- Every application frame is returned in order, every ping of the peer answered by a pong of its
nonce, at most one own ping is outstanding at any time, and nothing fails. -/
structure Served (drawn : ℕ) (inputs : List Input) : Prop where
  returned : (calls platform nonces drawn inputs).returned = applications platform inputs
  answered : written "pong" (calls platform nonces drawn inputs).sent = (pings platform inputs).map RelayFrames.pong
  outstanding : ∀ before, before <+: inputs →
    (written "ping" (calls platform nonces drawn before).sent).length ≤ before.countP (isPong platform) + 1
  failure : (calls platform nonces drawn inputs).failure = none

/-- No application frame comes between a timeout and the pong after it. -/
def Settled : Bool → List Input → Prop
  | _, [] => True
  | _, .timeout :: rest => Settled true rest
  | waiting, .frame frame :: rest =>
    if frameType platform frame = "pong" then Settled false rest
    else if frameType platform frame = "ping" then Settled waiting rest
    else waiting = false ∧ Settled false rest
  | waiting, _ :: rest => Settled waiting rest

/-! ## One pass -/

/-- The calls as one pass over the inputs: a returned frame forgets the outstanding ping. -/
def scan (outstandingPing : Option String) (drawn : ℕ) : List Input → Run
  | [] => {}
  | .eof :: _ => { failure := some .closed }
  | .broken :: _ => { failure := some .transport }
  | .malformed :: _ => { failure := some .malformed }
  | .timeout :: rest =>
    match outstandingPing with
    | some _ => { failure := some .heartbeatTimeout }
    | none =>
      let later := scan (some (nonces drawn)) (drawn + 1) rest
      { later with sent := RelayFrames.ping (nonces drawn) :: later.sent }
  | .frame frame :: rest =>
    if frameType platform frame = "ping" then
      if frameNonce platform frame = "" then { failure := some .invalidPing }
      else
        let later := scan outstandingPing drawn rest
        { later with sent := RelayFrames.pong (frameNonce platform frame) :: later.sent }
    else if frameType platform frame = "pong" then
      if some (frameNonce platform frame) ≠ outstandingPing then { failure := some .nonceMismatch }
      else scan none drawn rest
    else
      let later := scan none drawn rest
      { later with returned := frame :: later.returned }

/-- What a call leaves to the calls after it. -/
def continued (call : Call) (later : Run) : Run :=
  match call.outcome with
  | .returned frame =>
    { sent := call.sent ++ later.sent, returned := frame :: later.returned, failure := later.failure }
  | .failed failure => { sent := call.sent, failure := some failure }
  | .waiting => { sent := call.sent }

theorem continued_after (call : Call) (frame : Json) (later : Run) :
    continued (call.after frame) later =
      { continued call later with sent := frame :: (continued call later).sent } := by
  unfold continued Call.after
  dsimp only
  cases call.outcome <;> rfl

theorem scan_call (outstandingPing : Option String) (drawn : ℕ) (inputs : List Input) :
    scan platform nonces outstandingPing drawn inputs =
      continued (readLoop platform nonces outstandingPing drawn inputs)
        (scan platform nonces none (readLoop platform nonces outstandingPing drawn inputs).drawn
          (readLoop platform nonces outstandingPing drawn inputs).rest) := by
  induction inputs generalizing outstandingPing drawn with
  | nil => rfl
  | cons input rest ih =>
    cases input with
    | timeout =>
      cases outstandingPing with
      | some nonce => rfl
      | none =>
        rw [scan, readLoop, continued_after, ih]
        rfl
    | frame value =>
      rw [scan, readLoop]
      split_ifs
      · rfl
      · rw [continued_after, ih]
        rfl
      · rfl
      · exact ih _ _
      · rfl
    | malformed => rfl
    | eof => rfl
    | broken => rfl

theorem calls_eq (drawn : ℕ) (inputs : List Input) :
    calls platform nonces drawn inputs = scan platform nonces none drawn inputs := by
  induction size : inputs.length using Nat.strong_induction_on generalizing drawn inputs with
  | _ size ih =>
    subst size
    rw [scan_call, calls]
    unfold continued readApplicationFrame
    dsimp only
    split
    · rename_i frame ended
      rw [ih _ (readLoop_rest platform nonces ended) _ _ rfl]
      simp only [ended]
    · rename_i failure ended
      simp only [ended]
    · rename_i ended
      simp only [ended]

/-! ## Streams that are served -/

section Streams

variable {platform nonces} {unanswered : Option String} {drawn : ℕ} {inputs : List Input}

/-- A call that has no ping outstanding fails on the pong of an earlier one. -/
theorem scan_stale {nonce : String} (correct : Correct platform nonces (some nonce) drawn inputs) :
    (scan platform nonces none drawn inputs).failure ≠ none := by
  generalize waits : some nonce = unanswered at correct
  induction correct with
  | done => cases waits
  | timeout _ _ => cases waits
  | pong type same rest ih =>
    rw [scan, if_neg (by simp [type]), if_pos type, if_pos (by simp)]
    simp
  | ping type named rest ih =>
    rw [scan, if_pos type, if_neg named]
    exact ih waits
  | application application rest ih =>
    rw [scan, if_neg application.1, if_neg application.2]
    exact ih waits

theorem scan_settled (correct : Correct platform nonces unanswered drawn inputs)
    (settled : Settled platform unanswered.isSome inputs) :
    (scan platform nonces unanswered drawn inputs).returned = applications platform inputs ∧
      written "pong" (scan platform nonces unanswered drawn inputs).sent =
        (pings platform inputs).map RelayFrames.pong ∧
      (scan platform nonces unanswered drawn inputs).failure = none := by
  induction correct with
  | done => exact ⟨rfl, rfl, rfl⟩
  | timeout rest ih => exact ih settled
  | pong type same rest ih =>
    rw [Settled, if_pos type] at settled
    rw [scan, applications, pings, if_neg (by simp [type]), if_pos type, if_neg (by simp [same]),
      if_neg (fun application : Application _ _ => application.2 type), if_neg (by simp [type])]
    exact ih settled
  | ping type named rest ih =>
    rw [Settled, if_neg (by simp [type]), if_pos type] at settled
    obtain ⟨returned, answered, failure⟩ := ih settled
    rw [scan, applications, pings, if_pos type, if_neg named, if_pos type,
      if_neg (fun application : Application _ _ => application.1 type)]
    refine ⟨returned, ?_, failure⟩
    rw [List.map_cons, ← answered]
    rfl
  | application application rest ih =>
    rw [Settled, if_neg application.2, if_neg application.1] at settled
    obtain ⟨free, settled⟩ := settled
    rw [Option.isSome_eq_false_iff, Option.isNone_iff_eq_none] at free
    subst free
    obtain ⟨returned, answered, failure⟩ := ih settled
    rw [scan, applications, pings, if_neg application.1, if_neg application.2, if_pos application,
      if_neg application.1]
    exact ⟨congrArg _ returned, answered, failure⟩

/-- A stream in which an application frame overtakes a pong is not read to its end. -/
theorem scan_unsettled (correct : Correct platform nonces unanswered drawn inputs)
    (unsettled : ¬ Settled platform unanswered.isSome inputs) :
    (scan platform nonces unanswered drawn inputs).failure ≠ none := by
  induction correct with
  | done => exact absurd trivial unsettled
  | timeout rest ih => exact ih unsettled
  | pong type same rest ih =>
    rw [Settled, if_pos type] at unsettled
    rw [scan, if_neg (by simp [type]), if_pos type, if_neg (by simp [same])]
    exact ih unsettled
  | ping type named rest ih =>
    rw [Settled, if_neg (by simp [type]), if_pos type] at unsettled
    rw [scan, if_pos type, if_neg named]
    exact ih unsettled
  | @application unanswered drawn frame rest application correct ih =>
    rw [Settled, if_neg application.2, if_neg application.1, not_and] at unsettled
    rw [scan, if_neg application.1, if_neg application.2]
    cases unanswered with
    | none => exact ih (unsettled rfl)
    | some nonce => exact scan_stale correct

variable (platform nonces) in
/-- A connection pings once for a timeout at most. -/
theorem scan_pings (outstandingPing : Option String) (drawn : ℕ) (inputs : List Input) :
    (written "ping" (scan platform nonces outstandingPing drawn inputs).sent).length ≤ inputs.count .timeout := by
  induction inputs generalizing outstandingPing drawn with
  | nil => exact Nat.zero_le _
  | cons input rest ih =>
    cases input with
    | timeout =>
      rw [List.count_cons_self]
      cases outstandingPing with
      | some nonce => exact Nat.zero_le _
      | none => exact Nat.succ_le_succ (ih _ _)
    | frame value =>
      rw [List.count_cons_of_ne (by simp), scan]
      split_ifs
      · exact Nat.zero_le _
      · exact ih _ _
      · exact Nat.zero_le _
      · exact ih _ _
      · exact ih _ _
    | malformed => exact Nat.zero_le _
    | eof => exact Nat.zero_le _
    | broken => exact Nat.zero_le _

/-- In a correct stream a timeout comes after the pong of the one before. -/
theorem correct_timeouts (correct : Correct platform nonces unanswered drawn inputs) {before : List Input}
    (begins : before <+: inputs) :
    before.count .timeout + unanswered.toList.length ≤ before.countP (isPong platform) + 1 := by
  induction correct generalizing before with
  | done =>
    rw [List.prefix_nil.mp begins]
    exact Nat.zero_le _
  | timeout rest ih =>
    rcases List.prefix_cons_iff.mp begins with rfl | ⟨shorter, rfl, within⟩
    · exact Nat.zero_le _
    · have later := ih within
      rw [List.count_cons_self, List.countP_cons_of_neg (by simp [isPong])]
      exact later
  | pong type same rest ih =>
    rcases List.prefix_cons_iff.mp begins with rfl | ⟨shorter, rfl, within⟩
    · exact Nat.le_refl _
    · have later := ih within
      rw [List.count_cons_of_ne (by simp), List.countP_cons_of_pos (by simp [isPong, type])]
      exact Nat.succ_le_succ later
  | ping type named rest ih =>
    rcases List.prefix_cons_iff.mp begins with rfl | ⟨shorter, rfl, within⟩
    · exact ih (List.nil_prefix)
    · rw [List.count_cons_of_ne (by simp), List.countP_cons_of_neg (by simp [isPong, type])]
      exact ih within
  | application application rest ih =>
    rcases List.prefix_cons_iff.mp begins with rfl | ⟨shorter, rfl, within⟩
    · exact ih (List.nil_prefix)
    · rw [List.count_cons_of_ne (by simp), List.countP_cons_of_neg (by simp [isPong, application.2])]
      exact ih within

/-- For every stream of a correct relay: the successive calls of one connection return its
application frames, answer its pings and do not fail just when no application frame comes between a
timeout and the pong that answers its ping. -/
theorem served_iff (correct : Correct platform nonces none drawn inputs) :
    Served platform nonces drawn inputs ↔ Settled platform false inputs := by
  constructor
  · intro served
    by_contra unsettled
    have failure := served.failure
    rw [calls_eq] at failure
    exact scan_unsettled correct unsettled failure
  · intro settled
    obtain ⟨returned, answered, failure⟩ := scan_settled correct settled
    rw [← calls_eq] at returned answered failure
    refine ⟨returned, answered, fun before begins => ?_, failure⟩
    rw [calls_eq]
    have sent := scan_pings platform nonces none drawn before
    have timeouts := correct_timeouts correct begins
    exact sent.trans timeouts

end Streams

/-! ## Streams of a relay -/

/-- A platform whose JSON holds texts only. -/
def samplePlatform : Platform := ⟨fun _ => "", fun _ => none, fun c => c == ' '⟩

def sampleNonces (n : ℕ) : String := "nonce " ++ toString n

def sampleFrame : Json := .obj [("type", .str "session_envelope"), ("sequence", .int 0)]

theorem sampleFrame_application : Application samplePlatform sampleFrame := by decide

/-- The relay's pong is sent first, and the frame of a peer after it. -/
theorem served_in_order : Served samplePlatform sampleNonces 0
    [.timeout, .frame (RelayFrames.pong "nonce 0"), .frame (RelayFrames.ping "peer"), .frame sampleFrame] := by
  refine (served_iff ?_).mpr ?_
  · exact .timeout (.pong (by decide) (by decide) (.ping (by decide) (by decide)
      (.application sampleFrame_application (.done _))))
  · exact ⟨rfl, trivial⟩

/-- The frame of a peer overtakes the pong. -/
theorem served_overtaken : ¬ ∀ inputs, Correct samplePlatform sampleNonces none 0 inputs →
    Served samplePlatform sampleNonces 0 inputs := by
  intro served
  have correct : Correct samplePlatform sampleNonces none 0
      [.timeout, .frame sampleFrame, .frame (RelayFrames.pong "nonce 0")] :=
    .timeout (.application sampleFrame_application (.pong (by decide) (by decide) (.done _)))
  have failure := (served _ correct).failure
  rw [calls_eq] at failure
  exact scan_unsettled correct (fun settled => absurd settled.1 (by decide)) failure

end WispGate.Soundness.Heartbeats
