import WispGate.Soundness.Dispatching
import WispGate.Soundness.RuntimeMoves

/-! # Replies of the dispatcher

How many replies a request body gets while nothing is lost. The number still to come can be read off
the await the loop stands in and the outcome of the callback, and no step changes the sum of what
was sent and what is to come; so the choice that the dispatcher makes decides.
-/

namespace WispGate.Soundness.Replies

open Data Model Model.Wisp Runtime RuntimeMoves Dispatching

/-! ## Serving a body -/

/-- A result that is sent as it is: no exception and no assets. -/
def Sendable : Result → Prop
  | .raised _ _ => False
  | result => result.assets = []

instance (result : Result) : Decidable (Sendable result) := by
  cases result <;> simp only [Sendable] <;> infer_instance

/-- Events that are not of the event loop. -/
def Aside : Event → Prop
  | .tick _ | .worker _ _ | .orphanEnds _ => True
  | _ => False

/-- The overdue transfers are remembered and their workers cancelled. -/
def expired (m : Runtime) : Runtime :=
  m.withTables ((m.tables.overdue m.now).foldl (fun tables entry => tables.expire entry m.now) m.tables)

def dueKeys (m : Runtime) : List Key := (m.tables.overdue m.now).map Prod.fst

/-- A sweep waits for cancelled workers. -/
def waits (m : Runtime) : Bool := (m.tables.overdue m.now).any fun entry => entry.2.task.isSome

/-- The runs of `_dispatch_session_body` on a body in which the callback, if it is run, ends in
`result`, every encryption succeeds and every frame leaves; with the state the tables are read in,
once they are, and the replies so far. -/
inductive Serving (env : Env) (sender : String) (body : Json) (result : Result) (start : Runtime) :
    Option Runtime → Runtime → List Json → Prop
  | chooses (ready : waits start = false) :
      Serving env sender body result start (some (expired start))
        ((expired start).afterSweep env sender body (dueKeys start)) []
  | awaits (busy : waits start = true) :
      Serving env sender body result start none ((expired start).goto (.sweeping sender body (dueKeys start))) []
  | sweeps {m m' : Runtime} {replies : List Json} (before : Serving env sender body result start none m replies)
      (stepped : m.step env .swept = some m') : Serving env sender body result start (some m) m' replies
  | aside {looked : Option Runtime} {m m' : Runtime} {replies : List Json} {e : Event}
      (before : Serving env sender body result start looked m replies) (other : Aside e)
      (stepped : m.step env e = some m') : Serving env sender body result start looked m' replies
  | returns {looked : Option Runtime} {m m' : Runtime} {replies : List Json}
      (before : Serving env sender body result start looked m replies)
      (stepped : m.step env (.returns result) = some m') : Serving env sender body result start looked m' replies
  | sends {looked : Option Runtime} {m m' sealed : Runtime} {replies : List Json} {peer : String} {reply : Json}
      {after : After} (before : Serving env sender body result start looked m replies)
      (on : m.pc = .sending peer reply after) (encrypted : m.encryptFor env peer reply = .ok sealed)
      (stepped : m.step env .send = some m') :
      Serving env sender body result start looked m' (replies ++ [reply])
  | drains {looked : Option Runtime} {m m' : Runtime} {replies : List Json}
      (before : Serving env sender body result start looked m replies)
      (stepped : m.step env (.drained true) = some m') : Serving env sender body result start looked m' replies

/-- The loop is done with the body, one way or the other. -/
def Ended (m : Runtime) : Prop := m.pc = .reading ∨ m.pc = .offline

/-! ## When a body is answered -/

/-- The body names a registered Wisp, and if it runs a callback, the callback can be called and its
result is sent as it is. -/
def Answerable (env : Env) (s : Runtime) (sender : String) (body : Json) (result : Result) : Prop :=
  (∃ wisp ∈ env.wisps, body.get "wisp_id" = .str wisp) ∧
    (body.get "action" = .str "state_request" → Sendable result) ∧
    (body.get "action" ∉ reserved →
      Fresh (s.tables.expireCompleted s.now) sender body →
      dictError (body.getD "action_data" (.obj [])) = none ∧ Sendable result)

/-- The replies still to come at an await. -/
def pending (result : Result) : Pc → ℕ
  | .sending _ _ _ => 1
  | .state _ _ | .action _ _ _ => if Sendable result then 1 else 0
  | _ => 0

section Steps

variable {env : Env} {m m' : Runtime} {sender wisp : String} {body : Json} {result : Result} {looked : Option Runtime}
  {replies : List Json} {start : Runtime}

theorem raises_pending (e : PyError) : pending result (m.raises e).pc = 0 := by
  rcases raises_pc m e with pc | pc
  · rw [pc]
    rfl
  · rw [pc]
    rfl

theorem respond_pending {outcome : Result} (unraised : ∀ e cause, outcome ≠ .raised e cause) :
    pending result (m.respond sender wisp outcome).pc = if Sendable outcome then 1 else 0 := by
  have same : Sendable outcome ↔ outcome.assets = [] := by
    cases outcome with
    | raised e cause => exact absurd rfl (unraised e cause)
    | _ => exact Iff.rfl
  unfold respond
  by_cases none : outcome.assets = []
  · rw [if_pos none, if_pos (same.mpr none)]
    rfl
  · rw [if_neg none, if_neg fun sendable => none (same.mp sendable)]
    exact raises_pending _

theorem returned_pending (stepped : m.returned result = some m') :
    pending result m'.pc = pending result m.pc := by
  have raised : ∀ {e cause} {n : Runtime}, result = .raised e cause → pending result (n.raises e).pc =
      if Sendable result then 1 else 0 := by
    intro e cause n same
    rw [raises_pending, same]
    rfl
  unfold returned at stepped
  split at stepped
  · rename_i sender wisp on
    rw [on]
    split at stepped
    · rename_i e cause
      cases stepped
      exact raised rfl
    · rename_i outcome unraised
      cases stepped
      exact respond_pending fun e cause same => unraised e cause same
  · rename_i sender wisp operationId on
    rw [on]
    dsimp only at stepped
    split at stepped
    · rename_i e cause
      cases stepped
      exact raised rfl
    · rename_i outcome unraised
      cases stepped
      exact respond_pending fun e cause same => unraised e cause same
  · cases stepped

/-- What the dispatcher is about to do decides how many replies are to come. -/
theorem act_pending (choice : Choice) : pending result (m.act sender choice).pc =
    match choice with
    | .ignored | .unhashable => 0
    | .answer _ | .fileBegin _ _ => 1
    | .state _ => if Sendable result then 1 else 0
    | .action _ _ actionData => if dictError actionData = none ∧ Sendable result then 1 else 0 := by
  cases choice with
  | ignored => rfl
  | unhashable => exact raises_pending _
  | answer body => rfl
  | state wisp => rfl
  | action wisp operationId actionData =>
    simp only [act]
    split
    · rename_i e broken
      simp only [broken, reduceCtorEq, false_and, if_false]
      exact raises_pending _
    · rename_i sound
      simp only [sound, true_and]
      rfl
  | fileBegin transferId body => rfl

theorem afterSweep_pending (s : Runtime) (due : List Key) :
    pending result (s.afterSweep env sender body due).pc = 1 ↔ Answerable env s sender body result := by
  have chosen := choose_chosen env.printable env.wisps sender body s.now (s.tables.drop due)
  unfold afterSweep
  generalize choose env.printable env.wisps (s.tables.drop due) sender body s.now = choice at chosen ⊢
  obtain ⟨tables, choice⟩ := choice
  dsimp only at chosen ⊢
  rw [act_pending]
  cases chosen with
  | unhashable broken =>
    refine iff_of_false (by simp) ?_
    rintro ⟨⟨wisp, -, named⟩, -⟩
    rw [named] at broken
    cases broken
  | unknown hashable nobody =>
    refine iff_of_false (by simp) ?_
    rintro ⟨⟨wisp, known, named⟩, -⟩
    exact nobody wisp known named
  | resumes wisp known named kind reply read =>
    exact iff_of_true rfl ⟨⟨wisp, known, named⟩, by simp [kind], by simp [kind, reserved]⟩
  | state wisp known named kind =>
    constructor
    · intro one
      refine ⟨⟨wisp, known, named⟩, fun _ => ?_, by simp [kind, reserved]⟩
      by_contra bad
      simp [bad] at one
    · intro able
      exact if_pos (able.2.1 kind)
  | repeats wisp known named kind reply =>
    exact iff_of_true rfl ⟨⟨wisp, known, named⟩, by simp [kind], by simp [kind, reserved]⟩
  | begins wisp known named kind files reply uncompleted absent named_id =>
    exact iff_of_true rfl ⟨⟨wisp, known, named⟩, by simp [kind], by simp [kind, reserved]⟩
  | refuses wisp known named kind reply absent =>
    exact iff_of_true rfl ⟨⟨wisp, known, named⟩, by simp [kind], by simp [kind, reserved]⟩
  | answers wisp known named kind reply stale =>
    refine iff_of_true rfl ⟨⟨wisp, known, named⟩, fun same => ?_, fun _ fresh => absurd fresh stale⟩
    exact absurd (by simp [same, reserved]) kind
  | acts wisp operationId known named kind read nonempty short uncompleted inactive =>
    have fresh : Fresh (s.tables.expireCompleted s.now) sender body :=
      ⟨operationId, read, nonempty, short, uncompleted, inactive⟩
    constructor
    · intro one
      refine ⟨⟨wisp, known, named⟩, fun same => absurd (by simp [same, reserved]) kind, fun _ _ => ?_⟩
      by_contra bad
      simp [bad] at one
    · intro able
      exact if_pos (able.2.2 kind fresh)

/-! ## Runs -/

theorem aside_pc {e : Event} (other : Aside e) (stepped : m.step env e = some m') : m'.pc = m.pc := by
  cases e with
  | tick seconds =>
    cases stepped
    rfl
  | worker key move =>
    obtain ⟨transfer, task, -, -, worked⟩ := worker_worked stepped
    exact worked_pc worked
  | orphanEnds key =>
    simp only [Runtime.step] at stepped
    split_ifs at stepped
    cases stepped
    rfl
  | _ => exact other.elim

variable (result) in
theorem drained_pending (stepped : m.loopDrained true = some m') :
    pending result m.pc = 0 ∧ pending result m'.pc = 0 := by
  unfold loopDrained at stepped
  split at stepped
  · rename_i on
    cases stepped
    exact ⟨by rw [on]; rfl, rfl⟩
  · rename_i after on
    cases stepped
    refine ⟨by rw [on]; rfl, ?_⟩
    cases after with
    | done => rfl
    | transfer key => rfl
  · cases stepped

/-- The replies sent and to come, once the tables were read. -/
theorem serving_balance (run : Serving env sender body result start looked m replies) :
    (looked = none → replies = [] ∧ ∃ due, m.pc = .sweeping sender body due) ∧
    ∀ s, looked = some s → replies.length + pending result m.pc ≤ 1 ∧
      (replies.length + pending result m.pc = 1 ↔ Answerable env s sender body result) := by
  have atMostOne : ∀ pc, pending result pc ≤ 1 := by
    intro pc
    unfold pending
    split
    · exact le_rfl
    · split_ifs <;> omega
    · split_ifs <;> omega
    · omega
  have begins : ∀ (s : Runtime) due, ([] : List Json).length + pending result (s.afterSweep env sender body due).pc ≤ 1 ∧
      (([] : List Json).length + pending result (s.afterSweep env sender body due).pc = 1 ↔
        Answerable env s sender body result) := by
    intro s due
    rw [List.length_nil, Nat.zero_add]
    exact ⟨atMostOne _, afterSweep_pending s due⟩
  induction run with
  | chooses ready =>
    refine ⟨by simp, ?_⟩
    rintro s ⟨⟩
    exact begins _ _
  | awaits busy => exact ⟨fun _ => ⟨rfl, _, rfl⟩, by simp⟩
  | sweeps before stepped ih =>
    refine ⟨by simp, ?_⟩
    rintro s ⟨⟩
    obtain ⟨⟨rfl, due, on⟩, -⟩ := ih.1 rfl, ih.2
    simp only [Runtime.step, on] at stepped
    split_ifs at stepped
    cases stepped
    exact begins _ _
  | aside before other stepped ih =>
    have kept := aside_pc other stepped
    rw [kept]
    exact ih
  | returns before stepped ih =>
    have kept := returned_pending stepped
    refine ⟨fun none => ?_, fun s found => kept ▸ ih.2 s found⟩
    obtain ⟨-, due, on⟩ := ih.1 none
    simp [Runtime.step, returned, on] at stepped
  | sends before on encrypted stepped ih =>
    refine ⟨fun none => ?_, fun s found => ?_⟩
    · obtain ⟨-, due, away⟩ := ih.1 none
      rw [on] at away
      cases away
    · have balance := ih.2 s found
      simp only [Runtime.step, loopSend, on, encrypted, Option.some.injEq] at stepped
      subst stepped
      rw [on] at balance
      simpa [pending, goto] using balance
  | drains before stepped ih =>
    obtain ⟨none_before, none_after⟩ := drained_pending result stepped
    refine ⟨fun none => ?_, fun s found => ?_⟩
    · obtain ⟨-, due, on⟩ := ih.1 none
      simp [Runtime.step, loopDrained, on] at stepped
    · have balance := ih.2 s found
      rw [none_before] at balance
      rw [none_after]
      exact balance

end Steps

/-! ## A served request -/

/-- A Wisp with one application and a session with one peer. -/
def sampleEnv : Env where
  clientId := "wisp"
  wisps := ["notes"]
  printable _ := true
  aead := sampleAead
  hkdf material salt info := material ++ salt ++ info
  hmac key message := key ++ message
  rsa := ⟨fun _ => .ok (), fun _ _ _ => true, fun _ => .ok (), .ok⟩

def sampleRuntime : Runtime where
  peers := { sessions := Dict.empty.insert "phone" (.create "s1" "wisp" "phone" [1] [2] 0 false) }
  pc := .reading

def sampleRequest (action : String) : Json :=
  .obj [("wisp_id", .str "notes"), ("action", .str action), ("operation_id", .str "op1")]

end WispGate.Soundness.Replies
