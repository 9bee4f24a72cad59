import WispGate.Model.Wisp.Stream
import WispGate.Soundness.Forwarding

/-! # Sizes of forwarded frames

The relay bounds the ciphertext of a session frame by a mebibyte and the reader of a Wisp its lines by
64 KiB. Which forwarded frames a Wisp can read is then a matter of the sizes of their six values.
-/

namespace WispGate.Soundness.FrameSize

open Data Model Model.Relay Machine Authentication Revocation Forwarding
open Model.Wisp (asDict lineOf defaultLimit readline nextMessage)

/-! ## The text of a dictionary -/

theorem eraseDups_nodup {α : Type*} [DecidableEq α] (l : List α) : l.eraseDups.Nodup := by
  induction size : l.length using Nat.strong_induction_on generalizing l with
  | _ size ih =>
    subst size
    cases l with
    | nil => exact List.nodup_nil
    | cons a rest =>
      rw [List.eraseDups_cons, List.nodup_cons]
      have shorter : (rest.filter fun b => !b == a).length < (a :: rest).length :=
        Nat.lt_succ_of_le (List.length_filter_le ..)
      exact ⟨by simp [List.mem_eraseDups], ih _ shorter _ rfl⟩

theorem keys_nodup (frame : Json) : frame.keys.Nodup := by
  cases frame with
  | obj fields => exact eraseDups_nodup _
  | _ => exact List.nodup_nil

theorem mem_keys_iff (frame : Json) (key : String) : key ∈ frame.keys ↔ frame.has key = true := by
  cases frame with
  | obj fields =>
    have found : (Json.lookup key fields).isSome = true ↔ key ∈ fields.map Prod.fst := by
      induction fields with
      | nil => simp [Json.lookup]
      | cons field rest ih =>
        obtain ⟨other, value⟩ := field
        rw [Json.lookup, List.map_cons, List.mem_cons, ← ih]
        cases Json.lookup key rest with
        | some later => simp
        | none =>
          by_cases same : other = key
          · simp [same]
          · simp [same, Ne.symm same]
    rw [Json.keys, List.mem_eraseDups, Json.has, found]
  | _ => simp [Json.keys, Json.has]

/-- The text of a member: its name, a colon and its value. -/
def memberLength (field : String × Json) : ℕ := (Json.quote field.1).length + 1 + field.2.dump.length

theorem dumpFields_length (fields : List (String × Json)) :
    (Json.dumpFields fields).length = (fields.map memberLength).sum + fields.length := by
  induction fields with
  | nil => rfl
  | cons field rest ih =>
    obtain ⟨key, value⟩ := field
    simp only [Json.dumpFields, List.length_cons, List.length_append, ih, List.map_cons, List.sum_cons, memberLength]
    omega

/-- An object takes its members, a comma between any two, and two braces. -/
theorem dump_obj_length {fields : List (String × Json)} (nonempty : fields ≠ []) :
    (Json.obj fields).dump.length = (fields.map memberLength).sum + fields.length + 1 := by
  obtain ⟨⟨key, value⟩, rest, rfl⟩ := List.exists_cons_of_ne_nil nonempty
  have tail := dumpFields_length rest
  simp only [Json.dump, List.length_cons, List.length_append, tail, List.map_cons, List.sum_cons, memberLength,
    List.length_nil]
  omega

theorem quote_length_ge (text : String) : text.length ≤ (Json.quote text).length := by
  have escaped : ∀ characters : List Char, characters.length ≤ (characters.flatMap Json.escape).length := by
    intro characters
    induction characters with
    | nil => exact Nat.zero_le _
    | cons c rest ih =>
      have one := Json.escape_ne_nil c
      simp only [List.flatMap_cons, List.length_append, List.length_cons]
      omega
  have inside := escaped text.toList
  rw [String.length_toList] at inside
  simp only [Json.quote, List.length_cons, List.length_append]
  omega

/-! ## Session frames -/

/-- The members of a session frame whose sizes vary. -/
def varying : List String := ["version", "session_id", "sender", "recipient", "sequence", "ciphertext"]

/-- The length of a session frame on the wire: 101 characters and the texts of its six other values. -/
def frameLength (frame : Json) : ℕ := 101 + (varying.map fun key => (frame.get key).dump.length).sum

/-- The Wisp reads the line as the one frame that was forwarded. -/
def Readable (frame : Json) : Prop := nextMessage (lineOf frame) = .ok (asDict frame)

theorem readable_iff_length (frame : Json) : Readable frame ↔ (asDict frame).dump.length ≤ defaultLimit := by
  unfold Readable nextMessage readline lineOf
  rw [utf8_dumps_length]
  split_ifs with long
  · simp only [bind, Except.bind, reduceCtorEq, false_iff]
    omega
  · simp only [bind, Except.bind, loadsBytes_dumps, true_iff]
    omega

/-- A frame that may be forwarded has the seven members of its type and no other. -/
theorem session_keys {sender : String} {frame : Json} (type : frame.get "type" = .str "session_envelope")
    (valid : forwardable sender frame = true) :
    frame.keys.Perm ["version", "type", "session_id", "sender", "recipient", "sequence", "ciphertext"] := by
  simp only [forwardable, frameMembers, if_pos type, Bool.and_eq_true, List.all_eq_true, List.contains_iff_mem] at valid
  obtain ⟨⟨-, allowed⟩, required⟩ := valid
  refine (List.perm_ext_iff_of_nodup (keys_nodup frame) (by decide)).mpr fun key => ⟨allowed key, fun member => ?_⟩
  exact (mem_keys_iff frame key).mpr (required key member)

theorem session_length {sender : String} {frame : Json} (type : frame.get "type" = .str "session_envelope")
    (valid : forwardable sender frame = true) : (asDict frame).dump.length = frameLength frame := by
  have keys := session_keys type valid
  have members := (keys.map fun key => (key, frame.get key)).map memberLength
  have nonempty : frame.keys.map (fun key => (key, frame.get key)) ≠ [] := by
    intro none
    have count := keys.length_eq
    rw [List.map_eq_nil_iff.mp none] at count
    cases count
  rw [asDict, dump_obj_length nonempty, members.sum_nat, List.length_map, keys.length_eq]
  simp only [List.map_cons, List.map_nil, List.sum_cons, List.sum_nil, memberLength, frameLength, varying, type]
  have names : (Json.quote "version").length = 9 ∧ (Json.quote "type").length = 6 ∧
      (Json.quote "session_id").length = 12 ∧ (Json.quote "sender").length = 8 ∧
      (Json.quote "recipient").length = 11 ∧ (Json.quote "sequence").length = 10 ∧
      (Json.quote "ciphertext").length = 12 ∧ (Json.str "session_envelope").dump.length = 18 := by decide
  obtain ⟨version, type', sessionId, sender', recipient, sequence, ciphertext, kind⟩ := names
  simp only [version, type', sessionId, sender', recipient, sequence, ciphertext, kind, List.length_cons, List.length_nil]
  omega

/-- In every run, a Wisp reads a session frame that the relay forwarded to it just when the texts of
its six values and the 101 characters around them fit the limit of the Wisp's stream. -/
theorem forwarded_readable (env : Env) {start m : Machine} {events : List Event} (started : start.Started env)
    (ran : replay (Machine.step env) start events = some m) {conn : ConnId} {entry : Forwarded}
    (forwarded : entry ∈ forwardedOn conn m.log) (type : entry.frame.get "type" = .str "session_envelope") :
    Readable entry.frame ↔ frameLength entry.frame ≤ defaultLimit := by
  obtain ⟨earlier, place⟩ := List.getElem?_of_mem forwarded
  obtain ⟨before, draw, after, m₀, c, rest, recipient, -, -, -, -, -, -, valid, -⟩ :=
    (run_ordered started ran).lookups conn earlier entry place
  rw [readable_iff_length, session_length type valid]

/-! ## A frame that can be read and one that cannot -/

/-- `alice` sends a frame to `bob` once both are connected. -/
def sendingEvents (frame : Json) : List Event :=
  establishedEvents ++ [.receive 0 (some frame), .resume 0 .read ⟨"first", "first"⟩, .resume 0 .sent ⟨"", ""⟩]

def establishedMachine : Machine := (replay (Machine.step sampleEnv) startedMachine establishedEvents).getD {}

theorem establishedMachine_ran :
    replay (Machine.step sampleEnv) startedMachine establishedEvents = some establishedMachine := by
  have defined : (replay (Machine.step sampleEnv) startedMachine establishedEvents).isSome = true := by
    decide +kernel
  obtain ⟨m, ends⟩ := Option.isSome_iff_exists.mp defined
  rw [establishedMachine, ends, Option.getD_some]

theorem establishedMachine_facts :
    establishedMachine.connections.get? 0 = some ⟨.relay, some "alice", [], false, .reading⟩ ∧
      0 ∉ establishedMachine.runtime.closed ∧ "first" ∉ establishedMachine.drawn ∧
      establishedMachine.runtime.sessions.get? "alice" = some 0 ∧
      establishedMachine.runtime.sessions.get? "bob" = some 1 := by
  decide +kernel

theorem sending_forwards {frame : Json} (valid : forwardable "alice" frame = true)
    (addressed : frame.get "recipient" = .str "bob") :
    ∃ m, replay (Machine.step sampleEnv) startedMachine (sendingEvents frame) = some m ∧
      (⟨"alice", 1, frame⟩ : Forwarded) ∈ forwardedOn 0 m.log := by
  obtain ⟨here, opened, fresh, source, destination⟩ := establishedMachine_facts
  have ran := establishedMachine_ran
  generalize establishedMachine = m at *
  let received := m.setBuffer 0 [some frame]
  let read := (received.setBuffer 0 []).touch "alice"
  let accepting := (read.write 0 (acceptance frame)).goto 0 (.accepting "bob" 1 frame)
  have receives : m.step sampleEnv (.receive 0 (some frame)) = some received := by
    simp [Machine.step, here, opened, received]
  have waiting : received.connections.get? 0 = some ⟨.relay, some "alice", [some frame], false, .reading⟩ :=
    setBuffer_here here
  have reads : received.step sampleEnv (.resume 0 .read ⟨"first", "first"⟩) = some accepting := by
    have forwards : read.onMessage sampleEnv 0 ⟨.relay, some "alice", [], false, .reading⟩ "alice" frame = accepting := by
      rw [onMessage_forward (forwardable_application valid)]
      have sessions : read.runtime.sessions = m.runtime.sessions := rfl
      simp [forward, valid, addressed, Json.hashKey?, Json.asStr?, sessions, source, destination, accepting]
    have undrawn : received.drawn = m.drawn := rfl
    simp [Machine.step, waiting, resume, undrawn, fresh, nextInput, onRead, received, ← forwards, read]
  have accepted : accepting.connections.get? 0 =
      some ⟨.relay, some "alice", [], false, .accepting "bob" 1 frame⟩ := by
    simp [accepting, read, received, Machine.goto, Machine.write, Machine.record, Machine.touch, Machine.withRuntime,
      setBuffer, Dict.get?_modify, here]
  have sends : accepting.step sampleEnv (.resume 0 .sent ⟨"", ""⟩) =
      some (accepting.deliver 0 "alice" "bob" 1 frame) := by
    simp [Machine.step, accepted, resume, onSent]
  refine ⟨accepting.deliver 0 "alice" "bob" 1 frame, ?_, mem_forwardedOn.mpr ?_⟩
  · rw [sendingEvents, replay, List.foldlM_append]
    change ((replay (Machine.step sampleEnv) startedMachine establishedEvents).bind fun m => replay _ m _) = _
    rw [ran]
    simp [replay, receives, reads, sends]
  · simp [deliver, Machine.goto, Machine.write, Machine.record]

/-- A frame with a ciphertext of so many characters. -/
def sizedFrame (size : ℕ) : Json :=
  .obj [("version", .int 1), ("type", .str "session_envelope"), ("session_id", .str "id"), ("sender", .str "alice"),
    ("recipient", .str "bob"), ("sequence", .int 0), ("ciphertext", .str (String.ofList (List.replicate size 'A')))]

theorem sizedFrame_forwardable {size : ℕ} (least : 1 ≤ size) (most : size ≤ 1024 * 1024) :
    forwardable "alice" (sizedFrame size) = true := by
  have value : (sizedFrame size).get "ciphertext" = .str (String.ofList (List.replicate size 'A')) := rfl
  have text : textWithin ((sizedFrame size).get "ciphertext") 1 (1024 * 1024) = true := by
    rw [value]
    simp only [textWithin, Json.asStr?, String.length_ofList, List.length_replicate, Bool.and_eq_true, decide_eq_true_eq]
    exact ⟨least, most⟩
  have type : (sizedFrame size).get "type" = .str "session_envelope" := rfl
  have shape : validShape (sizedFrame size) = true := by
    rw [validShape, if_pos type, text]
    rfl
  have members : (sizedFrame size).keys =
      ["version", "type", "session_id", "sender", "recipient", "sequence", "ciphertext"] := by
    simp only [sizedFrame, Json.keys, List.map_cons, List.map_nil]
    decide
  simp only [forwardable, frameMembers, if_pos type, shape, members, List.all_cons, List.all_nil]
  rfl

theorem forwarding_readable : Readable sampleFrame := by
  obtain ⟨m, ran, forwarded⟩ := sending_forwards (by decide : forwardable "alice" sampleFrame = true) rfl
  exact (forwarded_readable sampleEnv startedMachine_started ran forwarded rfl).mpr (by decide)

/-- The relay forwards a frame with a ciphertext of 64 KiB and the Wisp cannot read it. -/
theorem forwarded_unreadable : ¬ ∀ (env : Env) (start m : Machine) (events : List Event) (conn : ConnId)
    (entry : Forwarded), start.Started env → replay (Machine.step env) start events = some m →
    entry ∈ forwardedOn conn m.log → entry.frame.get "type" = .str "session_envelope" → Readable entry.frame := by
  intro claim
  have long : ∀ size, defaultLimit ≤ size → size ≤ 1024 * 1024 → False := by
    intro size least most
    have valid := sizedFrame_forwardable ((by decide : 1 ≤ defaultLimit).trans least) most
    obtain ⟨m, ran, forwarded⟩ := sending_forwards valid rfl
    have read := claim sampleEnv startedMachine m _ 0 _ startedMachine_started ran forwarded rfl
    have text := quote_length_ge (String.ofList (List.replicate size 'A'))
    have value : ((sizedFrame size).get "ciphertext").dump = Json.quote (String.ofList (List.replicate size 'A')) := rfl
    rw [readable_iff_length, session_length rfl valid] at read
    rw [String.length_ofList, List.length_replicate] at text
    simp only [frameLength, varying, List.map_cons, List.sum_cons, value] at read
    omega
  exact long defaultLimit le_rfl (by decide)

end WispGate.Soundness.FrameSize
