import WispGate.Model.Android.InboundAssets

/-! # Reading relay frames on Android

`RelayFrames.readApplicationFrame` and the calls of it that one connection sees. What the socket
does next is a list of inputs; a call that has used them up waits. Frames are written successfully,
and the ping that is outstanding belongs to the call, as in the source.
-/

namespace WispGate.Model.Android

open Data

namespace RelayFrames

/-- What a read of a line ends in. -/
inductive Input where
  | frame (value : Json)
  | malformed
  | eof
  | timeout
  | broken
deriving DecidableEq

inductive Failure where
  | closed
  | heartbeatTimeout
  | transport
  | malformed
  | invalidPing
  | nonceMismatch
deriving DecidableEq

inductive Outcome where
  | returned (frame : Json)
  | failed (failure : Failure)
  | waiting
deriving DecidableEq

/-- A call: the frames it wrote, how it ended, the inputs it left and the nonces drawn by then. -/
structure Call where
  sent : List Json := []
  outcome : Outcome
  rest : List Input
  drawn : ℕ
deriving DecidableEq

def ping (nonce : String) : Json := .obj [("type", .str "ping"), ("nonce", .str nonce)]

def pong (nonce : String) : Json := .obj [("type", .str "pong"), ("nonce", .str nonce)]

def Call.after (call : Call) (frame : Json) : Call := { call with sent := frame :: call.sent }

variable (platform : Platform) (nonces : ℕ → String)

def frameType (frame : Json) : String := platform.optString frame "type" ""

def frameNonce (frame : Json) : String := platform.optString frame "nonce" ""

/-- The loop of `readApplicationFrame`. -/
def readLoop (outstandingPing : Option String) (drawn : ℕ) : List Input → Call
  | [] => { outcome := .waiting, rest := [], drawn := drawn }
  | .eof :: rest => { outcome := .failed .closed, rest := rest, drawn := drawn }
  | .broken :: rest => { outcome := .failed .transport, rest := rest, drawn := drawn }
  | .malformed :: rest => { outcome := .failed .malformed, rest := rest, drawn := drawn }
  | .timeout :: rest =>
    match outstandingPing with
    | some _ => { outcome := .failed .heartbeatTimeout, rest := rest, drawn := drawn }
    | none => (readLoop (some (nonces drawn)) (drawn + 1) rest).after (ping (nonces drawn))
  | .frame frame :: rest =>
    if frameType platform frame = "ping" then
      if frameNonce platform frame = "" then { outcome := .failed .invalidPing, rest := rest, drawn := drawn }
      else (readLoop outstandingPing drawn rest).after (pong (frameNonce platform frame))
    else if frameType platform frame = "pong" then
      if some (frameNonce platform frame) ≠ outstandingPing then
        { outcome := .failed .nonceMismatch, rest := rest, drawn := drawn }
      else readLoop none drawn rest
    else { outcome := .returned frame, rest := rest, drawn := drawn }

def readApplicationFrame (drawn : ℕ) (inputs : List Input) : Call := readLoop platform nonces none drawn inputs

theorem readLoop_rest {outstandingPing : Option String} {drawn : ℕ} {inputs : List Input} {frame : Json}
    (returned : (readLoop platform nonces outstandingPing drawn inputs).outcome = .returned frame) :
    (readLoop platform nonces outstandingPing drawn inputs).rest.length < inputs.length := by
  induction inputs generalizing outstandingPing drawn with
  | nil => cases returned
  | cons input rest ih =>
    cases input with
    | timeout =>
      cases outstandingPing with
      | some nonce => cases returned
      | none => exact Nat.lt_succ_of_lt (ih returned)
    | frame value =>
      unfold readLoop at returned ⊢
      split_ifs at returned ⊢
      · exact Nat.lt_succ_of_lt (ih returned)
      · exact Nat.lt_succ_of_lt (ih returned)
      · exact Nat.lt_succ_self _
    | malformed => cases returned
    | eof => cases returned
    | broken => cases returned

/-- What a connection has written, returned to its users, and failed with. -/
structure Run where
  sent : List Json := []
  returned : List Json := []
  failure : Option Failure := none
deriving DecidableEq

/-- Successive calls, until one fails or waits. -/
def calls (drawn : ℕ) (inputs : List Input) : Run :=
  let call := readApplicationFrame platform nonces drawn inputs
  match ended : call.outcome with
  | .returned frame =>
    let later := calls call.drawn call.rest
    { sent := call.sent ++ later.sent, returned := frame :: later.returned, failure := later.failure }
  | .failed failure => { sent := call.sent, failure := some failure }
  | .waiting => { sent := call.sent }
termination_by inputs.length
decreasing_by exact readLoop_rest platform nonces ended

end RelayFrames

end WispGate.Model.Android
