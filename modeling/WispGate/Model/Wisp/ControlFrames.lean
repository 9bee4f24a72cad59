import WispGate.Model.Wisp.Runtime

/-! # Control frames of a Wisp

The frames that the event loop writes in the clear while it serves a line of the relay: the answer to a
ping, and the request for a fresh session.
-/

namespace WispGate.Model.Wisp

open Data

def pong (nonce : String) : Json := .obj [("type", .str "pong"), ("nonce", .str nonce)]

/-- What `_send_session_reset` writes. -/
def sessionReset (clientId : String) (recipient : Json) (reason : String) : Json :=
  .obj [("type", .str "session_reset"), ("sender", .str clientId), ("recipient", recipient), ("reason", .str reason)]

namespace Runtime

variable (env : Env)

/-- The control frames of `_handle_session_envelope`. A session that does not open the frame is dropped
without one. -/
def sessionControls (m : Runtime) (message : Json) : List Json :=
  match message.get "sender" with
  | .str sender =>
    match m.peers.sessions.get? sender with
    | none => [sessionReset env.clientId (.str sender) "unknown_session"]
    | some _ => []
  | sender => if sender.hashKey?.isNone then [] else [sessionReset env.clientId sender "unknown_session"]

/-- The control frames that serving a line writes. -/
def controls (m : Runtime) (message : Json) : List Json :=
  if ¬ message.isObj then []
  else if message.get "type" = .str "ping" then
    match message.get "nonce" with
    | .str nonce => if nonce = "" then [] else [pong nonce]
    | _ => []
  else if message.get "type" = .str "envelope" then []
  else if message.get "type" = .str "session_envelope" then m.sessionControls env message
  else []

end Runtime

end WispGate.Model.Wisp
