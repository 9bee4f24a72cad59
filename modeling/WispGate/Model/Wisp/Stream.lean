import WispGate.Model.Python

/-! # Lines on a Python endpoint's stream

`send_json` on a frame that was parsed, and the read of a line by a stream that
`asyncio.open_connection` made without a limit of its own. Frames hold no objects inside.
-/

namespace WispGate.Model.Wisp

open Data

/-- The dictionary a parsed object is: a repeated member once, with its last value. -/
def asDict (value : Json) : Json := .obj (value.keys.map fun key => (key, value.get key))

/-- What `send_json` writes before the newline. -/
def lineOf (value : Json) : Bytes := utf8 (asDict value).dumps

/-- The limit of a stream reader that was given none. -/
def defaultLimit : ℕ := 2 ^ 16

/-- `readline` on a line of which this comes before the newline. -/
def readline (limit : ℕ) (line : Bytes) : Except PyError Bytes :=
  if limit < line.length then .error .value else .ok line

/-- The head of `_event_loop`: the next line, parsed. -/
def nextMessage (line : Bytes) : Except PyError Json := do
  let line ← readline defaultLimit line
  loadsBytes line

end WispGate.Model.Wisp
