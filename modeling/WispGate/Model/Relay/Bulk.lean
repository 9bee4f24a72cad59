import WispGate.Data.Dict
import WispGate.Model.Python

/-! # The bulk lane of the relay

`RelayRuntime.handle_bulk` from the header of a connection to the end of its locked section. A key
made of the session and the transfer pairs two connections, once: it stays consumed for a while.
A connection is named by a label that is the environment's.
-/

namespace WispGate.Model.Relay

open Data

def maxBulkBytes : ℤ := 256 * 1024 * 1024 + 16

def maxPendingBulk : ℕ := 128

def bulkTicketTtlSeconds : ℕ := 10 * 60

/-- `_BulkConnection`. -/
structure BulkConnection (ι : Type) where
  label : ι
  clientId : String
  peer : String
  role : String
  length : ℤ
deriving DecidableEq

structure BulkTables (ι : Type) where
  pending : Dict String (BulkConnection ι) := .empty
  consumed : Dict String ℕ := .empty

/-- Where `_pipe_bulk` is. -/
inductive PipeStage where
  | readySender
  | readyReceiver
  | copying (remaining : ℕ)
  | completeSender
  | completeReceiver
  | closed
deriving DecidableEq

/-- How the locked section of `handle_bulk` ends for a connection. -/
inductive Verdict (ι : Type) where
  | refused (error : String)
  | raised (error : PyError)
  | waiting
  | paired (sender receiver : BulkConnection ι)

namespace BulkTables

variable {ι : Type}

/-- The text of a member that is a text with characters in it. -/
def nonEmptyText (header : Json) (name : String) : Option String :=
  match header.get name with
  | .str value => if value = "" then none else some value
  | _ => none

/-- The key and the connection of a header that passes the checks. -/
def readHeader (label : ι) (header : Json) : Except (Verdict ι) (String × BulkConnection ι) :=
  if ¬ header.isObj then .error (.raised .attribute)
  else if (header.get "type").pyEq (.str "bulk_connect") = false then .error (.refused "invalid_bulk_connect")
  else if (header.get "role").hashKey?.isNone then .error (.raised .type)
  else match (header.get "role").asStr?, nonEmptyText header "session_id", nonEmptyText header "transfer_id",
      nonEmptyText header "sender", nonEmptyText header "recipient", (header.get "length").asInt? with
    | some role, some sessionId, some transferId, some sender, some recipient, some length =>
      if (role ≠ "sender" ∧ role ≠ "receiver") ∨ sender = recipient ∨ ¬ (16 ≤ length ∧ length ≤ maxBulkBytes) then
        .error (.refused "invalid_bulk_connect")
      else .ok (sessionId ++ ":" ++ transferId, ⟨label, sender, recipient, role, length⟩)
    | _, _, _, _, _, _ => .error (.refused "invalid_bulk_connect")

/-- Two connections that do not belong together. -/
def mismatch (waiting connection : BulkConnection ι) : Bool :=
  waiting.role == connection.role || waiting.clientId != connection.peer || waiting.peer != connection.clientId ||
    waiting.length != connection.length

/-- The section under the lock, for a connection with a well-formed header. -/
def admission (t : BulkTables ι) (now : ℕ) (key : String) (connection : BulkConnection ι) : BulkTables ι × Verdict ι :=
  let consumed := t.consumed.filter fun _ expires => decide (now < expires)
  if consumed.contains key then ({ t with consumed := consumed }, .refused "bulk_transfer_used")
  else match t.pending.get? key with
    | none =>
      if maxPendingBulk ≤ t.pending.size then
        ({ t with consumed := consumed }, .refused "too_many_pending_bulk_offers")
      else (⟨t.pending.insert key connection, consumed⟩, .waiting)
    | some waiting =>
      if mismatch waiting connection then
        (⟨(t.pending.erase key).insert key waiting, consumed⟩, .refused "bulk_pair_mismatch")
      else (⟨t.pending.erase key, consumed.insert key (now + bulkTicketTtlSeconds)⟩,
        .paired (if connection.role = "sender" then connection else waiting)
          (if connection.role = "receiver" then connection else waiting))

/-- `handle_bulk` up to the end of its locked section. -/
def handleBulk (t : BulkTables ι) (now : ℕ) (label : ι) (header : Json) : BulkTables ι × Verdict ι :=
  match readHeader label header with
  | .error verdict => (t, verdict)
  | .ok (key, connection) => t.admission now key connection

end BulkTables

end WispGate.Model.Relay
