import WispGate.Model.Upload
import WispGate.Soundness.FileActions

/-! # Pairing the connections of an upload

What the Wisp accepts agrees with what Android prepared, file by file, so the two connections of a
file carry the same key and fit each other (`Plan`). One file is then uploaded under every order of
the three loops. The key is the same for every file of an action and is consumed by the first, so
the second file of an action is turned away.
-/

namespace WispGate.Soundness.UploadPairing

open Data Model Model.Android Model.Relay Model.Wisp Model.Upload

/-! ## What the Wisp accepts -/

section Acceptance

variable {printable : Char → Bool}

/-- The file that an upload announces, at its place in the action. -/
def announced (index : ℕ) (upload : PreparedBulkUpload) : IncomingFile :=
  ⟨upload.file.id, upload.file.field, upload.file.name, upload.file.contentType, upload.file.size,
    toString index ++ ".upload", 0, (manifestOf upload).get "bulk"⟩

theorem acceptManifest_manifestOf {reserved total : ℕ} {files : Dict String IncomingFile} {index : ℕ}
    {upload : PreparedBulkUpload} {file : IncomingFile}
    (accepted : acceptManifest printable reserved total files index (manifestOf upload) = .ok file) :
    file = announced index upload ∧ files.contains file.id = false ∧ upload.file.size ≤ maxFileActionBytes := by
  obtain ⟨same, acceptable⟩ := FileActions.acceptManifest_ok_iff.mp accepted
  have size : file.size = upload.file.size := by
    have read : (manifestOf upload).get "size" = .int upload.file.size := rfl
    have counted := acceptable.size
    rw [read] at counted
    exact (Int.ofNat.inj (Option.some.inj counted)).symm
  have room := acceptable.room
  rw [size] at same room
  exact ⟨same, acceptable.fresh, by omega⟩

theorem acceptManifests_announced {reserved total : ℕ} {files files' : Dict String IncomingFile} {index : ℕ}
    {prepared : List PreparedBulkUpload}
    (accepted : acceptManifests printable reserved total files index (prepared.map manifestOf) = .ok files') :
    files'.values = files.values ++ prepared.mapIdx (fun place => announced (index + place)) ∧
      ∀ upload ∈ prepared, upload.file.size ≤ maxFileActionBytes := by
  induction prepared generalizing total files index with
  | nil =>
    obtain rfl := Except.ok.inj accepted
    simp
  | cons upload rest ih =>
    simp only [List.map_cons, acceptManifests] at accepted
    split at accepted
    · cases accepted
    rename_i file taken
    obtain ⟨rfl, fresh, small⟩ := acceptManifest_manifestOf taken
    obtain ⟨listed, others⟩ := ih accepted
    rw [Dict.contains_eq_false_iff] at fresh
    constructor
    · rw [listed, Dict.values_insert_of_get?_eq_none fresh, List.append_assoc, List.mapIdx_cons, Nat.add_zero]
      simp [Nat.add_assoc, Nat.add_comm 1]
    · intro other among
      rcases List.mem_cons.mp among with rfl | among
      · exact small
      · exact others other among

/-- The transfer that an accepted file action leaves in the tables. -/
theorem beginFileAction_transfer {t t' : Tables} {sender wisp wispId : String} {action : StagedFileAction}
    {prepared : List PreparedBulkUpload} {now : ℕ} {response : Json} {transfer : Transfer}
    (accepted : beginFileAction printable t sender wisp (beginBody wispId action prepared) now = .ok (t', response))
    (found : t'.transfers.get? (sender, action.transferId) = some transfer) :
    transfer.sender = sender ∧ transfer.files.values = prepared.mapIdx announced ∧ action.transferId ≠ "" ∧
      prepared ≠ [] ∧ ∀ upload ∈ prepared, upload.file.size ≤ maxFileActionBytes := by
  obtain ⟨manifests, files, begins, rfl, -⟩ := FileActions.beginFileAction_ok_iff.mp accepted
  have listed : ((beginBody wispId action prepared).get "files").asArr? = some (prepared.map manifestOf) := rfl
  obtain rfl := Option.some.inj (begins.listed.symm.trans listed)
  obtain ⟨values, small⟩ := acceptManifests_announced begins.accepted
  have named : transferIdOf printable (beginBody wispId action prepared) = action.transferId := rfl
  rw [named] at found
  obtain rfl := Option.some.inj ((Dict.get?_insert_self ..).symm.trans found)
  refine ⟨rfl, ?_, begins.named, fun none => begins.nonempty (by simp [none]), small⟩
  simpa [show (Dict.empty : Dict String IncomingFile).values = [] from rfl] using values

end Acceptance

/-! ## The plan of a file -/

/-- The connection that an endpoint opens for a file of a length. -/
def connection (job : Job) (length : ℕ) : Label → BulkConnection Label
  | (.android, index) => ⟨(.android, index), job.transfer.sender, job.clientId, "sender", length⟩
  | (.wisp, index) => ⟨(.wisp, index), job.clientId, job.transfer.sender, "receiver", length⟩

/-- Both halves of a file fit: the relay reads fitting connections under the key from both headers,
and what Android sends is what the Wisp stores. -/
structure Plan (job : Job) (aead : Aead) (hkdf : Hkdf) (key : String) (index : ℕ) (upload : PreparedBulkUpload)
    (file : IncomingFile) (ciphertext : Bytes) : Prop where
  prepared : job.prepared[index]? = some upload
  incoming : (State.incoming job)[index]? = some file
  headers : ∀ side, ∃ header, State.header job (side, index) = some header ∧
    BulkTables.readHeader (side, index) header = .ok (key, connection job ciphertext.length (side, index))
  sealed : upload.encryptTo aead = .ok ciphertext
  size : ciphertextSize file = ciphertext.length
  nonce : ∃ nonce, receiveNonce file = .ok nonce
  content : receiveContent job aead hkdf file ciphertext = .ok upload.file.content
  positive : 0 < ciphertext.length
  shown : file.field = upload.file.field ∧ file.name = upload.file.name ∧
    file.contentType = upload.file.contentType ∧ file.size = upload.file.size

theorem connection_fits (job : Job) (length index : ℕ) (side : Side) :
    BulkTables.mismatch (connection job length (side.other, index)) (connection job length (side, index)) = false := by
  cases side <;> simp [BulkTables.mismatch, connection, Side.other]

theorem readHeader_writeConnect {role sessionId transferId sender recipient : String} {length : ℕ} {label : Label}
    (roles : role = "sender" ∨ role = "receiver") (inSession : sessionId ≠ "") (inTransfer : transferId ≠ "")
    (fromOne : sender ≠ "") (toOne : recipient ≠ "") (apart : sender ≠ recipient) (low : 16 ≤ length)
    (high : length ≤ maxFileActionBytes + 16) :
    BulkTables.readHeader label (writeConnect role sessionId transferId sender recipient (.int length)) =
      .ok (sessionId ++ ":" ++ transferId, ⟨label, sender, recipient, role, length⟩) := by
  have text : ∀ {value : String}, value ≠ "" → (if value = "" then none else some value) = some value :=
    fun nonempty => if_neg nonempty
  have role_ok : ¬ (role ≠ "sender" ∧ role ≠ "receiver") := fun both => roles.elim both.1 both.2
  have low' : (16 : ℤ) ≤ length := by omega
  have high' : (length : ℤ) ≤ maxBulkBytes := by
    simp only [maxBulkBytes]
    simp only [maxFileActionBytes] at high
    omega
  unfold BulkTables.readHeader writeConnect
  simp [Json.isObj, Json.lookup, Json.hashKey?, Json.asStr?, Json.asInt?, BulkTables.nonEmptyText, text inSession,
    text inTransfer, text fromOne, text toOne, apart, role_ok, low', high']

/-- A file action that the Wisp accepts: the two sides of one session, the action Android has staged
and prepared, and the transfer it became. -/
structure FileAction (printable : Char → Bool) (hkdf : Hkdf) where
  android : PeerSession
  wisp : PeerSession
  action : StagedFileAction
  sessionKey : Bytes
  nonces : List Bytes
  wispId : String
  tables : Tables
  tables' : Tables
  startedAt : ℕ
  response : Json
  transfer : Transfer
  sameSession : wisp.sessionId = android.sessionId
  mirrored : wisp.localId = android.peerId ∧ wisp.peerId = android.localId
  sharedKey : wisp.receiveKey = android.sendKey
  named : android.sessionId ≠ "" ∧ android.localId ≠ "" ∧ android.peerId ≠ ""
  distinct : android.localId ≠ android.peerId
  keyed : android.bulkKey hkdf action.transferId true = .ok sessionKey
  drawn : nonces.length = action.files.length
  sized : ∀ nonce ∈ nonces, nonce.length = 12
  accepted : beginFileAction printable tables android.localId wispId (beginBody wispId action
    (prepare android.localId android.peerId android.sessionId sessionKey action.transferId action.files nonces))
    startedAt = .ok (tables', response)
  opened : tables'.transfers.get? (android.localId, action.transferId) = some transfer

namespace FileAction

variable {printable : Char → Bool} {hkdf : Hkdf} (a : FileAction printable hkdf)

def prepared : List PreparedBulkUpload :=
  prepare a.android.localId a.android.peerId a.android.sessionId a.sessionKey a.action.transferId a.action.files a.nonces

def job : Job := ⟨a.prepared, a.wisp.localId, a.action.transferId, a.transfer, a.wisp⟩

/-- The relay's key for every connection of the action. -/
def key : String := a.android.sessionId ++ ":" ++ a.action.transferId

theorem prepared_length : a.prepared.length = a.action.files.length := by
  simp [prepared, prepare, a.drawn]

theorem prepared_get {index : ℕ} {upload : PreparedBulkUpload} (found : a.prepared[index]? = some upload) :
    a.action.files[index]? = some upload.file ∧ ∃ nonce, nonce.length = 12 ∧
      upload = ⟨upload.file, a.android.localId, a.android.peerId, a.android.sessionId, a.action.transferId, b64 nonce,
        a.sessionKey⟩ := by
  rw [prepared, prepare, List.getElem?_zipWith_eq_some] at found
  obtain ⟨file, nonce, staged, drawn, rfl⟩ := found
  exact ⟨staged, nonce, a.sized nonce (List.mem_of_getElem? drawn), rfl⟩

variable {aead : Aead}

/-- The nonce a Wisp reads from the announcement of an upload. -/
theorem receiveNonce_announced {nonce : Bytes} {index : ℕ} {upload : PreparedBulkUpload}
    (drawn : upload.nonce = b64 nonce) (long : nonce.length = 12) :
    receiveNonce (announced index upload) = .ok nonce := by
  have read : ((announced index upload).bulk.get "nonce").asStr? = some (b64 nonce) :=
    congrArg some drawn
  simp [receiveNonce, read, long]

/-- Every file of the action has a plan. -/
theorem plan (cipher : aead.Gcm) (size : hkdf.Sized) {index : ℕ} {upload : PreparedBulkUpload}
    (found : a.prepared[index]? = some upload) :
    ∃ ciphertext, Plan a.job aead hkdf a.key index upload (announced index upload) ciphertext := by
  obtain ⟨sender, values, inTransfer, -, small⟩ := beginFileAction_transfer a.accepted a.opened
  replace small := small upload (List.mem_of_getElem? found)
  obtain ⟨-, nonce, long, same⟩ := a.prepared_get found
  have keyed := a.keyed
  rw [PeerSession.bulkKey, if_neg inTransfer] at keyed
  replace keyed := Except.ok.inj keyed
  have keyLength : a.sessionKey.length = 32 := by
    rw [← keyed]
    exact size ..
  obtain ⟨ciphertext, sealed, measured⟩ :=
    cipher.seals a.sessionKey nonce upload.file.content upload.aad keyLength long
  have nonceText : upload.nonce = b64 nonce := by rw [same]
  have contentKey : upload.contentKey = a.sessionKey := by rw [same]
  have listed : (State.incoming a.job)[index]? = some (announced index upload) := by
    rw [State.incoming, show a.job.transfer = a.transfer from rfl, values, List.getElem?_mapIdx]
    exact congrArg (Option.map _) found
  have inJob : a.job.prepared[index]? = some upload := found
  have transferId : a.job.transferId = a.action.transferId := rfl
  have peer : a.job.transfer.sender = a.android.localId := sender
  have client : a.job.clientId = a.android.peerId := a.mirrored.1
  have session : a.job.session.sessionId = a.android.sessionId := a.sameSession
  have low : 16 ≤ ciphertext.length := by omega
  have high : ciphertext.length ≤ maxFileActionBytes + 16 := measured ▸ Nat.add_le_add_right small 16
  refine ⟨ciphertext, found, listed, ?_, ?_, ?_, ⟨nonce, receiveNonce_announced nonceText long⟩, ?_, by omega,
    ⟨rfl, rfl, rfl, rfl⟩⟩
  · intro side
    cases side with
    | android =>
      refine ⟨_, by rw [State.header, inJob, Option.map_some], ?_⟩
      have measure : (upload.ciphertextSize : ℤ) = (ciphertext.length : ℕ) := by rw [measured]; rfl
      rw [measure, same]
      rw [readHeader_writeConnect (.inl rfl) a.named.1 inTransfer a.named.2.1 a.named.2.2 a.distinct low high]
      simp only [connection, peer, client, key]
    | wisp =>
      refine ⟨_, by rw [State.header, listed, Option.map_some], ?_⟩
      have measure : (announced index upload).bulk.get "ciphertext_size" = .int (ciphertext.length : ℕ) := by
        rw [measured]
        rfl
      rw [measure, session, transferId, peer, client,
        readHeader_writeConnect (.inr rfl) a.named.1 inTransfer a.named.2.2 a.named.2.1 a.distinct.symm low high]
      simp only [connection, peer, client, key]
  · rw [PreparedBulkUpload.encryptTo, nonceText, unb64_b64, contentKey]
    simp only [sealed]
    exact if_pos measured
  · rw [measured]
    rfl
  · have shared : a.job.session.bulkKey hkdf a.job.transferId false = .ok a.sessionKey := by
      rw [PeerSession.bulkKey, transferId, if_neg inTransfer, ← keyed]
      exact congrArg (fun k => Except.ok (hkdf k _ _)) a.sharedKey
    have aad : bulkAad a.job.session.sessionId a.job.transfer.sender a.job.clientId a.job.transferId
        (announced index upload).id (announced index upload).size = upload.aad := by
      rw [same, session, peer, client]
      rfl
    simp only [receiveContent, receiveNonce_announced nonceText long, shared, aad, cipher.opens sealed]
    exact if_pos rfl

end FileAction

/-! ## What the claim asks of a job -/

section Runs

variable (job : Job) (aead : Aead) (hkdf : Hkdf) (key : String)

/-- A start at a relay that does not know the key and has room. -/
def Fresh (s : State) : Prop :=
  ∃ now tables, s = { now := now, tables := tables } ∧ tables.pending.get? key = none ∧
    tables.consumed.get? key = none ∧ tables.pending.size < maxPendingBulk

/-- The states of an upload. -/
def Reached (s : State) : Prop := Reach (State.step job aead hkdf) anyStep (Fresh key) s

/-- No party can move. -/
def Settled (s : State) : Prop := ∀ e : Upload.Event, e.isMove = true → s.step job aead hkdf e = none

def uploads : List UploadedFile :=
  job.prepared.map fun upload =>
    ⟨upload.file.field, upload.file.name, upload.file.contentType, upload.file.size, upload.file.content⟩

/-- The two ends of a pipe are the connections of one file. -/
def Joins (pipe : Pipe) (index : ℕ) : Prop := pipe.sender = (.android, index) ∧ pipe.receiver = (.wisp, index)

/-- Under every order of the three loops no connection is turned away and the files are paired in
order; a run comes to its end, and there every file was paired and the callback ran with all. -/
structure Completes : Prop where
  safe : ∀ s, Reached job aead hkdf key s → s.refusals = [] ∧ ∀ pipe ∈ s.pipes, ∃ index, Joins pipe index
  served : ∀ s, Reached job aead hkdf key s → Settled job aead hkdf s →
    s.callback = some (grouped (uploads job)) ∧ ∀ index < job.prepared.length, ∃ pipe ∈ s.pipes, Joins pipe index
  finite : ∃ bound, ∀ s t events, Fresh key s → replay (State.step job aead hkdf) s events = some t →
    (events.filter Upload.Event.isMove).length ≤ bound

end Runs

/-! ## The state under its updates -/

section Updates

variable (s : State) (side other : Side) (e : Endpoint) (label : Label) (line : Json)

@[simp] theorem endpoint_set_self : (s.set side e).endpoint side = e := Function.update_self ..

theorem endpoint_set : (s.set side e).endpoint other = if other = side then e else s.endpoint other :=
  Function.update_apply ..

@[simp] theorem endpoint_set_android : (s.set .wisp e).endpoint .android = s.endpoint .android := rfl

@[simp] theorem endpoint_set_wisp : (s.set .android e).endpoint .wisp = s.endpoint .wisp := rfl

@[simp] theorem set_tables : (s.set side e).tables = s.tables := rfl

@[simp] theorem set_pipes : (s.set side e).pipes = s.pipes := rfl

@[simp] theorem set_stored : (s.set side e).stored = s.stored := rfl

@[simp] theorem set_refusals : (s.set side e).refusals = s.refusals := rfl

@[simp] theorem set_callback : (s.set side e).callback = s.callback := rfl

/-- A write touches the endpoint it goes to, if anything. -/
theorem write_cases : s.write label line = s ∨ s.openNow label = true ∧
    s.write label line = s.set label.1 { s.endpoint label.1 with lines := (s.endpoint label.1).lines ++ [line] } := by
  unfold State.write
  split_ifs with isOpen
  · exact .inr ⟨isOpen, rfl⟩
  · exact .inl rfl

end Updates

/-! ## Every run comes to an end -/

section Measure

variable (job : Job) {aead : Aead} {hkdf : Hkdf} {key : String}

/-- More than a pipe has left to do when it is opened. -/
def pipeBound : ℕ := maxBulkBytes.toNat + 6

def stageWeight : Stage → ℕ
  | .connecting => pipeBound + 4
  | .opened => pipeBound + 3
  | .waiting => 2
  | .ready => 1
  | .failed => 0

def fileWeight : ℕ := pipeBound + 5

def loopWeight (files : ℕ) (e : Endpoint) : ℕ := (files - e.index) * fileWeight + stageWeight e.stage

def pipeWeight (pipe : Pipe) : ℕ :=
  match pipe.stage with
  | .readySender => pipe.length + 5
  | .readyReceiver => pipe.length + 4
  | .copying remaining => remaining + 3
  | .completeSender => 2
  | .completeReceiver => 1
  | .closed => 0

def callbackWeight : Option (Dict String (List UploadedFile)) → ℕ
  | none => 1
  | some _ => 0

/-- What is left to do. -/
def weight (s : State) : ℕ :=
  loopWeight job.prepared.length (s.endpoint .android) + loopWeight (State.incoming job).length (s.endpoint .wisp) +
    (s.pipes.map pipeWeight).sum + callbackWeight s.callback

theorem loopWeight_stage {files : ℕ} {e e' : Endpoint} (place : e'.index = e.index)
    (less : stageWeight e'.stage < stageWeight e.stage) : loopWeight files e' < loopWeight files e := by
  unfold loopWeight
  rw [place]
  omega

theorem loopWeight_next {files : ℕ} {e : Endpoint} (inside : e.index < files) :
    loopWeight files { index := e.index + 1 } < loopWeight files e := by
  have one : files - e.index = files - (e.index + 1) + 1 := by omega
  unfold loopWeight
  rw [one, Nat.add_mul]
  simp only [stageWeight, fileWeight, Nat.one_mul]
  omega

theorem readHeader_length {label : Label} {header : Json} {name : String} {c : BulkConnection Label}
    (read : BulkTables.readHeader label header = .ok (name, c)) : c.length ≤ maxBulkBytes := by
  unfold BulkTables.readHeader at read
  split_ifs at read
  split at read
  · split_ifs at read with bad
    cases read
    exact not_lt.mp fun long => bad (.inr (.inr fun bounds => absurd bounds.2 (not_le.mpr long)))
  · cases read

theorem readHeader_error {label : Label} {header : Json} {verdict : Verdict Label}
    (rejected : BulkTables.readHeader label header = .error verdict) :
    (∃ error, verdict = .refused error) ∨ ∃ error, verdict = .raised error := by
  unfold BulkTables.readHeader at rejected
  split at rejected
  · cases rejected
    exact .inr ⟨_, rfl⟩
  split at rejected
  · cases rejected
    exact .inl ⟨_, rfl⟩
  split at rejected
  · cases rejected
    exact .inr ⟨_, rfl⟩
  split at rejected
  · split at rejected
    · cases rejected
      exact .inl ⟨_, rfl⟩
    · cases rejected
  · cases rejected
    exact .inl ⟨_, rfl⟩

/-- A verdict that pairs comes from a length the relay admits. -/
theorem handleBulk_length {t t' : BulkTables Label} {now : ℕ} {label : Label} {header : Json}
    {sender receiver : BulkConnection Label} (paired : t.handleBulk now label header = (t', .paired sender receiver)) :
    sender.length.toNat ≤ maxBulkBytes.toNat := by
  unfold BulkTables.handleBulk at paired
  split at paired
  · rename_i verdict rejected
    have equal : verdict = .paired sender receiver := congrArg Prod.snd paired
    rcases readHeader_error rejected with ⟨_, rfl⟩ | ⟨_, rfl⟩
    · cases equal
    · cases equal
  · rename_i name c read
    have bound := readHeader_length read
    unfold BulkTables.admission at paired
    simp only at paired
    split at paired
    · cases paired
    split at paired
    · split at paired
      · cases paired
      · cases paired
    · rename_i waiting _
      split at paired
      · cases paired
      · rename_i fits
        have same : waiting.length = c.length := by
          simp only [BulkTables.mismatch, Bool.or_eq_true, not_or, bne_iff_ne, ne_eq, not_not] at fits
          exact fits.2
        cases paired
        apply Int.toNat_le_toNat
        split_ifs
        · exact bound
        · exact same.trans_le bound

theorem pipeStep_weight {s s' : State} {pipe : Pipe} {stage : PipeStage} (stepped : s.pipeStep pipe = some (s', stage)) :
    pipeWeight { pipe with stage := stage } < pipeWeight pipe ∧ s'.pipes = s.pipes ∧ s'.callback = s.callback ∧
      ∀ side, (s'.endpoint side).index = (s.endpoint side).index ∧
      (s'.endpoint side).stage = (s.endpoint side).stage := by
  have wrote : ∀ label line, (s.write label line).pipes = s.pipes ∧ (s.write label line).callback = s.callback ∧
      ∀ side, ((s.write label line).endpoint side).index = (s.endpoint side).index ∧
        ((s.write label line).endpoint side).stage = (s.endpoint side).stage := by
    intro label line
    rcases write_cases s label line with same | ⟨-, same⟩
    · rw [same]
      exact ⟨rfl, rfl, fun _ => ⟨rfl, rfl⟩⟩
    · rw [same]
      refine ⟨rfl, rfl, fun side => ?_⟩
      rw [endpoint_set]
      split_ifs with hit
      · exact hit ▸ ⟨rfl, rfl⟩
      · exact ⟨rfl, rfl⟩
  obtain ⟨sender, receiver, length, old⟩ := pipe
  cases old with
  | readySender =>
    cases stepped
    exact ⟨Nat.lt_succ_self _, wrote ..⟩
  | readyReceiver =>
    cases stepped
    exact ⟨Nat.lt_succ_self _, wrote ..⟩
  | completeSender =>
    cases stepped
    exact ⟨Nat.lt_succ_self _, wrote ..⟩
  | completeReceiver =>
    cases stepped
    exact ⟨Nat.lt_succ_self _, wrote ..⟩
  | closed => cases stepped
  | copying remaining =>
    cases remaining with
    | zero =>
      cases stepped
      exact ⟨Nat.lt_succ_self _, rfl, rfl, fun _ => ⟨rfl, rfl⟩⟩
    | succ remaining =>
      simp only [State.pipeStep] at stepped
      split at stepped
      · cases stepped
        refine ⟨by simp only [pipeWeight]; omega, ?_, ?_, fun side => ?_⟩
        · split_ifs <;> rfl
        · split_ifs <;> rfl
        · have keeps : ∀ (t : State) (place : Side) (data : Bytes),
              ((t.set place { t.endpoint place with data := data }).endpoint side).index = (t.endpoint side).index ∧
              ((t.set place { t.endpoint place with data := data }).endpoint side).stage =
                (t.endpoint side).stage := by
            intro t place data
            rw [endpoint_set]
            split_ifs with hit
            · exact hit ▸ ⟨rfl, rfl⟩
            · exact ⟨rfl, rfl⟩
          split_ifs
          · exact ⟨((keeps _ _ _).1).trans (keeps _ _ _).1, ((keeps _ _ _).2).trans (keeps _ _ _).2⟩
          · exact keeps _ _ _
      · cases stepped

theorem sum_set_lt {pipes : List Pipe} {place : ℕ} {old new : Pipe} (found : pipes[place]? = some old)
    (less : pipeWeight new < pipeWeight old) :
    ((pipes.set place new).map pipeWeight).sum < (pipes.map pipeWeight).sum := by
  induction pipes generalizing place with
  | nil => cases found
  | cons head rest ih =>
    cases place with
    | zero =>
      cases found
      simpa using less
    | succ place => simpa using ih (by simpa using found)

/-- A loop that moves on has less to do, if the other one and the pipes stay. -/
theorem weight_set_lt {s s' : State} {side : Side} {e : Endpoint}
    (endpoints : ∀ other, s'.endpoint other = if other = side then e else s.endpoint other)
    (pipes : s'.pipes = s.pipes) (callback : s'.callback = s.callback)
    (less : ∀ files, (files = if side = .android then job.prepared.length else (State.incoming job).length) →
      loopWeight files e < loopWeight files (s.endpoint side)) : weight job s' < weight job s := by
  have less := less _ rfl
  unfold weight
  rw [pipes, callback, endpoints, endpoints]
  cases side with
  | android =>
    simp only [if_true, reduceCtorEq, if_false] at less ⊢
    omega
  | wisp =>
    simp only [if_true, reduceCtorEq, if_false] at less ⊢
    omega

theorem weight_stage_lt {s s' : State} {side : Side} {e : Endpoint}
    (endpoints : ∀ other, s'.endpoint other = if other = side then e else s.endpoint other)
    (pipes : s'.pipes = s.pipes) (callback : s'.callback = s.callback) (place : e.index = (s.endpoint side).index)
    (less : stageWeight e.stage < stageWeight (s.endpoint side).stage) : weight job s' < weight job s :=
  weight_set_lt job endpoints pipes callback fun _ _ => loopWeight_stage place less

theorem connect_weight {s s' : State} {side : Side} (stepped : s.connect job side = some s') :
    weight job s' < weight job s := by
  unfold State.connect at stepped
  simp only at stepped
  split at stepped
  · cases stepped
  rename_i starting
  rw [ne_eq, not_not] at starting
  have opens : stageWeight .opened < stageWeight (s.endpoint side).stage := by
    rw [starting]
    exact Nat.lt_succ_self _
  have fails : stageWeight .failed < stageWeight (s.endpoint side).stage := by
    rw [starting]
    exact Nat.succ_pos _
  cases side with
  | android =>
    simp only at stepped
    split at stepped
    · cases stepped
      exact weight_stage_lt job (fun _ => endpoint_set ..) rfl rfl rfl opens
    · cases stepped
  | wisp =>
    simp only at stepped
    split at stepped
    · cases stepped
    split at stepped
    · cases stepped
      exact weight_stage_lt job (fun _ => endpoint_set ..) rfl rfl rfl opens
    · cases stepped
      exact weight_stage_lt job (fun _ => endpoint_set ..) rfl rfl rfl fails

theorem handle_weight {s s' : State} {side : Side} (stepped : s.handle job side = some s') :
    weight job s' < weight job s := by
  unfold State.handle at stepped
  simp only at stepped
  split at stepped
  · cases stepped
  rename_i sent
  rw [ne_eq, not_not] at sent
  split at stepped
  · cases stepped
  rename_i header _
  have waits : stageWeight .waiting < stageWeight (s.endpoint side).stage := by
    rw [sent]
    simp [stageWeight, pipeBound]
  have fails : stageWeight .failed < stageWeight (s.endpoint side).stage := by
    rw [sent]
    exact Nat.succ_pos _
  split at stepped
  · cases stepped
    exact weight_stage_lt job (fun _ => endpoint_set ..) rfl rfl rfl waits
  · rename_i sender receiver verdict
    cases stepped
    have bound := handleBulk_length (Prod.ext rfl verdict)
    have less : ∀ files, loopWeight files { s.endpoint side with stage := .waiting } + (sender.length.toNat + 5) <
        loopWeight files (s.endpoint side) := by
      intro files
      simp only [loopWeight, sent, stageWeight, pipeBound]
      omega
    unfold weight
    simp only [List.map_append, List.map_cons, List.map_nil, List.sum_append, List.sum_cons, List.sum_nil, set_callback,
      pipeWeight, Nat.add_zero]
    cases side with
    | android =>
      have less := less job.prepared.length
      dsimp only at less
      simp only [endpoint_set_self, endpoint_set_wisp]
      omega
    | wisp =>
      have less := less (State.incoming job).length
      dsimp only at less
      simp only [endpoint_set_self, endpoint_set_android]
      omega
  · cases stepped
    exact weight_stage_lt job (fun _ => endpoint_set ..) rfl rfl rfl waits
  · cases stepped
    exact weight_stage_lt job (fun _ => endpoint_set ..) rfl rfl rfl fails

theorem movePipe_weight {s s' : State} {place : ℕ} (stepped : s.movePipe place = some s') :
    weight job s' < weight job s := by
  unfold State.movePipe at stepped
  split at stepped
  · cases stepped
  rename_i pipe found
  split at stepped
  · cases stepped
  rename_i middle stage moved
  cases stepped
  obtain ⟨less, pipes, callback, endpoints⟩ := pipeStep_weight moved
  have shorter := sum_set_lt found less
  have same : ∀ files side, loopWeight files (middle.endpoint side) = loopWeight files (s.endpoint side) := by
    intro files side
    rw [loopWeight, loopWeight, (endpoints side).1, (endpoints side).2]
  unfold weight
  simp only [same, pipes, callback]
  omega

theorem readAndroid_weight {s s' : State} (stepped : s.readAndroid job aead = some s') :
    weight job s' < weight job s := by
  unfold State.readAndroid at stepped
  simp only at stepped
  split at stepped
  · rename_i waits _ _
    have reads : stageWeight .ready < stageWeight (s.endpoint .android).stage := by
      rw [waits]
      exact Nat.lt_succ_self _
    have fails : stageWeight .failed < stageWeight (s.endpoint .android).stage := by
      rw [waits]
      exact Nat.succ_pos _
    split at stepped
    · cases stepped
      exact weight_stage_lt job (fun _ => endpoint_set ..) rfl rfl rfl reads
    · cases stepped
      exact weight_stage_lt job (fun _ => endpoint_set ..) rfl rfl rfl fails
  · rename_i writes _ found
    have inside := (List.getElem?_eq_some_iff.mp found).1
    split at stepped
    · cases stepped
      refine weight_set_lt job (fun _ => endpoint_set ..) rfl rfl fun files count => loopWeight_next ?_
      rwa [count, if_pos rfl]
    · cases stepped
      refine weight_stage_lt job (fun _ => endpoint_set ..) rfl rfl rfl ?_
      rw [writes]
      exact Nat.succ_pos _
  · cases stepped

theorem readWisp_weight {s s' : State} (stepped : s.readWisp job aead hkdf = some s') :
    weight job s' < weight job s := by
  unfold State.readWisp at stepped
  simp only at stepped
  split at stepped
  · rename_i waits _
    split at stepped
    · cases stepped
    · cases stepped
      refine weight_stage_lt job (fun _ => endpoint_set ..) rfl rfl ?_ ?_
      · split_ifs <;> rfl
      · rw [waits]
        split_ifs
        · exact Nat.lt_succ_self _
        · exact Nat.succ_pos _
  · rename_i reads found
    have inside := (List.getElem?_eq_some_iff.mp found).1
    split at stepped
    · cases stepped
    split at stepped
    · cases stepped
      refine weight_set_lt job (s := s) (fun _ => endpoint_set _ .wisp ..) rfl rfl
        fun files count => loopWeight_next ?_
      rwa [count, if_neg (by simp)]
    · cases stepped
      refine weight_stage_lt job (fun _ => endpoint_set ..) rfl rfl rfl ?_
      rw [reads]
      exact Nat.succ_pos _
  · cases stepped

/-- Every move leaves less to do. -/
theorem step_weight {s s' : State} {e : Upload.Event} (moves : e.isMove = true)
    (stepped : s.step job aead hkdf e = some s') :
    weight job s' < weight job s := by
  cases e with
  | tick => cases moves
  | connect side => exact connect_weight job stepped
  | handle side => exact handle_weight job stepped
  | pipe place => exact movePipe_weight job stepped
  | read side =>
    cases side with
    | android => exact readAndroid_weight job stepped
    | wisp => exact readWisp_weight job stepped
  | invoke =>
    simp only [State.step, State.invoke] at stepped
    split_ifs at stepped with complete
    cases stepped
    rw [Option.isNone_iff_eq_none] at complete
    simp only [weight, complete.2, callbackWeight]
    omega

/-- A run makes at most as many moves as there was to do at its start. -/
theorem replay_weight {s t : State} {events : List Upload.Event}
    (ran : replay (State.step job aead hkdf) s events = some t) :
    (events.filter Upload.Event.isMove).length + weight job t ≤ weight job s := by
  induction events generalizing s with
  | nil =>
    cases ran
    simp
  | cons e rest ih =>
    rw [replay_cons] at ran
    obtain ⟨middle, stepped, ran⟩ := Option.bind_eq_some_iff.mp ran
    have later := ih ran
    cases moves : e.isMove with
    | true =>
      have less := step_weight job moves stepped
      simp only [List.filter_cons, moves, if_true, List.length_cons]
      omega
    | false =>
      have same : weight job middle = weight job s := by
        cases e with
        | tick =>
          cases stepped
          rfl
        | _ => cases moves
      simp only [List.filter_cons, moves, Bool.false_eq_true, if_false]
      omega

end Measure

/-! ## The locked section -/

section Locked

variable {t : BulkTables Label} {now : ℕ} {key : String} {c waiting : BulkConnection Label}

theorem consumed_filter_none (unused : t.consumed.get? key = none) :
    (t.consumed.filter fun _ expires => decide (now < expires)).contains key = false := by
  rw [Dict.contains_eq_false_iff, Dict.get?_filter, unused, Option.filter_none]

theorem admit_waiting (unused : t.consumed.get? key = none) (free : t.pending.get? key = none)
    (room : t.pending.size < maxPendingBulk) :
    t.admission now key c =
      (⟨t.pending.insert key c, t.consumed.filter fun _ expires => decide (now < expires)⟩, .waiting) := by
  simp only [BulkTables.admission, consumed_filter_none unused, Bool.false_eq_true, if_false, free,
    if_neg (not_le.mpr room)]

theorem admit_paired (unused : t.consumed.get? key = none) (held : t.pending.get? key = some waiting)
    (fits : BulkTables.mismatch waiting c = false) :
    t.admission now key c =
      (⟨t.pending.erase key,
        (t.consumed.filter fun _ expires => decide (now < expires)).insert key (now + bulkTicketTtlSeconds)⟩,
        .paired (if c.role = "sender" then c else waiting) (if c.role = "receiver" then c else waiting)) := by
  simp only [BulkTables.admission, consumed_filter_none unused, Bool.false_eq_true, if_false, held, fits]

variable (t now c) in
/-- A pairing takes a key that is not consumed and consumes it; nothing else adds to what is. -/
theorem admit_consumed (name : String) :
    ((∃ sender receiver, (t.admission now name c).2 = .paired sender receiver) ∧
      (t.consumed.filter fun _ expires => decide (now < expires)).contains name = false ∧
      (t.admission now name c).1.consumed.get? name = some (now + bulkTicketTtlSeconds)) ∨
    (∀ sender receiver, (t.admission now name c).2 ≠ .paired sender receiver) ∧
      (t.admission now name c).1.consumed = t.consumed.filter fun _ expires => decide (now < expires) := by
  unfold BulkTables.admission
  dsimp only
  split
  · exact .inr ⟨by simp, rfl⟩
  rename_i unused
  split
  · split
    · exact .inr ⟨by simp, rfl⟩
    · exact .inr ⟨by simp, rfl⟩
  · split
    · exact .inr ⟨by simp, rfl⟩
    · exact .inl ⟨⟨_, _, rfl⟩, Bool.eq_false_iff.mpr unused, Dict.get?_insert_self ..⟩

end Locked

/-! ## Two files -/

section Two

variable {job : Job} {aead : Aead} {hkdf : Hkdf} {key : String}

variable (job aead hkdf) in
/-- Some moves lead from any state to one where no party can move. -/
theorem exists_settled (s : State) : ∃ t events, (∀ e ∈ events, e.isMove = true) ∧
    replay (State.step job aead hkdf) s events = some t ∧ Settled job aead hkdf t := by
  induction left : weight job s using Nat.strong_induction_on generalizing s with
  | _ n ih =>
    by_cases settled : Settled job aead hkdf s
    · exact ⟨s, [], by simp, rfl, settled⟩
    · simp only [Settled, not_forall] at settled
      obtain ⟨e, moves, able⟩ := settled
      obtain ⟨middle, stepped⟩ := Option.ne_none_iff_exists'.mp able
      obtain ⟨t, events, all, ran, settled⟩ := ih _ (left ▸ step_weight job moves stepped) middle rfl
      refine ⟨t, e :: events, ?_, ?_, settled⟩
      · intro other among
        rcases List.mem_cons.mp among with rfl | among
        · exact moves
        · exact all other among
      · rw [replay_cons, stepped, Option.bind_some, ran]

/-- Every header of the job carries the key. -/
def Keyed (job : Job) (key : String) : Prop :=
  ∀ label header name c, State.header job label = some header →
    BulkTables.readHeader label header = .ok (name, c) → name = key

/-- At most one pairing was made, and its key is consumed for longer than no time. -/
def Once (key : String) (s : State) : Prop :=
  s.pipes = [] ∨ s.pipes.length = 1 ∧ s.tables.consumed.get? key = some (s.now + bulkTicketTtlSeconds)

theorem pipeStep_keeps {s s' : State} {pipe : Pipe} {stage : PipeStage} (stepped : s.pipeStep pipe = some (s', stage)) :
    s'.tables = s.tables ∧ s'.now = s.now ∧ s'.refusals = s.refusals ∧ s'.stored = s.stored := by
  have wrote : ∀ label line, (s.write label line).tables = s.tables ∧ (s.write label line).now = s.now ∧
      (s.write label line).refusals = s.refusals ∧ (s.write label line).stored = s.stored := by
    intro label line
    rcases write_cases s label line with same | ⟨-, same⟩
    · rw [same]
      exact ⟨rfl, rfl, rfl, rfl⟩
    · rw [same]
      exact ⟨rfl, rfl, rfl, rfl⟩
  obtain ⟨sender, receiver, length, old⟩ := pipe
  cases old with
  | readySender =>
    cases stepped
    exact wrote ..
  | readyReceiver =>
    cases stepped
    exact wrote ..
  | completeSender =>
    cases stepped
    exact wrote ..
  | completeReceiver =>
    cases stepped
    exact wrote ..
  | closed => cases stepped
  | copying remaining =>
    cases remaining with
    | zero =>
      cases stepped
      exact ⟨rfl, rfl, rfl, rfl⟩
    | succ remaining =>
      simp only [State.pipeStep] at stepped
      split at stepped
      · cases stepped
        split_ifs
        · exact ⟨rfl, rfl, rfl, rfl⟩
        · exact ⟨rfl, rfl, rfl, rfl⟩
      · cases stepped

/-- A move that is not the relay's at a header leaves the relay's tables. -/
theorem move_keeps {s s' : State} {e : Upload.Event} (moves : e.isMove = true) (elsewhere : ∀ side, e ≠ .handle side)
    (stepped : s.step job aead hkdf e = some s') :
    s'.tables = s.tables ∧ s'.now = s.now ∧ s'.pipes.length = s.pipes.length := by
  cases e with
  | tick => cases moves
  | handle side => exact absurd rfl (elsewhere side)
  | connect side =>
    simp only [State.step, State.connect] at stepped
    split at stepped
    · cases stepped
    cases side with
    | android =>
      simp only at stepped
      split at stepped
      · cases stepped
        exact ⟨rfl, rfl, rfl⟩
      · cases stepped
    | wisp =>
      simp only at stepped
      split at stepped
      · cases stepped
      split at stepped
      · cases stepped
        exact ⟨rfl, rfl, rfl⟩
      · cases stepped
        exact ⟨rfl, rfl, rfl⟩
  | pipe place =>
    simp only [State.step, State.movePipe] at stepped
    split at stepped
    · cases stepped
    split at stepped
    · cases stepped
    rename_i moved
    cases stepped
    obtain ⟨tables, now, -, -⟩ := pipeStep_keeps moved
    exact ⟨tables, now, by rw [List.length_set, (pipeStep_weight moved).2.1]⟩
  | read side =>
    cases side with
    | android =>
      simp only [State.step, State.readAndroid] at stepped
      split at stepped
      · split at stepped
        · cases stepped
          exact ⟨rfl, rfl, rfl⟩
        · cases stepped
          exact ⟨rfl, rfl, rfl⟩
      · split at stepped
        · cases stepped
          exact ⟨rfl, rfl, rfl⟩
        · cases stepped
          exact ⟨rfl, rfl, rfl⟩
      · cases stepped
    | wisp =>
      simp only [State.step, State.readWisp] at stepped
      split at stepped
      · split at stepped
        · cases stepped
        · cases stepped
          exact ⟨rfl, rfl, rfl⟩
      · split at stepped
        · cases stepped
        split at stepped
        · cases stepped
          exact ⟨rfl, rfl, rfl⟩
        · cases stepped
          exact ⟨rfl, rfl, rfl⟩
      · cases stepped
  | invoke =>
    simp only [State.step, State.invoke] at stepped
    split at stepped
    · cases stepped
      exact ⟨rfl, rfl, rfl⟩
    · cases stepped

/-- What a header does to the key that all headers carry. -/
theorem handleBulk_consumed (t : BulkTables Label) (now : ℕ) {label : Label} {header : Json}
    (keyed : ∀ name c, BulkTables.readHeader label header = .ok (name, c) → name = key) :
    ((∃ sender receiver, (t.handleBulk now label header).2 = .paired sender receiver) ∧
      (∀ expires, t.consumed.get? key = some expires → ¬ now < expires) ∧
      (t.handleBulk now label header).1.consumed.get? key = some (now + bulkTicketTtlSeconds)) ∨
    (∀ sender receiver, (t.handleBulk now label header).2 ≠ .paired sender receiver) ∧
      ∀ expires, t.consumed.get? key = some expires → now < expires →
        (t.handleBulk now label header).1.consumed.get? key = some expires := by
  unfold BulkTables.handleBulk
  split
  · rename_i verdict rejected
    refine .inr ⟨fun sender receiver same => ?_, fun _ used _ => used⟩
    rcases readHeader_error rejected with ⟨_, rfl⟩ | ⟨_, rfl⟩
    · cases same
    · cases same
  · rename_i name c read
    obtain rfl := keyed name c read
    rcases admit_consumed t now c name with ⟨paired, unused, consumed⟩ | ⟨unpaired, same⟩
    · refine .inl ⟨paired, fun expires used later => ?_, consumed⟩
      rw [Dict.contains_eq_false_iff, Dict.get?_filter, used, Option.filter_some, if_pos (by simpa using later)] at unused
      cases unused
    · refine .inr ⟨unpaired, fun expires used later => ?_⟩
      rw [same, Dict.get?_filter, used, Option.filter_some, if_pos (by simpa using later)]

theorem handle_once {s s' : State} {side : Side} (keyed : Keyed job key) (once : Once key s)
    (stepped : s.handle job side = some s') : Once key s' := by
  unfold State.handle at stepped
  dsimp only at stepped
  split at stepped
  · cases stepped
  split at stepped
  · cases stepped
  rename_i header found
  have now_lt : s.now < s.now + bulkTicketTtlSeconds := Nat.lt_add_of_pos_right (by decide)
  rcases handleBulk_consumed s.tables s.now (fun name c => keyed _ header name c found) with
    ⟨⟨sender, receiver, verdict⟩, unused, consumed⟩ | ⟨unpaired, stays⟩
  · have none : s.pipes = [] := by
      rcases once with none | ⟨-, used⟩
      · exact none
      · exact absurd now_lt (unused _ used)
    simp only [verdict] at stepped
    cases stepped
    exact .inr ⟨by simp [none], consumed⟩
  · have keeps : s.pipes = [] ∨ s.pipes.length = 1 ∧
        (s.tables.handleBulk s.now (side, (s.endpoint side).index) header).1.consumed.get? key =
          some (s.now + bulkTicketTtlSeconds) := by
      rcases once with none | ⟨single, used⟩
      · exact .inl none
      · exact .inr ⟨single, stays _ used now_lt⟩
    split at stepped
    · cases stepped
      exact keeps
    · rename_i sender receiver verdict
      exact absurd verdict (unpaired sender receiver)
    · cases stepped
      exact keeps
    · cases stepped
      exact keeps

theorem move_once {s s' : State} {e : Upload.Event} (keyed : Keyed job key) (once : Once key s) (moves : e.isMove = true)
    (stepped : s.step job aead hkdf e = some s') : Once key s' := by
  by_cases atHeader : ∃ side, e = .handle side
  · obtain ⟨side, rfl⟩ := atHeader
    exact handle_once keyed once stepped
  · obtain ⟨tables, now, pipes⟩ := move_keeps moves (not_exists.mp atHeader) stepped
    rw [Once, tables, now, pipes, List.eq_nil_iff_length_eq_zero, pipes, ← List.eq_nil_iff_length_eq_zero]
    exact once

theorem moves_once {s t : State} {events : List Upload.Event} (keyed : Keyed job key) (once : Once key s)
    (moves : ∀ e ∈ events, e.isMove = true) (ran : replay (State.step job aead hkdf) s events = some t) :
    Once key t := by
  induction events generalizing s with
  | nil =>
    cases ran
    exact once
  | cons e rest ih =>
    rw [replay_cons] at ran
    obtain ⟨middle, stepped, ran⟩ := Option.bind_eq_some_iff.mp ran
    exact ih (move_once keyed once (moves e (List.mem_cons_self ..)) stepped)
      (fun other among => moves other (List.mem_cons_of_mem _ among)) ran

/-- A job of more than one file whose headers all carry the same key does not complete. -/
theorem not_completes (keyed : Keyed job key) (several : 2 ≤ job.prepared.length) :
    ¬ Completes job aead hkdf key := by
  intro completes
  have fresh : Fresh key { now := 0, tables := {} } := ⟨0, {}, rfl, rfl, rfl, by decide⟩
  obtain ⟨t, events, moves, ran, settled⟩ := exists_settled job aead hkdf { now := 0, tables := {} }
  have once : Once key t := moves_once keyed (.inl rfl) moves ran
  have served := (completes.served t (Reach.of_replay fresh _ ran) settled).2
  obtain ⟨first, inFirst, joinsFirst⟩ := served 0 (by omega)
  obtain ⟨second, inSecond, joinsSecond⟩ := served 1 (by omega)
  rcases once with none | ⟨single, -⟩
  · rw [none] at inFirst
    cases inFirst
  · obtain ⟨pipe, only⟩ := List.length_eq_one_iff.mp single
    rw [only, List.mem_singleton] at inFirst inSecond
    subst inFirst inSecond
    have same := joinsFirst.1.symm.trans joinsSecond.1
    cases same

end Two

/-! ## One file -/

section One

variable {job : Job} {aead : Aead} {hkdf : Hkdf} {key : String} {upload : PreparedBulkUpload} {file : IncomingFile}
  {ciphertext : Bytes}

/-- Before the pairing: `first` is the endpoint whose connection waits at the relay, if any. -/
structure Apart (job : Job) (key : String) (length : ℕ) (first : Option Side) (s : State) : Prop where
  pending : s.tables.pending.get? key = first.map fun side => connection job length (side, 0)
  consumed : s.tables.consumed.get? key = none
  room : first = none → s.tables.pending.size < maxPendingBulk
  endpoints : ∀ side, ∃ stage, s.endpoint side = ⟨0, stage, [], []⟩ ∧
    (stage = .connecting ∨ stage = .opened ∨ stage = .waiting) ∧ (stage = .waiting ↔ first = some side)
  pipes : s.pipes = []
  stored : s.stored = []
  refusals : s.refusals = []
  callback : s.callback = none

open State in
/-- Android's half of the paired file. -/
def Sending (ciphertext : Bytes) : PipeStage → Endpoint → Prop
  | .readySender, e => e = ⟨0, .waiting, [], []⟩
  | .readyReceiver, e => e = ⟨0, .waiting, [readyLine], []⟩ ∨ e = ⟨0, .ready, [], ciphertext⟩
  | .copying remaining, e => remaining ≤ ciphertext.length ∧
    (remaining = ciphertext.length ∧ e = ⟨0, .waiting, [readyLine], []⟩ ∨
      e = ⟨0, .ready, [], ciphertext.drop (ciphertext.length - remaining)⟩)
  | .completeSender, e => e = ⟨0, .ready, [], []⟩
  | _, e => e = ⟨0, .ready, [completeLine], []⟩ ∨ e = { index := 1 }

/-- What the relay has still to copy. -/
def PipeStage.remaining (length : ℕ) : PipeStage → ℕ
  | .readySender => length
  | .readyReceiver => length
  | .copying remaining => remaining
  | _ => 0

open State in
/-- The Wisp's half of the paired file. -/
def Receiving (job : Job) (content ciphertext : Bytes) (stage : PipeStage) (s : State) : Prop :=
  let got := ciphertext.take (ciphertext.length - PipeStage.remaining ciphertext.length stage)
  ((stage = .readySender ∨ stage = .readyReceiver) ∧ s.endpoint .wisp = ⟨0, .waiting, [], []⟩ ∨
    stage ≠ .readySender ∧ stage ≠ .readyReceiver ∧ (∃ rest, s.endpoint .wisp = ⟨0, .waiting, readyLine :: rest, got⟩ ∨
      s.endpoint .wisp = ⟨0, .ready, rest, got⟩)) ∧ s.stored = [] ∧ s.callback = none ∨
  PipeStage.remaining ciphertext.length stage = 0 ∧ s.endpoint .wisp = { index := 1 } ∧ s.stored = [content] ∧
    (s.callback = none ∨ s.callback = some (grouped (uploads job)))

/-- From the pairing on. -/
structure Paired (job : Job) (content ciphertext : Bytes) (stage : PipeStage) (s : State) : Prop where
  pipes : s.pipes = [⟨(.android, 0), (.wisp, 0), ciphertext.length, stage⟩]
  refusals : s.refusals = []
  sending : Sending ciphertext stage (s.endpoint .android)
  receiving : Receiving job content ciphertext stage s

/-- Where a run with one file can be. -/
def Single (job : Job) (key : String) (content ciphertext : Bytes) (s : State) : Prop :=
  (∃ first, Apart job key ciphertext.length first s) ∨ ∃ stage, Paired job content ciphertext stage s

theorem apart_of_fresh {s : State} (fresh : Fresh key s) : Apart job key ciphertext.length none s := by
  obtain ⟨now, tables, rfl, free, unused, room⟩ := fresh
  exact ⟨free, unused, fun _ => room, fun _ => ⟨.connecting, rfl, .inl rfl, by simp⟩, rfl, rfl, rfl, rfl⟩

variable (plan : Plan job aead hkdf key 0 upload file ciphertext) (single : job.prepared.length = 1)
  (singleFile : (State.incoming job).length = 1)

include plan

theorem apart_connect {s s' : State} {first : Option Side} {side : Side}
    (apart : Apart job key ciphertext.length first s) (stepped : s.connect job side = some s') :
    Apart job key ciphertext.length first s' := by
  obtain ⟨stage, at_, -, waits⟩ := apart.endpoints side
  unfold State.connect at stepped
  rw [at_] at stepped
  dsimp only at stepped
  split at stepped
  · cases stepped
  rename_i starting
  rw [ne_eq, not_not] at starting
  subst starting
  have opened : some (s.set side ⟨0, .opened, [], []⟩) = some s' := by
    cases side with
    | android =>
      have inside : 0 < job.prepared.length := (List.getElem?_eq_some_iff.mp plan.prepared).1
      rwa [if_pos inside] at stepped
    | wisp =>
      obtain ⟨nonce, read⟩ := plan.nonce
      simpa only [plan.incoming, read] using stepped
  cases opened
  refine ⟨apart.pending, apart.consumed, apart.room, fun other => ?_, apart.pipes, apart.stored, apart.refusals,
    apart.callback⟩
  rw [endpoint_set]
  split_ifs with hit
  · subst hit
    exact ⟨.opened, rfl, .inr (.inl rfl), by simpa using waits⟩
  · exact apart.endpoints other

theorem apart_handle {s s' : State} {first : Option Side} {side : Side}
    (apart : Apart job key ciphertext.length first s) (stepped : s.handle job side = some s') :
    Single job key upload.file.content ciphertext s' := by
  obtain ⟨stage, at_, -, waits⟩ := apart.endpoints side
  obtain ⟨header, carried, read⟩ := plan.headers side
  unfold State.handle at stepped
  rw [at_] at stepped
  dsimp only at stepped
  split at stepped
  · cases stepped
  rename_i sent
  rw [ne_eq, not_not] at sent
  subst sent
  have notFirst : first ≠ some side := fun held => by simpa using waits.mpr held
  simp only [carried, BulkTables.handleBulk, read] at stepped
  cases first with
  | none =>
    rw [admit_waiting apart.consumed apart.pending (apart.room rfl)] at stepped
    cases stepped
    refine .inl ⟨some side, Dict.get?_insert_self .., ?_, by simp, fun other => ?_, apart.pipes, apart.stored,
      apart.refusals, apart.callback⟩
    · exact (Dict.get?_filter ..).trans (by rw [apart.consumed, Option.filter_none])
    · rw [endpoint_set]
      split_ifs with hit
      · exact ⟨.waiting, rfl, .inr (.inr rfl), by simp [hit]⟩
      · obtain ⟨stage, same, shape, still⟩ := apart.endpoints other
        refine ⟨stage, same, shape, ?_⟩
        simpa [Ne.symm hit] using still
  | some other =>
    have opposite : other = side.other := by
      cases side <;> cases other <;> simp_all [Side.other]
    subst opposite
    rw [admit_paired apart.consumed apart.pending (connection_fits job ciphertext.length 0 side)] at stepped
    obtain ⟨stage', at', -, waits'⟩ := apart.endpoints side.other
    obtain rfl := waits'.mpr rfl
    cases side with
    | android =>
      cases stepped
      refine .inr ⟨.readySender, ?_, apart.refusals, rfl, ?_⟩
      · simp [apart.pipes, connection, Side.other]
      · exact .inl ⟨.inl ⟨.inl rfl, at'⟩, apart.stored, apart.callback⟩
    | wisp =>
      cases stepped
      refine .inr ⟨.readySender, ?_, apart.refusals, at', ?_⟩
      · simp [apart.pipes, connection, Side.other]
      · exact .inl ⟨.inl ⟨.inl rfl, rfl⟩, apart.stored, apart.callback⟩

omit plan in
variable (aead hkdf) in
theorem apart_read {s : State} {first : Option Side} (apart : Apart job key ciphertext.length first s) :
    s.readAndroid job aead = none ∧ s.readWisp job aead hkdf = none := by
  obtain ⟨stage, at_, -, -⟩ := apart.endpoints .android
  obtain ⟨stage', at', shape', -⟩ := apart.endpoints .wisp
  constructor
  · simp only [State.readAndroid, at_]
  · simp only [State.readWisp, at']
    rcases shape' with rfl | rfl | rfl
    · rfl
    · rfl
    · split <;> simp_all

omit plan in
theorem apart_still {s : State} {first : Option Side} (apart : Apart job key ciphertext.length first s)
    (singleFile : (State.incoming job).length = 1) (place : ℕ) :
    s.movePipe place = none ∧ s.invoke job = none := by
  constructor
  · simp [State.movePipe, apart.pipes]
  · obtain ⟨stage, at_, -, -⟩ := apart.endpoints .wisp
    simp [State.invoke, at_, singleFile]

omit plan in
/-- The endpoints of the paired file are done with their headers. -/
theorem sending_place {stage : PipeStage} {e : Endpoint} (sending : Sending ciphertext stage e) :
    e.index = 0 ∧ (e.stage = .waiting ∨ e.stage = .ready) ∨ e = { index := 1 } := by
  cases stage with
  | readySender => exact .inl (by rw [sending]; exact ⟨rfl, .inl rfl⟩)
  | readyReceiver =>
    rcases sending with rfl | rfl
    · exact .inl ⟨rfl, .inl rfl⟩
    · exact .inl ⟨rfl, .inr rfl⟩
  | copying remaining =>
    rcases sending.2 with ⟨-, rfl⟩ | rfl
    · exact .inl ⟨rfl, .inl rfl⟩
    · exact .inl ⟨rfl, .inr rfl⟩
  | completeSender => exact .inl (by rw [sending]; exact ⟨rfl, .inr rfl⟩)
  | completeReceiver =>
    rcases sending with rfl | rfl
    · exact .inl ⟨rfl, .inr rfl⟩
    · exact .inr rfl
  | closed =>
    rcases sending with rfl | rfl
    · exact .inl ⟨rfl, .inr rfl⟩
    · exact .inr rfl

omit plan in
theorem receiving_place {content : Bytes} {stage : PipeStage} {s : State}
    (receiving : Receiving job content ciphertext stage s) :
    (s.endpoint .wisp).index = 0 ∧ ((s.endpoint .wisp).stage = .waiting ∨ (s.endpoint .wisp).stage = .ready) ∨
      s.endpoint .wisp = { index := 1 } := by
  rcases receiving with ⟨⟨-, at_⟩ | ⟨-, -, rest, at_ | at_⟩, -⟩ | ⟨-, at_, -⟩
  · exact .inl (by rw [at_]; exact ⟨rfl, .inl rfl⟩)
  · exact .inl (by rw [at_]; exact ⟨rfl, .inl rfl⟩)
  · exact .inl (by rw [at_]; exact ⟨rfl, .inr rfl⟩)
  · exact .inr at_

omit plan in
/-- No further connection is opened or handled. -/
theorem paired_still {content : Bytes} {stage : PipeStage} {s : State} (paired : Paired job content ciphertext stage s)
    (single : job.prepared.length = 1) (singleFile : (State.incoming job).length = 1) (side : Side) :
    s.connect job side = none ∧ s.handle job side = none := by
  have place : (s.endpoint side).index = 0 ∧ ((s.endpoint side).stage = .waiting ∨ (s.endpoint side).stage = .ready) ∨
      s.endpoint side = { index := 1 } := by
    cases side with
    | android => exact sending_place paired.sending
    | wisp => exact receiving_place paired.receiving
  rcases place with ⟨-, stage | stage⟩ | at_
  · simp [State.connect, State.handle, stage]
  · simp [State.connect, State.handle, stage]
  · cases side with
    | android => simp [State.connect, State.handle, at_, single]
    | wisp => simp [State.connect, State.handle, at_, singleFile]

omit plan in
theorem write_openNow {s : State} {label : Label} {line : Json} (isOpen : s.openNow label = true) :
    s.write label line = s.set label.1 { s.endpoint label.1 with lines := (s.endpoint label.1).lines ++ [line] } :=
  if_pos isOpen

omit plan in
/-- After the readiness only what is left to copy matters. -/
theorem receiving_later {content : Bytes} {stage stage' : PipeStage} {s : State}
    (receiving : Receiving job content ciphertext stage s)
    (late : stage ≠ .readySender ∧ stage ≠ .readyReceiver) (late' : stage' ≠ .readySender ∧ stage' ≠ .readyReceiver)
    (left : PipeStage.remaining ciphertext.length stage' = PipeStage.remaining ciphertext.length stage) :
    Receiving job content ciphertext stage' s := by
  unfold Receiving at receiving ⊢
  rw [left]
  rcases receiving with ⟨⟨early | early, -⟩ | ⟨-, -, reads⟩, none⟩ | finished
  · exact absurd early late.1
  · exact absurd early late.2
  · exact .inl ⟨.inr ⟨late'.1, late'.2, reads⟩, none⟩
  · exact .inr finished

omit plan in
/-- A chunk goes from one half to the other. -/
theorem paired_copy {content : Bytes} {stage' : PipeStage} {remaining : ℕ} {s s' : State}
    (sending : Sending ciphertext (.copying (remaining + 1)) (s.endpoint .android))
    (receiving : Receiving job content ciphertext (.copying (remaining + 1)) s)
    (stepped : s.pipeStep ⟨(.android, 0), (.wisp, 0), ciphertext.length, .copying (remaining + 1)⟩ = some (s', stage')) :
    Sending ciphertext stage' (s'.endpoint .android) ∧ Receiving job content ciphertext stage' s' := by
  obtain ⟨within, ⟨-, waits⟩ | sends⟩ := sending
  · simp [State.pipeStep, waits] at stepped
  simp only [State.pipeStep] at stepped
  split at stepped
  · have isOpen : ∀ data, (s.set .android { s.endpoint .android with data := data }).openNow (.wisp, 0) = true := by
      intro data
      rcases receiving with ⟨⟨early | early, -⟩ | ⟨-, -, rest, at_ | at_⟩, -⟩ | ⟨left, -⟩
      · cases early
      · cases early
      · simp [State.openNow, at_]
      · simp [State.openNow, at_]
      · cases left
    rw [isOpen, if_pos rfl] at stepped
    cases stepped
    have chunk := Nat.min_le_right (256 * 1024) (remaining + 1)
    generalize min (256 * 1024) (remaining + 1) = size at chunk ⊢
    constructor
    · refine ⟨by omega, .inr ?_⟩
      rw [endpoint_set_android, endpoint_set_self, sends]
      simp only [List.drop_drop]
      congr 2
      omega
    · have grown : ciphertext.take (ciphertext.length - (remaining + 1)) ++
          (ciphertext.drop (ciphertext.length - (remaining + 1))).take size =
            ciphertext.take (ciphertext.length - (remaining + 1 - size)) := by
        rw [← List.take_add]
        congr 1
        omega
      rcases receiving with ⟨⟨early | early, -⟩ | ⟨-, -, rest, at_ | at_⟩, none⟩ | ⟨left, -⟩
      · cases early
      · cases early
      · refine .inl ⟨.inr ⟨by simp, by simp, rest, .inl ?_⟩, none⟩
        rw [endpoint_set_self, endpoint_set_wisp, at_, sends]
        simp only [PipeStage.remaining, grown]
      · refine .inl ⟨.inr ⟨by simp, by simp, rest, .inr ?_⟩, none⟩
        rw [endpoint_set_self, endpoint_set_wisp, at_, sends]
        simp only [PipeStage.remaining, grown]
      · cases left
  · cases stepped

/-- The pipe of the paired file moves on. -/
theorem paired_pipe {content : Bytes} {stage stage' : PipeStage} {s s' : State}
    (paired : Paired job content ciphertext stage s)
    (stepped : s.pipeStep ⟨(.android, 0), (.wisp, 0), ciphertext.length, stage⟩ = some (s', stage')) :
    Sending ciphertext stage' (s'.endpoint .android) ∧ Receiving job content ciphertext stage' s' := by
  obtain ⟨-, -, sending, receiving⟩ := paired
  cases stage with
  | readySender =>
    cases stepped
    have isOpen : s.openNow (.android, 0) = true := by simp [State.openNow, show s.endpoint .android = _ from sending]
    rw [write_openNow isOpen]
    refine ⟨.inl ?_, ?_⟩
    · rw [endpoint_set_self, show s.endpoint .android = _ from sending]
      rfl
    · rcases receiving with ⟨⟨-, at_⟩ | ⟨first, -⟩, none⟩ | ⟨left, -⟩
      · exact .inl ⟨.inl ⟨.inr rfl, at_⟩, none⟩
      · exact absurd rfl first
      · exact absurd left plan.positive.ne'
  | readyReceiver =>
    cases stepped
    rcases receiving with ⟨⟨-, at_⟩ | ⟨-, second, -⟩, none⟩ | ⟨left, -⟩
    · have isOpen : s.openNow (.wisp, 0) = true := by simp [State.openNow, at_]
      rw [write_openNow isOpen]
      refine ⟨⟨le_rfl, ?_⟩, .inl ⟨.inr ⟨by simp, by simp, [], .inl ?_⟩, none⟩⟩
      · rw [endpoint_set_android]
        rcases sending with waits | sends
        · exact .inl ⟨rfl, waits⟩
        · exact .inr (by rw [sends]; simp)
      · rw [endpoint_set_self, at_]
        simp [PipeStage.remaining]
    · exact absurd rfl second
    · exact absurd left plan.positive.ne'
  | copying remaining =>
    cases remaining with
    | zero =>
      cases stepped
      refine ⟨?_, receiving_later receiving (by simp) (by simp) rfl⟩
      obtain ⟨-, ⟨empty, -⟩ | sends⟩ := sending
      · exact absurd empty plan.positive.ne
      · rw [sends]
        simp [Sending]
    | succ remaining => exact paired_copy sending receiving stepped
  | completeSender =>
    cases stepped
    have isOpen : s.openNow (.android, 0) = true := by simp [State.openNow, show s.endpoint .android = _ from sending]
    have later : Receiving job content ciphertext .completeReceiver s :=
      receiving_later receiving (by simp) (by simp) rfl
    rw [write_openNow isOpen]
    refine ⟨.inl ?_, later⟩
    rw [endpoint_set_self, show s.endpoint .android = _ from sending]
    rfl
  | completeReceiver =>
    cases stepped
    have later : Receiving job content ciphertext .closed s :=
      receiving_later receiving (by simp) (by simp) rfl
    rcases write_cases s (.wisp, 0) State.completeLine with same | ⟨isOpen, same⟩
    · rw [same]
      exact ⟨sending, later⟩
    · rw [same]
      refine ⟨sending, ?_⟩
      rcases later with ⟨⟨early | early, -⟩ | ⟨-, -, rest, at_ | at_⟩, none⟩ | ⟨-, finished, -⟩
      · cases early
      · cases early
      · refine .inl ⟨.inr ⟨by simp, by simp, rest ++ [State.completeLine], .inl ?_⟩, none⟩
        rw [endpoint_set_self, at_]
        rfl
      · refine .inl ⟨.inr ⟨by simp, by simp, rest ++ [State.completeLine], .inr ?_⟩, none⟩
        rw [endpoint_set_self, at_]
      · simp [State.openNow, finished] at isOpen
  | closed => cases stepped

/-- Android answers the readiness with the whole file, and the completion with its next file. -/
theorem sending_read {stage : PipeStage} {s s' : State} (sending : Sending ciphertext stage (s.endpoint .android))
    (stepped : s.readAndroid job aead = some s') : ∃ e, s' = s.set .android e ∧ Sending ciphertext stage e := by
  have first : s.endpoint .android = ⟨0, .waiting, [State.readyLine], []⟩ →
      s' = s.set .android ⟨0, .ready, [], ciphertext⟩ := by
    intro at_
    have granted : State.grants State.readyLine "bulk_ready" = true := by decide
    simpa [State.readAndroid, at_, plan.prepared, plan.sealed, granted, eq_comm] using stepped
  have last : s.endpoint .android = ⟨0, .ready, [State.completeLine], []⟩ →
      s' = s.set .android { index := 1 } := by
    intro at_
    have granted : State.grants State.completeLine "bulk_complete" = true := by decide
    simpa [State.readAndroid, at_, plan.prepared, granted, eq_comm] using stepped
  have quiet : ∀ e : Endpoint, s.endpoint .android = e → e.lines ≠ [] := by
    rintro e rfl empty
    simp [State.readAndroid, empty] at stepped
  cases stage with
  | readySender => exact absurd rfl (quiet _ sending)
  | readyReceiver =>
    rcases sending with waits | sends
    · exact ⟨_, first waits, .inr rfl⟩
    · exact absurd rfl (quiet _ sends)
  | copying remaining =>
    obtain ⟨within, ⟨all, waits⟩ | sends⟩ := sending
    · refine ⟨_, first waits, within, .inr ?_⟩
      simp [all]
    · exact absurd rfl (quiet _ sends)
  | completeSender => exact absurd rfl (quiet _ sending)
  | completeReceiver =>
    rcases sending with ends | next
    · exact ⟨_, last ends, .inr rfl⟩
    · exact absurd rfl (quiet _ next)
  | closed =>
    rcases sending with ends | next
    · exact ⟨_, last ends, .inr rfl⟩
    · exact absurd rfl (quiet _ next)

/-- The worker reads its readiness, and then the file once all of it is there. -/
theorem receiving_read {stage : PipeStage} {s s' : State}
    (receiving : Receiving job upload.file.content ciphertext stage s)
    (stepped : s.readWisp job aead hkdf = some s') :
    Receiving job upload.file.content ciphertext stage s' ∧ s'.endpoint .android = s.endpoint .android ∧
      s'.pipes = s.pipes ∧ s'.refusals = s.refusals := by
  rcases receiving with ⟨⟨-, at_⟩ | ⟨late, late', rest, at_ | at_⟩, none⟩ | ⟨-, at_, -⟩
  · simp [State.readWisp, at_, plan.incoming] at stepped
  · have granted : State.grants State.readyLine "bulk_ready" = true := by decide
    simp only [State.readWisp, at_, plan.incoming, granted, if_true] at stepped
    cases stepped
    exact ⟨.inl ⟨.inr ⟨late, late', rest, .inr (endpoint_set_self ..)⟩, none⟩, rfl, rfl, rfl⟩
  · simp only [State.readWisp, at_, plan.incoming, plan.size] at stepped
    split at stepped
    · cases stepped
    rename_i enough
    have left : PipeStage.remaining ciphertext.length stage = 0 := by
      have positive := plan.positive
      simp only [List.length_take, not_lt] at enough
      omega
    have whole : (ciphertext.take (ciphertext.length - PipeStage.remaining ciphertext.length stage)).take
        ciphertext.length = ciphertext := by simp [left]
    rw [whole, plan.content] at stepped
    cases stepped
    exact ⟨.inr ⟨left, rfl, by simp [none.1], .inl none.2⟩, rfl, rfl, rfl⟩
  · simp [State.readWisp, at_] at stepped

theorem receiving_invoke (single : job.prepared.length = 1) (singleFile : (State.incoming job).length = 1)
    {stage : PipeStage} {s s' : State} (receiving : Receiving job upload.file.content ciphertext stage s)
    (stepped : s.invoke job = some s') :
    Receiving job upload.file.content ciphertext stage s' ∧ s'.endpoint .android = s.endpoint .android ∧
      s'.pipes = s.pipes ∧ s'.refusals = s.refusals := by
  unfold State.invoke at stepped
  split at stepped
  · rename_i complete
    cases stepped
    rcases receiving with ⟨⟨-, at_⟩ | ⟨-, -, rest, at_ | at_⟩, -⟩ | ⟨left, at_, stored, -⟩
    · rw [at_] at complete
      simp at complete
    · rw [at_] at complete
      simp at complete
    · rw [at_] at complete
      simp at complete
    · refine ⟨.inr ⟨left, at_, stored, .inr ?_⟩, rfl, rfl, rfl⟩
      obtain ⟨announced, alone⟩ := List.length_eq_one_iff.mp singleFile
      obtain ⟨only, alone'⟩ := List.length_eq_one_iff.mp single
      have file_eq : announced = file := by simpa [alone] using plan.incoming
      have upload_eq : only = upload := by simpa [alone'] using plan.prepared
      obtain ⟨field, name, contentType, size⟩ := plan.shown
      simp [exposed, uploads, stored, alone, alone', file_eq, upload_eq, field, name, contentType, size]
  · cases stepped

/-- One step of a run with one file. -/
theorem single_step (single : job.prepared.length = 1) (singleFile : (State.incoming job).length = 1) {s s' : State}
    {e : Upload.Event} (inv : Single job key upload.file.content ciphertext s)
    (stepped : s.step job aead hkdf e = some s') :
    Single job key upload.file.content ciphertext s' := by
  rcases inv with ⟨first, apart⟩ | ⟨stage, paired⟩
  · cases e with
    | tick seconds =>
      cases stepped
      exact .inl ⟨first, ⟨apart.pending, apart.consumed, apart.room, apart.endpoints, apart.pipes, apart.stored,
        apart.refusals, apart.callback⟩⟩
    | connect side => exact .inl ⟨first, apart_connect plan apart stepped⟩
    | handle side => exact apart_handle plan apart stepped
    | pipe place => cases (apart_still apart singleFile place).1.symm.trans stepped
    | read side =>
      cases side with
      | android => cases (apart_read aead hkdf apart).1.symm.trans stepped
      | wisp => cases (apart_read aead hkdf apart).2.symm.trans stepped
    | invoke => cases (apart_still apart singleFile 0).2.symm.trans stepped
  · cases e with
    | tick seconds =>
      cases stepped
      exact .inr ⟨stage, paired.pipes, paired.refusals, paired.sending, paired.receiving⟩
    | connect side => cases (paired_still paired single singleFile side).1.symm.trans stepped
    | handle side => cases (paired_still paired single singleFile side).2.symm.trans stepped
    | pipe place =>
      simp only [State.step, State.movePipe] at stepped
      split at stepped
      · cases stepped
      rename_i pipe found
      rw [paired.pipes] at found
      obtain ⟨rfl, rfl⟩ : place = 0 ∧ pipe = ⟨(.android, 0), (.wisp, 0), ciphertext.length, stage⟩ := by
        cases place with
        | zero => exact ⟨rfl, (Option.some.inj found).symm⟩
        | succ place => cases found
      split at stepped
      · cases stepped
      rename_i middle stage' moved
      cases stepped
      obtain ⟨sending, receiving⟩ := paired_pipe plan paired moved
      refine .inr ⟨stage', ?_, (pipeStep_keeps moved).2.2.1.trans paired.refusals, sending, receiving⟩
      rw [(pipeStep_weight moved).2.1, paired.pipes]
      rfl
    | read side =>
      cases side with
      | android =>
        obtain ⟨e, rfl, sending⟩ := sending_read plan paired.sending stepped
        refine .inr ⟨stage, paired.pipes, paired.refusals, ?_, paired.receiving⟩
        rwa [endpoint_set_self]
      | wisp =>
        obtain ⟨receiving, android, pipes, refusals⟩ := receiving_read plan paired.receiving stepped
        exact .inr ⟨stage, pipes.trans paired.pipes, refusals.trans paired.refusals, android ▸ paired.sending, receiving⟩
    | invoke =>
      obtain ⟨receiving, android, pipes, refusals⟩ := receiving_invoke plan single singleFile paired.receiving stepped
      exact .inr ⟨stage, pipes.trans paired.pipes, refusals.trans paired.refusals, android ▸ paired.sending, receiving⟩

/-- Before the pairing some endpoint can open its connection or the relay can read a header. -/
theorem apart_moves {s : State} {first : Option Side} (apart : Apart job key ciphertext.length first s) :
    ¬ Settled job aead hkdf s := by
  intro settled
  have waits : ∀ side, first = some side := by
    intro side
    obtain ⟨stage, at_, shape, waiting⟩ := apart.endpoints side
    rcases shape with rfl | rfl | rfl
    · have stuck : s.connect job side = none := settled (.connect side) rfl
      obtain ⟨nonce, read⟩ := plan.nonce
      cases side with
      | android =>
        have inside : 0 < job.prepared.length := (List.getElem?_eq_some_iff.mp plan.prepared).1
        simp [State.connect, at_, inside] at stuck
      | wisp => simp [State.connect, at_, plan.incoming, read] at stuck
    · have stuck : s.handle job side = none := settled (.handle side) rfl
      obtain ⟨header, carried, -⟩ := plan.headers side
      simp only [State.handle, at_, carried] at stuck
      split at stuck
      · contradiction
      split at stuck
      all_goals cases stuck
    · exact waiting.mp rfl
  cases (waits .android).symm.trans (waits .wisp)

/-- A pipe that has not closed can move, or Android can answer its readiness. -/
theorem paired_moves {content : Bytes} {stage : PipeStage} {s : State} (paired : Paired job content ciphertext stage s)
    (unfinished : stage ≠ .closed) : ¬ Settled job aead hkdf s := by
  intro settled
  have stuck : s.movePipe 0 = none := settled (.pipe 0) rfl
  have idle : s.pipeStep ⟨(.android, 0), (.wisp, 0), ciphertext.length, stage⟩ = none := by
    simp only [State.movePipe, paired.pipes, List.getElem?_cons_zero] at stuck
    split at stuck
    · assumption
    · cases stuck
  cases stage with
  | readySender => cases idle
  | readyReceiver => cases idle
  | completeSender => cases idle
  | completeReceiver => cases idle
  | closed => exact unfinished rfl
  | copying remaining =>
    cases remaining with
    | zero => cases idle
    | succ remaining =>
      obtain ⟨within, ⟨-, waits⟩ | sends⟩ := paired.sending
      · have silent : s.readAndroid job aead = none := settled (.read .android) rfl
        have granted : State.grants State.readyLine "bulk_ready" = true := by decide
        simp [State.readAndroid, waits, plan.prepared, plan.sealed, granted] at silent
      · have chunk := Nat.min_le_right (256 * 1024) (remaining + 1)
        simp only [State.pipeStep, State.openNow, sends, List.length_drop] at idle
        split at idle
        · cases idle
        · rename_i blocked
          refine blocked ⟨rfl, ?_⟩
          omega

/-- Where nobody can move the callback has run. -/
theorem single_served (singleFile : (State.incoming job).length = 1) {s : State}
    (inv : Single job key upload.file.content ciphertext s) (settled : Settled job aead hkdf s) :
    s.callback = some (grouped (uploads job)) ∧ s.pipes ≠ [] := by
  rcases inv with ⟨first, apart⟩ | ⟨stage, paired⟩
  · exact absurd settled (apart_moves plan apart)
  · obtain rfl : stage = .closed := not_not.mp fun open_ => paired_moves plan paired open_ settled
    have silent : s.readWisp job aead hkdf = none := settled (.read .wisp) rfl
    have uncalled : s.invoke job = none := settled .invoke rfl
    refine ⟨?_, by simp [paired.pipes]⟩
    rcases paired.receiving with ⟨⟨early | early, -⟩ | ⟨-, -, rest, at_ | at_⟩, -⟩ | ⟨-, at_, -, none | ran⟩
    · cases early
    · cases early
    · simp [State.readWisp, at_, plan.incoming] at silent
    · simp only [State.readWisp, at_, plan.incoming, plan.size, PipeStage.remaining, Nat.sub_zero, List.take_length,
        lt_irrefl, if_false, plan.content] at silent
      cases silent
    · simp [State.invoke, at_, singleFile, none] at uncalled
    · exact ran

/-- A job with one file completes. -/
theorem completes_single (single : job.prepared.length = 1) (singleFile : (State.incoming job).length = 1) :
    Completes job aead hkdf key := by
  have inv : ∀ s, Reached job aead hkdf key s → Single job key upload.file.content ciphertext s := by
    intro s reached
    refine reached.invariant _ (fun _ fresh => .inl ⟨none, apart_of_fresh fresh⟩) ?_
    intro s e t _ held _ stepped
    exact single_step plan single singleFile held stepped
  have joins : ∀ s, Reached job aead hkdf key s → s.refusals = [] ∧ ∀ pipe ∈ s.pipes, Joins pipe 0 := by
    intro s reached
    rcases inv s reached with ⟨first, apart⟩ | ⟨stage, paired⟩
    · exact ⟨apart.refusals, by simp [apart.pipes]⟩
    · refine ⟨paired.refusals, fun pipe among => ?_⟩
      rw [paired.pipes, List.mem_singleton] at among
      exact among ▸ ⟨rfl, rfl⟩
  constructor
  · intro s reached
    exact ⟨(joins s reached).1, fun pipe among => ⟨0, (joins s reached).2 pipe among⟩⟩
  · intro s reached settled
    obtain ⟨callback, some⟩ := single_served plan singleFile (inv s reached) settled
    refine ⟨callback, fun index inside => ?_⟩
    obtain ⟨pipe, among⟩ := List.exists_mem_of_ne_nil _ some
    obtain rfl : index = 0 := by omega
    exact ⟨pipe, among, (joins s reached).2 pipe among⟩
  · refine ⟨2 * fileWeight + 2 * stageWeight .connecting + 1, fun s t events fresh ran => ?_⟩
    obtain ⟨now, tables, rfl, -⟩ := fresh
    have bound := replay_weight job ran
    have start : weight job { now := now, tables := tables } = 2 * fileWeight + 2 * stageWeight .connecting + 1 := by
      simp only [weight, loopWeight, single, singleFile, callbackWeight, List.map_nil, List.sum_nil]
      omega
    omega

end One

/-! ## The result -/

section Result

variable {printable : Char → Bool} {hkdf : Hkdf} {aead : Aead} (a : FileAction printable hkdf)

theorem incoming_length : (State.incoming a.job).length = a.action.files.length := by
  obtain ⟨-, values, -⟩ := beginFileAction_transfer a.accepted a.opened
  have listed : State.incoming a.job = a.prepared.mapIdx announced := values
  rw [listed, List.length_mapIdx, a.prepared_length]

theorem keyed (cipher : aead.Gcm) (size : hkdf.Sized) : Keyed a.job a.key := by
  rintro ⟨side, index⟩ header name c carried read
  have inside : index < a.prepared.length := by
    cases side with
    | android =>
      obtain ⟨upload, found, -⟩ := Option.map_eq_some_iff.mp carried
      exact (List.getElem?_eq_some_iff.mp found).1
    | wisp =>
      obtain ⟨file, found, -⟩ := Option.map_eq_some_iff.mp carried
      have inside := (List.getElem?_eq_some_iff.mp found).1
      rwa [incoming_length, ← a.prepared_length] at inside
  obtain ⟨ciphertext, plan⟩ := a.plan cipher size (List.getElem?_eq_getElem inside)
  obtain ⟨header', carried', read'⟩ := plan.headers side
  obtain rfl := Option.some.inj (carried'.symm.trans carried)
  exact (congrArg Prod.fst (Except.ok.inj (read'.symm.trans read))).symm

end Result

/-! ## Two actions -/

def sampleSide (localId peerId : String) (androidSide : Bool) : PeerSession :=
  .create "session" localId peerId (List.replicate 32 1) (List.replicate 32 2) 0 androidSide

def sampleFile (id : String) : StagedUpload := ⟨id, "file", "a.txt", "text/plain", [7]⟩

def sampleBegun (files : List StagedUpload) : Except String (Tables × Json) :=
  beginFileAction (fun _ => true) {} "phone" "notes" (beginBody "notes" ⟨"transfer", .obj [], files⟩
    (prepare "phone" "wisp" "session" (List.replicate 32 0) "transfer" files (files.map fun _ => List.replicate 12 0))) 0

def sampleAction (files : List StagedUpload) (outcome : Tables × Json) (transfer : Transfer)
    (begun : sampleBegun files = .ok outcome)
    (opened : outcome.1.transfers.get? ("phone", "transfer") = some transfer) :
    FileAction (fun _ => true) constantHkdf where
  android := sampleSide "phone" "wisp" true
  wisp := sampleSide "wisp" "phone" false
  action := ⟨"transfer", .obj [], files⟩
  sessionKey := List.replicate 32 0
  nonces := files.map fun _ => List.replicate 12 0
  wispId := "notes"
  tables := {}
  tables' := outcome.1
  startedAt := 0
  response := outcome.2
  transfer := transfer
  sameSession := rfl
  mirrored := ⟨rfl, rfl⟩
  sharedKey := rfl
  named := by decide
  distinct := by decide
  keyed := rfl
  drawn := List.length_map ..
  sized := by simp
  accepted := begun
  opened := opened

def oneFile : FileAction (fun _ => true) constantHkdf := sampleAction [sampleFile "a"] _ _ rfl rfl

def twoFiles : FileAction (fun _ => true) constantHkdf := sampleAction [sampleFile "a", sampleFile "b"] _ _ rfl rfl

end WispGate.Soundness.UploadPairing
