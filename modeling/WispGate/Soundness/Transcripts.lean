import WispGate.Data.Separated
import WispGate.Model.Relay.Bulk
import WispGate.Model.Relay.Sections
import WispGate.Model.Wisp.Assets
import WispGate.Model.Wisp.Handshake

/-! # Texts joined by delimiters

The text an endpoint signs for the relay, the transcript of an accepted session, the associated data of
a file and the key of a bulk transfer join their components by a delimiter, and nothing keeps the delimiter
out of a component. Such a text has one reading exactly where no component could be split in it: a
delimiter is harmless only at an end that no shorter component could have, because it would be empty.
-/

namespace WispGate.Soundness.Transcripts

open Data Model Model.Relay

/-- No other admitted value is encoded the same. -/
def Determined {τ β : Type} (admitted : τ → Prop) (encode : τ → β) (t : τ) : Prop :=
  ∀ u, admitted u → encode u = encode t → u = t

/-! ## The four encodings -/

@[ext] structure AuthFields where
  port : Port
  clientId : String
  challenge : String
  ticket : String
  peer : String
  length : String

namespace AuthFields

def transcript (env : Env) (f : AuthFields) : String :=
  authTranscript env f.port.role f.clientId f.challenge (.str f.ticket) (.str f.peer) (.str f.length)

/-- The length check of the hello, and the encoding of the transcript. -/
structure Admitted (env : Env) (f : AuthFields) : Prop where
  nonempty : f.clientId ≠ ""
  short : f.clientId.length ≤ 128
  ascii : isAscii (f.transcript env) = true

structure Clear (f : AuthFields) : Prop where
  clientId : '\n' ∉ f.clientId.toList.tail
  challenge : '\n' ∉ f.challenge.toList
  ticket : '\n' ∉ f.ticket.toList
  peer : '\n' ∉ f.peer.toList
  length : '\n' ∉ f.length.toList

end AuthFields

def nul : Char := Char.ofNat 0

@[ext] structure AcceptFields where
  sessionId : String
  challenge : String
  androidId : String
  wispId : String

namespace AcceptFields

/-- What `session_accept_proof` authenticates. -/
def transcript (f : AcceptFields) : Bytes :=
  [0].intercalate [utf8 "wispgate-session-v1/accept", utf8 f.sessionId, utf8 f.challenge, utf8 f.androidId,
    utf8 f.wispId]

theorem sessionAcceptProof_eq (hkdf : Hkdf) (hmac : Wisp.Hmac) (master : Bytes) (f : AcceptFields) :
    Wisp.sessionAcceptProof hkdf hmac master f.sessionId f.challenge f.androidId f.wispId =
      b64 (hmac (Wisp.deriveSessionKeys hkdf master f.sessionId).2 f.transcript) := rfl

structure Admitted (f : AcceptFields) : Prop where
  sessionId : f.sessionId ≠ ""
  challenge : f.challenge ≠ ""

/-- A challenge that is one NUL cannot be split either. -/
structure Clear (f : AcceptFields) : Prop where
  sessionId : nul ∉ f.sessionId.toList.tail
  challenge : nul ∉ f.challenge.toList ∨ f.challenge = String.singleton nul
  androidId : nul ∉ f.androidId.toList
  wispId : nul ∉ f.wispId.toList

end AcceptFields

@[ext] structure AadFields where
  sessionId : String
  sender : String
  recipient : String
  transferId : String
  fileId : String
  size : ℕ

namespace AadFields

def aad (f : AadFields) : Bytes := bulkAad f.sessionId f.sender f.recipient f.transferId f.fileId f.size

/-- The session has an id, the bulk key is derived from a transfer id, and the asset has passed its checks. -/
structure Admitted (f : AadFields) : Prop where
  sessionId : f.sessionId ≠ ""
  transferId : f.transferId ≠ ""
  fileId : f.fileId.toList.all Wisp.assetIdChar = true ∧ f.fileId ≠ "" ∧ f.fileId.length ≤ 128

structure Clear (f : AadFields) : Prop where
  sessionId : nul ∉ f.sessionId.toList.tail
  sender : nul ∉ f.sender.toList
  recipient : nul ∉ f.recipient.toList
  transferId : nul ∉ f.transferId.toList.dropLast

end AadFields

@[ext] structure PairFields where
  sessionId : String
  transferId : String

namespace PairFields

def key (f : PairFields) : String := f.sessionId ++ ":" ++ f.transferId

structure Admitted (f : PairFields) : Prop where
  sessionId : f.sessionId ≠ ""
  transferId : f.transferId ≠ ""

structure Clear (f : PairFields) : Prop where
  sessionId : ':' ∉ f.sessionId.toList.tail
  transferId : ':' ∉ f.transferId.toList.dropLast

end PairFields

/-! ### What the code admits -/

theorem challenged_admitted {env : Env} {rt rt' : RelayRuntime} {now : ℕ} {port : Port} {hello frame : Json}
    {draw : Draw} {pending : Pending}
    (begun : rt.beginAuthentication env now port hello draw = .ok (.challenged rt' pending frame)) :
    pending.clientId ≠ "" ∧ pending.clientId.length ≤ 128 := by
  unfold RelayRuntime.beginAuthentication at begun
  split_ifs at begun with object role
  split at begun
  · dsimp only at begun
    split_ifs at begun with invalid unknown changed
    · cases begun
    · cases begun
    · cases begun
    · simp only [Except.ok.injEq, AuthStart.challenged.injEq] at begun
      obtain ⟨-, rfl, -⟩ := begun
      rw [not_or, not_or, not_or] at invalid
      exact ⟨invalid.2.1, Nat.le_of_not_lt invalid.2.2.1⟩
  · cases begun

theorem sessionInit_admitted {body : Json} {init : Wisp.SessionInit} (read : Wisp.sessionInit body = .ok init) :
    init.sessionId ≠ "" ∧ init.challenge ≠ "" := by
  unfold Wisp.sessionInit at read
  split_ifs at read with other
  split at read
  · split_ifs at read with missing
    split at read
    · cases read
    · split_ifs at read
      obtain rfl := Except.ok.inj read
      rw [not_or, not_or] at missing
      exact ⟨missing.1, missing.2.1⟩
  · cases read

theorem nonEmptyText_some {header : Json} {name text : String} (read : BulkTables.nonEmptyText header name = some text) :
    header.get name = .str text ∧ text ≠ "" := by
  unfold BulkTables.nonEmptyText at read
  split at read
  · split_ifs at read with empty
    obtain rfl := Option.some.inj read
    exact ⟨‹_›, empty⟩
  · cases read

theorem readHeader_key {ι : Type} {label : ι} {header : Json} {key : String} {connection : BulkConnection ι}
    (read : BulkTables.readHeader label header = .ok (key, connection)) :
    ∃ f : PairFields, header.get "session_id" = .str f.sessionId ∧ header.get "transfer_id" = .str f.transferId ∧
      f.Admitted ∧ key = f.key := by
  unfold BulkTables.readHeader at read
  split_ifs at read with object type role
  split at read
  · rename_i sessionId transferId _ _ _ _ session transfer _ _ _
    split_ifs at read
    obtain ⟨rfl, -⟩ := Prod.mk.inj (Except.ok.inj read)
    obtain ⟨session_read, session_some⟩ := nonEmptyText_some session
    obtain ⟨transfer_read, transfer_some⟩ := nonEmptyText_some transfer
    exact ⟨⟨sessionId, transferId⟩, session_read, transfer_read, ⟨session_some, transfer_some⟩, rfl⟩
  · cases read

/-! ## Texts -/

theorem utf8_append (a b : String) : utf8 (a ++ b) = utf8 a ++ utf8 b := by
  rw [utf8_flatMap, utf8_flatMap, utf8_flatMap, String.toList_append, List.flatMap_append]

theorem utf8_nul : utf8 (String.singleton nul) = [0] := by
  decide

/-- Bytes joined by zeros are a text joined by NULs. -/
theorem intercalate_utf8 (parts : List String) :
    [0].intercalate (parts.map utf8) = utf8 ((String.singleton nul).intercalate parts) := by
  induction parts with
  | nil => rfl
  | cons part rest ih =>
    cases rest with
    | nil => simp
    | cons next more =>
      rw [List.map_cons, List.map_cons, List.intercalate_cons_cons, ← List.map_cons, ih,
        String.intercalate_cons_cons, utf8_append, utf8_append, utf8_nul]

theorem nul_spelled : (String.singleton nul).toList = [nul] := String.toList_singleton nul

theorem newline_spelled : "\n".toList = ['\n'] := rfl

theorem colon_spelled : ":".toList = [':'] := rfl

theorem AuthFields.transcript_eq (env : Env) (f : AuthFields) : f.transcript env =
    "\n".intercalate ["wisp-relay-auth-v1", f.port.role, f.clientId, f.challenge, f.ticket, f.peer, f.length] := by
  have head : "wisp-relay-auth-v1\n" = "wisp-relay-auth-v1" ++ "\n" := by decide
  have shape : f.transcript env = "wisp-relay-auth-v1\n" ++ f.port.role ++ "\n" ++ f.clientId ++ "\n" ++ f.challenge ++
    "\n" ++ f.ticket ++ "\n" ++ f.peer ++ "\n" ++ f.length := rfl
  rw [shape, head]
  simp only [String.intercalate_cons_cons, String.intercalate_singleton, String.append_assoc]

theorem AcceptFields.transcript_eq (f : AcceptFields) : f.transcript = utf8 ((String.singleton nul).intercalate
    ["wispgate-session-v1/accept", f.sessionId, f.challenge, f.androidId, f.wispId]) := by
  rw [← intercalate_utf8]
  rfl

theorem AadFields.aad_eq (f : AadFields) : f.aad = utf8 ((String.singleton nul).intercalate
    ["wispgate-bulk-v2", f.sessionId, f.sender, f.recipient, f.transferId, f.fileId, toString f.size]) := by
  rw [← intercalate_utf8]
  rfl

theorem PairFields.key_eq (f : PairFields) : f.key = ":".intercalate [f.sessionId, f.transferId] := by
  rw [String.intercalate_cons_cons, String.intercalate_singleton]
  rfl

/-! ## One reading or two -/

section Readings

variable {env : Env}

theorem role_injective {p q : Port} (same : p.role = q.role) : p = q := by
  cases p <;> cases q
  · rfl
  · exact absurd same (by decide)
  · exact absurd same (by decide)
  · rfl

theorem role_line (port : Port) : '\n' ∉ port.role.toList := by
  cases port <;> decide

theorem AuthFields.determined_of_clear {f : AuthFields} (admitted : f.Admitted env) (clear : f.Clear) :
    Determined (Admitted env) (transcript env) f := by
  intro g other same
  have label : '\n' ∉ "wisp-relay-auth-v1".toList := by decide
  rw [transcript_eq, transcript_eq] at same
  obtain ⟨-, rest⟩ := JoinedText.first_eq newline_spelled label label (List.cons_ne_nil _ _) (List.cons_ne_nil _ _) same
  obtain ⟨roles, fields⟩ := JoinedText.first_eq newline_spelled (role_line _) (role_line _) (List.cons_ne_nil _ _)
    (List.cons_ne_nil _ _) rest
  have clean : ∀ part ∈ [f.challenge, f.ticket, f.peer, f.length], '\n' ∉ part.toList := by
    simp only [List.forall_mem_cons]
    exact ⟨clear.challenge, clear.ticket, clear.peer, clear.length, List.forall_mem_nil _⟩
  have parts : f.clientId :: [f.challenge, f.ticket, f.peer, f.length] =
      g.clientId :: [g.challenge, g.ticket, g.peer, g.length] :=
    JoinedText.injective_of_head newline_spelled admitted.nonempty other.nonempty clear.clientId clean rfl fields.symm
  simp only [List.cons.injEq, and_true] at parts
  obtain ⟨client, challenge, ticket, peer, length⟩ := parts
  exact AuthFields.ext (role_injective roles) client.symm challenge.symm ticket.symm peer.symm length.symm

/-- A tuple with another reading: the same transcript, admitted as well. -/
theorem AuthFields.other_reading {f g : AuthFields} (determined : Determined (Admitted env) (transcript env) f)
    (admitted : f.Admitted env) (nonempty : g.clientId ≠ "") (short : g.clientId.length ≤ 128)
    (same : g.transcript env = f.transcript env) : g = f := by
  refine determined g ⟨nonempty, short, ?_⟩ same
  rw [same]
  exact admitted.ascii

theorem AuthFields.clear_of_determined {f : AuthFields} (admitted : f.Admitted env)
    (determined : Determined (Admitted env) (transcript env) f) : f.Clear where
  clientId := by
    intro mem
    obtain ⟨a, b, nonempty, split⟩ := JoinedText.exists_split_tail newline_spelled mem
    have short : a.length ≤ 128 := by
      have bound := admitted.short
      rw [split, String.length_append, String.length_append] at bound
      omega
    have same := other_reading (g := { f with clientId := a, challenge := b ++ "\n" ++ f.challenge }) determined admitted
      nonempty short (by
        rw [transcript_eq, transcript_eq, split]
        simp only [String.intercalate_cons_cons, String.append_assoc])
    exact JoinedText.ne_left newline_spelled a b ((congrArg AuthFields.clientId same).trans split)
  challenge := by
    intro mem
    obtain ⟨a, b, split⟩ := JoinedText.exists_split newline_spelled mem
    have same := other_reading (g := { f with challenge := a, ticket := b ++ "\n" ++ f.ticket }) determined admitted
      admitted.nonempty admitted.short (by
        rw [transcript_eq, transcript_eq, split]
        simp only [String.intercalate_cons_cons, String.append_assoc])
    exact JoinedText.ne_left newline_spelled a b ((congrArg AuthFields.challenge same).trans split)
  ticket := by
    intro mem
    obtain ⟨a, b, split⟩ := JoinedText.exists_split newline_spelled mem
    have same := other_reading (g := { f with ticket := a, peer := b ++ "\n" ++ f.peer }) determined admitted
      admitted.nonempty admitted.short (by
        rw [transcript_eq, transcript_eq, split]
        simp only [String.intercalate_cons_cons, String.append_assoc])
    exact JoinedText.ne_left newline_spelled a b ((congrArg AuthFields.ticket same).trans split)
  peer := by
    intro mem
    obtain ⟨a, b, split⟩ := JoinedText.exists_split newline_spelled mem
    have same := other_reading (g := { f with peer := a, length := b ++ "\n" ++ f.length }) determined admitted
      admitted.nonempty admitted.short (by
        rw [transcript_eq, transcript_eq, split]
        simp only [String.intercalate_cons_cons, String.intercalate_singleton, String.append_assoc])
    exact JoinedText.ne_left newline_spelled a b ((congrArg AuthFields.peer same).trans split)
  length := by
    intro mem
    obtain ⟨a, b, split⟩ := JoinedText.exists_split newline_spelled mem
    have same := other_reading (g := { f with peer := f.peer ++ "\n" ++ a, length := b }) determined admitted
      admitted.nonempty admitted.short (by
        rw [transcript_eq, transcript_eq, split]
        simp only [String.intercalate_cons_cons, String.intercalate_singleton, String.append_assoc])
    exact JoinedText.ne_right newline_spelled a b ((congrArg AuthFields.length same).trans split)

/-- A challenge that is the delimiter is read as one, as neither it nor the session id can be empty. -/
theorem AcceptFields.lone_reading {f g : AcceptFields} (admitted : f.Admitted) (other : g.Admitted) (clear : f.Clear)
    (lone : f.challenge = String.singleton nul)
    (same : (String.singleton nul).intercalate [f.sessionId, f.challenge, f.androidId, f.wispId] =
      (String.singleton nul).intercalate [g.sessionId, g.challenge, g.androidId, g.wispId]) : g = f := by
  have lists := JoinedText.toList_eq nul_spelled same
  obtain ⟨a, rest, session⟩ := List.exists_cons_of_ne_nil (mt String.toList_eq_nil_iff.mp admitted.sessionId)
  obtain ⟨b, more, session'⟩ := List.exists_cons_of_ne_nil (mt String.toList_eq_nil_iff.mp other.sessionId)
  have challenge : f.challenge.toList = [nul] := by rw [lone, nul_spelled]
  have nonempty : g.challenge.toList ≠ [] := mt String.toList_eq_nil_iff.mp other.challenge
  have head := clear.sessionId
  rw [session, List.tail_cons] at head
  simp only [List.map_cons, List.map_nil, session, session', challenge, List.intercalate_cons_cons,
    List.intercalate_singleton, List.append_assoc, List.cons_append, List.nil_append,
    List.cons.injEq] at lists
  obtain ⟨firsts, tails⟩ := lists
  have once : (f.androidId.toList ++ nul :: f.wispId.toList).count nul = 1 := by
    rw [List.count_append, List.count_cons_self, List.count_eq_zero.mpr clear.androidId,
      List.count_eq_zero.mpr clear.wispId]
  obtain ⟨sessions, challenges, ids⟩ := injective_of_lone head once nonempty
    (List.mem_append_right _ List.mem_cons_self) tails
  have counts := congrArg (List.count nul) ids
  rw [once, List.count_append, List.count_cons_self] at counts
  have android : nul ∉ g.androidId.toList := List.count_eq_zero.mp (by omega)
  obtain ⟨androids, wisps⟩ := append_cons_injective android clear.androidId ids
  refine AcceptFields.ext (String.toList_inj.mp ?_) (String.toList_inj.mp ?_) (String.toList_inj.mp androids)
    (String.toList_inj.mp wisps)
  · rw [session, session', firsts, sessions]
  · rw [challenge, challenges]

theorem AcceptFields.determined_of_clear {f : AcceptFields} (admitted : f.Admitted) (clear : f.Clear) :
    Determined Admitted transcript f := by
  intro g other same
  have label : nul ∉ "wispgate-session-v1/accept".toList := by decide
  rw [transcript_eq, transcript_eq] at same
  obtain ⟨-, fields⟩ := JoinedText.first_eq nul_spelled label label (List.cons_ne_nil _ _) (List.cons_ne_nil _ _)
    (utf8_injective same)
  obtain challenge | lone := clear.challenge
  · have clean : ∀ part ∈ [f.challenge, f.androidId, f.wispId], nul ∉ part.toList := by
      simp only [List.forall_mem_cons]
      exact ⟨challenge, clear.androidId, clear.wispId, List.forall_mem_nil _⟩
    have parts : f.sessionId :: [f.challenge, f.androidId, f.wispId] = g.sessionId :: [g.challenge, g.androidId, g.wispId] :=
      JoinedText.injective_of_head nul_spelled admitted.sessionId other.sessionId clear.sessionId clean rfl fields.symm
    simp only [List.cons.injEq, and_true] at parts
    obtain ⟨session, challenges, android, wisp⟩ := parts
    exact AcceptFields.ext session.symm challenges.symm android.symm wisp.symm
  · exact lone_reading admitted other clear lone fields.symm

theorem append_mark_ne_empty {mark : String} (some_mark : mark ≠ "") (a b : String) : a ++ mark ++ b ≠ "" := by
  intro empty
  exact some_mark (String.append_eq_empty_iff.mp (String.append_eq_empty_iff.mp empty).1).2

theorem nul_ne_empty : String.singleton nul ≠ "" := by
  decide

theorem AcceptFields.clear_of_determined {f : AcceptFields} (admitted : f.Admitted)
    (determined : Determined Admitted transcript f) : f.Clear where
  sessionId := by
    intro mem
    obtain ⟨a, b, nonempty, split⟩ := JoinedText.exists_split_tail nul_spelled mem
    have same := determined { f with sessionId := a, challenge := b ++ String.singleton nul ++ f.challenge }
      ⟨nonempty, append_mark_ne_empty nul_ne_empty _ _⟩ (by
        rw [transcript_eq, transcript_eq, split]
        simp only [String.intercalate_cons_cons, String.append_assoc])
    exact JoinedText.ne_left nul_spelled a b ((congrArg AcceptFields.sessionId same).trans split)
  challenge := by
    by_contra unclear
    rw [not_or, not_not] at unclear
    obtain ⟨mem, long⟩ := unclear
    obtain ⟨a, b, split⟩ := JoinedText.exists_split nul_spelled mem
    by_cases first : a = ""
    · -- the delimiter ends the session id instead, and the rest is the challenge
      rw [first, String.empty_append] at split
      have nonempty : b ≠ "" := by
        rintro rfl
        rw [String.append_empty] at split
        exact long split
      have same := determined { f with sessionId := f.sessionId ++ String.singleton nul, challenge := b }
        ⟨fun empty => nul_ne_empty (String.append_eq_empty_iff.mp empty).2, nonempty⟩ (by
          rw [transcript_eq, transcript_eq, split]
          simp only [String.intercalate_cons_cons, String.append_assoc])
      have fits := (congrArg AcceptFields.challenge same).trans split
      exact JoinedText.ne_right nul_spelled "" b (by rw [String.empty_append]; exact fits)
    · have same := determined { f with challenge := a, androidId := b ++ String.singleton nul ++ f.androidId }
        ⟨admitted.sessionId, first⟩ (by
          rw [transcript_eq, transcript_eq, split]
          simp only [String.intercalate_cons_cons, String.append_assoc])
      exact JoinedText.ne_left nul_spelled a b ((congrArg AcceptFields.challenge same).trans split)
  androidId := by
    intro mem
    obtain ⟨a, b, split⟩ := JoinedText.exists_split nul_spelled mem
    have same := determined { f with androidId := a, wispId := b ++ String.singleton nul ++ f.wispId }
      ⟨admitted.sessionId, admitted.challenge⟩ (by
        rw [transcript_eq, transcript_eq, split]
        simp only [String.intercalate_cons_cons, String.intercalate_singleton, String.append_assoc])
    exact JoinedText.ne_left nul_spelled a b ((congrArg AcceptFields.androidId same).trans split)
  wispId := by
    intro mem
    obtain ⟨a, b, split⟩ := JoinedText.exists_split nul_spelled mem
    have same := determined { f with androidId := f.androidId ++ String.singleton nul ++ a, wispId := b }
      ⟨admitted.sessionId, admitted.challenge⟩ (by
        rw [transcript_eq, transcript_eq, split]
        simp only [String.intercalate_cons_cons, String.intercalate_singleton, String.append_assoc])
    exact JoinedText.ne_right nul_spelled a b ((congrArg AcceptFields.wispId same).trans split)

theorem AadFields.fileId_line {f : AadFields} (admitted : f.Admitted) : nul ∉ f.fileId.toList := by
  intro mem
  have char := List.all_eq_true.mp admitted.fileId.1 nul mem
  exact absurd char (by decide)

theorem size_line (size : ℕ) : nul ∉ (toString size).toList := by
  intro mem
  rw [show (toString size).toList = Nat.toDigits 10 size by simp [toString]] at mem
  have digit := Nat.isDigit_of_mem_toDigits (by omega) (by omega) mem
  exact absurd digit (by decide)

theorem toString_nat_injective {m n : ℕ} (same : toString m = toString n) : m = n := by
  have digits : Nat.toDigits 10 m = Nat.toDigits 10 n := by simpa using congrArg String.toList same
  rw [← Nat.ofDigitChars_ten_toDigits (n := m), digits, Nat.ofDigitChars_ten_toDigits]

theorem AadFields.determined_of_clear {f : AadFields} (admitted : f.Admitted) (clear : f.Clear) :
    Determined Admitted aad f := by
  intro g other same
  have label : nul ∉ "wispgate-bulk-v2".toList := by decide
  rw [aad_eq, aad_eq] at same
  obtain ⟨-, rest⟩ := JoinedText.first_eq nul_spelled label label (List.cons_ne_nil _ _) (List.cons_ne_nil _ _)
    (utf8_injective same)
  have sized : (String.singleton nul).intercalate
        ([g.sessionId, g.sender, g.recipient, g.transferId, g.fileId] ++ [toString g.size]) =
      (String.singleton nul).intercalate
        ([f.sessionId, f.sender, f.recipient, f.transferId, f.fileId] ++ [toString f.size]) := rest
  obtain ⟨files, sizes⟩ := JoinedText.last_eq nul_spelled (size_line g.size) (size_line f.size) (List.cons_ne_nil _ _)
    (List.cons_ne_nil _ _) sized
  have named : (String.singleton nul).intercalate ([g.sessionId, g.sender, g.recipient, g.transferId] ++ [g.fileId]) =
      (String.singleton nul).intercalate ([f.sessionId, f.sender, f.recipient, f.transferId] ++ [f.fileId]) := files
  obtain ⟨fields, ids⟩ := JoinedText.last_eq nul_spelled (fileId_line other) (fileId_line admitted) (List.cons_ne_nil _ _)
    (List.cons_ne_nil _ _) named
  have clean : ∀ part ∈ [f.sender, f.recipient], nul ∉ part.toList := by
    simp only [List.forall_mem_cons]
    exact ⟨clear.sender, clear.recipient, List.forall_mem_nil _⟩
  have parts : f.sessionId :: [f.sender, f.recipient] ++ [f.transferId] =
      g.sessionId :: [g.sender, g.recipient] ++ [g.transferId] :=
    JoinedText.injective_of_ends nul_spelled admitted.sessionId other.sessionId admitted.transferId other.transferId
      clear.sessionId clean clear.transferId rfl fields.symm
  simp only [List.cons_append, List.nil_append, List.cons.injEq, and_true] at parts
  obtain ⟨session, sender, recipient, transfer⟩ := parts
  exact AadFields.ext session.symm sender.symm recipient.symm transfer.symm ids (toString_nat_injective sizes)

theorem AadFields.clear_of_determined {f : AadFields} (admitted : f.Admitted) (determined : Determined Admitted aad f) :
    f.Clear where
  sessionId := by
    intro mem
    obtain ⟨a, b, nonempty, split⟩ := JoinedText.exists_split_tail nul_spelled mem
    have same := determined { f with sessionId := a, sender := b ++ String.singleton nul ++ f.sender }
      ⟨nonempty, admitted.transferId, admitted.fileId⟩ (by
        rw [aad_eq, aad_eq, split]
        simp only [String.intercalate_cons_cons, String.append_assoc])
    exact JoinedText.ne_left nul_spelled a b ((congrArg AadFields.sessionId same).trans split)
  sender := by
    intro mem
    obtain ⟨a, b, split⟩ := JoinedText.exists_split nul_spelled mem
    have same := determined { f with sender := a, recipient := b ++ String.singleton nul ++ f.recipient }
      ⟨admitted.sessionId, admitted.transferId, admitted.fileId⟩ (by
        rw [aad_eq, aad_eq, split]
        simp only [String.intercalate_cons_cons, String.append_assoc])
    exact JoinedText.ne_left nul_spelled a b ((congrArg AadFields.sender same).trans split)
  recipient := by
    intro mem
    obtain ⟨a, b, split⟩ := JoinedText.exists_split nul_spelled mem
    have same := determined { f with sender := f.sender ++ String.singleton nul ++ a, recipient := b }
      ⟨admitted.sessionId, admitted.transferId, admitted.fileId⟩ (by
        rw [aad_eq, aad_eq, split]
        simp only [String.intercalate_cons_cons, String.append_assoc])
    exact JoinedText.ne_right nul_spelled a b ((congrArg AadFields.recipient same).trans split)
  transferId := by
    intro mem
    obtain ⟨a, b, nonempty, split⟩ := JoinedText.exists_split_dropLast nul_spelled mem
    have same := determined { f with recipient := f.recipient ++ String.singleton nul ++ a, transferId := b }
      ⟨admitted.sessionId, nonempty, admitted.fileId⟩ (by
        rw [aad_eq, aad_eq, split]
        simp only [String.intercalate_cons_cons, String.append_assoc])
    exact JoinedText.ne_right nul_spelled a b ((congrArg AadFields.transferId same).trans split)

theorem PairFields.determined_of_clear {f : PairFields} (admitted : f.Admitted) (clear : f.Clear) :
    Determined Admitted key f := by
  intro g other same
  rw [key_eq, key_eq] at same
  have parts : f.sessionId :: [] ++ [f.transferId] = g.sessionId :: [] ++ [g.transferId] :=
    JoinedText.injective_of_ends colon_spelled admitted.sessionId other.sessionId admitted.transferId other.transferId
      clear.sessionId (List.forall_mem_nil _) clear.transferId rfl same.symm
  simp only [List.cons_append, List.nil_append, List.cons.injEq, and_true] at parts
  exact PairFields.ext parts.1.symm parts.2.symm

theorem PairFields.clear_of_determined {f : PairFields} (determined : Determined Admitted key f) : f.Clear where
  sessionId := by
    intro mem
    obtain ⟨a, b, nonempty, split⟩ := JoinedText.exists_split_tail colon_spelled mem
    have transfer : b ++ ":" ++ f.transferId ≠ "" := append_mark_ne_empty (by decide) _ _
    have same := determined ⟨a, b ++ ":" ++ f.transferId⟩ ⟨nonempty, transfer⟩ (by
      simp only [key, split, String.append_assoc])
    exact JoinedText.ne_left colon_spelled a b ((congrArg PairFields.sessionId same).trans split)
  transferId := by
    intro mem
    obtain ⟨a, b, nonempty, split⟩ := JoinedText.exists_split_dropLast colon_spelled mem
    have session : f.sessionId ++ ":" ++ a ≠ "" := append_mark_ne_empty (by decide) _ _
    have same := determined ⟨f.sessionId ++ ":" ++ a, b⟩ ⟨session, nonempty⟩ (by
      simp only [key, split, String.append_assoc])
    exact JoinedText.ne_right colon_spelled a b ((congrArg PairFields.transferId same).trans split)

/-- Each of the four encodings determines an admitted tuple exactly when no delimiter could split one of
its components. -/
theorem determined_iff (env : Env) :
    (∀ f : AuthFields, f.Admitted env → (Determined (AuthFields.Admitted env) (AuthFields.transcript env) f ↔ f.Clear)) ∧
      (∀ f : AcceptFields, f.Admitted → (Determined AcceptFields.Admitted AcceptFields.transcript f ↔ f.Clear)) ∧
      (∀ f : AadFields, f.Admitted → (Determined AadFields.Admitted AadFields.aad f ↔ f.Clear)) ∧
      ∀ f : PairFields, f.Admitted → (Determined PairFields.Admitted PairFields.key f ↔ f.Clear) := by
  refine ⟨fun f admitted => ⟨?_, ?_⟩, fun f admitted => ⟨?_, ?_⟩, fun f admitted => ⟨?_, ?_⟩, fun f admitted => ⟨?_, ?_⟩⟩
  · exact AuthFields.clear_of_determined admitted
  · exact AuthFields.determined_of_clear admitted
  · exact AcceptFields.clear_of_determined admitted
  · exact AcceptFields.determined_of_clear admitted
  · exact AadFields.clear_of_determined admitted
  · exact AadFields.determined_of_clear admitted
  · exact PairFields.clear_of_determined
  · exact PairFields.determined_of_clear admitted

end Readings

/-- Ids of ordinary form determine the key of their transfer. -/
theorem ordinary_determined :
    Determined PairFields.Admitted PairFields.key ⟨"3f2b-session", "9d41-transfer"⟩ :=
  ((determined_iff sampleEnv).2.2.2 ⟨"3f2b-session", "9d41-transfer"⟩ ⟨by decide, by decide⟩).mpr
    ⟨by decide, by decide⟩

/-- A line break moves from the peer to the ticket, a NUL from the Wisp's id to Android's and from the
recipient to the sender, a colon from the transfer to the session. -/
theorem readings_differ :
    ¬Determined (AuthFields.Admitted sampleEnv) (AuthFields.transcript sampleEnv)
        ⟨.relay, "alice", "challenge", "t", "p\nq", ""⟩ ∧
      ¬Determined AcceptFields.Admitted AcceptFields.transcript ⟨"s", "c", "android", "wi\x00sp"⟩ ∧
      ¬Determined AadFields.Admitted AadFields.aad ⟨"s", "wisp", "an\x00droid", "t", "f", 5⟩ ∧
      ¬Determined PairFields.Admitted PairFields.key ⟨"s", "t:u"⟩ := by
  refine ⟨fun determined => ?_, fun determined => ?_, fun determined => ?_, fun determined => ?_⟩
  · have same := determined ⟨.relay, "alice", "challenge", "t\np", "q", ""⟩
      ⟨by decide, by decide, by decide⟩ (by decide)
    exact absurd (congrArg AuthFields.peer same) (by decide)
  · have same := determined ⟨"s", "c", "android\x00wi", "sp"⟩ ⟨by decide, by decide⟩ (by decide)
    exact absurd (congrArg AcceptFields.wispId same) (by decide)
  · have same := determined ⟨"s", "wisp\x00an", "droid", "t", "f", 5⟩
      ⟨by decide, by decide, by decide, by decide, by decide⟩ (by decide)
    exact absurd (congrArg AadFields.recipient same) (by decide)
  · have same := determined ⟨"s:t", "u"⟩ ⟨by decide, by decide⟩ (by decide)
    exact absurd (congrArg PairFields.transferId same) (by decide)

end WispGate.Soundness.Transcripts
