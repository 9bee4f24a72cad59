import WispGate.Data.Markup
import WispGate.Model.Relay.Management

/-! # The management page

A page is put together from the relay's own markup, from data, and from buttons. Data is escaped, so
a reader finds in it the characters it had and no tag. A button carries its action as JSON, in a string
literal, in an attribute: unquoted in the opposite order it is the action that was meant.
-/

namespace WispGate.Soundness.ManagementPage

open Data Model Model.Relay
open Page (esc escapeChar idLe)

/-! ## Pieces -/

inductive Piece where
  | markup (text : String)
  | data (text : String)
  | button (action : List (String × Json)) (label : String)

def callee : String := "_WispGateNative.submit("

/-- What a button runs when it is pressed. -/
def call (action : List (String × Json)) : List Char :=
  callee.toList ++ (Json.str (Json.obj action).dumps).dumps.toList ++ [')']

namespace Piece

def text : Piece → String
  | markup text => text
  | data text => esc text
  | button action label => Page.button action label

/-- What a reader finds. -/
def events : Piece → List Markup.Event
  | markup text => (Markup.read text.toList).getD []
  | data text => text.toList.map .shown
  | button action label =>
    .tag "button onclick=".toList [call action] :: label.toList.map .shown ++ [.tag "/button".toList []]

/-- The characters of a page, where those of data are written as references. -/
def symbols : Piece → List Markup.Symbol
  | markup text => text.toList.map .plain
  | data text => text.toList.map Markup.symbolOf
  | button action label =>
    "<button onclick=\"".toList.map .plain ++ (call action).map Markup.symbolOf ++ "\">".toList.map .plain ++
      label.toList.map Markup.symbolOf ++ "</button>".toList.map .plain

def action? : Piece → Option (List (String × Json))
  | button action _ => some action
  | _ => none

end Piece

open Piece

section Pages

variable (env : Env) (clientId : String) (record : ClientRecord) (endpoints : List (String × ClientRecord))
  (wisps : List Manifest) (admin : Bool)

/-- The actions an administrator is offered for an endpoint. -/
def endpointActions (entry : String × ClientRecord) : List (String × String) :=
  if entry.1 = clientId then []
  else [("approved", "approve", "Approve"), ("rejected", "reject", "Reject"), ("revoked", "revoke", "Revoke")].filterMap
    fun (status, action, label) => if entry.2.status ≠ some status then some (action, label) else none

def statusAction (target action : String) : List (String × Json) := [("action", .str action), ("client_id", .str target)]

def endpointPieces (entry : String × ClientRecord) : List Piece :=
  [markup "<li><code>", data entry.1, markup "</code>: ", data (entry.2.status.getD "unknown")] ++
    (endpointActions clientId entry).map (fun offer => .button (statusAction entry.1 offer.1) offer.2) ++ [markup "</li>"]

def removal (manifest : Manifest) : List (String × Json) :=
  [("action", .str "remove_wisp"), ("id", .str (manifest.id.display env.printable))]

def wispPieces (manifest : Manifest) : List Piece :=
  [markup "<li><strong>", data (manifest.name.display env.printable), markup "</strong> <code>",
    data (manifest.id.display env.printable), markup "</code> ", button (removal env manifest) "Remove", markup "</li>"]

def sortedEndpoints : List (String × ClientRecord) := endpoints.mergeSort fun a b => decide (a.1 ≤ b.1)

def pagePieces : List Piece :=
  [markup "<main><h1>Management</h1><p>Status: <strong>", data (record.status.getD "unknown"), markup "</strong>"] ++
    if admin then
      [markup " · Administrator</p><h2>Server administration</h2><p>Server version: <code>", data env.serverVersion,
        markup "</code></p><p>", button [("action", .str "current_server_version")] "Current server version",
        markup " ", button [("action", .str "update_server")] "Update server", markup " ",
        button [("action", .str "download_logs")] "Download server logs", markup "</p>",
        markup "<h2>Endpoints</h2><ul>"] ++
        (sortedEndpoints endpoints).flatMap (endpointPieces clientId) ++
        [markup "</ul><h2>Active Wisps</h2><ul>"] ++ (wisps.mergeSort idLe).flatMap (wispPieces env) ++
        [markup "</ul></main>"]
    else if record.status = some "pending" ∧ ¬record.isAdmin then
      [markup "</p>", button [("action", .str "claim_admin")] "Claim Administrator", markup "</main>"]
    else [markup "</p><p>Administrator access is not available for this endpoint.</p></main>"]

/-- The actions a page is meant to offer, in its order. -/
def intended : List (List (String × Json)) :=
  if admin then
    [[("action", .str "current_server_version")], [("action", .str "update_server")],
      [("action", .str "download_logs")]] ++
      (sortedEndpoints endpoints).flatMap (fun entry =>
        (endpointActions clientId entry).map fun offer => statusAction entry.1 offer.1) ++
      (wisps.mergeSort idLe).map (removal env)
  else if record.status = some "pending" ∧ ¬record.isAdmin then [[("action", .str "claim_admin")]]
  else []

end Pages

/-! ## Submissions -/

/-- What an attribute submits: its call has one string literal, and the value of that is JSON. A literal
that JSON writes in ASCII has the same value in JavaScript. -/
def submitted (value : List Char) : Option Json := do
  let rest ← callee.toList.isPrefixOf? value
  if rest.getLast? = some ')' then
    match Json.loads (String.ofList rest.dropLast) with
    | some (.str action) => Json.loads action
    | _ => none
  else none

/-- What a tag with an attribute does when it is pressed. No tag but a button has one. -/
def press : Markup.Event → Option (Option Json)
  | .shown _ => none
  | .tag _ [] => none
  | .tag head (value :: more) => some (if head = "button onclick=".toList ∧ more = [] then submitted value else none)

/-- What the buttons of a page submit, read off its text. -/
def submissions (html : String) : Option (List Json) := do
  let events ← Markup.read html.toList
  (events.filterMap press).mapM id

theorem isPrefixOf?_append (a b : List Char) : a.isPrefixOf? (a ++ b) = some b := by
  induction a with
  | nil => cases b <;> rfl
  | cons c rest ih => rw [List.cons_append, List.isPrefixOf?, if_pos (beq_self_eq_true c), ih]

/-- A call submits the action it was made from. -/
theorem submitted_call (action : List (String × Json)) : submitted (call action) = some (.obj action) := by
  unfold submitted call
  generalize callee.toList = start
  rw [List.append_assoc, isPrefixOf?_append]
  simp only [Option.bind_eq_bind, Option.bind_some, List.getLast?_concat, if_true, List.dropLast_concat,
    String.ofList_toList, Json.loads_dumps]

/-! ## Escapes -/

theorem symbolsFrom_escapeChar (c : Char) : Markup.symbolsFrom none (escapeChar c) = some [Markup.symbolOf c] := by
  unfold escapeChar
  split_ifs with amp lt gt quot apos
  · rw [amp]; decide
  · rw [lt]; decide
  · rw [gt]; decide
  · rw [quot]; decide
  · rw [apos]; decide
  · have other : Markup.special c = false := by simp [Markup.special, amp, lt, gt, quot, apos]
    rw [Markup.symbolsFrom, if_neg amp, Markup.symbolOf, other]
    rfl

/-- Escaped data is written so that it reads as data. -/
theorem symbolsFrom_esc (value : String) :
    Markup.symbolsFrom none (esc value).toList = some (value.toList.map Markup.symbolOf) := by
  rw [esc, String.toList_ofList, Markup.symbolsFrom_flatMap fun c _ => symbolsFrom_escapeChar c, ← List.map_eq_flatMap]

/-! ## Pieces are read as they were meant -/

structure Piece.Sound (piece : Piece) : Prop where
  symbols : Markup.symbolsFrom none piece.text.toList = some piece.symbols
  events : Markup.eventsFrom .text piece.symbols = some piece.events
  presses : piece.events.filterMap press = piece.action?.toList.map fun action => some (.obj action)

theorem filterMap_shown (value : List Char) : (value.map Markup.Event.shown).filterMap press = [] := by
  rw [List.filterMap_map, List.filterMap_eq_nil_iff]
  exact fun _ _ => rfl

theorem data_sound (value : String) : (data value).Sound where
  symbols := symbolsFrom_esc value
  events := Markup.eventsFrom_data value.toList
  presses := filterMap_shown value.toList

/-- Markup without references or attributes, and with no tag left open. -/
def Bare (value : String) : Prop :=
  '&' ∉ value.toList ∧ (Markup.eventsFrom .text (value.toList.map .plain)).map (·.filterMap press) = some []

instance (value : String) : Decidable (Bare value) := inferInstanceAs (Decidable (_ ∧ _))

theorem markup_sound {value : String} (bare : Bare value) : (markup value).Sound := by
  obtain ⟨noReference, closed⟩ := bare
  obtain ⟨events, read, quiet⟩ := Option.map_eq_some_iff.mp closed
  have symbols := Markup.symbolsFrom_plain noReference
  have same : (markup value).events = events := by
    simp only [Piece.events, Markup.read, symbols, Option.bind_some, read, Option.getD_some]
  exact ⟨symbols, read.trans (congrArg some same.symm), (congrArg (List.filterMap press) same).trans quiet⟩

/-! ### Buttons -/

theorem button_opens (rest : List Markup.Symbol) :
    Markup.eventsFrom .text ("<button onclick=\"".toList.map .plain ++ rest) =
      Markup.eventsFrom (.quoted "button onclick=".toList [] []) rest := rfl

theorem button_closes (head value : List Char) (rest : List Markup.Symbol) :
    Markup.eventsFrom (.quoted head [] value) ("\">".toList.map .plain ++ rest) =
      (Markup.eventsFrom .text rest).map (.tag head [value] :: ·) := rfl

theorem button_ends : Markup.eventsFrom .text ("</button>".toList.map .plain) = some [.tag "/button".toList []] := by
  decide

theorem callee_plain : callee.toList.map Markup.symbolOf = callee.toList.map .plain := by
  decide

/-- The text before the argument of a call. -/
theorem button_head : "<button onclick=\"_WispGateNative.submit(".toList = "<button onclick=\"".toList ++ callee.toList := by
  decide

theorem symbols_button (action : List (String × Json)) (label : String) : (button action label).symbols =
    "<button onclick=\"".toList.map .plain ++ (call action).map Markup.symbolOf ++ "\">".toList.map .plain ++
      label.toList.map Markup.symbolOf ++ "</button>".toList.map .plain := rfl

theorem button_text (action : List (String × Json)) (label : String) : (Page.button action label).toList =
    "<button onclick=\"_WispGateNative.submit(".toList ++ (esc (Json.str (Json.obj action).dumps).dumps).toList ++
      ")\">".toList ++ (esc label).toList ++ "</button>".toList := by
  have shape : Page.button action label = "<button onclick=\"_WispGateNative.submit(" ++
    esc (Json.str (Json.obj action).dumps).dumps ++ ")\">" ++ esc label ++ "</button>" := rfl
  rw [shape, String.toList_append, String.toList_append, String.toList_append, String.toList_append]

theorem button_symbols (action : List (String × Json)) (label : String) :
    Markup.symbolsFrom none (Page.button action label).toList = some (button action label).symbols := by
  have head : Markup.symbolsFrom none "<button onclick=\"_WispGateNative.submit(".toList =
      some ("<button onclick=\"".toList.map .plain ++ callee.toList.map Markup.symbolOf) := by
    rw [callee_plain, ← List.map_append, ← button_head]
    exact Markup.symbolsFrom_plain (by decide)
  have middle : Markup.symbolsFrom none ")\">".toList =
      some ([')'].map Markup.symbolOf ++ "\">".toList.map .plain) := by decide
  have tail : Markup.symbolsFrom none "</button>".toList = some ("</button>".toList.map .plain) := by decide
  have argument := symbolsFrom_esc (Json.str (Json.obj action).dumps).dumps
  have joined := Markup.symbolsFrom_join (Markup.symbolsFrom_join (Markup.symbolsFrom_join (Markup.symbolsFrom_join
    head argument) middle) (symbolsFrom_esc label)) tail
  rw [button_text, joined, symbols_button]
  simp only [call, List.map_append, List.append_assoc]

theorem button_events (action : List (String × Json)) (label : String) :
    Markup.eventsFrom .text (button action label).symbols = some (button action label).events := by
  have shown := Markup.eventsFrom_join (Markup.eventsFrom_data label.toList) button_ends
  rw [symbols_button]
  simp only [List.append_assoc]
  calc
    _ = _ := button_opens _
    _ = _ := Markup.eventsFrom_quoted _ _ _ _ _
    _ = _ := button_closes _ _ _
    _ = _ := congrArg _ shown
    _ = _ := rfl

theorem button_sound (action : List (String × Json)) (label : String) : (button action label).Sound where
  symbols := button_symbols action label
  events := button_events action label
  presses := by
    have ending : press (.tag "/button".toList []) = none := rfl
    have pressed : press (.tag "button onclick=".toList [call action]) = some (some (.obj action)) := by
      rw [press, if_pos ⟨rfl, rfl⟩, submitted_call]
    simp only [Piece.events, List.cons_append, List.filterMap_cons, pressed, List.filterMap_append,
      filterMap_shown, ending, List.filterMap_nil, List.append_nil]
    rfl

/-! ## Pages -/

section Pages

variable (env : Env) (clientId : String) (record : ClientRecord) (endpoints : List (String × ClientRecord))
  (wisps : List Manifest) (admin : Bool)

theorem endpointPieces_sound (entry : String × ClientRecord) : ∀ piece ∈ endpointPieces clientId entry, piece.Sound := by
  unfold endpointPieces
  simp only [List.forall_mem_append, List.forall_mem_cons, List.forall_mem_map]
  refine ⟨⟨⟨markup_sound (by decide), data_sound _, markup_sound (by decide), data_sound _, ?_⟩, ?_⟩,
    markup_sound (by decide), ?_⟩
  · exact List.forall_mem_nil _
  · exact fun offer _ => button_sound _ offer.2
  · exact List.forall_mem_nil _

theorem wispPieces_sound (manifest : Manifest) : ∀ piece ∈ wispPieces env manifest, piece.Sound := by
  unfold wispPieces
  simp only [List.forall_mem_cons]
  exact ⟨markup_sound (by decide), data_sound _, markup_sound (by decide), data_sound _,
    markup_sound (by decide), button_sound _ _, markup_sound (by decide), List.forall_mem_nil _⟩

theorem pagePieces_sound :
    ∀ piece ∈ pagePieces env clientId record endpoints wisps admin, piece.Sound := by
  unfold pagePieces
  rw [List.forall_mem_append]
  constructor
  · simp only [List.forall_mem_cons]
    exact ⟨markup_sound (by decide), data_sound _, markup_sound (by decide), List.forall_mem_nil _⟩
  · split_ifs with isAdmin offered
    · simp only [List.forall_mem_append, List.forall_mem_cons, List.forall_mem_flatMap]
      refine ⟨⟨⟨⟨⟨markup_sound (by decide), data_sound _, markup_sound (by decide), button_sound _ _,
        markup_sound (by decide), button_sound _ _, markup_sound (by decide), button_sound _ _,
        markup_sound (by decide), markup_sound (by decide), List.forall_mem_nil _⟩, ?_⟩,
        markup_sound (by decide), List.forall_mem_nil _⟩, ?_⟩, markup_sound (by decide),
        List.forall_mem_nil _⟩
      · exact fun entry _ => endpointPieces_sound clientId entry
      · exact fun manifest _ => wispPieces_sound env manifest
    · simp only [List.forall_mem_cons]
      exact ⟨markup_sound (by decide), button_sound _ _, markup_sound (by decide), List.forall_mem_nil _⟩
    · simp only [List.forall_mem_cons]
      exact ⟨markup_sound (by decide), List.forall_mem_nil _⟩

/-! ### The text of a page -/

def textOf (pieces : List Piece) : String := String.join (pieces.map Piece.text)

@[simp] theorem textOf_nil : textOf [] = "" := rfl

theorem textOf_cons (piece : Piece) (rest : List Piece) : textOf (piece :: rest) = piece.text ++ textOf rest :=
  String.join_cons

theorem textOf_append (first second : List Piece) : textOf (first ++ second) = textOf first ++ textOf second := by
  rw [textOf, List.map_append, String.join_append]
  rfl

theorem textOf_flatMap {ι : Type} (items : List ι) (pieces : ι → List Piece) (item : ι → String)
    (same : ∀ i, item i = textOf (pieces i)) : textOf (items.flatMap pieces) = String.join (items.map item) := by
  induction items with
  | nil => rfl
  | cons i rest ih => rw [List.flatMap_cons, textOf_append, ih, List.map_cons, String.join_cons, same]

theorem wispItem_text (manifest : Manifest) : Page.wispItem env manifest = textOf (wispPieces env manifest) := by
  unfold Page.wispItem wispPieces
  simp only [textOf_cons, textOf_nil, Piece.text, removal, String.append_assoc, String.append_empty]

theorem endpointItem_text (entry : String × ClientRecord) :
    Page.endpointItem clientId entry.1 entry.2 = textOf (endpointPieces clientId entry) := by
  obtain ⟨target, record⟩ := entry
  have buttons : (if target = clientId then ""
      else
        (if record.status ≠ some "approved" then Page.button (statusAction target "approve") "Approve" else "") ++
        (if record.status ≠ some "rejected" then Page.button (statusAction target "reject") "Reject" else "") ++
        (if record.status ≠ some "revoked" then Page.button (statusAction target "revoke") "Revoke" else "")) =
      textOf ((endpointActions clientId (target, record)).map fun offer => .button (statusAction target offer.1) offer.2) := by
    unfold endpointActions
    by_cases own : target = clientId
    · rw [if_pos own, if_pos own]
      rfl
    · rw [if_neg own, if_neg own]
      by_cases approved : record.status = some "approved" <;> by_cases rejected : record.status = some "rejected" <;>
        by_cases revoked : record.status = some "revoked" <;>
        simp [textOf_cons, Piece.text, approved, rejected, revoked, String.append_assoc]
  rw [endpointPieces, textOf_append, textOf_append, ← buttons]
  unfold Page.endpointItem
  simp only [textOf_cons, textOf_nil, Piece.text, statusAction, String.append_assoc, String.append_empty]

theorem managementHtml_text {html : String}
    (produced : managementHtml env clientId record endpoints wisps admin = .ok html) :
    html = textOf (pagePieces env clientId record endpoints wisps admin) := by
  unfold managementHtml at produced
  unfold pagePieces
  split_ifs at produced ⊢ with isAdmin unsorted offered
  · obtain rfl := Except.ok.inj produced
    rw [textOf_append, textOf_append, textOf_append, textOf_append, textOf_append,
      textOf_flatMap _ _ _ (endpointItem_text clientId), textOf_flatMap _ _ _ (wispItem_text env)]
    simp only [textOf_cons, textOf_nil, Piece.text, String.append_assoc, String.append_empty, sortedEndpoints]
  · obtain rfl := Except.ok.inj produced
    rw [textOf_append]
    simp only [textOf_cons, textOf_nil, Piece.text, String.append_assoc, String.append_empty]
  · obtain rfl := Except.ok.inj produced
    rw [textOf_append]
    simp only [textOf_cons, textOf_nil, Piece.text, String.append_assoc, String.append_empty]

theorem pagePieces_actions :
    (pagePieces env clientId record endpoints wisps admin).filterMap Piece.action? =
      intended env clientId record endpoints wisps admin := by
  have endpointActions_eq : ∀ entry, (endpointPieces clientId entry).filterMap Piece.action? =
      (endpointActions clientId entry).map fun offer => statusAction entry.1 offer.1 := by
    intro entry
    simp only [endpointPieces, List.filterMap_append, List.filterMap_map, List.filterMap_cons, List.filterMap_nil,
      Piece.action?, List.nil_append, List.append_nil]
    exact congrFun List.filterMap_eq_map _
  have wispActions_eq : ∀ manifest, (wispPieces env manifest).filterMap Piece.action? = [removal env manifest] :=
    fun _ => rfl
  unfold pagePieces intended
  split_ifs with isAdmin offered
  · simp only [List.filterMap_append, List.filterMap_flatMap, endpointActions_eq, wispActions_eq,
      List.filterMap_cons, List.filterMap_nil, Piece.action?, List.nil_append, List.append_nil, List.cons_append,
      List.map_eq_flatMap]
  · rfl
  · rfl

/-! ### The page as it is read -/

theorem mapM_some {ι α : Type*} (items : List ι) (f : ι → α) : (items.map fun i => some (f i)).mapM id = some (items.map f) := by
  rw [List.mapM_map]
  exact List.mapM_pure

/-- In the text of a page the characters of data are written as references wherever markup gives them a
meaning, so that the page reads as its pieces were meant, and its buttons submit the intended actions, each
to the endpoint or the Wisp it stands beside. -/
theorem managementHtml_reads {html : String}
    (produced : managementHtml env clientId record endpoints wisps admin = .ok html) :
    Markup.symbolsFrom none html.toList =
        some ((pagePieces env clientId record endpoints wisps admin).flatMap Piece.symbols) ∧
      Markup.read html.toList =
        some ((pagePieces env clientId record endpoints wisps admin).flatMap Piece.events) ∧
      submissions html = some ((intended env clientId record endpoints wisps admin).map .obj) := by
  have sound := pagePieces_sound env clientId record endpoints wisps admin
  have actions := pagePieces_actions env clientId record endpoints wisps admin
  have text : html.toList = (pagePieces env clientId record endpoints wisps admin).flatMap (·.text.toList) := by
    rw [managementHtml_text env clientId record endpoints wisps admin produced, textOf, String.toList_join,
      List.flatMap_map]
  generalize pagePieces env clientId record endpoints wisps admin = pieces at sound actions text ⊢
  have symbols : Markup.symbolsFrom none html.toList = some (pieces.flatMap Piece.symbols) := by
    rw [text]
    exact Markup.symbolsFrom_flatMap fun piece mem => (sound piece mem).symbols
  have read : Markup.read html.toList = some (pieces.flatMap Piece.events) := by
    rw [Markup.read, symbols, Option.bind_some]
    exact Markup.eventsFrom_flatMap fun piece mem => (sound piece mem).events
  have presses : (pieces.flatMap Piece.events).filterMap press =
      (pieces.filterMap Piece.action?).map fun action => some (.obj action) := by
    rw [List.filterMap_flatMap, List.filterMap_eq_flatMap_toList, List.map_flatMap]
    exact List.flatMap_congr fun piece mem => (sound piece mem).presses
  refine ⟨symbols, read, ?_⟩
  unfold submissions
  rw [read, Option.bind_eq_bind, Option.bind_some, presses, actions]
  exact mapM_some _ _

end Pages

/-- An endpoint whose id closes the literal, the call and the tag is approved under that id, and a Wisp is
removed under an id that would open a tag. -/
theorem hostile_page_reads :
    ∃ html, managementHtml sampleEnv "a" { status := some "approved", admin := some true }
        [("\");x(\"&<", { status := some "rejected" })] [⟨.str "<b>'", .str "&lt;", .str "", .str "a"⟩] true = .ok html ∧
      submissions html = some
        [.obj [("action", .str "current_server_version")], .obj [("action", .str "update_server")],
          .obj [("action", .str "download_logs")],
          .obj [("action", .str "approve"), ("client_id", .str "\");x(\"&<")],
          .obj [("action", .str "revoke"), ("client_id", .str "\");x(\"&<")],
          .obj [("action", .str "remove_wisp"), ("id", .str "<b>'")]] := by
  refine ⟨_, rfl, ?_⟩
  have reads := (managementHtml_reads sampleEnv "a" { status := some "approved", admin := some true }
    [("\");x(\"&<", { status := some "rejected" })] [⟨.str "<b>'", .str "&lt;", .str "", .str "a"⟩] true rfl).2.2
  refine reads.trans (congrArg some ?_)
  simp only [intended, sortedEndpoints, List.mergeSort_singleton]
  rfl

end WispGate.Soundness.ManagementPage
