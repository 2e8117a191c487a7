import Scalpel.Proofs.Undoing

/-!
What a server hears of the life of a document: that it is opened, changed, saved and closed. The
notices about a document leave a trail on the wire, and the client has the document open or not; a
trail and a client fit together as long as the client tells the server what it does. A server may ask
for edits at any moment. They are told back as changes of the documents that the client has open, and
a document that is being closed is still open to the client after the server was told of its end.
-/

set_option autoImplicit false

namespace Scalpel

/-! ### Notices -/

/-- What a client tells a server about the life of a document. A version is whatever the message has in
its place. -/
inductive Notice where
  | opened (version : Json)
  | changed (version : Json)
  | saved
  | closed

namespace Notice

def methods : List String :=
  ["textDocument/didOpen", "textDocument/didChange", "textDocument/didSave",
    "textDocument/didClose"]

def of? (method : String) (version : Json) : Option Notice :=
  if method = "textDocument/didOpen" then some (.opened version)
  else if method = "textDocument/didChange" then some (.changed version)
  else if method = "textDocument/didSave" then some .saved
  else if method = "textDocument/didClose" then some .closed
  else none

def IsChange : Notice → Prop
  | .changed _ => True
  | _ => False

instance : DecidablePred IsChange
  | .opened _ => inferInstanceAs (Decidable False)
  | .changed _ => inferInstanceAs (Decidable True)
  | .saved => inferInstanceAs (Decidable False)
  | .closed => inferInstanceAs (Decidable False)

end Notice

/-- The notice about the document of a uri that a message is. A message with a number is a question or
an answer and no notice. -/
def Json.notice? (uri : String) (message : Json) : Option Notice :=
  match message.field? "id", message.field? "method",
    Desk.subject? ((message.field? "params").getD .null) with
  | none, some (.str method), some (name, document) =>
    if name = uri then Notice.of? method ((document.field? "version").getD .null) else none
  | _, _, _ => none

theorem notice?_request (uri : String) (number : Int) (method : String) (params : Json) :
    (Connection.requestMessage number method params).notice? uri = none := rfl

theorem notice?_reply [Halves] (uri : String) (number : Json) (outcome : Outcome Json) :
    (Connection.replyMessage number outcome).notice? uri = none := by
  cases outcome <;> rfl

theorem notice?_other {method : String} (other : method ∉ Notice.methods) (uri : String)
    (params : Json) : (Connection.notificationMessage method params).notice? uri = none := by
  simp only [Notice.methods, List.mem_cons, List.not_mem_nil, or_false, not_or] at other
  obtain ⟨notOpen, notChange, notSave, notClose⟩ := other
  have none_ (version : Json) : Notice.of? method version = none := by
    simp only [Notice.of?, if_neg notOpen, if_neg notChange, if_neg notSave, if_neg notClose]
  have unnumbered : (Connection.notificationMessage method params).field? "id" = none := by
    unfold Connection.notificationMessage Connection.paramsField
    split <;> rfl
  have named : (Connection.notificationMessage method params).field? "method" =
      some (.str method) := rfl
  unfold Json.notice?
  rw [unnumbered, named]
  cases Desk.subject? (((Connection.notificationMessage method params).field? "params").getD .null) with
  | none => rfl
  | some subject => simp only [none_, ite_self]

theorem notice?_opening (document : OpenDocument) (uri : String) :
    (Client.opening document).notice? uri =
      if document.uri = uri then some (.opened (.int document.version)) else none := rfl

theorem notice?_change (changed : String) (version : Int) (changes : List ContentChange)
    (uri : String) :
    (Connection.notificationMessage "textDocument/didChange"
        (Desk.changeParams changed version changes)).notice? uri =
      if changed = uri then some (.changed (.int version)) else none := rfl

theorem notice?_save (saved : String) (text uri : String) :
    (Connection.notificationMessage "textDocument/didSave"
        (.obj [("textDocument", .obj [("uri", .str saved)]), ("text", .str text)])).notice? uri =
      if saved = uri then some .saved else none := rfl

theorem notice?_close (closed uri : String) :
    (Connection.notificationMessage "textDocument/didClose"
        (.obj [("textDocument", .obj [("uri", .str closed)])])).notice? uri =
      if closed = uri then some .closed else none := rfl

/-- The notices about the document of a uri that the server of a language received, the latest
first. -/
def World.notices {σ : Type} (world : World σ) (language uri : String) : List Notice :=
  world.sent.filterMap fun entry => if entry.1 = language then entry.2.notice? uri else none

theorem World.notices_told {σ : Type} [Peer σ] (world : World σ) (language uri : String)
    (message : Json) :
    (world.told language message).notices language uri =
      (message.notice? uri).toList ++ world.notices language uri := by
  unfold World.notices World.told
  rw [List.filterMap_cons, if_pos rfl]
  cases message.notice? uri <;> rfl

/-! ### Trails -/

/-- Where the life of a document stands: the document is not open, it is open and was told at a version
last, or its end was told after that. -/
inductive Phase where
  | shut
  | live (version : Int)
  | left (version : Int)

/-- The notices about a document, the latest first, leave it in a phase. It is opened at version 1,
changed to higher and higher versions, saved and closed, and then it may be opened again. Where `late`
holds, changes may follow the end. -/
inductive Trail (late : Prop) : List Notice → Phase → Prop
  | start : Trail late [] .shut
  | opened {trail : List Notice} : Trail late trail .shut →
    Trail late (.opened (.int 1) :: trail) (.live 1)
  | changed {trail : List Notice} {old new : Int} : Trail late trail (.live old) → old < new →
    Trail late (.changed (.int new) :: trail) (.live new)
  | saved {trail : List Notice} {version : Int} : Trail late trail (.live version) →
    Trail late (.saved :: trail) (.live version)
  | closed {trail : List Notice} {version : Int} : Trail late trail (.live version) →
    Trail late (.closed :: trail) (.left version)
  | late {trail : List Notice} {old new : Int} : late → Trail late trail (.left old) → old < new →
    Trail late (.changed (.int new) :: trail) (.left new)
  | dropped {trail : List Notice} {version : Int} : Trail late trail (.left version) →
    Trail late trail .shut

namespace Trail

variable {late wider : Prop} {trail : List Notice} {notice : Notice} {phase : Phase}

theorem mono (weaker : late → wider) (left : Trail late trail phase) : Trail wider trail phase := by
  induction left with
  | start => exact .start
  | opened _ ih => exact .opened ih
  | changed _ newer ih => exact .changed ih newer
  | saved _ ih => exact .saved ih
  | closed _ ih => exact .closed ih
  | late allowed _ newer ih => exact .late (weaker allowed) ih newer
  | dropped _ ih => exact .dropped ih

theorem before (left : Trail late (notice :: trail) phase) : ∃ earlier, Trail late trail earlier := by
  generalize same : notice :: trail = whole at left
  induction left with
  | start => cases same
  | opened before _ => cases same; exact ⟨_, before⟩
  | changed before _ _ => cases same; exact ⟨_, before⟩
  | saved before _ => cases same; exact ⟨_, before⟩
  | closed before _ => cases same; exact ⟨_, before⟩
  | late _ before _ _ => cases same; exact ⟨_, before⟩
  | dropped _ ih => exact ih same

theorem of_append {news : List Notice} (left : Trail late (news ++ trail) phase) :
    ∃ earlier, Trail late trail earlier := by
  induction news generalizing phase with
  | nil => exact ⟨phase, left⟩
  | cons notice rest ih =>
      obtain ⟨_, shorter⟩ := before left
      exact ih shorter

theorem not_live_of_closed {version : Int} : ¬Trail late (.closed :: trail) (.live version) := by
  intro left
  cases left

theorem not_changed_closed {value : Json} :
    ¬Trail False (.changed value :: .closed :: trail) phase := by
  intro left
  generalize same : Notice.changed value :: .closed :: trail = whole at left
  induction left with
  | changed before _ _ =>
      cases same
      exact not_live_of_closed before
  | late never _ _ _ => exact never
  | dropped _ ih => exact ih same
  | _ => cases same

theorem not_of_late {changes later : List Notice} (some : changes ≠ [])
    (each : ∀ change ∈ changes, change.IsChange) :
    ¬Trail False (later ++ (changes ++ .closed :: trail)) phase := by
  intro left
  obtain ⟨_, whole⟩ := of_append left
  obtain ⟨rest, last, parted⟩ : ∃ rest last, changes = rest ++ [last] :=
    ⟨_, _, (List.dropLast_append_getLast some).symm⟩
  have change : last.IsChange := by
    apply each
    rw [parted]
    exact List.mem_append_right _ List.mem_cons_self
  rw [parted, List.append_assoc] at whole
  obtain ⟨_, first⟩ := of_append whole
  cases last with
  | changed value => exact not_changed_closed first
  | _ => exact change

end Trail

/-! ### Clients and trails -/

def Peer.Accepting (σ : Type) [Peer σ] : Prop :=
  ∀ language message files (server : σ),
    (Peer.react language message files server).1.refusal = none

namespace Client

variable {σ : Type} {a b s mid after : Session σ Client} {uri : String}

/-- A client has nothing more to say of documents: it has no connection or no session. -/
def Mum (s : Session σ Client) : Prop :=
  s.connection.closed = true ∨ s.connection.transportClosed = true ∨ s.owner.attached = false

theorem attached_of_free (free : s.owner.obstacle? = none) : s.owner.attached = true := by
  by_contra detached
  unfold Client.obstacle? at free
  rw [Bool.eq_false_iff.mpr detached, Bool.and_false] at free
  split at free
  · cases free
  · cases free

/-- What is being done with a document while its notices are looked at: whether changes may follow its
end, the phase that an open document is in, and the notices that may be told meanwhile. -/
structure Mode where
  late : Prop
  stage : Int → Phase
  may : Notice → Prop
  change : ∀ value, may (.changed value)
  further : ∀ {trail : List Notice} {old new : Int}, Trail late trail (stage old) → old < new →
    Trail late (.changed (.int new) :: trail) (stage new)

/-- A document is looked after in any way, or it is being closed and its end was told. -/
def Mode.caring (late : Prop) : Mode where
  late
  stage := .live
  may _ := True
  change _ := trivial
  further := .changed

def Mode.leaving : Mode where
  late := True
  stage := .left
  may := Notice.IsChange
  change _ := trivial
  further before newer := .late trivial before newer

/-- The trail of a document fits what the client has of it: the version that was told last is not newer
than that of the client. -/
def Tied (mode : Mode) (uri : String) (trail : List Notice) (s : Session σ Client) : Prop :=
  match s.owner.documents.get? uri with
  | some document => ∃ version ≤ document.version, Trail mode.late trail (mode.stage version)
  | none => Trail mode.late trail .shut

theorem tied_iff_of_open {mode : Mode} {trail : List Notice} {document : OpenDocument}
    (found : s.owner.documents.get? uri = some document) :
    Tied mode uri trail s ↔
      ∃ version ≤ document.version, Trail mode.late trail (mode.stage version) := by
  unfold Tied
  rw [found]

theorem tied_iff_of_unopened {mode : Mode} {trail : List Notice}
    (absent : s.owner.documents.get? uri = none) :
    Tied mode uri trail s ↔ Trail mode.late trail .shut := by
  unfold Tied
  rw [absent]

/-- A document has left a trail, and as long as the client may add to it, trail and client fit. -/
structure Standing (mode : Mode) (uri : String) (trail : List Notice) (s : Session σ Client) :
    Prop where
  kept : ∃ phase, Trail mode.late trail phase
  tied : Mum s ∨ Tied mode uri trail s

theorem Standing.tied_of_loud {mode : Mode} {trail : List Notice}
    (standing : Standing mode uri trail s) (free : s.owner.obstacle? = none)
    (opened : s.connection.closed = false) (unshut : s.connection.transportClosed = false) :
    Tied mode uri trail s := by
  rcases standing.tied with (closed | shut | detached) | tied
  · cases opened.symm.trans closed
  · cases unshut.symm.trans shut
  · cases (attached_of_free free).symm.trans detached
  · exact tied

theorem Standing.widened {late wider : Prop} {trail : List Notice}
    (standing : Standing (.caring late) uri trail s) (weaker : late → wider) :
    Standing (.caring wider) uri trail s := by
  obtain ⟨⟨phase, left⟩, tied⟩ := standing
  refine ⟨⟨phase, left.mono weaker⟩, ?_⟩
  rcases tied with silent | tied
  · exact .inl silent
  refine .inr ?_
  cases found : s.owner.documents.get? uri with
  | none => exact (tied_iff_of_unopened found).mpr (((tied_iff_of_unopened found).mp tied).mono weaker)
  | some document =>
      obtain ⟨version, bounded, left⟩ := (tied_iff_of_open found).mp tied
      exact (tied_iff_of_open found).mpr ⟨version, bounded, left.mono weaker⟩

structure Leads (mode : Mode) (uri : String) (a b : Session σ Client) : Prop where
  language : b.connection.language = a.connection.language
  news : ∃ news : List Notice, (∀ notice ∈ news, mode.may notice) ∧
    b.world.notices a.connection.language uri =
      news ++ a.world.notices a.connection.language uri ∧
    ∀ trail, Standing mode uri trail a → Standing mode uri (news ++ trail) b

def lifeline (mode : Mode) (uri : String) : Frame (Session σ Client) where
  holds := Leads mode uri
  refl _ := ⟨rfl, [], fun _ none => absurd none List.not_mem_nil, rfl, fun _ => id⟩
  trans first second := by
    obtain ⟨sameA, newsA, mayA, noticesA, standingA⟩ := first
    obtain ⟨sameB, newsB, mayB, noticesB, standingB⟩ := second
    refine ⟨sameB.trans sameA, newsB ++ newsA, fun notice member => ?_, ?_, fun trail standing => ?_⟩
    · rcases List.mem_append.mp member with new | old
      · exact mayB notice new
      · exact mayA notice old
    · rw [sameA] at noticesB
      rw [noticesB, noticesA, List.append_assoc]
    · rw [List.append_assoc]
      exact standingB _ (standingA trail standing)

variable {mode : Mode}

theorem leads_of_quiet (language : b.connection.language = a.connection.language)
    (notices : b.world.notices a.connection.language uri =
      a.world.notices a.connection.language uri)
    (mum : Mum a → Mum b)
    (known : Mum b ∨ b.owner.documents.get? uri = a.owner.documents.get? uri) :
    Leads mode uri a b := by
  refine ⟨language, [], fun _ none => absurd none List.not_mem_nil, notices, fun trail standing => ?_⟩
  refine ⟨standing.kept, ?_⟩
  rcases known with silent | same
  · exact .inl silent
  rcases standing.tied with silent | tied
  · exact .inl (mum silent)
  · refine .inr ?_
    unfold Tied
    rw [same]
    exact tied

theorem within_update_lifeline {f : Client → Client}
    (documents : ∀ c : Client, (f c).documents = c.documents)
    (attached : ∀ c : Client, c.attached = false → (f c).attached = false) :
    Within (lifeline mode uri) (update f : Action σ Client Unit) := by
  refine within_modify fun s => leads_of_quiet rfl rfl ?_ (.inr ?_)
  · rintro (closed | shut | detached)
    · exact .inl closed
    · exact .inr (.inl shut)
    · exact .inr (.inr (attached s.owner detached))
  · change (f s.owner).documents.get? uri = _
    rw [documents]

theorem within_connection_lifeline {f : Connection → Connection}
    (language : ∀ c : Connection, (f c).language = c.language)
    (closed : ∀ c : Connection, c.closed = true → (f c).closed = true)
    (shut : ∀ c : Connection, c.transportClosed = true → (f c).transportClosed = true) :
    Within (lifeline mode uri) (Session.modifyConnection f : Action σ Client Unit) := by
  refine within_modify fun s => leads_of_quiet (language s.connection) rfl ?_ (.inr rfl)
  rintro (done | ended | detached)
  · exact .inl (closed s.connection done)
  · exact .inr (.inl (shut s.connection ended))
  · exact .inr (.inr detached)

theorem within_touch_lifeline : Within (lifeline mode uri) (touch : Action σ Client Unit) := by
  refine within_bind within_get fun s => within_update_lifeline (mild_touched _).documents ?_
  intro c detached
  unfold touched
  split
  · exact detached
  · exact detached

/-! ### Messages -/

theorem mum_delivered [Peer σ] {message : Json} (mum : Mum s) : Mum (delivered message s) := by
  rcases mum with closed | shut | detached
  · exact .inl closed
  · refine .inr (.inl ?_)
    change (s.connection.transportClosed || _) = true
    rw [shut, Bool.true_or]
  · exact .inr (.inr detached)

variable [Peer σ]

theorem leads_delivered {message : Json} (other : message.notice? uri = none) :
    Leads mode uri s (delivered message s) := by
  refine leads_of_quiet rfl ?_ mum_delivered (.inr rfl)
  refine (World.notices_told _ _ _ _).trans ?_
  rw [other]
  rfl

theorem ends_emit_of_accepting (accepting : Peer.Accepting σ) {message : Json}
    {outcome : Outcome Unit} (ended : Ends (Session.emit message) s outcome after) :
    ((∃ problem : Problem, problem.kind = .connectionClosed ∧ outcome = .error (.problem problem)) ∧
        s.connection.transportClosed = true ∧ after = s) ∨
      outcome = .ok () ∧ s.connection.transportClosed = false ∧ after = delivered message s := by
  rcases Session.ends_emit.mp ended with ⟨shut, rfl, same⟩ | ⟨_, _, refused, _, _⟩ |
    ⟨unshut, _, rfl, done⟩
  · exact .inl ⟨⟨_, rfl, same⟩, shut, rfl⟩
  · cases refused.symm.trans (accepting _ _ _ _)
  · exact .inr ⟨done, unshut, rfl⟩

theorem within_emit_lifeline (accepting : Peer.Accepting σ) {message : Json}
    (other : message.notice? uri = none) :
    Within (lifeline mode uri) (Session.emit message : Action σ Client Unit) := by
  intro s after outcome ended
  rcases ends_emit_of_accepting accepting ended with ⟨_, _, rfl⟩ | ⟨_, _, rfl⟩
  · exact (lifeline mode uri).refl _
  · exact leads_delivered other

end Client

end Scalpel
