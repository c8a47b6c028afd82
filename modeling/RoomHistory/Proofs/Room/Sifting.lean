import RoomHistory.Proofs.Room.Changes
import RoomHistory.Proofs.Timeline.Counting

/-!
# Values that are no events

A server may send anything among the events of a batch or of a page.  What is no event is sifted out
before anything else is done with the batch: it is counted, and leaves no other trace.  Only whether
a page is empty is told by the page as it came, so that a page of such values alone does not end the
history of a room.
-/

namespace RoomHistory

/-- Whether a value is an event. -/
def Event.accepts (value : Json) : Bool :=
  (Event.receive value).toOption.isSome

/-- How many values of a list are no events. -/
def rejectedIn (values : List Json) : Nat :=
  values.countP (!Event.accepts ·)

/-- Two lists differ by nothing but values that are no events. -/
def SameEvents (left right : List Json) : Prop :=
  left.filter Event.accepts = right.filter Event.accepts

instance (left right : List Json) : Decidable (SameEvents left right) := by
  unfold SameEvents
  infer_instance

/-- What an insertion did, but for how many values were skipped. -/
def Outcome.unskipped (outcome : Outcome) : Outcome :=
  { outcome with skipped := 0 }

/-- An outcome that was returned tells how many of the values that came were no events. -/
def CountsRejected (returned : Except Error Outcome) (values : List Json) : Prop :=
  ∀ outcome, returned = .ok outcome → outcome.skipped = rejectedIn values

/-- What was returned agrees, but for how many values were skipped. -/
def AgreeUnskipped (left right : List (Except Error Outcome)) : Prop :=
  left.map (·.map Outcome.unskipped) = right.map (·.map Outcome.unskipped)

/-- Two batches differ by nothing but values that are no events. -/
structure RoomBatch.Alike (left right : RoomBatch) : Prop where
  state : SameEvents left.state right.state
  timeline : SameEvents left.timeline right.timeline
  prevBatch : left.prevBatch = right.prevBatch

/-- Two pages differ by nothing but values that are no events, and neither is empty alone. -/
structure Page.Alike (left right : Page) : Prop where
  chunk : SameEvents left.chunk right.chunk
  empty : left.chunk = [] ↔ right.chunk = []
  stop : left.stop = right.stop

/-- Two answers to a query are pages that are alike, or the same failure. -/
inductive AnswersAlike : Except Error Page → Except Error Page → Prop where
  | page {left right : Page} (alike : left.Alike right) : AnswersAlike (.ok left) (.ok right)
  | failure (error : Error) : AnswersAlike (.error error) (.error error)

/-- Two servers give answers that are alike. -/
def ServersAlike (left right : PageServer) : Prop :=
  ∀ id query, AnswersAlike (left id query) (right id query)

/-- What is returned to several requests, one after another, by whatever serves them. -/
def returnsToAll
    {σ ρ α : Type}
    (serve : σ → ρ → σ)
    (returns : σ → ρ → α)
    (state : σ) : List ρ → List α
  | [] => []
  | request :: rest =>
      returns state request :: returnsToAll serve returns (serve state request) rest

section

variable {σ ρ α β : Type} {serve : σ → ρ → σ}

/-- Where requests that are alike lead to one state and are returned the same, so are runs of
them. -/
theorem returnsToAll_of_alike
    {returns : σ → ρ → α}
    {alike : ρ → ρ → Prop}
    (same : α → α → Prop)
    (step : ∀ left right, alike left right → ∀ state,
      same (returns state left) (returns state right) ∧ serve state left = serve state right)
    {left right : List ρ}
    (runs : List.Forall₂ alike left right)
    (state : σ) :
    List.Forall₂ same (returnsToAll serve returns state left)
        (returnsToAll serve returns state right) ∧
      left.foldl serve state = right.foldl serve state := by
  induction runs generalizing state with
  | nil => exact ⟨.nil, rfl⟩
  | @cons first second left right isAlike runs hypothesis =>
      obtain ⟨sameFirst, sameState⟩ := step first second isAlike state
      obtain ⟨sameRest, sameEnd⟩ := hypothesis (serve state first)
      rw [returnsToAll, returnsToAll, List.foldl_cons, List.foldl_cons, ← sameState]
      exact ⟨.cons sameFirst sameRest, sameEnd⟩

/-- What holds of everything that is returned to a request holds along a run. -/
theorem returnsToAll_forall₂
    {returns : σ → ρ → α}
    {brings : σ → ρ → β}
    {holds : α → β → Prop}
    (step : ∀ state request, holds (returns state request) (brings state request))
    (requests : List ρ)
    (state : σ) :
    List.Forall₂ holds (returnsToAll serve returns state requests)
      (returnsToAll serve brings state requests) := by
  induction requests generalizing state with
  | nil => exact .nil
  | cons request rest hypothesis => exact .cons (step state request) (hypothesis _)

end

section

variable {left right : List Json}

theorem SameEvents.append
    {leftThen rightThen : List Json}
    (first : SameEvents left right)
    (next : SameEvents leftThen rightThen) :
    SameEvents (left ++ leftThen) (right ++ rightThen) := by
  rw [SameEvents, List.filter_append, List.filter_append, first, next]

theorem SameEvents.received_eq (same : SameEvents left right) :
    Timeline.received left = Timeline.received right := by
  have sifted (values : List Json) :
      Timeline.received values = Timeline.received (values.filter Event.accepts) := by
    rw [Timeline.received, Timeline.received, List.filterMap_filter]
    congr 1
    funext value
    rw [Event.accepts]
    cases (Event.receive value).toOption <;> rfl
  rw [sifted left, same, ← sifted]

theorem RoomBatch.Alike.values
    {left right : RoomBatch}
    (alike : left.Alike right) :
    SameEvents left.values right.values :=
  alike.state.append alike.timeline

namespace Timeline

/-- What is no event is skipped, and nothing else. -/
theorem receiveAll_snd (values : List Json) : (receiveAll values).2 = rejectedIn values := by
  induction values with
  | nil => rfl
  | cons value rest hypothesis =>
      rw [receiveAll, rejectedIn, List.countP_cons, ← rejectedIn, ← hypothesis, Event.accepts]
      cases Event.receive value <;> rfl

theorem insertValues_skipped
    (timeline : Timeline)
    (arrival : Arrival)
    (clock : Timestamp)
    (values : List Json) :
    (timeline.insertValues arrival clock values).1.skipped = rejectedIn values := by
  rw [insertValues_eq, ← receiveAll_snd]

theorem insertValues_of_sameEvents
    (same : SameEvents left right)
    (timeline : Timeline)
    (arrival : Arrival)
    (clock : Timestamp) :
    (timeline.insertValues arrival clock left).1.unskipped =
        (timeline.insertValues arrival clock right).1.unskipped ∧
      (timeline.insertValues arrival clock left).2 =
        (timeline.insertValues arrival clock right).2 := by
  rw [insertValues_eq, insertValues_eq, same.received_eq]
  exact ⟨rfl, rfl⟩

end Timeline

end

/-- What is told of an insertion is the same however many values were skipped. -/
theorem Notice.ofOutcome?_of_unskipped
    {left right : Outcome}
    (same : left.unskipped = right.unskipped)
    (room : RoomId) :
    Notice.ofOutcome? room left = Notice.ofOutcome? room right := by
  have unseen (outcome : Outcome) :
      Notice.ofOutcome? room outcome = Notice.ofOutcome? room outcome.unskipped := rfl
  rw [unseen left, same, ← unseen]

namespace Room

/-- Two requests differ by nothing but values that are no events. -/
inductive Request.Alike : Request → Request → Prop where
  | same (request : Request) : Alike request request
  | insertValues (now : Moment) {left right : List Json} (same : SameEvents left right) :
      Alike (.insertValues now left) (.insertValues now right)
  | sync (now : Moment) (action : Membership) {left right : RoomBatch}
      (alike : left.Alike right) :
      Alike (.sync now left action) (.sync now right action)
  | receivePage (now : Moment) (ticket : Ticket) {left right : Page}
      (alike : left.Alike right) :
      Alike (.receivePage now ticket left) (.receivePage now ticket right)
  | fetchPage (now : Moment) (direction : Direction) (limit : Nat) {left right : PageServer}
      (alike : ServersAlike left right) :
      Alike (.fetchPage now left direction limit) (.fetchPage now right direction limit)

/-- The values that come from a server with what a request inserts. -/
def brings (room : Room) : Request → List (List Json)
  | .insertValues _ values => [values]
  | .sync _ batch _ => [batch.values]
  | .receivePage _ _ page => [page.chunk]
  | .fetchPage _ server direction limit =>
      match server room.id (room.requestPage direction limit).2.1 with
      | .ok page => [page.chunk]
      | .error _ => [[]]
  | .insert _ _ | .confirm _ _ _ => [[]]
  | .requestPage _ _ | .issue _ _ _ _ | .abandon _ | .state _ | .directoryEntry | .forgetState _
  | .horizon => []

theorem receivePage_of_alike
    {left right : Page}
    (alike : left.Alike right)
    (room : Room)
    (now : Moment)
    (ticket : Ticket) :
    (room.receivePage now ticket left).1.unskipped =
        (room.receivePage now ticket right).1.unskipped ∧
      (room.receivePage now ticket left).2 = (room.receivePage now ticket right).2 := by
  obtain ⟨outcomes, timelines⟩ :=
    Timeline.insertValues_of_sameEvents alike.chunk room.timeline (room.arrival none now.arrival) now.change
  have cursors : room.cursors.answer ticket left = room.cursors.answer ticket right := by
    have ended : left.chunk.isEmpty = right.chunk.isEmpty := by
      rw [Bool.eq_iff_iff, List.isEmpty_iff, List.isEmpty_iff]
      exact alike.empty
    simp only [Cursors.answer, Cursor.answer, Cursor.moveTo, ended, alike.stop]
  refine ⟨outcomes, ?_⟩
  show { room with
      timeline := (room.timeline.insertValues (room.arrival none now.arrival) now.change left.chunk).2
      cursors := room.cursors.answer ticket left } = _
  rw [timelines, cursors]
  rfl

theorem sync_of_alike
    {left right : RoomBatch}
    (alike : left.Alike right)
    (room : Room)
    (now : Moment)
    (action : Membership) :
    (room.sync now left action).1.unskipped = (room.sync now right action).1.unskipped ∧
      (room.sync now left action).2 = (room.sync now right action).2 := by
  have entered : room.enterSync left action = room.enterSync right action := by
    rw [enterSync, enterSync, alike.prevBatch]
  let after := room.enterSync right action
  obtain ⟨outcomes, timelines⟩ := Timeline.insertValues_of_sameEvents alike.values after.timeline
    (after.arrival (some action) now.arrival) now.change
  rw [Room.sync, Room.sync, entered]
  exact ⟨outcomes, congrArg (fun timeline => { after with timeline := timeline }) timelines⟩

theorem fetchPage_of_alike
    {left right : PageServer}
    (alike : ServersAlike left right)
    (room : Room)
    (now : Moment)
    (direction : Direction)
    (limit : Nat) :
    (room.fetchPage now left direction limit).1.map Outcome.unskipped =
        (room.fetchPage now right direction limit).1.map Outcome.unskipped ∧
      (room.fetchPage now left direction limit).2 =
        (room.fetchPage now right direction limit).2 := by
  rcases asked : room.requestPage direction limit with ⟨ticket, query, begun⟩
  have answers := alike room.id query
  simp only [Room.fetchPage, asked]
  revert answers
  generalize left room.id query = answer
  generalize right room.id query = otherAnswer
  rintro (isAlike | error)
  · obtain ⟨outcomes, rooms⟩ := receivePage_of_alike isAlike begun now ticket
    exact ⟨congrArg Except.ok outcomes, rooms⟩
  · exact ⟨rfl, rfl⟩

/-- Requests that are alike make the same room of a room, and return the same, but for how many
values were skipped. -/
theorem Request.Alike.serve
    {left right : Request}
    (alike : left.Alike right)
    (room : Room) :
    AgreeUnskipped (room.returns left) (room.returns right) ∧
      room.serve left = room.serve right := by
  cases alike with
  | same request => exact ⟨rfl, rfl⟩
  | @insertValues now left right same =>
      obtain ⟨outcomes, timelines⟩ :=
        Timeline.insertValues_of_sameEvents same room.timeline (room.arrival none now.arrival) now.change
      exact ⟨congrArg (fun outcome => [Except.ok outcome]) outcomes,
        congrArg (fun timeline => { room with timeline := timeline }) timelines⟩
  | @sync now action left right alike =>
      obtain ⟨outcomes, rooms⟩ := sync_of_alike alike room now action
      exact ⟨congrArg (fun outcome => [Except.ok outcome]) outcomes, rooms⟩
  | @receivePage now ticket left right alike =>
      obtain ⟨outcomes, rooms⟩ := receivePage_of_alike alike room now ticket
      exact ⟨congrArg (fun outcome => [Except.ok outcome]) outcomes, rooms⟩
  | @fetchPage now direction limit left right alike =>
      obtain ⟨results, rooms⟩ := fetchPage_of_alike alike room now direction limit
      exact ⟨congrArg (fun result => [result]) results, rooms⟩

/-- Whatever a request to a room returns counts the values that were no events. -/
theorem returns_counts (room : Room) (request : Request) :
    List.Forall₂ CountsRejected (room.returns request) (room.brings request) := by
  have single {returned : Except Error Outcome} {values : List Json}
      (counts : CountsRejected returned values) :
      List.Forall₂ CountsRejected [returned] [values] := .cons counts .nil
  have done {outcome : Outcome} {values : List Json}
      (counts : outcome.skipped = rejectedIn values) :
      CountsRejected (.ok outcome) values := fun other same => by
    rw [← Except.ok.inj same]
    exact counts
  cases request with
  | insert now events => exact single (done (room.timeline.insert_skipped _ now.change events))
  | insertValues now values => exact single (done (room.timeline.insertValues_skipped _ now.change values))
  | sync now batch action =>
      exact single (done ((room.enterSync batch action).timeline.insertValues_skipped _ now.change _))
  | receivePage now ticket page =>
      exact single (done (room.timeline.insertValues_skipped _ now.change page.chunk))
  | fetchPage now server direction limit =>
      simp only [returns, brings, Room.fetchPage]
      cases server room.id (room.requestPage direction limit).2.1 with
      | ok page => exact single (done (Timeline.insertValues_skipped _ _ now.change page.chunk))
      | error error => exact single fun outcome failed => by cases failed
  | confirm now transaction id =>
      simp only [returns, brings, Room.confirm]
      cases room.takePending transaction with
      | ok taken => exact single (done (Timeline.insert_skipped _ _ now.change _))
      | error error => exact single fun outcome failed => by cases failed
  | requestPage direction limit => exact .nil
  | issue now type stateKey content => exact .nil
  | abandon transaction => exact .nil
  | state type => exact .nil
  | directoryEntry => exact .nil
  | forgetState type => exact .nil
  | horizon => exact .nil

/-- What several requests return. -/
def returned (room : Room) (requests : List Request) : List (List (Except Error Outcome)) :=
  returnsToAll serve returns room requests

/-- The values that come from a server with what several requests insert. -/
def brought (room : Room) (requests : List Request) : List (List (List Json)) :=
  returnsToAll serve brings room requests

/-- Two runs of a room lead to the same room and return the same, but for how many values were
skipped, which are just those that are no events. -/
structure RunsAgree (room : Room) (left right : List Request) : Prop where
  ends : room.serveAll left = room.serveAll right
  returned : List.Forall₂ AgreeUnskipped (room.returned left) (room.returned right)
  counted : ∀ requests ∈ [left, right],
    List.Forall₂ (List.Forall₂ CountsRejected) (room.returned requests) (room.brought requests)

theorem runsAgree_of_alike
    {left right : List Request}
    (runs : List.Forall₂ Request.Alike left right)
    (room : Room) :
    room.RunsAgree left right := by
  obtain ⟨returned, ends⟩ :=
    returnsToAll_of_alike AgreeUnskipped (fun _ _ alike => alike.serve) runs room
  exact ⟨ends, returned, fun requests _ => returnsToAll_forall₂ returns_counts requests room⟩

end Room

end RoomHistory
