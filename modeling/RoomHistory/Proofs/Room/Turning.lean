import RoomHistory.Proofs.Room.Keeping

/-!
# How cursors turn

A cursor holds the token at which the next page of its direction starts.  Replies may overtake each
other, come twice or never, so a reply moves the cursor only if its ticket is later than those of
all replies of its direction that came before it.  Nothing else moves a cursor, but for a sync,
which may suggest where history starts as long as nothing is known of that.
-/

namespace RoomHistory

/-- The token at which the page after this one starts; nothing comes after an empty page. -/
def Page.next? (page : Page) : Option String :=
  if page.chunk.isEmpty then none else page.stop

/-- The answer to a request in flight. -/
structure Reply where
  ticket : Ticket
  page : Page

/-- Whether the ticket of a reply is later than those of some earlier replies, as far as they are of
its direction.  Tickets are numbered from one on. -/
def Reply.IsLatest (earlier : List Reply) (reply : Reply) : Prop :=
  0 < reply.ticket.number ∧
    ∀ other ∈ earlier, other.ticket.direction = reply.ticket.direction →
      other.ticket.number < reply.ticket.number

/-- A reply whose ticket is not later than that of one before it is not the latest. -/
theorem Reply.not_isLatest_of_le
    {earlier : List Reply}
    {reply other : Reply}
    (otherIn : other ∈ earlier)
    (sameDirection : other.ticket.direction = reply.ticket.direction)
    (noLater : reply.ticket.number ≤ other.ticket.number) :
    ¬reply.IsLatest earlier :=
  fun latest => Nat.not_lt_of_le noLater (latest.2 other otherIn sameDirection)

namespace Cursor

@[simp] theorem token_moveTo (cursor : Cursor) (ticket : Ticket) (page : Page) :
    (cursor.moveTo ticket page).token = page.next? := by
  rw [moveTo, Page.next?]
  split <;> rfl

@[simp] theorem movedBy_moveTo (cursor : Cursor) (ticket : Ticket) (page : Page) :
    (cursor.moveTo ticket page).movedBy = ticket.number := by
  rw [moveTo]
  split <;> rfl

theorem answer_of_later
    {cursor : Cursor}
    {ticket : Ticket}
    (later : cursor.movedBy < ticket.number)
    (page : Page) :
    cursor.answer ticket page = cursor.moveTo ticket page := by
  rw [answer, if_pos later]

theorem answer_of_late
    {cursor : Cursor}
    {ticket : Ticket}
    (late : ¬cursor.movedBy < ticket.number)
    (page : Page) :
    cursor.answer ticket page = cursor := by
  rw [answer, if_neg late]

@[simp] theorem movedBy_suggest (cursor : Cursor) (token : String) :
    (cursor.suggest token).movedBy = cursor.movedBy := by
  rw [suggest]
  split <;> rfl

/-- A token is suggested where none is known, unless the direction is exhausted. -/
theorem token_suggest (cursor : Cursor) (token : String) :
    (cursor.suggest token).token =
      if cursor.token = none ∧ cursor.exhausted = false then some token else cursor.token := by
  rw [suggest]
  cases known : cursor.token <;> cases ended : cursor.exhausted <;> simp [known]

/-- The cursor was last moved for the latest of the replies of its direction, if for any. -/
structure KeepsUp (cursor : Cursor) (direction : Direction) (replies : List Reply) : Prop where
  notBehind : ∀ reply ∈ replies, reply.ticket.direction = direction →
    reply.ticket.number ≤ cursor.movedBy
  moved : cursor.movedBy = 0 ∨
    ∃ reply ∈ replies, reply.ticket.direction = direction ∧ reply.ticket.number = cursor.movedBy

theorem keepsUp_initial (direction : Direction) : initial.KeepsUp direction [] where
  notBehind := List.forall_mem_nil _
  moved := Or.inl rfl

section

variable {cursor later : Cursor} {direction : Direction} {replies : List Reply} {reply : Reply}

theorem KeepsUp.isLatest_iff (keepsUp : cursor.KeepsUp reply.ticket.direction replies) :
    reply.IsLatest replies ↔ cursor.movedBy < reply.ticket.number := by
  constructor
  · rintro ⟨positive, latest⟩
    rcases keepsUp.moved with unmoved | ⟨mover, moverIn, sameDirection, number⟩
    · rw [unmoved]
      exact positive
    · rw [← number]
      exact latest mover moverIn sameDirection
  · intro ahead
    refine ⟨Nat.zero_lt_of_lt ahead, fun other otherIn sameDirection => ?_⟩
    exact Nat.lt_of_le_of_lt (keepsUp.notBehind other otherIn sameDirection) ahead

/-- Replies of the other direction do not matter to a cursor. -/
theorem KeepsUp.append_other
    (keepsUp : cursor.KeepsUp direction replies)
    (differs : reply.ticket.direction ≠ direction) :
    cursor.KeepsUp direction (replies ++ [reply]) where
  notBehind other otherIn sameDirection := by
    rcases List.mem_append.mp otherIn with earlier | last
    · exact keepsUp.notBehind other earlier sameDirection
    · rw [List.mem_singleton.mp last] at sameDirection
      exact absurd sameDirection differs
  moved := by
    rcases keepsUp.moved with unmoved | ⟨mover, moverIn, sameDirection, number⟩
    · exact Or.inl unmoved
    · exact Or.inr ⟨mover, List.mem_append_left _ moverIn, sameDirection, number⟩

/-- A cursor that answers every reply of its direction keeps up. -/
theorem KeepsUp.answer (keepsUp : cursor.KeepsUp reply.ticket.direction replies) :
    (cursor.answer reply.ticket reply.page).KeepsUp reply.ticket.direction
      (replies ++ [reply]) := by
  by_cases ahead : cursor.movedBy < reply.ticket.number
  · rw [answer_of_later ahead]
    constructor
    · intro other otherIn sameDirection
      rw [movedBy_moveTo]
      rcases List.mem_append.mp otherIn with earlier | last
      · exact Nat.le_of_lt
          (Nat.lt_of_le_of_lt (keepsUp.notBehind other earlier sameDirection) ahead)
      · rw [List.mem_singleton.mp last]
    · refine Or.inr ⟨reply, List.mem_append_right _ List.mem_cons_self, rfl, ?_⟩
      rw [movedBy_moveTo]
  · rw [answer_of_late ahead]
    constructor
    · intro other otherIn sameDirection
      rcases List.mem_append.mp otherIn with earlier | last
      · exact keepsUp.notBehind other earlier sameDirection
      · rw [List.mem_singleton.mp last]
        exact Nat.le_of_not_lt ahead
    · rcases keepsUp.moved with unmoved | ⟨mover, moverIn, sameDirection, number⟩
      · exact Or.inl unmoved
      · exact Or.inr ⟨mover, List.mem_append_left _ moverIn, sameDirection, number⟩

theorem KeepsUp.of_movedBy
    (keepsUp : cursor.KeepsUp direction replies)
    (same : later.movedBy = cursor.movedBy) :
    later.KeepsUp direction replies := by
  constructor
  · rw [same]
    exact keepsUp.notBehind
  · rw [same]
    exact keepsUp.moved

end

end Cursor

/-- An answer concerns the cursor of its own direction. -/
theorem Cursors.get_answer
    (cursors : Cursors)
    (ticket : Ticket)
    (page : Page)
    (direction : Direction) :
    (cursors.answer ticket page).get direction =
      if ticket.direction = direction then (cursors.get direction).answer ticket page
      else cursors.get direction := by
  rw [answer]
  split
  · next same =>
      rw [same]
      exact get_set_self cursors direction _
  · next differs => exact get_set_of_ne (Ne.symm differs) cursors _

/-- A suggested token is no answer. -/
theorem Cursors.movedBy_suggestHistory
    (cursors : Cursors)
    (token : String)
    (direction : Direction) :
    ((cursors.suggestHistory token).get direction).movedBy = (cursors.get direction).movedBy := by
  cases direction with
  | backward => exact cursors.backward.movedBy_suggest token
  | forward => rfl

namespace Room

/-- The reply that a request brings, if any: one that was asked for before, or that the request has
itself asked for. -/
def reply? (room : Room) : Request → Option Reply
  | .receivePage _ ticket page => some ⟨ticket, page⟩
  | .fetchPage _ server direction limit =>
      match server room.id (room.requestPage direction limit).2.1 with
      | .ok page => some ⟨(room.requestPage direction limit).1, page⟩
      | .error _ => none
  | .insert _ _ | .insertValues _ _ | .sync _ _ _ | .requestPage _ _ | .issue _ _ _ _
  | .confirm _ _ _ | .abandon _ | .state _ | .directoryEntry | .forgetState _ | .horizon => none

/-- The replies that several requests bring. -/
def replies (room : Room) : List Request → List Reply
  | [] => []
  | request :: rest => (room.reply? request).toList ++ (room.serve request).replies rest

/-- The token into history that a request suggests. -/
def Request.hint? : Request → Option String
  | .sync _ batch _ => batch.prevBatch
  | .insert _ _ | .insertValues _ _ | .requestPage _ _ | .receivePage _ _ _ | .fetchPage _ _ _ _
  | .issue _ _ _ _ | .confirm _ _ _ | .abandon _ | .state _ | .directoryEntry | .forgetState _
  | .horizon => none

/-- A reply is answered by the cursor of its direction. -/
theorem get_cursors_of_reply
    {room : Room}
    {request : Request}
    {reply : Reply}
    (brings : room.reply? request = some reply)
    (direction : Direction) :
    (room.serve request).cursors.get direction =
      if reply.ticket.direction = direction then
        (room.cursors.get direction).answer reply.ticket reply.page
      else room.cursors.get direction := by
  cases request with
  | receivePage now ticket page =>
      obtain rfl := Option.some.inj brings
      exact room.cursors.get_answer ticket page direction
  | fetchPage now server asked limit =>
      rw [reply?] at brings
      rw [serve_eq, changesBy]
      split at brings
      · next page fetched =>
          obtain rfl := Option.some.inj brings
          simp only [fetched]
          show ((room.cursors.take asked).2.answer (room.cursors.take asked).1 page).get direction =
            _
          rw [Cursors.get_answer, Cursors.get_take]
          rfl
      · cases brings
  | _ => cases brings

/-- Without a reply the cursors stay as they are, but for the token that a sync may suggest. -/
theorem get_cursors_of_noReply
    {room : Room}
    {request : Request}
    (brings : room.reply? request = none)
    (direction : Direction) :
    (room.serve request).cursors.get direction =
      (request.hint?.elim room.cursors room.cursors.suggestHistory).get direction := by
  rw [serve_eq]
  cases request with
  | receivePage now ticket page => cases brings
  | sync now batch action =>
      show (room.enterSync batch action).cursors.get direction = _
      rw [enterSync, Request.hint?]
      cases batch.prevBatch <;> rfl
  | requestPage asked limit => exact room.cursors.get_take asked direction
  | fetchPage now server asked limit =>
      rw [reply?] at brings
      rw [changesBy]
      split at brings
      · cases brings
      · next error failed =>
          simp only [failed]
          exact room.cursors.get_take asked direction
  | issue now type stateKey content =>
      rw [changesBy]
      split <;> rfl
  | confirm now transaction id =>
      rw [changesBy]
      split <;> rfl
  | directoryEntry =>
      rw [changesBy, changeAll_read]
      rfl
  | _ => rfl

theorem serve_keepsUp
    {room : Room}
    {direction : Direction}
    {replies : List Reply}
    (keepsUp : (room.cursors.get direction).KeepsUp direction replies)
    (request : Request) :
    ((room.serve request).cursors.get direction).KeepsUp direction
      (replies ++ (room.reply? request).toList) := by
  cases brings : room.reply? request with
  | some reply =>
      rw [get_cursors_of_reply brings, Option.toList_some]
      split
      · next same =>
          subst same
          exact keepsUp.answer
      · next differs => exact keepsUp.append_other differs
  | none =>
      rw [get_cursors_of_noReply brings, Option.toList_none, List.append_nil]
      cases request.hint? with
      | some token => exact keepsUp.of_movedBy (Cursors.movedBy_suggestHistory _ token direction)
      | none => exact keepsUp

theorem serveAll_keepsUp
    {room : Room}
    {direction : Direction}
    {earlier : List Reply}
    (keepsUp : (room.cursors.get direction).KeepsUp direction earlier)
    (requests : List Request) :
    ((room.serveAll requests).cursors.get direction).KeepsUp direction
      (earlier ++ room.replies requests) := by
  induction requests generalizing room earlier with
  | nil =>
      rw [replies, List.append_nil]
      exact keepsUp
  | cons request rest hypothesis =>
      rw [replies, ← List.append_assoc]
      exact hypothesis (serve_keepsUp keepsUp request)

/-- However a room was made, and whatever was asked of it, each cursor was last moved for the latest
reply of its direction. -/
theorem Origin.keepsUp
    (origin : Origin)
    (requests : List Request)
    (direction : Direction) :
    ((origin.room.serveAll requests).cursors.get direction).KeepsUp direction
      (origin.room.replies requests) := by
  have made : (origin.room.cursors.get direction).KeepsUp direction [] := by
    cases origin <;> cases direction <;> exact Cursor.keepsUp_initial _
  exact serveAll_keepsUp made requests

/-- However a room was made, and whatever was asked of it before, a request turns its cursors as
follows.  A reply turns only the cursor of its direction, and only if its ticket is later than those
of all replies of that direction before: to where the page after its own starts.  So a reply that
comes again, or after a later one, turns no cursor.  Without a reply the forward cursor stays, and
the backward one gets the token that a sync suggests, but only if it has none and history has not
ended.  Whatever page is asked for then is asked for at the token of its direction. -/
theorem serve_turns
    (origin : Origin)
    (earlier : List Request)
    (request : Request) :
    let room := origin.room.serveAll earlier
    let replies := origin.room.replies earlier
    let turned := (room.serve request).cursors
    (∀ reply, room.reply? request = some reply →
      (reply.IsLatest replies → (turned.get reply.ticket.direction).token = reply.page.next?) ∧
      (¬reply.IsLatest replies → ∀ direction, turned.get direction = room.cursors.get direction) ∧
      (∀ direction, direction ≠ reply.ticket.direction →
        turned.get direction = room.cursors.get direction) ∧
      ∀ other ∈ replies, other.ticket.direction = reply.ticket.direction →
        reply.ticket.number ≤ other.ticket.number →
          ∀ direction, turned.get direction = room.cursors.get direction) ∧
    (room.reply? request = none →
      turned.forward = room.cursors.forward ∧
      turned.backward.token =
        if room.cursors.backward.token = none ∧ room.historyEnded = false then request.hint?
        else room.cursors.backward.token) ∧
    ∀ direction limit,
      let asked := (room.serve request).requestPage direction limit
      asked.1.direction = direction ∧ 0 < asked.1.number ∧
        asked.2.1 = ⟨(turned.get direction).token, none, direction, limit⟩ := by
  intro room replies turned
  refine ⟨fun reply brings => ?_, fun brings => ⟨?_, ?_⟩, fun direction limit => ?_⟩
  · have keepsUp := origin.keepsUp earlier reply.ticket.direction
    have answered := get_cursors_of_reply brings
    have late : ¬reply.IsLatest replies →
        ∀ direction, turned.get direction = room.cursors.get direction := by
      intro notLatest direction
      rw [keepsUp.isLatest_iff] at notLatest
      refine (answered direction).trans ?_
      split
      · next same => exact Cursor.answer_of_late (same ▸ notLatest) reply.page
      · rfl
    refine ⟨fun latest => ?_, late, fun direction differs => ?_, ?_⟩
    · rw [keepsUp.isLatest_iff] at latest
      rw [answered, if_pos rfl, Cursor.answer_of_later latest, Cursor.token_moveTo]
    · rw [answered, if_neg (Ne.symm differs)]
    · intro other otherIn sameDirection noLater
      exact late (Reply.not_isLatest_of_le otherIn sameDirection noLater)
  · refine (get_cursors_of_noReply brings .forward).trans ?_
    cases request.hint? <;> rfl
  · have suggested : turned.backward = _ := get_cursors_of_noReply brings .backward
    rw [suggested, historyEnded]
    cases request.hint? with
    | some token => exact Cursor.token_suggest _ token
    | none =>
        show room.cursors.backward.token = _
        split
        · next unknown => exact unknown.1
        · rfl
  · refine ⟨rfl, Nat.succ_pos _, ?_⟩
    show PageQuery.mk ((turned.take direction).2.get direction).token none direction limit = _
    rw [Cursors.get_take]

end Room

end RoomHistory
