import RoomHistory.Proofs.Room.Turning

/-!
# Replies that overtake each other

Several pages may be asked for before the first of them comes, and they may come in any order.  In
the end each cursor holds the token of the page that was asked for last, whatever the order.
Whether history has ended is another matter: an empty page ends it if no later page was there
before, and a later page that is not empty does not open it again.  So the order shows there, unless
the page that was asked for last is empty itself.
-/

namespace RoomHistory

attribute [ext] Ticket

namespace Reply

/-- A reply has the last word on a direction if it is later than all that came earlier, and no other
of the replies is later. -/
structure Decides
    (direction : Direction)
    (earlier replies : List Reply)
    (reply : Reply) : Prop where
  sameDirection : reply.ticket.direction = direction
  among : reply ∈ replies
  latest : reply.IsLatest earlier
  last : ∀ other ∈ replies, other.ticket.direction = direction →
    other.ticket.number ≤ reply.ticket.number

/-- A reply ends history if it brings an empty page of it and is the latest. -/
structure EndsHistory (earlier : List Reply) (reply : Reply) : Prop where
  backward : reply.ticket.direction = .backward
  latest : reply.IsLatest earlier
  nothing : reply.page.chunk.isEmpty = true

/-- Whether one of several replies ends history as they come one after another. -/
def OneEndsHistory (earlier : List Reply) : List Reply → Prop
  | [] => False
  | reply :: rest => reply.EndsHistory earlier ∨ OneEndsHistory (earlier ++ [reply]) rest

section

variable {direction : Direction} {earlier replies others : List Reply} {reply other : Reply}

/-- A reply that is later than others is no less so without some of them. -/
theorem IsLatest.subset (latest : reply.IsLatest others) (subset : earlier ⊆ others) :
    reply.IsLatest earlier :=
  ⟨latest.1, fun one present => latest.2 one (subset present)⟩

theorem OneEndsHistory.exists_mem (ends : OneEndsHistory earlier replies) :
    ∃ reply ∈ replies, reply.EndsHistory earlier := by
  induction replies generalizing earlier with
  | nil => exact ends.elim
  | cons first rest hypothesis =>
      rcases ends with endsFirst | endsRest
      · exact ⟨first, List.mem_cons_self, endsFirst⟩
      · obtain ⟨reply, replyIn, endsThere⟩ := hypothesis endsRest
        have latest := endsThere.latest.subset (List.subset_append_left earlier [first])
        exact ⟨reply, List.mem_cons_of_mem _ replyIn, endsThere.backward, latest,
          endsThere.nothing⟩

theorem Decides.perm
    (decides : reply.Decides direction earlier replies)
    (same : replies.Perm others) :
    reply.Decides direction earlier others :=
  ⟨decides.sameDirection, same.mem_iff.mp decides.among, decides.latest,
    fun other otherIn => decides.last other (same.mem_iff.mpr otherIn)⟩

/-- Where no ticket is answered twice, one reply has the last word. -/
theorem Decides.unique
    (decides : reply.Decides direction earlier replies)
    (otherDecides : other.Decides direction earlier replies)
    (once : (replies.map (·.ticket)).Nodup) :
    reply = other := by
  have sameTicket : reply.ticket = other.ticket := by
    have sameDirection := decides.sameDirection.trans otherDecides.sameDirection.symm
    have noLater := decides.last other otherDecides.among otherDecides.sameDirection
    have noEarlier := otherDecides.last reply decides.among decides.sameDirection
    exact Ticket.ext sameDirection (Nat.le_antisymm noEarlier noLater)
  exact List.inj_on_of_nodup_map once decides.among otherDecides.among sameTicket

/-- The reply with the last word keeps it when another ticket was answered. -/
theorem Decides.tail
    (decides : reply.Decides direction earlier (other :: replies))
    (among : reply ∈ replies)
    (onceOther : other.ticket ∉ replies.map (·.ticket)) :
    reply.Decides direction (earlier ++ [other]) replies := by
  refine ⟨decides.sameDirection, among, ⟨decides.latest.1, ?_⟩,
    fun one oneIn => decides.last one (List.mem_cons_of_mem other oneIn)⟩
  intro one oneIn sameDirection
  rcases List.mem_append.mp oneIn with oneEarlier | oneLast
  · exact decides.latest.2 one oneEarlier sameDirection
  · obtain rfl := List.mem_singleton.mp oneLast
    have noLater := decides.last one List.mem_cons_self
      (sameDirection.trans decides.sameDirection)
    refine Nat.lt_of_le_of_ne noLater fun sameNumber => onceOther ?_
    rw [Ticket.ext sameDirection sameNumber]
    exact List.mem_map_of_mem among

/-- Where no ticket is answered twice, an empty page of the reply with the last word ends history
whatever came before it. -/
theorem Decides.oneEndsHistory
    (decides : reply.Decides .backward earlier replies)
    (once : (replies.map (·.ticket)).Nodup)
    (nothing : reply.page.chunk.isEmpty = true) :
    OneEndsHistory earlier replies := by
  induction replies generalizing earlier with
  | nil => exact absurd decides.among List.not_mem_nil
  | cons first rest hypothesis =>
      obtain ⟨onceFirst, onceRest⟩ := List.nodup_cons.mp once
      rcases List.mem_cons.mp decides.among with rfl | among
      · exact Or.inl ⟨decides.sameDirection, decides.latest, nothing⟩
      · exact Or.inr (hypothesis (decides.tail among onceFirst) onceRest)

/-- Nothing ends history behind the reply with the last word. -/
theorem Decides.not_oneEndsHistory
    (decides : reply.Decides .backward earlier replies)
    (subset : others ⊆ replies) :
    ¬OneEndsHistory (earlier ++ [reply]) others := by
  intro ends
  obtain ⟨other, otherIn, endsThere⟩ := ends.exists_mem
  have sameDirection := decides.sameDirection.trans endsThere.backward.symm
  have ahead := endsThere.latest.2 reply (List.mem_append_right _ List.mem_cons_self) sameDirection
  exact absurd ahead (Nat.not_lt_of_le (decides.last other (subset otherIn) endsThere.backward))

end

end Reply

namespace Cursor

@[simp] theorem exhausted_suggest (cursor : Cursor) (token : String) :
    (cursor.suggest token).exhausted = cursor.exhausted := by
  rw [suggest]
  split <;> rfl

/-- A cursor into history is exhausted by an empty page, and no page opens it again. -/
theorem exhausted_moveTo
    (cursor : Cursor)
    {ticket : Ticket}
    (backward : ticket.direction = .backward)
    (page : Page) :
    (cursor.moveTo ticket page).exhausted = true ↔
      cursor.exhausted = true ∨ page.chunk.isEmpty = true := by
  rw [moveTo]
  split
  · next nothing => simp [backward, nothing]
  · next something => simp [something]

end Cursor

namespace Room

/-- The request to receive a reply. -/
def Request.ofReply (arrival : Moment × Reply) : Request :=
  .receivePage arrival.1 arrival.2.ticket arrival.2.page

/-- The room after replies have come one after another, each at its time, and nothing between. -/
def receiveAll (room : Room) (arrivals : List (Moment × Reply)) : Room :=
  room.serveAll (arrivals.map .ofReply)

/-- Whether replies come each once, in whatever order and whenever. -/
def ArriveAs (replies : List Reply) (arrivals : List (Moment × Reply)) : Prop :=
  (arrivals.map Prod.snd).Perm replies

section

variable {room : Room} {direction : Direction} {earlier replies : List Reply}
  {arrivals : List (Moment × Reply)}

theorem replies_ofReply (room : Room) (arrivals : List (Moment × Reply)) :
    room.replies (arrivals.map .ofReply) = arrivals.map Prod.snd := by
  induction arrivals generalizing room with
  | nil => rfl
  | cons arrival rest hypothesis =>
      exact congrArg (arrival.2 :: ·) (hypothesis (room.serve (.ofReply arrival)))

theorem receiveAll_keepsUp
    (keepsUp : (room.cursors.get direction).KeepsUp direction earlier)
    (arrivals : List (Moment × Reply)) :
    ((room.receiveAll arrivals).cursors.get direction).KeepsUp direction
      (earlier ++ arrivals.map Prod.snd) := by
  rw [← room.replies_ofReply arrivals]
  exact serveAll_keepsUp keepsUp _

/-- A reply moves the cursor of its direction, or leaves it where it is. -/
theorem serve_ofReply_cases (room : Room) (arrival : Moment × Reply) (direction : Direction) :
    let turned := (room.serve (.ofReply arrival)).cursors.get direction
    turned = room.cursors.get direction ∨
      (arrival.2.ticket.direction = direction ∧
        (room.cursors.get direction).movedBy < arrival.2.ticket.number ∧
        turned.movedBy = arrival.2.ticket.number ∧
        turned.token = arrival.2.page.next?) := by
  intro turned
  have brings : room.reply? (.ofReply arrival) = some arrival.2 := rfl
  have answered : turned = _ := get_cursors_of_reply brings direction
  rw [answered]
  split
  · next same =>
      by_cases ahead : (room.cursors.get direction).movedBy < arrival.2.ticket.number
      · rw [Cursor.answer_of_later ahead, Cursor.movedBy_moveTo, Cursor.token_moveTo]
        exact Or.inr ⟨same, ahead, rfl, rfl⟩
      · exact Or.inl (Cursor.answer_of_late ahead _)
  · exact Or.inl rfl

/-- After several replies a cursor is where it was, or where one of them has moved it. -/
theorem receiveAll_cases
    (room : Room)
    (arrivals : List (Moment × Reply))
    (direction : Direction) :
    let turned := (room.receiveAll arrivals).cursors.get direction
    turned = room.cursors.get direction ∨
      ∃ reply ∈ arrivals.map Prod.snd, reply.ticket.direction = direction ∧
        (room.cursors.get direction).movedBy < reply.ticket.number ∧
        turned.movedBy = reply.ticket.number ∧
        turned.token = reply.page.next? := by
  induction arrivals generalizing room with
  | nil => exact Or.inl rfl
  | cons arrival rest hypothesis =>
      have first := room.serve_ofReply_cases arrival direction
      rcases hypothesis (room.serve (.ofReply arrival)) with
        stays | ⟨reply, replyIn, sameDirection, ahead, moved⟩
      · have last : ((room.receiveAll (arrival :: rest)).cursors.get direction) =
            (room.serve (.ofReply arrival)).cursors.get direction := stays
        rw [last]
        refine first.imp_right fun ⟨sameDirection, ahead, moved⟩ => ?_
        exact ⟨arrival.2, List.mem_cons_self, sameDirection, ahead, moved⟩
      · refine Or.inr ⟨reply, List.mem_cons_of_mem _ replyIn, sameDirection, ?_, moved⟩
        rcases first with unmoved | ⟨-, aheadFirst, movedFirst, -⟩
        · rw [unmoved] at ahead
          exact ahead
        · rw [movedFirst] at ahead
          exact aheadFirst.trans ahead

/-- After several replies a cursor is where the one with the last word has moved it, or where it was
if none of them is later than all that came earlier. -/
theorem receiveAll_decided
    (keepsUp : (room.cursors.get direction).KeepsUp direction earlier)
    (arrivals : List (Moment × Reply)) :
    let turned := (room.receiveAll arrivals).cursors.get direction
    (turned = room.cursors.get direction ∧
      ∀ reply ∈ arrivals.map Prod.snd, reply.ticket.direction = direction →
        ¬reply.IsLatest earlier) ∨
    ∃ reply : Reply, reply.Decides direction earlier (arrivals.map Prod.snd) ∧
      turned.token = reply.page.next? := by
  have notBehind := (receiveAll_keepsUp keepsUp arrivals).notBehind
  rcases room.receiveAll_cases arrivals direction with
    stays | ⟨reply, replyIn, sameDirection, ahead, moved, token⟩
  · refine Or.inl ⟨stays, fun reply replyIn sameDirection latest => ?_⟩
    subst sameDirection
    rw [keepsUp.isLatest_iff] at latest
    have reached := notBehind reply (List.mem_append_right _ replyIn) rfl
    rw [stays] at reached
    exact absurd latest (Nat.not_lt_of_le reached)
  · subst sameDirection
    refine Or.inr ⟨reply, ⟨rfl, replyIn, keepsUp.isLatest_iff.mpr ahead, ?_⟩, token⟩
    intro other otherIn sameDirection
    rw [← moved]
    exact notBehind other (List.mem_append_right _ otherIn) sameDirection

/-- A request ends history only by a reply that does, and nothing opens it again. -/
theorem historyEnded_serve_iff
    (keepsUp : (room.cursors.get .backward).KeepsUp .backward earlier)
    (request : Request) :
    (room.serve request).historyEnded = true ↔
      room.historyEnded = true ∨
        ∃ reply, room.reply? request = some reply ∧ reply.EndsHistory earlier := by
  cases brings : room.reply? request with
  | some reply =>
      have answered : (room.serve request).cursors.backward = _ :=
        get_cursors_of_reply brings .backward
      simp only [Option.some.injEq, exists_eq_left']
      rw [historyEnded, historyEnded, answered]
      by_cases backward : reply.ticket.direction = .backward
      · have latest_iff : reply.IsLatest earlier ↔
            room.cursors.backward.movedBy < reply.ticket.number := by
          apply Cursor.KeepsUp.isLatest_iff
          rw [backward]
          exact keepsUp
        rw [if_pos backward]
        by_cases latest : reply.IsLatest earlier
        · rw [Cursors.get, Cursor.answer_of_later (latest_iff.mp latest),
            Cursor.exhausted_moveTo _ backward]
          exact or_congr_right ⟨fun nothing => ⟨backward, latest, nothing⟩, (·.nothing)⟩
        · rw [Cursors.get, Cursor.answer_of_late fun ahead => latest (latest_iff.mpr ahead)]
          exact (or_iff_left fun ends => latest ends.latest).symm
      · rw [if_neg backward]
        exact (or_iff_left fun ends => backward ends.backward).symm
  | none =>
      have suggested : (room.serve request).cursors.backward = _ :=
        get_cursors_of_noReply brings .backward
      have same : (room.serve request).historyEnded = room.historyEnded := by
        rw [historyEnded, historyEnded, suggested]
        cases request.hint? with
        | some token => exact Cursor.exhausted_suggest _ token
        | none => rfl
      simp [same]

/-- Whatever is asked of a room, history has ended if it had, or by a reply that ended it. -/
theorem historyEnded_serveAll_iff
    (keepsUp : (room.cursors.get .backward).KeepsUp .backward earlier)
    (requests : List Request) :
    (room.serveAll requests).historyEnded = true ↔
      room.historyEnded = true ∨ Reply.OneEndsHistory earlier (room.replies requests) := by
  induction requests generalizing room earlier with
  | nil => exact (or_iff_left not_false).symm
  | cons request rest hypothesis =>
      have first := historyEnded_serve_iff keepsUp request
      have next := hypothesis (serve_keepsUp keepsUp request)
      show ((room.serve request).serveAll rest).historyEnded = true ↔ _
      rw [next, first, or_assoc, replies]
      cases room.reply? request with
      | some reply =>
          simp only [Option.some.injEq, exists_eq_left']
          rfl
      | none => simp

/-- History has ended after several replies if it had, or if one of them ended it as it came. -/
theorem historyEnded_receiveAll_iff
    (keepsUp : (room.cursors.get .backward).KeepsUp .backward earlier)
    (arrivals : List (Moment × Reply)) :
    (room.receiveAll arrivals).historyEnded = true ↔
      room.historyEnded = true ∨ Reply.OneEndsHistory earlier (arrivals.map Prod.snd) := by
  rw [← room.replies_ofReply arrivals]
  exact historyEnded_serveAll_iff keepsUp _

/-- Any of several replies may come first. -/
theorem exists_arriveAs_first {reply : Reply} (among : reply ∈ replies) :
    ∃ rest, ArriveAs replies ((⟨0, 0⟩, reply) :: rest) := by
  obtain ⟨before, after, rfl⟩ := List.append_of_mem among
  let rest : List (Moment × Reply) := (before ++ after).map fun other => (⟨0, 0⟩, other)
  have others : rest.map Prod.snd = before ++ after := by
    rw [List.map_map]
    exact List.map_id'' (fun _ => rfl) _
  refine ⟨rest, ?_⟩
  rw [ArriveAs, List.map_cons, others]
  exact List.perm_middle.symm

/-- In whatever order replies come, history has ended in the end if it had before, or if some reply
would end it coming first: unless the reply with the last word would not, while another would. -/
theorem historyEnded_receiveAll_of_settled
    (keepsUp : (room.cursors.get .backward).KeepsUp .backward earlier)
    (once : (replies.map (·.ticket)).Nodup)
    (arrive : ArriveAs replies arrivals)
    (settled : ∀ reply : Reply, reply.Decides .backward earlier replies →
      reply.page.chunk.isEmpty = true ∨ ∀ other ∈ replies, ¬other.EndsHistory earlier) :
    (room.receiveAll arrivals).historyEnded = true ↔
      room.historyEnded = true ∨ ∃ reply ∈ replies, reply.EndsHistory earlier := by
  rw [historyEnded_receiveAll_iff keepsUp]
  apply or_congr_right
  constructor
  · intro ends
    obtain ⟨reply, replyIn, endsFirst⟩ := ends.exists_mem
    exact ⟨reply, arrive.mem_iff.mp replyIn, endsFirst⟩
  · rintro ⟨other, otherIn, ends⟩
    rcases receiveAll_decided keepsUp arrivals with ⟨-, noneLatest⟩ | ⟨reply, decides, -⟩
    · exact absurd ends.latest (noneLatest other (arrive.mem_iff.mpr otherIn) ends.backward)
    · rcases settled reply (decides.perm arrive) with nothing | noneEnds
      · have onceHere : ((arrivals.map Prod.snd).map (·.ticket)).Nodup :=
          (arrive.map (·.ticket)).nodup_iff.mpr once
        exact decides.oneEndsHistory onceHere nothing
      · exact absurd ends (noneEnds other otherIn)

/-- The order shows in the end of history, unless history had ended anyway, the reply with the last
word ends it, or none of the replies would. -/
theorem historyEnded_receiveAll_orderless_iff
    (keepsUp : (room.cursors.get .backward).KeepsUp .backward earlier)
    (once : (replies.map (·.ticket)).Nodup) :
    (∀ arrivals others, ArriveAs replies arrivals → ArriveAs replies others →
      (room.receiveAll others).historyEnded = (room.receiveAll arrivals).historyEnded) ↔
      room.historyEnded = true ∨
        ∀ reply : Reply, reply.Decides .backward earlier replies →
          reply.page.chunk.isEmpty = true ∨ ∀ other ∈ replies, ¬other.EndsHistory earlier := by
  constructor
  · intro orderless
    by_contra unsettled
    obtain ⟨notYet, unsettled⟩ := not_or.mp unsettled
    push Not at unsettled
    obtain ⟨last, decides, something, other, otherIn, ends⟩ := unsettled
    -- With the last word spoken first history stays open, and with the empty page first it ends.
    obtain ⟨lastThen, lastFirst⟩ := exists_arriveAs_first decides.among
    obtain ⟨otherThen, otherFirst⟩ := exists_arriveAs_first otherIn
    have ended : (room.receiveAll ((⟨0, 0⟩, other) :: otherThen)).historyEnded = true := by
      rw [historyEnded_receiveAll_iff keepsUp]
      exact Or.inr (Or.inl ends)
    rw [orderless _ _ lastFirst otherFirst, historyEnded_receiveAll_iff keepsUp] at ended
    rcases ended with already | endsFirst | endsThen
    · exact notYet already
    · exact something endsFirst.nothing
    · have subset : lastThen.map Prod.snd ⊆ replies :=
        fun _ present => lastFirst.mem_iff.mp (List.mem_cons_of_mem _ present)
      exact decides.not_oneEndsHistory subset endsThen
  · intro settled arrivals others arrive othersArrive
    rcases settled with ended | settled
    · have stays : ∀ arrivals, (room.receiveAll arrivals).historyEnded = true :=
        fun arrivals => (historyEnded_receiveAll_iff keepsUp arrivals).mpr (Or.inl ended)
      rw [stays, stays]
    · rw [Bool.eq_iff_iff, historyEnded_receiveAll_of_settled keepsUp once arrive settled,
        historyEnded_receiveAll_of_settled keepsUp once othersArrive settled]

/-- Where no ticket is answered twice, a cursor ends up where the reply with the last word moves it,
or stays if there is none. -/
theorem receiveAll_of_once
    (keepsUp : (room.cursors.get direction).KeepsUp direction earlier)
    (once : (replies.map (·.ticket)).Nodup)
    (arrive : ArriveAs replies arrivals) :
    let turned := (room.receiveAll arrivals).cursors.get direction
    (∀ reply : Reply, reply.Decides direction earlier replies → turned.token = reply.page.next?) ∧
    ((∀ reply : Reply, ¬reply.Decides direction earlier replies) →
      turned = room.cursors.get direction) := by
  rcases receiveAll_decided keepsUp arrivals with ⟨stays, noneLatest⟩ | ⟨last, lastWord, token⟩
  · refine ⟨fun reply decides => ?_, fun _ => stays⟩
    have replyIn := arrive.mem_iff.mpr decides.among
    exact absurd decides.latest (noneLatest reply replyIn decides.sameDirection)
  · have lastDecides := lastWord.perm arrive
    refine ⟨fun reply decides => ?_, fun none => absurd lastDecides (none last)⟩
    rw [decides.unique lastDecides once]
    exact token

end

/-- Replies may come in any order, each ticket being answered once.  Whatever was asked of the room
before, and whatever the order and the times, each cursor gets the token of the page that was asked
for last in its direction, if that was asked for later than all pages that came before; if not, the
cursor stays as it is.  History has ended if it had, or if an empty page of it came before every
later one.  So the order shows there, unless history had ended anyway, the page with the last word
is empty, or no page is that would end it. -/
theorem receiveAll_inAnyOrder
    {origin : Origin}
    {requests : List Request}
    {room : Room}
    {replies : List Reply}
    (reached : origin.room.serveAll requests = room)
    (once : (replies.map (·.ticket)).Nodup) :
    let earlier := origin.room.replies requests
    (∀ arrivals, ArriveAs replies arrivals → ∀ direction,
      let turned := (room.receiveAll arrivals).cursors.get direction
      (∀ reply : Reply, reply.Decides direction earlier replies →
        turned.token = reply.page.next?) ∧
      ((∀ reply : Reply, ¬reply.Decides direction earlier replies) →
        turned = room.cursors.get direction) ∧
      ∀ others, ArriveAs replies others →
        ((room.receiveAll others).cursors.get direction).token = turned.token) ∧
    (∀ arrivals, (room.receiveAll arrivals).historyEnded = true ↔
      room.historyEnded = true ∨ Reply.OneEndsHistory earlier (arrivals.map Prod.snd)) ∧
    ((∀ arrivals others, ArriveAs replies arrivals → ArriveAs replies others →
        (room.receiveAll others).historyEnded = (room.receiveAll arrivals).historyEnded) ↔
      room.historyEnded = true ∨
        ∀ reply : Reply, reply.Decides .backward earlier replies →
          reply.page.chunk.isEmpty = true ∨ ∀ other ∈ replies, ¬other.EndsHistory earlier) := by
  intro earlier
  subst reached
  have keepsUp := origin.keepsUp requests
  refine ⟨fun arrivals arrive direction => ?_,
    historyEnded_receiveAll_iff (keepsUp .backward),
    historyEnded_receiveAll_orderless_iff (keepsUp .backward) once⟩
  obtain ⟨moves, stays⟩ := receiveAll_of_once (keepsUp direction) once arrive
  refine ⟨moves, stays, fun others othersArrive => ?_⟩
  obtain ⟨othersMove, othersStay⟩ := receiveAll_of_once (keepsUp direction) once othersArrive
  by_cases decided : ∃ reply : Reply, reply.Decides direction earlier replies
  · obtain ⟨reply, decides⟩ := decided
    exact (othersMove reply decides).trans (moves reply decides).symm
  · have undecided := not_exists.mp decided
    rw [othersStay undecided, stays undecided]

/-- Two pages of history, asked for one after the other. -/
def askingTwice : List Request := [.requestPage .backward 10, .requestPage .backward 10]

/-- A room of which nothing is known. -/
def unknown : Origin := .network 1 "!r:x" none .standard

/-- That room, with two requests in flight. -/
def askedTwice : Room := unknown.room.serveAll askingTwice

/-- An empty page in reply to the first request. -/
def emptyReply : Reply := ⟨⟨.backward, 1⟩, ⟨[], none, none⟩⟩

/-- A page with an event, and more to come, in reply to the second. -/
def fullReply : Reply :=
  ⟨⟨.backward, 2⟩, ⟨[(Event.bare "$a" "m.room.message").encode], none, some "t"⟩⟩

theorem receiveAll_inAnyOrder_twoReplies :
    unknown.room.serveAll askingTwice = askedTwice ∧
    ([emptyReply, fullReply].map (·.ticket)).Nodup ∧
    ∀ arrivals, ArriveAs [emptyReply, fullReply] arrivals →
      (askedTwice.receiveAll arrivals).cursors.backward.token = some "t" ∧
      (askedTwice.receiveAll arrivals).cursors.forward = askedTwice.cursors.forward := by
  have once : ([emptyReply, fullReply].map (·.ticket)).Nodup := by decide
  have reached : unknown.room.serveAll askingTwice = askedTwice := rfl
  have inAnyOrder := receiveAll_inAnyOrder reached once
  refine ⟨reached, once, fun arrivals arrive => ⟨?_, ?_⟩⟩
  · have last : fullReply.Decides .backward [] [emptyReply, fullReply] :=
      ⟨rfl, by simp, ⟨by decide, by simp⟩, by simp [emptyReply, fullReply]⟩
    exact (inAnyOrder.1 arrivals arrive .backward).1 fullReply last
  · refine (inAnyOrder.1 arrivals arrive .forward).2.1 fun reply decides => ?_
    have among := decides.among
    have sameDirection := decides.sameDirection
    simp only [List.mem_cons, List.not_mem_nil, or_false] at among
    rcases among with rfl | rfl <;> cases sameDirection

/-- Of two requests in flight the first is answered by an empty page, and the second by a page with
more to come.  History has ended if the empty page comes first, and has not if it comes last. -/
theorem receiveAll_endsHistory_byOrder :
    (unknown.room.requestPage .backward 10).1 = emptyReply.ticket ∧
    ((unknown.room.requestPage .backward 10).2.2.requestPage .backward 10).1 = fullReply.ticket ∧
    ArriveAs [emptyReply, fullReply] [(⟨5, 5⟩, emptyReply), (⟨6, 6⟩, fullReply)] ∧
    ArriveAs [emptyReply, fullReply] [(⟨5, 5⟩, fullReply), (⟨6, 6⟩, emptyReply)] ∧
    (askedTwice.receiveAll [(⟨5, 5⟩, emptyReply), (⟨6, 6⟩, fullReply)]).historyEnded = true ∧
    (askedTwice.receiveAll [(⟨5, 5⟩, fullReply), (⟨6, 6⟩, emptyReply)]).historyEnded = false :=
  ⟨rfl, rfl, .refl _, .swap _ _ _, by decide +kernel, by decide +kernel⟩

end Room

end RoomHistory
