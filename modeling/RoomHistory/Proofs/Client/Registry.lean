import RoomHistory.Proofs.Client.Subscribing

/-!
# The registry of rooms

Rooms come to a registry when they are asked for, when a sync tells of them, or as local rooms, and
leave it when they are forgotten.  Each is filed under its own id, to which its timeline is bound as
well.  So what is listed follows from the rooms alone: whatever order they are gone through in, the
rooms of a membership come by ascending id, and all rooms by how late they were changed.
-/

namespace RoomHistory

section

variable {α : Type} {order : α → α → Ordering} [Std.TransCmp order] {listed sorted : List α}

theorem pairwise_mergeSort_isLE (listed : List α) :
    (listed.mergeSort fun left right => (order left right).isLE).Pairwise
      fun left right => (order left right).isLE = true := by
  apply List.pairwise_mergeSort
  · exact fun _ _ _ => Std.TransCmp.isLE_trans
  · intro left right
    rw [Bool.or_eq_true]
    by_cases before : (order left right).isLE = true
    · exact Or.inl before
    · right
      rw [Std.OrientedCmp.lt_of_not_isLE before]
      rfl

/-- Items that ascend strictly are what sorting makes of them in any order. -/
theorem mergeSort_eq_of_ascending
    (rearranged : listed.Perm sorted)
    (ascending : sorted.Pairwise fun left right => order left right = .lt) :
    listed.mergeSort (fun left right => (order left right).isLE) = sorted := by
  have perm := (List.mergeSort_perm listed fun left right => (order left right).isLE).trans
    rearranged
  have arranged : sorted.Pairwise fun left right => (order left right).isLE = true :=
    ascending.imp fun before => by rw [before]; rfl
  refine List.Perm.eq_of_pairwise ?_ (pairwise_mergeSort_isLE listed) arranged perm
  intro left right leftIn rightIn notAfter notBefore
  -- Of two items one comes strictly before the other, unless they are the same.
  have apart : ∀ ⦃first⦄, first ∈ sorted → ∀ ⦃second⦄, second ∈ sorted →
      first = second ∨ order first second = .lt ∨ order second first = .lt :=
    List.Pairwise.forall_of_forall_of_flip (fun _ _ => Or.inl rfl)
      (ascending.imp fun before => Or.inr (Or.inl before))
      (ascending.imp fun before => Or.inr (Or.inr before))
  rcases apart (perm.subset leftIn) rightIn with same | before | after
  · exact same
  · exact absurd before (Std.OrientedCmp.not_lt_of_isLE notBefore)
  · exact absurd after (Std.OrientedCmp.not_lt_of_isLE notAfter)

end

namespace Room

/-- The timeline of a room is bound to the room's id. -/
def IsBound (room : Room) : Prop :=
  room.timeline.room = some room.id

theorem IsBound.change {room : Room} (bound : room.IsBound) (single : Change) :
    (room.change single).IsBound := by
  cases single with
  | enter insertion => exact (room.timeline.applyTo_room insertion).trans bound
  | move told => exact bound
  | turn cursors => exact bound
  | post pending => exact bound
  | withdraw transaction => exact bound
  | read type => exact bound
  | forget type => exact bound
  | look => exact bound

theorem IsBound.changeAll {room : Room} (bound : room.IsBound) (changes : List Change) :
    (room.changeAll changes).IsBound := by
  induction changes generalizing room with
  | nil => exact bound
  | cons single rest hypothesis => exact hypothesis (bound.change single)

/-- Rooms are made bound to their ids, and no request binds them to others. -/
theorem isBound_invariant : Room.Invariant (fun _ => True) IsBound where
  empty _ _ _ _ := rfl
  clientOnly tag id creator policy now _ := by
    let opened := Timeline.empty tag policy (some id)
    exact opened.applyTo_room
      (.arriving ⟨some id, creator, none, now.arrival⟩ now.change [Room.creation id creator])
  serve room request bound _ := by
    rw [serve_eq]
    exact bound.changeAll _

/-- Rooms by how late they were changed, the last first, and then by ascending id. -/
def latestFirst : Room → Room → Ordering :=
  compareLex (fun left right => compareOn (·.timeline.changedAt) right left) (compareOn (·.id))

instance : Std.TransCmp latestFirst := by
  unfold latestFirst
  infer_instance

/-- One room comes before another among all: it was changed later, or at the same time and has the
smaller id. -/
def ComesBefore (left right : Room) : Prop :=
  right.timeline.changedAt < left.timeline.changedAt ∨
    left.timeline.changedAt = right.timeline.changedAt ∧ left.id < right.id

theorem latestFirst_eq_lt_iff (left right : Room) :
    latestFirst left right = .lt ↔ left.ComesBefore right := by
  have idsCompare : compare left.id right.id = .lt ↔ left.id < right.id :=
    compareOfLessAndEq_eq_lt
  have timesCompare : compare right.timeline.changedAt left.timeline.changedAt = .lt ↔
      right.timeline.changedAt < left.timeline.changedAt := compareOfLessAndEq_eq_lt
  have sameTime : compare right.timeline.changedAt left.timeline.changedAt = .eq ↔
      left.timeline.changedAt = right.timeline.changedAt :=
    Std.LawfulEqCmp.compare_eq_iff_eq.trans eq_comm
  simp only [latestFirst, compareLex, compareOn, Ordering.then_eq_lt, idsCompare, timesCompare,
    sameTime, ComesBefore]

end Room

namespace Client

/-- A list names every room of a client once, in any order. -/
structure Lists (client : Client) (rooms : List Room) : Prop where
  nodup : rooms.Nodup
  mem_iff : ∀ room, room ∈ rooms ↔ ∃ id, client.room? id = some room

/-- The rooms in which the local user has a membership, or has none. -/
def roomsOf (client : Client) (membership : Option Membership) : List Room :=
  client.rooms.values.filter (·.membership == membership)

section

variable {client : Client} {rooms others : List Room}

/-- Two lists of all rooms differ at most in their order. -/
theorem Lists.perm (lists : client.Lists rooms) (alsoLists : client.Lists others) :
    rooms.Perm others := by
  rw [List.perm_ext_iff_of_nodup lists.nodup alsoLists.nodup]
  intro room
  rw [lists.mem_iff, alsoLists.mem_iff]

theorem Lists.of_perm (lists : client.Lists rooms) (rearranged : others.Perm rooms) :
    client.Lists others where
  nodup := rearranged.nodup_iff.mpr lists.nodup
  mem_iff room := by rw [rearranged.mem_iff, lists.mem_iff]

theorem lists_values (filed : client.Filed) : client.Lists client.rooms.values where
  nodup := (values_ascending filed).imp fun before same => by
    rw [same] at before
    exact String.lt_irrefl _ before
  mem_iff _ := mem_values_iff

/-- Rooms of one id are one room. -/
theorem Lists.eq_of_id
    (lists : client.Lists rooms)
    (filed : client.Filed)
    {left right : Room}
    (leftIn : left ∈ rooms)
    (rightIn : right ∈ rooms)
    (same : left.id = right.id) :
    left = right := by
  obtain ⟨leftId, leftFound⟩ := (lists.mem_iff left).mp leftIn
  obtain ⟨rightId, rightFound⟩ := (lists.mem_iff right).mp rightIn
  rw [← filed leftId left leftFound, same, filed rightId right rightFound] at leftFound
  exact Option.some.inj (leftFound.symm.trans rightFound)

theorem roomsLatestFirst_perm (client : Client) :
    client.roomsLatestFirst.Perm client.rooms.values :=
  List.mergeSort_perm _ _

/-- Of all rooms, each comes strictly before the next. -/
theorem roomsLatestFirst_ascending (filed : client.Filed) :
    client.roomsLatestFirst.Pairwise fun left right => Room.latestFirst left right = .lt := by
  have lists : client.Lists client.roomsLatestFirst :=
    (lists_values filed).of_perm client.roomsLatestFirst_perm
  have arranged : client.roomsLatestFirst.Pairwise fun left right =>
      (Room.latestFirst left right).isLE = true :=
    pairwise_mergeSort_isLE client.rooms.values
  refine (arranged.and lists.nodup).imp_of_mem ?_
  rintro left right leftIn rightIn ⟨notAfter, differs⟩
  rcases Ordering.isLE_iff_eq_lt_or_eq_eq.mp notAfter with before | equal
  · exact before
  · rw [Room.latestFirst, compareLex_eq_eq] at equal
    exact absurd (lists.eq_of_id filed leftIn rightIn
      (Std.LawfulEqCmp.eq_of_compare equal.2)) differs

/-- Whatever order the rooms are gone through in, they are listed in one order. -/
theorem mergeSort_latestFirst
    (filed : client.Filed)
    (lists : client.Lists rooms) :
    rooms.mergeSort changedNoEarlier = client.roomsLatestFirst := by
  have byOrder : changedNoEarlier = fun left right => (Room.latestFirst left right).isLE := rfl
  rw [byOrder]
  exact mergeSort_eq_of_ascending
    ((lists.perm (lists_values filed)).trans client.roomsLatestFirst_perm.symm)
    (roomsLatestFirst_ascending filed)

/-- Likewise those of a membership. -/
theorem mergeSort_roomsOf
    (filed : client.Filed)
    (lists : client.Lists rooms)
    (membership : Option Membership) :
    (rooms.filter (·.membership == membership)).mergeSort
        (fun left right => (compareOn Room.id left right).isLE) =
      client.roomsOf membership := by
  have ascending : client.rooms.values.Pairwise fun left right =>
      compareOn Room.id left right = .lt :=
    (values_ascending filed).imp compareOfLessAndEq_eq_lt.mpr
  exact mergeSort_eq_of_ascending ((lists.perm (lists_values filed)).filter _)
    (ascending.filter _)

theorem mem_roomsOf_iff {membership : Option Membership} {room : Room} :
    room ∈ client.roomsOf membership ↔
      (∃ id, client.room? id = some room) ∧ room.membership = membership := by
  rw [roomsOf, List.mem_filter, beq_iff_eq]
  exact and_congr_left' mem_values_iff

theorem roomsOf_disjoint {first second : Option Membership} (differ : first ≠ second) :
    List.Disjoint (client.roomsOf first) (client.roomsOf second) := by
  intro room isFirst isSecond
  exact differ ((mem_roomsOf_iff.mp isFirst).2.symm.trans (mem_roomsOf_iff.mp isSecond).2)

/-- The rooms of each membership and those of none are all rooms. -/
theorem lists_byMembership (filed : client.Filed) :
    client.Lists ([some .join, some .leave, some .invite, none].flatMap client.roomsOf) where
  nodup := by
    rw [List.nodup_flatMap]
    refine ⟨fun _ _ => (lists_values filed).nodup.filter _, ?_⟩
    have apart : [some Membership.join, some .leave, some .invite, none].Nodup := by decide
    exact apart.imp roomsOf_disjoint
  mem_iff room := by
    have known : room.membership ∈ [some Membership.join, some .leave, some .invite, none] := by
      cases room.membership with
      | none => decide
      | some told => cases told <;> decide
    simp only [List.mem_flatMap, mem_roomsOf_iff]
    exact ⟨fun ⟨_, _, present, _⟩ => present, fun present => ⟨_, known, present, rfl⟩⟩

end

/-- After any requests, each room of a client is filed under its own id, to which its timeline is
bound.  The rooms of the memberships have no room in common and ascend by id, and with the rooms of
no membership they are all rooms.  The list of all rooms names each once, the last changed first.
None of these lists depends on the order in which the rooms are gone through. -/
theorem serveAll_registers (settings : ClientSettings) (requests : List Request) :
    let client := (ofSettings settings).serveAll requests
    (∀ id room, client.room? id = some room → room.id = id ∧ room.timeline.room = some id) ∧
    (∀ first second, first ≠ second →
      List.Disjoint (client.roomsWith first) (client.roomsWith second)) ∧
    (∀ membership,
      (client.roomsWith membership).Pairwise fun left right => left.id < right.id) ∧
    client.Lists (client.roomsWith .join ++ client.roomsWith .leave ++ client.roomsWith .invite ++
      client.roomsOf none) ∧
    client.Lists client.roomsLatestFirst ∧
    client.roomsLatestFirst.Pairwise Room.ComesBefore ∧
    ∀ rooms, client.Lists rooms →
      (∀ membership, (rooms.filter (·.membership == some membership)).mergeSort
        (fun left right => (compare left.id right.id).isLE) = client.roomsWith membership) ∧
      rooms.mergeSort changedNoEarlier = client.roomsLatestFirst := by
  intro client
  have houses : client.Houses Room.IsBound :=
    (houses_ofSettings _ settings).serveAll Room.isBound_invariant fun _ _ => trivial
  have filed := houses.filed
  refine ⟨fun id room present => ?_, fun first second differ => ?_, fun membership => ?_, ?_,
    (lists_values filed).of_perm client.roomsLatestFirst_perm, ?_, fun rooms lists => ?_⟩
  · have own := filed id room present
    exact ⟨own, own ▸ houses.holds id room present⟩
  · exact roomsOf_disjoint fun same => differ (Option.some.inj same)
  · exact (values_ascending filed).filter _
  · have all := lists_byMembership filed
    simp only [List.flatMap_cons, List.flatMap_nil, List.append_nil, ← List.append_assoc] at all
    exact all
  · exact (roomsLatestFirst_ascending filed).imp (Room.latestFirst_eq_lt_iff _ _).mp
  · exact ⟨fun membership => mergeSort_roomsOf filed lists membership,
      mergeSort_latestFirst filed lists⟩

/-- Rooms that came in all ways, of which one was left again and another one was changed last. -/
def crossing : List Request :=
  let nothing : RoomBatch := ⟨[], [], [], [], none⟩
  [.ensureRoom "!d",
    .deliver (fun _ _ => ⟨5, 5⟩) ⟨none, ⟨.ofList [("!c", nothing), ("!b", nothing)], ∅, ∅⟩⟩,
    .openLocalRoom ⟨7, 7⟩ "!a",
    .deliver (fun _ _ => ⟨9, 9⟩) ⟨none, ⟨∅, .ofList [("!c", nothing)], ∅⟩⟩,
    .room "!b" (.insert ⟨8, 8⟩ [Event.bare "$m" "m.room.message"])]

theorem serveAll_registers_crossing :
    let client := (ofSettings .standard).serveAll crossing
    client.Lists client.rooms.values.reverse ∧
    (client.rooms.values.reverse.filter (·.membership == some .join)).mergeSort
      (fun left right => (compare left.id right.id).isLE) = client.roomsWith .join ∧
    client.rooms.values.reverse.mergeSort changedNoEarlier = client.roomsLatestFirst ∧
    client.rooms.values.map (·.id) = ["!a", "!b", "!c", "!d"] ∧
    (client.roomsWith .join).map (·.id) = ["!a", "!b"] := by
  intro client
  obtain ⟨-, -, -, -, lists, -, regardless⟩ := serveAll_registers .standard crossing
  have reversed : client.Lists client.rooms.values.reverse :=
    lists.of_perm ((List.reverse_perm _).trans client.roomsLatestFirst_perm.symm)
  obtain ⟨joined, all⟩ := regardless _ reversed
  exact ⟨reversed, joined .join, all, by decide +kernel, by decide +kernel⟩

end Client

end RoomHistory
