import Std.Data.String.ToNat
import RoomHistory.Proofs.Room.Keeping
import RoomHistory.Proofs.Room.Refusing

/-!
# Every transaction is settled once

An event that waits is filed under its own type and found by the name of its transaction.  The
names tell the numbers of the transactions, so that no two transactions of a room share a name,
whatever the clock shows.  A ledger that is kept along the requests therefore balances: of the
transactions that were issued each one waits, or was confirmed, or was abandoned, and none comes
to two of these ends.
-/

namespace RoomHistory

namespace Outbox

theorem point_not_mem_repr (number : Nat) : '.' ∉ number.repr.toList := by
  rw [Nat.repr_eq_ofList_toDigits, String.toList_ofList]
  intro present
  have isDigit := Nat.isDigit_of_mem_toDigits (by decide : 0 < 10) (by decide) present
  exact absurd isDigit (by decide)

theorem point_not_mem_toString (now : Timestamp) : '.' ∉ (toString now).toList := by
  cases now with
  | ofNat since => exact point_not_mem_repr since
  | negSucc before =>
      show '.' ∉ ("-" ++ (before + 1).repr).toList
      rw [String.toList_append, List.mem_append, not_or]
      exact ⟨by decide, point_not_mem_repr (before + 1)⟩

/-- The name of a transaction tells its number, whenever it was started. -/
theorem transactionName_inj
    {now later : Timestamp}
    {number other : Nat}
    (same : transactionName now number = transactionName later other) :
    number = other := by
  have chars (now : Timestamp) (number : Nat) : (transactionName now number).toList =
      ('m' :: (toString now).toList) ++ '.' :: number.repr.toList := by
    simp only [transactionName, String.toList_append, List.append_assoc]
    rfl
  have noPoint : '.' ∉ 'm' :: (toString later).toList := by
    rw [List.mem_cons, not_or]
    exact ⟨by decide, point_not_mem_toString later⟩
  have sameChars := congrArg String.toList same.symm
  rw [chars, chars, List.append_cons_inj_of_notMem noPoint (point_not_mem_repr other)] at sameChars
  exact (Nat.repr_injective (String.toList_injective sameChars.2.2)).symm

/-- The events that wait. -/
def waiting (outbox : Outbox) : List OutboxEntry :=
  outbox.entries.values

/-- Every event that waits is filed under its own type. -/
def Files (outbox : Outbox) : Prop :=
  ∀ type entry, outbox.pending? type = some entry → entry.event.type = type

section

variable {outbox rest : Outbox} {entry : OutboxEntry} {transaction : String}

theorem files_empty : empty.Files := by
  intro type entry present
  cases present

theorem Files.mem_waiting_iff (files : outbox.Files) :
    entry ∈ outbox.waiting ↔ outbox.pending? entry.event.type = some entry := by
  rw [waiting, mem_values_iff]
  constructor
  · rintro ⟨type, present⟩
    rw [files type entry present]
    exact present
  · exact fun present => ⟨entry.event.type, present⟩

/-- No two events of one type wait. -/
theorem Files.nodup_types (files : outbox.Files) :
    (outbox.waiting.map (·.event.type)).Nodup := by
  have types : outbox.waiting.map (·.event.type) = outbox.entries.keys := by
    rw [waiting, values_eq_map_snd, List.map_map, ← Std.ExtTreeMap.map_fst_toList_eq_keys]
    apply List.map_congr_left
    rintro ⟨type, entry⟩ present
    exact files type entry (Std.ExtTreeMap.mem_toList_iff_getElem?_eq_some.mp present)
  rw [types]
  exact Std.ExtTreeMap.nodup_keys

theorem pending?_add (outbox : Outbox) (entry : OutboxEntry) (type : String) :
    (outbox.add entry).pending? type =
      if entry.event.type = type then some entry else outbox.pending? type := by
  rw [add, pending?, Std.ExtTreeMap.getElem?_insert]
  simp only [Std.LawfulEqCmp.compare_eq_iff_eq]
  rfl

theorem Files.add (files : outbox.Files) (entry : OutboxEntry) : (outbox.add entry).Files := by
  intro type other present
  rw [pending?_add] at present
  split at present
  next same =>
    rw [← Option.some.inj present]
    exact same
  next => exact files type other present

/-- An event has left the outbox, and no other. -/
structure Withdraws (entry : OutboxEntry) (outbox rest : Outbox) : Prop where
  waited : outbox.pending? entry.event.type = some entry
  gone : rest.pending? entry.event.type = none
  others : ∀ type, type ≠ entry.event.type → rest.pending? type = outbox.pending? type

/-- What is taken out under a transaction is the event that waits under it. -/
theorem Files.take?_some
    (files : outbox.Files)
    (taken : outbox.take? transaction = some (entry, rest)) :
    entry.transaction = transaction ∧ rest.started = outbox.started ∧
      Withdraws entry outbox rest := by
  rw [take?, Option.map_eq_some_iff] at taken
  obtain ⟨found, finds, same⟩ := taken
  obtain ⟨rfl, rfl⟩ := Prod.mk.inj same
  have present : found ∈ outbox.waiting := List.mem_of_find?_eq_some finds
  refine ⟨by simpa using List.find?_some finds, rfl, files.mem_waiting_iff.mp present, ?_, ?_⟩
  · exact Std.ExtTreeMap.getElem?_erase_self
  · intro type different
    rw [pending?, Std.ExtTreeMap.getElem?_erase, if_neg]
    · rfl
    · rw [Std.LawfulEqCmp.compare_eq_iff_eq]
      exact different.symm

theorem Withdraws.files (withdraws : Withdraws entry outbox rest) (files : outbox.Files) :
    rest.Files := by
  intro type other present
  by_cases same : type = entry.event.type
  · rw [same, withdraws.gone] at present
    cases present
  · rw [withdraws.others type same] at present
    exact files type other present

/-- Whatever else waited still waits. -/
theorem Withdraws.waiting
    (withdraws : Withdraws entry outbox rest)
    (files : outbox.Files) :
    outbox.waiting.Perm (entry :: rest.waiting) := by
  have restFiles := withdraws.files files
  have absent : entry ∉ rest.waiting := by
    rw [restFiles.mem_waiting_iff, withdraws.gone]
    exact (Option.some_ne_none entry).symm
  have nodup := List.Nodup.of_map _ files.nodup_types
  have nodupAfter := List.Nodup.of_map _ restFiles.nodup_types
  apply (List.perm_ext_iff_of_nodup nodup (List.nodup_cons.mpr ⟨absent, nodupAfter⟩)).mpr
  intro other
  rw [List.mem_cons, files.mem_waiting_iff, restFiles.mem_waiting_iff]
  by_cases same : other.event.type = entry.event.type
  · rw [same, withdraws.waited, withdraws.gone]
    simp [eq_comm]
  · have isOther : other ≠ entry := by
      rintro rfl
      exact same rfl
    simp [withdraws.others _ same, isOther]

/-- To take an event out again undoes that it was added where none of its type waited. -/
theorem withdraws_add (free : outbox.pending? entry.event.type = none) :
    Withdraws entry (outbox.add entry) outbox where
  waited := outbox.pending?_add_self entry
  gone := free
  others type different := by
    rw [pending?_add, if_neg different.symm]

/-- An event can be taken out under a transaction exactly if one waits under it. -/
theorem exists_take?_iff (outbox : Outbox) (transaction : String) :
    (∃ taken, outbox.take? transaction = some taken) ↔
      transaction ∈ outbox.waiting.map (·.transaction) := by
  rw [← Option.ne_none_iff_exists', ne_eq, take?, Option.map_eq_none_iff, find?,
    List.find?_eq_none, List.mem_map]
  simp [waiting]

end

end Outbox

/-- What the local user was told of the transactions of a room. -/
structure Ledger where
  issued : List OutboxEntry
  /-- The transactions that were confirmed. -/
  confirmed : List String
  /-- The transactions that were abandoned. -/
  abandoned : List String

namespace Ledger

/-- Nothing was issued. -/
def empty : Ledger := ⟨[], [], []⟩

/-- The ledger after a request that a room serves. -/
def note (ledger : Ledger) (room : Room) : Room.Request → Ledger
  | .issue now type stateKey content =>
      match room.issue now type stateKey content with
      | .ok (entry, _) => { ledger with issued := ledger.issued ++ [entry] }
      | .error _ => ledger
  | .confirm now transaction id =>
      match room.confirm now transaction id with
      | .ok _ => { ledger with confirmed := ledger.confirmed ++ [transaction] }
      | .error _ => ledger
  | .abandon transaction =>
      match room.abandon transaction with
      | .ok _ => { ledger with abandoned := ledger.abandoned ++ [transaction] }
      | .error _ => ledger
  | .insert _ _ | .insertValues _ _ | .sync _ _ _ | .requestPage _ _ | .receivePage _ _ _
  | .fetchPage _ _ _ _ | .state _ | .directoryEntry | .forgetState _ | .horizon => ledger

/-- The ledger after several requests. -/
def noteAll (ledger : Ledger) (room : Room) : List Room.Request → Ledger
  | [] => ledger
  | request :: later => (ledger.note room request).noteAll (room.serve request) later

/-- A transaction was issued, and neither confirmed nor abandoned. -/
def IsOpen (ledger : Ledger) (transaction : String) : Prop :=
  transaction ∈ ledger.issued.map (·.transaction) ∧
    transaction ∉ ledger.confirmed ∧ transaction ∉ ledger.abandoned

/-- The ledger agrees with what waits in an outbox. -/
structure Balances (ledger : Ledger) (outbox : Outbox) : Prop where
  files : outbox.Files
  numbered : ∀ entry ∈ ledger.issued, ∃ now number,
    number ≤ outbox.started ∧ entry.transaction = Outbox.transactionName now number
  distinct : (ledger.issued.map (·.transaction)).Nodup
  issued : outbox.waiting ⊆ ledger.issued
  ends : (ledger.issued.map (·.transaction)).Perm
    (outbox.waiting.map (·.transaction) ++ (ledger.confirmed ++ ledger.abandoned))

section

variable {ledger : Ledger} {outbox rest : Outbox} {entry : OutboxEntry} {transaction : String}

theorem balances_empty : empty.Balances .empty where
  files := Outbox.files_empty
  numbered _ present := absurd present List.not_mem_nil
  distinct := List.nodup_nil
  issued := List.Subset.refl []
  ends := List.Perm.refl []

/-- The transactions under which events wait are those that are open. -/
theorem Balances.mem_waiting_iff (balances : ledger.Balances outbox) :
    transaction ∈ outbox.waiting.map (·.transaction) ↔ ledger.IsOpen transaction := by
  have once := balances.ends.nodup_iff.mp balances.distinct
  have apart := (List.nodup_append'.mp once).2.2
  rw [IsOpen, ← not_or, ← List.mem_append, balances.ends.mem_iff,
    List.mem_append (s := outbox.waiting.map (·.transaction))]
  constructor
  · exact fun waits => ⟨Or.inl waits, fun settled => apart waits settled⟩
  · rintro ⟨waits | settled, unsettled⟩
    · exact waits
    · exact absurd settled unsettled

/-- An event is issued under a name that no transaction had before. -/
theorem Balances.issue
    {now : Timestamp}
    (balances : ledger.Balances outbox)
    (free : outbox.pending? entry.event.type = none)
    (named : entry.transaction = outbox.nextTransaction now) :
    { ledger with issued := ledger.issued ++ [entry] }.Balances (outbox.add entry) where
  files := balances.files.add entry
  numbered other present := by
    rcases List.mem_append.mp present with before | isEntry
    · obtain ⟨earlier, number, early, name⟩ := balances.numbered other before
      exact ⟨earlier, number, Nat.le_succ_of_le early, name⟩
    · rw [List.mem_singleton.mp isEntry]
      exact ⟨now, outbox.started + 1, Nat.le_refl _, named⟩
  distinct := by
    rw [List.map_append, List.nodup_append']
    refine ⟨balances.distinct, List.nodup_singleton _, ?_⟩
    rw [List.map_singleton, List.disjoint_singleton]
    intro present
    obtain ⟨other, issued, same⟩ := List.mem_map.mp present
    obtain ⟨earlier, number, early, name⟩ := balances.numbered other issued
    rw [name, named, Outbox.nextTransaction] at same
    have isNext := Outbox.transactionName_inj same
    omega
  issued other present := by
    have waiting := (Outbox.withdraws_add free).waiting (balances.files.add entry)
    rcases List.mem_cons.mp (waiting.mem_iff.mp present) with rfl | before
    · exact List.mem_append_right _ List.mem_cons_self
    · exact List.mem_append_left _ (balances.issued before)
  ends := by
    have waiting := (Outbox.withdraws_add free).waiting (balances.files.add entry)
    have names := waiting.map (·.transaction)
    rw [List.map_append]
    apply List.perm_append_comm.trans
    apply (balances.ends.cons entry.transaction).trans
    exact names.symm.append_right _

/-- A transaction whose event leaves the outbox is confirmed or abandoned. -/
theorem Balances.settle
    {later : Ledger}
    (balances : ledger.Balances outbox)
    (taken : outbox.take? transaction = some (entry, rest))
    (sameIssued : later.issued = ledger.issued)
    (oneMore : (later.confirmed ++ later.abandoned).Perm
      (transaction :: (ledger.confirmed ++ ledger.abandoned))) :
    later.Balances rest := by
  obtain ⟨named, sameStarted, withdraws⟩ := balances.files.take?_some taken
  have waiting := withdraws.waiting balances.files
  refine ⟨withdraws.files balances.files, ?_, ?_, ?_, ?_⟩
  · rw [sameIssued, sameStarted]
    exact balances.numbered
  · rw [sameIssued]
    exact balances.distinct
  · rw [sameIssued]
    intro other present
    exact balances.issued (waiting.mem_iff.mpr (List.mem_cons_of_mem entry present))
  · have names := waiting.map (·.transaction)
    rw [List.map_cons, named] at names
    rw [sameIssued]
    apply balances.ends.trans
    apply (names.append_right _).trans
    apply List.perm_middle.symm.trans
    exact oneMore.symm.append_left _

end

end Ledger

namespace Room

section

variable {room : Room} {ledger : Ledger}

/-- What a request does to the outbox is what its ledger notes. -/
theorem balances_serve
    (balances : ledger.Balances room.outbox)
    (request : Request) :
    (ledger.note room request).Balances (room.serve request).outbox := by
  cases request with
  | issue now type stateKey content =>
      rw [Ledger.note, serve, issue]
      cases waits : room.outbox.pending? type with
      | some entry => exact balances
      | none => exact balances.issue waits rfl
  | confirm now transaction id =>
      rw [Ledger.note, serve, confirm, takePending]
      cases taken : room.outbox.take? transaction with
      | none => exact balances
      | some result =>
          have oneMore : (ledger.confirmed ++ [transaction] ++ ledger.abandoned).Perm
              (transaction :: (ledger.confirmed ++ ledger.abandoned)) := by
            rw [List.append_assoc]
            exact List.perm_middle
          exact balances.settle taken rfl oneMore
  | abandon transaction =>
      rw [Ledger.note, serve, abandon, takePending]
      cases taken : room.outbox.take? transaction with
      | none => exact balances
      | some result =>
          have oneMore : (ledger.confirmed ++ (ledger.abandoned ++ [transaction])).Perm
              (transaction :: (ledger.confirmed ++ ledger.abandoned)) := by
            rw [← List.append_assoc]
            exact List.perm_append_singleton transaction _
          exact balances.settle taken rfl oneMore
  | fetchPage now server direction limit =>
      simp only [Ledger.note, serve, fetchPage]
      cases server room.id (room.requestPage direction limit).2.1 with
      | ok page => exact balances
      | error error => exact balances
  | insert now events => exact balances
  | insertValues now values => exact balances
  | sync now batch action => exact balances
  | requestPage direction limit => exact balances
  | receivePage now ticket page => exact balances
  | state type => exact balances
  | directoryEntry => exact balances
  | forgetState type => exact balances
  | horizon => exact balances

/-- Along the requests to a room its ledger balances. -/
theorem balances_serveAll
    (balances : ledger.Balances room.outbox)
    (requests : List Request) :
    (ledger.noteAll room requests).Balances (room.serveAll requests).outbox := by
  induction requests generalizing room ledger with
  | nil => exact balances
  | cons request later hypothesis => exact hypothesis (balances_serve balances request)

/-- Every transaction of a room comes to one end, and the ledger tells to which. -/
structure SettlesOnce (room : Room) (ledger : Ledger) : Prop where
  filed : ∀ type entry, room.pending? type = some entry → entry.event.type = type
  onePerType : (room.outbox.waiting.map (·.event.type)).Nodup
  distinct : (ledger.issued.map (·.transaction)).Nodup
  issued : room.outbox.waiting ⊆ ledger.issued
  /-- What was issued waits, or was confirmed, or was abandoned. -/
  ends : (ledger.issued.map (·.transaction)).Perm
    (room.outbox.waiting.map (·.transaction) ++ (ledger.confirmed ++ ledger.abandoned))
  issueFails : ∀ now type stateKey content,
    (∃ error, room.issue now type stateKey content = .error error) ↔
      ∃ entry ∈ room.outbox.waiting, entry.event.type = type
  confirmSucceeds : ∀ now transaction id,
    (∃ result, room.confirm now transaction id = .ok result) ↔ ledger.IsOpen transaction
  abandonSucceeds : ∀ transaction,
    (∃ result, room.abandon transaction = .ok result) ↔ ledger.IsOpen transaction
  /-- The event that is confirmed is the one that was issued under the transaction. -/
  confirms : ∀ now transaction id outcome later,
    room.confirm now transaction id = .ok (outcome, later) →
      ∃ entry ∈ ledger.issued, entry.transaction = transaction ∧
        Outbox.Withdraws entry room.outbox later.outbox
  abandons : ∀ transaction entry later,
    room.abandon transaction = .ok (entry, later) →
      entry ∈ ledger.issued ∧ entry.transaction = transaction ∧
        Outbox.Withdraws entry room.outbox later.outbox

theorem exists_takePending_iff (room : Room) (transaction : String) :
    (∃ result, room.takePending transaction = .ok result) ↔
      transaction ∈ room.outbox.waiting.map (·.transaction) := by
  rw [← Outbox.exists_take?_iff, takePending]
  cases room.outbox.take? transaction with
  | none => simp
  | some taken => simp

theorem exists_confirm_iff
    (room : Room)
    (now : Moment)
    (transaction : String)
    (id : EventId) :
    (∃ result, room.confirm now transaction id = .ok result) ↔
      ∃ result, room.takePending transaction = .ok result := by
  rw [confirm]
  cases room.takePending transaction with
  | error error =>
      constructor
      · rintro ⟨result, succeeds⟩
        cases succeeds
      · rintro ⟨result, succeeds⟩
        cases succeeds
  | ok taken => exact ⟨fun _ => ⟨taken, rfl⟩, fun _ => ⟨_, rfl⟩⟩

/-- An event that is taken out of the outbox of a room was issued under the transaction. -/
theorem takePending_withdraws
    {transaction : String}
    {entry : OutboxEntry}
    {later : Room}
    (balances : ledger.Balances room.outbox)
    (taken : room.takePending transaction = .ok (entry, later)) :
    entry ∈ ledger.issued ∧ entry.transaction = transaction ∧
      Outbox.Withdraws entry room.outbox later.outbox := by
  obtain ⟨rest, takes, rfl⟩ := takePending_ok taken
  obtain ⟨named, -, withdraws⟩ := balances.files.take?_some takes
  refine ⟨balances.issued (balances.files.mem_waiting_iff.mpr withdraws.waited), named, ?_⟩
  rw [change, takes]
  exact withdraws

/-- A room whose ledger balances settles every transaction once. -/
theorem settlesOnce_of_balances (balances : ledger.Balances room.outbox) :
    room.SettlesOnce ledger where
  filed := balances.files
  onePerType := balances.files.nodup_types
  distinct := balances.distinct
  issued := balances.issued
  ends := balances.ends
  issueFails now type stateKey content := by
    have waits : (∃ entry ∈ room.outbox.waiting, entry.event.type = type) ↔
        ∃ entry, room.outbox.pending? type = some entry := by
      constructor
      · rintro ⟨entry, present, rfl⟩
        exact ⟨entry, balances.files.mem_waiting_iff.mp present⟩
      · rintro ⟨entry, present⟩
        have filed := balances.files type entry present
        rw [← filed] at present
        exact ⟨entry, balances.files.mem_waiting_iff.mpr present, filed⟩
    rw [waits, issue]
    cases room.outbox.pending? type with
    | none => simp
    | some entry => simp
  confirmSucceeds now transaction id := by
    rw [exists_confirm_iff, exists_takePending_iff, balances.mem_waiting_iff]
  abandonSucceeds transaction := by
    rw [← balances.mem_waiting_iff]
    exact room.exists_takePending_iff transaction
  confirms now transaction id outcome later confirmed := by
    rw [confirm] at confirmed
    cases taken : room.takePending transaction with
    | error error =>
        rw [taken] at confirmed
        cases confirmed
    | ok result =>
        obtain ⟨entry, rest⟩ := result
        rw [taken] at confirmed
        cases confirmed
        have withdrawn := takePending_withdraws balances taken
        exact ⟨entry, withdrawn⟩
  abandons transaction entry later abandoned := takePending_withdraws balances abandoned

/-- However a room is made and whatever is asked of it, at whatever times, every transaction that
it issues comes to one end. -/
theorem Origin.serveAll_settlesOnce (origin : Origin) (requests : List Request) :
    (origin.room.serveAll requests).SettlesOnce
      (Ledger.empty.noteAll origin.room requests) := by
  have made : Ledger.empty.Balances origin.room.outbox := by
    cases origin with
    | network tag id user policy => exact Ledger.balances_empty
    | clientOnly tag id creator policy now => exact Ledger.balances_empty
  exact settlesOnce_of_balances (balances_serveAll made requests)

end

end Room

end RoomHistory
