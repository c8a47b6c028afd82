import Mathlib.Data.List.Induction
import RoomHistory.Directory.Placeholder
import RoomHistory.Proofs.Room.Changes

/-!
# Aliases grouped by their server

Aliases are filed under their servers one after another, and read out server by server.  What this
leaves is a stable grouping: the groups ascend by server, within each the aliases keep their
sequence and their repeats, and an alias without a server is left out.  There is only one such
grouping, since its first alias and, after that, the rest of it are determined.
-/

namespace RoomHistory

namespace DirectoryEntry

/-- The aliases of a server. -/
def aliasesOf (aliases : List String) (server : String) : List String :=
  aliases.filter fun address => serverOf? address == some server

/-- Aliases that all name a server, the servers ascending. -/
structure ServersAscend (aliases : List String) : Prop where
  served : ∀ address ∈ aliases, ∃ server, serverOf? address = some server
  ascending : aliases.Pairwise fun earlier later =>
    ∀ server other, serverOf? earlier = some server → serverOf? later = some other →
      server ≤ other

/-- Aliases grouped by their server, the servers ascending: of every server there are the same
aliases as before, in the same sequence. -/
structure GroupedByServer (aliases grouped : List String) : Prop extends ServersAscend grouped where
  stable : ∀ server, aliasesOf grouped server = aliasesOf aliases server

theorem aliasesOf_concat (aliases : List String) (address server : String) :
    aliasesOf (aliases ++ [address]) server =
      if serverOf? address = some server then aliasesOf aliases server ++ [address]
      else aliasesOf aliases server := by
  rw [aliasesOf, List.filter_append, List.filter_cons, List.filter_nil]
  by_cases serves : serverOf? address = some server <;> simp [serves, aliasesOf]

/-- Under every server the aliases are filed that name it. -/
theorem getD_aliasesByServer (aliases : List String) (server : String) :
    ((aliasesByServer aliases)[server]?).getD [] = aliasesOf aliases server := by
  induction aliases using List.reverseRecOn with
  | nil => rfl
  | append_singleton aliases address hypothesis =>
      rw [aliasesByServer, List.foldl_append, List.foldl_cons, List.foldl_nil, ← aliasesByServer,
        fileAlias, aliasesOf_concat]
      cases named : serverOf? address with
      | none => simpa using hypothesis
      | some other =>
          simp only
          rw [Std.ExtTreeMap.getElem?_insert]
          by_cases same : other = server
          · subst same
            simp [hypothesis]
          · simp [same, hypothesis]

/-- Read out server by server, the aliases are those of each server that is filed. -/
theorem flatten_values_aliasesByServer (aliases : List String) :
    (aliasesByServer aliases).values.flatten =
      (aliasesByServer aliases).keys.flatMap (aliasesOf aliases) := by
  rw [values_eq_map_snd, ← Std.ExtTreeMap.map_fst_toList_eq_keys, List.flatMap_map,
    ← List.flatMap_def]
  apply List.flatMap_congr
  rintro ⟨server, listed⟩ present
  rw [Std.ExtTreeMap.mem_toList_iff_getElem?_eq_some] at present
  rw [← getD_aliasesByServer, present, Option.getD_some]

section

variable {aliases servers : List String}

theorem mem_aliasesOf_iff {server address : String} :
    address ∈ aliasesOf aliases server ↔ address ∈ aliases ∧ serverOf? address = some server := by
  rw [aliasesOf, List.mem_filter, beq_iff_eq]

theorem aliasesOf_aliasesOf (aliases : List String) (other server : String) :
    aliasesOf (aliasesOf aliases other) server =
      if other = server then aliasesOf aliases server else [] := by
  by_cases same : other = server
  · rw [if_pos same, same]
    simp [aliasesOf]
  · rw [if_neg same]
    apply List.filter_eq_nil_iff.mpr
    intro address present
    rw [(mem_aliasesOf_iff.mp present).2, beq_iff_eq, Option.some_inj]
    exact same

/-- Of the aliases of different servers those of one server are its own. -/
theorem aliasesOf_flatMap
    (distinct : servers.Nodup)
    (server : String) :
    aliasesOf (servers.flatMap (aliasesOf aliases)) server =
      if server ∈ servers then aliasesOf aliases server else [] := by
  induction servers with
  | nil => rfl
  | cons other servers hypothesis =>
      obtain ⟨notLater, laterDistinct⟩ := List.nodup_cons.mp distinct
      have split : aliasesOf ((other :: servers).flatMap (aliasesOf aliases)) server =
          aliasesOf (aliasesOf aliases other) server ++
            aliasesOf (servers.flatMap (aliasesOf aliases)) server := by
        rw [List.flatMap_cons]
        exact List.filter_append ..
      rw [split, aliasesOf_aliasesOf, hypothesis laterDistinct]
      by_cases same : other = server
      · simp [← same, notLater]
      · simp [same, Ne.symm same]

/-- The aliases of servers, these ascending, are grouped by their server if every server that some
alias names is among them. -/
theorem groupedByServer_flatMap
    (ascending : servers.Pairwise (· < ·))
    (complete : ∀ server, server ∉ servers → aliasesOf aliases server = []) :
    GroupedByServer aliases (servers.flatMap (aliasesOf aliases)) where
  served address present := by
    obtain ⟨server, -, ofServer⟩ := List.mem_flatMap.mp present
    exact ⟨server, (mem_aliasesOf_iff.mp ofServer).2⟩
  stable server := by
    have distinct : servers.Nodup := ascending.imp String.ne_of_lt
    rw [aliasesOf_flatMap distinct]
    split
    next => rfl
    next unfiled => exact (complete server unfiled).symm
  ascending := by
    have named : ∀ {server other address}, address ∈ aliasesOf aliases server →
        serverOf? address = some other → other = server := fun ofServer found =>
      Option.some.inj (found.symm.trans (mem_aliasesOf_iff.mp ofServer).2)
    apply List.pairwise_flatMap.mpr
    constructor
    · intro server _
      apply List.pairwise_of_forall_mem_list
      intro earlier earlierIn later laterIn first second isFirst isSecond
      obtain rfl := named earlierIn isFirst
      obtain rfl := named laterIn isSecond
      exact String.le_refl _
    · apply ascending.imp
      intro server other before earlier earlierIn later laterIn first second isFirst isSecond
      obtain rfl := named earlierIn isFirst
      obtain rfl := named laterIn isSecond
      exact Std.le_of_lt before

end

/-- What is filed, read out server by server, is grouped. -/
theorem groupedByServer_values (aliases : List String) :
    GroupedByServer aliases (aliasesByServer aliases).values.flatten := by
  rw [flatten_values_aliasesByServer]
  apply groupedByServer_flatMap
  · apply Std.ExtTreeMap.ordered_keys.imp
    intro server other before
    exact compareOfLessAndEq_eq_lt.mp before
  · intro server unfiled
    rw [← getD_aliasesByServer, Std.ExtTreeMap.getElem?_eq_none, Option.getD_none]
    rw [← Std.ExtTreeMap.mem_keys]
    exact unfiled

theorem ServersAscend.tail
    {address : String}
    {rest : List String}
    (ascend : ServersAscend (address :: rest)) :
    ServersAscend rest where
  served other present := ascend.served other (List.mem_cons_of_mem address present)
  ascending := (List.pairwise_cons.mp ascend.ascending).2

theorem ServersAscend.head_le
    {address other server otherServer : String}
    {rest : List String}
    (ascend : ServersAscend (address :: rest))
    (named : serverOf? address = some server)
    (present : other ∈ address :: rest)
    (otherNamed : serverOf? other = some otherServer) :
    server ≤ otherServer := by
  rcases List.mem_cons.mp present with rfl | later
  · obtain rfl : server = otherServer := Option.some.inj (named.symm.trans otherNamed)
    exact String.le_refl server
  · exact (List.pairwise_cons.mp ascend.ascending).1 other later server otherServer named otherNamed

theorem aliasesOf_cons (address : String) (aliases : List String) (server : String) :
    aliasesOf (address :: aliases) server =
      if serverOf? address = some server then address :: aliasesOf aliases server
      else aliasesOf aliases server := by
  rw [aliasesOf, List.filter_cons]
  by_cases serves : serverOf? address = some server <;> simp [serves, aliasesOf]

/-- Aliases in the order of their servers are the same if of every server they are. -/
theorem ServersAscend.ext
    {left right : List String}
    (leftAscend : ServersAscend left)
    (rightAscend : ServersAscend right)
    (same : ∀ server, aliasesOf left server = aliasesOf right server) :
    left = right := by
  have given {aliases others : List String} {address server : String}
      (same : aliasesOf aliases server = aliasesOf others server)
      (present : address ∈ aliases) (named : serverOf? address = some server) :
      address ∈ others := by
    have ofServer := mem_aliasesOf_iff.mpr ⟨present, named⟩
    rw [same] at ofServer
    exact (mem_aliasesOf_iff.mp ofServer).1
  induction left generalizing right with
  | nil =>
      cases right with
      | nil => rfl
      | cons other right =>
          obtain ⟨server, named⟩ := rightAscend.served other List.mem_cons_self
          cases given (same server).symm List.mem_cons_self named
  | cons address left hypothesis =>
      obtain ⟨server, named⟩ := leftAscend.served address List.mem_cons_self
      have addressIn := given (same server) List.mem_cons_self named
      cases right with
      | nil => cases addressIn
      | cons other right =>
          obtain ⟨otherServer, otherNamed⟩ := rightAscend.served other List.mem_cons_self
          have otherIn := given (same otherServer).symm List.mem_cons_self otherNamed
          -- each list begins with the least server
          obtain rfl : server = otherServer :=
            String.le_antisymm (leftAscend.head_le named otherIn otherNamed)
              (rightAscend.head_le otherNamed addressIn named)
          have first := same server
          rw [aliasesOf_cons, aliasesOf_cons, if_pos named, if_pos otherNamed] at first
          obtain rfl : address = other := (List.cons.inj first).1
          congr 1
          apply hypothesis leftAscend.tail rightAscend.tail
          intro anyServer
          have sameOf := same anyServer
          rw [aliasesOf_cons, aliasesOf_cons] at sameOf
          split at sameOf
          next => exact (List.cons.inj sameOf).2
          next => exact sameOf

/-- There is only one way to group aliases by their server. -/
theorem groupedByServer_iff (aliases grouped : List String) :
    GroupedByServer aliases grouped ↔ grouped = (aliasesByServer aliases).values.flatten := by
  have filed := groupedByServer_values aliases
  constructor
  · intro isGrouped
    apply isGrouped.toServersAscend.ext filed.toServersAscend
    exact fun server => (isGrouped.stable server).trans (filed.stable server).symm
  · rintro rfl
    exact filed

end DirectoryEntry

end RoomHistory
