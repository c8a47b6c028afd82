import Mathlib.Data.List.Induction
import RoomHistory.Json.Record

/-!
# Fields of a record

An object shows under each key the last of the members that it was made from.  A record that is
given by name is read off its own fields: objects that agree on these are read alike, whatever else
they hold.  So what was written is read back, also with further members, as soon as each field is.
-/

namespace RoomHistory

open Json (lookup)

namespace Json

/-- The members with further ones, which replace those of the same keys. -/
def addMembers (further members : List (String × Json)) : List (String × Json) :=
  further.foldl (fun sorted member => insertMember member.1 member.2 sorted) members

/-- An object with further members; other values have none. -/
def withMembers (further : List (String × Json)) : Json → Json
  | .object members => .object (addMembers further members)
  | value => value

/-- Two lists of members show the same under some names. -/
def AgreeOn (names : List String) (left right : List (String × Json)) : Prop :=
  ∀ name ∈ names, lookup name left = lookup name right

/-- A written object is read with a result, also with members of other names added to it. -/
structure ReadsAs {α : Type} (read : Json → α) (names : List String) (written : Json) (result : α) :
    Prop where
  isObject : written.isObject = true
  alone : read written = result
  extended : ∀ further : List (String × Json), (∀ member ∈ further, member.1 ∉ names) →
    read (written.withMembers further) = result

section

variable {names : List String} {further members : List (String × Json)}

/-- What is read with any further members is read with none. -/
theorem ReadsAs.of_extended
    {α : Type}
    {read : Json → α}
    {written : Json}
    {result : α}
    (isObject : written.isObject = true)
    (extended : ∀ further : List (String × Json), (∀ member ∈ further, member.1 ∉ names) →
      read (written.withMembers further) = result) :
    ReadsAs read names written result where
  isObject := isObject
  alone := by
    have same : written.withMembers [] = written := by
      cases written <;> rfl
    rw [← same]
    exact extended [] (List.forall_mem_nil _)
  extended := extended

@[simp] theorem lookup_append (key : String) (left right : List (String × Json)) :
    lookup key (left ++ right) = (lookup key left).or (lookup key right) := by
  induction left with
  | nil => rfl
  | cons entry rest hypothesis =>
      rw [List.cons_append, lookup_cons, lookup_cons, hypothesis]
      split <;> rfl

theorem lookup_insertMember (key name : String) (value : Json) (members : List (String × Json)) :
    lookup key (insertMember name value members) =
      (lookup key [(name, value)]).or (lookup key members) := by
  rw [lookup_cons]
  split
  next same =>
    rw [← same, lookup_insertMember_self]
    rfl
  next differs =>
    rw [lookup_insertMember_of_ne (Ne.symm differs)]
    rfl

/-- Of members that are added one after another, the last under a key is found. -/
theorem lookup_addMembers (key : String) (further members : List (String × Json)) :
    lookup key (addMembers further members) =
      (lookup key further.reverse).or (lookup key members) := by
  induction further generalizing members with
  | nil => rfl
  | cons member rest hypothesis =>
      show lookup key (addMembers rest (insertMember member.1 member.2 members)) = _
      rw [hypothesis, lookup_insertMember, List.reverse_cons, lookup_append, Option.or_assoc]

@[simp] theorem lookup_sortMembers (key : String) (members : List (String × Json)) :
    lookup key (sortMembers members) = lookup key members.reverse := by
  have added : sortMembers members = addMembers members [] := rfl
  rw [added, lookup_addMembers, lookup_nil, Option.or_none]

@[simp] theorem lookup_member (key name : String) (value : Json) :
    lookup key (member name value) = if name = key then some value else none := rfl

@[simp] theorem lookup_optionalMember (key name : String) (value : Option Json) :
    lookup key (optionalMember name value) = if name = key then value else none := by
  cases value with
  | none => exact (ite_self none).symm
  | some value => rfl

@[simp] theorem reverse_member (name : String) (value : Json) :
    (member name value).reverse = member name value := rfl

@[simp] theorem reverse_optionalMember (name : String) (value : Option Json) :
    (optionalMember name value).reverse = optionalMember name value := by
  cases value <;> rfl

theorem lookup_eq_none {key : String} (absent : ∀ member ∈ members, member.1 ≠ key) :
    lookup key members = none := by
  induction members with
  | nil => rfl
  | cons member rest hypothesis =>
      obtain ⟨differs, absentThen⟩ := List.forall_mem_cons.mp absent
      rw [lookup_cons, if_neg differs, hypothesis absentThen]

/-- Members of other names change nothing under some names. -/
theorem agreeOn_addMembers
    (other : ∀ member ∈ further, member.1 ∉ names)
    (members : List (String × Json)) :
    AgreeOn names (addMembers further members) members := by
  intro name known
  have absent : ∀ member ∈ further.reverse, member.1 ≠ name := by
    rintro member present rfl
    exact other member (List.mem_reverse.mp present) known
  rw [lookup_addMembers, lookup_eq_none absent, Option.none_or]

/-- A member behind all others is added at the end. -/
theorem insertMember_of_last
    {key : String}
    (last : ∀ member ∈ members, compare member.1 key = .lt)
    (value : Json) :
    insertMember key value members = members ++ [(key, value)] := by
  induction members with
  | nil => rfl
  | cons member rest hypothesis =>
      obtain ⟨before, lastThen⟩ := List.forall_mem_cons.mp last
      have after : compare key member.1 = .gt := Std.OrientedCmp.gt_iff_lt.mpr before
      rw [insertMember, after, List.cons_append, hypothesis lastThen]

/-- Members by ascending key are in order already. -/
theorem sortMembers_of_ascending
    (ascending : members.Pairwise fun left right => compare left.1 right.1 = .lt) :
    sortMembers members = members := by
  induction members using List.reverseRecOn with
  | nil => rfl
  | append_singleton earlier member hypothesis =>
      rw [List.pairwise_append] at ascending
      obtain ⟨ascendingThen, -, before⟩ := ascending
      have sorted : sortMembers (earlier ++ [member]) =
          insertMember member.1 member.2 (sortMembers earlier) := List.foldl_append
      rw [sorted, hypothesis ascendingThen]
      exact insertMember_of_last (fun other present => before other present member
        (List.mem_singleton_self member)) member.2

end

end Json

namespace FieldReader

variable {α β : Type}

/-- Read off an object that agrees with the given members under some names, the fields give a value,
and the object stays for whoever reads on. -/
def Reads
    (reader : FieldReader α)
    (names : List String)
    (members : List (String × Json))
    (value : α) : Prop :=
  ∀ object, Json.AgreeOn names object members →
    reader (.named object) = some (value, .named object)

section

variable {first reader : FieldReader α} {next : α → FieldReader β} {read : Decoder α}
  {name : String} {names : List String} {members : List (String × Json)} {value : α} {later : β}

theorem reads_pure (value : α) (members : List (String × Json)) :
    Reads (pure value) [] members value :=
  fun _ _ => rfl

/-- One field and then others. -/
theorem Reads.bind
    (head : first.Reads [name] members value)
    (rest : (next value).Reads names members later) :
    (first >>= next).Reads (name :: names) members later := by
  intro object agree
  obtain ⟨agreeFirst, agreeRest⟩ := List.forall_mem_cons.mp agree
  show (first (.named object)).bind (fun found => next found.1 found.2) = _
  rw [head object (List.forall_mem_singleton.mpr agreeFirst)]
  exact rest object agreeRest

theorem reads_required
    (json : Json)
    (found : lookup name members = some json)
    (reading : read json = some value) :
    Reads (required name read) [name] members value := by
  intro object agree
  rw [required_named, agree name (List.mem_singleton_self name), found, Option.bind_some, reading]
  rfl

theorem reads_withDefault
    {default : α}
    (json : Json)
    (found : lookup name members = some json)
    (reading : read json = some value) :
    Reads (withDefault name default read) [name] members value := by
  intro object agree
  rw [withDefault_named, agree name (List.mem_singleton_self name), found]
  exact congrArg (Option.map (·, Fields.named object)) reading

theorem reads_withDefault_of_absent
    {default : α}
    (absent : lookup name members = none) :
    Reads (withDefault name default read) [name] members default := by
  intro object agree
  rw [withDefault_named, agree name (List.mem_singleton_self name), absent]

/-- A field that was left out where it has the default. -/
theorem reads_withDefault_unless
    {default : α}
    {omitted : Bool}
    (json : Json)
    (found : lookup name members = if omitted then none else some json)
    (isDefault : omitted = true → value = default)
    (reading : read json = some value) :
    Reads (withDefault name default read) [name] members value := by
  cases omitted with
  | true =>
      rw [isDefault rfl]
      exact reads_withDefault_of_absent found
  | false => exact reads_withDefault json found reading

/-- A field that was left out where it has no value. -/
theorem reads_optional
    (value : Option α)
    (write : α → Json)
    (found : lookup name members = value.map write)
    (reading : ∀ present ∈ value, nullable read (write present) = some (some present)) :
    Reads (optional name read) [name] members value := by
  cases value with
  | none => exact reads_withDefault_of_absent found
  | some present => exact reads_withDefault (write present) found (reading present rfl)

/-- A field that was written as null where it has no value. -/
theorem reads_optional_orNull
    (value : Option α)
    (write : α → Json)
    (found : lookup name members = some (.ofOption (value.map write)))
    (reading : ∀ present ∈ value, nullable read (write present) = some (some present)) :
    Reads (optional name read) [name] members value := by
  refine reads_withDefault (.ofOption (value.map write)) found ?_
  cases value with
  | none => rfl
  | some present => exact reading present rfl

/-- A text that was written as null where there is none. -/
theorem reads_text
    (text : Option String)
    (found : lookup name members = some (.nullableString text)) :
    Reads (optional name Decoder.string) [name] members text :=
  reads_optional_orNull text .string found fun _ _ => rfl

theorem reads_optionalByName
    {value : Option α}
    (reads : Reads (optional name read) [name] members value) :
    Reads (optionalByName name read) [name] members value := by
  intro object agree
  rw [optionalByName_named]
  exact reads object agree

/-- A record is read off any object that agrees with the given members under its names. -/
theorem Reads.decode_eq
    {object : List (String × Json)}
    (reads : reader.Reads names members value)
    (agree : Json.AgreeOn names object members) :
    reader.decode (.object object) = some value := by
  show (reader (.named object)).bind _ = some value
  rw [reads object agree]
  rfl

/-- A record whose fields are read off the written object is read off it, also with members of
other names. -/
theorem readsAs_of_reads
    (reads : reader.Reads names (Json.sortMembers members) value) :
    Json.ReadsAs reader.decode names (.ofMembers members) (some value) :=
  .of_extended rfl fun _ other => reads.decode_eq (Json.agreeOn_addMembers other _)

theorem decode_ofMembers
    (reads : reader.Reads names (Json.sortMembers members) value) :
    reader.decode (.ofMembers members) = some value :=
  (readsAs_of_reads reads).alone

end

end FieldReader

/-- A number of 64 bits with a sign. -/
def IsInt64 (number : Int) : Prop :=
  -(UInt64.size : Int) ≤ 2 * number ∧ 2 * number < UInt64.size

/-- A natural number of 64 bits. -/
def IsWord64 (number : Nat) : Prop :=
  number < UInt64.size

instance (number : Int) : Decidable (IsInt64 number) := inferInstanceAs (Decidable (_ ∧ _))

instance (number : Nat) : Decidable (IsWord64 number) := inferInstanceAs (Decidable (_ < _))

namespace Decoder

variable {α : Type} {decode : Decoder α}

theorem int64_int {number : Int} (fits : IsInt64 number) : int64 (.int number) = some number :=
  if_pos fits

theorem word64_nat {number : Nat} (fits : IsWord64 number) :
    word64 (.nat number) = some number := by
  have inRange : 0 ≤ (number : Int) ∧ (number : Int) < UInt64.size :=
    ⟨Int.natCast_nonneg number, Int.ofNat_lt.mpr fits⟩
  have asked : word64 (.nat number) = (some (number : Int)).bind fun value =>
      if 0 ≤ value ∧ value < UInt64.size then some value.toNat else none := rfl
  rw [asked, Option.bind_some, if_pos inRange, Int.toNat_natCast]

/-- Items that are each read back are read back together. -/
theorem items_map
    {write : α → Json}
    {values : List α}
    (reading : ∀ value ∈ values, decode (write value) = some value) :
    items decode (values.map write) = some values := by
  induction values with
  | nil => rfl
  | cons value rest hypothesis =>
      obtain ⟨readingFirst, readingRest⟩ := List.forall_mem_cons.mp reading
      rw [List.map_cons, items, readingFirst, hypothesis readingRest]
      rfl

theorem list_any (values : List Json) : list any (.array values) = some values := by
  have read : items any (values.map id) = some values := items_map fun _ _ => rfl
  rw [List.map_id] at read
  exact read

theorem list_strings (values : List String) : list string (.strings values) = some values :=
  items_map fun _ _ => rfl

/-- Members that are each read back are read back together, under their keys. -/
theorem members_map
    {write : α → Json}
    {values : List (String × α)}
    (reading : ∀ value, decode (write value) = some value) :
    members decode (values.map fun entry => (entry.1, write entry.2)) = some values := by
  induction values with
  | nil => rfl
  | cons entry rest hypothesis =>
      rw [List.map_cons, members, reading, hypothesis]
      rfl

end Decoder

end RoomHistory
