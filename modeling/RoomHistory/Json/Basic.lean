import RoomHistory.Number.Binary64

/-!
# JSON values

A value holds an integer exactly and any other number as a binary word.  An object lists its
members by strictly ascending key, so that two objects with the same members are the same value.
Two values are equal (`==`) when they agree everywhere, numbers with a fraction being compared
as numbers: the two zeros are equal, and an integer never equals a word.
-/

namespace RoomHistory

/-- A number of a JSON text. -/
inductive JsonNumber where
  /-- A literal without fraction and exponent. -/
  | int (value : Int)
  /-- Any other literal. -/
  | float (word : Binary64)
  deriving DecidableEq

namespace JsonNumber

/-- Equality of numbers of one sort. -/
def beq : JsonNumber → JsonNumber → Bool
  | .int left, .int right => decide (left = right)
  | .float left, .float right => left == right
  | _, _ => false

instance : BEq JsonNumber := ⟨beq⟩

@[simp] theorem int_beq_int (left right : Int) :
    (JsonNumber.int left == JsonNumber.int right) = decide (left = right) := rfl

@[simp] theorem float_beq_float (left right : Binary64) :
    (JsonNumber.float left == JsonNumber.float right) = (left == right) := rfl

@[simp] theorem beq_self (number : JsonNumber) : (number == number) = true := by
  cases number <;> simp

theorem beq_comm (left right : JsonNumber) : (left == right) = (right == left) := by
  cases left with
  | int left =>
      cases right with
      | int right => simp [eq_comm]
      | float right => rfl
  | float left =>
      cases right with
      | int right => rfl
      | float right => exact Binary64.beq_comm left right

end JsonNumber

/-- A JSON value. -/
inductive Json where
  | null
  | bool (value : Bool)
  | number (value : JsonNumber)
  | string (value : String)
  | array (items : List Json)
  /-- The members of an object, by strictly ascending key. -/
  | object (members : List (String × Json))

namespace Json

/-- An integer as a value. -/
def int (value : Int) : Json := .number (.int value)

/-- A natural number as a value. -/
def nat (value : Nat) : Json := .int value

/-- A value or null. -/
def ofOption : Option Json → Json
  | some value => value
  | none => .null

mutual

/-- Whether two values agree everywhere, given when two numbers agree. -/
def agree (numbers : JsonNumber → JsonNumber → Bool) : Json → Json → Bool
  | .null, .null => true
  | .bool left, .bool right => left == right
  | .number left, .number right => numbers left right
  | .string left, .string right => left == right
  | .array left, .array right => agreeItems numbers left right
  | .object left, .object right => agreeMembers numbers left right
  | _, _ => false

/-- Whether two lists of values agree item by item. -/
def agreeItems (numbers : JsonNumber → JsonNumber → Bool) : List Json → List Json → Bool
  | [], [] => true
  | left :: lefts, right :: rights => agree numbers left right && agreeItems numbers lefts rights
  | _, _ => false

/-- Whether two lists of members agree key by key and value by value. -/
def agreeMembers (numbers : JsonNumber → JsonNumber → Bool) :
    List (String × Json) → List (String × Json) → Bool
  | [], [] => true
  | (leftKey, left) :: lefts, (rightKey, right) :: rights =>
      leftKey == rightKey && (agree numbers left right && agreeMembers numbers lefts rights)
  | _, _ => false

end

mutual

/-- A value agrees with itself when every number does. -/
theorem agree_self {numbers : JsonNumber → JsonNumber → Bool}
    (reflexive : ∀ number, numbers number number = true) :
    (value : Json) → agree numbers value value = true
  | .null => rfl
  | .bool _ => by simp [agree]
  | .number _ => by simp [agree, reflexive]
  | .string _ => by simp [agree]
  | .array items => by simp [agree, agreeItems_self reflexive items]
  | .object members => by simp [agree, agreeMembers_self reflexive members]

/-- A list of values agrees with itself when every number does. -/
theorem agreeItems_self {numbers : JsonNumber → JsonNumber → Bool}
    (reflexive : ∀ number, numbers number number = true) :
    (items : List Json) → agreeItems numbers items items = true
  | [] => rfl
  | item :: rest => by
      simp [agreeItems, agree_self reflexive item, agreeItems_self reflexive rest]

/-- A list of members agrees with itself when every number does. -/
theorem agreeMembers_self {numbers : JsonNumber → JsonNumber → Bool}
    (reflexive : ∀ number, numbers number number = true) :
    (members : List (String × Json)) → agreeMembers numbers members members = true
  | [] => rfl
  | (_, value) :: rest => by
      simp [agreeMembers, agree_self reflexive value, agreeMembers_self reflexive rest]

end

mutual

/-- Which of two values stands first makes no difference when it makes none among numbers. -/
theorem agree_comm {numbers : JsonNumber → JsonNumber → Bool}
    (symmetric : ∀ left right, numbers left right = numbers right left) :
    (left right : Json) → agree numbers left right = agree numbers right left
  | .null, right => by cases right <;> rfl
  | .bool left, right => by
      cases right with
      | bool right => exact BEq.comm
      | _ => rfl
  | .number left, right => by
      cases right with
      | number right => exact symmetric left right
      | _ => rfl
  | .string left, right => by
      cases right with
      | string right => exact BEq.comm
      | _ => rfl
  | .array items, right => by
      cases right with
      | array others => exact agreeItems_comm symmetric items others
      | _ => rfl
  | .object members, right => by
      cases right with
      | object others => exact agreeMembers_comm symmetric members others
      | _ => rfl

/-- Which of two lists of values stands first makes no difference when it makes none among
numbers. -/
theorem agreeItems_comm {numbers : JsonNumber → JsonNumber → Bool}
    (symmetric : ∀ left right, numbers left right = numbers right left) :
    (left right : List Json) → agreeItems numbers left right = agreeItems numbers right left
  | [], right => by cases right <;> rfl
  | item :: rest, right => by
      cases right with
      | nil => rfl
      | cons other others =>
          rw [agreeItems, agreeItems, agree_comm symmetric item other,
            agreeItems_comm symmetric rest others]

/-- Which of two lists of members stands first makes no difference when it makes none among
numbers. -/
theorem agreeMembers_comm {numbers : JsonNumber → JsonNumber → Bool}
    (symmetric : ∀ left right, numbers left right = numbers right left) :
    (left right : List (String × Json)) →
      agreeMembers numbers left right = agreeMembers numbers right left
  | [], right => by cases right <;> rfl
  | (key, value) :: rest, right => by
      cases right with
      | nil => rfl
      | cons other others =>
          obtain ⟨otherKey, otherValue⟩ := other
          rw [agreeMembers, agreeMembers, BEq.comm, agree_comm symmetric value otherValue,
            agreeMembers_comm symmetric rest others]

end

mutual

/-- Values that agree are the same when numbers that agree are. -/
theorem eq_of_agree {numbers : JsonNumber → JsonNumber → Bool}
    (exact : ∀ left right, numbers left right = true → left = right) :
    (left right : Json) → agree numbers left right = true → left = right
  | .null, right, agreement => by cases right <;> simp_all [agree]
  | .bool _, right, agreement => by cases right <;> simp_all [agree]
  | .number left, right, agreement => by
      cases right with
      | number right => rw [exact left right (by simpa [agree] using agreement)]
      | _ => simp [agree] at agreement
  | .string _, right, agreement => by cases right <;> simp_all [agree]
  | .array left, right, agreement => by
      cases right with
      | array right => rw [eq_of_agreeItems exact left right (by simpa [agree] using agreement)]
      | _ => simp [agree] at agreement
  | .object left, right, agreement => by
      cases right with
      | object right => rw [eq_of_agreeMembers exact left right (by simpa [agree] using agreement)]
      | _ => simp [agree] at agreement

/-- Lists of values that agree are the same when numbers that agree are. -/
theorem eq_of_agreeItems {numbers : JsonNumber → JsonNumber → Bool}
    (exact : ∀ left right, numbers left right = true → left = right) :
    (left right : List Json) → agreeItems numbers left right = true → left = right
  | [], right, agreement => by cases right <;> simp_all [agreeItems]
  | item :: rest, right, agreement => by
      cases right with
      | nil => simp [agreeItems] at agreement
      | cons other others =>
          simp only [agreeItems, Bool.and_eq_true] at agreement
          rw [eq_of_agree exact item other agreement.1,
            eq_of_agreeItems exact rest others agreement.2]

/-- Lists of members that agree are the same when numbers that agree are. -/
theorem eq_of_agreeMembers {numbers : JsonNumber → JsonNumber → Bool}
    (exact : ∀ left right, numbers left right = true → left = right) :
    (left right : List (String × Json)) → agreeMembers numbers left right = true → left = right
  | [], right, agreement => by cases right <;> simp_all [agreeMembers]
  | (key, value) :: rest, right, agreement => by
      cases right with
      | nil => simp [agreeMembers] at agreement
      | cons other others =>
          obtain ⟨otherKey, otherValue⟩ := other
          simp only [agreeMembers, Bool.and_eq_true, beq_iff_eq] at agreement
          rw [agreement.1, eq_of_agree exact value otherValue agreement.2.1,
            eq_of_agreeMembers exact rest others agreement.2.2]

end

/-- Values are equal when they agree, numbers being compared as numbers. -/
instance : BEq Json := ⟨agree (· == ·)⟩

/-- Values are the same when they agree, numbers being the same. -/
theorem agree_eq_iff (left right : Json) :
    agree (fun left right => decide (left = right)) left right = true ↔ left = right :=
  ⟨eq_of_agree (by simp) left right, fun same => same ▸ agree_self (by simp) left⟩

instance : DecidableEq Json := fun left right => decidable_of_iff _ (agree_eq_iff left right)

@[simp] theorem beq_self (value : Json) : (value == value) = true :=
  agree_self (by simp) value

theorem beq_comm (left right : Json) : (left == right) = (right == left) :=
  agree_comm JsonNumber.beq_comm left right

instance : Inhabited Json := ⟨.null⟩

/-- Adds or replaces a member of a list with ascending keys. -/
def insertMember (key : String) (value : Json) : List (String × Json) → List (String × Json)
  | [] => [(key, value)]
  | (otherKey, other) :: rest =>
      match compare key otherKey with
      | .lt => (key, value) :: (otherKey, other) :: rest
      | .eq => (key, value) :: rest
      | .gt => (otherKey, other) :: insertMember key value rest

/-- The members in ascending order of key, the last of a repeated key winning. -/
def sortMembers (members : List (String × Json)) : List (String × Json) :=
  members.foldl (fun sorted member => insertMember member.1 member.2 sorted) []

/-- The object with the given members, the last of a repeated key winning. -/
def ofMembers (members : List (String × Json)) : Json :=
  .object (sortMembers members)

/-- The value filed under a key in a list of members. -/
def lookup (key : String) : List (String × Json) → Option Json
  | [] => none
  | (otherKey, value) :: rest => if otherKey = key then some value else lookup key rest

/-- The member of an object under a key; other values have none. -/
def member? (key : String) : Json → Option Json
  | .object members => lookup key members
  | _ => none

/-- The text of a string. -/
def string? : Json → Option String
  | .string value => some value
  | _ => none

/-- The items of an array. -/
def array? : Json → Option (List Json)
  | .array items => some items
  | _ => none

/-- Whether the value is an object. -/
def isObject : Json → Bool
  | .object _ => true
  | _ => false

/-- What sort of value this is, in words. -/
def kind : Json → String
  | .null => "null"
  | .bool _ => "a boolean"
  | .number _ => "a number"
  | .string _ => "a string"
  | .array _ => "an array"
  | .object _ => "an object"

@[simp] theorem member?_object (key : String) (members : List (String × Json)) :
    (Json.object members).member? key = lookup key members := rfl

@[simp] theorem lookup_nil (key : String) : lookup key [] = none := rfl

theorem lookup_cons (key otherKey : String) (value : Json) (rest : List (String × Json)) :
    lookup key ((otherKey, value) :: rest) =
      if otherKey = key then some value else lookup key rest := rfl

/-- A member just added is found under its key. -/
@[simp] theorem lookup_insertMember_self
    (key : String) (value : Json) (members : List (String × Json)) :
    lookup key (insertMember key value members) = some value := by
  induction members with
  | nil => simp [insertMember, lookup]
  | cons entry rest hypothesis =>
      obtain ⟨otherKey, other⟩ := entry
      unfold insertMember
      cases comparison : compare key otherKey with
      | lt => simp [lookup]
      | eq => simp [lookup]
      | gt =>
          have differs : otherKey ≠ key := by
            rintro rfl
            simp at comparison
          simp [lookup, differs, hypothesis]

/-- Adding a member leaves the value under every other key as it was. -/
theorem lookup_insertMember_of_ne
    {key wanted : String} (differs : wanted ≠ key) (value : Json)
    (members : List (String × Json)) :
    lookup wanted (insertMember key value members) = lookup wanted members := by
  induction members with
  | nil => simp [insertMember, lookup, Ne.symm differs]
  | cons entry rest hypothesis =>
      obtain ⟨otherKey, other⟩ := entry
      unfold insertMember
      cases comparison : compare key otherKey with
      | lt => simp [lookup, Ne.symm differs]
      | eq =>
          have same : key = otherKey := by simpa using comparison
          simp [lookup, ← same, Ne.symm differs]
      | gt => simp [lookup, hypothesis]

end Json

end RoomHistory
