/-!
# Sorting by insertion

Items are sorted by a relation that says which of two comes strictly before the other.  Each item
is placed among the ones before it, searching from the last of them: behind the first that it does
not come before.  Items of which neither comes before the other so keep their sequence.
-/

namespace RoomHistory

namespace Sorting

variable {α : Type} (before : α → α → Bool)

/-- Puts an item into a list that runs backward, in front of the first item that it does not come
before. -/
def place (item : α) : List α → List α
  | [] => [item]
  | last :: earlier =>
      if before item last then last :: place item earlier else item :: last :: earlier

/-- Places items one after another into a list that runs backward. -/
def placeAll (placed items : List α) : List α :=
  items.foldl (fun placed item => place before item placed) placed

/-- The items in order. -/
def byInsertion (items : List α) : List α :=
  (placeAll before [] items).reverse

/-- Placing an item adds it and keeps the others. -/
theorem place_perm (item : α) (items : List α) :
    (place before item items).Perm (item :: items) := by
  induction items with
  | nil => exact List.Perm.refl _
  | cons last earlier hypothesis =>
      unfold place
      split
      · exact (List.Perm.cons last hypothesis).trans (List.Perm.swap item last earlier)
      · exact List.Perm.refl _

theorem placeAll_perm (placed items : List α) :
    (placeAll before placed items).Perm (items ++ placed) := by
  induction items generalizing placed with
  | nil => exact List.Perm.refl _
  | cons item rest hypothesis =>
      exact (hypothesis (place before item placed)).trans <|
        ((place_perm before item placed).append_left rest).trans List.perm_middle

/-- Sorting by insertion rearranges the items. -/
theorem byInsertion_perm (items : List α) : (byInsertion before items).Perm items := by
  have placed := placeAll_perm before [] items
  rw [List.append_nil] at placed
  exact (List.reverse_perm _).trans placed

theorem map_place {β : Type} (beforeImage : β → β → Bool) (image : α → β)
    (agrees : ∀ left right, beforeImage (image left) (image right) = before left right)
    (item : α) (items : List α) :
    (place before item items).map image = place beforeImage (image item) (items.map image) := by
  induction items with
  | nil => rfl
  | cons last earlier hypothesis =>
      simp only [place, List.map_cons, agrees]
      split <;> simp [hypothesis]

theorem map_placeAll {β : Type} (beforeImage : β → β → Bool) (image : α → β)
    (agrees : ∀ left right, beforeImage (image left) (image right) = before left right)
    (placed items : List α) :
    (placeAll before placed items).map image =
      placeAll beforeImage (placed.map image) (items.map image) := by
  induction items generalizing placed with
  | nil => rfl
  | cons item rest hypothesis =>
      exact (hypothesis (place before item placed)).trans <| by
        rw [map_place before beforeImage image agrees]
        rfl

/-- Items are sorted as their images are. -/
theorem map_byInsertion {β : Type} (beforeImage : β → β → Bool) (image : α → β)
    (agrees : ∀ left right, beforeImage (image left) (image right) = before left right)
    (items : List α) :
    (byInsertion before items).map image = byInsertion beforeImage (items.map image) := by
  simp [byInsertion, List.map_reverse, map_placeAll before beforeImage image agrees]

end Sorting

end RoomHistory
