import Mathlib.Data.List.Chain
import RoomHistory.Proofs.Sorting.Members

/-!
# Sorting keeps to coarser ranks

A relation may have cycles and still keep to the ranks of items: it never puts an item before one of
a lower rank.  Whatever comes of items of one rank, every way to sort then puts the lower ranks
first.  Here this is shown of sorting by insertion and of sorting short lists, whose halves are
merged from both ends.
-/

namespace RoomHistory

namespace Sorting

variable {α : Type} {before : α → α → Bool} {notAfter : α → α → Prop}

/-- Where one item comes before another, it has no higher rank, and where it does not, it has no
lower one. -/
structure Ranks (before : α → α → Bool) (notAfter : α → α → Prop) (items : List α) : Prop where
  trans : ∀ {first second third}, notAfter first second → notAfter second third →
    notAfter first third
  of_before : ∀ {first second}, first ∈ items → second ∈ items → before first second = true →
    notAfter first second
  of_not_before : ∀ {first second}, first ∈ items → second ∈ items →
    before first second = false → notAfter second first

section

variable {whole items placed left right : List α} {item : α}

/-- Read backward, a relation keeps to the ranks read backward. -/
theorem Ranks.flip (ranks : Ranks before notAfter whole) :
    Ranks (fun later earlier => before earlier later) (fun later earlier => notAfter earlier later)
      whole where
  trans first second := ranks.trans second first
  of_before laterIn earlierIn := ranks.of_before earlierIn laterIn
  of_not_before laterIn earlierIn := ranks.of_not_before earlierIn laterIn

theorem Ranks.refl (ranks : Ranks before notAfter whole) (present : item ∈ whole) :
    notAfter item item := by
  cases before_self : before item item with
  | true => exact ranks.of_before present present before_self
  | false => exact ranks.of_not_before present present before_self

/-- Items each of which has no higher rank than the next stand by rank. -/
theorem Ranks.pairwise_of_isChain
    (ranks : Ranks before notAfter whole)
    (chain : items.IsChain notAfter) :
    items.Pairwise notAfter := by
  have : Trans notAfter notAfter notAfter := ⟨ranks.trans⟩
  exact List.isChain_iff_pairwise.mp chain

theorem Ranks.place
    (ranks : Ranks before notAfter whole)
    (itemIn : item ∈ whole)
    (placedIn : placed ⊆ whole)
    (sorted : placed.Pairwise fun newer older => notAfter older newer) :
    (place before item placed).Pairwise fun newer older => notAfter older newer := by
  induction placed with
  | nil => exact List.pairwise_singleton _ item
  | cons last earlier hypothesis =>
      obtain ⟨lastSorted, earlierSorted⟩ := List.pairwise_cons.mp sorted
      obtain ⟨lastIn, earlierIn⟩ := List.cons_subset.mp placedIn
      rw [Sorting.place]
      split
      next precedes =>
        refine List.pairwise_cons.mpr ⟨?_, hypothesis earlierIn earlierSorted⟩
        intro other present
        rcases List.mem_cons.mp ((place_perm before item earlier).mem_iff.mp present) with
          rfl | inEarlier
        · exact ranks.of_before itemIn lastIn precedes
        · exact lastSorted other inEarlier
      next follows =>
        have lastFirst := ranks.of_not_before itemIn lastIn (Bool.not_eq_true _ ▸ follows)
        refine List.pairwise_cons.mpr ⟨?_, sorted⟩
        intro other present
        rcases List.mem_cons.mp present with rfl | inEarlier
        · exact lastFirst
        · exact ranks.trans (lastSorted other inEarlier) lastFirst

theorem Ranks.placeAll
    (ranks : Ranks before notAfter whole)
    (itemsIn : items ⊆ whole)
    (placedIn : placed ⊆ whole)
    (sorted : placed.Pairwise fun newer older => notAfter older newer) :
    (placeAll before placed items).Pairwise fun newer older => notAfter older newer := by
  induction items generalizing placed with
  | nil => exact sorted
  | cons item rest hypothesis =>
      obtain ⟨itemIn, restIn⟩ := List.cons_subset.mp itemsIn
      refine hypothesis restIn ?_ (ranks.place itemIn placedIn sorted)
      exact List.Subset.trans (place_perm before item placed).subset
        (List.cons_subset.mpr ⟨itemIn, placedIn⟩)

/-- Items sorted by insertion stand by rank. -/
theorem Ranks.byInsertion
    (ranks : Ranks before notAfter whole)
    (itemsIn : items ⊆ whole) :
    (byInsertion before items).Pairwise notAfter := by
  rw [Sorting.byInsertion, List.pairwise_reverse]
  exact ranks.placeAll itemsIn (List.nil_subset whole) List.Pairwise.nil

theorem Ranks.sortTwo
    {first second : α}
    (ranks : Ranks before notAfter whole)
    (firstIn : first ∈ whole)
    (secondIn : second ∈ whole) :
    notAfter (sortTwo before first second).1 (sortTwo before first second).2 := by
  rw [Sorting.sortTwo]
  split
  · next precedes => exact ranks.of_before secondIn firstIn precedes
  · next follows => exact ranks.of_not_before secondIn firstIn (Bool.not_eq_true _ ▸ follows)

/-- Two items between others stand between them also in order. -/
theorem Ranks.between
    {least first second greatest : α}
    (ranks : Ranks before notAfter whole)
    (firstIn : first ∈ whole)
    (secondIn : second ∈ whole)
    (leastFirst : notAfter least first ∧ notAfter least second)
    (greatestLast : notAfter first greatest ∧ notAfter second greatest) :
    [least, (Sorting.sortTwo before first second).1, (Sorting.sortTwo before first second).2,
      greatest].Pairwise notAfter := by
  have sorted := ranks.sortTwo firstIn secondIn
  apply ranks.pairwise_of_isChain
  unfold Sorting.sortTwo at sorted ⊢
  split at sorted
  · next precedes =>
      rw [if_pos precedes]
      exact .cons_cons leastFirst.2 (.cons_cons sorted (.cons_cons greatestLast.1 (.singleton _)))
  · next follows =>
      rw [if_neg follows]
      exact .cons_cons leastFirst.1 (.cons_cons sorted (.cons_cons greatestLast.2 (.singleton _)))

theorem sortTwo_mem
    {first second : α}
    (before : α → α → Bool)
    (firstIn : first ∈ whole)
    (secondIn : second ∈ whole) :
    (sortTwo before first second).1 ∈ whole ∧ (sortTwo before first second).2 ∈ whole := by
  rw [sortTwo]
  split
  · exact ⟨secondIn, firstIn⟩
  · exact ⟨firstIn, secondIn⟩

theorem Ranks.sortFour
    {first second third fourth : α}
    (ranks : Ranks before notAfter whole)
    (within : [first, second, third, fourth] ⊆ whole) :
    (sortFour before first second third fourth).Pairwise notAfter := by
  obtain ⟨firstIn, secondIn, thirdIn, fourthIn⟩ :
      first ∈ whole ∧ second ∈ whole ∧ third ∈ whole ∧ fourth ∈ whole := by
    simpa using within
  have lowHigh := ranks.sortTwo firstIn secondIn
  have leftRight := ranks.sortTwo thirdIn fourthIn
  obtain ⟨lowIn, highIn⟩ := sortTwo_mem before firstIn secondIn
  obtain ⟨leftIn, rightIn⟩ := sortTwo_mem before thirdIn fourthIn
  rw [Sorting.sortFour]
  generalize Sorting.sortTwo before first second = pair at *
  generalize Sorting.sortTwo before third fourth = other at *
  obtain ⟨low, high⟩ := pair
  obtain ⟨left, right⟩ := other
  dsimp only at *
  cases lows : before left low <;> cases highs : before right high
  · have lowLeft := ranks.of_not_before leftIn lowIn lows
    have highRight := ranks.of_not_before rightIn highIn highs
    exact ranks.between highIn leftIn ⟨lowHigh, lowLeft⟩ ⟨highRight, leftRight⟩
  · have lowLeft := ranks.of_not_before leftIn lowIn lows
    have rightHigh := ranks.of_before rightIn highIn highs
    exact ranks.between leftIn rightIn ⟨lowLeft, ranks.trans lowLeft leftRight⟩
      ⟨ranks.trans leftRight rightHigh, rightHigh⟩
  · have leftLow := ranks.of_before leftIn lowIn lows
    have highRight := ranks.of_not_before rightIn highIn highs
    exact ranks.between lowIn highIn ⟨leftLow, ranks.trans leftLow lowHigh⟩
      ⟨ranks.trans lowHigh highRight, highRight⟩
  · have leftLow := ranks.of_before leftIn lowIn lows
    have rightHigh := ranks.of_before rightIn highIn highs
    exact ranks.between lowIn rightIn ⟨leftLow, leftRight⟩ ⟨lowHigh, rightHigh⟩

theorem Ranks.sortHalf
    (ranks : Ranks before notAfter whole)
    (within : items ⊆ whole)
    (byFours : Bool) :
    (sortHalf before byFours items).Pairwise notAfter := by
  unfold Sorting.sortHalf
  split
  next first second third fourth others =>
    split
    next _ =>
      obtain ⟨foursIn, othersIn⟩ :
          [first, second, third, fourth] ⊆ whole ∧ others ⊆ whole :=
        List.append_subset.mp within
      rw [List.pairwise_reverse]
      apply ranks.placeAll othersIn
      · intro item present
        exact foursIn (sortFour_subset first second third fourth (List.mem_reverse.mp present))
      · rw [List.pairwise_reverse]
        exact ranks.sortFour foursIn
    next _ => exact ranks.byInsertion within
  next _ => exact ranks.byInsertion within

/-- What is taken from the fronts of two lists is taken from each of them in turn, and the rest of
each is left. -/
theorem takeFronts_parts
    (before : α → α → Bool)
    (count : Nat)
    (left right : List α) :
    ∃ fromLeft fromRight,
      left = fromLeft ++ (takeFronts before count left right).first ∧
      right = fromRight ++ (takeFronts before count left right).second ∧
      (takeFronts before count left right).taken.Perm (fromLeft ++ fromRight) := by
  fun_induction takeFronts before count left right with
  | case1 count left lefts right rights precedes later hypothesis =>
      obtain ⟨fromLeft, fromRight, leftParts, rightParts, taken⟩ := hypothesis
      refine ⟨fromLeft, right :: fromRight, leftParts, congrArg (right :: ·) rightParts, ?_⟩
      exact (taken.cons right).trans List.perm_middle.symm
  | case2 count left lefts right rights follows later hypothesis =>
      obtain ⟨fromLeft, fromRight, leftParts, rightParts, taken⟩ := hypothesis
      exact ⟨left :: fromLeft, fromRight, congrArg (left :: ·) leftParts, rightParts,
        taken.cons left⟩
  | case3 => exact ⟨[], [], rfl, rfl, List.Perm.refl _⟩

/-- Two lists that are both long enough give as many items as they are asked for. -/
theorem takeFronts_length
    {count : Nat}
    (before : α → α → Bool)
    (leftEnough : count ≤ left.length)
    (rightEnough : count ≤ right.length) :
    (takeFronts before count left right).taken.length = count := by
  fun_induction takeFronts before count left right with
  | case1 count left lefts right rights precedes later hypothesis =>
      exact congrArg (· + 1) (hypothesis (Nat.le_of_succ_le leftEnough)
        (Nat.le_of_succ_le_succ rightEnough))
  | case2 count left lefts right rights follows later hypothesis =>
      exact congrArg (· + 1) (hypothesis (Nat.le_of_succ_le_succ leftEnough)
        (Nat.le_of_succ_le rightEnough))
  | case3 count left right stops =>
      cases count with
      | zero => rfl
      | succ count =>
          obtain ⟨first, lefts, rfl⟩ := List.exists_cons_of_length_pos
            (Nat.lt_of_lt_of_le count.succ_pos leftEnough)
          obtain ⟨second, rights, rfl⟩ := List.exists_cons_of_length_pos
            (Nat.lt_of_lt_of_le count.succ_pos rightEnough)
          exact absurd rfl (stops count first lefts second rights rfl rfl)

/-- The front of one sorted list that may come before the front of another may come before all that
is in the two. -/
theorem Ranks.front
    {first second other : α}
    (ranks : Ranks before notAfter whole)
    (leftSorted : (first :: left).Pairwise notAfter)
    (rightSorted : (second :: right).Pairwise notAfter)
    (order : notAfter first second)
    (present : other ∈ left ∨ other ∈ second :: right) :
    notAfter first other := by
  rcases present with inLeft | inRight
  · exact (List.pairwise_cons.mp leftSorted).1 other inLeft
  · rcases List.mem_cons.mp inRight with rfl | later
    · exact order
    · exact ranks.trans order ((List.pairwise_cons.mp rightSorted).1 other later)

/-- The items taken from two lists stand by rank, and before all that is left of the lists. -/
structure Merging.ByRank (notAfter : α → α → Prop) (merging : Merging α) : Prop where
  taken : merging.taken.Pairwise notAfter
  beforeRest : ∀ item ∈ merging.taken, ∀ other ∈ merging.first ++ merging.second,
    notAfter item other

/-- An item of a rank no higher than that of others may be taken before them. -/
theorem Merging.ByRank.takeFirst
    {count : Nat}
    (byRank : (takeFronts before count left right).ByRank notAfter)
    (least : ∀ other ∈ left ++ right, notAfter item other) :
    Merging.ByRank notAfter { takeFronts before count left right with
      taken := item :: (takeFronts before count left right).taken } := by
  obtain ⟨takenIn, firstIn, secondIn⟩ := takeFronts_subset before count left right
  have restIn := List.append_subset.mpr ⟨firstIn, secondIn⟩
  exact ⟨List.pairwise_cons.mpr ⟨fun other present => least other (takenIn present),
      byRank.taken⟩,
    List.forall_mem_cons.mpr ⟨fun other present => least other (restIn present),
      byRank.beforeRest⟩⟩

/-- From the fronts of two sorted lists items are taken by rank. -/
theorem Ranks.takeFronts
    (ranks : Ranks before notAfter whole)
    (count : Nat)
    (leftIn : left ⊆ whole)
    (rightIn : right ⊆ whole)
    (leftSorted : left.Pairwise notAfter)
    (rightSorted : right.Pairwise notAfter) :
    (takeFronts before count left right).ByRank notAfter := by
  fun_induction Sorting.takeFronts before count left right with
  | case1 count left lefts right rights precedes later hypothesis =>
      obtain ⟨rightHere, rightsIn⟩ := List.cons_subset.mp rightIn
      have rightLeft := ranks.of_before rightHere (leftIn List.mem_cons_self) precedes
      apply (hypothesis leftIn rightsIn leftSorted rightSorted.of_cons).takeFirst
      intro other present
      exact ranks.front rightSorted leftSorted rightLeft (List.mem_append.mp present).symm
  | case2 count left lefts right rights follows later hypothesis =>
      obtain ⟨leftHere, leftsIn⟩ := List.cons_subset.mp leftIn
      have leftRight := ranks.of_not_before (rightIn List.mem_cons_self) leftHere
        (Bool.not_eq_true _ ▸ follows)
      apply (hypothesis leftsIn rightIn leftSorted.of_cons rightSorted).takeFirst
      intro other present
      exact ranks.front leftSorted rightSorted leftRight (List.mem_append.mp present)
  | case3 => exact ⟨List.Pairwise.nil, List.forall_mem_nil _⟩

/-- Where a list is cut twice, and its last part by the first cut is no shorter than its last part by
the second, the second cut falls into the first one's last part. -/
theorem take_overlap
    {start rest longer last : List α}
    (same : start ++ rest = longer ++ last)
    (fits : last.length ≤ rest.length) :
    rest.take (rest.length - last.length) ++ last = rest ∧
      start ++ rest.take (rest.length - last.length) = longer := by
  have lengths := congrArg List.length same
  rw [List.length_append, List.length_append] at lengths
  rcases List.append_eq_append_iff.mp same with ⟨middle, rfl, rfl⟩ | ⟨middle, rfl, rfl⟩
  · simp
  · have nothing : middle = [] := by
      rw [List.length_append] at fits
      exact List.length_eq_zero_iff.mp (by omega)
    simp [nothing]

theorem pairwise_of_short (short : items.length ≤ 1) : items.Pairwise notAfter := by
  match items, short with
  | [], _ => exact List.Pairwise.nil
  | [item], _ => exact List.pairwise_singleton _ item

/-- Halves that differ in length by one item at most are merged into what their fronts and their
backs give, with one item between at most.  What follows the front is left by the merge from the
front, and what is between is left by the merge from the back too. -/
theorem mergeHalves?_parts
    {merged : List α}
    (halves : left.length ≤ right.length ∧ right.length ≤ left.length + 1)
    (merges : mergeHalves? before left right = some merged) :
    let front := takeFronts before left.length left right
    let back := takeFronts (fun later earlier => before earlier later) left.length
      right.reverse left.reverse
    ∃ between, merged = front.taken ++ (between ++ back.taken.reverse) ∧ between.length ≤ 1 ∧
      between ++ back.taken.reverse ⊆ front.first ++ front.second ∧
      between ⊆ back.first ++ back.second := by
  dsimp only
  obtain ⟨leftFront, rightFront, leftParts, rightParts, frontTaken⟩ :=
    takeFronts_parts before left.length left right
  obtain ⟨rightBack, leftBack, rightTurned, leftTurned, backTaken⟩ :=
    takeFronts_parts (fun later earlier => before earlier later) left.length
      right.reverse left.reverse
  have frontLength := takeFronts_length before (Nat.le_refl left.length) halves.1
  have rightEnough : left.length ≤ right.reverse.length := by
    rw [List.length_reverse]
    exact halves.1
  have leftEnough : left.length ≤ left.reverse.length := Nat.le_of_eq List.length_reverse.symm
  have backLength := takeFronts_length (fun later earlier => before earlier later) rightEnough
    leftEnough
  simp only [Sorting.mergeHalves?] at merges
  generalize Sorting.takeFronts before left.length left right = front at *
  generalize Sorting.takeFronts _ left.length right.reverse left.reverse = back at *
  have leftCount : left.length - back.second.length = leftBack.reverse.length := by
    have lengths := congrArg List.length leftTurned
    rw [List.length_reverse, List.length_append] at lengths
    rw [List.length_reverse]
    omega
  have rightCount : right.length - back.first.length = rightBack.reverse.length := by
    have lengths := congrArg List.length rightTurned
    rw [List.length_reverse, List.length_append] at lengths
    rw [List.length_reverse]
    omega
  rw [leftCount, rightCount] at merges
  split at merges
  next fits =>
    have leftOverlap := take_overlap
      (leftParts.symm.trans (List.reverse_eq_append_iff.mp leftTurned)) fits.1
    have rightOverlap := take_overlap
      (rightParts.symm.trans (List.reverse_eq_append_iff.mp rightTurned)) fits.2
    generalize front.first.take _ = leftRest at *
    generalize front.second.take _ = rightRest at *
    refine ⟨leftRest ++ rightRest, ?_, ?_, ?_, ?_⟩
    · rw [← Option.some.inj merges]
      simp only [List.append_assoc]
    · -- both ends take as many items as the first half has, which leaves one item at most
      have leftLength := congrArg List.length leftParts
      have rightLength := congrArg List.length rightParts
      have leftRestLength := congrArg List.length leftOverlap.1
      have rightRestLength := congrArg List.length rightOverlap.1
      have frontShare := frontTaken.length_eq
      have backShare := backTaken.length_eq
      simp only [List.length_append, List.length_reverse] at *
      omega
    · have backIn : back.taken.reverse ⊆ rightBack ++ leftBack := fun item present =>
        backTaken.subset (List.mem_reverse.mp present)
      rw [← leftOverlap.1, ← rightOverlap.1]
      grind
    · intro item present
      rw [← List.mem_reverse, List.reverse_append, ← leftOverlap.2, ← rightOverlap.2]
      grind
  next _ => cases merges

theorem Ranks.mergeHalves?
    {merged : List α}
    (ranks : Ranks before notAfter whole)
    (leftIn : left ⊆ whole)
    (rightIn : right ⊆ whole)
    (leftSorted : left.Pairwise notAfter)
    (rightSorted : right.Pairwise notAfter)
    (halves : left.length ≤ right.length ∧ right.length ≤ left.length + 1)
    (merges : mergeHalves? before left right = some merged) :
    merged.Pairwise notAfter := by
  have frontByRank := ranks.takeFronts left.length leftIn rightIn leftSorted rightSorted
  have backByRank := ranks.flip.takeFronts left.length
    (List.reverse_subset.mpr rightIn) (List.reverse_subset.mpr leftIn)
    (List.pairwise_reverse.mpr rightSorted) (List.pairwise_reverse.mpr leftSorted)
  obtain ⟨between, rfl, short, followsFront, beforeBack⟩ := mergeHalves?_parts halves merges
  refine List.pairwise_append.mpr ⟨frontByRank.taken, List.pairwise_append.mpr ⟨?_, ?_, ?_⟩, ?_⟩
  · exact pairwise_of_short short
  · exact List.pairwise_reverse.mpr backByRank.taken
  · exact fun item present other otherIn =>
      backByRank.beforeRest other (List.mem_reverse.mp otherIn) item (beforeBack present)
  · exact fun item present other otherIn =>
      frontByRank.beforeRest item present other (followsFront otherIn)

@[simp] theorem length_sortHalf (before : α → α → Bool) (byFours : Bool) (items : List α) :
    (sortHalf before byFours items).length = items.length := by
  unfold sortHalf
  split
  next first second third fourth others =>
    split
    next _ =>
      have placed := (placeAll_perm before (sortFour before first second third fourth).reverse
        others).length_eq
      rw [List.length_reverse, placed]
      simp [sortFour]
    next _ => exact (byInsertion_perm before _).length_eq
  next _ => exact (byInsertion_perm before _).length_eq

/-- Short lists are sorted by rank. -/
theorem Ranks.sortShort?
    {sorted : List α}
    (ranks : Ranks before notAfter whole)
    (within : items ⊆ whole)
    (sorts : sortShort? before items = some sorted) :
    sorted.Pairwise notAfter := by
  have frontIn := List.Subset.trans (List.take_subset (items.length / 2) items) within
  have backIn := List.Subset.trans (List.drop_subset (items.length / 2) items) within
  refine ranks.mergeHalves? ?_ ?_ (ranks.sortHalf frontIn _) (ranks.sortHalf backIn _) ?_ sorts
  · exact List.Subset.trans (sortHalf_subset _ _) frontIn
  · exact List.Subset.trans (sortHalf_subset _ _) backIn
  · rw [length_sortHalf, length_sortHalf, List.length_take, List.length_drop]
    omega

end

end Sorting

end RoomHistory
