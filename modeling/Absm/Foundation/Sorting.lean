import Absm.Foundation.FirstGreatest
import Absm.Foundation.Segments

/-! Sorting by a comparison that need not be an order, and what it does where it is one. -/

namespace Absm

variable {α ι : Type}

/-! ### The algorithm -/

/-- The items that go on, each from the one before it, behind a last one, and the items behind these. -/
def runFrom (goesOn : α → α → Bool) : α → List α → List α × List α
  -- The run ends before the first item that it does not go on with.
  | _, [] => ([], [])
  | last, item :: items =>
    if goesOn last item then (item :: (runFrom goesOn item items).1, (runFrom goesOn item items).2)
    else ([], item :: items)

/-- The run that a list starts with, in ascending order, and the items behind it. -/
def countRun (less : α → α → Bool) : List α → List α × List α
  | [] => ([], [])
  | [item] => ([item], [])
  | first :: second :: items =>
    -- A run that descends must do so strictly, since it is reversed.
    if less second first then
      let split := runFrom (fun last next => less next last) second items
      ((first :: second :: split.1).reverse, split.2)
    else
      let split := runFrom (fun last next => !less next last) second items
      (first :: second :: split.1, split.2)

/-- Insert an item where bisection leads to, behind those that it is not less than. -/
def binaryInsert (less : α → α → Bool) (item : α) : Nat → List α → List α
  | 0, items => item :: items
  | fuel + 1, items =>
    -- The item is compared with the one in the middle, and inserted on one side of that.
    match items.drop (items.length / 2) with
    | [] => [item]
    | middle :: behind =>
      if less item middle then
        binaryInsert less item fuel (items.take (items.length / 2)) ++ middle :: behind
      else items.take (items.length / 2) ++ middle :: binaryInsert less item fuel behind

/-- The built-in `sorted`, with the comparisons that it makes in lists of fewer than 64 items. -/
def sorted (less : α → α → Bool) (items : List α) : List α :=
  -- Longer lists are sorted in parts and merged; where the comparison is an order, that gives the same list.
  (countRun less items).2.foldl (fun done item => binaryInsert less item done.length done)
    (countRun less items).1

/-! ### What is sorted -/

/-- A run and the items behind it are the items. -/
theorem runFrom_append (goesOn : α → α → Bool) (last : α) (items : List α) :
    (runFrom goesOn last items).1 ++ (runFrom goesOn last items).2 = items := by
  -- The first item either goes on or starts what is behind.
  induction items generalizing last with
  | nil => rfl
  | cons item items ih =>
    unfold runFrom
    split
    · exact congrArg (item :: ·) (ih item)
    · rfl

/-- In a run each item goes on from the one before it. -/
theorem runFrom_isChain (goesOn : α → α → Bool) (last : α) (items : List α) :
    (last :: (runFrom goesOn last items).1).IsChain (goesOn · ·) := by
  -- The first item that does not go on ends the run.
  induction items generalizing last with
  | nil => simp [runFrom]
  | cons item items ih =>
    unfold runFrom
    split
    case isTrue goes => exact List.isChain_cons_cons.mpr ⟨goes, ih item⟩
    case isFalse => simp

/-- The run at the start and the items behind it are the items in some order. -/
theorem countRun_perm (less : α → α → Bool) (items : List α) :
    ((countRun less items).1 ++ (countRun less items).2).Perm items := by
  -- Only a descending run is reversed.
  rcases items with _ | ⟨first, _ | ⟨second, items⟩⟩
  · rfl
  · rfl
  · rw [countRun]
    split
    · have whole := runFrom_append (fun last next => less next last) second items
      refine ((List.reverse_perm _).append_right _).trans ?_
      rw [List.cons_append, List.cons_append, whole]
    · have whole := runFrom_append (fun last next => !less next last) second items
      rw [List.cons_append, List.cons_append, whole]

/-- Inserting adds the item. -/
theorem binaryInsert_perm (less : α → α → Bool) (item : α) (fuel : Nat) (items : List α) :
    (binaryInsert less item fuel items).Perm (item :: items) := by
  -- The item ends up on one side of the middle.
  induction fuel generalizing items with
  | zero => rfl
  | succ fuel ih =>
    have whole := List.take_append_drop (items.length / 2) items
    unfold binaryInsert
    split
    case h_1 nothing =>
      have none : items = [] := by
        rw [List.drop_eq_nil_iff] at nothing
        exact List.length_eq_zero_iff.mp (by omega)
      rw [none]
    case h_2 middle behind rest =>
      rw [rest] at whole
      split
      · refine ((ih _).append_right _).trans ?_
        rw [List.cons_append, whole]
      · refine (((ih behind).cons middle).append_left _).trans ?_
        refine (((List.Perm.swap item middle behind)).append_left _).trans ?_
        refine List.perm_middle.trans ?_
        rw [whole]

/-- Sorting keeps the items. -/
theorem sorted_perm (less : α → α → Bool) (items : List α) : (sorted less items).Perm items := by
  -- Each item behind the first run is inserted once.
  have inserted : ∀ (rest done : List α), (rest.foldl (fun done item =>
      binaryInsert less item done.length done) done).Perm (done ++ rest) := by
    intro rest
    induction rest with
    | nil => simp
    | cons item rest ih =>
      intro done
      refine (ih _).trans (((binaryInsert_perm less item _ done).append_right rest).trans ?_)
      exact List.perm_middle.symm
  exact (inserted _ _).trans (countRun_perm less items)

/-! ### Orders -/

section Order

variable [LinearOrder ι] {key : α → ι} {less : α → α → Bool}

/-- A comparison goes by keys among some items. -/
def ComparesBy (less : α → α → Bool) (key : α → ι) (items : List α) : Prop :=
  -- Nothing is said about items that are not among these.
  ∀ first ∈ items, ∀ second ∈ items, less first second = true ↔ key first < key second

section Insertion

variable {item middle : α} {before behind done : List α}

/-- An item that belongs before the middle is inserted in the part there. -/
theorem StablySorted.insert_before (inserted : StablySorted key (before ++ [item]) done)
    (ordered : (before ++ middle :: behind).Pairwise fun first second => key first ≤ key second)
    (below : key item < key middle) :
    StablySorted key (before ++ middle :: behind ++ [item]) (done ++ middle :: behind) := by
  obtain ⟨-, inBack, across⟩ := List.pairwise_append.mp ordered
  -- The item is less than all from the middle on.
  have least : ∀ other ∈ middle :: behind, key item < key other := by
    intro other member
    rcases List.mem_cons.mp member with rfl | later
    · exact below
    · exact below.trans_le ((List.pairwise_cons.mp inBack).1 other later)
  refine ⟨List.pairwise_append.mpr ⟨inserted.1, inBack, ?_⟩, fun value => ?_⟩
  · intro left leftIn right rightIn
    rcases List.mem_append.mp (inserted.mem_iff.mp leftIn) with leftIn | leftIn
    · exact across left leftIn right rightIn
    · obtain rfl := List.mem_singleton.mp leftIn
      exact (least right rightIn).le
  · rw [List.filter_append, inserted.2, List.filter_append, List.filter_append, List.filter_append]
    by_cases own : key item = value
    · -- From the middle on there is no item of the key.
      have others : (middle :: behind).filter (key · = value) = [] := by
        refine List.filter_eq_nil_iff.mpr fun other member => ?_
        rw [decide_eq_true_eq, ← own]
        exact (least other member).ne'
      simp [others]
    · simp [own]

/-- An item that belongs behind the middle is inserted in the part there. -/
theorem StablySorted.insert_behind (inserted : StablySorted key (behind ++ [item]) done)
    (ordered : (before ++ middle :: behind).Pairwise fun first second => key first ≤ key second)
    (atLeast : key middle ≤ key item) :
    StablySorted key (before ++ middle :: behind ++ [item]) (before ++ middle :: done) := by
  obtain ⟨inFront, inBack, across⟩ := List.pairwise_append.mp ordered
  -- What is behind the middle is not less than the middle, and neither is the item.
  have above : ∀ right ∈ done, key middle ≤ key right := by
    intro right rightIn
    rcases List.mem_append.mp (inserted.mem_iff.mp rightIn) with rightIn | rightIn
    · exact (List.pairwise_cons.mp inBack).1 right rightIn
    · obtain rfl := List.mem_singleton.mp rightIn
      exact atLeast
  refine ⟨List.pairwise_append.mpr ⟨inFront, List.pairwise_cons.mpr ⟨above, inserted.1⟩, ?_⟩, fun value => ?_⟩
  · intro left leftIn right rightIn
    have start := across left leftIn middle (List.mem_cons_self ..)
    rcases List.mem_cons.mp rightIn with rfl | rightIn
    · exact start
    · exact start.trans (above right rightIn)
  · have behindSame := inserted.2 value
    simp only [List.filter_append, List.filter_cons] at behindSame ⊢
    rw [behindSame]
    split <;> simp

end Insertion

/-- Inserting behind the items of the same key keeps a list stably sorted. -/
theorem binaryInsert_stable {item : α} {fuel : Nat} {items : List α}
    (compares : ∀ other ∈ items, less item other = true ↔ key item < key other)
    (ordered : items.Pairwise fun first second => key first ≤ key second) (enough : items.length ≤ fuel) :
    StablySorted key (items ++ [item]) (binaryInsert less item fuel items) := by
  -- What is left of the list is shorter each time.
  induction fuel generalizing items with
  | zero =>
    obtain rfl := List.length_eq_zero_iff.mp (Nat.le_zero.mp enough)
    exact ⟨List.pairwise_singleton _ _, fun _ => rfl⟩
  | succ fuel ih =>
    have whole := List.take_append_drop (items.length / 2) items
    unfold binaryInsert
    split
    case h_1 nothing =>
      have none : items = [] := by
        rw [List.drop_eq_nil_iff] at nothing
        exact List.length_eq_zero_iff.mp (by omega)
      subst none
      exact ⟨List.pairwise_singleton _ _, fun _ => rfl⟩
    case h_2 middle behind rest =>
      rw [rest] at whole
      generalize items.take (items.length / 2) = before at whole
      subst whole
      have size : before.length + (behind.length + 1) ≤ fuel + 1 := by
        rwa [List.length_append, List.length_cons] at enough
      have inner (part : List α) (inside : ∀ other ∈ part, other ∈ before ++ middle :: behind) :=
        @ih part fun other member => compares other (inside other member)
      obtain ⟨inFront, inBack, -⟩ := List.pairwise_append.mp ordered
      have middleIs := compares middle (by simp)
      split
      case isTrue lower =>
        exact (inner before (by simp +contextual) inFront (by omega)).insert_before ordered
          (middleIs.mp lower)
      case isFalse notLower =>
        exact (inner behind (by simp +contextual) (List.pairwise_cons.mp inBack).2 (by omega)).insert_behind
          ordered (not_lt.mp (middleIs.not.mp notLower))

/-- A list whose keys ascend strictly has at most one item of a key, so that its reverse has the same one. -/
theorem filter_reverse_of_strict {items : List α}
    (strict : items.Pairwise fun left right => key right < key left) (value : ι) :
    items.reverse.filter (key · = value) = items.filter (key · = value) := by
  -- Two items of one key would be strictly apart.
  rw [List.filter_reverse]
  have apart : (items.filter (key · = value)).Pairwise fun _ _ => False :=
    (strict.filter (key · = value)).imp_of_mem fun leftIn rightIn below => by
      have left := of_decide_eq_true (List.mem_filter.mp leftIn).2
      have right := of_decide_eq_true (List.mem_filter.mp rightIn).2
      rw [left, right] at below
      exact lt_irrefl value below
  generalize items.filter (key · = value) = own at apart
  rcases own with _ | ⟨first, _ | ⟨second, rest⟩⟩
  · rfl
  · rfl
  · exact absurd ((List.pairwise_cons.mp apart).1 second (List.mem_cons_self ..)) id

/-- The run at the start is stably sorted. -/
theorem countRun_stable {items : List α} (compares : ComparesBy less key items) :
    ∃ front, front ++ (countRun less items).2 = items ∧ StablySorted key front (countRun less items).1 := by
  rcases items with _ | ⟨first, _ | ⟨second, items⟩⟩
  · exact ⟨[], rfl, List.Pairwise.nil, fun _ => rfl⟩
  · exact ⟨[first], rfl, List.pairwise_singleton _ _, fun _ => rfl⟩
  · rw [countRun]
    split
    case isTrue descends =>
      have whole := runFrom_append (fun last next => less next last) second items
      have chain := runFrom_isChain (fun last next => less next last) second items
      generalize runFrom (fun last next => less next last) second items = split at whole chain
      subst whole
      refine ⟨first :: second :: split.1, rfl, ?_⟩
      -- The keys descend strictly, so no two items of the run have one key.
      have strict : (first :: second :: split.1).IsChain fun left right => key right < key left := by
        refine List.IsChain.imp_of_mem_imp (fun left right leftIn rightIn below => ?_)
          (List.isChain_cons_cons.mpr ⟨descends, chain⟩)
        exact (compares right (by simp at rightIn ⊢; tauto) left (by simp at leftIn ⊢; tauto)).mp below
      have apart := strict.pairwise
      exact ⟨List.pairwise_reverse.mpr (apart.imp le_of_lt), filter_reverse_of_strict apart⟩
    case isFalse ascends =>
      have whole := runFrom_append (fun last next => !less next last) second items
      have chain := runFrom_isChain (fun last next => !less next last) second items
      generalize runFrom (fun last next => !less next last) second items = split at whole chain
      subst whole
      refine ⟨first :: second :: split.1, rfl, ?_, fun _ => rfl⟩
      -- No item is less than the one before it.
      have ordered : (first :: second :: split.1).IsChain fun left right => key left ≤ key right := by
        refine List.IsChain.imp_of_mem_imp (fun left right leftIn rightIn notBelow => ?_)
          (List.isChain_cons_cons.mpr ⟨by simpa using ascends, chain⟩)
        rw [Bool.not_eq_true', ← Bool.not_eq_true, compares right (by simp at rightIn ⊢; tauto) left
          (by simp at leftIn ⊢; tauto)] at notBelow
        exact not_lt.mp notBelow
      exact ordered.pairwise

/-- Where the comparison goes by keys, sorting is stable. -/
theorem sorted_stable {items : List α} (compares : ComparesBy less key items) :
    StablySorted key items (sorted less items) := by
  obtain ⟨front, whole, run⟩ := countRun_stable compares
  unfold sorted
  generalize (countRun less items).1 = done at run ⊢
  generalize (countRun less items).2 = rest at whole ⊢
  subst whole
  -- Each of the items behind the run is inserted behind those that came before it.
  induction rest generalizing front done with
  | nil => simpa using run
  | cons item rest ih =>
    have inserted : StablySorted key (front ++ [item]) (binaryInsert less item done.length done) := by
      have step := binaryInsert_stable (fun other member => compares item (by simp) other
        (List.mem_append_left _ (run.mem_iff.mp member))) run.1 le_rfl
      refine ⟨step.1, fun value => ?_⟩
      rw [step.2, List.filter_append, run.2, List.filter_append]
    have further := ih (front ++ [item]) _ inserted (by simpa using compares)
    simpa using further

end Order

/-! ### Comparisons that are orders -/

/-- A comparison orders some items: of two items at most one is less, and what is not less goes on from one
item to the next. -/
structure Orders (less : α → α → Bool) (items : List α) : Prop where
  /-- Of two items at most one is less than the other. -/
  asymm : ∀ first ∈ items, ∀ second ∈ items, less first second = true → less second first = false
  /-- An item that is at least as great as another one is so for everything that is at most that. -/
  trans : ∀ first ∈ items, ∀ second ∈ items, ∀ third ∈ items, less second first = false →
    less third second = false → less third first = false

/-- How many of some items are less than an item. -/
def rankAmong (less : α → α → Bool) (items : List α) (item : α) : Nat :=
  -- Each item that is less counts once.
  items.countP (less · item)

/-- A comparison that orders items goes by their ranks. -/
theorem Orders.comparesBy {less : α → α → Bool} {items : List α} (orders : Orders less items) :
    ComparesBy less (rankAmong less items) items := by
  -- What is less than an item is less than everything that is at least as great.
  have below : ∀ first ∈ items, ∀ second ∈ items, less second first = false → ∀ item ∈ items,
      less item first = true → less item second = true := by
    intro first firstIn second secondIn notLess item itemIn under
    by_contra still
    rw [orders.trans first firstIn second secondIn item itemIn notLess (Bool.not_eq_true _ ▸ still)] at under
    cases under
  intro first firstIn second secondIn
  constructor
  · intro isLess
    have turned := orders.asymm first firstIn second secondIn isLess
    have own : less first first = false := by
      by_contra reflexive
      rw [Bool.not_eq_false] at reflexive
      rw [orders.asymm first firstIn first firstIn reflexive] at reflexive
      cases reflexive
    -- The first item itself is counted for the second one only.
    obtain ⟨before, behind, rfl⟩ := List.append_of_mem firstIn
    have front := List.countP_mono_left (l := before) fun item member =>
      below first firstIn second secondIn turned item (List.mem_append_left _ member)
    have back := List.countP_mono_left (l := behind) fun item member =>
      below first firstIn second secondIn turned item
        (List.mem_append_right _ (List.mem_cons_of_mem _ member))
    simp only [rankAmong, List.countP_append, List.countP_cons, own, isLess, if_true] at front back ⊢
    simp only [Bool.false_eq_true, if_false]
    omega
  · intro fewer
    by_contra notLess
    rw [Bool.not_eq_true] at notLess
    -- Otherwise what is less than the second item would be less than the first one.
    have more := List.countP_mono_left (l := items) fun item member =>
      below second secondIn first firstIn notLess item member
    exact absurd fewer (not_lt.mpr more)

/-- A part of some items is ordered when all of them are. -/
theorem Orders.subset {less : α → α → Bool} {items others : List α} (orders : Orders less items)
    (inside : others ⊆ items) : Orders less others where
  -- What is said about all items holds of fewer.
  asymm first firstIn second secondIn := orders.asymm first (inside firstIn) second (inside secondIn)
  trans first firstIn second secondIn third thirdIn :=
    orders.trans first (inside firstIn) second (inside secondIn) third (inside thirdIn)

/-- A comparison by keys orders the items. -/
theorem ComparesBy.orders [LinearOrder ι] {key : α → ι} {less : α → α → Bool} {items : List α}
    (compares : ComparesBy less key items) : Orders less items := by
  -- What is not less has no smaller key.
  have atLeast : ∀ first ∈ items, ∀ second ∈ items, less first second = false ↔ key second ≤ key first := by
    intro first firstIn second secondIn
    rw [← Bool.not_eq_true, compares first firstIn second secondIn, not_lt]
  refine ⟨fun first firstIn second secondIn less' => ?_, fun first firstIn second secondIn third thirdIn => ?_⟩
  · exact (atLeast second secondIn first firstIn).mpr ((compares first firstIn second secondIn).mp less').le
  · rw [atLeast second secondIn first firstIn, atLeast third thirdIn second secondIn,
      atLeast third thirdIn first firstIn]
    exact le_trans

/-! ### The stable order of a comparison -/

/-- A list is another one in the order of a comparison, in which items that tie keep their order. -/
structure StableOrder (less : α → α → Bool) (items ordered : List α) : Prop where
  /-- The items are the same. -/
  perm : ordered.Perm items
  /-- No item is less than one before it. -/
  ascends : ordered.Pairwise fun first second => less second first = false
  /-- Items of which none is less than the other keep their order. -/
  ties : ∀ item ∈ items, (ordered.filter fun other => !less other item && !less item other) =
    items.filter fun other => !less other item && !less item other

/-- Where the comparison goes by keys, the stable order is that of the keys. -/
theorem stableOrder_iff [LinearOrder ι] {key : α → ι} {less : α → α → Bool} {items ordered : List α}
    (compares : ComparesBy less key items) :
    StableOrder less items ordered ↔ StablySorted key items ordered := by
  -- Items tie when they have one key.
  have tie : ∀ item ∈ items, ∀ list : List α, list ⊆ items →
      (list.filter fun other => !less other item && !less item other) = list.filter (key · = key item) := by
    intro item itemIn list inside
    refine List.filter_congr fun other member => ?_
    have forward := compares other (inside member) item itemIn
    have back := compares item itemIn other (inside member)
    rw [Bool.eq_iff_iff, Bool.and_eq_true, Bool.not_eq_true', Bool.not_eq_true', decide_eq_true_eq,
      ← Bool.not_eq_true, ← Bool.not_eq_true, forward, back, not_lt, not_lt]
    exact ⟨fun both => le_antisymm both.2 both.1, fun same => ⟨same.ge, same.le⟩⟩
  have ascending : ∀ list : List α, list ⊆ items → ((list.Pairwise fun first second =>
      less second first = false) ↔ list.Pairwise fun first second => key first ≤ key second) := by
    intro list inside
    refine List.Pairwise.iff_of_mem fun firstIn secondIn => ?_
    rw [← Bool.not_eq_true, compares _ (inside secondIn) _ (inside firstIn), not_lt]
  constructor
  · intro stable
    have inside : ordered ⊆ items := stable.perm.subset
    refine ⟨(ascending ordered inside).mp stable.ascends, fun value => ?_⟩
    by_cases found : ∃ item ∈ items, key item = value
    · obtain ⟨item, itemIn, rfl⟩ := found
      rw [← tie item itemIn ordered inside, ← tie item itemIn items (List.Subset.refl _)]
      exact stable.ties item itemIn
    · -- A key that no item has is found nowhere.
      have none : ∀ list : List α, list ⊆ items → list.filter (key · = value) = [] := fun list listed =>
        List.filter_eq_nil_iff.mpr fun item member same =>
          found ⟨item, listed member, of_decide_eq_true same⟩
      rw [none ordered inside, none items (List.Subset.refl _)]
  · intro stable
    have inside : ordered ⊆ items := fun item member => stable.mem_iff.mp member
    refine ⟨stable.perm, (ascending ordered inside).mpr stable.1, fun item itemIn => ?_⟩
    rw [tie item itemIn ordered inside, tie item itemIn items (List.Subset.refl _)]
    exact stable.2 (key item)

/-- Sorting by a comparison that orders the items puts them in its stable order. -/
theorem Orders.stableOrder {less : α → α → Bool} {items : List α} (orders : Orders less items) :
    StableOrder less items (sorted less items) :=
  -- The comparison goes by ranks.
  (stableOrder_iff orders.comparesBy).mpr (sorted_stable orders.comparesBy)

/-- There is only one stable order. -/
theorem Orders.unique {less : α → α → Bool} {items first second : List α} (orders : Orders less items)
    (firstStable : StableOrder less items first) (secondStable : StableOrder less items second) :
    first = second :=
  -- Ranks are keys by which both are stably sorted.
  ((stableOrder_iff orders.comparesBy).mp firstStable).unique
    ((stableOrder_iff orders.comparesBy).mp secondStable)

/-! ### The greatest item -/

/-- The item that a running maximum ends with: an item is kept until a later one exceeds it. -/
def runningMax (less : α → α → Bool) : α → List α → α
  -- An item that is only equal does not replace the best one.
  | best, [] => best
  | best, item :: items => runningMax less (if less best item then item else best) items

/-- What a running maximum ends with is one of the items. -/
theorem runningMax_mem (less : α → α → Bool) (best : α) (items : List α) :
    runningMax less best items ∈ best :: items := by
  -- Whichever of two items is kept is one of them.
  induction items generalizing best with
  | nil => exact List.mem_singleton_self best
  | cons item items ih =>
    rcases List.mem_cons.mp (ih (if less best item then item else best)) with same | later
    · rw [runningMax, same]
      split <;> simp
    · exact List.mem_cons_of_mem _ (List.mem_cons_of_mem _ later)

/-- An item that no later one exceeds stays the greatest. -/
theorem runningMax_head {less : α → α → Bool} {best : α} {items : List α}
    (unbeaten : ∀ item ∈ items, less best item = false) : runningMax less best items = best := by
  -- No item takes its place.
  induction items with
  | nil => rfl
  | cons item items ih =>
    obtain ⟨first, rest⟩ := List.forall_mem_cons.mp unbeaten
    rw [runningMax, if_neg (by simp [first]), ih rest]

/-- A running maximum ends with one of the top items, when there are some, none is exceeded by any item and
each of them exceeds all items that are not at the top. -/
theorem runningMax_top {less : α → α → Bool} {top : α → Prop} {best : α} {items : List α}
    (some : ∃ item ∈ best :: items, top item)
    (unbeaten : ∀ item ∈ best :: items, top item → ∀ other ∈ best :: items, less item other = false)
    (beats : ∀ item ∈ best :: items, top item → ∀ other ∈ best :: items, ¬ top other →
      less other item = true) : top (runningMax less best items) := by
  induction items generalizing best with
  | nil =>
    obtain ⟨item, member, isTop⟩ := some
    exact List.mem_singleton.mp member ▸ isTop
  | cons item items ih =>
    -- The items that are left contain the one that is kept.
    have fewer : (if less best item then item else best) :: items ⊆ best :: item :: items := by
      intro other member
      split at member <;> simp only [List.mem_cons] at member ⊢ <;> tauto
    refine ih ?_ (fun one oneIn isTop other otherIn => unbeaten one (fewer oneIn) isTop other (fewer otherIn))
      fun one oneIn isTop other otherIn => beats one (fewer oneIn) isTop other (fewer otherIn)
    -- A top item is kept, and takes the place of one that is not.
    obtain ⟨one, member, isTop⟩ := some
    by_cases bestTop : top best
    · have stays := unbeaten best (by simp) bestTop item (by simp)
      exact ⟨best, by simp [stays], bestTop⟩
    by_cases itemTop : top item
    · have moves := beats item (by simp) itemTop best (by simp) bestTop
      exact ⟨item, by simp [moves], itemTop⟩
    · rcases List.mem_cons.mp member with rfl | later
      · exact absurd isTop bestTop
      rcases List.mem_cons.mp later with rfl | last
      · exact absurd isTop itemTop
      · exact ⟨one, List.mem_cons_of_mem _ last, isTop⟩

/-- Where the comparison goes by keys, a running maximum ends with the first item of the greatest key. -/
theorem runningMax_firstGreatest [LinearOrder ι] {key : α → ι} {less : α → α → Bool} {best : α}
    {items : List α} (compares : ComparesBy less key (best :: items)) :
    firstGreatest key (best :: items) = some (runningMax less best items) := by
  -- The search goes on without the item of the two that is not kept.
  induction items generalizing best with
  | nil => simp [firstGreatest, runningMax]
  | cons item items ih =>
    have rest : ∀ kept ∈ [best, item], ComparesBy less key (kept :: items) := by
      intro kept keptIn first firstIn second secondIn
      have inside : ∀ other ∈ kept :: items, other ∈ best :: item :: items := by
        intro other member
        simp only [List.mem_cons, List.not_mem_nil, or_false] at keptIn member ⊢
        rcases member with rfl | member
        · exact keptIn.imp id .inl
        · exact .inr (.inr member)
      exact compares first (inside first firstIn) second (inside second secondIn)
    have order := compares best (by simp) item (by simp)
    unfold runningMax
    split
    case isTrue more =>
      rw [firstGreatest_displaced key (order.mp more), ih (rest item (by simp))]
    case isFalse notMore =>
      rw [firstGreatest_kept key (not_lt.mp fun more => notMore (order.mpr more)), ih (rest best (by simp))]

example : sorted (fun first second : Nat => first < second) [3, 1, 2, 2, 0] = [0, 1, 2, 2, 3] := by decide

end Absm
