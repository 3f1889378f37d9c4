import Mathlib.Data.List.Sort
import Mathlib.Data.List.SplitBy

/-! Lists in the stable order of a key, and lists cut where two neighbours do not belong together. -/

namespace Absm

variable {α ι : Type}

/-! ### Stable order -/

section Order

variable [LinearOrder ι]

/-- A list is another one in the order of a key, in which items of one key keep their order. -/
def StablySorted (key : α → ι) (items sorted : List α) : Prop :=
  -- Items of one key keep their order, whatever the key is.
  sorted.Pairwise (fun first second => key first ≤ key second) ∧
    ∀ value, sorted.filter (key · = value) = items.filter (key · = value)

/-- Inserting an item puts it in front of the items of its key. -/
private theorem filter_orderedInsert (key : α → ι) (item : α) (items : List α) (value : ι) :
    (items.orderedInsert (fun first second => key first ≤ key second) item).filter (key · = value) =
      (item :: items).filter (key · = value) := by
  -- The item is moved behind items of smaller keys only.
  induction items with
  | nil => rfl
  | cons head items ih =>
    by_cases before : key item ≤ key head
    · rw [List.orderedInsert_cons, if_pos before]
    · rw [List.orderedInsert_cons, if_neg before, List.filter_cons, ih]
      have differs : key item ≠ key head := fun same => before same.le
      by_cases found : key head = value
      · have other : key item ≠ value := fun same => differs (same.trans found.symm)
        simp [found, other]
      · simp [List.filter_cons, found]

/-- Insertion sort is stable. -/
theorem stablySorted_insertionSort (key : α → ι) (items : List α) :
    StablySorted key items (items.insertionSort fun first second => key first ≤ key second) := by
  have total : Std.Total fun first second : α => key first ≤ key second :=
    ⟨fun first second => le_total (key first) (key second)⟩
  have transitive : IsTrans α fun first second => key first ≤ key second :=
    ⟨fun _ _ _ first second => le_trans first second⟩
  refine ⟨List.pairwise_insertionSort _ items, fun value => ?_⟩
  -- Each insertion keeps the items of every key in their order.
  induction items with
  | nil => rfl
  | cons item items ih =>
    rw [List.insertionSort_cons, filter_orderedInsert, List.filter_cons, List.filter_cons, ih]

/-- Items of a stably sorted list are those of the original one. -/
theorem StablySorted.mem_iff {key : α → ι} {items sorted : List α}
    (stable : StablySorted key items sorted) {item : α} : item ∈ sorted ↔ item ∈ items := by
  -- The item is looked for among those of its key.
  have same := stable.2 (key item)
  have left : item ∈ sorted.filter (key · = key item) ↔ item ∈ sorted := by simp
  have right : item ∈ items.filter (key · = key item) ↔ item ∈ items := by simp
  rw [← left, ← right, same]

/-- Items that come in some order come in that order behind items of the same key. -/
theorem StablySorted.pairwise {key : α → ι} {items sorted : List α} (stable : StablySorted key items sorted)
    {before : α → α → Prop} (ordered : items.Pairwise before) :
    sorted.Pairwise fun first second => key first < key second ∨
      key first = key second ∧ before first second := by
  rw [List.pairwise_iff_forall_sublist]
  intro first second both
  rcases (List.pairwise_iff_forall_sublist.mp stable.1 both).lt_or_eq with less | same
  · exact .inl less
  · -- Items of one key are found in the same order among those of the original list.
    have kept : [first, second].Sublist (items.filter (key · = key second)) := by
      have part := both.filter (key · = key second)
      rwa [List.filter_eq_self.mpr (by simp [same]), stable.2] at part
    exact .inr ⟨same, List.pairwise_iff_forall_sublist.mp ordered (kept.trans List.filter_sublist)⟩

/-- There is only one stable order. -/
theorem StablySorted.unique {key : α → ι} {items first second : List α}
    (firstStable : StablySorted key items first) (secondStable : StablySorted key items second) :
    first = second := by
  have same : ∀ value, first.filter (key · = value) = second.filter (key · = value) := fun value =>
    (firstStable.2 value).trans (secondStable.2 value).symm
  obtain ⟨firstOrder, -⟩ := firstStable
  obtain ⟨secondOrder, -⟩ := secondStable
  -- The two heads have the same key, so they are the first items of that key.
  induction first generalizing second with
  | nil =>
    cases second with
    | nil => rfl
    | cons head second => simpa using same (key head)
  | cons head first ih =>
    cases second with
    | nil => simpa using same (key head)
    | cons other second =>
      have headIn : head ∈ other :: second := by
        have member : head ∈ (head :: first).filter (key · = key head) := by simp
        rw [same] at member
        exact List.mem_of_mem_filter member
      have otherIn : other ∈ head :: first := by
        have member : other ∈ (other :: second).filter (key · = key other) := by simp
        rw [← same] at member
        exact List.mem_of_mem_filter member
      have lower : key other ≤ key head := by
        rcases List.mem_cons.mp headIn with equal | later
        · exact (congrArg key equal).ge
        · exact (List.pairwise_cons.mp secondOrder).1 head later
      have upper : key head ≤ key other := by
        rcases List.mem_cons.mp otherIn with equal | later
        · exact (congrArg key equal).ge
        · exact (List.pairwise_cons.mp firstOrder).1 other later
      have keys : key head = key other := le_antisymm upper lower
      obtain ⟨equal, -⟩ : head = other ∧ _ := by
        simpa [List.filter_cons, keys] using same (key other)
      subst equal
      -- Taking the common head away leaves lists that still agree on every key.
      rw [ih (fun value => ?_) (List.pairwise_cons.mp firstOrder).2
        (List.pairwise_cons.mp secondOrder).2]
      have whole := same value
      by_cases found : key head = value
      · simpa [List.filter_cons, found] using whole
      · simpa [List.filter_cons, found] using whole

/-- The stable order of some items consists of these items. -/
theorem StablySorted.perm {key : α → ι} {items sorted : List α}
    (stable : StablySorted key items sorted) : sorted.Perm items := by
  classical
  -- An item is counted among those of its key.
  rw [List.perm_iff_count]
  intro item
  have own : ∀ list : List α, (list.filter (key · = key item)).count item = list.count item :=
    fun list => List.count_filter (by simp)
  rw [← own sorted, ← own items, stable.2]

/-- The keys in order do not depend on the order in which the items come. -/
theorem StablySorted.map_key_eq {key : α → ι} {items others first second : List α}
    (perm : items.Perm others) (firstStable : StablySorted key items first)
    (secondStable : StablySorted key others second) : first.map key = second.map key := by
  -- Both lists of keys are the same keys in ascending order.
  have same : first.Perm second := firstStable.perm.trans (perm.trans secondStable.perm.symm)
  refine (same.map key).eq_of_pairwise (fun _ _ _ _ => le_antisymm) ?_ ?_
  · exact List.pairwise_map.mpr firstStable.1
  · exact List.pairwise_map.mpr secondStable.1

/-- Items of different keys have one order, whatever the order in which they come. -/
theorem StablySorted.eq_of_distinct {key : α → ι} {items others first second : List α}
    (perm : items.Perm others) (firstStable : StablySorted key items first)
    (secondStable : StablySorted key others second) (distinct : (items.map key).Nodup) :
    first = second := by
  -- Two of the items that are not below each other have one key, so they are one item.
  have same : first.Perm second := firstStable.perm.trans (perm.trans secondStable.perm.symm)
  refine same.eq_of_pairwise (fun left right leftIn rightIn below above => ?_) firstStable.1
    secondStable.1
  have leftItem := firstStable.mem_iff.mp leftIn
  have rightItem := perm.mem_iff.mpr (secondStable.mem_iff.mp rightIn)
  exact List.inj_on_of_nodup_map distinct leftItem rightItem (le_antisymm below above)

/-- Where all items of one list come before all items of another one, each list is sorted by itself. -/
theorem StablySorted.append {key : α → ι} {items others first second : List α}
    (firstStable : StablySorted key items first) (secondStable : StablySorted key others second)
    (before : ∀ item ∈ items, ∀ other ∈ others, key item ≤ key other) :
    StablySorted key (items ++ others) (first ++ second) := by
  -- Below the boundary every key is smaller than above it, so the parts need not be merged.
  refine ⟨List.pairwise_append.mpr ⟨firstStable.1, secondStable.1, ?_⟩, fun value => ?_⟩
  · intro left leftIn right rightIn
    exact before left (firstStable.mem_iff.mp leftIn) right (secondStable.mem_iff.mp rightIn)
  · rw [List.filter_append, List.filter_append, firstStable.2, secondStable.2]

end Order

/-! ### Cutting -/

/-- Cutting a list behind a group that it starts with: there is one group for that one, and one more
for each pair of later neighbours that do not belong together. -/
private theorem length_splitBy_group (related : α → α → Bool) (group : List α) (last : α)
    (rest : List α) (chain : (group ++ [last]).IsChain (related · ·)) :
    ((group ++ last :: rest).splitBy related).length =
      1 + ((last :: rest).zip rest).countP fun pair => !related pair.1 pair.2 := by
  -- The next item either joins the group or starts a group of its own.
  induction rest generalizing group last with
  | nil => simp [List.splitBy_of_isChain (by simp) chain]
  | cons item rest ih =>
    cases joins : related last item with
    | true =>
      have longer : ((group ++ [last]) ++ [item]).IsChain (related · ·) :=
        List.isChain_append.mpr ⟨chain, by simp, by simpa using joins⟩
      simpa [joins] using ih _ _ longer
    | false =>
      have cut := List.splitBy_append_cons (r := related) rest (l := group ++ [last]) (a := item)
        (by simpa using joins)
      rw [List.splitBy_of_isChain (by simp) chain] at cut
      have later := ih [] item (by simp)
      rw [List.nil_append] at later
      rw [show group ++ last :: item :: rest = (group ++ [last]) ++ item :: rest by simp, cut,
        List.length_append, later]
      simp [joins]
      omega

/-- There is one group more than there are neighbours that do not belong together. -/
theorem length_splitBy (related : α → α → Bool) (first : α) (rest : List α) :
    ((first :: rest).splitBy related).length =
      1 + ((first :: rest).zip rest).countP fun pair => !related pair.1 pair.2 :=
  -- The first item is a group that the list starts with.
  length_splitBy_group related [] first rest (by simp)

/-- Cutting the keys of some items cuts the items. -/
theorem splitBy_map (key : α → ι) (related : ι → ι → Bool) (items : List α) :
    (items.map key).splitBy related =
      (items.splitBy fun first second => related (key first) (key second)).map (List.map key) := by
  -- The keys of the groups are groups of the keys, cut at the same places.
  rw [List.splitBy_eq_iff]
  have split := List.splitBy_eq_iff.mp
    (rfl : items.splitBy (fun first second => related (key first) (key second)) = _)
  obtain ⟨whole, nonempty, together, apart⟩ := split
  refine ⟨?_, ?_, ?_, ?_⟩
  · rw [← List.map_flatten, ← whole]
  · intro member
    obtain ⟨group, inside, empty⟩ := List.mem_map.mp member
    exact nonempty (List.map_eq_nil_iff.mp empty ▸ inside)
  · intro keys member
    obtain ⟨group, inside, rfl⟩ := List.mem_map.mp member
    exact (List.isChain_map key).mpr (together group inside)
  · refine (List.isChain_map _).mpr (apart.imp fun before after cut => ?_)
    obtain ⟨left, right, differ⟩ := cut
    refine ⟨by simpa using left, by simpa using right, ?_⟩
    rw [List.getLast_map, List.head_map]
    exact differ

/-- Two relations that agree on the items cut a list alike. -/
theorem splitBy_congr {related other : α → α → Bool} {items : List α}
    (same : ∀ first ∈ items, ∀ second ∈ items, related first second = other first second) :
    items.splitBy related = items.splitBy other := by
  rw [List.splitBy_eq_iff]
  obtain ⟨whole, nonempty, together, apart⟩ := List.splitBy_eq_iff.mp (rfl : items.splitBy other = _)
  have inside : ∀ group ∈ items.splitBy other, ∀ item ∈ group, item ∈ items := fun group groupIn item itemIn =>
    whole ▸ List.mem_flatten.mpr ⟨group, groupIn, itemIn⟩
  refine ⟨whole, nonempty, fun group groupIn => ?_, ?_⟩
  · refine (together group groupIn).imp_of_mem_imp fun first second firstIn secondIn joined => ?_
    rw [same first (inside group groupIn first firstIn) second (inside group groupIn second secondIn), joined]
  · -- The last item of a group and the first one of the next are items of the list too.
    refine apart.imp_of_mem_imp fun before after beforeIn afterIn cut => ?_
    obtain ⟨left, right, differ⟩ := cut
    refine ⟨left, right, ?_⟩
    rw [same _ (inside before beforeIn _ (List.getLast_mem left)) _
      (inside after afterIn _ (List.head_mem right)), differ]

section Groups

variable [LinearOrder ι]

/-- Where equal keys belong together, cutting ascending keys leaves groups of different keys. -/
theorem splitBy_ascending {related : ι → ι → Bool} (reflexive : ∀ key, related key key = true)
    {keys : List ι} (sorted : keys.Pairwise (· ≤ ·)) :
    (keys.splitBy related).Pairwise fun before after => ∀ x ∈ before, ∀ y ∈ after, x < y := by
  have nonempty := List.nil_notMem_splitBy related keys
  have cuts := List.isChain_getLast_head_splitBy related keys
  rw [← List.flatten_splitBy related keys] at sorted
  generalize keys.splitBy related = groups at nonempty cuts sorted ⊢
  -- The cut behind a group is one between different keys, and all later keys are above it.
  induction groups with
  | nil => exact List.Pairwise.nil
  | cons group groups ih =>
    rw [List.flatten_cons] at sorted
    obtain ⟨inner, outer, across⟩ := List.pairwise_append.mp sorted
    refine List.Pairwise.cons ?_
      (ih (fun member => nonempty (List.mem_cons_of_mem _ member)) cuts.of_cons outer)
    intro after afterIn x xIn y yIn
    have later : y ∈ groups.flatten := List.mem_flatten.mpr ⟨after, afterIn, yIn⟩
    cases groups with
    | nil => simp at afterIn
    | cons next groups =>
      obtain ⟨left, right, cut⟩ := (List.isChain_cons_cons.mp cuts).1
      have lastIn := List.getLast_mem left
      have headIn : next.head right ∈ (next :: groups).flatten :=
        List.mem_flatten.mpr ⟨next, List.mem_cons_self .., List.head_mem right⟩
      have toLast : x ≤ group.getLast left := by
        rw [← List.dropLast_append_getLast left] at inner xIn
        rcases List.mem_append.mp xIn with earlier | last
        · exact (List.pairwise_append.mp inner).2.2 x earlier _ (List.mem_singleton_self _)
        · exact (List.mem_singleton.mp last).le
      have fromHead : next.head right ≤ y := by
        rw [List.flatten_cons, ← List.cons_head_tail right, List.cons_append] at outer later
        rcases List.mem_cons.mp later with first | rest
        · exact first.ge
        · exact (List.pairwise_cons.mp outer).1 y rest
      have differ : group.getLast left ≠ next.head right := by
        intro same
        rw [same, reflexive] at cut
        cases cut
      exact toLast.trans_lt ((lt_of_le_of_ne (across _ lastIn _ headIn) differ).trans_le fromHead)

/-- A property that holds in front and nowhere behind takes a list apart. -/
private theorem filter_append_parts {holds : α → Prop} [DecidablePred holds] {front behind : List α}
    (inFront : ∀ item ∈ front, holds item) (notBehind : ∀ item ∈ behind, ¬ holds item) :
    (front ++ behind).filter (holds ·) = front ∧
      (front ++ behind).filter (¬ holds ·) = behind := by
  -- A key is found in one of the two parts only.
  rw [List.filter_append, List.filter_append]
  constructor
  · rw [List.filter_eq_self.mpr (by simpa using inFront),
      List.filter_eq_nil_iff.mpr (by simpa using notBehind), List.append_nil]
  · rw [List.filter_eq_nil_iff.mpr (by simpa using inFront),
      List.filter_eq_self.mpr (by simpa using notBehind), List.nil_append]

omit [LinearOrder ι] in
/-- Two lists of groups with the same keys consist of the same items, group by group, as soon as they
do as a whole and no key occurs in two groups. -/
theorem forall₂_perm_of_keys (key : α → ι) {left right : List (List α)}
    (keys : left.map (List.map key) = right.map (List.map key))
    (apart : (left.map (List.map key)).Pairwise fun before after =>
      ∀ x ∈ before, ∀ y ∈ after, x ≠ y)
    (perm : left.flatten.Perm right.flatten) : List.Forall₂ List.Perm left right := by
  classical
  -- The first group is what has one of its keys, on both sides.
  induction left generalizing right with
  | nil =>
    obtain rfl : right = [] := by simpa using keys.symm
    exact List.Forall₂.nil
  | cons group left ih =>
    cases right with
    | nil => simp at keys
    | cons other right =>
      simp only [List.map_cons, List.cons.injEq] at keys
      obtain ⟨same, rest⟩ := keys
      simp only [List.map_cons, List.pairwise_cons] at apart
      have foreign : ∀ groups : List (List α), groups.map (List.map key) = left.map (List.map key) →
          ∀ item ∈ groups.flatten, key item ∉ group.map key := by
        intro groups equal item member own
        obtain ⟨later, laterIn, inside⟩ := List.mem_flatten.mp member
        have mapped : later.map key ∈ left.map (List.map key) :=
          equal ▸ List.mem_map_of_mem laterIn
        exact apart.1 _ mapped _ own _ (List.mem_map_of_mem inside) rfl
      have ownLeft : ∀ item ∈ group, key item ∈ group.map key := fun item => List.mem_map_of_mem
      have ownRight : ∀ item ∈ other, key item ∈ group.map key := fun item member =>
        same ▸ List.mem_map_of_mem member
      obtain ⟨leftFront, leftBehind⟩ := filter_append_parts ownLeft (foreign left rfl)
      obtain ⟨rightFront, rightBehind⟩ := filter_append_parts ownRight (foreign right rest.symm)
      rw [List.flatten_cons, List.flatten_cons] at perm
      have inside := perm.filter fun item => decide (key item ∈ group.map key)
      have outside := perm.filter fun item => decide (key item ∉ group.map key)
      rw [leftFront, rightFront] at inside
      rw [leftBehind, rightBehind] at outside
      exact List.Forall₂.cons inside (ih rest apart.2 outside)

/-- Cutting two orders of the same items by their keys, with equal keys kept together, gives groups
of the same items. -/
theorem splitBy_forall₂_perm (key : α → ι) (related : ι → ι → Bool)
    (reflexive : ∀ key, related key key = true) {first second : List α}
    (firstSorted : first.Pairwise fun left right => key left ≤ key right)
    (keys : first.map key = second.map key) (perm : first.Perm second) :
    List.Forall₂ List.Perm (first.splitBy fun left right => related (key left) (key right))
      (second.splitBy fun left right => related (key left) (key right)) := by
  -- The keys are cut alike, and groups of different keys share no item.
  apply forall₂_perm_of_keys key
  · rw [← splitBy_map, ← splitBy_map, keys]
  · rw [← splitBy_map]
    refine (splitBy_ascending reflexive (List.pairwise_map.mpr firstSorted)).imp ?_
    exact fun below x xIn y yIn => (below x xIn y yIn).ne
  · rw [List.flatten_splitBy, List.flatten_splitBy]
    exact perm

end Groups

end Absm
