import BeadsViewer.GoMap
/-
  beads_viewer formalization — the top-N lists of the insights aggregator
  (`getTopItems` in `pkg/analysis/insights.go`).

  `getTopItems` copies a metric map into a slice in the order a `range` visits
  it, sorts the slice with `sort.Slice` by value, descending, and keeps the
  first `limit` entries.  The sort has no tie-break, so:

  * `getTopItems_spec`: for every map, every iteration order and every limit,
    the result is `max 0 (min limit |m|)` distinct entries of the map in
    descending value order, none of the entries left out has a larger value,
    and the sequence of values is the same for every iteration order;
  * `getTopItems_tie_order`: which of two entries with equal values is kept
    at the cut-off follows the iteration order, not the ids.
-/

namespace BeadsViewer.Analysis

/-- `InsightItem`. -/
structure InsightItem (β : Type) where
  id : String
  value : β
  deriving DecidableEq, Repr

section
variable {β : Type} [LinearOrder β] (S : SliceSort)

/-- The `less` of `getTopItems`: `ss[i].Value > ss[j].Value`. -/
def byValueDesc (a b : String × β) : Bool := decide (b.2 < a.2)

/-- `getTopItems`, on the slice `ss` that the `range` over the map built. -/
def getTopItems (ss : List (String × β)) (limit : Int) : List (InsightItem β) :=
  ((S.sort byValueDesc ss).take limit.toNat).map fun e => ⟨e.1, e.2⟩

theorem byValueDesc_strictWeak : StrictWeak (byValueDesc (β := β)) where
  irrefl a := by simp [byValueDesc]
  trans a b c hab hbc := by
    simp only [byValueDesc, decide_eq_true_eq] at *; exact hbc.trans hab
  cotrans a b c hac := by
    simp only [byValueDesc, decide_eq_true_eq] at *
    rcases lt_or_le b.2 a.2 with h | h
    · exact Or.inl h
    · exact Or.inr (lt_of_lt_of_le hac h)

/-- The sorted slice, by value descending. -/
theorem sort_byValueDesc_sorted (ss : List (String × β)) :
    (S.sort byValueDesc ss).Pairwise (fun a b => b.2 ≤ a.2) :=
  (S.sorted _ ss byValueDesc_strictWeak).imp fun h => by simpa [byValueDesc] using h

/-- The values of the sorted slice: the values, sorted descending. -/
theorem sort_byValueDesc_values {ss l : List (String × β)} (h : List.Perm ss l) :
    (S.sort byValueDesc ss).map Prod.snd = (l.map Prod.snd).insertionSort (· ≥ ·) := by
  apply List.eq_of_perm_of_sorted (r := (· ≥ ·))
  · exact (((S.perm _ ss).trans h).map _).trans (List.perm_insertionSort _ _).symm
  · exact List.pairwise_map.2 (sort_byValueDesc_sorted S ss)
  · exact List.sorted_insertionSort _ _

theorem getTopItems_pairs (ss : List (String × β)) (limit : Int) :
    (getTopItems S ss limit).map (fun i => (i.id, i.value)) =
      (S.sort byValueDesc ss).take limit.toNat := by
  simp [getTopItems, Function.comp_def]

/-- **Top-N lists.**  For every metric map, every order in which a `range`
    visits it and every limit, `getTopItems` returns `max 0 (min limit |m|)`
    distinct entries of the map, in descending value order; no entry left out
    has a larger value than one returned; and the values returned are the
    first `limit` values of the map sorted descending, whatever the order. -/
theorem getTopItems_spec (m : GoMap String β) (ss : List (String × β))
    (hss : List.Perm ss m.entries) (limit : Int) :
    (getTopItems S ss limit).length = min limit.toNat m.len ∧
    (getTopItems S ss limit).map InsightItem.value =
      ((m.entries.map Prod.snd).insertionSort (· ≥ ·)).take limit.toNat ∧
    List.Subperm ((getTopItems S ss limit).map fun i => (i.id, i.value)) m.entries ∧
    ∀ e ∈ m.entries, e ∉ (getTopItems S ss limit).map (fun i => (i.id, i.value)) →
      ∀ i ∈ getTopItems S ss limit, e.2 ≤ i.value := by
  have hperm := (S.perm byValueDesc ss).trans hss
  rw [getTopItems_pairs]
  refine ⟨?_, ?_, ?_, ?_⟩
  · simp [getTopItems, GoMap.len, hperm.length_eq]
  · have h := congrArg (List.take limit.toNat) (sort_byValueDesc_values S hss)
    rw [← List.map_take] at h
    simpa [getTopItems, Function.comp_def] using h
  · exact (List.take_sublist _ _).subperm.trans hperm.subperm
  · intro e he hnot i hi
    have hmem : e ∈ (S.sort byValueDesc ss).drop limit.toNat := by
      have := hperm.symm.subset he
      rw [← List.take_append_drop limit.toNat (S.sort byValueDesc ss)] at this
      exact (List.mem_append.1 this).resolve_left hnot
    have hs := sort_byValueDesc_sorted S ss
    rw [← List.take_append_drop limit.toNat (S.sort byValueDesc ss), List.pairwise_append] at hs
    have hi' : (i.id, i.value) ∈ (S.sort byValueDesc ss).take limit.toNat := by
      rw [← getTopItems_pairs]; exact List.mem_map_of_mem _ hi
    exact hs.2.2 _ hi' _ hmem

end

/-- The map `{a: 3, b: 1, c: 2}`, visited from `c`, with limit `2`. -/
theorem getTopItems_spec_three :
    ∃ (m : GoMap String Nat) (ss : List (String × Nat)),
      m = ((GoMap.empty.set "a" 3).set "b" 1).set "c" 2 ∧ ss = [("c", 2), ("a", 3), ("b", 1)] ∧
      List.Perm ss m.entries ∧
      (getTopItems insertionSliceSort ss 2).length = min (2 : Int).toNat m.len ∧
      (getTopItems insertionSliceSort ss 2).map InsightItem.value =
        ((m.entries.map Prod.snd).insertionSort (· ≥ ·)).take (2 : Int).toNat ∧
      List.Subperm ((getTopItems insertionSliceSort ss 2).map fun i => (i.id, i.value)) m.entries ∧
      ∀ e ∈ m.entries, e ∉ (getTopItems insertionSliceSort ss 2).map (fun i => (i.id, i.value)) →
        ∀ i ∈ getTopItems insertionSliceSort ss 2, e.2 ≤ i.value :=
  ⟨_, _, rfl, rfl, by decide, getTopItems_spec insertionSliceSort _ _ (by decide) 2⟩

/-- Two orders of the map `{a: 1, b: 1}`: with limit `1`, each keeps the entry
    it visits first. -/
theorem getTopItems_tie_order :
    getTopItems insertionSliceSort [("b", (1 : Nat)), ("a", 1)] 1 = [⟨"b", 1⟩] ∧
      getTopItems insertionSliceSort [("a", (1 : Nat)), ("b", 1)] 1 = [⟨"a", 1⟩] := by
  decide

end BeadsViewer.Analysis
