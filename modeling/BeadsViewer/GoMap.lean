import Mathlib.Data.List.Sort
import Mathlib.Data.List.Dedup
/-
  beads_viewer formalization — Go maps and `sort.Slice`, the two library
  structures whose behaviour the Go runtime leaves open.

  * `GoMap κ ν` is a `map[κ]ν`: its entries, each key once.  A `range` over a
    map visits the entries in an order the runtime picks anew each time: a
    model of such a loop takes that order as an argument, any permutation of
    `entries`.
  * `SliceSort` is `sort.Slice` by its contract: a permutation sorted by
    `less` whenever `less` is a strict weak order, which runs Go's insertion
    sort on slices of at most 12 elements (`pdqsort_func`).  `insertionSort`
    is that insertion sort, and a `SliceSort` on its own.
  * `SliceStableSort` is `sort.SliceStable` by its contract: besides, the
    elements equivalent under `less` keep their order; it runs the same
    insertion sort on slices of at most 20 elements.  Insertion sort is
    stable (`insertionSort_stable`).
-/

namespace BeadsViewer

/-- A Go map: its entries, each key once. -/
structure GoMap (κ ν : Type) where
  entries : List (κ × ν)
  keys_nodup : (entries.map Prod.fst).Nodup

namespace GoMap
variable {κ ν : Type} [DecidableEq κ]

/-- `make(map[κ]ν)`. -/
def empty : GoMap κ ν := ⟨[], List.nodup_nil⟩

/-- `m[k]`, with `ok`. -/
def get? (m : GoMap κ ν) (k : κ) : Option ν := m.entries.lookup k

/-- `List.lookup` on a first entry, by cases on its key. -/
theorem lookup_cons_eq (e : κ × ν) (es : List (κ × ν)) (k : κ) :
    (e :: es).lookup k = if k = e.1 then some e.2 else es.lookup k := by
  obtain ⟨a, b⟩ := e
  by_cases h : k = a
  · subst h; simp [List.lookup_cons]
  · simp [List.lookup_cons, beq_false_of_ne h, h]

/-- `len(m)`. -/
def len (m : GoMap κ ν) : Nat := m.entries.length

/-- The entries after `m[k] = v`: the entry of `k` replaced in place, or a new
    one appended. -/
def setEntries (k : κ) (v : ν) : List (κ × ν) → List (κ × ν)
  | [] => [(k, v)]
  | e :: es => if e.1 = k then (k, v) :: es else e :: setEntries k v es

theorem mem_setEntries {k : κ} {v : ν} {x : κ × ν} :
    ∀ {es : List (κ × ν)}, x ∈ setEntries k v es → x = (k, v) ∨ x ∈ es
  | [], hx => by simpa [setEntries] using hx
  | e :: es, hx => by
    unfold setEntries at hx
    split at hx
    · simp only [List.mem_cons] at hx ⊢; tauto
    · rcases List.mem_cons.1 hx with rfl | hx
      · exact Or.inr (List.mem_cons_self _ _)
      · exact (mem_setEntries hx).imp id (List.mem_cons_of_mem _)

theorem keys_setEntries (k : κ) (v : ν) :
    ∀ es : List (κ × ν), (es.map Prod.fst).Nodup → ((setEntries k v es).map Prod.fst).Nodup
  | [], _ => by simp [setEntries]
  | e :: es, h => by
    rw [List.map_cons, List.nodup_cons] at h
    unfold setEntries
    split
    · next he => simpa [he] using h
    · next he =>
      refine List.nodup_cons.2 ⟨?_, keys_setEntries k v es h.2⟩
      simp only [List.mem_map, not_exists, not_and]
      intro x hx hxe
      rcases mem_setEntries hx with rfl | h'
      · exact he hxe.symm
      · exact h.1 (List.mem_map.2 ⟨x, h', hxe⟩)

theorem lookup_setEntries (k k' : κ) (v : ν) :
    ∀ es : List (κ × ν), (setEntries k v es).lookup k' = if k' = k then some v else es.lookup k'
  | [] => by simp [setEntries, lookup_cons_eq]
  | e :: es => by
    unfold setEntries
    split
    · next he => by_cases h : k' = k <;> simp [lookup_cons_eq, h, he]
    · next he =>
      by_cases h : k' = e.1
      · simp [lookup_cons_eq, h, he]
      · simp only [lookup_cons_eq, lookup_setEntries k k' v es, h, ite_false]

/-- `m[k] = v`. -/
def set (m : GoMap κ ν) (k : κ) (v : ν) : GoMap κ ν :=
  ⟨setEntries k v m.entries, keys_setEntries k v _ m.keys_nodup⟩

@[simp] theorem get?_empty (k : κ) : (empty : GoMap κ ν).get? k = none := rfl

@[simp] theorem get?_set (m : GoMap κ ν) (k k' : κ) (v : ν) :
    (m.set k v).get? k' = if k' = k then some v else m.get? k' :=
  lookup_setEntries k k' v m.entries

theorem mem_entries_iff (m : GoMap κ ν) (k : κ) (v : ν) :
    (k, v) ∈ m.entries ↔ m.get? k = some v := by
  unfold get?
  obtain ⟨es, hnd⟩ := m
  induction es with
  | nil => simp
  | cons e es ih =>
    obtain ⟨a, b⟩ := e
    simp only [List.map_cons, List.nodup_cons, List.mem_map] at hnd
    by_cases h : k = a
    · subst h
      simp only [List.mem_cons, Prod.mk.injEq, true_and, lookup_cons_eq, ite_true,
        Option.some.injEq]
      constructor
      · rintro (rfl | hm)
        · rfl
        · exact absurd ⟨_, hm, rfl⟩ hnd.1
      · rintro rfl; exact Or.inl rfl
    · simp [lookup_cons_eq, h, ih hnd.2]

theorem mem_keys_iff (m : GoMap κ ν) (k : κ) :
    k ∈ m.entries.map Prod.fst ↔ (m.get? k).isSome := by
  simp only [List.mem_map, Option.isSome_iff_exists]
  constructor
  · rintro ⟨⟨k', v⟩, hm, rfl⟩
    exact ⟨v, (mem_entries_iff m k' v).1 hm⟩
  · rintro ⟨v, hv⟩
    exact ⟨(k, v), (mem_entries_iff m k v).2 hv, rfl⟩

/-- `len(m)` is the number of distinct entries of any list of `m`'s keys. -/
theorem len_eq_dedup (m : GoMap κ ν) (l : List κ) (h : ∀ k, (m.get? k).isSome ↔ k ∈ l) :
    m.len = l.dedup.length := by
  have := (List.perm_ext_iff_of_nodup m.keys_nodup (List.nodup_dedup l)).2 fun k => by
    rw [mem_keys_iff, h, List.mem_dedup]
  simpa [len] using this.length_eq

section
variable {α : Type} (key : α → κ) (val : α → ν)

/-- A loop of `set`s gives a key an entry when it sets it or it had one. -/
theorem isSome_get?_foldl_set (k : κ) :
    ∀ (l : List α) (m : GoMap κ ν), ((l.foldl (fun m x => m.set (key x) (val x)) m).get? k).isSome ↔
      k ∈ l.map key ∨ (m.get? k).isSome
  | [], m => by simp
  | x :: l, m => by
    rw [List.foldl_cons, isSome_get?_foldl_set k l, get?_set]
    by_cases h : k = key x <;> simp [h]

/-- A loop that sets no key `k` leaves `k`'s entry as it was. -/
theorem get?_foldl_set_of_forall_ne (k : κ) :
    ∀ (l : List α) (m : GoMap κ ν), (∀ x ∈ l, key x ≠ k) →
      (l.foldl (fun m x => m.set (key x) (val x)) m).get? k = m.get? k
  | [], _, _ => rfl
  | x :: l, m, h => by
    rw [List.foldl_cons, get?_foldl_set_of_forall_ne k l _ fun y hy => h y (.tail _ hy),
      get?_set, if_neg (h x (.head _)).symm]

/-- A loop that sets `key x` to `val x` for each `x` of `l`, the keys distinct
    on `l`, maps each of them to its value. -/
theorem get?_foldl_set :
    ∀ (l : List α) (m : GoMap κ ν), (∀ x ∈ l, ∀ y ∈ l, key x = key y → x = y) →
      ∀ x ∈ l, (l.foldl (fun m x => m.set (key x) (val x)) m).get? (key x) = some (val x)
  | [], _, _, _, hx => absurd hx (List.not_mem_nil _)
  | y :: l, m, hinj, x, hx => by
    rw [List.foldl_cons]
    by_cases hxl : x ∈ l
    · exact get?_foldl_set l _ (fun a ha b hb => hinj a (.tail _ ha) b (.tail _ hb)) x hxl
    · obtain rfl : x = y := (List.mem_cons.1 hx).resolve_right hxl
      rw [get?_foldl_set_of_forall_ne key val _ l _
        fun z hz e => hxl (hinj z (.tail _ hz) x hx e ▸ hz), get?_set, if_pos rfl]

end

end GoMap

/-! ## `sort.Slice` -/

section
variable {α : Type}

/-- `less` is a strict weak order, as `sort.Slice` requires of its `less`. -/
structure StrictWeak (less : α → α → Bool) : Prop where
  irrefl : ∀ a, less a a = false
  trans : ∀ a b c, less a b → less b c → less a c
  cotrans : ∀ a b c, less a c → less a b ∨ less b c

/-- One pass of `insertionSortLessFunc`'s inner loop: the new element `x` is
    swapped left past every element it is `less` than.  The sorted prefix is
    kept reversed, its last element first. -/
def bubble (less : α → α → Bool) (x : α) : List α → List α
  | [] => [x]
  | y :: ys => if less x y then y :: bubble less x ys else x :: y :: ys

/-- `insertionSortLessFunc`. -/
def insertionSort (less : α → α → Bool) (xs : List α) : List α :=
  (xs.foldl (fun r x => bubble less x r) []).reverse

theorem bubble_perm (less : α → α → Bool) (x : α) :
    ∀ ys, List.Perm (bubble less x ys) (x :: ys)
  | [] => List.Perm.refl _
  | y :: ys => by
    unfold bubble; split
    · exact ((bubble_perm less x ys).cons y).trans (List.Perm.swap x y ys)
    · exact List.Perm.refl _

theorem bubble_sorted {less : α → α → Bool} (hw : StrictWeak less) (x : α) :
    ∀ ys, ys.Pairwise (fun a b => less a b = false) →
      (bubble less x ys).Pairwise (fun a b => less a b = false)
  | [], _ => List.pairwise_singleton _ _
  | y :: ys, h => by
    rw [List.pairwise_cons] at h
    unfold bubble; split
    · next hxy =>
      refine List.pairwise_cons.2 ⟨fun z hz => ?_, bubble_sorted hw x ys h.2⟩
      rcases List.mem_cons.1 ((bubble_perm less x ys).subset hz) with rfl | hz
      · cases hyz : less y z
        · rfl
        · simpa [hw.irrefl] using hw.trans _ _ _ hxy hyz
      · exact h.1 z hz
    · next hxy =>
      refine List.pairwise_cons.2 ⟨fun z hz => ?_, List.pairwise_cons.2 h⟩
      rcases List.mem_cons.1 hz with rfl | hz
      · simpa using hxy
      · cases hxz : less x z
        · rfl
        · rcases hw.cotrans _ y _ hxz with h' | h'
          · exact absurd h' hxy
          · simp [h.1 z hz] at h'

theorem foldl_bubble_perm (less : α → α → Bool) :
    ∀ (xs r : List α), List.Perm (xs.foldl (fun r x => bubble less x r) r) (xs.reverse ++ r)
  | [], r => List.Perm.refl _
  | x :: xs, r => by
    rw [List.foldl_cons, List.reverse_cons, List.append_assoc]
    exact (foldl_bubble_perm less xs _).trans (List.Perm.append_left _ (bubble_perm less x r))

theorem foldl_bubble_sorted {less : α → α → Bool} (hw : StrictWeak less) :
    ∀ (xs r : List α), r.Pairwise (fun a b => less a b = false) →
      (xs.foldl (fun r x => bubble less x r) r).Pairwise (fun a b => less a b = false)
  | [], _, h => h
  | x :: xs, r, h => foldl_bubble_sorted hw xs _ (bubble_sorted hw x r h)

theorem insertionSort_perm (less : α → α → Bool) (xs : List α) :
    List.Perm (insertionSort less xs) xs := by
  unfold insertionSort
  exact (List.reverse_perm _).trans ((foldl_bubble_perm less xs []).trans (by simp))

theorem insertionSort_sorted {less : α → α → Bool} (hw : StrictWeak less) (xs : List α) :
    (insertionSort less xs).Pairwise (fun a b => less b a = false) := by
  unfold insertionSort
  rw [List.pairwise_reverse]
  exact foldl_bubble_sorted hw xs [] List.Pairwise.nil

/-- `a` and `b` are equivalent under `less`: neither is less than the other. -/
def incomparable (less : α → α → Bool) (a b : α) : Bool := !less a b && !less b a

/-- Under a strict weak order, an element is never less than one equivalent
    to the same element as itself. -/
theorem not_incomparable_of_less {less : α → α → Bool} (hw : StrictWeak less) {k x y : α}
    (hxy : less x y = true) (hx : incomparable less k x = true) :
    incomparable less k y = false := by
  simp only [incomparable, Bool.and_eq_true, Bool.not_eq_true'] at hx
  rcases hw.cotrans x k y hxy with h | h
  · simp [hx.2] at h
  · simp [incomparable, h]

/-- `bubble` passes `x` over elements it is less than, none of them
    equivalent to an element equivalent to `x`: each class keeps its order. -/
theorem bubble_filter {less : α → α → Bool} (hw : StrictWeak less) (k x : α) :
    ∀ ys, (bubble less x ys).filter (incomparable less k) = (x :: ys).filter (incomparable less k)
  | [] => rfl
  | y :: ys => by
    unfold bubble; split
    · next hxy =>
      rw [List.filter_cons, bubble_filter hw k x ys]
      cases hx : incomparable less k x
      · simp [hx, List.filter_cons]
      · simp [hx, not_incomparable_of_less hw hxy hx]
    · rfl

theorem foldl_bubble_filter {less : α → α → Bool} (hw : StrictWeak less) (k : α) :
    ∀ (xs r : List α), (xs.foldl (fun r x => bubble less x r) r).filter (incomparable less k) =
      (xs.reverse ++ r).filter (incomparable less k)
  | [], r => rfl
  | x :: xs, r => by
    rw [List.foldl_cons, foldl_bubble_filter hw k xs, List.reverse_cons, List.append_assoc,
      List.filter_append, List.filter_append, bubble_filter hw k x r]
    rfl

/-- Insertion sort is stable: the elements equivalent to `k` keep their order. -/
theorem insertionSort_stable {less : α → α → Bool} (hw : StrictWeak less) (k : α) (xs : List α) :
    (insertionSort less xs).filter (incomparable less k) = xs.filter (incomparable less k) := by
  rw [insertionSort, List.filter_reverse, foldl_bubble_filter hw k xs [], List.append_nil,
    List.filter_reverse, List.reverse_reverse]

/-! ### Insertion sort with a negated strict weak order

`!less` is not a strict weak order: it holds both ways between equivalent
elements.  Insertion sort then keeps its sorted prefix in ascending order of
`less` (the output is descending) and passes each new element over the
equivalent ones already there, so each class comes out reversed. -/

theorem bubble_not_sorted {less : α → α → Bool} (hw : StrictWeak less) (x : α) :
    ∀ ys, ys.Pairwise (fun a b => less b a = false) →
      (bubble (fun a b => !less a b) x ys).Pairwise (fun a b => less b a = false)
  | [], _ => List.pairwise_singleton _ _
  | y :: ys, h => by
    rw [List.pairwise_cons] at h
    unfold bubble; split
    · next hxy =>
      refine List.pairwise_cons.2 ⟨fun z hz => ?_, bubble_not_sorted hw x ys h.2⟩
      rcases List.mem_cons.1 ((bubble_perm _ x ys).subset hz) with rfl | hz
      · simpa using hxy
      · exact h.1 z hz
    · next hxy =>
      have hxy : less x y = true := by simpa using hxy
      refine List.pairwise_cons.2 ⟨fun z hz => Bool.eq_false_iff.2 fun hzx => ?_, List.pairwise_cons.2 h⟩
      rcases List.mem_cons.1 hz with rfl | hz
      · simpa [hw.irrefl] using hw.trans _ _ _ hzx hxy
      · have := hw.trans _ _ _ hzx hxy
        rw [h.1 z hz] at this
        exact Bool.false_ne_true this

/-- In a list ascending by `less`, everything after an element greater than
    `x` is greater than `x`. -/
theorem less_of_ascending {less : α → α → Bool} (hw : StrictWeak less) {x y : α} {ys : List α}
    (h : (y :: ys).Pairwise (fun a b => less b a = false)) (hxy : less x y = true) :
    ∀ z ∈ y :: ys, less x z = true := by
  intro z hz
  rcases List.mem_cons.1 hz with rfl | hz
  · exact hxy
  · rcases hw.cotrans x z y hxy with h' | h'
    · exact h'
    · simp [(List.pairwise_cons.1 h).1 z hz] at h'

theorem bubble_not_filter {less : α → α → Bool} (hw : StrictWeak less) (k x : α) :
    ∀ ys, ys.Pairwise (fun a b => less b a = false) →
      (bubble (fun a b => !less a b) x ys).filter (incomparable less k) =
        ys.filter (incomparable less k) ++ [x].filter (incomparable less k)
  | [], _ => rfl
  | y :: ys, h => by
    unfold bubble; split
    · rw [List.filter_cons, bubble_not_filter hw k x ys (List.pairwise_cons.1 h).2,
        List.filter_cons (x := y)]
      split <;> rfl
    · next hxy =>
      have hxy : less x y = true := by simpa using hxy
      cases hx : incomparable less k x
      · simp [List.filter_cons (x := x), hx]
      · have : (y :: ys).filter (incomparable less k) = [] := List.filter_eq_nil_iff.2
          fun z hz => by simp [not_incomparable_of_less hw (less_of_ascending hw h hxy z hz) hx]
        simp [List.filter_cons (x := x), hx, this]

theorem foldl_bubble_not {less : α → α → Bool} (hw : StrictWeak less) (k : α) :
    ∀ (xs r : List α), r.Pairwise (fun a b => less b a = false) →
      (xs.foldl (fun r x => bubble (fun a b => !less a b) x r) r).Pairwise
          (fun a b => less b a = false) ∧
        (xs.foldl (fun r x => bubble (fun a b => !less a b) x r) r).filter (incomparable less k) =
          r.filter (incomparable less k) ++ xs.filter (incomparable less k)
  | [], r, h => ⟨h, by simp⟩
  | x :: xs, r, h => by
    obtain ⟨h₁, h₂⟩ := foldl_bubble_not hw k xs _ (bubble_not_sorted hw x r h)
    refine ⟨h₁, ?_⟩
    rw [List.foldl_cons, h₂, bubble_not_filter hw k x r h, List.append_assoc, ← List.filter_append]
    rfl

/-- **Insertion sort with `!less` reverses each class** of elements
    equivalent under the strict weak order `less`. -/
theorem insertionSort_not_filter {less : α → α → Bool} (hw : StrictWeak less) (k : α)
    (xs : List α) :
    (insertionSort (fun a b => !less a b) xs).filter (incomparable less k) =
      (xs.filter (incomparable less k)).reverse := by
  rw [insertionSort, List.filter_reverse, (foldl_bubble_not hw k xs [] List.Pairwise.nil).2]
  rfl

/-- A `less` that compares keys of a linear order is a strict weak order. -/
theorem StrictWeak.of_key {β : Type} [LinearOrder β] {less : α → α → Bool} (key : α → β)
    (h : ∀ a b, less a b = true ↔ key a < key b) : StrictWeak less where
  irrefl a := Bool.eq_false_iff.2 fun h' => lt_irrefl _ ((h a a).1 h')
  trans a b c hab hbc := (h a c).2 (lt_trans ((h a b).1 hab) ((h b c).1 hbc))
  cotrans a b c hac := (lt_or_le (key a) (key b)).imp (h a b).2
    fun hba => (h b c).2 (lt_of_le_of_lt hba ((h a c).1 hac))

end

/-- `sort.Slice` by its contract: a permutation of the slice, sorted by `less`
    when `less` is a strict weak order; on at most 12 elements `pdqsort_func`
    runs `insertionSortLessFunc`. -/
structure SliceSort where
  sort : {α : Type} → (α → α → Bool) → List α → List α
  perm : ∀ {α : Type} (less : α → α → Bool) (xs : List α), List.Perm (sort less xs) xs
  sorted : ∀ {α : Type} (less : α → α → Bool) (xs : List α), StrictWeak less →
    (sort less xs).Pairwise (fun a b => less b a = false)
  small : ∀ {α : Type} (less : α → α → Bool) (xs : List α), xs.length ≤ 12 →
    sort less xs = insertionSort less xs

/-- Insertion sort at every length: a `SliceSort`. -/
def insertionSliceSort : SliceSort where
  sort := insertionSort
  perm := insertionSort_perm
  sorted := fun _ xs hw => insertionSort_sorted hw xs
  small := fun _ _ _ => rfl

/-- `sort.SliceStable` by its contract: a permutation of the slice, sorted by
    `less`, in which the elements equivalent to any `k` keep their order, when
    `less` is a strict weak order; on at most 20 elements (`blockSize`)
    `stable_func` runs `insertionSort_func` alone. -/
structure SliceStableSort where
  sort : {α : Type} → (α → α → Bool) → List α → List α
  perm : ∀ {α : Type} (less : α → α → Bool) (xs : List α), List.Perm (sort less xs) xs
  sorted : ∀ {α : Type} (less : α → α → Bool) (xs : List α), StrictWeak less →
    (sort less xs).Pairwise (fun a b => less b a = false)
  stable : ∀ {α : Type} (less : α → α → Bool) (xs : List α), StrictWeak less → ∀ k,
    (sort less xs).filter (incomparable less k) = xs.filter (incomparable less k)
  small : ∀ {α : Type} (less : α → α → Bool) (xs : List α), xs.length ≤ 20 →
    sort less xs = insertionSort less xs

/-- Insertion sort at every length: a `SliceStableSort`. -/
def insertionSliceStableSort : SliceStableSort where
  sort := insertionSort
  perm := insertionSort_perm
  sorted := fun _ xs hw => insertionSort_sorted hw xs
  stable := fun _ xs hw k => insertionSort_stable hw k xs
  small := fun _ _ _ => rfl

end BeadsViewer
