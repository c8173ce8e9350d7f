import BeadsViewer.Viewer.Interaction
import Mathlib.Data.String.Basic
/-
  beads_viewer formalization — the label galaxy of the graph viewer:
  `buildLabelColorMap`, `getPrimaryLabel`, `getLabelColor`,
  `isCrossLabelEdge`, `countNodesWithLabel` and the click handler of the
  label legend.

  * `buildLabelColorMap` collects the store's labels and `(unlabeled)` in a
    `Set`, sorts them and gives the label at position `i` the colour
    `LABEL_COLORS[i % 10]`.  JavaScript's default sort is a parameter: any
    function that permutes its input.
  * The colours are pairwise distinct exactly when there are at most ten
    labels, `(unlabeled)` included (`labelColors_nodup_iff`).
  * Every node `prepareGraphData` draws has its primary label in the map, so
    `getLabelColor`'s fallback `LABEL_COLORS[0]` is never used for a drawn
    node (`getLabelColor_drawn`).
  * Clicking a label of the legend, with no label filter set, draws as many
    nodes as the legend counts for it; clicking it again clears every
    filter, not only the label (`legendClick_twice`).
-/

namespace BeadsViewer.Viewer

/-! ## Colours -/

/-- `LABEL_COLORS`. -/
def labelColors : List String :=
  ["#8BE9FD", "#50FA7B", "#FFB86C", "#FF79C6", "#BD93F9", "#F1FA8C", "#FF5555", "#6272A4",
    "#44475A", "#F8F8F2"]

/-- The `labelSet` of `buildLabelColorMap`: every issue's labels, in order,
    then `(unlabeled)`, each added to a `Set`. -/
def labelSet (issues : List Issue) : List String :=
  addTo (issues.foldl (fun s issue => issue.labels.foldl addTo s) []) "(unlabeled)"

/-- `labelClusterState.labels`: the label set sorted by `sort`. -/
def galaxyLabels (sort : List String → List String) (issues : List Issue) : List String :=
  sort (labelSet issues)

/-- `buildLabelColorMap()`: the colour map, label by label in sorted order.
    The cluster centres it also computes are left out. -/
def buildLabelColorMap (sort : List String → List String) (issues : List Issue) :
    List (String × String) :=
  (galaxyLabels sort issues).enum.map fun p => (p.2, labelColors.getD (p.1 % labelColors.length) "")

/-- `getPrimaryLabel(node)`. -/
def getPrimaryLabel (node : Node) : String := node.labels.headD "(unlabeled)"

/-- `getLabelColor(node)`: `labelColorMap.get(label) || LABEL_COLORS[0]`. -/
def getLabelColor (colorMap : List (String × String)) (node : Node) : String :=
  match colorMap.find? fun e => e.1 == getPrimaryLabel node with
  | some e => if e.2 = "" then labelColors.getD 0 "" else e.2
  | none => labelColors.getD 0 ""

/-- `isCrossLabelEdge(link)`, its ends looked up in `store.nodeMap`. -/
def isCrossLabelEdge (issues : List Issue) (link : Link) : Bool :=
  match nodeMapGet issues link.source, nodeMapGet issues link.target with
  | some s, some t => s.labels.headD "(unlabeled)" != t.labels.headD "(unlabeled)"
  | _, _ => false

section
variable {G : Type} (D : DiGraph G) (toLower : String → String)

end

/-! ## The label set -/

theorem mem_foldl_addTo {k : String} :
    ∀ (xs acc : List String), k ∈ xs.foldl addTo acc ↔ k ∈ acc ∨ k ∈ xs
  | [], _ => by simp
  | x :: xs, acc => by
    rw [List.foldl_cons, mem_foldl_addTo xs, mem_addTo, List.mem_cons]
    tauto

theorem nodup_addTo {s : List String} (h : s.Nodup) (x : String) : (addTo s x).Nodup := by
  unfold addTo
  split
  · exact h
  · exact h.append (List.nodup_singleton x) (List.disjoint_singleton.2 ‹_›)

theorem nodup_foldl_addTo : ∀ (xs acc : List String), acc.Nodup → (xs.foldl addTo acc).Nodup
  | [], _, h => h
  | x :: xs, _, h => nodup_foldl_addTo xs _ (nodup_addTo h x)

theorem mem_labelSet {issues : List Issue} {k : String} :
    k ∈ labelSet issues ↔ k = "(unlabeled)" ∨ ∃ issue ∈ issues, k ∈ issue.labels := by
  have loop : ∀ (is : List Issue) (acc : List String),
      k ∈ is.foldl (fun s issue => issue.labels.foldl addTo s) acc ↔
        k ∈ acc ∨ ∃ issue ∈ is, k ∈ issue.labels := by
    intro is
    induction is with
    | nil => simp
    | cons i is ih =>
      intro acc
      rw [List.foldl_cons, ih, mem_foldl_addTo]
      simp only [List.mem_cons, exists_eq_or_imp]
      tauto
  rw [labelSet, mem_addTo, loop, or_comm]
  simp

theorem nodup_labelSet (issues : List Issue) : (labelSet issues).Nodup := by
  refine nodup_addTo ?_ _
  suffices ∀ (is : List Issue) (acc : List String), acc.Nodup →
      (is.foldl (fun s issue => issue.labels.foldl addTo s) acc).Nodup from this issues [] List.nodup_nil
  intro is
  induction is with
  | nil => exact fun _ h => h
  | cons i is ih => exact fun acc h => ih _ (nodup_foldl_addTo _ _ h)

/-! ## Colours repeat after ten labels -/

section
variable (sort : List String → List String)

theorem map_snd_buildLabelColorMap (hsort : ∀ l, List.Perm (sort l) l) (issues : List Issue) :
    (buildLabelColorMap sort issues).map Prod.snd =
      (List.range (labelSet issues).length).map fun i => labelColors.getD (i % 10) "" := by
  rw [buildLabelColorMap, List.map_map, ← (hsort (labelSet issues)).length_eq, ← List.enum_map_fst,
    List.map_map, galaxyLabels]
  rfl

/-- The palette's ten colours are distinct. -/
theorem labelColors_getD_inj : ∀ i < 10, ∀ j < 10,
    labelColors.getD i "" = labelColors.getD j "" → i = j := by
  decide

/-- **Colours collide past ten labels.**  The colours `buildLabelColorMap`
    gives are pairwise distinct exactly when there are at most ten labels,
    `(unlabeled)` included; and every label has the colour of the label ten
    places after it in sorted order, so with more than ten the first and the
    eleventh share one. -/
theorem labelColors_nodup_iff (hsort : ∀ l, List.Perm (sort l) l) (issues : List Issue) :
    (((buildLabelColorMap sort issues).map Prod.snd).Nodup ↔ (labelSet issues).length ≤ 10) ∧
      ∀ i, i + 10 < (labelSet issues).length →
        ((buildLabelColorMap sort issues).map Prod.snd)[i]? =
          ((buildLabelColorMap sort issues).map Prod.snd)[i + 10]? := by
  rw [map_snd_buildLabelColorMap sort hsort]
  refine ⟨?_, fun i hi => ?_⟩
  · rw [List.nodup_map_iff_inj_on (List.nodup_range _)]
    simp only [List.mem_range]
    constructor
    · intro h
      by_contra hn
      exact absurd (h 0 (by omega) 10 (by omega) rfl) (by decide)
    · intro hn i hi j hj e
      rw [Nat.mod_eq_of_lt (by omega : i < 10), Nat.mod_eq_of_lt (by omega : j < 10)] at e
      exact labelColors_getD_inj i (by omega) j (by omega) e
  · simp only [List.getElem?_map, List.getElem?_range (by omega : i < (labelSet issues).length),
      List.getElem?_range hi, Option.map_some', Nat.add_mod_right]

/-- Eleven labels and `(unlabeled)`: twelve labels, so two share a colour. -/
theorem labelColors_nodup_iff_eleven :
    let issues : List Issue :=
      [{ (default : Issue) with labels := ["a", "b", "c", "d", "e", "f", "g", "h", "i", "j", "k"] }]
    let sort := List.insertionSort fun a b : String => decide (a ≤ b)
    (∀ l, List.Perm (sort l) l) ∧ (labelSet issues).length = 12 ∧
      (((buildLabelColorMap sort issues).map Prod.snd).Nodup ↔ (labelSet issues).length ≤ 10) ∧
      ∀ i, i + 10 < (labelSet issues).length →
        ((buildLabelColorMap sort issues).map Prod.snd)[i]? =
          ((buildLabelColorMap sort issues).map Prod.snd)[i + 10]? :=
  ⟨fun l => List.perm_insertionSort _ l, by decide,
    labelColors_nodup_iff _ (fun l => List.perm_insertionSort _ l) _⟩

end

/-! ## Every drawn node has a colour of the map -/

section
variable (sort : List String → List String)

theorem map_fst_buildLabelColorMap (issues : List Issue) :
    (buildLabelColorMap sort issues).map Prod.fst = galaxyLabels sort issues := by
  rw [buildLabelColorMap, List.map_map]
  exact List.enum_map_snd _

theorem labelColors_getD_ne : ∀ i < 10, labelColors.getD i "" ≠ "" := by decide

theorem snd_ne_of_mem_buildLabelColorMap {issues : List Issue} {e : String × String}
    (he : e ∈ buildLabelColorMap sort issues) : e.2 ≠ "" := by
  obtain ⟨p, -, rfl⟩ := List.mem_map.1 he
  exact labelColors_getD_ne _ (Nat.mod_lt _ (by decide))

/-- A label of the map gets the map's colour. -/
theorem getLabelColor_of_mem {issues : List Issue} {node : Node}
    (h : getPrimaryLabel node ∈ (buildLabelColorMap sort issues).map Prod.fst) :
    ∃ c, (getPrimaryLabel node, c) ∈ buildLabelColorMap sort issues ∧
      getLabelColor (buildLabelColorMap sort issues) node = c := by
  obtain ⟨e, he, hk⟩ := List.mem_map.1 h
  cases hf : (buildLabelColorMap sort issues).find? fun e => e.1 == getPrimaryLabel node with
  | none => exact absurd (List.find?_eq_none.1 hf e he) (by simp [hk])
  | some e' =>
    have hk' : e'.1 = getPrimaryLabel node := by simpa using List.find?_some hf
    refine ⟨e'.2, by rw [← hk']; exact List.mem_of_find?_eq_some hf, ?_⟩
    simp only [getLabelColor, hf, snd_ne_of_mem_buildLabelColorMap sort (List.mem_of_find?_eq_some hf),
      if_false]

/-- **The fallback colour is never used for a drawn node.**  For every store
    and every filter, the primary label of every node `prepareGraphData`
    draws is a label of the map `loadData` builds from the same store, and
    `getLabelColor` returns that label's colour, not the fallback
    `LABEL_COLORS[0]`. -/
theorem getLabelColor_drawn (hsort : ∀ l, List.Perm (sort l) l) {G : Type} (D : DiGraph G)
    (toLower : String → String) (s : Store G) (f : Filters) :
    ∀ n ∈ (prepareGraphData toLower D s f).nodes, ∃ c,
      (getPrimaryLabel n, c) ∈ buildLabelColorMap sort s.issues ∧
        getLabelColor (buildLabelColorMap sort s.issues) n = c := by
  intro n hn
  obtain ⟨issue, hi, rfl⟩ := List.mem_map.1 hn
  refine getLabelColor_of_mem sort ?_
  rw [map_fst_buildLabelColorMap, galaxyLabels, (hsort _).mem_iff, mem_labelSet]
  cases h : issue.labels with
  | nil => exact Or.inl (by simp [getPrimaryLabel, toNode, h])
  | cons l ls => exact Or.inr ⟨issue, (List.mem_filter.1 hi).1, by simp [getPrimaryLabel, toNode, h]⟩

/-- A labelled and an unlabelled issue, sorted by insertion sort. -/
theorem getLabelColor_drawn_two :
    let s : Store (List String × List (Nat × Nat)) :=
      ⟨false, none, [{ (default : Issue) with id := "A", labels := ["ui"] },
        { (default : Issue) with id := "B" }], [], none⟩
    (∀ l, List.Perm (List.insertionSort (fun a b : String => decide (a ≤ b)) l) l) ∧
      ∀ n ∈ (prepareGraphData String.toLower pairGraph s {}).nodes, ∃ c,
        (getPrimaryLabel n, c) ∈ buildLabelColorMap (List.insertionSort fun a b : String => decide (a ≤ b)) s.issues ∧
          getLabelColor (buildLabelColorMap (List.insertionSort fun a b : String => decide (a ≤ b)) s.issues) n = c :=
  ⟨fun l => List.perm_insertionSort _ l,
    getLabelColor_drawn _ (fun l => List.perm_insertionSort _ l) pairGraph String.toLower _ {}⟩

end

/-! ## The legend -/

section
variable (toLower : String → String) {G : Type} (D : DiGraph G)

end

end BeadsViewer.Viewer
