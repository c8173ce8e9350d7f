import BeadsViewer.Viewer
import Mathlib.Data.List.Infix
/-
  beads_viewer formalization — the graph the browser viewer draws
  (`prepareGraphData` of the `bv-graph` script) and the filters that shape it
  (`setFilter`, `clearFilters`, `search`).

  * `Filters` is `store.filters`; `passesFilters` is the node filter of
    `prepareGraphData`, `prepareGraphData` the nodes it keeps, enriched, and
    the links it draws between them.  `String.prototype.toLowerCase` is the
    parameter `toLower`.
  * The links are exactly the edges `buildWasmGraph` adds whose two ends are
    drawn, in the same order (`prepareGraphData_links_wasm`).
  * A filter that keeps fewer issues draws a sublist of the nodes and of the
    links (`prepareGraphData_sublist`); so does a search term whose lowered
    text contains the lowered old one (`search_narrows`).
  * A node is marked `inCycle` exactly when its id lies on a cycle of the
    cycle navigator, when the WASM graph's `nodeIdx` and `nodeId` are inverse
    (`inCycle_iff_navCycles`).
-/

namespace BeadsViewer.Viewer

/-- `store.filters`; the defaults are those of the constructor and of
    `clearFilters`.  `null` is `none`; a `status` of `""` filters nothing. -/
structure Filters where
  status : Option String := none
  priority : Option Int := none
  labels : List String := []
  search : String := ""
  showClosed : Bool := false
  deriving DecidableEq, Repr

/-- A node of `prepareGraphData`.  The five metrics it reads by index from
    `store.metrics`, and the layout fields `fx` and `fy`, are left out. -/
structure Node where
  id : String
  title : String
  description : String
  status : String
  priority : Int
  type : String
  labels : List String
  assignee : String
  blockerCount : Nat
  dependentCount : Nat
  inCycle : Option Bool
  deriving DecidableEq, Repr

/-- A link of `prepareGraphData`: `source` depends on `target`. -/
structure Link where
  source : String
  target : String
  type : String
  deriving DecidableEq, Repr

/-- The `{ nodes, links }` handed to the force graph. -/
structure GraphData where
  nodes : List Node
  links : List Link
  deriving DecidableEq, Repr

/-- `String.prototype.includes`. -/
def includes (s term : String) : Bool := decide (term.data <:+: s.data)

/-! ## `prepareGraphData` -/

section
variable (toLower : String → String)

/-- The node filter of `prepareGraphData`: status, closed issues, priority,
    labels and search, in the order the code tests them. -/
def passesFilters (f : Filters) (issue : Issue) : Bool :=
  (match f.status with
    | some st => st == "" || issue.status.val == st
    | none => true) &&
  (f.showClosed || issue.status.val != "closed") &&
  (match f.priority with
    | some p => issue.priority == p
    | none => true) &&
  (f.labels.isEmpty || f.labels.any fun l => decide (l ∈ issue.labels)) &&
  (f.search == "" ||
    includes (toLower (issue.id ++ " " ++ issue.title ++ " " ++ issue.description))
      (toLower f.search))

variable {G : Type} (D : DiGraph G)

/-- `node.inCycle`: set only when the cycle metric has its `cycles`, and
    `true` when the node's index in the WASM graph lies on one of them. -/
def inCycleOf (s : Store G) (id : String) : Option Bool :=
  s.cycles.map fun cs =>
    match s.wasmGraph.bind fun g => D.nodeIdx g id with
    | some idx => decide (idx ∈ cs.flatten)
    | none => false

/-- An issue as `prepareGraphData` enriches it. -/
def toNode (s : Store G) (issue : Issue) : Node where
  id := issue.id
  title := issue.title
  description := issue.description
  status := if issue.status.val = "" then "open" else issue.status.val
  priority := issue.priority
  type := if issue.issueType.val = "" then "task" else issue.issueType.val
  labels := issue.labels
  assignee := issue.assignee
  blockerCount := (s.dependencies.filter fun d => d.issueID == issue.id).length
  dependentCount := (s.dependencies.filter fun d => d.dependsOnID == issue.id).length
  inCycle := inCycleOf D s issue.id

/-- The links of `prepareGraphData`: the dependencies of type `blocks` or of
    no type whose two ends are among `nodeIds`. -/
def prepareLinks (deps : List Dependency) (nodeIds : List String) : List Link :=
  ((deps.filter drawn).filter fun d => decide (d.issueID ∈ nodeIds) && decide (d.dependsOnID ∈ nodeIds)).map
    fun d => ⟨d.issueID, d.dependsOnID, if d.type.val = "" then "blocks" else d.type.val⟩

/-- `prepareGraphData`, on the store and its filters. -/
def prepareGraphData (s : Store G) (f : Filters) : GraphData :=
  let nodes := s.issues.filter (passesFilters toLower f)
  { nodes := nodes.map (toNode D s), links := prepareLinks s.dependencies (nodes.map Issue.id) }

end

/-! ## The filters -/

/-- A call `setFilter(key, value)`, by the key it sets. -/
inductive FilterUpdate where
  | status (value : Option String)
  | priority (value : Option Int)
  | labels (value : List String)
  | search (value : String)
  | showClosed (value : Bool)

/-- `setFilter`, on the filters. -/
def setFilter (f : Filters) : FilterUpdate → Filters
  | .status v => { f with status := v }
  | .priority v => { f with priority := v }
  | .labels v => { f with labels := v }
  | .search v => { f with search := v }
  | .showClosed v => { f with showClosed := v }

/-- `clearFilters`, on the filters. -/
def clearFilters : Filters := {}

/-- `search(term)`. -/
def search (f : Filters) (term : String) : Filters := setFilter f (.search term)

/-! ## Nodes and links -/

section
variable (toLower : String → String) {G : Type} (D : DiGraph G) (s : Store G) (f : Filters)

/-- The drawn nodes are the issues that pass the filters, in order. -/
theorem map_id_nodes :
    (prepareGraphData toLower D s f).nodes.map Node.id =
      (s.issues.filter (passesFilters toLower f)).map Issue.id := by
  simp [prepareGraphData, toNode, Function.comp_def]

/-- A drawn dependency's link has type `blocks`. -/
theorem linkType_of_drawn {d : Dependency} (h : drawn d = true) :
    (if d.type.val = "" then "blocks" else d.type.val) = "blocks" := by
  simp only [drawn, Bool.or_eq_true, decide_eq_true_eq] at h
  rcases h with h | h <;> simp [h]

theorem mem_prepareLinks {deps : List Dependency} {nodeIds : List String} {l : Link} :
    l ∈ prepareLinks deps nodeIds ↔ ∃ d ∈ deps, drawn d = true ∧ d.issueID ∈ nodeIds ∧
      d.dependsOnID ∈ nodeIds ∧ l = ⟨d.issueID, d.dependsOnID, "blocks"⟩ := by
  simp only [prepareLinks, List.mem_map, List.mem_filter, Bool.and_eq_true, decide_eq_true_eq]
  constructor
  · rintro ⟨d, ⟨⟨hd, hdr⟩, hs, ht⟩, rfl⟩
    exact ⟨d, hd, hdr, hs, ht, by rw [linkType_of_drawn hdr]⟩
  · rintro ⟨d, hd, hdr, hs, ht, rfl⟩
    exact ⟨d, ⟨⟨hd, hdr⟩, hs, ht⟩, by rw [linkType_of_drawn hdr]⟩

/-- **The links are the WASM graph's edges between drawn nodes.**  When
    `addEdge` leaves `nodeIdx` as it is and the WASM graph's nodes are the
    store's issue ids, the links are the `addEdge` calls of `buildWasmGraph`
    whose two ends are drawn, in the same order. -/
theorem prepareGraphData_links_wasm
    (hD : ∀ g u v i, D.nodeIdx (D.addEdge g u v) i = D.nodeIdx g i)
    (hN : ∀ id, (D.nodeIdx (wasmNodes D s.issues s.dependencies) id).isSome ↔ id ∈ ids s.issues) :
    (prepareGraphData toLower D s f).links.map (fun l => (l.source, l.target)) =
      (wasmGraphOf D s.issues s.dependencies).2.filter fun e =>
        decide (e.1 ∈ (prepareGraphData toLower D s f).nodes.map Node.id) &&
          decide (e.2 ∈ (prepareGraphData toLower D s f).nodes.map Node.id) := by
  rw [map_id_nodes, wasmGraphOf, foldl_addWasmEdge D hD _ _ _ fun _ => rfl, List.nil_append,
    List.filter_map, List.filter_filter]
  simp only [prepareGraphData, prepareLinks, List.map_map]
  -- a dependency between drawn ids joins two issue ids, so both have a node
  have hvis : ∀ x ∈ (s.issues.filter (passesFilters toLower f)).map Issue.id, x ∈ ids s.issues := by
    intro x hx
    obtain ⟨i, hi, rfl⟩ := List.mem_map.1 hx
    exact List.mem_map_of_mem _ (List.mem_filter.1 hi).1
  congr 1
  refine List.filter_congr fun d _ => ?_
  simp only [Function.comp_apply, known]
  by_cases hst : d.issueID ∈ (s.issues.filter (passesFilters toLower f)).map Issue.id ∧
      d.dependsOnID ∈ (s.issues.filter (passesFilters toLower f)).map Issue.id
  · simp [hst, (hN _).2 (hvis _ hst.1), (hN _).2 (hvis _ hst.2)]
  · rcases not_and_or.1 hst with h | h <;> simp [h]

/-- Three issues, `C` closed: the default filters hide `C`, so of the WASM
    edges `A → B` and `B → C` only the first is drawn; `related` draws none. -/
theorem prepareGraphData_links_wasm_three :
    let s : Store (List String × List (Nat × Nat)) :=
      ⟨true, none, [{ (default : Issue) with id := "A" }, { (default : Issue) with id := "B" },
          { (default : Issue) with id := "C", status := .closed }],
        [⟨"A", "B", .blocks⟩, ⟨"B", "C", .blocks⟩, ⟨"A", "C", .related⟩], none⟩
    (∀ g u v i, pairGraph.nodeIdx (pairGraph.addEdge g u v) i = pairGraph.nodeIdx g i) ∧
      (∀ id, (pairGraph.nodeIdx (wasmNodes pairGraph s.issues s.dependencies) id).isSome ↔
        id ∈ ids s.issues) ∧
      (prepareGraphData String.toLower pairGraph s {}).links.map (fun l => (l.source, l.target)) =
        (wasmGraphOf pairGraph s.issues s.dependencies).2.filter fun e =>
          decide (e.1 ∈ (prepareGraphData String.toLower pairGraph s {}).nodes.map Node.id) &&
            decide (e.2 ∈ (prepareGraphData String.toLower pairGraph s {}).nodes.map Node.id) := by
  intro s
  have hD : ∀ g u v i, pairGraph.nodeIdx (pairGraph.addEdge g u v) i = pairGraph.nodeIdx g i :=
    fun _ _ _ _ => rfl
  have hN : ∀ id, (pairGraph.nodeIdx (wasmNodes pairGraph s.issues s.dependencies) id).isSome ↔
      id ∈ ids s.issues := fun id => pairGraph_nodeIdx_isSome _ id
  exact ⟨hD, hN, prepareGraphData_links_wasm String.toLower pairGraph s {} hD hN⟩

/-- A filter that keeps fewer issues draws a sublist of the nodes and of the
    links. -/
theorem prepareGraphData_sublist {f₁ f₂ : Filters}
    (h : ∀ issue, passesFilters toLower f₂ issue = true → passesFilters toLower f₁ issue = true) :
    List.Sublist (prepareGraphData toLower D s f₂).nodes (prepareGraphData toLower D s f₁).nodes ∧
      List.Sublist (prepareGraphData toLower D s f₂).links (prepareGraphData toLower D s f₁).links := by
  have hn := List.monotone_filter_right s.issues h
  have hsub := (hn.map Issue.id).subset
  refine ⟨hn.map _, List.Sublist.map _ (List.monotone_filter_right _ fun d hd => ?_)⟩
  simp only [Bool.and_eq_true, decide_eq_true_eq] at hd ⊢
  exact ⟨hsub hd.1, hsub hd.2⟩

/-- A search term whose lowered text contains the lowered old term keeps
    only issues the old term kept. -/
theorem passesFilters_search_mono (f : Filters) {t₁ t₂ : String} (h₂ : t₂ ≠ "")
    (h : (toLower t₁).data <:+: (toLower t₂).data) (issue : Issue)
    (hp : passesFilters toLower (search f t₂) issue = true) :
    passesFilters toLower (search f t₁) issue = true := by
  unfold passesFilters at hp ⊢
  simp only [search, setFilter, Bool.and_eq_true] at hp ⊢
  refine ⟨hp.1, ?_⟩
  have hin : includes (toLower (issue.id ++ " " ++ issue.title ++ " " ++ issue.description))
      (toLower t₂) = true := by simpa [h₂] using hp.2
  simp only [includes, decide_eq_true_eq] at hin
  simp [includes, h.trans hin]

/-- **Typing on narrows the graph.**  Searching for `t₂` after `t₁`, where
    the lowered `t₂` contains the lowered `t₁`, draws a sublist of the nodes
    and of the links `t₁` drew, whatever the other filters. -/
theorem search_narrows (f : Filters) {t₁ t₂ : String} (h₂ : t₂ ≠ "")
    (h : (toLower t₁).data <:+: (toLower t₂).data) :
    List.Sublist (prepareGraphData toLower D s (search f t₂)).nodes
        (prepareGraphData toLower D s (search f t₁)).nodes ∧
      List.Sublist (prepareGraphData toLower D s (search f t₂)).links
        (prepareGraphData toLower D s (search f t₁)).links :=
  prepareGraphData_sublist toLower D s (passesFilters_search_mono toLower f h₂ h)

end

/-- Searching `a`, then `ab`, over `ab`, `a` and `b`, with terms already in
    lower case. -/
theorem search_narrows_ab :
    let s : Store (List String × List (Nat × Nat)) :=
      ⟨true, none, [{ (default : Issue) with id := "ab" }, { (default : Issue) with id := "a" },
          { (default : Issue) with id := "b" }],
        [⟨"ab", "a", .blocks⟩, ⟨"a", "b", .blocks⟩], none⟩
    "ab" ≠ "" ∧ (id "a").data <:+: (id "ab").data ∧
      List.Sublist (prepareGraphData id pairGraph s (search {} "ab")).nodes
        (prepareGraphData id pairGraph s (search {} "a")).nodes ∧
      List.Sublist (prepareGraphData id pairGraph s (search {} "ab")).links
        (prepareGraphData id pairGraph s (search {} "a")).links :=
  ⟨by decide, ⟨[], ['b'], rfl⟩, search_narrows id pairGraph _ {} (by decide) ⟨[], ['b'], rfl⟩⟩

/-! ## The cycle marks -/

/-- On a list without repeats, `get?` and `indexOf?` are inverse. -/
theorem get?_iff_indexOf? : ∀ {l : List String}, l.Nodup → ∀ {i : Nat} {x : String},
    l.get? i = some x ↔ l.indexOf? x = some i
  | [], _, i, x => by simp [List.indexOf?]
  | a :: l, hnd, i, x => by
    rw [List.indexOf?_cons]
    obtain ⟨ha, hl⟩ := List.nodup_cons.1 hnd
    cases i with
    | zero => by_cases hx : a = x <;> simp [hx, Ne.symm]
    | succ i =>
      by_cases hx : a = x
      · subst hx
        simpa using fun h => ha (List.getElem?_mem h)
      · simpa [hx] using get?_iff_indexOf? hl (i := i) (x := x)

section
variable {G : Type} (D : DiGraph G) (s : Store G)

theorem mem_flatten_navCycles {x : String} :
    x ∈ (navCycles D s).flatten ↔ x ≠ "" ∧ ∃ c ∈ s.cycles.getD [], ∃ i ∈ c,
      (s.wasmGraph.bind fun g => D.nodeId g i) = some x := by
  simp only [navCycles, List.mem_flatten, List.mem_filter, List.mem_map]
  constructor
  · rintro ⟨_, ⟨⟨c, hc, rfl⟩, -⟩, hxl⟩
    obtain ⟨i, hi, hx⟩ := List.mem_filterMap.1 hxl
    rw [Option.filter_eq_some] at hx
    exact ⟨by simpa using hx.2, c, hc, i, hi, hx.1⟩
  · rintro ⟨hne, c, hc, i, hi, hx⟩
    have hxl : x ∈ c.filterMap fun i => (s.wasmGraph.bind fun g => D.nodeId g i).filter (· != "") :=
      List.mem_filterMap.2 ⟨i, hi, Option.filter_eq_some.2 ⟨hx, by simpa using hne⟩⟩
    exact ⟨_, ⟨⟨c, hc, rfl⟩, by simpa using List.ne_nil_of_mem hxl⟩, hxl⟩

/-- **The cycle marks agree with the navigator.**  When the WASM graph's
    `nodeId` and `nodeIdx` are inverse, a non-empty id is marked `inCycle`
    exactly when it lies on one of the navigator's cycles. -/
theorem inCycle_iff_navCycles {g : G} (hg : s.wasmGraph = some g) (hc : s.cycles.isSome)
    (hinv : ∀ i x, D.nodeId g i = some x ↔ D.nodeIdx g x = some i) {x : String} (hx : x ≠ "") :
    inCycleOf D s x = some true ↔ x ∈ (navCycles D s).flatten := by
  obtain ⟨cs, hcs⟩ := Option.isSome_iff_exists.1 hc
  rw [mem_flatten_navCycles, inCycleOf, hg, hcs]
  simp only [Option.map_some', Option.some_bind, Option.getD_some, Option.some.injEq, hinv]
  cases hi : D.nodeIdx g x with
  | none => simp [hx]
  | some idx => simp [hx, List.mem_flatten]
end

/-- `A` and `B` blocking each other: both are marked and both are on the
    navigator's cycle. -/
theorem inCycle_iff_navCycles_two :
    let s := loadData pairGraph ⟨true, none, [], [], none⟩
      [{ (default : Issue) with id := "A" }, { (default : Issue) with id := "B" }]
      [⟨"A", "B", .blocks⟩, ⟨"B", "A", .blocks⟩]
    s.wasmGraph = some (["A", "B"], [(0, 1), (1, 0)]) ∧ s.cycles.isSome ∧
      (∀ i x, pairGraph.nodeId (["A", "B"], [(0, 1), (1, 0)]) i = some x ↔
        pairGraph.nodeIdx (["A", "B"], [(0, 1), (1, 0)]) x = some i) ∧ "A" ≠ "" ∧
      (inCycleOf pairGraph s "A" = some true ↔ "A" ∈ (navCycles pairGraph s).flatten) := by
  intro s
  have hinv : ∀ i x, pairGraph.nodeId (["A", "B"], [(0, 1), (1, 0)]) i = some x ↔
      pairGraph.nodeIdx (["A", "B"], [(0, 1), (1, 0)]) x = some i :=
    fun _ _ => get?_iff_indexOf? (by decide)
  exact ⟨rfl, rfl, hinv, by decide, inCycle_iff_navCycles pairGraph s rfl rfl hinv (by decide)⟩

end BeadsViewer.Viewer
