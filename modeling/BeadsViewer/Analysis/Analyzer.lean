import BeadsViewer.Model
import BeadsViewer.Gonum.Topo
import BeadsViewer.Gonum.Johnson
import Mathlib.Data.Rat.Defs
/-
  beads_viewer formalization — the analyzer of `pkg/analysis`: `NewAnalyzer`,
  which builds a gonum graph from the issues, and `Analyze` with
  `computeHeights`, which compute the graph's statistics.

  * `newAnalyzer` is `NewAnalyzer`: a node per issue, in order, then for each
    dependency whose target is an id of the list an edge from the issue's
    node to the target's, whatever the dependency's type.  `SetEdge` panics
    on a self edge, so `newAnalyzer` returns `Except`.
  * `Analyzer.analyze` is `Analyze` on one `Run`: the orders in which that
    run's ranges visit the graph's maps, and `network.PageRank`'s scores,
    which are left abstract.  `Density` is computed exactly, in `ℚ`.
  * `Builds` is what `newAnalyzer` builds; `newAnalyzer_ok` and
    `newAnalyzer_selfDep` say when it returns: exactly when no issue depends
    on its own id.
-/

namespace BeadsViewer.Analysis

open Gonum

/-- `Analyzer`.  Its `issueMap` is left out: no modelled function reads it. -/
structure Analyzer where
  g : DirectedGraph
  idToNode : GoMap String Nat
  nodeToID : GoMap Nat String

namespace Analyzer

/-- The analyzer before `NewAnalyzer`'s loops. -/
def empty : Analyzer := ⟨DirectedGraph.empty, GoMap.empty, GoMap.empty⟩

/-- `a.nodeToID[n]`, with Go's `""` for a missing key. -/
def idOf (a : Analyzer) (n : Nat) : String := (a.nodeToID.get? n).getD ""

/-- The first loop of `NewAnalyzer`, for one issue: a new node for it. -/
def addIssueNode (a : Analyzer) (issue : Issue) : Except String Analyzer := do
  let n := a.g.newNode
  let g ← a.g.addNode n
  return ⟨g, a.idToNode.set issue.id n, a.nodeToID.set n issue.id⟩

/-- The inner loop of the second loop, for one dependency of the issue of the
    node `u`: an edge `u → v` when the target has a node `v`. -/
def addDepEdge (u : Nat) (a : Analyzer) (dep : Dependency) : Except String Analyzer :=
  match a.idToNode.get? dep.dependsOnID with
  | some v => do return { a with g := ← a.g.setEdge u v }
  | none => .ok a

/-- The second loop of `NewAnalyzer`, for one issue. -/
def addIssueEdges (a : Analyzer) (issue : Issue) : Except String Analyzer :=
  match a.idToNode.get? issue.id with
  | some u => issue.dependencies.foldlM (addDepEdge u) a
  | none => .ok a

end Analyzer

/-- `NewAnalyzer`. -/
def newAnalyzer (issues : List Issue) : Except String Analyzer := do
  let a ← issues.foldlM Analyzer.addIssueNode Analyzer.empty
  issues.foldlM Analyzer.addIssueEdges a

/-! ## `Analyze` -/

/-- `GraphStats`, without `Betweenness`.  Heights are whole numbers, which
    `float64` holds exactly; `PageRank`'s scores and `Density` are rationals,
    `Density` the exact quotient its `float64` division rounds. -/
structure GraphStats where
  pageRank : GoMap String ℚ
  outDegree : GoMap String Nat
  inDegree : GoMap String Nat
  criticalPathScore : GoMap String Nat
  cycles : List (List String)
  density : ℚ
  topologicalOrder : List String

/-- The orders one run of `Analyze` sees of the graph's maps: `Nodes()` in
    the degree loop, the sets `DirectedCyclesIn` ranges over, the maps the
    two `topo.Sort`s see (in `Analyze` and in `computeHeights`), and each
    `To(n)` of `computeHeights` (`parents`); and the map `network.PageRank`
    returns, as the run ranges over it: each node with its score (the power
    iteration computing the scores is not modelled). -/
structure Run where
  nodes : List Nat
  cycles : CycleOrder
  sort : View
  heights : View
  parents : Nat → List Nat
  pageRank : List (Nat × ℚ)

/-- `r` is the run of a call of `Analyze` that returns: it only reorders
    `g`'s maps and scores each node once, and `g` has a node, without which
    `network.PageRank` panics (`analyze_empty`). -/
def Run.Of (g : DirectedGraph) (r : Run) : Prop :=
  List.Perm r.nodes g.nodes ∧ r.cycles.Of ∧ View.Of g r.sort ∧ View.Of g r.heights ∧
    (∀ n, List.Perm (r.parents n) (g.preds n)) ∧ List.Perm (r.pageRank.map Prod.fst) g.nodes ∧
    g.nodes ≠ []

/-- The run that sees `Nodes()` and the nodes of `topo.Sort` in the order
    `nodes`, and every other map in the order of its list, each node scored
    `0`. -/
def Run.listed (g : DirectedGraph) (nodes : List Nat) : Run :=
  ⟨nodes, CycleOrder.listed, ⟨nodes, g.succs⟩, g.view, g.preds, g.nodes.map fun n => (n, 0)⟩

theorem Run.listed_of {g : DirectedGraph} {nodes : List Nat} (h : List.Perm nodes g.nodes)
    (hn : g.nodes ≠ []) : Run.Of g (Run.listed g nodes) :=
  ⟨h, CycleOrder.listed_of, ⟨h, fun _ => List.Perm.refl _⟩, g.view_of, fun _ => List.Perm.refl _,
    .of_eq (by simp [Run.listed, Function.comp_def]), hn⟩

/-- The density step of `Analyze`, on `len(stats.PageRank)` and the number of
    edges. -/
def densityOf (len edges : Nat) : ℚ :=
  let n : ℚ := len
  let e : ℚ := edges
  if n > 1 then e / (n * (n - 1)) else 0

namespace Analyzer

/-- The degree loop of `Analyze`: `(InDegree, OutDegree)`. -/
def degrees (a : Analyzer) (nodes : List Nat) : GoMap String Nat × GoMap String Nat :=
  nodes.foldl (fun d n => (d.1.set (a.idOf n) (a.g.preds n).length,
    d.2.set (a.idOf n) (a.g.succs n).length)) (GoMap.empty, GoMap.empty)

/-- One turn of the loop over `To(n)`: the height of `p`, if known and
    larger, replaces `m`. -/
def maxParentStep (heights : GoMap Nat Nat) (m p : Nat) : Nat :=
  match heights.get? p with
  | some h => if h > m then h else m
  | none => m

/-- `maxParentHeight`: the largest height known among `parents`, or `0`. -/
def maxParentHeight (heights : GoMap Nat Nat) (parents : List Nat) : Nat :=
  parents.foldl (maxParentStep heights) 0

/-- One turn of `computeHeights`' loop, for the node `n`, on `(heights,
    impactScores)`. -/
def heightStep (a : Analyzer) (parents : Nat → List Nat)
    (acc : GoMap Nat Nat × GoMap String Nat) (n : Nat) : GoMap Nat Nat × GoMap String Nat :=
  (acc.1.set n (1 + maxParentHeight acc.1 (parents n)),
    acc.2.set (a.idOf n) (1 + maxParentHeight acc.1 (parents n)))

/-- `computeHeights`.  On a graph with a cycle, `Sort` returns `nil` nodes and
    the loop panics on the first. -/
def computeHeights (a : Analyzer) (w : View) (parents : Nat → List Nat) :
    Except String (GoMap String Nat) :=
  match sort w with
  | .ok sorted => .ok (sorted.foldl (a.heightStep parents) (GoMap.empty, GoMap.empty)).2
  | .error _ => .error "invalid memory address or nil pointer dereference"

/-- The PageRank loop of `Analyze`: each scored node's score, under its id. -/
def pageRankOf (a : Analyzer) (pr : List (Nat × ℚ)) : GoMap String ℚ :=
  pr.foldl (fun m e => m.set (a.idOf e.1) e.2) GoMap.empty

/-- `Analyze`, on the run `r`.  On a graph with no node, `network.PageRank`
    panics in `mat.NewDense(0, 0, nil)`, with `mat.ErrZeroLength`. -/
def analyze (a : Analyzer) (r : Run) : Except String GraphStats :=
  if a.g.nodes = [] then .error "mat: zero length in matrix dimension" else
  let pageRank := a.pageRankOf r.pageRank
  let cycles := (directedCyclesIn r.cycles a.g).map (·.map a.idOf)
  let density := densityOf pageRank.len a.g.edges.length
  match sort r.sort with
  | .ok sorted => do
    let heights ← a.computeHeights r.heights r.parents
    return ⟨pageRank, (a.degrees r.nodes).2, (a.degrees r.nodes).1, heights, cycles, density,
      sorted.reverse.map a.idOf⟩
  | .error _ => .ok ⟨pageRank, (a.degrees r.nodes).2, (a.degrees r.nodes).1, GoMap.empty, cycles,
      density, []⟩

end Analyzer

/-! ## What `NewAnalyzer` builds -/

/-- No issue depends on its own id. -/
def NoSelfDep (issues : List Issue) : Prop :=
  ∀ i ∈ issues, ∀ d ∈ i.dependencies, d.dependsOnID ≠ i.id

/-- What `NewAnalyzer` builds from `issues`: node `k` for the `k`-th issue,
    for each id the node of an issue with that id, and an edge `u → v` for
    each dependency, of any type, of an issue of node `u` on an id of node
    `v`. -/
structure Builds (issues : List Issue) (a : Analyzer) : Prop where
  nodes : a.g.nodes = List.range issues.length
  nodeToID : ∀ n, a.nodeToID.get? n = issues[n]?.map Issue.id
  idToNode_some : ∀ id k, a.idToNode.get? id = some k → ∃ hk : k < issues.length, issues[k].id = id
  idToNode_mem : ∀ id ∈ ids issues, (a.idToNode.get? id).isSome
  adj : ∀ u v, a.g.Adj u v ↔ ∃ i ∈ issues, a.idToNode.get? i.id = some u ∧
    ∃ d ∈ i.dependencies, a.idToNode.get? d.dependsOnID = some v

/-- What the first loop has built after the issues `done`. -/
structure NodesBuilt (done : List Issue) (a : Analyzer) : Prop where
  nodes : a.g.nodes = List.range done.length
  edges : a.g.edges = []
  nodeToID : ∀ n, a.nodeToID.get? n = done[n]?.map Issue.id
  idToNode_some : ∀ id k, a.idToNode.get? id = some k → ∃ hk : k < done.length, done[k].id = id
  idToNode_mem : ∀ id ∈ ids done, (a.idToNode.get? id).isSome

theorem foldr_max_range (k : Nat) : (List.range (k + 1)).foldr max 0 = k := by
  have : ∀ l : List Nat, (∀ x ∈ l, x ≤ k) → l.foldr max 0 ≤ k ∧ (k ∈ l → l.foldr max 0 = k) := by
    intro l hl
    induction l with
    | nil => simp
    | cons x l ih =>
      have hx := hl x (List.mem_cons_self _ _)
      obtain ⟨h1, h2⟩ := ih fun y hy => hl y (List.mem_cons_of_mem _ hy)
      simp only [List.foldr_cons, List.mem_cons]
      refine ⟨by omega, fun h => ?_⟩
      rcases h with rfl | h
      · omega
      · have := h2 h; omega
  exact (this _ (by simp [Nat.lt_succ_iff])).2 (by simp)

theorem newNode_of_range {g : DirectedGraph} {k : Nat} (h : g.nodes = List.range k) :
    g.newNode = k := by
  unfold DirectedGraph.newNode
  rw [h]
  cases k with
  | zero => rfl
  | succ k => simp [foldr_max_range]

theorem addIssueNode_built {done : List Issue} {a : Analyzer} (h : NodesBuilt done a)
    (issue : Issue) :
    ∃ a', a.addIssueNode issue = .ok a' ∧ NodesBuilt (done ++ [issue]) a' := by
  obtain ⟨g', hg', hnodes, hedges⟩ :=
    DirectedGraph.addNode_of_not_mem (g := a.g) (n := done.length) (by simp [h.nodes])
  refine ⟨⟨g', a.idToNode.set issue.id done.length, a.nodeToID.set done.length issue.id⟩,
    by simp [Analyzer.addIssueNode, newNode_of_range h.nodes, hg'], ?_⟩
  refine ⟨by simp [hnodes, h.nodes, List.range_succ], by simp [hedges, h.edges], fun n => ?_,
    fun id k hk => ?_, fun id hid => ?_⟩
  · by_cases hn : n = done.length
    · simp [hn]
    · rw [GoMap.get?_set, if_neg hn, h.nodeToID]
      rcases Nat.lt_or_ge n done.length with hlt | hge
      · simp [List.getElem?_append_left hlt]
      · have : done.length < n := by omega
        simp [List.getElem?_eq_none (by omega : done.length ≤ n),
          List.getElem?_eq_none (by simp; omega : (done ++ [issue]).length ≤ n)]
  · rw [GoMap.get?_set] at hk
    split at hk
    · next hid => cases hk; exact ⟨by simp, by simp [hid]⟩
    · obtain ⟨hk', hkid⟩ := h.idToNode_some id k hk
      exact ⟨by simp; omega, by simp [List.getElem_append_left hk', hkid]⟩
  · rw [GoMap.get?_set]
    split
    · rfl
    · next hne =>
      simp only [ids, List.map_append, List.map_cons, List.map_nil, List.mem_append,
        List.mem_singleton] at hid
      exact h.idToNode_mem id (hid.resolve_right hne)

/-- After the first loop, node `k` is the `k`-th issue's. -/
theorem addIssueNodes_built (issues : List Issue) :
    ∃ a, issues.foldlM Analyzer.addIssueNode Analyzer.empty = .ok a ∧ NodesBuilt issues a := by
  have := foldlM_inv (m := Except String) (fun a done => NodesBuilt done a) issues [] Analyzer.empty
    ⟨rfl, rfl, by simp [Analyzer.empty], by simp [Analyzer.empty], by simp [ids]⟩
    fun done a issue h _ => addIssueNode_built h issue
  simpa using this

/-- The edges the second loop adds for the issues `done`, on the nodes of the
    first loop's `a₀`: `u → v` for a dependency of an issue of node `u` on an
    id of node `v`. -/
def EdgeOf (a₀ : Analyzer) (done : List Issue) (u v : Nat) : Prop :=
  ∃ i ∈ done, a₀.idToNode.get? i.id = some u ∧
    ∃ d ∈ i.dependencies, a₀.idToNode.get? d.dependsOnID = some v

theorem edgeOf_append_singleton {a₀ : Analyzer} {done : List Issue} {i : Issue} {u v : Nat} :
    EdgeOf a₀ (done ++ [i]) u v ↔ EdgeOf a₀ done u v ∨ (a₀.idToNode.get? i.id = some u ∧
      ∃ d ∈ i.dependencies, a₀.idToNode.get? d.dependsOnID = some v) := by
  simp only [EdgeOf, List.mem_append, List.mem_singleton, or_and_right, exists_or, exists_eq_left]

/-- What the second loop has built after the issues `done`, from the
    analyzer `a₀` of the first loop, with `n` nodes. -/
structure EdgesBuilt (a₀ : Analyzer) (n : Nat) (a : Analyzer) (done : List Issue) : Prop where
  idToNode : a.idToNode = a₀.idToNode
  nodeToID : a.nodeToID = a₀.nodeToID
  nodes : a.g.nodes = List.range n
  adj : ∀ u v, a.g.Adj u v ↔ EdgeOf a₀ done u v

section
variable {issues : List Issue} {a₀ : Analyzer} (h₀ : NodesBuilt issues a₀)
include h₀

/-- The dependency `d` of the issue `i` of node `u`: an edge when its target
    has a node. -/
theorem addDepEdge_built {done : List Issue} {i : Issue} {u : Nat}
    (hu : a₀.idToNode.get? i.id = some u) {ds : List Dependency} {a : Analyzer}
    (h : EdgesBuilt a₀ issues.length a (done ++ [{ i with dependencies := ds }]))
    {d : Dependency} (hd : d.dependsOnID ≠ i.id) :
    ∃ a', a.addDepEdge u d = .ok a' ∧
      EdgesBuilt a₀ issues.length a' (done ++ [{ i with dependencies := ds ++ [d] }]) := by
  unfold Analyzer.addDepEdge
  split
  · next v hv =>
    rw [h.idToNode] at hv
    obtain ⟨hu', hiu⟩ := h₀.idToNode_some _ _ hu
    obtain ⟨hv', hdv⟩ := h₀.idToNode_some _ _ hv
    have huv : u ≠ v := by rintro rfl; exact hd (hdv.symm.trans hiu)
    obtain ⟨g', hg', hnodes, hadj⟩ := a.g.setEdge_of_ne huv
    refine ⟨{ a with g := g' }, by simp [hg'], ⟨h.idToNode, h.nodeToID, ?_, fun x y => ?_⟩⟩
    · rw [hnodes, h.nodes, DirectedGraph.withNode_of_mem (List.mem_range.2 hu'),
        DirectedGraph.withNode_of_mem (List.mem_range.2 hv')]
    · rw [hadj, h.adj, edgeOf_append_singleton, edgeOf_append_singleton]
      simp only [List.mem_append, List.mem_singleton, or_and_right, exists_or, exists_eq_left, hu,
        hv, Option.some.injEq, and_or_left, or_assoc, @eq_comm _ x u, @eq_comm _ y v]
  · next hv =>
    rw [h.idToNode] at hv
    refine ⟨a, rfl, ⟨h.idToNode, h.nodeToID, h.nodes, fun x y => ?_⟩⟩
    rw [h.adj, edgeOf_append_singleton, edgeOf_append_singleton]
    simp [or_and_right, exists_or, hv]

/-- The second loop, for an issue `i` of the list that does not depend on its
    own id. -/
theorem addIssueEdges_built {done : List Issue} {a : Analyzer}
    (h : EdgesBuilt a₀ issues.length a done) {i : Issue} (hi : i ∈ issues)
    (hself : ∀ d ∈ i.dependencies, d.dependsOnID ≠ i.id) :
    ∃ a', a.addIssueEdges i = .ok a' ∧ EdgesBuilt a₀ issues.length a' (done ++ [i]) := by
  obtain ⟨u, hu⟩ := Option.isSome_iff_exists.1 (h₀.idToNode_mem i.id (List.mem_map_of_mem _ hi))
  have h' : EdgesBuilt a₀ issues.length a (done ++ [{ i with dependencies := [] }]) :=
    ⟨h.idToNode, h.nodeToID, h.nodes, fun x y => by simp [h.adj, edgeOf_append_singleton]⟩
  obtain ⟨a', ha', hb⟩ := foldlM_inv (m := Except String)
    (fun a ds => EdgesBuilt a₀ issues.length a (done ++ [{ i with dependencies := ds }]))
    i.dependencies [] a h' fun ds a d hP hd => addDepEdge_built h₀ hu hP (hself d hd)
  exact ⟨a', by simp [Analyzer.addIssueEdges, h.idToNode, hu, ha']; rfl, by simpa using hb⟩

end

/-- **`NewAnalyzer`.**  When no issue depends on its own id, `NewAnalyzer`
    returns, and builds node `k` for the `k`-th issue and an edge `u → v` for
    each dependency, of any type, of an issue of node `u` on an id of node
    `v`. -/
theorem newAnalyzer_ok {issues : List Issue} (h : NoSelfDep issues) :
    ∃ a, newAnalyzer issues = .ok a ∧ Builds issues a := by
  obtain ⟨a₀, ha₀, h₀⟩ := addIssueNodes_built issues
  obtain ⟨a, ha, hb⟩ := foldlM_inv (m := Except String) (EdgesBuilt a₀ issues.length)
    issues [] a₀ ⟨rfl, rfl, h₀.nodes, fun u v => by simp [DirectedGraph.Adj, h₀.edges, EdgeOf]⟩
    fun done a i hP hi => addIssueEdges_built h₀ hP hi (h i hi)
  refine ⟨a, by simp only [newAnalyzer, ha₀]; exact ha, ⟨hb.nodes, ?_, ?_, ?_, ?_⟩⟩
  · simpa [hb.nodeToID] using h₀.nodeToID
  · simpa [hb.idToNode] using h₀.idToNode_some
  · simpa [hb.idToNode] using h₀.idToNode_mem
  · simpa [hb.idToNode] using hb.adj

/-- A loop whose every turn fails with `e` or keeps `P`, and whose turn on
    `x₀` fails with `e`, fails with `e`. -/
theorem foldlM_error {α β ε : Type} {f : β → α → Except ε β} (P : β → Prop) (e : ε)
    {x₀ : α}
    (hstep : ∀ b x, P b → f b x = .error e ∨ ∃ b', f b x = .ok b' ∧ P b')
    (hbad : ∀ b, P b → f b x₀ = .error e) :
    ∀ xs : List α, x₀ ∈ xs → ∀ b, P b → xs.foldlM f b = .error e
  | x :: xs, hx, b, hb => by
    rcases hstep b x hb with h | ⟨b', h, hb'⟩
    · simp [h]; rfl
    · rcases List.mem_cons.1 hx with rfl | hx
      · rw [hbad b hb] at h; cases h
      · simpa [h] using foldlM_error P e hstep hbad xs hx b' hb'

/-- A loop whose every turn fails with `e` or keeps `P` fails with `e` or
    keeps `P`. -/
theorem foldlM_error_or {α β ε : Type} {f : β → α → Except ε β} (P : β → Prop) (e : ε)
    (hstep : ∀ b x, P b → f b x = .error e ∨ ∃ b', f b x = .ok b' ∧ P b') :
    ∀ (xs : List α) (b : β), P b →
      xs.foldlM f b = .error e ∨ ∃ b', xs.foldlM f b = .ok b' ∧ P b'
  | [], b, hb => Or.inr ⟨b, rfl, hb⟩
  | x :: xs, b, hb => by
    rcases hstep b x hb with h | ⟨b', h, hb'⟩
    · left; simp [h]; rfl
    · simpa [h] using foldlM_error_or P e hstep xs b' hb'

/-- A turn of the inner loop fails only with the self-edge panic, and keeps
    the node map. -/
theorem addDepEdge_error_or (u : Nat) (b : Analyzer) (d : Dependency) :
    b.addDepEdge u d = .error "simple: adding self edge" ∨
      ∃ b', b.addDepEdge u d = .ok b' ∧ b'.idToNode = b.idToNode := by
  unfold Analyzer.addDepEdge
  split
  · next v _ =>
    by_cases huv : u = v
    · subst huv; simp [DirectedGraph.setEdge_self]
    · obtain ⟨g', hg', -⟩ := b.g.setEdge_of_ne huv
      exact Or.inr ⟨{ b with g := g' }, by simp [hg'], rfl⟩
  · exact Or.inr ⟨b, rfl, rfl⟩

/-- A turn of the second loop fails only with the self-edge panic, and keeps
    the node map. -/
theorem addIssueEdges_error_or (b : Analyzer) (i : Issue) :
    b.addIssueEdges i = .error "simple: adding self edge" ∨
      ∃ b', b.addIssueEdges i = .ok b' ∧ b'.idToNode = b.idToNode := by
  unfold Analyzer.addIssueEdges
  split
  · exact foldlM_error_or (fun c : Analyzer => c.idToNode = b.idToNode) _
      (fun c d hc => (addDepEdge_error_or _ c d).imp_right fun ⟨c', h, e⟩ => ⟨c', h, e.trans hc⟩)
      _ b rfl
  · exact Or.inr ⟨b, rfl, rfl⟩

/-- **`NewAnalyzer` panics** on an issue that depends on its own id:
    `SetEdge` refuses the self edge. -/
theorem newAnalyzer_selfDep {issues : List Issue} (h : ¬ NoSelfDep issues) :
    newAnalyzer issues = .error "simple: adding self edge" := by
  obtain ⟨a₀, ha₀, h₀⟩ := addIssueNodes_built issues
  simp only [NoSelfDep, not_forall, not_not] at h
  obtain ⟨i, hi, d, hd, hdi⟩ := h
  obtain ⟨u, hu⟩ := Option.isSome_iff_exists.1 (h₀.idToNode_mem i.id (List.mem_map_of_mem _ hi))
  -- every turn keeps the node map, and the turn of `d` sets the self edge `u → u`
  let P : Analyzer → Prop := fun a => a.idToNode = a₀.idToNode
  have hbad : ∀ b, P b → b.addIssueEdges i = .error "simple: adding self edge" := by
    intro b hb
    simp only [Analyzer.addIssueEdges, hb, hu]
    refine foldlM_error P _ (fun c d hc => (addDepEdge_error_or u c d).imp_right
      fun ⟨c', h, e⟩ => ⟨c', h, e.trans hc⟩) (fun b' hb' => ?_) _ hd b hb
    simp [Analyzer.addDepEdge, hb', hdi, hu, DirectedGraph.setEdge_self]
  simp only [newAnalyzer, ha₀]
  exact foldlM_error P _ (fun b j hb => (addIssueEdges_error_or b j).imp_right
    fun ⟨b', h, e⟩ => ⟨b', h, e.trans hb⟩) hbad issues hi a₀ rfl

/-- **What `NewAnalyzer` does**, for every issue list: with no self-dependency
    it returns the graph `Builds` describes, and otherwise it panics. -/
theorem newAnalyzer_spec (issues : List Issue) :
    (NoSelfDep issues → ∃ a, newAnalyzer issues = .ok a ∧ Builds issues a) ∧
      (¬ NoSelfDep issues → newAnalyzer issues = .error "simple: adding self edge") :=
  ⟨newAnalyzer_ok, newAnalyzer_selfDep⟩

/-- An issue that depends on itself makes `NewAnalyzer` panic, and a
    `related` dependency gets an edge. -/
theorem newAnalyzer_self_and_related :
    newAnalyzer [{ (default : Issue) with id := "A", dependencies := [⟨"A", "A", .blocks⟩] }] =
        .error "simple: adding self edge" ∧
      ∃ a, newAnalyzer [{ (default : Issue) with id := "A", dependencies := [⟨"A", "B", .related⟩] },
          { (default : Issue) with id := "B" }] = .ok a ∧
        a.g.Adj 0 1 ∧ a.idOf 0 = "A" ∧ a.idOf 1 = "B" :=
  ⟨rfl, _, rfl, by decide, rfl, rfl⟩

end BeadsViewer.Analysis
