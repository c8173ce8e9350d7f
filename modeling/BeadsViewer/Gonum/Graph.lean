import Mathlib.Data.List.Sort
import Mathlib.Logic.Relation
/-
  beads_viewer formalization — gonum's `simple.DirectedGraph`, the graph the
  analyzer builds and every gonum algorithm it calls reads.

  * `DirectedGraph` keeps its nodes and edges with gonum's invariants as
    fields: ids used once, no edge twice, no self edge, both ends present.
  * `newNode`, `addNode` and `setEdge` are gonum's methods; `addNode` panics on
    a used id and `setEdge` on a self edge, so both return `Except`.
  * A `View` is what one run of an algorithm sees of the graph's maps: the
    order of `Nodes()` and of each `From(u)`.  `View.Of g w` says `w` lists
    exactly `g`'s nodes and successors, in any order.
-/

namespace BeadsViewer.Gonum

/-- `simple.DirectedGraph`: node ids in the order added and edges as
    `(from, to)` pairs, with the invariants gonum maintains. -/
structure DirectedGraph where
  nodes : List Nat
  edges : List (Nat × Nat)
  nodes_nodup : nodes.Nodup
  edges_nodup : edges.Nodup
  loopless : ∀ e ∈ edges, e.1 ≠ e.2
  edges_mem : ∀ e ∈ edges, e.1 ∈ nodes ∧ e.2 ∈ nodes

namespace DirectedGraph

/-- `simple.NewDirectedGraph()`. -/
def empty : DirectedGraph :=
  ⟨[], [], List.nodup_nil, List.nodup_nil, by simp, by simp⟩

/-- `NewNode`: `0` in an empty graph, else one past the largest id used
    (`uid.Set.NewID`, with no id ever freed). -/
def newNode (g : DirectedGraph) : Nat :=
  if g.nodes = [] then 0 else g.nodes.foldr max 0 + 1

/-- `AddNode`, which panics on an id in use. -/
def addNode (g : DirectedGraph) (n : Nat) : Except String DirectedGraph :=
  if h : n ∈ g.nodes then .error ("simple: node ID collision: " ++ toString n)
  else .ok ⟨g.nodes ++ [n], g.edges, List.nodup_append.2 ⟨g.nodes_nodup, by simp, by simpa⟩,
    g.edges_nodup, g.loopless, fun e he => by
      simp only [List.mem_append, List.mem_singleton]
      exact ⟨Or.inl (g.edges_mem e he).1, Or.inl (g.edges_mem e he).2⟩⟩

/-- The nodes after `SetEdge` adds the ends of an edge that are missing. -/
def withNode (nodes : List Nat) (n : Nat) : List Nat :=
  if n ∈ nodes then nodes else nodes ++ [n]

theorem mem_withNode {nodes : List Nat} {n m : Nat} : m ∈ withNode nodes n ↔ m ∈ nodes ∨ m = n := by
  unfold withNode; split <;> simp_all [or_iff_left_of_imp]

theorem withNode_nodup {nodes : List Nat} (h : nodes.Nodup) (n : Nat) : (withNode nodes n).Nodup := by
  unfold withNode; split
  · exact h
  · exact List.nodup_append.2 ⟨h, by simp, by simpa⟩

/-- `SetEdge(u → v)`, which panics on a self edge; an edge already present
    is replaced by itself. -/
def setEdge (g : DirectedGraph) (u v : Nat) : Except String DirectedGraph :=
  if huv : u = v then .error "simple: adding self edge"
  else .ok
    { nodes := withNode (withNode g.nodes u) v
      edges := if (u, v) ∈ g.edges then g.edges else g.edges ++ [(u, v)]
      nodes_nodup := withNode_nodup (withNode_nodup g.nodes_nodup u) v
      edges_nodup := by
        split
        · exact g.edges_nodup
        · exact List.nodup_append.2 ⟨g.edges_nodup, by simp, by simpa⟩
      loopless := by
        split
        · exact g.loopless
        · intro e he
          rcases List.mem_append.1 he with he | he
          · exact g.loopless e he
          · rw [List.mem_singleton.1 he]; exact huv
      edges_mem := by
        intro e he
        have : e ∈ g.edges ∨ e = (u, v) := by split at he <;> simp_all
        rcases this with he | rfl
        · exact ⟨mem_withNode.2 (Or.inl (mem_withNode.2 (Or.inl (g.edges_mem e he).1))),
            mem_withNode.2 (Or.inl (mem_withNode.2 (Or.inl (g.edges_mem e he).2)))⟩
        · exact ⟨mem_withNode.2 (Or.inl (mem_withNode.2 (Or.inr rfl))), mem_withNode.2 (Or.inr rfl)⟩ }

/-- `u → v` is an edge. -/
def Adj (g : DirectedGraph) (u v : Nat) : Prop := (u, v) ∈ g.edges

instance (g : DirectedGraph) (u v : Nat) : Decidable (g.Adj u v) :=
  inferInstanceAs (Decidable ((u, v) ∈ g.edges))

/-- `From(u)`: the successors of `u`, in the order their edges were added. -/
def succs (g : DirectedGraph) (u : Nat) : List Nat :=
  g.edges.filterMap fun e => if e.1 = u then some e.2 else none

/-- `To(v)`: the predecessors of `v`, in the order their edges were added. -/
def preds (g : DirectedGraph) (v : Nat) : List Nat :=
  g.edges.filterMap fun e => if e.2 = v then some e.1 else none

theorem mem_succs {g : DirectedGraph} {u v : Nat} : v ∈ g.succs u ↔ g.Adj u v := by
  simp only [succs, List.mem_filterMap, Adj]
  constructor
  · rintro ⟨⟨a, b⟩, he, h⟩; split at h <;> simp_all
  · intro h; exact ⟨(u, v), h, by simp⟩

theorem mem_preds {g : DirectedGraph} {u v : Nat} : u ∈ g.preds v ↔ g.Adj u v := by
  simp only [preds, List.mem_filterMap, Adj]
  constructor
  · rintro ⟨⟨a, b⟩, he, h⟩; split at h <;> simp_all
  · intro h; exact ⟨(u, v), h, by simp⟩

theorem filterMap_nodup {es : List (Nat × Nat)} (h : es.Nodup) (f : Nat × Nat → Option Nat)
    (hf : ∀ a b, a ∈ es → b ∈ es → ∀ x, f a = some x → f b = some x → a = b) :
    (es.filterMap f).Nodup := by
  induction es with
  | nil => exact List.nodup_nil
  | cons e es ih =>
    rw [List.nodup_cons] at h
    rw [List.filterMap_cons]
    have ih' := ih h.2 fun a b ha hb => hf a b (List.mem_cons_of_mem _ ha) (List.mem_cons_of_mem _ hb)
    split
    · exact ih'
    · next x hx =>
      refine List.nodup_cons.2 ⟨fun hm => ?_, ih'⟩
      obtain ⟨b, hb, hbx⟩ := List.mem_filterMap.1 hm
      exact h.1 ((hf e b (List.mem_cons_self _ _) (List.mem_cons_of_mem _ hb) x hx hbx) ▸ hb)

theorem succs_nodup (g : DirectedGraph) (u : Nat) : (g.succs u).Nodup :=
  filterMap_nodup g.edges_nodup _ fun a b _ _ x ha hb => by
    obtain ⟨a1, a2⟩ := a; obtain ⟨b1, b2⟩ := b
    simp only at ha hb; split at ha <;> split at hb <;> simp_all

theorem preds_nodup (g : DirectedGraph) (v : Nat) : (g.preds v).Nodup :=
  filterMap_nodup g.edges_nodup _ fun a b _ _ x ha hb => by
    obtain ⟨a1, a2⟩ := a; obtain ⟨b1, b2⟩ := b
    simp only at ha hb; split at ha <;> split at hb <;> simp_all

theorem addNode_of_not_mem {g : DirectedGraph} {n : Nat} (h : n ∉ g.nodes) :
    ∃ g', g.addNode n = .ok g' ∧ g'.nodes = g.nodes ++ [n] ∧ g'.edges = g.edges :=
  ⟨_, dif_neg h, rfl, rfl⟩

theorem withNode_of_mem {nodes : List Nat} {n : Nat} (h : n ∈ nodes) : withNode nodes n = nodes :=
  if_pos h

theorem setEdge_self (g : DirectedGraph) (u : Nat) : g.setEdge u u = .error "simple: adding self edge" :=
  dif_pos rfl

/-- `SetEdge(u → v)` for `u ≠ v`: the ends added if missing, and `u → v`
    added to the edges. -/
theorem setEdge_of_ne (g : DirectedGraph) {u v : Nat} (huv : u ≠ v) :
    ∃ g', g.setEdge u v = .ok g' ∧ g'.nodes = withNode (withNode g.nodes u) v ∧
      ∀ a b, g'.Adj a b ↔ g.Adj a b ∨ (a = u ∧ b = v) := by
  refine ⟨_, dif_neg huv, rfl, fun a b => ?_⟩
  simp only [Adj]
  split <;> simp_all [or_iff_left_of_imp]

/-- `g` has a directed cycle. -/
def HasCycle (g : DirectedGraph) : Prop := ∃ v, Relation.TransGen g.Adj v v

end DirectedGraph

/-- What one run of an algorithm sees of a graph's maps: the order of
    `Nodes()` and, for each node, the order of `From(u)`. -/
structure View where
  nodes : List Nat
  succ : Nat → List Nat

/-- `w` is an order of `g`'s maps: the same nodes and successors. -/
def View.Of (g : DirectedGraph) (w : View) : Prop :=
  List.Perm w.nodes g.nodes ∧ ∀ u, List.Perm (w.succ u) (g.succs u)

/-- The view in the graph's own insertion order. -/
def DirectedGraph.view (g : DirectedGraph) : View := ⟨g.nodes, g.succs⟩

theorem DirectedGraph.view_of (g : DirectedGraph) : View.Of g g.view :=
  ⟨List.Perm.refl _, fun _ => List.Perm.refl _⟩

end BeadsViewer.Gonum
