import BeadsViewer.Gonum.Graph
import BeadsViewer.GoMap
/-
  beads_viewer formalization — gonum's `topo.TarjanSCC` and `topo.Sort`
  (`graph/topo/tarjan.go`), which `Analyze` and `computeHeights` call.

  * `Tarjan` is the state of gonum's `tarjan`: the depth counter, the
    `indexTable` and `lowLink` maps (`0` for a node not yet visited, Go's
    default), the node stack and the components found so far.  gonum's
    `onStack` set is membership in `stack`.
  * `strongconnect` is the recursive visit, split into `push`, one
    `visitSucc` per successor and `finish`; `fuel` bounds its depth, and
    `strongconnect_spec` shows the number of unvisited nodes is enough.
  * `Inv` is the invariant of every state, `Ext t t'` what a visit started in
    `t` keeps of it: visited nodes keep their index and low link, the stack
    only grows above the old one, and components are only appended.
-/

namespace BeadsViewer.Gonum

/-- The state of gonum's `tarjan`.  The stack has its top first. -/
structure Tarjan where
  index : Nat
  indexTable : Nat → Nat
  lowLink : Nat → Nat
  stack : List Nat
  sccs : List (List Nat)

namespace Tarjan

/-- A fresh `tarjan`. -/
def init : Tarjan := ⟨0, fun _ => 0, fun _ => 0, [], []⟩

/-- The start of `strongconnect v`: `v` gets the next index as index and low
    link, and is pushed. -/
def push (t : Tarjan) (v : Nat) : Tarjan where
  index := t.index + 1
  indexTable := Function.update t.indexTable v (t.index + 1)
  lowLink := Function.update t.lowLink v (t.index + 1)
  stack := v :: t.stack
  sccs := t.sccs

/-- `t.lowLink[v] = min(t.lowLink[v], k)`. -/
def lower (t : Tarjan) (v k : Nat) : Tarjan :=
  { t with lowLink := Function.update t.lowLink v (min (t.lowLink v) k) }

end Tarjan

/-- Pops the stack down to `v`: the nodes popped, top first, and the rest. -/
def popTo (v : Nat) : List Nat → List Nat × List Nat
  | [] => ([], [])
  | w :: ws => if w = v then ([w], ws) else (w :: (popTo v ws).1, (popTo v ws).2)

/-- The end of `strongconnect v`: a root (`lowLink[v] == indexTable[v]`) pops
    its component off the stack and appends it to `sccs`. -/
def Tarjan.finish (t : Tarjan) (v : Nat) : Tarjan :=
  if t.lowLink v = t.indexTable v then
    { t with stack := (popTo v t.stack).2, sccs := t.sccs ++ [(popTo v t.stack).1] }
  else t

/-- One turn of `strongconnect v`'s loop over the successors, for `w`; `sc` is
    the recursive `strongconnect`. -/
def visitSucc (sc : Nat → Tarjan → Option Tarjan) (v : Nat) (t : Tarjan) (w : Nat) :
    Option Tarjan :=
  if t.indexTable w = 0 then (sc w t).map fun t => t.lower v (t.lowLink w)
  else if w ∈ t.stack then some (t.lower v (t.indexTable w))
  else some t

/-- `strongconnect`, visiting successors in the order `succ` lists them;
    `none` when `fuel`, a bound on the depth of recursion, runs out. -/
def strongconnect (succ : Nat → List Nat) : Nat → Nat → Tarjan → Option Tarjan
  | 0, _, _ => none
  | fuel + 1, v, t =>
    ((succ v).foldlM (visitSucc (strongconnect succ fuel) v) (t.push v)).map (·.finish v)

/-- The outer loop of `TarjanSCC`: a visit from each node not yet visited. -/
def tarjanLoop (w : View) (t : Tarjan) (v : Nat) : Option Tarjan :=
  if t.indexTable v = 0 then strongconnect w.succ w.nodes.length v t else some t

/-- `TarjanSCC`, on the order `w` of the graph's maps: the components in the
    order they are found. -/
def tarjanSCC (w : View) : Option (List (List Nat)) :=
  (w.nodes.foldlM (tarjanLoop w) Tarjan.init).map (·.sccs)

/-- `ordered.ByID`: `sort.Sort` by id.  The ids are distinct, so every sort
    gives the one order insertion sort gives. -/
def byID (ns : List Nat) : List Nat := insertionSort (fun a b => decide (a < b)) ns

/-- `sortedFrom` with `ordered.ByID` (the error's components sorted by id),
    then reversed as `Sort` returns it. -/
def sortedFrom (sccs : List (List Nat)) : Except (List (List Nat)) (List Nat) :=
  if sccs.all (·.length = 1) then .ok sccs.flatten.reverse
  else .error ((sccs.filter (·.length ≠ 1)).map byID).reverse

/-- `topo.Sort`: the nodes in topological order, or `Unorderable` listing the
    components with more than one node. -/
def sort (w : View) : Except (List (List Nat)) (List Nat) :=
  sortedFrom ((tarjanSCC w).getD [])

/-! ## Steps -/

namespace Tarjan

@[simp] theorem push_index (t : Tarjan) (v : Nat) : (t.push v).index = t.index + 1 := rfl
@[simp] theorem push_stack (t : Tarjan) (v : Nat) : (t.push v).stack = v :: t.stack := rfl
@[simp] theorem push_sccs (t : Tarjan) (v : Nat) : (t.push v).sccs = t.sccs := rfl
@[simp] theorem push_indexTable (t : Tarjan) (v x : Nat) :
    (t.push v).indexTable x = if x = v then t.index + 1 else t.indexTable x := by
  simp [push, Function.update_apply]
@[simp] theorem push_lowLink (t : Tarjan) (v x : Nat) :
    (t.push v).lowLink x = if x = v then t.index + 1 else t.lowLink x := by
  simp [push, Function.update_apply]

@[simp] theorem lower_index (t : Tarjan) (v k : Nat) : (t.lower v k).index = t.index := rfl
@[simp] theorem lower_indexTable (t : Tarjan) (v k : Nat) :
    (t.lower v k).indexTable = t.indexTable := rfl
@[simp] theorem lower_stack (t : Tarjan) (v k : Nat) : (t.lower v k).stack = t.stack := rfl
@[simp] theorem lower_sccs (t : Tarjan) (v k : Nat) : (t.lower v k).sccs = t.sccs := rfl
@[simp] theorem lower_lowLink (t : Tarjan) (v k x : Nat) :
    (t.lower v k).lowLink x = if x = v then min (t.lowLink v) k else t.lowLink x := by
  simp [lower, Function.update_apply]

@[simp] theorem finish_index (t : Tarjan) (v : Nat) : (t.finish v).index = t.index := by
  unfold finish; split <;> rfl
@[simp] theorem finish_indexTable (t : Tarjan) (v : Nat) :
    (t.finish v).indexTable = t.indexTable := by
  unfold finish; split <;> rfl
@[simp] theorem finish_lowLink (t : Tarjan) (v : Nat) : (t.finish v).lowLink = t.lowLink := by
  unfold finish; split <;> rfl

end Tarjan

theorem popTo_append (v : Nat) : ∀ l, (popTo v l).1 ++ (popTo v l).2 = l
  | [] => rfl
  | w :: ws => by unfold popTo; split <;> simp [popTo_append v ws]

theorem popTo_split {v : Nat} {Y Z : List Nat} (h : v ∉ Y) :
    popTo v (Y ++ v :: Z) = (Y ++ [v], Z) := by
  induction Y with
  | nil => simp [popTo]
  | cons y Y ih =>
    simp only [List.mem_cons, not_or] at h
    simp [popTo, Ne.symm h.1, ih h.2]

/-! ## The invariant -/

/-- The invariant of `tarjan`'s states on `g`: visited nodes are nodes of `g`,
    each on the stack or in one component, exactly once; the stack is ordered
    by index, largest on top; low links never exceed indices. -/
structure Tarjan.Inv (g : DirectedGraph) (t : Tarjan) : Prop where
  index_ge : ∀ x, t.indexTable x ≤ t.index
  low_le : ∀ x, t.lowLink x ≤ t.indexTable x
  stack_vis : ∀ x ∈ t.stack, t.indexTable x ≠ 0
  sccs_vis : ∀ x ∈ t.sccs.flatten, t.indexTable x ≠ 0
  vis_mem : ∀ x, t.indexTable x ≠ 0 → x ∈ t.stack ∨ x ∈ t.sccs.flatten
  nodup : (t.stack ++ t.sccs.flatten).Nodup
  sorted : t.stack.Pairwise (fun a b => t.indexTable b < t.indexTable a)
  vis_nodes : ∀ x, t.indexTable x ≠ 0 → x ∈ g.nodes

namespace Tarjan
variable {g : DirectedGraph}

theorem inv_init : Inv g init :=
  ⟨fun _ => le_rfl, fun _ => le_rfl, by simp [init], by simp [init], fun _ h => absurd rfl h,
    by simp [init], List.Pairwise.nil, fun _ h => absurd rfl h⟩

theorem Inv.push {t : Tarjan} (h : Inv g t) {v : Nat} (hv : t.indexTable v = 0)
    (hg : v ∈ g.nodes) : Inv g (t.push v) := by
  have hne : ∀ x, t.indexTable x ≠ 0 → x ≠ v := fun x hx hxv => hx (hxv ▸ hv)
  refine ⟨fun x => ?_, fun x => ?_, fun x hx => ?_, fun x hx => ?_, fun x hx => ?_, ?_, ?_,
    fun x hx => ?_⟩
  · by_cases hx : x = v <;> simp [hx, Nat.le_succ_of_le (h.index_ge x)]
  · by_cases hx : x = v <;> simp [hx, h.low_le x]
  · by_cases hxv : x = v
    · simp [hxv]
    · simp only [push_stack, List.mem_cons, hxv, false_or] at hx
      simpa [hxv] using h.stack_vis x hx
  · simpa [hne x (h.sccs_vis x hx)] using h.sccs_vis x hx
  · by_cases hxv : x = v
    · simp [hxv]
    · simp only [push_indexTable, hxv, if_false] at hx
      rcases h.vis_mem x hx with h' | h' <;> simp [h']
  · refine List.nodup_cons.2 ⟨fun hm => ?_, h.nodup⟩
    rcases List.mem_append.1 hm with hm | hm
    · exact h.stack_vis v hm hv
    · exact h.sccs_vis v hm hv
  · refine List.pairwise_cons.2 ⟨fun b hb => ?_, h.sorted.imp_of_mem fun ha hb hab => ?_⟩
    · simp [hne b (h.stack_vis b hb), Nat.lt_succ_of_le (h.index_ge b)]
    · simpa [hne _ (h.stack_vis _ ha), hne _ (h.stack_vis _ hb)] using hab
  · by_cases hxv : x = v
    · exact hxv ▸ hg
    · exact h.vis_nodes x (by simpa [hxv] using hx)

theorem Inv.lower {t : Tarjan} (h : Inv g t) (v k : Nat) : Inv g (t.lower v k) := by
  refine ⟨h.index_ge, fun x => ?_, h.stack_vis, h.sccs_vis, h.vis_mem, h.nodup, h.sorted,
    h.vis_nodes⟩
  by_cases hx : x = v
  · simp [hx, h.low_le v]
  · simp [hx, h.low_le x]

theorem Inv.finish {t : Tarjan} (h : Inv g t) (v : Nat) : Inv g (t.finish v) := by
  unfold Tarjan.finish
  split
  · have hsplit := popTo_append v t.stack
    have hperm : List.Perm ((popTo v t.stack).2 ++ (t.sccs ++ [(popTo v t.stack).1]).flatten)
        (t.stack ++ t.sccs.flatten) := by
      conv => rhs; rw [← hsplit]
      exact List.perm_iff_count.2 fun a => by simp only [List.flatten_append, List.flatten_cons,
        List.flatten_nil, List.append_nil, List.count_append]; omega
    have hmem : ∀ x, x ∈ (popTo v t.stack).2 ∨ x ∈ (t.sccs ++ [(popTo v t.stack).1]).flatten ↔
        x ∈ t.stack ∨ x ∈ t.sccs.flatten := fun x => by
      simpa using hperm.mem_iff (a := x)
    have hvis : ∀ x, x ∈ t.stack ∨ x ∈ t.sccs.flatten → t.indexTable x ≠ 0 :=
      fun x => Or.rec (h.stack_vis x) (h.sccs_vis x)
    refine ⟨h.index_ge, h.low_le, fun x hx => hvis x ((hmem x).1 (Or.inl hx)),
      fun x hx => hvis x ((hmem x).1 (Or.inr hx)), fun x hx => (hmem x).2 (h.vis_mem x hx),
      hperm.nodup_iff.2 h.nodup, ?_, h.vis_nodes⟩
    · have := h.sorted
      rw [← hsplit] at this
      exact (List.pairwise_append.1 this).2.1
  · exact h

end Tarjan

/-! ## What a visit keeps -/

namespace Tarjan

/-- What a visit started in `t` keeps of it: visited nodes keep their index
    and low link, the stack only grows above the old one, and components are
    only appended. -/
structure Ext (t t' : Tarjan) : Prop where
  index_le : t.index ≤ t'.index
  keep : ∀ x, t.indexTable x ≠ 0 → t'.indexTable x = t.indexTable x ∧ t'.lowLink x = t.lowLink x
  stack : ∃ Y, t'.stack = Y ++ t.stack
  sccs : ∃ C, t'.sccs = t.sccs ++ C

theorem Ext.refl (t : Tarjan) : Ext t t :=
  ⟨le_rfl, fun _ _ => ⟨rfl, rfl⟩, ⟨[], rfl⟩, ⟨[], by simp⟩⟩

theorem Ext.trans {t₁ t₂ t₃ : Tarjan} (h₁ : Ext t₁ t₂) (h₂ : Ext t₂ t₃) : Ext t₁ t₃ := by
  obtain ⟨Y₁, hY₁⟩ := h₁.stack; obtain ⟨Y₂, hY₂⟩ := h₂.stack
  obtain ⟨C₁, hC₁⟩ := h₁.sccs; obtain ⟨C₂, hC₂⟩ := h₂.sccs
  refine ⟨h₁.index_le.trans h₂.index_le, fun x hx => ?_, ⟨Y₂ ++ Y₁, by simp [hY₂, hY₁]⟩,
    ⟨C₁ ++ C₂, by simp [hC₂, hC₁]⟩⟩
  have h₁x := h₁.keep x hx
  have h₂x := h₂.keep x (h₁x.1 ▸ hx)
  exact ⟨h₂x.1.trans h₁x.1, h₂x.2.trans h₁x.2⟩

theorem Ext.visited {t t' : Tarjan} (h : Ext t t') {x : Nat} (hx : t.indexTable x ≠ 0) :
    t'.indexTable x ≠ 0 :=
  (h.keep x hx).1 ▸ hx

theorem Ext.stack_subset {t t' : Tarjan} (h : Ext t t') : ∀ x ∈ t.stack, x ∈ t'.stack := by
  obtain ⟨Y, hY⟩ := h.stack; intro x hx; simp [hY, hx]

theorem Ext.flatten_subset {t t' : Tarjan} (h : Ext t t') :
    ∀ x ∈ t.sccs.flatten, x ∈ t'.sccs.flatten := by
  obtain ⟨C, hC⟩ := h.sccs; intro x hx; simp only [hC, List.flatten_append, List.mem_append]
  exact Or.inl hx

theorem Ext.sccs_subset {t t' : Tarjan} (h : Ext t t') : ∀ c ∈ t.sccs, c ∈ t'.sccs := by
  obtain ⟨C, hC⟩ := h.sccs; intro c hc; simp [hC, hc]

/-- Lowering the low link of a node `t` had not visited. -/
theorem Ext.lower {t s : Tarjan} (h : Ext t s) {v : Nat} (hv : t.indexTable v = 0) (k : Nat) :
    Ext t (s.lower v k) := by
  refine ⟨h.index_le, fun x hx => ?_, h.stack, h.sccs⟩
  have hxv : x ≠ v := fun e => hx (e ▸ hv)
  simpa [hxv] using h.keep x hx

theorem ext_push {t : Tarjan} {v : Nat} (hv : t.indexTable v = 0) : Ext t (t.push v) := by
  refine ⟨Nat.le_succ _, fun x hx => ?_, ⟨[v], rfl⟩, ⟨[], by simp⟩⟩
  have hxv : x ≠ v := fun e => hx (e ▸ hv)
  simp [hxv]

/-- `finish` on a stack `Y ++ v :: Z`: a root pops `Y ++ [v]` as a component. -/
theorem finish_of_split {s : Tarjan} {v : Nat} {Y Z : List Nat} (hs : s.stack = Y ++ v :: Z)
    (hY : v ∉ Y) :
    s.finish v = if s.lowLink v = s.indexTable v
      then { s with stack := Z, sccs := s.sccs ++ [Y ++ [v]] } else s := by
  unfold finish; rw [hs, popTo_split hY]

/-- Every node on the stack has a low link above `k`. -/
def LowAbove (k : Nat) (t : Tarjan) : Prop := ∀ x ∈ t.stack, k < t.lowLink x

theorem LowAbove.lower {k : Nat} {t : Tarjan} (h : LowAbove k t) {v m : Nat} (hm : k < m) :
    LowAbove k (t.lower v m) := fun x hx => by
  by_cases hxv : x = v
  · subst hxv; simpa [Nat.lt_min, hm] using h x hx
  · simpa [hxv] using h x hx

/-! ## Unvisited nodes -/

/-- The number of `g`'s nodes `t` has not visited: enough fuel for a visit. -/
def unvisited (g : DirectedGraph) (t : Tarjan) : Nat :=
  (g.nodes.filter fun x => t.indexTable x = 0).length

theorem unvisited_le_length (g : DirectedGraph) (t : Tarjan) : unvisited g t ≤ g.nodes.length :=
  List.length_filter_le _ _

theorem unvisited_lt {g : DirectedGraph} {t s : Tarjan}
    (hmono : ∀ x, t.indexTable x ≠ 0 → s.indexTable x ≠ 0) {v : Nat} (hv : v ∈ g.nodes)
    (ht : t.indexTable v = 0) (hs : s.indexTable v ≠ 0) : unvisited g s < unvisited g t := by
  have hsub : (g.nodes.filter fun x => s.indexTable x = 0).Sublist
      (g.nodes.filter fun x => t.indexTable x = 0) :=
    List.monotone_filter_right _ fun x hx => by
      simp only [decide_eq_true_eq] at hx ⊢
      exact Classical.byContradiction fun h => hmono x h hx
  refine lt_of_le_of_ne hsub.length_le fun heq => ?_
  have hmem : v ∈ g.nodes.filter fun x => t.indexTable x = 0 := by simp [hv, ht]
  rw [← hsub.eq_of_length heq] at hmem
  simp [hs] at hmem

end Tarjan

end BeadsViewer.Gonum
