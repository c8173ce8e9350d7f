import BeadsViewer.Gonum.Tarjan
/-
  beads_viewer formalization — `topo.Sort` sorts: on every order of the
  graph's maps, it returns a topological order of the nodes exactly when the
  graph is acyclic (`sort_spec`, `sort_ok_iff`).

  The proof does not need that `TarjanSCC` finds the strongly connected
  components, only a dichotomy for each visit (`Visit.verdict`): either the
  visit keeps the state `Clean` (every component a single node, their
  concatenation closed under successors with no edge pointing forward), or
  the graph has a cycle and the visit leaves a component of more than one
  node, or a node on the stack that was not there before.
-/

namespace BeadsViewer.Gonum

open Tarjan

variable {g : DirectedGraph}

/-! ## Loops -/

/-- A loop `xs.foldlM f b` whose turns return and keep `P`, where `P` also
    sees the elements passed, returns and keeps `P`. -/
theorem foldlM_inv {m : Type → Type} [Monad m] [LawfulMonad m] {α β : Type}
    {f : β → α → m β} (P : β → List α → Prop) :
    ∀ (xs done : List α) (b : β), P b done →
      (∀ done b x, P b done → x ∈ xs → ∃ b', f b x = pure b' ∧ P b' (done ++ [x])) →
      ∃ b', xs.foldlM f b = pure b' ∧ P b' (done ++ xs)
  | [], done, b, h, _ => ⟨b, rfl, by simpa using h⟩
  | x :: xs, done, b, h, step => by
    obtain ⟨b₁, h₁, hP₁⟩ := step done b x h (List.mem_cons_self _ _)
    obtain ⟨b₂, h₂, hP₂⟩ := foldlM_inv P xs (done ++ [x]) b₁ hP₁
      fun d b y hP hy => step d b y hP (List.mem_cons_of_mem _ hy)
    exact ⟨b₂, by simp [h₁, h₂], by simpa using hP₂⟩

/-! ## Clean states -/

/-- `l` is closed under `g`'s edges, and no edge points from a node of `l` to
    a later one. -/
def Closed (g : DirectedGraph) (l : List Nat) : Prop :=
  (∀ a ∈ l, ∀ b, g.Adj a b → b ∈ l) ∧ l.Pairwise fun a b => ¬ g.Adj a b

theorem Closed.append {l : List Nat} (h : Closed g l) {v : Nat} (hv : v ∉ l)
    (hsucc : ∀ b, g.Adj v b → b ∈ l) : Closed g (l ++ [v]) := by
  refine ⟨fun a ha b hab => ?_, List.pairwise_append.2 ⟨h.2, List.pairwise_singleton _ _, ?_⟩⟩
  · rcases List.mem_append.1 ha with ha | ha
    · exact List.mem_append_left _ (h.1 a ha b hab)
    · exact List.mem_append_left _ (hsucc b (List.mem_singleton.1 ha ▸ hab))
  · intro a ha b hb hab
    exact hv (List.mem_singleton.1 hb ▸ h.1 a ha b hab)

/-- Every component found so far is a single node, and their concatenation is
    `Closed`. -/
def Clean (g : DirectedGraph) (t : Tarjan) : Prop :=
  (∀ c ∈ t.sccs, c.length = 1) ∧ Closed g t.sccs.flatten

/-- Every node of `stack` reaches `v`. -/
def Reach (g : DirectedGraph) (stack : List Nat) (v : Nat) : Prop :=
  ∀ x ∈ stack, Relation.ReflTransGen g.Adj x v

/-- A visit of `v` from `t` to `t'` that found no cycle. -/
def Good (g : DirectedGraph) (v : Nat) (t t' : Tarjan) : Prop :=
  t'.stack = t.stack ∧ Clean g t' ∧ t'.lowLink v = t'.indexTable v

/-- A visit from `t` to `t'` that proves a cycle and leaves a mark of it. -/
def Bad (g : DirectedGraph) (t t' : Tarjan) : Prop :=
  g.HasCycle ∧ ((∃ c ∈ t'.sccs, c.length ≠ 1) ∨ ∃ x ∈ t'.stack, x ∉ t.stack)

/-- What `strongconnect v` started in `t` yields in `t'`. -/
structure Visit (g : DirectedGraph) (v : Nat) (t t' : Tarjan) : Prop where
  inv : Inv g t'
  ext : Ext t t'
  index_v : t'.indexTable v = t.index + 1
  root : t'.lowLink v = t'.indexTable v → t'.stack = t.stack
  low : ∀ k ≤ t.index, LowAbove k t → LowAbove k t' ∧ k < t'.lowLink v
  verdict : Clean g t → Reach g t.stack v → Good g v t t' ∨ Bad g t t'

/-! ## The loop over the successors -/

/-- The loop of `strongconnect v` has found no cycle yet, and the successors
    in `done` are in components. -/
def GoodSoFar (g : DirectedGraph) (v : Nat) (t s : Tarjan) (done : List Nat) : Prop :=
  s.stack = v :: t.stack ∧ Clean g s ∧ s.lowLink v = s.indexTable v ∧
    ∀ x ∈ done, x ∈ s.sccs.flatten

/-- The loop of `strongconnect v` has proved a cycle and left a mark of it. -/
def BadSoFar (g : DirectedGraph) (v : Nat) (t s : Tarjan) : Prop :=
  g.HasCycle ∧ ((∃ c ∈ s.sccs, c.length ≠ 1) ∨ (∃ x ∈ s.stack, x ∉ v :: t.stack) ∨
    s.lowLink v < s.indexTable v)

/-- The invariant of the loop of `strongconnect v` started in `t`, once it has
    processed the successors `done`. -/
structure Loop (g : DirectedGraph) (v : Nat) (t s : Tarjan) (done : List Nat) : Prop where
  inv : Inv g s
  ext : Ext t s
  index_v : s.indexTable v = t.index + 1
  stack : ∃ Y, s.stack = Y ++ v :: t.stack
  low : ∀ k ≤ t.index, LowAbove k t → LowAbove k s
  verdict : Clean g t → Reach g t.stack v → GoodSoFar g v t s done ∨ BadSoFar g v t s

theorem BadSoFar.mono {v : Nat} {t s s' : Tarjan} (h : BadSoFar g v t s)
    (hstack : ∀ x ∈ s.stack, x ∈ s'.stack) (hsccs : ∀ c ∈ s.sccs, c ∈ s'.sccs)
    (hlow : s'.lowLink v ≤ s.lowLink v) (hidx : s'.indexTable v = s.indexTable v) :
    BadSoFar g v t s' := by
  refine ⟨h.1, ?_⟩
  rcases h.2 with ⟨c, hc, hl⟩ | ⟨x, hx, hnot⟩ | hlt
  · exact Or.inl ⟨c, hsccs c hc, hl⟩
  · exact Or.inr (Or.inl ⟨x, hstack x hx, hnot⟩)
  · exact Or.inr (Or.inr (by omega))

/-- A visit that found no cycle leaves its node in a component. -/
theorem Visit.mem_flatten {x : Nat} {s s' : Tarjan} (V : Visit g x s s') (hs : Inv g s)
    (h0 : s.indexTable x = 0) (hst : s'.stack = s.stack) : x ∈ s'.sccs.flatten :=
  (V.inv.vis_mem x (by simp [V.index_v])).resolve_left fun h => hs.stack_vis x (hst ▸ h) h0

section
variable {v : Nat} {t : Tarjan} (hv : t.indexTable v = 0)
include hv

theorem loop_push (ht : Inv g t) (hg : v ∈ g.nodes) : Loop g v t (t.push v) [] := by
  refine ⟨ht.push hv hg, ext_push hv, by simp, ⟨[], rfl⟩, fun k hk hlow x hx => ?_,
    fun hc _ => Or.inl ⟨rfl, hc, by simp, by simp⟩⟩
  rcases List.mem_cons.1 hx with rfl | hx
  · simp; omega
  · have hxv : x ≠ v := fun e => ht.stack_vis x hx (e ▸ hv)
    simpa [hxv] using hlow x hx

/-- One turn of the loop of `strongconnect v`, for its successor `x`, given
    the spec of the visits it may start. -/
theorem loop_step (hg : v ∈ g.nodes) {s : Tarjan} {done : List Nat} (L : Loop g v t s done)
    {sc : Nat → Tarjan → Option Tarjan}
    (hsc : ∀ x s, Inv g s → s.indexTable x = 0 → x ∈ g.nodes → unvisited g s < unvisited g t →
      ∃ s', sc x s = some s' ∧ Visit g x s s')
    {x : Nat} (hx : g.Adj v x) :
    ∃ s', visitSucc sc v s x = some s' ∧ Loop g v t s' (done ++ [x]) := by
  have hvs : s.indexTable v ≠ 0 := by simp [L.index_v]
  obtain ⟨Y, hY⟩ := L.stack
  unfold visitSucc
  split
  · next h0 =>
    -- a tree edge: visit `x`, then lower `v`'s low link to `x`'s
    obtain ⟨s'', hs'', V⟩ := hsc x s L.inv h0 (g.edges_mem _ hx).2
      (unvisited_lt (fun y hy => L.ext.visited hy) hg hv hvs)
    have hkeep := V.ext.keep v hvs
    obtain ⟨Y', hY'⟩ := V.ext.stack
    refine ⟨s''.lower v (s''.lowLink x), by simp [hs''], V.inv.lower _ _,
      (L.ext.trans V.ext).lower hv _, by simp [hkeep.1, L.index_v], ⟨Y' ++ Y, by simp [hY', hY]⟩,
      fun k hk hlow => ?_,
      fun hc hr => ?_⟩
    · have hV := V.low k (hk.trans L.ext.index_le) (L.low k hk hlow)
      exact hV.1.lower hV.2
    rcases L.verdict hc hr with ⟨hst, hcl, hlv, hdone⟩ | hbad
    · have hreach : Reach g s.stack x := by
        rw [hst]; intro y hy
        rcases List.mem_cons.1 hy with rfl | hy
        · exact Relation.ReflTransGen.single hx
        · exact (hr y hy).tail hx
      rcases V.verdict hcl hreach with ⟨hst'', hcl'', hlx⟩ | ⟨hcyc, hmark⟩
      · have hle : s.indexTable v ≤ s.index := L.inv.index_ge v
        refine Or.inl ⟨by simp [hst'', hst], hcl'', ?_, fun y hy => ?_⟩
        · simp only [lower_lowLink, lower_indexTable, if_pos, hkeep, hlx, V.index_v, hlv]
          omega
        simp only [List.mem_append, List.mem_singleton] at hy
        rcases hy with hy | rfl
        · exact V.ext.flatten_subset y (hdone y hy)
        · exact V.mem_flatten L.inv h0 hst''
      · refine Or.inr ⟨hcyc, ?_⟩
        rcases hmark with ⟨c, hc, hl⟩ | ⟨y, hy, hny⟩
        · exact Or.inl ⟨c, hc, hl⟩
        · exact Or.inr (Or.inl ⟨y, hy, hst ▸ hny⟩)
    · exact Or.inr (hbad.mono V.ext.stack_subset V.ext.sccs_subset (by simp [hkeep])
        (by simp [hkeep]))
  · split
    · next h0 hon =>
      -- `x` is on the stack: lower `v`'s low link to `x`'s index
      refine ⟨_, rfl, L.inv.lower _ _, L.ext.lower hv _, by simp [L.index_v], ⟨Y, hY⟩,
        fun k hk hlow => (L.low k hk hlow).lower
          ((L.low k hk hlow x hon).trans_le (L.inv.low_le x)), fun hc hr => ?_⟩
      rcases L.verdict hc hr with ⟨hst, -, hlv, -⟩ | hbad
      · rw [hst] at hon
        have hxt : x ∈ t.stack := (List.mem_cons.1 hon).resolve_left (g.loopless _ hx).symm
        have hlt : s.indexTable x < s.indexTable v := by
          have := L.inv.sorted; rw [hst] at this
          exact (List.pairwise_cons.1 this).1 x hxt
        refine Or.inr ⟨⟨x, Relation.TransGen.tail' (hr x hxt) hx⟩, Or.inr (Or.inr ?_)⟩
        simp only [lower_lowLink, lower_indexTable, if_pos]
        exact (min_le_right _ _).trans_lt hlt
      · exact Or.inr (hbad.mono (fun _ h => h) (fun _ h => h) (by simp) rfl)
    · next h0 hoff =>
      -- `x` is in a component: nothing to do
      refine ⟨s, rfl, L.inv, L.ext, L.index_v, ⟨Y, hY⟩, L.low, fun hc hr => ?_⟩
      rcases L.verdict hc hr with ⟨hst, hcl, hlv, hdone⟩ | hbad
      · refine Or.inl ⟨hst, hcl, hlv, fun y hy => ?_⟩
        simp only [List.mem_append, List.mem_singleton] at hy
        rcases hy with hy | rfl
        · exact hdone y hy
        · exact (L.inv.vis_mem y h0).resolve_left hoff
      · exact Or.inr hbad

end

/-- The end of `strongconnect v`, once every successor has been processed. -/
theorem loop_finish {v : Nat} {t s : Tarjan} {done : List Nat} (L : Loop g v t s done)
    (hdone : ∀ b, g.Adj v b → b ∈ done) : Visit g v t (s.finish v) := by
  obtain ⟨Y, hY⟩ := L.stack
  have hns : (Y ++ v :: t.stack).Nodup := hY ▸ (List.nodup_append.1 L.inv.nodup).1
  have hvY : v ∉ Y := fun h => (List.nodup_append.1 hns).2.2 h (List.mem_cons_self _ _)
  have hvt : v ∉ t.stack := (List.nodup_cons.1 (List.nodup_append.1 hns).2.1).1
  have hlow : ∀ k ≤ t.index, LowAbove k t → k < s.lowLink v := fun k hk hlow =>
    L.low k hk hlow v (by simp [hY])
  have hinv := L.inv.finish v
  rw [finish_of_split hY hvY] at hinv ⊢
  split_ifs at hinv ⊢ with hroot
  · -- `v` is a root: `Y ++ [v]` is its component
    obtain ⟨C, hC⟩ := L.ext.sccs
    refine ⟨hinv, ⟨L.ext.index_le, L.ext.keep, ⟨[], rfl⟩, ⟨C ++ [Y ++ [v]], by simp [hC]⟩⟩,
      L.index_v, fun _ => rfl, fun k hk hlo => ⟨fun x hx => L.low k hk hlo x (by simp [hY, hx]),
      hlow k hk hlo⟩, fun hc hr => ?_⟩
    rcases L.verdict hc hr with ⟨hst, hcl, -, hdone'⟩ | ⟨hcyc, hmark⟩
    · have hYnil : Y = [] := by rw [hY] at hst; simpa using hst
      subst hYnil
      have hvf : v ∉ s.sccs.flatten := fun h =>
        List.disjoint_of_nodup_append L.inv.nodup (by simp [hst]) h
      refine Or.inl ⟨rfl, ⟨fun c hc' => ?_, ?_⟩, hroot⟩
      · rcases List.mem_append.1 hc' with hc' | hc'
        · exact hcl.1 c hc'
        · simp [List.mem_singleton.1 hc']
      · simpa using hcl.2.append hvf fun b hb => hdone' b (hdone b hb)
    · refine Or.inr ⟨hcyc, Or.inl ?_⟩
      rcases hmark with ⟨c, hc', hl⟩ | ⟨x, hx, hnx⟩ | hlt
      · exact ⟨c, by simp [hc'], hl⟩
      · have hxY : x ∈ Y := by
          rw [hY] at hx
          exact (List.mem_append.1 hx).resolve_right hnx
        refine ⟨Y ++ [v], by simp, ?_⟩
        have : 0 < Y.length := List.length_pos.2 (List.ne_nil_of_mem hxY)
        simp only [List.length_append, List.length_singleton]; omega
      · omega
  · -- `v` stays on the stack
    refine ⟨hinv, L.ext, L.index_v, fun h => absurd h hroot,
      fun k hk hlo => ⟨L.low k hk hlo, hlow k hk hlo⟩, fun hc hr => ?_⟩
    rcases L.verdict hc hr with ⟨-, -, hlv, -⟩ | ⟨hcyc, hmark⟩
    · exact absurd hlv hroot
    refine Or.inr ⟨hcyc, ?_⟩
    rcases hmark with ⟨c, hc', hl⟩ | ⟨x, hx, hnx⟩ | -
    · exact Or.inl ⟨c, hc', hl⟩
    · exact Or.inr ⟨x, hx, fun h => hnx (List.mem_cons_of_mem _ h)⟩
    · exact Or.inr ⟨v, by simp [hY], hvt⟩

/-- **`strongconnect`.**  Fuel for as many nodes as are unvisited is enough for
    a visit of an unvisited node to return, and the visit meets `Visit`. -/
theorem strongconnect_spec {w : View} (hw : View.Of g w) :
    ∀ fuel v t, Inv g t → t.indexTable v = 0 → v ∈ g.nodes → unvisited g t ≤ fuel →
      ∃ t', strongconnect w.succ fuel v t = some t' ∧ Visit g v t t'
  | 0, v, t, _, hv, hg, hf => by
    have : 0 < unvisited g t :=
      List.length_pos.2 (List.ne_nil_of_mem (List.mem_filter.2 ⟨hg, by simp [hv]⟩))
    omega
  | fuel + 1, v, t, ht, hv, hg, hf => by
    obtain ⟨s, hs, L⟩ := foldlM_inv (Loop g v t) (w.succ v) [] (t.push v) (loop_push hv ht hg)
      fun done s x L hx => loop_step hv hg L
        (fun x s hs hx hxg hlt => strongconnect_spec hw fuel x s hs hx hxg (by omega))
        (DirectedGraph.mem_succs.1 ((hw.2 v).subset hx))
    exact ⟨s.finish v, by simp [strongconnect, hs],
      loop_finish L fun b hb => by simpa using (hw.2 v).symm.subset (DirectedGraph.mem_succs.2 hb)⟩

/-! ## The outer loop -/

/-- The invariant of `TarjanSCC`'s outer loop once it has passed the nodes
    `done`. -/
structure Top (g : DirectedGraph) (t : Tarjan) (done : List Nat) : Prop where
  inv : Inv g t
  stack : t.stack = []
  done : ∀ x ∈ done, t.indexTable x ≠ 0
  verdict : Clean g t ∨ (g.HasCycle ∧ ∃ c ∈ t.sccs, c.length ≠ 1)

theorem top_step {w : View} (hw : View.Of g w) {t : Tarjan} {done : List Nat} (T : Top g t done)
    {x : Nat} (hx : x ∈ w.nodes) : ∃ t', tarjanLoop w t x = some t' ∧ Top g t' (done ++ [x]) := by
  unfold tarjanLoop
  split
  · next h0 =>
    obtain ⟨t', h', V⟩ := strongconnect_spec hw _ x t T.inv h0 (hw.1.subset hx)
      ((unvisited_le_length g t).trans hw.1.length_eq.ge)
    -- with an empty stack below it, `x` is a root, and the stack is empty again
    have hlow := (V.low t.index le_rfl (by simp [LowAbove, T.stack])).2
    have hroot : t'.lowLink x = t'.indexTable x :=
      le_antisymm (V.inv.low_le x) (by rw [V.index_v]; exact hlow)
    have hst : t'.stack = [] := (V.root hroot).trans T.stack
    refine ⟨t', h', V.inv, hst, fun y hy => ?_, ?_⟩
    · simp only [List.mem_append, List.mem_singleton] at hy
      rcases hy with hy | rfl
      · exact V.ext.visited (T.done y hy)
      · simp [V.index_v]
    rcases T.verdict with hc | ⟨hcyc, c, hc, hl⟩
    · rcases V.verdict hc (by simp [Reach, T.stack]) with
        ⟨-, hc', -⟩ | ⟨hcyc, ⟨c, hc, hl⟩ | ⟨y, hy, -⟩⟩
      · exact Or.inl hc'
      · exact Or.inr ⟨hcyc, c, hc, hl⟩
      · simp [hst] at hy
    · exact Or.inr ⟨hcyc, c, V.ext.sccs_subset c hc, hl⟩
  · next h0 =>
    refine ⟨t, rfl, T.inv, T.stack, fun y hy => ?_, T.verdict⟩
    simp only [List.mem_append, List.mem_singleton] at hy
    rcases hy with hy | rfl
    · exact T.done y hy
    · exact h0

/-- **`TarjanSCC`.**  On every order of the graph's maps it returns; its
    components hold every node once; and either every component is a single
    node and their concatenation is `Closed`, or the graph has a cycle and
    some component has more than one node. -/
theorem tarjanSCC_spec {w : View} (hw : View.Of g w) :
    ∃ sccs, tarjanSCC w = some sccs ∧ List.Perm sccs.flatten g.nodes ∧
      ((∀ c ∈ sccs, c.length = 1) ∧ Closed g sccs.flatten ∨
        g.HasCycle ∧ ∃ c ∈ sccs, c.length ≠ 1) := by
  obtain ⟨t, ht, T⟩ := foldlM_inv (Top g) w.nodes [] init
    ⟨inv_init, rfl, by simp, Or.inl ⟨by simp [init], by simp [init, Closed]⟩⟩
    fun _ _ _ T hx => top_step hw T hx
  refine ⟨t.sccs, by simp [tarjanSCC, ht], ?_, T.verdict⟩
  have hnd : t.sccs.flatten.Nodup := by simpa [T.stack] using T.inv.nodup
  refine (List.perm_ext_iff_of_nodup hnd g.nodes_nodup).2 fun x =>
    ⟨fun hx => T.inv.vis_nodes x (T.inv.sccs_vis x hx), fun hx => ?_⟩
  simpa [T.stack] using T.inv.vis_mem x (T.done x (by simpa using hw.1.symm.subset hx))

/-! ## Topological orders -/

/-- `l` lists `g`'s nodes once each, and every edge points forward in it. -/
def IsTopoOrder (g : DirectedGraph) (l : List Nat) : Prop :=
  List.Perm l g.nodes ∧ l.Pairwise fun a b => ¬ g.Adj b a

theorem IsTopoOrder.indexOf_lt {l : List Nat} (h : IsTopoOrder g l) {u v : Nat}
    (huv : g.Adj u v) : l.indexOf u < l.indexOf v := by
  have hu : u ∈ l := h.1.symm.subset (g.edges_mem _ huv).1
  have hv : v ∈ l := h.1.symm.subset (g.edges_mem _ huv).2
  have hne : l.indexOf u ≠ l.indexOf v :=
    fun e => g.loopless _ huv ((List.indexOf_inj hu hv).1 e)
  refine lt_of_le_of_ne (not_lt.1 fun hlt => ?_) hne
  have := List.pairwise_iff_getElem.1 h.2 _ _ (List.indexOf_lt_length.2 hv)
    (List.indexOf_lt_length.2 hu) hlt
  simp only [List.getElem_indexOf] at this
  exact this huv

/-- In a topological order, every node with an edge to `n` comes before `n`. -/
theorem IsTopoOrder.mem_before {l done rest : List Nat} {n p : Nat} (h : IsTopoOrder g l)
    (hl : l = done ++ n :: rest) (hp : g.Adj p n) : p ∈ done := by
  have hpw := h.2; rw [hl, List.pairwise_append] at hpw
  rcases List.mem_append.1 (hl ▸ h.1.symm.subset (g.edges_mem _ hp).1) with h' | h'
  · exact h'
  rcases List.mem_cons.1 h' with hpn | h'
  · exact absurd hpn (g.loopless _ hp)
  · exact absurd hp ((List.pairwise_cons.1 hpw.2.1).1 p h')

theorem IsTopoOrder.acyclic {l : List Nat} (h : IsTopoOrder g l) : ¬ g.HasCycle := by
  rintro ⟨v, hv⟩
  have : ∀ a b, Relation.TransGen g.Adj a b → l.indexOf a < l.indexOf b := by
    intro a b hab
    induction hab with
    | single hab => exact h.indexOf_lt hab
    | tail _ hbc ih => exact ih.trans (h.indexOf_lt hbc)
  exact lt_irrefl _ (this v v hv)

/-- **`topo.Sort`.**  On every order of the graph's maps, `Sort` returns a
    topological order of the nodes, or an error when the graph has a cycle. -/
theorem sort_spec {w : View} (hw : View.Of g w) :
    (∃ l, sort w = .ok l ∧ IsTopoOrder g l) ∨ ((∃ e, sort w = .error e) ∧ g.HasCycle) := by
  obtain ⟨sccs, hs, hperm, hverdict⟩ := tarjanSCC_spec hw
  simp only [sort, hs, Option.getD_some, sortedFrom]
  split
  · next hall =>
    rcases hverdict with ⟨-, hcl⟩ | ⟨-, c, hc, hl⟩
    · exact Or.inl ⟨_, rfl, (List.reverse_perm _).trans hperm,
        List.pairwise_reverse.2 hcl.2⟩
    · simp only [List.all_eq_true, decide_eq_true_eq] at hall
      exact absurd (hall c hc) hl
  · next hall =>
    rcases hverdict with ⟨h1, -⟩ | ⟨hcyc, -⟩
    · simp only [List.all_eq_true, decide_eq_true_eq] at hall
      exact absurd h1 hall
    · exact Or.inr ⟨⟨_, rfl⟩, hcyc⟩

/-- **`topo.Sort` fails exactly on the graphs with a cycle**, whatever the
    order of its maps. -/
theorem sort_ok_iff {w : View} (hw : View.Of g w) : (∃ l, sort w = .ok l) ↔ ¬ g.HasCycle := by
  rcases sort_spec hw with ⟨l, hl, htopo⟩ | ⟨⟨e, he⟩, hcyc⟩
  · exact ⟨fun _ => htopo.acyclic, fun _ => ⟨l, hl⟩⟩
  · simp [he, hcyc]

/-- The graph of one edge `0 → 1`, in the order of its own maps. -/
theorem sort_ok_iff_one_edge :
    ∃ g : DirectedGraph, g.nodes = [0, 1] ∧ g.edges = [(0, 1)] ∧ View.Of g g.view ∧
      ((∃ l, sort g.view = .ok l) ↔ ¬ g.HasCycle) :=
  ⟨⟨[0, 1], [(0, 1)], by decide, by decide, by decide, by decide⟩, rfl, rfl, DirectedGraph.view_of _,
    sort_ok_iff (DirectedGraph.view_of _)⟩

end BeadsViewer.Gonum
