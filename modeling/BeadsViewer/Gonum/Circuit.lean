import BeadsViewer.Gonum.Unblock
/-
  beads_viewer formalization — Johnson's invariant for gonum's `circuit`
  (`graph/topo/johnson_cycles.go`): the depth bound `DirectedCyclesIn` is
  modelled with is never reached, and every cycle it returns is elementary.

  * During `circuit(s)`, `Johnson.Inv` holds at every call: the nodes on the
    stack are distinct and blocked; a blocked node off the stack cannot reach
    `s` without passing through the stack (`cut`), and its successors are
    blocked and hold it on their B-lists (`closed`); a node of the stack is
    on no B-list of a node that reaches `s` avoiding the stack below it
    (`cutAt`).  So `unblock` never frees a node of the stack
    (`Inv.pop_found`), and `circuit` only enters a node that is not on it.
  * The stack is then a simple path of nodes of the graph: it is never deeper
    than the graph has nodes (`circuit_spec`), and a cycle recorded, the
    stack closed by `s`, repeats no node but `s`.
  * `directedCyclesIn_depth`: a larger depth bound gives the same cycles;
    `directedCyclesIn_elementary`: each cycle repeats no node but its first.
-/

namespace BeadsViewer.Gonum

/-! ## Walks that avoid the stack -/

/-- A walk of `adj` from a node to `s` whose nodes before `s` are not in `T`. -/
inductive ReachAvoid (adj : JohnsonGraph) (s : Nat) (T : List Nat) : Nat → Prop
  | here : ReachAvoid adj s T s
  | step {u w : Nat} : u ∉ T → w ∈ adj.succ u → ReachAvoid adj s T w → ReachAvoid adj s T u

namespace ReachAvoid
variable {adj : JohnsonGraph} {s : Nat} {T T' : List Nat} {u : Nat}

/-- Avoiding fewer nodes leaves more walks. -/
theorem of_subset (h : ReachAvoid adj s T u) (hT : ∀ x ∈ T', x ∈ T) : ReachAvoid adj s T' u := by
  induction h with
  | here => exact .here
  | step hu hw _ ih => exact .step (fun h => hu (hT _ h)) hw ih

/-- From inside `T`, only `s` itself reaches `s`. -/
theorem eq_of_mem (h : ReachAvoid adj s T u) (hu : u ∈ T) : u = s := by
  cases h with
  | here => rfl
  | step hu' _ _ => exact absurd hu hu'

/-- A node other than `s` that reaches `s` has a successor. -/
theorem succ_ne_nil (h : ReachAvoid adj s T u) (hs : u ≠ s) : adj.succ u ≠ [] := by
  cases h with
  | here => exact absurd rfl hs
  | step _ hw _ => exact List.ne_nil_of_mem hw

/-- A walk that avoids `T` also avoids `v`, when no successor of `v` reaches
    `s` avoiding `T ++ [v]`: a walk through `v` would leave it by one. -/
theorem append_of_succ (h : ReachAvoid adj s T u) {v : Nat}
    (hv : ∀ w ∈ adj.succ v, ¬ReachAvoid adj s (T ++ [v]) w) : ReachAvoid adj s (T ++ [v]) u := by
  induction h with
  | here => exact .here
  | @step u w hu hw _ ih =>
    by_cases huv : u = v
    · subst huv; exact absurd ih (hv w hw)
    · exact .step (by simp [hu, huv]) hw ih

/-- A node other than `s` none of whose successors reaches `s` avoiding
    `T ++ [v]` does not reach `s` avoiding `T`. -/
theorem not_of_succ {v : Nat} (hv : ∀ w ∈ adj.succ v, ¬ReachAvoid adj s (T ++ [v]) w) (hvs : v ≠ s) :
    ¬ReachAvoid adj s T v := fun h =>
  hvs ((h.append_of_succ hv).eq_of_mem (List.mem_append_right _ (List.mem_singleton_self v)))

end ReachAvoid

/-! ## Adding to the B-lists -/

theorem mem_addB_b {j : Johnson} {v w y x : Nat} :
    x ∈ (j.addB v w).b y ↔ x ∈ j.b y ∨ x = v ∧ y = w := by
  by_cases hy : y = w
  · subst hy
    by_cases hv : v ∈ j.b y
    · simp only [Johnson.addB, hv, if_true, Function.update_same, and_true]
      exact ⟨.inl, fun h => h.elim id fun e => e ▸ hv⟩
    · simp [Johnson.addB, hv]
  · simp [Johnson.addB, Function.update_noteq hy, hy]

theorem foldl_addB_blocked (v : Nat) (ws : List Nat) (j : Johnson) :
    (ws.foldl (fun j w => j.addB v w) j).blocked = j.blocked :=
  List.foldlRecOn (motive := fun j' : Johnson => j'.blocked = j.blocked) _ _ _ rfl fun _ h _ _ => h

theorem mem_foldl_addB_b (v : Nat) : ∀ (ws : List Nat) (j : Johnson) (y x : Nat),
    x ∈ (ws.foldl (fun j w => j.addB v w) j).b y ↔ x ∈ j.b y ∨ x = v ∧ y ∈ ws
  | [], _, _, _ => by simp
  | w :: ws, j, y, x => by
    rw [List.foldl_cons, mem_foldl_addB_b v ws, mem_addB_b, List.mem_cons, and_or_left, or_assoc]

/-! ## Johnson's invariant -/

section
variable (adj : JohnsonGraph) (s : Nat) (U : List Nat)

/-- Johnson's invariant of a state during `circuit(s)` in `adj`, with the
    nodes of the graph `U`. -/
structure Johnson.Inv (j : Johnson) : Prop where
  blocked_mem : ∀ x, j.blocked x = true → x ∈ U
  stack_blocked : ∀ x ∈ j.stack, j.blocked x = true
  stack_nodup : j.stack.Nodup
  /-- An entry `x` of the B-list of a node `y` with successors is a
      predecessor of `y`, and `y` is blocked and not `s`. -/
  entry : ∀ y x, adj.succ y ≠ [] → x ∈ j.b y → j.blocked y = true ∧ y ≠ s ∧ y ∈ adj.succ x
  closed : ∀ z, j.blocked z = true → z ∉ j.stack → ∀ w ∈ adj.succ z, j.blocked w = true ∧ z ∈ j.b w
  cut : ∀ z, j.blocked z = true → z ∉ j.stack → ¬ReachAvoid adj s j.stack z
  cutAt : ∀ T x, T ++ [x] <+: j.stack → ∀ y, adj.succ y ≠ [] → x ∈ j.b y → ¬ReachAvoid adj s T y
  elem : ∀ c ∈ j.result, c.dropLast.Nodup ∧ ∀ x ∈ c, x ∈ U

end

section
variable {adj : JohnsonGraph} {s : Nat} {U : List Nat}

/-- The state `circuit(s)` starts from: the stack empty, and no node with
    successors blocked or holding a B-list. -/
theorem Johnson.Inv.start {j : Johnson} (hs : adj.succ s ≠ []) (hst : j.stack = [])
    (hmem : ∀ x, j.blocked x = true → x ∈ U) (helem : ∀ c ∈ j.result, c.dropLast.Nodup ∧ ∀ x ∈ c, x ∈ U)
    (hfresh : ∀ y, adj.succ y ≠ [] → j.blocked y = false ∧ j.b y = []) : j.Inv adj s U := by
  have hdead : ∀ z, j.blocked z = true → adj.succ z = [] := fun z hz => by
    by_contra hz'; simp [(hfresh z hz').1] at hz
  refine ⟨hmem, by simp [hst], by simp [hst], fun y x hy hx => ?_, fun z hz _ w hw => ?_,
    fun z hz _ hr => ?_, fun T x hT => ?_, helem⟩
  · simp [(hfresh y hy).2] at hx
  · simp [hdead z hz] at hw
  · have hzs : z ≠ s := fun e => hs (e ▸ hdead z hz)
    exact hr.succ_ne_nil hzs (hdead z hz)
  · simp [hst] at hT

/-- Entering `v`, a node not blocked: it is pushed and blocked. -/
theorem Johnson.Inv.push {j : Johnson} (h : j.Inv adj s U) {v : Nat} (hv : j.blocked v = false)
    (hvU : v ∈ U) :
    ({ j with stack := j.stack ++ [v], blocked := Function.update j.blocked v true,
              tick := j.tick + 1 } : Johnson).Inv adj s U := by
  have hvT : v ∉ j.stack := fun hm => by simp [h.stack_blocked v hm] at hv
  have hbl : ∀ x, Function.update j.blocked v true x = true ↔ x = v ∨ j.blocked x = true := fun x => by
    by_cases hx : x = v <;> simp [Function.update_apply, hx]
  refine ⟨fun x hx => ?_, fun x hx => (hbl x).2 ?_, ?_, fun y x hy hx => ?_, fun z hz hzT w hw => ?_,
    fun z hz hzT hr => ?_, fun T x hT y hy hx => ?_, h.elem⟩
  · rcases (hbl x).1 hx with rfl | hx
    exacts [hvU, h.blocked_mem x hx]
  · rcases List.mem_append.1 hx with hx | hx
    exacts [.inr (h.stack_blocked x hx), .inl (List.mem_singleton.1 hx)]
  · exact List.nodup_append.2 ⟨h.stack_nodup, List.nodup_singleton v, List.disjoint_singleton.2 hvT⟩
  · obtain ⟨h₁, h₂⟩ := h.entry y x hy hx
    exact ⟨(hbl y).2 (.inr h₁), h₂⟩
  · simp only [List.mem_append, List.mem_singleton, not_or] at hzT
    obtain ⟨h₁, h₂⟩ := h.closed z (((hbl z).1 hz).resolve_left hzT.2) hzT.1 w hw
    exact ⟨(hbl w).2 (.inr h₁), h₂⟩
  · simp only [List.mem_append, List.mem_singleton, not_or] at hzT
    exact h.cut z (((hbl z).1 hz).resolve_left hzT.2) hzT.1
      (hr.of_subset fun x hx => List.mem_append_left _ hx)
  · rcases List.prefix_concat_iff.1 hT with e | hT
    · obtain ⟨rfl, e⟩ := List.append_inj' e rfl
      obtain rfl : x = v := by simpa using e
      obtain ⟨hyb, hys, -⟩ := h.entry y x hy hx
      by_cases hyT : y ∈ j.stack
      · exact fun hr => hys (hr.eq_of_mem hyT)
      · exact h.cut y hyb hyT
    · exact h.cutAt T x hT y hy hx

/-- Recording the cycle the stack closes, the stack holding `s`, keeps the
    invariant: the cycle repeats no node but `s`. -/
theorem Johnson.Inv.record {j : Johnson} (h : j.Inv adj s U) (hs : s ∈ j.stack) :
    ({ j with result := j.result ++ [j.stack ++ [s]] } : Johnson).Inv adj s U :=
  { h with
    elem := fun c hc => by
      rcases List.mem_append.1 hc with hc | hc
      · exact h.elem c hc
      · rw [List.mem_singleton.1 hc, List.dropLast_concat]
        refine ⟨h.stack_nodup, fun x hx => h.blocked_mem x (h.stack_blocked x ?_)⟩
        rcases List.mem_append.1 hx with hx | hx
        exacts [hx, (List.mem_singleton.1 hx).symm ▸ hs] }

/-! ## Leaving a node -/

/-- Leaving `v` when its loop found no cycle: the B-lists gained `v` at each
    successor (`hb`), every successor blocked and not reaching `s` avoiding
    the stack. -/
theorem Johnson.Inv.pop_none {j₂ j₃ : Johnson} (h : j₂.Inv adj s U) {T : List Nat} {v : Nat}
    (hT : j₂.stack = T ++ [v]) (hsT : s ∈ T)
    (hws : ∀ w ∈ adj.succ v, j₂.blocked w = true ∧ ¬ReachAvoid adj s (T ++ [v]) w)
    (hbl : j₃.blocked = j₂.blocked) (hst : j₃.stack = j₂.stack) (hres : j₃.result = j₂.result)
    (hb : ∀ y x, x ∈ j₃.b y ↔ x ∈ j₂.b y ∨ x = v ∧ y ∈ adj.succ v) :
    ({ j₃ with stack := j₃.stack.dropLast } : Johnson).Inv adj s U := by
  have hnd : (T ++ [v]).Nodup := hT ▸ h.stack_nodup
  have hvT : v ∉ T := List.disjoint_singleton.1 (List.nodup_append.1 hnd).2.2
  have hv : ¬ReachAvoid adj s T v :=
    ReachAvoid.not_of_succ (fun w hw => (hws w hw).2) fun e => hvT (e ▸ hsT)
  have hoff : ∀ z, z ∉ T → z ≠ v → z ∉ j₂.stack := fun z hzT hzv => by simp [hT, hzT, hzv]
  rw [hst, hT, List.dropLast_concat]
  refine ⟨fun x hx => h.blocked_mem x (hbl ▸ hx), fun x hx => hbl ▸ h.stack_blocked x (by simp [hT, hx]),
    (List.nodup_append.1 hnd).1, fun y x hy hx => ?_, fun z hz hzT w hw => ?_, fun z hz hzT => ?_,
    fun T₁ x hpre y hy hx => ?_, hres ▸ h.elem⟩
  · rw [hbl]
    rcases (hb y x).1 hx with hx | ⟨rfl, hyv⟩
    · exact h.entry y x hy hx
    · exact ⟨(hws y hyv).1, fun e => (hws y hyv).2 (e ▸ .here), hyv⟩
  · rw [hbl] at hz ⊢
    by_cases hzv : z = v
    · subst hzv; exact ⟨(hws w hw).1, (hb w z).2 (.inr ⟨rfl, hw⟩)⟩
    · obtain ⟨h₁, h₂⟩ := h.closed z hz (hoff z hzT hzv) w hw
      exact ⟨h₁, (hb w z).2 (.inl h₂)⟩
  · rw [hbl] at hz
    by_cases hzv : z = v
    · exact hzv ▸ hv
    · exact fun hr => h.cut z hz (hoff z hzT hzv)
        (hT ▸ hr.append_of_succ fun w hw => (hws w hw).2)
  · have hxT : x ∈ T := hpre.subset (List.mem_append_right _ (List.mem_singleton_self x))
    rcases (hb y x).1 hx with hx | ⟨rfl, -⟩
    · exact h.cutAt T₁ x (hT ▸ hpre.trans (List.prefix_append T [v])) y hy hx
    · exact absurd hxT hvT

/-- The nodes `unblock(v)` frees, when `v` reaches `s` avoiding the stack
    `T` below it, all reach `s` avoiding `T` and are off it: by `entry` each
    is a predecessor of one freed before, and by `cutAt` not a node of `T`. -/
theorem Johnson.Inv.freed_avoids {j₂ : Johnson} (h : j₂.Inv adj s U) {T : List Nat} {v : Nat}
    (hT : j₂.stack = T ++ [v]) (hv : ReachAvoid adj s T v) (hvl : adj.succ v ≠ []) (hvT : v ∉ T)
    {z : Nat} (hz : Freed j₂ v z) : z ∉ T ∧ ReachAvoid adj s T z ∧ adj.succ z ≠ [] := by
  induction hz with
  | self => exact ⟨hvT, hv, hvl⟩
  | @next z w _ hw _ ih =>
    obtain ⟨-, hz, hzl⟩ := ih
    obtain ⟨-, -, hzw⟩ := h.entry z w hzl hw
    have hwT : w ∉ T := fun hwT => by
      obtain ⟨T₁, T₂, rfl⟩ := List.append_of_mem hwT
      exact h.cutAt T₁ w (hT ▸ ⟨T₂ ++ [v], by simp⟩) z hzl hw
        (hz.of_subset fun x hx => List.mem_append_left _ hx)
    exact ⟨hwT, .step hwT hzw hz, List.ne_nil_of_mem hzw⟩

/-- A blocked node off the stack that reaches `s` avoiding `T` is freed by
    `unblock(v)`: by `closed`, its walk to `s` is a chain of B-list entries
    that must pass through `v`. -/
theorem Johnson.Inv.unblock_frees {j₂ j₃ : Johnson} (h : j₂.Inv adj s U) (hs : adj.succ s ≠ [])
    {T : List Nat} {v : Nat} (hT : j₂.stack = T ++ [v]) (hsT : s ∈ T) (post : UnblockPost j₂ v j₃)
    {z : Nat} (hz : ReachAvoid adj s T z) : j₂.blocked z = true → z ∉ T ++ [v] → j₃.blocked z = false := by
  induction hz with
  | here => exact fun _ hsv => absurd (List.mem_append_left _ hsT) hsv
  | @step z z₁ _ hz₁ hr ih =>
    intro hzb hzv
    obtain ⟨hb₁, hzb₁⟩ := h.closed z hzb (hT ▸ hzv) z₁ hz₁
    have hfree : z₁ = v ∨ j₂.blocked z₁ = true ∧ j₃.blocked z₁ = false := by
      by_cases hv : z₁ = v
      · exact .inl hv
      by_cases hT₁ : z₁ ∈ T
      · rw [hr.eq_of_mem hT₁] at hzb₁
        exact absurd rfl (h.entry s z hs hzb₁).2.1
      · exact .inr ⟨hb₁, ih hb₁ (by simp [hv, hT₁])⟩
    exact (post.freed z₁ hfree).2 z hzb₁

/-- Leaving `v` when its loop found a cycle, so that `v` reaches `s`
    avoiding the stack `T` below it: after `unblock(v)` the invariant holds
    again, the nodes of `T` still blocked. -/
theorem Johnson.Inv.pop_found {j₂ j₃ : Johnson} (h : j₂.Inv adj s U) (hs : adj.succ s ≠ [])
    {T : List Nat} {v : Nat} (hT : j₂.stack = T ++ [v]) (hsT : s ∈ T) (hv : ReachAvoid adj s T v)
    (hvl : adj.succ v ≠ []) (post : UnblockPost j₂ v j₃) :
    ({ j₃ with stack := j₃.stack.dropLast } : Johnson).Inv adj s U := by
  have hnd : (T ++ [v]).Nodup := hT ▸ h.stack_nodup
  have hvT : v ∉ T := List.disjoint_singleton.1 (List.nodup_append.1 hnd).2.2
  have hne : ∀ z, j₃.blocked z = true → z ≠ v := fun z hz e => by
    rw [e, post.self] at hz; exact absurd hz (by decide)
  have hkept : ∀ z, j₂.blocked z = true → ¬(z = v ∨ j₂.blocked z = true ∧ j₃.blocked z = false) →
      j₃.blocked z = true := fun z hz hn => by
    by_contra hz'; exact hn (.inr ⟨hz, by simpa using hz'⟩)
  rw [post.stack, hT, List.dropLast_concat]
  refine ⟨fun x hx => h.blocked_mem x (post.mono x hx), fun x hx => ?_, (List.nodup_append.1 hnd).1,
    fun y x hy hx => ?_, fun z hz hzT w hw => ?_, fun z hz hzT hr => ?_,
    fun T₁ x hpre y hy hx => ?_, post.result ▸ h.elem⟩
  · refine hkept x (h.stack_blocked x (by simp [hT, hx])) fun hf => ?_
    have hfr : Freed j₂ v x := hf.elim (fun e => e ▸ .self) fun hf => post.reach x hf.1 hf.2
    exact (h.freed_avoids hT hv hvl hvT hfr).1 hx
  · obtain ⟨hyb, hys, hyx⟩ := h.entry y x hy (post.sub y x hx)
    refine ⟨hkept y hyb fun hf => ?_, hys, hyx⟩
    simp [(post.freed y hf).1] at hx
  · have hz₃ : j₃.blocked z = true := hz
    obtain ⟨hw₂, hzw⟩ := h.closed z (post.mono z hz) (by simp [hT, hzT, hne z hz]) w hw
    by_cases hwf : w = v ∨ j₂.blocked w = true ∧ j₃.blocked w = false
    · exact absurd ((post.freed w hwf).2 z hzw) (by simp [hz₃])
    · exact ⟨hkept w hw₂ hwf, (post.frame w hwf).symm ▸ hzw⟩
  · have := h.unblock_frees hs hT hsT post hr (post.mono z hz) (by simp [hzT, hne z hz])
    simp [this] at hz
  · exact h.cutAt T₁ x (hT ▸ hpre.trans (List.prefix_append T [v])) y hy (post.sub y x hx)

end

/-! ## The loop of `circuit` -/

section
variable {rec : Nat → Johnson → Bool × Johnson} {s : Nat} {r : Bool × Johnson} {w : Nat}

theorem circuitStep_start :
    circuitStep rec s r s = (true, { r.2 with result := r.2.result ++ [r.2.stack ++ [s]] }) :=
  if_pos rfl

theorem circuitStep_enter (hws : w ≠ s) (hb : r.2.blocked w = false) :
    circuitStep rec s r w = (r.1 || (rec w r.2).1, (rec w r.2).2) := by
  simp [circuitStep, hws, hb]

theorem circuitStep_skip (hws : w ≠ s) (hb : r.2.blocked w = true) : circuitStep rec s r w = r := by
  simp [circuitStep, hws, hb]

end

section
variable (o : CycleOrder) (adj : JohnsonGraph) (s : Nat) (U : List Nat)

/-- Where the loop of `circuit(v)` over the successors stands after the
    successors `p`, from `j₁`, the state with `v` pushed: `f` set only if a
    successor reaches `s` avoiding the stack, and if not, nothing unblocked
    and each successor done blocked and not reaching `s`. -/
structure CircuitLoop (j₁ : Johnson) (v : Nat) (p : List Nat) (r : Bool × Johnson) : Prop where
  inv : r.2.Inv adj s U
  stack : r.2.stack = j₁.stack
  found : r.1 = true → ∃ w ∈ adj.succ v, ReachAvoid adj s j₁.stack w
  mono : r.1 = false → ∀ x, j₁.blocked x = true → r.2.blocked x = true
  none : r.1 = false → ∀ w ∈ p, r.2.blocked w = true ∧ ¬ReachAvoid adj s j₁.stack w

/-- What `circuit(v)` from `j` returns: the invariant and the stack kept; `f`
    set only if `v` reaches `s` avoiding the stack, and if not, nothing
    unblocked and `v` left blocked. -/
structure CircuitPost (j : Johnson) (v : Nat) (r : Bool × Johnson) : Prop where
  inv : r.2.Inv adj s U
  stack : r.2.stack = j.stack
  found : r.1 = true → ReachAvoid adj s j.stack v
  mono : r.1 = false → ∀ x, j.blocked x = true → r.2.blocked x = true
  none : r.1 = false → r.2.blocked v = true ∧ ¬ReachAvoid adj s j.stack v

/-- `circuit(v)` at depth `F`, called with `s` on the stack and room on it
    for `F` more nodes of `U`: any larger depth, for `circuit` and for
    `unblock` (given `U.length`), returns the same, and it is `CircuitPost`. -/
def CircuitSpec (F : Nat) : Prop :=
  ∀ v j, j.Inv adj s U → s ∈ j.stack → j.blocked v = false → v ∈ U → U.length ≤ j.stack.length + F →
    (∀ n fuel, U.length ≤ n → F ≤ fuel → circuit o adj s n fuel v j = circuit o adj s U.length F v j) ∧
      CircuitPost adj s U j v (circuit o adj s U.length F v j)

/-- A state between two calls of `circuit` from `DirectedCyclesIn`'s loop:
    the stack empty, every blocked node in `U`, and every cycle recorded
    elementary, of nodes of `U`. -/
structure Johnson.Idle (j : Johnson) : Prop where
  stack : j.stack = []
  blocked_mem : ∀ x, j.blocked x = true → x ∈ U
  elem : ∀ c ∈ j.result, c.dropLast.Nodup ∧ ∀ x ∈ c, x ∈ U

end

section
variable {o : CycleOrder} {adj : JohnsonGraph} {s : Nat} {U : List Nat}

theorem update_blocked_of {b : Nat → Bool} {x : Nat} (h : b x = true) (v : Nat) :
    Function.update b v true x = true := by
  by_cases hx : x = v <;> simp [Function.update_apply, hx, h]

/-- The loop of `circuit(v)` starts from the state with `v` pushed. -/
theorem circuitLoop_start {j : Johnson} (h : j.Inv adj s U) {v : Nat} (hv : j.blocked v = false)
    (hvU : v ∈ U) :
    CircuitLoop adj s U { j with stack := j.stack ++ [v], blocked := Function.update j.blocked v true,
                                 tick := j.tick + 1 } v []
      (false, { j with stack := j.stack ++ [v], blocked := Function.update j.blocked v true,
                       tick := j.tick + 1 }) :=
  ⟨h.push hv hvU, rfl, nofun, fun _ _ => id, fun _ _ hw => absurd hw (List.not_mem_nil _)⟩

/-- One turn of the loop of `circuit(v)`, for the successor `w`, keeps
    `CircuitLoop`, at every larger depth. -/
theorem circuitLoop_step {F : Nat} (IH : CircuitSpec o adj s U F) (hsucc : ∀ u w, w ∈ adj.succ u → w ∈ U)
    {j₁ : Johnson} {v : Nat} (hs₁ : s ∈ j₁.stack) (hlen : U.length ≤ j₁.stack.length + F)
    (n fuel : Nat) (hn : U.length ≤ n) (hfuel : F ≤ fuel) {p : List Nat} {r : Bool × Johnson}
    (h : CircuitLoop adj s U j₁ v p r) {w : Nat} (hw : w ∈ adj.succ v) :
    circuitStep (circuit o adj s n fuel) s r w = circuitStep (circuit o adj s U.length F) s r w ∧
      CircuitLoop adj s U j₁ v (p ++ [w]) (circuitStep (circuit o adj s U.length F) s r w) := by
  by_cases hws : w = s
  · subst hws
    rw [circuitStep_start, circuitStep_start]
    exact ⟨rfl, h.inv.record (h.stack ▸ hs₁), h.stack, fun _ => ⟨w, hw, .here⟩,
      nofun, nofun⟩
  by_cases hb : r.2.blocked w = true
  · rw [circuitStep_skip hws hb, circuitStep_skip hws hb]
    refine ⟨rfl, h.inv, h.stack, h.found, h.mono, fun hr w' hw' => ?_⟩
    rcases List.mem_append.1 hw' with hw' | hw'
    · exact h.none hr w' hw'
    rw [List.mem_singleton.1 hw', ← h.stack]
    refine ⟨hb, fun hra => ?_⟩
    by_cases hwT : w ∈ r.2.stack
    · exact hws (hra.eq_of_mem hwT)
    · exact h.inv.cut w hb hwT hra
  have hb' : r.2.blocked w = false := Bool.eq_false_iff.2 hb
  obtain ⟨e, post⟩ := IH w r.2 h.inv (h.stack ▸ hs₁) hb' (hsucc v w hw) (by rw [h.stack]; omega)
  rw [circuitStep_enter hws hb', circuitStep_enter hws hb', e n fuel hn hfuel]
  refine ⟨rfl, post.inv, post.stack.trans h.stack, fun hr => ?_, fun hr x hx => ?_, fun hr w' hw' => ?_⟩
  · rcases Bool.or_eq_true_iff.1 hr with hr | hr
    · exact h.found hr
    · exact ⟨w, hw, h.stack ▸ post.found hr⟩
  · rw [Bool.or_eq_false_iff] at hr
    exact post.mono hr.2 x (h.mono hr.1 x hx)
  · rw [Bool.or_eq_false_iff] at hr
    rcases List.mem_append.1 hw' with hw' | hw'
    · obtain ⟨h₁, h₂⟩ := h.none hr.1 w' hw'
      exact ⟨post.mono hr.2 w' h₁, h₂⟩
    · rw [List.mem_singleton.1 hw']
      exact ⟨(post.none hr.2).1, h.stack ▸ (post.none hr.2).2⟩

/-- The loop of `circuit(v)` over successors `ws`. -/
theorem circuitLoop_foldl {F : Nat} (IH : CircuitSpec o adj s U F) (hsucc : ∀ u w, w ∈ adj.succ u → w ∈ U)
    {j₁ : Johnson} {v : Nat} (hs₁ : s ∈ j₁.stack) (hlen : U.length ≤ j₁.stack.length + F)
    (n fuel : Nat) (hn : U.length ≤ n) (hfuel : F ≤ fuel) :
    ∀ ws : List Nat, (∀ w ∈ ws, w ∈ adj.succ v) → ∀ {p : List Nat} {r : Bool × Johnson},
      CircuitLoop adj s U j₁ v p r →
        ws.foldl (circuitStep (circuit o adj s n fuel) s) r =
            ws.foldl (circuitStep (circuit o adj s U.length F) s) r ∧
          CircuitLoop adj s U j₁ v (p ++ ws) (ws.foldl (circuitStep (circuit o adj s U.length F) s) r)
  | [], _, _, _, h => ⟨rfl, by simpa using h⟩
  | w :: ws, hws, p, r, h => by
    obtain ⟨e, h'⟩ := circuitLoop_step IH hsucc hs₁ hlen n fuel hn hfuel h (hws w (List.mem_cons_self _ _))
    obtain ⟨e', h''⟩ := circuitLoop_foldl IH hsucc hs₁ hlen n fuel hn hfuel ws
      (fun w hw => hws w (List.mem_cons_of_mem _ hw)) h'
    simp only [List.foldl_cons, e]
    exact ⟨e', by simpa using h''⟩

variable (ho : ∀ k l, List.Perm (o.choose k l) l)
include ho

/-- The end of `circuit(v)`: after the loop, `unblock(v)` if it found a
    cycle, else `v` put on the successors' B-lists; then `v` is popped. -/
theorem circuitPost_of_loop (hU : U.Nodup) (hs : adj.succ s ≠ []) {j : Johnson} (hsT : s ∈ j.stack)
    {v : Nat} {r : Bool × Johnson}
    (L : CircuitLoop adj s U { j with stack := j.stack ++ [v], blocked := Function.update j.blocked v true,
                                      tick := j.tick + 1 } v (o.choose j.tick (adj.succ v)) r) :
    CircuitPost adj s U j v (r.1,
      let j' := if r.1 then unblock o U.length v r.2 else (adj.succ v).foldl (fun j w => j.addB v w) r.2
      { j' with stack := j'.stack.dropLast }) := by
  have hT : r.2.stack = j.stack ++ [v] := L.stack
  have hvT : v ∉ j.stack :=
    List.disjoint_singleton.1 (List.nodup_append.1 (hT ▸ L.inv.stack_nodup)).2.2
  have hvb : r.2.blocked v = true := L.inv.stack_blocked v (by simp [hT])
  cases hr : r.1
  · have hws : ∀ w ∈ adj.succ v, r.2.blocked w = true ∧ ¬ReachAvoid adj s (j.stack ++ [v]) w :=
      fun w hw => L.none hr w ((ho _ _).mem_iff.2 hw)
    have hbl := foldl_addB_blocked v (adj.succ v) r.2
    have hsr := foldl_addB_stack_result v (adj.succ v) r.2
    simp only [Bool.false_eq_true, if_false]
    refine ⟨L.inv.pop_none hT hsT hws hbl hsr.1 hsr.2 (mem_foldl_addB_b v _ r.2),
      by simp [hsr.1, hT], nofun, fun _ x hx => ?_, fun _ => ⟨?_, ?_⟩⟩
    · simp only [hbl]; exact L.mono hr x (update_blocked_of hx v)
    · simp only [hbl]; exact hvb
    · exact ReachAvoid.not_of_succ (fun w hw => (hws w hw).2) fun e => hvT (e ▸ hsT)
  · obtain ⟨w, hw, hrw⟩ := L.found hr
    have hreach : ReachAvoid adj s j.stack v :=
      .step hvT hw (hrw.of_subset fun x hx => List.mem_append_left _ hx)
    have post := (unblock_spec o ho hU U.length v r.2 L.inv.blocked_mem hvb (List.countP_le_length _)).2
    simp only [if_true]
    exact ⟨L.inv.pop_found hs hT hsT hreach (List.ne_nil_of_mem hw) post, by simp [post.stack, hT],
      fun _ => hreach, nofun, nofun⟩

/-- **`circuit` stays within the depth.**  From a state with `s` on the
    stack, a depth of `F` with room for `F` more nodes on the stack is never
    reached: `U` has no more nodes than the stack, a simple path of them. -/
theorem circuit_spec (hU : U.Nodup) (hs : adj.succ s ≠ []) (hsucc : ∀ u w, w ∈ adj.succ u → w ∈ U) :
    ∀ F, CircuitSpec o adj s U F
  | 0 => fun v j h _ hv hvU hlen => by
    have h₁ := h.push hv hvU
    have := (List.subperm_of_subset h₁.stack_nodup fun x hx =>
      h₁.blocked_mem x (h₁.stack_blocked x hx)).length_le
    simp only [List.length_append, List.length_singleton] at this
    omega
  | F + 1 => fun v j h hsT hv hvU hlen => by
    have hws : ∀ w ∈ o.choose j.tick (adj.succ v), w ∈ adj.succ v := fun w hw => (ho _ _).subset hw
    have hloop := fun n fuel hn hfuel => circuitLoop_foldl (circuit_spec hU hs hsucc F) hsucc
      (by simp [hsT]) (by simp only [List.length_append, List.length_singleton]; omega) n fuel hn hfuel
      _ hws (circuitLoop_start h hv hvU)
    obtain ⟨-, L⟩ := hloop U.length F le_rfl le_rfl
    simp only [List.nil_append] at L
    refine ⟨fun n fuel hn hfuel => ?_, circuitPost_of_loop ho hU hs hsT L⟩
    obtain ⟨fuel, rfl⟩ : ∃ f, fuel = f + 1 := ⟨fuel - 1, by omega⟩
    have hunb := (unblock_spec o ho hU U.length v _ L.inv.blocked_mem
      (L.inv.stack_blocked v (by simp [L.stack])) (List.countP_le_length _)).1 (n - U.length)
    rw [Nat.add_sub_cancel' hn] at hunb
    simp only [circuit, (hloop n fuel hn (by omega)).1, hunb]

/-- The end of the top call `circuit(s)`, its stack `[s]`: an idle state. -/
theorem idle_of_loop (hU : U.Nodup) {j : Johnson} (hst : j.stack = []) {r : Bool × Johnson}
    (L : CircuitLoop adj s U { j with stack := j.stack ++ [s], blocked := Function.update j.blocked s true,
                                      tick := j.tick + 1 } s (o.choose j.tick (adj.succ s)) r) :
    Johnson.Idle U (let j' := if r.1 then unblock o U.length s r.2
        else (adj.succ s).foldl (fun j w => j.addB s w) r.2
      { j' with stack := j'.stack.dropLast }) := by
  have hT : r.2.stack = [s] := by rw [L.stack, hst]; rfl
  cases r.1
  · have hsr := foldl_addB_stack_result s (adj.succ s) r.2
    refine ⟨by simp [hsr.1, hT], fun x hx => L.inv.blocked_mem x ?_, fun c hc => L.inv.elem c ?_⟩
    · simpa [foldl_addB_blocked] using hx
    · simpa [hsr.2] using hc
  · have post := (unblock_spec o ho hU U.length s r.2 L.inv.blocked_mem
      (L.inv.stack_blocked s (by simp [hT])) (List.countP_le_length _)).2
    exact ⟨by simp [post.stack, hT], fun x hx => L.inv.blocked_mem x (post.mono x hx),
      fun c hc => L.inv.elem c (post.result ▸ hc)⟩

/-- **The top call.**  `circuit(s)` from an idle state in which no node with
    successors is blocked or holds a B-list returns the same at every depth
    of at least the number of nodes, an idle state. -/
theorem circuit_top (hU : U.Nodup) (hsucc : ∀ u w, w ∈ adj.succ u → w ∈ U) (hsU : s ∈ U)
    {j : Johnson} (hj : j.Idle U) (hfresh : ∀ y, adj.succ y ≠ [] → j.blocked y = false ∧ j.b y = []) :
    ∃ res : Bool × Johnson,
      (∀ n fuel, U.length ≤ n → U.length ≤ fuel → circuit o adj s n fuel s j = res) ∧ res.2.Idle U := by
  obtain ⟨F, hF⟩ : ∃ F, U.length = F + 1 := ⟨U.length - 1, by have := List.length_pos_of_mem hsU; omega⟩
  by_cases hs : adj.succ s = []
  · -- no successor: `s` is pushed and popped
    have hnil : ∀ k, o.choose k [] = [] := fun k => List.Perm.eq_nil (ho k [])
    refine ⟨(false, { j with blocked := Function.update j.blocked s true, tick := j.tick + 1 }),
      fun n fuel _ hfuel => ?_, ⟨hj.stack, fun x hx => ?_, hj.elem⟩⟩
    · obtain ⟨fuel, rfl⟩ : ∃ f, fuel = f + 1 := ⟨fuel - 1, by omega⟩
      simp [circuit, hnil, hs, hj.stack]
    · by_cases hx' : x = s
      · exact hx' ▸ hsU
      · exact hj.blocked_mem x (by simpa [Function.update_noteq hx'] using hx)
  · have h := Johnson.Inv.start hs hj.stack hj.blocked_mem hj.elem hfresh
    have hws : ∀ w ∈ o.choose j.tick (adj.succ s), w ∈ adj.succ s := fun w hw => (ho _ _).subset hw
    have hloop := fun n fuel hn hfuel => circuitLoop_foldl (circuit_spec ho hU hs hsucc F) hsucc
      (by simp [hj.stack]) (by simp only [hj.stack, List.nil_append, List.length_singleton, hF]; omega)
      n fuel hn hfuel _ hws
      (circuitLoop_start h (hfresh s hs).1 hsU)
    obtain ⟨-, L⟩ := hloop U.length F (by omega) le_rfl
    simp only [List.nil_append] at L
    refine ⟨circuit o adj s U.length (F + 1) s j, fun n fuel hn hfuel => ?_,
      idle_of_loop ho hU hj.stack L⟩
    obtain ⟨fuel, rfl⟩ : ∃ f, fuel = f + 1 := ⟨fuel - 1, by omega⟩
    have hunb := (unblock_spec o ho hU U.length s _ L.inv.blocked_mem
      (L.inv.stack_blocked s (by simp [L.stack])) (List.countP_le_length _)).1 (n - U.length)
    rw [Nat.add_sub_cancel' hn] at hunb
    simp only [circuit, (hloop n fuel hn (by omega)).1, hunb]

end

/-! ## `DirectedCyclesIn` -/

/-- A node with a successor in `sccSubGraph` is one of its nodes. -/
theorem JohnsonGraph.mem_sccSubGraph_nodes (j : JohnsonGraph) (sccs : List (List Nat)) {y : Nat}
    (hy : (j.sccSubGraph sccs).succ y ≠ []) : y ∈ (j.sccSubGraph sccs).nodes := by
  obtain ⟨w, hw⟩ := List.exists_mem_of_ne_nil _ hy
  have hw' := hw
  simp only [JohnsonGraph.sccSubGraph, List.mem_filter, decide_eq_true_eq] at hw'
  obtain ⟨c, hc, hyc, -⟩ := hw'.2
  simp only [JohnsonGraph.sccSubGraph, List.mem_filter, List.mem_flatten, decide_eq_true_eq] at hy ⊢
  exact ⟨⟨c, hc, hyc⟩, .inl hy⟩

/-- `Reset` leaves no node with successors blocked or holding a B-list. -/
theorem Johnson.reset_fresh (j : Johnson) {adj : JohnsonGraph}
    (hlive : ∀ y, adj.succ y ≠ [] → y ∈ adj.nodes) :
    ∀ y, adj.succ y ≠ [] → (j.reset adj).blocked y = false ∧ (j.reset adj).b y = [] := fun y hy => by
  simp [Johnson.reset, hlive y hy, hy]

theorem Johnson.Idle.reset {U : List Nat} {j : Johnson} (hj : j.Idle U) (adj : JohnsonGraph) :
    (j.reset adj).Idle U := by
  refine ⟨hj.stack, fun x hx => hj.blocked_mem x ?_, hj.elem⟩
  simp only [Johnson.reset] at hx
  split at hx
  · exact absurd hx (by decide)
  · exact hx

theorem byID_perm (ns : List Nat) : List.Perm (byID ns) ns := insertionSort_perm _ _

theorem EdgesOf.succ_mem {g : DirectedGraph} {adj : JohnsonGraph} (h : EdgesOf g adj) {u w : Nat}
    (hw : w ∈ adj.succ u) : w ∈ byID g.nodes :=
  (byID_perm _).mem_iff.2 (g.edges_mem _ (h u w hw)).2

theorem Johnson.idle_init {U : List Nat} : Johnson.init.Idle U :=
  ⟨rfl, fun _ h => by simp [Johnson.init] at h, fun _ h => by simp [Johnson.init] at h⟩

section
variable {o : CycleOrder} (ho : ∀ k l, List.Perm (o.choose k l) l) {g : DirectedGraph}
include ho

/-- The loop of `DirectedCyclesIn`, with the depth bound `depth` larger than
    the number of nodes by `k`: the same states, all idle. -/
theorem cyclesLoop_depth (k : Nat) :
    ∀ fuel i adj j, EdgesOf g adj → j.Idle (byID g.nodes) →
      cyclesLoop o (byID g.nodes) ((byID g.nodes).length + k) fuel i adj j =
          cyclesLoop o (byID g.nodes) (byID g.nodes).length fuel i adj j ∧
        (cyclesLoop o (byID g.nodes) (byID g.nodes).length fuel i adj j).Idle (byID g.nodes)
  | 0, _, _, _, _, hj => ⟨rfl, hj⟩
  | fuel + 1, i, adj, j, hadj, hj => by
    have hU : (byID g.nodes).Nodup := (byID_perm _).nodup_iff.2 g.nodes_nodup
    simp only [cyclesLoop]
    split
    · next hi =>
      split
      · exact ⟨rfl, hj.stack, hj.blocked_mem, hj.elem⟩
      · set adj' := (adj.subgraph ((byID g.nodes).getD i 0)).sccSubGraph
          ((tarjanSCC (o.view j.tick (adj.subgraph ((byID g.nodes).getD i 0)))).getD [])
        have hadj' : EdgesOf g adj' := (hadj.subgraph _).sccSubGraph _
        have hsU : (byID g.nodes).getD (min i (leastVertexIndex (byID g.nodes) adj')) 0 ∈ byID g.nodes := by
          rw [List.getD_eq_getElem?_getD, List.getElem?_eq_getElem (by omega), Option.getD_some]
          exact List.getElem_mem _
        obtain ⟨res, hres, hidle⟩ := circuit_top ho hU (fun _ _ => hadj'.succ_mem) hsU
          ((show ({ j with tick := j.tick + 1 } : Johnson).Idle (byID g.nodes) from
            ⟨hj.stack, hj.blocked_mem, hj.elem⟩).reset adj')
          (Johnson.reset_fresh _ fun _ => JohnsonGraph.mem_sccSubGraph_nodes _ _)
        rw [hres _ _ (by omega) (by omega), hres _ _ le_rfl le_rfl]
        exact cyclesLoop_depth k fuel _ _ _ hadj' hidle
    · exact ⟨rfl, hj⟩

/-- **Depth.**  On every graph and every order of the sets it ranges over,
    `DirectedCyclesIn` returns the same cycles with any larger depth bound:
    the recursion of `circuit` and `unblock`, bounded by the number of nodes,
    is never cut short. -/
theorem directedCyclesIn_depth (g : DirectedGraph) (k : Nat) :
    (cyclesLoop o (byID g.nodes) ((byID g.nodes).length + k) (byID g.nodes).length 0
      (johnsonGraphFrom g) Johnson.init).result = directedCyclesIn o g :=
  congrArg Johnson.result (cyclesLoop_depth ho k _ _ _ _ (edgesOf_johnsonGraphFrom g) Johnson.idle_init).1

/-- **Elementary cycles.**  On every graph and every order of the sets it
    ranges over, every cycle `DirectedCyclesIn` returns is a list of nodes of
    the graph that repeats no node but its first, which closes it. -/
theorem directedCyclesIn_elementary (g : DirectedGraph) :
    ∀ c ∈ directedCyclesIn o g, c.dropLast.Nodup ∧ ∀ x ∈ c, x ∈ g.nodes := fun c hc =>
  have h := (cyclesLoop_depth ho 0 _ _ _ _ (edgesOf_johnsonGraphFrom g) Johnson.idle_init).2.elem c hc
  ⟨h.1, fun x hx => (byID_perm _).subset (h.2 x hx)⟩

end

/-- The two-node cycle `0 → 1 → 0`, its sets ranged over in list order, with
    one more level of depth. -/
theorem directedCyclesIn_depth_two :
    ∃ g : DirectedGraph, g.nodes = [0, 1] ∧ g.edges = [(0, 1), (1, 0)] ∧
      (∀ k l, List.Perm (CycleOrder.listed.choose k l) l) ∧
      (cyclesLoop CycleOrder.listed (byID g.nodes) ((byID g.nodes).length + 1) (byID g.nodes).length 0
        (johnsonGraphFrom g) Johnson.init).result = directedCyclesIn CycleOrder.listed g :=
  ⟨⟨[0, 1], [(0, 1), (1, 0)], by decide, by decide, by decide, by decide⟩, rfl, rfl,
    fun _ _ => List.Perm.refl _, directedCyclesIn_depth (fun _ _ => List.Perm.refl _) _ 1⟩

end BeadsViewer.Gonum
