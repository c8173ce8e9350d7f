import BeadsViewer.Gonum.Johnson
/-
  beads_viewer formalization — how deep gonum's `unblock`
  (`graph/topo/johnson_cycles.go`) recurses.

  `unblock(u)` frees `u` and every blocked node whose B-list chain leads to
  `u` (`Freed`), and empties their B-lists (`UnblockPost`).  It only recurses
  into a blocked node, which it frees first, so a depth bound of the number
  of blocked nodes is never reached (`unblock_spec`).
-/

namespace BeadsViewer.Gonum

/-! ## What `unblock` frees -/

/-- The nodes `unblock(u)` frees from `j`: `u`, and each blocked node on the
    B-list of a node it frees. -/
inductive Freed (j : Johnson) (u : Nat) : Nat → Prop
  | self : Freed j u u
  | next {z w : Nat} : Freed j u z → w ∈ j.b z → j.blocked w = true → Freed j u w

theorem Freed.trans {j : Johnson} {u w z : Nat} (h₁ : Freed j u w) (h₂ : Freed j w z) :
    Freed j u z := by
  induction h₂ with
  | self => exact h₁
  | next _ hb hbl ih => exact .next ih hb hbl

/-- A state with fewer entries and fewer blocks frees fewer nodes. -/
theorem Freed.mono {j j' : Johnson} {u z : Nat} (h : Freed j' u z)
    (hb : ∀ y x, x ∈ j'.b y → x ∈ j.b y) (hbl : ∀ x, j'.blocked x = true → j.blocked x = true) :
    Freed j u z := by
  induction h with
  | self => exact .self
  | next _ hx hw ih => exact .next ih (hb _ _ hx) (hbl _ hw)

/-- What `unblock(u)` from `j` leaves in `j'`: only unblocks, `u` freed, the
    B-lists of the freed nodes emptied and every node on them freed, the
    other B-lists as they were, and every node freed reached from `u`. -/
structure UnblockPost (j : Johnson) (u : Nat) (j' : Johnson) : Prop where
  mono : ∀ x, j'.blocked x = true → j.blocked x = true
  self : j'.blocked u = false
  sub : ∀ y x, x ∈ j'.b y → x ∈ j.b y
  freed : ∀ z, (z = u ∨ j.blocked z = true ∧ j'.blocked z = false) →
    j'.b z = [] ∧ ∀ w ∈ j.b z, j'.blocked w = false
  frame : ∀ z, ¬(z = u ∨ j.blocked z = true ∧ j'.blocked z = false) → j'.b z = j.b z
  reach : ∀ z, j.blocked z = true → j'.blocked z = false → Freed j u z
  stack : j'.stack = j.stack
  result : j'.result = j.result

/-- The loop of `unblock(u)` from `j`, after the B-list entries `p`. -/
structure UnblockLoop (j : Johnson) (u : Nat) (p : List Nat) (j' : Johnson) : Prop where
  mono : ∀ x, j'.blocked x = true → j.blocked x = true
  self : j'.blocked u = false
  sub : ∀ y x, x ∈ j'.b y → x ∈ j.b y
  own : j'.b u = p.foldl List.erase (j.b u)
  freed : ∀ z, z ≠ u → j.blocked z = true → j'.blocked z = false →
    j'.b z = [] ∧ ∀ w ∈ j.b z, j'.blocked w = false
  frame : ∀ z, z ≠ u → ¬(j.blocked z = true ∧ j'.blocked z = false) → j'.b z = j.b z
  done : ∀ w ∈ p, j'.blocked w = false
  reach : ∀ z, j.blocked z = true → j'.blocked z = false → Freed j u z
  stack : j'.stack = j.stack
  result : j'.result = j.result

/-- The number of nodes of `U` that `j` blocks. -/
def Johnson.blockedCount (U : List Nat) (j : Johnson) : Nat := U.countP fun x => j.blocked x

theorem countP_update_false {U : List Nat} (hU : U.Nodup) {u : Nat} (hu : u ∈ U) {b : Nat → Bool}
    (hb : b u = true) : U.countP (Function.update b u false) + 1 = U.countP b := by
  obtain ⟨U₁, U₂, rfl⟩ := List.append_of_mem hu
  have hd := List.nodup_append.1 hU
  have h₁ : u ∉ U₁ := fun h => hd.2.2 h (List.mem_cons_self _ _)
  have h₂ : u ∉ U₂ := (List.nodup_cons.1 hd.2.1).1
  have hc : ∀ l : List Nat, u ∉ l → l.countP (Function.update b u false) = l.countP b :=
    fun l hl => List.countP_congr fun x hx => by
      rw [Function.update_noteq (by rintro rfl; exact hl hx)]
  simp only [List.countP_append, List.countP_cons, hc U₁ h₁, hc U₂ h₂, Function.update_same, hb]
  simp
  omega

section
variable (o : CycleOrder) (ho : ∀ k l, List.Perm (o.choose k l) l) {U : List Nat}

/-- The IH the loop of `unblock` with depth `F + 1` uses: `unblock` at depth
    `F` from any state blocking at most `F` nodes of `U`. -/
def UnblockSpec (U : List Nat) (F : Nat) : Prop :=
  ∀ u j, (∀ x, j.blocked x = true → x ∈ U) → j.blocked u = true → j.blockedCount U ≤ F →
    (∀ k, unblock o (F + k) u j = unblock o F u j) ∧ UnblockPost j u (unblock o F u j)

/-- A flag that only falls keeps a fallen one down. -/
theorem false_of_imp {a b : Bool} (h : a = true → b = true) (hb : b = false) : a = false := by
  cases a <;> simp_all

/-- One turn of `unblock(u)`'s loop keeps `UnblockLoop`, at every depth
    above `F`. -/
theorem unblockLoop_step {F : Nat} (IH : UnblockSpec o U F) {j : Johnson} {u : Nat}
    (hmem : ∀ x, j.blocked x = true → x ∈ U)
    (hcnt : ∀ j' : Johnson, (∀ x, j'.blocked x = true → j.blocked x = true) →
      j'.blocked u = false → j'.blockedCount U ≤ F)
    (k : Nat) {p : List Nat} {j' : Johnson} (h : UnblockLoop j u p j') {w : Nat} (hw : w ∈ j.b u) :
    unblockStep (unblock o (F + k)) u j' w = unblockStep (unblock o F) u j' w ∧
      UnblockLoop j u (p ++ [w]) (unblockStep (unblock o F) u j' w) := by
  let j'' : Johnson := { j' with b := Function.update j'.b u ((j'.b u).erase w) }
  have hb'' : ∀ z, z ≠ u → j''.b z = j'.b z := fun z hz => Function.update_noteq hz _ _
  have hown : j''.b u = (p ++ [w]).foldl List.erase (j.b u) := by
    simp [j'', h.own, List.foldl_append]
  have hsub'' : ∀ y x, x ∈ j''.b y → x ∈ j.b y := fun y x hx => by
    by_cases hy : y = u
    · subst hy
      simp only [j'', Function.update_same] at hx
      exact h.sub _ _ (List.mem_of_mem_erase hx)
    · exact h.sub _ _ (hb'' y hy ▸ hx)
  simp only [unblockStep]
  by_cases hbw : j'.blocked w = true
  · have hpre := IH w j'' (fun x hx => hmem x (h.mono x hx)) hbw (hcnt j'' h.mono h.self)
    simp only [hbw, if_true]
    refine ⟨hpre.1 k, ?_⟩
    obtain ⟨-, post⟩ := hpre
    have hwu : w ≠ u := fun e => by rw [e, h.self] at hbw; exact absurd hbw (by decide)
    have hdown : ∀ x, j'.blocked x = false → (unblock o F w j'').blocked x = false :=
      fun x => false_of_imp (post.mono x)
    -- a node the call frees was blocked before it
    have hfr : ∀ z, (z = w ∨ j''.blocked z = true ∧ (unblock o F w j'').blocked z = false) →
        j.blocked z = true := by
      rintro z (rfl | ⟨hz, -⟩)
      exacts [h.mono _ hbw, h.mono _ hz]
    have hu : ¬(u = w ∨ j''.blocked u = true ∧ (unblock o F w j'').blocked u = false) := by
      rintro (e | ⟨hu, -⟩)
      · exact hwu e.symm
      · exact absurd hu (by simp [j'', h.self])
    refine ⟨fun x hx => h.mono x (post.mono x hx), hdown u h.self,
      fun y x hx => hsub'' y x (post.sub y x hx), (post.frame u hu).trans hown,
      fun z hz hjz hz' => ?_, fun z hz hn => ?_, fun w' hw' => ?_, fun z hjz hz' => ?_,
      post.stack.trans h.stack, post.result.trans h.result⟩
    · by_cases hz₀ : j'.blocked z = true
      · obtain ⟨h₁, h₂⟩ := post.freed z (.inr ⟨hz₀, hz'⟩)
        refine ⟨h₁, fun w' hw' => h₂ w' ?_⟩
        rw [hb'' z hz, h.frame z hz fun h' => by simp [h'.2] at hz₀]
        exact hw'
      · have hz₁ : j'.blocked z = false := Bool.eq_false_iff.2 hz₀
        obtain ⟨h₁, h₂⟩ := h.freed z hz hjz hz₁
        have hnz : ¬(z = w ∨ j''.blocked z = true ∧ (unblock o F w j'').blocked z = false) := by
          rintro (rfl | ⟨hb, -⟩)
          · exact absurd hbw (by simp [hz₁])
          · exact absurd hb (by simp [j'', hz₁])
        exact ⟨(post.frame z hnz).trans ((hb'' z hz).trans h₁), fun w' hw' => hdown w' (h₂ w' hw')⟩
    · have hnz : ¬(z = w ∨ j''.blocked z = true ∧ (unblock o F w j'').blocked z = false) := by
        intro h'
        refine hn ⟨hfr z h', ?_⟩
        rcases h' with rfl | ⟨-, h'⟩
        exacts [post.self, h']
      rw [post.frame z hnz, hb'' z hz, h.frame z hz fun h' => hn ⟨h'.1, hdown z h'.2⟩]
    · rcases List.mem_append.1 hw' with hw' | hw'
      · exact hdown w' (h.done w' hw')
      · rw [List.mem_singleton.1 hw']; exact post.self
    · by_cases hz₀ : j'.blocked z = true
      · have hfw : Freed j u w := .next .self hw (h.mono _ hbw)
        exact hfw.trans ((post.reach z hz₀ hz').mono hsub'' fun x hx => h.mono x hx)
      · exact h.reach z hjz (Bool.eq_false_iff.2 hz₀)
  · have hbw' : j'.blocked w = false := Bool.eq_false_iff.2 hbw
    simp only [hbw', Bool.false_eq_true, if_false]
    refine ⟨trivial, h.mono, h.self, hsub'', hown, fun z hz hjz hz' => ?_, fun z hz hn => ?_,
      fun w' hw' => ?_, h.reach, h.stack, h.result⟩
    · rw [hb'' z hz]; exact h.freed z hz hjz hz'
    · rw [hb'' z hz]; exact h.frame z hz hn
    · rcases List.mem_append.1 hw' with hw' | hw'
      · exact h.done w' hw'
      · rw [List.mem_singleton.1 hw']; exact hbw'

/-- The whole loop of `unblock(u)` over entries of its B-list. -/
theorem unblockLoop_foldl {F : Nat} (IH : UnblockSpec o U F) {j : Johnson} {u : Nat}
    (hmem : ∀ x, j.blocked x = true → x ∈ U)
    (hcnt : ∀ j' : Johnson, (∀ x, j'.blocked x = true → j.blocked x = true) →
      j'.blocked u = false → j'.blockedCount U ≤ F) (k : Nat) :
    ∀ ws : List Nat, (∀ w ∈ ws, w ∈ j.b u) → ∀ {p : List Nat} {j' : Johnson}, UnblockLoop j u p j' →
      ws.foldl (unblockStep (unblock o (F + k)) u) j' = ws.foldl (unblockStep (unblock o F) u) j' ∧
        UnblockLoop j u (p ++ ws) (ws.foldl (unblockStep (unblock o F) u) j')
  | [], _, _, _, h => ⟨rfl, by simpa using h⟩
  | w :: ws, hws, p, j', h => by
    obtain ⟨e, h'⟩ := unblockLoop_step o IH hmem hcnt k h (hws w (List.mem_cons_self _ _))
    obtain ⟨e', h''⟩ := unblockLoop_foldl IH hmem hcnt k ws (fun w hw => hws w (List.mem_cons_of_mem _ hw)) h'
    simp only [List.foldl_cons, e]
    exact ⟨e', by simpa using h''⟩

/-- Erasing every entry of a permutation of a list leaves nothing. -/
theorem foldl_erase_of_perm : ∀ {l m : List Nat}, List.Perm m l → l.foldl List.erase m = []
  | [], _, h => List.perm_nil.1 h
  | a :: l, m, h => by
    rw [List.foldl_cons]
    exact foldl_erase_of_perm (by simpa using h.erase a)

/-- The state `unblock(u)`'s loop starts from. -/
theorem unblockLoop_start (j : Johnson) (u : Nat) :
    UnblockLoop j u [] { j with blocked := Function.update j.blocked u false, tick := j.tick + 1 } := by
  have hupd : ∀ z, z ≠ u → Function.update j.blocked u false z = j.blocked z :=
    fun z hz => Function.update_noteq hz _ _
  refine ⟨fun x hx => ?_, Function.update_same _ _ _, fun _ _ => id, rfl, fun z hz hjz hz' => ?_,
    fun _ _ _ => rfl, fun _ h => absurd h (List.not_mem_nil _), fun z hjz hz' => ?_, rfl, rfl⟩
  · by_cases hxu : x = u
    · subst hxu; simp at hx
    · rwa [← hupd x hxu]
  · simp only [hupd z hz, hjz] at hz'; exact absurd hz' (by decide)
  · by_cases hzu : z = u
    · subst hzu; exact .self
    · simp only [hupd z hzu, hjz] at hz'; exact absurd hz' (by decide)

/-- Nodes blocked in a state that only unblocks from `j`, and that frees
    `u`, number one fewer than in `j`. -/
theorem blockedCount_lt (hU : U.Nodup) {j j' : Johnson} {u : Nat} (hu : u ∈ U) (hbu : j.blocked u = true)
    (hmono : ∀ x, j'.blocked x = true → j.blocked x = true) (hfree : j'.blocked u = false) :
    j'.blockedCount U + 1 ≤ j.blockedCount U := by
  calc j'.blockedCount U + 1
      ≤ U.countP (Function.update j.blocked u false) + 1 := by
        refine Nat.add_le_add_right (List.countP_mono_left fun x _ hx => ?_) 1
        by_cases hxu : x = u
        · subst hxu; simp [hfree] at hx
        · rw [Function.update_noteq hxu]; exact hmono x hx
    _ = j.blockedCount U := countP_update_false hU hu hbu

include ho in
/-- **Depth of `unblock`.**  From a state blocking nodes of `U` only, a depth
    at least the number of blocked nodes is never reached: more depth gives
    the same state, which is `UnblockPost`. -/
theorem unblock_spec (hU : U.Nodup) : ∀ F, UnblockSpec o U F
  | 0 => fun u j hmem hu hcnt => by
    have : 0 < j.blockedCount U := List.countP_pos_iff.2 ⟨u, hmem u hu, hu⟩
    omega
  | F + 1 => fun u j hmem hu hcnt => by
    have hcnt' : ∀ j' : Johnson, (∀ x, j'.blocked x = true → j.blocked x = true) →
        j'.blocked u = false → j'.blockedCount U ≤ F := fun j' hmono hfree => by
      have := blockedCount_lt hU (hmem u hu) hu hmono hfree; omega
    have hws : ∀ w ∈ o.choose j.tick (j.b u), w ∈ j.b u := fun w hw => (ho _ _).subset hw
    have hloop := fun k => unblockLoop_foldl o (unblock_spec hU F) hmem hcnt' k _ hws (unblockLoop_start j u)
    refine ⟨fun k => ?_, ?_⟩
    · rw [Nat.add_right_comm]; exact (hloop k).1
    obtain ⟨-, h⟩ := hloop 0
    simp only [List.nil_append] at h
    refine ⟨h.mono, h.self, h.sub, ?_, fun z hz => h.frame z (fun e => hz (.inl e)) fun h' => hz (.inr h'),
      h.reach, h.stack, h.result⟩
    intro z hz
    by_cases hzu : z = u
    · subst hzu
      exact ⟨h.own.trans (foldl_erase_of_perm (ho _ _).symm), fun w hw => h.done w ((ho _ _).mem_iff.2 hw)⟩
    · exact h.freed z hzu (hz.resolve_left hzu).1 (hz.resolve_left hzu).2

end

end BeadsViewer.Gonum
