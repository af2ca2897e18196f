import Mathlib
import CardRules.Proofs.Engine.Stack
import CardRules.Proofs.Engine.Stages

/-!
# The order of resolution

`Engine.Drains` tells a resolution of the stack turn by turn. Each turn takes the foremost
pending effect, the first of those with the highest priority, and what is queued while it is
processed stands behind the others in the next turn. So every effect is taken once or, if the
limit is met, discarded; and where nothing is queued meanwhile, the effects are taken in the
stable order of their priorities.
-/

namespace CardRules

/-- What waits on the stack after a call, where only calls queue effects. -/
def Call.waiting (entries : List (Invocation × Int)) : Call → List (Invocation × Int)
  | .push i priority => entries ++ [(i, priority.getD i.priority)]
  | .resolve | .clear => []
  | .activate _ => entries

namespace Engine

variable {σ : Type} {host : Host σ} {e e' : Engine σ} {i : Invocation} {p q : Pending}
  {stack before after added order : List Pending}

/-! ## The foremost effect -/

/-- Nothing before the effect has its priority, and nothing behind it has a higher one. -/
structure Foremost (before : List Pending) (p : Pending) (after : List Pending) : Prop where
  before : ∀ q ∈ before, q.priority < p.priority
  after : ∀ q ∈ after, q.priority ≤ p.priority

theorem next?_eq_none_iff : next? stack = none ↔ stack = [] := by
  cases stack with
  | nil => simp [next?]
  | cons p rest =>
    rw [next?]
    cases next? rest <;> simp

theorem precedes_iff : Pending.precedes p q ↔
    q.priority < p.priority ∨ (p.priority = q.priority ∧ p.addedAt < q.addedAt) := by
  simp [Pending.precedes]

/-- Where effects stand in the order of their numbers, the next one is the foremost. -/
theorem foremost_of_next? (hs : stack.Pairwise (·.addedAt < ·.addedAt))
    (hn : next? stack = some p) :
    ∃ before after, stack = before ++ p :: after ∧ Foremost before p after := by
  induction stack generalizing p with
  | nil => cases hn
  | cons q rest ih =>
    obtain ⟨hq, hrest⟩ := List.pairwise_cons.1 hs
    rw [next?] at hn
    cases hr : next? rest with
    | none =>
      rw [hr] at hn
      cases hn
      exact ⟨[], rest, rfl, by simp, by simp [next?_eq_none_iff.1 hr]⟩
    | some r =>
      rw [hr] at hn
      obtain ⟨before, after, rfl, hf⟩ := ih hrest hr
      -- The later effect comes next only if its priority is higher: its number is not lower.
      have hlater : ¬r.addedAt < q.addedAt := Nat.not_lt.2 (Nat.le_of_lt (hq r (by simp)))
      cases hn
      split
      · rename_i hprec
        rcases precedes_iff.1 hprec with hlt | ⟨-, hlt⟩
        · refine ⟨q :: before, after, rfl, List.forall_mem_cons.2 ⟨hlt, hf.before⟩, hf.after⟩
        · exact absurd hlt hlater
      · rename_i hprec
        have hle : r.priority ≤ q.priority := by
          rw [precedes_iff] at hprec
          omega
        refine ⟨[], before ++ r :: after, rfl, by simp, fun s hs => ?_⟩
        rcases List.mem_append.1 hs with hs | hs
        · have := hf.before s hs
          omega
        · rcases List.mem_cons.1 hs with rfl | hs
          · exact hle
          · have := hf.after s hs
            omega

/-- Taking an effect off the stack by its number takes this one only. -/
theorem filter_addedAt (hs : (before ++ p :: after).Pairwise (·.addedAt < ·.addedAt)) :
    (before ++ p :: after).filter (·.addedAt != p.addedAt) = before ++ after := by
  obtain ⟨-, hafter, hbefore⟩ := List.pairwise_append.1 hs
  rw [List.filter_append, List.filter_cons_of_neg (by simp)]
  congr 1
  · refine List.filter_eq_self.2 fun q hq => ?_
    have := hbefore q hq p List.mem_cons_self
    simp only [bne_iff_ne, ne_eq]
    omega
  · refine List.filter_eq_self.2 fun q hq => ?_
    have := (List.pairwise_cons.1 hafter).1 q hq
    simp only [bne_iff_ne, ne_eq]
    omega

/-! ## Turn by turn -/

/-- How many effects one resolution of the stack takes at most. -/
def limit (e : Engine σ) : Nat := e.settings.stackLimit.toNat

/-- The engine with another stack. -/
def holding (stack : List Pending) (e : Engine σ) : Engine σ := { e with stack := stack }

/-- A resolution of the stack: the effects that are taken, in their order, and those that are
queued meanwhile. -/
inductive Drains (host : Host σ) : Engine σ → List Pending → List Pending → Engine σ → Prop where
  /-- Nothing is left. -/
  | done {e : Engine σ} : e.stack = [] → Drains host e [] [] e
  /-- The limit is met; listeners may still queue effects when they hear of it. -/
  | cut {e : Engine σ} {added : List Pending} : e.stack ≠ [] →
      Grows e added (e.tell host (.limitReached e.settings.stackLimit e.stack.length)) →
      Drains host e [] added (e.tell host (.limitReached e.settings.stackLimit e.stack.length))
  /-- The foremost effect is taken and processed. -/
  | take {e e' : Engine σ} {before after new order added : List Pending} {p : Pending} :
      e.stack = before ++ p :: after → Foremost before p after →
      Grows (e.holding (before ++ after)) new
        (process host p.invocation (e.holding (before ++ after))) →
      Drains host (process host p.invocation (e.holding (before ++ after))) order added e' →
      Drains host e (p :: order) (new ++ added) e'

theorem drains_drain (hh : host.Only Reaction.KeepsStack) (he : Numbered e) (remaining : Nat) :
    ∃ added, Drains host e (taken host remaining e) added (drain host remaining e) ∧
      ((drain host remaining e).stack ≠ [] → (taken host remaining e).length = remaining) := by
  induction remaining generalizing e with
  | zero =>
    unfold drain taken
    cases hn : next? e.stack with
    | none =>
      have hempty := next?_eq_none_iff.1 hn
      exact ⟨[], .done hempty, fun h => absurd hempty h⟩
    | some p =>
      obtain ⟨added, hg⟩ := grows_tell (e := e) hh
        (.limitReached e.settings.stackLimit e.stack.length)
      have hne : e.stack ≠ [] := fun h => by simp [h, next?] at hn
      exact ⟨added, .cut hne hg, fun _ => rfl⟩
  | succ remaining ih =>
    unfold drain taken
    cases hn : next? e.stack with
    | none =>
      have hempty := next?_eq_none_iff.1 hn
      exact ⟨[], .done hempty, fun h => absurd hempty h⟩
    | some p =>
      obtain ⟨before, after, hs, hf⟩ := foremost_of_next? he.increasing hn
      have hrest : e.stack.filter (·.addedAt != p.addedAt) = before ++ after := by
        rw [hs]
        exact filter_addedAt (hs ▸ he.increasing)
      have hsub : (before ++ after).Sublist e.stack := hrest ▸ List.filter_sublist
      have hnumbered := he.sublist hsub
      dsimp only
      rw [hrest]
      obtain ⟨new, hg⟩ := (stages_process host (i := p.invocation)).grows hh
      obtain ⟨added, hd, hlength⟩ := ih (hnumbered.grows hg)
      exact ⟨new ++ added, .take hs hf hg hd, fun h => by rw [List.length_cons, hlength h]⟩

namespace Drains

/-- What is queued is numbered on from the start. -/
theorem numbers (hd : Drains host e order added e') :
    added.map (·.addedAt) = List.range' e.queued added.length := by
  induction hd with
  | done => rfl
  | cut _ hg => exact hg.numbers
  | @take e _ _ _ _ _ _ _ _ _ hg _ ih =>
    have hqueued : ∀ stack, (e.holding stack).queued = e.queued := fun _ => rfl
    rw [List.map_append, hg.numbers, ih, hg.queued, hqueued, List.length_append,
      List.range'_append_1]

/-- Each effect is taken or left, and none is made up. -/
theorem perm (hd : Drains host e order added e') : (order ++ e'.stack).Perm (e.stack ++ added) := by
  induction hd with
  | done h => simp [h]
  | cut _ hg => rw [hg.stack, List.nil_append]
  | @take e _ before after new order added p hs _ hg _ ih =>
    have hstack : ∀ stack, (e.holding stack).stack = stack := fun _ => rfl
    rw [hg.stack, hstack] at ih
    rw [hs, List.append_assoc, List.cons_append, List.cons_append]
    refine (ih.cons p).trans ?_
    rw [List.append_assoc, List.append_assoc]
    exact List.perm_middle.symm

/-- No two effects of a resolution have the same number. -/
theorem nodup (hd : Drains host e order added e') (he : Numbered e) :
    ((e.stack ++ added).map (·.addedAt)).Nodup :=
  he.nodup_append hd.numbers

end Drains

/-! ## Without cascades -/

/-- Of two effects the one with the higher priority goes first, and of effects with one priority
the one that was queued first. -/
def GoesBefore (p q : Pending) : Prop :=
  q.priority ≤ p.priority ∧ (p.priority ≤ q.priority → p.addedAt < q.addedAt)

theorem GoesBefore.asymm (h₁ : GoesBefore p q) (h₂ : GoesBefore q p) : p = q := by
  have h₃ := h₁.2 h₂.1
  have h₄ := h₂.2 h₁.1
  omega

/-- Sorting by priority keeps the order of effects with one priority. -/
theorem goesBefore_mergeSort (hs : stack.Pairwise (·.addedAt < ·.addedAt)) :
    (stack.mergeSort fun p q => q.priority ≤ p.priority).Pairwise GoesBefore := by
  have htrans : ∀ p q r : Pending, decide (q.priority ≤ p.priority) = true →
      decide (r.priority ≤ q.priority) = true → decide (r.priority ≤ p.priority) = true := by
    simp only [decide_eq_true_eq]
    omega
  have htotal : ∀ p q : Pending,
      (decide (q.priority ≤ p.priority) || decide (p.priority ≤ q.priority)) = true := by
    simp only [Bool.or_eq_true, decide_eq_true_eq]
    omega
  induction stack with
  | nil => simp
  | cons p rest ih =>
    obtain ⟨hp, hrest⟩ := List.pairwise_cons.1 hs
    obtain ⟨ahead, behind, hsort, hsplit, hahead⟩ := List.mergeSort_cons htrans htotal p rest
    have hsorted := List.pairwise_mergeSort htrans htotal (p :: rest)
    have hi := ih hrest
    rw [hsplit] at hi
    rw [hsort] at hsorted ⊢
    obtain ⟨h₁, h₂, h₃⟩ := List.pairwise_append.1 hi
    obtain ⟨-, hbehind, -⟩ := List.pairwise_append.1 hsorted
    refine List.pairwise_append.2 ⟨h₁, List.pairwise_cons.2 ⟨fun q hq => ?_, h₂⟩, ?_⟩
    · have hmem : q ∈ rest := by
        rw [← (List.mergeSort_perm rest fun p q => q.priority ≤ p.priority).mem_iff, hsplit]
        exact List.mem_append_right _ hq
      exact ⟨by simpa using (List.pairwise_cons.1 hbehind).1 q hq, fun _ => hp q hmem⟩
    · intro q hq r hr
      rcases List.mem_cons.1 hr with rfl | hr
      · have hlt : r.priority < q.priority := by simpa using hahead q hq
        exact ⟨Int.le_of_lt hlt, fun hle => absurd hle (Int.not_le.2 hlt)⟩
      · exact h₃ q hq r hr

/-- Where listeners queue nothing, effects are taken one before the other. -/
theorem Drains.pairwise (hh : host.Only Reaction.LeavesStack) (he : Numbered e)
    (hd : Drains host e order added e') : order.Pairwise GoesBefore ∧ ∀ p ∈ order, p ∈ e.stack := by
  induction hd with
  | done | cut => simp
  | @take e _ before after new order added p hs hf hg hd ih =>
    have hstack : (process host p.invocation (e.holding (before ++ after))).stack =
        before ++ after := (stages_process host).stack_eq hh
    have hsub : (before ++ after).Sublist e.stack := by
      rw [hs]
      exact (List.Sublist.refl before).append (List.sublist_cons_self p after)
    obtain ⟨hsorted, hmem⟩ := ih ((he.sublist hsub).grows hg)
    rw [hstack] at hmem
    have hnumbers := hs ▸ he.increasing
    refine ⟨List.pairwise_cons.2 ⟨fun q hq => ?_, hsorted⟩, ?_⟩
    · rcases List.mem_append.1 (hmem q hq) with hq | hq
      · have hlt := hf.before q hq
        exact ⟨Int.le_of_lt hlt, fun hle => absurd hle (Int.not_le.2 hlt)⟩
      · have hlater := (List.pairwise_cons.1 (List.pairwise_append.1 hnumbers).2.1).1 q hq
        exact ⟨hf.after q hq, fun _ => hlater⟩
    · exact List.forall_mem_cons.2 ⟨by simp [hs], fun q hq => hsub.subset (hmem q hq)⟩

theorem Grows.eq_nil (hg : Grows e added e') (hs : e'.stack = e.stack) : added = [] := by
  rw [hg.stack] at hs
  exact List.append_right_eq_self.1 hs

theorem Drains.added_eq_nil (hh : host.Only Reaction.LeavesStack)
    (hd : Drains host e order added e') : added = [] := by
  induction hd with
  | done => rfl
  | cut _ hg => exact hg.eq_nil (stack_tell hh _)
  | take _ _ hg _ ih =>
    rw [ih, hg.eq_nil ((stages_process host).stack_eq hh), List.append_nil]

/-- An effect with its priority, by whatever number it was queued. -/
def Pending.entry (p : Pending) : Invocation × Int := (p.invocation, p.priority)

/-- Within the limit and without cascades, the stack is taken in the stable order of priorities. -/
theorem Drains.sorted (hh : host.Only Reaction.LeavesStack) (he : Numbered e)
    (hd : Drains host e order added e') (hleft : e'.stack = []) :
    order.map Pending.entry = (e.stack.map Pending.entry).mergeSort fun a b => b.2 ≤ a.2 := by
  have hperm := hd.perm
  rw [hleft, hd.added_eq_nil hh, List.append_nil, List.append_nil] at hperm
  have hsort : order = e.stack.mergeSort fun p q => q.priority ≤ p.priority :=
    List.Perm.eq_of_pairwise (fun _ _ _ _ => GoesBefore.asymm) (hd.pairwise hh he).1
      (goesBefore_mergeSort he.increasing) (hperm.trans (List.mergeSort_perm _ _).symm)
  rw [hsort]
  exact List.map_mergeSort fun _ _ _ _ => rfl

/-! ## After other calls -/

theorem stack_run (hh : host.Only Reaction.LeavesStack) (calls : List Call) :
    (run host calls e).stack.map Pending.entry =
      calls.foldl Call.waiting (e.stack.map Pending.entry) := by
  induction calls generalizing e with
  | nil => rfl
  | cons c rest ih =>
    have hcall : (call host e c).stack.map Pending.entry =
        Call.waiting (e.stack.map Pending.entry) c := by
      cases c with
      | push i priority =>
        have hstack : ((e.enqueue i (priority.getD i.priority)).tell host
            (.queued i (priority.getD i.priority))).stack = _ := stack_tell hh _
        exact (congrArg _ hstack).trans List.map_append
      | resolve => rfl
      | clear =>
        have hstack : (({ e with stack := [] } : Engine σ).tell host
            (.cleared e.stack.length)).stack = _ := stack_tell hh _
        exact congrArg _ hstack
      | activate w => exact congrArg _ ((stages_activate host).stack_eq hh)
    exact (ih (e := call host e c)).trans (by rw [hcall]; rfl)

/-- Whatever was called before, resolving the stack takes the foremost effect in every turn,
those that listeners queue in reaction included. Every effect that waits or is queued meanwhile
is taken once, or left and discarded when as many as the limit have been taken. Without
cascades and within the limit, the effects pushed since the stack was last resolved or cleared
are taken in the stable order of their priorities, the highest first. -/
theorem resolveStack_in_order (hh : host.Only Reaction.KeepsStack) {e₀ : Engine σ}
    (h₀ : e₀.stack = []) (calls : List Call) (he : run host calls e₀ = e) :
    (∃ added, Drains host e (taken host e.limit e) added (drain host e.limit e) ∧
      ((e.stack ++ added).map (·.addedAt)).Nodup ∧
      (taken host e.limit e ++ (drain host e.limit e).stack).Perm (e.stack ++ added)) ∧
    ((drain host e.limit e).stack ≠ [] → (taken host e.limit e).length = e.limit) ∧
    resolveStack host e = (drain host e.limit e).holding [] ∧
    (host.Only Reaction.LeavesStack → e.stack.length ≤ e.limit →
      (taken host e.limit e).map Pending.entry =
        (calls.foldl Call.waiting []).mergeSort fun a b => b.2 ≤ a.2) := by
  have hnumbered : Numbered e := he ▸ numbered_run (.of_stack_nil h₀) calls
  obtain ⟨added, hd, hlength⟩ := drains_drain hh hnumbered e.limit
  refine ⟨⟨added, hd, hd.nodup hnumbered, hd.perm⟩, hlength, rfl, fun hleaves hwithin => ?_⟩
  have hleft : (drain host e.limit e).stack = [] := by
    by_contra hne
    have hperm := hd.perm.length_eq
    rw [hd.added_eq_nil hleaves, List.length_append, hlength hne, List.append_nil] at hperm
    have hpos := List.length_pos_iff.2 hne
    omega
  rw [hd.sorted hleaves hnumbered hleft, ← he, stack_run hleaves, h₀]
  rfl

/-- A host whose listener answers, as often as it may, a resolved effect with another draw. -/
def chaining : Host Nat where
  react _ notice _ left :=
    match notice.payload, left with
    | .resolved _, left + 1 => ([.push (paidDraw "draw_1") (some 7)], left)
    | _, _ => ([], left)
  reach := 2

/-- An engine with that listener, which may answer once. -/
def listened : Engine Nat :=
  { standard Game.opening with
    bus := some ((({} : Bus ListenerId Report).subscribe none 0 0).2)
    memory := 1 }

theorem chaining_keepsStack : chaining.Only Reaction.KeepsStack := by
  intro listener notice game left r hr
  unfold chaining at hr
  dsimp only at hr
  split at hr
  · obtain rfl := List.mem_singleton.1 hr
    trivial
  · cases hr

/-- Two effects wait in it, the more urgent one behind the other. -/
def waitingTwice : Engine Nat :=
  run chaining [.push (paidDraw "draw_1") (some 1), .push (paidDraw "draw_1") (some 3)] listened

/-- The same effects, where nobody listens. -/
def waitingQuietly : Engine Unit :=
  run .silent [.push (paidDraw "draw_1") (some 1), .push (paidDraw "draw_1") (some 3)]
    (standard Game.opening)

/-- The effect that is queued while the first one resolves overtakes the one that waits. Where
nobody listens, the effects are taken by their priorities. -/
theorem resolveStack_in_order_cascade :
    (∃ added, Drains chaining waitingTwice (taken chaining waitingTwice.limit waitingTwice) added
      (drain chaining waitingTwice.limit waitingTwice)) ∧
    (taken chaining waitingTwice.limit waitingTwice).map (fun p => (p.priority, p.addedAt)) =
      [(3, 1), (7, 2), (1, 0)] ∧
    (taken .silent waitingQuietly.limit waitingQuietly).map Pending.entry =
      [(paidDraw "draw_1", 1), (paidDraw "draw_1", 3)].mergeSort fun a b => b.2 ≤ a.2 := by
  obtain ⟨added, hd, -⟩ := (resolveStack_in_order chaining_keepsStack (rfl : listened.stack = [])
    [.push (paidDraw "draw_1") (some 1), .push (paidDraw "draw_1") (some 3)] rfl).1
  have hquiet := (resolveStack_in_order (e := waitingQuietly) (Host.only_silent _)
    (rfl : (standard Game.opening).stack = []) _ rfl).2.2.2 (Host.only_silent _) (by cbv)
  exact ⟨⟨added, hd⟩, by cbv, hquiet⟩

end Engine

end CardRules
