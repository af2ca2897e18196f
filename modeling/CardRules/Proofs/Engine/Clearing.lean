import Mathlib
import CardRules.Proofs.Engine.Stack
import CardRules.Proofs.Engine.Stages

/-!
# Clearing the stack

Clearing takes all effects off the stack and reports it. What listeners queue when they hear of
it waits on the stack afterwards; only where nobody queues anything the stack is empty. The
effects that were discarded never come back: whatever is pending from then on, or is taken to be
resolved, has a number that had not been given out (`Engine.Since`).
-/

namespace CardRules.Engine

variable {σ : Type} {host : Host σ} {e e₀ : Engine σ} {n : Nat}

/-- The effects that a call takes off the stack to resolve them, in their order. -/
def takenBy (host : Host σ) (e : Engine σ) : Call → List Pending
  | .resolve => taken host e.settings.stackLimit.toNat e
  | .push .. | .clear | .activate _ => []

/-- The effects that a list of calls takes off the stack to resolve them. -/
def takenIn (host : Host σ) : List Call → Engine σ → List Pending
  | [], _ => []
  | c :: rest, e => takenBy host e c ++ takenIn host rest (call host e c)

/-! ## New numbers -/

/-- All pending effects, and all that will be queued, have numbers from `n` on. -/
structure Since (n : Nat) (e : Engine σ) : Prop where
  pending : ∀ p ∈ e.stack, n ≤ p.addedAt
  next : n ≤ e.queued

theorem durable_since (n : Nat) : Durable (Since (σ := σ) n) where
  same he hs hq _ := ⟨hs ▸ he.pending, hq ▸ he.next⟩
  enqueue i priority he := by
    refine ⟨fun p hp => ?_, Nat.le_succ_of_le he.next⟩
    rcases List.mem_append.1 hp with hp | hp
    · exact he.pending p hp
    · rw [List.mem_singleton.1 hp]
      exact he.next
  sublist hs he := ⟨fun p hp => he.pending p (hs.subset hp), he.next⟩

theorem mem_of_next? {stack : List Pending} {p : Pending} (h : next? stack = some p) :
    p ∈ stack := by
  induction stack generalizing p with
  | nil => cases h
  | cons q rest ih =>
    rw [next?] at h
    cases hr : next? rest with
    | none =>
      rw [hr] at h
      cases h
      exact List.mem_cons_self
    | some r =>
      rw [hr] at h
      cases h
      split
      · exact List.mem_cons_of_mem q (ih hr)
      · exact List.mem_cons_self

theorem Since.taken (he : Since n e) (remaining : Nat) :
    ∀ p ∈ taken host remaining e, n ≤ p.addedAt := by
  induction remaining generalizing e with
  | zero =>
    unfold Engine.taken
    split <;> simp
  | succ remaining ih =>
    unfold Engine.taken
    split
    · simp
    · rename_i p hp
      have hrest := ih ((durable_since n).turn host p he)
      exact List.forall_mem_cons.2 ⟨he.pending p (mem_of_next? hp), hrest⟩

theorem Since.takenIn (he : Since n e) (calls : List Call) :
    ∀ p ∈ takenIn host calls e, n ≤ p.addedAt := by
  induction calls generalizing e with
  | nil => simp [Engine.takenIn]
  | cons c rest ih =>
    intro p hp
    rcases List.mem_append.1 hp with hp | hp
    · cases c with
      | resolve => exact he.taken _ p hp
      | push | clear | activate => cases hp
    · exact ih ((durable_since n).call host he c) p hp

/-! ## Clearing -/

theorem since_clearStack (host : Host σ) (e : Engine σ) :
    Since e.queued (clearStack host e).2 :=
  (durable_since _).tell host _ ⟨by simp, Nat.le_refl _⟩

/-- A report that nobody listens to is only recorded. -/
theorem stack_tell_of_unheard {r : Report} (hb : ∀ b ∈ e.bus, b.audience r.kind = []) :
    (e.tell host r).stack = e.stack := by
  unfold tell
  cases host.reach with
  | zero => rfl
  | succ depth =>
    rw [publish]
    split
    · rfl
    · rename_i b hbus
      rw [Bus.publish_eq]
      case hget => exact fun _ _ => rfl
      case hset => exact fun _ _ _ => rfl
      rw [hbus, Option.getD_some, hb b hbus]
      rfl

/-- Clearing answers how many effects it discards. None of them is ever resolved or pending again,
whatever is called later and whatever listeners do. What is pending now has been queued by
listeners since then; there is nothing where nobody hears of it, or where listeners queue
nothing. Unless listeners change the game, all but the stack and the bus stays as it was. -/
theorem clearStack_discards (h₀ : e₀.stack = []) (before : List Call)
    (he : run host before e₀ = e) :
    (clearStack host e).1 = e.stack.length ∧
    (∀ p ∈ e.stack, ∀ later : List Call,
      (∀ q ∈ takenIn host later (clearStack host e).2, q.addedAt ≠ p.addedAt) ∧
      ∀ q ∈ (run host later (clearStack host e).2).stack, q.addedAt ≠ p.addedAt) ∧
    (host.Only Reaction.KeepsStack →
      ∃ added, Grows { e with stack := [] } added (clearStack host e).2) ∧
    ((∀ b ∈ e.bus, b.audience .cleared = []) → (clearStack host e).2.stack = []) ∧
    (host.Only Reaction.LeavesStack → (clearStack host e).2.stack = []) ∧
    (host.Only Reaction.LeavesGame → (clearStack host e).2.core = e.core) := by
  have hnumbered : Numbered e := he ▸ numbered_run (.of_stack_nil h₀) before
  have hsince := since_clearStack host e
  refine ⟨rfl, fun p hp later => ⟨fun q hq => ?_, fun q hq => ?_⟩, fun hh => grows_tell hh _,
    fun hb => stack_tell_of_unheard hb, fun hh => stack_tell hh _, fun hh => core_tell hh⟩
  · have hold := hnumbered.below p hp
    have hnew := hsince.takenIn later q hq
    omega
  · have hold := hnumbered.below p hp
    have hnew := ((durable_since _).run host hsince later).pending q hq
    omega

/-- A listener that answers a cleared stack with a draw. -/
def mourning : Host Unit where
  react _ notice _ _ :=
    match notice.payload with
    | .cleared _ => ([.push (paidDraw "draw_1") none], ())
    | _ => ([], ())
  reach := 2

/-- An engine with this listener, where an effect waits. -/
def mourned : Engine Unit :=
  run mourning [.push (paidDraw "draw_1") none]
    { standard Game.opening with bus := some ((({} : Bus ListenerId Report).subscribe none 0 0).2) }

theorem mourning_leavesGame : mourning.Only Reaction.LeavesGame := by
  intro listener notice game memory r hr
  unfold mourning at hr
  dsimp only at hr
  split at hr
  · obtain rfl := List.mem_singleton.1 hr
    trivial
  · cases hr

/-- The effect that was pending is gone for good: what is resolved later is another one. -/
theorem clearStack_discards_mourned :
    (clearStack mourning mourned).1 = 1 ∧
    (∀ q ∈ takenIn mourning [.resolve] (clearStack mourning mourned).2, q.addedAt ≠ 0) ∧
    (takenIn mourning [.resolve] (clearStack mourning mourned).2).map (·.addedAt) = [1] ∧
    (clearStack mourning mourned).2.core = mourned.core := by
  have hstack : mourned.stack = [⟨paidDraw "draw_1", 0, 0⟩] := by cbv
  have hrun : run mourning _ _ = mourned := rfl
  obtain ⟨hcount, hgone, -, -, -, hcore⟩ := clearStack_discards rfl _ hrun
  rw [hstack] at hcount hgone
  exact ⟨hcount, (hgone _ List.mem_cons_self [.resolve]).1, by cbv, hcore mourning_leavesGame⟩

/-- Clearing does not leave the stack empty where a listener pushes when it hears of it. -/
theorem clearStack_leaves_pending :
    ((clearStack mourning mourned).2.stack.map fun p => (p.invocation, p.addedAt)) =
      [(paidDraw "draw_1", 1)] ∧
    ¬∀ (host : Host Unit) (e : Engine Unit), (clearStack host e).2.stack = [] := by
  have hstack : (clearStack mourning mourned).2.stack = [⟨paidDraw "draw_1", 0, 1⟩] := by cbv
  refine ⟨by rw [hstack]; rfl, fun hempty => ?_⟩
  rw [hempty] at hstack
  cases hstack

end CardRules.Engine
