import CardRules.Proofs.Engine.Frame
import CardRules.Proofs.Game.Reach
import CardRules.Proofs.Script.Routine

/-!
# Runs of an engine

A host drives an engine by calls: it pushes effects, resolves or clears the stack, activates
abilities. An engine is `Lawful` when its resolvers are and its scripts are made of helpers.
Whatever stage a lawful engine goes through, with whatever costs, conditions, targets and
replacements, and wherever it stops, it only `Moves`: the game it has then is reached from the
game it had. So no run loses, duplicates or swaps a card.
-/

namespace CardRules

open Game (Reaches Sound SameRoster)

/-- What a host asks of an engine. -/
inductive Call where
  | push (i : Invocation) (priority : Option Int)
  | resolve
  | clear
  | activate (w : Wish)

namespace Engine

variable {σ : Type} {host : Host σ} {e e' e'' : Engine σ} {i : Invocation}

/-- The engine after a call, whether it was granted or refused. -/
def call (host : Host σ) (e : Engine σ) : Call → Engine σ
  | .push i priority => (e.push host i priority).2
  | .resolve => e.resolveStack host
  | .clear => (e.clearStack host).2
  | .activate w => (e.activate host w).2

/-- The engine after a list of calls. -/
def run (host : Host σ) (calls : List Call) (e : Engine σ) : Engine σ :=
  calls.foldl (call host) e

/-- Resolvers make steps, and scripts are made of helpers. -/
structure Lawful (e : Engine σ) : Prop where
  resolvers : e.resolvers.Lawful
  scripts : e.scripts.OfHelpers

/-- The second engine carries out abilities as the first does, and its game is reached from the
game of the first. -/
structure Moves (e e' : Engine σ) : Prop where
  resolvers : e'.resolvers = e.resolvers
  scripts : e'.scripts = e.scripts
  game : Reaches e.game e'.game

namespace Moves

theorem refl (e : Engine σ) : Moves e e := ⟨rfl, rfl, .refl⟩

theorem trans (h₁ : Moves e e') (h₂ : Moves e' e'') : Moves e e'' :=
  ⟨h₂.resolvers.trans h₁.resolvers, h₂.scripts.trans h₁.scripts, h₁.game.trans h₂.game⟩

theorem lawful (h : Moves e e') (he : e.Lawful) : e'.Lawful :=
  ⟨h.resolvers ▸ he.resolvers, h.scripts ▸ he.scripts⟩

end Moves

/-! ## Listeners and host code -/

theorem Touch.moves (ht : Touch Reaction.Lawful e e') : Moves e e' := by
  cases ht with
  | bus | memory | push | clear => exact ⟨rfl, rfl, .refl⟩
  | update hok hg => exact ⟨rfl, rfl, hok _ _ hg⟩

theorem moves_tell (hh : host.Only Reaction.Lawful) (r : Report) : Moves e (e.tell host r) := by
  have ht := touches_tell (e := e) (r := r) hh
  generalize e.tell host r = e' at ht
  induction ht with
  | refl => exact .refl e
  | tail _ ht ih => exact ih.trans ht.moves

theorem Noted.moves (h : Noted e e') : Moves e e' := by
  obtain ⟨_, rfl⟩ := h
  exact ⟨rfl, rfl, .refl⟩

/-! ## Stages -/

theorem moves_payCost : Moves e (payCost i e).2 := by
  have hpaid := paid_payCost (e := e) (i := i)
  generalize payCost i e = done at hpaid
  obtain ⟨outcome, e'⟩ := done
  cases hpaid with
  | free => exact .refl _
  | unreplaced | refused => exact Noted.moves ⟨_, rfl⟩
  | debited _ _ hpay => exact ⟨rfl, rfl, Cost.reaches_pay hpay⟩

theorem reaches_runBody (he : e.Lawful) {g : Game} (hr : (runBody i e).1 = .ok g) :
    Reaches e.game g := by
  unfold runBody at hr
  split at hr
  · rename_i id _
    have hx := he.scripts.reaches_execute id { e.context i with }
      { game := e.game, journal := e.journal }
    generalize e.scripts.execute id { e.context i with }
      { game := e.game, journal := e.journal } = done at hr hx
    obtain ⟨outcome, s⟩ := done
    cases outcome with
    | error f => cases hr
    | ok _ =>
      cases hr
      exact hx
  · exact ResolverTable.chain_resolve he.resolvers hr

/-- The engine once a body has run to its end and its game is taken over. -/
theorem moves_ran (he : e.Lawful) {g : Game} (hr : runBody i e = (.ok g, e')) :
    Moves e { e' with game := g } := by
  have hg := reaches_runBody he (i := i) (g := g) (by rw [hr])
  have hnoted := noted_runBody (e := e) (i := i)
  rw [hr] at hnoted
  exact ⟨hnoted.moves.resolvers, hnoted.moves.scripts, hg⟩

theorem moves_markUsed {a : Ability} : Moves e (e.markUsed a) := by
  unfold markUsed
  split <;> exact ⟨rfl, rfl, .refl⟩

theorem moves_tellChange (hh : host.Only Reaction.Lawful) {before : Nat} {id : String} :
    Moves e (e.tellChange host before id) := by
  unfold tellChange
  split
  · exact .refl e
  · exact moves_tell hh _

theorem moves_resolveBody (hh : host.Only Reaction.Lawful) (he : e.Lawful) {before : Nat} :
    Moves e (resolveBody host before i e).2 := by
  unfold resolveBody
  have h₁ := noted_replaceBody (e := e) (i := i)
  split <;> rename_i hreplace <;> rw [hreplace] at h₁
  · exact h₁.moves
  · rename_i j e₁
    have h₂ := h₁.trans (noted_conditionHolds (i := j))
    split <;> rename_i hcond <;> rw [hcond] at h₂
    · exact h₂.moves
    · exact h₂.moves.trans ((moves_tell hh _).trans (moves_tellChange hh))
    · have h₃ := h₂.trans (noted_runBody (i := j))
      split <;> rename_i hrun
      · rw [hrun] at h₃
        exact h₃.moves
      · have hran := h₂.moves.trans (moves_ran (h₂.moves.lawful he) hrun)
        have hmarked := hran.trans (moves_markUsed (a := i.ability))
        exact hmarked.trans ((moves_tellChange hh).trans (moves_tell hh _))

theorem moves_resolveInvocation (hh : host.Only Reaction.Lawful) (he : e.Lawful) :
    Moves e (resolveInvocation host i e).2 := by
  unfold resolveInvocation
  have hm := moves_payCost (e := e) (i := i)
  split
  · rename_i f e' hrun
    rwa [hrun] at hm
  · rename_i e' hrun
    rw [hrun] at hm
    exact hm.trans (moves_resolveBody hh (hm.lawful he))

theorem moves_process (hh : host.Only Reaction.Lawful) (he : e.Lawful) :
    Moves e (process host i e) := by
  unfold process
  have hm := moves_resolveInvocation (i := i) hh he
  split
  · rename_i ran e' hrun
    rwa [hrun] at hm
  · rename_i f e' hrun
    rw [hrun] at hm
    exact hm.trans (moves_tell hh _)

theorem moves_drain (hh : host.Only Reaction.Lawful) (he : e.Lawful) (remaining : Nat) :
    Moves e (drain host remaining e) := by
  induction remaining generalizing e with
  | zero =>
    unfold drain
    split
    · exact .refl e
    · exact moves_tell hh _
  | succ remaining ih =>
    unfold drain
    split
    · exact .refl e
    · rename_i p hp
      have htaken : Moves e { e with stack := e.stack.filter (·.addedAt != p.addedAt) } :=
        ⟨rfl, rfl, .refl⟩
      have hm := htaken.trans (moves_process (i := p.invocation) hh (htaken.lawful he))
      exact hm.trans (ih (hm.lawful he))

/-! ## Activation -/

theorem moves_resolveAccepted (hh : host.Only Reaction.Lawful) (he : e.Lawful) {w : Wish} :
    Moves e (resolveAccepted host w i e).2 := by
  unfold resolveAccepted
  have hm := moves_resolveInvocation (i := i) hh he
  split
  · rename_i hrun
    rwa [hrun] at hm
  · rename_i hrun
    rwa [hrun] at hm
  · rename_i hrun
    rw [hrun] at hm
    exact hm.trans (moves_tell hh _)

theorem moves_activate (hh : host.Only Reaction.Lawful) (he : e.Lawful) {w : Wish} :
    Moves e (activate host w e).2 := by
  unfold activate
  split
  · exact .refl e
  · exact .refl e
  · rename_i c a hfind
    have hnoted := noted_obstacle (e := e) (w := w) (c := c) (a := a)
    split <;> rename_i hrun <;> rw [hrun] at hnoted
    · exact hnoted.moves
    · exact hnoted.moves
    · have ht := hnoted.moves.trans (moves_tell hh (.activated w.cardId (wished w c a)))
      exact ht.trans (moves_resolveAccepted hh (ht.lawful he))

/-! ## Runs -/

theorem moves_call (hh : host.Only Reaction.Lawful) (he : e.Lawful) (c : Call) :
    Moves e (call host e c) := by
  cases c with
  | push i priority =>
    have hm : Moves e (e.enqueue i (priority.getD i.priority)) := ⟨rfl, rfl, .refl⟩
    exact hm.trans (moves_tell hh _)
  | resolve =>
    have hm := moves_drain hh he e.settings.stackLimit.toNat
    exact ⟨hm.resolvers, hm.scripts, hm.game⟩
  | clear =>
    have hm : Moves e { e with stack := [] } := ⟨rfl, rfl, .refl⟩
    exact hm.trans (moves_tell hh _)
  | activate w => exact moves_activate hh he

theorem moves_run (hh : host.Only Reaction.Lawful) (he : e.Lawful) (calls : List Call) :
    Moves e (run host calls e) := by
  induction calls generalizing e with
  | nil => exact .refl e
  | cons c rest ih =>
    have hm := moves_call hh he c
    exact hm.trans (ih (hm.lawful he))

/-- No card is lost, duplicated or swapped: whatever is called, the game stays sound and keeps
the seats and the cards it had, each with its owner and its face. -/
theorem run_conserves (bonus : DonBonus) (calls : List Call) (hh : host.Only Reaction.Lawful)
    (hr : e.resolvers = .standard bonus) (hs : e.scripts.OfHelpers) (hg : e.game.Sound) :
    (run host calls e).game.Sound ∧ SameRoster e.game (run host calls e).game := by
  have he : e.Lawful := ⟨hr ▸ ResolverTable.standard_lawful bonus, hs⟩
  have hroster := (moves_run hh he calls).game.sameRoster hg.toDistinct
  exact ⟨hg.of_sameRoster hroster, hroster⟩

theorem run_conserves_opening :
    (run .silent [.push (paidDraw "draw_1") none, .resolve] (standard Game.opening)).game.Sound ∧
      SameRoster Game.opening
        (run .silent [.push (paidDraw "draw_1") none, .resolve] (standard Game.opening)).game :=
  run_conserves ⟨none, 1000⟩ _ (Host.only_silent _) rfl ScriptBook.stock_ofHelpers
    Game.sound_opening

end Engine

end CardRules
