import CardRules.Proofs.Engine.Run
import Mathlib.Data.List.Perm.Basic

/-!
# The stack between calls

Every stage of a resolution is a chain of `Stage`s, and of these only reports reach listeners.
So pending effects leave the stack only where the engine takes or clears them: with listeners
that do not clear it, a resolution `Grows` the stack behind the effects that were there. The
effects are numbered as they come (`Numbered`), so their numbers tell them apart and tell which
was queued first.

Whoever listens, a property that lasts while effects are queued and taken away (`Durable`) lasts
through all calls.
-/

namespace CardRules

namespace Reaction

/-- The listener does not clear the stack. -/
def KeepsStack : Reaction → Prop
  | .clear => False
  | _ => True

/-- The listener does not queue effects either. -/
def LeavesStack : Reaction → Prop
  | .push .. | .clear => False
  | _ => True

end Reaction

namespace Engine

variable {σ : Type} {host : Host σ} {e e' e'' : Engine σ} {i : Invocation}
  {added more : List Pending}

/-! ## Stages -/

/-- One thing the engine does by itself while it resolves an effect. -/
inductive Stage (host : Host σ) : Engine σ → Engine σ → Prop where
  | note (e : Engine σ) (journal : Journal) : Stage host e { e with journal := journal }
  | game (e : Engine σ) (g : Game) : Stage host e { e with game := g }
  | mark (e : Engine σ) (used : List Nat) : Stage host e { e with used := used }
  /-- What the engine itself says of one effect; meeting the limit is no part of that. -/
  | tell (e : Engine σ) {r : Report} : r.kind ≠ .log → Stage host e (e.tell host r)

abbrev Stages (host : Host σ) : Engine σ → Engine σ → Prop :=
  Relation.ReflTransGen (Stage host)

theorem Noted.stages (host : Host σ) (h : Noted e e') : Stages host e e' := by
  obtain ⟨journal, rfl⟩ := h
  exact .single (.note e journal)

theorem stages_payCost (host : Host σ) : Stages host e (payCost i e).2 := by
  have hpaid := paid_payCost (e := e) (i := i)
  generalize payCost i e = done at hpaid
  obtain ⟨outcome, e'⟩ := done
  cases hpaid with
  | free => exact .refl
  | unreplaced | refused => exact .single (.note e _)
  | debited => exact .tail (.single (.game e _)) (.note _ _)

theorem stages_markUsed (host : Host σ) {a : Ability} : Stages host e (e.markUsed a) := by
  unfold markUsed
  split
  · exact .single (.mark e _)
  · exact .refl

theorem stages_tellChange (host : Host σ) {before : Nat} {id : String} :
    Stages host e (e.tellChange host before id) := by
  unfold tellChange
  split
  · exact .refl
  · exact .single (.tell e (by nofun))

theorem stages_resolveBody (host : Host σ) {before : Nat} :
    Stages host e (resolveBody host before i e).2 := by
  unfold resolveBody
  have h₁ := noted_replaceBody (e := e) (i := i)
  split <;> rename_i hreplace <;> rw [hreplace] at h₁
  · exact h₁.stages host
  · rename_i j e₁
    have h₂ := h₁.trans (noted_conditionHolds (i := j))
    split <;> rename_i hcond <;> rw [hcond] at h₂
    · exact h₂.stages host
    · exact ((h₂.stages host).tail (.tell _ (by nofun))).trans (stages_tellChange host)
    · have h₃ := h₂.trans (noted_runBody (i := j))
      split <;> rename_i hrun <;> rw [hrun] at h₃
      · exact h₃.stages host
      · rename_i g e₃
        have hran : Stages host e { e₃ with game := g } := (h₃.stages host).tail (.game _ g)
        have hmarked := hran.trans (stages_markUsed host (a := i.ability))
        exact (hmarked.trans (stages_tellChange host)).tail (.tell _ (by nofun))

theorem stages_resolveInvocation (host : Host σ) :
    Stages host e (resolveInvocation host i e).2 := by
  unfold resolveInvocation
  have hpay := stages_payCost host (e := e) (i := i)
  split <;> rename_i hrun <;> rw [hrun] at hpay
  · exact hpay
  · exact hpay.trans (stages_resolveBody host)

theorem stages_process (host : Host σ) : Stages host e (process host i e) := by
  unfold process
  have hresolve := stages_resolveInvocation host (e := e) (i := i)
  split <;> rename_i hrun <;> rw [hrun] at hresolve
  · exact hresolve
  · exact hresolve.tail (.tell _ (by nofun))

theorem stages_resolveAccepted (host : Host σ) {w : Wish} :
    Stages host e (resolveAccepted host w i e).2 := by
  unfold resolveAccepted
  have hresolve := stages_resolveInvocation host (e := e) (i := i)
  split <;> rename_i hrun <;> rw [hrun] at hresolve
  · exact hresolve
  · exact hresolve
  · exact hresolve.tail (.tell _ (by nofun))

theorem stages_activate (host : Host σ) {w : Wish} : Stages host e (activate host w e).2 := by
  unfold activate
  split
  · exact .refl
  · exact .refl
  · rename_i c a hfind
    have hnoted := noted_obstacle (e := e) (w := w) (c := c) (a := a)
    split <;> rename_i hrun <;> rw [hrun] at hnoted
    · exact hnoted.stages host
    · exact hnoted.stages host
    · exact ((hnoted.stages host).tail (.tell _ (by nofun))).trans (stages_resolveAccepted host)

/-! ## Growing -/

/-- The pending effects are those of the first engine and behind them newly queued ones, numbered
on from there. -/
structure Grows (e : Engine σ) (added : List Pending) (e' : Engine σ) : Prop where
  stack : e'.stack = e.stack ++ added
  queued : e'.queued = e.queued + added.length
  numbers : added.map (·.addedAt) = List.range' e.queued added.length

namespace Grows

theorem of_same (hs : e'.stack = e.stack) (hq : e'.queued = e.queued) : Grows e [] e' :=
  ⟨by simp [hs], by simp [hq], rfl⟩

theorem refl (e : Engine σ) : Grows e [] e := of_same rfl rfl

theorem trans (h₁ : Grows e added e') (h₂ : Grows e' more e'') : Grows e (added ++ more) e'' := by
  refine ⟨?_, ?_, ?_⟩
  · rw [h₂.stack, h₁.stack, List.append_assoc]
  · rw [h₂.queued, h₁.queued, List.length_append, Nat.add_assoc]
  · rw [List.map_append, h₁.numbers, h₂.numbers, h₁.queued, List.length_append,
      List.range'_append_1]

theorem enqueue (e : Engine σ) (i : Invocation) (priority : Int) :
    Grows e [⟨i, priority, e.queued⟩] (e.enqueue i priority) := ⟨rfl, rfl, rfl⟩

end Grows

theorem Touch.grows (ht : Touch Reaction.KeepsStack e e') : ∃ added, Grows e added e' := by
  cases ht with
  | bus | memory | update => exact ⟨[], .of_same rfl rfl⟩
  | push hok => exact ⟨_, .enqueue e _ _⟩
  | clear hok => exact hok.elim

theorem grows_tell (hh : host.Only Reaction.KeepsStack) (r : Report) :
    ∃ added, Grows e added (e.tell host r) := by
  have ht := touches_tell (e := e) (r := r) hh
  generalize e.tell host r = e' at ht
  induction ht with
  | refl => exact ⟨[], .refl e⟩
  | tail _ ht ih =>
    obtain ⟨added, h₁⟩ := ih
    obtain ⟨more, h₂⟩ := ht.grows
    exact ⟨added ++ more, h₁.trans h₂⟩

theorem Stages.grows (hh : host.Only Reaction.KeepsStack) (hs : Stages host e e') :
    ∃ added, Grows e added e' := by
  induction hs with
  | refl => exact ⟨[], .refl e⟩
  | tail _ hs ih =>
    obtain ⟨added, h₁⟩ := ih
    cases hs with
    | note | game | mark => exact ⟨added, h₁.stack, h₁.queued, h₁.numbers⟩
    | @tell r _ =>
      obtain ⟨more, h₂⟩ := grows_tell hh r
      exact ⟨added ++ more, h₁.trans h₂⟩

/-- Listeners that neither queue nor clear leave the stack as it is. -/
theorem Touch.stack_eq (ht : Touch Reaction.LeavesStack e e') : e'.stack = e.stack := by
  cases ht with
  | bus | memory | update => rfl
  | push hok => exact hok.elim
  | clear hok => exact hok.elim

theorem stack_tell (hh : host.Only Reaction.LeavesStack) (r : Report) :
    (e.tell host r).stack = e.stack := by
  have ht := touches_tell (e := e) (r := r) hh
  generalize e.tell host r = e' at ht
  induction ht with
  | refl => rfl
  | tail _ ht ih => exact ht.stack_eq.trans ih

theorem Stages.stack_eq (hh : host.Only Reaction.LeavesStack) (hs : Stages host e e') :
    e'.stack = e.stack := by
  induction hs with
  | refl => rfl
  | tail _ hs ih =>
    cases hs with
    | note | game | mark => exact ih
    | tell => exact (stack_tell hh _).trans ih

/-! ## Numbers -/

/-- Pending effects stand in the order of their numbers, and the next number is free. -/
structure Numbered (e : Engine σ) : Prop where
  increasing : e.stack.Pairwise (·.addedAt < ·.addedAt)
  below : ∀ p ∈ e.stack, p.addedAt < e.queued

namespace Numbered

theorem of_stack_nil (h : e.stack = []) : Numbered e := ⟨by simp [h], by simp [h]⟩

theorem grows (he : Numbered e) (hg : Grows e added e') : Numbered e' := by
  have hadded : ∀ q ∈ added, e.queued ≤ q.addedAt ∧ q.addedAt < e.queued + added.length := by
    intro q hq
    have hmem : q.addedAt ∈ added.map (·.addedAt) := List.mem_map_of_mem hq
    rw [hg.numbers, List.mem_range'_1] at hmem
    exact hmem
  constructor
  · rw [hg.stack, List.pairwise_append]
    refine ⟨he.increasing, ?_, fun p hp q hq => ?_⟩
    · have hnumbers : (added.map (·.addedAt)).Pairwise (· < ·) := by
        rw [hg.numbers]
        exact List.pairwise_lt_range'
      exact List.pairwise_map.1 hnumbers
    · have h₁ := he.below p hp
      have h₂ := (hadded q hq).1
      omega
  · intro p hp
    rw [hg.stack, List.mem_append] at hp
    rw [hg.queued]
    rcases hp with hp | hp
    · have := he.below p hp
      omega
    · exact (hadded p hp).2

/-- Taking effects off the stack keeps the numbers of the others. -/
theorem sublist (he : Numbered e) {stack : List Pending} (hs : stack.Sublist e.stack) :
    Numbered { e with stack := stack } :=
  ⟨he.increasing.sublist hs, fun p hp => he.below p (hs.subset hp)⟩

theorem nodup (he : Numbered e) : (e.stack.map (·.addedAt)).Nodup :=
  List.pairwise_map.2 (he.increasing.imp fun h => Nat.ne_of_lt h)

/-- Effects that are numbered on from the next number are told from those that wait. -/
theorem nodup_append (he : Numbered e)
    (hn : added.map (·.addedAt) = List.range' e.queued added.length) :
    ((e.stack ++ added).map (·.addedAt)).Nodup := by
  rw [List.map_append, List.nodup_append]
  refine ⟨he.nodup, ?_, ?_⟩
  · rw [hn]
    exact List.nodup_range'
  · intro m hm n hnew
    rw [hn, List.mem_range'_1] at hnew
    obtain ⟨p, hp, rfl⟩ := List.mem_map.1 hm
    have := he.below p hp
    omega

end Numbered

/-! ## Whoever listens -/

theorem Host.only_true (host : Host σ) : host.Only fun _ => True := fun _ _ _ _ _ _ => trivial

/-- A property of the stack, the next number and what is plugged in that does not end when an effect
is queued or when effects are taken away. -/
structure Durable (P : Engine σ → Prop) : Prop where
  same : ∀ {e e'}, P e → e'.stack = e.stack → e'.queued = e.queued → SamePlugs e e' → P e'
  enqueue : ∀ {e} i priority, P e → P (e.enqueue i priority)
  sublist : ∀ {e stack}, stack.Sublist e.stack → P e → P { e with stack := stack }

namespace Durable

variable {P : Engine σ → Prop}

theorem touch {ok : Reaction → Prop} (hP : Durable P) (ht : Touch ok e e') (he : P e) : P e' := by
  cases ht with
  | bus | memory | update => exact hP.same he rfl rfl ⟨rfl, rfl, rfl, rfl⟩
  | push => exact hP.enqueue _ _ he
  | clear => exact hP.sublist (List.nil_sublist _) he

theorem tell (hP : Durable P) (host : Host σ) (r : Report) (he : P e) : P (e.tell host r) := by
  have ht := touches_tell (e := e) (r := r) (Host.only_true host)
  generalize e.tell host r = e' at ht
  induction ht with
  | refl => exact he
  | tail _ ht ih => exact hP.touch ht ih

theorem stages (hP : Durable P) (hs : Stages host e e') (he : P e) : P e' := by
  induction hs with
  | refl => exact he
  | tail _ hs ih =>
    cases hs with
    | note | game | mark => exact hP.same ih rfl rfl ⟨rfl, rfl, rfl, rfl⟩
    | tell => exact hP.tell host _ ih

/-- One turn of a resolution: the next effect is taken off the stack and processed. -/
theorem turn (hP : Durable P) (host : Host σ) (p : Pending) (he : P e) :
    P (process host p.invocation { e with stack := e.stack.filter (·.addedAt != p.addedAt) }) :=
  hP.stages (stages_process host) (hP.sublist List.filter_sublist he)

theorem drain (hP : Durable P) (host : Host σ) (remaining : Nat) (he : P e) :
    P (drain host remaining e) := by
  induction remaining generalizing e with
  | zero =>
    unfold Engine.drain
    split
    · exact he
    · exact hP.tell host _ he
  | succ remaining ih =>
    unfold Engine.drain
    split
    · exact he
    · exact ih (hP.turn host _ he)

theorem call (hP : Durable P) (host : Host σ) (he : P e) (c : Call) : P (call host e c) := by
  cases c with
  | push i priority => exact hP.tell host _ (hP.enqueue i _ he)
  | resolve => exact hP.sublist (List.nil_sublist _) (hP.drain host _ he)
  | clear => exact hP.tell host _ (hP.sublist (List.nil_sublist _) he)
  | activate w => exact hP.stages (stages_activate host) he

theorem run (hP : Durable P) (host : Host σ) (he : P e) (calls : List Call) :
    P (run host calls e) := by
  induction calls generalizing e with
  | nil => exact he
  | cons c rest ih => exact ih (hP.call host he c)

end Durable

theorem durable_numbered : Durable (Numbered (σ := σ)) where
  same he hs hq _ := ⟨hs ▸ he.increasing, hs ▸ hq ▸ he.below⟩
  enqueue i priority he := he.grows (.enqueue _ i priority)
  sublist hs he := he.sublist hs

theorem numbered_run (he : Numbered e) (calls : List Call) : Numbered (run host calls e) :=
  durable_numbered.run host he calls

end Engine

end CardRules
