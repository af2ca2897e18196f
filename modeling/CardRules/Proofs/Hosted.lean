import CardRules.Condition.Eval
import CardRules.Replacement

/-!
# Host code to rely on

Host code is `Hosted.Steady` when it answers alike whatever has been recorded before it, so that
asking twice is asking once. It is `Hosted.Solvent` when it leaves complaints of an unpaid cost to
the payment. Both go through sequences, and a condition is a sequence of what its probes answer
(`Condition.Inherited`); so conditions are as reliable as their probes, and replaced costs as
the functions that replace them.
-/

namespace CardRules

/-- Complaints of a cost that cannot be paid. -/
def Fault.isUnpaid : Fault → Bool
  | unpaidCost .. => true
  | _ => false

/-! ## No complaint of an unpaid cost -/

/-- The computation gives a value or fails for another reason than an unpaid cost. -/
def Solvent {α : Type} : Except Fault α → Prop
  | .ok _ => True
  | .error f => f.isUnpaid = false

theorem solvent_bind {α β : Type} {x : Except Fault α} {f : α → Except Fault β} (hx : Solvent x)
    (hf : ∀ a, Solvent (f a)) : Solvent (x >>= f) := by
  cases x with
  | ok a => exact hf a
  | error e => exact hx

theorem solvent_map {α β : Type} {x : Except Fault α} {f : α → β} (hx : Solvent x) :
    Solvent (x.map f) := by
  cases x with
  | ok a => trivial
  | error e => exact hx

namespace Hosted

variable {α β : Type} {x : Hosted α} {f : α → Hosted β}

theorem outcome_bind {journal : Journal} : (x >>= f).outcome journal =
    match x.outcome journal with
    | (.ok a, journal) => (f a).outcome journal
    | (.error e, journal) => (.error e, journal) := by
  unfold outcome
  rw [ExceptT.run_bind, StateT.run_bind]
  obtain ⟨outcome, journal⟩ := StateT.run (ExceptT.run x) journal
  cases outcome <;> rfl

/-- Whatever has been recorded, it fails for no unpaid cost. -/
def Solvent (x : Hosted α) : Prop := ∀ journal, CardRules.Solvent (x.outcome journal).1

theorem solvent_lift {x : Except Fault α} (hx : CardRules.Solvent x) : Solvent (lift x) := by
  intro journal
  rwa [outcome_lift]

protected theorem solvent_bind (hx : Solvent x) (hf : ∀ a, Solvent (f a)) :
    Solvent (x >>= f) := by
  intro journal
  rw [outcome_bind]
  have hfirst := hx journal
  split <;> rename_i hrun
  · exact hf _ _
  · rwa [hrun] at hfirst

/-! ## The same answer each time -/

/-- It gives the same outcome whatever has been recorded before. -/
def Steady (x : Hosted α) : Prop := ∀ j k, (x.outcome j).1 = (x.outcome k).1

theorem steady_pure (a : α) : Steady (pure a) := fun _ _ => rfl

theorem steady_throw (e : Fault) : Steady (throw e : Hosted α) := fun _ _ => rfl

theorem steady_lift (x : Except Fault α) : Steady (lift x) := by
  intro j k
  rw [outcome_lift, outcome_lift]

theorem steady_bind (hx : Steady x) (hf : ∀ a, Steady (f a)) : Steady (x >>= f) := by
  intro j k
  rw [outcome_bind, outcome_bind]
  have hfirst := hx j k
  generalize x.outcome j = first at hfirst ⊢
  generalize x.outcome k = second at hfirst ⊢
  obtain ⟨outcome, j'⟩ := first
  obtain ⟨_, k'⟩ := second
  cases hfirst
  cases outcome with
  | ok a => exact hf a j' k'
  | error e => rfl

end Hosted

/-! ## Conditions -/

namespace Quantity

theorem solvent_count {g : Game} {p : Player} {measure : Side → Nat} :
    Solvent (count g p measure) := by
  unfold count Game.side
  cases g.side? p with
  | none => rfl
  | some s => trivial

theorem solvent_value {ctx : Context} {q : Quantity} : Solvent (q.value ctx) := by
  cases q with
  | sourcePower | sourceCost | sourceDon | turn | phase => trivial
  | controllerHand | controllerLife | controllerDon | controllerActiveDon
  | controllerCharacters | opponentHand | opponentLife | opponentCharacters =>
    exact solvent_count

end Quantity

theorem Operand.solvent_value {ctx : Context} {o : Operand} : Solvent (o.value ctx) := by
  unfold value
  split
  · trivial
  · trivial
  · split
    · trivial
    · split
      · trivial
      · rfl
  · rfl
  · split
    · exact Quantity.solvent_value
    · split <;> trivial

namespace Condition

open Hosted (Steady)

variable {ctx : Context} {P : Hosted Bool → Prop}

theorem solvent_evalCompare {op : Option Comparison} {left right : Option Operand} :
    Solvent (evalCompare ctx op left right) := by
  unfold evalCompare
  split
  · exact solvent_bind Operand.solvent_value fun _ =>
      solvent_bind Operand.solvent_value fun _ => trivial
  · rfl

/-- A property that goes through sequences and holds of the leaves of conditions. -/
structure Inherited (ctx : Context) (P : Hosted Bool → Prop) : Prop where
  sequence : ∀ {x : Hosted Bool} {f : Bool → Hosted Bool}, P x → (∀ b, P (f b)) → P (x >>= f)
  answer : ∀ b, P (pure b)
  fault : ∀ kind message, P (throw (malformed kind message))
  compare : ∀ op left right, P (Hosted.lift (evalCompare ctx op left right))
  probe : ∀ p, P (ctx.answer.probe p ctx.toView)

namespace Inherited

mutual
theorem eval (h : Inherited ctx P) : ∀ c : Condition, P (c.eval ctx)
  | ⟨kind, operands, operator, left, right, keyword, zone, color, probe⟩ => by
    cases kind with
    | and => exact h.evalAll operands
    | or => exact h.evalAny operands
    | not =>
      match operands with
      | [] => exact h.fault _ _
      | [c] => exact h.sequence (h.eval c) fun b => h.answer !b
      | _ :: _ :: _ => exact h.fault _ _
    | compare => exact h.compare operator left right
    | hasKeyword | inZone | isColor => exact h.answer _
    | custom =>
      cases probe with
      | some p => exact h.probe p
      | none => exact h.fault _ _

theorem evalAll (h : Inherited ctx P) : ∀ cs : List Condition, P (Condition.evalAll ctx cs)
  | [] => h.answer true
  | c :: rest => by
    refine h.sequence (h.eval c) fun b => ?_
    cases b with
    | true => exact h.evalAll rest
    | false => exact h.answer false

theorem evalAny (h : Inherited ctx P) : ∀ cs : List Condition, P (Condition.evalAny ctx cs)
  | [] => h.answer false
  | c :: rest => by
    refine h.sequence (h.eval c) fun b => ?_
    cases b with
    | true => exact h.answer true
    | false => exact h.evalAny rest
end

end Inherited

/-- A condition with steady probes gives the same verdict each time. -/
theorem steady_eval (hp : ∀ p, Steady (ctx.answer.probe p ctx.toView)) (c : Condition) :
    Steady (c.eval ctx) := by
  have hsteady : Inherited ctx Steady :=
    { sequence := Hosted.steady_bind
      answer := Hosted.steady_pure
      fault := fun _ _ => Hosted.steady_throw _
      compare := fun _ _ _ => Hosted.steady_lift _
      probe := hp }
  exact hsteady.eval c

theorem solvent_eval (hp : ∀ p, Hosted.Solvent (ctx.answer.probe p ctx.toView)) (c : Condition) :
    Hosted.Solvent (c.eval ctx) := by
  have hsolvent : Inherited ctx Hosted.Solvent :=
    { sequence := Hosted.solvent_bind
      answer := fun _ _ => trivial
      fault := fun _ _ _ => rfl
      compare := fun _ _ _ => Hosted.solvent_lift solvent_evalCompare
      probe := hp }
  exact hsolvent.eval c

end Condition

/-! ## Replacements -/

namespace Replacements

open Hosted (Steady)

variable {rs : Replacements} {entries : List Replacement} {ctx : Context} {α : Type}
  {function : Replacement → Option (α → Context → Hosted α)}

theorem mem_inOrder {r : Replacement} : r ∈ rs.inOrder ↔ r ∈ rs.entries :=
  List.mem_mergeSort

theorem steady_chain
    (hr : ∀ r ∈ entries, ∀ replace ∈ function r, ∀ a, Steady (replace a ctx)) (a : α) :
    Steady (chain function ctx entries a) := by
  induction entries generalizing a with
  | nil => exact Hosted.steady_pure a
  | cons r rest ih =>
    have hrest := ih fun s hs => hr s (List.mem_cons_of_mem r hs)
    unfold chain
    split
    · rename_i replace hreplace
      have hfirst := hr r List.mem_cons_self replace hreplace
      split
      · exact Hosted.steady_bind (hfirst a) hrest
      · exact hrest a
    · exact hrest a

/-- Steady replacements give the same cost each time. -/
theorem steady_applyCost
    (hr : ∀ r ∈ rs.entries, ∀ replace ∈ r.replaceCost, ∀ c, Steady (replace c ctx)) (c : Cost) :
    Steady (rs.applyCost c ctx) :=
  steady_chain (fun r h => hr r (mem_inOrder.1 h)) c

theorem chain_of_none (hr : ∀ r ∈ entries, function r = none) (a : α) :
    chain function ctx entries a = pure a := by
  induction entries with
  | nil => rfl
  | cons r rest ih =>
    rw [chain, hr r List.mem_cons_self]
    exact ih fun s hs => hr s (List.mem_cons_of_mem r hs)

/-- Where no entry replaces bodies, an invocation keeps its own. -/
theorem applyBody_of_none (hr : ∀ r ∈ rs.entries, r.replaceBody = none) (i : Invocation) :
    rs.applyBody i ctx = pure i :=
  chain_of_none (fun r h => hr r (mem_inOrder.1 h)) i

end Replacements

end CardRules
