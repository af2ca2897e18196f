import CardRules.Proofs.CardText.Removal
import CardRules.Proofs.Cost.Footprint
import CardRules.Proofs.Hosted

/-!
# Printed conditions outlast payments

A condition that is read off a text only compares quantities that a payment does not touch, or asks
that something be small which a payment at most makes smaller (`Condition.Lasting`). So an ability
whose condition holds when its cost is checked still has it hold when the cost is paid
(`eval_combined_of_spares`).
-/

namespace CardRules

open CardText

/-- What card text compares, and how. -/
def CardText.comparisons : List (Quantity × Comparison) := [
  (.sourceDon, .gte), (.controllerDon, .gte), (.controllerHand, .lte), (.controllerLife, .lte),
  (.opponentCharacters, .gte), (.controllerCharacters, .gte)]

/-- The condition is one of these comparisons with a number. -/
def Condition.Lasting (c : Condition) : Prop :=
  ∃ q op n, (q, op) ∈ comparisons ∧ c = .compare (.text q.word) op (.int n)

namespace CardText

variable {rules : List Rule} {cardId text : String} {a : Ability} {s rest : List Char}
  {cs : List Condition}

theorem lasting_hasDon (n : Int) : (hasDon n).Lasting :=
  ⟨.sourceDon, .gte, n, List.mem_cons_self, rfl⟩

theorem comparison_of_clause : ∀ clause ∈ conditionClauses,
    ∃ q, clause.quantity = q.word ∧ (q, clause.comparison) ∈ comparisons := by
  simp only [conditionClauses, List.forall_mem_cons, List.not_mem_nil, false_implies, implies_true,
    and_true]
  exact ⟨⟨.controllerDon, rfl, by decide⟩, ⟨.controllerHand, rfl, by decide⟩,
    ⟨.controllerLife, rfl, by decide⟩, ⟨.opponentCharacters, rfl, by decide⟩,
    ⟨.controllerCharacters, rfl, by decide⟩⟩

theorem lasting_of_split (h : splitConditions s = .ok (cs, rest)) : ∀ c ∈ cs, c.Lasting := by
  intro c hc
  obtain ⟨clause, hclause, n, rfl⟩ := clause_of_mem_lifted h hc
  obtain ⟨q, hq, hmem⟩ := comparison_of_clause clause hclause
  exact ⟨q, clause.comparison, n, hmem, by rw [hq]⟩

/-- The conditions of a printed ability are lasting. -/
theorem lasting_of_mem (h : a ∈ abilities rules cardId text) :
    ∃ cs, a.condition = combined cs ∧ ∀ c ∈ cs, c.Lasting := by
  obtain ⟨index, pendingDon, t, -, hread⟩ := exists_segment h
  obtain ⟨timing, trigger, required, cost, body, conds, rest, name, kind, parameters, -, -, hconds,
    -, rfl⟩ := readSegment_eq hread
  refine ⟨_, rfl, fun c hc => ?_⟩
  rcases List.mem_append.1 hc with hc | hc
  · obtain ⟨n, -, rfl⟩ := by simpa using hc
    exact lasting_hasDon n
  · exact lasting_of_split hconds c hc

end CardText

/-! ## Before and after a payment -/

section spares

variable {g h : Game} {i : Invocation} {bonus bonus' : DonBonus} {answer answer' : Answering}
  {q : Quantity} {op : Comparison} {c : Condition} {cs : List Condition} {j k : Journal}

/-- A DON!! that a card has is not lost to a payment. -/
theorem Game.Spares.sourceDon_le (hs : g.Spares h) (hh : h.Distinct) (id : String) :
    ((g.card? id).map fun c => (c.givenDon.length : Int)).getD 0 ≤
      ((h.card? id).map fun c => (c.givenDon.length : Int)).getD 0 := by
  cases hl : g.locate? id with
  | none =>
    rw [Game.card?, hl]
    cases h.card? id with
    | none => exact Int.le_refl 0
    | some c => exact Int.natCast_nonneg _
  | some q =>
    have hq : q ∈ g.placed := List.mem_of_find?_eq_some hl
    obtain ⟨r, hr, hid, hdon, -⟩ := hs.cards q hq
    have hl' := (Game.locate?_eq_some_iff hh).2 ⟨hr, hid.trans (Game.id_of_locate? hl)⟩
    rw [Game.card?, hl, Game.card?, hl']
    simp [hdon]

/-- A payment keeps what is compared as large as it was, or as small. -/
theorem value_of_spares (hs : g.Spares h) (hg : g.Sound) (hh : h.Distinct)
    (hq : (q, op) ∈ comparisons) (i : Invocation) (bonus bonus' : DonBonus)
    (answer answer' : Answering) :
    ∃ m m' : Int, q.value (.ofInvocation g bonus i answer) = .ok (.int m) ∧
      q.value (.ofInvocation h bonus' i answer') = .ok (.int m') ∧ op.holdsNumbers m' m := by
  have hcount : ∀ (p : Player) (measure : Side → Nat),
      (∀ s t : Side, s.Spares t → op.holdsNumbers (measure t) (measure s)) →
      ∃ m m' : Int, Quantity.count g p measure = .ok (.int m) ∧
        Quantity.count h p measure = .ok (.int m') ∧ op.holdsNumbers m' m := by
    intro p measure hmeasure
    obtain ⟨s, hside⟩ := Game.exists_side hg p
    obtain ⟨t, hside', hst⟩ := hs.sides p s hside
    refine ⟨measure s, measure t, ?_, ?_, hmeasure s t hst⟩
    · rw [Quantity.count, Game.side_eq_ok_iff.2 hside]
      rfl
    · rw [Quantity.count, Game.side_eq_ok_iff.2 hside']
      rfl
  simp only [comparisons, List.mem_cons, List.not_mem_nil, or_false, Prod.mk.injEq] at hq
  rcases hq with ⟨rfl, rfl⟩ | ⟨rfl, rfl⟩ | ⟨rfl, rfl⟩ | ⟨rfl, rfl⟩ | ⟨rfl, rfl⟩ | ⟨rfl, rfl⟩
  · have hdon := hs.sourceDon_le hh i.sourceId
    exact ⟨_, _, rfl, rfl, decide_eq_true hdon⟩
  · refine hcount i.controller (·.donInPlay) fun s t hst => ?_
    simp [Comparison.holdsNumbers, hst.donInPlay]
  · refine hcount i.controller (·.hand.length) fun s t hst => ?_
    simpa [Comparison.holdsNumbers] using hst.hand
  · refine hcount i.controller (·.life.length) fun s t hst => ?_
    have hlife : t.life.length = s.life.length :=
      hst.length_cards .life (by decide) (by decide)
    simp [Comparison.holdsNumbers, hlife]
  · refine hcount i.controller.opponent (·.characters.length) fun s t hst => ?_
    have hcharacters : t.characters.length = s.characters.length :=
      hst.length_cards .characterArea (by decide) (by decide)
    simp [Comparison.holdsNumbers, hcharacters]
  · refine hcount i.controller (·.characters.length) fun s t hst => ?_
    have hcharacters : t.characters.length = s.characters.length :=
      hst.length_cards .characterArea (by decide) (by decide)
    simp [Comparison.holdsNumbers, hcharacters]

theorem holdsNumbers_trans {m n l : Int} (hq : (q, op) ∈ comparisons) (h₁ : op.holdsNumbers l m)
    (h₂ : op.holdsNumbers m n) : op.holdsNumbers l n := by
  have hop : op = .gte ∨ op = .lte := by
    revert hq
    cases op <;> cases q <;> decide
  rcases hop with rfl | rfl
  · simp only [Comparison.holdsNumbers, decide_eq_true_eq] at h₁ h₂ ⊢
    omega
  · simp only [Comparison.holdsNumbers, decide_eq_true_eq] at h₁ h₂ ⊢
    omega

theorem eval_of_spares (hs : g.Spares h) (hg : g.Sound) (hh : h.Distinct) (hc : c.Lasting)
    (htrue : ((c.eval (.ofInvocation g bonus i answer)).outcome j).1 = .ok true) :
    ((c.eval (.ofInvocation h bonus' i answer')).outcome k).1 = .ok true := by
  obtain ⟨q, op, n, hq, rfl⟩ := hc
  obtain ⟨m, m', hbefore, hafter, hle⟩ := value_of_spares hs hg hh hq i bonus bonus' answer answer'
  have heval : ∀ (ctx : Context) (m : Int), q.value ctx = .ok (.int m) → ∀ journal,
      ((Condition.eval ctx (.compare (.text q.word) op (.int n))).outcome journal).1 =
        .ok (op.holdsNumbers m n) := by
    intro ctx m hm journal
    have hleft : Operand.value ctx (.text q.word) = .ok (.int m) := by
      simp only [Operand.value, Quantity.ofWord?_word, hm]
    simp only [Condition.compare, Condition.eval, Hosted.outcome_lift, Condition.evalCompare, hleft]
    rfl
  rw [heval _ m hbefore] at htrue
  rw [heval _ m' hafter]
  exact congrArg Except.ok (holdsNumbers_trans hq hle (Except.ok.inj htrue))

theorem evalAll_of_spares (hs : g.Spares h) (hg : g.Sound) (hh : h.Distinct)
    (hc : ∀ c ∈ cs, c.Lasting)
    (htrue : ((Condition.evalAll (.ofInvocation g bonus i answer) cs).outcome j).1 = .ok true) :
    ((Condition.evalAll (.ofInvocation h bonus' i answer') cs).outcome k).1 = .ok true := by
  induction cs generalizing j k with
  | nil => rfl
  | cons c rest ih =>
    obtain ⟨hfirst, hrest⟩ := List.forall_mem_cons.1 hc
    rw [Condition.evalAll, Hosted.outcome_bind] at htrue ⊢
    split at htrue
    · rename_i b j' hb
      cases b with
      | false => cases htrue
      | true =>
        have hnow : ((c.eval (.ofInvocation h bonus' i answer')).outcome k).1 = .ok true :=
          eval_of_spares hs hg hh hfirst (congrArg Prod.fst hb)
        split
        · rename_i b' k' hb'
          rw [hb'] at hnow
          cases hnow
          exact ih hrest htrue
        · rename_i f k' hf
          rw [hf] at hnow
          cases hnow
    · cases htrue

/-- Lasting conditions that held before a payment hold after it. -/
theorem eval_combined_of_spares (hs : g.Spares h) (hg : g.Sound) (hh : h.Distinct)
    (hc : ∀ c ∈ cs, c.Lasting) (hcombined : combined cs = some c)
    (htrue : ((c.eval (.ofInvocation g bonus i answer)).outcome j).1 = .ok true) :
    ((c.eval (.ofInvocation h bonus' i answer')).outcome k).1 = .ok true := by
  match cs, hcombined with
  | [d], hcombined =>
    cases hcombined
    exact eval_of_spares hs hg hh (hc c List.mem_cons_self) htrue
  | d :: d' :: rest, hcombined =>
    cases hcombined
    exact evalAll_of_spares hs hg hh hc htrue

end spares

end CardRules
