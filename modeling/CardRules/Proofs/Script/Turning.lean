import CardRules.Proofs.Game.Places

/-!
# What turns cards

Cards that are found on the field stay there while cards are turned. So costs, which rest active
characters, turn cards on the field only, and so does the stock script that rests the characters of
the opponent. Two stock scripts ask of their target no more than that it is a card, and turn it
wherever it lies (`Script.turning?`); the others turn no card at all.
-/

namespace CardRules

open Game (FieldReaches FieldStep)

variable {g h : Game} {id : String} {o : Orientation}

namespace Game

theorem FieldStep.of_isOnField (hon : g.isOnField id)
    (h₁ : g.updateCard id (fun c => { c with orientation := o }) = .ok h) : FieldStep g h := by
  obtain ⟨found, hl, hfield⟩ := isOnField_iff.1 hon
  exact .turn hl (.inl hfield) h₁

theorem FieldReaches.distinct (h₁ : FieldReaches g h) (hg : g.Distinct) : h.Distinct :=
  hg.of_sameRoster (h₁.reaches.sameRoster hg)

/-- Turning a card takes no card off the field. -/
theorem isOnField_turn {other : String} (hg : g.Distinct)
    (h₁ : g.updateCard other (fun c => { c with orientation := o }) = .ok h)
    (hon : g.isOnField id) : h.isOnField id := by
  obtain ⟨q, hl, hfield⟩ := isOnField_iff.1 hon
  obtain ⟨hq, rfl⟩ := (locate?_eq_some_iff hg).1 hl
  have hh : h.Distinct := hg.of_sameRoster ((Step.orient h₁).sameRoster hg)
  obtain ⟨found, hl', hplaced⟩ := mem_placed_updateCard hg h₁
  by_cases hid : q.card.id = other
  · obtain rfl : q = found := by
      rw [← hid, hl] at hl'
      exact Option.some.inj hl'
    exact isOnField_iff.2 ⟨_, (locate?_eq_some_iff hh).2 ⟨(hplaced _).2 (.inl rfl), rfl⟩, hfield⟩
  · have hstays : q ∈ h.placed := (hplaced q).2 (.inr ⟨hq, hid⟩)
    exact isOnField_iff.2 ⟨q, (locate?_eq_some_iff hh).2 ⟨hstays, rfl⟩, hfield⟩

end Game

/-! ## Costs -/

namespace Cost

variable {who : Player}

theorem fieldReaches_restCards {ids : List String} (hg : g.Distinct)
    (hon : ∀ id ∈ ids, g.isOnField id) (hr : restCards g ids = .ok h) : FieldReaches g h := by
  induction ids generalizing g with
  | nil =>
    cases hr
    exact .refl
  | cons id rest ih =>
    obtain ⟨k, hk, hr⟩ := ok_of_bind hr
    have hstep : FieldReaches g k := (FieldStep.of_isOnField (hon id List.mem_cons_self) hk).reaches
    refine hstep.trans (ih (hstep.distinct hg) (fun other hother => ?_) hr)
    exact Game.isOnField_turn hg hk (hon other (List.mem_cons_of_mem _ hother))

theorem fieldReaches_debitSimple {kind : CostKind} {amount : Int} (hg : g.Distinct)
    (hd : debitSimple g who kind amount = .ok h) : FieldReaches g h := by
  cases kind with
  | restDon => exact (FieldStep.restDon hd).reaches
  | trashCard =>
    obtain ⟨s, -, hd⟩ := ok_of_bind hd
    exact Game.fieldReaches_moveCards hd
  | restCard =>
    obtain ⟨s, hs, hd⟩ := ok_of_bind hd
    refine fieldReaches_restCards hg (fun id hid => ?_) hd
    obtain ⟨c, hc, rfl⟩ := List.mem_map.1 hid
    have hfirst := firstItems_prefix amount (s.characters.filter (·.orientation == .active))
    have hmem : c ∈ s.cards .characterArea := List.mem_of_mem_filter (hfirst.subset hc)
    exact Game.isOnField_of_mem hg (Game.side_eq_ok_iff.1 hs) (by decide) rfl hmem
  | composite =>
    cases hd
    exact .refl

/-- A payment turns cards on the field only. -/
theorem fieldReaches_pay {c : Cost} (hg : g.Distinct) (hp : c.pay who g = .ok h) :
    FieldReaches g h := by
  have hdebit : g.Distinct → FieldReaches g h :=
    rel_debit (R := fun g h => g.Distinct → FieldReaches g h) (fun _ _ => .refl)
      (fun h₁ h₂ hg => (h₁ hg).trans (h₂ ((h₁ hg).distinct hg)))
      (fun hd hg => fieldReaches_debitSimple hg hd) (debit_of_pay hp)
  exact hdebit hg

end Cost

/-! ## Scripts -/

namespace ScriptM

variable {α β : Type} {x : ScriptM α} {f : α → ScriptM β} {ctx : ScriptContext}
  {s t : ScriptState}

/-- Where ids are distinct, and whatever the outcome, cards have been turned on the field only. -/
def TurnsOnField (x : ScriptM α) : Prop := Does (fun g h => g.Distinct → FieldReaches g h) x

theorem inherited_turnsOnField : Inherited False @TurnsOnField :=
  inherited_does (fun _ _ => .refl)
    (fun h₁ h₂ hg => (h₁ hg).trans (h₂ ((h₁ hg).distinct hg)))
    (fun h _ => (FieldStep.move h).reaches) (fun h _ => (FieldStep.modify h).reaches) False.elim

theorem runIn_card : (card id).runIn ctx s = (((s.game.card? id).map Except.ok).getD
    (.error (.scriptFailed (some ("Card " ++ id ++ " not found")) ctx.scriptId)), s) := by
  unfold card
  rw [runIn_bind, runIn_game]
  dsimp only
  cases s.game.card? id <;> rfl

theorem runIn_side (p : Player) (ctx : ScriptContext) (s : ScriptState) :
    (side p).runIn ctx s = (s.game.side p, s) := by
  unfold side
  rw [runIn_bind, runIn_game]
  dsimp only
  cases s.game.side p <;> rfl

/-- A card is turned, or nothing has happened. -/
theorem runIn_orient (o : Orientation) (id : String) (ctx : ScriptContext) (s : ScriptState) :
    (∃ f, (orient o id).runIn ctx s = (.error f, s)) ∨
    ∃ g, s.game.updateCard id (fun c => { c with orientation := o }) = .ok g ∧
      (orient o id).runIn ctx s = (.ok (), { s with game := g }) := by
  unfold orient
  rw [runIn_bind, runIn_card]
  cases s.game.card? id with
  | none => exact .inl ⟨_, rfl⟩
  | some c =>
    dsimp only [Option.map_some, Option.getD_some]
    rw [runIn_change]
    cases s.game.updateCard id (fun c => { c with orientation := o }) with
    | error f => exact .inl ⟨f, rfl⟩
    | ok g => exact .inr ⟨g, rfl, rfl⟩

theorem runIn_firstCardTarget (ctx : ScriptContext) (s : ScriptState) :
    (∃ f, firstCardTarget.runIn ctx s = (.error f, s)) ∨
    ∃ id, ctx.targets.head?.bind Target.cardId? = some id ∧
      firstCardTarget.runIn ctx s = (.ok id, s) := by
  unfold firstCardTarget
  rw [runIn_ask]
  rcases ctx.targets with _ | ⟨target, rest⟩
  · exact .inl ⟨_, rfl⟩
  · dsimp only [List.head?_cons, Option.bind_some]
    cases target.cardId? with
    | none => exact .inl ⟨_, rfl⟩
    | some id => exact .inr ⟨id, rfl, rfl⟩

/-- The first target is turned, wherever it lies. -/
theorem runIn_turnTarget (hrun : (firstCardTarget >>= orient o).runIn ctx s = (.ok (), t)) :
    ∃ id, ctx.targets.head?.bind Target.cardId? = some id ∧
      s.game.updateCard id (fun c => { c with orientation := o }) = .ok t.game := by
  rw [runIn_bind] at hrun
  obtain ⟨f, htarget⟩ | ⟨id, hhead, htarget⟩ := runIn_firstCardTarget ctx s
  · rw [htarget] at hrun
    cases hrun
  · rw [htarget] at hrun
    dsimp only at hrun
    obtain ⟨f, hturn⟩ | ⟨g, hg, hturn⟩ := runIn_orient o id ctx s
    · rw [hturn] at hrun
      cases hrun
    · rw [hturn] at hrun
      cases hrun
      exact ⟨id, hhead, hg⟩

/-- Resting cards one after the other leaves them on the field. -/
theorem fieldReaches_restAll {cards : List Card} (hg : s.game.Distinct)
    (hon : ∀ c ∈ cards, s.game.isOnField c.id) :
    FieldReaches s.game ((Script.restAll cards).runIn ctx s).2.game := by
  induction cards generalizing s with
  | nil => exact .refl
  | cons c rest ih =>
    rw [Script.restAll, runIn_bind, restCard]
    obtain ⟨f, hturn⟩ | ⟨g, hstep, hturn⟩ := runIn_orient .rested c.id ctx s
    · rw [hturn]
    · rw [hturn]
      have hfirst : FieldReaches s.game g :=
        (FieldStep.of_isOnField (hon c List.mem_cons_self) hstep).reaches
      have hrest : ∀ d ∈ rest, g.isOnField d.id := fun d hd =>
        Game.isOnField_turn hg hstep (hon d (List.mem_cons_of_mem _ hd))
      exact hfirst.trans (ih (s := { s with game := g }) (hfirst.distinct hg) hrest)

theorem turnsOnField_restAllOpponentCharacters :
    TurnsOnField Script.restAllOpponentCharacters := by
  intro ctx s hg
  unfold Script.restAllOpponentCharacters
  rw [runIn_ask, runIn_bind, runIn_side]
  cases hs : s.game.side ctx.controller.opponent with
  | error f => exact .refl
  | ok opponent =>
    refine fieldReaches_restAll hg fun c hc => ?_
    have hmem : c ∈ opponent.cards .characterArea := List.mem_of_mem_filter hc
    exact Game.isOnField_of_mem hg (Game.side_eq_ok_iff.1 hs) (by decide) rfl hmem

end ScriptM

/-- How a stock script turns its first target, wherever that lies, if it is one that does. -/
def Script.turning? : String → Option Orientation
  | "rest_target_character" => some .rested
  | "activate_target_character" => some .active
  | _ => none

namespace ScriptBook

open ScriptM (TurnsOnField)

/-- Stock scripts turn cards on the field only, those apart that turn their target. -/
theorem stock_turnsOnField {id : String} {script : Script} (hfind : stock.find id = .ok script) :
    (Script.turning? id = none ∧ TurnsOnField script) ∨
      ∃ o, Script.turning? id = some o ∧ script = ScriptM.firstCardTarget >>= ScriptM.orient o := by
  unfold find at hfind
  cases hl : stock.entries.lookup id with
  | none =>
    rw [hl] at hfind
    cases hfind
  | some found =>
    rw [hl] at hfind
    cases hfind
    by_cases hid : id ∈ turningIds
    · simp only [turningIds, List.mem_cons, List.not_mem_nil, or_false] at hid
      rcases hid with rfl | rfl | rfl
      · cases hl
        exact .inr ⟨_, rfl, rfl⟩
      · cases hl
        exact .inl ⟨rfl, ScriptM.turnsOnField_restAllOpponentCharacters⟩
      · cases hl
        exact .inr ⟨_, rfl, rfl⟩
    · have hother : Script.turning? id = none := by
        unfold Script.turning?
        split
        · exact absurd (by decide) hid
        · exact absurd (by decide) hid
        · rfl
      have hroutine := stock_routine_of_turns _ (mem_of_lookup hl) hid
      exact .inl ⟨hother, ScriptM.inherited_turnsOnField.routine hroutine⟩

/-- A stock script that ends turns its target, or cards on the field only. -/
theorem stock_execute {script : String} {ctx : ScriptContext} {s t : ScriptState}
    (hd : s.game.Distinct) (hrun : stock.execute script ctx s = (.ok (), t)) :
    (Script.turning? script = none ∧ FieldReaches s.game t.game) ∨
      ∃ id o, Script.turning? script = some o ∧
        ctx.targets.head?.bind Target.cardId? = some id ∧
        s.game.updateCard id (fun c => { c with orientation := o }) = .ok t.game := by
  unfold execute at hrun
  cases hfind : stock.find script with
  | error f =>
    rw [hfind] at hrun
    cases hrun
  | ok x =>
    rw [hfind] at hrun
    dsimp only at hrun
    rcases stock_turnsOnField hfind with ⟨hnone, hturns⟩ | ⟨o, hturning, rfl⟩
    · have hreach := hturns { ctx with scriptId := some script } s hd
      rw [hrun] at hreach
      exact .inl ⟨hnone, hreach⟩
    · obtain ⟨id, htarget, hstep⟩ := ScriptM.runIn_turnTarget hrun
      exact .inr ⟨id, o, hturning, htarget, hstep⟩

end ScriptBook

end CardRules
