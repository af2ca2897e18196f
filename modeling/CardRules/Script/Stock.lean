import CardRules.Script.Basic

/-!
# Stock scripts

Ready-made behaviours that card data refer to by id.
-/

namespace CardRules.Script

open ScriptM

def drawCards (n : Nat) : Script := do
  let ctx ← read
  ScriptM.drawCards ctx.controller n

def powerBoost (amount : Int) (d : Duration) : Script := do
  let id ← firstCardTarget
  modifyPower id amount d

def powerBoostSource (amount : Int) (d : Duration) : Script := do
  let id ← sourceId
  if id.isEmpty then fail "No source card" else modifyPower id amount d

def costReduction (amount : Int) : Script := do
  let id ← firstCardTarget
  modifyCost id (-amount) .untilEndOfTurn

/-- Takes the first fitting card of one of the controller's zones to hand. -/
def takeFrom (zone : Zone) (f : TargetFilter) : Script := do
  let ctx ← read
  match ← searchZone ctx.controller zone (some f) with
  | [] => pure ()
  | c :: _ => moveCard c.id .hand

def searchDeck (f : TargetFilter) : Script := takeFrom .deck f

/-- K.O.s the first target, if it is cheap enough and lies as demanded. -/
def koTarget (maxCost : Option Int) (restedOnly : Bool) : Script := do
  let id ← firstCardTarget
  let c ← card id
  if restedOnly && c.orientation != .rested then fail "Target must be a rested character"
  match maxCost with
  | some limit =>
    if limit < c.cost then
      fail ("Target cost " ++ toString c.cost ++ " exceeds " ++ toString limit)
  | none => pure ()
  koCard id

def restTarget : Script := do
  let id ← firstCardTarget
  restCard id

def activateTarget : Script := do
  let id ← firstCardTarget
  activateCard id

def restAll : List Card → Script
  | [] => pure ()
  | c :: rest => do
    restCard c.id
    restAll rest

def restAllOpponentCharacters : Script := do
  let ctx ← read
  let s ← side ctx.controller.opponent
  restAll (s.characters.filter (·.orientation == .active))

def ofCategory (c : Category) : TargetFilter := { category := [c] }

def costingAtMost (n : Int) : TargetFilter := { costRange := some (.atMost n) }

/-- The stock scripts with their ids, in the order of their registration. -/
def stock : List (String × Script) := [
  ("draw_1", drawCards 1),
  ("draw_2", drawCards 2),
  ("draw_3", drawCards 3),
  ("power_boost_1000", powerBoost 1000 .permanent),
  ("power_boost_2000", powerBoost 2000 .permanent),
  ("power_boost_3000", powerBoost 3000 .permanent),
  ("power_boost_1000_until_end_of_turn", powerBoost 1000 .untilEndOfTurn),
  ("power_boost_1000_during_battle", powerBoostSource 1000 .untilEndOfBattle),
  ("power_boost_2000_until_end_of_turn", powerBoost 2000 .untilEndOfTurn),
  ("power_boost_2000_during_battle", powerBoostSource 2000 .untilEndOfBattle),
  ("cost_reduction_1", costReduction 1),
  ("cost_reduction_2", costReduction 2),
  ("cost_reduction_3", costReduction 3),
  ("search_deck_character", searchDeck (ofCategory .character)),
  ("search_deck_event", searchDeck (ofCategory .event)),
  ("search_deck_stage", searchDeck (ofCategory .stage)),
  ("search_deck_cost_4_or_less", searchDeck (costingAtMost 4)),
  ("search_deck_cost_5_or_less", searchDeck (costingAtMost 5)),
  ("ko_target_character", koTarget none false),
  ("ko_rested_character", koTarget none true),
  ("ko_cost_3_or_less", koTarget (some 3) false),
  ("ko_cost_4_or_less", koTarget (some 4) false),
  ("rest_target_character", restTarget),
  ("rest_all_opponent_characters", restAllOpponentCharacters),
  ("activate_target_character", activateTarget),
  ("on_ko_search_deck", searchDeck (ofCategory .character)),
  ("on_ko_add_to_hand_from_trash", takeFrom .trash (ofCategory .character)),
  ("on_ko_draw_1", drawCards 1),
  ("when_attacking_draw_1", drawCards 1),
  ("when_attacking_power_boost_1000", powerBoostSource 1000 .untilEndOfBattle),
  ("when_attacking_power_boost_2000", powerBoostSource 2000 .untilEndOfBattle)]

end CardRules.Script

namespace CardRules.ScriptBook

def stock : ScriptBook := ⟨Script.stock⟩

def addStock (b : ScriptBook) : ScriptBook × Option Fault := b.insertAll Script.stock

end CardRules.ScriptBook
