import CardRules.Engine.Mark

/-!
# Building an engine

An engine is built around a game with what the host plugs in. It has its own settings, or else
those that are shared at that moment; its resolvers are the standard ones and count attached
DON!! by the settings of the engine.
-/

namespace CardRules

structure Plugs (σ : Type) where
  scripts : ScriptBook := {}
  replacements : Replacements := {}
  answer : Answering := .written
  bus : Option (Bus ListenerId Report) := none
  memory : σ

/-- The engine for a game, with its own settings if there are any. -/
def Engine.create {σ : Type} (own : Option Settings) (shared : Settings) (plugs : Plugs σ)
    (g : Game) : Engine σ :=
  let settings := own.getD shared
  let e : Engine σ :=
    { game := g, settings := settings, sharedBonus := shared.donBonus,
      resolvers := .standard ⟨some settings.donBonus, shared.donBonus⟩,
      scripts := plugs.scripts, replacements := plugs.replacements, answer := plugs.answer,
      bus := plugs.bus, memory := plugs.memory }
  e.install g

end CardRules
