import CardRules.Proofs.Game.Step
import CardRules.Proofs.Sharing
import CardRules.Script.Stock

/-!
# Scripts made of helpers

`ScriptM.OfHelpers` are the steps of scripts that look at whatever they like, give up and catch
faults as they like, and change the game through helpers only. Such a step is `Lawful`: the
game it leaves, also when it fails, is reached from the game it began with.
-/

namespace CardRules

open Game (Reaches Step)

namespace ScriptM

variable {α β : Type} {x : ScriptM α} {f : α → ScriptM β} {ctx : ScriptContext} {s : ScriptState}

/-! ## Running a step -/

@[simp] theorem runIn_pure (a : α) : (pure a : ScriptM α).runIn ctx s = (.ok a, s) := rfl

@[simp] theorem runIn_game : game.runIn ctx s = (.ok s.game, s) := rfl

theorem runIn_ask {f : ScriptContext → ScriptM α} :
    (read >>= f).runIn ctx s = (f ctx).runIn ctx s := rfl

theorem runIn_bind : (x >>= f).runIn ctx s =
    match x.runIn ctx s with
    | (.ok a, t) => (f a).runIn ctx t
    | (.error e, t) => (.error e, t) := by
  unfold runIn
  rw [ReaderT.run_bind, ExceptT.run_bind, StateT.run_bind]
  obtain ⟨outcome, t⟩ := StateT.run (ExceptT.run (ReaderT.run x ctx)) s
  cases outcome <;> rfl

theorem runIn_tryCatch {handle : Fault → ScriptM α} : (tryCatch x handle).runIn ctx s =
    match x.runIn ctx s with
    | (.ok a, t) => (.ok a, t)
    | (.error e, t) => (handle e).runIn ctx t := by
  unfold runIn
  rw [ReaderT.run_tryCatch, ExceptT.run_tryCatch, StateT.run_bind]
  obtain ⟨outcome, t⟩ := StateT.run (ExceptT.run (ReaderT.run x ctx)) s
  cases outcome <;> rfl

theorem runIn_change {step : Game → Except Fault Game} : (change step).runIn ctx s =
    match step s.game with
    | .ok g => (.ok (), { s with game := g })
    | .error e => (.error e, s) := by
  unfold change
  rw [runIn_bind, runIn_game]
  dsimp only
  cases step s.game <;> rfl

/-! ## What helpers inherit -/

/-- A property of steps that goes through sequences and holds of what helpers are made of: they
look at the game, at sides and at the context, though not at the shared settings, give up, and
change the game. With `turns` it also holds of turning a card. -/
structure Inherited (turns : Prop) (P : (α : Type) → ScriptM α → Prop) : Prop where
  pure : ∀ {α : Type} (a : α), P α (pure a)
  bind : ∀ {α β : Type} {x : ScriptM α} {f : α → ScriptM β},
    P α x → (∀ a, P β (f a)) → P β (x >>= f)
  ask : ∀ {α : Type} {f : ScriptContext → ScriptM α},
    (∀ ctx n, ctx.bonus.own.isSome → f (ctx.sharing n) = f ctx) → (∀ ctx, P α (f ctx)) →
    P α (read >>= f)
  throw : ∀ {α : Type} (message id : Option String),
    P α (throw (.scriptFailed message id) : ScriptM α)
  game : P Game game
  side : ∀ p, P Side (side p)
  move : ∀ id dest, P Unit (change (·.moveCard id dest true))
  modify : ∀ id m, P Unit (change (·.addModifier id m))
  turn : turns → ∀ o id, P Unit (change (·.updateCard id fun c => { c with orientation := o }))

namespace Inherited

variable {turns : Prop} {P : (α : Type) → ScriptM α → Prop}

theorem fail (h : Inherited turns P) (message : String) : P α (fail message) :=
  h.ask (fun _ _ _ => rfl) fun _ => h.throw _ _

theorem card (h : Inherited turns P) (id : String) : P Card (card id) := by
  refine h.bind h.game fun g => ?_
  split
  · exact h.pure _
  · exact h.fail _

theorem sourceId (h : Inherited turns P) : P String sourceId := by
  refine h.ask (fun _ _ _ => rfl) fun ctx => ?_
  split <;> exact h.pure _

theorem firstCardTarget (h : Inherited turns P) : P String firstCardTarget := by
  refine h.ask (fun _ _ _ => rfl) fun ctx => ?_
  split
  · exact h.fail _
  · split
    · exact h.pure _
    · exact h.fail _

theorem searchZone (h : Inherited turns P) (p : Player) (zone : Zone)
    {filter : Option TargetFilter} (hf : ∀ f ∈ filter, f.only = none) :
    P (List Card) (searchZone p zone filter) := by
  refine h.ask (fun ctx n ho => ?_) fun ctx => ?_
  · have hfits : ∀ g, Card.fits g (ctx.sharing n).bonus = Card.fits g ctx.bonus :=
      fun g => Card.fits_sharing ho
    have hfailure : ∀ g, Card.testFault? g (ctx.sharing n).bonus =
        Card.testFault? g ctx.bonus := fun g => Card.testFault?_sharing ho
    simp only [hfits, hfailure]
    rfl
  · refine h.bind h.game fun g => h.bind (h.side p) fun s => ?_
    cases filter with
    | none => exact h.pure _
    | some f =>
      simp only [Card.testFault?_of_only (hf f rfl)]
      exact h.pure _

theorem moveCard (h : Inherited turns P) (id : String) (dest : Zone) :
    P Unit (moveCard id dest) := by
  refine h.bind h.game fun g => ?_
  split
  · exact h.fail _
  · exact h.move id dest

theorem drawCards (h : Inherited turns P) (p : Player) (count : Nat) :
    P Unit (drawCards p count) := by
  induction count with
  | zero => exact h.pure ()
  | succ count ih =>
    refine h.bind (h.side p) fun s => ?_
    split
    · exact h.fail _
    · exact h.bind (h.move _ .hand) fun _ => ih

theorem addModifier (h : Inherited turns P) (id : String) (kind : ModifierKind)
    (value : ModifierValue) (d : Duration) : P Unit (addModifier id kind value d) :=
  h.bind (h.card id) fun _ => h.bind h.sourceId fun source => h.modify id ⟨kind, value, d, source⟩

theorem removeCharacter (h : Inherited turns P) (id : String) (dest : Zone) (verb : String) :
    P Unit (removeCharacter id dest verb) := by
  refine h.bind (h.card id) fun c => ?_
  split
  · exact h.move id dest
  · exact h.fail _

theorem orient (h : Inherited turns P) (ht : turns) (o : Orientation) (id : String) :
    P Unit (orient o id) :=
  h.bind (h.card id) fun _ => h.turn ht o id

end Inherited

/-! ## What becomes of the game -/

/-- Whatever the outcome, the game that is left comes from the one at the start in this way. -/
def Does (R : Game → Game → Prop) (x : ScriptM α) : Prop :=
  ∀ ctx s, R s.game (x.runIn ctx s).2.game

section

variable {R : Game → Game → Prop}

theorem does_bind (htrans : ∀ {g h k}, R g h → R h k → R g k) (hx : Does R x)
    (hf : ∀ a, Does R (f a)) : Does R (x >>= f) := by
  intro ctx s
  rw [runIn_bind]
  have hs := hx ctx s
  split
  · rename_i a t hrun
    rw [hrun] at hs
    exact htrans hs (hf a ctx t)
  · rename_i e t hrun
    rwa [hrun] at hs

theorem does_tryCatch (htrans : ∀ {g h k}, R g h → R h k → R g k) {handle : Fault → ScriptM α}
    (hx : Does R x) (hh : ∀ e, Does R (handle e)) : Does R (tryCatch x handle) := by
  intro ctx s
  rw [runIn_tryCatch]
  have hs := hx ctx s
  split
  · rename_i a t hrun
    rwa [hrun] at hs
  · rename_i e t hrun
    rw [hrun] at hs
    exact htrans hs (hh e ctx t)

theorem does_change (hrefl : ∀ g, R g g) {step : Game → Except Fault Game}
    (hs : ∀ {g h}, step g = .ok h → R g h) : Does R (change step) := by
  intro ctx s
  rw [runIn_change]
  split
  · rename_i g hg
    exact hs hg
  · exact hrefl s.game

/-- What changes of the game do, helpers do as well. -/
theorem inherited_does {turns : Prop} (hrefl : ∀ g, R g g)
    (htrans : ∀ {g h k}, R g h → R h k → R g k)
    (hmove : ∀ {g h id dest}, g.moveCard id dest true = .ok h → R g h)
    (hmodify : ∀ {g h id m}, g.addModifier id m = .ok h → R g h)
    (hturn : turns → ∀ {g h id o},
      g.updateCard id (fun c => { c with orientation := o }) = .ok h → R g h) :
    Inherited turns fun _ x => Does R x where
  pure _ _ s := hrefl s.game
  bind := does_bind htrans
  ask _ hf := does_bind htrans (fun _ s => hrefl s.game) hf
  throw _ _ _ s := hrefl s.game
  game _ s := hrefl s.game
  side p := by
    refine does_bind htrans (fun _ s => hrefl s.game) fun g => ?_
    split <;> exact fun _ s => hrefl s.game
  move _ _ := does_change hrefl hmove
  modify _ _ := does_change hrefl hmodify
  turn ht _ _ := does_change hrefl (hturn ht)

end

/-- Whatever the outcome, the game that is left is reached from the one at the start. -/
def Lawful (x : ScriptM α) : Prop := Does Reaches x

theorem inherited_lawful : Inherited True @Lawful :=
  inherited_does (fun _ => .refl) .trans (fun h => (Step.move h).reaches)
    (fun h => (Step.modify h).reaches) fun _ _ _ _ _ h => (Step.orient h).reaches

/-! ## Steps made of helpers -/

/-- A step that changes the game through helpers only. -/
inductive OfHelpers : {α : Type} → ScriptM α → Prop where
  | pure {α : Type} (a : α) : OfHelpers (pure a)
  | bind {α β : Type} {x : ScriptM α} {f : α → ScriptM β} :
      OfHelpers x → (∀ a, OfHelpers (f a)) → OfHelpers (x >>= f)
  | throw {α : Type} (e : Fault) : OfHelpers (throw e : ScriptM α)
  | tryCatch {α : Type} {x : ScriptM α} {handle : Fault → ScriptM α} :
      OfHelpers x → (∀ e, OfHelpers (handle e)) → OfHelpers (tryCatch x handle)
  | read : OfHelpers read
  | game : OfHelpers game
  | record (entry : Json) : OfHelpers (record entry)
  | moveCard (id : String) (dest : Zone) : OfHelpers (moveCard id dest)
  | drawCards (p : Player) (count : Nat) : OfHelpers (drawCards p count)
  | modifyPower (id : String) (amount : Int) (d : Duration) : OfHelpers (modifyPower id amount d)
  | modifyCost (id : String) (amount : Int) (d : Duration) : OfHelpers (modifyCost id amount d)
  | grantKeyword (id keyword : String) (d : Duration) : OfHelpers (grantKeyword id keyword d)
  | koCard (id : String) : OfHelpers (koCard id)
  | banishCard (id : String) : OfHelpers (banishCard id)
  | restCard (id : String) : OfHelpers (restCard id)
  | activateCard (id : String) : OfHelpers (activateCard id)

theorem OfHelpers.lawful (hx : OfHelpers x) : Lawful x := by
  induction hx with
  | bind _ _ hx hf => exact does_bind .trans hx hf
  | tryCatch _ _ hx hh => exact does_tryCatch .trans hx hh
  | pure | throw | read | game | record => exact fun _ _ => .refl
  | moveCard id dest => exact inherited_lawful.moveCard id dest
  | drawCards p count => exact inherited_lawful.drawCards p count
  | modifyPower id _ d | modifyCost id _ d | grantKeyword id _ d =>
    exact inherited_lawful.addModifier id _ _ d
  | koCard id | banishCard id => exact inherited_lawful.removeCharacter id _ _
  | restCard id | activateCard id => exact inherited_lawful.orient trivial _ id

namespace OfHelpers

theorem fail (message : String) : OfHelpers (fail message : ScriptM α) :=
  .bind .read fun _ => .throw _

theorem side (p : Player) : OfHelpers (side p) := by
  refine .bind .game fun g => ?_
  split
  · exact .pure _
  · exact .throw _

theorem card (id : String) : OfHelpers (card id) := by
  refine .bind .game fun g => ?_
  split
  · exact .pure _
  · exact fail _

theorem sourceId : OfHelpers sourceId := by
  refine .bind .read fun ctx => ?_
  split <;> exact .pure _

theorem firstCardTarget : OfHelpers firstCardTarget := by
  refine .bind .read fun ctx => ?_
  split
  · exact fail _
  · split
    · exact .pure _
    · exact fail _

theorem searchZone (p : Player) (zone : Zone) (filter : Option TargetFilter) :
    OfHelpers (searchZone p zone filter) := by
  refine .bind .read fun ctx => .bind .game fun g => .bind (side p) fun s => ?_
  split
  · exact .pure _
  · split
    · exact .throw _
    · exact .pure _

end OfHelpers

end ScriptM

namespace ScriptBook

/-- Every script of the book is made of helpers. -/
def OfHelpers (b : ScriptBook) : Prop := ∀ e ∈ b.entries, ScriptM.OfHelpers e.2

theorem mem_of_lookup {b : ScriptBook} {id : String} {script : Script}
    (h : b.entries.lookup id = some script) : (id, script) ∈ b.entries := by
  obtain ⟨before, after, hentries, -⟩ := List.lookup_eq_some_iff.1 h
  rw [hentries]
  simp

theorem OfHelpers.reaches_execute {b : ScriptBook} (hb : b.OfHelpers) (id : String)
    (ctx : ScriptContext) (s : ScriptState) : Reaches s.game (b.execute id ctx s).2.game := by
  unfold execute find
  cases hl : b.entries.lookup id with
  | none => exact .refl
  | some script => exact (hb _ (mem_of_lookup hl)).lawful _ s

end ScriptBook

end CardRules
