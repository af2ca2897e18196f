import CardRules.Engine.Create
import CardRules.Proofs.Engine.Legality
import CardRules.Proofs.Engine.Stack

/-!
# Engines with their own settings

An engine with its own settings does not care what the shared settings are. Whatever it is asked,
it answers as under other shared settings, and then it is the same engine but for the shared bonus
that it would not use (`Engine.serve_sharing`). So games, notices, used abilities and all that
listeners have noted down are the same.

This leaves to the host what belongs to the host: an engine is `Impartial` when the host's answers,
replacements and scripts do not look at shared settings. The stock scripts do not.
-/

namespace CardRules

/-! ## Scripts -/

namespace ScriptM

variable {α β : Type} {x : ScriptM α} {f : α → ScriptM β}

/-- The step does not look at shared settings. -/
def Impartial (x : ScriptM α) : Prop :=
  ∀ (ctx : ScriptContext) (s : ScriptState) (n : Int), ctx.bonus.own.isSome →
    x.runIn (ctx.sharing n) s = x.runIn ctx s

theorem impartial_bind (hx : Impartial x) (hf : ∀ a, Impartial (f a)) : Impartial (x >>= f) := by
  intro ctx s n h
  rw [runIn_bind, runIn_bind, hx ctx s n h]
  split
  · exact hf _ ctx _ n h
  · rfl

/-- Looking at the context is one thing, going on differently another. -/
theorem impartial_ask {f : ScriptContext → ScriptM α}
    (hsame : ∀ ctx n, ctx.bonus.own.isSome → f (ctx.sharing n) = f ctx)
    (hf : ∀ ctx, Impartial (f ctx)) : Impartial (read >>= f) := by
  intro ctx s n h
  rw [runIn_ask, runIn_ask, hsame ctx n h]
  exact hf ctx ctx s n h

theorem impartial_change (step : Game → Except Fault Game) : Impartial (change step) := by
  intro ctx s n _
  rw [runIn_change, runIn_change]

theorem inherited_impartial : Inherited True @Impartial where
  pure _ _ _ _ _ := rfl
  bind := impartial_bind
  ask := impartial_ask
  throw _ _ _ _ _ _ := rfl
  game _ _ _ _ := rfl
  side p := by
    refine impartial_bind (fun _ _ _ _ => rfl) fun g => ?_
    split <;> exact fun _ _ _ _ => rfl
  move _ _ := impartial_change _
  modify _ _ := impartial_change _
  turn _ _ _ := impartial_change _

end ScriptM

namespace ScriptBook

/-- No script of the book looks at shared settings. -/
def Impartial (b : ScriptBook) : Prop := ∀ e ∈ b.entries, ScriptM.Impartial e.2

theorem stock_impartial : stock.Impartial :=
  fun e he => ScriptM.inherited_impartial.routine (stock_routine e he)

theorem Impartial.execute {b : ScriptBook} {ctx : ScriptContext} {n : Int} (hb : b.Impartial)
    (h : ctx.bonus.own.isSome) (id : String) (s : ScriptState) :
    b.execute id (ctx.sharing n) s = b.execute id ctx s := by
  unfold ScriptBook.execute find
  cases hl : b.entries.lookup id with
  | none => rfl
  | some script => exact hb _ (mem_of_lookup hl) { ctx with scriptId := some id } s n h

end ScriptBook

/-! ## Delivery -/

namespace Bus

variable {H P σ : Type} {φ : σ → σ} {get : σ → Bus H P} {set : σ → Bus H P → σ}

/-- The same reply in another world. -/
def Reply.inWorld (φ : σ → σ) (reply : Reply σ) : Reply σ := (reply.1, reply.2.1, φ reply.2.2)

theorem deliver_map {call : H → σ → Reply σ}
    (hcall : ∀ h w, call h (φ w) = (call h w).inWorld φ) (handlers : List H) (w : σ) :
    deliver call handlers (φ w) = ((deliver call handlers w).1, φ (deliver call handlers w).2) := by
  induction handlers generalizing w with
  | nil => rfl
  | cons h rest ih =>
    rw [deliver, deliver, hcall, caught_eq, caught_eq]
    rcases call h w with ⟨outcome, _ | _, w'⟩
    · exact ih w'
    · rfl

/-- Publishing goes along with a map of worlds that leaves the bus alone. -/
theorem publish_map {call : Notice P → H → σ → Reply σ} (hget : ∀ w, get (φ w) = get w)
    (hset : ∀ w b, set (φ w) b = φ (set w b))
    (hcall : ∀ n h w, call n h (φ w) = (call n h w).inWorld φ) (kind : NoticeKind)
    (payload : P) (w : σ) :
    publish get set call kind payload (φ w) =
      ((publish get set call kind payload w).1, φ (publish get set call kind payload w).2) := by
  unfold publish send
  simp only [hget, hset, deliver_map (hcall _)]
  split
  · rfl
  · generalize deliver _ _ _ = delivered
    obtain ⟨_ | _, w'⟩ := delivered
    · rfl
    · dsimp only
      rw [hget, hset]

end Bus

namespace Engine

variable {σ : Type} {host : Host σ} {e e' : Engine σ} {i : Invocation} {n : Int}

/-- The engine under other shared settings. -/
def sharing (n : Int) (e : Engine σ) : Engine σ := { e with sharedBonus := n }

/-- What the host has plugged in does not look at shared settings. -/
structure Impartial (e : Engine σ) : Prop where
  answer : e.answer.Impartial
  replacements : e.replacements.Impartial
  scripts : e.scripts.Impartial

/-! ## Reports -/

theorem perform_sharing {tell : Report → Engine σ → Engine σ}
    (ht : ∀ r e, tell r (e.sharing n) = (tell r e).sharing n) (cancelled : Bool)
    (reactions : List Reaction) (e : Engine σ) :
    perform tell cancelled reactions (e.sharing n) =
      (perform tell cancelled reactions e).inWorld (sharing n) := by
  induction reactions generalizing cancelled e with
  | nil => rfl
  | cons reaction rest ih =>
    cases reaction with
    | push i priority =>
      rw [perform, perform, ← ih, ← ht]
      rfl
    | update change =>
      rw [perform, perform]
      have hgame : (e.sharing n).game = e.game := rfl
      rw [hgame]
      cases change e.game with
      | ok g => exact ih cancelled { e with game := g }
      | error f => rfl
    | clear =>
      rw [perform, perform, ← ih, ← ht]
      rfl
    | cancel =>
      rw [perform, perform]
      exact ih true e
    | fail => rfl

theorem publish_sharing (depth : Nat) (r : Report) (e : Engine σ) :
    publish host depth r (e.sharing n) = (publish host depth r e).sharing n := by
  induction depth generalizing r e with
  | zero => rfl
  | succ depth ih =>
    rw [publish, publish]
    have hbus : (e.sharing n).bus = e.bus := rfl
    rw [hbus]
    cases e.bus with
    | none => rfl
    | some b =>
      dsimp only
      rw [Bus.publish_map]
      case hget => exact fun _ => rfl
      case hset => exact fun _ _ => rfl
      case hcall =>
        intro notice listener e
        exact perform_sharing ih false _
          { e with memory := (host.react listener notice e.game e.memory).2 }

theorem tell_sharing (host : Host σ) (r : Report) (e : Engine σ) :
    (e.sharing n).tell host r = (e.tell host r).sharing n :=
  publish_sharing host.reach r e

/-! ## Stages -/

theorem own_context : (e.context i).bonus.own.isSome := rfl

theorem hosted_sharing {α : Type} (run : Hosted α) :
    (e.sharing n).hosted run = ((e.hosted run).1, (e.hosted run).2.sharing n) := rfl

theorem applyCost_sharing (he : e.Impartial) (c : Cost) :
    (e.sharing n).replacements.applyCost c ((e.sharing n).context i) =
      e.replacements.applyCost c (e.context i) :=
  Replacements.applyCost_sharing own_context he.replacements c

theorem payCost_sharing (he : e.Impartial) :
    payCost i (e.sharing n) = ((payCost i e).1, (payCost i e).2.sharing n) := by
  unfold payCost
  cases i.ability.cost with
  | none => rfl
  | some c =>
    dsimp only
    rw [applyCost_sharing he, hosted_sharing]
    rcases e.hosted (e.replacements.applyCost c (e.context i)) with ⟨_ | c, e'⟩
    · rfl
    · have hgame : (e'.sharing n).game = e'.game := rfl
      dsimp only
      rw [hgame]
      cases c.pay i.controller e'.game <;> rfl

theorem replaceBody_sharing (he : e.Impartial) :
    replaceBody i (e.sharing n) = ((replaceBody i e).1, (replaceBody i e).2.sharing n) := by
  have hbody : (e.sharing n).replacements.applyBody i ((e.sharing n).context i) = _ :=
    Replacements.applyBody_sharing own_context he.replacements i
  rw [replaceBody, hbody, hosted_sharing]
  rfl

theorem conditionHolds_sharing (he : e.Impartial) :
    conditionHolds i (e.sharing n) =
      ((conditionHolds i e).1, (conditionHolds i e).2.sharing n) := by
  unfold conditionHolds
  cases i.ability.condition with
  | none => rfl
  | some c =>
    have heval : c.eval ((e.sharing n).context i) = _ :=
      Condition.eval_sharing own_context he.answer c
    dsimp only
    rw [heval, hosted_sharing]

theorem runBody_sharing (he : e.Impartial) :
    runBody i (e.sharing n) = ((runBody i e).1, (runBody i e).2.sharing n) := by
  unfold runBody
  cases i.ability.scriptId.filter (!·.isEmpty) with
  | none => rfl
  | some id =>
    have hown : ({ e.context i with } : ScriptContext).bonus.own.isSome := rfl
    have hrun : (e.sharing n).scripts.execute id { (e.sharing n).context i with }
        ⟨(e.sharing n).game, (e.sharing n).journal⟩ = _ :=
      he.scripts.execute hown id ⟨e.game, e.journal⟩
    dsimp only
    rw [hrun]
    rfl

theorem markUsed_sharing (a : Ability) : (e.sharing n).markUsed a = (e.markUsed a).sharing n := by
  unfold markUsed
  split <;> rfl

theorem tellChange_sharing (host : Host σ) (before : Nat) (id : String) (e : Engine σ) :
    (e.sharing n).tellChange host before id = (e.tellChange host before id).sharing n := by
  have hgame : (e.sharing n).game = e.game := rfl
  unfold tellChange
  rw [hgame, tell_sharing]
  split <;> rfl

theorem SamePlugs.impartial (h : SamePlugs e e') (he : e.Impartial) : e'.Impartial :=
  ⟨h.answer ▸ he.answer, h.replacements ▸ he.replacements, h.scripts ▸ he.scripts⟩

theorem durable_impartial : Durable (Impartial (σ := σ)) where
  same he _ _ hsame := hsame.impartial he
  enqueue _ _ he := ⟨he.answer, he.replacements, he.scripts⟩
  sublist _ he := ⟨he.answer, he.replacements, he.scripts⟩

theorem Noted.impartial (h : Noted e e') (he : e.Impartial) : e'.Impartial :=
  h.samePlugs.impartial he

/-! ## Resolutions -/

theorem resolveBody_sharing (he : e.Impartial) (before : Nat) :
    resolveBody host before i (e.sharing n) =
      ((resolveBody host before i e).1, (resolveBody host before i e).2.sharing n) := by
  unfold resolveBody
  have h₁ := (noted_replaceBody (i := i)).impartial he
  rw [replaceBody_sharing he]
  generalize replaceBody i e = replaced at h₁ ⊢
  obtain ⟨_ | j, e₁⟩ := replaced
  · rfl
  · replace h₁ : e₁.Impartial := h₁
    have h₂ := (noted_conditionHolds (i := j)).impartial h₁
    dsimp only
    rw [conditionHolds_sharing h₁]
    generalize conditionHolds j e₁ = asked at h₂ ⊢
    obtain ⟨_ | _ | _, e₂⟩ := asked
    · rfl
    · dsimp only
      rw [tell_sharing, tellChange_sharing]
    · replace h₂ : e₂.Impartial := h₂
      dsimp only
      rw [runBody_sharing h₂]
      rcases runBody j e₂ with ⟨_ | g, e₃⟩
      · rfl
      · have hgame : { e₃.sharing n with game := g } = ({ e₃ with game := g }).sharing n := rfl
        dsimp only
        rw [hgame, markUsed_sharing, tellChange_sharing, tell_sharing]

theorem resolveInvocation_sharing (he : e.Impartial) :
    resolveInvocation host i (e.sharing n) =
      ((resolveInvocation host i e).1, (resolveInvocation host i e).2.sharing n) := by
  unfold resolveInvocation
  have hpaid := durable_impartial.stages (stages_payCost host (i := i)) he
  rw [payCost_sharing he]
  generalize payCost i e = paid at hpaid ⊢
  obtain ⟨_ | _, e₁⟩ := paid
  · rfl
  · replace hpaid : e₁.Impartial := hpaid
    exact resolveBody_sharing hpaid e.game.revision

theorem process_sharing (he : e.Impartial) :
    process host i (e.sharing n) = (process host i e).sharing n := by
  unfold process
  rw [resolveInvocation_sharing he]
  rcases resolveInvocation host i e with ⟨_ | _, e₁⟩
  · exact tell_sharing host _ e₁
  · rfl

theorem drain_sharing (he : e.Impartial) (remaining : Nat) :
    drain host remaining (e.sharing n) = (drain host remaining e).sharing n := by
  have hstack : (e.sharing n).stack = e.stack := rfl
  induction remaining generalizing e with
  | zero =>
    unfold drain
    rw [hstack]
    cases next? e.stack with
    | none => rfl
    | some p => exact tell_sharing host _ e
  | succ remaining ih =>
    unfold drain
    rw [hstack]
    cases next? e.stack with
    | none => rfl
    | some p =>
      have htaken : Impartial { e with stack := e.stack.filter (·.addedAt != p.addedAt) } :=
        ⟨he.answer, he.replacements, he.scripts⟩
      have hprocess : process host p.invocation (Engine.sharing n _) = _ := process_sharing htaken
      exact (congrArg (drain host remaining) hprocess).trans
        (ih (durable_impartial.stages (stages_process host) htaken) rfl)

/-! ## Activations -/

theorem targetObstacle_sharing (a : Ability) (i : Invocation) (e : Engine σ) :
    targetObstacle a i (e.sharing n) = targetObstacle a i e := by
  have hbonus : (e.sharing n).bonus = e.bonus.sharing n := rfl
  have hgame : (e.sharing n).game = e.game := rfl
  have hanswer : (e.sharing n).answer = e.answer := rfl
  have hown : e.bonus.own.isSome := rfl
  unfold targetObstacle
  rw [hbonus, hgame, hanswer, Target.check_sharing hown]

theorem affordable_sharing (he : e.Impartial) :
    affordable i (e.sharing n) = ((affordable i e).1, (affordable i e).2.sharing n) := by
  unfold affordable
  cases i.ability.cost with
  | none => rfl
  | some c =>
    dsimp only
    rw [applyCost_sharing he, hosted_sharing]
    rcases e.hosted (e.replacements.applyCost c (e.context i)) with ⟨_ | _, _⟩ <;> rfl

theorem obstacle_sharing (he : e.Impartial) (w : Wish) (c : Card) (a : Ability) :
    obstacle w c a (e.sharing n) = ((obstacle w c a e).1, (obstacle w c a e).2.sharing n) := by
  have hstatic : staticObstacle c a (e.sharing n) = staticObstacle c a e := rfl
  unfold obstacle
  rw [hstatic]
  cases staticObstacle c a e with
  | some o => rfl
  | none =>
    have hasked := (noted_conditionHolds (i := wished w c a)).impartial he
    dsimp only
    rw [conditionHolds_sharing he]
    generalize conditionHolds (wished w c a) e = asked at hasked ⊢
    obtain ⟨_ | _ | _, e₁⟩ := asked
    · rfl
    · rfl
    · replace hasked : e₁.Impartial := hasked
      dsimp only
      rw [affordable_sharing hasked]
      rcases affordable (wished w c a) e₁ with ⟨_ | _ | _, e₂⟩
      · rfl
      · rfl
      · dsimp only
        rw [targetObstacle_sharing]

theorem canActivate_sharing (he : e.Impartial) (w : Wish) :
    canActivate w (e.sharing n) = ((canActivate w e).1, (canActivate w e).2.sharing n) := by
  have hfind : find w (e.sharing n) = find w e := rfl
  unfold canActivate
  rw [hfind]
  rcases find w e with _ | _ | ⟨c, a⟩
  · rfl
  · rfl
  · dsimp only
    rw [obstacle_sharing he]

theorem resolveAccepted_sharing (he : e.Impartial) (w : Wish) :
    resolveAccepted host w i (e.sharing n) =
      ((resolveAccepted host w i e).1, (resolveAccepted host w i e).2.sharing n) := by
  unfold resolveAccepted
  rw [resolveInvocation_sharing he]
  rcases resolveInvocation host i e with ⟨f | ran, e₁⟩
  · cases f with
    | unpaidCost => rfl
    | _ =>
      dsimp only
      rw [tell_sharing]
  · rfl

theorem activate_sharing (he : e.Impartial) (w : Wish) :
    activate host w (e.sharing n) = ((activate host w e).1, (activate host w e).2.sharing n) := by
  have hfind : find w (e.sharing n) = find w e := rfl
  unfold activate
  rw [hfind]
  rcases find w e with _ | _ | ⟨c, a⟩
  · rfl
  · rfl
  · have hasked := (noted_obstacle (w := w) (c := c) (a := a)).impartial he
    dsimp only
    rw [obstacle_sharing he]
    generalize obstacle w c a e = asked at hasked ⊢
    obtain ⟨_ | _ | _, e₁⟩ := asked
    · rfl
    · replace hasked : e₁.Impartial := hasked
      dsimp only
      rw [tell_sharing, resolveAccepted_sharing (durable_impartial.tell host _ hasked)]
    · rfl

end Engine

/-! ## Whatever is asked -/

/-- What a host asks of an engine; to ask whether an ability may be used is no call. -/
inductive Request where
  | call (c : Call)
  | canActivate (w : Wish)

/-- What an engine answers. -/
inductive Response where
  | queued (p : Pending)
  | resolved (g : Game)
  | cleared (discarded : Nat)
  | activated (outcome : Except Fault Bool)
  | allowed (outcome : Except Fault Bool)

/-- What is plugged in does not look at shared settings. -/
structure Plugs.Impartial {σ : Type} (plugs : Plugs σ) : Prop where
  answer : plugs.answer.Impartial
  replacements : plugs.replacements.Impartial
  scripts : plugs.scripts.Impartial

/-- Whoever listens, stock scripts without replacements do not look at shared settings. -/
theorem Plugs.impartial_stock {σ : Type} (bus : Option (Bus ListenerId Report)) (memory : σ) :
    Plugs.Impartial { scripts := .stock, bus := bus, memory := memory } where
  answer := Answering.impartial_written
  replacements := by simp [Replacements.Impartial]
  scripts := ScriptBook.stock_impartial

namespace Engine

variable {σ : Type} {host : Host σ} {e : Engine σ} {n : Int}

/-- What a call answers. -/
def reply (host : Host σ) (e : Engine σ) : Call → Response
  | .push i priority => .queued (e.push host i priority).1
  | .resolve => .resolved (e.resolveStack host).game
  | .clear => .cleared (e.clearStack host).1
  | .activate w => .activated (e.activate host w).1

/-- The answer to a request, and the engine after it. -/
def respond (host : Host σ) (e : Engine σ) : Request → Response × Engine σ
  | .call c => (e.reply host c, e.call host c)
  | .canActivate w => (.allowed (e.canActivate w).1, (e.canActivate w).2)

/-- The answers to a list of requests, and the engine after them. -/
def serve (host : Host σ) : List Request → Engine σ → List Response × Engine σ
  | [], e => ([], e)
  | q :: rest, e =>
    let (answer, e) := respond host e q
    let (answers, e) := serve host rest e
    (answer :: answers, e)

theorem resolveStack_sharing (he : e.Impartial) :
    resolveStack host (e.sharing n) = (resolveStack host e).sharing n := by
  have hdrain : drain host e.settings.stackLimit.toNat (e.sharing n) = _ := drain_sharing he _
  exact congrArg (fun e : Engine σ => { e with stack := [] }) hdrain

theorem call_sharing (he : e.Impartial) (c : Call) :
    call host (e.sharing n) c = (call host e c).sharing n := by
  cases c with
  | push i priority => exact tell_sharing host _ (e.enqueue i (priority.getD i.priority))
  | resolve => exact resolveStack_sharing he
  | clear => exact tell_sharing host _ { e with stack := [] }
  | activate w => exact congrArg Prod.snd (activate_sharing he w)

theorem reply_sharing (he : e.Impartial) (c : Call) :
    reply host (e.sharing n) c = reply host e c := by
  cases c with
  | push | clear => rfl
  | resolve =>
    have hresolve : resolveStack host (e.sharing n) = _ := resolveStack_sharing he
    rw [reply, reply, hresolve]
    rfl
  | activate w => exact congrArg (Response.activated ·.1) (activate_sharing he w)

theorem respond_sharing (he : e.Impartial) (q : Request) :
    respond host (e.sharing n) q = ((respond host e q).1, (respond host e q).2.sharing n) := by
  cases q with
  | call c => rw [respond, respond, reply_sharing he, call_sharing he]
  | canActivate w => rw [respond, respond, canActivate_sharing he]

theorem Impartial.respond (he : e.Impartial) (host : Host σ) (q : Request) :
    (respond host e q).2.Impartial := by
  cases q with
  | call c => exact durable_impartial.call host he c
  | canActivate w => exact noted_canActivate.impartial he

theorem serve_sharing (he : e.Impartial) (requests : List Request) :
    serve host requests (e.sharing n) =
      ((serve host requests e).1, (serve host requests e).2.sharing n) := by
  induction requests generalizing e with
  | nil => rfl
  | cons q rest ih =>
    rw [serve, serve, respond_sharing he]
    dsimp only
    rw [ih (he.respond host q)]

theorem create_sharing (own shared shared' : Settings) (plugs : Plugs σ) (g : Game) :
    create (some own) shared' plugs g =
      (create (some own) shared plugs g).sharing shared'.donBonus := by
  have hown : (DonBonus.mk (some own.donBonus) shared.donBonus).own.isSome := rfl
  have hresolvers := ResolverTable.standard_sharing (n := shared'.donBonus) hown
  rw [DonBonus.sharing] at hresolvers
  unfold create
  dsimp only [Option.getD_some]
  rw [hresolvers]
  rfl

theorem impartial_create {plugs : Plugs σ} (hp : plugs.Impartial) (own : Option Settings)
    (shared : Settings) (g : Game) : (create own shared plugs g).Impartial :=
  ⟨hp.answer, hp.replacements, hp.scripts⟩

/-- An engine that is built with settings of its own answers whatever it is asked in the same way
under all shared settings, and afterwards it is the same engine but for the shared bonus. -/
theorem serve_with_own_settings (own shared shared' : Settings) {plugs : Plugs σ}
    (hp : plugs.Impartial) (g : Game) (host : Host σ) (requests : List Request) :
    let run := serve host requests (create (some own) shared plugs g)
    serve host requests (create (some own) shared' plugs g) =
      (run.1, { run.2 with sharedBonus := shared'.donBonus }) := by
  rw [create_sharing own shared shared' plugs g]
  exact serve_sharing (impartial_create hp _ _ g) requests

/-- On the turn of the first player, whose character has a DON!!. -/
def boosted : Game where
  sides := [
    { Game.openingSide with
      characters := [
        { Game.member "c1" .characterArea .active with
          face := { id := "C-03", name := "Rookie", category := .character, basePower := some 3000 }
          givenDon := [⟨"don3", .one, .characterArea, .active⟩] }] },
    { player := .two }]

/-- To K.O. it, unless it is stronger than 4500. -/
def testing : Invocation where
  ability := { id := "ko", sourceId := "h1", timing := .activate, kind := .koCharacter,
               parameters := { maxPower := some 4500 } }
  sourceId := "h1"
  controller := .one
  targets := [.card (some "c1")]

/-- A DON!! that adds 2000 saves the character. Engines with such settings of their own go by them
whatever is shared; with the shared settings alone, the character is K.O.'d. -/
theorem serve_with_own_settings_boosted :
    let requests := [.call (.push testing none), .call .resolve]
    let plugs : Plugs Unit := { scripts := .stock, memory := () }
    let own : Settings := { donBonus := 2000 }
    let run := serve .silent requests (create (some own) {} plugs boosted)
    serve .silent requests (create (some own) { donBonus := 0 } plugs boosted) =
      (run.1, { run.2 with sharedBonus := 0 }) ∧
    (run.2.game.locate? "c1").map (·.zone) = some .characterArea ∧
    ((serve .silent requests (create none {} plugs boosted)).2.game.locate? "c1").map (·.zone) =
      some .trash := by
  intro requests plugs own run
  exact ⟨serve_with_own_settings own {} { donBonus := 0 } (Plugs.impartial_stock none ()) boosted
    .silent requests, by cbv, by cbv⟩

end Engine

end CardRules
