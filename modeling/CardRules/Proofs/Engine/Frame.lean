import CardRules.Engine.Activate
import CardRules.Proofs.Game.Step
import CardRules.Script.Stock

/-!
# What the host can do

A report reaches the engine's listeners, and what they answer with changes the engine. One
such change is a `Engine.Touch`; `Engine.tell` makes any number of them (`touches_tell`), each
allowed by what the listeners of the host answer with. Nothing a listener can do touches what
the host has plugged in, the journal or the used marks. The stages of resolution run the host's
predicates, scripts and replacements, and these write the journal only (`Engine.Noted`). What a
stage comes to is said by `Engine.Paid`, `Engine.Replaced`, `Engine.Asked` and `Engine.Ran`.
-/

namespace CardRules

namespace Reaction

/-- The listener does not replace the game. -/
def LeavesGame : Reaction → Prop
  | .update _ => False
  | _ => True

/-- The listener changes the game in steps only. -/
def Lawful : Reaction → Prop
  | .update change => ∀ g h, change g = .ok h → Game.Reaches g h
  | _ => True

end Reaction

/-- Whatever a listener hears, it answers with such reactions only. -/
def Host.Only {σ : Type} (ok : Reaction → Prop) (host : Host σ) : Prop :=
  ∀ listener notice game memory, ∀ r ∈ (host.react listener notice game memory).1, ok r

/-- A host whose listeners do nothing. -/
def Host.silent : Host Unit where
  react _ _ _ memory := ([], memory)
  reach := 1

theorem Host.only_silent (ok : Reaction → Prop) : Host.silent.Only ok := by
  intro listener notice game memory r hr
  cases hr

/-- Publishing, with the new notice recorded at once. -/
theorem Bus.publish_eq {H P σ : Type} {get : σ → Bus H P} {set : σ → Bus H P → σ}
    (hget : ∀ w b, get (set w b) = b) (hset : ∀ w b c, set (set w b) c = set w c)
    (call : Notice P → H → σ → Reply σ) (kind : NoticeKind) (payload : P) (w : σ) :
    Bus.publish get set call kind payload w =
      let (notice, b) := (get w).record kind payload
      match deliver (call notice) ((get w).audience kind) (set w b) with
      | (true, w) =>
        ({ notice with cancelled := true }, set w ((get w).markCancelled notice.serial))
      | (false, w) => (notice, w) := by
  unfold publish send
  dsimp only [issue, record]
  rw [hget, hset]
  rfl

/-- Delivering makes nothing but what the handlers make, one after the other. -/
theorem Bus.rel_deliver {H σ : Type} {R : σ → σ → Prop} (hrefl : ∀ w, R w w)
    (htrans : ∀ {w w' w''}, R w w' → R w' w'' → R w w'') {call : H → σ → Reply σ}
    (hc : ∀ h w, R w (call h w).2.2) {handlers : List H} {w : σ} :
    R w (Bus.deliver call handlers w).2 := by
  induction handlers generalizing w with
  | nil => exact hrefl w
  | cons h rest ih =>
    have hfirst := hc h w
    rw [Bus.deliver, caught_eq]
    split <;> rename_i hcall <;> rw [hcall] at hfirst
    · exact hfirst
    · exact htrans hfirst ih

namespace Engine

variable {σ : Type} {host : Host σ} {ok : Reaction → Prop} {e e' : Engine σ} {r : Report}
  {i : Invocation}

/-- One change that a report brings about, with listeners that answer as they may. -/
inductive Touch (ok : Reaction → Prop) : Engine σ → Engine σ → Prop where
  | bus (e : Engine σ) (b : Option (Bus ListenerId Report)) : Touch ok e { e with bus := b }
  | memory (e : Engine σ) (m : σ) : Touch ok e { e with memory := m }
  | push (e : Engine σ) {i : Invocation} {priority : Option Int} : ok (.push i priority) →
      Touch ok e (e.enqueue i (priority.getD i.priority))
  | clear (e : Engine σ) : ok .clear → Touch ok e { e with stack := [] }
  | update (e : Engine σ) {change : Game → Except Fault Game} {g : Game} : ok (.update change) →
      change e.game = .ok g → Touch ok e { e with game := g }

abbrev Touches (ok : Reaction → Prop) : Engine σ → Engine σ → Prop :=
  Relation.ReflTransGen (Touch ok)

/-! ## Telling -/

theorem touches_perform {tell : Report → Engine σ → Engine σ}
    (ht : ∀ r e, Touches ok e (tell r e)) {reactions : List Reaction} {cancelled : Bool}
    (hr : ∀ r ∈ reactions, ok r) : Touches ok e (perform tell cancelled reactions e).2.2 := by
  induction reactions generalizing cancelled e with
  | nil => exact .refl
  | cons reaction rest ih =>
    have hok : ok reaction := hr reaction List.mem_cons_self
    have hrest : ∀ r ∈ rest, ok r := fun r h => hr r (List.mem_cons_of_mem _ h)
    cases reaction with
    | push i priority => exact .head (.push e hok) ((ht _ _).trans (ih hrest))
    | clear => exact .head (.clear e hok) ((ht _ _).trans (ih hrest))
    | cancel => exact ih hrest
    | fail => exact .refl
    | update change =>
      rw [perform]
      split
      · rename_i g hg
        exact .head (.update e hok hg) (ih hrest)
      · exact .refl

/-- Publishing on the bus of the engine; `b` stands in for a bus that is missing. -/
theorem touches_busPublish {call : Notice Report → ListenerId → Engine σ → Bus.Reply (Engine σ)}
    (hc : ∀ notice l e, Touches ok e (call notice l e).2.2) {b : Bus ListenerId Report}
    {kind : NoticeKind} : Touches ok e (Bus.publish (fun e => e.bus.getD b)
      (fun e b => { e with bus := some b }) call kind r e).2 := by
  rw [Bus.publish_eq]
  case hget => exact fun _ _ => rfl
  case hset => exact fun _ _ _ => rfl
  dsimp only
  generalize hn : (e.bus.getD b).record kind r = recorded
  generalize hd : Bus.deliver (call recorded.1) ((e.bus.getD b).audience kind)
    { e with bus := some recorded.2 } = delivered
  have ht : Touches ok e delivered.2 := by
    rw [← hd]
    exact .head (.bus e _) (Bus.rel_deliver (fun _ => .refl) .trans (hc recorded.1))
  obtain ⟨cancelled, e'⟩ := delivered
  cases cancelled with
  | true => exact ht.tail (.bus e' _)
  | false => exact ht

theorem touches_publish (hh : host.Only ok) (depth : Nat) :
    Touches ok e (publish host depth r e) := by
  induction depth generalizing r e with
  | zero => exact .single (.bus e _)
  | succ depth ih =>
    rw [publish]
    split
    · exact .refl
    · refine touches_busPublish fun notice l e => ?_
      exact .head (.memory e _) (touches_perform (fun _ _ => ih) (hh l notice e.game e.memory))

theorem touches_tell (hh : host.Only ok) : Touches ok e (e.tell host r) :=
  touches_publish hh host.reach

/-- Publishes reports one after the other. -/
def tellAll (host : Host σ) (reports : List Report) (e : Engine σ) : Engine σ :=
  reports.foldl (fun e r => e.tell host r) e

/-! ## What stays -/

/-- The engine without its bus, its stack and the memory of its host. -/
def core (e : Engine σ) : Engine Unit where
  game := e.game
  settings := e.settings
  sharedBonus := e.sharedBonus
  resolvers := e.resolvers
  scripts := e.scripts
  replacements := e.replacements
  answer := e.answer
  bus := none
  used := e.used
  nextMark := e.nextMark
  journal := e.journal
  memory := ()

theorem Touch.core_eq (ht : Touch Reaction.LeavesGame e e') : e'.core = e.core := by
  cases ht with
  | bus | memory | push | clear => rfl
  | update hok _ => exact hok.elim

theorem Touches.core_eq (ht : Touches Reaction.LeavesGame e e') : e'.core = e.core := by
  induction ht with
  | refl => rfl
  | tail _ ht ih => rw [ht.core_eq, ih]

/-- Listeners that do not replace the game leave all but the bus, the stack and their memory. -/
@[simp] theorem core_tell (hh : host.Only Reaction.LeavesGame) : (e.tell host r).core = e.core :=
  Touches.core_eq (touches_tell hh)

@[simp] theorem core_tellAll (hh : host.Only Reaction.LeavesGame) {reports : List Report} :
    (e.tellAll host reports).core = e.core := by
  induction reports generalizing e with
  | nil => rfl
  | cons r rest ih =>
    rw [tellAll, List.foldl_cons]
    exact ih.trans (core_tell hh)

/-! ## What host code leaves -/

/-- The second engine is the first, perhaps with more in its journal. -/
def Noted (e e' : Engine σ) : Prop := ∃ journal, e' = { e with journal := journal }

namespace Noted

theorem refl (e : Engine σ) : Noted e e := ⟨e.journal, rfl⟩

theorem trans {e'' : Engine σ} (h₁ : Noted e e') (h₂ : Noted e' e'') : Noted e e'' := by
  obtain ⟨_, rfl⟩ := h₁
  obtain ⟨journal, rfl⟩ := h₂
  exact ⟨journal, rfl⟩

theorem game (h : Noted e e') : e'.game = e.game := by
  obtain ⟨_, rfl⟩ := h
  rfl

theorem used (h : Noted e e') : e'.used = e.used := by
  obtain ⟨_, rfl⟩ := h
  rfl

theorem bus (h : Noted e e') : e'.bus = e.bus := by
  obtain ⟨_, rfl⟩ := h
  rfl

end Noted

theorem noted_hosted {α : Type} (run : Hosted α) : Noted e (e.hosted run).2 := ⟨_, rfl⟩

/-! ## The stages one by one

How each stage ends is told without the engine's own functions: by what replacements make of a cost
or a body, what a condition gives, what paying gives, and what a script or a resolver makes of the
game. -/

/-- Paying a cost: what the replacements make of it is paid from the game. -/
inductive Paid (i : Invocation) (e : Engine σ) : Except Fault Unit → Engine σ → Prop where
  | free : i.ability.cost = none → Paid i e (.ok ()) e
  | unreplaced {c : Cost} {f : Fault} {journal : Journal} : i.ability.cost = some c →
      (e.replacements.applyCost c (e.context i)).outcome e.journal = (.error f, journal) →
      Paid i e (.error f) { e with journal := journal }
  | refused {c replaced : Cost} {f : Fault} {journal : Journal} : i.ability.cost = some c →
      (e.replacements.applyCost c (e.context i)).outcome e.journal = (.ok replaced, journal) →
      replaced.pay i.controller e.game = .error f →
      Paid i e (.error f) { e with journal := journal }
  | debited {c replaced : Cost} {g : Game} {journal : Journal} : i.ability.cost = some c →
      (e.replacements.applyCost c (e.context i)).outcome e.journal = (.ok replaced, journal) →
      replaced.pay i.controller e.game = .ok g →
      Paid i e (.ok ()) { e with game := g, journal := journal }

/-- Replacing a body, from one active replacement to the next. -/
inductive Replaced (i : Invocation) (e : Engine σ) : Except Fault Invocation → Engine σ → Prop where
  | mk {outcome : Except Fault Invocation} {journal : Journal} :
      (e.replacements.applyBody i (e.context i)).outcome e.journal = (outcome, journal) →
      Replaced i e outcome { e with journal := journal }

/-- Asking for a condition, which may be missing. -/
inductive Asked (i : Invocation) (e : Engine σ) : Except Fault Bool → Engine σ → Prop where
  | free : i.ability.condition = none → Asked i e (.ok true) e
  | asked {c : Condition} {verdict : Except Fault Bool} {journal : Journal} :
      i.ability.condition = some c →
      (c.eval (e.context i)).outcome e.journal = (verdict, journal) →
      Asked i e verdict { e with journal := journal }

/-- Running a body: a script works on a game of its own, a resolver gives a game. -/
inductive Ran (i : Invocation) (e : Engine σ) : Except Fault Game → Engine σ → Prop where
  | script {id : String} {outcome : Except Fault Unit} {s : ScriptState} :
      i.ability.scriptId = some id → id ≠ "" →
      e.scripts.execute id { e.context i with } { game := e.game, journal := e.journal } =
        (outcome, s) →
      Ran i e (outcome.map fun _ => s.game) { e with journal := s.journal }
  | resolver {outcome : Except Fault Game} {journal : Journal} :
      (∀ id ∈ i.ability.scriptId, id = "") →
      (e.resolvers.resolve i e.game).outcome e.journal = (outcome, journal) →
      Ran i e outcome { e with journal := journal }

theorem paid_payCost : Paid i e (payCost i e).1 (payCost i e).2 := by
  unfold payCost hosted
  cases hcost : i.ability.cost with
  | none => exact .free hcost
  | some c =>
    dsimp only
    generalize hrun : (e.replacements.applyCost c (e.context i)).outcome e.journal = done
    obtain ⟨f | replaced, journal⟩ := done
    · exact .unreplaced hcost hrun
    · dsimp only
      cases hpay : replaced.pay i.controller e.game with
      | error f => exact .refused hcost hrun hpay
      | ok g => exact .debited hcost hrun hpay

theorem replaced_replaceBody : Replaced i e (replaceBody i e).1 (replaceBody i e).2 := .mk rfl

theorem asked_conditionHolds : Asked i e (conditionHolds i e).1 (conditionHolds i e).2 := by
  unfold conditionHolds
  cases hcondition : i.ability.condition with
  | none => exact .free hcondition
  | some c => exact .asked hcondition rfl

theorem ran_runBody : Ran i e (runBody i e).1 (runBody i e).2 := by
  unfold runBody
  cases hscript : i.ability.scriptId.filter (!·.isEmpty) with
  | none =>
    refine .resolver (fun id hid => ?_) rfl
    simpa using Option.filter_eq_none_iff.1 hscript id hid
  | some id =>
    obtain ⟨hid, hne⟩ := Option.filter_eq_some_iff.1 hscript
    exact .script hid (by simpa using hne) rfl

variable {outcome : Except Fault Unit} {replaced : Except Fault Invocation}
  {verdict : Except Fault Bool} {result : Except Fault Game}

theorem paid_of_payCost (h : payCost i e = (outcome, e')) : Paid i e outcome e' := by
  have hpaid := paid_payCost (e := e) (i := i)
  rwa [h] at hpaid

/-- Paying a cost ends in one way. -/
theorem Paid.eq (h : Paid i e outcome e') : payCost i e = (outcome, e') := by
  cases h with
  | free hcost => simp only [payCost, hcost]
  | unreplaced hcost hrun => simp only [payCost, hosted, hcost, hrun]
  | refused hcost hrun hpay | debited hcost hrun hpay =>
    simp only [payCost, hosted, hcost, hrun, hpay]

theorem Replaced.eq (h : Replaced i e replaced e') : replaceBody i e = (replaced, e') := by
  obtain ⟨hrun⟩ := h
  simp only [replaceBody, hosted, hrun]

theorem Asked.eq (h : Asked i e verdict e') : conditionHolds i e = (verdict, e') := by
  cases h with
  | free hcondition => simp only [conditionHolds, hcondition]
  | asked hcondition hrun => simp only [conditionHolds, hosted, hcondition, hrun]

theorem Ran.eq (h : Ran i e result e') : runBody i e = (result, e') := by
  cases h with
  | script hid hne hrun =>
    have hscript : i.ability.scriptId.filter (!·.isEmpty) = some _ :=
      Option.filter_eq_some_iff.2 ⟨hid, by simpa using hne⟩
    simp only [runBody, hscript, hrun]
  | resolver hid hrun =>
    have hscript : i.ability.scriptId.filter (!·.isEmpty) = none :=
      Option.filter_eq_none_iff.2 fun id h => by simp [hid id h]
    simp only [runBody, hosted, hscript, hrun]

theorem Replaced.noted (h : Replaced i e replaced e') : Noted e e' := by
  obtain ⟨-⟩ := h
  exact ⟨_, rfl⟩

theorem Asked.noted (h : Asked i e verdict e') : Noted e e' := by
  cases h with
  | free => exact .refl e
  | asked => exact ⟨_, rfl⟩

theorem Ran.noted (h : Ran i e result e') : Noted e e' := by
  cases h <;> exact ⟨_, rfl⟩

theorem noted_replaceBody : Noted e (replaceBody i e).2 := replaced_replaceBody.noted

theorem noted_conditionHolds : Noted e (conditionHolds i e).2 := asked_conditionHolds.noted

theorem noted_runBody : Noted e (runBody i e).2 := ran_runBody.noted

theorem noted_affordable : Noted e (affordable i e).2 := by
  unfold affordable
  split
  · exact .refl e
  · rename_i c _
    have hnoted := noted_hosted (e := e) (e.replacements.applyCost c (e.context i))
    split <;> rename_i hrun <;> rwa [hrun] at hnoted

theorem noted_obstacle {w : Wish} {c : Card} {a : Ability} : Noted e (obstacle w c a e).2 := by
  unfold obstacle
  split
  · exact .refl e
  · have h₁ := noted_conditionHolds (e := e) (i := wished w c a)
    dsimp only
    split <;> rename_i hcond <;> rw [hcond] at h₁
    · exact h₁
    · exact h₁
    · have h₂ := h₁.trans (noted_affordable (i := wished w c a))
      split <;> rename_i hpay <;> rwa [hpay] at h₂

/-! ## What is plugged in -/

/-- The host has plugged the same into both engines. -/
structure SamePlugs (e e' : Engine σ) : Prop where
  answer : e'.answer = e.answer
  replacements : e'.replacements = e.replacements
  resolvers : e'.resolvers = e.resolvers
  scripts : e'.scripts = e.scripts

theorem SamePlugs.trans {e'' : Engine σ} (h₁ : SamePlugs e e') (h₂ : SamePlugs e' e'') :
    SamePlugs e e'' :=
  ⟨h₂.answer.trans h₁.answer, h₂.replacements.trans h₁.replacements,
    h₂.resolvers.trans h₁.resolvers, h₂.scripts.trans h₁.scripts⟩

theorem Noted.samePlugs (h : Noted e e') : SamePlugs e e' := by
  obtain ⟨_, rfl⟩ := h
  exact ⟨rfl, rfl, rfl, rfl⟩

theorem Paid.samePlugs (h : Paid i e outcome e') : SamePlugs e e' := by
  cases h <;> exact ⟨rfl, rfl, rfl, rfl⟩

/-! ## A small engine -/

/-- An engine as it starts out: with a bus, resolvers for all kinds and the stock scripts. -/
def standard (g : Game) : Engine Unit where
  game := g
  settings := {}
  sharedBonus := 1000
  resolvers := .standard ⟨none, 1000⟩
  scripts := .stock
  replacements := {}
  bus := some {}
  memory := ()

/-- Drawing cards by a stock script, at the cost of a DON!!. -/
def paidDraw (script : String) : Invocation where
  ability := { id := "draw", sourceId := "c1", timing := .activate, kind := .drawCards,
               cost := some (.restDon 1), scriptId := some script }
  sourceId := "c1"
  controller := .one

/-- The opening of a game, where the first player's character has an ability. -/
def wielding (a : Ability) : Engine Unit :=
  let c := Game.member "c1" .characterArea .active
  let c := { c with face := { c.face with abilities := [a] } }
  standard { sides := [{ Game.openingSide with characters := [c] }, { player := .two }] }

/-- To use the character's ability to draw. -/
def drawing : Wish := { cardId := "c1", effectId := "draw" }

end Engine

end CardRules
