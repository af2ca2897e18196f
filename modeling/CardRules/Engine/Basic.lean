import CardRules.Notice.Bus
import CardRules.Replacement
import CardRules.Resolver.Table
import CardRules.Script.Basic
import CardRules.Settings

/-!
# The engine

An engine holds the game, the effects that wait on its stack and everything a host has
plugged in: resolvers, scripts, replacements and listeners on the bus. What the engine does
it reports on the bus.

Listeners belong to the host. A listener answers a notice with reactions: it queues further
effects, changes the game, clears the stack, cancels the notice or gives up. `Engine.tell`
publishes a report and carries out what the listeners ask for; notices that listeners cause
in turn nest down to the `reach` of the host.
-/

namespace CardRules

/-- What a notice of the engine tells. -/
inductive Report where
  | activated (cardId : String) (i : Invocation)
  | queued (i : Invocation) (priority : Int)
  | resolved (i : Invocation)
  | skipped (i : Invocation)
  | failed (i : Invocation) (fault : Fault)
  | cleared (discarded : Nat)
  | changed (effectId : String) (game : Game)
  /-- Resolution has met its limit and leaves the rest of the stack. -/
  | limitReached (limit : Int) (discarded : Nat)
  deriving Inhabited

namespace Report

def kind : Report → NoticeKind
  | activated .. => .activated
  | queued .. => .queued
  | resolved _ => .resolved
  | skipped _ => .skipped
  | failed .. => .failed
  | cleared _ => .cleared
  | changed .. => .changed
  | limitReached .. => .log

def invocation? : Report → Option Invocation
  | activated _ i | queued i _ | resolved i | skipped i | failed i _ => some i
  | _ => none

def effectId? : Report → Option String
  | changed id _ => some id
  | r => r.invocation?.map (·.ability.id)

def cardId? : Report → Option String
  | activated id _ => some id
  | r => r.invocation?.map (·.sourceId)

def fault? : Report → Option Fault
  | failed _ f => some f
  | _ => none

def message? : Report → Option String
  | failed _ f => some f.text
  | limitReached limit _ => some ("Stack resolution limit (" ++ toString limit ++ ") reached")
  | _ => none

def discarded? : Report → Option Nat
  | cleared n | limitReached _ n => some n
  | _ => none

def priority? : Report → Option Int
  | queued _ p => some p
  | _ => none

end Report

abbrev ListenerId := Nat

/-- An effect that waits on the stack. -/
structure Pending where
  invocation : Invocation
  /-- The highest priority resolves first. -/
  priority : Int
  /-- Its number among all that were queued. -/
  addedAt : Nat
  deriving Inhabited

/-- The engine, with the memory of its host. -/
structure Engine (σ : Type) where
  game : Game
  settings : Settings
  /-- The bonus of the shared settings, which engines without their own would use. -/
  sharedBonus : Int
  resolvers : ResolverTable
  scripts : ScriptBook
  replacements : Replacements
  /-- How the host answers the probes of conditions and the tests of filters. -/
  answer : Answering := .written
  bus : Option (Bus ListenerId Report)
  stack : List Pending := []
  /-- How many effects have been queued so far. -/
  queued : Nat := 0
  /-- The marks of the abilities that are used in the running turn. -/
  used : List Nat := []
  /-- The first mark that no ability has. -/
  nextMark : Nat := 0
  journal : Journal := []
  memory : σ

/-- What a listener wants done. -/
inductive Reaction where
  | push (i : Invocation) (priority : Option Int)
  | update (change : Game → Except Fault Game)
  | clear
  | cancel
  /-- The listener fails; what comes after is left out. -/
  | fail (fault : Fault)

structure Host (σ : Type) where
  react : ListenerId → Notice Report → Game → σ → List Reaction × σ
  /-- How deep notices nest. At the end of its reach a notice is recorded, but nobody hears it. -/
  reach : Nat

namespace Engine

variable {σ : Type}

def bonus (e : Engine σ) : DonBonus := ⟨some e.settings.donBonus, e.sharedBonus⟩

def context (e : Engine σ) (i : Invocation) : Context :=
  .ofInvocation e.game e.bonus i e.answer

/-- Runs host code; its outcome, and the engine with what it recorded. -/
def hosted {α : Type} (e : Engine σ) (run : Hosted α) : Except Fault α × Engine σ :=
  let (outcome, journal) := run.outcome e.journal
  (outcome, { e with journal := journal })

def enqueue (e : Engine σ) (i : Invocation) (priority : Int) : Engine σ :=
  { e with stack := e.stack ++ [⟨i, priority, e.queued⟩], queued := e.queued + 1 }

/-- Carries out reactions up to the first that fails. `tell` reports what they bring about.
Also gives whether the notice is cancelled then. -/
def perform (tell : Report → Engine σ → Engine σ) (cancelled : Bool) :
    List Reaction → Engine σ → Bus.Reply (Engine σ)
  | [], e => (.ok (), cancelled, e)
  | .push i p :: rest, e =>
    let priority := p.getD i.priority
    perform tell cancelled rest (tell (.queued i priority) (e.enqueue i priority))
  | .update change :: rest, e =>
    match change e.game with
    | .ok g => perform tell cancelled rest { e with game := g }
    | .error f => (.error f, cancelled, e)
  | .clear :: rest, e =>
    perform tell cancelled rest (tell (.cleared e.stack.length) { e with stack := [] })
  | .cancel :: rest, e => perform tell true rest e
  | .fail f :: _, e => (.error f, cancelled, e)

/-- Publishes a report, with `depth` levels left for the notices that listeners cause. -/
def publish (host : Host σ) : (depth : Nat) → Report → Engine σ → Engine σ
  | 0, r, e => { e with bus := e.bus.map fun b => (b.record r.kind r).2 }
  | depth + 1, r, e =>
    match e.bus with
    | none => e
    | some b =>
      (Bus.publish (fun e => e.bus.getD b) (fun e b => { e with bus := some b })
        (fun notice listener e =>
          let (reactions, memory) := host.react listener notice e.game e.memory
          perform (publish host depth) false reactions { e with memory := memory })
        r.kind r e).2

/-- Publishes a report to the listeners of a host. -/
def tell (host : Host σ) (r : Report) (e : Engine σ) : Engine σ := publish host host.reach r e

/-- Queues an effect; its own priority counts unless another is given. -/
def push (host : Host σ) (i : Invocation) (priority : Option Int) (e : Engine σ) :
    Pending × Engine σ :=
  let p := priority.getD i.priority
  (⟨i, p, e.queued⟩, e.enqueue i p |>.tell host (.queued i p))

def clearStack (host : Host σ) (e : Engine σ) : Nat × Engine σ :=
  let n := e.stack.length
  (n, { e with stack := [] } |>.tell host (.cleared n))

end Engine

end CardRules
