import CardRules.Condition.Eval
import CardRules.Cost.Payment
import CardRules.Engine.Mark

/-!
# Resolving effects

One effect resolves in stages: its cost is replaced and paid, its body replaced, its
condition asked and its body run. Each stage may fail; what was paid stays paid, and a body
that fails leaves no trace in the game. `Engine.resolveStack` takes pending effects by
priority, those of equal priority in the order in which they were queued, together with
those that are queued meanwhile, up to the limit.
-/

namespace CardRules.Engine

variable {σ : Type}

/-- Replaces and pays the cost of an invocation. -/
def payCost (i : Invocation) (e : Engine σ) : Except Fault Unit × Engine σ :=
  match i.ability.cost with
  | none => (.ok (), e)
  | some c =>
    match e.hosted (e.replacements.applyCost c (e.context i)) with
    | (.error f, e) => (.error f, e)
    | (.ok c, e) =>
      match c.pay i.controller e.game with
      | .ok g => (.ok (), { e with game := g })
      | .error f => (.error f, e)

def replaceBody (i : Invocation) (e : Engine σ) : Except Fault Invocation × Engine σ :=
  e.hosted (e.replacements.applyBody i (e.context i))

def conditionHolds (i : Invocation) (e : Engine σ) : Except Fault Bool × Engine σ :=
  match i.ability.condition with
  | none => (.ok true, e)
  | some c => e.hosted (c.eval (e.context i))

/-- Runs the body of an invocation: its script, if it names one, or else the resolver of its
kind. -/
def runBody (i : Invocation) (e : Engine σ) : Except Fault Game × Engine σ :=
  match i.ability.scriptId.filter (!·.isEmpty) with
  | some id =>
    let (outcome, s) :=
      e.scripts.execute id { e.context i with } { game := e.game, journal := e.journal }
    (outcome.map fun _ => s.game, { e with journal := s.journal })
  | none => e.hosted (e.resolvers.resolve i e.game)

/-- Reports a change of the game since `before`. -/
def tellChange (host : Host σ) (before : Nat) (effectId : String) (e : Engine σ) : Engine σ :=
  if e.game.revision == before then e else e.tell host (.changed effectId e.game)

/-- The stages after the cost. `before` is the revision at which the resolution began; `asked` is
the invocation before its body is replaced, and its ability is the one that counts as used. -/
def resolveBody (host : Host σ) (before : Nat) (asked : Invocation) (e : Engine σ) :
    Except Fault Bool × Engine σ :=
  match replaceBody asked e with
  | (.error f, e) => (.error f, e)
  | (.ok i, e) =>
    match conditionHolds i e with
    | (.error f, e) => (.error f, e)
    | (.ok false, e) =>
      (.ok false, e.tell host (.skipped i) |>.tellChange host before i.ability.id)
    | (.ok true, e) =>
      match runBody i e with
      | (.error f, e) => (.error f, e)
      | (.ok g, e) =>
        let e := { e with game := g }.markUsed asked.ability
        (.ok true, e.tellChange host before i.ability.id
          |>.tell host (.resolved { i with resolved := true }))

def resolveInvocation (host : Host σ) (i : Invocation) (e : Engine σ) :
    Except Fault Bool × Engine σ :=
  match payCost i e with
  | (.error f, e') => (.error f, e')
  | (.ok (), e') => resolveBody host e.game.revision i e'

def process (host : Host σ) (i : Invocation) (e : Engine σ) : Engine σ :=
  match resolveInvocation host i e with
  | (.ok _, e) => e
  | (.error f, e) => e.tell host (.failed i f)

def Pending.precedes (a b : Pending) : Bool :=
  b.priority < a.priority || (a.priority == b.priority && a.addedAt < b.addedAt)

def next? : List Pending → Option Pending
  | [] => none
  | p :: rest =>
    match next? rest with
    | none => some p
    | some q => some (if Pending.precedes q p then q else p)

/-- Takes pending effects until none is left or `remaining` of them have been taken. -/
def drain (host : Host σ) : (remaining : Nat) → Engine σ → Engine σ
  | remaining, e =>
    match next? e.stack with
    | none => e
    | some p =>
      match remaining with
      | 0 => e.tell host (.limitReached e.settings.stackLimit e.stack.length)
      | remaining + 1 =>
        let e := { e with stack := e.stack.filter (·.addedAt != p.addedAt) }
        drain host remaining (process host p.invocation e)

/-- Resolves pending effects. The stack is empty afterwards. -/
def resolveStack (host : Host σ) (e : Engine σ) : Engine σ :=
  { drain host e.settings.stackLimit.toNat e with stack := [] }

end CardRules.Engine
