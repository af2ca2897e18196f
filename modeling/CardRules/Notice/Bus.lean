import CardRules.Named

/-!
# The notice bus

A bus hands notices to the handlers that subscribed to them: first those subscribed to every
kind, then those subscribed to the kind of the notice, each group from the highest priority
down and in the order of subscription where priorities are equal. A handler may cancel a
notice; the handlers after it do not see it. The bus remembers the latest notices.

Handlers are known to the bus by labels. `Bus.send` runs inside a larger world, which holds the
bus and which handlers may change; whom a notice goes to is fixed when it is handed out.
`Bus.publish` hands out a new notice; one that exists may be handed out again.
-/

namespace CardRules

inductive NoticeKind where
  | activated
  | queued
  | resolved
  /-- The condition of an effect did not hold. -/
  | skipped
  | failed
  | cleared
  | changed
  | log
  deriving DecidableEq, Repr, Inhabited

namespace NoticeKind

instance : Named NoticeKind where
  title := "EventType"
  all := [activated, queued, resolved, skipped, failed, cleared, changed, log]
  name
    | activated => "EFFECT_ACTIVATED"
    | queued => "EFFECT_ADDED_TO_STACK"
    | resolved => "EFFECT_RESOLVED"
    | skipped => "EFFECT_SKIPPED"
    | failed => "EFFECT_FAILED"
    | cleared => "STACK_CLEARED"
    | changed => "STATE_CHANGED"
    | log => "LOG_MESSAGE"

def name (k : NoticeKind) : String := Named.name k

end NoticeKind

structure Notice (P : Type) where
  /-- Its number among all notices of the bus. -/
  serial : Nat
  kind : NoticeKind
  payload : P
  cancelled : Bool := false
  deriving Repr, Inhabited

/-- A handler with what it listens to; no topic means every kind. -/
structure Subscription (H : Type) where
  topic : Option NoticeKind
  priority : Int
  /-- Its number among all subscriptions of the bus. -/
  order : Nat
  handler : H
  deriving Repr

def Subscription.precedes {H : Type} (s t : Subscription H) : Bool :=
  t.priority < s.priority || (s.priority == t.priority && s.order ≤ t.order)

/-- The subscriptions to each topic, and the latest notices, oldest first. -/
structure Bus (H P : Type) where
  /-- Each group in the order in which it is served. -/
  groups : Option NoticeKind → List (Subscription H) := fun _ => []
  subscribed : Nat := 0
  history : List (Notice P) := []
  published : Nat := 0
  /-- How many notices are remembered; `none` for all. -/
  capacity : Option Nat := some 100

namespace Bus

/-- One more than the greatest capacity. -/
def capacityBound : Nat := 1 <<< 63

/-- The capacity that is asked for; a negative one is refused. -/
def capacityOf : Option Int → Except Fault (Option Nat)
  | none => .ok none
  | some n =>
    if capacityBound ≤ n ∨ n < -capacityBound then .error .outOfRange
    else if n < 0 then .error (.badValue "maxlen must be non-negative")
    else .ok (some n.toNat)

variable {H P : Type}

/-- Subscribes a handler; also gives the number that ends the subscription. -/
def subscribe (b : Bus H P) (topic : Option NoticeKind) (handler : H) (priority : Int) :
    Nat × Bus H P :=
  let s : Subscription H := ⟨topic, priority, b.subscribed, handler⟩
  (b.subscribed,
    { b with
      groups := fun t =>
        if t = topic then (b.groups t ++ [s]).mergeSort Subscription.precedes else b.groups t
      subscribed := b.subscribed + 1 })

def drop (b : Bus H P) (order : Nat) : Bus H P :=
  { b with groups := fun t => (b.groups t).filter (·.order != order) }

def unsubscribe [BEq H] (b : Bus H P) (kind : NoticeKind) (handler : H) : Bus H P :=
  { b with
    groups := fun t =>
      if t = some kind then (b.groups t).filter fun s => !(s.handler == handler)
      else b.groups t }

def unsubscribeAll [BEq H] (b : Bus H P) (handler : H) : Bus H P :=
  { b with groups := fun t => (b.groups t).filter fun s => !(s.handler == handler) }

def clear (b : Bus H P) : Bus H P := { b with groups := fun _ => [] }

/-- The handlers that a notice goes to, in order. -/
def audience (b : Bus H P) (kind : NoticeKind) : List H :=
  (b.groups none ++ b.groups (some kind)).map (·.handler)

/-- The last items of a list, as many as may be remembered. -/
def remembered {α : Type} : Option Nat → List α → List α
  | none, xs => xs
  | some n, xs => xs.drop (xs.length - n)

def remember (b : Bus H P) (notice : Notice P) : Bus H P :=
  { b with history := remembered b.capacity (b.history ++ [notice]) }

def issue (b : Bus H P) (kind : NoticeKind) (payload : P) : Notice P × Bus H P :=
  ({ serial := b.published, kind := kind, payload := payload },
    { b with published := b.published + 1 })

def record (b : Bus H P) (kind : NoticeKind) (payload : P) : Notice P × Bus H P :=
  let (notice, b) := b.issue kind payload
  (notice, b.remember notice)

def markCancelled (b : Bus H P) (serial : Nat) : Bus H P :=
  { b with
    history := b.history.map fun n =>
      if n.serial == serial then { n with cancelled := true } else n }

/-- The latest `count` remembered notices, of one kind if asked, oldest first. -/
def recent (b : Bus H P) (count : Int) (kind : Option NoticeKind) : List (Notice P) :=
  let found := b.history.filter fun n => kind.all (n.kind == ·)
  if 0 < count then found.drop (found.length - count.toNat) else []

/-- How a handler leaves things: whether it fails, whether the notice is cancelled then, and the
world. -/
abbrev Reply (σ : Type) := Except Fault Unit × Bool × σ

/-- A reply with its failure caught; what the handler did before it failed stays done. -/
def caught {σ : Type} : Reply σ → Bool × σ
  | (.ok (), left) => left
  | (.error _, left) => left

@[simp] theorem caught_eq {σ : Type} (reply : Reply σ) : caught reply = reply.2 := by
  obtain ⟨_ | _, _⟩ := reply <;> rfl

/-- Calls handlers one after the other, up to the first that leaves the notice cancelled. One that
fails does not keep the next from being called. -/
def deliver {σ : Type} (call : H → σ → Reply σ) : List H → σ → Bool × σ
  | [], w => (false, w)
  | h :: rest, w =>
    match caught (call h w) with
    | (true, w) => (true, w)
    | (false, w) => deliver call rest w

/-- Hands a notice out in a world that holds the bus. `call` is what a handler makes of the
notice. A notice that is cancelled already is remembered, but nobody hears it. -/
def send {σ : Type} (get : σ → Bus H P) (set : σ → Bus H P → σ)
    (call : Notice P → H → σ → Reply σ) (notice : Notice P) (w : σ) : Notice P × σ :=
  let audience := (get w).audience notice.kind
  let w := set w ((get w).remember notice)
  if notice.cancelled then (notice, w)
  else
    match deliver (call notice) audience w with
    | (true, w) => ({ notice with cancelled := true }, set w ((get w).markCancelled notice.serial))
    | (false, w) => (notice, w)

def publish {σ : Type} (get : σ → Bus H P) (set : σ → Bus H P → σ)
    (call : Notice P → H → σ → Reply σ) (kind : NoticeKind) (payload : P) (w : σ) :
    Notice P × σ :=
  let (notice, b) := (get w).issue kind payload
  send get set call notice (set w b)

end Bus

end CardRules
