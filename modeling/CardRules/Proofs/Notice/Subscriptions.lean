import Mathlib.Data.List.Permutation
import CardRules.Notice.Bus
import CardRules.Proofs.Log

/-!
# The bus as a list of subscriptions

A bus keeps a sorted group of subscriptions for each topic, sorts a group again when somebody
subscribes, and filters groups when somebody leaves. What it does can be told without the
groups, from the log of what has been asked of it: a subscription is live when it has been made
and nothing since then has ended it (`Bus.Live`), and a notice goes to those that are live when
it is handed out, in an order that only depends on their topics, priorities and numbers
(`Bus.Audience`). What handlers do meanwhile goes into the log behind the notice, so it only
concerns later ones.

`Bus.Follows` is what each operation preserves; `Bus.Reached` are the worlds that operations and
notices lead to.
-/

namespace CardRules.Bus

variable {H P σ : Type}

/-! ## What is asked of a bus -/

/-- An operation on a bus. -/
inductive Op (H P : Type) where
  | subscribe (topic : Option NoticeKind) (handler : H) (priority : Int)
  /-- Ends the subscription with a number; it may have ended already. -/
  | drop (order : Nat)
  | unsubscribe (kind : NoticeKind) (handler : H)
  | unsubscribeAll (handler : H)
  | clear
  | issue (kind : NoticeKind) (payload : P)
  | remember (notice : Notice P)
  | markCancelled (serial : Nat)

def perform [BEq H] (b : Bus H P) : Op H P → Bus H P
  | .subscribe topic handler priority => (b.subscribe topic handler priority).2
  | .drop order => b.drop order
  | .unsubscribe kind handler => b.unsubscribe kind handler
  | .unsubscribeAll handler => b.unsubscribeAll handler
  | .clear => b.clear
  | .issue kind payload => (b.issue kind payload).2
  | .remember notice => b.remember notice
  | .markCancelled serial => b.markCancelled serial

namespace Op

def isSubscribe : Op H P → Bool
  | subscribe .. => true
  | _ => false

/-- Whether the operation ends a subscription that runs. -/
def ends [BEq H] (s : Subscription H) : Op H P → Bool
  | drop order => s.order == order
  | unsubscribe kind handler => s.topic == some kind && s.handler == handler
  | unsubscribeAll handler => s.handler == handler
  | clear => true
  | _ => false

/-- Files a notice behind the others, or marks those with a number as cancelled. -/
def file (notices : List (Notice P)) : Op H P → List (Notice P)
  | remember notice => notices ++ [notice]
  | markCancelled serial => notices.map fun n =>
      if n.serial == serial then { n with cancelled := true } else n
  | _ => notices

end Op

/-- The number of the next subscription. -/
def subscribedIn (log : List (Op H P)) : Nat := log.countP (·.isSubscribe)

/-- The subscription has been made, and nothing since then has ended it. -/
def Live [BEq H] (log : List (Op H P)) (s : Subscription H) : Prop :=
  ∃ before after, log = before ++ .subscribe s.topic s.handler s.priority :: after ∧
    s.order = subscribedIn before ∧ ∀ op ∈ after, op.ends s = false

/-- All notices that were ever handed out, with what became of them. -/
def archive (log : List (Op H P)) : List (Notice P) := log.foldl Op.file []

/-- The last items of a list, as many as there is room for. -/
def Latest {α : Type} (room : Option Nat) (xs ys : List α) : Prop :=
  ys <:+ xs ∧ ys.length = room.elim xs.length (min · xs.length)

/-- Subscriptions to every kind come first; within a topic the higher priority comes first, and
the earlier subscription among equal ones. -/
def ServedBefore (s t : Subscription H) : Prop :=
  (s.topic = none ∧ t.topic ≠ none) ∨ (s.topic = t.topic ∧
    (t.priority < s.priority ∨ s.priority = t.priority ∧ s.order < t.order))

/-- The live subscriptions that a notice of the kind goes to, in their order. -/
structure Audience [BEq H] (log : List (Op H P)) (kind : NoticeKind)
    (audience : List (Subscription H)) : Prop where
  mem : ∀ s, s ∈ audience ↔ Live log s ∧ (s.topic = none ∨ s.topic = some kind)
  order : audience.Pairwise ServedBefore

/-! ## What handlers do -/

/-- What a handler does when it is called: what it asks of the bus, one after the other, whether
it fails in the end, whether the notice is cancelled by then, and what it leaves in the memory
of the host. -/
structure Conduct (H P σ : Type) where
  asks : List (Op H P) := []
  outcome : Except Fault Unit := .ok ()
  cancelled : Bool := false
  memory : σ

structure World (H P σ : Type) where
  bus : Bus H P
  memory : σ

abbrev Conducts (H P σ : Type) := Notice P → H → World H P σ → Conduct H P σ

namespace World

variable [BEq H]

/-- The world that a handler leaves. -/
def heed (w : World H P σ) (c : Conduct H P σ) : World H P σ :=
  ⟨c.asks.foldl perform w.bus, c.memory⟩

/-- What a handler makes of a notice. -/
def call (conducts : Conducts H P σ) (notice : Notice P) (h : H) (w : World H P σ) :
    Reply (World H P σ) :=
  let c := conducts notice h w
  (c.outcome, c.cancelled, w.heed c)

def remember (w : World H P σ) (notice : Notice P) : World H P σ :=
  { w with bus := w.bus.remember notice }

/-- Hands out a notice to handlers that conduct themselves as given. -/
def send (conducts : Conducts H P σ) (notice : Notice P) (w : World H P σ) :
    Notice P × World H P σ :=
  Bus.send (·.bus) (fun w b => { w with bus := b }) (call conducts) notice w

end World

/-- Handlers are called one after the other, each in the world that those before it have left,
up to the first that leaves the notice cancelled. -/
inductive Calls [BEq H] (conducts : Conducts H P σ) (notice : Notice P) :
    List (Subscription H) → World H P σ → List (Subscription H × Conduct H P σ) →
      World H P σ → Prop where
  /-- Nobody is left. -/
  | done (w : World H P σ) : Calls conducts notice [] w [] w
  /-- Whether or not the handler fails, the next one is called. -/
  | next {s : Subscription H} {rest : List (Subscription H)} {w w' : World H P σ}
      {c : Conduct H P σ} {called : List (Subscription H × Conduct H P σ)} :
      conducts notice s.handler w = c → c.cancelled = false →
      Calls conducts notice rest (w.heed c) called w' →
      Calls conducts notice (s :: rest) w ((s, c) :: called) w'
  /-- Nobody else is called. -/
  | stop {s : Subscription H} {rest : List (Subscription H)} {w : World H P σ}
      {c : Conduct H P σ} : conducts notice s.handler w = c → c.cancelled = true →
      Calls conducts notice (s :: rest) w [(s, c)] (w.heed c)

/-- What is asked of a bus while a notice is handed out to those who are called. -/
def trail (notice : Notice P) (called : List (Subscription H × Conduct H P σ)) : List (Op H P) :=
  .remember notice :: called.flatMap (·.2.asks) ++
    if called.any (·.2.cancelled) then [.markCancelled notice.serial] else []

/-! ## What an operation preserves -/

section Order

variable {s t : Subscription H}

theorem precedes_iff : s.precedes t ↔
    t.priority < s.priority ∨ (s.priority = t.priority ∧ s.order ≤ t.order) := by
  simp [Subscription.precedes]

theorem precedes_trans (r s t : Subscription H) (h : r.precedes s) (h' : s.precedes t) :
    r.precedes t := by
  rw [precedes_iff] at *
  omega

theorem precedes_total (s t : Subscription H) : s.precedes t || t.precedes s := by
  rw [Bool.or_eq_true, precedes_iff, precedes_iff]
  omega

end Order

theorem remembered_concat {α : Type} (room : Option Nat) (xs : List α) (x : α) :
    remembered room (remembered room xs ++ [x]) = remembered room (xs ++ [x]) := by
  cases room with
  | none => rfl
  | some n =>
    have hdrop : xs.drop (xs.length - n) ++ [x] = (xs ++ [x]).drop (xs.length - n) :=
      (List.drop_append_of_le_length (Nat.sub_le _ _)).symm
    simp only [remembered]
    rw [hdrop, List.drop_drop, List.length_drop, List.length_append, List.length_singleton]
    congr 1
    omega

theorem map_remembered {α β : Type} (f : α → β) (room : Option Nat) (xs : List α) :
    (remembered room xs).map f = remembered room (xs.map f) := by
  cases room with
  | none => rfl
  | some n => rw [remembered, remembered, List.map_drop, List.length_map]

theorem latest_remembered {α : Type} (room : Option Nat) (xs : List α) :
    Latest room xs (remembered room xs) := by
  cases room with
  | none => exact ⟨List.suffix_refl xs, rfl⟩
  | some n =>
    refine ⟨List.drop_suffix _ _, ?_⟩
    simp only [remembered, List.length_drop, Option.elim_some]
    omega

/-- The latest notices of a kind are the last ones of this kind among those remembered. -/
theorem latest_recent (b : Bus H P) (n : Nat) (kind : Option NoticeKind) :
    Latest (some n) (b.history.filter fun e => kind.all (e.kind == ·)) (b.recent n kind) := by
  have hrecent : b.recent n kind =
      remembered (some n) (b.history.filter fun e => kind.all (e.kind == ·)) := by
    unfold recent remembered
    cases n with
    | zero => simp
    | succ n =>
      dsimp only
      rw [if_pos (by omega), Int.toNat_natCast]
  rw [hrecent]
  exact latest_remembered _ _

section Follows

variable [BEq H] {log : List (Op H P)} {b : Bus H P} {op : Op H P} {s t : Subscription H}
  {topic : Option NoticeKind}

/-- The bus is as its log says. -/
structure Follows (capacity : Option Nat) (log : List (Op H P)) (b : Bus H P) : Prop where
  mem : ∀ topic s, s ∈ b.groups topic ↔ s.topic = topic ∧ Live log s
  sorted : ∀ topic, (b.groups topic).Pairwise fun s t => s.precedes t
  distinct : ∀ topic, (b.groups topic).Pairwise fun s t => s.order ≠ t.order
  subscribed : b.subscribed = subscribedIn log
  room : b.capacity = capacity
  history : b.history = remembered capacity (archive log)

theorem live_iff_leaves : Live log s ↔ Log.Leaves (fun before op =>
    op = .subscribe s.topic s.handler s.priority ∧ s.order = subscribedIn before) (·.ends s) log := by
  constructor
  · rintro ⟨before, after, hlog, horder, hafter⟩
    exact ⟨before, _, after, hlog, ⟨rfl, horder⟩, hafter⟩
  · rintro ⟨before, _, after, hlog, ⟨rfl, horder⟩, hafter⟩
    exact ⟨before, after, hlog, horder, hafter⟩

theorem live_concat : Live (log ++ [op]) s ↔ (Live log s ∧ op.ends s = false) ∨
    (op = .subscribe s.topic s.handler s.priority ∧ s.order = subscribedIn log) := by
  rw [live_iff_leaves, live_iff_leaves, Log.leaves_concat]

/-- A live subscription has a number that has been given out. -/
theorem Live.order_lt (h : Live log s) : s.order < subscribedIn log := by
  obtain ⟨before, after, rfl, horder, -⟩ := h
  rw [horder, subscribedIn, subscribedIn, List.countP_append, List.countP_cons_of_pos rfl]
  omega

/-- All operations but subscribing filter the groups. -/
theorem groups_perform (htopic : ∀ s ∈ b.groups topic, s.topic = topic)
    (hop : op.isSubscribe = false) :
    (b.perform op).groups topic = (b.groups topic).filter fun s => !op.ends s := by
  cases op with
  | subscribe => cases hop
  | drop order => rfl
  | unsubscribe kind handler =>
    show (if topic = some kind then _ else _) = _
    split
    · rename_i hk
      refine List.filter_congr fun s hs => ?_
      simp [Op.ends, htopic s hs, hk]
    · rename_i hk
      refine (List.filter_eq_self.2 fun s hs => ?_).symm
      simp [Op.ends, htopic s hs, hk]
  | unsubscribeAll handler => rfl
  | clear => exact (List.filter_eq_nil_iff.2 (by simp [Op.ends])).symm
  | issue | remember | markCancelled => exact (List.filter_eq_self.2 (by simp [Op.ends])).symm

theorem groups_subscribe {t : Option NoticeKind} {handler : H} {priority : Int} :
    ((b.perform (.subscribe t handler priority)).groups topic).Perm
      (b.groups topic ++ if topic = t then [⟨t, priority, b.subscribed, handler⟩] else []) := by
  show (if topic = t then _ else _ : List (Subscription H)).Perm _
  split
  · exact List.mergeSort_perm _ _
  · simp

theorem follows_empty (capacity : Option Nat) :
    Follows capacity [] ({ capacity := capacity } : Bus H P) where
  mem topic s := by simp [Live]
  sorted _ := .nil
  distinct _ := .nil
  subscribed := rfl
  room := rfl
  history := by cases capacity <;> simp [remembered, archive]

variable {capacity : Option Nat}

theorem Follows.history_perform (h : Follows capacity log b) :
    (b.perform op).history = remembered capacity (archive (log ++ [op])) := by
  have hfile : archive (log ++ [op]) = Op.file (archive log) op := List.foldl_append ..
  rw [hfile]
  cases op with
  | remember notice =>
    show remembered b.capacity (b.history ++ [notice]) = _
    rw [h.room, h.history, remembered_concat]
    rfl
  | markCancelled serial =>
    show b.history.map _ = _
    rw [h.history, map_remembered]
    rfl
  | subscribe | drop | unsubscribe | unsubscribeAll | clear | issue => exact h.history

theorem Follows.subscribe {t : Option NoticeKind} {handler : H} {priority : Int}
    (h : Follows capacity log b) :
    Follows capacity (log ++ [.subscribe t handler priority])
      (b.perform (.subscribe t handler priority)) := by
  have hmem : ∀ topic s, s ∈ (b.perform (.subscribe t handler priority)).groups topic ↔
      s ∈ b.groups topic ∨ topic = t ∧ s = ⟨t, priority, b.subscribed, handler⟩ := by
    intro topic s
    rw [groups_subscribe.mem_iff, List.mem_append]
    by_cases ht : topic = t <;> simp [ht]
  refine ⟨fun topic s => ?_, fun topic => ?_, fun topic => ?_, ?_, h.room, h.history_perform⟩
  · rw [hmem, h.mem, live_concat, h.subscribed]
    constructor
    · rintro (⟨htopic, hlive⟩ | ⟨rfl, rfl⟩)
      · exact ⟨htopic, .inl ⟨hlive, rfl⟩⟩
      · exact ⟨rfl, .inr ⟨rfl, rfl⟩⟩
    · rintro ⟨rfl, ⟨hlive, -⟩ | ⟨hop, horder⟩⟩
      · exact .inl ⟨rfl, hlive⟩
      · cases hop
        exact .inr ⟨rfl, by rw [← horder]⟩
  · show (if topic = t then _ else _ : List (Subscription H)).Pairwise _
    split
    · exact List.pairwise_mergeSort precedes_trans precedes_total _
    · exact h.sorted topic
  · refine (groups_subscribe.pairwise_iff fun hne => hne.symm).2 ?_
    refine List.pairwise_append.2 ⟨h.distinct topic, by split <;> simp, fun s hs u hu => ?_⟩
    -- The numbers of live subscriptions are below the next one.
    have hlt := ((h.mem topic s).1 hs).2.order_lt
    have hu : u.order = b.subscribed := by
      split at hu
      · rw [List.mem_singleton.1 hu]
      · cases hu
    rw [hu, h.subscribed]
    omega
  · rw [subscribedIn, List.countP_append, ← subscribedIn, ← h.subscribed]
    rfl

theorem Follows.others (h : Follows capacity log b) (hop : op.isSubscribe = false) :
    Follows capacity (log ++ [op]) (b.perform op) := by
  have hgroups : ∀ topic, (b.perform op).groups topic =
      (b.groups topic).filter fun s => !op.ends s :=
    fun topic => groups_perform (fun s hs => ((h.mem topic s).1 hs).1) hop
  refine ⟨fun topic s => ?_, fun topic => ?_, fun topic => ?_, ?_, ?_, h.history_perform⟩
  · rw [hgroups, List.mem_filter, h.mem, live_concat]
    have hnot : op ≠ .subscribe s.topic s.handler s.priority := by
      rintro rfl
      cases hop
    simp [hnot, and_assoc]
  · rw [hgroups]
    exact (h.sorted topic).filter _
  · rw [hgroups]
    exact (h.distinct topic).filter _
  · have hcount : subscribedIn (log ++ [op]) = subscribedIn log := by
      rw [subscribedIn, List.countP_append, List.countP_singleton, if_neg (by simp [hop])]
      rfl
    rw [hcount, ← h.subscribed]
    cases op <;> first | rfl | cases hop
  · rw [← h.room]
    cases op <;> rfl

theorem Follows.perform (h : Follows capacity log b) (op : Op H P) :
    Follows capacity (log ++ [op]) (b.perform op) := by
  cases hop : op.isSubscribe with
  | false => exact h.others hop
  | true =>
    cases op with
    | subscribe t handler priority => exact h.subscribe
    | drop | unsubscribe | unsubscribeAll | clear | issue | remember | markCancelled => cases hop

theorem Follows.foldl (h : Follows capacity log b) (ops : List (Op H P)) :
    Follows capacity (log ++ ops) (ops.foldl Bus.perform b) := by
  induction ops generalizing log b with
  | nil => simpa using h
  | cons op rest ih =>
    have hrest := ih (h.perform op)
    rwa [List.append_assoc, List.singleton_append] at hrest

/-- Those that a notice of the kind goes to, as the bus has them. -/
def served (b : Bus H P) (kind : NoticeKind) : List (Subscription H) :=
  b.groups none ++ b.groups (some kind)

theorem Follows.audience_served (h : Follows capacity log b) (kind : NoticeKind) :
    Audience log kind (b.served kind) := by
  have hgroup : ∀ topic, (b.groups topic).Pairwise ServedBefore := by
    intro topic
    refine ((h.sorted topic).and (h.distinct topic)).imp_of_mem ?_
    rintro s t hs ht ⟨hprec, hne⟩
    have htopic : s.topic = t.topic :=
      ((h.mem topic s).1 hs).1.trans ((h.mem topic t).1 ht).1.symm
    rw [precedes_iff] at hprec
    exact .inr ⟨htopic, by omega⟩
  constructor
  · intro s
    rw [served, List.mem_append, h.mem, h.mem]
    constructor
    · rintro (⟨ht, hs⟩ | ⟨ht, hs⟩)
      · exact ⟨hs, .inl ht⟩
      · exact ⟨hs, .inr ht⟩
    · rintro ⟨hs, ht | ht⟩
      · exact .inl ⟨ht, hs⟩
      · exact .inr ⟨ht, hs⟩
  · refine List.pairwise_append.2 ⟨hgroup _, hgroup _, fun s hs t ht => .inl ?_⟩
    refine ⟨((h.mem _ s).1 hs).1, ?_⟩
    rw [((h.mem _ t).1 ht).1]
    exact nofun

/-- The log leaves no choice. -/
theorem Audience.unique {kind : NoticeKind} {xs ys : List (Subscription H)}
    (hx : Audience log kind xs) (hy : Audience log kind ys) : xs = ys := by
  have hirrefl : ∀ s t : Subscription H, ServedBefore s t → ServedBefore t s → False := by
    rintro s t (⟨h, h'⟩ | ⟨h, h'⟩) (⟨k, k'⟩ | ⟨k, k'⟩)
    · exact h' k
    · exact h' (k.trans h)
    · exact k' (h.trans k)
    · omega
  have hnodup : ∀ {zs : List (Subscription H)}, zs.Pairwise ServedBefore → zs.Nodup := by
    intro zs hz
    refine hz.imp fun {s t} hst heq => ?_
    subst heq
    exact hirrefl s s hst hst
  have hperm : xs.Perm ys := (List.perm_ext_iff_of_nodup (hnodup hx.order) (hnodup hy.order)).2
    fun s => (hx.mem s).trans (hy.mem s).symm
  exact hperm.eq_of_pairwise (fun s t _ _ hst hts => (hirrefl s t hst hts).elim) hx.order hy.order

end Follows

/-! ## Handing out -/

section Send

variable [BEq H] {conducts : Conducts H P σ} {notice : Notice P} {w w' : World H P σ}
  {audience : List (Subscription H)} {called : List (Subscription H × Conduct H P σ)}
  {capacity : Option Nat} {log : List (Op H P)}

/-- The notice and the world in the end, when the handlers have been called. -/
def conclude (notice : Notice P) (called : List (Subscription H × Conduct H P σ))
    (w : World H P σ) : Notice P × World H P σ :=
  if called.any (·.2.cancelled) then
    ({ notice with cancelled := true }, { w with bus := w.bus.markCancelled notice.serial })
  else (notice, w)

theorem exists_calls (conducts : Conducts H P σ) (notice : Notice P)
    (audience : List (Subscription H)) (w : World H P σ) :
    ∃ called w', Calls conducts notice audience w called w' := by
  induction audience generalizing w with
  | nil => exact ⟨[], w, .done w⟩
  | cons s rest ih =>
    cases hc : (conducts notice s.handler w).cancelled with
    | true => exact ⟨_, _, .stop rfl hc⟩
    | false =>
      obtain ⟨called, w', hcalls⟩ := ih (w.heed (conducts notice s.handler w))
      exact ⟨_, w', .next rfl hc hcalls⟩

theorem Calls.deliver_eq (h : Calls conducts notice audience w called w') :
    deliver (World.call conducts notice) (audience.map (·.handler)) w =
      (called.any (·.2.cancelled), w') := by
  induction h with
  | done w => rfl
  | next hc hcancel _ ih =>
    cases hc
    rw [List.map_cons, deliver, caught_eq, World.call, hcancel]
    dsimp only
    rw [ih, List.any_cons, hcancel, Bool.false_or]
  | stop hc hcancel =>
    cases hc
    rw [List.map_cons, deliver, caught_eq, World.call, hcancel]
    simp [hcancel]

theorem Calls.bus_eq (h : Calls conducts notice audience w called w') :
    w'.bus = (called.flatMap (·.2.asks)).foldl perform w.bus := by
  induction h with
  | done w => rfl
  | next _ _ _ ih =>
    rw [ih, List.flatMap_cons, List.foldl_append]
    rfl
  | stop => simp [World.heed]

theorem Calls.send_eq
    (h : Calls conducts notice (w.bus.served notice.kind) (w.remember notice) called w')
    (hn : notice.cancelled = false) : w.send conducts notice = conclude notice called w' := by
  have hdeliver := h.deliver_eq
  unfold World.send Bus.send
  dsimp only
  rw [if_neg (by simp [hn])]
  unfold audience
  rw [show w.bus.groups none ++ w.bus.groups (some notice.kind) = w.bus.served notice.kind from rfl]
  unfold World.remember at hdeliver
  rw [hdeliver]
  unfold conclude
  cases called.any (·.2.cancelled) <;> rfl

theorem Calls.bus_conclude (h : Calls conducts notice audience (w.remember notice) called w') :
    (conclude notice called w').2.bus = (trail notice called).foldl perform w.bus := by
  have hbus := h.bus_eq
  unfold conclude trail
  rw [List.foldl_append, List.foldl_cons]
  show _ = List.foldl perform (List.foldl perform (w.remember notice).bus _) _
  rw [← hbus]
  cases called.any (·.2.cancelled) <;> rfl

/-! ## Whatever has been asked -/

/-- Publishing is handing out a new notice. -/
theorem publish_eq_send (kind : NoticeKind) (payload : P) :
    Bus.publish (·.bus) (fun w b => { w with bus := b }) (World.call conducts) kind payload w =
    World.send conducts (w.bus.issue kind payload).1
      ⟨w.bus.perform (.issue kind payload), w.memory⟩ := rfl

/-- The worlds that operations and notices lead to, each with the log of what its bus has been
asked. Whoever asks the bus may also write into the memory of the host. -/
inductive Reached (conducts : Conducts H P σ) (capacity : Option Nat) :
    List (Op H P) → World H P σ → Prop where
  | start (memory : σ) : Reached conducts capacity [] ⟨{ capacity := capacity }, memory⟩
  | ask {log : List (Op H P)} {w : World H P σ} (op : Op H P) (memory : σ) :
      Reached conducts capacity log w →
      Reached conducts capacity (log ++ [op]) ⟨w.bus.perform op, memory⟩
  | send {log : List (Op H P)} {w w' : World H P σ} {notice : Notice P}
      {called : List (Subscription H × Conduct H P σ)} :
      Reached conducts capacity log w → notice.cancelled = false →
      Calls conducts notice (w.bus.served notice.kind) (w.remember notice) called w' →
      Reached conducts capacity (log ++ trail notice called) (w.send conducts notice).2

/-- Whatever is asked, a world without handlers' doings is reached by it. -/
theorem reached_asks (conducts : Conducts H P σ) (capacity : Option Nat) (log : List (Op H P))
    (memory : σ) :
    Reached conducts capacity log ⟨log.foldl perform { capacity := capacity }, memory⟩ := by
  induction log using List.reverseRecOn with
  | nil => exact .start memory
  | append_singleton log op ih =>
    rw [List.foldl_append]
    exact .ask op memory ih

theorem Reached.follows (h : Reached conducts capacity log w) : Follows capacity log w.bus := by
  induction h with
  | start memory => exact follows_empty capacity
  | ask op memory _ ih => exact ih.perform op
  | send _ hn hcalls ih =>
    rw [hcalls.send_eq hn, hcalls.bus_conclude]
    exact ih.foldl _

/-- A bus is known by its log. A subscription gets the number of those before it. A notice that
is not cancelled goes to the live subscriptions in their order, up to the first handler that
cancels it, and whatever the handlers ask goes into the log behind it. The history has the latest
notices of a kind among those that there is room for. -/
theorem refines_subscriptions (h : Reached conducts capacity log w) :
    (∀ topic handler priority, (w.bus.subscribe topic handler priority).1 = subscribedIn log) ∧
    (∀ notice : Notice P, notice.cancelled = false → ∃ audience called w',
      Audience log notice.kind audience ∧
      Calls conducts notice audience (w.remember notice) called w' ∧
      w.send conducts notice = conclude notice called w' ∧
      Reached conducts capacity (log ++ trail notice called) (w.send conducts notice).2) ∧
    ∀ (n : Nat) (kind : Option NoticeKind), ∃ kept, Latest capacity (archive log) kept ∧
      Latest (some n) (kept.filter fun e => kind.all (e.kind == ·)) (w.bus.recent n kind) := by
  have hw := h.follows
  refine ⟨fun _ _ _ => hw.subscribed, fun notice hn => ?_, fun n kind => ?_⟩
  · obtain ⟨called, w', hcalls⟩ :=
      exists_calls conducts notice (w.bus.served notice.kind) (w.remember notice)
    exact ⟨_, called, w', hw.audience_served notice.kind, hcalls, hcalls.send_eq hn,
      .send h hn hcalls⟩
  · refine ⟨w.bus.history, ?_, latest_recent w.bus n kind⟩
    rw [hw.history]
    exact latest_remembered _ _

end Send

/-- The first handler always fails, the others cancel what they hear. -/
def grumpy : Conducts Nat String Unit := fun _ handler _ =>
  { outcome := if handler = 0 then .error (.host "no") else .ok (), cancelled := handler != 0,
    memory := () }

/-- The bus is cleared, and the handle of a subscription that it has dropped is called later. -/
def grumpyLog : List (Op Nat String) :=
  [.subscribe none 0 0, .clear, .subscribe (some .log) 1 0, .drop 0, .subscribe none 0 0,
    .subscribe (some .log) 2 7]

def grumpyWorld : World Nat String Unit :=
  ⟨grumpyLog.foldl perform { capacity := some 2 }, ()⟩

/-- The first handler fails, and the second one cancels the notice before the third hears it. -/
theorem refines_subscriptions_grumpy :
    Reached grumpy (some 2) grumpyLog grumpyWorld ∧ ∃ called w',
      Calls grumpy ⟨5, .log, "hello", false⟩
        [⟨none, 0, 2, 0⟩, ⟨some .log, 7, 3, 2⟩, ⟨some .log, 0, 1, 1⟩]
        (grumpyWorld.remember ⟨5, .log, "hello", false⟩) called w' ∧
      called.map (·.1.handler) = [0, 2] ∧
      grumpyWorld.send grumpy ⟨5, .log, "hello", false⟩ =
        conclude ⟨5, .log, "hello", false⟩ called w' := by
  have hreached : Reached grumpy (some 2) grumpyLog grumpyWorld := reached_asks _ _ _ _
  obtain ⟨audience, called, w', haudience, hcalls, hsend, -⟩ :=
    (refines_subscriptions hreached).2.1 ⟨5, .log, "hello", false⟩ rfl
  have hserved : grumpyWorld.bus.served .log =
      [⟨none, 0, 2, 0⟩, ⟨some .log, 7, 3, 2⟩, ⟨some .log, 0, 1, 1⟩] := by
    cbv
  rw [haudience.unique (hreached.follows.audience_served .log), hserved] at hcalls
  refine ⟨hreached, called, w', hcalls, ?_, hsend⟩
  cases hcalls with
  | stop hc hcancel => cases hc; cases hcancel
  | next _ _ hrest =>
    cases hrest with
    | stop => rfl
    | next hc hcancel => cases hc; cases hcancel

end CardRules.Bus
