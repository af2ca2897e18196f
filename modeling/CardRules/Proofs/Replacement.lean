import CardRules.Proofs.Game.DonPool
import CardRules.Proofs.Game.Places
import CardRules.Proofs.Hosted
import CardRules.Proofs.Log

/-!
# Replacements as a keyed store

What is registered can be told from the log of the operations alone: an entry stands when a
registration has made it and since then nobody has registered its key again or removed it
(`Replacements.Standing`). The entries are applied by priority and, where that is equal, by the
places of their registrations in the log (`Replacements.Listing`). A value goes through the
functions of those whose cards are on the field, up to the first function that fails
(`Replacements.Passes`).

`Replacements.Follows` is what each operation preserves.
-/

namespace CardRules

namespace Replacements

/-! ## What is asked of the replacements -/

/-- An operation on the replacements. -/
inductive Op where
  | register (cardId : String) (a : Ability) (priority : Int)
      (replaceCost : Option (Cost → Context → Hosted Cost))
      (replaceBody : Option (Invocation → Context → Hosted Invocation))
  | unregister (cardId effectId : String)
  | clearCard (cardId : String)
  | clear

/-- The replacements after an operation; a registration that is refused changes nothing. -/
def perform (rs : Replacements) : Op → Replacements
  | .register cardId a priority onCost onBody =>
    match rs.register cardId a priority onCost onBody with
    | .ok (_, rs) => rs
    | .error _ => rs
  | .unregister cardId effectId => rs.unregister cardId effectId
  | .clearCard cardId => rs.clearCard cardId
  | .clear => rs.clear

/-- The replacements after all operations of a log. -/
def after (log : List Op) : Replacements := log.foldl perform {}

namespace Op

/-- The entry that an operation makes as the registration with a number. Only replacement
effects are registered. -/
def made? (order : Nat) : Op → Option Replacement
  | register cardId a priority onCost onBody =>
    if a.timing = .replacement then some
      { cardId := cardId, effectId := a.id, priority := priority, order := order,
        replaceCost := onCost, replaceBody := onBody }
    else none
  | _ => none

def isAccepted (op : Op) : Bool := (op.made? 0).isSome

/-- Whether an operation puts an end to what stands under a key. -/
def ends (cardId effectId : String) : Op → Bool
  | register c a .. => a.timing == .replacement && c == cardId && a.id == effectId
  | unregister c e => c == cardId && e == effectId
  | clearCard c => c == cardId
  | clear => true

end Op

/-- The number of registrations that were accepted. -/
def registeredIn (log : List Op) : Nat := log.countP (·.isAccepted)

/-- The operation at place `t` of the log has registered the entry, and since then nothing has
put an end to it. -/
def Standing (log : List Op) (t : Nat) (r : Replacement) : Prop :=
  ∃ before op after, log = before ++ op :: after ∧
    (before.length = t ∧ op.made? (registeredIn before + 1) = some r) ∧
    ∀ o ∈ after, o.ends r.cardId r.effectId = false

/-- The entries that stand, one for each key, from the lowest priority up and, where priorities are
equal, in the order of the places where they were registered. -/
structure Listing (log : List Op) (listing : List Replacement) : Prop where
  mem : ∀ r, r ∈ listing ↔ ∃ t, Standing log t r
  once : listing.Pairwise fun r s => (r.cardId, r.effectId) ≠ (s.cardId, s.effectId)
  order : listing.Pairwise fun r s => r.priority < s.priority ∨
    r.priority = s.priority ∧ ∃ t u, Standing log t r ∧ Standing log u s ∧ t < u

section Application

variable {α : Type} (function : Replacement → Option (α → Context → Hosted α)) (ctx : Context)

/-- Where a card id is found, it lies in a leader, character or stage area. -/
def LiesOnField (g : Game) (id : String) : Prop :=
  ∃ found, g.locate? id = some found ∧
    found.zone ∈ [Zone.leaderArea, Zone.characterArea, Zone.stageArea]

theorem isField_iff {zone : Zone} : zone.isField = true ↔
    zone ∈ [Zone.leaderArea, Zone.characterArea, Zone.stageArea] := by
  cases zone <;> decide

theorem isOnField_iff {g : Game} {id : String} : g.isOnField id = true ↔ LiesOnField g id := by
  simp only [Game.isOnField_iff, isField_iff, LiesOnField]

instance (g : Game) (id : String) : Decidable (LiesOnField g id) :=
  decidable_of_iff _ isOnField_iff

/-- The functions of the entries that have one and whose cards are on the field. -/
def applying (entries : List Replacement) : List (α → Context → Hosted α) :=
  entries.filterMap fun r => if LiesOnField ctx.game r.cardId then function r else none

/-- A value goes through functions one after the other, up to the first that fails. -/
inductive Passes : List (α → Context → Hosted α) → α → Journal → Except Fault α → Journal →
    Prop where
  | done (a : α) (journal : Journal) : Passes [] a journal (.ok a) journal
  | next {replace : α → Context → Hosted α} {rest : List (α → Context → Hosted α)} {a b : α}
      {journal noted last : Journal} {result : Except Fault α} :
      (replace a ctx).outcome journal = (.ok b, noted) → Passes rest b noted result last →
      Passes (replace :: rest) a journal result last
  /-- Nobody else is asked. -/
  | fail {replace : α → Context → Hosted α} {rest : List (α → Context → Hosted α)} {a : α}
      {journal noted : Journal} {f : Fault} :
      (replace a ctx).outcome journal = (.error f, noted) →
      Passes (replace :: rest) a journal (.error f) noted

/-- Applied to a value in any context, it takes the value through the functions of the entries
that apply there; where there are none, it gives the value back and does nothing else. -/
structure Serves (listing : List Replacement) (apply : α → Context → Hosted α) : Prop where
  passes : ∀ ctx a journal, Passes ctx (applying function ctx listing) a journal
    ((apply a ctx).outcome journal).1 ((apply a ctx).outcome journal).2
  idle : ∀ ctx a, applying function ctx listing = [] → apply a ctx = pure a

end Application

/-! ## What stands -/

section Standing

variable {log : List Op} {op : Op} {t u n : Nat} {r s : Replacement}

theorem standing_concat : Standing (log ++ [op]) t r ↔
    (Standing log t r ∧ op.ends r.cardId r.effectId = false) ∨
    (log.length = t ∧ op.made? (registeredIn log + 1) = some r) :=
  Log.leaves_concat

theorem Op.order_of_made? (h : op.made? n = some r) : r.order = n := by
  cases op with
  | register cardId a priority onCost onBody =>
    simp only [made?, Option.ite_none_right_eq_some, Option.some.injEq] at h
    rw [← h.2]
  | unregister | clearCard | clear => cases h

theorem Op.isAccepted_of_made? (h : op.made? n = some r) : op.isAccepted = true := by
  cases op with
  | register cardId a priority onCost onBody =>
    simp only [made?, Option.ite_none_right_eq_some] at h
    simp [isAccepted, made?, h.1]
  | unregister | clearCard | clear => cases h

/-- What a registration makes, it has put an end to before. -/
theorem Op.ends_of_made? (h : op.made? n = some r) : op.ends r.cardId r.effectId = true := by
  cases op with
  | register cardId a priority onCost onBody =>
    simp only [made?, Option.ite_none_right_eq_some, Option.some.injEq] at h
    obtain ⟨ha, rfl⟩ := h
    simp [ends, ha]
  | unregister | clearCard | clear => cases h

/-- The operation of an entry, found by its place. -/
theorem Standing.getElem? (h : Standing log t r) : ∃ op, log[t]? = some op ∧
    op.made? (registeredIn (log.take t) + 1) = some r := by
  obtain ⟨before, op, after, rfl, ⟨rfl, hop⟩, -⟩ := h
  exact ⟨op, by simp, by simpa using hop⟩

theorem Standing.unique (hr : Standing log t r) (hs : Standing log t s) : r = s := by
  obtain ⟨op, hop, hmade⟩ := hr.getElem?
  obtain ⟨op', hop', hmade'⟩ := hs.getElem?
  rw [hop] at hop'
  cases hop'
  rw [hmade] at hmade'
  exact Option.some.inj hmade'

theorem registeredIn_take_le (h : t ≤ u) :
    registeredIn (log.take t) ≤ registeredIn (log.take u) := by
  have hprefix : log.take t <+: log.take u := (List.take_prefix_take_left h)
  exact hprefix.sublist.countP_le

/-- Later registrations have greater numbers. -/
theorem Standing.order_lt (hr : Standing log t r) (hs : Standing log u s) (h : t < u) :
    r.order < s.order := by
  obtain ⟨op, hop, hmade⟩ := hr.getElem?
  obtain ⟨op', -, hmade'⟩ := hs.getElem?
  rw [Op.order_of_made? hmade, Op.order_of_made? hmade']
  have hcount : registeredIn (log.take (t + 1)) = registeredIn (log.take t) + 1 := by
    rw [List.take_add_one, hop, registeredIn, List.countP_append]
    simp [registeredIn, Op.isAccepted_of_made? hmade]
  have hle : registeredIn (log.take (t + 1)) ≤ registeredIn (log.take u) :=
    registeredIn_take_le h
  omega

/-- An entry stands where its registration is. -/
theorem Standing.place_eq (ht : Standing log t r) (hu : Standing log u r) : t = u := by
  rcases Nat.lt_trichotomy t u with hlt | heq | hgt
  · exact absurd (ht.order_lt hu hlt) (Nat.lt_irrefl _)
  · exact heq
  · exact absurd (hu.order_lt ht hgt) (Nat.lt_irrefl _)

/-- The log leaves no choice. -/
theorem Listing.unique {xs ys : List Replacement} (hx : Listing log xs) (hy : Listing log ys) :
    xs = ys := by
  have hnodup : ∀ {zs : List Replacement}, Listing log zs → zs.Nodup := by
    intro zs hz
    exact hz.once.imp fun hne heq => hne (by rw [heq])
  have hperm : xs.Perm ys := (List.perm_ext_iff_of_nodup (hnodup hx) (hnodup hy)).2
    fun r => (hx.mem r).trans (hy.mem r).symm
  refine hperm.eq_of_pairwise (fun r s _ _ hrs hsr => ?_) hx.order hy.order
  rcases hrs with hlt | ⟨heq, t, u, ht, hu, htu⟩
  · rcases hsr with hlt' | ⟨heq', -⟩ <;> omega
  · rcases hsr with hlt' | ⟨-, t', u', ht', hu', htu'⟩
    · omega
    · have hs := hu.place_eq ht'
      have hr := ht.place_eq hu'
      omega

end Standing

/-! ## What an operation preserves -/

section Follows

variable {log : List Op} {rs : Replacements} {op : Op} {r s : Replacement}

/-- The replacements are as their log says. -/
structure Follows (log : List Op) (rs : Replacements) : Prop where
  mem : ∀ r, r ∈ rs.entries ↔ ∃ t, Standing log t r
  distinct : rs.entries.Pairwise fun r s => (r.cardId, r.effectId) ≠ (s.cardId, s.effectId)
  registered : rs.registered = registeredIn log

/-- Every operation takes away what it ends and puts what it makes behind the others. -/
theorem entries_perform : (rs.perform op).entries =
    rs.entries.filter (fun r => !op.ends r.cardId r.effectId) ++
      (op.made? (rs.registered + 1)).toList := by
  cases op with
  | register cardId a priority onCost onBody =>
    by_cases ha : a.timing = .replacement
    · have hkey : ∀ r : Replacement, r.hasKey cardId a.id =
          (cardId == r.cardId && a.id == r.effectId) := by
        intro r
        rw [Replacement.hasKey, Bool.beq_comm (a := r.cardId), Bool.beq_comm (a := r.effectId)]
      simp [perform, register, Op.made?, Op.ends, ha, hkey]
    · have hno : (a.timing == .replacement) = false := beq_eq_false_iff_ne.2 ha
      simp [perform, register, Op.made?, Op.ends, ha, hno]
  | unregister cardId effectId =>
    simp [perform, unregister, Op.made?, Op.ends, Replacement.hasKey, Bool.beq_comm (a := cardId),
      Bool.beq_comm (a := effectId)]
  | clearCard cardId =>
    simp [perform, clearCard, Op.made?, Op.ends, bne, Bool.beq_comm (a := cardId)]
  | clear => simp [perform, clear, Op.made?, Op.ends]

theorem registered_perform :
    (rs.perform op).registered = rs.registered + if op.isAccepted then 1 else 0 := by
  cases op with
  | register cardId a priority onCost onBody =>
    by_cases ha : a.timing = .replacement <;>
      simp [perform, register, Op.isAccepted, Op.made?, ha]
  | unregister | clearCard | clear => rfl

theorem follows_empty : Follows [] {} where
  mem r := by simp [Standing]
  distinct := .nil
  registered := rfl

theorem Follows.perform (h : Follows log rs) (op : Op) :
    Follows (log ++ [op]) (rs.perform op) := by
  refine ⟨fun r => ?_, ?_, ?_⟩
  · rw [entries_perform, List.mem_append, List.mem_filter, h.mem, h.registered]
    simp only [standing_concat, Bool.not_eq_true', Option.mem_toList, exists_or, exists_and_right,
      exists_eq', true_and]
  · rw [entries_perform]
    refine List.pairwise_append.2 ⟨h.distinct.filter _, by cases op.made? _ <;> simp, ?_⟩
    intro r hr s hs hkey
    rw [Option.mem_toList] at hs
    obtain ⟨hcard, heffect⟩ := Prod.mk.inj hkey
    have hends := Op.ends_of_made? hs
    rw [← hcard, ← heffect] at hends
    simp [hends] at hr
  · rw [registered_perform, h.registered, registeredIn, registeredIn, List.countP_append,
      List.countP_singleton]

theorem follows_after (log : List Op) : Follows log (after log) := by
  induction log using List.reverseRecOn with
  | nil => exact follows_empty
  | append_singleton log op ih =>
    rw [after, List.foldl_append]
    exact ih.perform op

/-! ## The order of application -/

theorem before_iff : r.before s = true ↔
    r.priority < s.priority ∨ r.priority = s.priority ∧ r.order ≤ s.order := by
  simp [Replacement.before]

theorem before_trans (q r s : Replacement) (h : q.before r) (h' : r.before s) : q.before s := by
  rw [before_iff] at *
  omega

theorem before_total (r s : Replacement) : r.before s || s.before r := by
  rw [Bool.or_eq_true, before_iff, before_iff]
  omega

theorem inOrder_perm : rs.inOrder.Perm rs.entries := List.mergeSort_perm _ _

theorem Follows.listing (h : Follows log rs) : Listing log rs.inOrder := by
  have honce := (inOrder_perm.pairwise_iff fun hne => hne.symm).2 h.distinct
  have hsorted : rs.inOrder.Pairwise fun r s => r.before s :=
    List.pairwise_mergeSort before_trans before_total _
  refine ⟨fun r => mem_inOrder.trans (h.mem r), honce, (hsorted.and honce).imp_of_mem ?_⟩
  rintro r s hr hs ⟨hbefore, hne⟩
  rcases before_iff.1 hbefore with hlt | ⟨heq, hle⟩
  · exact .inl hlt
  · obtain ⟨t, ht⟩ := (h.mem r).1 (mem_inOrder.1 hr)
    obtain ⟨u, hu⟩ := (h.mem s).1 (mem_inOrder.1 hs)
    refine .inr ⟨heq, t, u, ht, hu, ?_⟩
    rcases Nat.lt_trichotomy t u with hlt | rfl | hgt
    · exact hlt
    · exact absurd (by rw [ht.unique hu]) hne
    · exact absurd (hu.order_lt ht hgt) (by omega)

theorem Follows.has_iff {cardId effectId : String} (h : Follows log rs) :
    rs.has cardId effectId = true ↔
      ∃ t r, Standing log t r ∧ r.cardId = cardId ∧ r.effectId = effectId := by
  simp only [has, List.any_eq_true, h.mem, Replacement.hasKey, Bool.and_eq_true, beq_iff_eq]
  constructor
  · rintro ⟨r, ⟨t, ht⟩, hkey⟩
    exact ⟨t, r, ht, hkey⟩
  · rintro ⟨t, r, ht, hkey⟩
    exact ⟨r, ⟨t, ht⟩, hkey⟩

end Follows

/-! ## Application -/

section Application

variable {α : Type} {function : Replacement → Option (α → Context → Hosted α)} {ctx : Context}
  {entries : List Replacement}

/-- The functions leave no choice. -/
theorem Passes.unique {functions : List (α → Context → Hosted α)} {a : α}
    {journal last last' : Journal} {result result' : Except Fault α}
    (h : Passes ctx functions a journal result last)
    (h' : Passes ctx functions a journal result' last') : (result, last) = (result', last') := by
  induction h with
  | done => cases h'; rfl
  | next hok _ ih =>
    cases h' with
    | next hok' hrest =>
      rw [hok] at hok'
      cases hok'
      exact ih hrest
    | fail hfail =>
      rw [hok] at hfail
      cases hfail
  | fail hfail =>
    cases h' with
    | next hok' hrest =>
      rw [hfail] at hok'
      cases hok'
    | fail hfail' =>
      rw [hfail] at hfail'
      cases hfail'
      rfl

theorem chain_cons (r : Replacement) (a : α) : chain function ctx (r :: entries) a =
    match if LiesOnField ctx.game r.cardId then function r else none with
    | none => chain function ctx entries a
    | some replace => replace a ctx >>= chain function ctx entries := by
  have hactive : r.isActive ctx = decide (LiesOnField ctx.game r.cardId) := by
    rw [Bool.eq_iff_iff, decide_eq_true_iff]
    exact isOnField_iff
  rw [chain]
  by_cases hfield : LiesOnField ctx.game r.cardId <;> cases function r <;> simp [hactive, hfield]

theorem applying_cons (r : Replacement) : applying function ctx (r :: entries) =
    match if LiesOnField ctx.game r.cardId then function r else none with
    | none => applying function ctx entries
    | some replace => replace :: applying function ctx entries := by
  rw [applying, List.filterMap_cons]
  cases if LiesOnField ctx.game r.cardId then function r else none <;> rfl

/-- Handing a value along the entries is handing it through the functions that apply. -/
theorem serves_chain : Serves function entries fun a ctx => chain function ctx entries a where
  passes ctx a journal := by
    induction entries generalizing a journal with
    | nil => exact .done a journal
    | cons r rest ih =>
      rw [applying_cons, chain_cons]
      cases if LiesOnField ctx.game r.cardId then function r else none with
      | none => exact ih a journal
      | some replace =>
        dsimp only
        rw [Hosted.outcome_bind]
        generalize hfirst : (replace a ctx).outcome journal = first
        obtain ⟨_ | b, noted⟩ := first
        · exact .fail hfirst
        · exact .next hfirst (ih b noted)
  idle ctx a h := by
    induction entries with
    | nil => rfl
    | cons r rest ih =>
      rw [applying_cons] at h
      rw [chain_cons]
      generalize (if LiesOnField ctx.game r.cardId then function r else none) = applied at h ⊢
      cases applied with
      | none => exact ih h
      | some replace => cases h

/-- Where ids are distinct, a card id is found on the field when a card with this id lies there. -/
theorem liesOnField_iff {g : Game} {id : String} (hg : g.Distinct) :
    LiesOnField g id ↔ ∃ s ∈ g.sides, ∃ c ∈ s.fieldCards, c.id = id := by
  constructor
  · rintro ⟨found, hl, hz⟩
    obtain ⟨hfound, hid⟩ := (Game.locate?_eq_some_iff hg).1 hl
    obtain ⟨s, hs, -, -, hc⟩ := Game.mem_placed.1 hfound
    exact ⟨s, hs, found.card, Side.mem_fieldCards.2 ⟨found.zone, isField_iff.2 hz, hc⟩, hid⟩
  · rintro ⟨s, hs, c, hc, rfl⟩
    obtain ⟨zone, hz, hc⟩ := Side.mem_fieldCards.1 hc
    have hmem := Side.mem_ofCards_of_mem hc
    refine ⟨⟨s.player, zone, c⟩, ?_, isField_iff.1 hz⟩
    exact (Game.locate?_eq_some_iff hg).2 ⟨Game.mem_placed.2 ⟨s, hs, rfl, hmem, hc⟩, rfl⟩

/-! ## Whatever has been asked -/

/-- The replacements are known by their log. They hold one entry for each key whose latest
registration stands, in the order of application; a cost or an invocation goes through the
functions of the entries that have one and whose cards are on the field. -/
theorem refines_log (log : List Op) :
    (∀ listing, (after log).inOrder = listing ↔ Listing log listing) ∧
    (after log).inOrder.Perm (after log).entries ∧
    (∀ cardId effectId, (after log).has cardId effectId = true ↔
      ∃ t r, Standing log t r ∧ r.cardId = cardId ∧ r.effectId = effectId) ∧
    Serves (·.replaceCost) (after log).inOrder (after log).applyCost ∧
    Serves (·.replaceBody) (after log).inOrder (after log).applyBody ∧
    ∀ (g : Game) (id : String), g.Distinct →
      (LiesOnField g id ↔ ∃ s ∈ g.sides, ∃ c ∈ s.fieldCards, c.id = id) := by
  have hlog := follows_after log
  exact ⟨fun _ => ⟨fun h => h ▸ hlog.listing, hlog.listing.unique⟩, inOrder_perm,
    fun _ _ => hlog.has_iff, serves_chain, serves_chain, fun _ _ hg => liesOnField_iff hg⟩

end Application

/-- A replacement effect of a card. -/
def rival (id : String) : Ability where
  id := id
  sourceId := "c1"
  timing := .replacement
  kind := .drawCards

/-- Takes from a cost and says how much. -/
def cheaper (n : Int) : Cost → Context → Hosted Cost := fun c _ => do
  Hosted.record (.int n)
  pure { c with amount := c.amount - n }

def spoiling : Cost → Context → Hosted Cost := fun _ _ => throw (.host "no")

/-- The first entry is registered again, which puts it behind the third; the second one belongs to
a card in the hand, and the fourth one is refused. -/
def rivalry : List Op :=
  [.register "c1" (rival "a") 5 (some (cheaper 1)) none,
    .register "h1" (rival "a") 0 (some (cheaper 4)) none,
    .register "c1" (rival "b") 5 (some spoiling) none,
    .register "c1" { rival "d" with timing := .activate } (-9) (some (cheaper 9)) none,
    .register "c1" (rival "a") 5 (some (cheaper 2)) none,
    .register "c1" (rival "c") (-1) (some (cheaper 1)) none,
    .unregister "c1" "d"]

def rivalContext : Context where
  game := .opening
  source := none
  controller := .one
  bonus := ⟨some 1000, 1000⟩

/-- The cost gets cheaper once; then an entry fails, and nobody behind it is asked. -/
theorem refines_log_rivalry :
    Passes rivalContext [cheaper 1, spoiling, cheaper 2] (.restDon 5) []
      (.error (.host "no")) [.int 1] ∧
    ((after rivalry).applyCost (.restDon 5) rivalContext).outcome [] =
      (.error (.host "no"), [.int 1]) ∧
    LiesOnField .opening "c1" := by
  obtain ⟨-, -, -, hcost, -, hfield⟩ := refines_log rivalry
  have happlying : applying (·.replaceCost) rivalContext (after rivalry).inOrder =
      [cheaper 1, spoiling, cheaper 2] := by
    cbv
  have hserved := hcost.passes rivalContext (.restDon 5) []
  rw [happlying] at hserved
  have hpasses : Passes rivalContext [cheaper 1, spoiling, cheaper 2] (.restDon 5) []
      (.error (.host "no")) [.int 1] := .next rfl (.fail rfl)
  exact ⟨hpasses, hserved.unique hpasses, (hfield _ _ Game.sound_opening.toDistinct).2
    ⟨_, List.mem_cons_self, _, List.mem_cons_self, rfl⟩⟩

end Replacements

end CardRules
