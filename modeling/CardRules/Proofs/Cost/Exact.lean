import CardRules.Proofs.Cost.Charge

/-!
# Costs are exact

What a cost takes depends on its totals only: how many DON!! to rest, hand cards to trash and
characters to rest its simple costs ask for together (`Cost.total`). The check, which debits
part by part, and the payment, which debits the whole tree, both come down to the totals: a
player can pay exactly the costs that are `Affordable`, and paying one is a `Table.charge` of
its totals. So the shape of a cost does not matter (`Cost.Regrouped`).
-/

namespace CardRules

open Game (Reaches)

/-- How much a player has to pay a kind of simple cost with. -/
def Side.pool (s : Side) : CostKind → Nat
  | .restDon => s.activeDon.length
  | .trashCard => s.hand.length
  | .restCard => (s.characters.filter Card.isActive).length
  | .composite => 0

theorem Side.pool_charge {s : Side} {who : Player} {n : Amounts} {paid : List Card}
    (h : s.player = who) (kind : CostKind) :
    (s.charge who n paid).pool kind = s.pool kind - n kind := by
  cases kind with
  | restDon => simp [pool, activeDon_charge h]
  | trashCard => simp [pool, hand_charge h]
  | restCard => simp only [pool, activeCharacters_charge h, List.length_drop]
  | composite => simp [pool]

theorem Amounts.only_add (kind : CostKind) (n m : Nat) :
    (fun k => only kind n k + only kind m k) = only kind (n + m) := by
  funext k
  unfold only
  split <;> rfl

theorem Table.charge_none {t : Table} {who : Player} : t.charge who (fun _ => 0) = t := by
  have hside : ∀ s : Side, s.charge who (fun _ => 0) [] = s := fun s => by
    simp [Side.charge, Side.pay, Side.receive]
  simp [Table.charge, hside]

namespace Cost

variable {who : Player} {g h : Game} {s : Side}

/-! ## Simple costs of any amount -/

/-- Paying card by card takes what paying all at once takes. `items` are the cards to pay with. -/
theorem Payer.charge_each {kind : CostKind} (items : Side → List Card)
    (step : String → Game → Except Fault Game) (all : Game → List String → Except Fault Game)
    (hnil : ∀ g, all g [] = .ok g)
    (hcons : ∀ g id ids, all g (id :: ids) = step id g >>= fun g => all g ids)
    (hfirst : ∀ {g s c rest}, Payer who g s → items s = c :: rest →
      ∃ h, step c.id g = .ok h ∧ Reaches g h ∧ h.toTable = g.toTable.charge who (.only kind 1))
    (hitems : ∀ {s : Side} (paid : List Card), s.player = who →
      items (s.charge who (.only kind 1) paid) = (items s).drop 1)
    (hp : Payer who g s) {n : Nat} (hn : n ≤ (items s).length) :
    ∃ h, all g (((items s).take n).map (·.id)) = .ok h ∧
      h.toTable = g.toTable.charge who (.only kind n) := by
  induction n generalizing g s with
  | zero =>
    have hzero : Amounts.only kind 0 = fun _ => 0 := by
      funext k
      simp [Amounts.only]
    refine ⟨g, hnil g, ?_⟩
    rw [hzero, Table.charge_none]
  | succ n ih =>
    cases hc : items s with
    | nil =>
      rw [hc] at hn
      cases hn
    | cons c rest =>
      obtain ⟨h, hstep, hreach, ht⟩ := hfirst hp hc
      have hp' := hp.charged hreach ht
      have hrest := hitems (s.hand.take (Amounts.only kind 1 .trashCard)) hp.player
      rw [hc, List.drop_one, List.tail_cons] at hrest
      obtain ⟨k, hall, hk⟩ := ih hp' (by rw [hrest]; rw [hc, List.length_cons] at hn; omega)
      refine ⟨k, ?_, ?_⟩
      · rw [List.take_succ_cons, List.map_cons, hcons, hstep, ok_bind, ← hrest, hall]
      · rw [hk, ht, Table.charge_charge, Amounts.only_add, Nat.add_comm]

theorem Payer.moveCards (hp : Payer who g s) {n : Nat} (hn : n ≤ s.hand.length) :
    ∃ h, g.moveCards .trash ((s.hand.take n).map (·.id)) = .ok h ∧
      h.toTable = g.toTable.charge who (.only .trashCard n) := by
  refine hp.charge_each Side.hand (fun id g => g.moveCard id .trash true)
    (fun g ids => g.moveCards .trash ids) (fun _ => rfl) (fun _ _ _ => rfl) ?_ ?_ hn
  · intro g s c rest hp hc
    obtain ⟨h, hm, ht⟩ := hp.trash_first hc
    exact ⟨h, hm, (Game.Step.move hm).reaches, ht⟩
  · exact fun _ => Side.hand_charge

theorem Payer.restCards (hp : Payer who g s) {n : Nat}
    (hn : n ≤ (s.characters.filter Card.isActive).length) :
    ∃ h, Cost.restCards g (((s.characters.filter Card.isActive).take n).map (·.id)) = .ok h ∧
      h.toTable = g.toTable.charge who (.only .restCard n) := by
  refine hp.charge_each (fun s => s.characters.filter Card.isActive)
    (fun id g => g.updateCard id fun c => { c with orientation := .rested }) Cost.restCards
    (fun _ => rfl) (fun _ _ _ => rfl) ?_ ?_ hn
  · intro g s c rest hp hc
    obtain ⟨h, hr, ht⟩ := hp.rest_first hc
    exact ⟨h, hr, (Game.Step.orient hr).reaches, ht⟩
  · exact fun _ => Side.activeCharacters_charge

theorem Payer.debitSimple (hp : Payer who g s) {kind : CostKind} {n : Nat}
    (hn : n ≤ s.pool kind) :
    ∃ h, Cost.debitSimple g who kind n = .ok h ∧
      h.toTable = g.toTable.charge who (.only kind n) := by
  cases kind with
  | restDon => exact hp.restDon hn
  | trashCard =>
    rw [Cost.debitSimple, hp.seated, ok_bind, firstItems_natCast]
    exact hp.moveCards hn
  | restCard =>
    rw [Cost.debitSimple, hp.seated, ok_bind]
    dsimp only
    rw [firstItems_natCast]
    exact hp.restCards hn
  | composite =>
    have hnone : Amounts.only .composite n = fun _ => 0 := by
      obtain rfl : n = 0 := Nat.le_zero.1 hn
      funext k
      simp [Amounts.only]
    refine ⟨g, rfl, ?_⟩
    rw [hnone, Table.charge_none]

theorem Payer.available (hp : Payer who g s) (kind : CostKind) :
    available g who kind = .ok (s.pool kind : Int) := by
  unfold Cost.available
  rw [hp.seated]
  cases kind with
  | restCard =>
    simp only [Except.map, Side.pool, List.countP_eq_length_filter]
    rfl
  | restDon | trashCard | composite => rfl

/-! ## Totals -/

mutual
/-- What the simple costs of one kind in a cost ask for together. -/
def total (kind : CostKind) : Cost → Int
  | ⟨k, amount, parts⟩ =>
    match k with
    | .composite => totalAll kind parts
    | k => if k = kind then amount else 0

def totalAll (kind : CostKind) : List Cost → Int
  | [] => 0
  | c :: rest => total kind c + totalAll kind rest
end

mutual
/-- No simple cost asks for less than nothing, and every composite one has parts. -/
def Proper : Cost → Prop
  | ⟨kind, amount, parts⟩ =>
    match kind with
    | .composite => parts ≠ [] ∧ AllProper parts
    | _ => 0 ≤ amount

def AllProper : List Cost → Prop
  | [] => True
  | c :: rest => Proper c ∧ AllProper rest
end

mutual
theorem total_nonneg (kind : CostKind) : ∀ {c : Cost}, c.Proper → 0 ≤ c.total kind := by
  intro c hc
  obtain ⟨k, amount, parts⟩ := c
  cases k with
  | composite => exact totalAll_nonneg kind hc.2
  | restDon | trashCard | restCard =>
    have hamount : 0 ≤ amount := hc
    simp only [total]
    split
    · exact hamount
    · exact Int.le_refl 0

theorem totalAll_nonneg (kind : CostKind) : ∀ {cs : List Cost}, AllProper cs →
    0 ≤ totalAll kind cs := by
  intro cs hc
  cases cs with
  | nil => exact Int.le_refl 0
  | cons c rest =>
    have h₁ := total_nonneg kind hc.1
    have h₂ := totalAll_nonneg kind hc.2
    rw [totalAll]
    omega
end

/-- The totals of a cost as amounts to charge. -/
def totals (c : Cost) : Amounts := fun kind => (c.total kind).toNat

/-- The player of a side has enough for all simple costs together. -/
structure Affordable (c : Cost) (s : Side) : Prop where
  proper : c.Proper
  within : ∀ kind, c.total kind ≤ s.pool kind

/-- The player of a side has enough for costs one after the other. -/
structure AllAffordable (cs : List Cost) (s : Side) : Prop where
  proper : AllProper cs
  within : ∀ kind, totalAll kind cs ≤ s.pool kind

theorem affordable_composite {amount : Int} {parts : List Cost} :
    Affordable ⟨.composite, amount, parts⟩ s ↔ parts ≠ [] ∧ AllAffordable parts s := by
  constructor
  · exact fun h => ⟨h.proper.1, h.proper.2, h.within⟩
  · exact fun h => ⟨⟨h.1, h.2.proper⟩, h.2.within⟩

theorem total_simple {kind k : CostKind} {amount : Int} {parts : List Cost}
    (hk : k ≠ .composite) : total kind ⟨k, amount, parts⟩ = if k = kind then amount else 0 := by
  cases k with
  | composite => exact absurd rfl hk
  | restDon | trashCard | restCard => simp only [total]

theorem affordable_simple {kind : CostKind} {amount : Int} {parts : List Cost}
    (hk : kind ≠ .composite) :
    Affordable ⟨kind, amount, parts⟩ s ↔ 0 ≤ amount ∧ amount ≤ s.pool kind := by
  have hproper : Proper ⟨kind, amount, parts⟩ ↔ 0 ≤ amount := by
    cases kind with
    | composite => exact absurd rfl hk
    | restDon | trashCard | restCard => simp only [Proper]
  constructor
  · intro h
    have hwithin := h.within kind
    rw [total_simple hk, if_pos rfl] at hwithin
    exact ⟨hproper.1 h.proper, hwithin⟩
  · intro h
    refine ⟨hproper.2 h.1, fun k => ?_⟩
    rw [total_simple hk]
    split
    · rename_i hkind
      exact hkind ▸ h.2
    · exact Int.natCast_nonneg _

theorem AllAffordable.head {c : Cost} {rest : List Cost} (h : AllAffordable (c :: rest) s) :
    c.Affordable s := by
  refine ⟨h.proper.1, fun kind => ?_⟩
  have hwithin := h.within kind
  have hrest := totalAll_nonneg kind h.proper.2
  rw [totalAll] at hwithin
  omega

/-- Once the first cost is paid, the others can be paid if all could. -/
theorem Affordable.cons_iff {c : Cost} {rest : List Cost} {paid : List Card}
    (hc : c.Affordable s) (hs : s.player = who) :
    AllAffordable (c :: rest) s ↔ AllAffordable rest (s.charge who c.totals paid) := by
  have hpool : ∀ kind, ((s.charge who c.totals paid).pool kind : Int) =
      s.pool kind - c.total kind := fun kind => by
    have hle := hc.within kind
    have hnonneg := total_nonneg kind hc.proper
    rw [Side.pool_charge hs, totals]
    omega
  constructor
  · intro h
    refine ⟨h.proper.2, fun kind => ?_⟩
    have hwithin := h.within kind
    rw [totalAll] at hwithin
    rw [hpool]
    omega
  · intro h
    refine ⟨⟨hc.proper, h.proper⟩, fun kind => ?_⟩
    have hwithin := h.within kind
    rw [hpool] at hwithin
    rw [totalAll]
    omega

/-! ## The tree -/

/-- The check succeeds on what a player can afford, and the payment takes `totals`. -/
def IsExact (canPay : Except Fault Bool) (pay : Except Fault Game) (who : Player) (g : Game)
    (affordable : Prop) (totals : Amounts) : Prop :=
  (∃ b, canPay = .ok b ∧ (b = true ↔ affordable)) ∧
    (affordable → ∃ h, pay = .ok h ∧ h.toTable = g.toTable.charge who totals)

theorem isExact_simple (hp : Payer who g s) {kind : CostKind} {amount : Int} {parts : List Cost}
    (hk : kind ≠ .composite) :
    IsExact (canPay who ⟨kind, amount, parts⟩ g) (debit who ⟨kind, amount, parts⟩ g) who g
      (Affordable ⟨kind, amount, parts⟩ s) (totals ⟨kind, amount, parts⟩) := by
  have hcheck : canPay who ⟨kind, amount, parts⟩ g =
      if amount < 0 then .ok false else .ok (decide (amount ≤ s.pool kind)) := by
    have havailable := hp.available kind
    cases kind with
    | composite => exact absurd rfl hk
    | restDon | trashCard | restCard =>
      simp only [canPay, havailable]
      rfl
  have hdebit : debit who ⟨kind, amount, parts⟩ g = Cost.debitSimple g who kind amount := by
    cases kind with
    | composite => exact absurd rfl hk
    | restDon | trashCard | restCard => simp only [debit]
  rw [IsExact, affordable_simple hk, hcheck, hdebit]
  refine ⟨?_, ?_⟩
  · split
    · exact ⟨false, rfl, by simp; omega⟩
    · exact ⟨_, rfl, by simp; omega⟩
  · rintro ⟨hnonneg, hle⟩
    obtain ⟨n, rfl⟩ := Int.eq_ofNat_of_zero_le hnonneg
    have htotals : totals ⟨kind, n, parts⟩ = .only kind n := by
      funext k
      rw [totals, total_simple hk, Amounts.only]
      by_cases hkind : kind = k
      · simp [hkind]
      · simp [hkind, Ne.symm hkind]
    rw [htotals]
    exact hp.debitSimple (Int.ofNat_le.1 hle)

mutual
theorem isExact_tree : ∀ (c : Cost) {g : Game} {s : Side}, Payer who g s →
    IsExact (canPay who c g) (debit who c g) who g (c.Affordable s) c.totals := by
  intro c g s hp
  obtain ⟨kind, amount, parts⟩ := c
  cases kind with
  | restDon | trashCard | restCard => exact isExact_simple hp (by decide)
  | composite =>
    rw [affordable_composite]
    cases parts with
    | nil => exact ⟨⟨false, rfl, by simp⟩, fun h => absurd rfl h.1⟩
    | cons c rest =>
      obtain ⟨⟨b, hb, hiff⟩, hpay⟩ := isExact_list (c :: rest) hp
      exact ⟨⟨b, hb, by simpa using hiff⟩, fun h => hpay h.2⟩

theorem isExact_list : ∀ (cs : List Cost) {g : Game} {s : Side}, Payer who g s →
    IsExact (canPayAll who cs g) (debitAll who cs g) who g (AllAffordable cs s)
      (fun kind => (totalAll kind cs).toNat) := by
  intro cs g s hp
  cases cs with
  | nil =>
    have hall : AllAffordable [] s := ⟨trivial, fun kind => Int.natCast_nonneg _⟩
    exact ⟨⟨true, rfl, by simp [hall]⟩, fun _ => ⟨g, rfl, Table.charge_none.symm⟩⟩
  | cons c rest =>
    obtain ⟨⟨b, hb, hiff⟩, hpay⟩ := isExact_tree c hp
    cases b with
    | false =>
      have hnot : ¬AllAffordable (c :: rest) s := fun h => by simpa using hiff.2 h.head
      refine ⟨⟨false, ?_, by simp [hnot]⟩, fun h => absurd h hnot⟩
      rw [canPayAll, hb]
      rfl
    | true =>
      have hc : c.Affordable s := hiff.1 rfl
      obtain ⟨h, hd, ht⟩ := hpay hc
      have hp' := hp.charged (reaches_debit hd) ht
      obtain ⟨⟨b, hb', hiff'⟩, hpay'⟩ := isExact_list rest hp'
      rw [← hc.cons_iff hp.player] at hiff' hpay'
      refine ⟨⟨b, ?_, hiff'⟩, fun hall => ?_⟩
      · rw [canPayAll, hb, ok_bind, if_pos rfl, hd, ok_bind, hb']
      · obtain ⟨k, hk, htk⟩ := hpay' hall
        refine ⟨k, ?_, ?_⟩
        · rw [debitAll, hd, ok_bind, hk]
        · rw [htk, ht, Table.charge_charge]
          congr 1
          funext kind
          have h₁ := total_nonneg kind hc.proper
          have h₂ := totalAll_nonneg kind hall.proper.2
          rw [totals, totalAll]
          omega
end

/-! ## The shape of a cost -/

/-- The same simple costs, in another order or grouped in another way. -/
inductive Regrouped : Cost → Cost → Prop where
  | refl (c : Cost) : Regrouped c c
  | symm {c d : Cost} : Regrouped c d → Regrouped d c
  | trans {c d e : Cost} : Regrouped c d → Regrouped d e → Regrouped c e
  | reorder {a b : Int} {parts parts' : List Cost} : parts.Perm parts' →
      Regrouped ⟨.composite, a, parts⟩ ⟨.composite, b, parts'⟩
  | flatten {a b a' : Int} {before inner after : List Cost} : inner ≠ [] →
      Regrouped ⟨.composite, a, before ++ ⟨.composite, b, inner⟩ :: after⟩
        ⟨.composite, a', before ++ (inner ++ after)⟩
  | unwrap {a : Int} {c : Cost} : Regrouped ⟨.composite, a, [c]⟩ c
  | inside {a : Int} {c d : Cost} {before after : List Cost} : Regrouped c d →
      Regrouped ⟨.composite, a, before ++ c :: after⟩ ⟨.composite, a, before ++ d :: after⟩

theorem totalAll_append {kind : CostKind} {cs ds : List Cost} :
    totalAll kind (cs ++ ds) = totalAll kind cs + totalAll kind ds := by
  induction cs with
  | nil => simp [totalAll]
  | cons c rest ih =>
    rw [List.cons_append, totalAll, totalAll, ih]
    omega

theorem allProper_iff {cs : List Cost} : AllProper cs ↔ ∀ c ∈ cs, c.Proper := by
  induction cs with
  | nil => simp [AllProper]
  | cons c rest ih => simp [AllProper, ih]

theorem allProper_append {cs ds : List Cost} :
    AllProper (cs ++ ds) ↔ AllProper cs ∧ AllProper ds := by
  simp only [allProper_iff, List.mem_append, or_imp, forall_and]

theorem totalAll_perm {kind : CostKind} {cs ds : List Cost} (h : cs.Perm ds) :
    totalAll kind cs = totalAll kind ds := by
  induction h with
  | nil => rfl
  | cons c _ ih => rw [totalAll, totalAll, ih]
  | swap c d rest =>
    simp only [totalAll]
    omega
  | trans _ _ ih₁ ih₂ => rw [ih₁, ih₂]

/-- Grouping costs in another way keeps what they ask for. -/
theorem Regrouped.same {c d : Cost} (h : Regrouped c d) :
    (c.Proper ↔ d.Proper) ∧ ∀ kind, c.total kind = d.total kind := by
  induction h with
  | refl => exact ⟨Iff.rfl, fun _ => rfl⟩
  | symm _ ih => exact ⟨ih.1.symm, fun kind => (ih.2 kind).symm⟩
  | trans _ _ ih₁ ih₂ => exact ⟨ih₁.1.trans ih₂.1, fun kind => (ih₁.2 kind).trans (ih₂.2 kind)⟩
  | reorder hperm =>
    refine ⟨?_, fun kind => totalAll_perm hperm⟩
    simp only [Proper, allProper_iff, hperm.mem_iff, ne_eq]
    rw [← List.isEmpty_iff, ← List.isEmpty_iff, hperm.isEmpty_eq]
  | flatten hinner =>
    refine ⟨?_, fun kind => ?_⟩
    · simp [Proper, allProper_append, AllProper, hinner]
    · simp only [total, totalAll_append, totalAll]
  | unwrap =>
    refine ⟨?_, fun kind => ?_⟩
    · simp [Proper, AllProper]
    · simp [total, totalAll]
  | inside _ ih =>
    refine ⟨?_, fun kind => ?_⟩
    · simp [Proper, allProper_append, AllProper, ih.1]
    · simp only [total, totalAll_append, totalAll, ih.2 kind]

theorem Regrouped.affordable_iff {c d : Cost} (h : Regrouped c d) :
    d.Affordable s ↔ c.Affordable s := by
  obtain ⟨hproper, htotal⟩ := h.same
  constructor
  · exact fun hd => ⟨hproper.2 hd.proper, fun kind => htotal kind ▸ hd.within kind⟩
  · exact fun hc => ⟨hproper.1 hc.proper, fun kind => htotal kind ▸ hc.within kind⟩

/-! ## Paying -/

theorem pay_of_affordable (hp : Payer who g s) {c : Cost} (hc : c.Affordable s) :
    pay who c g = debit who c g := by
  obtain ⟨⟨b, hb, hiff⟩, -⟩ := isExact_tree c hp
  rw [hiff.2 hc] at hb
  rw [pay, hb, ok_bind, if_pos rfl]

theorem pay_of_not_affordable (hp : Payer who g s) {c : Cost} (hc : ¬c.Affordable s) :
    ∃ message kind has, pay who c g = .error (.unpaidCost message kind c.amount has) := by
  obtain ⟨⟨b, hb, hiff⟩, -⟩ := isExact_tree c hp
  have hfalse : b = false := Bool.eq_false_iff.2 fun h => hc (hiff.1 h)
  have hhas : ∃ has, inHand g who c = .ok has := by
    unfold inHand
    split
    · exact ⟨0, rfl⟩
    · exact ⟨_, hp.available _⟩
  obtain ⟨has, hhas⟩ := hhas
  refine ⟨some (who.name ++ " cannot pay " ++ c.kind.name), some c.kind.name, has, ?_⟩
  rw [pay, hb, hfalse, ok_bind, if_neg (by simp), hhas, ok_bind]
  rfl

/-- A player can pay exactly the affordable costs. Paying one takes its totals and nothing else;
any other is refused as unpaid. Costs that are grouped in another way are checked and paid
alike. -/
theorem pay_exact (hp : Payer who g s) (c : Cost) :
    (∃ b, canPay who c g = .ok b ∧ (b = true ↔ c.Affordable s)) ∧
    (c.Affordable s → ∃ h, pay who c g = .ok h ∧ h.toTable = g.toTable.charge who c.totals) ∧
    (¬c.Affordable s → ∃ message kind has,
      pay who c g = .error (.unpaidCost message kind c.amount has)) ∧
    ∀ d, Regrouped c d → canPay who d g = canPay who c g ∧
      ∀ h, pay who c g = .ok h → ∃ k, pay who d g = .ok k ∧ k.toTable = h.toTable := by
  obtain ⟨hcheck, hdebit⟩ := isExact_tree c hp
  refine ⟨hcheck, ?_, pay_of_not_affordable hp, fun d hd => ⟨?_, fun h hpay => ?_⟩⟩
  · intro hc
    rw [pay_of_affordable hp hc]
    exact hdebit hc
  · obtain ⟨b, hb, hiff⟩ := hcheck
    obtain ⟨⟨b', hb', hiff'⟩, -⟩ := isExact_tree d hp
    rw [hb, hb']
    congr 1
    rw [Bool.eq_iff_iff, hiff, hiff', hd.affordable_iff]
  · by_cases hc : c.Affordable s
    · have hc' : d.Affordable s := hd.affordable_iff.2 hc
      obtain ⟨k, hk, hkt⟩ := (isExact_tree d hp).2 hc'
      obtain ⟨h', hh', ht⟩ := hdebit hc
      rw [pay_of_affordable hp hc, hh'] at hpay
      cases hpay
      have htotals : d.totals = c.totals := by
        funext kind
        rw [totals, totals, hd.same.2 kind]
      refine ⟨k, ?_, ?_⟩
      · rw [pay_of_affordable hp hc', hk]
      · rw [hkt, ht, htotals]
    · obtain ⟨_, _, _, herror⟩ := pay_of_not_affordable hp hc
      rw [herror] at hpay
      cases hpay

/-- A DON!!, and a hand card together with a character. -/
def bundle : Cost :=
  .composite [.restDon 1, .composite [⟨.trashCard, 1, []⟩, ⟨.restCard, 1, []⟩]]

theorem pay_exact_opening : Payer .one Game.opening Game.openingSide ∧
    bundle.Affordable Game.openingSide ∧
    ∃ h, pay .one bundle Game.opening = .ok h ∧
      h.toTable = Game.opening.toTable.charge .one bundle.totals := by
  have hp : Payer .one Game.opening Game.openingSide :=
    ⟨Game.sound_opening.toDistinct, rfl, by decide, fun _ _ => Game.sound_opening.present _⟩
  have hproper : bundle.Proper := by
    simp [bundle, composite, Cost.restDon, Proper, AllProper]
  have hc : bundle.Affordable Game.openingSide :=
    ⟨hproper, fun kind => by cases kind <;> decide⟩
  exact ⟨hp, hc, (pay_exact hp bundle).2.1 hc⟩

end Cost

end CardRules
