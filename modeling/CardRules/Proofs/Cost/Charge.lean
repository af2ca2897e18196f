import CardRules.Proofs.Game.Reach

/-!
# What a payment takes

`Table.charge who n` is the table on which `who` has paid `n kind` of each kind of simple cost:
the first active DON!! are rested, the first hand cards lie at the end of their owners' trash,
the first active characters are rested, and nothing else differs. Charges add up
(`Table.charge_charge`), so each simple cost only has to be traced for one card at a time.
-/

namespace CardRules

/-! ## The first items that will do -/

/-- The list with `f` applied to the first `n` items that satisfy `p`. -/
def markFirst {α : Type} (p : α → Bool) (f : α → α) : Nat → List α → List α
  | 0, xs => xs
  | _ + 1, [] => []
  | n + 1, x :: xs => if p x then f x :: markFirst p f n xs else x :: markFirst p f (n + 1) xs

section markFirst

variable {α β : Type} {p : α → Bool} {f : α → α} {xs : List α}

@[simp] theorem markFirst_zero : markFirst p f 0 xs = xs := by cases xs <;> rfl

@[simp] theorem markFirst_nil (n : Nat) : markFirst p f n [] = [] := by cases n <;> rfl

theorem map_markFirst {key : α → β} (hf : ∀ x, key (f x) = key x) (n : Nat) :
    (markFirst p f n xs).map key = xs.map key := by
  induction xs generalizing n with
  | nil => simp
  | cons x xs ih =>
    cases n with
    | zero => rfl
    | succ n =>
      rw [markFirst]
      split <;> simp [hf, ih]

/-- Items that were marked no longer satisfy `p`. -/
theorem filter_markFirst (hf : ∀ x, p (f x) = false) (n : Nat) :
    (markFirst p f n xs).filter p = (xs.filter p).drop n := by
  induction xs generalizing n with
  | nil => simp
  | cons x xs ih =>
    cases n with
    | zero => rfl
    | succ n =>
      by_cases hx : p x
      · simp [markFirst, hx, hf, ih]
      · simp [markFirst, hx, ih]

theorem markFirst_markFirst (hf : ∀ x, p (f x) = false) (m n : Nat) :
    markFirst p f n (markFirst p f m xs) = markFirst p f (m + n) xs := by
  induction xs generalizing m n with
  | nil => simp
  | cons x xs ih =>
    cases m with
    | zero => simp [markFirst]
    | succ m =>
      rw [Nat.succ_add]
      cases n with
      | zero => simp
      | succ n =>
        by_cases hx : p x
        · simp [markFirst, hx, hf, ih]
        · simp only [markFirst, hx, Bool.false_eq_true, if_false, ih, Nat.succ_add]

/-- Picking items by their keys marks the same ones, where keys are distinct. -/
theorem map_contains_eq_markFirst [BEq β] [LawfulBEq β] {key : α → β} (hn : (xs.map key).Nodup)
    (n : Nat) :
    (xs.map fun x => if (((xs.filter p).take n).map key).contains (key x) then f x else x) =
      markFirst p f n xs := by
  induction xs generalizing n with
  | nil => simp
  | cons x xs ih =>
    rw [List.map_cons, List.nodup_cons] at hn
    obtain ⟨hx, hn⟩ := hn
    cases n with
    | zero => simp [markFirst]
    | succ n =>
      by_cases hp : p x
      · have hrest : ∀ y ∈ xs, key y ≠ key x := fun y hy h => hx (h ▸ List.mem_map_of_mem hy)
        simp only [List.filter_cons, hp, if_true, List.take_succ_cons, List.map_cons, markFirst,
          List.contains_cons, BEq.rfl, Bool.true_or]
        congr 1
        rw [← ih hn n]
        refine List.map_congr_left fun y hy => ?_
        simp [hrest y hy]
      · have hnot : key x ∉ ((xs.filter p).take (n + 1)).map key := fun h => by
          obtain ⟨y, hy, hkey⟩ := List.mem_map.1 h
          exact hx (hkey ▸ List.mem_map_of_mem (List.mem_of_mem_filter (List.mem_of_mem_take hy)))
        simp only [List.filter_cons, hp, if_false, List.map_cons, markFirst, Bool.false_eq_true]
        rw [ih hn (n + 1), if_neg (by rwa [List.contains_iff_mem])]

end markFirst

/-! ## Charges -/

def Don.rest (d : Don) : Don := { d with orientation := .rested }

def Card.rest (c : Card) : Card := { c with orientation := .rested }

def Card.isActive (c : Card) : Bool := c.orientation == .active

/-- How much is paid of each kind of simple cost. -/
abbrev Amounts := CostKind → Nat

/-- Some of one kind and nothing of the others. -/
def Amounts.only (kind : CostKind) (n : Nat) : Amounts := fun k => if k = kind then n else 0

namespace Side

variable {s : Side} {n m : Amounts} {who : Player} {paid more : List Card}

/-- The side of a player who has paid, apart from the trash. -/
def pay (n : Amounts) (s : Side) : Side :=
  { s with
    costArea := markFirst Don.isActive Don.rest (n .restDon) s.costArea
    hand := s.hand.drop (n .trashCard)
    characters := markFirst Card.isActive Card.rest (n .restCard) s.characters }

/-- The side with those of the paid hand cards that its player owns at the end of the trash. -/
def receive (paid : List Card) (s : Side) : Side :=
  { s with
    trash := s.trash ++
      (paid.filter (·.owner == s.player)).map (Game.arriving · .hand .trash) }

/-- What a payment by `who` makes of a side. -/
def charge (who : Player) (n : Amounts) (paid : List Card) (s : Side) : Side :=
  (if s.player = who then s.pay n else s).receive paid

theorem receive_of_ne {c : Card} (h : c.owner ≠ s.player) : s.receive [c] = s := by
  simp [receive, h]

theorem receive_of_eq {c : Card} (h : c.owner = s.player) :
    s.receive [c] = s.putCards .trash (s.cards .trash ++ [Game.arriving c .hand .trash]) := by
  simp [receive, h, putCards, Side.cards]

@[simp] theorem player_charge : (s.charge who n paid).player = s.player := by
  unfold charge
  split <;> rfl

theorem hand_charge (h : s.player = who) :
    (s.charge who n paid).hand = s.hand.drop (n .trashCard) := by
  simp [charge, h, receive, pay]

theorem map_id_costArea_charge :
    (s.charge who n paid).costArea.map (·.id) = s.costArea.map (·.id) := by
  unfold charge
  split
  · exact map_markFirst (f := Don.rest) (fun _ => rfl) _
  · rfl

theorem activeDon_charge (h : s.player = who) :
    (s.charge who n paid).activeDon = s.activeDon.drop (n .restDon) := by
  simp only [charge, h, if_true, receive, pay, activeDon]
  exact filter_markFirst (fun _ => rfl) _

theorem activeCharacters_charge (h : s.player = who) :
    (s.charge who n paid).characters.filter Card.isActive =
      (s.characters.filter Card.isActive).drop (n .restCard) := by
  simp only [charge, h, if_true, receive, pay]
  exact filter_markFirst (fun _ => rfl) _

theorem charge_charge : (s.charge who n paid).charge who m more =
    s.charge who (fun k => n k + m k) (paid ++ more) := by
  by_cases h : s.player = who
  · have hd : ∀ d : Don, d.rest.isActive = false := fun _ => rfl
    have hc : ∀ c : Card, c.rest.isActive = false := fun _ => rfl
    simp [charge, h, receive, pay, markFirst_markFirst hd, markFirst_markFirst hc,
      List.filter_append]
  · simp [charge, h, receive, List.filter_append]

end Side

namespace Table

variable {t : Table} {who : Player} {n m : Amounts}

/-- The hand of a player; nobody's is empty. -/
def handOf (who : Player) (t : Table) : List Card :=
  ((t.sides.find? (·.player == who)).map (·.hand)).getD []

/-- The table on which a player has paid. -/
def charge (who : Player) (n : Amounts) (t : Table) : Table :=
  { t with sides := t.sides.map (·.charge who n ((t.handOf who).take (n .trashCard))) }

theorem find?_map_charge {sides : List Side} {p : Player} {paid : List Card} :
    (sides.map (·.charge who n paid)).find? (·.player == p) =
      (sides.find? (·.player == p)).map (·.charge who n paid) := by
  rw [List.find?_map]
  congr 2
  funext s
  simp

theorem handOf_charge : (t.charge who n).handOf who = (t.handOf who).drop (n .trashCard) := by
  have hsides : (t.charge who n).sides =
      t.sides.map (·.charge who n ((t.handOf who).take (n .trashCard))) := rfl
  rw [handOf, hsides, find?_map_charge]
  generalize (t.handOf who).take (n .trashCard) = paid
  rw [handOf]
  cases hf : t.sides.find? (·.player == who) with
  | none => simp
  | some s =>
    have hs : s.player = who := by simpa using List.find?_some hf
    simp [Side.hand_charge hs]

/-- Two payments take what one payment of both amounts takes. -/
theorem charge_charge : (t.charge who n).charge who m = t.charge who fun k => n k + m k := by
  have hpaid : (t.handOf who).take (n .trashCard) ++
      ((t.charge who n).handOf who).take (m .trashCard) =
      (t.handOf who).take (n .trashCard + m .trashCard) := by
    rw [handOf_charge, List.take_add]
  unfold charge at hpaid ⊢
  congr 1
  rw [List.map_map]
  refine List.map_congr_left fun s _ => ?_
  rw [Function.comp_apply, Side.charge_charge, hpaid]

end Table

/-! ## Payers -/

namespace Cost

open Game (Reaches SameRoster)

/-- A player at a table with distinct seats, cards and DON!!, where the owners of the hand cards
sit as well. -/
structure Payer (who : Player) (g : Game) (s : Side) : Prop extends Game.Distinct g where
  side : g.side? who = some s
  donsOnce : (s.costArea.map (·.id)).Nodup
  owners : ∀ c ∈ s.hand, c.owner ∈ g.seats

namespace Payer

variable {who : Player} {g h : Game} {s : Side} {n : Amounts}

theorem player (hp : Payer who g s) : s.player = who := Game.player_of_side? hp.side

theorem seated (hp : Payer who g s) : g.side who = .ok s := Game.side_eq_ok_iff.2 hp.side

theorem handOf (hp : Payer who g s) : g.toTable.handOf who = s.hand := by
  have hs : g.sides.find? (·.player == who) = some s := hp.side
  simp [Table.handOf, hs]

theorem eq_of_mem (hp : Payer who g s) {t : Side} (ht : t ∈ g.sides) (hw : t.player = who) :
    t = s := by
  have hf := Game.side?_of_mem hp.seatsOnce ht
  rw [hw, hp.side] at hf
  exact (Option.some.inj hf).symm

/-- After a payment the player can go on paying. -/
theorem charged (hp : Payer who g s) (hr : Reaches g h)
    (ht : h.toTable = g.toTable.charge who n) :
    Payer who h (s.charge who n (s.hand.take (n .trashCard))) := by
  have hroster := hr.sameRoster hp.toDistinct
  refine ⟨hp.toDistinct.of_sameRoster hroster, ?_, ?_, ?_⟩
  · have hsides : h.sides = g.sides.map (·.charge who n (s.hand.take (n .trashCard))) := by
      rw [ht, Table.charge, hp.handOf]
    rw [Game.side?, hsides, Table.find?_map_charge]
    exact congrArg (Option.map _) hp.side
  · rw [Side.map_id_costArea_charge]
    exact hp.donsOnce
  · intro c hc
    rw [Side.hand_charge hp.player] at hc
    rw [hroster.seats]
    exact hp.owners c (List.mem_of_mem_drop hc)

/-- Paying without hand cards changes the payer's side only. -/
theorem toTable_setSide_pay (hp : Payer who g s) (hn : n .trashCard = 0) :
    (g.setSide (s.pay n)).toTable = g.toTable.charge who n := by
  have hs : g.side? (s.pay n).player = some s := Game.side?_player hp.side
  have hsides := Game.setSide_sides hs
  have hcharge : g.sides.map (fun t => if t.player = (s.pay n).player then s.pay n else t) =
      g.sides.map (·.charge who n []) := by
    refine List.map_congr_left fun t ht => ?_
    have hplayer : (s.pay n).player = who := hp.player
    rw [hplayer]
    by_cases hw : t.player = who
    · obtain rfl := hp.eq_of_mem ht hw
      simp [Side.charge, Side.receive, hw]
    · simp [Side.charge, Side.receive, hw]
  rw [Table.charge, hn, List.take_zero, ← hcharge, ← hsides]
  rfl

/-! ## Simple costs -/

theorem restDon (hp : Payer who g s) {n : Nat} (hn : n ≤ s.activeDon.length) :
    ∃ h, g.restDon who n = .ok h ∧
      h.toTable = g.toTable.charge who (.only .restDon n) := by
  have hids : firstItems (n : Int) (s.activeDon.map (·.id)) = (s.activeDon.take n).map (·.id) := by
    rw [firstItems_natCast, List.map_take]
  have hpay : s.pay (.only .restDon n) = { s with
      costArea := s.costArea.map fun d =>
        if ((s.activeDon.take n).map (·.id)).contains d.id then d.rest else d } := by
    rw [Side.activeDon, map_contains_eq_markFirst hp.donsOnce]
    simp [Side.pay, Amounts.only]
  refine ⟨_, ?_, hp.toTable_setSide_pay rfl⟩
  unfold Game.restDon
  rw [hp.seated, hpay]
  change (if ((firstItems (n : Int) (s.activeDon.map (·.id))).length : Int) < n then _ else _) = _
  have hlen : ((s.activeDon.take n).map (·.id)).length = n := by
    rw [List.length_map, List.length_take]
    omega
  rw [hids, hlen, if_neg (Int.lt_irrefl _)]
  rfl

/-- The first active character is rested where it lies. -/
theorem rest_first (hp : Payer who g s) {c : Card} {rest : List Card}
    (hc : s.characters.filter Card.isActive = c :: rest) :
    ∃ h, g.updateCard c.id (fun c => { c with orientation := .rested }) = .ok h ∧
      h.toTable = g.toTable.charge who (.only .restCard 1) := by
  have hmem : c ∈ s.characters := List.mem_of_mem_filter (hc ▸ List.mem_cons_self)
  have hl := Game.locate?_of_mem .characterArea hp.toDistinct hp.side (by decide) hmem
  have hids : (s.characters.map (·.id)).Nodup :=
    Game.idsOnce_of_zone .characterArea hp.toDistinct hp.side (by decide)
  have hmark : (s.characters.map fun d => if d.id == c.id then c.rest else d) =
      markFirst Card.isActive Card.rest 1 s.characters := by
    rw [← map_contains_eq_markFirst hids]
    refine List.map_congr_left fun d hd => ?_
    by_cases hid : d.id = c.id
    · obtain rfl := List.inj_on_of_nodup_map hids hd hmem hid
      simp [hc]
    · simp [hc, hid]
  have hpay : s.pay (.only .restCard 1) = s.putCards .characterArea
      ((s.cards .characterArea).map fun d => if d.id == c.id then c.rest else d) := by
    rw [Side.cards, hmark]
    simp [Side.pay, Side.putCards, Amounts.only]
  refine ⟨_, ?_, hp.toTable_setSide_pay rfl⟩
  unfold Game.updateCard
  rw [hl, hpay]
  change (g.seatedSide who >>= _) = _
  rw [Game.seatedSide_eq_ok_iff.2 hp.side]
  rfl

/-- A hand card goes to the end of its owner's trash. -/
theorem trash_first (hp : Payer who g s) {c : Card} {rest : List Card} (hc : s.hand = c :: rest) :
    ∃ h, g.moveCard c.id .trash true = .ok h ∧
      h.toTable = g.toTable.charge who (.only .trashCard 1) := by
  have hmem : c ∈ s.hand := hc ▸ List.mem_cons_self
  have hl := Game.locate?_of_mem .hand hp.toDistinct hp.side (by decide) hmem
  have hids : (s.hand.map (·.id)).Nodup :=
    Game.idsOnce_of_zone .hand hp.toDistinct hp.side (by decide)
  have hpay : s.putCards .hand ((s.cards .hand).filter (·.id != c.id)) =
      s.pay (.only .trashCard 1) := by
    rw [hc, List.map_cons, List.nodup_cons] at hids
    have hrest : rest.filter (·.id != c.id) = rest := by
      refine List.filter_eq_self.2 fun d hd => ?_
      have hne : d.id ≠ c.id := fun e => hids.1 (e ▸ List.mem_map_of_mem hd)
      simpa using hne
    simp [Side.cards, hc, hrest, Side.pay, Side.putCards, Amounts.only]
  have hplayer : (s.pay (.only .trashCard 1)).player = s.player := rfl
  have hs := hp.side
  rw [← hp.player, ← hplayer] at hs
  -- the game once the card has left the hand
  generalize hg₁ : g.setSide (s.pay (.only .trashCard 1)) = g₁
  have hseats : g₁.seats = g.seats := by rw [← hg₁, Game.seats_setSide hs]
  obtain ⟨r, hr⟩ := Option.isSome_iff_exists.1
    (Game.isSome_side?_iff.2 (hseats ▸ hp.owners c hmem))
  have howner := Game.player_of_side? hr
  have hr' : g₁.side? (r.receive [c]).player = some r := Game.side?_player hr
  refine ⟨g₁.setSide (r.receive [c]), ?_, ?_⟩
  · have hemptied : s.withCards .hand ((s.cards .hand).filter (·.id != c.id)) =
        .ok (s.pay (.only .trashCard 1)) := by
      rw [← hpay]
      rfl
    have hfilled : r.withCards .trash (r.cards .trash ++ [Game.arriving c .hand .trash]) =
        .ok (r.receive [c]) := by
      rw [Side.receive_of_eq howner.symm]
      rfl
    have hreleased : g₁.releaseDon c .hand .trash = .ok g₁ := rfl
    unfold Game.moveCard
    rw [hl]
    dsimp only
    rw [Game.seatedSide_eq_ok_iff.2 hp.side, ok_bind, hemptied, ok_bind, hg₁, hreleased, ok_bind]
    have hto : g₁.seatedSide (if Zone.trash.isField then c.controller else c.owner) = .ok r :=
      Game.seatedSide_eq_ok_iff.2 hr
    rw [hto, ok_bind, if_pos rfl, hfilled]
    rfl
  · have hfirst : g₁.sides = g.sides.map fun t =>
        if t.player = who then t.pay (.only .trashCard 1) else t := by
      rw [← hg₁, Game.setSide_sides hs]
      refine List.map_congr_left fun t ht => ?_
      rw [hplayer, hp.player]
      by_cases hw : t.player = who
      · rw [if_pos hw, if_pos hw, hp.eq_of_mem ht hw]
      · rw [if_neg hw, if_neg hw]
    have hthen : (g₁.setSide (r.receive [c])).sides = g₁.sides.map (·.receive [c]) := by
      rw [Game.setSide_sides hr']
      refine List.map_congr_left fun t ht => ?_
      by_cases hw : t.player = c.owner
      · have hfound := Game.side?_of_mem (hseats ▸ hp.seatsOnce) ht
        rw [hw, hr] at hfound
        obtain rfl := Option.some.inj hfound
        exact if_pos rfl
      · rw [Side.receive_of_ne (Ne.symm hw)]
        exact if_neg fun h => hw (h.trans howner)
    have htake : s.hand.take (Amounts.only .trashCard 1 .trashCard) = [c] := by
      rw [hc]
      rfl
    rw [Table.charge, hp.handOf, htake]
    have hrest : (g₁.setSide (r.receive [c])).toTable =
        { g.toTable with sides := (g₁.setSide (r.receive [c])).sides } := by
      rw [← hg₁]
      rfl
    rw [hrest, hthen, hfirst, List.map_map]
    rfl

end Payer

end Cost

end CardRules
