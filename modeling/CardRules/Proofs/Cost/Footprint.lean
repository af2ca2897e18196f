import CardRules.Proofs.Cost.Charge
import CardRules.Proofs.Game.Moves

/-!
# What a payment leaves alone

Whatever a cost looks like, it is paid in three kinds of steps (`Game.PayStep`): DON!! are rested, a
card is rested where it lies, and a card goes from a hand to the trash. Such steps spare the rest of
the game (`Game.Spares`): outside the hands every card stays where it is and changes at most its
orientation, no DON!! goes from one card to another, and on each side as much lies as before, apart
from the hand and the trash. What can be paid is paid in such steps (`Cost.pay_of_canPay`).
-/

namespace CardRules

/-- What a new item has in common with the one it replaces is the same in the whole list. -/
theorem map_replace_key {α β γ : Type} [DecidableEq β] {key : α → β} {v : α → γ} {xs : List α}
    {x y : α} (hn : (xs.map key).Nodup) (hx : x ∈ xs) (hv : v y = v x) :
    (xs.map fun z => if key z == key x then y else z).map v = xs.map v := by
  rw [List.map_map]
  refine List.map_congr_left fun z hz => ?_
  by_cases hkey : key z = key x
  · obtain rfl := List.inj_on_of_nodup_map hn hz hx hkey
    simpa using hv
  · simp [hkey]

/-- The card with an orientation, where it lies. -/
def Placed.turned (o : Orientation) (q : Placed) : Placed :=
  { q with card := { q.card with orientation := o } }

namespace Side

/-- The second side has no more hand cards than the first, and otherwise as many cards in each zone
but the trash, with the same DON!! on them, and as many DON!! in the cost area. -/
structure Spares (s t : Side) : Prop where
  hand : t.hand.length ≤ s.hand.length
  cards : ∀ zone, zone ≠ .hand → zone ≠ .trash →
    (t.cards zone).map (·.givenDon) = (s.cards zone).map (·.givenDon)
  costArea : t.costArea.length = s.costArea.length

variable {s t u : Side} {zone : Zone}

theorem Spares.refl (s : Side) : Spares s s := ⟨Nat.le_refl _, fun _ _ _ => rfl, rfl⟩

theorem Spares.trans (h₁ : Spares s t) (h₂ : Spares t u) : Spares s u where
  hand := Nat.le_trans h₂.hand h₁.hand
  cards zone hh ht := (h₂.cards zone hh ht).trans (h₁.cards zone hh ht)
  costArea := h₂.costArea.trans h₁.costArea

theorem spares_putCards {cards : List Card} (hf : fits zone cards.length)
    (hhand : zone = .hand → cards.length ≤ s.hand.length)
    (h : zone ≠ .hand → zone ≠ .trash →
      cards.map (·.givenDon) = (s.cards zone).map (·.givenDon)) :
    Spares s (s.putCards zone cards) where
  hand := by
    by_cases hz : zone = .hand
    · subst hz
      exact hhand rfl
    · have hother : (s.putCards zone cards).cards .hand = s.cards .hand :=
        cards_putCards_of_ne (Ne.symm hz)
      exact Nat.le_of_eq (congrArg List.length hother)
  cards other hh ht := by
    by_cases hz : other = zone
    · subst hz
      rw [cards_putCards hf, h hh ht]
    · rw [cards_putCards_of_ne hz]
  costArea := by rw [costArea_putCards]

theorem Spares.length_cards (h : Spares s t) (zone : Zone) (hh : zone ≠ .hand)
    (ht : zone ≠ .trash) : (t.cards zone).length = (s.cards zone).length := by
  have hlength := congrArg List.length (h.cards zone hh ht)
  simpa using hlength

theorem Spares.donInPlay (h : Spares s t) : t.donInPlay = s.donInPlay := by
  have hfield : ∀ u : Side, u.fieldCards.map (·.givenDon) =
      (u.cards .leaderArea).map (·.givenDon) ++ (u.cards .characterArea).map (·.givenDon) ++
        (u.cards .stageArea).map (·.givenDon) := fun u => by
    rw [fieldCards, List.map_append, List.map_append]
    rfl
  have hdons : t.fieldCards.map (·.givenDon) = s.fieldCards.map (·.givenDon) := by
    rw [hfield, hfield, h.cards .leaderArea (by decide) (by decide),
      h.cards .characterArea (by decide) (by decide), h.cards .stageArea (by decide) (by decide)]
  unfold Side.donInPlay
  rw [h.costArea, List.flatMap_def, List.flatMap_def, hdons]

end Side

namespace Game

/-- The turn is the same, each card is still there with its DON!!, in its place unless it was in a
hand, and each side is spared. -/
structure Spares (g h : Game) : Prop where
  turn : h.activePlayer = g.activePlayer
  cards : ∀ q ∈ g.placed, ∃ r ∈ h.placed, r.card.id = q.card.id ∧
    r.card.givenDon = q.card.givenDon ∧ (q.zone ≠ .hand → ∃ o, r = q.turned o)
  sides : ∀ p s, g.side? p = some s → ∃ t, h.side? p = some t ∧ s.Spares t

/-- One step of a payment. -/
inductive PayStep : Game → Game → Prop where
  | restDon {g h : Game} {p : Player} {amount : Int} : g.restDon p amount = .ok h → PayStep g h
  | rest {g h : Game} {id : String} :
      g.updateCard id (fun c => { c with orientation := .rested }) = .ok h → PayStep g h
  | trash {g h : Game} {q : Placed} : g.locate? q.card.id = some q → q.zone = .hand →
      g.moveCard q.card.id .trash true = .ok h → PayStep g h

/-- The second game comes from the first by paying. -/
abbrev Pays : Game → Game → Prop := Relation.ReflTransGen PayStep

variable {g h k : Game} {s t : Side} {p : Player} {q : Placed} {ids : List String}

theorem PayStep.step (h₁ : PayStep g h) : Step g h := by
  cases h₁ with
  | restDon h₁ => exact .restDon h₁
  | rest h₁ => exact .orient h₁
  | trash _ _ h₁ => exact .move h₁

theorem Pays.reaches (h₁ : Pays g h) : Reaches g h := by
  induction h₁ with
  | refl => exact .refl
  | tail _ h₂ ih => exact ih.tail h₂.step

/-! ## Each step spares the rest -/

theorem Spares.refl (g : Game) : Spares g g where
  turn := rfl
  cards q hq := ⟨q, hq, rfl, rfl, fun _ => ⟨q.card.orientation, rfl⟩⟩
  sides _ s hs := ⟨s, hs, .refl s⟩

theorem Spares.trans (h₁ : Spares g h) (h₂ : Spares h k) : Spares g k where
  turn := h₂.turn.trans h₁.turn
  cards q hq := by
    obtain ⟨r, hr, hid, hdon, hplace⟩ := h₁.cards q hq
    obtain ⟨r', hr', hid', hdon', hplace'⟩ := h₂.cards r hr
    refine ⟨r', hr', hid'.trans hid, hdon'.trans hdon, fun hz => ?_⟩
    obtain ⟨o, rfl⟩ := hplace hz
    obtain ⟨o', rfl⟩ := hplace' hz
    exact ⟨o', rfl⟩
  sides p s hs := by
    obtain ⟨t, ht, hst⟩ := h₁.sides p s hs
    obtain ⟨u, hu, htu⟩ := h₂.sides p t ht
    exact ⟨u, hu, hst.trans htu⟩

theorem spares_setSide (hs : g.side? t.player = some s) (ht : s.Spares t) (p : Player) {u : Side}
    (hu : g.side? p = some u) : ∃ v, (g.setSide t).side? p = some v ∧ u.Spares v := by
  by_cases hp : t.player = p
  · subst hp
    rw [hs] at hu
    cases hu
    exact ⟨t, side?_setSide_self, ht⟩
  · exact ⟨u, by rw [side?_setSide_of_ne hp, hu], .refl u⟩

theorem spares_restDon {amount : Int} (hg : g.Distinct) (h₁ : g.restDon p amount = .ok h) :
    Spares g h := by
  obtain ⟨s, ids, hs, rfl⟩ := restDon_cases h₁
  have hseat : g.side? (s.rest ids).player = some s := side?_player hs
  refine ⟨rfl, ?_, fun p u => spares_setSide hseat ?_ p⟩
  · rw [placed_setSide hg.seatsOnce hseat fun _ => rfl]
    exact (Spares.refl g).cards
  · exact ⟨Nat.le_refl _, fun _ _ _ => rfl, List.length_map _⟩

theorem spares_rest {id : String} (hg : g.Distinct)
    (h₁ : g.updateCard id (fun c => { c with orientation := .rested }) = .ok h) : Spares g h := by
  obtain ⟨found, hl, hplaced⟩ := mem_placed_updateCard (f := Card.rest) hg h₁
  obtain ⟨found', s, cards, hl', hs, rfl, hf, rfl⟩ := updateCard_cases (f := Card.rest) h₁
  obtain rfl : found' = found := Option.some.inj (hl'.symm.trans hl)
  refine ⟨rfl, fun q hq => ?_, fun p u => spares_setSide (by simpa using side?_player hs) ?_ p⟩
  · by_cases hid : q.card.id = id
    · obtain rfl : q = found' := by
        have hq' := (locate?_eq_some_iff hg).2 ⟨hq, hid⟩
        exact Option.some.inj (hq'.symm.trans hl)
      exact ⟨q.turned .rested, (hplaced _).2 (.inl rfl), rfl, rfl, fun _ => ⟨_, rfl⟩⟩
    · exact ⟨q, (hplaced q).2 (.inr ⟨hq, hid⟩), rfl, rfl, fun _ => ⟨q.card.orientation, rfl⟩⟩
  · obtain ⟨s', hs', hz, hmem⟩ := holder_of_locate? hg.seatsOnce hl
    obtain rfl : s' = s := Option.some.inj (hs'.symm.trans hs)
    refine Side.spares_putCards hf (fun hhand => ?_) fun _ _ => ?_
    · rw [List.length_map, hhand]
      exact Nat.le_refl _
    · rw [← id_of_locate? hl]
      exact map_replace_key (idsOnce_of_zone _ hg hs hz) hmem rfl

theorem spares_trash {q : Placed} (hg : g.WellPlaced) (hl : g.locate? q.card.id = some q)
    (hz : q.zone = .hand) (h₁ : g.moveCard q.card.id .trash true = .ok h) : Spares g h := by
  have hturn := (Step.move h₁).activePlayer
  obtain ⟨found, hl', hplaced⟩ := mem_placed_moveCard hg.toDistinct h₁
  obtain rfl : q = found := Option.some.inj (hl.symm.trans hl')
  obtain ⟨found, holder, released, receiver, hl', hs, hf, hdon, hr, cards, hc, hf', rfl⟩ :=
    moveCard_cases h₁
  obtain rfl : q = found := Option.some.inj (hl.symm.trans hl')
  refine ⟨hturn, fun r hmem => ?_, fun p u hu => ?_⟩
  · by_cases hid : r.card.id = q.card.id
    · obtain rfl : r = q := eq_of_id_eq hg.toDistinct hmem (List.mem_of_find?_eq_some hl) hid
      have hbare : r.card.givenDon = [] := (hg.placed hmem).2 (by rw [hz]; decide)
      exact ⟨r.landing .trash, (hplaced _).2 (.inl rfl), Game.id_arriving _ _ _, hbare.symm,
        fun hne => absurd hz hne⟩
    · exact ⟨r, (hplaced r).2 (.inr ⟨hmem, hid⟩), rfl, rfl, fun _ => ⟨r.card.orientation, rfl⟩⟩
  · -- nothing is released, and the other zones of both sides stay as they are
    rw [hz] at hf hdon
    cases hdon
    have hemptied : holder.Spares (holder.putCards .hand
        ((holder.cards .hand).filter (·.id != q.card.id))) :=
      Side.spares_putCards hf (fun _ => List.length_filter_le _ _) fun hne => absurd rfl hne
    have hfilled : receiver.Spares (receiver.putCards .trash cards) :=
      Side.spares_putCards hf' nofun fun _ hne => absurd rfl hne
    obtain ⟨v, hv, huv⟩ := spares_setSide (by simpa using side?_player hs) hemptied p hu
    obtain ⟨w, hw, hvw⟩ := spares_setSide (by simpa [takeOut] using side?_player hr) hfilled p hv
    exact ⟨w, hw, huv.trans hvw⟩

theorem PayStep.spares (hg : g.WellPlaced) (h₁ : PayStep g h) : Spares g h := by
  cases h₁ with
  | restDon h₁ => exact spares_restDon hg.toDistinct h₁
  | rest h₁ => exact spares_rest hg.toDistinct h₁
  | trash hl hz h₁ => exact spares_trash hg hl hz h₁

/-- A payment spares the rest of the game. -/
theorem Pays.spares (hg : g.WellPlaced) (h₁ : Pays g h) : Spares g h := by
  induction h₁ with
  | refl => exact .refl g
  | tail h₁ h₂ ih =>
    have hreach : Reaches g _ := Pays.reaches h₁
    exact ih.trans (h₂.spares (hreach.wellPlaced hg))

end Game

/-! ## What can be paid is paid -/

namespace Cost

open Game (Pays PayStep WellPlaced)

variable {g : Game} {who : Player} {s : Side} {ids : List String}

theorem exists_restDon {amount : Int} (hs : g.side? who = some s)
    (hnonneg : 0 ≤ amount) (hamount : amount ≤ s.activeDon.length) :
    ∃ k, g.restDon who amount = .ok k ∧ Pays g k := by
  obtain ⟨n, rfl⟩ := Int.eq_ofNat_of_zero_le hnonneg
  have hrested : ∃ k, g.restDon who n = .ok k := by
    unfold Game.restDon
    rw [Game.side_eq_ok_iff.2 hs, ok_bind]
    dsimp only
    rw [firstItems_natCast, List.length_take, List.length_map, if_neg (by omega)]
    exact ⟨_, rfl⟩
  obtain ⟨k, hk⟩ := hrested
  exact ⟨k, hk, .single (.restDon hk)⟩

/-- Hand cards are trashed one after the other. -/
theorem exists_moveCards (hg : g.WellPlaced) (hn : ids.Nodup)
    (hin : ∀ id ∈ ids, ∃ q, g.locate? id = some q ∧ q.zone = .hand) :
    ∃ k, g.moveCards .trash ids = .ok k ∧ Pays g k := by
  induction ids generalizing g with
  | nil => exact ⟨g, rfl, .refl⟩
  | cons id rest ih =>
    obtain ⟨hid, hrest⟩ := List.nodup_cons.1 hn
    obtain ⟨q, hl, hz⟩ := hin id List.mem_cons_self
    obtain ⟨k, hk⟩ : ∃ k, g.moveCard id .trash true = .ok k :=
      Game.exists_moveCard hg.toSound hl fun _ => rfl
    obtain rfl : q.card.id = id := Game.id_of_locate? hl
    have hstep : PayStep g k := .trash hl hz hk
    have hk' : k.WellPlaced := (hstep.step.reaches).wellPlaced hg
    obtain ⟨found, hl', hplaced⟩ := Game.mem_placed_moveCard hg.toDistinct hk
    have hstay : ∀ id ∈ rest, ∃ r, k.locate? id = some r ∧ r.zone = .hand := by
      intro id hmem
      obtain ⟨r, hlr, hhand⟩ := hin id (List.mem_cons_of_mem _ hmem)
      obtain ⟨hr, rfl⟩ := (Game.locate?_eq_some_iff hg.toDistinct).1 hlr
      have hother : r.card.id ≠ q.card.id := fun h => hid (h ▸ hmem)
      have hstays : r ∈ k.placed := (hplaced r).2 (.inr ⟨hr, hother⟩)
      exact ⟨r, (Game.locate?_eq_some_iff hk'.toDistinct).2 ⟨hstays, rfl⟩, hhand⟩
    obtain ⟨h, hh, hpays⟩ := ih hk' hrest hstay
    refine ⟨h, ?_, .head hstep hpays⟩
    rw [Game.moveCards, hk, ok_bind, hh]

/-- Cards are rested one after the other. -/
theorem exists_restCards (hg : g.WellPlaced) (hin : ∀ id ∈ ids, ∃ q ∈ g.placed, q.card.id = id) :
    ∃ k, restCards g ids = .ok k ∧ Pays g k := by
  induction ids generalizing g with
  | nil => exact ⟨g, rfl, .refl⟩
  | cons id rest ih =>
    obtain ⟨q, hq, hid⟩ := hin id List.mem_cons_self
    have hl := (Game.locate?_eq_some_iff hg.toDistinct).2 ⟨hq, hid⟩
    obtain ⟨k, hk⟩ := Game.exists_updateCard (f := Card.rest) hg.toDistinct hl
    have hstep : PayStep g k := .rest hk
    have hspares := hstep.spares hg
    have hstay : ∀ id ∈ rest, ∃ r ∈ k.placed, r.card.id = id := by
      intro id hmem
      obtain ⟨r, hr, rfl⟩ := hin id (List.mem_cons_of_mem _ hmem)
      obtain ⟨r', hr', hid', -⟩ := hspares.cards r hr
      exact ⟨r', hr', hid'⟩
    obtain ⟨h, hh, hpays⟩ := ih (hstep.step.reaches.wellPlaced hg) hstay
    refine ⟨h, ?_, .head hstep hpays⟩
    change (g.updateCard id Card.rest >>= fun g => restCards g rest) = _
    rw [hk, ok_bind, hh]

theorem debitSimple_of_available (hg : g.WellPlaced) {kind : CostKind} {amount : Int}
    (hnonneg : 0 ≤ amount)
    (hhas : (available g who kind).map (fun has => decide (amount ≤ has)) = .ok true) :
    ∃ k, debitSimple g who kind amount = .ok k ∧ Pays g k := by
  obtain ⟨s, hs⟩ := Game.exists_side hg.toSound who
  have hside := Game.side_eq_ok_iff.2 hs
  obtain ⟨n, rfl⟩ := Int.eq_ofNat_of_zero_le hnonneg
  unfold available at hhas
  rw [hside] at hhas
  cases kind with
  | restDon =>
    have henough : (n : Int) ≤ s.activeDon.length := by simpa [Except.map] using hhas
    exact exists_restDon hs hnonneg henough
  | trashCard =>
    rw [debitSimple, hside, ok_bind, firstItems_natCast]
    have hids := Game.idsOnce_of_zone .hand hg.toDistinct hs (by decide)
    have htaken : ((s.hand.take n).map (·.id)).Sublist (s.hand.map (·.id)) :=
      (List.take_sublist n s.hand).map _
    refine exists_moveCards hg (hids.sublist htaken) fun id hid => ?_
    obtain ⟨c, hc, rfl⟩ := List.mem_map.1 hid
    have hmem : c ∈ s.cards .hand := List.mem_of_mem_take hc
    exact ⟨_, Game.locate?_of_mem .hand hg.toDistinct hs (by decide) hmem, rfl⟩
  | restCard =>
    rw [debitSimple, hside, ok_bind]
    dsimp only
    rw [firstItems_natCast]
    refine exists_restCards hg fun id hid => ?_
    obtain ⟨c, hc, rfl⟩ := List.mem_map.1 hid
    have hmem : c ∈ s.cards .characterArea :=
      List.mem_of_mem_filter (List.mem_of_mem_take hc)
    have hl := Game.locate?_of_mem .characterArea hg.toDistinct hs (by decide) hmem
    exact ⟨_, List.mem_of_find?_eq_some hl, rfl⟩
  | composite => exact ⟨g, rfl, .refl⟩

mutual
theorem debit_of_canPay : ∀ {c : Cost} {g : Game}, g.WellPlaced → canPay who c g = .ok true →
    ∃ k, debit who c g = .ok k ∧ Pays g k := by
  intro c g hg h
  obtain ⟨kind, amount, parts⟩ := c
  cases kind with
  | composite =>
    simp only [canPay] at h
    split at h
    · cases h
    · exact debitAll_of_canPayAll hg h
  | restDon | trashCard | restCard =>
    simp only [canPay] at h
    split at h
    · cases h
    · rename_i hnonneg
      simp only [debit]
      exact debitSimple_of_available hg (Int.not_lt.1 hnonneg) h

theorem debitAll_of_canPayAll : ∀ {cs : List Cost} {g : Game}, g.WellPlaced →
    canPayAll who cs g = .ok true → ∃ k, debitAll who cs g = .ok k ∧ Pays g k := by
  intro cs g hg h
  cases cs with
  | nil => exact ⟨g, rfl, .refl⟩
  | cons c rest =>
    rw [canPayAll] at h
    obtain ⟨affordable, hc, h⟩ := ok_of_bind h
    cases affordable with
    | false => cases h
    | true =>
      obtain ⟨k, hk, hfirst⟩ := debit_of_canPay hg hc
      have h : (debit who c g >>= canPayAll who rest) = .ok true := h
      rw [hk, ok_bind] at h
      obtain ⟨k', hk', hrest⟩ := debitAll_of_canPayAll (hfirst.reaches.wellPlaced hg) h
      refine ⟨k', ?_, hfirst.trans hrest⟩
      rw [debitAll, hk, ok_bind, hk']
end

/-- What a player can pay is paid, and the payment spares the rest of the game. -/
theorem pay_of_canPay {c : Cost} (hg : g.WellPlaced) (h : canPay who c g = .ok true) :
    ∃ k, pay who c g = .ok k ∧ Pays g k := by
  obtain ⟨k, hk, hpays⟩ := debit_of_canPay hg h
  refine ⟨k, ?_, hpays⟩
  rw [pay, h, ok_bind, if_pos rfl, hk]

end Cost

end CardRules
