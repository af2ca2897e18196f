import CardRules.Proofs.Game.Moves

/-!
# Shifts

When cards go one after the other to the ends of zones, what is left is a *shift*: each of them lies
where it went last, those in one zone in the order in which they came, behind the cards that stayed
(`Edit.shift`). Shifts add up to shifts, where a card that goes twice counts with its last place
(`Shifts.trans`). A run of moves off the field is the shift of the last mention of each card
(`shifts_moveCards`), and it is made as soon as its cards and their owners are there
(`exists_moveCards_iff`).
-/

namespace CardRules

/-! ## First mentions -/

section

variable {α : Type} [BEq α] [LawfulBEq α]

theorem eraseDups_filter (p : α → Bool) : ∀ xs : List α,
    (xs.filter p).eraseDups = xs.eraseDups.filter p
  | [] => rfl
  | x :: xs => by
    have ih := eraseDups_filter p (xs.filter fun y => !y == x)
    rw [List.filter_filter] at ih
    by_cases hx : p x
    · rw [List.filter_cons_of_pos hx, List.eraseDups_cons, List.eraseDups_cons,
        List.filter_cons_of_pos hx, ← ih, List.filter_filter]
      congr 3
      funext y
      rw [Bool.and_comm]
    · rw [List.filter_cons_of_neg hx, List.eraseDups_cons, List.filter_cons_of_neg hx, ← ih]
      congr 1
      refine List.filter_congr fun y _ => ?_
      by_cases hy : y = x
      · simp [hy, hx]
      · simp [hy]
termination_by xs => xs.length
decreasing_by
  exact Nat.lt_succ_of_le (List.length_filter_le _ _)

theorem eraseDups_cons_eq (x : α) (xs : List α) :
    (x :: xs).eraseDups = x :: xs.eraseDups.filter (· != x) := by
  rw [List.eraseDups_cons, ← eraseDups_filter]
  rfl

theorem nodup_eraseDups (xs : List α) : xs.eraseDups.Nodup := by
  induction xs with
  | nil => exact List.nodup_nil
  | cons x xs ih =>
    rw [eraseDups_cons_eq, List.nodup_cons]
    refine ⟨fun hx => ?_, ih.filter _⟩
    simpa using (List.mem_filter.1 hx).2

end

/-! ## Shifts -/

/-- Whether a card is one of those that have been placed. -/
def Placed.among (rs : List Placed) (id : String) : Bool := (rs.map (·.card.id)).contains id

/-- The cards of a list that have been placed in a zone, in their order. -/
def Placed.inZone (rs : List Placed) (p : Player) (zone : Zone) : List Card :=
  (rs.filter fun r => r.player == p && r.zone == zone).map (·.card)

/-- Cards are taken from where they are and laid at the ends of the zones where they go. -/
def Edit.shift (rs : List Placed) : Edit := fun p zone cards =>
  cards.filter (fun c => !Placed.among rs c.id) ++ Placed.inZone rs p zone

namespace Placed

variable {rs rs' : List Placed} {q : Placed} {id : String} {p : Player} {dest zone : Zone}

theorem among_iff : among rs id ↔ ∃ r ∈ rs, r.card.id = id := by
  simp [among]

theorem among_eq_false : among rs id = false ↔ ∀ r ∈ rs, r.card.id ≠ id := by
  rw [← Bool.not_eq_true, among_iff]
  simp

@[simp] theorem among_append : among (rs ++ rs') id = (among rs id || among rs' id) := by
  rw [Bool.eq_iff_iff]
  simp [among_iff, or_and_right, exists_or]

@[simp] theorem inZone_append :
    inZone (rs ++ rs') p zone = inZone rs p zone ++ inZone rs' p zone := by
  simp [inZone]

theorem among_singleton : among [q] id = (id == q.card.id) := by
  rw [Bool.eq_iff_iff, among_iff, beq_iff_eq]
  constructor
  · rintro ⟨r, hr, rfl⟩
    rw [List.mem_singleton.1 hr]
  · rintro rfl
    exact ⟨q, List.mem_singleton_self q, rfl⟩

/-- Cards that have all been placed in one zone are there, and nowhere else. -/
theorem inZone_map {owner : Player} (f : Card → Card) (cards : List Card) :
    inZone (cards.map fun c => ⟨owner, dest, f c⟩) p zone =
      if p = owner ∧ zone = dest then cards.map f else [] := by
  unfold inZone
  rw [List.filter_map, List.map_map]
  by_cases hplace : p = owner ∧ zone = dest
  · obtain ⟨rfl, rfl⟩ := hplace
    simp [Function.comp_def]
  · have hother : (owner == p && dest == zone) = false := by
      rw [← Bool.not_eq_true, Bool.and_eq_true, beq_iff_eq, beq_iff_eq]
      exact fun h => hplace ⟨h.1.symm, h.2.symm⟩
    simp [hplace, hother, Function.comp_def]

theorem inZone_singleton :
    inZone [q] p zone = if p = q.player ∧ zone = q.zone then [q.card] else [] :=
  inZone_map id [q.card]

theorem moving_toBottom : q.moving dest true = Edit.shift [q.landing dest] := by
  funext p zone cards
  have hothers : cards.filter (fun c => !among [q.landing dest] c.id) =
      cards.filter (·.id != q.card.id) := by
    refine List.filter_congr fun c _ => ?_
    rw [among_singleton, id_landing]
    rfl
  have hzone : (q.landing dest).zone = dest := rfl
  rw [Edit.shift, hothers, inZone_singleton, hzone, moving]
  dsimp only [Card.laidWith]
  split <;> simp

/-- A card that goes twice to a zone off the field arrives as if it had gone once. -/
theorem landing_landing (hd : ¬dest.isField) :
    (q.landing dest).landing dest = q.landing dest := by
  simp [landing, Game.arriving, hd]

end Placed

theorem Edit.shift_shift (rs rs' : List Placed) :
    (fun p zone cards => shift rs' p zone (shift rs p zone cards)) =
      shift (rs.filter (fun r => !Placed.among rs' r.card.id) ++ rs') := by
  funext p zone cards
  have hgone : ∀ id, (!Placed.among rs' id && !Placed.among rs id) =
      !Placed.among (rs.filter (fun r => !Placed.among rs' r.card.id) ++ rs') id := by
    intro id
    rw [Placed.among_append, Bool.eq_iff_iff]
    simp only [Bool.and_eq_true, Bool.not_eq_true', Bool.or_eq_false_iff, Placed.among_eq_false,
      List.mem_filter]
    constructor
    · exact fun h => ⟨fun r hr => h.2 r hr.1, h.1⟩
    · refine fun h => ⟨h.2, fun r hr hid => h.1 r ⟨hr, ?_⟩ hid⟩
      exact fun r' hr' hid' => h.2 r' hr' (hid'.trans hid)
  simp only [shift, List.filter_append, List.filter_filter, hgone, Placed.inZone_append,
    List.append_assoc]
  congr 2
  unfold Placed.inZone
  rw [List.filter_map, List.filter_filter, List.filter_filter]
  congr 1
  refine List.filter_congr fun r _ => ?_
  rw [Function.comp_apply, Bool.and_comm]

namespace Game

variable {g h k : Game} {s : Side} {p : Player} {id other : String} {ids : List String}
  {q : Placed} {dest : Zone} {dons more : List Don} {rs rs' : List Placed} {cards : List Card}

/-- The second game is the first one after a shift, with DON!! back in the cost areas of their
owners. -/
abbrev Shifts (g h : Game) (rs : List Placed) (dons : List Don) : Prop :=
  Edited g h dons (.shift rs)

theorem Shifts.refl (g : Game) : Shifts g g [] [] := by
  refine (Edited.refl g).congr fun p s _ zone => ?_
  simp [Edit.keep, Edit.shift, Placed.among, Placed.inZone]

theorem Shifts.trans (h₁ : Shifts g h rs dons) (h₂ : Shifts h k rs' more) :
    Shifts g k (rs.filter (fun r => !Placed.among rs' r.card.id) ++ rs') (dons ++ more) := by
  have hboth := Edited.trans h₁ h₂
  rwa [Edit.shift_shift] at hboth

/-- Where no card goes twice, nothing is taken back. -/
theorem Shifts.append (h₁ : Shifts g h rs dons) (h₂ : Shifts h k rs' more)
    (hapart : ∀ r ∈ rs, ∀ r' ∈ rs', r'.card.id ≠ r.card.id) :
    Shifts g k (rs ++ rs') (dons ++ more) := by
  have hboth := h₁.trans h₂
  rwa [List.filter_eq_self.2] at hboth
  intro r hr
  rw [Bool.not_eq_true', Placed.among_eq_false]
  exact hapart r hr

theorem shifts_moveCard (hg : g.Distinct) (hl : g.locate? id = some q)
    (hm : g.moveCard id dest true = .ok h) : Shifts g h [q.landing dest] (q.released dest) := by
  have hedited := edited_moveCard hg hl hm
  rwa [Placed.moving_toBottom] at hedited

/-- A card is found where it went, and the others where they were. -/
theorem locate?_moveCard {toBottom : Bool} (hg : g.Distinct) (hl : g.locate? id = some q)
    (hm : g.moveCard id dest toBottom = .ok h) :
    h.locate? other = if other = id then some (q.landing dest) else g.locate? other := by
  have hh : h.Distinct := hg.of_sameRoster (sameRoster_moveCard hg hm)
  obtain ⟨found, hl', hplaced⟩ := mem_placed_moveCard hg hm
  obtain rfl : q = found := Option.some.inj (hl.symm.trans hl')
  have hid : (q.landing dest).card.id = id := Placed.id_landing.trans (id_of_locate? hl)
  apply Option.ext
  intro r
  rw [locate?_eq_some_iff hh, hplaced]
  split
  · rename_i hsame
    subst hsame
    constructor
    · rintro ⟨rfl | ⟨-, hother⟩, hr⟩
      · rfl
      · exact absurd hr hother
    · rintro ⟨⟩
      exact ⟨.inl rfl, hid⟩
  · rename_i hother
    rw [locate?_eq_some_iff hg]
    constructor
    · rintro ⟨rfl | ⟨hr, -⟩, hrid⟩
      · exact absurd (hrid.symm.trans hid) hother
      · exact ⟨hr, hrid⟩
    · rintro ⟨hr, hrid⟩
      exact ⟨.inr ⟨hr, fun h => hother (hrid.symm.trans h)⟩, hrid⟩

/-! ## Runs of moves -/

/-- Where the cards with some ids arrive in a zone. -/
def landings (g : Game) (dest : Zone) (ids : List String) : List Placed :=
  ids.filterMap fun id => (g.locate? id).map (·.landing dest)

theorem id_mem_of_mem_landings {r : Placed} (hr : r ∈ g.landings dest ids) : r.card.id ∈ ids := by
  obtain ⟨id, hid, hr⟩ := List.mem_filterMap.1 hr
  obtain ⟨q, hl, rfl⟩ := Option.map_eq_some_iff.1 hr
  rwa [Placed.id_landing, id_of_locate? hl]

theorem sameRoster_moveCards (hg : g.Distinct) (hm : g.moveCards dest ids = .ok h) :
    SameRoster g h :=
  (fieldReaches_moveCards hm).reaches.sameRoster hg

/-- No card with one of these ids lies on the field. -/
def OffField (g : Game) (ids : List String) : Prop :=
  ∀ id ∈ ids, ∀ q, g.locate? id = some q → ¬q.zone.isField

theorem OffField.moveCard (hoff : g.OffField ids) (hg : g.Distinct) (hd : ¬dest.isField)
    (hl : g.locate? id = some q) (hm : g.moveCard id dest true = .ok h) : h.OffField ids := by
  intro other hmem r hr
  rw [locate?_moveCard hg hl hm] at hr
  split at hr
  · cases hr
    exact hd
  · exact hoff other hmem r hr

/-- After a run off the field, its cards are found where they went, and the others where they
were. -/
theorem locate?_moveCards (hg : g.Distinct) (hd : ¬dest.isField)
    (hm : g.moveCards dest ids = .ok h) :
    h.locate? other =
      if other ∈ ids then (g.locate? other).map (·.landing dest) else g.locate? other := by
  induction ids generalizing g with
  | nil =>
    cases hm
    simp
  | cons id rest ih =>
    obtain ⟨g₁, hm₁, hm⟩ := ok_of_bind hm
    obtain ⟨q, hl, -⟩ := mem_placed_moveCard hg hm₁
    rw [ih (hg.of_sameRoster (sameRoster_moveCard hg hm₁)) hm, locate?_moveCard hg hl hm₁]
    by_cases hsame : other = id
    · simp [hsame, hl, Placed.landing_landing hd]
    · simp [hsame]

/-- A run of moves off the field shifts each card once, in the order of their last mentions. -/
theorem shifts_moveCards (hg : g.Distinct) (hd : ¬dest.isField) (hoff : g.OffField ids)
    (hm : g.moveCards dest ids = .ok h) : Shifts g h (g.landings dest ids.dedup) [] := by
  induction ids generalizing g with
  | nil =>
    cases hm
    exact .refl _
  | cons id rest ih =>
    obtain ⟨g₁, hm₁, hm⟩ := ok_of_bind hm
    obtain ⟨q, hl, -⟩ := mem_placed_moveCard hg hm₁
    have hrest : g.OffField rest := fun id hid => hoff id (List.mem_cons_of_mem _ hid)
    have hfirst := shifts_moveCard hg hl hm₁
    have hnone : q.released dest = [] := by
      simp [Placed.released, hoff id List.mem_cons_self q hl]
    rw [hnone] at hfirst
    have hlater := ih (hg.of_sameRoster (sameRoster_moveCard hg hm₁))
      (hrest.moveCard hg hd hl hm₁) hm
    -- the card itself is found where it went, and goes there once more if it is named again
    have hland : g₁.landings dest rest.dedup = g.landings dest rest.dedup := by
      refine List.filterMap_congr fun other _ => ?_
      rw [locate?_moveCard hg hl hm₁]
      split
      · rename_i hsame
        rw [hsame, hl, Option.map_some, Option.map_some, Placed.landing_landing hd]
      · rfl
    have hid : (q.landing dest).card.id = id := Placed.id_landing.trans (id_of_locate? hl)
    rw [hland] at hlater
    by_cases hagain : id ∈ rest
    · have hboth := hfirst.trans hlater
      have hamong : Placed.among (g.landings dest rest.dedup) id := by
        refine Placed.among_iff.2 ⟨q.landing dest, ?_, hid⟩
        refine List.mem_filterMap.2 ⟨id, List.mem_dedup.2 hagain, ?_⟩
        rw [hl]
        rfl
      rw [List.dedup_cons_of_mem hagain]
      simpa [hid, hamong] using hboth
    · have hapart : ∀ r ∈ [q.landing dest], ∀ r' ∈ g.landings dest rest.dedup,
          r'.card.id ≠ r.card.id := by
        intro r hr r' hr' hsame
        rw [List.mem_singleton.1 hr, hid] at hsame
        exact hagain (hsame ▸ List.mem_dedup.1 (id_mem_of_mem_landings hr'))
      have hcons : g.landings dest (id :: rest.dedup) =
          q.landing dest :: g.landings dest rest.dedup := by
        simp [landings, hl]
      rw [List.dedup_cons_of_notMem hagain, hcons]
      exact hfirst.append hlater hapart

/-- The cards of a run need their owners, and nothing else. -/
theorem exists_moveCards_iff (hg : g.Distinct) (hd : ¬dest.isField) (hz : dest ∈ Zone.ofCards)
    (hoff : g.OffField ids) : (∃ h, g.moveCards dest ids = .ok h) ↔
      ∀ id ∈ ids, ∃ q, g.locate? id = some q ∧ q.card.owner ∈ g.seats := by
  have hslot : ¬dest.isSlot := by
    cases dest <;> simp_all [Zone.isField, Zone.isSlot]
  induction ids generalizing g with
  | nil => exact ⟨fun _ id hid => (by cases hid), fun _ => ⟨g, rfl⟩⟩
  | cons id rest ih =>
    have hrest : g.OffField rest := fun id hid => hoff id (List.mem_cons_of_mem _ hid)
    have hplayer : ∀ q : Placed, (q.landing dest).player = q.card.owner := fun q => by
      simp [Placed.landing, hd]
    -- what the rest of the run needs is there after the first move if it was there before
    have hkept : ∀ {q g₁}, g.locate? id = some q → q.card.owner ∈ g.seats →
        g.moveCard id dest true = .ok g₁ →
        ((∀ other ∈ rest, ∃ r, g₁.locate? other = some r ∧ r.card.owner ∈ g₁.seats) ↔
          ∀ other ∈ rest, ∃ r, g.locate? other = some r ∧ r.card.owner ∈ g.seats) := by
      intro q g₁ hl hq hm
      rw [(sameRoster_moveCard hg hm).seats]
      refine forall₂_congr fun other _ => ?_
      rw [locate?_moveCard hg hl hm]
      split
      · rename_i hsame
        have howner : (q.landing dest).card.owner = q.card.owner := by
          simp [Placed.landing, arriving, hd]
        simp [hsame, hl, howner]
      · rfl
    rw [List.forall_mem_cons]
    constructor
    · rintro ⟨h, hm⟩
      obtain ⟨g₁, hm₁, hm⟩ := ok_of_bind hm
      obtain ⟨q, hl, -⟩ := mem_placed_moveCard hg hm₁
      obtain ⟨-, s, hs, -⟩ := (exists_moveCard_iff hg hl).1 ⟨g₁, hm₁⟩
      rw [hplayer] at hs
      have hq : q.card.owner ∈ g.seats := isSome_side?_iff.1 (by rw [hs]; rfl)
      refine ⟨⟨q, hl, hq⟩, (hkept hl hq hm₁).1 ?_⟩
      exact (ih (hg.of_sameRoster (sameRoster_moveCard hg hm₁))
        (hrest.moveCard hg hd hl hm₁)).1 ⟨h, hm⟩
    · rintro ⟨⟨q, hl, hq⟩, hneeds⟩
      obtain ⟨s, hs⟩ := Option.isSome_iff_exists.1 (isSome_side?_iff.2 hq)
      obtain ⟨g₁, hm₁⟩ : ∃ g₁, g.moveCard id dest true = .ok g₁ := by
        refine (exists_moveCard_iff hg hl).2 ⟨fun d hdon => ?_, s, ?_, hz, fun h => absurd h hslot⟩
        · simp [Placed.released, hoff id List.mem_cons_self q hl] at hdon
        · rw [hplayer, hs]
      obtain ⟨h, hm⟩ := (ih (hg.of_sameRoster (sameRoster_moveCard hg hm₁))
        (hrest.moveCard hg hd hl hm₁)).2 ((hkept hl hq hm₁).2 hneeds)
      exact ⟨h, by rw [moveCards, hm₁, ok_bind, hm]⟩

/-! ## Shifts within one side -/

/-- Cards that lie in one zone go from there. -/
theorem landings_of_zone (zone : Zone) (hg : g.Distinct) (hs : g.side? p = some s)
    (hz : zone ∈ Zone.ofCards)
    (hc : ∀ c ∈ cards, c ∈ s.cards zone) : g.landings dest (cards.map (·.id)) =
      cards.map fun c => (⟨p, zone, c⟩ : Placed).landing dest := by
  unfold landings
  rw [List.filterMap_map, ← List.filterMap_eq_map]
  refine List.filterMap_congr fun c hmem => ?_
  rw [Function.comp_apply, locate?_of_mem zone hg hs hz (hc c hmem)]
  rfl

theorem offField_of_zone (zone : Zone) (hg : g.Distinct) (hs : g.side? p = some s)
    (hz : zone ∈ Zone.ofCards) (hoff : ¬zone.isField)
    (hc : ∀ id ∈ ids, ∃ c ∈ s.cards zone, c.id = id) : g.OffField ids := by
  intro id hid q hl
  obtain ⟨c, hmem, rfl⟩ := hc id hid
  rw [locate?_of_mem zone hg hs hz hmem] at hl
  cases hl
  exact hoff

/-- What comes from one zone is in no other. -/
theorem filter_elsewhere {u : Side} {r : Player} {origin zone : Zone} (hg : g.Distinct)
    (hs : g.side? p = some s) (hfrom : ∀ q ∈ rs, ∃ c ∈ s.cards origin, c.id = q.card.id)
    (hu : g.side? r = some u) (hplace : ¬(r = p ∧ zone = origin)) :
    (u.cards zone).filter (fun c => !Placed.among rs c.id) = u.cards zone := by
  refine List.filter_eq_self.2 fun c hc => ?_
  rw [Bool.not_eq_true', Placed.among_eq_false]
  intro q hq hid
  obtain ⟨d, hd, hdq⟩ := hfrom q hq
  obtain ⟨rfl, rfl, -⟩ := place_eq_of_id_eq hg hs hu hd hc (hdq.trans hid)
  exact hplace ⟨rfl, rfl⟩

/-- Cards of a zone that are placed on the side where they come from change that side only. -/
theorem shifts_setSide {t : Side} (origin : Zone) (hg : g.Distinct) (hs : g.side? p = some s)
    (hfrom : ∀ q ∈ rs, ∃ c ∈ s.cards origin, c.id = q.card.id) (hto : ∀ q ∈ rs, q.player = p)
    (hplayer : t.player = s.player) (hflags : t.flags = s.flags) (hdeck : t.donDeck = s.donDeck)
    (harea : t.costArea = s.costArea)
    (horigin : t.cards origin =
      (s.cards origin).filter (fun c => !Placed.among rs c.id) ++ Placed.inZone rs p origin)
    (hothers : ∀ zone, zone ≠ origin →
      t.cards zone = s.cards zone ++ Placed.inZone rs p zone) :
    Shifts g (g.setSide t) rs [] := by
  have hp : s.player = p := player_of_side? hs
  refine edited_setSide (s := s) (hplayer ▸ side?_player hs)
    ⟨hplayer, hflags, hdeck, by simpa using harea, fun zone => ?_⟩
    fun q u hq hu => Side.edited_self (fun _ hd => by cases hd) fun zone => ?_
  · rw [Edit.shift, hp]
    by_cases hz : zone = origin
    · rw [hz, horigin]
    · rw [hothers zone hz, filter_elsewhere hg hs hfrom hs fun h => hz h.2]
  · have hother : q ≠ p := fun h => hq (h.trans (hplayer.trans hp).symm)
    have hnone : Placed.inZone rs u.player zone = [] := by
      rw [Placed.inZone, List.filter_eq_nil_iff.2, List.map_nil]
      intro r hr
      rw [hto r hr, player_of_side? hu]
      simp [Ne.symm hother]
    rw [Edit.shift, hnone, List.append_nil, filter_elsewhere hg hs hfrom hu fun h => hother h.1]

/-- Cards of a zone off the field can be moved to the end of other such zones, if their owners are
there. -/
theorem exists_moveCards_zone (origin dest : Zone) (hg : g.Distinct) (hs : g.side? p = some s)
    (ho : origin ∈ Zone.ofCards) (hd : dest ∈ Zone.ofCards) (hoff : ¬origin.isField)
    (hoff' : ¬dest.isField) (honce : (cards.map (·.id)).Nodup)
    (hc : ∀ c ∈ cards, c ∈ s.cards origin) (howner : ∀ c ∈ cards, c.owner ∈ g.seats) :
    ∃ h, g.moveCards dest (cards.map (·.id)) = .ok h ∧
      Shifts g h (cards.map fun c => (⟨p, origin, c⟩ : Placed).landing dest) [] := by
  have hids : g.OffField (cards.map (·.id)) := by
    refine offField_of_zone origin hg hs ho hoff fun id hid => ?_
    obtain ⟨c, hmem, rfl⟩ := List.mem_map.1 hid
    exact ⟨c, hc c hmem, rfl⟩
  obtain ⟨h, hm⟩ := (exists_moveCards_iff hg hoff' hd hids).2 fun id hid => by
    obtain ⟨c, hmem, rfl⟩ := List.mem_map.1 hid
    exact ⟨_, locate?_of_mem origin hg hs ho (hc c hmem), howner c hmem⟩
  have hshift := shifts_moveCards hg hoff' hids hm
  rw [honce.dedup, landings_of_zone origin hg hs ho hc] at hshift
  exact ⟨h, hm, hshift⟩

/-- Cards that their owner has in a zone off the field can be moved to the end of another one. -/
theorem exists_moveCards_own (origin dest : Zone) (hg : g.Distinct) (hs : g.side? p = some s)
    (ho : origin ∈ Zone.ofCards) (hd : dest ∈ Zone.ofCards) (hoff : ¬origin.isField)
    (hoff' : ¬dest.isField) (honce : (cards.map (·.id)).Nodup)
    (hc : ∀ c ∈ cards, c ∈ s.cards origin) (howner : ∀ c ∈ cards, c.owner = p) :
    ∃ h, g.moveCards dest (cards.map (·.id)) = .ok h ∧
      Shifts g h (cards.map fun c => ⟨p, dest, arriving c origin dest⟩) [] := by
  have hseat : p ∈ g.seats := isSome_side?_iff.1 (by rw [hs]; rfl)
  obtain ⟨h, hm, hshift⟩ := exists_moveCards_zone origin dest hg hs ho hd hoff hoff' honce hc
    fun c hmem => by rwa [howner c hmem]
  have hland : (cards.map fun c => (⟨p, origin, c⟩ : Placed).landing dest) =
      cards.map fun c => ⟨p, dest, arriving c origin dest⟩ := by
    refine List.map_congr_left fun c hmem => ?_
    rw [Placed.landing, if_neg hoff', howner c hmem]
  exact ⟨h, hm, hland ▸ hshift⟩

end Game

end CardRules
