import CardRules.Proofs.Game.Shifts

/-!
# Damage in total

Damage takes life cards one by one and looks anew at what is left each time, but it comes to what
`Side.damaged` says in one go. Damage adds up (`Side.damaged_damaged`), so what a use of an ability
does to a player is one hit with the damage of all its targets that hit that player
(`damage_exact`).

A leader is hit if it says that it lies in a leader area, wherever it does lie, and a target without
a name hits nobody, though a leader may have no name either (`disguised_leader_unhurt`).
-/

namespace CardRules

/-- Where a life card goes that is taken by damage. -/
def Card.afterDamage (c : Card) : Zone :=
  if c.hasKeyword triggerKeyword then .trash else .hand

theorem Card.afterDamage_ne (c : Card) : c.afterDamage ≠ .life := by
  unfold afterDamage
  split <;> decide

namespace Side

variable {s : Side} {m n : Nat}

/-- A side after damage: the first life cards go to the end of the trash with the keyword Trigger
and to the end of the hand without it, and a player who should have lost more than that is
defeated. -/
def damaged (n : Nat) (s : Side) : Side :=
  let taken := s.life.take n
  { s with
    life := s.life.drop n
    hand := s.hand ++
      (taken.filter fun c => !c.hasKeyword triggerKeyword).map (Game.arriving · .life .hand)
    trash := s.trash ++
      (taken.filter (·.hasKeyword triggerKeyword)).map (Game.arriving · .life .trash)
    flags :=
      if s.life.length < n then Json.setField "defeated" (.bool true) s.flags else s.flags }

@[simp] theorem damaged_zero : s.damaged 0 = s := by simp [damaged]

@[simp] theorem player_damaged : (s.damaged n).player = s.player := rfl

@[simp] theorem life_damaged : (s.damaged n).life = s.life.drop n := rfl

/-- Whether a player is defeated is one flag, and damage leaves the others. -/
theorem lookup_flags_damaged {key : String} : (s.damaged n).flags.lookup key =
    if key = "defeated" ∧ s.life.length < n then some (.bool true) else s.flags.lookup key := by
  unfold damaged
  by_cases hn : s.life.length < n
  · by_cases hk : key = "defeated"
    · simp [hn, hk]
    · simp [hn, hk, Json.lookup_setField_of_ne hk]
  · simp [hn]

/-- Two hits do what one hit with the damage of both does. -/
theorem damaged_damaged : (s.damaged m).damaged n = s.damaged (m + n) := by
  have hflags : (if s.life.length - m < n then
        Json.setField "defeated" (.bool true)
          (if s.life.length < m then Json.setField "defeated" (.bool true) s.flags else s.flags)
      else if s.life.length < m then Json.setField "defeated" (.bool true) s.flags else s.flags) =
      if s.life.length < m + n then Json.setField "defeated" (.bool true) s.flags else s.flags := by
    by_cases hm : s.life.length < m
    · rw [if_pos hm, Json.setField_setField, ite_self, if_pos (by omega)]
    · rw [if_neg hm]
      by_cases hn : s.life.length < m + n
      · rw [if_pos hn, if_pos (by omega)]
      · rw [if_neg hn, if_neg (by omega)]
  simp only [damaged, List.length_drop, hflags, List.drop_drop, List.take_add, List.filter_append,
    List.map_append, List.append_assoc]

/-- Who has no life cards left only gets the flag. -/
theorem damaged_of_nil (hs : s.life = []) : s.damaged (n + 1) =
    { s with flags := Json.setField "defeated" (.bool true) s.flags } := by
  obtain ⟨⟩ := s
  obtain rfl := hs
  simp [damaged]

end Side

/-- A table at which each player has taken some damage. -/
def Table.hit (power : Player → Nat) (t : Table) : Table :=
  { t with sides := t.sides.map fun s => s.damaged (power s.player) }

/-- Damage to one player. -/
def Player.hitBy (p : Player) (n : Nat) : Player → Nat := fun q => if q = p then n else 0

theorem Player.hitBy_add {p : Player} {m n : Nat} :
    (fun q => p.hitBy m q + p.hitBy n q) = p.hitBy (m + n) := by
  funext q
  unfold hitBy
  split <;> rfl

namespace Table

variable {t : Table} {power more : Player → Nat}

@[simp] theorem hit_zero : (t.hit fun _ => 0) = t := by simp [hit]

theorem hit_hit : (t.hit power).hit more = t.hit fun p => power p + more p := by
  simp [hit, Side.damaged_damaged, Function.comp_def]

end Table

namespace Game

variable {g h : Game} {s : Side} {p : Player} {c : Card} {rest : List Card} {n : Nat}

/-- A player at a table with distinct seats and cards who owns their life cards. -/
structure Defender (p : Player) (g : Game) (s : Side) : Prop extends g.Distinct where
  side : g.side? p = some s
  owners : ∀ c ∈ s.life, c.owner = p

theorem side?_hit {power : Player → Nat} (ht : h.toTable = g.toTable.hit power) :
    h.side? p = (g.side? p).map (·.damaged (power p)) := by
  have hsides : h.sides = g.sides.map fun s => s.damaged (power s.player) := by
    rw [ht]
    rfl
  have hplayer : ((·.player == p) ∘ fun s : Side => s.damaged (power s.player)) = (·.player == p) :=
    rfl
  rw [side?, side?, hsides, List.find?_map, hplayer]
  cases hs : g.sides.find? (·.player == p) with
  | none => rfl
  | some s =>
    have hp : s.player = p := player_of_side? hs
    rw [Option.map_some, Option.map_some, hp]

/-- A player who has been hit can be hit again. -/
theorem Defender.hit {power : Player → Nat} (hd : Defender p g s) (hr : Reaches g h)
    (ht : h.toTable = g.toTable.hit power) : Defender p h (s.damaged (power p)) := by
  refine ⟨hd.toDistinct.of_sameRoster (hr.sameRoster hd.toDistinct), ?_, fun c hc => ?_⟩
  · rw [side?_hit ht, hd.side, Option.map_some]
  · rw [Side.life_damaged] at hc
    exact hd.owners c (List.mem_of_mem_drop hc)

theorem Defender.toTable_setSide (hd : Defender p g s) :
    (g.setSide (s.damaged n)).toTable = g.toTable.hit (p.hitBy n) := by
  have hs : g.side? (s.damaged n).player = some s := side?_player hd.side
  have hp : s.player = p := player_of_side? hd.side
  have hsides : (g.setSide (s.damaged n)).sides =
      g.sides.map fun t => t.damaged (p.hitBy n t.player) := by
    rw [setSide_sides hs]
    refine List.map_congr_left fun t ht => ?_
    rw [Side.player_damaged, hp]
    by_cases htp : t.player = p
    · have hfound := side?_of_mem hd.seatsOnce ht
      rw [htp, hd.side] at hfound
      obtain rfl := Option.some.inj hfound
      rw [if_pos htp, Player.hitBy, if_pos htp]
    · rw [if_neg htp, Player.hitBy, if_neg htp, Side.damaged_zero]
  rw [Table.hit, ← hsides]
  rfl

/-- Taking the top life card away is one point of damage. -/
theorem Defender.shifts_damaged (hd : Defender p g s) (hlife : s.life = c :: rest) :
    Shifts g (g.setSide (s.damaged 1))
      [⟨p, c.afterDamage, arriving c .life c.afterDamage⟩] [] := by
  have hids : (s.life.map (·.id)).Nodup :=
    idsOnce_of_zone .life hd.toDistinct hd.side (by decide)
  rw [hlife, List.map_cons, List.nodup_cons] at hids
  have hrest : rest.filter (fun d => !(d.id == c.id)) = rest := by
    refine List.filter_eq_self.2 fun d hmem => ?_
    have hne : d.id ≠ c.id := fun e => hids.1 (e ▸ List.mem_map_of_mem hmem)
    simpa using hne
  refine shifts_setSide .life hd.toDistinct hd.side (fun q hq => ?_) (fun q hq => ?_) rfl ?_ rfl
    rfl ?_ fun zone hz => ?_
  · obtain rfl := List.mem_singleton.1 hq
    exact ⟨c, by simp [Side.cards, hlife], (id_arriving c .life _).symm⟩
  · rw [List.mem_singleton.1 hq]
  · simp [Side.damaged, hlife]
  · simp [Side.cards, hlife, Placed.among_singleton, Placed.inZone_singleton, hrest,
      Ne.symm c.afterDamage_ne]
  · rw [Placed.inZone_singleton, Card.afterDamage]
    cases hk : c.hasKeyword triggerKeyword <;> cases zone <;>
      simp_all [Side.cards, Side.damaged]

/-- The top life card can be taken. -/
theorem Defender.exists_takeLife (hd : Defender p g s) (hlife : s.life = c :: rest) :
    ∃ h, g.moveCard c.id c.afterDamage true = .ok h ∧
      h.toTable = (g.setSide (s.damaged 1)).toTable := by
  have hc : ∀ d ∈ [c], d ∈ s.cards .life := fun d hmem => by
    rw [List.mem_singleton.1 hmem, Side.cards, hlife]
    exact List.mem_cons_self
  have hplace : c.afterDamage ∈ Zone.ofCards ∧ ¬c.afterDamage.isField := by
    unfold Card.afterDamage
    split <;> decide
  -- a single move is a run of moves as well
  obtain ⟨h, hm, hshift⟩ := exists_moveCards_own .life c.afterDamage hd.toDistinct hd.side
    (by decide) hplace.1 (by decide) hplace.2 (by simp) hc fun d hmem => hd.owners d (hc d hmem)
  refine ⟨h, ?_, hshift.toTable_eq hd.seatsOnce (hd.shifts_damaged hlife)⟩
  obtain ⟨k, hk, hm⟩ := ok_of_bind hm
  cases hm
  exact hk

/-- Damage to a player, point by point, is one hit. -/
theorem Defender.exists_dealDamage (hd : Defender p g s) (n : Nat) :
    ∃ h, g.dealDamage p n = .ok h ∧ h.toTable = g.toTable.hit (p.hitBy n) := by
  induction n generalizing g s with
  | zero => exact ⟨g, rfl, by simp [Table.hit, Player.hitBy]⟩
  | succ n ih =>
    unfold dealDamage
    rw [side_eq_ok_iff.2 hd.side, ok_bind]
    cases hlife : s.life with
    | nil =>
      refine ⟨_, ?_, hd.toTable_setSide⟩
      rw [Side.damaged_of_nil hlife]
      dsimp only
      unfold setFlag
      rw [side_eq_ok_iff.2 hd.side]
      rfl
    | cons c rest =>
      obtain ⟨k, hk, hkt⟩ := hd.exists_takeLife hlife
      rw [hd.toTable_setSide] at hkt
      obtain ⟨h, hh, hht⟩ := ih (hd.hit (FieldStep.move hk).reaches.reaches hkt)
      refine ⟨h, ?_, ?_⟩
      · change (g.moveCard c.id c.afterDamage true >>= fun g => g.dealDamage p n) = _
        rw [hk, ok_bind, hh]
      · rw [hht, hkt, Table.hit_hit, Player.hitBy_add, Nat.add_comm]

/-- Of two hits to a player the first one leaves what one hit with its damage leaves, and both
together leave what one hit with the damage of both leaves. -/
theorem Defender.dealDamage_dealDamage (hd : Defender p g s) (m n : Nat) :
    ∃ h k once, g.dealDamage p m = .ok h ∧ h.toTable = (g.setSide (s.damaged m)).toTable ∧
      h.dealDamage p n = .ok k ∧ g.dealDamage p (m + n) = .ok once ∧ k.toTable = once.toTable := by
  obtain ⟨h, hh, hht⟩ := hd.exists_dealDamage m
  obtain ⟨k, hk, hkt⟩ :=
    (hd.hit (fieldReaches_dealDamage hh).reaches hht).exists_dealDamage n
  obtain ⟨once, ho, hot⟩ := hd.exists_dealDamage (m + n)
  refine ⟨h, k, once, hh, hht.trans hd.toTable_setSide.symm, hk, ho, ?_⟩
  rw [hkt, hht, hot, Table.hit_hit, Player.hitBy_add]

end Game

/-- Whether damage to a target hurts a player: the target is that player, or the name of a leader
that they control and that says it lies in a leader area. -/
def Target.hurts (g : Game) (p : Player) : Target → Bool
  | .player q => q == some p
  | .card (some id) => id != "" && g.cards.any fun c =>
      c.id == id && c.face.category == .leader && c.zone == .leaderArea && c.controller == p
  | _ => false

namespace Resolver

variable {g : Game} {p : Player} {i : Invocation} {n : Nat} {v : Int} {bonus : DonBonus}

theorem hitPlayer?_eq_some_iff (hg : g.Distinct) (hp : p ∈ g.seats) {t : Target} :
    hitPlayer? g t = some p ↔ t.hurts g p := by
  cases t with
  | player q =>
    cases q with
    | none => simp [hitPlayer?, Target.hurts, Target.cardId?]
    | some q =>
      have hseat : (g.side? p).isSome := Game.isSome_side?_iff.2 hp
      by_cases hq : q = p
      · simp [hitPlayer?, Target.hurts, hq, hseat]
      · simp [hitPlayer?, Target.hurts, hq]
  | card id =>
    cases id with
    | none => simp [hitPlayer?, Target.hurts, Target.cardId?]
    | some id =>
      by_cases hid : id = ""
      · simp [hitPlayer?, Target.hurts, Target.cardId?, hid]
      · have hname : (Target.card (some id)).cardId? = some id := by simp [Target.cardId?, hid]
        have hany : Target.hurts g p (.card (some id)) ↔ ∃ c, g.card? id = some c ∧
            c.face.category = .leader ∧ c.zone = .leaderArea ∧ c.controller = p := by
          simp [Target.hurts, hid, Game.card?_eq_some_iff hg, and_assoc]
        rw [hany, hitPlayer?, hname, Option.bind_some]
        · cases hc : g.card? id with
          | none => simp
          | some c => simp [and_assoc]
        · rintro q ⟨⟩
  | zone z q => simp [hitPlayer?, Target.hurts, Target.cardId?]
  | value j => simp [hitPlayer?, Target.hurts, Target.cardId?]

/-- Each player is hit once for each target that hurts them. -/
theorem count_hitPlayers (hg : g.Distinct) (hp : p ∈ g.seats) (targets : List Target) :
    (targets.filterMap (hitPlayer? g)).count p = targets.countP (Target.hurts g p) := by
  rw [List.count, List.countP_filterMap]
  refine List.countP_congr fun t _ => ?_
  rw [← hitPlayer?_eq_some_iff hg hp]
  cases hitPlayer? g t <;> simp

/-- Hits to many players add up for each of them. -/
theorem exists_damageAll (hd : ∀ p, ∃ s, Game.Defender p g s) (n : Nat) (players : List Player) :
    ∃ h, damageAll n players g = .ok h ∧
      h.toTable = g.toTable.hit fun p => n * players.count p := by
  induction players generalizing g with
  | nil => exact ⟨g, rfl, by simp⟩
  | cons p rest ih =>
    obtain ⟨s, hs⟩ := hd p
    obtain ⟨k, hk, hkt⟩ := hs.exists_dealDamage n
    have hready : ∀ q, ∃ s, Game.Defender q k s := fun q => by
      obtain ⟨u, hu⟩ := hd q
      exact ⟨_, hu.hit (Game.fieldReaches_dealDamage hk).reaches hkt⟩
    obtain ⟨h, hh, hht⟩ := ih hready
    refine ⟨h, by rw [damageAll, hk, ok_bind, hh], ?_⟩
    rw [hht, hkt, Table.hit_hit]
    congr 1
    funext q
    by_cases hq : q = p
    · rw [hq, List.count_cons_self, Player.hitBy, if_pos rfl, Nat.mul_succ, Nat.add_comm]
    · rw [List.count_cons_of_ne (Ne.symm hq), Player.hitBy, if_neg hq, Nat.zero_add]

/-- What carries out damage. -/
theorem resolve_dealDamage (hk : i.ability.kind = .dealDamage)
    (hv : i.ability.parameters.value = some v) (hpos : 1 ≤ v) :
    (ResolverTable.standard bonus).resolve i g =
      Hosted.lift (damageAll v.toNat (i.targets.filterMap (hitPlayer? g)) g) := by
  have hr : (ResolverTable.standard bonus).get? i.ability.kind = some .dealDamage := by
    rw [hk]; rfl
  refine (ResolverTable.resolve_of_get? hr rfl).trans (congrArg Hosted.lift ?_)
  dsimp only
  rw [hv, Option.getD_some, if_neg (by omega)]

end Resolver

/-- **Damage, exactly.** Damage to a player who owns their life cards takes the first ones, and two
hits do what one does with the damage of both. If both players own their life cards, a use of
damage does to each of them what one hit does with the damage of all targets that hurt them, and it
does nothing else. -/
theorem damage_exact {g : Game} (bonus : DonBonus) (hg : g.Distinct) :
    (∀ p s, g.side? p = some s → (∀ c ∈ s.life, c.owner = p) → ∀ m n : Nat,
      ∃ h k once, g.dealDamage p m = .ok h ∧ h.toTable = (g.setSide (s.damaged m)).toTable ∧
        h.dealDamage p n = .ok k ∧ g.dealDamage p (m + n) = .ok once ∧
        k.toTable = once.toTable) ∧
    ((∀ p, ∃ s, g.side? p = some s ∧ ∀ c ∈ s.life, c.owner = p) →
      ∀ (i : Invocation) (v : Int), i.ability.kind = .dealDamage →
      i.ability.parameters.value = some v → 1 ≤ v → ∀ journal,
      ∃ h, ((ResolverTable.standard bonus).resolve i g).outcome journal = (.ok h, journal) ∧
        h.toTable =
          g.toTable.hit (fun p => v.toNat * i.targets.countP (Target.hurts g p)) ∧
        ∀ p, ∃ once, g.dealDamage p (v.toNat * i.targets.countP (Target.hurts g p)) = .ok once ∧
          h.side? p = once.side? p) := by
  refine ⟨fun p s hs ho m n => (Game.Defender.mk hg hs ho).dealDamage_dealDamage m n,
    fun hall i v hk hv hpos journal => ?_⟩
  have hd : ∀ p, ∃ s, Game.Defender p g s := fun p => by
    obtain ⟨s, hs, ho⟩ := hall p
    exact ⟨s, hg, hs, ho⟩
  obtain ⟨h, hh, hht⟩ :=
    Resolver.exists_damageAll hd v.toNat (i.targets.filterMap (Resolver.hitPlayer? g))
  have hcount : (fun p => v.toNat * (i.targets.filterMap (Resolver.hitPlayer? g)).count p) =
      fun p => v.toNat * i.targets.countP (Target.hurts g p) := by
    funext p
    obtain ⟨s, hs⟩ := hd p
    rw [Resolver.count_hitPlayers hg (Game.isSome_side?_iff.1 (by rw [hs.side]; rfl))]
  rw [hcount] at hht
  refine ⟨h, ?_, hht, fun p => ?_⟩
  · rw [Resolver.resolve_dealDamage hk hv hpos, Hosted.outcome_lift, hh]
  · obtain ⟨s, hs⟩ := hd p
    obtain ⟨once, ho, hot⟩ :=
      hs.exists_dealDamage (v.toNat * i.targets.countP (Target.hurts g p))
    refine ⟨once, ho, ?_⟩
    rw [Game.side?_hit hht, Game.side?_hit hot, Player.hitBy, if_pos rfl]

/-- A leader of the second player. -/
def boss : Card :=
  { Game.member "boss" .leaderArea .active with
    face := { (Game.member "boss" .leaderArea .active).face with category := .leader }
    owner := .two
    controller := .two }

/-- A life card of the second player. -/
def guard (id : String) : Card :=
  { Game.member id .life .none with owner := .two, controller := .two }

/-- The second player has a leader and two life cards, of which the second has been given the
keyword Trigger. -/
def siege (leader : Card) : Game where
  sides := [
    { Game.openingSide with life := [Game.member "l0" .life .none] },
    { player := .two
      leader := some leader
      life := [guard "l1", { guard "l2" with
        modifiers := [⟨.keyword, .word "TRIGGER", .permanent, "c1"⟩] }] }]

/-- The first player deals two points of damage to each target. -/
def besieging (targets : List Target) : Invocation where
  ability := { (default : Ability) with kind := .dealDamage, parameters := { value := some 2 } }
  sourceId := "c1"
  controller := .one
  targets := targets

/-- The player and their leader are both targets, which is four points of damage to a player with
two life cards. -/
theorem damage_exact_siege :
    (siege boss).Distinct ∧
    (∀ p, ∃ s, (siege boss).side? p = some s ∧ ∀ c ∈ s.life, c.owner = p) ∧
    ∃ h t, ((ResolverTable.standard ⟨none, 1000⟩).resolve
        (besieging [.card (some "boss"), .player (some .two)]) (siege boss)).outcome [] =
          (.ok h, []) ∧
      h.side? .two = some t ∧ t.life.map (·.id) = [] ∧ t.hand.map (·.id) = ["l1"] ∧
      t.trash.map (·.id) = ["l2"] ∧ t.flags.lookup "defeated" = some (.bool true) ∧
      ∃ h k once, (siege boss).dealDamage .two 1 = .ok h ∧ h.dealDamage .two 3 = .ok k ∧
        (siege boss).dealDamage .two 4 = .ok once ∧ k.toTable = once.toTable := by
  have hg : (siege boss).Distinct := ⟨by decide, by decide⟩
  have hall : ∀ p, ∃ s, (siege boss).side? p = some s ∧ ∀ c ∈ s.life, c.owner = p := fun p => by
    cases p <;> exact ⟨_, rfl, by decide⟩
  obtain ⟨hadd, huse⟩ := damage_exact ⟨none, 1000⟩ hg
  obtain ⟨h, hh, hht, -⟩ := huse hall
    (besieging [.card (some "boss"), .player (some .two)]) 2 rfl rfl (by decide) []
  obtain ⟨s, hs, ho⟩ := hall .two
  obtain ⟨k₁, k₂, once, hk₁, -, hk₂, honce, hsame⟩ := hadd .two s hs ho 1 3
  refine ⟨hg, hall, h, _, hh, Game.side?_hit hht, ?_, ?_, ?_,
    Side.lookup_flags_damaged.trans (if_pos ⟨rfl, ?_⟩), k₁, k₂, once, hk₁, hk₂, honce, hsame⟩
  all_goals decide +kernel

/-- A leader that the second player controls lies in the leader area and is a target, and damage
changes nothing, while a hit to that player would cost life cards. -/
structure Overlooked (leader : Card) : Prop where
  distinct : (siege leader).Distinct
  owners : ∀ p, ∃ s, (siege leader).side? p = some s ∧ ∀ c ∈ s.life, c.owner = p
  lies : (siege leader).locate? leader.id = some ⟨.two, .leaderArea, leader⟩
  leads : leader.face.category = .leader ∧ leader.controller = .two
  unhurt : ((ResolverTable.standard ⟨none, 1000⟩).resolve (besieging [.card (some leader.id)])
    (siege leader)).outcome [] = (.ok (siege leader), [])
  owed : ((siege leader).dealDamage .two 2).toOption.map (·.sides.map (·.life.length)) ≠
    some ((siege leader).sides.map (·.life.length))

/-- A leader that has no name is not hit, though the target is the empty name, and neither is one
that says it lies elsewhere. -/
theorem disguised_leader_unhurt :
    Overlooked { boss with id := "" } ∧ Overlooked { boss with zone := .hand } := by
  constructor
  all_goals
    refine ⟨⟨by decide, by decide⟩, fun p => ?_, rfl, ⟨rfl, rfl⟩, rfl, by decide +kernel⟩
    cases p <;> exact ⟨_, rfl, by decide⟩

end CardRules
