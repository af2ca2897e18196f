import CardRules.Proofs.Game.DonPool
import CardRules.Proofs.Game.Places

/-!
# Changes on request

A host may ask for any `Change` of a game, on any card and with any amount; a change that is refused
leaves the game as it was. Nothing keeps a host from giving DON!! to a card off the field, and such
a card loses them when it goes to another zone off the field: there the card arrives without DON!!,
and only a card that leaves the field sends them back. `Change.lost` are the DON!! that one change
loses, `lostAlong` those of a run.

All other DON!! stay in the game, each of them once (`LosesDon.after`), and where DON!! are given on
the field only, none is lost (`BareOffField.lostAlong`).
-/

namespace CardRules.Game

variable {g h k : Game} {id : String}

/-- Something that a host asks for. -/
inductive Change where
  | move (id : String) (dest : Zone) (toBottom : Bool)
  | give (p : Player) (id : String) (amount : Int)
  | rest (p : Player) (amount : Int)
  | modify (id : String) (m : Modifier)
  | flag (p : Player) (key : String) (value : Json)
  | turn (id : String) (o : Orientation)

namespace Change

def apply : Change → Game → Except Fault Game
  | move id dest toBottom, g => g.moveCard id dest toBottom
  | give p id amount, g => (g.attachDon p id amount).map (·.1)
  | rest p amount, g => g.restDon p amount
  | modify id m, g => g.addModifier id m
  | flag p key value, g => g.setFlag p key value
  | turn id o, g => g.updateCard id fun c => { c with orientation := o }

/-- The game after a change, or as it was if the change is refused. -/
def after (c : Change) (g : Game) : Game :=
  match c.apply g with
  | .ok h => h
  | .error _ => g

/-- The DON!! that a change loses. -/
def lost (c : Change) (g : Game) : List Don :=
  match c, c.apply g with
  | move id dest _, .ok _ => ((g.locate? id).map (·.lostDon dest)).getD []
  | _, _ => []

end Change

/-- The game after changes, one after the other. -/
def afterAll : List Change → Game → Game
  | [], g => g
  | c :: rest, g => afterAll rest (c.after g)

/-- The DON!! that are lost along a run of changes. -/
def lostAlong : List Change → Game → List Don
  | [], _ => []
  | c :: rest, g => c.lost g ++ lostAlong rest (c.after g)

/-! ## Accounts -/

/-- The ids of all DON!!: in DON!! decks, in cost areas and on cards. -/
def donIds (g : Game) : List String := (g.donDecks.flatMap (·.2) ++ g.dons).map (·.id)

/-- The same DON!! decks, and the same DON!! in play but for those that are lost. -/
structure LosesDon (g h : Game) (gone : List Don) : Prop where
  decks : h.donDecks = g.donDecks
  inPlay : ((h.dons ++ gone).map Don.identity).Perm (g.dons.map Don.identity)

variable {gone more : List Don}

theorem SameDon.losesNone (h₁ : SameDon g h) : LosesDon g h [] :=
  ⟨h₁.decks, by simpa using h₁.inPlay⟩

theorem LosesDon.trans (h₁ : LosesDon g h gone) (h₂ : LosesDon h k more) :
    LosesDon g k (gone ++ more) := by
  refine ⟨h₂.decks.trans h₁.decks, ?_⟩
  have hmore := h₂.inPlay.append_right (gone.map Don.identity)
  rw [← List.map_append, ← List.map_append] at hmore
  have hswap : (k.dons ++ (gone ++ more)).Perm (k.dons ++ more ++ gone) := by
    rw [List.append_assoc]
    exact List.perm_append_comm.append_left _
  exact (hswap.map _).trans (hmore.trans h₁.inPlay)

/-- What is there and what is lost makes up what was there. -/
theorem LosesDon.donIds (h₁ : LosesDon g h gone) :
    (h.donIds ++ gone.map (·.id)).Perm g.donIds := by
  have hplay := h₁.inPlay.map (·.1)
  simp only [List.map_map] at hplay
  have hids : ((h.dons ++ gone).map (·.id)).Perm (g.dons.map (·.id)) := hplay
  unfold Game.donIds
  rw [h₁.decks, List.map_append, List.map_append, List.append_assoc, ← List.map_append]
  exact hids.append_left _

theorem LosesDon.nodup (h₁ : LosesDon g h gone) (hd : g.donIds.Nodup) : h.donIds.Nodup :=
  (h₁.donIds.nodup_iff.2 hd).of_append_left

theorem nodup_dons (hd : g.donIds.Nodup) : (g.dons.map (·.id)).Nodup := by
  rw [donIds, List.map_append] at hd
  exact hd.of_append_right

/-! ## One change -/

theorem Change.attachDon_of_give {p : Player} {amount : Int}
    (h₁ : (give p id amount).apply g = .ok h) : ∃ n, g.attachDon p id amount = .ok (h, n) := by
  obtain ⟨⟨k, n⟩, hk, rfl⟩ := ok_of_map h₁
  exact ⟨n, hk⟩

theorem Change.sameRoster_apply {c : Change} (hg : g.Distinct) (h₁ : c.apply g = .ok h) :
    SameRoster g h := by
  cases c with
  | move id dest toBottom => exact sameRoster_moveCard hg h₁
  | give p id amount =>
    obtain ⟨n, h₁⟩ := attachDon_of_give h₁
    exact sameRoster_attachDon hg h₁
  | rest p amount => exact sameRoster_restDon hg h₁
  | modify id m => exact sameRoster_addModifier hg h₁
  | flag p key value => exact sameRoster_setFlag hg h₁
  | turn id o =>
    exact sameRoster_updateCard (f := fun c => { c with orientation := o }) hg (fun _ => rfl) h₁

theorem LosesDon.apply {c : Change} (hg : g.Distinct) (hd : g.donIds.Nodup)
    (h₁ : c.apply g = .ok h) : LosesDon g h (c.lost g) := by
  cases c with
  | move id dest toBottom =>
    obtain ⟨found, hl, hdecks, hdons⟩ := dons_moveCard hg h₁
    have hlost : (Change.move id dest toBottom).lost g = found.lostDon dest := by
      unfold Change.lost
      rw [h₁]
      simp [hl]
    rw [hlost]
    exact ⟨hdecks, hdons⟩
  | give p id amount =>
    obtain ⟨n, h₁⟩ := Change.attachDon_of_give h₁
    exact (sameDon_attachDon hg (nodup_dons hd) h₁).losesNone
  | rest p amount => exact (sameDon_restDon hg.seatsOnce h₁).losesNone
  | modify id m =>
    have hkept := sameDon_updateCard (f := fun c => { c with modifiers := c.modifiers ++ [m] }) hg
      (fun _ => rfl) h₁
    exact hkept.losesNone
  | flag p key value =>
    obtain ⟨s, hs, rfl⟩ := setFlag_cases h₁
    have hkept := sameDon_setSide (t := { s with flags := Json.setField key value s.flags })
      hg.seatsOnce (side?_player (s := s) hs) rfl rfl rfl
    exact hkept.losesNone
  | turn id o =>
    have hkept :=
      sameDon_updateCard (f := fun c => { c with orientation := o }) hg (fun _ => rfl) h₁
    exact hkept.losesNone

/-- A change is made, or it is refused and loses nothing. -/
theorem Change.after_cases (c : Change) (g : Game) :
    c.apply g = .ok (c.after g) ∨ (c.after g = g ∧ c.lost g = []) := by
  unfold after lost
  cases h₁ : c.apply g with
  | ok h => exact .inl rfl
  | error f => exact .inr ⟨rfl, by cases c <;> rfl⟩

theorem Change.sameRoster_after (c : Change) (hg : g.Distinct) : SameRoster g (c.after g) := by
  rcases c.after_cases g with h₁ | ⟨hsame, -⟩
  · exact sameRoster_apply hg h₁
  · rw [hsame]
    exact .refl g

theorem LosesDon.after (c : Change) (hg : g.Distinct) (hd : g.donIds.Nodup) :
    LosesDon g (c.after g) (c.lost g) := by
  rcases c.after_cases g with h₁ | ⟨hsame, hnone⟩
  · exact .apply hg hd h₁
  · rw [hsame, hnone]
    exact (SameDon.refl g).losesNone

/-! ## Runs -/

/-- A run loses what its changes lose. -/
theorem losesDon_afterAll (changes : List Change) (hg : g.Distinct) (hd : g.donIds.Nodup) :
    LosesDon g (afterAll changes g) (lostAlong changes g) := by
  induction changes generalizing g with
  | nil => exact (SameDon.refl g).losesNone
  | cons c rest ih =>
    have hfirst := LosesDon.after c hg hd
    have hrest := ih (hg.of_sameRoster (c.sameRoster_after hg)) (hfirst.nodup hd)
    exact hfirst.trans hrest

/-! ## DON!! on the field only -/

/-- No card off the field bears DON!!. -/
def BareOffField (g : Game) : Prop :=
  ∀ q ∈ g.placed, ¬q.zone.isField → q.card.givenDon = []

/-- DON!! are given only to cards that lie on the field at that time. -/
def GivesOnField : List Change → Game → Prop
  | [], _ => True
  | c :: rest, g =>
    (∀ p id amount, c = .give p id amount → g.isOnField id) ∧ GivesOnField rest (c.after g)

theorem BareOffField.of_placed (hb : g.BareOffField) (h₁ : h.placed = g.placed) :
    h.BareOffField := by
  unfold BareOffField
  rw [h₁]
  exact hb

theorem BareOffField.updateCard {f : Card → Card} (hb : g.BareOffField) (hg : g.Distinct)
    (hf : ∀ found, g.locate? id = some found → ¬found.zone.isField →
      (f found.card).givenDon = found.card.givenDon)
    (h₁ : g.updateCard id f = .ok h) : h.BareOffField := by
  obtain ⟨found, hl, hplaced⟩ := mem_placed_updateCard hg h₁
  have hfound := ((locate?_eq_some_iff hg).1 hl).1
  intro q hq hoff
  rcases (hplaced q).1 hq with rfl | ⟨hq, -⟩
  · exact (hf found hl hoff).trans (hb found hfound hoff)
  · exact hb q hq hoff

theorem BareOffField.moveCard {dest : Zone} {toBottom : Bool} (hb : g.BareOffField)
    (hg : g.Distinct) (h₁ : g.moveCard id dest toBottom = .ok h) : h.BareOffField := by
  obtain ⟨found, -, hplaced⟩ := mem_placed_moveCard hg h₁
  intro q hq hoff
  rcases (hplaced q).1 hq with rfl | ⟨hq, -⟩
  · have hdest : ¬dest.isField := hoff
    simp [Placed.landing, arriving, hdest]
  · exact hb q hq hoff

theorem BareOffField.attachDon {p : Player} {amount : Int} {n : Nat} (hb : g.BareOffField)
    (hg : g.Distinct) (hfield : g.isOnField id) (h₁ : g.attachDon p id amount = .ok (h, n)) :
    h.BareOffField := by
  obtain rfl | ⟨s, chosen, hs, -, hk⟩ := attachDon_cases h₁
  · exact hb
  · have hseat : g.side? (s.spend chosen).player = some s := side?_player hs
    have hplaced : (g.setSide (s.spend chosen)).placed = g.placed :=
      placed_setSide hg.seatsOnce hseat fun _ => rfl
    have hspent := hg.of_sameRoster (sameRoster_setSide (t := s.spend chosen) hg hs rfl rfl)
    refine (hb.of_placed hplaced).updateCard hspent (fun found hl hoff => absurd ?_ hoff) hk
    obtain ⟨found', hl', hzone⟩ := isOnField_iff.1 hfield
    rw [locate?, hplaced] at hl
    rw [locate?, hl] at hl'
    cases hl'
    exact hzone

theorem BareOffField.apply {c : Change} (hb : g.BareOffField) (hg : g.Distinct)
    (hgive : ∀ p id amount, c = .give p id amount → g.isOnField id) (h₁ : c.apply g = .ok h) :
    h.BareOffField := by
  cases c with
  | move id dest toBottom => exact hb.moveCard hg h₁
  | give p id amount =>
    obtain ⟨n, h₁⟩ := Change.attachDon_of_give h₁
    exact hb.attachDon hg (hgive p id amount rfl) h₁
  | rest p amount =>
    obtain ⟨s, ids, hs, rfl⟩ := restDon_cases h₁
    have hseat : g.side? (s.rest ids).player = some s := side?_player hs
    exact hb.of_placed (placed_setSide hg.seatsOnce hseat fun _ => rfl)
  | modify id m =>
    exact hb.updateCard (f := fun c => { c with modifiers := c.modifiers ++ [m] }) hg
      (fun _ _ _ => rfl) h₁
  | flag p key value =>
    obtain ⟨s, hs, rfl⟩ := setFlag_cases h₁
    exact hb.of_placed (placed_setSide (t := { s with flags := Json.setField key value s.flags })
      hg.seatsOnce (side?_player (s := s) hs) fun _ => rfl)
  | turn id o =>
    exact hb.updateCard (f := fun c => { c with orientation := o }) hg (fun _ _ _ => rfl) h₁

theorem BareOffField.lost (hb : g.BareOffField) (hg : g.Distinct) (c : Change) :
    c.lost g = [] := by
  unfold Change.lost
  split
  · rename_i id dest toBottom h hk
    cases hl : g.locate? id with
    | none => rfl
    | some found =>
      have hfound := ((locate?_eq_some_iff hg).1 hl).1
      by_cases ho : found.zone.isField
      · simp [Placed.lostDon, ho]
      · simp [Placed.lostDon, hb found hfound ho]
  · rfl

theorem BareOffField.lostAlong {changes : List Change} (hb : g.BareOffField) (hg : g.Distinct)
    (hgives : GivesOnField changes g) : lostAlong changes g = [] := by
  induction changes generalizing g with
  | nil => rfl
  | cons c rest ih =>
    obtain ⟨hgive, hrest⟩ := hgives
    have hafter : (c.after g).BareOffField := by
      rcases c.after_cases g with h₁ | ⟨hsame, -⟩
      · exact hb.apply hg hgive h₁
      · rwa [hsame]
    have hdistinct := hg.of_sameRoster (c.sameRoster_after hg)
    rw [Game.lostAlong, hb.lost hg c, ih hafter hdistinct hrest, List.append_nil]

/-- Whatever is asked for, each DON!! that is there was there before and is there once, and all that
were there are there but for those that a card bore from one zone off the field to another. So all
are kept if and only if there are none of these; and there are none if DON!! lie on the field only
and are given there only. -/
theorem dons_kept_or_lost (changes : List Change) (hg : g.Sound) (hd : g.donIds.Nodup) :
    (afterAll changes g).donIds.Nodup ∧
    ((afterAll changes g).donIds ++ (lostAlong changes g).map (·.id)).Perm g.donIds ∧
    ((afterAll changes g).donIds.Perm g.donIds ↔ lostAlong changes g = []) ∧
    (g.BareOffField → GivesOnField changes g → lostAlong changes g = []) := by
  have hloses := losesDon_afterAll changes hg.toDistinct hd
  have haccount := hloses.donIds
  refine ⟨hloses.nodup hd, haccount, ⟨fun hkept => ?_, fun hnone => ?_⟩, fun hb =>
    hb.lostAlong hg.toDistinct⟩
  · have hlength := haccount.length_eq
    rw [List.length_append, hkept.length_eq, List.length_map] at hlength
    exact List.eq_nil_of_length_eq_zero (by omega)
  · rwa [hnone, List.map_nil, List.append_nil] at haccount

/-- A character gets a DON!! and goes back to the hand, and a card of the hand goes to the trash. -/
def returning : List Change :=
  [.give .one "c1" 1, .move "c1" .hand true, .move "h1" .trash true]

theorem dons_kept_or_lost_returning : opening.Sound ∧ opening.donIds.Nodup ∧
    (afterAll returning opening).donIds.Perm ["don1", "don2"] := by
  have hd : opening.donIds.Nodup := by decide
  have hkept := dons_kept_or_lost returning sound_opening hd
  refine ⟨sound_opening, hd, hkept.2.2.1.2 (hkept.2.2.2 ?_ ?_)⟩
  · unfold BareOffField
    decide
  · refine ⟨?_, ?_, ?_, trivial⟩
    · rintro p id amount ⟨⟩
      decide
    · rintro p id amount ⟨⟩
    · rintro p id amount ⟨⟩

/-- A card of the hand gets a DON!! and goes to the trash: the DON!! is gone. -/
theorem don_lost_off_field : ¬∀ (g : Game) (changes : List Change), g.Sound → g.donIds.Nodup →
    (afterAll changes g).donIds.Perm g.donIds := by
  intro hclaim
  have hkept := hclaim opening [.give .one "h1" 1, .move "h1" .trash true] sound_opening (by decide)
  have hlength := hkept.length_eq
  revert hlength
  decide

end CardRules.Game
