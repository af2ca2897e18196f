import CardRules.Proofs.Game.Roster
import CardRules.Target.Matching

/-!
# What a match means

A target filter judges a card as it stands in the game, search criteria judge it by what is printed
on it. `TargetFilter.Describes` and `SearchCriteria.Describes` say what each of them asks for, field
by field (`Card.fits_iff`, `Card.meets_iff`). Criteria ask for what the filter of the same fields
asks for of the bare card, without DON!! and with keywords as its only modifiers
(`Card.meets_eq_bare_fits`), so the two agree on a card that is bare (`Card.meets_eq_fits`).
-/

namespace CardRules

theorem isEmpty_or_iff {α : Type} {xs : List α} {b : Bool} :
    (xs.isEmpty || b) ↔ (xs ≠ [] → b) := by
  rw [Bool.or_eq_true, List.isEmpty_iff, or_iff_not_imp_left]

/-- Two lists have a word in common, in any letter case. -/
def ShareWord (xs ys : List String) : Prop :=
  ∃ x ∈ xs, ∃ y ∈ ys, Text.lower x = Text.lower y

theorem sharesWord_iff {xs ys : List String} : sharesWord xs ys ↔ ShareWord xs ys := by
  simp [sharesWord, ShareWord]

/-- The number keeps to each bound that is set. -/
structure Bounds.Spans (b : Bounds) (n : Int) : Prop where
  exact : ∀ m ∈ b.exact, n = m
  min : ∀ m ∈ b.min, m ≤ n
  max : ∀ m ∈ b.max, n ≤ m

theorem Bounds.contains_iff {b : Bounds} {n : Int} : b.contains n ↔ b.Spans n := by
  simp only [contains, Bool.and_eq_true, Option.all_eq_true, beq_iff_eq, decide_eq_true_eq]
  exact ⟨fun h => ⟨h.1.1, h.1.2, h.2⟩, fun h => ⟨⟨h.exact, h.min⟩, h.max⟩⟩

/-- What a filter asks for of a card in a game; a field that is empty or unset asks for nothing. -/
structure TargetFilter.Describes (f : TargetFilter) (bonus : DonBonus) (test : CardTest) (g : Game)
    (c : Card) : Prop where
  category : f.category ≠ [] → c.face.category ∈ f.category
  color : f.color ≠ [] → ShareWord (f.color.map (·.name)) c.face.colors
  cost : ∀ range ∈ f.costRange, range.Spans c.cost
  power : ∀ range ∈ f.powerRange, range.Spans (g.effectivePower bonus c)
  state : f.state ≠ [] → c.orientation ∈ f.state
  hasKeyword : ∀ keyword ∈ f.hasKeyword, c.hasKeyword keyword
  lacksKeyword : ∀ keyword ∈ f.lacksKeyword, ¬c.hasKeyword keyword
  typeTags : f.typeTags ≠ [] → ShareWord f.typeTags c.face.typeTags
  attributes : f.attributes ≠ [] → ShareWord f.attributes c.face.attributes
  only : ∀ ids ∈ f.only, test ids c.id g = .ok true

/-- What search criteria ask for of a card. -/
structure SearchCriteria.Describes (criteria : SearchCriteria) (c : Card) : Prop where
  category : criteria.category ≠ [] → c.face.category ∈ criteria.category
  color : criteria.color ≠ [] → ShareWord (criteria.color.map (·.name)) c.face.colors
  cost : ∀ range ∈ criteria.cost, range.Spans c.face.printedCost
  power : ∀ range ∈ criteria.power, range.Spans c.face.printedPower
  typeTags : criteria.typeTags ≠ [] → ShareWord criteria.typeTags c.face.typeTags
  attributes : criteria.attributes ≠ [] → ShareWord criteria.attributes c.face.attributes
  keywords : ∀ keyword ∈ criteria.keywords, c.hasKeyword keyword
  nameContains : ∀ part ∈ criteria.nameContains,
    (Text.lower part).toList <:+: (Text.lower c.face.name).toList

/-- The filter with the fields of search criteria. -/
def SearchCriteria.asFilter (criteria : SearchCriteria) : TargetFilter where
  category := criteria.category
  color := criteria.color
  costRange := criteria.cost
  powerRange := criteria.power
  hasKeyword := criteria.keywords
  typeTags := criteria.typeTags
  attributes := criteria.attributes

namespace Card

variable {g : Game} {bonus : DonBonus} {test : CardTest} {f : TargetFilter}
  {criteria : SearchCriteria} {c : Card}

/-- A card fits a filter when it is judged so, and not when the host's test fails. -/
theorem fits_iff_judge : c.fits g bonus test f ↔ c.judge g bonus test f = .ok true := by
  unfold fits
  cases c.judge g bonus test f with
  | error text => simp
  | ok b => simp

theorem testFault?_eq_none_iff {cards : List Card} :
    testFault? g bonus test f cards = none ↔ ∀ c ∈ cards, ∃ b, c.judge g bonus test f = .ok b := by
  rw [testFault?, List.findSome?_eq_none_iff]
  refine forall₂_congr fun c _ => ?_
  cases c.judge g bonus test f <;> simp

/-- A card fits a filter when it suits it in all else and passes the host's test. -/
theorem fits_iff_suits : c.fits g bonus test f ↔
    c.suits g bonus f ∧ ∀ ids ∈ f.only, test ids c.id g = .ok true := by
  rw [fits_iff_judge, judge]
  by_cases hs : c.suits g bonus f
  · cases f.only <;> simp [hs]
  · simp [hs]

theorem fits_iff : c.fits g bonus test f ↔ f.Describes bonus test g c := by
  simp only [fits_iff_suits, suits, Bool.and_eq_true, isEmpty_or_iff, sharesWord_iff,
    List.contains_iff_mem, Option.all_eq_true, Bounds.contains_iff, List.all_eq_true,
    Bool.not_eq_true', List.any_eq_false]
  constructor
  · rintro ⟨⟨⟨⟨⟨⟨⟨⟨⟨hcategory, hcolor⟩, hcost⟩, hpower⟩, hstate⟩, hhas⟩, hlacks⟩, htags⟩,
      hattributes⟩, honly⟩
    exact ⟨hcategory, hcolor, hcost, hpower, hstate, hhas, hlacks, htags, hattributes, honly⟩
  · rintro ⟨hcategory, hcolor, hcost, hpower, hstate, hhas, hlacks, htags, hattributes, honly⟩
    exact ⟨⟨⟨⟨⟨⟨⟨⟨⟨hcategory, hcolor⟩, hcost⟩, hpower⟩, hstate⟩, hhas⟩, hlacks⟩, htags⟩,
      hattributes⟩, honly⟩

theorem meets_iff : c.meets criteria ↔ criteria.Describes c := by
  simp only [meets, Bool.and_eq_true, isEmpty_or_iff, sharesWord_iff, List.contains_iff_mem,
    Option.all_eq_true, Bounds.contains_iff, List.all_eq_true, Text.contains_iff_isInfix]
  constructor
  · rintro ⟨⟨⟨⟨⟨⟨⟨hcategory, hcolor⟩, hcost⟩, hpower⟩, htags⟩, hattributes⟩, hkeywords⟩, hname⟩
    exact ⟨hcategory, hcolor, hcost, hpower, htags, hattributes, hkeywords, hname⟩
  · rintro ⟨hcategory, hcolor, hcost, hpower, htags, hattributes, hkeywords, hname⟩
    exact ⟨⟨⟨⟨⟨⟨⟨hcategory, hcolor⟩, hcost⟩, hpower⟩, htags⟩, hattributes⟩, hkeywords⟩, hname⟩

/-! ## Bare cards -/

/-- The card without DON!!, with the keywords it was given as its only modifiers. -/
def bare (c : Card) : Card :=
  { c with modifiers := c.modifiers.filter (·.kind == .keyword), givenDon := [] }

theorem bare_of_plain (hm : c.modifiers = []) (hd : c.givenDon = []) : c.bare = c := by
  unfold bare
  rw [hm, List.filter_nil, ← hm, ← hd]

/-- A card counts modifiers of the kind that is asked for only. -/
theorem modified_bare {kind : ModifierKind} (hk : kind ≠ .keyword) : c.bare.modified kind = 0 := by
  have hzero : ∀ ms : List Modifier, (∀ m ∈ ms, m.kind = .keyword) →
      ms.foldr (fun m sum => m.amountFor kind + sum) 0 = 0 := by
    intro ms hms
    induction ms with
    | nil => rfl
    | cons m rest ih =>
      have hother : m.kind ≠ kind := fun h => hk (h.symm.trans (hms m List.mem_cons_self))
      have hnone : m.amountFor kind = 0 := by
        unfold Modifier.amountFor
        split <;> simp [hother]
      rw [List.foldr_cons, hnone, ih fun n hn => hms n (List.mem_cons_of_mem m hn), Int.add_zero]
  exact hzero _ fun m hm => by simpa using (List.mem_filter.1 hm).2

theorem cost_bare : c.bare.cost = c.face.printedCost := by
  rw [cost, modified_bare (by decide), Int.add_zero]
  rfl

theorem effectivePower_bare : g.effectivePower bonus c.bare = c.face.printedPower := by
  have hpower : c.bare.power = c.face.printedPower := by
    rw [power, modified_bare (by decide), Int.add_zero]
    rfl
  rw [Game.effectivePower, hpower]
  rfl

theorem hasKeyword_bare (keyword : String) : c.bare.hasKeyword keyword = c.hasKeyword keyword := by
  have hgranted : c.bare.modifiers.filterMap (·.grantedKeyword?) =
      c.modifiers.filterMap (·.grantedKeyword?) := by
    rw [bare, List.filterMap_filter]
    refine List.filterMap_congr fun m _ => ?_
    unfold Modifier.grantedKeyword?
    cases m.kind <;> rfl
  rw [hasKeyword, hasKeyword, keywords, keywords, hgranted]
  rfl

/-- Search criteria ask for what their filter asks for of the bare card, and for the name. -/
theorem meets_iff_bare_fits (g : Game) (bonus : DonBonus) (test : CardTest) : c.meets criteria ↔
    c.bare.fits g bonus test criteria.asFilter ∧ ∀ part ∈ criteria.nameContains,
      (Text.lower part).toList <:+: (Text.lower c.face.name).toList := by
  rw [meets_iff, fits_iff]
  constructor
  · intro h
    refine ⟨⟨h.category, h.color, ?_, ?_, fun hn => absurd rfl hn, fun keyword hk => ?_, ?_,
      h.typeTags, h.attributes, ?_⟩, h.nameContains⟩
    · rw [cost_bare]
      exact h.cost
    · rw [effectivePower_bare]
      exact h.power
    · rw [hasKeyword_bare]
      exact h.keywords keyword hk
    · rintro _ ⟨⟩
    · rintro _ ⟨⟩
  · rintro ⟨h, hname⟩
    refine ⟨h.category, h.color, ?_, ?_, h.typeTags, h.attributes, fun keyword hk => ?_, hname⟩
    · have hcost := h.cost
      rwa [cost_bare] at hcost
    · have hpower := h.power
      rwa [effectivePower_bare] at hpower
    · rw [← hasKeyword_bare]
      exact h.hasKeyword keyword hk

/-- **A search and a target filter agree on plain cards.** A card without modifiers and DON!! meets
search criteria that leave the name open exactly when it fits the filter of the same fields, in
every game, with every bonus for DON!! and whatever the host's tests do. -/
theorem meets_eq_fits (g : Game) (bonus : DonBonus) (test : CardTest) (criteria : SearchCriteria)
    (hm : c.modifiers = []) (hd : c.givenDon = [])
    (hn : ∀ part ∈ criteria.nameContains, part = "") :
    c.meets criteria = c.fits g bonus test criteria.asFilter := by
  have hname : ∀ part ∈ criteria.nameContains,
      (Text.lower part).toList <:+: (Text.lower c.face.name).toList := fun part hp => by
    rw [hn part hp]
    exact List.nil_infix
  rw [Bool.eq_iff_iff, meets_iff_bare_fits g bonus test, bare_of_plain hm hd,
    and_iff_left hname]

/-- A character of cost two, and criteria that leave the name open with an empty text. -/
theorem meets_eq_fits_opening :
    (Game.member "c1" .characterArea .active).modifiers = [] ∧
    (Game.member "c1" .characterArea .active).givenDon = [] ∧
    (Game.member "c1" .characterArea .active).fits Game.opening ⟨none, 1000⟩ .written
      { category := [.character], costRange := some { min := some 1, max := some 2 } } := by
  have hagree := meets_eq_fits (c := Game.member "c1" .characterArea .active) Game.opening
    ⟨none, 1000⟩ .written
    { category := [.character], cost := some { min := some 1, max := some 2 },
      nameContains := some "" } rfl rfl fun part hp => (Option.mem_some.1 hp).symm
  exact ⟨rfl, rfl, hagree.symm.trans (by decide)⟩

end Card

end CardRules
