import CardRules.CardData.Lenience
import CardRules.Proofs.CardText.Recorded
import Mathlib.Data.List.DropRight

/-!
# Accepted card data

Whatever card data are accepted as keeps to the rules for what card data can say (`holds_condition`,
`holds_parameters`, `holds_face`), so it can be written as a record again, and reading that record
gives it back (`loading_lossless`). The abilities that a card has from its text are written among
those it lists.

`Checked.Holds` says that a value has a property if there is one. There is one lemma for each way
to put readers together; with these a reader of records gives what its fields give.
-/

namespace CardRules

namespace CardData

open Json Text

variable {lax : Lenience} {α β : Type} {P : α → Prop} {Q : β → Prop} {read : Json → Checked α}
  {c : Checked α} {j : Json} {name : String} {names : List String}

/-! ## Readers put together -/

/-- If there is a value, it has the property. -/
def Checked.Holds (P : α → Prop) (c : Checked α) : Prop := ∀ a, c = .valid a → P a

theorem Checked.Holds.imp {P' : α → Prop} (h : c.Holds P) (hP : ∀ a, P a → P' a) : c.Holds P' :=
  fun a ha => hP a (h a ha)

/-- Nothing is asked of the value. -/
theorem Checked.Holds.any : c.Holds fun _ => True := fun _ _ => trivial

theorem Checked.Holds.pure {a : α} : (pure a : Checked α).Holds (· = a) := by
  rintro b ⟨⟩
  rfl

theorem Checked.Holds.map {f : α → β} (h : c.Holds P) (hf : ∀ a, P a → Q (f a)) :
    Checked.Holds Q (f <$> c) := by
  intro b hb
  cases c with
  | invalid ps => cases hb
  | valid a =>
    cases hb
    exact hf a (h a rfl)

/-- A function that has the property on what it is applied to. -/
theorem Checked.Holds.seq {f : Checked (α → β)} (hf : f.Holds fun g => ∀ a, P a → Q (g a))
    (h : c.Holds P) : Checked.Holds Q (f <*> c) := by
  intro b hb
  obtain ⟨g, a, hg, ha, rfl⟩ := Checked.ap_eq_valid_iff.1 hb
  exact hf g hg a (h a ha)

theorem Checked.Holds.obeying {broken : α → Option String} (h : c.Holds P) :
    (c.obeying broken).Holds fun a => P a ∧ broken a = none := by
  intro a ha
  cases c with
  | invalid ps => cases ha
  | valid b =>
    cases hb : broken b with
    | some text =>
      rw [Checked.obeying, Checked.andThen, hb] at ha
      cases ha
    | none =>
      rw [Checked.obeying, Checked.andThen, hb] at ha
      cases ha
      exact ⟨h a rfl, hb⟩

theorem Checked.Holds.under {p : Place} (h : c.Holds P) : (c.under p).Holds P := by
  intro a ha
  cases c with
  | invalid ps => cases ha
  | valid b => exact h a ha

theorem Checked.Holds.model (h : c.Holds P) : (model names j c).Holds P := by
  intro a ha
  unfold CardData.model at ha
  split at ha
  · dsimp only at ha
    split at ha
    · exact h a ha
    · cases ha
    · cases ha
  · cases ha

theorem holds_field {default : α} (hd : P default) (h : ∀ j, (read j).Holds P) :
    (field j name default read).Holds P := by
  unfold field
  split
  · exact (h _).under
  · rintro a ⟨⟩
    exact hd

theorem holds_required (h : ∀ j, (read j).Holds P) : (required j name read).Holds P := by
  unfold required
  split
  · exact (h _).under
  · exact Checked.Holds.under (by rintro a ⟨⟩)

theorem holds_perhaps (h : ∀ j, (read j).Holds P) :
    (perhaps j name read).Holds fun x => ∀ a ∈ x, P a := by
  refine holds_field nofun fun j x hx => ?_
  unfold optional at hx
  split at hx
  · cases hx
    nofun
  · cases hread : read j with
    | invalid ps =>
      rw [hread] at hx
      cases hx
    | valid a =>
      rw [hread] at hx
      cases hx
      rintro b ⟨⟩
      exact h j a hread

theorem holds_list (h : ∀ j, (read j).Holds P) : (list read j).Holds fun xs => ∀ a ∈ xs, P a := by
  intro xs hxs
  unfold list at hxs
  split at hxs
  · rename_i items
    rw [Checked.all_eq_valid_iff] at hxs
    intro a ha
    have hmem : Checked.valid a ∈ xs.map Checked.valid := List.mem_map_of_mem ha
    rw [← hxs] at hmem
    obtain ⟨⟨x, i⟩, -, hx⟩ := List.mem_map.1 hmem
    exact (h x).under a hx
  · cases hxs

theorem holds_listed (h : ∀ j, (read j).Holds P) :
    (listed j name read).Holds fun xs => ∀ a ∈ xs, P a :=
  holds_field nofun fun _ => holds_list h

/-! ## Single values -/

theorem holds_natural : (natural lax j).Holds (0 ≤ ·) := by
  intro n hn
  unfold natural at hn
  cases hi : lax.integer j with
  | invalid ps =>
    rw [hi] at hn
    cases hn
  | valid m =>
    rw [hi, Checked.andThen] at hn
    split at hn
    · cases hn
    · cases hn
      omega

theorem holds_textWithin {most : Option Nat} :
    (textWithin lax most j).Holds fun s => s ≠ "" ∧ ∀ n ∈ most, s.length ≤ n := by
  intro s hs
  unfold textWithin at hs
  cases ht : lax.text j with
  | invalid ps =>
    rw [ht] at hs
    cases hs
  | valid t =>
    rw [ht, Checked.andThen] at hs
    split at hs
    · cases hs
    · rename_i hempty
      split at hs
      · cases hs
      · rename_i hlong
        cases hs
        refine ⟨fun h => hempty (by simp [h]), ?_⟩
        rintro n rfl
        simpa using hlong

theorem holds_oneOf {words : List String} : (oneOf words j).Holds (· ∈ words) := by
  intro s hs
  unfold oneOf at hs
  split at hs
  · split at hs
    · rename_i hmem
      cases hs
      exact List.contains_iff_mem.1 hmem
    · cases hs
  · cases hs
  · cases hs

theorem holds_operand : (operand lax j).Holds Operand.Recordable := by
  intro o ho
  unfold operand at ho
  split at ho
  · cases ho
    trivial
  · cases ho
    trivial
  · split at ho <;> cases ho <;> trivial

/-- A word of a vocabulary, kept as a text. -/
theorem holds_colorName : ((perhaps j name (word Color)).map (·.map (·.name))).Holds
    fun x => ∃ color : Option Color, x = color.map Color.name := by
  intro x hx
  cases hc : perhaps j name (word Color) with
  | invalid ps =>
    rw [hc] at hx
    cases hx
  | valid color =>
    rw [hc] at hx
    cases hx
    exact ⟨color, rfl⟩

/-! ## Records

Each field is taken with what its reader gives, or else with nothing. -/

theorem holds_targetFilter : (targetFilter lax j).Holds TargetFilter.Recordable := by
  refine .model (.seq ?_ .pure)
  repeat refine .seq ?_ .any
  refine .map (holds_perhaps fun _ => holds_oneOf) ?_
  intros
  constructor <;> assumption

theorem recordable_default : ({} : Parameters).Recordable := by
  constructor <;> rintro _ ⟨⟩

theorem holds_parameters : (parameters lax j).Holds Parameters.Recordable := by
  refine .model ?_
  repeat first
    | refine .seq ?_ (holds_perhaps fun _ => holds_targetFilter)
    | refine .seq ?_ (holds_perhaps fun _ => holds_natural)
    | refine .seq ?_ .any
  refine .map .any ?_
  intros
  constructor <;> assumption

/-! ## Trees -/

theorem holds_conditionKind : (conditionKind j).Holds (· ≠ .custom) := by
  rintro k hk rfl
  exact absurd (Checked.Holds.obeying .any _ hk).2 (by decide)

theorem holds_conditionWithin {room : Nat} :
    (conditionWithin lax room j).Holds (Condition.Recordable room) := by
  induction room generalizing j with
  | zero => rintro c ⟨⟩
  | succ room ih =>
    -- what the fields give, before the rule that concerns several of them
    refine .imp (.obeying (P := fun c : Condition => c.kind ≠ .custom ∧
      (∀ d ∈ c.operands, d.Recordable room) ∧ (∀ o ∈ c.left, o.Recordable) ∧
      (∀ o ∈ c.right, o.Recordable) ∧ (∃ color : Option Color, c.color = color.map Color.name) ∧
      c.probe = none) (.model (.seq ?_ .pure))) ?_
    · repeat first
        | refine .seq ?_ holds_colorName
        | refine .seq ?_ (holds_perhaps fun _ => holds_operand)
        | refine .seq ?_ (holds_listed fun _ => ih)
        | refine .seq ?_ .any
      refine .map (holds_required fun _ => holds_conditionKind) ?_
      intros
      exact ⟨‹_›, ‹_›, ‹_›, ‹_›, ‹_›, ‹_›⟩
    · rintro c ⟨⟨hkind, hoperands, hleft, hright, hcolor, hprobe⟩, hflaw⟩
      exact ⟨⟨complete_iff.2 ⟨hkind, hflaw⟩, hleft, hright, hcolor, hprobe⟩, hoperands⟩

theorem holds_costWithin {room : Nat} : (costWithin lax room j).Holds (Cost.Recordable room) := by
  induction room generalizing j with
  | zero => rintro c ⟨⟩
  | succ room ih =>
    refine .imp (.obeying (P := fun c : Cost => 0 ≤ c.amount ∧
      ∀ d ∈ c.parts, d.Recordable room) (.model ?_)) ?_
    · repeat first
        | refine .seq ?_ (holds_listed fun _ => ih)
        | refine .seq ?_ (holds_field (Int.le_refl 0) fun _ => holds_natural)
      refine .map .any ?_
      intros
      exact ⟨‹_›, ‹_›⟩
    · rintro c ⟨⟨hamount, hparts⟩, hflaw⟩
      refine ⟨hamount, fun hk hnone => ?_, hparts⟩
      simp [costFlaw, hk, hnone] at hflaw

theorem holds_condition : (condition lax j).Holds (Condition.Recordable lax.deepest) :=
  holds_conditionWithin

theorem holds_cost : (cost lax j).Holds (Cost.Recordable lax.deepest) := holds_costWithin

/-! ## Abilities -/

theorem holds_ability : (ability lax j).Holds (Ability.Recordable lax.deepest) := by
  refine .imp (.obeying (P := fun a : Ability => a.id ≠ "" ∧
    (∀ c ∈ a.condition, c.Recordable lax.deepest) ∧ (∀ c ∈ a.cost, c.Recordable lax.deepest) ∧
    a.parameters.Recordable ∧ a.usedThisTurn = false ∧ a.mark = none) (.model ?_)) ?_
  · repeat first
      | refine .seq ?_ (holds_field recordable_default fun _ => holds_parameters)
      | refine .seq ?_ (holds_perhaps fun _ => holds_cost)
      | refine .seq ?_ (holds_perhaps fun _ => holds_condition)
      | refine .seq ?_ .any
    refine .map (holds_required fun _ => holds_textWithin.imp fun _ => And.left) ?_
    intros
    exact ⟨‹_›, ‹_›, ‹_›, ‹_›, rfl, rfl⟩
  · rintro a ⟨⟨hid, hcondition, hcost, hparameters, hused, hmark⟩, hflaw⟩
    refine ⟨hid, fun ht => ?_, hcondition, hcost, hparameters, hused, hmark⟩
    simpa [abilityFlaw, ht] using hflaw

/-! ## Cards -/

theorem trim_trim (s : List Char) : trim (trim s) = trim s := by
  have hstart : (trim s).dropWhile isBlank = trim s := by
    rw [List.dropWhile_eq_self_iff]
    intro hl
    have hfront : trim s <+: s.dropWhile isBlank := List.rdropWhile_prefix _ _
    rw [hfront.getElem hl]
    exact List.dropWhile_get_zero_not isBlank s (hl.trans_le hfront.length_le)
  have hend : dropEnd isBlank (trim s) = trim s := List.rdropWhile_idempotent isBlank _
  rw [trim, dropEnds, hstart, hend]

theorem strip_strip (s : String) : strip (strip s) = strip s := by
  rw [strip, strip, String.toList_ofList, trim_trim]

theorem holds_keywords :
    (keywords lax j).Holds fun ks => ∀ k ∈ ks, k ≠ "" ∧ strip k = k := by
  refine .map (.obeying .any) fun ks hks k hk => ?_
  obtain ⟨l, hl, rfl⟩ := List.mem_map.1 hk
  refine ⟨fun hempty => ?_, strip_strip l⟩
  have hblank : ks.any fun k => (strip k).isEmpty := List.any_eq_true.2 ⟨l, hl, by simp [hempty]⟩
  simp [hblank] at hks

/-- The abilities of a card are its own, whether they are listed or in its text. -/
theorem recordable_of_cardAbilities {room : Nat} (hroom : 2 ≤ room) {cardId : String}
    {printed : Option String} {given : List Ability} {a : Ability}
    (hgiven : ∀ a ∈ given, a.Recordable room) (h : a ∈ cardAbilities cardId printed given) :
    a.Recordable room ∧ a.sourceId = cardId := by
  unfold cardAbilities at h
  split at h
  · cases printed with
    | none => cases h
    | some text =>
      obtain ⟨hrecordable, -, -, hcard⟩ := CardText.recordable_of_mem hroom h
      exact ⟨hrecordable, hcard⟩
  · obtain ⟨b, hb, rfl⟩ := List.mem_map.1 h
    obtain ⟨hid, htrigger, hcondition, hcost, hparameters, hused, hmark⟩ := hgiven b hb
    exact ⟨⟨hid, htrigger, hcondition, hcost, hparameters, hused, hmark⟩, rfl⟩

theorem holds_face : (face lax j).Holds (CardFace.Recordable lax.deepest) := by
  -- what the fields give, the abilities of the text aside
  refine .model ?_
  repeat first
    | refine .seq ?_ (holds_listed fun _ => holds_ability)
    | refine .seq ?_ (holds_field nofun fun _ => holds_keywords)
    | refine .seq ?_ (holds_perhaps fun _ => holds_natural)
    | refine .seq ?_ (holds_required fun _ => holds_textWithin)
    | refine .seq ?_ .any
  refine .map (holds_required fun _ => holds_textWithin) ?_
  rintro cardId ⟨hid, hshort⟩ name ⟨hname, -⟩
  intros
  exact {
    id := hid
    short := hshort idLength rfl
    name := hname
    colors := ⟨_, rfl⟩
    basePower := ‹_›
    baseCost := ‹_›
    life := ‹_›
    counter := ‹_›
    keywords := ‹_›
    abilities := fun _ ha => recordable_of_cardAbilities lax.two_le_deepest ‹_› ha }

/-! ## Written again -/

/-- Loading loses nothing, however else values may be written: what a record is accepted as can be
written as a record again, and that record is accepted as the same. So it is for whole cards and for
each part that they nest. -/
theorem loading_lossless (lax : Lenience) (j : Json) :
    (∀ f, face lax j = .valid f → face lax (writtenFace f) = .valid f) ∧
      (∀ a cardId, (ability lax j).map (ofCard cardId) = .valid a →
        (ability lax (written a)).map (ofCard cardId) = .valid a) ∧
      (∀ c, condition lax j = .valid c → condition lax c.toJson = .valid c) ∧
      (∀ c, cost lax j = .valid c → cost lax c.toJson = .valid c) ∧
      (∀ ps, parameters lax j = .valid ps → parameters lax ps.toJson = .valid ps) ∧
      (∀ f, targetFilter lax j = .valid f → targetFilter lax f.toJson = .valid f) ∧
      ∀ c, searchCriteria lax j = .valid c → searchCriteria lax c.toJson = .valid c := by
  refine ⟨fun f hf => face_written (holds_face f hf), fun a cardId ha => ?_,
    fun c hc => (reads_condition (holds_condition c hc)).back,
    fun c hc => (reads_cost (holds_cost c hc)).back,
    fun ps hps => (reads_parameters (holds_parameters ps hps)).back,
    fun f hf => (reads_targetFilter (holds_targetFilter f hf)).back,
    fun c _ => (reads_searchCriteria c).back⟩
  cases hb : ability lax j with
  | invalid ps =>
    rw [hb] at ha
    cases ha
  | valid b =>
    rw [hb] at ha
    cases ha
    exact congrArg (Checked.map (ofCard cardId)) (ability_written_eq (holds_ability b hb))

/-- A card whose ability has a condition and a cost of several levels, a filter and criteria. -/
def nested : Json :=
  .obj [
    ("id", .str "C-1"), ("name", .str "Scout"), ("category", .str "CHARACTER"),
    ("colors", .arr [.str "RED"]), ("power", .str "3000"), ("keywords", .arr [.str " Rush "]),
    ("effects", .arr [.obj [
      ("id", .str "C-1-1"), ("timing_type", .str "AUTO"), ("effect_type", .str "SEARCH_DECK"),
      ("trigger_timing", .str "ON_PLAY"),
      ("condition", .obj [("type", .str "NOT"), ("operands", .arr [.obj [
        ("type", .str "COMPARE"), ("operator", .str "LTE"), ("left", .str "self.hand"),
        ("right", .str "2")]])]),
      ("cost", .obj [("type", .str "COMPOSITE"), ("costs", .arr [
        .obj [("type", .str "REST_DON"), ("amount", .bool true)],
        .obj [("type", .str "TRASH_CARD")]])]),
      ("parameters", .obj [
        ("target_filter", .obj [
          ("controller", .str "opponent"), ("cost_range", .obj [("max", .int 4)])]),
        ("search_criteria", .obj [("type_tags", .arr [.str "Navy"])])])]])]

theorem loading_lossless_nested :
    ∃ f, face .standard nested = .valid f ∧ f.abilities.length = 1 ∧ f.keywords = ["Rush"] ∧
      face .standard (writtenFace f) = .valid f := by
  obtain ⟨f, hf, hcount, hkeywords⟩ :
      ∃ f, face .standard nested = .valid f ∧ f.abilities.length = 1 ∧ f.keywords = ["Rush"] :=
    ⟨_, rfl, rfl, rfl⟩
  exact ⟨f, hf, hcount, hkeywords, (loading_lossless .standard nested).1 f hf⟩

end CardData

end CardRules
