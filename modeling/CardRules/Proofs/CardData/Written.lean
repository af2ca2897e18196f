import CardRules.CardData.Card
import CardRules.Record.Ability

/-!
# Written card data

What card data can say, they say without loss: an ability or a card face that keeps to the rules of
card data (`Ability.Recordable`, `CardFace.Recordable`) is read back from the record that writes it
out.

A record is written sparsely, so a field that has no value is not there (`Shows`). One lemma for
each way to read a field gives back what was written; the readers of bounds, filters, criteria,
conditions, costs, parameters, abilities and faces are put together from these.
-/

namespace CardRules

namespace Json

/-- Whether a value says something, rather than that there is nothing. -/
def stands : Json → Bool
  | .null | .arr [] => false
  | _ => true

/-- A value, unless a sparse object leaves it out. -/
def filled? : Option Json → Option Json
  | none | some (.arr []) => none
  | some v => some v

variable {fields : List (String × Option Json)} {name : String} {v : Option Json}

theorem filled?_of_stands {v : Json} (h : v.stands) : filled? (some v) = some v := by
  cases v with
  | arr items =>
    cases items with
    | nil => cases h
    | cons => rfl
  | _ => rfl

/-- The fields that a sparse object shows. -/
def filledFields (fields : List (String × Option Json)) : List (String × Json) :=
  fields.filterMap fun f => (filled? f.2).map (f.1, ·)

theorem sparse_eq : sparse fields = .obj (filledFields fields) := by
  unfold sparse filledFields
  congr 2
  funext ⟨k, v⟩
  rcases v with _ | v
  · rfl
  · cases v with
    | arr items => cases items <;> rfl
    | _ => rfl

theorem key_mem_of_filled {g : String × Json} (h : g ∈ filledFields fields) :
    g.1 ∈ fields.map (·.1) := by
  obtain ⟨f, hf, hv⟩ := List.mem_filterMap.1 h
  obtain ⟨v, -, rfl⟩ := Option.map_eq_some_iff.1 hv
  exact List.mem_map_of_mem hf

theorem filledFields_cons {k : String} :
    filledFields ((k, v) :: fields) =
      ((filled? v).map (k, ·)).toList ++ filledFields fields := by
  cases hv : filled? v <;> simp [filledFields, hv]

/-- A sparse object shows each of its fields. -/
theorem get?_sparse (hd : (fields.map (·.1)).Nodup) (h : fields.lookup name = some v) :
    (sparse fields).get? name = filled? v := by
  rw [sparse_eq, get?]
  induction fields with
  | nil => cases h
  | cons f rest ih =>
    obtain ⟨k, w⟩ := f
    obtain ⟨hk, hrest⟩ := List.nodup_cons.1 hd
    rw [filledFields_cons]
    by_cases hn : name = k
    · subst hn
      obtain rfl : w = v := by simpa using h
      cases filled? w with
      | none =>
        refine List.lookup_eq_none_iff.2 fun g hg => ?_
        have hne : name ≠ g.1 := fun hkey => hk (hkey ▸ key_mem_of_filled hg)
        simpa using hne
      | some u => simp
    · have hne : (name == k) = false := by simpa using hn
      rw [List.lookup_cons, hne] at h
      cases filled? w with
      | none => exact ih hrest h
      | some u => simpa [List.lookup_cons, hne] using ih hrest h

end Json

/-! ## What card data can say -/

/-- A filter for everybody's cards or for those of one side, without a test of the host. -/
structure TargetFilter.Recordable (f : TargetFilter) : Prop where
  controller : ∀ w ∈ f.controller, w ∈ CardData.sides
  only : f.only = none

/-- Parameters that count no cards and no targets below zero. -/
structure Parameters.Recordable (ps : Parameters) : Prop where
  cardCount : ∀ n ∈ ps.cardCount, 0 ≤ n
  targetCount : ∀ n ∈ ps.targetCount, 0 ≤ n
  minTargets : ∀ n ∈ ps.minTargets, 0 ≤ n
  maxTargets : ∀ n ∈ ps.maxTargets, 0 ≤ n
  targetFilter : ∀ f ∈ ps.targetFilter, f.Recordable

/-- A number or a text. -/
def Operand.Recordable : Operand → Prop
  | .int _ | .text _ => True
  | .other _ => False

/-- A condition has the parts that its kind needs, and needs no host. -/
def Condition.Complete (c : Condition) : Prop :=
  match c.kind with
  | .custom => False
  | .not => c.operands.length = 1
  | .and | .or => c.operands ≠ []
  | .compare => c.operator.isSome ∧ c.left.isSome ∧ c.right.isSome
  | _ => True

/-- A condition that card data can give, its operands apart. -/
structure Condition.Plain (c : Condition) : Prop where
  complete : c.Complete
  left : ∀ o ∈ c.left, o.Recordable
  right : ∀ o ∈ c.right, o.Recordable
  color : ∃ color : Option Color, c.color = color.map Color.name
  probe : c.probe = none

/-- A condition that card data can give, of no more than `room` levels. -/
def Condition.Recordable : (room : Nat) → Condition → Prop
  | 0, _ => False
  | room + 1, c => c.Plain ∧ ∀ d ∈ c.operands, d.Recordable room

/-- A cost that card data can give, of no more than `room` levels. -/
def Cost.Recordable : (room : Nat) → Cost → Prop
  | 0, _ => False
  | room + 1, c =>
    0 ≤ c.amount ∧ (c.kind = .composite → c.parts ≠ []) ∧ ∀ d ∈ c.parts, d.Recordable room

/-- An ability that card data can give, its card apart, with trees of no more than `room` levels. -/
structure Ability.Recordable (room : Nat) (a : Ability) : Prop where
  id : a.id ≠ ""
  trigger : a.trigger.isSome → a.timing = .auto
  condition : ∀ c ∈ a.condition, c.Recordable room
  cost : ∀ c ∈ a.cost, c.Recordable room
  parameters : a.parameters.Recordable
  usedThisTurn : a.usedThisTurn = false
  mark : a.mark = none

/-- A card face that card data can give: its colors are those of the game, its keywords have no
blanks at their ends, and its abilities are its own. -/
structure CardFace.Recordable (room : Nat) (f : CardFace) : Prop where
  id : f.id ≠ ""
  short : f.id.length ≤ CardData.idLength
  name : f.name ≠ ""
  colors : ∃ colors : List Color, f.colors = colors.map Color.name
  basePower : ∀ n ∈ f.basePower, 0 ≤ n
  baseCost : ∀ n ∈ f.baseCost, 0 ≤ n
  life : ∀ n ∈ f.life, 0 ≤ n
  counter : ∀ n ∈ f.counter, 0 ≤ n
  keywords : ∀ k ∈ f.keywords, k ≠ "" ∧ Text.strip k = k
  abilities : ∀ a ∈ f.abilities, a.Recordable room ∧ a.sourceId = f.id

namespace CardData

open Json

variable {lax : Lenience} {α : Type} {read : Json → Checked α} {write : α → Json} {a : α}
  {x : Option α} {xs : List α} {j : Json} {name : String} {names : List String}
  {fields : List (String × Option Json)}

/-! ## Fields -/

/-- The reader takes back what the writer makes of a value. -/
structure Reads (read : Json → Checked α) (write : α → Json) (a : α) : Prop where
  back : read (write a) = .valid a
  stands : (write a).stands

/-- The object is that of the given fields. -/
structure Shows (j : Json) (fields : List (String × Option Json)) : Prop where
  written : j = sparse fields
  distinct : (fields.map (·.1)).Nodup

theorem Shows.get? {v : Option Json} (w : Shows j fields) (h : fields.lookup name = some v) :
    j.get? name = filled? v := by
  rw [w.written]
  exact get?_sparse w.distinct h

theorem Shows.field {default : α} (w : Shows j fields) (name : String)
    (hr : Reads read write a) (h : fields.lookup name = some (some (write a))) :
    field j name default read = .valid a := by
  rw [CardData.field, w.get? h, filled?_of_stands hr.stands]
  simp only [hr.back]
  rfl

theorem Shows.required (w : Shows j fields) (name : String)
    (hr : Reads read write a) (h : fields.lookup name = some (some (write a))) :
    required j name read = .valid a := by
  rw [CardData.required, w.get? h, filled?_of_stands hr.stands]
  simp only [hr.back]
  rfl

theorem Reads.optional (hr : Reads read write a) :
    optional read (write a) = .valid (some a) := by
  have hs := hr.stands
  unfold CardData.optional
  split
  · rename_i hw
    rw [hw] at hs
    cases hs
  · rw [hr.back]
    rfl

theorem Shows.perhaps (w : Shows j fields) (name : String)
    (h : fields.lookup name = some (x.map write)) (hr : ∀ a ∈ x, Reads read write a) :
    perhaps j name read = .valid x := by
  rw [CardData.perhaps, CardData.field, w.get? h]
  cases x with
  | none => rfl
  | some a =>
    have ha := hr a rfl
    rw [Option.map_some, filled?_of_stands ha.stands]
    simp only [ha.optional]
    rfl

theorem list_map (h : ∀ a ∈ xs, read (write a) = .valid a) :
    list read (.arr (xs.map write)) = .valid xs := by
  rw [list, Checked.all_eq_valid_iff]
  apply List.ext_getElem
  · simp
  · intro i _ hi
    have hi : i < xs.length := by simpa using hi
    simp [h xs[i] (List.getElem_mem hi), Checked.under]

/-- A list that is not shown where it is empty. -/
theorem Shows.items {items : Json → Checked (List α)} (w : Shows j fields) (name : String)
    (h : fields.lookup name = some (some (.arr (xs.map write))))
    (hr : items (.arr (xs.map write)) = .valid xs) :
    CardData.field j name [] items = .valid xs := by
  rw [CardData.field, w.get? h]
  cases xs with
  | nil => rfl
  | cons a rest =>
    rw [filled?_of_stands rfl]
    simp only [hr]
    rfl

theorem Shows.listed (w : Shows j fields) (name : String)
    (h : fields.lookup name = some (some (.arr (xs.map write))))
    (hr : ∀ a ∈ xs, read (write a) = .valid a) : listed j name read = .valid xs :=
  w.items name h (list_map hr)

/-- A record is read as its fields are, when it has no others. -/
theorem model_eq {c : Checked α} (hw : j = sparse fields) (hn : fields.map (·.1) = names)
    (hd : names.Nodup) (h : Shows j fields → c = .valid a) : model names j c = .valid a := by
  subst hn
  rw [h ⟨hw, hd⟩, hw, sparse_eq, model]
  refine List.filterMap_eq_nil_iff.2 fun g hg => ?_
  simp only [List.contains_iff_mem.2 (key_mem_of_filled hg), if_true]

theorem obeying_eq {c : Checked α} {broken : α → Option String} (hc : c = .valid a)
    (h : broken a = none) : c.obeying broken = .valid a := by
  rw [hc, Checked.obeying, Checked.andThen, h]

/-! ## Single values -/

theorem reads_integer (n : Int) : Reads lax.integer .int n := ⟨lax.integer_int n, rfl⟩

theorem reads_natural {n : Int} (h : 0 ≤ n) : Reads (natural lax) .int n where
  back := by simp [natural, Checked.andThen, Int.not_lt.2 h]
  stands := rfl

theorem reads_text (s : String) : Reads lax.text .str s := ⟨lax.text_str s, rfl⟩

theorem reads_textWithin {s : String} {most : Option Nat} (h : s ≠ "")
    (hmost : most.any (· < s.length) = false) : Reads (textWithin lax most) .str s where
  back := by simp [textWithin, Checked.andThen, h, hmost]
  stands := rfl

theorem reads_oneOf {words : List String} {s : String} (h : s ∈ words) :
    Reads (oneOf words) .str s where
  back := by simp [oneOf, h]
  stands := rfl

theorem reads_word [Named α] (a : α) : Reads (word α) (fun a => .str (Named.name a)) a where
  back := by simp [word]
  stands := rfl

theorem reads_switch (b : Bool) : Reads lax.switch .bool b := ⟨lax.switch_bool b, rfl⟩

theorem reads_operand {o : Operand} (h : o.Recordable) : Reads (operand lax) Operand.toJson o := by
  cases o with
  | int n => exact ⟨rfl, rfl⟩
  | text s => exact ⟨rfl, rfl⟩
  | other v => cases h

/-! ## Records without records of their own kind -/

theorem reads_bounds (b : Bounds) : Reads (bounds lax) Bounds.toJson b where
  back := by
    refine model_eq (by rfl : b.toJson = sparse _) rfl (by decide) fun w => ?_
    rw [w.perhaps "min" rfl fun n _ => reads_integer n,
      w.perhaps "max" rfl fun n _ => reads_integer n,
      w.perhaps "exact" rfl fun n _ => reads_integer n]
    rfl
  stands := rfl

theorem reads_targetFilter {f : TargetFilter} (h : f.Recordable) :
    Reads (targetFilter lax) TargetFilter.toJson f where
  back := by
    refine model_eq (by rfl : f.toJson = sparse _) rfl (by decide) fun w => ?_
    rw [w.perhaps "controller" rfl fun s hs => reads_oneOf (h.controller s hs),
      w.listed "zone" rfl fun z _ => (reads_word z).back,
      w.listed "category" rfl fun c _ => (reads_word c).back,
      w.listed "color" rfl fun c _ => (reads_word c).back,
      w.perhaps "cost_range" rfl fun b _ => reads_bounds b,
      w.perhaps "power_range" rfl fun b _ => reads_bounds b,
      w.listed "state" rfl fun o _ => (reads_word o).back,
      w.listed "has_keyword" rfl fun s _ => (reads_text s).back,
      w.listed "lacks_keyword" rfl fun s _ => (reads_text s).back,
      w.listed "type_tags" rfl fun s _ => (reads_text s).back,
      w.listed "attributes" rfl fun s _ => (reads_text s).back]
    cases f
    cases h.only
    rfl
  stands := rfl

theorem reads_searchCriteria (c : SearchCriteria) :
    Reads (searchCriteria lax) SearchCriteria.toJson c where
  back := by
    refine model_eq (by rfl : c.toJson = sparse _) rfl (by decide) fun w => ?_
    rw [w.listed "category" rfl fun c _ => (reads_word c).back,
      w.listed "color" rfl fun c _ => (reads_word c).back,
      w.perhaps "cost" rfl fun b _ => reads_bounds b,
      w.perhaps "power" rfl fun b _ => reads_bounds b,
      w.listed "type_tags" rfl fun s _ => (reads_text s).back,
      w.listed "attributes" rfl fun s _ => (reads_text s).back,
      w.listed "keywords" rfl fun s _ => (reads_text s).back,
      w.perhaps "name_contains" rfl fun s _ => reads_text s]
    rfl
  stands := rfl

theorem reads_parameters {ps : Parameters} (h : ps.Recordable) :
    Reads (parameters lax) Parameters.toJson ps where
  back := by
    refine model_eq (by rfl : ps.toJson = sparse _) rfl (by decide) fun w => ?_
    rw [w.perhaps "power_change" rfl fun n _ => reads_integer n,
      w.perhaps "max_power" rfl fun n _ => reads_integer n,
      w.perhaps "max_cost" rfl fun n _ => reads_integer n,
      w.perhaps "card_count" rfl fun n hn => reads_natural (h.cardCount n hn),
      w.perhaps "search_criteria" rfl fun c _ => reads_searchCriteria c,
      w.perhaps "keyword" rfl fun s _ => reads_text s,
      w.perhaps "target_type" rfl fun t _ => reads_word t,
      w.perhaps "target_count" rfl fun n hn => reads_natural (h.targetCount n hn),
      w.perhaps "min_targets" rfl fun n hn => reads_natural (h.minTargets n hn),
      w.perhaps "max_targets" rfl fun n hn => reads_natural (h.maxTargets n hn),
      w.perhaps "target_filter" rfl fun f hf => reads_targetFilter (h.targetFilter f hf),
      w.perhaps "duration" rfl fun d _ => reads_word d,
      w.perhaps "value" rfl fun n _ => reads_integer n,
      w.perhaps "string_value" rfl fun s _ => reads_text s,
      w.perhaps "boolean_value" rfl fun b _ => reads_switch b]
    rfl
  stands := rfl

/-! ## Trees -/

theorem operandsJson_eq (cs : List Condition) :
    Condition.operandsJson cs = cs.map Condition.toJson := by
  induction cs with
  | nil => rw [Condition.operandsJson, List.map_nil]
  | cons c rest ih => rw [Condition.operandsJson, ih, List.map_cons]

theorem partsJson_eq (cs : List Cost) : Cost.partsJson cs = cs.map Cost.toJson := by
  induction cs with
  | nil => rw [Cost.partsJson, List.map_nil]
  | cons c rest ih => rw [Cost.partsJson, ih, List.map_cons]

/-- The parts of a condition are those that its kind needs if there is nothing wrong with them. -/
theorem complete_iff {c : Condition} :
    c.Complete ↔ c.kind ≠ .custom ∧ conditionFlaw c = none := by
  unfold Condition.Complete conditionFlaw
  cases hk : c.kind <;> simp [Option.isSome_iff_ne_none, and_assoc]

theorem reads_conditionKind {c : Condition} (h : c.Complete) :
    Reads conditionKind (fun k => .str k.name) c.kind where
  back := obeying_eq (reads_word c.kind).back (if_neg (complete_iff.1 h).1)
  stands := rfl

theorem reads_conditionWithin {room : Nat} {c : Condition} (h : c.Recordable room) :
    Reads (conditionWithin lax room) Condition.toJson c := by
  induction room generalizing c with
  | zero => cases h
  | succ room ih =>
    obtain ⟨hc, hoperands⟩ := h
    have hwritten : c.toJson = sparse [
        ("type", some (.str c.kind.name)),
        ("operands", some (.arr (c.operands.map Condition.toJson))),
        ("operator", c.operator.map (.str ·.name)), ("left", c.left.map (·.toJson)),
        ("right", c.right.map (·.toJson)), ("keyword", c.keyword.map .str),
        ("zone", c.zone.map (.str ·.name)), ("color", c.color.map .str)] := by
      obtain ⟨⟩ := c
      rw [Condition.toJson, operandsJson_eq]
    refine ⟨?_, by rw [hwritten]; rfl⟩
    refine obeying_eq (model_eq hwritten rfl (by decide) fun w => ?_)
      (complete_iff.1 hc.complete).2
    obtain ⟨color, hcolor⟩ := hc.color
    have hcolorField : ("color", c.color.map .str) =
        ("color", color.map fun k => Json.str k.name) := by
      rw [hcolor, Option.map_map]
      rfl
    rw [hcolorField] at w
    rw [w.required "type" (reads_conditionKind hc.complete) rfl,
      w.listed "operands" rfl fun d hd => (ih (hoperands d hd)).back,
      w.perhaps "operator" rfl fun o _ => reads_word o,
      w.perhaps "left" rfl fun o ho => reads_operand (hc.left o ho),
      w.perhaps "right" rfl fun o ho => reads_operand (hc.right o ho),
      w.perhaps "keyword" rfl fun s _ => reads_text s,
      w.perhaps "zone" rfl fun z _ => reads_word z,
      w.perhaps "color" rfl fun k _ => reads_word k]
    cases c
    cases hc.probe
    cases hcolor
    rfl

theorem reads_costWithin {room : Nat} {c : Cost} (h : c.Recordable room) :
    Reads (costWithin lax room) Cost.toJson c := by
  induction room generalizing c with
  | zero => cases h
  | succ room ih =>
    obtain ⟨hamount, hparts, hmore⟩ := h
    have hwritten : c.toJson = sparse [
        ("type", some (.str c.kind.name)), ("amount", some (.int c.amount)),
        ("costs", some (.arr (c.parts.map Cost.toJson)))] := by
      obtain ⟨⟩ := c
      rw [Cost.toJson, partsJson_eq]
    have hflaw : costFlaw c = none := by
      by_cases hk : c.kind = .composite <;> simp [costFlaw, hk, hparts]
    refine ⟨?_, by rw [hwritten]; rfl⟩
    refine obeying_eq (model_eq hwritten rfl (by decide) fun w => ?_) hflaw
    rw [w.required "type" (reads_word c.kind) rfl, w.field "amount" (reads_natural hamount) rfl,
      w.listed "costs" rfl fun d hd => (ih (hmore d hd)).back]
    cases c
    rfl

theorem reads_condition {c : Condition} (h : c.Recordable lax.deepest) :
    Reads (condition lax) Condition.toJson c :=
  reads_conditionWithin h

theorem reads_cost {c : Cost} (h : c.Recordable lax.deepest) : Reads (cost lax) Cost.toJson c :=
  reads_costWithin h

/-! ## Abilities -/

/-- The record of an ability: its card and what is kept of its use are not part of it. -/
def written (a : Ability) : Json :=
  sparse [
    ("id", some (.str a.id)), ("label", some (.str a.label)),
    ("timing_type", some (.str a.timing.name)), ("effect_type", some (.str a.kind.name)),
    ("trigger_timing", a.trigger.map (.str ·.name)), ("condition", a.condition.map (·.toJson)),
    ("cost", a.cost.map (·.toJson)), ("parameters", some a.parameters.toJson),
    ("once_per_turn", some (.bool a.oncePerTurn)), ("script_id", a.scriptId.map .str)]

/-- The record of an ability is read as an ability of no card. -/
theorem ability_written_eq {a : Ability} (h : a.Recordable lax.deepest) :
    ability lax (written a) = .valid (ofCard "" a) := by
  have hflaw : abilityFlaw (ofCard "" a) = none := by
    by_cases ht : a.trigger.isSome
    · simp [abilityFlaw, ofCard, h.trigger ht]
    · simp [abilityFlaw, ofCard, ht]
  refine obeying_eq (model_eq (by rfl : written a = sparse _) rfl (by decide) fun w => ?_) hflaw
  rw [w.required "id" (reads_textWithin h.id rfl) rfl, w.field "label" (reads_text a.label) rfl,
    w.required "timing_type" (reads_word a.timing) rfl,
    w.required "effect_type" (reads_word a.kind) rfl,
    w.perhaps "trigger_timing" rfl fun t _ => reads_word t,
    w.perhaps "condition" rfl fun c hc => reads_condition (h.condition c hc),
    w.perhaps "cost" rfl fun c hc => reads_cost (h.cost c hc),
    w.field "parameters" (reads_parameters h.parameters) rfl,
    w.field "once_per_turn" (reads_switch a.oncePerTurn) rfl,
    w.perhaps "script_id" rfl fun s _ => reads_text s]
  cases a
  cases h.usedThisTurn
  cases h.mark
  rfl

/-- An ability that data can give is read back from its record, as one of its card. -/
theorem ability_written {a : Ability} (h : a.Recordable lax.deepest) :
    (ability lax (written a)).map (ofCard a.sourceId) = .valid a := by
  rw [ability_written_eq h]
  rfl

/-! ## Cards -/

/-- The record of a card face, with its abilities listed. -/
def writtenFace (f : CardFace) : Json :=
  sparse [
    ("id", some (.str f.id)), ("name", some (.str f.name)),
    ("category", some (.str f.category.name)), ("colors", some (ofTexts f.colors)),
    ("type_tags", some (ofTexts f.typeTags)), ("attributes", some (ofTexts f.attributes)),
    ("power", f.basePower.map .int), ("cost", f.baseCost.map .int), ("life", f.life.map .int),
    ("counter", f.counter.map .int), ("keywords", some (ofTexts f.keywords)),
    ("effect_text", none), ("effects", some (.arr (f.abilities.map written)))]

theorem keywords_written {ks : List String} (h : ∀ k ∈ ks, k ≠ "" ∧ Text.strip k = k) :
    keywords lax (ofTexts ks) = .valid ks := by
  have hblank : ¬ks.any fun k => (Text.strip k).isEmpty := by
    rw [List.any_eq_true]
    rintro ⟨k, hk, hempty⟩
    rw [(h k hk).2, String.isEmpty_iff] at hempty
    exact (h k hk).1 hempty
  have hstripped : ks.map Text.strip = ks :=
    (List.map_congr_left fun k hk => (h k hk).2).trans (List.map_id ks)
  have hread : list lax.text (ofTexts ks) = .valid ks := list_map fun k _ => (reads_text k).back
  rw [keywords, obeying_eq hread (if_neg hblank), Checked.map, hstripped]

/-- Reading makes the abilities of a face anybody's, the face makes them its own. -/
theorem cardAbilities_ofCard {cardId : String} {abilities : List Ability}
    (h : ∀ a ∈ abilities, a.sourceId = cardId) :
    cardAbilities cardId none (abilities.map (ofCard "")) = abilities := by
  cases abilities with
  | nil => rfl
  | cons a rest =>
    rw [cardAbilities, if_neg (by simp), List.map_map]
    refine (List.map_congr_left fun b hb => ?_).trans (List.map_id (a :: rest))
    rw [← h b hb]
    rfl

/-- A card face that data can give is read back from its record. -/
theorem face_written {f : CardFace} (h : f.Recordable lax.deepest) :
    face lax (writtenFace f) = .valid f := by
  obtain ⟨colors, hcolors⟩ := h.colors
  refine model_eq (by rfl : writtenFace f = sparse _) rfl (by decide) fun w => ?_
  have hcolorsField : ofTexts f.colors = .arr (colors.map fun k => .str k.name) := by
    rw [hcolors, ofTexts, List.map_map]
    rfl
  have heffectsField : f.abilities.map written = (f.abilities.map (ofCard "")).map written := by
    rw [List.map_map]
    rfl
  rw [hcolorsField, heffectsField] at w
  have hability : ∀ a ∈ f.abilities.map (ofCard ""), ability lax (written a) = .valid a := by
    intro a ha
    obtain ⟨b, hb, rfl⟩ := List.mem_map.1 ha
    exact (ability_written_eq (h.abilities b hb).1 :)
  have hshort : (some idLength).any (· < f.id.length) = false := by
    simpa using h.short
  rw [w.required "id" (reads_textWithin h.id hshort) rfl,
    w.required "name" (reads_textWithin h.name rfl) rfl,
    w.required "category" (reads_word f.category) rfl,
    w.listed "colors" rfl fun k _ => (reads_word k).back,
    w.listed "type_tags" rfl fun s _ => (reads_text s).back,
    w.listed "attributes" rfl fun s _ => (reads_text s).back,
    w.perhaps "power" rfl fun n hn => reads_natural (h.basePower n hn),
    w.perhaps "cost" rfl fun n hn => reads_natural (h.baseCost n hn),
    w.perhaps "life" rfl fun n hn => reads_natural (h.life n hn),
    w.perhaps "counter" rfl fun n hn => reads_natural (h.counter n hn),
    w.items "keywords" rfl (keywords_written h.keywords),
    w.perhaps "effect_text" (show _ = some ((none : Option String).map Json.str) from rfl) nofun,
    w.listed "effects" rfl hability]
  have habilities := cardAbilities_ofCard fun a ha => (h.abilities a ha).2
  cases f
  cases hcolors
  exact congrArg (fun abilities => Checked.valid (CardFace.mk _ _ _ _ _ _ _ _ _ _ _ abilities))
    habilities

end CardData

end CardRules
