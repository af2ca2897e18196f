import CardRules.Proofs.CardText.Removal

/-!
# Carried requirements

A DON!! label without text puts its requirement on the segment behind it. The loop over the segments
carries it (`carry`): a further label without text replaces it, a segment that is read takes it,
and a segment that cannot be read leaves it. So it reaches over segments that cannot be read
(`Carried`), and that is all: an ability requires attached DON!! for its own label or for the last
such label before it (`requires_own_or_carried`).
-/

namespace CardRules

theorem Except.isOk_bind_congr {ε α β γ : Type} {x : Except ε α} {f : α → Except ε β}
    {g : α → Except ε γ} (h : ∀ a, (f a).isOk = (g a).isOk) :
    (x >>= f).isOk = (x >>= g).isOk := by
  cases x with
  | error e => rfl
  | ok a => exact h a

namespace CardText

open Text

variable {rules : List Rule} {cardId cardId' text : String} {index index' : Int}
  {pending pending' : Option Int} {t : Segment} {a : Ability} {segments done : List Segment}
  {conds : List Condition} {n : Int}

/-! ## What a segment does to a carried requirement -/

/-- Whether a segment can be read depends on nothing but the segment. -/
theorem isOk_readSegment : (readSegment rules cardId index pending t).isOk =
    (readSegment rules cardId' index' pending' t).isOk := by
  unfold readSegment
  split
  · rfl
  · split
    · rfl
    · refine Except.isOk_bind_congr fun timing => ?_
      dsimp only
      split
      · refine Except.isOk_bind_congr fun required => ?_
        refine Except.isOk_bind_congr fun cost => ?_
        refine Except.isOk_bind_congr fun conditions => ?_
        exact Except.isOk_bind_congr fun reading => rfl
      · rw [pure_bind, pure_bind]
        refine Except.isOk_bind_congr fun cost => ?_
        refine Except.isOk_bind_congr fun conditions => ?_
        exact Except.isOk_bind_congr fun reading => rfl

namespace Segment

/-- The label of the segment asks for a number of attached DON!!. -/
def Asks (t : Segment) (n : Int) : Prop :=
  ∃ digits, t.donDigits? = some digits ∧ integer digits = .ok n

/-- The segment is nothing but such a label. -/
def AsksAlone (t : Segment) (n : Int) : Prop := t.unlimited = [] ∧ t.Asks n

/-- Whether the segment is left out because something in it cannot be read: the number in its
label, if it is nothing but a DON!! label, and else what it says. -/
def skipped (rules : List Rule) (t : Segment) : Bool :=
  match loneDon? t with
  | some digits => !(integer digits).isOk
  | none => !(readSegment rules "" 0 none t).isOk

end Segment

/-- A requirement is carried over some segments: the last of them that is not skipped is nothing
but a label that asks for it. -/
def Carried (rules : List Rule) (done : List Segment) (n : Int) : Prop :=
  ∃ before u after, done = before ++ u :: after ∧ u.AsksAlone n ∧ ∀ v ∈ after, v.skipped rules

/-- The requirement that is carried after one more segment. -/
def carry (rules : List Rule) (pending : Option Int) (t : Segment) : Option Int :=
  match loneDon? t with
  | some digits => (integer digits).toOption.or pending
  | none => if (readSegment rules "" 0 none t).isOk then none else pending

theorem asksAlone_iff : t.AsksAlone n ↔ ∃ digits, loneDon? t = some digits ∧
    integer digits = .ok n := by
  unfold Segment.AsksAlone Segment.Asks loneDon?
  cases t.unlimited <;> simp

theorem carry_eq_some_iff :
    carry rules pending t = some n ↔ t.AsksAlone n ∨ pending = some n ∧ t.skipped rules := by
  rw [asksAlone_iff]
  unfold carry Segment.skipped
  cases loneDon? t with
  | some digits =>
    cases hn : integer digits <;> simp [hn, Except.toOption, Except.isOk, Except.toBool]
  | none => cases (readSegment rules "" 0 none t).isOk <;> simp

/-- What is carried after all segments of a list. -/
theorem foldl_carry_eq_some_iff :
    done.foldl (carry rules) none = some n ↔ Carried rules done n := by
  induction done using List.reverseRecOn with
  | nil => simp [Carried]
  | append_singleton done t ih =>
    rw [List.foldl_append, List.foldl_cons, List.foldl_nil, carry_eq_some_iff, ih]
    constructor
    · rintro (halone | ⟨⟨before, u, after, rfl, hu, hafter⟩, ht⟩)
      · exact ⟨done, t, [], rfl, halone, by simp⟩
      · refine ⟨before, u, after ++ [t], by simp, hu, fun v hv => ?_⟩
        rcases List.mem_append.1 hv with hv | hv
        · exact hafter v hv
        · exact List.mem_singleton.1 hv ▸ ht
    · rintro ⟨before, u, after, heq, hu, hafter⟩
      rcases List.eq_nil_or_concat after with rfl | ⟨after, v, rfl⟩
      · obtain ⟨-, hsame⟩ := List.append_inj' heq rfl
        cases hsame
        exact .inl hu
      · have hsplit : done ++ [t] = (before ++ u :: after) ++ [v] := by simpa using heq
        obtain ⟨rfl, hsame⟩ := List.append_inj' hsplit rfl
        cases hsame
        exact .inr ⟨⟨before, u, after, rfl, hu, fun w hw => hafter w (by simp [hw])⟩,
          hafter t (by simp)⟩

/-! ## The loop -/

/-- The abilities of a segment, with a requirement that is carried to it. -/
def readOne (rules : List Rule) (cardId : String) (index : Int) (pending : Option Int)
    (t : Segment) : Option Ability :=
  if (loneDon? t).isSome then none
  else (readSegment rules cardId index pending t).toOption.join

theorem readOne_eq_some_iff : readOne rules cardId index pending t = some a ↔
    loneDon? t = none ∧ readSegment rules cardId index pending t = .ok (some a) := by
  unfold readOne
  cases loneDon? t with
  | some digits => simp
  | none => cases readSegment rules cardId index pending t <;> simp [Except.toOption]

theorem readSegments_cons {index : Nat} {rest : List Segment} :
    readSegments rules cardId index pending (t :: rest) =
      (readOne rules cardId index pending t).toList ++
        readSegments rules cardId (index + 1) (carry rules pending t) rest := by
  rw [readSegments]
  unfold readOne carry
  cases loneDon? t with
  | some digits => cases hn : integer digits <;> simp [hn, Except.toOption]
  | none =>
    have hsame : (readSegment rules "" 0 none t).isOk =
        (readSegment rules cardId index pending t).isOk := isOk_readSegment
    rw [hsame]
    cases hread : readSegment rules cardId index pending t <;>
      simp [Except.toOption, Except.isOk, Except.toBool]

/-- An ability is read off one of the segments, with the requirement that is carried to it. -/
theorem mem_readSegments_iff {index : Nat} : a ∈ readSegments rules cardId index pending segments ↔
    ∃ done t rest, segments = done ++ t :: rest ∧
      readOne rules cardId (index + done.length : Nat) (done.foldl (carry rules) pending) t =
        some a := by
  induction segments generalizing index pending with
  | nil => simp [readSegments]
  | cons u rest ih =>
    rw [readSegments_cons, List.mem_append, Option.mem_toList, ih]
    constructor
    · rintro (h | ⟨done, t, rest, rfl, h⟩)
      · exact ⟨[], u, rest, rfl, h⟩
      · refine ⟨u :: done, t, rest, rfl, ?_⟩
        rwa [List.length_cons, ← Nat.add_assoc, Nat.add_right_comm]
    · rintro ⟨done, t, rest', heq, h⟩
      cases done with
      | nil =>
        cases heq
        exact .inl h
      | cons v done =>
        cases heq
        refine .inr ⟨done, t, rest', rfl, ?_⟩
        rwa [List.length_cons, ← Nat.add_assoc, Nat.add_right_comm] at h

/-! ## The requirement of an ability -/

theorem hasDon_inj {m : Int} : hasDon m = hasDon n ↔ m = n := by
  constructor
  · intro h
    have hright := congrArg Condition.right h
    cases hright
    rfl
  · rintro rfl
    rfl

/-- No clause of a text asks for attached DON!!. -/
theorem hasDon_not_mem_lifted {body rest : List Char}
    (h : splitConditions body = .ok (conds, rest)) : hasDon n ∉ conds := by
  intro hmem
  obtain ⟨clause, hclause, m, heq⟩ := clause_of_mem_lifted h hmem
  have hquantity : ∀ clause ∈ conditionClauses, clause.quantity ≠ "source.don" := by decide
  have hleft := congrArg Condition.left heq
  simp only [hasDon, Condition.compare, Option.some.injEq, Operand.text.injEq] at hleft
  exact hquantity clause hclause hleft.symm

/-- What is required of an ability by its own label, or else by what is carried to it. -/
theorem readSegment_required (h : readSegment rules cardId index pending t = .ok (some a)) :
    ∃ required conds body rest,
      a.condition = combined ((Option.map hasDon required).toList ++ conds) ∧
      splitConditions body = .ok (conds, rest) ∧
      ∀ n, required = some n ↔ t.Asks n ∨ t.donDigits? = none ∧ pending = some n := by
  unfold readSegment at h
  split at h
  · cases h
  · split at h
    · cases h
    · obtain ⟨⟨timing, trigger⟩, -, h⟩ := ok_of_bind h
      dsimp only at h
      split at h <;> rename_i hdigits
      · obtain ⟨required, hrequired, h⟩ := ok_of_bind h
        obtain ⟨⟨cost, body⟩, -, h⟩ := ok_of_bind h
        obtain ⟨⟨conds, rest⟩, hconds, h⟩ := ok_of_bind h
        obtain ⟨⟨name, kind, parameters⟩, -, h⟩ := ok_of_bind h
        cases h
        refine ⟨required, conds, body, rest, rfl, hconds, fun n => ?_⟩
        obtain ⟨m, hm, rfl⟩ := ok_of_map hrequired
        simp [Segment.Asks, hdigits, hm]
      · obtain ⟨required, hrequired, h⟩ := ok_of_bind h
        cases hrequired
        obtain ⟨⟨cost, body⟩, -, h⟩ := ok_of_bind h
        obtain ⟨⟨conds, rest⟩, hconds, h⟩ := ok_of_bind h
        obtain ⟨⟨name, kind, parameters⟩, -, h⟩ := ok_of_bind h
        cases h
        refine ⟨pending, conds, body, rest, rfl, hconds, fun n => ?_⟩
        simp [Segment.Asks, hdigits]

/-- An ability has the requirement of its own label, or else the one that is carried to it. -/
theorem hasDon_mem_iff (h : readSegment rules cardId index pending t = .ok (some a)) :
    hasDon n ∈ Condition.conjuncts a.condition ↔
      t.Asks n ∨ t.donDigits? = none ∧ pending = some n := by
  obtain ⟨required, conds, body, rest, hcondition, hconds, hrequired⟩ := readSegment_required h
  have hkind : ∀ c ∈ (required.map hasDon).toList ++ conds, c.kind ≠ .and := by
    intro c hc
    rcases List.mem_append.1 hc with hc | hc
    · obtain ⟨m, -, rfl⟩ := Option.map_eq_some_iff.1 (Option.mem_toList.1 hc)
      nofun
    · obtain ⟨clause, -, m, rfl⟩ := clause_of_mem_lifted hconds hc
      nofun
  rw [← hrequired, hcondition, mem_conjuncts_iff hkind, List.mem_append,
    or_iff_left (hasDon_not_mem_lifted hconds), Option.mem_toList, Option.map_eq_some_iff]
  simp [hasDon_inj]

/-- An ability is read off one of the segments, whose number is in its id. It requires some attached
DON!! if and only if the label of the segment asks for it, or that label does not ask for DON!! and
the requirement is carried there: behind the label that stands for it alone there are only
segments that are left out because they cannot be read. -/
theorem requires_own_or_carried (rules : List Rule) (cardId text : String) {a : Ability}
    (h : a ∈ abilities rules cardId text) :
    ∃ done t rest, Segment.ofText text.toList = done ++ t :: rest ∧
      a.id = cardId ++ "-effect-" ++ toString done.length ∧
      ∀ n, hasDon n ∈ Condition.conjuncts a.condition ↔
        t.Asks n ∨ t.donDigits? = none ∧ Carried rules done n := by
  obtain ⟨done, t, rest, hsegments, hone⟩ := mem_readSegments_iff.1 h
  obtain ⟨-, hread⟩ := readOne_eq_some_iff.1 hone
  refine ⟨done, t, rest, hsegments, ?_, fun n => ?_⟩
  · obtain ⟨timing, trigger, required, cost, body, conds, rest, name, kind, parameters, -, -, -, -,
      rfl⟩ := readSegment_eq hread
    rw [Nat.zero_add]
    rfl
  · rw [hasDon_mem_iff hread, foldl_carry_eq_some_iff]

/-- Nothing but a DON!! label, a label without text, and a text that can be read. -/
def lone : Segment := { label := "[DON!! x1]".toList, body := [] }

def mute : Segment := { label := "[On Play]".toList, body := [] }

def attack : Segment := { label := "[When Attacking]".toList, body := "Draw 1 card.".toList }

theorem loneDon?_lone : loneDon? lone = some ['1'] := by cbv

theorem skipped_mute : mute.skipped Rule.standard := by
  have hempty : mute.unlimited = [] := by cbv
  have hlabelled : loneDon? mute = none := by rw [loneDon?, hempty]; rfl
  rw [Segment.skipped, hlabelled]
  dsimp only
  rw [readSegment, hempty]
  rfl

theorem readOne_attack (index : Int) (pending : Option Int) :
    ∃ a, readOne Rule.standard "X" index pending attack = some a ∧
      a.id = "X" ++ "-effect-" ++ toString index := by
  have hwhole : attack.unlimited = attack.body := by cbv
  have hspoken : loneDon? attack = none := by rw [loneDon?, hwhole]; rfl
  have hread : ∃ a, readSegment Rule.standard "X" index pending attack = .ok (some a) ∧
      a.id = "X" ++ "-effect-" ++ toString index := by
    refine ⟨?ability, ?read, ?id⟩
    case read =>
      rw [readSegment, hwhole]
      rfl
    case id => rfl
  obtain ⟨a, hread, hid⟩ := hread
  exact ⟨a, readOne_eq_some_iff.2 ⟨hspoken, hread⟩, hid⟩

theorem requires_own_or_carried_attack :
    ∃ a ∈ abilities Rule.standard "X" "[DON!! x1] [When Attacking] Draw 1 card.",
      ∃ done t rest, Segment.ofText "[DON!! x1] [When Attacking] Draw 1 card.".toList =
          done ++ t :: rest ∧ a.id = "X" ++ "-effect-" ++ toString done.length ∧
        ∀ n, hasDon n ∈ Condition.conjuncts a.condition ↔
          t.Asks n ∨ t.donDigits? = none ∧ Carried Rule.standard done n := by
  have hsegments : Segment.ofText "[DON!! x1] [When Attacking] Draw 1 card.".toList =
      [lone, attack] := by
    cbv
  obtain ⟨a, ha, -⟩ := readOne_attack 1 ([lone].foldl (carry Rule.standard) none)
  have hmem : a ∈ abilities Rule.standard "X" "[DON!! x1] [When Attacking] Draw 1 card." := by
    rw [abilities, hsegments]
    exact mem_readSegments_iff.2 ⟨[lone], attack, [], rfl, ha⟩
  exact ⟨a, hmem, requires_own_or_carried _ _ _ hmem⟩

/-- The requirement does not stop at a segment that cannot be read: a label without text passes it
on to the next one. -/
theorem requirement_carried_past_next : ¬∀ (cardId text : String),
    ∀ a ∈ abilities Rule.standard cardId text, ∃ done t rest,
      Segment.ofText text.toList = done ++ t :: rest ∧
      a.id = cardId ++ "-effect-" ++ toString done.length ∧
      ∀ n, hasDon n ∈ Condition.conjuncts a.condition ↔ t.Asks n ∨ t.donDigits? = none ∧
        ∃ before u, done = before ++ [u] ∧ u.AsksAlone n := by
  intro hclaim
  have hsegments : Segment.ofText "[DON!! x1] [On Play] [When Attacking] Draw 1 card.".toList =
      [lone, mute, attack] := by
    cbv
  have hcarried : Carried Rule.standard [lone, mute] 1 := by
    refine ⟨[], lone, [mute], rfl, asksAlone_iff.2 ⟨['1'], loneDon?_lone, rfl⟩, fun v hv => ?_⟩
    obtain rfl := List.mem_singleton.1 hv
    exact skipped_mute
  obtain ⟨a, ha, hid⟩ := readOne_attack 2 ([lone, mute].foldl (carry Rule.standard) none)
  have hmem : a ∈ abilities Rule.standard "X"
      "[DON!! x1] [On Play] [When Attacking] Draw 1 card." := by
    rw [abilities, hsegments]
    exact mem_readSegments_iff.2 ⟨[lone, mute], attack, [], rfl, ha⟩
  have hrequired : hasDon 1 ∈ Condition.conjuncts a.condition :=
    (hasDon_mem_iff (readOne_eq_some_iff.1 ha).2).2
      (.inr ⟨rfl, foldl_carry_eq_some_iff.2 hcarried⟩)
  obtain ⟨done, t, rest, hsplit, hid', hiff⟩ := hclaim "X" _ a hmem
  rw [hsegments] at hsplit
  rw [hid, String.append_right_inj] at hid'
  have hlength : done.length = 2 := (Nat.repr_inj.1 hid').symm
  obtain ⟨rfl, -⟩ : done = [lone, mute] ∧ _ := List.append_inj hsplit.symm hlength
  obtain ⟨rfl, -⟩ : t = attack ∧ rest = [] := by simpa using hsplit.symm
  rcases (hiff 1).1 hrequired with
    ⟨digits, hdigits, -⟩ | ⟨-, before, u, hlast, -, digits, hdigits, -⟩
  · cases hdigits
  · have hsplit : [lone] ++ [mute] = before ++ [u] := hlast
    obtain ⟨-, hu⟩ := List.append_inj' hsplit rfl
    cases hu
    cases hdigits

end CardText

end CardRules
