import CardRules.Cost.Payment
import CardRules.Proofs.Game.Step
import CardRules.Resolver.Table

/-!
# What the library makes of steps

Paying a cost and carrying out an ability give a game that the old one reaches. A resolver `Makes`
steps of some kind when it reaches all its outcomes in such steps. All resolvers of
`ResolverTable.standard` do so in steps that turn cards on the field only, so they are `Lawful`.
-/

namespace CardRules

open Game (FieldReaches FieldStep Reaches Step)

variable {g h k : Game} {p who : Player}

namespace Game

theorem fieldReaches_moveCards {dest : Zone} {ids : List String}
    (hm : g.moveCards dest ids = .ok h) : FieldReaches g h := by
  induction ids generalizing g with
  | nil => cases hm; exact .refl
  | cons id rest ih =>
    obtain ⟨k, hk, hm⟩ := ok_of_bind hm
    exact .head (.move hk) (ih hm)

theorem fieldReaches_dealDamage {amount : Nat} (hd : g.dealDamage p amount = .ok h) :
    FieldReaches g h := by
  induction amount generalizing g with
  | zero => cases hd; exact .refl
  | succ amount ih =>
    obtain ⟨s, -, hd⟩ := ok_of_bind hd
    split at hd
    · exact (FieldStep.flag hd).reaches
    · obtain ⟨k, hk, hd⟩ := ok_of_bind hd
      exact .head (.move hk) (ih hd)

theorem id_of_card? {id : String} {c : Card} (hc : g.card? id = some c) : c.id = id := by
  obtain ⟨found, hl, rfl⟩ := Option.map_eq_some_iff.1 hc
  exact id_of_locate? hl

end Game

/-! ## Costs -/

namespace Cost

theorem reaches_restCards {ids : List String} (hr : restCards g ids = .ok h) : Reaches g h := by
  induction ids generalizing g with
  | nil => cases hr; exact .refl
  | cons id rest ih =>
    obtain ⟨k, hk, hr⟩ := ok_of_bind hr
    exact .head (.orient hk) (ih hr)

theorem reaches_debitSimple {kind : CostKind} {amount : Int}
    (hd : debitSimple g who kind amount = .ok h) : Reaches g h := by
  cases kind with
  | restDon => exact (Step.restDon hd).reaches
  | trashCard =>
    obtain ⟨s, -, hd⟩ := ok_of_bind hd
    exact (Game.fieldReaches_moveCards hd).reaches
  | restCard =>
    obtain ⟨s, -, hd⟩ := ok_of_bind hd
    exact reaches_restCards hd
  | composite => cases hd; exact .refl

section

variable {R : Game → Game → Prop}

mutual
/-- What taking simple costs off does, taking costs off part by part does as well. -/
theorem rel_debit (hrefl : ∀ g, R g g) (htrans : ∀ {g h k}, R g h → R h k → R g k)
    (hsimple : ∀ {kind amount g h}, debitSimple g who kind amount = .ok h → R g h) :
    ∀ {c : Cost} {g h : Game}, debit who c g = .ok h → R g h := by
  intro c g h hd
  obtain ⟨kind, amount, parts⟩ := c
  cases kind with
  | composite => exact rel_debitAll hrefl htrans hsimple hd
  | restDon | trashCard | restCard =>
    simp only [debit] at hd
    exact hsimple hd

theorem rel_debitAll (hrefl : ∀ g, R g g) (htrans : ∀ {g h k}, R g h → R h k → R g k)
    (hsimple : ∀ {kind amount g h}, debitSimple g who kind amount = .ok h → R g h) :
    ∀ {cs : List Cost} {g h : Game}, debitAll who cs g = .ok h → R g h := by
  intro cs g h hd
  cases cs with
  | nil =>
    cases hd
    exact hrefl g
  | cons c rest =>
    rw [debitAll] at hd
    obtain ⟨k, hk, hd⟩ := ok_of_bind hd
    exact htrans (rel_debit hrefl htrans hsimple hk) (rel_debitAll hrefl htrans hsimple hd)
end

end

theorem reaches_debit {c : Cost} (hd : debit who c g = .ok h) : Reaches g h :=
  rel_debit (fun _ => .refl) .trans reaches_debitSimple hd

theorem debit_of_pay {c : Cost} (hp : c.pay who g = .ok h) : debit who c g = .ok h := by
  obtain ⟨affordable, -, hp⟩ := ok_of_bind hp
  cases affordable with
  | true => exact hp
  | false =>
    obtain ⟨has, -, hp⟩ := ok_of_bind hp
    cases hp

theorem reaches_pay {c : Cost} (hp : c.pay who g = .ok h) : Reaches g h :=
  reaches_debit (debit_of_pay hp)

end Cost

/-! ## Resolvers -/

namespace Resolver

/-- Whatever the resolver gives is reached in steps of a kind. -/
def Makes (R : Game → Game → Prop) (r : Resolver) : Prop :=
  ∀ {i g h journal}, ((r.apply i g).outcome journal).1 = .ok h → Relation.ReflTransGen R g h

/-- Whatever the resolver gives is reached from the game it was given. -/
def Lawful (r : Resolver) : Prop := r.Makes Step

variable {R : Game → Game → Prop}

theorem makes_plain {name : String} {accepts : Invocation → Bool}
    {next : Invocation → Game → Except Fault Game}
    (hn : ∀ {i g h}, next i g = .ok h → Relation.ReflTransGen R g h) :
    Makes R (plain name accepts next) := by
  intro i g h journal ha
  rw [plain, Hosted.outcome_lift] at ha
  exact hn ha

/-- What treating a card makes of a game in steps of some kind, treating cards one after the other
does as well. -/
theorem chain_eachCard {treat : Card → Game → Except Fault Game}
    {ids : List String} (ht : ∀ {c g h}, g.card? c.id = some c → treat c g = .ok h →
      Relation.ReflTransGen R g h)
    (he : eachCard treat ids g = .ok h) : Relation.ReflTransGen R g h := by
  induction ids generalizing g with
  | nil => cases he; exact .refl
  | cons id rest ih =>
    rw [eachCard] at he
    split at he
    · exact ih he
    · rename_i c hc
      obtain ⟨k, hk, he⟩ := ok_of_bind he
      exact (ht (by rw [Game.id_of_card? hc, hc]) hk).trans (ih he)

theorem makes_onCards {name : String} {accepts : Invocation → Bool}
    {treat : Invocation → Card → Game → Except Fault Game}
    (ht : ∀ {i c g h}, g.card? c.id = some c → treat i c g = .ok h →
      Relation.ReflTransGen R g h) :
    Makes R (onCards name accepts treat) :=
  makes_plain (chain_eachCard ht)

theorem fieldReaches_takeFromDeck {dest : Zone} {i : Invocation}
    (ht : takeFromDeck dest i g = .ok h) : FieldReaches g h := by
  obtain ⟨s, -, ht⟩ := ok_of_bind ht
  exact Game.fieldReaches_moveCards ht

theorem fieldReaches_trashOne {c : Card} (ht : trashOne c g = .ok h) : FieldReaches g h := by
  unfold trashOne at ht
  split at ht
  · cases ht; exact .refl
  · exact (FieldStep.move ht).reaches

theorem fieldReaches_lookAndTake {i : Invocation} (hl : lookAndTake i g = .ok h) :
    FieldReaches g h := by
  obtain ⟨s, -, hl⟩ := ok_of_bind hl
  simp only [] at hl
  split at hl
  · cases hl; exact .refl
  · obtain ⟨picked, -, hl⟩ := ok_of_bind hl
    obtain ⟨k, hk, hl⟩ := ok_of_bind hl
    exact (Game.fieldReaches_moveCards hk).trans (Game.fieldReaches_moveCards hl)

/-- A character that is turned says that it lies in the character area. -/
theorem fieldReaches_orient {o : Orientation} {c : Card} (hc : g.card? c.id = some c)
    (ho : orient o c g = .ok h) : FieldReaches g h := by
  unfold orient at ho
  split at ho
  · rename_i hturns
    obtain ⟨found, hl, rfl⟩ := Option.map_eq_some_iff.1 hc
    simp only [Card.isFieldCharacter, Bool.and_eq_true, beq_iff_eq] at hturns
    have hfield : found.card.onField := by
      rw [Card.onField, hturns.1.2]
      rfl
    exact (FieldStep.turn hl (.inr hfield) ho).reaches
  · cases ho; exact .refl

theorem fieldReaches_giveDon {i : Invocation} {c : Card} (hc : g.card? c.id = some c)
    (hd : giveDon i c g = .ok h) : FieldReaches g h := by
  unfold giveDon at hd
  split at hd
  · rename_i htakes
    cases ha : g.attachDon c.controller c.id (i.ability.parameters.value.getD 1) with
    | error f => rw [ha] at hd; cases hd
    | ok given =>
      rw [ha] at hd
      cases hd
      exact (FieldStep.giveDon hc htakes ha).reaches
  · cases hd; exact .refl

theorem fieldReaches_removeCharacter {bonus : DonBonus} {dest : Zone} {i : Invocation} {c : Card}
    (hr : removeCharacter bonus dest i c g = .ok h) : FieldReaches g h := by
  unfold removeCharacter at hr
  split at hr
  · exact (FieldStep.move hr).reaches
  · cases hr; exact .refl

theorem fieldReaches_damageAll {amount : Nat} {players : List Player}
    (hd : damageAll amount players g = .ok h) : FieldReaches g h := by
  induction players generalizing g with
  | nil => cases hd; exact .refl
  | cons p rest ih =>
    obtain ⟨k, hk, hd⟩ := ok_of_bind hd
    exact (Game.fieldReaches_dealDamage hk).trans (ih hd)

theorem makes_discardCards : Makes FieldStep discardCards := by
  refine makes_plain fun hd => ?_
  obtain ⟨s, -, hd⟩ := ok_of_bind hd
  obtain ⟨ids, -, hd⟩ := ok_of_bind hd
  exact Game.fieldReaches_moveCards hd

theorem makes_trashCards : Makes FieldStep trashCards := by
  refine makes_plain fun ht => ?_
  split at ht
  · exact fieldReaches_takeFromDeck ht
  · exact chain_eachCard (fun _ => fieldReaches_trashOne) ht

theorem makes_dealDamage : Makes FieldStep dealDamage := by
  refine makes_plain fun hd => ?_
  simp only [] at hd
  split at hd
  · cases hd; exact .refl
  · exact fieldReaches_damageAll hd

end Resolver

namespace ResolverTable

/-- Every resolver of the table is lawful. -/
def Lawful (t : ResolverTable) : Prop := ∀ e ∈ t.entries, e.2.Lawful

theorem standard_makes (bonus : DonBonus) :
    ∀ e ∈ (standard bonus).entries, e.2.Makes FieldStep := by
  intro e he
  simp only [standard, List.mem_cons, List.not_mem_nil, or_false] at he
  rcases he with rfl | rfl | rfl | rfl | rfl | rfl | rfl | rfl | rfl | rfl | rfl | rfl | rfl
  · exact Resolver.makes_onCards fun _ h => (FieldStep.modify h).reaches
  · exact Resolver.makes_onCards fun _ h => (FieldStep.modify h).reaches
  · exact Resolver.makes_onCards fun _ => Resolver.fieldReaches_removeCharacter
  · exact Resolver.makes_onCards fun _ => Resolver.fieldReaches_removeCharacter
  · exact Resolver.makes_onCards fun _ => Resolver.fieldReaches_removeCharacter
  · exact Resolver.makes_onCards Resolver.fieldReaches_orient
  · exact Resolver.makes_onCards Resolver.fieldReaches_orient
  · exact Resolver.makes_plain Resolver.fieldReaches_takeFromDeck
  · exact Resolver.makes_discardCards
  · exact Resolver.makes_trashCards
  · exact Resolver.makes_plain Resolver.fieldReaches_lookAndTake
  · exact Resolver.makes_dealDamage
  · exact Resolver.makes_onCards Resolver.fieldReaches_giveDon

theorem standard_lawful (bonus : DonBonus) : (standard bonus).Lawful := by
  intro e he i g h journal ha
  exact FieldReaches.reaches (standard_makes bonus e he ha)

theorem mem_of_get? {t : ResolverTable} {kind : AbilityKind} {r : Resolver}
    (hr : t.get? kind = some r) : (kind, r) ∈ t.entries := by
  obtain ⟨l₁, l₂, he, -⟩ := List.lookup_eq_some_iff.1 hr
  rw [he]
  exact List.mem_append_right _ List.mem_cons_self

theorem accepts_of_get? {t : ResolverTable} {i : Invocation} {r : Resolver}
    (hr : t.get? i.ability.kind = some r) : t.accepts i = r.accepts i := by
  rw [accepts, hr, Option.any_some]

theorem resolve_of_get? {t : ResolverTable} {i : Invocation} {r : Resolver}
    (hr : t.get? i.ability.kind = some r) (ha : r.accepts i) : t.resolve i g = r.apply i g := by
  unfold resolve
  rw [hr]
  exact if_pos ha

theorem chain_resolve {R : Game → Game → Prop} {t : ResolverTable} {i : Invocation}
    {journal : Journal} (ht : ∀ e ∈ t.entries, e.2.Makes R)
    (hr : ((t.resolve i g).outcome journal).1 = .ok h) : Relation.ReflTransGen R g h := by
  unfold resolve at hr
  split at hr
  · cases hr
  · rename_i r hget
    split at hr
    · exact ht _ (mem_of_get? hget) hr
    · cases hr

end ResolverTable

end CardRules
