import CardRules.Cost.Payment
import CardRules.Proofs.Hosted
import CardRules.Resolver.Table
import CardRules.Script.Stock

/-!
# Only a payment complains

Of all that the library does to a game, `Cost.pay` alone complains of an unpaid cost, and it does
so before it takes anything off (`Cost.solvent_pay`). Every other operation is `Solvent`, and so
are the standard resolvers and the stock scripts that are made of them.
-/

namespace CardRules

variable {g : Game} {who : Player}

/-! ## Games -/

theorem Side.solvent_withCards {s : Side} {zone : Zone} {cards : List Card} :
    Solvent (s.withCards zone cards) := by
  unfold withCards
  split
  · trivial
  · rfl

namespace Game

theorem solvent_side {p : Player} : Solvent (g.side p) := by
  unfold side
  split
  · trivial
  · rfl

theorem solvent_seatedSide {p : Player} : Solvent (g.seatedSide p) := by
  unfold seatedSide
  split
  · trivial
  · rfl

theorem solvent_updateCard {id : String} {change : Card → Card} :
    Solvent (g.updateCard id change) := by
  unfold updateCard
  split
  · rfl
  · exact solvent_bind solvent_seatedSide fun _ =>
      solvent_bind Side.solvent_withCards fun _ => trivial

theorem solvent_returnDon {dons : List Don} : Solvent (g.returnDon dons) := by
  induction dons generalizing g with
  | nil => trivial
  | cons d rest ih => exact solvent_bind solvent_seatedSide fun _ => ih

theorem solvent_releaseDon {c : Card} {origin dest : Zone} :
    Solvent (g.releaseDon c origin dest) := by
  unfold releaseDon
  split
  · exact solvent_returnDon
  · trivial

theorem solvent_moveCard {id : String} {dest : Zone} {toBottom : Bool} :
    Solvent (g.moveCard id dest toBottom) := by
  unfold moveCard
  split
  · rfl
  · refine solvent_bind solvent_seatedSide fun _ => solvent_bind Side.solvent_withCards fun _ => ?_
    exact solvent_bind solvent_releaseDon fun _ => solvent_bind solvent_seatedSide fun _ =>
      solvent_bind Side.solvent_withCards fun _ => trivial

theorem solvent_moveCards {dest : Zone} {ids : List String} : Solvent (g.moveCards dest ids) := by
  induction ids generalizing g with
  | nil => trivial
  | cons id rest ih => exact solvent_bind solvent_moveCard fun _ => ih

theorem solvent_restDon {p : Player} {amount : Int} : Solvent (g.restDon p amount) := by
  refine solvent_bind solvent_side fun s => ?_
  dsimp only
  split
  · rfl
  · trivial

theorem solvent_attachDon {p : Player} {id : String} {amount : Int} :
    Solvent (g.attachDon p id amount) := by
  refine solvent_bind solvent_side fun s => ?_
  dsimp only
  split
  · trivial
  · exact solvent_bind solvent_updateCard fun _ => trivial

theorem solvent_setFlag {p : Player} {key : String} {value : Json} :
    Solvent (g.setFlag p key value) :=
  solvent_bind solvent_side fun _ => trivial

theorem solvent_dealDamage {p : Player} {amount : Nat} : Solvent (g.dealDamage p amount) := by
  induction amount generalizing g with
  | zero => trivial
  | succ amount ih =>
    refine solvent_bind solvent_side fun s => ?_
    split
    · exact solvent_setFlag
    · exact solvent_bind solvent_moveCard fun _ => ih

end Game

/-! ## Costs -/

namespace Cost

theorem solvent_restCards {ids : List String} : Solvent (restCards g ids) := by
  induction ids generalizing g with
  | nil => trivial
  | cons id rest ih => exact solvent_bind Game.solvent_updateCard fun _ => ih

theorem solvent_debitSimple {kind : CostKind} {amount : Int} :
    Solvent (debitSimple g who kind amount) := by
  cases kind with
  | restDon => exact Game.solvent_restDon
  | trashCard => exact solvent_bind Game.solvent_side fun _ => Game.solvent_moveCards
  | restCard => exact solvent_bind Game.solvent_side fun _ => solvent_restCards
  | composite => trivial

mutual
theorem solvent_debit : ∀ (c : Cost) (g : Game), Solvent (debit who c g)
  | ⟨kind, amount, parts⟩, g => by
    cases kind with
    | composite => exact solvent_debitAll parts g
    | restDon | trashCard | restCard =>
      simp only [debit]
      exact solvent_debitSimple

theorem solvent_debitAll : ∀ (cs : List Cost) (g : Game), Solvent (debitAll who cs g)
  | [], _ => trivial
  | c :: rest, g => solvent_bind (solvent_debit c g) fun g => solvent_debitAll rest g
end

/-- Paying what can be paid does not complain of an unpaid cost. -/
theorem solvent_pay {c : Cost} (h : c.canPay who g = .ok true) : Solvent (c.pay who g) := by
  unfold pay
  rw [h]
  exact solvent_debit c g

end Cost

/-! ## Resolvers -/

namespace Resolver

open Game

/-- Whatever it is asked to do, it does not complain of an unpaid cost. -/
def Solvent (r : Resolver) : Prop := ∀ i g, Hosted.Solvent (r.apply i g)

variable {i : Invocation} {c : Card}

theorem solvent_plain {name : String} {accepts : Invocation → Bool}
    {next : Invocation → Game → Except Fault Game} (hn : ∀ i g, CardRules.Solvent (next i g)) :
    Solvent (plain name accepts next) :=
  fun i g => Hosted.solvent_lift (hn i g)

theorem solvent_eachCard {treat : Card → Game → Except Fault Game} {ids : List String}
    (ht : ∀ c g, CardRules.Solvent (treat c g)) : CardRules.Solvent (eachCard treat ids g) := by
  induction ids generalizing g with
  | nil => trivial
  | cons id rest ih =>
    unfold eachCard
    split
    · exact ih
    · exact solvent_bind (ht _ g) fun _ => ih

theorem solvent_onCards {name : String} {accepts : Invocation → Bool}
    {treat : Invocation → Card → Game → Except Fault Game}
    (ht : ∀ i c g, CardRules.Solvent (treat i c g)) : Solvent (onCards name accepts treat) :=
  solvent_plain fun i _ => solvent_eachCard (ht i)

theorem solvent_chosenIds : CardRules.Solvent (chosenIds i) := by
  unfold chosenIds
  split
  · trivial
  · trivial
  · split
    · rfl
    · trivial
  · trivial
  · trivial
  · rfl

/-- Taking the chosen cards, or others where none are chosen. -/
theorem solvent_discards {hand : List Card} : CardRules.Solvent (discards i hand) := by
  refine solvent_bind solvent_chosenIds fun ids => ?_
  cases ids <;> trivial

theorem solvent_picks {matching : List Card} : CardRules.Solvent (picks i matching) := by
  refine solvent_bind solvent_chosenIds fun ids => ?_
  cases ids <;> trivial

theorem solvent_takeFromDeck {dest : Zone} : CardRules.Solvent (takeFromDeck dest i g) :=
  solvent_bind solvent_side fun _ => solvent_moveCards

theorem solvent_discardCards : Solvent discardCards :=
  solvent_plain fun _ _ => solvent_bind solvent_side fun _ =>
    solvent_bind solvent_discards fun _ => solvent_moveCards

theorem solvent_trashOne : CardRules.Solvent (trashOne c g) := by
  unfold trashOne
  split
  · trivial
  · exact solvent_moveCard

theorem solvent_trashCards : Solvent trashCards := by
  refine solvent_plain fun i g => ?_
  split
  · exact solvent_takeFromDeck
  · exact solvent_eachCard fun _ _ => solvent_trashOne

theorem solvent_lookAndTake : CardRules.Solvent (lookAndTake i g) := by
  refine solvent_bind solvent_side fun s => ?_
  dsimp only
  split
  · trivial
  · exact solvent_bind solvent_picks fun _ => solvent_bind solvent_moveCards fun _ =>
      solvent_moveCards

theorem solvent_damageAll {amount : Nat} {players : List Player} :
    CardRules.Solvent (damageAll amount players g) := by
  induction players generalizing g with
  | nil => trivial
  | cons p rest ih => exact solvent_bind solvent_dealDamage fun _ => ih

theorem solvent_dealDamage : Solvent dealDamage := by
  refine solvent_plain fun i g => ?_
  dsimp only
  split
  · trivial
  · exact solvent_damageAll

theorem solvent_attachModifier {kind : ModifierKind} {value : ModifierValue} :
    CardRules.Solvent (attachModifier kind value i c g) := by
  unfold attachModifier addModifier
  exact solvent_updateCard

theorem solvent_orient {o : Orientation} : CardRules.Solvent (orient o c g) := by
  unfold orient
  split
  · exact solvent_updateCard
  · trivial

theorem solvent_giveDon : CardRules.Solvent (giveDon i c g) := by
  unfold giveDon
  split
  · exact solvent_map solvent_attachDon
  · trivial

theorem solvent_removeCharacter {bonus : DonBonus} {dest : Zone} :
    CardRules.Solvent (removeCharacter bonus dest i c g) := by
  unfold removeCharacter
  split
  · exact solvent_moveCard
  · trivial

end Resolver

namespace ResolverTable

/-- Every resolver of the table is solvent. -/
def Solvent (t : ResolverTable) : Prop := ∀ e ∈ t.entries, e.2.Solvent

theorem standard_solvent (bonus : DonBonus) : (standard bonus).Solvent := by
  intro e he
  simp only [standard, List.mem_cons, List.not_mem_nil, or_false] at he
  rcases he with rfl | rfl | rfl | rfl | rfl | rfl | rfl | rfl | rfl | rfl | rfl | rfl | rfl
  · exact Resolver.solvent_onCards fun _ _ _ => Resolver.solvent_attachModifier
  · exact Resolver.solvent_onCards fun _ _ _ => Resolver.solvent_attachModifier
  · exact Resolver.solvent_onCards fun _ _ _ => Resolver.solvent_removeCharacter
  · exact Resolver.solvent_onCards fun _ _ _ => Resolver.solvent_removeCharacter
  · exact Resolver.solvent_onCards fun _ _ _ => Resolver.solvent_removeCharacter
  · exact Resolver.solvent_onCards fun _ _ _ => Resolver.solvent_orient
  · exact Resolver.solvent_onCards fun _ _ _ => Resolver.solvent_orient
  · exact Resolver.solvent_plain fun _ _ => Resolver.solvent_takeFromDeck
  · exact Resolver.solvent_discardCards
  · exact Resolver.solvent_trashCards
  · exact Resolver.solvent_plain fun _ _ => Resolver.solvent_lookAndTake
  · exact Resolver.solvent_dealDamage
  · exact Resolver.solvent_onCards fun _ _ _ => Resolver.solvent_giveDon

theorem Solvent.resolve {t : ResolverTable} (ht : t.Solvent) (i : Invocation) (g : Game) :
    Hosted.Solvent (t.resolve i g) := by
  intro journal
  unfold ResolverTable.resolve
  cases hr : t.get? i.ability.kind with
  | none => rfl
  | some r =>
    obtain ⟨before, after, hentries, -⟩ := List.lookup_eq_some_iff.1 hr
    have hmem : (i.ability.kind, r) ∈ t.entries := by rw [hentries]; simp
    dsimp only
    split
    · exact ht _ hmem i g journal
    · rfl

end ResolverTable

end CardRules
