import CardRules.Resolver.Damage
import CardRules.Resolver.Draw
import CardRules.Resolver.Modify
import CardRules.Resolver.Removal

/-!
# Resolver tables

A table has at most one resolver for each kind of ability, in the order of their registration.
`ResolverTable.standard` covers every kind.
-/

namespace CardRules

structure ResolverTable where
  entries : List (AbilityKind × Resolver) := []

namespace ResolverTable

variable (t : ResolverTable)

def get? (k : AbilityKind) : Option Resolver := t.entries.lookup k

def has (k : AbilityKind) : Bool := (t.get? k).isSome

def size : Nat := t.entries.length

def kinds : List AbilityKind := t.entries.map (·.1)

def insert (k : AbilityKind) (r : Resolver) : Except Fault ResolverTable :=
  if t.has k then .error (.resolverTaken none (some k.name))
  else .ok ⟨t.entries ++ [(k, r)]⟩

def erase (k : AbilityKind) : ResolverTable := ⟨t.entries.filter (·.1 != k)⟩

theorem get?_insert_self {t u : ResolverTable} {k : AbilityKind} {r : Resolver}
    (h : t.insert k r = .ok u) : u.get? k = some r := by
  unfold insert at h
  split at h
  · simp at h
  · rename_i hk
    simp only [Except.ok.injEq] at h
    subst h
    have : t.entries.lookup k = none := by
      simpa only [has, get?, Option.not_isSome_iff_eq_none] using hk
    simp [get?, List.lookup_append, this]

@[simp] theorem get?_erase_self {t : ResolverTable} {k : AbilityKind} :
    (t.erase k).get? k = none := by
  simp only [get?, erase, List.lookup_eq_none_iff, List.mem_filter]
  intro e he
  simpa using Ne.symm (by simpa using he.2)

def accepts (i : Invocation) : Bool := (t.get? i.ability.kind).any (·.accepts i)

/-- The fault for an invocation that its resolver does not accept. -/
def rejection (i : Invocation) : Fault :=
  .invalidEffect
    (some ("Effect cannot be resolved: " ++ i.ability.kind.name ++ " (source: " ++ i.sourceId ++
      ")"))
    (some i.ability.kind.name) (some i.sourceId)

def resolve (i : Invocation) (g : Game) : Hosted Game :=
  match t.get? i.ability.kind with
  | none => throw (.noResolver none (some i.ability.kind.name))
  | some r => if r.accepts i then r.apply i g else throw (rejection i)

/-- Resolvers for all kinds; removal counts attached DON!! with the given bonus. -/
def standard (bonus : DonBonus) : ResolverTable where
  entries := [
    (.powerModification, .powerModification),
    (.grantKeyword, .grantKeyword),
    (.koCharacter, .koCharacter bonus),
    (.bounceCharacter, .bounceCharacter bonus),
    (.banishCharacter, .banishCharacter bonus),
    (.restCharacter, .restCharacter),
    (.activateCharacter, .activateCharacter),
    (.drawCards, .drawCards),
    (.discardCards, .discardCards),
    (.trashCards, .trashCards),
    (.searchDeck, .searchDeck),
    (.dealDamage, .dealDamage),
    (.attachDon, .attachDon)]

end ResolverTable

end CardRules
