import Mathlib
import CardRules.CardText.Abilities
import CardRules.Proofs.CardText.Lifting

/-!
# Printed conditions

A recognised clause of a card text becomes a condition of the ability that is read off the text,
unless it stands before the colon of a cost, which is dropped with it, or inside the run behind a
DON!! clause, which goes on to the next comma or full stop.
-/

namespace CardRules

/-- The conditions that a condition puts together, or the condition itself. -/
def Condition.conjuncts : Option Condition → List Condition
  | none => []
  | some c => if c.kind = .and then c.operands else [c]

namespace CardText

open Text Pattern

/-! ## The clauses -/

/-- What a clause about the player's own side begins with. -/
def start : Pattern := ("if you have " : Pattern) ++ .number

/-- The beginning of a clause that sets an upper limit. -/
def few : Pattern := start ++ " or " ++ .either "less" "fewer"

def donCore : Pattern := start ++ " or more don!! card"

def handCore : Pattern := few ++ " card" ++ .maybe "s" ++ " in your hand"

def lifeCore : Pattern := few ++ " life card"

def opponentCore : Pattern := ("if your opponent has " : Pattern) ++ .number ++ " or more character"

def charactersCore : Pattern := start ++ " or more character"

theorem quiet_digits : number.Quiet opening := by
  have hdigits : (readings 'i').all (fun c => !isDigit c) = true := by decide
  exact quiet_number hdigits

theorem begins_opening {w : List Char} : (word (opening ++ w)).Begins fun c => !isBlank c := by
  have hink : (opening ++ w).head?.any fun l => (readings l).all fun c => !isBlank c := by
    change ((readings 'i').all fun c => !isBlank c) = true
    decide
  exact begins_word hink

/-- A number between two words. -/
theorem core_counted {w ls : List Char} (hw : clashWithin opening (opening ++ w).tail)
    (hl : clashWithin opening ls) (hd : ls.head?.any fun l => (readings l).all fun c => !isDigit c)
    (he : ls.getLast?.any fun l => (readings l).all fun c => !isBlank c) :
    Core (word (opening ++ w) ++ number ++ word ls) where
  plain := rfl
  opens := Opens.both (Opens.both opens_word)
  quiet := QuietTail.both (QuietTail.both (quietTail_word hw) quiet_digits) (quiet_word hl)
  firm := Exact.both (Firm.both (firm_word _) exact_number) (firm_word ls) (begins_word hd)
  begins := Begins.both (Begins.both begins_opening)
  ends := Ends.both (ends_word he)

theorem core_don : Core donCore :=
  core_counted (w := "you have ".toList) (by decide) (by decide) (by decide) (by decide)

theorem core_opponent : Core opponentCore :=
  core_counted (w := "your opponent has ".toList) (by decide) (by decide) (by decide) (by decide)

theorem core_characters : Core charactersCore :=
  core_counted (w := "you have ".toList) (by decide) (by decide) (by decide) (by decide)

theorem firm_few : few.Firm := by
  have hstart : (start ++ word " or ".toList).Firm :=
    Exact.both (Firm.both (firm_word _) exact_number) (firm_word _) (begins_word (by decide))
  have hchoice : (Pattern.either "less" "fewer").Firm :=
    Firm.either (firm_word _) (firm_word _) (disjoint_word (by decide))
  exact Firm.both hstart hchoice

theorem quietTail_few : few.QuietTail opening := by
  have hfirst : (word "if you have ".toList).QuietTail opening := quietTail_word (by decide)
  have hor : (word " or ".toList).Quiet opening := quiet_word (by decide)
  have hchoice : (Pattern.either "less" "fewer").Quiet opening :=
    Quiet.either (quiet_word (by decide)) (quiet_word (by decide))
  exact QuietTail.both (QuietTail.both (QuietTail.both hfirst quiet_digits) hor) hchoice

theorem clausal_few : Clausal few where
  plain := rfl
  opens := by
    have hfirst : (word (opening ++ "you have ".toList)).Opens opening := opens_word
    exact Opens.both (Opens.both (Opens.both hfirst))

theorem begins_few : few.Begins fun c => !isBlank c :=
  Begins.both (Begins.both (Begins.both (begins_opening (w := "you have ".toList))))

theorem core_life : Core lifeCore where
  plain := rfl
  opens := Opens.both clausal_few.opens
  quiet := QuietTail.both quietTail_few (quiet_word (by decide))
  firm := Firm.both firm_few (firm_word _)
  begins := Begins.both begins_few
  ends := Ends.both (ends_word (by decide))

theorem core_hand : Core handCore where
  plain := rfl
  opens := Opens.both (Opens.both (Opens.both clausal_few.opens))
  quiet := QuietTail.both (QuietTail.both (QuietTail.both quietTail_few (quiet_word (by decide)))
    (Quiet.maybe (quiet_word (by decide)))) (quiet_word (by decide))
  firm := by
    have hcards : (few ++ word " card".toList ++ .maybe "s").Exact (sameLetter 's') :=
      Firm.both (Firm.both firm_few (firm_word _)) (exact_maybe_letter 's')
    exact Exact.both hcards (firm_word _) (begins_word (by decide))
  begins := Begins.both (Begins.both (Begins.both begins_few))
  ends := Ends.both (ends_word (by decide))

/-! ### No two of them begin at the same place -/

theorem few_disjoint_more (ls : List Char) (h : clash "less".toList ls)
    (h' : clash "fewer".toList ls) : Disjoint few (start ++ word (" or ".toList ++ ls)) :=
  Disjoint.after_word (Disjoint.either (disjoint_word h) (disjoint_word h'))

theorem few_disjoint_don : Disjoint few donCore :=
  few_disjoint_more "more don!! card".toList (by decide) (by decide)

theorem few_disjoint_characters : Disjoint few charactersCore :=
  few_disjoint_more "more character".toList (by decide) (by decide)

theorem start_disjoint_opponent : Disjoint start opponentCore := by
  have hfirst : Disjoint (word "if you have ".toList) (word "if your opponent has ".toList) :=
    disjoint_word (by decide)
  have hleft : Disjoint start (word "if your opponent has ".toList) := Disjoint.both hfirst
  exact (Disjoint.both (Disjoint.both hleft.symm)).symm

theorem few_disjoint_opponent : Disjoint few opponentCore :=
  Disjoint.both (Disjoint.both start_disjoint_opponent)

theorem hand_disjoint {p : Pattern} (h : Disjoint few p) : Disjoint handCore p :=
  Disjoint.both (Disjoint.both (Disjoint.both h))

theorem life_disjoint {p : Pattern} (h : Disjoint few p) : Disjoint lifeCore p := Disjoint.both h

theorem hand_disjoint_life : Disjoint handCore lifeCore := by
  have hafter : Disjoint (few ++ word " card".toList) (few ++ word " life card".toList) :=
    Disjoint.after (disjoint_word (by decide))
  exact Disjoint.both (Disjoint.both hafter)

/-- The cores of the clauses, in the order of the table. -/
def cores : List Pattern := [donCore, handCore, lifeCore, opponentCore, charactersCore]

theorem cores_disjoint : cores.Pairwise fun p q => Disjoint p q := by
  have hdon : Disjoint donCore opponentCore := Disjoint.both start_disjoint_opponent
  have hmore : Disjoint donCore charactersCore := Disjoint.after (disjoint_word (by decide))
  have hcharacters : Disjoint charactersCore opponentCore := Disjoint.both start_disjoint_opponent
  simp only [cores, List.pairwise_cons, List.forall_mem_cons, List.not_mem_nil, false_implies,
    implies_true, List.Pairwise.nil, and_true]
  exact ⟨⟨(hand_disjoint few_disjoint_don).symm, (life_disjoint few_disjoint_don).symm, hdon, hmore⟩,
    ⟨hand_disjoint_life, hand_disjoint few_disjoint_opponent,
      hand_disjoint few_disjoint_characters⟩,
    ⟨life_disjoint few_disjoint_opponent, life_disjoint few_disjoint_characters⟩,
    hcharacters.symm⟩

/-! ### The table -/

/-- The clause about the DON!! in play, which is lifted first and takes a run of its own. -/
def donClause : ConditionClause := conditionClauses.head (List.cons_ne_nil _ _)

def laterClauses : List ConditionClause := conditionClauses.tail

theorem conditionClauses_built :
    List.Forall₂ (fun c core => Built c.pattern core) conditionClauses cores :=
  .cons (Built.maybe (Built.run (Built.maybe core_don.built rfl)) rfl) <|
  .cons (Built.maybe core_hand.built rfl) <|
  .cons (Built.maybe (Built.maybe core_life.built rfl) rfl) <|
  .cons (Built.maybe (Built.maybe core_opponent.built rfl) rfl) <|
  .cons (Built.maybe (Built.maybe core_characters.built rfl) rfl) .nil

theorem laterClauses_quiet : ∀ c ∈ laterClauses, c.pattern.QuietTail opening := by
  have hplural : (Pattern.maybe "s").Quiet opening := Quiet.maybe (quiet_word (by decide))
  have hmark : (readings 'i').all (fun c => !(c == ',' || c == '.')) = true := by decide
  have hend : clauseEnd.Quiet opening := Quiet.maybe (quiet_one hmark)
  simp only [laterClauses, conditionClauses, List.tail_cons, List.forall_mem_cons,
    List.not_mem_nil, false_implies, implies_true, and_true]
  exact ⟨QuietTail.both core_hand.quiet hend,
    QuietTail.both (QuietTail.both core_life.quiet hplural) hend,
    QuietTail.both (QuietTail.both core_opponent.quiet hplural) hend,
    QuietTail.both (QuietTail.both core_characters.quiet hplural) hend⟩

/-! ## Lifting them one after the other -/

namespace ConditionClause

/-- The clause stands somewhere in a text. -/
def Stands (c : ConditionClause) (s : List Char) : Prop := (c.pattern.find? none s).isSome

/-- The condition that the clause names, with some number, is among others. -/
def Among (c : ConditionClause) (conds : List Condition) : Prop :=
  ∃ n : Int, .compare (.text c.quantity) c.comparison (.int n) ∈ conds

/-- The text without the first occurrence of the clause. -/
def lift (c : ConditionClause) (s : List Char) : List Char :=
  match c.pattern.find? none s with
  | none => s
  | some f => trim (f.before ++ f.taken.rest)

variable {c d : ConditionClause} {core core' : Pattern} {s : List Char}

theorem Stands.lift (hd : Built d.pattern core') (hc : Built c.pattern core)
    (hdisjoint : Disjoint core' core) (h : c.Stands s) :
    c.Stands (d.lift s) ∨ Covers d.pattern c.pattern s := by
  unfold ConditionClause.lift
  split
  · exact .inl h
  · rename_i f hf
    exact isSome_find?_lifted hd.clausal hc (hd.disjoint hc hdisjoint) hf h

end ConditionClause

variable {c : ConditionClause} {clauses : List ConditionClause} {conds : List Condition}
  {s s' : List Char}

theorem exists_core {cores : List Pattern}
    (hb : List.Forall₂ (fun c core => Built c.pattern core) clauses cores) (hc : c ∈ clauses) :
    ∃ core ∈ cores, Built c.pattern core := by
  induction hb with
  | nil => cases hc
  | cons hbuilt _ ih =>
    rcases List.mem_cons.1 hc with rfl | hc
    · exact ⟨_, List.mem_cons_self, hbuilt⟩
    · obtain ⟨core, hcore, hbuilt⟩ := ih hc
      exact ⟨core, List.mem_cons_of_mem _ hcore, hbuilt⟩

theorem liftConditions_cons (h : liftConditions (c :: clauses) s = .ok (conds, s')) :
    ∃ more, liftConditions clauses (c.lift s) = .ok (more, s') ∧ more ⊆ conds ∧
      (c.Stands s → c.Among conds) := by
  rw [liftConditions] at h
  unfold ConditionClause.lift ConditionClause.Stands
  split at h
  · rename_i hnone
    refine ⟨conds, by simpa [hnone] using h, fun _ hx => hx, fun hs => ?_⟩
    rw [hnone] at hs
    cases hs
  · rename_i f hf
    obtain ⟨n, -, h⟩ := ok_of_bind h
    obtain ⟨⟨more, rest⟩, hmore, h⟩ := ok_of_bind h
    cases h
    exact ⟨more, by simpa [hf] using hmore, List.subset_cons_self _ _,
      fun _ => ⟨n, List.mem_cons_self⟩⟩

/-- Every condition that is lifted off a text is what one of the clauses says. -/
theorem clause_of_mem_lifted {x : Condition} (h : liftConditions clauses s = .ok (conds, s'))
    (hx : x ∈ conds) :
    ∃ c ∈ clauses, ∃ n : Int, x = .compare (.text c.quantity) c.comparison (.int n) := by
  induction clauses generalizing s conds with
  | nil =>
    cases h
    cases hx
  | cons c clauses ih =>
    have hlater : ∀ {s conds}, liftConditions clauses s = .ok (conds, s') → x ∈ conds →
        ∃ d ∈ c :: clauses, ∃ n : Int, x = .compare (.text d.quantity) d.comparison (.int n) := by
      intro s conds h hx
      obtain ⟨d, hd, hn⟩ := ih h hx
      exact ⟨d, List.mem_cons_of_mem c hd, hn⟩
    rw [liftConditions] at h
    split at h
    · exact hlater h hx
    · obtain ⟨n, -, h⟩ := ok_of_bind h
      obtain ⟨⟨more, body⟩, hmore, h⟩ := ok_of_bind h
      cases h
      rcases List.mem_cons.1 hx with rfl | hx
      · exact ⟨c, List.mem_cons_self, n, rfl⟩
      · exact hlater hmore hx

/-- A clause is lifted off a text where it stands, whichever disjoint and quiet ones are lifted
before it. -/
theorem liftConditions_among {cores : List Pattern}
    (hb : List.Forall₂ (fun c core => Built c.pattern core) clauses cores)
    (hd : cores.Pairwise fun p q => Disjoint p q)
    (hq : ∀ c ∈ clauses, c.pattern.QuietTail opening)
    (h : liftConditions clauses s = .ok (conds, s')) (hc : c ∈ clauses) (hs : c.Stands s) :
    c.Among conds := by
  induction hb generalizing s conds with
  | nil => cases hc
  | @cons d core clauses cores hbuilt hrest ih =>
    obtain ⟨more, hmore, hsubset, hfirst⟩ := liftConditions_cons h
    rw [List.pairwise_cons] at hd
    rcases List.mem_cons.1 hc with rfl | hc
    · exact hfirst hs
    · obtain ⟨core', hcore', hbuilt'⟩ := exists_core hrest hc
      have hstays : c.Stands (d.lift s) :=
        (hs.lift hbuilt hbuilt' (hd.1 core' hcore')).resolve_right
          (not_covers (hq d List.mem_cons_self) hbuilt'.clausal)
      obtain ⟨n, hn⟩ := ih hd.2 (fun c hc => hq c (List.mem_cons_of_mem d hc)) hmore hc hstays
      exact ⟨n, hsubset hn⟩

/-- What the whole table does: a clause is lifted off unless the DON!! clause covers it. -/
theorem splitConditions_among (h : splitConditions s = .ok (conds, s')) (hc : c ∈ conditionClauses)
    (hs : c.Stands s) :
    c.Among conds ∨ c ∈ laterClauses ∧ Covers donClause.pattern c.pattern s := by
  have hlifted : liftConditions (donClause :: laterClauses) s = .ok (conds, s') := h
  obtain ⟨more, hmore, hsubset, hfirst⟩ := liftConditions_cons hlifted
  have hbuilt := conditionClauses_built
  have hdisjoint := cores_disjoint
  rw [show conditionClauses = donClause :: laterClauses from rfl] at hbuilt hc
  obtain ⟨hdon, hlater⟩ := List.forall₂_cons.1 hbuilt
  rw [cores, List.pairwise_cons] at hdisjoint
  rcases List.mem_cons.1 hc with rfl | hc
  · exact .inl (hfirst hs)
  · obtain ⟨core, hcore, hbuilt⟩ := exists_core hlater hc
    rcases hs.lift hdon hbuilt (hdisjoint.1 core hcore) with hstays | hcovers
    · obtain ⟨n, hn⟩ := liftConditions_among hlater hdisjoint.2 laterClauses_quiet hmore hc hstays
      exact .inl ⟨n, hsubset hn⟩
    · exact .inr ⟨hc, hcovers⟩

/-! ## The cost before the colon -/

/-- The clause begins before the first colon of a text. -/
def ConditionClause.BeforeColon (c : ConditionClause) (s : List Char) : Prop :=
  ∃ u v, s.takeWhile (· != ':') = u ++ v ∧ v ≠ [] ∧
    (c.pattern.take? none (v ++ s.dropWhile (· != ':'))).isSome

/-- A cost takes the text up to the first colon with it. -/
theorem splitCost_cases {cost : Option Cost} {body : List Char}
    (h : splitCost s = .ok (cost, body)) :
    cost = none ∧ body = s ∨
      cost.isSome ∧ CardText.cost (s.takeWhile (· != ':')) = .ok cost ∧
        ∃ rest, s.dropWhile (· != ':') = ':' :: rest ∧ body = trim rest := by
  unfold splitCost at h
  dsimp only at h
  split at h
  · cases h
    exact .inl ⟨rfl, rfl⟩
  · rename_i d rest hrest
    split at h
    · cases h
      exact .inl ⟨rfl, rfl⟩
    · obtain ⟨found, hcost, hfound⟩ := ok_of_map h
      cases found with
      | none =>
        cases hfound
        exact .inl ⟨rfl, rfl⟩
      | some k =>
        cases hfound
        have hcolon := List.head?_dropWhile_not (· != ':') s
        rw [hrest] at hcolon
        have hd : d = ':' := by simpa using hcolon
        exact .inr ⟨rfl, hcost, rest, by rw [hrest, hd], rfl⟩

/-- A clause is still there behind a cost, or it began before the colon. -/
theorem stands_splitCost {core : Pattern} {cost : Option Cost} {body : List Char}
    (hc : Built c.pattern core) (h : splitCost s = .ok (cost, body)) (hs : c.Stands s) :
    c.Stands body ∨ cost.isSome ∧ c.BeforeColon s := by
  obtain ⟨-, rfl⟩ | ⟨hcost, -, rest, hcolon, rfl⟩ := splitCost_cases h
  · exact .inl hs
  · rw [ConditionClause.Stands, hc.isSome_find?] at hs
    obtain ⟨u, v, huv, hv⟩ := (Pattern.find?_isSome_iff hc.isCore.plain).1 hs
    obtain ⟨t, ht⟩ := Option.isSome_iff_exists.1 hv
    -- No clause begins with the colon itself.
    have hopens : v ≠ ':' :: rest := by
      rintro rfl
      have hcolon := hc.isCore.opens ht
      cases hcolon
    have htaken := Pattern.take?_append ht
    have hcut : s.takeWhile (· != ':') ++ ':' :: rest = u ++ v := by
      rw [← hcolon, List.takeWhile_append_dropWhile, huv]
    obtain ⟨x, -, hrest⟩ | ⟨x, hu, hx⟩ := List.append_eq_append_iff.1 hcut
    · cases x with
      | nil => exact absurd hrest.symm hopens
      | cons d x =>
        obtain ⟨-, hrest⟩ := List.cons_eq_cons.1 hrest
        rw [← htaken] at ht hrest
        rw [hrest]
        exact .inl (isSome_find?_trim hc ht)
    · refine .inr ⟨hcost, u, x, hu, ?_, ?_⟩
      · rintro rfl
        exact hopens hx
      · rw [hcolon, ← hx, hc.fits, ht]
        rfl

/-! ## Reading a segment -/

variable {rules : List Rule} {cardId : String} {index : Int} {pendingDon : Option Int}
  {t : Segment} {a : Ability}

theorem mem_conjuncts_combined {x : Condition} (hx : x ∈ conds) (hk : x.kind ≠ .and) :
    x ∈ Condition.conjuncts (combined conds) := by
  cases conds with
  | nil => cases hx
  | cons y rest =>
    cases rest with
    | nil =>
      obtain rfl := List.mem_singleton.1 hx
      simp [combined, Condition.conjuncts, hk]
    | cons z rest => simpa [combined, Condition.conjuncts, Condition.all] using hx

/-- The conditions that are put together are found again. -/
theorem mem_conjuncts_iff {x : Condition} (hk : ∀ c ∈ conds, c.kind ≠ .and) :
    x ∈ Condition.conjuncts (combined conds) ↔ x ∈ conds := by
  refine ⟨fun hx => ?_, fun hx => mem_conjuncts_combined hx (hk x hx)⟩
  cases conds with
  | nil => cases hx
  | cons y rest =>
    cases rest with
    | nil => simpa [combined, Condition.conjuncts, hk y List.mem_cons_self] using hx
    | cons z rest => simpa [combined, Condition.conjuncts, Condition.all] using hx

/-- What an ability has from its label, and from its text: the cost and the conditions, and from
what is left its kind with its parameters. -/
theorem readSegment_eq (h : readSegment rules cardId index pendingDon t = .ok (some a)) :
    ∃ timing trigger, ∃ required : Option Int, ∃ cost body conds rest name kind parameters,
      Label.timing t.label = .ok (timing, trigger) ∧
      splitCost t.unlimited = .ok (cost, body) ∧ splitConditions body = .ok (conds, rest) ∧
      classify rules rest = .ok (name, kind, parameters) ∧
      a = {
        id := cardId ++ "-effect-" ++ toString index, sourceId := cardId,
        label := String.ofList t.label, timing := timing, kind := kind, trigger := trigger,
        condition := combined ((required.map hasDon).toList ++ conds), cost := cost,
        parameters := parameters, oncePerTurn := t.isOncePerTurn } := by
  unfold readSegment at h
  split at h
  · cases h
  · split at h
    · cases h
    · obtain ⟨⟨timing, trigger⟩, htiming, h⟩ := ok_of_bind h
      dsimp only at h
      -- The two sources of a DON!! requirement go on alike.
      split at h <;>
      · obtain ⟨required, -, h⟩ := ok_of_bind h
        obtain ⟨⟨cost, body⟩, hcost, h⟩ := ok_of_bind h
        obtain ⟨⟨conds, rest⟩, hconds, h⟩ := ok_of_bind h
        obtain ⟨⟨name, kind, parameters⟩, hreading, h⟩ := ok_of_bind h
        cases h
        exact ⟨timing, trigger, required, cost, body, conds, rest, name, kind, parameters, htiming,
          hcost, hconds, hreading, rfl⟩

/-- An ability has the cost and the conditions of its text. -/
theorem readSegment_spec (h : readSegment rules cardId index pendingDon t = .ok (some a)) :
    ∃ required body conds rest, splitCost t.unlimited = .ok (a.cost, body) ∧
      splitConditions body = .ok (conds, rest) ∧ a.condition = combined (required ++ conds) := by
  obtain ⟨-, -, required, cost, body, conds, rest, -, -, -, -, hcost, hconds, -, rfl⟩ :=
    readSegment_eq h
  exact ⟨_, body, conds, rest, hcost, hconds, rfl⟩

/-- The clause begins inside the run of the DON!! clause. -/
def ConditionClause.Overrun (c : ConditionClause) (s : List Char) : Prop :=
  c ∈ laterClauses ∧ ∃ cost body, splitCost s = .ok (cost, body) ∧
    Covers donClause.pattern c.pattern body

/-- A clause that stands in the text of a segment is a condition of the ability that is read off
it, unless it began before the colon of the cost or inside the run of a DON!! clause. -/
theorem readSegment_keeps_condition
    (h : readSegment rules cardId index pendingDon t = .ok (some a)) (hc : c ∈ conditionClauses)
    (hs : c.Stands t.unlimited) :
    c.Among (Condition.conjuncts a.condition) ∨
      (a.cost.isSome ∧ c.BeforeColon t.unlimited) ∨ c.Overrun t.unlimited := by
  obtain ⟨required, body, conds, rest, hcost, hconds, hcondition⟩ := readSegment_spec h
  obtain ⟨core, -, hbuilt⟩ := exists_core conditionClauses_built hc
  rcases stands_splitCost hbuilt hcost hs with hbody | hcolon
  · rcases splitConditions_among hconds hc hbody with ⟨n, hn⟩ | ⟨hlater, hcovers⟩
    · refine .inl ⟨n, ?_⟩
      rw [hcondition]
      exact mem_conjuncts_combined (List.mem_append_right _ hn) nofun
    · exact .inr (.inr ⟨hlater, a.cost, body, hcost, hcovers⟩)
  · exact .inr (.inl hcolon)

/-- A segment with two clauses, one after the other. -/
def doubled : Segment where
  label := "[On Play]".toList
  body := "If you have 2 or less life cards, if your opponent has 3 or more Characters, draw 1 card."
    |>.toList

def opponentClause : ConditionClause := conditionClauses[3]

theorem readSegment_keeps_condition_doubled :
    ∃ a, readSegment Rule.standard "X" 0 none doubled = .ok (some a) ∧
      opponentClause.Among (Condition.conjuncts a.condition) := by
  have hwhole : doubled.unlimited = doubled.body := by cbv
  have hcost : splitCost doubled.unlimited = .ok (none, doubled.body) := by rw [hwhole]; rfl
  have hread : ∃ a, readSegment Rule.standard "X" 0 none doubled = .ok (some a) ∧ a.cost = none := by
    refine ⟨?ability, ?read, ?cost⟩
    case read =>
      rw [readSegment, hwhole]
      rfl
    case cost => rfl
  obtain ⟨a, hread, hfree⟩ := hread
  have hstands : opponentClause.Stands doubled.unlimited := by rw [hwhole]; rfl
  have hmem : opponentClause ∈ conditionClauses := List.getElem_mem _
  obtain hamong | ⟨hpaid, -⟩ | ⟨-, cost, body, hsplit, f, x, y, hf, -⟩ :=
    readSegment_keeps_condition hread hmem hstands
  · exact ⟨a, hread, hamong⟩
  · rw [hfree] at hpaid
    cases hpaid
  · rw [hcost] at hsplit
    cases hsplit
    cases hf

/-- A condition in front of a cost. -/
def costly : Segment where
  label := "[Activate: Main]".toList
  body := "If you have 2 or less life cards, rest 1 DON!!: Draw 1 card.".toList

/-- A condition that no comma parts from a DON!! clause. -/
def joined : Segment where
  label := "[On Play]".toList
  body := "If you have 8 or more DON!! cards and if you have 2 or less life cards, draw 1 card."
    |>.toList

def lifeClause : ConditionClause := conditionClauses[2]

/-- The clause stands in a segment, but the ability that is read off it has no such condition. -/
def ConditionClause.LostIn (c : ConditionClause) (t : Segment) : Prop :=
  c.Stands t.unlimited ∧ ∃ a, readSegment Rule.standard "X" 0 none t = .ok (some a) ∧
    ¬c.Among (Condition.conjuncts a.condition)

/-- The cost takes the first condition with it, and the DON!! clause runs over the second. -/
theorem printed_condition_lost :
    lifeClause ∈ conditionClauses ∧
    (Segment.ofText (costly.label ++ ' ' :: costly.body) = [costly] ∧ lifeClause.LostIn costly) ∧
    (Segment.ofText (joined.label ++ ' ' :: joined.body) = [joined] ∧ lifeClause.LostIn joined) := by
  have hcostly : costly.unlimited = costly.body := by cbv
  have hjoined : joined.unlimited = joined.body := by cbv
  refine ⟨List.getElem_mem _, ⟨by cbv, by rw [ConditionClause.Stands, hcostly]; rfl, ?_⟩, by cbv,
    by rw [ConditionClause.Stands, hjoined]; rfl, ?_⟩
  · refine ⟨?ability, ?read, ?lost⟩
    case read =>
      rw [readSegment, hcostly]
      rfl
    case lost =>
      rintro ⟨n, hn⟩
      cases hn
  · refine ⟨?ability', ?read', ?lost'⟩
    case read' =>
      rw [readSegment, hjoined]
      rfl
    case lost' =>
      rintro ⟨n, hn⟩
      have hleft := congrArg Condition.left (List.mem_singleton.1 hn)
      simp [Condition.compare, lifeClause, conditionClauses] at hleft

end CardText

end CardRules
