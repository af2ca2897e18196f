import CardRules.Proofs.Hosted

/-!
# Conditions in normal form

Pushing the negations of a condition down to what cannot be taken apart (`Condition.nnf`), and
splicing conjunctions into conjunctions and alternatives into alternatives
(`Condition.flatten`), cannot be noticed: the verdict or fault is the same, and the same probes
are asked in the same order, whatever they answer.

A truth table does not show this, because operands are only evaluated as far as they are needed
and probes may fail, or answer differently the next time. What a condition does is laid out
instead as an `Inquiry`, the tree of the questions it asks; a rewritten condition has the same
inquiry (`inquiry_push`, `inquiry_flatten`).
-/

namespace CardRules

/-- The questions that a condition puts to the host, each with what follows on its answer. -/
inductive Inquiry where
  | settled (verdict : Except Fault Bool)
  | ask (p : Probe) (next : Bool → Inquiry)

namespace Inquiry

variable {ctx : Context} {f g : Bool → Inquiry}

/-- Puts the questions, one after the other. -/
def run (ctx : Context) : Inquiry → Hosted Bool
  | settled verdict => Hosted.lift verdict
  | ask p next => do
    let b ← ctx.answer.probe p ctx.toView
    (next b).run ctx

/-- The probes that are asked, in order, when the journal starts as given. -/
def asked (ctx : Context) : Inquiry → Journal → List Probe
  | settled _, _ => []
  | ask p next, journal =>
    p :: match (ctx.answer.probe p ctx.toView).outcome journal with
      | (.ok b, journal) => (next b).asked ctx journal
      | (.error _, _) => []

/-- Goes on with the verdict. A fault ends the inquiry. -/
def chain : Inquiry → (Bool → Inquiry) → Inquiry
  | settled (.ok b), f => f b
  | settled (.error e), _ => settled (.error e)
  | ask p next, f => ask p fun b => (next b).chain f

/-- The same questions, with the opposite verdict if `negated`. -/
def signed (negated : Bool) (x : Inquiry) : Inquiry :=
  x.chain fun b => settled (.ok (negated ^^ b))

theorem chain_settled : ∀ x : Inquiry, (x.chain fun b => settled (.ok b)) = x
  | settled (.ok _) => rfl
  | settled (.error _) => rfl
  | ask p next => congrArg (ask p) (funext fun b => chain_settled (next b))

theorem chain_assoc : ∀ x : Inquiry, (x.chain f).chain g = x.chain fun b => (f b).chain g
  | settled (.ok _) => rfl
  | settled (.error _) => rfl
  | ask p next => congrArg (ask p) (funext fun b => chain_assoc (next b))

theorem signed_false (x : Inquiry) : x.signed false = x := by
  simp only [signed, Bool.false_xor]
  exact chain_settled x

theorem signed_signed (m n : Bool) (x : Inquiry) : (x.signed m).signed n = x.signed (n ^^ m) := by
  simp only [signed, chain_assoc, chain, Bool.xor_assoc]

theorem run_chain : ∀ x : Inquiry, (x.chain f).run ctx = x.run ctx >>= fun b => (f b).run ctx
  | settled (.ok _) => rfl
  | settled (.error _) => rfl
  | ask p next => by
    rw [chain, run, run, bind_assoc]
    exact congrArg _ (funext fun b => run_chain (next b))

end Inquiry

namespace Condition

open Inquiry (settled ask)

variable {ctx : Context} {c : Condition}

/-! ## The shapes of a condition -/

/-- The junction whose operands are looked through for the verdict `stop`. -/
def junction (stop : Bool) : ConditionKind := if stop then .or else .and

/-- It is neither a junction nor the negation of one operand. -/
def Apart (c : Condition) : Prop :=
  c.kind ≠ .and ∧ c.kind ≠ .or ∧ (c.kind = .not → c.operands.length ≠ 1)

theorem Apart.ne_junction (h : c.Apart) (stop : Bool) : c.kind ≠ junction stop := by
  cases stop with
  | false => exact h.1
  | true => exact h.2.1

theorem shape_cases (c : Condition) : (∃ stop, c.kind = junction stop) ∨
    (∃ d, c.kind = .not ∧ c.operands = [d]) ∨ c.Apart := by
  by_cases hand : c.kind = .and
  · exact .inl ⟨false, hand⟩
  by_cases hor : c.kind = .or
  · exact .inl ⟨true, hor⟩
  by_cases hnot : c.kind = .not ∧ c.operands.length = 1
  · obtain ⟨d, hd⟩ := List.length_eq_one_iff.1 hnot.2
    exact .inr (.inl ⟨d, hnot.1, hd⟩)
  · exact .inr (.inr ⟨hand, hor, fun hk hl => hnot ⟨hk, hl⟩⟩)

theorem sizeOf_lt_of_mem_operands {d : Condition} (h : d ∈ c.operands) : sizeOf d < sizeOf c := by
  obtain ⟨kind, operands, operator, left, right, keyword, zone, color, probe⟩ := c
  have hmem : sizeOf d < sizeOf operands := List.sizeOf_lt_of_mem h
  rw [mk.sizeOf_spec]
  omega

/-- Induction over conditions by the shapes that rewriting tells apart. -/
theorem shapes {P : Condition → Prop}
    (junction : ∀ c stop, c.kind = junction stop → (∀ d ∈ c.operands, P d) → P c)
    (negation : ∀ c d, c.kind = .not → c.operands = [d] → P d → P c)
    (apart : ∀ c, c.Apart → P c) (c : Condition) : P c := by
  obtain ⟨stop, hk⟩ | ⟨d, hk, ho⟩ | h := c.shape_cases
  · exact junction c stop hk fun d hd => shapes junction negation apart d
  · exact negation c d hk ho (shapes junction negation apart d)
  · exact apart c h
termination_by sizeOf c
decreasing_by
  · exact sizeOf_lt_of_mem_operands hd
  · exact sizeOf_lt_of_mem_operands (ho ▸ List.mem_singleton_self d)

/-! ## The questions of a condition -/

mutual
/-- The questions that a condition asks. -/
def inquiry (ctx : Context) : Condition → Inquiry
  | ⟨kind, operands, operator, left, right, keyword, zone, color, probe⟩ =>
    match kind with
    | .and => inquiryUntil false ctx operands
    | .or => inquiryUntil true ctx operands
    | .not =>
      match operands with
      | [c] => (inquiry ctx c).signed true
      | _ => settled (.error (malformed .not
          ("NOT takes exactly one operand, got " ++ toString operands.length)))
    | .compare => settled (evalCompare ctx operator left right)
    | .hasKeyword => settled (.ok (sourceHasKeyword ctx keyword))
    | .inZone => settled (.ok (sourceInZone ctx zone))
    | .isColor => settled (.ok (sourceIsColor ctx color))
    | .custom =>
      match probe with
      | some p => ask p fun b => settled (.ok b)
      | none => settled (.error (malformed .custom "CUSTOM condition has no predicate"))

/-- The questions of some operands, up to the first with the verdict `stop`. -/
def inquiryUntil (stop : Bool) (ctx : Context) : List Condition → Inquiry
  | [] => settled (.ok !stop)
  | c :: rest => (inquiry ctx c).chain fun b =>
    if b = stop then settled (.ok stop) else inquiryUntil stop ctx rest
end

mutual
/-- Evaluating a condition is putting its questions. -/
theorem run_inquiry : ∀ c : Condition, (c.inquiry ctx).run ctx = c.eval ctx
  | ⟨kind, operands, operator, left, right, keyword, zone, color, probe⟩ => by
    cases kind with
    | and => exact run_inquiryUntil_false operands
    | or => exact run_inquiryUntil_true operands
    | not =>
      match operands with
      | [] => rfl
      | [c] =>
        rw [inquiry, Inquiry.signed, Inquiry.run_chain, run_inquiry c]
        refine congrArg _ (funext fun b => ?_)
        cases b <;> rfl
      | _ :: _ :: _ => rfl
    | compare | hasKeyword | inZone | isColor => rfl
    | custom =>
      cases probe with
      | some p => exact bind_pure _
      | none => rfl

theorem run_inquiryUntil_false :
    ∀ cs : List Condition, (inquiryUntil false ctx cs).run ctx = evalAll ctx cs
  | [] => rfl
  | c :: rest => by
    rw [inquiryUntil, Inquiry.run_chain, run_inquiry c]
    refine congrArg _ (funext fun b => ?_)
    cases b with
    | true => exact run_inquiryUntil_false rest
    | false => rfl

theorem run_inquiryUntil_true :
    ∀ cs : List Condition, (inquiryUntil true ctx cs).run ctx = evalAny ctx cs
  | [] => rfl
  | c :: rest => by
    rw [inquiryUntil, Inquiry.run_chain, run_inquiry c]
    refine congrArg _ (funext fun b => ?_)
    cases b with
    | true => rfl
    | false => exact run_inquiryUntil_true rest
end

theorem inquiry_junction {stop : Bool} (h : c.kind = junction stop) :
    c.inquiry ctx = inquiryUntil stop ctx c.operands := by
  obtain ⟨kind, operands, operator, left, right, keyword, zone, color, probe⟩ := c
  cases h
  cases stop <;> rfl

theorem inquiry_negation {d : Condition} (hk : c.kind = .not) (ho : c.operands = [d]) :
    c.inquiry ctx = (d.inquiry ctx).signed true := by
  obtain ⟨kind, operands, operator, left, right, keyword, zone, color, probe⟩ := c
  cases hk
  cases ho
  rfl

theorem inquiryUntil_append (stop : Bool) (cs ds : List Condition) :
    inquiryUntil stop ctx (cs ++ ds) = (inquiryUntil stop ctx cs).chain fun b =>
      if b = stop then settled (.ok stop) else inquiryUntil stop ctx ds := by
  induction cs with
  | nil => simp [inquiryUntil, Inquiry.chain]
  | cons c rest ih =>
    rw [List.cons_append, inquiryUntil, inquiryUntil, Inquiry.chain_assoc, ih]
    refine congrArg _ (funext fun b => ?_)
    by_cases hb : b = stop
    · simp [hb, Inquiry.chain]
    · simp [hb]

/-- An operand alone in a junction decides it. -/
theorem inquiryUntil_singleton (stop : Bool) (c : Condition) :
    inquiryUntil stop ctx [c] = c.inquiry ctx := by
  rw [inquiryUntil]
  refine Eq.trans (congrArg _ (funext fun b => ?_)) (c.inquiry ctx).chain_settled
  cases b <;> cases stop <;> rfl

/-! ## Pushing negations down -/

mutual
/-- The condition, or its opposite if `negated`, with its negations pushed down: a negated
conjunction becomes alternatives that are negated, and the other way round, and two negations
cancel. What is neither a junction nor the negation of one operand stays as it is. -/
def push (negated : Bool) : Condition → Condition
  | ⟨.and, cs, operator, left, right, keyword, zone, color, probe⟩ =>
    ⟨if negated then .or else .and, pushAll negated cs,
      operator, left, right, keyword, zone, color, probe⟩
  | ⟨.or, cs, operator, left, right, keyword, zone, color, probe⟩ =>
    ⟨if negated then .and else .or, pushAll negated cs,
      operator, left, right, keyword, zone, color, probe⟩
  | ⟨.not, [c], _, _, _, _, _, _, _⟩ => push (!negated) c
  | c => if negated then { kind := .not, operands := [c] } else c

def pushAll (negated : Bool) : List Condition → List Condition
  | [] => []
  | c :: rest => push negated c :: pushAll negated rest
end

/-- The negation normal form of a condition. -/
def nnf (c : Condition) : Condition := c.push false

/-- Negations stand only before what cannot be taken apart. -/
inductive Normal : Condition → Prop
  | apart {c : Condition} : c.Apart → Normal c
  | negation {c d : Condition} : c.kind = .not → c.operands = [d] → d.Apart → Normal c
  | junction {c : Condition} (stop : Bool) : c.kind = junction stop →
      (∀ d ∈ c.operands, Normal d) → Normal c

theorem pushAll_eq_map (negated : Bool) (cs : List Condition) :
    pushAll negated cs = cs.map (push negated) := by
  induction cs with
  | nil => rfl
  | cons c rest ih => rw [pushAll, List.map_cons, ih]

theorem push_junction {negated stop : Bool} (h : c.kind = junction stop) :
    c.push negated = { c with
      kind := junction (negated ^^ stop), operands := c.operands.map (push negated) } := by
  obtain ⟨kind, operands, operator, left, right, keyword, zone, color, probe⟩ := c
  cases h
  rw [← pushAll_eq_map]
  cases stop <;> cases negated <;> rfl

theorem push_negation {negated : Bool} {d : Condition} (hk : c.kind = .not)
    (ho : c.operands = [d]) : c.push negated = d.push !negated := by
  obtain ⟨kind, operands, operator, left, right, keyword, zone, color, probe⟩ := c
  cases hk
  cases ho
  rfl

theorem push_apart {negated : Bool} (h : c.Apart) :
    c.push negated = if negated then { kind := .not, operands := [c] } else c := by
  rw [push]
  · rintro _ _ _ _ _ _ _ _ rfl
    exact h.1 rfl
  · rintro _ _ _ _ _ _ _ _ rfl
    exact h.2.1 rfl
  · rintro _ _ _ _ _ _ _ _ rfl
    exact h.2.2 rfl rfl

theorem normal_push (c : Condition) : ∀ negated, (c.push negated).Normal := by
  induction c using shapes with
  | junction c stop hk ih =>
    intro negated
    rw [push_junction hk]
    refine .junction _ rfl ?_
    intro d hd
    obtain ⟨e, he, rfl⟩ := List.mem_map.1 hd
    exact ih e he negated
  | negation c d hk ho ih =>
    intro negated
    rw [push_negation hk ho]
    exact ih !negated
  | apart c h =>
    intro negated
    rw [push_apart h]
    cases negated with
    | false => exact .apart h
    | true => exact .negation rfl rfl h

/-- A negated junction looks for the opposite verdict, with each operand negated. -/
theorem inquiryUntil_push {negated : Bool} {cs : List Condition}
    (h : ∀ c ∈ cs, (c.push negated).inquiry ctx = (c.inquiry ctx).signed negated) (stop : Bool) :
    inquiryUntil (negated ^^ stop) ctx (cs.map (push negated)) =
      (inquiryUntil stop ctx cs).signed negated := by
  induction cs with
  | nil => cases negated <;> cases stop <;> rfl
  | cons c rest ih =>
    have hrest := ih fun d hd => h d (List.mem_cons_of_mem c hd)
    rw [List.map_cons, inquiryUntil, h c List.mem_cons_self, hrest, inquiryUntil]
    unfold Inquiry.signed
    rw [Inquiry.chain_assoc, Inquiry.chain_assoc]
    refine congrArg _ (funext fun b => ?_)
    by_cases hb : b = stop
    · simp [hb, Inquiry.chain]
    · simp [hb, Inquiry.chain]

theorem inquiry_push (c : Condition) :
    ∀ negated, (c.push negated).inquiry ctx = (c.inquiry ctx).signed negated := by
  induction c using shapes with
  | junction c stop hk ih =>
    intro negated
    rw [push_junction hk, inquiry_junction rfl, inquiry_junction hk]
    exact inquiryUntil_push (fun d hd => ih d hd negated) stop
  | negation c d hk ho ih =>
    intro negated
    rw [push_negation hk ho, inquiry_negation hk ho, ih, Inquiry.signed_signed, Bool.xor_true]
  | apart c h =>
    intro negated
    rw [push_apart h]
    cases negated with
    | false => exact (Inquiry.signed_false _).symm
    | true => exact inquiry_negation rfl rfl

/-! ## Splicing junctions -/

/-- What stands for an operand in a junction of the kind: the operands of a junction of the same
kind, else the operand itself. -/
def spliced (kind : ConditionKind) (c : Condition) : List Condition :=
  if c.kind = kind then c.operands else [c]

mutual
/-- The condition with the junctions in it spliced, wherever they are, into junctions of the same
kind. -/
def flatten : Condition → Condition
  | ⟨.and, cs, operator, left, right, keyword, zone, color, probe⟩ =>
    ⟨.and, splice .and cs, operator, left, right, keyword, zone, color, probe⟩
  | ⟨.or, cs, operator, left, right, keyword, zone, color, probe⟩ =>
    ⟨.or, splice .or cs, operator, left, right, keyword, zone, color, probe⟩
  | ⟨.not, [c], operator, left, right, keyword, zone, color, probe⟩ =>
    ⟨.not, [flatten c], operator, left, right, keyword, zone, color, probe⟩
  | c => c

def splice (kind : ConditionKind) : List Condition → List Condition
  | [] => []
  | c :: rest => spliced kind (flatten c) ++ splice kind rest
end

/-- No junction stands in one of its kind. -/
inductive Flat : Condition → Prop
  | apart {c : Condition} : c.Apart → Flat c
  | negation {c d : Condition} : c.kind = .not → c.operands = [d] → Flat d → Flat c
  | junction {c : Condition} (stop : Bool) : c.kind = junction stop →
      (∀ d ∈ c.operands, d.kind ≠ c.kind) → (∀ d ∈ c.operands, Flat d) → Flat c

theorem splice_eq_flatMap (kind : ConditionKind) (cs : List Condition) :
    splice kind cs = cs.flatMap fun c => spliced kind c.flatten := by
  induction cs with
  | nil => rfl
  | cons c rest ih => rw [splice, List.flatMap_cons, ih]

theorem flatten_junction {stop : Bool} (h : c.kind = junction stop) :
    c.flatten = { c with
      operands := c.operands.flatMap fun d => spliced (junction stop) d.flatten } := by
  obtain ⟨kind, operands, operator, left, right, keyword, zone, color, probe⟩ := c
  cases h
  rw [← splice_eq_flatMap]
  cases stop <;> rfl

theorem flatten_negation {d : Condition} (hk : c.kind = .not) (ho : c.operands = [d]) :
    c.flatten = { c with operands := [d.flatten] } := by
  obtain ⟨kind, operands, operator, left, right, keyword, zone, color, probe⟩ := c
  cases hk
  cases ho
  rfl

theorem flatten_apart (h : c.Apart) : c.flatten = c := by
  rw [flatten]
  · rintro _ _ _ _ _ _ _ _ rfl
    exact h.1 rfl
  · rintro _ _ _ _ _ _ _ _ rfl
    exact h.2.1 rfl
  · rintro _ _ _ _ _ _ _ _ rfl
    exact h.2.2 rfl rfl

/-- What is spliced into a junction is flat and of another kind. -/
theorem Flat.of_spliced {stop : Bool} (h : c.Flat) :
    ∀ d ∈ c.spliced (Condition.junction stop), d.kind ≠ Condition.junction stop ∧ d.Flat := by
  intro d hd
  by_cases hk : c.kind = Condition.junction stop
  · rw [spliced, if_pos hk] at hd
    cases h with
    | apart hc => exact absurd hk (hc.ne_junction stop)
    | negation hnot => cases stop <;> cases hk.symm.trans hnot
    | junction _ _ hother hall => exact ⟨hk ▸ hother d hd, hall d hd⟩
  · rw [spliced, if_neg hk] at hd
    rw [List.mem_singleton.1 hd]
    exact ⟨hk, h⟩

theorem flat_flatten (c : Condition) : c.flatten.Flat := by
  induction c using shapes with
  | junction c stop hk ih =>
    rw [flatten_junction hk]
    have hoperands : ∀ d ∈ c.operands.flatMap fun e => spliced (junction stop) e.flatten,
        d.kind ≠ junction stop ∧ d.Flat := by
      intro d hd
      obtain ⟨e, he, hd⟩ := List.mem_flatMap.1 hd
      exact (ih e he).of_spliced d hd
    refine .junction stop hk (fun d hd => ?_) fun d hd => (hoperands d hd).2
    exact hk.symm ▸ (hoperands d hd).1
  | negation c d hk ho ih =>
    rw [flatten_negation hk ho]
    exact .negation hk rfl ih
  | apart c h =>
    rw [flatten_apart h]
    exact .apart h

/-- A junction of the same kind may be spliced. -/
theorem inquiryUntil_spliced (stop : Bool) (c : Condition) :
    inquiryUntil stop ctx (c.spliced (junction stop)) = c.inquiry ctx := by
  unfold spliced
  split
  · rename_i hk
    exact (inquiry_junction hk).symm
  · exact inquiryUntil_singleton stop c

theorem inquiryUntil_flatMap {cs : List Condition}
    (h : ∀ c ∈ cs, c.flatten.inquiry ctx = c.inquiry ctx) (stop : Bool) :
    inquiryUntil stop ctx (cs.flatMap fun c => spliced (junction stop) c.flatten) =
      inquiryUntil stop ctx cs := by
  induction cs with
  | nil => rfl
  | cons c rest ih =>
    have hrest := ih fun d hd => h d (List.mem_cons_of_mem c hd)
    rw [List.flatMap_cons, inquiryUntil_append, inquiryUntil_spliced, h c List.mem_cons_self,
      hrest, inquiryUntil]

theorem inquiry_flatten (c : Condition) : c.flatten.inquiry ctx = c.inquiry ctx := by
  induction c using shapes with
  | junction c stop hk ih =>
    rw [flatten_junction hk, inquiry_junction hk]
    refine Eq.trans (inquiry_junction ?_) (inquiryUntil_flatMap ih stop)
    exact hk
  | negation c d hk ho ih =>
    rw [flatten_negation hk ho, inquiry_negation hk ho, ← ih]
    exact inquiry_negation hk rfl
  | apart c h => rw [flatten_apart h]

/-! ## Rewriting is not noticed -/

/-- The probes that evaluating a condition asks, in order, when the journal starts as given. -/
def asked (ctx : Context) (c : Condition) (journal : Journal) : List Probe :=
  (c.inquiry ctx).asked ctx journal

/-- Nothing tells two conditions apart: they end alike with the same journal, having asked the
same probes in the same order. -/
def Agree (ctx : Context) (c d : Condition) : Prop :=
  ∀ journal, (c.eval ctx).outcome journal = (d.eval ctx).outcome journal ∧
    c.asked ctx journal = d.asked ctx journal

theorem agree_of_inquiry {d : Condition} (h : c.inquiry ctx = d.inquiry ctx) :
    Agree ctx c d := by
  intro journal
  rw [← run_inquiry c, ← run_inquiry d, asked, asked, h]
  exact ⟨rfl, rfl⟩

/-- Both normal forms agree with the condition in every context. -/
theorem agree_nnf_flatten (ctx : Context) (c : Condition) :
    c.nnf.Normal ∧ Agree ctx c.nnf c ∧ c.flatten.Flat ∧ Agree ctx c.flatten c := by
  refine ⟨normal_push c false, agree_of_inquiry ?_, flat_flatten c, agree_of_inquiry ?_⟩
  · rw [nnf, inquiry_push, Inquiry.signed_false]
  · exact inquiry_flatten c

end Condition

end CardRules
