import CardRules.Proofs.Engine.Publish

/-!
# The stages of resolution

`Engine.settle` takes an invocation through its stages and tells how it ends; it reports nothing
and asks no listener. Resolving is settling with reports after it (`process_eq`), so what
listeners bring about cannot come between the stages of one effect. `Settled` says what each
ending leaves behind: an unpaid cost leaves the game alone, a failure after the payment leaves
exactly what was paid, and only a body that ran to its end adds its changes and its mark.
-/

namespace CardRules

/-- How the resolution of an effect ends. -/
inductive Ending where
  /-- The cost could not be paid. -/
  | unpaid (fault : Fault)
  /-- The cost was paid, but a later stage failed. -/
  | failed (fault : Fault)
  /-- The condition of the replaced invocation did not hold. -/
  | skipped (i : Invocation)
  /-- The body of the replaced invocation ran. -/
  | ran (i : Invocation)

/-- Reports that conclude the resolution of an effect. -/
def Report.isConclusive : Report → Bool
  | .resolved _ | .skipped _ | .failed .. => true
  | _ => false

/-- Reports about a change of the game. -/
def Report.isChange : Report → Bool
  | .changed .. => true
  | _ => false

theorem Report.isConclusive_of_isAside : ∀ r : Report, r.isAside → r.isConclusive = false := by
  intro r hr
  cases r <;> simp_all [isAside, isConclusive]

namespace Ending

/-- The report that concludes the resolution of `asked`. -/
def conclusion (asked : Invocation) : Ending → Report
  | unpaid f | failed f => .failed asked f
  | skipped i => .skipped i
  | ran i => .resolved { i with resolved := true }

/-- What is said about a game `g` where there was one with the revision `before`. -/
def changes (before : Nat) (id : String) (g : Game) : List Report :=
  if g.revision == before then [] else [.changed id g]

/-- All reports on the resolution of `asked`, in their order. -/
def reports (asked : Invocation) (before : Nat) (g : Game) (ending : Ending) : List Report :=
  match ending with
  | unpaid _ | failed _ => [ending.conclusion asked]
  | skipped i => ending.conclusion asked :: changes before i.ability.id g
  | ran i => changes before i.ability.id g ++ [ending.conclusion asked]

/-- What `resolveInvocation` gives, by the ending. -/
def outcome : Ending → Except Fault Bool
  | .unpaid f | .failed f => .error f
  | .skipped _ => .ok false
  | .ran _ => .ok true

/-- The reports of a resolution that has not failed. -/
def announced (asked : Invocation) (before : Nat) (g : Game) (ending : Ending) :
    List Report :=
  match ending with
  | .unpaid _ | .failed _ => []
  | .skipped _ | .ran _ => ending.reports asked before g

variable {asked : Invocation} {before : Nat} {g : Game} {ending : Ending}

theorem filter_isConclusive_changes {id : String} :
    (changes before id g).filter Report.isConclusive = [] := by
  unfold changes
  split <;> rfl

/-- One of the reports is conclusive. -/
theorem filter_isConclusive_reports :
    (ending.reports asked before g).filter Report.isConclusive = [ending.conclusion asked] := by
  cases ending with
  | unpaid | failed => rfl
  | skipped i =>
    rw [reports, List.filter_cons_of_pos rfl, filter_isConclusive_changes]
  | ran i =>
    rw [reports, List.filter_append, filter_isConclusive_changes]
    rfl

end Ending

namespace Engine

variable {σ : Type} {host : Host σ} {e e' : Engine σ} {i : Invocation}

/-- Takes an invocation through its stages, without reports. -/
def settle (i : Invocation) (e : Engine σ) : Ending × Engine σ :=
  match payCost i e with
  | (.error f, e) => (.unpaid f, e)
  | (.ok (), e) =>
    match replaceBody i e with
    | (.error f, e) => (.failed f, e)
    | (.ok j, e) =>
      match conditionHolds j e with
      | (.error f, e) => (.failed f, e)
      | (.ok false, e) => (.skipped j, e)
      | (.ok true, e) =>
        match runBody j e with
        | (.error f, e) => (.failed f, e)
        | (.ok g, e) => (.ran j, { e with game := g }.markUsed i.ability)

/-! ## What each ending leaves behind -/

theorem game_markUsed {a : Ability} : (e.markUsed a).game = e.game := by
  unfold markUsed
  split <;> rfl

/-- Marking adds the mark of an ability whose uses are limited. -/
theorem mem_used_markUsed_iff {a : Ability} {m : Nat} :
    m ∈ (e.markUsed a).used ↔ m ∈ e.used ∨ (a.oncePerTurn ∧ a.mark = some m) := by
  unfold markUsed
  split
  · rename_i k hlimit hmark
    rw [List.mem_cons, hlimit, hmark, Option.some.injEq, eq_comm, or_comm]
    simp
  · rename_i hnone
    refine ⟨.inl, fun h => h.resolve_right ?_⟩
    rintro ⟨hlimit, hmark⟩
    exact hnone m hlimit hmark

/-- A stage after the payment fails. The body runs in the engine `ready`, which still has the game
that was paid for. -/
inductive Fails (i : Invocation) (paid : Engine σ) (f : Fault) : Prop where
  | replace {e' : Engine σ} : Replaced i paid (.error f) e' → Fails i paid f
  | condition {j : Invocation} {replaced e' : Engine σ} : Replaced i paid (.ok j) replaced →
      replaced.game = paid.game → Asked j replaced (.error f) e' → Fails i paid f
  | body {j : Invocation} {replaced ready e' : Engine σ} : Replaced i paid (.ok j) replaced →
      Asked j replaced (.ok true) ready → ready.game = paid.game → Ran j ready (.error f) e' →
      Fails i paid f

/-- What an ending says about the engine before and after. `paid` is the engine whose game has
the cost paid. Only a body that runs to its end changes that game and adds a mark: that of the
ability that was asked for, if its uses are limited. -/
inductive Settled (i : Invocation) (e : Engine σ) : Ending → Engine σ → Prop where
  | unpaid {f : Fault} {e' : Engine σ} : Paid i e (.error f) e' →
      e'.game = e.game → e'.used = e.used → Settled i e (.unpaid f) e'
  | failed {f : Fault} {paid e' : Engine σ} : Paid i e (.ok ()) paid → Fails i paid f →
      e'.game = paid.game → e'.used = e.used → Settled i e (.failed f) e'
  | skipped {j : Invocation} {paid replaced e' : Engine σ} : Paid i e (.ok ()) paid →
      Replaced i paid (.ok j) replaced → replaced.game = paid.game →
      Asked j replaced (.ok false) e' →
      e'.game = paid.game → e'.used = e.used → Settled i e (.skipped j) e'
  | ran {j : Invocation} {paid replaced ready done e' : Engine σ} : Paid i e (.ok ()) paid →
      Replaced i paid (.ok j) replaced → Asked j replaced (.ok true) ready →
      ready.game = paid.game → Ran j ready (.ok e'.game) done →
      (∀ m, m ∈ e'.used ↔ m ∈ e.used ∨ (i.ability.oncePerTurn ∧ i.ability.mark = some m)) →
      Settled i e (.ran j) e'

/-- A cost that is not paid leaves the game as it was. -/
theorem Paid.game_of_error {f : Fault} (h : Paid i e (.error f) e') : e'.game = e.game := by
  cases h <;> rfl

theorem Paid.used {outcome : Except Fault Unit} (h : Paid i e outcome e') : e'.used = e.used := by
  cases h <;> rfl

/-- Every resolution ends in one of these ways. -/
theorem settled_settle (i : Invocation) (e : Engine σ) :
    Settled i e (settle i e).1 (settle i e).2 := by
  have hpaid := paid_payCost (e := e) (i := i)
  unfold settle
  split <;> rename_i hpay <;> rw [hpay] at hpaid
  · exact .unpaid hpaid hpaid.game_of_error hpaid.used
  · rename_i paid
    have hreplaced := replaced_replaceBody (e := paid) (i := i)
    split <;> rename_i hbody <;> rw [hbody] at hreplaced
    · have hn := hreplaced.noted
      exact .failed hpaid (.replace hreplaced) hn.game (hn.used.trans hpaid.used)
    · rename_i j replaced
      have hn := hreplaced.noted
      have hasked := asked_conditionHolds (e := replaced) (i := j)
      split <;> rename_i hcond <;> rw [hcond] at hasked <;> have hn' := hn.trans hasked.noted
      · exact .failed hpaid (.condition hreplaced hn.game hasked) hn'.game
          (hn'.used.trans hpaid.used)
      · exact .skipped hpaid hreplaced hn.game hasked hn'.game (hn'.used.trans hpaid.used)
      · rename_i ready
        have hran := ran_runBody (e := ready) (i := j)
        split <;> rename_i hrun <;> rw [hrun] at hran <;> have hn'' := hn'.trans hran.noted
        · exact .failed hpaid (.body hreplaced hasked hn'.game hran) hn''.game
            (hn''.used.trans hpaid.used)
        · refine .ran hpaid hreplaced hasked hn'.game (by rwa [game_markUsed]) fun m => ?_
          rw [mem_used_markUsed_iff]
          dsimp only
          rw [hn''.used, hpaid.used]

/-- What holds of an engine with any journal, any game and any marks survives settling. -/
theorem keeps_settle {P : Engine σ → Prop} (hnote : ∀ {e e'}, P e → Noted e e' → P e')
    (hgame : ∀ {e} g, P e → P { e with game := g })
    (hmark : ∀ {e} m, P e → P { e with used := m :: e.used }) (he : P e) : P (settle i e).2 := by
  have h₁ : P (payCost i e).2 := by
    have hpaid := paid_payCost (e := e) (i := i)
    generalize payCost i e = done at hpaid
    obtain ⟨outcome, e'⟩ := done
    cases hpaid with
    | free => exact he
    | unreplaced | refused => exact hnote he ⟨_, rfl⟩
    | debited => exact hnote (hgame _ he) ⟨_, rfl⟩
  unfold settle
  split <;> rename_i hpay <;> rw [hpay] at h₁
  · exact h₁
  · rename_i paid
    have h₂ := hnote h₁ (noted_replaceBody (i := i))
    split <;> rename_i hbody <;> rw [hbody] at h₂
    · exact h₂
    · rename_i j replaced
      have h₃ := hnote h₂ (noted_conditionHolds (i := j))
      split <;> rename_i hcond <;> rw [hcond] at h₃
      · exact h₃
      · exact h₃
      · have h₄ := hnote h₃ (noted_runBody (i := j))
        split <;> rename_i hrun <;> rw [hrun] at h₄
        · exact h₄
        · unfold markUsed
          split
          · exact hmark _ (hgame _ h₄)
          · exact hgame _ h₄

/-- No ending touches the bus. -/
theorem bus_settle : (settle i e).2.bus = e.bus :=
  keeps_settle (P := (·.bus = e.bus)) (fun h hn => hn.bus.trans h) (fun _ h => h) (fun _ h => h) rfl

theorem samePlugs_settle : SamePlugs e (settle i e).2 :=
  keeps_settle (fun h hn => h.trans hn.samePlugs) (fun _ h => ⟨h.1, h.2, h.3, h.4⟩)
    (fun _ h => ⟨h.1, h.2, h.3, h.4⟩) ⟨rfl, rfl, rfl, rfl⟩

theorem game_of_unpaid {f : Fault} (h : (settle i e).1 = .unpaid f) :
    (settle i e).2.game = e.game := by
  have hsettled := settled_settle i e
  rw [h] at hsettled
  cases hsettled with
  | unpaid _ hgame _ => exact hgame

theorem payCost_of_failed {f : Fault} (h : (settle i e).1 = .failed f) :
    ∃ paid, payCost i e = (.ok (), paid) ∧ (settle i e).2.game = paid.game := by
  have hsettled := settled_settle i e
  rw [h] at hsettled
  cases hsettled with
  | failed hpay _ hgame _ => exact ⟨_, hpay.eq, hgame⟩

/-! ## Settling looks at the core only -/

theorem hosted_core {α : Type} (run : Hosted α) :
    e.core.hosted run = ((e.hosted run).1, (e.hosted run).2.core) := rfl

theorem payCost_core : payCost i e.core = ((payCost i e).1, (payCost i e).2.core) := by
  unfold payCost
  cases i.ability.cost with
  | none => rfl
  | some c =>
    have hrun : e.core.hosted (e.core.replacements.applyCost c (e.core.context i)) = _ :=
      hosted_core (e := e) (e.replacements.applyCost c (e.context i))
    dsimp only
    rw [hrun]
    generalize e.hosted (e.replacements.applyCost c (e.context i)) = done
    obtain ⟨outcome, e'⟩ := done
    cases outcome with
    | error f => rfl
    | ok c =>
      have hgame : e'.core.game = e'.game := rfl
      dsimp only
      rw [hgame]
      cases c.pay i.controller e'.game <;> rfl

theorem replaceBody_core :
    replaceBody i e.core = ((replaceBody i e).1, (replaceBody i e).2.core) := rfl

theorem conditionHolds_core :
    conditionHolds i e.core = ((conditionHolds i e).1, (conditionHolds i e).2.core) := by
  unfold conditionHolds
  cases i.ability.condition <;> rfl

theorem runBody_core : runBody i e.core = ((runBody i e).1, (runBody i e).2.core) := by
  unfold runBody
  cases i.ability.scriptId.filter (!·.isEmpty) <;> rfl

theorem markUsed_core {a : Ability} : e.core.markUsed a = (e.markUsed a).core := by
  unfold markUsed
  split <;> rfl

theorem settle_core : settle i e.core = ((settle i e).1, (settle i e).2.core) := by
  unfold settle
  rw [payCost_core]
  rcases payCost i e with ⟨_ | _, e₁⟩
  · rfl
  · dsimp only
    rw [replaceBody_core]
    rcases replaceBody i e₁ with ⟨_ | j, e₂⟩
    · rfl
    · dsimp only
      rw [conditionHolds_core]
      rcases conditionHolds j e₂ with ⟨_ | _ | _, e₃⟩
      · rfl
      · rfl
      · dsimp only
        rw [runBody_core]
        rcases runBody j e₃ with ⟨_ | g, e₄⟩
        · rfl
        · dsimp only
          rw [← markUsed_core]
          rfl

/-- Engines with one core settle an effect alike. -/
theorem settle_congr (hc : e'.core = e.core) :
    (settle i e').1 = (settle i e).1 ∧ (settle i e').2.core = (settle i e).2.core := by
  have hcore := settle_core (e := e) (i := i)
  rw [← hc, settle_core] at hcore
  exact Prod.mk.inj hcore

theorem game_of_core (hc : e'.core = e.core) : e'.game = e.game :=
  congrArg (fun c : Engine Unit => c.game) hc

/-! ## Resolving is settling and telling -/

theorem game_tell (hh : host.Only Reaction.LeavesGame) {r : Report} :
    (e.tell host r).game = e.game :=
  game_of_core (core_tell hh)

theorem game_tellAll (hh : host.Only Reaction.LeavesGame) {rs : List Report} :
    (e.tellAll host rs).game = e.game :=
  game_of_core (core_tellAll hh)

theorem tellChange_eq (before : Nat) (id : String) :
    e.tellChange host before id = e.tellAll host (Ending.changes before id e.game) := by
  unfold tellChange Ending.changes
  split <;> rfl

theorem tellAll_concat {rs : List Report} {r : Report} :
    e.tellAll host (rs ++ [r]) = (e.tellAll host rs).tell host r :=
  List.foldl_append

theorem resolveInvocation_eq (hh : host.Only Reaction.LeavesGame) :
    resolveInvocation host i e = ((settle i e).1.outcome, (settle i e).2.tellAll host
      ((settle i e).1.announced i e.game.revision (settle i e).2.game)) := by
  unfold resolveInvocation settle
  rcases payCost i e with ⟨_ | _, e₁⟩
  · rfl
  · dsimp only
    unfold resolveBody
    rcases replaceBody i e₁ with ⟨_ | j, e₂⟩
    · rfl
    · dsimp only
      rcases conditionHolds j e₂ with ⟨_ | _ | _, e₃⟩
      · rfl
      · dsimp only
        rw [tellChange_eq, game_tell hh]
        rfl
      · dsimp only
        rcases runBody j e₃ with ⟨_ | g, e₄⟩
        · rfl
        · dsimp only
          rw [tellChange_eq, ← tellAll_concat]
          rfl

theorem process_eq (hh : host.Only Reaction.LeavesGame) :
    process host i e = (settle i e).2.tellAll host
      ((settle i e).1.reports i e.game.revision (settle i e).2.game) := by
  unfold process
  rw [resolveInvocation_eq hh]
  cases (settle i e).1 <;> rfl

/-! ## Resolving the stack -/

/-- The pending effects that `drain` takes, in their order. -/
def taken (host : Host σ) : (remaining : Nat) → Engine σ → List Pending
  | remaining, e =>
    match next? e.stack with
    | none => []
    | some p =>
      match remaining with
      | 0 => []
      | remaining + 1 =>
        let e := { e with stack := e.stack.filter (·.addedAt != p.addedAt) }
        p :: taken host remaining (process host p.invocation e)

/-- Settles effects one after the other. -/
def settleAll (entries : List Pending) (e : Engine σ) : Engine σ :=
  entries.foldl (fun e p => (settle p.invocation e).2) e

/-- The conclusions of effects that are settled one after the other. -/
def conclusions : List Pending → Engine σ → List Report
  | [], _ => []
  | p :: rest, e =>
    (settle p.invocation e).1.conclusion p.invocation :: conclusions rest (settle p.invocation e).2

theorem core_process (hh : host.Only Reaction.LeavesGame) :
    (process host i e).core = (settle i e.core).2 := by
  rw [process_eq hh, core_tellAll hh, settle_core]

/-- Processing an effect publishes one conclusive report. -/
theorem publishes_process (hh : host.Only Reaction.LeavesGame) :
    ∃ all, Publishes e all (process host i e) ∧
      all.filter Report.isConclusive = [(settle i e).1.conclusion i] := by
  rw [process_eq hh]
  obtain ⟨all, hpub, hfilter⟩ := publishes_tellAll (e := (settle i e).2) host
    ((settle i e).1.reports i e.game.revision (settle i e).2.game)
  have hbus : Publishes e [] (settle i e).2 := .of_bus bus_settle
  refine ⟨all, hbus.trans hpub, ?_⟩
  rw [hfilter _ Report.isConclusive_of_isAside]
  exact Ending.filter_isConclusive_reports

theorem core_drain (hh : host.Only Reaction.LeavesGame) (remaining : Nat) :
    (drain host remaining e).core = settleAll (taken host remaining e) e.core := by
  induction remaining generalizing e with
  | zero =>
    unfold drain taken
    cases next? e.stack with
    | none => rfl
    | some p => exact core_tell hh
  | succ remaining ih =>
    unfold drain taken
    cases next? e.stack with
    | none => rfl
    | some p =>
      dsimp only
      rw [ih, core_process hh]
      rfl

theorem publishes_drain (hh : host.Only Reaction.LeavesGame) (remaining : Nat) :
    ∃ all, Publishes e all (drain host remaining e) ∧
      all.filter Report.isConclusive = conclusions (taken host remaining e) e.core := by
  induction remaining generalizing e with
  | zero =>
    unfold drain taken
    cases next? e.stack with
    | none => exact ⟨[], .of_bus rfl, rfl⟩
    | some p =>
      obtain ⟨asides, hpub, hasides⟩ := tells_tell (e := e) host
        (.limitReached e.settings.stackLimit e.stack.length)
      refine ⟨_, hpub, ?_⟩
      rw [List.filter_cons_of_neg (by simp [Report.isConclusive])]
      exact Report.filter_asides Report.isConclusive_of_isAside hasides
  | succ remaining ih =>
    unfold drain taken
    cases next? e.stack with
    | none => exact ⟨[], .of_bus rfl, rfl⟩
    | some p =>
      dsimp only
      generalize hpopped : { e with stack := e.stack.filter (·.addedAt != p.addedAt) } = popped
      have hcore : popped.core = e.core := by rw [← hpopped]; rfl
      have hstart : Publishes e [] popped := .of_bus (by rw [← hpopped])
      obtain ⟨first, hfirst, hone⟩ := publishes_process (e := popped) (i := p.invocation) hh
      obtain ⟨rest, hrest, hmore⟩ := ih (e := process host p.invocation popped)
      refine ⟨first ++ rest, hstart.trans (hfirst.trans hrest), ?_⟩
      rw [List.filter_append, hone, hmore, core_process hh, hcore, conclusions, ← hcore,
        settle_core]
      rfl

/-- Resolving the stack settles the effects that are taken, one after the other, whatever
resolvers, scripts, conditions and replacements do and wherever they fail: the game and the marks
are those that this leaves, and each effect has one conclusive report. Each is settled in one of
four ways (`Settled`): a cost that is not paid leaves the game, a failure or a condition that does
not hold leaves the game that the payment gives, and only a body that runs to its end gives its own
game and adds the mark of an ability that can be used once per turn. -/
theorem resolveStack_settles (hh : host.Only Reaction.LeavesGame) (e : Engine σ) :
    (resolveStack host e).core =
      settleAll (taken host e.settings.stackLimit.toNat e) e.core ∧
    (∃ all, Publishes e all (resolveStack host e) ∧ all.filter Report.isConclusive =
      conclusions (taken host e.settings.stackLimit.toNat e) e.core) ∧
    ∀ (i : Invocation) (c : Engine Unit), Settled i c (settle i c).1 (settle i c).2 := by
  refine ⟨core_drain hh _, ?_, settled_settle⟩
  obtain ⟨all, hpub, hfilter⟩ := publishes_drain (e := e) hh e.settings.stackLimit.toNat
  exact ⟨all, hpub, hfilter⟩

/-- An engine where more cards are to be drawn than there are: the DON!! is paid, and the script
fails when the deck is empty. -/
def overdrawn : Engine Unit :=
  { standard Game.opening with stack := [⟨paidDraw "draw_3", 0, 0⟩], queued := 1 }

theorem resolveStack_settles_overdrawn :
    (resolveStack .silent overdrawn).core =
      settleAll (taken .silent overdrawn.settings.stackLimit.toNat overdrawn) overdrawn.core :=
  (resolveStack_settles (Host.only_silent _) overdrawn).1

/-- A draw that can be used once per turn is marked when it has run. -/
example : (settle { paidDraw "draw_1" with
    ability := { (paidDraw "draw_1").ability with oncePerTurn := true, mark := some 3 } }
      (standard Game.opening)).2.used = [3] := by
  decide +kernel

end Engine

end CardRules
