import CardRules.Proofs.Engine.Order

/-!
# The limit of resolution

Listeners may queue more effects than a turn takes, so the stack alone does not bound a
resolution. `Engine.Loop` is the loop without any bound on its length: it counts the effects it
has taken and looks at the limit before each turn. It ends all the same, after as many turns as
the limit at most, and `resolveStack` is what it ends in (`exists_loop`).

What the loop leaves on the stack when it stops is `Engine.stopped`'s to report. Nothing in a turn
reports on the log (`Stages.publishes`), so there is one such report if anything is left, and none
if the last effect that the limit admits was the last one.
-/

namespace CardRules.Engine

variable {σ : Type} {host : Host σ} {e e' last last' : Engine σ} {i : Invocation} {p : Pending}
  {limit : Int} {count : Nat} {order order' added : List Pending}

/-! ## The settings -/

theorem Touch.settings_eq {ok : Reaction → Prop} (ht : Touch ok e e') :
    e'.settings = e.settings := by
  cases ht <;> rfl

theorem settings_tell (host : Host σ) (r : Report) : (e.tell host r).settings = e.settings := by
  have ht : Touches (fun _ => True) e (e.tell host r) := touches_tell fun _ _ _ _ _ _ => trivial
  generalize e.tell host r = e' at ht
  induction ht with
  | refl => rfl
  | tail _ ht ih => exact ht.settings_eq.trans ih

/-- Nothing that happens in a resolution changes the settings. -/
theorem Stages.settings_eq (hs : Stages host e e') : e'.settings = e.settings := by
  induction hs with
  | refl => rfl
  | tail _ hs ih =>
    cases hs with
    | note | game | mark => exact ih
    | tell => exact (settings_tell host _).trans ih

/-! ## What is published -/

theorem Report.kind_ne_log_of_isAside {r : Report} (hr : r.isAside) : r.kind ≠ .log := by
  cases r <;> simp_all [Report.isAside, Report.kind]

/-- The stages of an effect report nothing on the log, whatever listeners do. -/
theorem Stages.publishes (hs : Stages host e e') :
    ∃ all, Publishes e all e' ∧ ∀ r ∈ all, r.kind ≠ .log := by
  induction hs with
  | refl => exact ⟨[], .of_bus rfl, by simp⟩
  | tail _ hs ih =>
    obtain ⟨all, hall, hquiet⟩ := ih
    cases hs with
    | note | game | mark => exact ⟨all, hall, hquiet⟩
    | @tell r hr =>
      obtain ⟨asides, htold, hasides⟩ := tells_tell host r
      refine ⟨all ++ r :: asides, hall.trans htold, fun s hs => ?_⟩
      rcases List.mem_append.1 hs with hs | hs
      · exact hquiet s hs
      · rcases List.mem_cons.1 hs with rfl | hs
        · exact hr
        · exact Report.kind_ne_log_of_isAside (hasides s hs)

/-! ## The loop -/

/-- One turn: an effect is taken off the stack and processed. -/
def turn (host : Host σ) (p : Pending) (e : Engine σ) : Engine σ :=
  process host p.invocation (e.holding (e.stack.filter (·.addedAt != p.addedAt)))

theorem stages_turn (host : Host σ) (p : Pending) (e : Engine σ) :
    Stages host (e.holding (e.stack.filter (·.addedAt != p.addedAt))) (e.turn host p) :=
  stages_process host

/-- The loop over the stack once `count` effects have been taken. It takes the next effect as
long as there is one and the limit is not met; `order` are the effects it takes from there on,
and `last` is the engine it stops in. -/
inductive Loop (host : Host σ) (limit : Int) :
    (count : Nat) → Engine σ → (order : List Pending) → (last : Engine σ) → Prop where
  | dry {count : Nat} {e : Engine σ} : e.stack = [] → Loop host limit count e [] e
  | full {count : Nat} {e : Engine σ} : e.stack ≠ [] → limit ≤ count → Loop host limit count e [] e
  | take {count : Nat} {e last : Engine σ} {p : Pending} {order : List Pending} :
      next? e.stack = some p → count < limit → Loop host limit (count + 1) (e.turn host p) order last →
      Loop host limit count e (p :: order) last

/-- The engine once the loop has stopped: what is left is reported. -/
def stopped (host : Host σ) (e : Engine σ) : Engine σ :=
  if e.stack.isEmpty then e
  else e.tell host (.limitReached e.settings.stackLimit e.stack.length)

namespace Loop

/-- The loop runs one way only. -/
theorem unique (h₁ : Loop host limit count e order last)
    (h₂ : Loop host limit count e order' last') : order' = order ∧ last' = last := by
  induction h₁ generalizing order' with
  | dry hempty =>
    cases h₂ with
    | dry => exact ⟨rfl, rfl⟩
    | full hne => exact absurd hempty hne
    | take hnext => simp [hempty, next?] at hnext
  | full hne hfull =>
    cases h₂ with
    | dry hempty => exact absurd hempty hne
    | full => exact ⟨rfl, rfl⟩
    | take _ hlt => omega
  | take hnext hlt _ ih =>
    cases h₂ with
    | dry hempty => simp [hempty, next?] at hnext
    | full _ hfull => omega
    | take hnext' _ hrest =>
      obtain rfl := Option.some.inj (hnext.symm.trans hnext')
      obtain ⟨rfl, rfl⟩ := ih hrest
      exact ⟨rfl, rfl⟩

theorem length_le (h : Loop host limit count e order last) (hc : count ≤ limit) :
    count + order.length ≤ limit := by
  induction h with
  | dry | full => simpa using hc
  | take _ hlt _ ih =>
    have := ih (by omega)
    rw [List.length_cons]
    omega

/-- The loop leaves effects behind only if the limit is met. -/
theorem le_length (h : Loop host limit count e order last) (hleft : last.stack ≠ []) :
    limit ≤ count + order.length := by
  induction h with
  | dry hempty => exact absurd hempty hleft
  | full _ hfull => simpa using hfull
  | take _ _ _ ih =>
    have := ih hleft
    rw [List.length_cons]
    omega

theorem settings_eq (h : Loop host limit count e order last) : last.settings = e.settings := by
  induction h with
  | dry | full => rfl
  | take _ _ _ ih => exact ih.trans (stages_turn host _ _).settings_eq

theorem publishes (h : Loop host limit count e order last) :
    ∃ all, Publishes e all last ∧ ∀ r ∈ all, r.kind ≠ .log := by
  induction h with
  | dry | full => exact ⟨[], .of_bus rfl, by simp⟩
  | @take _ e _ p _ _ _ _ ih =>
    obtain ⟨first, hfirst, hquiet⟩ := (stages_turn host p e).publishes
    obtain ⟨rest, hrest, hquiet'⟩ := ih
    have hstart : Publishes e [] (e.holding (e.stack.filter (·.addedAt != p.addedAt))) :=
      .of_bus rfl
    refine ⟨first ++ rest, hstart.trans (hfirst.trans hrest), fun r hr => ?_⟩
    rcases List.mem_append.1 hr with hr | hr
    · exact hquiet r hr
    · exact hquiet' r hr

/-- What the loop leaves is reported on the log, and nothing else is. -/
theorem publishes_stopped (h : Loop host limit count e order last) :
    ∃ all, Publishes e all (last.stopped host) ∧ all.filter (·.kind == .log) =
      if last.stack.isEmpty then []
      else [.limitReached e.settings.stackLimit last.stack.length] := by
  obtain ⟨quiet, hquiet, hnolog⟩ := h.publishes
  have hfilter : quiet.filter (·.kind == .log) = [] :=
    List.filter_eq_nil_iff.2 fun r hr => by simpa using hnolog r hr
  unfold stopped
  split
  · exact ⟨quiet, hquiet, hfilter⟩
  · rw [h.settings_eq]
    obtain ⟨asides, htold, hasides⟩ := tells_tell (e := last) host
      (.limitReached e.settings.stackLimit last.stack.length)
    have hrest : asides.filter (·.kind == .log) = [] :=
      List.filter_eq_nil_iff.2 fun r hr => by
        simpa using Report.kind_ne_log_of_isAside (hasides r hr)
    refine ⟨_, hquiet.trans htold, ?_⟩
    rw [List.filter_append, hfilter, List.filter_cons_of_pos rfl, hrest, List.nil_append]

/-- Where no listener clears the stack, each effect that waits or is queued meanwhile is taken
once or left. -/
theorem accounts (hh : host.Only Reaction.KeepsStack) (he : Numbered e)
    (h : Loop host limit count e order last) :
    ∃ added, added.map (·.addedAt) = List.range' e.queued added.length ∧
      (order ++ last.stack).Perm (e.stack ++ added) := by
  induction h with
  | dry | full => exact ⟨[], rfl, by simp⟩
  | @take _ e last p order hnext _ _ ih =>
    obtain ⟨before, after, hs, -⟩ := foremost_of_next? he.increasing hnext
    have hrest : e.stack.filter (·.addedAt != p.addedAt) = before ++ after := by
      rw [hs]
      exact filter_addedAt (hs ▸ he.increasing)
    have hturn := stages_turn host p e
    rw [hrest] at hturn
    obtain ⟨new, hg⟩ := hturn.grows hh
    have hsub : (before ++ after).Sublist e.stack := hrest ▸ List.filter_sublist
    obtain ⟨more, hnumbers, hperm⟩ := ih ((he.sublist hsub).grows hg)
    have hstack : (e.turn host p).stack = before ++ after ++ new := hg.stack
    have hqueued : (e.turn host p).queued = e.queued + new.length := hg.queued
    have hnew : new.map (·.addedAt) = List.range' e.queued new.length := hg.numbers
    refine ⟨new ++ more, ?_, ?_⟩
    · rw [List.map_append, hnew, hnumbers, hqueued, List.length_append, List.range'_append_1]
    · rw [hstack, List.append_assoc, List.append_assoc] at hperm
      rw [hs, List.append_assoc, List.cons_append, List.cons_append]
      exact (hperm.cons p).trans List.perm_middle.symm

end Loop

/-- The loop ends, and what it ends in is what `drain` gives. -/
theorem exists_loop (host : Host σ) (limit : Int) (remaining : Nat) (e : Engine σ) (count : Nat)
    (hr : (limit - count).toNat = remaining) :
    ∃ order last, Loop host limit count e order last ∧
      drain host remaining e = last.stopped host := by
  induction remaining generalizing e count with
  | zero =>
    unfold drain
    cases hnext : next? e.stack with
    | none =>
      have hempty := next?_eq_none_iff.1 hnext
      exact ⟨[], e, .dry hempty, by simp [stopped, hempty]⟩
    | some p =>
      have hne : e.stack ≠ [] := fun h => by simp [h, next?] at hnext
      exact ⟨[], e, .full hne (by omega), by simp [stopped, hne]⟩
  | succ remaining ih =>
    unfold drain
    cases hnext : next? e.stack with
    | none =>
      have hempty := next?_eq_none_iff.1 hnext
      exact ⟨[], e, .dry hempty, by simp [stopped, hempty]⟩
    | some p =>
      obtain ⟨order, last, hloop, hdrain⟩ := ih (e.turn host p) (count + 1) (by omega)
      exact ⟨p :: order, last, .take hnext (by omega) hloop, hdrain⟩

/-! ## One resolution of the stack -/

/-- What one resolution of the stack comes to: `order` are the effects that it takes, `last` is
the engine in which it stops taking effects, `added` are the effects that listeners have queued
until then, and `all` is everything that is published. -/
structure Resolution (host : Host σ) (e : Engine σ) (order : List Pending) (last : Engine σ)
    (added : List Pending) (all : List Report) : Prop where
  loop : Loop host e.settings.stackLimit 0 e order last
  within : order.length ≤ e.settings.stackLimit
  numbers : ((e.stack ++ added).map (·.addedAt)).Nodup
  accounts : (order ++ last.stack).Perm (e.stack ++ added)
  discards : last.stack ≠ [] → order.length = e.settings.stackLimit
  ends : resolveStack host e = (last.stopped host).holding []
  published : Publishes e all (resolveStack host e)
  logged : all.filter (·.kind == .log) =
    if last.stack.isEmpty then []
    else [.limitReached e.settings.stackLimit last.stack.length]

/-- However many effects listeners queue in reaction, resolving the stack ends, takes no more
effects than the limit and leaves the stack empty. Effects are discarded only if exactly as many
as the limit were taken and some were still pending; then one report on the log tells how many,
and otherwise there is none. -/
theorem resolveStack_bounded (hh : host.Only Reaction.KeepsStack) (he : Numbered e)
    (hl : 1 ≤ e.settings.stackLimit) :
    (resolveStack host e).stack = [] ∧
    ∃ order last added all, Resolution host e order last added all ∧
      ∀ order' last', Loop host e.settings.stackLimit 0 e order' last' →
        order' = order ∧ last' = last := by
  obtain ⟨order, last, hloop, hdrain⟩ :=
    exists_loop host e.settings.stackLimit e.settings.stackLimit.toNat e 0 (by simp)
  obtain ⟨added, hnumbers, hperm⟩ := hloop.accounts hh he
  obtain ⟨all, hall, hlogged⟩ := hloop.publishes_stopped
  have hwithin : order.length ≤ e.settings.stackLimit := by
    have := hloop.length_le (by omega)
    omega
  have hends : resolveStack host e = (last.stopped host).holding [] := by
    rw [resolveStack, hdrain, holding]
  have hpublished : Publishes (last.stopped host) [] (resolveStack host e) :=
    .of_bus (by rw [hends]; rfl)
  refine ⟨rfl, order, last, added, all, ?_, fun order' last' h => hloop.unique h⟩
  exact {
    loop := hloop
    within := hwithin
    numbers := he.nodup_append hnumbers
    accounts := hperm
    discards := fun hleft => by
      have := hloop.le_length hleft
      omega
    ends := hends
    published := by simpa using hall.trans hpublished
    logged := hlogged }

/-- A host whose listener answers every effect that is done with another draw. -/
def endless : Host Unit where
  react _ notice _ memory :=
    (if notice.payload.isConclusive then [.push (paidDraw "draw_1") none] else [], memory)
  reach := 2

theorem endless_keepsStack : endless.Only Reaction.KeepsStack := by
  intro listener notice game memory r hr
  unfold endless at hr
  dsimp only at hr
  split at hr
  · obtain rfl := List.mem_singleton.1 hr
    trivial
  · cases hr

/-- An engine with that listener, which takes two effects at most. Its first effect fails. -/
def cascading : Engine Unit :=
  { standard Game.opening with
    settings := { stackLimit := 2 }
    bus := some ((({} : Bus ListenerId Report).subscribe none 0 0).2)
    stack := [⟨paidDraw "draw_3", 0, 0⟩]
    queued := 1 }

/-- The cascade is cut after the second effect, and the third one is discarded. -/
theorem resolveStack_bounded_cascade :
    1 ≤ cascading.settings.stackLimit ∧ (resolveStack endless cascading).stack = [] ∧
    (∃ order last added all, Resolution endless cascading order last added all) ∧
    ((resolveStack endless cascading).bus.map fun b => b.history.filterMap (·.payload.discarded?)) =
      some [1] := by
  have hnumbered : Numbered cascading := ⟨by simp [cascading], by simp [cascading]⟩
  obtain ⟨hempty, order, last, added, all, hresolution, -⟩ :=
    resolveStack_bounded endless_keepsStack hnumbered (by decide)
  exact ⟨by decide, hempty, ⟨order, last, added, all, hresolution⟩, by cbv⟩

end CardRules.Engine
