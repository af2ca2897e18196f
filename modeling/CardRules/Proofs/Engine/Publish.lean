import CardRules.Proofs.Engine.Frame

/-!
# What is published

`Bus.Published b payloads b'` tells the notices that lie between two buses of one history; a bus
with room for all of them remembers all (`Bus.Published.eq_append`). `Engine.tell` publishes its
report first, and after it only what listeners bring about: effects that are queued and stacks
that are cleared.
-/

namespace CardRules

/-! ## On the bus -/

namespace Bus

variable {H P : Type} {b c d : Bus H P} {ps qs : List P}

/-- The second bus is the first one after notices with these payloads, in this order. It
remembers the latest notices, as many as the bus has room for. -/
structure Published (b : Bus H P) (payloads : List P) (c : Bus H P) : Prop where
  capacity : c.capacity = b.capacity
  count : c.published = b.published + payloads.length
  history : c.history.map (·.payload) <:+ b.history.map (·.payload) ++ payloads
  kept : ∀ n ≤ b.history.length + payloads.length, (∀ room ∈ b.capacity, n ≤ room) →
    n ≤ c.history.length

theorem Published.refl (b : Bus H P) : b.Published [] b :=
  ⟨rfl, rfl, by simp, fun _ hn _ => hn⟩

theorem Published.trans (h₁ : b.Published ps c) (h₂ : c.Published qs d) :
    b.Published (ps ++ qs) d := by
  refine ⟨h₂.capacity.trans h₁.capacity, ?_, ?_, ?_⟩
  · rw [h₂.count, h₁.count, List.length_append]
    omega
  · rw [← List.append_assoc]
    exact h₂.history.trans (List.suffix_append_self_iff.2 h₁.history)
  · intro n hn hroom
    rw [List.length_append] at hn
    have hfirst := h₁.kept (min n (b.history.length + ps.length)) (Nat.min_le_right _ _)
      fun room hr => Nat.le_trans (Nat.min_le_left _ _) (hroom room hr)
    exact h₂.kept n (by omega) (h₁.capacity ▸ hroom)

/-- A bus with room for all notices has all of them in its history. -/
theorem Published.eq_append (h : b.Published ps c)
    (hroom : ∀ room ∈ b.capacity, b.history.length + ps.length ≤ room) :
    c.history.map (·.payload) = b.history.map (·.payload) ++ ps := by
  refine h.history.eq_of_length_le ?_
  have hkept := h.kept _ (Nat.le_refl _) hroom
  simpa using hkept

theorem published_record (b : Bus H P) (kind : NoticeKind) (payload : P) :
    b.Published [payload] (b.record kind payload).2 := by
  refine ⟨rfl, rfl, ?_, ?_⟩
  · have hsuffix : ∀ (room : Option Nat) (ns : List (Notice P)), remembered room ns <:+ ns := by
      intro room ns
      cases room with
      | none => exact List.suffix_refl _
      | some n => exact List.drop_suffix _ _
    have hmap := (hsuffix b.capacity (b.history ++ [⟨b.published, kind, payload, false⟩])).map
      (·.payload)
    rwa [List.map_append] at hmap
  · intro n hn hroom
    cases hc : b.capacity with
    | none =>
      simp only [record, issue, remember, hc, remembered, List.length_append,
        List.length_singleton] at hn ⊢
      exact hn
    | some room =>
      have hle := hroom room (by simp [hc])
      simp only [record, issue, remember, hc, remembered, List.length_drop, List.length_append,
        List.length_singleton] at hn ⊢
      omega

theorem Published.markCancelled (h : b.Published ps c) (serial : Nat) :
    b.Published ps (c.markCancelled serial) := by
  have hpayloads : (c.markCancelled serial).history.map (·.payload) =
      c.history.map (·.payload) := by
    rw [Bus.markCancelled, List.map_map]
    refine List.map_congr_left fun n _ => ?_
    dsimp only [Function.comp_apply]
    split <;> rfl
  refine ⟨h.capacity, h.count, ?_, ?_⟩
  · rw [hpayloads]
    exact h.history
  · have hlength : (c.markCancelled serial).history.length = c.history.length := by
      simp [Bus.markCancelled]
    rw [hlength]
    exact h.kept

end Bus

/-! ## In the engine -/

/-- Reports that listeners bring about. -/
def Report.isAside : Report → Bool
  | .queued .. | .cleared _ => true
  | _ => false

theorem Report.filter_asides {p : Report → Bool} {rs : List Report}
    (hp : ∀ r : Report, r.isAside → p r = false) (hrs : ∀ r ∈ rs, r.isAside) :
    rs.filter p = [] :=
  List.filter_eq_nil_iff.2 fun r hr => by simp [hp r (hrs r hr)]

namespace Engine

variable {σ : Type} {host : Host σ} {e e' e'' : Engine σ} {r : Report} {rs rs' : List Report}

/-- The second engine is there after notices with these reports, in this order; an engine without
a bus publishes nothing. -/
def Publishes (e : Engine σ) (reports : List Report) (e' : Engine σ) : Prop :=
  Option.Rel (fun b c => Bus.Published b reports c) e.bus e'.bus

theorem Publishes.of_bus (h : e'.bus = e.bus) : Publishes e [] e' := by
  unfold Publishes
  rw [h]
  cases e.bus with
  | none => exact .none
  | some b => exact .some (.refl b)

theorem Publishes.trans (h₁ : Publishes e rs e') (h₂ : Publishes e' rs' e'') :
    Publishes e (rs ++ rs') e'' := by
  unfold Publishes at *
  generalize e.bus = b at h₁ ⊢
  generalize e'.bus = c at h₁ h₂
  generalize e''.bus = d at h₂ ⊢
  cases h₁ with
  | none => cases h₂; exact .none
  | some h₁ =>
    cases h₂ with
    | some h₂ => exact .some (h₁.trans h₂)

/-- Nothing is published between the engines but what listeners bring about. -/
def Aside (e e' : Engine σ) : Prop := ∃ rs, Publishes e rs e' ∧ ∀ r ∈ rs, r.isAside

theorem Aside.of_bus (h : e'.bus = e.bus) : Aside e e' := ⟨[], .of_bus h, by simp⟩

theorem Aside.trans (h₁ : Aside e e') (h₂ : Aside e' e'') : Aside e e'' := by
  obtain ⟨rs, h₁, hrs⟩ := h₁
  obtain ⟨rs', h₂, hrs'⟩ := h₂
  refine ⟨rs ++ rs', h₁.trans h₂, fun r hr => ?_⟩
  rcases List.mem_append.1 hr with hr | hr
  · exact hrs r hr
  · exact hrs' r hr

/-- The report is published, and nothing else but what listeners bring about. -/
def Tells (e : Engine σ) (r : Report) (e' : Engine σ) : Prop :=
  ∃ rs, Publishes e (r :: rs) e' ∧ ∀ r ∈ rs, r.isAside

theorem Tells.aside (h : Tells e r e') (hr : r.isAside) : Aside e e' := by
  obtain ⟨rs, h, hrs⟩ := h
  exact ⟨r :: rs, h, List.forall_mem_cons.2 ⟨hr, hrs⟩⟩

theorem aside_perform {tell : Report → Engine σ → Engine σ} (ht : ∀ r e, Tells e r (tell r e))
    {reactions : List Reaction} {cancelled : Bool} :
    Aside e (perform tell cancelled reactions e).2.2 := by
  induction reactions generalizing cancelled e with
  | nil => exact .of_bus rfl
  | cons reaction rest ih =>
    cases reaction with
    | push i priority =>
      have hqueued : Aside e (e.enqueue i (priority.getD i.priority)) := .of_bus rfl
      exact hqueued.trans (((ht _ _).aside rfl).trans ih)
    | clear =>
      have hcleared : Aside e { e with stack := [] } := .of_bus rfl
      exact hcleared.trans (((ht _ _).aside rfl).trans ih)
    | cancel => exact ih
    | fail => exact .of_bus rfl
    | update change =>
      rw [perform]
      split
      · rename_i g hg
        have hupdated : Aside e { e with game := g } := .of_bus rfl
        exact hupdated.trans ih
      · exact .of_bus rfl

theorem tells_busPublish {call : Notice Report → ListenerId → Engine σ → Bus.Reply (Engine σ)}
    (hc : ∀ notice l e, Aside e (call notice l e).2.2) {b : Bus ListenerId Report}
    (hb : e.bus = some b) {kind : NoticeKind} : Tells e r (Bus.publish (fun e => e.bus.getD b)
      (fun e b => { e with bus := some b }) call kind r e).2 := by
  rw [Bus.publish_eq]
  case hget => exact fun _ _ => rfl
  case hset => exact fun _ _ _ => rfl
  dsimp only
  rw [hb, Option.getD_some]
  have hrecord := Bus.published_record b kind r
  generalize b.record kind r = recorded at hrecord ⊢
  generalize hd : Bus.deliver (call recorded.1) (b.audience kind)
    { e with bus := some recorded.2 } = delivered
  have hfirst : Publishes e [r] { e with bus := some recorded.2 } := by
    rw [Publishes, hb]
    exact .some hrecord
  obtain ⟨rs, hthen, hrs⟩ : Aside { e with bus := some recorded.2 } delivered.2 := by
    rw [← hd]
    exact Bus.rel_deliver (fun _ => .of_bus rfl) .trans (hc recorded.1)
  have hall := hfirst.trans hthen
  obtain ⟨cancelled, e'⟩ := delivered
  refine ⟨rs, ?_, hrs⟩
  cases cancelled with
  | false => exact hall
  | true =>
    rw [Publishes, hb] at hall ⊢
    dsimp only at hall ⊢
    generalize e'.bus = c at hall ⊢
    cases hall with
    | some hall => exact .some (hall.markCancelled _)

theorem tells_publish (depth : Nat) : Tells e r (publish host depth r e) := by
  induction depth generalizing r e with
  | zero =>
    refine ⟨[], ?_, by simp⟩
    unfold Publishes publish
    dsimp only
    cases e.bus with
    | none => exact .none
    | some b => exact .some (Bus.published_record b _ r)
  | succ depth ih =>
    rw [publish]
    split
    · rename_i hb
      refine ⟨[], ?_, by simp⟩
      rw [Publishes, hb]
      exact .none
    · rename_i b hb
      refine tells_busPublish (fun notice l e => ?_) hb
      have hmemory : Aside e { e with memory := (host.react l notice e.game e.memory).2 } :=
        .of_bus rfl
      exact hmemory.trans (aside_perform fun _ _ => ih)

/-- Whoever listens, a report is published once, before all that listeners bring about. -/
theorem tells_tell (host : Host σ) (r : Report) : Tells e r (e.tell host r) :=
  tells_publish host.reach

/-- Of the engine's own reports exactly the given ones are published. -/
theorem publishes_tellAll (host : Host σ) (rs : List Report) :
    ∃ all, Publishes e all (e.tellAll host rs) ∧
      ∀ p : Report → Bool, (∀ r, r.isAside → p r = false) → all.filter p = rs.filter p := by
  induction rs generalizing e with
  | nil => exact ⟨[], .of_bus rfl, fun _ _ => rfl⟩
  | cons r rest ih =>
    obtain ⟨asides, hr, hasides⟩ := tells_tell (e := e) host r
    obtain ⟨all, hrest, hall⟩ := ih (e := e.tell host r)
    refine ⟨r :: asides ++ all, hr.trans hrest, fun p hp => ?_⟩
    rw [List.cons_append, List.filter_cons, List.filter_cons, List.filter_append,
      Report.filter_asides hp hasides, List.nil_append, hall p hp]

end Engine

end CardRules
