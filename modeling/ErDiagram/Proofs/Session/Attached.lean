import ErDiagram.Proofs.Session.Frame

/-!
# Attached views

While a view is attached to the bus, every change of the schema or the database that is signalled leaves a
rebuild waiting. The events of ordinary use leave the view attached, and whatever asks for a rebuild issues
a ticket for it.
-/

namespace ErDiagram

variable {σ : Type}

/-- What happens to a session in the course of its use: the schema and the database are selected anew by
their signals, rebuilds are asked for, tasks begin, time passes and cycles go on. -/
def SessionEvent.isOrderly : SessionEvent σ → Bool
  | .request _ | .schedule _ _ | .start _ | .progress _ | .reach _ => true
  | .change true (.schema _) | .change true (.database _) => true
  | .selectLayout _ | .attach | .listen _ _ _ | .unlisten _ => true
  | _ => false

def SessionEvent.isTrigger : SessionEvent σ → Bool
  | .request _ | .schedule _ _ => true
  | .change true (.schema _) | .change true (.database _) => true
  | _ => false

/-- Whether a view is attached to the bus of a session in which nothing is broken. -/
structure Session.IsAttached (limits : FetchLimits) (s : Session σ) : Prop where
  subscriptions : s.subscriptions ≠ []
  heard : ∀ topic ∈ Session.rebuildTopics, 0 < s.bus.count topic
  limits : s.limits = limits
  aggregation : s.brokenAggregation = none
  assembly : s.brokenAssembly = none

variable {source : MetadataSource σ} {limits : FetchLimits}

namespace Session

theorem isAttached_opened (limits : FetchLimits) (context : Context) (layout : LayoutKind)
    (box : NodeBox) (state : σ) :
    (Session.opened limits context layout box state).IsAttached limits where
  subscriptions := List.cons_ne_nil _ _
  heard := by
    intro topic htopic
    rcases List.mem_cons.1 htopic with rfl | htopic
    · exact Nat.one_pos
    · rw [List.mem_singleton.1 htopic]
      exact Nat.one_pos
  limits := rfl
  aggregation := rfl
  assembly := rfl

theorem IsAttached.of_keeps {s t : Session σ} (h : s.IsAttached limits) (hkeeps : Keeps s t) :
    t.IsAttached limits where
  subscriptions := by
    rw [hkeeps.subscriptions h.subscriptions]
    exact h.subscriptions
  heard := by
    rw [hkeeps.bus h.subscriptions]
    exact h.heard
  limits := hkeeps.limits.trans h.limits
  aggregation := hkeeps.brokenAggregation.trans h.aggregation
  assembly := hkeeps.brokenAssembly.trans h.assembly

theorem IsAttached.pending_change {s : Session σ} (h : s.IsAttached limits) {what : ContextChange}
    (htopic : what.topic ∈ rebuildTopics) : (s.change true what).pending ≠ [] := by
  have hcount := h.heard what.topic htopic
  rw [change_eq]
  simp only [signalled, audience, if_true, ne_eq, List.append_eq_nil_iff, List.map_eq_nil_iff,
    List.range'_eq_nil_iff]
  omega

theorem IsAttached.change {s : Session σ} (h : s.IsAttached limits) (what : ContextChange) :
    (s.change true what).IsAttached limits := by
  rw [change_eq]
  exact ⟨h.subscriptions, h.heard, h.limits, h.aggregation, h.assembly⟩

theorem IsAttached.issued {s : Session σ} (h : s.IsAttached limits) : s.issued.IsAttached limits :=
  ⟨h.subscriptions, h.heard, h.limits, h.aggregation, h.assembly⟩

theorem IsAttached.without {s : Session σ} (h : s.IsAttached limits) (task : Task) :
    (s.without task).IsAttached limits :=
  ⟨h.subscriptions, h.heard, h.limits, h.aggregation, h.assembly⟩

/-- Every orderly event leaves the view attached. -/
theorem IsAttached.occur {s : Session σ} (h : s.IsAttached limits) {e : SessionEvent σ}
    (he : e.isOrderly) : (s.occur source e).IsAttached limits := by
  cases e with
  | request kind =>
      exact h.issued.of_keeps (s.issued.keeps_begin source ⟨s.nextTicket, kind, false⟩)
  | start task =>
      simp only [Session.occur]
      split
      · exact (h.without task).of_keeps ((s.without task).keeps_begin source task)
      · exact h
  | progress ticket => exact h.of_keeps (s.keeps_progress source ticket)
  | selectLayout kind => exact h.of_keeps (s.keeps_selectLayout kind)
  | attach => exact h.of_keeps s.keeps_attach
  | change inside what =>
      cases inside with
      | true => exact h.change what
      | false => cases what <;> cases he
  | unlisten name => exact h.of_keeps (s.keeps_unlisten name)
  | schedule kind signalled =>
      exact ⟨h.subscriptions, h.heard, h.limits, h.aggregation, h.assembly⟩
  | reach time => exact ⟨h.subscriptions, h.heard, h.limits, h.aggregation, h.assembly⟩
  | listen name failure removes =>
      exact ⟨h.subscriptions, h.heard, h.limits, h.aggregation, h.assembly⟩
  | _ => cases he

end Session

end ErDiagram
