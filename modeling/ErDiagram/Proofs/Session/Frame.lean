import ErDiagram.Proofs.Session.Closing

/-!
# What rebuilds leave alone

A rebuild, however it begins, goes on and ends, neither schedules tasks nor changes the context, and an
attached view stays as it is attached. So the tasks that wait and the tickets change only by what is
scheduled: the tickets that an event issues wait afterwards, unless their rebuild has begun.
-/

namespace ErDiagram

variable {σ : Type}

namespace Session

/-- Whether two sessions differ only in what rebuilds and the placing of nodes may change. -/
structure Keeps (s t : Session σ) : Prop where
  pending : t.pending = s.pending
  nextTicket : t.nextTicket = s.nextTicket
  context : t.context = s.context
  limits : t.limits = s.limits
  brokenAggregation : t.brokenAggregation = s.brokenAggregation
  brokenAssembly : t.brokenAssembly = s.brokenAssembly
  bus : s.subscriptions ≠ [] → t.bus = s.bus
  subscriptions : s.subscriptions ≠ [] → t.subscriptions = s.subscriptions

theorem Keeps.refl (s : Session σ) : Keeps s s := by
  constructor <;> intros <;> rfl

theorem Keeps.trans {s t u : Session σ} (h : Keeps s t) (h' : Keeps t u) : Keeps s u where
  pending := h'.pending.trans h.pending
  nextTicket := h'.nextTicket.trans h.nextTicket
  context := h'.context.trans h.context
  limits := h'.limits.trans h.limits
  brokenAggregation := h'.brokenAggregation.trans h.brokenAggregation
  brokenAssembly := h'.brokenAssembly.trans h.brokenAssembly
  bus hs := by
    have ht : t.subscriptions ≠ [] := by rwa [h.subscriptions hs]
    exact (h'.bus ht).trans (h.bus hs)
  subscriptions hs := by
    have ht : t.subscriptions ≠ [] := by rwa [h.subscriptions hs]
    exact (h'.subscriptions ht).trans (h.subscriptions hs)

theorem keeps_attach (s : Session σ) : Keeps s s.attach := by
  by_cases h : s.subscriptions.isEmpty
  · have hempty : s.subscriptions = [] := List.isEmpty_iff.1 h
    have hattach : s.attach = rebuildTopics.foldl subscribe s := by simp [attach, h]
    rw [hattach]
    constructor
    case bus => exact fun hs => absurd hempty hs
    case subscriptions => exact fun hs => absurd hempty hs
    all_goals rfl
  · have hattach : s.attach = s := by simp [attach, h]
    rw [hattach]
    exact .refl s

theorem keeps_readied (s : Session σ) (kind : TaskKind) : Keeps s (s.readied kind) := by
  cases kind with
  | activate => exact s.keeps_attach
  | rebuild => exact .refl s

theorem keeps_closing (c : Closing σ) : Keeps c.session c.after := by
  obtain ⟨view, listeners, notices, finished, h⟩ := c.after_eq
  rw [h]
  constructor <;> intros <;> rfl

theorem keeps_begin (source : MetadataSource σ) (s : Session σ) (task : Task) :
    Keeps s (s.begin source task) := by
  refine (s.keeps_readied task.kind).trans ?_
  have hasked : ∀ schema, Keeps (s.readied task.kind) ((s.readied task.kind).asked source schema) := by
    intro schema
    constructor <;> intros <;> rfl
  have hbeginning := s.beginning source task
  generalize s.begin source task = t at hbeginning ⊢
  generalize s.beginning? source task = closing at hbeginning
  cases hbeginning with
  | empty wanted =>
      refine .trans ?_ (keeps_closing _)
      constructor <;> intros <;> rfl
  | ended schema result wanted reached =>
      exact (hasked schema).trans
        (keeps_closing (((s.readied task.kind).asked source schema).closingOf _ result))
  | underWay schema wanted unreached =>
      refine (hasked schema).trans ?_
      constructor <;> intros <;> rfl

theorem keeps_progress (source : MetadataSource σ) (s : Session σ) (ticket : Nat) :
    Keeps s (s.progress source ticket) := by
  have hadvance := s.advance source ticket
  generalize s.progress source ticket = t at hadvance ⊢
  generalize s.ending? source ticket = closing at hadvance
  cases hadvance with
  | missing unknown => exact .refl s
  | ended cycle result found reached =>
      refine .trans ?_ (keeps_closing _)
      constructor <;> intros <;> rfl
  | underWay cycle found unreached => constructor <;> intros <;> rfl

theorem keeps_halt (s : Session σ) (ticket : Nat) (result : Except Fault Collected) :
    Keeps s (s.halt ticket result) := by
  have hhalt := s.halting ticket result
  generalize s.halt ticket result = t at hhalt ⊢
  generalize s.halting? ticket result = closing at hhalt
  cases hhalt with
  | missing unknown => exact .refl s
  | ended cycle found =>
      refine .trans ?_ (keeps_closing _)
      constructor <;> intros <;> rfl

theorem keeps_selectLayout (s : Session σ) (kind : Json) : Keeps s (s.selectLayout kind).1 := by
  obtain ⟨view, listeners, notices, h⟩ := s.selectLayout_eq kind
  rw [h]
  constructor <;> intros <;> rfl

theorem keeps_unlisten (s : Session σ) (name : String) : Keeps s (s.unlisten name) := by
  obtain ⟨listeners, h⟩ := s.unlisten_eq name
  rw [h]
  constructor <;> intros <;> rfl

theorem Keeps.waiting {s t : Session σ} (h : Keeps s t) : t.waiting = s.waiting :=
  congrArg (List.map Task.ticket) h.pending

theorem Keeps.tickets {s t : Session σ} (h : Keeps s t) :
    ∃ count, t.nextTicket = s.nextTicket + count ∧
      t.waiting.Perm (s.waiting ++ List.range' s.nextTicket count) := by
  refine ⟨0, h.nextTicket, ?_⟩
  rw [h.waiting, List.range'_zero, List.append_nil]

theorem waiting_signalled (s : Session σ) (count : Nat) :
    (s.signalled count).waiting = s.waiting ++ List.range' s.nextTicket count := by
  simp [waiting, signalled, Function.comp_def]

end Session

/-- The tickets after an event are those before it and those that are issued; the ticket of a rebuild that
begins waits no longer. -/
theorem tickets_occur (source : MetadataSource σ) (s : Session σ) (e : SessionEvent σ) :
    ∃ count, (s.occur source e).nextTicket = s.nextTicket + count ∧
      ((Moment.begun? ⟨s, e⟩).toList ++ (s.occur source e).waiting).Perm
        (s.waiting ++ List.range' s.nextTicket count) := by
  cases e with
  | request kind =>
      have hkeeps := s.issued.keeps_begin source ⟨s.nextTicket, kind, false⟩
      refine ⟨1, hkeeps.nextTicket, ?_⟩
      have hwaiting : (s.occur source (.request kind)).waiting = s.waiting := hkeeps.waiting
      rw [hwaiting, List.range'_one]
      exact List.perm_append_comm
  | start task =>
      by_cases h : task ∈ s.pending
      · have hkeeps := (s.without task).keeps_begin source task
        simp only [Moment.begun?, Session.occur, h, if_true]
        refine ⟨0, hkeeps.nextTicket, ?_⟩
        rw [hkeeps.waiting, List.range'_zero, List.append_nil]
        exact ((List.perm_cons_erase h).map Task.ticket).symm
      · simp only [Moment.begun?, Session.occur, h, if_false]
        exact (Session.Keeps.refl s).tickets
  | schedule kind signalled =>
      refine ⟨1, rfl, ?_⟩
      have hwaiting : (s.occur source (.schedule kind signalled)).waiting =
          s.waiting ++ [s.nextTicket] := List.map_append
      rw [hwaiting]
      exact .refl _
  | change inside what =>
      simp only [Moment.begun?, Session.occur, Session.change_eq]
      exact ⟨_, rfl, .of_eq (s.waiting_signalled _)⟩
  | publish inside topic =>
      simp only [Moment.begun?, Session.occur, Session.publish_eq]
      exact ⟨_, rfl, .of_eq (s.waiting_signalled _)⟩
  | progress ticket => exact (s.keeps_progress source ticket).tickets
  | halt ticket result => exact (s.keeps_halt ticket result).tickets
  | selectLayout kind => exact (s.keeps_selectLayout kind).tickets
  | attach => exact s.keeps_attach.tickets
  | unlisten name => exact (s.keeps_unlisten name).tickets
  | _ => exact (Session.Keeps.refl s).tickets

end ErDiagram
