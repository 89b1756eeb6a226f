import ErDiagram.Proofs.Session.Relayout

/-!
# What the listeners are told

A diagram is put in place by a rebuild that commits, of whatever kind, and by a layout that is selected with
success. Nothing else changes the diagram, and nothing else is told. So, as long as no listener fails or
interferes, each diagram that is put in place is told to those who are registered then, in their order, and
what someone was told last while registered is what the view shows.

The registry here changes in every way it can: a listener is added under a name or once more, and is
removed by the name or by what the addition gave back, at any time.
-/

namespace ErDiagram

variable {σ : Type}

/-- Whether a listener neither fails nor removes another one. -/
def Listener.IsSilent (listener : Listener) : Prop :=
  listener.failure = none ∧ listener.removes = none

instance : DecidablePred Listener.IsSilent := fun listener => by
  rw [Listener.IsSilent]
  infer_instance

namespace Listeners

def AreSilent (l : Listeners) : Prop :=
  ∀ listener ∈ l.registered, listener.IsSilent

/-- What is told of a diagram when everyone who is registered is told. -/
def telling (l : Listeners) (diagram : Diagram) : List Notice :=
  l.registered.map (⟨·, diagram⟩)

theorem AreSilent.notify {l : Listeners} (h : l.AreSilent) (diagram : Diagram) :
    l.notify diagram = (l, l.telling diagram, none) :=
  tell_of_silent h diagram l

theorem AreSilent.add {l : Listeners} (h : l.AreSilent) {listener : Listener}
    (hlistener : listener.IsSilent) : (l.add listener).AreSilent := by
  intro other hother
  rcases List.mem_append.1 hother with hother | hother
  · exact h other hother
  · rw [List.mem_singleton.1 hother]
    exact hlistener

theorem AreSilent.remove {l : Listeners} (h : l.AreSilent) (identity : Nat) :
    (l.remove identity).AreSilent :=
  fun listener hlistener => h listener (mem_removeFirst hlistener)

theorem AreSilent.removeNamed {l : Listeners} (h : l.AreSilent) (name : String) :
    ((l.removeNamed name).toOption.getD l).AreSilent := by
  rw [Listeners.removeNamed]
  cases l.named? name with
  | none => exact h
  | some listener => exact h.remove listener.identity

end Listeners

/-- What happens to a session and its listeners. Any listener can be added, also one that is registered
already, and be removed at any time, also when it is not there. -/
inductive Hearing (σ : Type) where
  | event (e : SessionEvent σ)
  | join (listener : Listener)
  | leave (identity : Nat)

/-- Whether a listener that is added, if any, is silent. -/
def Hearing.IsSilent : Hearing σ → Prop
  | .event (.listen _ failure removes) => failure = none ∧ removes = none
  | .join listener => listener.IsSilent
  | _ => True

/-- The registry after listeners have come or gone. -/
def Listeners.enrol (l : Listeners) : Hearing σ → Listeners
  | .event (.listen name failure removes) => l.add (l.create name failure removes)
  | .event (.unlisten name) => (l.removeNamed name).toOption.getD l
  | .join listener => l.add listener
  | .leave identity => l.remove identity
  | .event _ => l

theorem Listeners.AreSilent.enrol {l : Listeners} (h : l.AreSilent) {hearing : Hearing σ}
    (hsilent : hearing.IsSilent) : (l.enrol hearing).AreSilent := by
  cases hearing with
  | join listener => exact h.add hsilent
  | leave identity => exact h.remove identity
  | event e =>
      cases e with
      | listen name failure removes => exact h.add hsilent
      | unlisten name => exact h.removeNamed name
      | _ => exact h

/-- Whether a rebuild that ends puts its offer in place. -/
def Closing.replaces (c : Closing σ) : Bool :=
  c.session.view.isLatest c.generation && (c.offer.commit c.session.view).isOk

/-- Whether a moment puts a diagram in place: a rebuild commits, or a layout is selected with success. -/
def Moment.replaces (source : MetadataSource σ) (m : Moment σ) : Bool :=
  match m.event with
  | .selectLayout kind => (m.session.selectLayout kind).2.isOk
  | _ => (m.closing? source).any Closing.replaces

/-- A diagram that is put in place, with those who are registered then. -/
structure Showing where
  diagram : Diagram
  audience : List Listener

namespace Showing

/-- What is told of a diagram that is put in place. -/
def notices (showing : Showing) : List Notice :=
  showing.audience.map (⟨·, showing.diagram⟩)

/-- How many times someone is registered when a diagram is put in place. -/
def times (identity : Nat) (showing : Showing) : Nat :=
  showing.audience.countP (·.identity = identity)

/-- Whether someone is registered when a diagram is put in place. -/
def reaches (identity : Nat) (showing : Showing) : Bool :=
  0 < showing.times identity

/-- What someone is told of a diagram that is put in place: the diagram, as often as they are registered. -/
def heard (identity : Nat) (showing : Showing) : List Diagram :=
  .replicate (showing.times identity) showing.diagram

private theorem diagrams_notices (showing : Showing) (identity : Nat) :
    (showing.notices.filter (·.listener.identity = identity)).map Notice.diagram =
      showing.heard identity := by
  simp only [notices, heard, times, List.filter_map, List.map_map, List.countP_eq_length_filter]
  exact List.map_const'

private theorem heard_of_times_le {showing : Showing} {identity : Nat} (h : showing.times identity ≤ 1) :
    showing.heard identity = if showing.reaches identity then [showing.diagram] else [] := by
  rw [heard, reaches]
  obtain h | h : showing.times identity = 0 ∨ showing.times identity = 1 := by omega
  all_goals simp [h]

private theorem flatMap_heard_of_times_le {shown : List Showing} {identity : Nat}
    (h : ∀ showing ∈ shown, showing.times identity ≤ 1) :
    shown.flatMap (heard identity) = (shown.filter (reaches identity)).map Showing.diagram := by
  induction shown with
  | nil => rfl
  | cons showing rest ih =>
      obtain ⟨hfirst, hrest⟩ := List.forall_mem_cons.1 h
      rw [List.flatMap_cons, heard_of_times_le hfirst, ih hrest, List.filter_cons]
      split <;> simp

private theorem getLast?_flatMap_heard {shown : List Showing} {identity : Nat}
    (h : ∀ showing ∈ shown, showing.reaches identity) :
    (shown.flatMap (heard identity)).getLast? = shown.getLast?.map Showing.diagram := by
  rcases List.eq_nil_or_concat shown with rfl | ⟨before, showing, rfl⟩
  · rfl
  · have htimes : showing.times identity ≠ 0 := by
      have hreaches := h showing (by simp)
      simpa [reaches, Nat.pos_iff_ne_zero] using hreaches
    simp [heard, htimes, List.getLast?_replicate]

end Showing

namespace Session

/-- The session after something has happened to it or to its listeners. -/
def attend (source : MetadataSource σ) (s : Session σ) : Hearing σ → Session σ
  | .event e => s.occur source e
  | .join listener => { s with listeners := s.listeners.add listener }
  | .leave identity => { s with listeners := s.listeners.remove identity }

def attended (source : MetadataSource σ) (s : Session σ) (hearings : List (Hearing σ)) : Session σ :=
  hearings.foldl (attend source) s

/-- The diagram that is put in place by what happens, if it is. -/
def showing? (source : MetadataSource σ) (s : Session σ) : Hearing σ → Option Showing
  | .event e =>
    if Moment.replaces source ⟨s, e⟩ then
      some ⟨(s.occur source e).view.diagram, s.listeners.registered⟩
    else none
  | _ => none

/-- The diagrams that are put in place, in their order. -/
def showings (source : MetadataSource σ) : Session σ → List (Hearing σ) → List Showing
  | _, [] => []
  | s, hearing :: rest =>
    (s.showing? source hearing).toList ++ showings source (s.attend source hearing) rest

/-- The diagrams that a listener was told, in their order. -/
def received (s : Session σ) (identity : Nat) : List Diagram :=
  (s.notices.filter (·.listener.identity = identity)).map Notice.diagram

/-- Whether two sessions show the same and have told the same to the same listeners. -/
structure SameShow (s t : Session σ) : Prop where
  diagram : t.view.diagram = s.view.diagram
  listeners : t.listeners = s.listeners
  notices : t.notices = s.notices

/-- What comes of a task that begins or a cycle that goes on: nothing that shows, unless a rebuild ends. -/
inductive Sequel (s : Session σ) : Option (Closing σ) → Session σ → Prop where
  | quiet {t : Session σ} (same : SameShow s t) : Sequel s none t
  | ended (c : Closing σ) (same : SameShow s c.session) : Sequel s (some c) c.after

theorem Sequel.of_same {s s' t : Session σ} {closing : Option (Closing σ)}
    (h : Sequel s' closing t) (hsame : SameShow s s') : Sequel s closing t := by
  have htrans : ∀ {u : Session σ}, SameShow s' u → SameShow s u := fun hu =>
    ⟨hu.diagram.trans hsame.diagram, hu.listeners.trans hsame.listeners,
      hu.notices.trans hsame.notices⟩
  cases h with
  | quiet same => exact .quiet (htrans same)
  | ended c same => exact .ended c (htrans same)

theorem sequel_begin (source : MetadataSource σ) (s : Session σ) (task : Task) :
    Sequel s (s.beginning? source task) (s.begin source task) := by
  have hsame : SameShow s (s.readied task.kind) := by
    obtain ⟨bus, subscriptions, hready⟩ := s.readied_eq task.kind
    rw [hready]
    exact ⟨rfl, rfl, rfl⟩
  refine Sequel.of_same ?_ hsame
  have hbeginning := s.beginning source task
  generalize s.begin source task = t at hbeginning ⊢
  generalize s.beginning? source task = closing at hbeginning ⊢
  cases hbeginning with
  | empty wanted => exact .ended _ ⟨rfl, rfl, rfl⟩
  | ended schema result wanted reached => exact .ended _ ⟨rfl, rfl, rfl⟩
  | underWay schema wanted unreached => exact .quiet ⟨rfl, rfl, rfl⟩

theorem sequel_progress (source : MetadataSource σ) (s : Session σ) (ticket : Nat) :
    Sequel s (s.ending? source ticket) (s.progress source ticket) := by
  have hadvance := s.advance source ticket
  generalize s.progress source ticket = t at hadvance ⊢
  generalize s.ending? source ticket = closing at hadvance ⊢
  cases hadvance with
  | missing unknown => exact .quiet ⟨rfl, rfl, rfl⟩
  | ended cycle result found reached => exact .ended _ ⟨rfl, rfl, rfl⟩
  | underWay cycle found unreached => exact .quiet ⟨rfl, rfl, rfl⟩

theorem sequel_halt (s : Session σ) (ticket : Nat) (result : Except Fault Collected) :
    Sequel s (s.halting? ticket result) (s.halt ticket result) := by
  have hhalt := s.halting ticket result
  generalize s.halt ticket result = t at hhalt ⊢
  generalize s.halting? ticket result = closing at hhalt ⊢
  cases hhalt with
  | missing unknown => exact .quiet ⟨rfl, rfl, rfl⟩
  | ended cycle found => exact .ended _ ⟨rfl, rfl, rfl⟩

/-- Whether what leads from one session to another tells of the diagram that it puts in place, if it puts one
in place, and of nothing else. -/
structure Tells (s : Session σ) (replaces : Bool) (t : Session σ) : Prop where
  listeners : t.listeners = s.listeners
  notices : t.notices = s.notices ++ if replaces then s.listeners.telling t.view.diagram else []
  diagram : replaces = false → t.view.diagram = s.view.diagram

theorem SameShow.tells {s t : Session σ} (h : SameShow s t) : Tells s false t where
  listeners := h.listeners
  notices := by simp [h.notices]
  diagram _ := h.diagram

private theorem tells_conclusion {s : Session σ} (h : s.listeners.AreSilent) (ticket : Nat)
    (calls : List SourceCall) (v : View) : Tells s true (s.conclusion ticket calls v) := by
  rw [conclusion_eq, h.notify]
  exact ⟨rfl, rfl, nofun⟩

private theorem tells_after {c : Closing σ} (h : c.session.listeners.AreSilent) :
    Tells c.session c.replaces c.after := by
  unfold Closing.replaces Closing.after
  cases c.session.view.isLatest c.generation with
  | false => exact SameShow.tells ⟨rfl, rfl, rfl⟩
  | true =>
      cases c.offer.commit c.session.view with
      | error fault => exact SameShow.tells ⟨rfl, rfl, rfl⟩
      | ok shown => exact tells_conclusion h c.ticket c.calls shown

theorem Tells.of_same {s s' t : Session σ} {replaces : Bool} (h : Tells s' replaces t)
    (hsame : SameShow s s') : Tells s replaces t where
  listeners := h.listeners.trans hsame.listeners
  notices := by rw [h.notices, hsame.notices, hsame.listeners]
  diagram hreplaces := (h.diagram hreplaces).trans hsame.diagram

theorem Sequel.tells {s t : Session σ} {closing : Option (Closing σ)} (h : Sequel s closing t)
    (hsilent : s.listeners.AreSilent) : Tells s (closing.any Closing.replaces) t := by
  cases h with
  | quiet same => exact same.tells
  | ended c same =>
      rw [← same.listeners] at hsilent
      exact (tells_after hsilent).of_same same

private theorem generation_selectLayout (s : Session σ) (kind : Json) :
    (s.selectLayout kind).1.view.generation = s.view.generation := by
  have hselection := s.selection kind
  generalize s.selectLayout kind = ending at hselection ⊢
  cases hselection <;> rfl

/-- A layout that cannot be selected, or under which the nodes cannot be placed, is not told of. -/
theorem tells_selectLayout {s : Session σ} (h : s.listeners.AreSilent) (kind : Json) :
    Tells s (s.selectLayout kind).2.isOk (s.selectLayout kind).1 := by
  have hselection := s.selection kind
  generalize s.selectLayout kind = ending at hselection ⊢
  cases hselection with
  | refused fault unknown => exact SameShow.tells ⟨rfl, rfl, rfl⟩
  | unplaced selected fault known pointless => exact SameShow.tells ⟨rfl, rfl, rfl⟩
  | placed selected diagram known placed heard =>
      rw [relaid, h.notify]
      exact ⟨rfl, rfl, nofun⟩
  | unheard selected diagram fault known placed failed =>
      rw [h.notify] at failed
      cases failed

/-- What happens makes of the registry what it is to, and tells of the diagram that it puts in place, if it
puts one in place, and of nothing else. -/
structure Announces (source : MetadataSource σ) (s : Session σ) (hearing : Hearing σ) : Prop where
  listeners : (s.attend source hearing).listeners = s.listeners.enrol hearing
  notices : (s.attend source hearing).notices =
    s.notices ++ (s.showing? source hearing).toList.flatMap Showing.notices
  diagram : (s.attend source hearing).view.diagram =
    ((s.showing? source hearing).map Showing.diagram).getD s.view.diagram

theorem Tells.announces {source : MetadataSource σ} {s : Session σ} {e : SessionEvent σ}
    (h : Tells s (Moment.replaces source ⟨s, e⟩) (s.occur source e))
    (henrol : s.listeners.enrol (.event e) = s.listeners) : Announces source s (.event e) := by
  refine ⟨h.listeners.trans henrol.symm, ?_, ?_⟩
  · simp only [attend, showing?]
    rw [h.notices]
    split <;> simp [Showing.notices, Listeners.telling]
  · simp only [attend, showing?]
    split
    · rfl
    · exact h.diagram (Bool.eq_false_iff.2 ‹_›)

/-- Every event, and every listener that comes or goes, announces what it is to. -/
theorem announces_attend (source : MetadataSource σ) {s : Session σ} (h : s.listeners.AreSilent)
    (hearing : Hearing σ) : Announces source s hearing := by
  cases hearing with
  | join listener => exact ⟨rfl, (List.append_nil _).symm, rfl⟩
  | leave identity => exact ⟨rfl, (List.append_nil _).symm, rfl⟩
  | event e =>
      cases e with
      | listen name failure removes => exact ⟨rfl, (List.append_nil _).symm, rfl⟩
      | unlisten name =>
          refine ⟨?_, ?_, ?_⟩
          all_goals
            simp only [attend, occur, unlisten, Listeners.enrol, showing?, Moment.replaces, Moment.closing?]
            cases s.listeners.removeNamed name <;> simp [Except.toOption]
      | request kind =>
          have hsequel := s.issued.sequel_begin source ⟨s.nextTicket, kind, false⟩
          refine Tells.announces ?_ rfl
          exact (hsequel.tells h).of_same ⟨rfl, rfl, rfl⟩
      | start task =>
          refine Tells.announces ?_ rfl
          by_cases hmem : task ∈ s.pending
          · have hsequel := (s.without task).sequel_begin source task
            simp only [Moment.replaces, Moment.closing?, occur, hmem, if_true]
            exact (hsequel.tells h).of_same ⟨rfl, rfl, rfl⟩
          · simp only [Moment.replaces, Moment.closing?, occur, hmem, if_false]
            exact SameShow.tells ⟨rfl, rfl, rfl⟩
      | progress ticket => exact ((s.sequel_progress source ticket).tells h).announces rfl
      | halt ticket result => exact ((s.sequel_halt ticket result).tells h).announces rfl
      | selectLayout kind => exact (tells_selectLayout h kind).announces rfl
      | change inside what =>
          refine (SameShow.tells ?_).announces rfl
          simp only [occur, change_eq]
          exact ⟨rfl, rfl, rfl⟩
      | publish inside topic =>
          refine (SameShow.tells ?_).announces rfl
          simp only [occur, publish_eq]
          exact ⟨rfl, rfl, rfl⟩
      | attach =>
          obtain ⟨bus, subscriptions, hattach⟩ := s.attach_eq
          refine (SameShow.tells ?_).announces rfl
          simp only [occur, hattach]
          exact ⟨rfl, rfl, rfl⟩
      -- no other event has to do with the view or the listeners
      | _ =>
          refine (SameShow.tells ?_).announces rfl
          exact ⟨rfl, rfl, rfl⟩

/-- What is to be known of a session after all that has happened: who is registered, what they were told, and
what the view shows. -/
structure Announced (source : MetadataSource σ) (first : Session σ) (hearings : List (Hearing σ)) :
    Prop where
  listeners : (first.attended source hearings).listeners = hearings.foldl Listeners.enrol first.listeners
  silent : (first.attended source hearings).listeners.AreSilent
  notices : (first.attended source hearings).notices =
    first.notices ++ (first.showings source hearings).flatMap Showing.notices
  diagram : (first.attended source hearings).view.diagram =
    ((first.showings source hearings).getLast?.map Showing.diagram).getD first.view.diagram

theorem announced (source : MetadataSource σ) {hearings : List (Hearing σ)}
    (hsilent : ∀ hearing ∈ hearings, hearing.IsSilent) {first : Session σ}
    (h : first.listeners.AreSilent) : Announced source first hearings := by
  induction hearings generalizing first with
  | nil => exact ⟨rfl, h, (List.append_nil _).symm, rfl⟩
  | cons hearing rest ih =>
      obtain ⟨hhearing, hrest⟩ := List.forall_mem_cons.1 hsilent
      have hstep := announces_attend source h hearing
      have hnext : (first.attend source hearing).listeners.AreSilent := by
        rw [hstep.listeners]
        exact h.enrol hhearing
      have hlater := ih hrest hnext
      refine ⟨?_, hlater.silent, ?_, ?_⟩
      · rw [List.foldl_cons, ← hstep.listeners]
        exact hlater.listeners
      · rw [showings, List.flatMap_append, ← List.append_assoc, ← hstep.notices]
        exact hlater.notices
      · refine hlater.diagram.trans ?_
        rw [hstep.diagram, showings, List.getLast?_append]
        cases (showings source (first.attend source hearing) rest).getLast? with
        | some showing => rfl
        | none => cases first.showing? source hearing <;> rfl

theorem Announced.received {source : MetadataSource σ} {first : Session σ}
    {hearings : List (Hearing σ)} (h : Announced source first hearings) (identity : Nat) :
    (first.attended source hearings).received identity =
      first.received identity ++
        (first.showings source hearings).flatMap (Showing.heard identity) := by
  simp only [Session.received, h.notices, List.filter_append, List.map_append, List.filter_flatMap,
    List.map_flatMap, Showing.diagrams_notices]

end Session

theorem Closing.replaces_iff {c : Closing σ} : c.replaces = true ↔ c.Commits := by
  rw [commits_iff, replaces, View.isLatest, Bool.and_eq_true, decide_eq_true_iff, eq_comm]
  cases c.offer.commit c.session.view <;> simp [Except.isOk, Except.toBool]

theorem Session.Sequel.eq_after {s t : Session σ} {c : Closing σ} (h : Sequel s (some c) t) :
    t = c.after := by
  cases h
  rfl

namespace Moment

variable {source : MetadataSource σ} {m : Moment σ}

/-- A moment at which a rebuild ends leaves the session as the end of the rebuild does. -/
theorem occur_of_closing {c : Closing σ} (h : m.closing? source = some c) :
    m.session.occur source m.event = c.after := by
  obtain ⟨s, e⟩ := m
  cases e with
  | request kind =>
      have hsequel := s.issued.sequel_begin source ⟨s.nextTicket, kind, false⟩
      rw [show s.issued.beginning? source ⟨s.nextTicket, kind, false⟩ = some c from h] at hsequel
      exact hsequel.eq_after
  | start task =>
      have hsequel := (s.without task).sequel_begin source task
      by_cases hmem : task ∈ s.pending
      · simp only [closing?, hmem, if_true] at h
        simp only [Session.occur, hmem, if_true]
        rw [h] at hsequel
        exact hsequel.eq_after
      · simp [closing?, hmem] at h
  | progress ticket =>
      have hsequel := s.sequel_progress source ticket
      rw [show s.ending? source ticket = some c from h] at hsequel
      exact hsequel.eq_after
  | halt ticket result =>
      have hsequel := s.sequel_halt ticket result
      rw [show s.halting? ticket result = some c from h] at hsequel
      exact hsequel.eq_after
  | _ => cases h

/-- A diagram is put in place by the rebuilds that commit and the layouts that are selected with success. -/
theorem replaces_iff : m.replaces source = true ↔
    (∃ c, m.closing? source = some c ∧ c.Commits) ∨
      ∃ kind diagram, m.event = .selectLayout kind ∧
        (m.session.selectLayout kind).2 = .ok diagram := by
  obtain ⟨s, e⟩ := m
  cases e with
  | selectLayout kind =>
      simp only [replaces, closing?, reduceCtorEq, false_and, exists_false, false_or]
      constructor
      · intro h
        cases hplaced : (s.selectLayout kind).2 with
        | error fault => simp [hplaced, Except.isOk, Except.toBool] at h
        | ok diagram => exact ⟨kind, diagram, rfl, hplaced⟩
      · rintro ⟨_, diagram, ⟨⟩, hplaced⟩
        simp [hplaced, Except.isOk, Except.toBool]
  | _ => simp [replaces, Option.any_eq_true, Closing.replaces_iff]

/-- The moments at which a rebuild or a layout is asked for or ends without anything being put in place. -/
inductive Passes (source : MetadataSource σ) (m : Moment σ) : Prop where
  /-- A rebuild ends after a later one has begun. -/
  | superseded (c : Closing σ) (ends : m.closing? source = some c)
    (old : c.generation ≠ c.session.view.generation)
  /-- A rebuild begins and is waited for. -/
  | waits (view : (m.session.occur source m.event).view = m.session.view.await)
  /-- A value is selected that names no layout. -/
  | refused (kind : Json) (fault : Fault) (selects : m.event = .selectLayout kind)
    (unknown : LayoutKind.choose kind = .error fault)

theorem Passes.not_replaces (h : m.Passes source) : ¬ m.replaces source := by
  rw [replaces_iff]
  cases h with
  | superseded c ends old =>
      rintro (⟨c', ends', hcommits⟩ | ⟨kind, diagram, hselects, -⟩)
      · obtain rfl := Option.some.inj (ends.symm.trans ends')
        exact old (Closing.commits_iff.1 hcommits).1
      · rw [closing?, hselects] at ends
        cases ends
  | waits view =>
      rintro (⟨c, ends, hcommits⟩ | ⟨kind, diagram, hselects, -⟩)
      · -- what is put in place ends the wait
        obtain ⟨hlatest, shown, hshown⟩ := Closing.commits_iff.1 hcommits
        rw [occur_of_closing ends, Closing.after_of_latest hlatest hshown, Session.conclusion_eq] at view
        have hphase : shown.phase = .loading := congrArg View.phase view
        rw [(Offer.shownBy_of_commit hshown).phase] at hphase
        exact c.offer.phase_ne_loading hphase
      · -- a layout takes no generation
        rw [hselects] at view
        have hgeneration := congrArg View.generation view
        simp only [Session.occur, Session.generation_selectLayout, View.await_generation] at hgeneration
        omega
  | refused kind fault selects unknown =>
      rintro (⟨c, ends, -⟩ | ⟨kind', diagram, hselects, hplaced⟩)
      · rw [closing?, selects] at ends
        cases ends
      · rw [selects] at hselects
        cases hselects
        simp [Session.selectLayout, View.selectLayout, unknown, bind, Except.bind] at hplaced

end Moment

namespace Session

/-- Whatever happens to a session whose listeners are silent, and whoever is added or removed at any time, the
listeners are told the diagrams that are put in place, in order, each by everyone who is registered then as
often as they are. The view shows the diagram that was put in place last. Whom everything has reached from
some time on was told the shown diagram last, if anything was put in place since. What puts a diagram in place
is a rebuild that ends and commits or a layout that is selected with success; no rebuild that was superseded,
none that is waited for and no value that names no layout does. -/
theorem hear_showings (source : MetadataSource σ) {first : Session σ} (h : first.listeners.AreSilent)
    {hearings : List (Hearing σ)} (hsilent : ∀ hearing ∈ hearings, hearing.IsSilent) :
    Announced source first hearings ∧
      (∀ identity,
        (first.attended source hearings).received identity = first.received identity ++
          (first.showings source hearings).flatMap (Showing.heard identity) ∧
        ((∀ showing ∈ first.showings source hearings, showing.times identity ≤ 1) →
          (first.attended source hearings).received identity = first.received identity ++
            ((first.showings source hearings).filter (·.reaches identity)).map Showing.diagram)) ∧
      (∀ identity earlier later, hearings = earlier ++ later →
        (∀ showing ∈ (first.attended source earlier).showings source later, showing.reaches identity) →
        ∃ fresh,
          (first.attended source hearings).received identity =
            (first.attended source earlier).received identity ++ fresh ∧
          (first.attended source hearings).view.diagram =
            fresh.getLast?.getD (first.attended source earlier).view.diagram) ∧
      ∀ m : Moment σ,
        (m.replaces source = true ↔
          (∃ c, m.closing? source = some c ∧ c.Commits) ∨
            ∃ kind diagram, m.event = .selectLayout kind ∧
              (m.session.selectLayout kind).2 = .ok diagram) ∧
        (∀ c, m.closing? source = some c → m.session.occur source m.event = c.after) ∧
        (m.Passes source → ¬ m.replaces source) := by
  have hannounced := announced source hsilent h
  refine ⟨hannounced, fun identity => ⟨hannounced.received identity, fun honce => ?_⟩, ?_,
    fun m => ⟨Moment.replaces_iff, fun c => Moment.occur_of_closing, Moment.Passes.not_replaces⟩⟩
  · rw [hannounced.received, Showing.flatMap_heard_of_times_le honce]
  · rintro identity earlier later rfl hreached
    obtain ⟨hearlier, hlater⟩ := List.forall_mem_append.1 hsilent
    have hsince := announced source hlater (announced source hearlier h).silent
    have hattended : first.attended source (earlier ++ later) =
        (first.attended source earlier).attended source later := List.foldl_append
    rw [hattended]
    refine ⟨_, hsince.received identity, ?_⟩
    rw [Showing.getLast?_flatMap_heard hreached]
    exact hsince.diagram

/-- Someone listens from the beginning on, and someone else from the first diagram on. -/
def joining : List (Hearing Unit) :=
  [.event (.listen "early" none none), .event (.request .rebuild), .event (.progress 0),
    .join ⟨7, "late", none, none⟩]

/-- A rebuild overtakes another one, the first listener leaves, and a layout is selected as well as a value
that names none. -/
def superseding : List (Hearing Unit) :=
  [.event (.request .rebuild), .event (.request .rebuild), .event (.progress 1), .event (.progress 2),
    .leave 0, .event (.selectLayout (.str "circular")), .event (.selectLayout (.str "spiral"))]

/-- Three diagrams are put in place. The first listener is told the first two of them, the second listener the
last two. -/
theorem hear_showings_of_superseding :
    let source := MetadataSource.prompt [⟨"orders", none⟩, ⟨"users", none⟩]
    let hearings := joining ++ superseding
    let s := (ofWidth 280).attended source hearings
    (ofWidth 280).listeners.AreSilent ∧ (∀ hearing ∈ hearings, hearing.IsSilent) ∧
      ((ofWidth 280).showings source hearings).map (fun showing => (showing.times 0, showing.times 7)) =
        [(1, 0), (1, 1), (0, 1)] ∧
      (s.received 0).length = 2 ∧ (s.received 7).length = 2 ∧
      (s.received 7).getLast? = some s.view.diagram := by
  intro source hearings s
  have hnobody : (ofWidth 280).listeners.AreSilent := nofun
  have hsilent : ∀ hearing ∈ hearings, hearing.IsSilent := by
    simp [hearings, joining, superseding, Hearing.IsSilent, Listener.IsSilent]
  obtain ⟨-, hreceived, hlast, -⟩ := hear_showings source hnobody hsilent
  have hearly : (s.received 0).length = 2 := by
    rw [(hreceived 0).2 (by decide +kernel), List.length_append, List.length_map]
    decide +kernel
  have hlate : (s.received 7).length = 2 := by
    rw [(hreceived 7).2 (by decide +kernel), List.length_append, List.length_map]
    decide +kernel
  refine ⟨hnobody, hsilent, by decide +kernel, hearly, hlate, ?_⟩
  obtain ⟨fresh, hfresh, hshown⟩ := hlast 7 joining superseding rfl (by decide +kernel)
  have hbefore : ((ofWidth 280).attended source joining).received 7 = [] :=
    List.eq_nil_of_length_eq_zero (by decide +kernel)
  rw [hbefore, List.nil_append] at hfresh
  have hsome : (s.received 7).getLast?.isSome := by
    rw [List.getLast?_isSome]
    exact List.ne_nil_of_length_pos (by omega)
  obtain ⟨diagram, hdiagram⟩ := Option.isSome_iff_exists.1 hsome
  rw [← hfresh, hdiagram, Option.getD_some] at hshown
  rw [hdiagram, hshown]

end Session

end ErDiagram
