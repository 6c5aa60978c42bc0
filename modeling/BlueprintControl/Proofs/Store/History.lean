import BlueprintControl.Proofs.Store.Commits

/-!
# Every event is published once

The events of a blueprint are pending until it is written, and are published with it. The document
keeps the last of them. Since no limit is lost by applying it more often, the document of a
blueprint holds the last of everything that was committed for it, however the commits of several
slots took turns.

## Main definitions

* `latest`: the end of a list, as long as a history is.
* `Commit.published`, `Commit.publishedBy`: the events committed for a blueprint, and by a slot.
* `Session.Archived`: each document holds the last events committed for its blueprint.
* `Session.recorded`: the events that the blueprint of a slot records.

## Main statements

* `Session.archived_run`: documents keep the last events committed.
* `Session.conserved_run`: what a blueprint records is committed or still pending.
* `Session.published_once`: both together.
-/
namespace BlueprintControl

/-- Name and message of an event, as they are published. -/
def Event.told (e : Event) : String × String := (e.name, e.message)

/-- Name and message of an event that was published. -/
def RecordedEvent.told (e : RecordedEvent) : String × String := (e.name, e.message)

/-- The blueprint in the slot is neither replaced nor made to forget its events. -/
def Deed.Keeps (slot : String) : Deed → Prop
  | .hold other _ | .load other _ | .adopt other _ | .perform other .drain => other ≠ slot
  | _ => True

/-! ## The end of a history -/

/-- The end of a list, as long as a history is. -/
def latest {α : Type} (xs : List α) : List α := xs.drop (xs.length - historyLimit)

/-- Cutting a history before more is appended cuts off nothing else. -/
theorem latest_latest_append {α : Type} (xs ys : List α) :
    latest (latest xs ++ ys) = latest (xs ++ ys) := by
  have hdrop : latest xs ++ ys = (xs ++ ys).drop (xs.length - historyLimit) := by
    rw [latest, List.drop_append_of_le_length (Nat.sub_le _ _)]
  have hlength : xs.length - historyLimit
      + ((xs ++ ys).length - (xs.length - historyLimit) - historyLimit)
        = (xs ++ ys).length - historyLimit := by
    rw [List.length_append]
    omega
  rw [hdrop, latest, List.length_drop, List.drop_drop, hlength, latest]

theorem Record.told_keepLatest (es : List RecordedEvent) :
    (keepLatest es).map RecordedEvent.told = latest (es.map RecordedEvent.told) := by
  simp [keepLatest, latest]

/-- Publishing events changes nothing of what they tell. -/
theorem Record.map_told_ofEvent (es : List Event) (time : Stamp) (ids : Nat → Uuid) :
    (es.zipIdx.map fun p => RecordedEvent.ofEvent p.1 time (ids p.2)).map RecordedEvent.told
      = es.map Event.told := by
  calc
    _ = es.zipIdx.map (Event.told ∘ Prod.fst) := by
      rw [List.map_map]
      rfl
    _ = es.map Event.told := by rw [← List.map_map, List.zipIdx_map_fst]

/-- Events are published in the order in which they have been pending. -/
theorem Record.told_appendEvents (r : Record) (es : List Event) (time : Stamp) (ids : Nat → Uuid) :
    (r.appendEvents es time ids).events.map RecordedEvent.told
      = latest (r.events.map RecordedEvent.told ++ es.map Event.told) := by
  simp only [appendEvents, told_keepLatest, List.map_append, map_told_ofEvent]

namespace Commit

/-- The events that were committed for a blueprint, oldest first. -/
def published (id : String) (cs : List Commit) : List Event :=
  (cs.filter fun c => c.blueprint.id = id).flatMap fun c => c.blueprint.pending

/-- The events that were committed by a slot, oldest first. -/
def publishedBy (slot : String) (cs : List Commit) : List Event :=
  (cs.filter fun c => c.slot = slot).flatMap fun c => c.blueprint.pending

variable {id slot : String} {cs : List Commit} {c : Commit}

theorem published_append_self (cs : List Commit) (c : Commit) :
    published c.blueprint.id (cs ++ [c]) = published c.blueprint.id cs ++ c.blueprint.pending := by
  simp [published]

theorem published_append_of_ne (h : c.blueprint.id ≠ id) :
    published id (cs ++ [c]) = published id cs := by
  simp [published, h]

theorem published_eq_nil (h : ∀ c ∈ cs, c.blueprint.id ≠ id) : published id cs = [] := by
  have hfilter : (cs.filter fun c => c.blueprint.id = id) = [] := by simpa using h
  rw [published, hfilter, List.flatMap_nil]

theorem publishedBy_append (cs ds : List Commit) :
    publishedBy slot (cs ++ ds) = publishedBy slot cs ++ publishedBy slot ds := by
  simp [publishedBy]

end Commit

namespace Session

variable {s s' : Session} {cs : List Commit} {b : Blueprint} {slot : String}

/-! ## Documents -/

/-- Each document holds the last events that were committed for its blueprint, and there is none
without a commit. -/
structure Archived (s : Session) (cs : List Commit) : Prop where
  stored : ∀ c ∈ cs, ∃ content r, s.store.document? c.blueprint.id = some content ∧
    Record.ofContent content = .ok r ∧ r.format = formatVersion ∧
    r.events.map RecordedEvent.told
      = latest ((Commit.published c.blueprint.id cs).map Event.told)
  unwritten : ∀ id, (∀ c ∈ cs, c.blueprint.id ≠ id) → s.store.document? id = none

namespace Archived

/-- `Archived` reads nothing but documents. -/
theorem of_documents (h : s.Archived cs)
    (hdocs : ∀ id, s'.store.document? id = s.store.document? id) : s'.Archived cs := by
  refine ⟨fun c hc => ?_, fun id hid => ?_⟩
  · rw [hdocs]
    exact h.stored c hc
  · rw [hdocs]
    exact h.unwritten id hid

/-- A blueprint is written behind what has been committed before. -/
theorem told_of_accepts {published : List RecordedEvent} (h : s.Archived cs)
    (ha : s.store.Accepts b published) : published.map RecordedEvent.told
      = latest ((Commit.published b.id cs).map Event.told) := by
  cases ha with
  | new hd =>
    have hid : ∀ c ∈ cs, c.blueprint.id ≠ b.id := by
      rintro c hc heq
      obtain ⟨content, r, hsome, -⟩ := h.stored c hc
      rw [heq, hd] at hsome
      cases hsome
    rw [Commit.published_eq_nil hid]
    rfl
  | again found r hd hr hv =>
    obtain ⟨c, hc, hid⟩ : ∃ c ∈ cs, c.blueprint.id = b.id := by
      refine Classical.byContradiction fun hnone => ?_
      rw [h.unwritten b.id fun c hc hid => hnone ⟨c, hc, hid⟩] at hd
      cases hd
    obtain ⟨content, r', hd', hr', -, htold⟩ := h.stored c hc
    rw [hid] at hd' htold
    cases hd.symm.trans hd'
    cases hr.symm.trans hr'
    exact htold

theorem wrote {w : Surroundings} {published : List RecordedEvent} (h : s.Archived cs)
    (ha : s.store.Accepts b published) (hdocs : ∀ id, s'.store.document? id = if id = b.id then
      some (Store.recordOf w b published).document.toUTF8 else s.store.document? id) :
    s'.Archived (cs ++ [⟨slot, b⟩]) := by
  have hread := (Store.recordOf w b published).ofContent_document
  have htold : (Store.recordOf w b published).remade.events.map RecordedEvent.told
      = latest ((Commit.published b.id (cs ++ [⟨slot, b⟩])).map Event.told) := by
    have happend : Commit.published b.id (cs ++ [⟨slot, b⟩])
        = Commit.published b.id cs ++ b.pending := Commit.published_append_self cs ⟨slot, b⟩
    rw [happend, List.map_append, ← latest_latest_append, ← h.told_of_accepts ha]
    exact Record.told_appendEvents _ _ _ _
  refine ⟨fun c hc => ?_, fun id hid => ?_⟩
  · by_cases heq : c.blueprint.id = b.id
    · rw [heq, hdocs, if_pos rfl]
      exact ⟨_, _, rfl, hread, rfl, htold⟩
    · obtain hc | hc := List.mem_append.mp hc
      · rw [hdocs, if_neg heq, Commit.published_append_of_ne fun h => heq h.symm]
        exact h.stored c hc
      · cases List.mem_singleton.mp hc
        exact absurd rfl heq
  · have hne : id ≠ b.id := fun heq => hid ⟨slot, b⟩ (by simp) heq.symm
    rw [hdocs, if_neg hne]
    exact h.unwritten id fun c hc => hid c (List.mem_append_left _ hc)

theorem moved {d : Deed} {c : Option Commit} (h : s.Archived cs) (hm : s.Moved d c s') :
    s'.Archived (cs ++ c.toList) := by
  cases hm with
  | held slot b hslots hdocs => simpa using h.of_documents hdocs
  | performed slot o b hb hslots hdocs => simpa using h.of_documents hdocs
  | loaded slot id content r hd hr hslots hdocs => simpa using h.of_documents hdocs
  | wrote slot b published content hcontent hd hb ha hslots hdocs =>
    exact h.wrote ha (hcontent ▸ hdocs)
  | stayed hslots hidle hdocs => simpa using h.of_documents hdocs

end Archived

/-- Documents keep the last events committed. -/
theorem archived_run {deeds : List Deed} (hs : ∀ id, s.store.document? id = none)
    (hown : ∀ d ∈ deeds, d.IsOwn) : (s.run deeds).2.Archived (s.commits deeds) := by
  have hstart : s.Archived [] := ⟨fun c hc => absurd hc List.not_mem_nil, fun id _ => hs id⟩
  exact run_induction [] hown hstart fun early d _ h hm => h.moved hm

theorem Archived.history (h : s.Archived cs) {c : Commit} (hc : c ∈ cs) :
    ∃ es, s.store.history c.blueprint.id = .ok es ∧ es.map RecordedEvent.told
      = latest ((Commit.published c.blueprint.id cs).map Event.told) := by
  obtain ⟨content, r, hd, hr, hformat, htold⟩ := h.stored c hc
  have hread := Store.read_eq_ok_iff.mpr ⟨content, hd, hr, hformat, rfl⟩
  exact ⟨r.events, Store.history_of_read hread, htold⟩

/-! ## Slots -/

/-- The events that the blueprint of a slot records by one deed. -/
def recordedBy (s : Session) (slot : String) : Deed → List Event
  | .perform other o =>
    if other = slot then
      match s.slots.find? slot with
      | some b => b.appended (s.around s.next).now o
      | none => []
    else []
  | _ => []

/-- The events that the blueprint of a slot records by deeds in order. -/
def recorded (s : Session) (slot : String) : List Deed → List Event
  | [] => []
  | d :: rest => s.recordedBy slot d ++ (s.step d).2.recorded slot rest

/-- One deed: what the blueprint of a slot records is committed or still pending. -/
theorem conserved_moved {d : Deed} {c : Option Commit} (hb : s.slots.find? slot = some b)
    (hkeep : d.Keeps slot) (hm : s.Moved d c s') :
    ∃ b', s'.slots.find? slot = some b' ∧
      Commit.publishedBy slot c.toList ++ b'.pending = b.pending ++ s.recordedBy slot d := by
  cases hm with
  | held other b' hslots hdocs =>
    have hne : ¬ slot = other := fun h => hkeep h.symm
    exact ⟨b, by simp [hslots, hne, hb], by simp [Commit.publishedBy, recordedBy]⟩
  | performed other o b' hb' hslots hdocs =>
    by_cases hother : other = slot
    · subst hother
      cases hb.symm.trans hb'
      have hdrain : o ≠ .drain := by
        rintro rfl
        exact hkeep rfl
      refine ⟨_, by rw [hslots, Keyed.find?_put, if_pos rfl], ?_⟩
      simp [Commit.publishedBy, recordedBy, hb, b.pending_perform hdrain]
    · have hne : ¬ slot = other := fun h => hother h.symm
      exact ⟨b, by simp [hslots, hne, hb], by simp [Commit.publishedBy, recordedBy, hother]⟩
  | loaded other id content r hd hr hslots hdocs =>
    have hne : ¬ slot = other := fun h => hkeep h.symm
    exact ⟨b, by simp [hslots, hne, hb], by simp [Commit.publishedBy, recordedBy]⟩
  | wrote other b' published content hcontent hd hb' ha hslots hdocs =>
    have hrecorded : s.recordedBy slot d = [] := by obtain rfl | rfl := hd <;> rfl
    by_cases hother : other = slot
    · subst hother
      cases hb.symm.trans hb'
      refine ⟨_, by rw [hslots, Keyed.find?_put, if_pos rfl], ?_⟩
      simp [Commit.publishedBy, hrecorded, Blueprint.drained]
    · have hne : ¬ slot = other := fun h => hother h.symm
      exact ⟨b, by simp [hslots, hne, hb], by simp [Commit.publishedBy, hother, hrecorded]⟩
  | stayed hslots hidle hdocs =>
    have hrecorded : s.recordedBy slot d = [] := by
      unfold recordedBy
      split
      case h_1 other o =>
        split
        case isTrue hother =>
          rw [← hother, hidle other o rfl] at hb
          cases hb
        case isFalse => rfl
      case h_2 => rfl
    exact ⟨b, by rw [hslots, hb], by simp [Commit.publishedBy, hrecorded]⟩

/-- What the blueprint of a slot records is committed or still pending. -/
theorem conserved_run {deeds : List Deed} (hown : ∀ d ∈ deeds, d.IsOwn)
    (hb : s.slots.find? slot = some b) (hkeep : ∀ d ∈ deeds, d.Keeps slot) :
    ∃ b', (s.run deeds).2.slots.find? slot = some b' ∧
      Commit.publishedBy slot (s.commits deeds) ++ b'.pending
        = b.pending ++ s.recorded slot deeds := by
  induction deeds generalizing s b with
  | nil => exact ⟨b, hb, by simp [commits, recorded, Commit.publishedBy]⟩
  | cons d rest ih =>
    obtain ⟨hd, hrest⟩ := List.forall_mem_cons.mp hown
    obtain ⟨hkd, hkrest⟩ := List.forall_mem_cons.mp hkeep
    obtain ⟨b₁, hb₁, hstep⟩ := conserved_moved hb hkd (s.moved_step hd)
    obtain ⟨b', hb', hrun⟩ := ih hrest hb₁ hkrest
    refine ⟨b', hb', ?_⟩
    rw [commits, recorded, Commit.publishedBy_append, List.append_assoc, hrun, ← List.append_assoc,
      hstep, List.append_assoc]

/-- Writing a blueprint commits it as it is and leaves nothing pending, or leaves it alone. -/
theorem write_step (hb : s.slots.find? slot = some b) {d : Deed}
    (hd : d = .create slot ∨ d = .update slot) :
    (s.step d).1 = .done ∧ s.commit? d = some ⟨slot, b⟩ ∧
        (∃ b', (s.step d).2.slots.find? slot = some b' ∧ b'.pending = []) ∨
      (s.step d).1 ≠ .done ∧ s.commit? d = none ∧ (s.step d).2.slots.find? slot = some b := by
  have hown : d.IsOwn := by obtain rfl | rfl := hd <;> trivial
  have hdone : s.commit? d ≠ none → (s.step d).1 = .done := fun h =>
    Classical.byContradiction fun hnot => h (commit?_eq_none hnot)
  have hnot : s.commit? d = none → (s.step d).1 ≠ .done := by
    intro hnone hdone
    obtain rfl | rfl := hd <;> simp [commit?, hdone, hb] at hnone
  have hm := s.moved_step hown
  generalize hc : s.commit? d = c at hm hdone hnot ⊢
  cases hm with
  | wrote other b' published content hcontent hd' hb' ha hslots hdocs =>
    obtain rfl : other = slot := by
      obtain rfl | rfl := hd <;> obtain h | h := hd' <;> cases h <;> rfl
    cases hb.symm.trans hb'
    refine .inl ⟨hdone (by simp), rfl, _, by rw [hslots, Keyed.find?_put, if_pos rfl], rfl⟩
  | stayed hslots hidle hdocs => exact .inr ⟨hnot rfl, rfl, by rw [hslots, hb]⟩
  | _ => simp at hd

/-- **Every event is published once.** In a session on a store without documents that nobody else
writes to, the history of a blueprint holds the last of all events that were pending when it was
committed, by whatever slot, and there is no history without a commit. As long as the blueprint of
a slot is not replaced, its commits have published the events that were pending at first and those
it recorded since, each once and in order, but for those that are still pending. Its next write
publishes just these and leaves nothing pending, unless it fails and leaves them as they are. -/
theorem published_once (s : Session) (hs : ∀ id, s.store.document? id = none)
    (before stretch : List Deed) (hown : ∀ d ∈ before ++ stretch, d.IsOwn) :
    let m := (s.run before).2
    let t := (s.run (before ++ stretch)).2
    let cs := s.commits (before ++ stretch)
    (∀ c ∈ cs, ∃ es, t.store.history c.blueprint.id = .ok es ∧ es.map RecordedEvent.told
      = latest ((Commit.published c.blueprint.id cs).map Event.told)) ∧
    (∀ id, (∀ c ∈ cs, c.blueprint.id ≠ id) → t.store.document? id = none) ∧
    (∀ slot b, m.slots.find? slot = some b → (∀ d ∈ stretch, d.Keeps slot) →
      ∃ b', t.slots.find? slot = some b' ∧
        Commit.publishedBy slot (m.commits stretch) ++ b'.pending
          = b.pending ++ m.recorded slot stretch ∧
        ∀ d, d = .create slot ∨ d = .update slot →
          (t.step d).1 = .done ∧ t.commit? d = some ⟨slot, b'⟩ ∧
              (∃ b'', (t.step d).2.slots.find? slot = some b'' ∧ b''.pending = []) ∨
            (t.step d).1 ≠ .done ∧ t.commit? d = none ∧
              (t.step d).2.slots.find? slot = some b') := by
  intro m t cs
  have harchived : t.Archived cs := archived_run hs hown
  refine ⟨fun c hc => harchived.history hc, harchived.unwritten, fun slot b hb hkeep => ?_⟩
  have hstretch : ∀ d ∈ stretch, d.IsOwn := fun d hd => hown d (List.mem_append_right _ hd)
  obtain ⟨b', hb', hconserved⟩ := conserved_run hstretch hb hkeep
  have ht : t = (m.run stretch).2 := run_append before stretch
  rw [← ht] at hb'
  exact ⟨b', hb', hconserved, fun d hd => write_step hb' hd⟩

/-- A blueprint that cannot be written at first is published with what it had recorded before and
what it has recorded since. -/
theorem told_after_failure :
    let around : Nat → Surroundings := fun n =>
      if n = 2 then ⟨default, fun _ => default, fun _ => some "disk full"⟩
      else .smooth default fun _ => default
    let s : Session := ⟨⟨"state", .directory .empty⟩, .empty, around, 0⟩
    let before : List Deed := [.hold "x" (.fresh "a" .plain), .perform "x" .complete]
    let stretch : List Deed := [.create "x", .perform "x" (.rejectActions "no"), .create "x"]
    ((s.run before).2.step (.create "x")).1 ≠ .done ∧
      ∃ es, (s.run (before ++ stretch)).2.store.history "a" = .ok es ∧
        es.map RecordedEvent.told = [("BlueprintApplied", "blueprint was successfully applied"),
          ("BlueprintSpecInvalid",
            "blueprint spec contains actions that are not allowed: no")] := by
  intro around s before stretch
  let b := (((Blueprint.fresh "a" .plain).perform default .complete).blueprint.perform default
    (.rejectActions "no")).blueprint
  have hfailed : ((s.run before).2.step (.create "x")).1
      = .failed (.store (.backend "Failed to create temp file: disk full")) := by
    subst around s before
    rfl
  have hcommits : s.commits (before ++ stretch) = [⟨"x", b⟩] := by
    subst around s before stretch b
    rfl
  obtain ⟨hhistory, -⟩ := published_once s (fun id => Store.document?_empty "state" id) before
    stretch (by simp [before, stretch, Deed.IsOwn])
  obtain ⟨es, hes, htold⟩ := hhistory ⟨"x", b⟩ (hcommits ▸ List.mem_singleton_self _)
  rw [hcommits] at htold
  exact ⟨by simp [hfailed], es, hes, htold⟩

end Session
end BlueprintControl
