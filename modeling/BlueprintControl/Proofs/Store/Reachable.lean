import BlueprintControl.Proofs.Store.Commits

/-!
# Conditions that can be reached

A blueprint starts without conditions, operations write admitted ones only, and what is stored is
read back as it was. So the conditions of every blueprint that comes about in a session are
admissible, and every axis is in one of the states of its decision table.

## Main definitions

* `Deed.StartsFresh`: blueprints come from nothing or from the store.
* `Session.Sound`: the blueprints held and the records stored have admissible conditions.

## Main statements

* `Session.sound_run`: sessions that start from nothing stay sound.
* `Session.admissible_reachable`: the conditions of every blueprint held.
-/
namespace BlueprintControl

/-- A blueprint that is put into a slot has never been stored. -/
def Deed.StartsFresh : Deed → Prop
  | .hold _ b => ∃ id config, b = .fresh id config
  | _ => True

namespace Session

variable {s s' : Session}

/-- The blueprints held and the records stored have admissible conditions, and each record is
readable and stored under its own identifier. -/
structure Sound (s : Session) : Prop where
  held : ∀ slot b, s.slots.find? slot = some b → b.conditions.Admissible
  stored : ∀ id content, s.store.document? id = some content →
    ∃ r, Record.ofContent content = .ok r ∧ r.format = formatVersion ∧ r.id = id ∧
      r.conditions.Admissible

namespace Sound

theorem of_empty (hslots : s.slots = .empty) (hdocs : ∀ id, s.store.document? id = none) :
    s.Sound := by
  refine ⟨fun slot b hb => ?_, fun id content hd => ?_⟩
  · rw [hslots, Keyed.find?_empty] at hb
    cases hb
  · rw [hdocs] at hd
    cases hd

/-- Another blueprint is held and no document has changed. -/
theorem hold (h : s.Sound) {slot : String} {b : Blueprint} (hb : b.conditions.Admissible)
    (hslots : s'.slots = s.slots.put slot b)
    (hdocs : ∀ id, s'.store.document? id = s.store.document? id) : s'.Sound := by
  refine ⟨fun other b' hb' => ?_, fun id content hd => h.stored id content (hdocs id ▸ hd)⟩
  rw [hslots, Keyed.find?_put] at hb'
  split at hb'
  case isTrue =>
    cases hb'
    exact hb
  case isFalse => exact h.held other b' hb'

/-- A blueprint is held after it has been written. -/
theorem write (h : s.Sound) {slot : String} {b b' : Blueprint} {w : Surroundings}
    {published : List RecordedEvent} (hb : b.conditions.Admissible)
    (hslots : s'.slots = s.slots.put slot b') (hb' : b'.conditions = b.conditions)
    (hdocs : ∀ id, s'.store.document? id = if id = b.id then
      some (Store.recordOf w b published).document.toUTF8 else s.store.document? id) :
    s'.Sound := by
  have hheld : Sound { s with slots := s'.slots } := h.hold (hb' ▸ hb) hslots fun _ => rfl
  refine ⟨hheld.held, fun id content hd => ?_⟩
  rw [hdocs] at hd
  split at hd
  case isTrue hid =>
    cases hd
    exact ⟨_, Record.ofContent_document _, rfl, hid.symm, hb⟩
  case isFalse => exact h.stored id content hd

theorem moved {d : Deed} {c : Option Commit} (h : s.Sound) (hfresh : d.StartsFresh)
    (hm : s.Moved d c s') : s'.Sound := by
  cases hm with
  | held slot b hslots hdocs =>
    obtain ⟨id, config, rfl⟩ := hfresh
    exact h.hold Conditions.admissible_empty hslots hdocs
  | performed slot o b hb hslots hdocs =>
    exact h.hold (Blueprint.admissible_perform (h.held slot b hb) _ o) hslots hdocs
  | loaded slot id content r hd hr hslots hdocs =>
    obtain ⟨r', hr', -, -, hadmissible⟩ := h.stored id content hd
    cases hr.symm.trans hr'
    exact h.hold hadmissible hslots hdocs
  | wrote slot b published content hcontent hd hb ha hslots hdocs =>
    exact h.write (h.held slot b hb) hslots rfl (hcontent ▸ hdocs)
  | stayed hslots hidle hdocs =>
    exact ⟨hslots ▸ h.held, fun id content hd => h.stored id content (hdocs id ▸ hd)⟩

end Sound

/-- Sessions that start from nothing stay sound. -/
theorem sound_run {deeds : List Deed} (hslots : s.slots = .empty)
    (hdocs : ∀ id, s.store.document? id = none) (hown : ∀ d ∈ deeds, d.IsOwn)
    (hfresh : ∀ d ∈ deeds, d.StartsFresh) : (s.run deeds).2.Sound := by
  refine run_induction [] (P := fun t _ => t.Sound) hown (.of_empty hslots hdocs) ?_
  intro early d hbegins h hm
  exact h.moved (hfresh d (hbegins.subset (by simp))) hm

/-- **Reachable conditions.** However a blueprint has come about from new ones, by operations in
memory and by storing and loading, it has at most one condition a type, with a status and a reason
that the type admits. So the decision table of an axis has an entry for it, and evaluating the
axis has nothing to complain about. -/
theorem admissible_reachable (s : Session) (hslots : s.slots = .empty)
    (hdocs : ∀ id, s.store.document? id = none) (deeds : List Deed)
    (hown : ∀ d ∈ deeds, d.IsOwn) (hfresh : ∀ d ∈ deeds, d.StartsFresh) (slot : String)
    (b : Blueprint) (hb : (s.run deeds).2.slots.find? slot = some b) :
    (b.conditions.entries.map Condition.type).Nodup ∧
    (∀ c ∈ b.conditions.entries, (c.status, c.reason) ∈ c.type.admitted) ∧
    ∀ axis, (∀ changes, Blueprint.target (b.conditions.find? axis.conditionType) changes
        ≠ .unexpected) ∧
      ∀ error now, (b.evaluate axis error now).log = [] := by
  have h := (sound_run hslots hdocs hown hfresh).held slot b hb
  exact ⟨h.nodup, h.admitted, fun axis =>
    ⟨Blueprint.target_ne_unexpected h axis, Blueprint.evaluate_log h axis⟩⟩

/-- An axis that was found applied is stored, loaded and applied. -/
theorem admissible_after_reload :
    ∃ b, (smooth.run ([.hold "x" (.fresh "a" .plain), .perform "x" (.evaluate .dogus none)] ++
        [.create "x", .load "y" "a", .perform "y" (.completeApply .dogus none)])).2.slots.find? "y"
          = some b ∧
      b.conditions.Shows .dogusApplied .holds Reason.applied ∧
      (b.conditions.entries.map Condition.type).Nodup ∧
      (b.evaluate .dogus none default).log = [] := by
  have hcommit : (smooth.run [.hold "x" (.fresh "a" .plain),
      .perform "x" (.evaluate .dogus none)]).2.commit? (.create "x") = some ⟨"x",
        ((Blueprint.fresh "a" .plain).perform default (.evaluate .dogus none)).blueprint⟩ := rfl
  obtain ⟨b, now, hheld, -⟩ :=
    find?_reloaded hcommit (show _ = "a" from rfl) "y" (.completeApply .dogus none)
  obtain ⟨hnodup, -, haxis⟩ := admissible_reachable smooth rfl (Store.document?_empty "state")
    _ (by simp [Deed.IsOwn]) (by simp [Deed.StartsFresh]) "y" _ hheld
  exact ⟨_, hheld, b.shows_completeApply .dogus now, hnodup, (haxis .dogus).2 none default⟩

end Session
end BlueprintControl
