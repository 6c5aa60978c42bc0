import BlueprintControl.Proofs.Domain.Frame
import BlueprintControl.Proofs.Store.History
import BlueprintControl.Proofs.Store.Reachable

/-!
# A blueprint is completed once

Two blueprints of one identifier can both be completed in memory, each with an event of its own.
Only one of them can be stored: the other is not current any more, unless the version of what it
has read is also the version of something else. What a blueprint in memory follows is the document
that it was read from or written to.

## Main definitions

* `Record.completedIn`: when the blueprint of a document was completed.
* `Session.Stored`: the documents that a blueprint has had in a session.
* `Session.Latched`: blueprints follow what they have read, and completions have been told once.

## Main statements

* `Session.latched_run`: the latch holds throughout a session.
* `Session.completed_once`: a completion stays and is told once.
-/
namespace BlueprintControl

/-- Only a completion is published under this name. -/
theorem Event.name_eq_iff (e : Event) : e.name = "BlueprintApplied" ↔ e = .completed := by
  cases e with
  | diffDetermined axis actions => cases axis <;> simp [name]
  | diffFailed axis error => cases axis <;> simp [name]
  | applyFailed axis error => cases axis <;> simp [name]
  | applied axis => cases axis <;> simp [name]
  | _ => simp [name]

/-- When the blueprint of a document was completed, if it has been. -/
def Record.completedIn (content : ByteArray) : Option Stamp :=
  match Record.ofContent content with
  | .ok r => Blueprint.completedAt r.conditions
  | .error _ => none

theorem Record.completedIn_of_ok {content : ByteArray} {r : Record}
    (h : Record.ofContent content = .ok r) :
    completedIn content = Blueprint.completedAt r.conditions := by
  rw [completedIn, h]

/-- The document of a blueprint says when it was completed. -/
theorem Store.completedIn_recordOf (w : Surroundings) (b : Blueprint)
    (published : List RecordedEvent) :
    Record.completedIn (recordOf w b published).document.toUTF8
      = Blueprint.completedAt b.conditions :=
  Record.completedIn_of_ok (Record.ofContent_document _)

namespace Session

variable {s s' : Session} {id : String} {cs : List Commit} {V : ByteArray → Prop}

/-- The document is that of the blueprint at some point of a session. -/
def Stored (s : Session) (deeds : List Deed) (id : String) (content : ByteArray) : Prop :=
  ∃ early, early <+: deeds ∧ (s.run early).2.store.document? id = some content

/-- The blueprint has been read from one of these documents or written to it, or has not been
stored yet, and follows what it was then. -/
def Based (V : ByteArray → Prop) (b : Blueprint) : Prop :=
  ∃ read : Option ByteArray, b.version = read.map versionOf ∧ (∀ c, read = some c → V c) ∧
    b.Follows (read.bind Record.completedIn)

/-- When the blueprint was completed according to its document. -/
def completedFor (s : Session) (id : String) : Option Stamp :=
  (s.store.document? id).bind Record.completedIn

/-- Blueprints follow what they have read, and the completion of a blueprint has been told at most
once if its document is completed, and not at all otherwise. -/
structure Latched (V : ByteArray → Prop) (id : String) (s : Session) (cs : List Commit) :
    Prop where
  based : ∀ slot b, s.slots.find? slot = some b → b.id = id → Based V b
  told : (Commit.published id cs).count .completed ≤ if (s.completedFor id).isSome then 1 else 0

theorem based_fresh (id : String) (config : BlueprintConfig) : Based V (.fresh id config) :=
  ⟨none, rfl, fun _ h => (nomatch h), Blueprint.follows_fresh⟩

theorem Based.perform {b : Blueprint} (h : Based V b) (ha : b.conditions.Admissible) (now : Stamp)
    (o : Operation) : Based V (b.perform now o).blueprint := by
  obtain ⟨read, hversion, hread, hfollows⟩ := h
  exact ⟨read, by rw [(b.perform_frame now o).2.2, hversion], hread, hfollows.perform ha now o⟩

/-- A blueprint without pending events that is as its document says. -/
theorem based_of_content {b : Blueprint} {content : ByteArray} (hV : V content)
    (hversion : b.version = some (versionOf content)) (hpending : b.pending = [])
    (hcompleted : Record.completedIn content = Blueprint.completedAt b.conditions) :
    Based V b := by
  refine ⟨some content, hversion, fun c hc => Option.some.inj hc ▸ hV, fun since hs => ?_, ?_⟩
  · rw [← hcompleted]
    exact hs
  · simp [hpending]

/-- A blueprint that may be written follows the document that it replaces, if there is one. -/
theorem completedFor_of_accepts {b : Blueprint} {published : List RecordedEvent}
    {read : Option ByteArray} (ha : s.store.Accepts b published)
    (hversion : b.version = read.map versionOf) (hread : ∀ c, read = some c → V c)
    (hstored : ∀ c, s.store.document? b.id = some c → V c)
    (hv : ∀ c₁ c₂, V c₁ → V c₂ → versionOf c₁ = versionOf c₂ → c₁ = c₂) :
    s.completedFor b.id = none ∨ s.completedFor b.id = read.bind Record.completedIn := by
  unfold completedFor
  cases ha with
  | new hd => exact .inl (by rw [hd, Option.bind_none])
  | again found r hd hr hfound =>
    rw [hversion, Option.map_eq_some_iff] at hfound
    obtain ⟨content, hcontent, hsame⟩ := hfound
    rw [hd, hcontent, hv content found (hread content hcontent) (hstored found hd) hsame]
    exact .inr rfl

/-- A blueprint that may be written keeps the completion of the document that it replaces, and
tells of no completion that has been told. -/
theorem Latched.accepts {b : Blueprint} {published : List RecordedEvent}
    (h : s.Latched V b.id cs) (hb : Based V b) (ha : s.store.Accepts b published)
    (hstored : ∀ c, s.store.document? b.id = some c → V c)
    (hv : ∀ c₁ c₂, V c₁ → V c₂ → versionOf c₁ = versionOf c₂ → c₁ = c₂) :
    (∀ since, s.completedFor b.id = some since →
      Blueprint.completedAt b.conditions = some since) ∧
    (Commit.published b.id cs).count .completed + b.pending.count .completed
      ≤ if (Blueprint.completedAt b.conditions).isSome then 1 else 0 := by
  obtain ⟨read, hversion, hread, hkept, htold⟩ := hb
  have hbefore := h.told
  obtain hnone | hsame := completedFor_of_accepts ha hversion hread hstored hv
  · refine ⟨fun since hs => absurd (hnone.symm.trans hs) (by simp), ?_⟩
    rw [hnone, Option.isSome_none] at hbefore
    have hpending : b.pending.count .completed
        ≤ if (Blueprint.completedAt b.conditions).isSome then 1 else 0 := by
      refine Nat.le_trans htold ?_
      split <;> simp_all
    simp only [Bool.false_eq_true, if_false] at hbefore
    omega
  · rw [hsame] at hbefore ⊢
    refine ⟨hkept, ?_⟩
    cases hread : read.bind Record.completedIn with
    | none =>
      simp only [hread, true_and, Option.isSome_none, Bool.false_eq_true, if_false] at htold hbefore
      omega
    | some since =>
      simp only [hkept since hread, hread, reduceCtorEq, false_and, Option.isSome_some, if_true,
        if_false] at htold hbefore ⊢
      omega

/-- `completedFor` reads nothing but one document. -/
theorem completedFor_congr (hdocs : s'.store.document? id = s.store.document? id) :
    s'.completedFor id = s.completedFor id := by
  rw [completedFor, completedFor, hdocs]

/-- Another blueprint is held, and the document is the same. -/
theorem Latched.hold (h : s.Latched V id cs) {slot : String} {b : Blueprint}
    (hb : b.id = id → Based V b) (hslots : s'.slots = s.slots.put slot b)
    (hdocs : s'.store.document? id = s.store.document? id) : s'.Latched V id cs := by
  refine ⟨fun other b' hb' => ?_, (completedFor_congr hdocs).symm ▸ h.told⟩
  rw [hslots, Keyed.find?_put] at hb'
  split at hb'
  case isTrue =>
    cases hb'
    exact hb
  case isFalse => exact h.based other b' hb'

/-- A blueprint has been written, and its document says what has been told of it. -/
theorem Latched.write {b : Blueprint} {slot : String} {content : ByteArray}
    (h : s.Latched V b.id cs) (hV : V content)
    (hslots : s'.slots
      = s.slots.put slot { b.drained with version := some (versionOf content) })
    (hdoc : s'.store.document? b.id = some content)
    (hcompleted : Record.completedIn content = Blueprint.completedAt b.conditions)
    (htold : (Commit.published b.id cs).count .completed + b.pending.count .completed
      ≤ if (Blueprint.completedAt b.conditions).isSome then 1 else 0) :
    s'.Latched V b.id (cs ++ [⟨slot, b⟩]) := by
  have happend : Commit.published b.id (cs ++ [⟨slot, b⟩])
      = Commit.published b.id cs ++ b.pending := Commit.published_append_self cs ⟨slot, b⟩
  refine ⟨fun other b' hb' hid => ?_, ?_⟩
  · rw [hslots, Keyed.find?_put] at hb'
    split at hb'
    case isTrue =>
      cases hb'
      exact based_of_content hV rfl rfl hcompleted
    case isFalse => exact h.based other b' hb' hid
  · rw [happend, List.count_append, completedFor, hdoc, Option.bind_some, hcompleted]
    exact htold

/-- One move: the document of a blueprint keeps its completion. -/
theorem Latched.moved {d : Deed} {c : Option Commit} (h : s.Latched V id cs) (hsound : s.Sound)
    (hfresh : d.StartsFresh) (hm : s.Moved d c s')
    (hstored : ∀ c, s.store.document? id = some c → V c)
    (hstored' : ∀ c, s'.store.document? id = some c → V c)
    (hv : ∀ c₁ c₂, V c₁ → V c₂ → versionOf c₁ = versionOf c₂ → c₁ = c₂) :
    s'.Latched V id (cs ++ c.toList) ∧
      ∀ since, s.completedFor id = some since → s'.completedFor id = some since := by
  cases hm with
  | held slot b hslots hdocs =>
    obtain ⟨id', config, rfl⟩ := hfresh
    refine ⟨?_, fun since hs => by rwa [completedFor_congr (hdocs id)]⟩
    simpa using h.hold (fun _ => based_fresh id' config) hslots (hdocs id)
  | performed slot o b hb hslots hdocs =>
    refine ⟨?_, fun since hs => by rwa [completedFor_congr (hdocs id)]⟩
    have hbased : (b.perform (s.around s.next).now o).blueprint.id = id →
        Based V (b.perform (s.around s.next).now o).blueprint := by
      rw [(b.perform_frame _ o).1]
      exact fun hid => (h.based slot b hb hid).perform (hsound.held slot b hb) _ o
    simpa using h.hold hbased hslots (hdocs id)
  | loaded slot id' content r hd hr hslots hdocs =>
    refine ⟨?_, fun since hs => by rwa [completedFor_congr (hdocs id)]⟩
    obtain ⟨r', hr', -, hid', -⟩ := hsound.stored id' content hd
    cases hr.symm.trans hr'
    have hbased : r.id = id →
        Based V { r.toBlueprint with version := some (versionOf content) } := by
      rintro rfl
      exact based_of_content (hstored content (hid' ▸ hd)) rfl rfl (Record.completedIn_of_ok hr)
    simpa using h.hold hbased hslots (hdocs id)
  | wrote slot b published content hcontent hd hb ha hslots hdocs =>
    by_cases hid : b.id = id
    · subst hid
      have hdoc : s'.store.document? b.id = some content := by rw [hdocs, if_pos rfl]
      have hcompleted : Record.completedIn content = Blueprint.completedAt b.conditions :=
        hcontent ▸ Store.completedIn_recordOf (s.around s.next) b published
      obtain ⟨hkept, htold⟩ := h.accepts (h.based slot b hb rfl) ha hstored hv
      refine ⟨h.write (hstored' content hdoc) hslots hdoc hcompleted htold, fun since hs => ?_⟩
      rw [completedFor, hdoc, Option.bind_some, hcompleted]
      exact hkept since hs
    · have hsame : s'.store.document? id = s.store.document? id := by
        rw [hdocs, if_neg fun heq => hid heq.symm]
      refine ⟨?_, fun since hs => by rwa [completedFor_congr hsame]⟩
      have hother : ({ b.drained with version := some (versionOf content) } : Blueprint).id = id →
          Based V { b.drained with version := some (versionOf content) } :=
        fun heq => absurd heq hid
      have hhold := h.hold hother hslots hsame
      exact ⟨hhold.based, (Commit.published_append_of_ne (c := ⟨slot, b⟩) hid).symm ▸ hhold.told⟩
  | stayed hslots hidle hdocs =>
    refine ⟨?_, fun since hs => by rwa [completedFor_congr (hdocs id)]⟩
    rw [Option.toList_none, List.append_nil]
    exact ⟨hslots ▸ h.based, (completedFor_congr (hdocs id)).symm ▸ h.told⟩

/-! ## Runs -/

section Runs

variable {deeds : List Deed} (hown : ∀ d ∈ deeds, d.IsOwn) (hfresh : ∀ d ∈ deeds, d.StartsFresh)
  (hv : ∀ c₁ c₂, s.Stored deeds id c₁ → s.Stored deeds id c₂ →
    versionOf c₁ = versionOf c₂ → c₁ = c₂)
include hfresh hv

/-- One move of a run. -/
theorem latched_move {early : List Deed} {d : Deed} (hbegins : early ++ [d] <+: deeds)
    (hsound : (s.run early).2.Sound) (h : (s.run early).2.Latched (s.Stored deeds id) id cs)
    (hm : (s.run early).2.Moved d ((s.run early).2.commit? d) (s.run (early ++ [d])).2) :
    (s.run (early ++ [d])).2.Sound ∧
      (s.run (early ++ [d])).2.Latched (s.Stored deeds id) id
        (cs ++ ((s.run early).2.commit? d).toList) ∧
      ∀ since, (s.run early).2.completedFor id = some since →
        (s.run (early ++ [d])).2.completedFor id = some since := by
  have hd : d.StartsFresh := hfresh d (hbegins.subset (by simp))
  have hearly : early <+: deeds := (List.prefix_append early [d]).trans hbegins
  exact ⟨hsound.moved hd hm, h.moved hsound hd hm (fun c hc => ⟨early, hearly, hc⟩)
    (fun c hc => ⟨early ++ [d], hbegins, hc⟩) hv⟩

include hown

/-- The latch holds throughout a session, and a completion stays. -/
theorem latched_run {before after : List Deed} (hslots : s.slots = .empty)
    (hdocs : ∀ id, s.store.document? id = none) (hsplit : before ++ after = deeds) :
    (s.run deeds).2.Sound ∧ (s.run deeds).2.Latched (s.Stored deeds id) id (s.commits deeds) ∧
      ∀ since, (s.run before).2.completedFor id = some since →
        (s.run deeds).2.completedFor id = some since := by
  subst hsplit
  have hstart : s.Latched (s.Stored (before ++ after) id) id [] := by
    refine ⟨fun slot b hb => ?_, by simp [Commit.published]⟩
    rw [hslots, Keyed.find?_empty] at hb
    cases hb
  obtain ⟨hsound, hbefore⟩ : (s.run before).2.Sound ∧
      (s.run before).2.Latched (s.Stored (before ++ after) id) id (s.commits before) := by
    refine run_induction [] (P := fun t cs => t.Sound ∧ t.Latched _ id cs)
      (fun d hd => hown d (List.mem_append_left _ hd)) ⟨.of_empty hslots hdocs, hstart⟩ ?_
    rintro early d hbegins ⟨hsound, h⟩ hm
    have hbegins' := hbegins.trans (List.prefix_append before after)
    obtain ⟨hsound', h', -⟩ := latched_move hfresh hv hbegins' hsound h hm
    exact ⟨hsound', h'⟩
  refine run_induction before (P := fun t cs => t.Sound ∧ t.Latched _ id cs ∧
    ∀ since, (s.run before).2.completedFor id = some since → t.completedFor id = some since)
    (fun d hd => hown d (List.mem_append_right _ hd)) ⟨hsound, hbefore, fun _ h => h⟩ ?_
  rintro early d hbegins ⟨hsound, h, hkept⟩ hm
  obtain ⟨hsound', h', hkept'⟩ := latched_move hfresh hv hbegins hsound h hm
  exact ⟨hsound', h', fun since hs => hkept' since (hkept since hs)⟩

end Runs

/-- A stored blueprint of a sound session is completed when its condition says so. -/
theorem completedFor_eq_some_iff (hsound : s.Sound) {since : Stamp} :
    s.completedFor id = some since ↔ ∃ r v c, s.store.read id = .ok (r, v) ∧
      r.conditions.find? .completed = some c ∧ c.status = .holds ∧ c.since = since := by
  constructor
  · intro h
    obtain ⟨content, hd, hcompleted⟩ := Option.bind_eq_some_iff.mp h
    obtain ⟨r, hr, hformat, -, hadmissible⟩ := hsound.stored id content hd
    rw [Record.completedIn_of_ok hr] at hcompleted
    obtain ⟨c, hc, rfl⟩ := Option.map_eq_some_iff.mp hcompleted
    have hadmitted := hadmissible.of_find? hc
    simp only [ConditionType.admitted, List.mem_singleton, Prod.mk.injEq] at hadmitted
    exact ⟨r, _, c, Store.read_eq_ok_iff.mpr ⟨content, hd, hr, hformat, rfl⟩, hc,
      hadmitted.1, rfl⟩
  · rintro ⟨r, v, c, hread, hc, -, rfl⟩
    obtain ⟨content, hd, hr, -, -⟩ := Store.read_eq_ok_iff.mp hread
    rw [completedFor, hd, Option.bind_some, Record.completedIn_of_ok hr, Blueprint.completedAt, hc,
      Option.map_some]

theorem count_name_completed (es : List Event) :
    (es.map Event.name).count "BlueprintApplied" = es.count .completed := by
  rw [List.count, List.countP_map, List.count]
  refine List.countP_congr fun e _ => ?_
  simp only [Function.comp_apply, beq_iff_eq, Event.name_eq_iff]

/-- **A blueprint is completed once.** Any number of blueprints of one identifier may be loaded,
changed and written, as long as different documents of it have different versions. Once its stored
record is completed it stays so, since the same time, and all that is ever published for it tells
of at most one completion. -/
theorem completed_once (s : Session) (hslots : s.slots = .empty)
    (hdocs : ∀ id, s.store.document? id = none) (before after : List Deed)
    (hown : ∀ d ∈ before ++ after, d.IsOwn) (hfresh : ∀ d ∈ before ++ after, d.StartsFresh)
    (id : String) (hv : ∀ c₁ c₂, s.Stored (before ++ after) id c₁ →
      s.Stored (before ++ after) id c₂ → versionOf c₁ = versionOf c₂ → c₁ = c₂) :
    (∀ r v c, (s.run before).2.store.read id = .ok (r, v) →
      r.conditions.find? .completed = some c → c.status = .holds →
      ∃ r' v' c', (s.run (before ++ after)).2.store.read id = .ok (r', v') ∧
        r'.conditions.find? .completed = some c' ∧ c'.status = .holds ∧ c'.since = c.since) ∧
    ((Commit.published id (s.commits (before ++ after))).map Event.name).count "BlueprintApplied"
      ≤ 1 := by
  obtain ⟨hsound, hlatched, hkept⟩ := latched_run hown hfresh hv hslots hdocs rfl
  have hbefore : (s.run before).2.Sound := sound_run hslots hdocs
    (fun d hd => hown d (List.mem_append_left _ hd))
    (fun d hd => hfresh d (List.mem_append_left _ hd))
  refine ⟨fun r v c hread hc hs => ?_, ?_⟩
  · have hcompleted := (completedFor_eq_some_iff hbefore).mpr ⟨r, v, c, hread, hc, hs, rfl⟩
    exact (completedFor_eq_some_iff hsound).mp (hkept c.since hcompleted)
  · rw [count_name_completed]
    refine Nat.le_trans hlatched.told ?_
    split <;> omega

/-- A session with a single commit has stored a single document. -/
theorem stored_unique {deeds : List Deed} (hdocs : ∀ id, s.store.document? id = none)
    (hown : ∀ d ∈ deeds, d.IsOwn) (hcommits : (s.commits deeds).length ≤ 1) {c₁ c₂ : ByteArray}
    (h₁ : s.Stored deeds id c₁) (h₂ : s.Stored deeds id c₂) : c₁ = c₂ := by
  -- It has been there since the earlier of two moments.
  have hkept : ∀ {early late c₁ c₂}, early <+: late → late <+: deeds →
      (s.run early).2.store.document? id = some c₁ →
      (s.run late).2.store.document? id = some c₂ → c₁ = c₂ := by
    rintro early late c₁ c₂ ⟨between, rfl⟩ ⟨rest, rfl⟩ hc₁ hc₂
    simp only [List.forall_mem_append] at hown
    obtain ⟨⟨hearly, hbetween⟩, -⟩ := hown
    have hfirst : s.commits early ≠ [] := by
      intro hnil
      rw [document?_of_commits_eq_nil hearly hnil, hdocs] at hc₁
      cases hc₁
    have hnone : (s.run early).2.commits between = [] := by
      simp only [commits_append, List.length_append] at hcommits
      have := List.length_pos_iff.mpr hfirst
      exact List.eq_nil_of_length_eq_zero (by omega)
    rw [run_append, document?_of_commits_eq_nil hbetween hnone, hc₁] at hc₂
    exact Option.some.inj hc₂
  obtain ⟨early₁, hearly₁, hc₁⟩ := h₁
  obtain ⟨early₂, hearly₂, hc₂⟩ := h₂
  obtain hbegins | hbegins := List.prefix_or_prefix_of_prefix hearly₁ hearly₂
  · exact hkept hbegins hearly₂ hc₁ hc₂
  · exact (hkept hbegins hearly₁ hc₂ hc₁).symm

/-- Two blueprints of one identifier are completed in memory. Only the first of them is stored. -/
theorem completed_once_of_two :
    let first : List Deed := [.hold "x" (.fresh "a" .plain), .perform "x" .complete]
    let second : List Deed := [.hold "y" (.fresh "a" .plain), .perform "y" .complete, .create "y"]
    let deeds := (first ++ [.create "x"]) ++ second
    (∃ r v c, (smooth.run deeds).2.store.read "a" = .ok (r, v) ∧
      r.conditions.find? .completed = some c ∧ c.status = .holds) ∧
    ((Commit.published "a" (smooth.commits deeds)).map Event.name).count "BlueprintApplied"
      ≤ 1 := by
  intro first second deeds
  let b := ((Blueprint.fresh "a" .plain).perform default .complete).blueprint
  have hown : ∀ d ∈ deeds, d.IsOwn := by simp [deeds, first, second, Deed.IsOwn]
  have hcommit : (smooth.run first).2.commit? (.create "x") = some ⟨"x", b⟩ := rfl
  have hcommits : smooth.commits deeds = [⟨"x", b⟩] := by
    subst deeds first second b
    rfl
  obtain ⟨r, v, hread, -, hconditions, -⟩ :=
    read_of_commit (d := .create "x") trivial hcommit
  have hread : (smooth.run (first ++ [.create "x"])).2.store.read "a" = .ok (r, v) := by
    rw [run_append]
    exact hread
  have hdocs := Store.document?_empty "state"
  obtain ⟨hkept, htold⟩ := completed_once smooth rfl hdocs (first ++ [.create "x"]) second hown
    (by simp [first, second, Deed.StartsFresh]) "a"
    fun c₁ c₂ h₁ h₂ _ => stored_unique hdocs hown (by simp [hcommits]) h₁ h₂
  have hcompleted : r.conditions.find? .completed = some
      ⟨.completed, .holds, Reason.completed, "blueprint was successfully applied", default⟩ := by
    rw [hconditions]
    rfl
  obtain ⟨r', v', c, hread', hc, hs, -⟩ := hkept r v _ hread hcompleted rfl
  exact ⟨⟨r', v', c, hread', hc, hs⟩, htold⟩

end Session
end BlueprintControl
