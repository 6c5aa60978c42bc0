import BlueprintControl.Proofs.Reconcile.Convergence
import BlueprintControl.Proofs.Reconcile.Replay

/-!
# The course of a pass

A pass that has loaded its blueprint is known from three sides: by its endings, by its moves, and by
what it stores last. Here the three are put together, for the same blueprint at its end.

## Main definitions

* `Collaborators.Course`: what a pass loads, what it does, and what it ends with.

## Main statements

* `Collaborators.exists_course`: a pass that loads a blueprint has a course.
* `Collaborators.exists_course_of_determine`: so has a pass that determines a diff.
* `Collaborators.eq_ok_of_reaches`: the result of a pass without a failed call.
* `Collaborators.Course.replays`: what becomes of the store in the course of a pass.
-/
namespace BlueprintControl.Collaborators

variable {σ : Type} {c : Collaborators σ} {policy : ActionPolicy} {id : String} {s : σ}
  {b b' : Blueprint} {more : List Call}

/-- A pass that has loaded a blueprint, and ends with another one. -/
structure Course (c : Collaborators σ) (policy : ActionPolicy) (id : String) (s : σ)
    (b b' : Blueprint) (more : List Call) : Prop where
  /-- It has listed no more than one blueprint, and has done the rest move by move. -/
  loads : ∃ ids s₀ s₁, c.repository.list.run s = (.ok ids, s₀) ∧ ids.length ≤ 1 ∧
    (c.repository.load id).run s₀ = (.ok b, s₁) ∧
    ((c.traced.runPass policy id).run ⟨s, []⟩).2.calls
      = .list (.ok ids) :: .load id (.ok b) :: more ∧
    Moves c ⟨b, s₁⟩ more ⟨b', ((c.runPass policy id).run s).2⟩
  proceeds : Step.Proceeds c b policy ((c.runPass policy id).run s).1 more b'
  last : c.lastBlueprint? policy id s = some b'
  /-- The blueprint is the one that the repository has given back last, unless there is a call after
  which a pass may end without storing. -/
  saved : (∃ b₀ s₀, (c.repository.update b₀).run s₀ = (.ok b', ((c.runPass policy id).run s).2)) ∨
    ∃ call ∈ ((c.traced.runPass policy id).run ⟨s, []⟩).2.calls, call.Excuses

/-! ## Loading -/

theorem loadSingle_eq_ok {s' : σ} (h : (c.loadSingle id).run s = (.ok b, s')) :
    ∃ ids s₀, c.repository.list.run s = (.ok ids, s₀) ∧ ids.length ≤ 1 ∧
      (c.repository.load id).run s₀ = (.ok b, s') := by
  rcases hlist : c.repository.list.run s with ⟨answer, s₀⟩
  cases answer with
  | ok ids =>
    rw [loadSingle, Task.run_bind_ok hlist] at h
    by_cases hids : 1 < ids.length
    · rw [if_pos hids] at h
      cases h
    · rw [if_neg hids] at h
      exact ⟨ids, s₀, rfl, Nat.not_lt.mp hids, h⟩
  | error f =>
    rw [loadSingle, Task.run_bind_error hlist] at h
    cases h

/-- Loading takes two calls at most. -/
theorem length_calls_loadSingle_le (c : Collaborators σ) (id : String) (s : σ) :
    ((c.traced.loadSingle id).run ⟨s, []⟩).2.calls.length ≤ 2 := by
  rcases hlist : c.repository.list.run s with ⟨answer, s₀⟩
  cases answer with
  | error f => simp [loadSingle, traced, Task.run_bind, hlist]
  | ok ids =>
    by_cases hids : 1 < ids.length
    · simp [loadSingle, traced, Task.run_bind, hlist, hids]
    · simp [loadSingle, traced, Task.run_bind, hlist, hids]

/-! ## The course -/

/-- A pass that loads a blueprint has a course. -/
theorem exists_course (policy : ActionPolicy) (hload : ((c.loadSingle id).run s).1 = .ok b) :
    ∃ b' more, c.Course policy id s b b' more := by
  obtain ⟨b', hlast, hsaved⟩ := c.saved_runPass policy id s hload
  have hrun : (c.loadSingle id).run s = (.ok b, ((c.loadSingle id).run s).2) := Prod.ext hload rfl
  generalize ((c.loadSingle id).run s).2 = s₁ at hrun
  obtain ⟨ids, s₀, hlist, hone, hloaded⟩ := loadSingle_eq_ok hrun
  have htraced := traced_loadSingle hlist hone hloaded
  let start : Underway (Traced σ) := ⟨b, ⟨s₁, [.list (.ok ids), .load id (.ok b)]⟩⟩
  let u := (Step.proceed c.traced policy).run start
  have hpass : (c.traced.runPass policy id).run ⟨s, []⟩ = (u.1, u.2.world) := by
    rw [runPass, Task.run_bind_ok htraced]
    rfl
  have hmirror : (c.runPass policy id).run s = (u.1, u.2.world.world) := by
    have h : (c.runPass policy id).run s = _ := c.mirrors_runPass policy id ⟨s, []⟩
    rwa [hpass] at h
  have hproceed : (Step.proceed c policy).run ⟨b, s₁⟩ = (u.1, Step.view u.2) :=
    Step.mirrors_proceed policy start
  obtain rfl : u.2.blueprint = b' := by
    rw [lastBlueprint?_of_load hrun, hproceed] at hlast
    exact Option.some.inj hlast
  obtain ⟨more, hmore, hends⟩ := Step.yields_proceed (c := c) (b := b) policy s₁ start.world.calls
  obtain ⟨more', hmore', hmoves⟩ := Step.charted_proceed (c := c) policy start
  obtain rfl : more = more' := List.append_cancel_left (hmore.symm.trans hmore')
  refine ⟨u.2.blueprint, more, ⟨ids, s₀, s₁, hlist, hone, hloaded, ?_, ?_⟩, ?_, hlast, hsaved⟩
  · rw [hpass]
    exact hmore
  · rw [hmirror]
    exact hmoves
  · rw [hmirror]
    exact hends

theorem Course.mem_calls {call : Call} (h : c.Course policy id s b b' more) (hcall : call ∈ more) :
    call ∈ ((c.traced.runPass policy id).run ⟨s, []⟩).2.calls := by
  obtain ⟨ids, -, -, -, -, -, heq, -⟩ := h.loads
  rw [heq]
  exact List.mem_cons_of_mem _ (List.mem_cons_of_mem _ hcall)

/-- Where no call fails, a diff is determined. -/
theorem Course.exists_determine (h : c.Course policy id s b b' more)
    (hcalls : ∀ call ∈ ((c.traced.runPass policy id).run ⟨s, []⟩).2.calls, call.failure? = none) :
    ∃ d, .determine b (.ok d) ∈ ((c.traced.runPass policy id).run ⟨s, []⟩).2.calls := by
  obtain ⟨answer, rest, rfl, -⟩ := h.proceeds.split
  have hdetermine := h.mem_calls List.mem_cons_self
  cases answer with
  | ok d => exact ⟨d, hdetermine⟩
  | error f => cases hcalls _ hdetermine

/-- A pass that determines a diff has a course, and goes on with this diff. -/
theorem exists_course_of_determine {d : StateDiff}
    (hd : .determine b (.ok d) ∈ ((c.traced.runPass policy id).run ⟨s, []⟩).2.calls) :
    ∃ b' rest, c.Course policy id s b b' (.determine b (.ok d) :: rest) ∧
      Step.Continues c policy { b with diff := d } ((c.runPass policy id).run s).1 rest b' := by
  obtain ⟨ids, rest, -, -, hcalls, -⟩ := (c.passes_runPass policy id s).of_determine hd
  rcases hload : (c.traced.loadSingle id).run ⟨s, []⟩ with ⟨answer, s₁, calls⟩
  cases answer with
  | error f =>
    have hshort := length_calls_loadSingle_le c id s
    rw [runPass, Task.run_bind_error hload] at hcalls
    rw [hload, show calls = _ from hcalls] at hshort
    simp at hshort
  | ok b₀ =>
    obtain ⟨b', more, hcourse⟩ :=
      exists_course policy (congrArg Prod.fst (loadSingle_of_traced hload))
    obtain ⟨ids', -, -, -, -, -, hcalls', -⟩ := hcourse.loads
    obtain ⟨-, rfl, rfl⟩ : ids' = ids ∧ b₀ = b ∧ more = .determine b (.ok d) :: rest := by
      simpa using hcalls'.symm.trans hcalls
    refine ⟨b', rest, hcourse, ?_⟩
    obtain ⟨answer, rest', heq, -, ⟨f, -, rfl, -⟩ | ⟨d', rfl, hcontinues⟩⟩ :=
      hcourse.proceeds.split
    · cases heq
    · cases heq
      exact hcontinues

/-- If what follows on the diff comes to a result, then so does a pass without a failed call. -/
theorem eq_ok_of_reaches {d : StateDiff} {outcome : Outcome}
    (hd : .determine b (.ok d) ∈ ((c.traced.runPass policy id).run ⟨s, []⟩).2.calls)
    (hcalls : ∀ call ∈ ((c.traced.runPass policy id).run ⟨s, []⟩).2.calls, call.failure? = none)
    (h : (Step.Continues c policy { b with diff := d }).Reaches outcome) :
    ((c.runPass policy id).run s).1 = .ok outcome := by
  obtain ⟨b', rest, hcourse, hcontinues⟩ := exists_course_of_determine hd
  exact h _ _ _ hcontinues fun call hcall =>
    hcalls call (hcourse.mem_calls (List.mem_cons_of_mem _ hcall))

/-! ## The course of a pass on a store -/

section Stored

variable {τ : Type} {view : τ → Stored} {put : Stored → τ → τ} {c : Collaborators τ} {w : τ}

/-- What becomes of the store in the course of a pass. -/
theorem Course.replays (hview : ∀ s w, view (put s w) = s)
    (hc : c.repository = Stored.repository.zoom view put)
    (hleaves : c.Leaves fun w => (view w).store) (h : c.Course policy id w b b' more) :
    ∃ ids, (view w).store.ids = .ok ids ∧ ids.length ≤ 1 ∧ (view w).store.load id = .ok b ∧
      (view w).store.Replays more (view ((c.runPass policy id).run w).2).store := by
  obtain ⟨ids, w₀, w₁, hlist, hone, hload, -, hmoves⟩ := h.loads
  obtain ⟨hlisted, hw₀⟩ := Stored.list_zoom hview hc hlist
  obtain ⟨hloaded, hw₁⟩ := Stored.load_zoom hview hc hload
  have hreplays := hmoves.replays hview hc hleaves
  rw [hw₀] at hloaded
  rw [hw₁, hw₀] at hreplays
  exact ⟨ids, hlisted, hone, hloaded, hreplays⟩

/-- The document of the blueprint is written last, unless there is a call after which a pass may end
without storing. -/
theorem Course.exists_update (hview : ∀ s w, view (put s w) = s)
    (hc : c.repository = Stored.repository.zoom view put)
    (hcalls : ∀ call ∈ ((c.traced.runPass policy id).run ⟨w, []⟩).2.calls, ¬ call.Excuses)
    (h : c.Course policy id w b b' more) :
    ∃ (s : Store) (around : Surroundings) (b₀ : Blueprint), s.update around b₀
      = (.ok b', (view ((c.runPass policy id).run w).2).store) := by
  obtain ⟨b₀, w₀, hupdate⟩ | ⟨call, hcall, hexcuse⟩ := h.saved
  · exact ⟨_, _, b₀, (Stored.update_zoom hview hc hupdate).1⟩
  · exact absurd hexcuse (hcalls call hcall)

/-- In the course of a pass without a failed call, the document of its blueprint is written last. -/
theorem Course.read (hview : ∀ s w, view (put s w) = s)
    (hc : c.repository = Stored.repository.zoom view put)
    (hcalls : ∀ call ∈ ((c.traced.runPass policy id).run ⟨w, []⟩).2.calls, call.failure? = none)
    (h : c.Course policy id w b b' more) :
    ∃ r v, (view ((c.runPass policy id).run w).2).store.read b'.id = .ok (r, v) ∧
      r.Keeps b' ∧ b'.pending = [] := by
  obtain ⟨s, around, b₀, hupdate⟩ := h.exists_update hview hc fun call hcall hexcuse =>
    hexcuse.failure?_ne_none (hcalls call hcall)
  obtain ⟨r, v, hread, hkeeps⟩ := Store.read_of_update hupdate
  obtain ⟨published, hholds⟩ := Store.holds_of_update hupdate
  exact ⟨r, v, hread, hkeeps, hholds.pending⟩

/-- A pass that ends with a blueprint that is stored has loaded this one. -/
theorem Course.id_eq (hview : ∀ s w, view (put s w) = s)
    (hc : c.repository = Stored.repository.zoom view put)
    (hleaves : c.Leaves fun w => (view w).store) (h : c.Course policy id w b b' more) {r : Record}
    {v : ResourceVersion}
    (hread : (view ((c.runPass policy id).run w).2).store.read b'.id = .ok (r, v)) :
    b'.id = id := by
  obtain ⟨ids, hids, hone, hload, hreplays⟩ := h.replays hview hc hleaves
  obtain ⟨content, _, hloaded, -⟩ := Store.load_eq_ok_iff.mp hload
  obtain ⟨content', hstored, -⟩ := Store.read_eq_ok_iff.mp hread
  have hsome := hreplays.isSome_document? b'.id
  rw [hstored] at hsome
  obtain ⟨found, hfound⟩ := Option.isSome_iff_exists.mp hsome.symm
  exact Store.eq_of_document? hids hone hfound hloaded

end Stored
end BlueprintControl.Collaborators
