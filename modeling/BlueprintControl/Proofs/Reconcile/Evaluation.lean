import BlueprintControl.Proofs.Reconcile.Adoption

/-!
# Evaluating a document

A pass for a blueprint in dry run ends with the verdict of the policy on the diff, and applies
nothing. A document is evaluated in this way, whatever it says itself about dry runs, and whatever
the record of its blueprint says.

## Main definitions

* `Report.ofVerdict`: the report that tells a verdict of the policy.
* `Settings.evaluationCalls`: what the pass calls that evaluates a document.

## Main statements

* `Step.Continues.of_dryRun`: how a pass goes on in dry run.
* `Collaborators.runPass_of_dryRun`: a pass in dry run.
* `Settings.evaluate_of_holdsOnly`: the evaluation of a document.
-/
namespace BlueprintControl

/-! ## Passes in dry run -/

/-- A pass in dry run that can store what it knows ends with the verdict of the policy. -/
theorem Step.Continues.of_dryRun {σ : Type} {c : Collaborators σ} {policy : ActionPolicy}
    {b b' : Blueprint} {r : Except Failure Outcome} {calls : List Call}
    (h : Continues c policy b r calls b') (hdry : b.config.dryRun = true)
    (hstored : ∀ call ∈ calls, call.isStorage = true → call.failure? = none) :
    r = (policy.validate b.diff b.config.allowNamespaceSwitch).map (fun _ => .dryRun) ∧
      Quiet calls := by
  cases h with
  | stopped h =>
    have hquiet := h.quiet
    cases h with
    | denied hdenied h =>
      cases h with
      | stored h =>
        rw [hdenied]
        exact ⟨rfl, hquiet⟩
      | failed g => cases hstored _ List.mem_cons_self rfl
  | continued h h' =>
    obtain ⟨rfl, rfl, hpermits⟩ := h.eq_of_ok
    rw [ActionPolicy.validate_eq_ok_iff.mpr hpermits]
    cases h' with
    | dryRun h now now' h' =>
      have hquiet := h'.quiet
      cases h' with
      | stored h' => exact ⟨rfl, hquiet⟩
      | failed g => cases hstored _ List.mem_cons_self rfl
    | applied h now now' h' => cases hdry.symm.trans h

namespace Collaborators

variable {τ : Type} {c : Collaborators τ} {id : String} {w : τ} {b : Blueprint} {d : StateDiff}

/-- A pass in dry run, on a store with one blueprint where nothing is in the way of an update. -/
theorem runPass_of_dryRun (view : τ → Stored) (put : Stored → τ → τ) (policy : ActionPolicy)
    (hview : ∀ s w, view (put s w) = s)
    (hc : c.repository = Stored.repository.zoom view put)
    (hstore : c.Leaves fun w => (view w).store) (haround : c.Leaves fun w => (view w).around)
    (hsole : (view w).store.Sole id) (hclear : (view w).Clear)
    (hb : (view w).store.load id = .ok b) (hdry : b.config.dryRun = true)
    (hd : ∀ s, ((c.diffs.determine b).run s).1 = .ok d) :
    ((c.runPass policy id).run w).1
        = (policy.validate d b.config.allowNamespaceSwitch).map (fun _ => .dryRun) ∧
      Quiet ((c.traced.runPass policy id).run ⟨w, []⟩).2.calls := by
  obtain ⟨b₀, b', more, hb₀, hcourse, hstored, -⟩ :=
    stored_runPass hview hc hstore haround policy hsole hclear
  obtain rfl : b = b₀ := Except.ok.inj (hb.symm.trans hb₀)
  obtain ⟨ids, w₀, w₁, -, -, -, hcalls, hmoves⟩ := hcourse.loads
  obtain ⟨answer, rest, rfl, -, hrest⟩ := hcourse.proceeds.split
  obtain ⟨s, rfl⟩ := hmoves.exists_answer List.mem_cons_self
  rw [hd s] at hcalls hcourse hrest
  obtain ⟨f, g, hf, -⟩ | ⟨d', hd', hcontinues⟩ := hrest
  · cases hf
  cases hd'
  obtain ⟨hresult, hquiet⟩ := hcontinues.of_dryRun hdry fun call hcall =>
    hstored call (hcourse.mem_calls (List.mem_cons_of_mem _ hcall))
  refine ⟨hresult, ?_⟩
  rw [hcalls]
  have hfirst : Quiet [.list (.ok ids), .load id (.ok b), .determine b (.ok d)] := by
    simp [Quiet, Call.isApply]
  exact hfirst.append hquiet

end Collaborators

/-! ## Reports -/

/-- The report that tells a verdict of the policy, and that nothing is left to do. -/
def Report.ofVerdict (id : String) : Except Failure Unit → Report
  | .ok () => ⟨id, some .dryRun, none, .rest⟩
  | .error f => ⟨id, none, some f.message, .rest⟩

theorem Report.ofResult_validate (classifier : Classifier) (id : String) (policy : ActionPolicy)
    (d : StateDiff) (allowSwitch : Bool) :
    ofResult classifier id ((policy.validate d allowSwitch).map fun _ => .dryRun)
      = ofVerdict id (policy.validate d allowSwitch) := by
  cases h : policy.validate d allowSwitch with
  | ok u => rfl
  | error f =>
    obtain ⟨message, rfl⟩ := ActionPolicy.exists_of_validate_eq_error h
    rfl

/-! ## Evaluations -/

namespace Settings

/-- What the pass calls that evaluates a document. -/
def evaluationCalls (s : Settings) (d : BlueprintDocument) (w : Stored) : List Call :=
  (((collaborators (Keyed.empty.put d.id d.diff)).traced.runPass s.policy d.id).run
    ⟨((Stored.adopt d.rehearsed).run w).2, []⟩).2.calls

variable {diffs : Keyed StateDiff} {d : BlueprintDocument} {w : Stored}

theorem world_registered {σ : Type} (b : Blueprint) (u : σ) :
    (((DiffSource.registered fun _ : σ => diffs).determine b).run u).2 = u := by
  simp only [DiffSource.registered, Task.run_bind_ok (Task.run_world u)]
  split <;> rfl

theorem answer_registered {σ : Type} {b : Blueprint} {found : StateDiff}
    (h : diffs.find? b.id = some found) (u : σ) :
    (((DiffSource.registered fun _ : σ => diffs).determine b).run u).1 = .ok found := by
  simp only [DiffSource.registered, Task.run_bind_ok (Task.run_world u), h]
  rfl

/-- Only the repository and the clock change anything, and the clock changes no more than the
number of the next operation. -/
theorem leaves_collaborators {α : Type} {f : Stored → α}
    (hf : ∀ w n, f { w with next := n } = f w) : (collaborators diffs).Leaves f where
  clock w := hf w _
  determine b w := congrArg f (world_registered b w)
  checkHealth _ _ := rfl
  applyComponents _ _ := rfl
  applyDogus _ _ := rfl
  applyConfig _ _ := rfl

/-- The pass for a document that has been brought into the store. -/
theorem pass_of_alone (s : Settings) {r : Record} (hid : isValidId d.id = true)
    (hfits : ¬ nameLimit < (documentName d.id).utf8ByteSize)
    (hw : ∀ n step, (w.around n).fault step = none)
    (hplace : w.store.place = .alone d.id r) (hr : r.id = d.id)
    (hconfig : r.config = d.rehearsed.config) (hf : r.format = formatVersion) :
    (∃ t, (s.pass (Keyed.empty.put d.id d.diff) d.id).run w
      = (.ok (.ofVerdict d.id (s.accepts d)), t)) ∧
      Quiet (((collaborators (Keyed.empty.put d.id d.diff)).traced.runPass s.policy d.id).run
        ⟨w, []⟩).2.calls := by
  obtain ⟨⟨path, p⟩, around, next⟩ := w
  obtain rfl : p = .alone d.id r := hplace
  let b : Blueprint := { r.remade.toBlueprint with version := some (versionOf r.document.toUTF8) }
  have hload : (Store.mk path (.alone d.id r)).load d.id = .ok b :=
    Store.load_of_document (Store.document?_alone hid hfits) hf
  have hflags : b.config = d.rehearsed.config := hconfig
  have hdry : b.config.dryRun = true := congrArg BlueprintConfig.dryRun hflags
  have hswitch : b.config.allowNamespaceSwitch = d.rehearsed.config.allowNamespaceSwitch :=
    congrArg BlueprintConfig.allowNamespaceSwitch hflags
  have hfound : (Keyed.empty.put d.id d.diff).find? b.id = some d.diff :=
    (Keyed.find?_put _ _ _ _).trans (if_pos hr)
  obtain ⟨hresult, hquiet⟩ := Collaborators.runPass_of_dryRun (fun s => s) (fun s _ => s) s.policy
    (c := collaborators (Keyed.empty.put d.id d.diff)) (w := ⟨⟨path, .alone d.id r⟩, around, next⟩)
    (fun _ _ => rfl) rfl (leaves_collaborators fun _ _ => rfl)
    (leaves_collaborators fun _ _ => rfl) (Store.sole_alone hid hfits hr hf)
    ⟨hw, fun id => Place.look_alone_ne_folder d.id r (temporaryName id)⟩ hload hdry
    fun u => answer_registered hfound u
  rw [hswitch] at hresult
  refine ⟨⟨_, Prod.ext (congrArg Except.ok ?_) rfl⟩, hquiet⟩
  exact (congrArg (Report.ofResult _ d.id) hresult).trans
    (Report.ofResult_validate _ d.id s.policy d.diff d.config.allowNamespaceSwitch)

/-- **The evaluation of a document.** Whatever was stored of its blueprint before, the report tells
the verdict of the policy on the diff of the document, and nothing is applied. -/
theorem evaluate_of_holdsOnly (s : Settings) (h : w.store.place.HoldsOnly d.id)
    (hid : isValidId d.id = true) (hfits : ¬ nameLimit < (documentName d.id).utf8ByteSize)
    (hw : ∀ n step, (w.around n).fault step = none) :
    (∃ stored t, (s.evaluate d).run w = (.ok ⟨.ofVerdict d.id (s.accepts d), stored⟩, t)) ∧
      Quiet (s.evaluationCalls d w) := by
  obtain ⟨b, r, hr, hconfig, hf, hadopt⟩ :=
    Stored.adopt_of_holdsOnly (d := d.rehearsed) h hid hfits hw
  let w' : Stored := { w with store := ⟨w.store.path, .alone d.id r⟩, next := w.next + 1 }
  replace hadopt : (Stored.adopt d.rehearsed).run w = (.ok b, w') := hadopt
  obtain ⟨⟨t, hpass⟩, hquiet⟩ := s.pass_of_alone (w := w') hid hfits hw rfl hr hconfig hf
  constructor
  · rw [evaluate, Task.run_bind_ok hadopt, Task.run_bind_ok hpass]
    exact ⟨_, _, rfl⟩
  · rw [evaluationCalls, hadopt]
    exact hquiet

end Settings
end BlueprintControl
