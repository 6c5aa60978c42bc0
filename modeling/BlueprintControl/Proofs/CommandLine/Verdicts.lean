import Mathlib
import BlueprintControl.CommandLine.Program
import BlueprintControl.Proofs.Files.Places
import BlueprintControl.Proofs.Reconcile.Evaluation

/-!
# Two ways to a verdict

A document can be checked at once, or it can be evaluated: it is brought into the store, and a pass
is run for it. Both ways come to the same verdict. The stored record plays no part in it, and
neither do the flags for dry runs.

## Main definitions

* `Sandbox.stored`: the store in a folder of a sandbox.

## Main statements

* `Command.same_verdict`: checking a document and evaluating it agree.
-/
namespace BlueprintControl

/-! ## Commands in a sandbox -/

namespace Sandbox

/-- The store in a folder, as it is found by a task. -/
def stored (sb : Sandbox) (path : String) : Stored :=
  ⟨⟨path, sb.tree.place sb.folder path⟩, sb.around, sb.next⟩

variable {sb : Sandbox} {s : Settings} {p : Printer} {file : String} {d : BlueprintDocument}

theorem run_bind_ok {α β : Type} {x : ExceptT Failure (StateM Sandbox) α} {a : α}
    {sb sb' : Sandbox} (h : x.run sb = (.ok a, sb'))
    (f : α → ExceptT Failure (StateM Sandbox) β) : (x >>= f).run sb = (f a).run sb' := by
  have hstate : ∀ g : Except Failure α → StateM Sandbox (Except Failure β),
      (x.run >>= g) sb = g (x.run sb).1 (x.run sb).2 := fun _ => rfl
  rw [ExceptT.run_bind, hstate, h]

/-- Checking a document leaves the sandbox as it is. -/
theorem perform_validate
    (hd : BlueprintDocument.ofLook file (sb.tree.look sb.folder file) = .ok d) :
    ((Command.validate file).perform host s p).run sb
      = (.ok ⟨(s.accepts d).isOk, p.validation d.id d.diff (Step.errorOf (s.accepts d))⟩, sb) := by
  have hfound : (host.document file).run sb = (.ok d, sb) := congrArg (·, sb) hd
  rw [Command.perform, run_bind_ok hfound]
  rfl

theorem perform_evaluate {e : Evaluation} {t : Stored}
    (hd : BlueprintDocument.ofLook file (sb.tree.look sb.folder file) = .ok d)
    (he : (s.evaluate d).run (sb.stored s.statePath) = (.ok e, t)) :
    ((Command.evaluate file).perform host s p).run sb
      = (.ok ⟨e.report.error.isNone, p.pass e.report e.stored⟩, { sb with
        tree := sb.tree.settle sb.folder s.statePath t.store.place
        next := t.next }) := by
  have hfound : (host.document file).run sb = (.ok d, sb) := congrArg (·, sb) hd
  have hwork : (host.work s (s.evaluate d)).run sb = (.ok e, { sb with
      tree := sb.tree.settle sb.folder s.statePath t.store.place
      next := t.next }) := by
    rw [stored] at he
    simp [Host.work, host, he]
  rw [Command.perform, run_bind_ok hfound, run_bind_ok hwork]
  rfl

end Sandbox

/-! ## A store and a document -/

/-- A name in the root leads to what has this name. -/
theorem Tree.locate_root {t : Tree} {name : String} (h : Path.IsName name)
    (hfits : name.utf8ByteSize ≤ nameLimit) : t.locate [] name = .ok [name] := by
  simp [locate, base, names_eq_singleton h.no_slash, enter, find?, h.ne_empty, h.ne_dot,
    h.ne_dots, Nat.not_lt.mpr hfits]

theorem BlueprintDocument.ofLook_of_parse (path : String) {text : String} {d : BlueprintDocument}
    (h : parse text = .ok d) : ofLook path (.file text.toUTF8) = .ok d := by
  have htext : Look.readText (.file text.toUTF8) = .ok text := by
    simp only [Look.readText, Look.read, Json.fromUTF8?_toUTF8]
  rw [ofLook, htext]
  change (parse text).mapError _ = _
  rw [h]
  rfl

namespace Sandbox

/-- A sandbox with a document, and with a folder in which a record is stored. -/
def holding (r : Record) : Sandbox where
  tree := ⟨[(["d"], .file "id: a".toUTF8), (["s"], .folder),
    (["a.json", "s"], .file r.document.toUTF8)]⟩
  folder := []
  environment := []
  around _ := .smooth default fun _ => default
  next := 0

theorem ofLook_holding (r : Record) :
    BlueprintDocument.ofLook "d" ((holding r).tree.look (holding r).folder "d")
      = .ok ⟨"a", .plain, .empty⟩ := by
  have hname : Path.IsName "d" := ⟨by decide, by decide, by decide, by decide⟩
  have hlook : (holding r).tree.look (holding r).folder "d" = .file "id: a".toUTF8 := by
    rw [Tree.look, holding, Tree.locate_root hname (by decide)]
    rfl
  rw [hlook]
  exact BlueprintDocument.ofLook_of_parse "d" rfl

theorem place_holding (r : Record) :
    (holding r).tree.place (holding r).folder "s" = .alone "a" r := by
  have hname : Path.IsName "s" := ⟨by decide, by decide, by decide, by decide⟩
  have hdocument : documentName "a" = "a.json" := by decide
  rw [Tree.place, holding, Tree.locate_root hname (by decide), Place.alone, hdocument]
  rfl

end Sandbox

/-! ## The verdict -/

namespace Command

/-- **One verdict on a document.** Let the folder of the store be empty, or hold the blueprint of a
document as the store writes it and nothing else, and let nothing fail. Then the pass that evaluates
the document ends as a dry run exactly if the check accepts the document, which it does if the
policy permits its diff. Otherwise the pass ends with the message of the check, and nothing is left
to do. Both commands succeed or neither does, and nothing is applied. The flags for dry runs of the
document and of the stored record may be any. -/
theorem same_verdict (sb : Sandbox) (s : Settings) (p : Printer) (file : String)
    (d : BlueprintDocument)
    (hd : BlueprintDocument.ofLook file (sb.tree.look sb.folder file) = .ok d)
    (hid : isValidId d.id = true)
    (hplace : (sb.tree.place sb.folder s.statePath).HoldsOnly d.id)
    (hfits : (documentName d.id).utf8ByteSize ≤ nameLimit)
    (hfaultless : ∀ n step, (sb.around n).fault step = none) :
    ∃ checked evaluated e sb',
      ((Command.validate file).perform Sandbox.host s p).run sb = (.ok checked, sb) ∧
      ((Command.evaluate file).perform Sandbox.host s p).run sb = (.ok evaluated, sb') ∧
      ((s.evaluate d).run (sb.stored s.statePath)).1 = .ok e ∧
      evaluated.text = p.pass e.report e.stored ∧
      (checked.success = true ↔ s.policy.Permits d.diff d.config.allowNamespaceSwitch) ∧
      evaluated.success = checked.success ∧
      (e.report.outcome = some .dryRun ↔ checked.success = true) ∧
      (checked.success = false → ∃ message,
        checked.text = p.validation d.id d.diff (some message) ∧
        e.report = ⟨d.id, none, some message, .rest⟩) ∧
      ∀ call ∈ s.evaluationCalls d (sb.stored s.statePath), call.isApply = false := by
  obtain ⟨⟨stored, t, he⟩, hquiet⟩ := s.evaluate_of_holdsOnly (w := sb.stored s.statePath) hplace
    hid (Nat.not_lt.mpr hfits) hfaultless
  have hchecked := Sandbox.perform_validate (s := s) (p := p) hd
  have hevaluated := Sandbox.perform_evaluate (p := p) hd he
  have hpermits : s.accepts d = .ok () ↔ s.policy.Permits d.diff d.config.allowNamespaceSwitch :=
    ActionPolicy.validate_eq_ok_iff
  cases haccepts : s.accepts d with
  | ok u =>
    rw [haccepts] at hchecked hevaluated he
    exact ⟨_, _, _, _, hchecked, hevaluated, congrArg Prod.fst he, rfl,
      ⟨fun _ => hpermits.mp haccepts, fun _ => rfl⟩, rfl, ⟨fun _ => rfl, fun _ => rfl⟩, nofun,
      hquiet⟩
  | error f =>
    rw [haccepts] at hchecked hevaluated he hpermits
    exact ⟨_, _, _, _, hchecked, hevaluated, congrArg Prod.fst he, rfl,
      ⟨nofun, fun h => nomatch hpermits.mpr h⟩, rfl, ⟨nofun, nofun⟩,
      fun _ => ⟨f.message, rfl, rfl⟩, hquiet⟩

/-- A record that is stored without a dry run. The evaluation ends as one, and the check accepts the
document. -/
theorem same_verdict_of_stored :
    let sb : Sandbox := .holding (.ofBlueprint (.fresh "a" .plain) default)
    let s : Settings := { Settings.standard with statePath := "s" }
    ∃ checked evaluated e sb',
      ((Command.validate "d").perform Sandbox.host s ⟨.text, false⟩).run sb = (.ok checked, sb) ∧
      ((Command.evaluate "d").perform Sandbox.host s ⟨.text, false⟩).run sb
        = (.ok evaluated, sb') ∧
      ((s.evaluate ⟨"a", .plain, .empty⟩).run (sb.stored "s")).1 = .ok e ∧
      checked.success = true ∧ evaluated.success = true ∧ e.report.outcome = some .dryRun ∧
      ∀ call ∈ s.evaluationCalls ⟨"a", .plain, .empty⟩ (sb.stored "s"), call.isApply = false := by
  intro sb s
  have hd : BlueprintDocument.ofLook "d" (sb.tree.look sb.folder "d") = .ok ⟨"a", .plain, .empty⟩ :=
    Sandbox.ofLook_holding _
  have hplace : (sb.tree.place sb.folder "s").HoldsOnly "a" :=
    (Sandbox.place_holding _).symm ▸ .alone _ rfl rfl
  obtain ⟨checked, evaluated, e, sb', hchecked, hevaluated, he, -, -, hsame, houtcome, -, hquiet⟩ :=
    same_verdict sb s ⟨.text, false⟩ "d" ⟨"a", .plain, .empty⟩ hd (by decide) hplace (by decide)
      fun _ _ => rfl
  have hsuccess : checked.success = true := by
    rw [Sandbox.perform_validate hd] at hchecked
    cases hchecked
    rfl
  exact ⟨checked, evaluated, e, sb', hchecked, hevaluated, he, hsuccess, hsame.trans hsuccess,
    houtcome.mpr hsuccess, hquiet⟩

end Command
end BlueprintControl
