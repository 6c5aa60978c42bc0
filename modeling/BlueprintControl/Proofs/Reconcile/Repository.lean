import BlueprintControl.Proofs.Store.Documents
import BlueprintControl.Reconcile.Rehearsal
import BlueprintControl.Reconcile.Stored

/-!
# What a pass can rely on in a repository

An update stores the status of a blueprint and publishes its events. What the pass gets back is the
blueprint it has handed over, without pending events and with a new version.

## Main definitions

* `Repository.Faithful`: updates give back what they were handed.

## Main statements

* `Stored.faithful_repository`, `Rehearsal.faithful_repository`: the repositories are faithful.
-/
namespace BlueprintControl

/-- An update that succeeds changes nothing of the blueprint but pending events and version. -/
def Repository.Faithful {σ : Type} (r : Repository σ) : Prop :=
  ∀ b s b' s', (r.update b).run s = (.ok b', s') → ∃ v, b' = { b.drained with version := v }

theorem Stored.faithful_repository : Stored.repository.Faithful := by
  intro b s b' s' h
  have ho := Store.outcome_update (s.around s.next) s.store b
  have hok : (s.store.update (s.around s.next) b).1 = .ok b' := congrArg Prod.fst h
  generalize s.store.update (s.around s.next) b = o at ho hok
  cases ho with
  | written content s' hd =>
    cases hok
    exact ⟨_, rfl⟩
  | refused f s' hd => cases hok

theorem Rehearsal.faithful_repository : Rehearsal.repository.Faithful := by
  intro b s b' s' h
  simp only [repository, update] at h
  split at h
  case h_1 => cases h
  case h_2 =>
    cases h
    exact ⟨_, rfl⟩

/-- A repository in a part of the world is as faithful as it is by itself. -/
theorem Repository.Faithful.zoom {σ τ : Type} {r : Repository σ} (h : r.Faithful) (view : τ → σ)
    (put : σ → τ → τ) : (r.zoom view put).Faithful := by
  intro b w b' w' hupdate
  have hok : ((r.update b).run (view w)).1 = .ok b' := congrArg Prod.fst hupdate
  exact h b (view w) b' _ (Prod.ext hok rfl)

end BlueprintControl
