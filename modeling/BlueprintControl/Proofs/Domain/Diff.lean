import BlueprintControl.Proofs.Domain.Written
import BlueprintControl.Proofs.Schema.Results
import Mathlib.Data.List.Basic
import Mathlib.Data.List.Induction

/-!
# Actions without repeats

Dropping repeats keeps every item once, in order of first mention, and leaves a list alone exactly
if there are none. So a state diff is left alone by being stored exactly if none of its entries
lists an action twice. Readers drop repeats, so that no state diff that is read has any.

## Main definitions

* `FirstMentions`: every item of a list once, in order of first mention.
* `StateDiff.Distinct`: no entry lists an action twice.

## Main statements

* `firstMentions_distinct`: what is kept when repeats are dropped.
* `distinct_eq_self_iff`: the lists that are left alone.
* `StateDiff.remade_eq_self_iff`: the state diffs that are left alone.
* `StateDiff.distinct_of_read`: no state diff that is read lists an action twice.
-/
namespace BlueprintControl

section Lists

variable {α : Type} [DecidableEq α]

/-- What is kept is what is listed, unless it was kept before. -/
theorem mem_keepFirst_iff {a : α} {kept as : List α} :
    a ∈ keepFirst kept as ↔ a ∈ as ∧ a ∉ kept := by
  induction as generalizing kept with
  | nil => simp [keepFirst]
  | cons b rest ih =>
    by_cases hb : b ∈ kept
    · have hskip : a ∉ kept → a ≠ b := by
        rintro ha rfl
        exact ha hb
      rw [keepFirst, if_pos hb, ih, List.mem_cons]
      exact ⟨fun h => ⟨.inr h.1, h.2⟩, fun h => ⟨h.1.resolve_left (hskip h.2), h.2⟩⟩
    · rw [keepFirst, if_neg hb, List.mem_cons, ih, List.mem_cons]
      by_cases hab : a = b
      · simp [hab, hb]
      · simp [hab]

theorem nodup_keepFirst (kept as : List α) : (keepFirst kept as).Nodup := by
  induction as generalizing kept with
  | nil => exact List.nodup_nil
  | cons b rest ih =>
    by_cases hb : b ∈ kept
    · simpa [keepFirst, hb] using ih kept
    · rw [keepFirst, if_neg hb]
      exact List.nodup_cons.mpr
        ⟨fun h => (mem_keepFirst_iff.mp h).2 List.mem_cons_self, ih _⟩

theorem keepFirst_of_nodup {kept as : List α} (h : as.Nodup) (hnew : ∀ a ∈ as, a ∉ kept) :
    keepFirst kept as = as := by
  induction as generalizing kept with
  | nil => rfl
  | cons b rest ih =>
    obtain ⟨hb, hrest⟩ := List.nodup_cons.mp h
    obtain ⟨hbnew, hnew⟩ := List.forall_mem_cons.mp hnew
    simp only [keepFirst, if_neg hbnew]
    rw [ih hrest fun a ha hmem => ?_]
    obtain rfl | hkept := List.mem_cons.mp hmem
    · exact hb ha
    · exact hnew a ha hkept

theorem mem_distinct_iff {a : α} {as : List α} : a ∈ distinct as ↔ a ∈ as := by
  simp [distinct, mem_keepFirst_iff]

theorem keepFirst_concat (kept as : List α) (a : α) :
    keepFirst kept (as ++ [a])
      = keepFirst kept as ++ if a ∈ as ∨ a ∈ kept then [] else [a] := by
  induction as generalizing kept with
  | nil => by_cases ha : a ∈ kept <;> simp [keepFirst, ha]
  | cons b rest ih =>
    by_cases hb : b ∈ kept
    · have hlisted : (a ∈ b :: rest ∨ a ∈ kept) ↔ (a ∈ rest ∨ a ∈ kept) := by
        by_cases hab : a = b <;> simp [hab, hb]
      simp only [List.cons_append, keepFirst, if_pos hb, ih, hlisted]
    · have hlisted : (a ∈ rest ∨ a ∈ b :: kept) ↔ (a ∈ b :: rest ∨ a ∈ kept) := by
        simp only [List.mem_cons, or_left_comm, or_assoc]
      simp only [List.cons_append, keepFirst, if_neg hb, ih, hlisted]

/-- One more item at the end is dropped if it is a repeat. -/
theorem distinct_concat (as : List α) (a : α) :
    distinct (as ++ [a]) = if a ∈ as then distinct as else distinct as ++ [a] := by
  rw [distinct, keepFirst_concat]
  by_cases ha : a ∈ as <;> simp [distinct, ha]

/-- Every item of a list once, in order of first mention. -/
structure FirstMentions (as kept : List α) : Prop where
  once : kept.Nodup
  mem_iff : ∀ a, a ∈ kept ↔ a ∈ as
  ordered : kept.Pairwise fun a b => as.idxOf a < as.idxOf b

theorem pairwise_distinct (as : List α) :
    (distinct as).Pairwise fun a b => as.idxOf a < as.idxOf b := by
  induction as using List.reverseRecOn with
  | nil => exact List.Pairwise.nil
  | append_singleton as a ih =>
    have hfront : (distinct as).Pairwise fun b c => (as ++ [a]).idxOf b < (as ++ [a]).idxOf c := by
      refine ih.imp_of_mem fun {b c} hb hc hlt => ?_
      rwa [List.idxOf_append_of_mem (mem_distinct_iff.mp hb),
        List.idxOf_append_of_mem (mem_distinct_iff.mp hc)]
    rw [distinct_concat]
    split
    case isTrue => exact hfront
    case isFalse ha =>
      refine List.pairwise_append.mpr ⟨hfront, List.pairwise_singleton _ _, fun b hb c hc => ?_⟩
      obtain rfl := List.mem_singleton.mp hc
      have hb := mem_distinct_iff.mp hb
      rw [List.idxOf_append_of_mem hb, List.idxOf_append_of_notMem ha]
      exact Nat.lt_of_lt_of_le (List.idxOf_lt_length_of_mem hb) (Nat.le_add_right _ _)

/-- Dropping repeats keeps the first mentions. -/
theorem firstMentions_distinct (as : List α) : FirstMentions as (distinct as) :=
  ⟨nodup_keepFirst [] as, fun _ => mem_distinct_iff, pairwise_distinct as⟩

/-- Without repeats there is nothing to drop, and nothing else is left alone. -/
theorem distinct_eq_self_iff {as : List α} : distinct as = as ↔ as.Nodup :=
  ⟨fun h => h ▸ nodup_keepFirst [] as, fun h => keepFirst_of_nodup h fun _ _ => List.not_mem_nil⟩

variable {σ : Type} {e : DiffEntry σ α}

theorem DiffEntry.remade_eq_self_iff : e.remade = e ↔ e.needed.Nodup := by
  rw [← distinct_eq_self_iff]
  obtain ⟨name, actual, expected, needed⟩ := e
  simp [remade, make]

theorem DiffEntry.map_remade_eq_self_iff {es : List (DiffEntry σ α)} :
    es.map DiffEntry.remade = es ↔ ∀ e ∈ es, e.needed.Nodup := by
  induction es with
  | nil => simp
  | cons e es ih => simp [ih, remade_eq_self_iff]

end Lists

/-- There are changes exactly if an action is needed. -/
theorem anyChanges_eq_false_iff {σ α : Type} {es : List (DiffEntry σ α)} :
    anyChanges es = false ↔ ∀ e ∈ es, e.needed = [] := by
  simp [anyChanges, DiffEntry.hasChanges]

/-- No entry lists an action twice. -/
structure StateDiff.Distinct (d : StateDiff) : Prop where
  dogus : ∀ e ∈ d.dogus, e.needed.Nodup
  components : ∀ e ∈ d.components, e.needed.Nodup
  config : ∀ e ∈ d.config, e.needed.Nodup

theorem StateDiff.distinct_empty : empty.Distinct :=
  ⟨List.forall_mem_nil _, List.forall_mem_nil _, List.forall_mem_nil _⟩

/-- Storing a state diff leaves it alone exactly if no entry lists an action twice. -/
theorem StateDiff.remade_eq_self_iff {d : StateDiff} : d.remade = d ↔ d.Distinct := by
  obtain ⟨dogus, components, config⟩ := d
  simp only [remade, StateDiff.mk.injEq, DiffEntry.map_remade_eq_self_iff]
  exact ⟨fun ⟨hd, hc, hk⟩ => ⟨hd, hc, hk⟩, fun h => ⟨h.dogus, h.components, h.config⟩⟩

/-! ## Reading -/

section Reading

open RecordReader

variable {ν σ α : Type} [DecidableEq α] {F : Format ν} {v : ν}

theorem nodup_of_readActions {table : List (String × α)} {as : List α}
    (h : readActions F table v = .ok as) : as.Nodup := by
  obtain ⟨listed, -, h⟩ := Except.exists_of_bind_eq_ok h
  cases h
  exact nodup_keepFirst [] listed

/-- Whatever the document looks like, an entry that is read lists no action twice. -/
theorem DiffEntry.nodup_of_read {snapshot : ν → Except Fault σ} {blank : σ}
    {table : List (String × α)} {e : DiffEntry σ α}
    (h : DiffEntry.read F snapshot blank table v = .ok e) : e.needed.Nodup := by
  have hactions : (optional "neededActions" (readActions F table) []).Gives List.Nodup :=
    gives_optional (fun _ _ => nodup_of_readActions) List.nodup_nil
  have hfields := (gives_trivial (required "name" F.string)).both
    ((gives_trivial (optional "actual" snapshot blank)).both
      ((gives_trivial (optional "expected" snapshot blank)).both hactions))
  exact Format.gives_record (P := fun e : DiffEntry σ α => e.needed.Nodup)
    (hfields.map fun _ hp => hp.2.2.2) h

omit [DecidableEq α] in
/-- A list of entries that may be absent. -/
theorem DiffEntry.gives_nodup (name : String) {r : ν → Except Fault (DiffEntry σ α)}
    (h : ∀ v e, r v = .ok e → e.needed.Nodup) :
    (optional name (F.list r) []).Gives fun es => ∀ e ∈ es, e.needed.Nodup :=
  gives_optional (fun _ _ => Format.gives_list h) (List.forall_mem_nil _)

/-- Whatever the document looks like, a state diff that is read lists no action twice. -/
theorem StateDiff.distinct_of_read {d : StateDiff} (h : StateDiff.read F v = .ok d) :
    d.Distinct := by
  have hdogus := DiffEntry.gives_nodup (F := F) "doguDiffs"
    (r := readDogu F) fun _ _ => DiffEntry.nodup_of_read
  have hcomponents := DiffEntry.gives_nodup (F := F) "componentDiffs"
    (r := readComponent F) fun _ _ => DiffEntry.nodup_of_read
  have hconfig := DiffEntry.gives_nodup (F := F) "configDiffs"
    (r := readConfigEntry F) fun _ _ => DiffEntry.nodup_of_read
  have hfields := hdogus.both (hcomponents.both hconfig)
  exact Format.gives_record (hfields.map fun _ hp => ⟨hp.1, hp.2.1, hp.2.2⟩) h

end Reading
end BlueprintControl
