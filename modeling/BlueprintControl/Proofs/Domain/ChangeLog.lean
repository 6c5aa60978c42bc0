import BlueprintControl.Proofs.Domain.Conditions
import BlueprintControl.Proofs.Domain.Diff

/-!
# Conditions as a summary of all writes

Conditions are written in place, and yet nothing is lost that matters. Take all records of a type,
from the one that was there at first to the last one that was written. The condition of the type has
the content of the last record, and the time at which the records began to have its status and its
reason. A write is told as a change exactly if it ends such a stretch of records, or begins the
first one.

## Main definitions

* `Condition.Concludes`: what is left of the records of one type.
* `Conditions.put`, `Conditions.putAll`: writes, given as the conditions that they leave at first.
* `Conditions.SumsUp`: what is left of the records of all types.

## Main statements

* `Condition.Concludes.concat`: one more record of a type.
* `Conditions.SumsUp.put`: one more record of any type.
* `Conditions.SumsUp.changes_iff`: when a write is a change.
* `Conditions.summary_of_writes`: conditions after any number of writes.
-/
namespace BlueprintControl

/-! ## Records of one type -/

namespace Condition

variable {c : Condition} {log : List Condition}

/-- The condition is what is left of a list of records: the content of the last one, and the time of
the first one in the longest stretch at the end whose records all have its status and reason. -/
structure Concludes (c : Condition) (log : List Condition) : Prop where
  last : ∃ w, log.getLast? = some w ∧
    c.status = w.status ∧ c.reason = w.reason ∧ c.message = w.message
  since : ∃ earlier first run, log = earlier ++ first :: run ∧ c.since = first.since ∧
    (∀ w ∈ first :: run, w.status = c.status ∧ w.reason = c.reason) ∧
    ∀ w ∈ earlier.getLast?, w.status ≠ c.status ∨ w.reason ≠ c.reason

theorem concludes_singleton (c : Condition) : c.Concludes [c] :=
  ⟨⟨c, rfl, rfl, rfl, rfl⟩, [], c, [], rfl, rfl, by simp, by simp⟩

theorem differs_iff {s : Status} {reason : String} :
    c.differs s reason = true ↔ c.status ≠ s ∨ c.reason ≠ reason := by
  simp [differs]

/-- One more record is taken over by revising what the records before it have left. -/
theorem Concludes.concat (h : c.Concludes log) (w : Condition) :
    (c.revise w.status w.reason w.message w.since).Concludes (log ++ [w]) := by
  refine ⟨⟨w, List.getLast?_concat, status_revise .., reason_revise .., message_revise ..⟩, ?_⟩
  simp only [status_revise, reason_revise]
  cases hdiffers : c.differs w.status w.reason with
  | true =>
    -- A stretch ends, and the new record begins the next one.
    obtain ⟨v, hlast, hstatus, hreason, -⟩ := h.last
    have hsince : (c.revise w.status w.reason w.message w.since).since = w.since := by
      simp [revise, hdiffers]
    refine ⟨log, w, [], rfl, hsince, by simp, ?_⟩
    intro u hu
    obtain rfl : v = u := Option.some.inj (hlast.symm.trans hu)
    rw [← hstatus, ← hreason]
    exact differs_iff.mp hdiffers
  | false =>
    have hsame : c.status = w.status ∧ c.reason = w.reason := by simpa [differs] using hdiffers
    obtain ⟨earlier, first, run, rfl, hfirst, hrun, hbefore⟩ := h.since
    have hsince : (c.revise w.status w.reason w.message w.since).since = first.since := by
      simp [revise, hdiffers, hfirst]
    rw [hsame.1, hsame.2] at hrun hbefore
    refine ⟨earlier, first, run ++ [w], by simp, hsince, ?_, hbefore⟩
    intro u hu
    obtain hold | hnew := List.mem_append.mp (List.cons_append ▸ hu)
    · exact hrun u hold
    · cases List.mem_singleton.mp hnew
      exact ⟨rfl, rfl⟩

end Condition

/-! ## Records of all types -/

namespace Conditions

variable {cs : Conditions} {log : List Condition} {t : ConditionType}

/-- The records of a type. -/
def recordsOf (t : ConditionType) (log : List Condition) : List Condition :=
  log.filter fun c => c.type == t

/-- Makes a write, given as the condition that it leaves where its type is new. -/
def put (cs : Conditions) (w : Condition) : Conditions :=
  cs.set w.type w.status w.reason w.message w.since

/-- Makes writes one after another, and tells of each of them whether it changed the set. -/
def putAll (cs : Conditions) : List Condition → Conditions × List Bool
  | [] => (cs, [])
  | w :: rest =>
    let (last, told) := (cs.put w).putAll rest
    (last, cs.changes w.type w.status w.reason :: told)

/-- The conditions are what is left of a list of records: one condition for each type that there are
records of, in the order of the first ones. -/
structure SumsUp (cs : Conditions) (log : List Condition) : Prop where
  types : cs.entries.map Condition.type = distinct (log.map Condition.type)
  concludes : ∀ t c, cs.find? t = some c → c.Concludes (recordsOf t log)

theorem recordsOf_concat (t : ConditionType) (log : List Condition) (w : Condition) :
    recordsOf t (log ++ [w]) = if w.type = t then recordsOf t log ++ [w] else recordsOf t log := by
  by_cases h : w.type = t <;> simp [recordsOf, h]

theorem recordsOf_eq_nil_iff : recordsOf t log = [] ↔ t ∉ log.map Condition.type := by
  simp [recordsOf]

theorem find?_eq_none_iff : cs.find? t = none ↔ t ∉ cs.entries.map Condition.type := by
  simp [find?]

namespace SumsUp

theorem isSet (h : cs.SumsUp log) : cs.IsSet := by
  rw [IsSet, h.types]
  exact nodup_keepFirst [] _

/-- The types that there are conditions of are those that there are records of. -/
theorem find?_eq_none (h : cs.SumsUp log) : cs.find? t = none ↔ recordsOf t log = [] := by
  rw [find?_eq_none_iff, h.types, mem_distinct_iff, recordsOf_eq_nil_iff]

/-- Without any writes the conditions of a set are their own records. -/
theorem of_isSet (h : cs.IsSet) : cs.SumsUp cs.entries := by
  refine ⟨(distinct_eq_self_iff.mpr h).symm, ?_⟩
  intro t c hfind
  have hrecords : recordsOf t cs.entries = [c] := by
    change cs.ofType t = [c]
    rw [h.ofType_eq, hfind, Option.toList_some]
  rw [hrecords]
  exact c.concludes_singleton

/-- One more write. -/
theorem put (h : cs.SumsUp log) (w : Condition) : (cs.put w).SumsUp (log ++ [w]) := by
  refine ⟨?types, ?concludes⟩
  case types =>
    simp only [Conditions.put, set, map_type_write, List.map_append, List.map_singleton,
      distinct_concat, h.types, mem_distinct_iff]
  case concludes =>
    intro t c hfind
    rw [recordsOf_concat]
    by_cases ht : w.type = t
    · subst ht
      rw [Conditions.put, find?_set_self] at hfind
      cases Option.some.inj hfind
      rw [if_pos rfl]
      cases hold : cs.find? w.type with
      | none =>
        rw [h.find?_eq_none.mp hold]
        exact w.concludes_singleton
      | some d => exact (h.concludes w.type d hold).concat w
    · rw [if_neg ht]
      rw [Conditions.put, find?_set_of_ne (Ne.symm ht)] at hfind
      exact h.concludes t c hfind

/-- Any number of writes. -/
theorem putAll (h : cs.SumsUp log) (writes : List Condition) :
    (cs.putAll writes).1.SumsUp (log ++ writes) := by
  induction writes generalizing cs log with
  | nil => simpa [Conditions.putAll] using h
  | cons w rest ih => simpa [Conditions.putAll] using ih (h.put w)

/-- A write is a change if the record before it has another status or reason, or if there is no
record before it. -/
theorem changes_iff (h : cs.SumsUp log) (w : Condition) :
    cs.changes w.type w.status w.reason = true ↔
      ∀ c ∈ (recordsOf w.type log).getLast?, c.status ≠ w.status ∨ c.reason ≠ w.reason := by
  cases hfind : cs.find? w.type with
  | none => simp [changes, hfind, h.find?_eq_none.mp hfind]
  | some c =>
    obtain ⟨v, hlast, hstatus, hreason, -⟩ := (h.concludes w.type c hfind).last
    simp [changes, hfind, Condition.differs_iff, hlast, hstatus, hreason]

end SumsUp

/-! ## What is told of writes -/

theorem putAll_append (cs : Conditions) (first second : List Condition) :
    cs.putAll (first ++ second) = (((cs.putAll first).1.putAll second).1,
      (cs.putAll first).2 ++ ((cs.putAll first).1.putAll second).2) := by
  induction first generalizing cs with
  | nil => rfl
  | cons w rest ih => simp [putAll, ih]

theorem length_told (cs : Conditions) (writes : List Condition) :
    (cs.putAll writes).2.length = writes.length := by
  induction writes generalizing cs with
  | nil => rfl
  | cons w rest ih => simp [putAll, ih]

/-- What is told of a write is whether it changes what the writes before it have left. -/
theorem getElem?_told (cs : Conditions) (earlier later : List Condition) (w : Condition) :
    (cs.putAll (earlier ++ w :: later)).2[earlier.length]?
      = some ((cs.putAll earlier).1.changes w.type w.status w.reason) := by
  rw [putAll_append, ← cs.length_told earlier, List.getElem?_append_right (Nat.le_refl _)]
  simp [putAll]

/-- **Conditions are a summary of all writes.** Whatever is written to a set of conditions, each type
with a record, be it a condition of the set or a write, has exactly one condition afterwards, and the
types stay in the order of their first records. A condition has the content of the last record of its
type, and the time of the first one in the longest stretch at the end with this status and reason. A
write is told as a change exactly if the record of its type before it has another status or reason,
or there is none. -/
theorem summary_of_writes (initial : Conditions) (writes : List Condition) (h : initial.IsSet) :
    let log := initial.entries ++ writes
    let final := (initial.putAll writes).1
    let told := (initial.putAll writes).2
    final.entries.map Condition.type = distinct (log.map Condition.type) ∧
      (∀ t ∈ log.map Condition.type, ∃ c, final.ofType t = [c] ∧ c.Concludes (recordsOf t log)) ∧
      told.length = writes.length ∧
      ∀ earlier w later, writes = earlier ++ w :: later →
        (told[earlier.length]? = some true ↔
          ∀ c ∈ (recordsOf w.type (initial.entries ++ earlier)).getLast?,
            c.status ≠ w.status ∨ c.reason ≠ w.reason) := by
  intro log final told
  have hsum : final.SumsUp log := (SumsUp.of_isSet h).putAll writes
  refine ⟨hsum.types, ?_, initial.length_told writes, ?_⟩
  · intro t ht
    cases hfind : final.find? t with
    | none => exact absurd ht (recordsOf_eq_nil_iff.mp (hsum.find?_eq_none.mp hfind))
    | some c =>
      refine ⟨c, ?_, hsum.concludes t c hfind⟩
      rw [hsum.isSet.ofType_eq, hfind, Option.toList_some]
  · intro earlier w later hwrites
    have hbefore : (initial.putAll earlier).1.SumsUp (initial.entries ++ earlier) :=
      (SumsUp.of_isSet h).putAll earlier
    simp only [told, hwrites]
    rw [getElem?_told, Option.some.injEq]
    exact hbefore.changes_iff w

/-- The config is written twice with the reason that it has had from the start, and the dogus leave
their reason and come back to it, which is a change. -/
theorem summary_of_interleaved :
    let second (n : Nat) : Stamp := .sinceEpoch (n * nanosPerSecond)
    let waiting (n : Nat) : Condition := ⟨.dogusApplied, .fails, Reason.needToApply, "", second n⟩
    let applied (n : Nat) : Condition := ⟨.dogusApplied, .holds, Reason.applied, "", second n⟩
    let config (message : String) (n : Nat) : Condition :=
      ⟨.configApplied, .fails, Reason.applying, message, second n⟩
    let initial : Conditions := ⟨[waiting 0, config "first" 1]⟩
    let (final, told) :=
      initial.putAll [config "second" 2, applied 3, waiting 4, config "third" 5, waiting 6]
    initial.IsSet ∧ final.entries.map Condition.type = [.dogusApplied, .configApplied] ∧
      (∃ c, final.ofType .configApplied = [c] ∧
        c.Concludes [config "first" 1, config "second" 2, config "third" 5]) ∧
      (∃ c, final.ofType .dogusApplied = [c] ∧
        c.Concludes [waiting 0, applied 3, waiting 4, waiting 6]) ∧
      told[2]? = some true := by
  intro second waiting applied config initial
  have hset : initial.IsSet := by
    change [ConditionType.dogusApplied, .configApplied].Nodup
    decide
  obtain ⟨htypes, hconcludes, -, htold⟩ := summary_of_writes initial
    [config "second" 2, applied 3, waiting 4, config "third" 5, waiting 6] hset
  have hback := (htold [config "second" 2, applied 3] (waiting 4) [config "third" 5, waiting 6]
    rfl).mpr (by simp [recordsOf, initial, config, applied, waiting])
  exact ⟨hset, htypes, hconcludes .configApplied (by simp [initial, config]),
    hconcludes .dogusApplied (by simp [initial, waiting]), hback⟩

end Conditions
end BlueprintControl
