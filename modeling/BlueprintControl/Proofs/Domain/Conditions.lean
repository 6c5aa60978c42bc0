import BlueprintControl.Domain.Condition

/-!
# Writing conditions

A write changes the condition of one type and leaves the others alone. What a set of conditions
shows of a type is its status and its reason; neither depends on time or message.

## Main definitions

* `Conditions.besides`: the conditions of all types but one.
* `Conditions.IsSet`, `Conditions.surplus`: one condition a type, and those behind the first.
* `Conditions.shown`, `Conditions.Shows`: the status and the reason of a type.
* `ConditionType.admitted`: the statuses of a type with the reasons that go with them.
* `Conditions.Admissible`: one condition a type, with an admitted status and reason.

## Main statements

* `Conditions.find?_set_self`, `Conditions.find?_set_of_ne`: the conditions after a write.
* `Conditions.besides_set`: a write leaves the conditions of all other types in place.
* `Conditions.ofType_set_self`: the conditions of a type after one of them has been written.
* `Conditions.isSet_iff_surplus`: the conditions are a set if no type has any surplus.
* `Conditions.changes_eq_true_iff`: a write changes the set if it changes what is shown.
* `Conditions.Admissible.set`: writing what is admitted keeps conditions admissible.
-/
namespace BlueprintControl

namespace Condition

variable (c : Condition) (s : Status) (reason message : String) (now : Stamp)

@[simp] theorem status_revise : (c.revise s reason message now).status = s := by
  unfold revise differs
  split
  case isTrue => rfl
  case isFalse h => exact (by simpa using h : c.status = s ∧ c.reason = reason).1

@[simp] theorem reason_revise : (c.revise s reason message now).reason = reason := by
  unfold revise differs
  split
  case isTrue => rfl
  case isFalse h => exact (by simpa using h : c.status = s ∧ c.reason = reason).2

@[simp] theorem message_revise : (c.revise s reason message now).message = message := by
  unfold revise
  split <;> rfl

/-- The time stays while status and reason do. -/
theorem since_revise_self : (c.revise c.status c.reason message now).since = c.since := by
  simp [revise, differs]

end Condition

/-- The statuses of a type with the reasons that go with them. -/
def ConditionType.admitted : ConditionType → List (Status × String)
  | .dogusApplied | .componentsApplied =>
    [(.unknown, Reason.cannotDetermine), (.fails, Reason.needToApply), (.fails, Reason.applied),
      (.holds, Reason.applied), (.fails, Reason.cannotApply)]
  | .configApplied =>
    [(.fails, Reason.applying), (.fails, Reason.applyingFailed), (.holds, Reason.applied)]
  | .completed => [(.holds, Reason.completed)]

namespace Conditions

variable {cs cs' : Conditions} {t u : ConditionType} {s : Status} {reason message : String}
  {now : Stamp}

/-! ## Look-ups after a write -/

/-- The condition that a write leaves, given the one that was there. -/
def written (t : ConditionType) (s : Status) (reason message : String) (now : Stamp) :
    Option Condition → Condition
  | some c => c.revise s reason message now
  | none => ⟨t, s, reason, message, now⟩

/-- All conditions of a type; more than one can only come from a document. -/
def ofType (cs : Conditions) (t : ConditionType) : List Condition :=
  cs.entries.filter fun c => c.type == t

/-- The conditions of a type behind the first. -/
def surplus (cs : Conditions) (t : ConditionType) : List Condition := (cs.ofType t).tail

theorem find?_eq_head? (cs : Conditions) (t : ConditionType) :
    cs.find? t = (cs.ofType t).head? :=
  List.head?_filter.symm

/-- The first condition of a type is written, and all others of the type stay behind it. -/
theorem ofType_set_self : (cs.set t s reason message now).ofType t
    = written t s reason message now (cs.find? t) :: cs.surplus t := by
  obtain ⟨entries⟩ := cs
  simp only [surplus, ofType, find?, set]
  induction entries with
  | nil => simp [write, written]
  | cons c rest ih =>
    by_cases h : c.type = t
    · simp [write, h, written]
    · simpa [write, h] using ih

@[simp] theorem find?_set_self : (cs.set t s reason message now).find? t
    = some (written t s reason message now (cs.find? t)) := by
  rw [find?_eq_head?, ofType_set_self, List.head?_cons]

theorem type_of_find? {c : Condition} (h : cs.find? t = some c) : c.type = t := by
  simpa using List.find?_some h

/-! ## Other types -/

/-- The conditions of all types but this one, in order. -/
def besides (cs : Conditions) (lane : Option ConditionType) : List Condition :=
  cs.entries.filter fun c => lane != some c.type

theorem besides_none (cs : Conditions) : cs.besides none = cs.entries := by
  simp [besides]

/-- A write leaves the conditions of all other types in place. -/
theorem besides_set : (cs.set t s reason message now).besides (some t) = cs.besides (some t) := by
  obtain ⟨entries⟩ := cs
  simp only [besides, set]
  induction entries with
  | nil => simp [write]
  | cons c rest ih =>
    by_cases h : c.type = t
    · simp [write, h]
    · simp [write, h, List.filter_cons, ih]

/-- The conditions of a type are among those that are left alone in any other lane. -/
theorem ofType_of_besides {lane : Option ConditionType} (h : cs'.besides lane = cs.besides lane)
    (hne : lane ≠ some t) : cs'.ofType t = cs.ofType t := by
  have hfilter : ∀ cs : Conditions, (cs.besides lane).filter (fun c => c.type == t)
      = cs.ofType t := by
    intro cs
    simp only [besides, ofType, List.filter_filter]
    congr 1
    funext c
    by_cases hc : c.type = t
    · simp [hc, hne]
    · simp [hc]
  rw [← hfilter cs', ← hfilter cs, h]

theorem find?_of_besides {lane : Option ConditionType} (h : cs'.besides lane = cs.besides lane)
    (hne : lane ≠ some t) : cs'.find? t = cs.find? t := by
  rw [find?_eq_head?, find?_eq_head?, ofType_of_besides h hne]

theorem ofType_set_of_ne (h : u ≠ t) :
    (cs.set t s reason message now).ofType u = cs.ofType u :=
  ofType_of_besides besides_set (by simpa using h.symm)

theorem find?_set_of_ne (h : u ≠ t) : (cs.set t s reason message now).find? u = cs.find? u :=
  find?_of_besides besides_set (by simpa using h.symm)

/-! ## Sets of conditions -/

/-- There is at most one condition a type. -/
def IsSet (cs : Conditions) : Prop := (cs.entries.map Condition.type).Nodup

theorem surplus_set (cs : Conditions) (t u : ConditionType) :
    (cs.set t s reason message now).surplus u = cs.surplus u := by
  by_cases h : u = t
  · rw [h, surplus, ofType_set_self, List.tail_cons]
  · rw [surplus, ofType_set_of_ne h, surplus]

theorem isSet_iff_surplus : cs.IsSet ↔ ∀ t, cs.surplus t = [] := by
  obtain ⟨entries⟩ := cs
  simp only [IsSet, surplus, ofType]
  induction entries with
  | nil => simp
  | cons c rest ih =>
    have hnew : c.type ∉ rest.map Condition.type ↔
        (rest.filter fun d => d.type == c.type) = [] := by
      simp only [List.mem_map, not_exists, not_and, List.filter_eq_nil_iff, beq_iff_eq]
    rw [List.map_cons, List.nodup_cons, ih, hnew]
    constructor
    · rintro ⟨hfirst, hrest⟩ t
      by_cases h : c.type = t
      · simpa [h] using hfirst
      · simpa [h] using hrest t
    · intro h
      have hfirst : (rest.filter fun d => d.type == c.type) = [] := by simpa using h c.type
      refine ⟨hfirst, fun t => ?_⟩
      by_cases ht : c.type = t
      · rw [← ht, hfirst, List.tail_nil]
      · simpa [ht] using h t

/-- A write keeps a set a set, and does not make one. -/
theorem isSet_set_iff : (cs.set t s reason message now).IsSet ↔ cs.IsSet := by
  simp only [isSet_iff_surplus, surplus_set]

theorem IsSet.ofType_eq (h : cs.IsSet) (t : ConditionType) : cs.ofType t = (cs.find? t).toList := by
  have hsurplus := isSet_iff_surplus.mp h t
  rw [find?_eq_head?]
  cases hof : cs.ofType t with
  | nil => rfl
  | cons c rest =>
    obtain rfl : rest = [] := by simpa [surplus, hof] using hsurplus
    rfl

/-! ## What is shown -/

/-- Status and reason of a type, which shows nothing while it is absent. -/
def shown (cs : Conditions) (t : ConditionType) : Option (Status × String) :=
  (cs.find? t).map fun c => (c.status, c.reason)

theorem shown_set : (cs.set t s reason message now).shown t = some (s, reason) := by
  cases hfind : cs.find? t <;> simp [shown, hfind, written]

/-- A write changes the set exactly if it changes what is shown of its type. -/
theorem changes_eq_true_iff : cs.changes t s reason = true ↔ cs.shown t ≠ some (s, reason) := by
  cases hfind : cs.find? t with
  | none => simp [changes, shown, hfind]
  | some c =>
    simp only [changes, shown, hfind, Condition.differs, Option.map_some]
    by_cases hs : c.status = s <;> simp [hs]

/-- The condition of a type is there, with this status and this reason. -/
def Shows (cs : Conditions) (t : ConditionType) (s : Status) (reason : String) : Prop :=
  ∃ c, cs.find? t = some c ∧ c.status = s ∧ c.reason = reason

theorem shows_set : (cs.set t s reason message now).Shows t s reason := by
  refine ⟨_, find?_set_self, ?_⟩
  cases cs.find? t <;> simp [written]

theorem shows_set_of_ne {s' : Status} {reason' : String} (h : u ≠ t) :
    (cs.set t s reason message now).Shows u s' reason' ↔ cs.Shows u s' reason' := by
  simp only [Shows, find?_set_of_ne h]

/-! ## Admitted conditions -/

/-- At most one condition a type, and none with a status and a reason that its type does not
have. -/
structure Admissible (cs : Conditions) : Prop where
  nodup : (cs.entries.map Condition.type).Nodup
  admitted : ∀ c ∈ cs.entries, (c.status, c.reason) ∈ c.type.admitted

theorem map_type_write (es : List Condition) : (write t s reason message now es).map Condition.type
    = if t ∈ es.map Condition.type then es.map Condition.type
      else es.map Condition.type ++ [t] := by
  induction es with
  | nil => rfl
  | cons c rest ih =>
    by_cases h : c.type = t
    · simp [write, h]
    · have hne : ¬t = c.type := fun heq => h heq.symm
      simp only [write, if_neg h, List.map_cons, ih, List.mem_cons, hne, false_or]
      split <;> rfl

theorem mem_write {es : List Condition} {c : Condition} (h : c ∈ write t s reason message now es) :
    c ∈ es ∨ c.type = t ∧ c.status = s ∧ c.reason = reason := by
  induction es with
  | nil =>
    cases List.mem_singleton.mp h
    exact .inr ⟨rfl, rfl, rfl⟩
  | cons d rest ih =>
    unfold write at h
    split at h
    case isTrue hd =>
      obtain rfl | hrest := List.mem_cons.mp h
      · exact .inr (by simp [hd])
      · exact .inl (List.mem_cons_of_mem d hrest)
    case isFalse =>
      obtain rfl | hrest := List.mem_cons.mp h
      · exact .inl List.mem_cons_self
      · exact (ih hrest).imp_left (List.mem_cons_of_mem d)

theorem admissible_empty : empty.Admissible := ⟨.nil, fun _ h => absurd h List.not_mem_nil⟩

namespace Admissible

theorem set (h : cs.Admissible) (hs : (s, reason) ∈ t.admitted) :
    (cs.set t s reason message now).Admissible := by
  refine ⟨?nodup, fun c hc => ?admitted⟩
  case nodup => exact isSet_set_iff.mpr h.nodup
  case admitted =>
    obtain hold | ⟨rfl, rfl, rfl⟩ := mem_write hc
    · exact h.admitted c hold
    · exact hs

theorem of_find? {c : Condition} (h : cs.Admissible) (hc : cs.find? t = some c) :
    (c.status, c.reason) ∈ t.admitted := by
  have hmem := h.admitted c (List.mem_of_find?_eq_some hc)
  rwa [type_of_find? hc] at hmem

end Admissible
end Conditions
end BlueprintControl
