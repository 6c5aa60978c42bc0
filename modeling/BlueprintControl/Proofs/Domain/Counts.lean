import Mathlib
import BlueprintControl.Proofs.Domain.DecisionTable
import BlueprintControl.Proofs.Domain.Diff

/-!
# Counted actions

The actions of a collection of entries are counted one by one. The result is the list of first
mentions, each with the number of its occurrences, so that nothing is counted exactly if nothing has
changed. What is told of an axis whose diff is known carries these counts. It says that there are no
changes exactly if the axis turns to applied, although the words are chosen by the counts and the
condition by the changes.

## Main definitions

* `Counted`: what the counts of a collection are.
* `Event.SaysNoChanges`: the words "no changes" are part of what is said.
* `Blueprint.MovesTo`: a type shows something that it has not shown before.

## Main statements

* `countActions_eq`: the first mentions with their numbers.
* `Event.saysNoChanges_iff`: the words are said exactly if nothing is counted.
* `Blueprint.actions_counted`: the counts of a collection, and what is told of an axis.
-/
namespace BlueprintControl

/-! ## Counting -/

section Lists

variable {σ α : Type} [DecidableEq α]

/-- Counting one more occurrence raises a number that is there, or appends a one. -/
theorem tally_map {ks : List α} (h : ks.Nodup) (f : α → Nat) (a : α) :
    tally a (ks.map fun k => (k, f k))
      = if a ∈ ks then ks.map fun k => (k, if k = a then f k + 1 else f k)
        else ks.map (fun k => (k, f k)) ++ [(a, 1)] := by
  induction ks with
  | nil => rfl
  | cons k ks ih =>
    obtain ⟨hk, hks⟩ := List.nodup_cons.mp h
    by_cases hka : k = a
    · subst hka
      have hrest : ks.map (fun b => (b, if b = k then f b + 1 else f b))
          = ks.map fun b => (b, f b) := by
        refine List.map_congr_left fun b hb => ?_
        rw [if_neg (ne_of_mem_of_not_mem hb hk)]
      simp [tally, hrest]
    · have hmem : a ∈ k :: ks ↔ a ∈ ks := by simp [Ne.symm hka]
      simp only [List.map_cons, tally, if_neg hka, ih hks, hmem]
      split <;> rfl

/-- The invariant of counting: what has been counted so far are the first mentions so far, each with
the number of its occurrences. -/
theorem foldl_tally (as : List α) :
    as.foldl (fun counts a => tally a counts) [] = (distinct as).map fun a => (a, as.count a) := by
  induction as using List.reverseRecOn with
  | nil => rfl
  | append_singleton as a ih =>
    rw [List.foldl_append, ih, List.foldl_cons, List.foldl_nil,
      tally_map (firstMentions_distinct as).once, distinct_concat]
    simp only [mem_distinct_iff]
    have hcount : ∀ b, (as ++ [a]).count b = if b = a then as.count b + 1 else as.count b := by
      intro b
      rw [List.count_append, List.count_singleton]
      by_cases hb : b = a
      · simp [hb]
      · simp [hb, Ne.symm hb]
    simp only [hcount]
    by_cases ha : a ∈ as
    · rw [if_pos ha, if_pos ha]
    · have hold : ∀ b ∈ distinct as, (b, as.count b)
          = (b, if b = a then as.count b + 1 else as.count b) := fun b hb => by
        rw [if_neg (ne_of_mem_of_not_mem (mem_distinct_iff.mp hb) ha)]
      rw [if_neg ha, if_neg ha, List.map_append, List.map_congr_left hold]
      simp [List.count_eq_zero.mpr ha]

/-- The first mentions with their numbers. -/
theorem countActions_eq (es : List (DiffEntry σ α)) :
    countActions es = (distinct (es.flatMap DiffEntry.needed)).map fun a =>
      (a, (es.flatMap DiffEntry.needed).count a) :=
  foldl_tally _

theorem sum_count_distinct (as : List α) : ((distinct as).map as.count).sum = as.length := by
  have hperm : (distinct as).Perm as.dedup :=
    (List.perm_ext_iff_of_nodup (firstMentions_distinct as).once as.nodup_dedup).mpr fun a => by
      rw [mem_distinct_iff, List.mem_dedup]
  exact (hperm.map as.count).sum_nat.trans (List.sum_map_count_dedup_eq_length as)

theorem sum_countActions (es : List (DiffEntry σ α)) :
    ((countActions es).map Prod.snd).sum = (es.map fun e => e.needed.length).sum := by
  rw [countActions_eq, List.map_map, ← List.length_flatMap]
  exact sum_count_distinct _

/-- What the counts of a collection are: each action that occurs, once, in order of first
occurrence, with the number of its occurrences over all entries. -/
structure Counted (es : List (DiffEntry σ α)) (counts : List (α × Nat)) : Prop where
  listed : FirstMentions (es.flatMap DiffEntry.needed) (counts.map Prod.fst)
  number : ∀ p ∈ counts, p.2 = (es.map fun e => e.needed.count p.1).sum
  total : (counts.map Prod.snd).sum = (es.map fun e => e.needed.length).sum
  nothing_iff : counts = [] ↔ anyChanges es = false

theorem counted_countActions (es : List (DiffEntry σ α)) : Counted es (countActions es) := by
  refine ⟨?listed, ?number, sum_countActions es, ?nothing⟩
  case listed =>
    have hkeys : (countActions es).map Prod.fst = distinct (es.flatMap DiffEntry.needed) := by
      simp [countActions_eq, Function.comp_def]
    exact hkeys ▸ firstMentions_distinct _
  case number =>
    intro p hp
    rw [countActions_eq] at hp
    obtain ⟨a, -, rfl⟩ := List.mem_map.mp hp
    exact List.count_flatMap
  case nothing =>
    rw [anyChanges_eq_false_iff, ← List.flatMap_eq_nil_iff, countActions_eq, List.map_eq_nil_iff]
    refine ⟨fun hnone => List.eq_nil_iff_forall_not_mem.mpr fun a ha => ?_, fun hnone => ?_⟩
    · exact List.not_mem_nil (hnone ▸ mem_distinct_iff.mpr ha)
    · rw [hnone]
      rfl

end Lists

/-- Nothing is counted on an axis exactly if it has no changes. -/
theorem Axis.total_actionCounts_eq_zero_iff {axis : Axis} {d : StateDiff} :
    Event.total (axis.actionCounts d) = 0 ↔ axis.hasChanges d = false := by
  have hsum : Event.total (axis.actionCounts d)
      = ((axis.entries d).flatMap DiffEntry.needed).length := by
    rw [Event.total, Axis.actionCounts, List.length_flatMap, ← sum_countActions, List.foldl_map,
      List.sum_eq_foldl, List.foldl_map]
  rw [hsum, List.length_eq_zero_iff, List.flatMap_eq_nil_iff]
  exact anyChanges_eq_false_iff.symm

/-! ## Words -/

namespace Event

/-- The words "no changes" are part of what is said. -/
def SaysNoChanges (e : Event) : Prop := "no changes".toList <:+: e.message.toList

instance (e : Event) : Decidable e.SaysNoChanges := inferInstanceAs (Decidable (_ <:+: _))

/-- A blank in front or inside is never followed by the letter `c`, as it is in "no changes". -/
def Spaced (l : List Char) : Prop := (' ' :: l).IsChain fun a b => ¬ (a = ' ' ∧ b = 'c')

instance (l : List Char) : Decidable (Spaced l) := inferInstanceAs (Decidable (List.IsChain _ _))

theorem Spaced.append {l m : List Char} (hl : Spaced l) (hm : Spaced m) : Spaced (l ++ m) := by
  obtain ⟨hhead, hm⟩ := List.isChain_cons.mp hm
  refine List.isChain_append.mpr ⟨hl, hm, fun a _ b hb hab => ?_⟩
  exact hhead b hb ⟨rfl, hab.2⟩

theorem spaced_of_notMem {l : List Char} (h : 'c' ∉ l) : Spaced l := by
  have hne : ∀ b ∈ ' ' :: l, b ≠ 'c' := by
    rintro b hb rfl
    exact h (by simpa using hb)
  refine (List.pairwise_of_forall_mem_list fun a _ b hb hab => ?_).isChain
  exact hne b hb hab.2

theorem spaced_toString (n : Nat) : Spaced (toString n).toList := by
  refine spaced_of_notMem fun hmem => ?_
  rw [Nat.toString_eq_repr, Nat.repr, String.toList_ofList] at hmem
  exact absurd (Nat.isDigit_of_mem_toDigits (by decide) (by decide) hmem) (by decide)

theorem spaced_item (k : Action) (n : Nat) :
    Spaced ("\"" ++ k.token ++ "\": " ++ toString n).toList := by
  have htoken : Spaced ("\"" ++ k.token ++ "\": ").toList := by
    cases k <;> decide
  rw [String.toList_append]
  exact htoken.append (spaced_toString n)

theorem spaced_details {items : List (String × Nat)}
    (h : ∀ p ∈ items, Spaced ("\"" ++ p.1 ++ "\": " ++ toString p.2).toList) :
    Spaced (details items).toList := by
  induction items with
  | nil => decide
  | cons p rest ih =>
    obtain ⟨hp, hrest⟩ := List.forall_mem_cons.mp h
    cases rest with
    | nil => exact hp
    | cons q rest =>
      have hcomma : Spaced ", ".toList := by decide
      have hcons : details (p :: q :: rest)
          = "\"" ++ p.1 ++ "\": " ++ toString p.2 ++ ", " ++ details (q :: rest) :=
        String.intercalate_cons_cons
      rw [hcons, String.toList_append, String.toList_append]
      exact (hp.append hcomma).append (ih hrest)

theorem spaced_actionCounts (axis : Axis) (d : StateDiff) :
    Spaced (details (axis.actionCounts d)).toList := by
  refine spaced_details fun p hp => ?_
  obtain ⟨⟨k, n⟩, -, rfl⟩ := List.mem_map.mp hp
  exact spaced_item k n

theorem toList_message (axis : Axis) (actions : List (String × Nat)) :
    (diffDetermined axis actions).message.toList
      = (axis.singular ++ " state diff determined: ").toList ++
        if total actions = 0 then "no changes".toList
        else (toString (total actions)).toList ++ " actions (".toList ++ (details actions).toList
          ++ ")".toList := by
  have hmessage : (diffDetermined axis actions).message = determinedMessage axis actions := rfl
  rw [hmessage, determinedMessage]
  split
  case isTrue => cases axis <;> rfl
  case isFalse => simp only [String.toList_append, List.append_assoc]

/-- The words are said of an axis exactly if it has no changes. -/
theorem saysNoChanges_iff {axis : Axis} {d : StateDiff} :
    (diffDetermined axis (axis.actionCounts d)).SaysNoChanges ↔ axis.hasChanges d = false := by
  rw [← Axis.total_actionCounts_eq_zero_iff]
  unfold SaysNoChanges
  rw [toList_message]
  constructor
  · intro hsaid
    by_contra hsome
    rw [if_neg hsome] at hsaid
    -- Every blank of the message is spaced, and the one in "no changes" is not.
    have hfront : (axis.singular ++ " state diff determined: ").toList.IsChain
        fun a b => ¬ (a = ' ' ∧ b = 'c') := by
      cases axis <;> decide
    have hbetween : Spaced " actions (".toList := by decide
    have hend : Spaced ")".toList := by decide
    have hcounts := (((spaced_toString (total (axis.actionCounts d))).append hbetween).append
      (spaced_actionCounts axis d)).append hend
    obtain ⟨hhead, hcounts⟩ := List.isChain_cons.mp hcounts
    have hmessage := List.isChain_append.mpr
      ⟨hfront, hcounts, fun a _ b hb hab => hhead b hb ⟨rfl, hab.2⟩⟩
    have hwords := List.IsChain.infix hmessage hsaid
    exact absurd hwords (by decide)
  · intro hnone
    rw [if_pos hnone]
    exact (List.suffix_append _ _).isInfix

end Event

/-! ## What is told of an axis -/

namespace Blueprint

variable {b : Blueprint} {axis axis' : Axis} {error : Option String} {now : Stamp}
  {actions : List (String × Nat)}

/-- A type shows this afterwards, and has not shown it before. -/
def MovesTo (b after : Blueprint) (t : ConditionType) (s : Status) (reason : String) : Prop :=
  b.conditions.shown t ≠ some (s, reason) ∧ after.conditions.shown t = some (s, reason)

/-- A known diff is told of the axis that is evaluated, and only if this changes the axis. -/
theorem eq_of_told (h : .diffDetermined axis' actions ∈ b.appended now (.evaluate axis error)) :
    axis' = axis ∧ actions = axis.actionCounts b.diff ∧ error = none ∧
      (b.evaluate axis error now).changed = true := by
  rw [appended, perform, pending_evaluate, List.drop_left] at h
  split at h
  case isTrue hchanged =>
    cases error with
    | some e => simp [Axis.finding] at h
    | none =>
      obtain ⟨rfl, rfl⟩ : axis' = axis ∧ actions = axis.actionCounts b.diff := by
        simpa [Axis.finding] using h
      exact ⟨rfl, rfl, rfl, hchanged⟩
  case isFalse => exact absurd h List.not_mem_nil

/-- An axis that changes without an error waits, or has nothing to wait for. -/
theorem shown_of_changed (h : (b.evaluate axis none now).changed = true) :
    (b.evaluate axis none now).blueprint.conditions.shown axis.conditionType
      = some (.fails, if axis.hasChanges b.diff then Reason.needToApply else Reason.applied) := by
  have hrow : b.FollowsDiff axis ∨ b.HasApplied axis ∧ axis.hasChanges b.diff = true := by
    by_contra hkept
    rw [(evaluate_of_stay (target_of_kept hkept)).2] at h
    cases h
  obtain ⟨since, hfind⟩ := says_evaluate hrow now
  simp [Conditions.shown, hfind]

/-- An axis that changes without an error turns to applied exactly if it has no changes. -/
theorem movesTo_applied_iff (h : (b.evaluate axis none now).changed = true) :
    b.MovesTo (b.evaluate axis none now).blueprint axis.conditionType .fails Reason.applied ↔
      axis.hasChanges b.diff = false := by
  have hnew := (changed_evaluate_iff b axis none now).mp h
  have hshown := shown_of_changed h
  cases hchanges : axis.hasChanges b.diff with
  | false =>
    rw [hchanges] at hshown
    exact iff_of_true ⟨fun hold => hnew (hshown.trans hold.symm), hshown⟩ rfl
  | true =>
    rw [hchanges] at hshown
    refine iff_of_false (fun hmoves => ?_) nofun
    exact absurd (hshown.symm.trans hmoves.2) (by decide)

/-- **Actions are counted exactly**, for any collection of entries: each action that occurs is
listed once, in order of first occurrence, with the number of its occurrences over all entries, the
numbers add up to all needed actions, and the list is empty exactly if there are no changes.
Therefore what is told of an axis whose diff is known carries the counts of the axis, and says
"no changes" exactly if the axis turns to applied. -/
theorem actions_counted :
    (∀ {σ α : Type} [DecidableEq α] (es : List (DiffEntry σ α)), Counted es (countActions es)) ∧
      ∀ (b : Blueprint) (axis axis' : Axis) (error : Option String) (now : Stamp)
        (actions : List (String × Nat)),
        .diffDetermined axis' actions ∈ b.appended now (.evaluate axis error) →
          axis' = axis ∧ actions = axis.actionCounts b.diff ∧
            ((Event.diffDetermined axis' actions).SaysNoChanges ↔
              b.MovesTo (b.evaluate axis error now).blueprint axis.conditionType .fails
                Reason.applied) := by
  refine ⟨counted_countActions, fun b axis axis' error now actions htold => ?_⟩
  obtain ⟨rfl, rfl, rfl, hchanged⟩ := eq_of_told htold
  exact ⟨rfl, rfl, Event.saysNoChanges_iff.trans (movesTo_applied_iff hchanged).symm⟩

/-- Two dogus need three actions, and the components have waited for nothing. -/
theorem counted_on_both_axes :
    let b : Blueprint :=
      { fresh "blueprint-1" .plain with
        conditions := ⟨[⟨.componentsApplied, .fails, Reason.needToApply, "", default⟩]⟩
        diff := ⟨[⟨"official/ldap", default, default, [.upgrade, .updateDoguVolumeSize]⟩,
          ⟨"official/cas", default, default, [.upgrade]⟩], [], []⟩ }
    let counts := [("upgrade", 2), ("update-dogu-volume-size", 1)]
    .diffDetermined .dogus counts ∈ b.appended default (.evaluate .dogus none) ∧
      .diffDetermined .components [] ∈ b.appended default (.evaluate .components none) ∧
      ¬ (Event.diffDetermined .dogus counts).SaysNoChanges ∧
      b.MovesTo (b.evaluate .components none default).blueprint .componentsApplied .fails
        Reason.applied := by
  intro b counts
  have hdogus : .diffDetermined .dogus counts ∈ b.appended default (.evaluate .dogus none) := by
    decide
  have hcomponents : .diffDetermined .components []
      ∈ b.appended default (.evaluate .components none) := by
    decide
  have hnothing : (Event.diffDetermined .components []).SaysNoChanges := by decide
  have htold := (actions_counted.2 b .dogus .dogus none default counts hdogus).2.2
  have hsilent := (actions_counted.2 b .components .components none default [] hcomponents).2.2
  refine ⟨hdogus, hcomponents, fun hsaid => ?_, hsilent.mp hnothing⟩
  exact absurd (htold.mp hsaid).2 (by decide)

end Blueprint
end BlueprintControl
