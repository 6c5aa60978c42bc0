import BlueprintControl.Domain.Axis
import BlueprintControl.Proofs.Policy.Actions

/-!
# What is said about a refused diff

A refusal lists every needed action that is denied, once for each place where the diff needs it, and
lists nothing else. Dogus come before components; entries, and the actions of an entry, come in the
order of the diff. What the entries look like now and later, and what the config needs, does not
matter.

## Main definitions

* `Mention`: a needed action and where it stands.
* `ActionPolicy.Forbids`: a mention that is an offence.
* `StateDiff.mentions`: everything that a diff needs of dogus and components.

## Main statements

* `StateDiff.mem_mentions_iff`, `StateDiff.pairwise_mentions`: each mention is there once, in order.
* `ActionPolicy.violations_eq`: the offences are the mentions that are forbidden.
* `ActionPolicy.validate_exact`: what is accepted, and what is said about all else.
-/
namespace BlueprintControl

/-- An action that a dogu or a component needs, and where it stands in the diff. -/
structure Mention where
  axis : Axis
  /-- The place of the entry on its axis. -/
  entry : Nat
  /-- The place of the action in its entry. -/
  place : Nat
  name : String
  action : Action

namespace Mention

/-- The diff needs the action at this place. -/
def StandsIn (m : Mention) (d : StateDiff) : Prop :=
  ∃ e, (m.axis.entries d)[m.entry]? = some e ∧ e.name = m.name ∧
    e.needed[m.place]? = some m.action

/-- Dogus come before components, then entries and actions come in their order. -/
def Before (m n : Mention) : Prop :=
  m.axis = .dogus ∧ n.axis = .components ∨
    m.axis = n.axis ∧ (m.entry < n.entry ∨ m.entry = n.entry ∧ m.place < n.place)

/-- What is said about an offence. -/
def text (m : Mention) : String :=
  "action \"" ++ m.action.token ++ "\" is not allowed for " ++ m.axis.singular ++ " \"" ++ m.name
    ++ "\""

end Mention

/-! ## All mentions of a diff -/

theorem pairwise_zipIdx {α : Type} (as : List α) : as.zipIdx.Pairwise fun a b => a.2 < b.2 := by
  have hplaces : (as.zipIdx.map Prod.snd).Pairwise (· < ·) := by
    rw [List.zipIdx_map_snd]
    exact List.pairwise_lt_range'
  exact List.pairwise_map.mp hplaces

/-- What is mentioned by one entry. -/
def DiffEntry.mentions (axis : Axis) (entry : Nat) (e : DiffEntry Snapshot Action) : List Mention :=
  e.needed.zipIdx.map fun (a, place) => ⟨axis, entry, place, e.name, a⟩

namespace StateDiff

variable {d : StateDiff} {m : Mention}

/-- What is mentioned on an axis. -/
def mentionsOn (d : StateDiff) (axis : Axis) : List Mention :=
  (axis.entries d).zipIdx.flatMap fun (e, entry) => e.mentions axis entry

/-- Everything that is mentioned. -/
def mentions (d : StateDiff) : List Mention := d.mentionsOn .dogus ++ d.mentionsOn .components

theorem mem_mentionsOn_iff {axis : Axis} :
    m ∈ d.mentionsOn axis ↔ m.axis = axis ∧ m.StandsIn d := by
  obtain ⟨own, entry, place, name, action⟩ := m
  simp only [mentionsOn, DiffEntry.mentions, Mention.StandsIn, List.mem_flatMap, List.mem_map,
    Prod.exists, List.mk_mem_zipIdx_iff_getElem?, Mention.mk.injEq]
  constructor
  · rintro ⟨e, i, he, a, j, ha, rfl, rfl, rfl, rfl, rfl⟩
    exact ⟨rfl, e, he, rfl, ha⟩
  · rintro ⟨rfl, e, he, rfl, ha⟩
    exact ⟨e, entry, he, action, place, ha, rfl, rfl, rfl, rfl, rfl⟩

/-- Each mention that stands in the diff is listed. -/
theorem mem_mentions_iff : m ∈ d.mentions ↔ m.StandsIn d := by
  rw [mentions, List.mem_append, mem_mentionsOn_iff, mem_mentionsOn_iff, ← or_and_right]
  refine and_iff_right ?_
  cases m.axis with
  | dogus => exact .inl rfl
  | components => exact .inr rfl

theorem pairwise_mentionsOn (axis : Axis) : (d.mentionsOn axis).Pairwise Mention.Before := by
  refine List.pairwise_flatMap.mpr ⟨?entry, ?entries⟩
  case entry =>
    rintro ⟨e, entry⟩ -
    refine List.pairwise_map.mpr ((pairwise_zipIdx e.needed).imp fun hplace => ?_)
    exact .inr ⟨rfl, .inr ⟨rfl, hplace⟩⟩
  case entries =>
    refine (pairwise_zipIdx (axis.entries d)).imp fun hentry m hm n hn => ?_
    obtain ⟨_, -, rfl⟩ := List.mem_map.mp hm
    obtain ⟨_, -, rfl⟩ := List.mem_map.mp hn
    exact .inr ⟨rfl, .inl hentry⟩

/-- The mentions are listed in order, and so none of them is listed twice. -/
theorem pairwise_mentions (d : StateDiff) : d.mentions.Pairwise Mention.Before := by
  refine List.pairwise_append.mpr ⟨pairwise_mentionsOn .dogus, pairwise_mentionsOn .components, ?_⟩
  intro m hm n hn
  exact .inl ⟨(mem_mentionsOn_iff.mp hm).1, (mem_mentionsOn_iff.mp hn).1⟩

/-- What each entry of an axis needs, and nothing else about the entries. -/
def needs (d : StateDiff) (axis : Axis) : List (String × List Action) :=
  (axis.entries d).map fun e => (e.name, e.needed)

end StateDiff

/-! ## Offences -/

namespace ActionPolicy

variable {p : ActionPolicy} {d d' : StateDiff} {allowSwitch : Bool}

/-- The actions that are never taken on an axis. -/
def denied (p : ActionPolicy) : Axis → List Action
  | .dogus => p.deniedDogu
  | .components => p.deniedComponent

/-- The mention is an offence: the action is denied on its axis, and it is not the switch of the
namespace of a dogu while this is allowed. -/
def Forbids (p : ActionPolicy) (allowSwitch : Bool) (m : Mention) : Prop :=
  m.action ∈ p.denied m.axis ∧
    ¬ (m.axis = .dogus ∧ m.action = .switchDoguNamespace ∧ allowSwitch = true)

instance (p : ActionPolicy) (allowSwitch : Bool) : DecidablePred (p.Forbids allowSwitch) :=
  fun _ => inferInstanceAs (Decidable (_ ∧ ¬ _))

/-- The offences on an axis. -/
def offencesOn (p : ActionPolicy) (allowSwitch : Bool) (axis : Axis) (d : StateDiff) : List String :=
  offences axis.singular (p.denied axis) (axis == .dogus && allowSwitch) (axis.entries d)

theorem violations_eq_append : p.violations d allowSwitch
    = p.offencesOn allowSwitch .dogus d ++ p.offencesOn allowSwitch .components d := rfl

theorem decide_forbids (axis : Axis) (entry place : Nat) (name : String) (a : Action) :
    decide (p.Forbids allowSwitch ⟨axis, entry, place, name, a⟩)
      = denies (p.denied axis) (axis == .dogus && allowSwitch) a := by
  by_cases hswitch : a = .switchDoguNamespace <;> cases axis <;> simp [Forbids, denies, hswitch]

/-- What is said about one entry. -/
theorem filter_mentions (axis : Axis) (entry : Nat) (e : DiffEntry Snapshot Action) :
    ((e.mentions axis entry).filter (p.Forbids allowSwitch ·)).map Mention.text
      = (e.needed.filter (denies (p.denied axis) (axis == .dogus && allowSwitch))).map
        fun a => violationText axis.singular a e.name := by
  have hforbids : (fun m => decide (p.Forbids allowSwitch m)) ∘
      (fun x : Action × Nat => Mention.mk axis entry x.2 e.name x.1)
        = denies (p.denied axis) (axis == .dogus && allowSwitch) ∘ Prod.fst := by
    funext x
    exact decide_forbids axis entry x.2 e.name x.1
  have htext : Mention.text ∘ (fun x : Action × Nat => Mention.mk axis entry x.2 e.name x.1)
      = (fun a => violationText axis.singular a e.name) ∘ Prod.fst := rfl
  rw [DiffEntry.mentions, List.filter_map, List.map_map, hforbids, htext, ← List.map_map,
    ← List.filter_map, List.zipIdx_map_fst]

/-- The offences on an axis are the mentions that are forbidden. -/
theorem offencesOn_eq (axis : Axis) : p.offencesOn allowSwitch axis d
    = ((d.mentionsOn axis).filter (p.Forbids allowSwitch ·)).map Mention.text := by
  rw [StateDiff.mentionsOn, List.filter_flatMap, List.map_flatMap]
  simp only [filter_mentions]
  rw [offencesOn, offences, ← List.zipIdx_map_fst 0 (axis.entries d), List.flatMap_map,
    List.zipIdx_map_fst]

/-- The offences of a diff are the mentions that are forbidden. -/
theorem violations_eq : p.violations d allowSwitch
    = (d.mentions.filter (p.Forbids allowSwitch ·)).map Mention.text := by
  rw [violations_eq_append, offencesOn_eq, offencesOn_eq, ← List.map_append, ← List.filter_append]
  rfl

/-- Snapshots and config do not matter. -/
theorem violations_congr (h : ∀ axis, d'.needs axis = d.needs axis) :
    p.violations d' allowSwitch = p.violations d allowSwitch := by
  have hneeds : ∀ (axis : Axis) (d : StateDiff), p.offencesOn allowSwitch axis d
      = (d.needs axis).flatMap fun (name, needed) =>
        (needed.filter (denies (p.denied axis) (axis == .dogus && allowSwitch))).map
          fun a => violationText axis.singular a name := by
    intro axis d
    rw [StateDiff.needs, List.flatMap_map]
    rfl
  rw [violations_eq_append, violations_eq_append, hneeds, hneeds, hneeds, hneeds, h, h]

theorem validate_of_violations (h : p.violations d allowSwitch ≠ []) : p.validate d allowSwitch
    = .error (.invalidBlueprint ("action validation failed: "
      ++ "; ".intercalate (p.violations d allowSwitch))) := by
  unfold validate
  split
  case h_1 hnone => exact absurd hnone h
  case h_2 => rfl

/-- A refusal lists the offences, and nothing else. -/
theorem exists_report_of_refused (h : ¬ p.Permits d allowSwitch) :
    ∃ report : List Mention, report.Pairwise Mention.Before ∧
      (∀ m, m ∈ report ↔ m.StandsIn d ∧ p.Forbids allowSwitch m) ∧
      p.validate d allowSwitch = .error (.invalidBlueprint
        ("action validation failed: " ++ "; ".intercalate (report.map Mention.text))) := by
  refine ⟨d.mentions.filter (p.Forbids allowSwitch ·), d.pairwise_mentions.filter _, ?_, ?_⟩
  · intro m
    rw [List.mem_filter, StateDiff.mem_mentions_iff, decide_eq_true_eq]
  · rw [← violations_eq]
    exact validate_of_violations (mt violations_eq_nil_iff.mp h)

/-- **A diff is accepted exactly if no needed action is denied, and a refusal says which are.** A
refused diff is an invalid blueprint, and the message lists the needed actions that are forbidden,
each of them once for each place where it stands, in the order of the diff with dogus first, and
nothing else. Snapshots and config do not matter. An action that is denied for components is refused
whether or not a dogu may switch its namespace. -/
theorem validate_exact (p : ActionPolicy) (d : StateDiff) (allowSwitch : Bool) :
    (p.validate d allowSwitch = .ok () ↔ p.Permits d allowSwitch) ∧
      (¬ p.Permits d allowSwitch → ∃ report : List Mention,
        report.Pairwise Mention.Before ∧
        (∀ m, m ∈ report ↔ m.StandsIn d ∧ p.Forbids allowSwitch m) ∧
        p.validate d allowSwitch = .error (.invalidBlueprint
          ("action validation failed: " ++ "; ".intercalate (report.map Mention.text)))) ∧
      (∀ d' : StateDiff, (∀ axis, d'.needs axis = d.needs axis) →
        p.validate d' allowSwitch = p.validate d allowSwitch) ∧
      ∀ e ∈ d.components, ∀ a ∈ e.needed, a ∈ p.deniedComponent →
        p.validate d allowSwitch ≠ .ok () := by
  refine ⟨validate_eq_ok_iff, ?refused, ?same, ?component⟩
  case refused => exact exists_report_of_refused
  case same =>
    intro d' hneeds
    simp only [validate, violations_congr hneeds]
  case component =>
    intro e he a ha hdenied hok
    exact (validate_eq_ok_iff.mp hok).components e he a ha hdenied

/-- A dogu may switch its namespace and may not be downgraded; a component may not be asked to switch
the namespace of a dogu. -/
theorem validate_exact_mixed :
    let p : ActionPolicy := ⟨[.downgrade, .switchDoguNamespace], [.switchDoguNamespace]⟩
    let d : StateDiff :=
      ⟨[⟨"official/ldap", default, default, [.switchDoguNamespace, .downgrade]⟩],
        [⟨"k8s/k8s-etcd", default, default, [.switchDoguNamespace]⟩], []⟩
    ¬ p.Permits d true ∧ ∃ report : List Mention,
      report.Pairwise Mention.Before ∧
      (∀ m, m ∈ report ↔ m.StandsIn d ∧ p.Forbids true m) ∧
      p.validate d true = .error (.invalidBlueprint
        ("action validation failed: " ++ "; ".intercalate (report.map Mention.text))) := by
  intro p d
  have hrefused : ¬ p.Permits d true := by
    intro h
    exact h.components _ List.mem_cons_self _ List.mem_cons_self List.mem_cons_self
  exact ⟨hrefused, (validate_exact p d true).2.1 hrefused⟩

end ActionPolicy
end BlueprintControl
