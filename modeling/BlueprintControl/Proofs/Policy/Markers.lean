import BlueprintControl.Policy.Requeue
import BlueprintControl.Proofs.Text.Lowercase

/-!
# Markers that occur in a failure

Markers and texts are compared in lower case: a failure of unknown origin is repeated after the fixed
delay if the form of a marker is found in the form of what is said about it. A marker that occurs as
it is written is therefore found, unless it cuts a word at a capital sigma: then the text has another
sigma in this place than the marker has alone.

## Main statements

* `occursIn_iff`: what is looked for is a stretch of the text.
* `decide_unknown_iff`: which failures of unknown origin are repeated after the fixed delay.
* `found_unless_cut`: what becomes of a marker that occurs.
* `word_goes_on`: a marker that occurs and is not found.
-/
namespace BlueprintControl.Classifier

theorem occursIn_iff {needle text : List Char} : occursIn needle text = true ↔ needle <:+: text := by
  induction text with
  | nil => rw [occursIn, List.isEmpty_iff, List.infix_nil]
  | cons c rest ih =>
    rw [occursIn, Bool.or_eq_true, ih, List.isPrefixOf_iff_prefix, List.infix_cons_iff]

theorem toList_lower (s : String) : (Text.lower s).toList = Text.lowerAfter [] s.toList := by
  rw [Text.lower, String.toList_ofList]

variable {p : RequeuePolicy} {f : Failure}

theorem mentionsMissing_make_iff : (make p).mentionsMissing f = true ↔
    ∃ m ∈ p.markers, (Text.lower m).toList <:+: (Text.lower f.message).toList := by
  simp [mentionsMissing, make, occursIn_iff]

/-- A failure of unknown origin is repeated after the fixed delay exactly if a marker is found in
what is said about it, both in lower case. -/
theorem decide_unknown_iff (hf : f.kind = .unknown) :
    ((make p).decide f).1 = .requeueAfter p.retryDelay ↔
      ∃ m ∈ p.markers, (Text.lower m).toList <:+: (Text.lower f.message).toList := by
  rw [← mentionsMissing_make_iff]
  simp only [decide, hf]
  split
  case isTrue hfound => exact iff_of_true rfl hfound
  case isFalse hmissed => exact iff_of_false nofun hmissed

/-- The form of a text that is put together has the form of each part in its place. -/
theorem lowerBetween_infix {text : String} {before part after : List Char}
    (h : text.toList = before ++ part ++ after) :
    Text.lowerBetween before.reverse after part <:+: (Text.lower text).toList := by
  rw [toList_lower, h, List.append_assoc, Text.lowerAfter_append, Text.lowerAfter_append,
    List.append_nil, ← List.append_assoc]
  exact List.infix_append ..

/-- **A marker that occurs is found, unless it cuts a word at a capital sigma.** A failure of unknown
origin is repeated after the fixed delay exactly if a marker is found in what is said about it, both
in lower case. In the place where a marker occurs as it is written, in whatever script and case, the
lower-case text has the lower-case marker, and so it is found, if the marker does not cut a word at
a capital sigma. If it does, the text has something else there. -/
theorem found_unless_cut (p : RequeuePolicy) (f : Failure) (hf : f.kind = .unknown) :
    (((make p).decide f).1 = .requeueAfter p.retryDelay ↔
      ∃ m ∈ p.markers, (Text.lower m).toList <:+: (Text.lower f.message).toList) ∧
    ∀ m ∈ p.markers, ∀ before after, f.message.toList = before ++ m.toList ++ after →
      (¬ Text.CutsWord before m.toList after →
        ((make p).decide f).1 = .requeueAfter p.retryDelay) ∧
      (Text.CutsWord before m.toList after ↔
        Text.lowerBetween before.reverse after m.toList ≠ (Text.lower m).toList) := by
  refine ⟨decide_unknown_iff hf, fun m hm before after htext => ⟨fun huncut => ?_, ?_⟩⟩
  · have hform : Text.lowerBetween before.reverse after m.toList = (Text.lower m).toList := by
      rw [toList_lower]
      exact Text.lowerBetween_eq_lowerAfter_iff.mpr huncut
    refine (decide_unknown_iff hf).mpr ⟨m, hm, ?_⟩
    rw [← hform]
    exact lowerBetween_infix htext
  · rw [toList_lower, ne_eq, Text.lowerBetween_eq_lowerAfter_iff, Classical.not_not]

/-- A marker that ends with a capital sigma, as a word of its own. -/
theorem found_as_word :
    let p : RequeuePolicy := { RequeuePolicy.standard with markers := ["ΟΔΟΣ"] }
    let f : Failure := .unknown "Η ΟΔΟΣ 12"
    f.kind = .unknown ∧ "ΟΔΟΣ" ∈ p.markers ∧
      f.message.toList = "Η ".toList ++ "ΟΔΟΣ".toList ++ " 12".toList ∧
      ¬ Text.CutsWord "Η ".toList "ΟΔΟΣ".toList " 12".toList ∧
      ((make p).decide f).1 = .requeueAfter p.retryDelay := by
  intro p f
  have hmarker : "ΟΔΟΣ" ∈ p.markers := List.mem_singleton_self _
  have htext : f.message.toList = "Η ".toList ++ "ΟΔΟΣ".toList ++ " 12".toList := by decide +kernel
  have huncut : ¬ Text.CutsWord "Η ".toList "ΟΔΟΣ".toList " 12".toList :=
    Text.lowerBetween_eq_lowerAfter_iff.mp (by decide +kernel)
  have hfound := (found_unless_cut p f rfl).2 "ΟΔΟΣ" hmarker _ _ htext
  exact ⟨rfl, hmarker, htext, huncut, hfound.1 huncut⟩

/-- The same marker at the start of a longer word occurs and is not found: alone it ends with a final
sigma, and in the text the word goes on. -/
theorem word_goes_on :
    let p : RequeuePolicy := { RequeuePolicy.standard with markers := ["ΟΔΟΣ"] }
    let f : Failure := .unknown "ΟΔΟΣΗΜΑ"
    f.kind = .unknown ∧ "ΟΔΟΣ" ∈ p.markers ∧
      f.message.toList = [] ++ "ΟΔΟΣ".toList ++ "ΗΜΑ".toList ∧
      ((make p).decide f).1 = .retry f ∧
      ((make p).decide f).1 ≠ .requeueAfter p.retryDelay := by
  decide +kernel

end BlueprintControl.Classifier
