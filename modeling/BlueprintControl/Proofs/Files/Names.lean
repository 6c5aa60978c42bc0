import BlueprintControl.Files.Path

/-!
# Names below a path

A name is what stands between slashes. Joined to a path it gives a path directly below, and it can
be told from the joined path. The extension of a name stands behind its last dot, whatever other
dots there are.

## Main definitions

* `Path.IsName`: a text that names something below a place.
* `Path.trimmed`: the path without slashes and dots at its end that say nothing.
* `Path.splitExtension?`: what stands in front of the last dot of a name, and behind it.
* `Path.withExtension`: the name with another extension.

## Main statements

* `parent?_join`: what a name is joined to is directly above.
* `join_inj`: different names lead to different places.
* `splitExtension?_eq_some_iff`: a name has a stem and an extension exactly if it is put together
  from them.
-/
namespace BlueprintControl.Path

/-! ## Joining -/

/-- A text that names something below a place: there is no slash in it, and it names neither the
place itself nor the one above. -/
structure IsName (name : String) : Prop where
  ne_empty : name ≠ ""
  ne_dot : name ≠ "."
  ne_dots : name ≠ ".."
  no_slash : '/' ∉ name.toList

/-- The path without slashes and single dots at its end. The root stays. -/
def trimmed (p : String) : String := String.ofList (trimBack p.toList.reverse).reverse

variable {p name other stem ext : String}

/-- What is above, backwards: nothing of a path that is empty, and a slash otherwise. -/
def aboveBack (p : String) : List Char :=
  if p.isEmpty then [] else if p.endsWith "/" then p.toList.reverse else '/' :: p.toList.reverse

theorem toList_join (h : IsName name) (p : String) :
    (join p name).toList.reverse = name.toList.reverse ++ aboveBack p := by
  have hrelative : ¬ name.startsWith "/" = true := by
    rw [String.startsWith_string_iff]
    intro hslash
    exact h.no_slash (hslash.subset (by simp))
  unfold join aboveBack
  by_cases hempty : p.isEmpty = true
  · simp [hempty]
  · by_cases hend : p.endsWith "/" = true
    · simp [hrelative, hempty, hend]
    · simp [hrelative, hempty, hend]

/-- A path that is not empty is divided from a name below by one slash, its own if it ends in
one. -/
theorem aboveBack_eq_cons (hp : p ≠ "") :
    ∃ front, aboveBack p = '/' :: front ∧
      (p.toList.reverse = front ∨ p.toList.reverse = '/' :: front) := by
  rw [aboveBack, if_neg (by rwa [String.isEmpty_iff])]
  split
  case isTrue hend =>
    rw [String.endsWith_eq_endsWith_toSlice, String.Slice.endsWith_string_iff,
      String.copy_toSlice] at hend
    obtain ⟨front, hfront⟩ := hend
    have hback : p.toList.reverse = '/' :: front.reverse := by simp [← hfront]
    exact ⟨front.reverse, hback, .inr hback⟩
  case isFalse => exact ⟨p.toList.reverse, rfl, .inl rfl⟩

/-- A slash that divides says nothing about what is above. -/
theorem trimBack_aboveBack (p : String) : trimBack (aboveBack p) = trimBack p.toList.reverse := by
  by_cases hp : p = ""
  case pos => simp [hp, aboveBack]
  case neg =>
    obtain ⟨front, habove, hback | hback⟩ := aboveBack_eq_cons hp
    case inl =>
      cases front with
      | nil => exact absurd (by simpa using hback) hp
      | cons c rest => rw [habove, hback, trimBack]
    case inr => rw [habove, hback]

theorem dropWhile_aboveBack (p : String) :
    (aboveBack p).dropWhile (· != '/') = aboveBack p := by
  by_cases hp : p = ""
  case pos => simp [hp, aboveBack]
  case neg =>
    obtain ⟨front, habove, -⟩ := aboveBack_eq_cons hp
    simp [habove]

/-- Nothing is dropped behind a name. -/
theorem trimBack_name (h : IsName name) (above : List Char) :
    ∃ c rest, name.toList.reverse = c :: rest ∧ c ≠ '/' ∧
      trimBack (name.toList.reverse ++ above) = c :: (rest ++ above) := by
  have hslash : ∀ c ∈ name.toList.reverse, c ≠ '/' := by
    rintro c hc rfl
    exact h.no_slash (List.mem_reverse.mp hc)
  cases hback : name.toList.reverse with
  | nil => exact absurd (by simpa using hback) h.ne_empty
  | cons c rest =>
    rw [hback] at hslash
    refine ⟨c, rest, rfl, hslash c List.mem_cons_self, ?_⟩
    rw [List.cons_append, trimBack]
    · intro d tail heq
      exact hslash c List.mem_cons_self (List.cons.inj heq).1
    · intro tail heq
      obtain ⟨rfl, htail⟩ := List.cons.inj heq
      cases rest with
      | nil =>
        refine h.ne_dot (String.ext ?_)
        rw [← List.reverse_reverse name.toList, hback]
        rfl
      | cons d more => exact hslash d (by simp) (List.cons.inj htail).1

/-- A name that is joined to a path leads directly below it. -/
theorem parent?_join (h : IsName name) (p : String) :
    parent? (join p name) = some (trimmed p) := by
  obtain ⟨c, rest, hback, hc, htrim⟩ := trimBack_name h (aboveBack p)
  have hrest : ∀ d ∈ rest, (d != '/') = true := by
    intro d hd
    have hmem : d ∈ name.toList := by
      rw [← List.mem_reverse, hback]
      exact List.mem_cons_of_mem c hd
    exact bne_iff_ne.mpr fun heq => h.no_slash (heq ▸ hmem)
  have hparent : parentBack? (name.toList.reverse ++ aboveBack p)
      = some (trimBack p.toList.reverse) := by
    rw [parentBack?, htrim]
    split
    case h_1 heq => cases heq
    case h_2 heq => exact absurd (List.cons.inj heq).1 hc
    case h_3 heq =>
      cases heq
      rw [List.dropWhile_append_of_pos hrest, dropWhile_aboveBack, trimBack_aboveBack]
  rw [parent?, toList_join h, hparent]
  rfl

/-- Different names lead to different places. -/
theorem join_inj (h : IsName name) (ho : IsName other) :
    join p name = join p other ↔ name = other := by
  constructor
  · intro heq
    have hback := congrArg (fun path => path.toList.reverse) heq
    simp only [toList_join h, toList_join ho] at hback
    exact String.ext (List.reverse_inj.mp (List.append_cancel_right hback))
  · exact congrArg (join p)

/-! ## Extensions -/

/-- What stands in front of the last dot of a name, and behind it. A dot in front of the whole name
does not count, and neither do the two dots that name the place above. -/
def splitExtension? (name : String) : Option (String × String) :=
  let back := name.toList.reverse
  match back.dropWhile (· != '.') with
  | '.' :: c :: stem =>
    if name = ".." then none
    else some (String.ofList (c :: stem).reverse,
      String.ofList (back.takeWhile (· != '.')).reverse)
  | _ => none

/-- The name with another extension in the place of the one that it has. -/
def withExtension (name ext : String) : String :=
  ((splitExtension? name).map Prod.fst).getD name ++ "." ++ ext

/-- A name has a stem and an extension exactly if it is put together from them. -/
theorem splitExtension?_eq_some_iff (hext : ext ≠ "") (hdot : '.' ∉ ext.toList) :
    splitExtension? name = some (stem, ext) ↔ stem ≠ "" ∧ name = stem ++ "." ++ ext := by
  constructor
  · intro h
    simp only [splitExtension?] at h
    split at h
    case h_1 c rest hdrop =>
      split at h
      case isTrue => cases h
      case isFalse =>
        obtain ⟨rfl, rfl⟩ : String.ofList (c :: rest).reverse = stem ∧
            String.ofList (name.toList.reverse.takeWhile (· != '.')).reverse = ext := by
          simpa using h
        refine ⟨by simp, String.ext (List.reverse_inj.mp ?_)⟩
        have hwhole := List.takeWhile_append_dropWhile
          (p := fun c => c != '.') (l := name.toList.reverse)
        rw [hdrop] at hwhole
        simpa using hwhole.symm
    case h_2 => cases h
  · rintro ⟨hstem, rfl⟩
    have hnotdot : ∀ c ∈ ext.toList.reverse, (c != '.') = true := by
      intro c hc
      exact bne_iff_ne.mpr fun heq => hdot (heq ▸ List.mem_reverse.mp hc)
    have hback : (stem ++ "." ++ ext).toList.reverse
        = ext.toList.reverse ++ '.' :: stem.toList.reverse := by simp
    have hdots : stem ++ "." ++ ext ≠ ".." := by
      intro heq
      have hlength := congrArg (fun name => name.toList.length) heq
      have hs : 0 < stem.toList.length := List.length_pos_iff.mpr (by simpa using hstem)
      have he : 0 < ext.toList.length := List.length_pos_iff.mpr (by simpa using hext)
      simp only [String.toList_append, List.length_append] at hlength
      change stem.toList.length + 1 + ext.toList.length = 2 at hlength
      omega
    have hfront : String.ofList stem.toList.reverse.reverse = stem := by simp
    cases hstem' : stem.toList.reverse with
    | nil => exact absurd (by simpa using hstem') hstem
    | cons c rest =>
      rw [hstem'] at hfront
      simp only [splitExtension?, hback]
      rw [List.dropWhile_append_of_pos hnotdot, List.takeWhile_append_of_pos hnotdot, hstem']
      simp only [List.dropWhile_cons, List.takeWhile_cons, bne_self_eq_false, Bool.false_eq_true,
        if_false, if_neg hdots, hfront]
      simp

theorem withExtension_of_split {ext' : String} (h : splitExtension? name = some (stem, ext')) :
    withExtension name ext = stem ++ "." ++ ext := by
  simp [withExtension, h]

end BlueprintControl.Path
