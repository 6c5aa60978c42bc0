import BlueprintControl.Proofs.Files.Places
import Mathlib.Data.List.Induction

/-!
# What a plain path leads to

A path is walked name by name, and every name is entered from a folder, even one that says nothing.
So a plain path leads to something in a tree exactly if all places above are folders and something
stands at its own place; and then that is what is found.

## Main definitions

* `Tree.Opens`: there are folders all the way to a place.
* `Tree.Holds`: in the folder at a place there is something of a name.

## Main statements

* `Tree.walk_eq_ok_iff`: where names lead.
* `Tree.exists_look_join_iff`, `Tree.look_join`: what stands under a name in the folder at a path.
-/
namespace BlueprintControl.Tree

variable {t : Tree} {here there : List String} {name path : String} {names : List String}

/-- There are folders all the way to this place, and no name is too long. -/
def Opens (t : Tree) : List String → Prop
  | [] => True
  | name :: above =>
    t.Opens above ∧ name.utf8ByteSize ≤ nameLimit ∧ t.find? (name :: above) = some .folder

/-- There are folders all the way to this place, and in the last one there is something of this
name. -/
structure Holds (t : Tree) (place : List String) (name : String) : Prop where
  opens : t.Opens place
  fits : name.utf8ByteSize ≤ nameLimit
  found : (t.find? (name :: place)).isSome = true

/-- Whatever a name says, it is entered from a folder. -/
theorem enter_eq_ok_iff (hdot : name ≠ ".") (hdots : name ≠ "..") :
    t.enter here name = .ok there ↔ t.find? here = some .folder ∧
      (name = "" ∧ there = here ∨
        name ≠ "" ∧ name.utf8ByteSize ≤ nameLimit ∧ there = name :: here) := by
  unfold enter
  split
  case h_1 hnone => simp [hnone]
  case h_2 hfile => simp [hfile]
  case h_3 hfolder =>
    simp only [hfolder, hdot, hdots, or_false, if_false, true_and]
    by_cases hempty : name = ""
    · simp [hempty, eq_comm (a := there)]
    · by_cases hlong : nameLimit < name.utf8ByteSize
      · simp [hempty, hlong]
      · rw [if_neg hempty, if_neg hlong]
        simp [hempty, Nat.le_of_not_lt hlong, eq_comm (a := there)]

/-- One more name is entered from the folder to which the others lead. -/
theorem walk_concat_eq_ok_iff (hdot : name ≠ ".") (hdots : name ≠ "..") :
    (names ++ [name]).foldlM t.enter here = .ok there ↔
      ∃ folder, (names.foldlM t.enter here = .ok folder ∧ t.find? folder = some .folder) ∧
        (name = "" ∧ there = folder ∨
          name ≠ "" ∧ name.utf8ByteSize ≤ nameLimit ∧ there = name :: folder) := by
  rw [List.foldlM_append]
  cases hfront : names.foldlM t.enter here with
  | error why => simp [bind, Except.bind]
  | ok folder =>
    simp only [List.foldlM_cons, List.foldlM_nil, bind_pure]
    refine (enter_eq_ok_iff hdot hdots).trans ?_
    simp

/-- Names lead to a folder from the root exactly if there are folders all the way. -/
theorem walk_eq_ok_iff (hdot : "." ∉ names) (hdots : ".." ∉ names) :
    names.foldlM t.enter [] = .ok there ∧ t.find? there = some .folder ↔
      there = (names.filter (· ≠ "")).reverse ∧ t.Opens there := by
  induction names using List.reverseRecOn generalizing there with
  | nil =>
    constructor
    · rintro ⟨hwalk, -⟩
      cases hwalk
      exact ⟨rfl, trivial⟩
    · rintro ⟨rfl, -⟩
      exact ⟨rfl, rfl⟩
  | append_singleton names name ih =>
    rw [List.mem_append, not_or, List.mem_singleton, eq_comm] at hdot hdots
    have hfront : ∀ {there}, names.foldlM t.enter [] = .ok there ∧ t.find? there = some .folder ↔
        there = (names.filter (· ≠ "")).reverse ∧ t.Opens there := ih hdot.1 hdots.1
    simp only [walk_concat_eq_ok_iff hdot.2 hdots.2, hfront]
    by_cases hempty : name = ""
    case pos =>
      -- the name says nothing, but what it is entered from is a folder
      have hplace : ((names ++ [name]).filter (· ≠ "")).reverse
          = (names.filter (· ≠ "")).reverse := by simp [hempty]
      rw [hplace]
      constructor
      · rintro ⟨⟨folder, hfolder, ⟨-, rfl⟩ | ⟨hne, -⟩⟩, -⟩
        · exact hfolder
        · exact absurd hempty hne
      · intro hthere
        exact ⟨⟨there, hthere, .inl ⟨hempty, rfl⟩⟩, (hfront.mpr hthere).2⟩
    case neg =>
      have hplace : ((names ++ [name]).filter (· ≠ "")).reverse
          = name :: (names.filter (· ≠ "")).reverse := by simp [hempty]
      rw [hplace]
      constructor
      · rintro ⟨⟨folder, ⟨rfl, hopens⟩, ⟨hname, -⟩ | ⟨-, hfits, rfl⟩⟩, hfound⟩
        · exact absurd hname hempty
        · exact ⟨rfl, hopens, hfits, hfound⟩
      · rintro ⟨rfl, hopens, hfits, hfound⟩
        exact ⟨⟨_, ⟨rfl, hopens⟩, .inr ⟨hempty, hfits, rfl⟩⟩, hfound⟩

/-! ## Names below a plain path -/

section Below

variable {p : String} (hp : Path.IsPlain p) (hname : Path.IsName name)
include hp hname

theorem locate_join_eq_ok_iff : t.locate here (Path.join p name) = .ok there ↔
    t.Opens (Path.place p) ∧ name.utf8ByteSize ≤ nameLimit ∧ there = name :: Path.place p := by
  obtain ⟨front, hjoin, hplace, habsolute, hdot, hdots⟩ := hp.join_spec hname
  rw [hjoin, names_append_slash, List.mem_append, not_or] at hdot hdots
  rw [hjoin] at habsolute
  rw [locate, hjoin, if_neg (by simp), base, if_pos habsolute, names_append_slash,
    names_eq_singleton hname.no_slash, walk_concat_eq_ok_iff hname.ne_dot hname.ne_dots]
  simp only [walk_eq_ok_iff hdot.1 hdots.1]
  rw [← hplace]
  simp [hname.ne_empty, Path.place]

/-- What is found under a name below a plain path is what stands under it at the place of the
path. -/
theorem look_join (h : t.Holds (Path.place p) name) :
    t.look here (Path.join p name) = .ofItem? (t.find? (name :: Path.place p)) := by
  have hlocate : t.locate here (Path.join p name) = .ok (name :: Path.place p) :=
    (locate_join_eq_ok_iff hp hname).mpr ⟨h.opens, h.fits, rfl⟩
  simp only [look, hlocate]

theorem exists_look_join_iff :
    (t.look here (Path.join p name)).exists? = true ↔ t.Holds (Path.place p) name := by
  constructor
  · intro hexists
    unfold look at hexists
    split at hexists
    case h_1 => cases hexists
    case h_2 place hlocate =>
      obtain ⟨hopens, hfits, rfl⟩ := (locate_join_eq_ok_iff hp hname).mp hlocate
      refine ⟨hopens, hfits, Option.isSome_iff_ne_none.mpr fun hnone => ?_⟩
      rw [hnone] at hexists
      cases hexists
  · intro h
    obtain ⟨item, hitem⟩ := Option.isSome_iff_exists.mp h.found
    rw [look_join hp hname h, hitem]
    cases item <;> rfl

end Below

end BlueprintControl.Tree
