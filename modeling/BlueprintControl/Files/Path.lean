/-!
# Paths

A path is a text with slashes between names. An empty name and a single dot name the place itself,
and are passed over at the end of a path.

## Main definitions

* `Path.join`: a path below another.
* `Path.parent?`: the path without its last name.
* `Path.ancestors`: the path and everything above it, nearest first.
-/
namespace BlueprintControl.Path

/-- Drops slashes and single dots at the end of a path, which is given backwards. The root
stays. -/
def trimBack : List Char → List Char
  | '/' :: c :: rest => trimBack (c :: rest)
  | '.' :: '/' :: rest => trimBack ('/' :: rest)
  | cs => cs
termination_by cs => cs.length

theorem length_trimBack_le (cs : List Char) : (trimBack cs).length ≤ cs.length := by
  fun_induction trimBack cs with
  | case1 c rest ih => exact Nat.le_succ_of_le ih
  | case2 rest ih => exact Nat.le_succ_of_le ih
  | case3 => exact Nat.le_refl _

/-- The path without its last name, both backwards; nothing if there is no name to drop. -/
def parentBack? (cs : List Char) : Option (List Char) :=
  match trimBack cs with
  | [] | ['/'] => none
  | _ :: rest => some (trimBack (rest.dropWhile (· != '/')))

theorem length_lt_of_parentBack? {cs ds : List Char} (h : parentBack? cs = some ds) :
    ds.length < cs.length := by
  unfold parentBack? at h
  split at h
  · cases h
  · cases h
  · rename_i c rest _ heq
    cases h
    have h1 := length_trimBack_le cs
    have h2 := length_trimBack_le (rest.dropWhile (· != '/'))
    have h3 := (List.dropWhile_sublist (· != '/') (l := rest)).length_le
    rw [heq, List.length_cons] at h1
    omega

/-- The path without its last name; nothing for the root and for the empty path. -/
def parent? (p : String) : Option String :=
  (parentBack? p.toList.reverse).map fun cs => String.ofList cs.reverse

/-- A path below another; an absolute path stays as it is. -/
def join (p q : String) : String :=
  if q.startsWith "/" || p.isEmpty then q
  else if p.endsWith "/" then p ++ q
  else p ++ "/" ++ q

/-- The path and everything above it, both backwards. -/
def ancestorsBack (cs : List Char) : List (List Char) :=
  match h : parentBack? cs with
  | none => [cs]
  | some ds =>
    have := length_lt_of_parentBack? h
    cs :: ancestorsBack ds
termination_by cs.length

/-- The path and everything above it, nearest first. -/
def ancestors (p : String) : List String :=
  (ancestorsBack p.toList.reverse).map fun cs => String.ofList cs.reverse

end BlueprintControl.Path
