import BlueprintControl.Files.Tree
import BlueprintControl.Proofs.Files.Names
import Mathlib.Data.List.Infix
import Mathlib.Data.String.Basic

/-!
# Places of paths

A path leads to a place, which is told by the names between its slashes. An absolute path in which
no dots stand for a place is read off its text alone: above it there are the places with fewer
names, each of them once, up to the root.

Paths are climbed on their characters from the end, while their names are split off from the front.
Both views meet at a slash: it splits the names of a path, and so its place.

## Main definitions

* `Path.place`: where a path leads, innermost name first.
* `Path.IsPlain`: an absolute path without dots that stand for a place.

## Main statements

* `Path.place_append_slash`: a slash splits a place.
* `Path.map_place_ancestors`: what is above a path.
-/
namespace BlueprintControl

/-! ## Names -/

section Splitting

open String

theorem atEnd_append_iff (l m r : List Char) :
    Pos.Raw.atEnd (ofList (l ++ m ++ r)) ⟨utf8Len l + utf8Len m⟩ = true ↔ r = [] := by
  rw [atEnd_iff, rawEndPos_ofList, utf8Len_append, utf8Len_append, Pos.Raw.mk_le_mk,
    ← utf8Len_eq_zero]
  omega

/-- The text is split at positions in octets. In front of `l` all parts are done, `m` is the part
that has been begun, and `r` is to come. -/
theorem splitOnAux_slash (l m r : List Char) (acc : List String) :
    splitOnAux (ofList (l ++ m ++ r)) "/" ⟨utf8Len l⟩ ⟨utf8Len l + utf8Len m⟩ 0 acc
      = acc.reverse ++ (List.splitOnPPrepend (· == '/') r m.reverse).map ofList := by
  induction r generalizing l m acc with
  | nil =>
    rw [splitOnAux, if_pos ((atEnd_append_iff l m []).mpr rfl), extract_of_valid]
    simp [List.splitOnPPrepend]
  | cons c r ih =>
    have hget : Pos.Raw.get (ofList (l ++ m ++ c :: r)) ⟨utf8Len l + utf8Len m⟩ = c := by
      simpa [-ofList_append] using get_of_valid (l ++ m) (c :: r)
    have hnext : Pos.Raw.next (ofList (l ++ m ++ c :: r)) ⟨utf8Len l + utf8Len m⟩
        = ⟨utf8Len l + utf8Len m + c.utf8Size⟩ := by
      simpa [-ofList_append] using next_of_valid (l ++ m) c r
    have hslash : Pos.Raw.get "/" 0 = '/' := rfl
    rw [splitOnAux, if_neg (fun h => nomatch (atEnd_append_iff l m (c :: r)).mp h), hget, hslash]
    by_cases hc : c = '/'
    case pos =>
      -- the part `m` is done, and the next one begins behind the slash
      subst hc
      have hnextslash : Pos.Raw.next "/" 0 = ⟨1⟩ := rfl
      have hendslash : Pos.Raw.atEnd "/" ⟨1⟩ = true := rfl
      have hsize : '/'.utf8Size = 1 := rfl
      have hback : (⟨utf8Len l + utf8Len m + 1⟩ : Pos.Raw).unoffsetBy ⟨1⟩
          = ⟨utf8Len l + utf8Len m⟩ := by simp [Pos.Raw.ext_iff]
      have hextract := extract_of_valid l m ('/' :: r)
      have hrest := ih (l ++ m ++ ['/']) [] (ofList m :: acc)
      simp only [List.append_nil, utf8Len_nil, Nat.add_zero, utf8Len_append, utf8Len_cons,
        Nat.zero_add, List.append_assoc, List.singleton_append, hsize, ← Nat.add_assoc] at hrest
      simp only [List.splitOnPPrepend_cons_eq_if, beq_self_eq_true, if_true, hnext, hnextslash,
        hendslash, hsize, hback, hextract]
      simp only [List.append_assoc, hrest]
      simp
    case neg =>
      have hne : ¬ (c == '/') = true := by simpa using hc
      have hback : (⟨utf8Len l + utf8Len m⟩ : Pos.Raw).unoffsetBy 0
          = ⟨utf8Len l + utf8Len m⟩ := rfl
      have hrest := ih l (m ++ [c]) acc
      simp only [utf8Len_append, utf8Len_cons, utf8Len_nil, Nat.zero_add, ← Nat.add_assoc,
        List.append_assoc, List.singleton_append] at hrest
      rw [List.splitOnPPrepend_cons_eq_if, if_neg hne, if_neg hne, hback, hnext]
      simp only [List.append_assoc, hrest]
      simp

end Splitting

namespace Tree

/-- The names of a path are what stands between the slashes among its characters. -/
theorem names_eq (p : String) : names p = (p.toList.splitOnP (· == '/')).map String.ofList := by
  have h := splitOnAux_slash [] [] p.toList []
  simpa [names, String.splitOn, List.splitOnP_eq_splitOnPPrepend,
    -List.splitOnPPrepend_nil_right] using h

theorem names_append_slash (p q : String) : names (p ++ "/" ++ q) = names p ++ names q := by
  have hslash : "/".toList = ['/'] := rfl
  simp only [names_eq, String.toList_append, hslash, List.append_assoc, List.singleton_append]
  rw [← List.map_append]
  exact congrArg _ (List.splitOnP_append_cons p.toList q.toList rfl)

theorem names_eq_singleton {p : String} (h : '/' ∉ p.toList) : names p = [p] := by
  have hslash : ∀ c ∈ p.toList, (c == '/') = false :=
    fun c hc => beq_eq_false_iff_ne.mpr fun heq => h (heq ▸ hc)
  rw [names_eq, List.splitOnP_eq_singleton hslash]
  simp

theorem names_slash (p : String) : names (p ++ "/") = names p ++ [""] := by
  have h := names_append_slash p ""
  rwa [String.append_empty, names_eq_singleton (p := "") (by simp)] at h

end Tree

/-! ## Places -/

namespace Path

/-- The place to which a path leads, by its names, innermost first. Empty names say nothing. -/
def place (p : String) : List String := ((Tree.names p).filter (· ≠ "")).reverse

/-- An absolute path in which no name stands for the place itself or for the one above. -/
structure IsPlain (p : String) : Prop where
  absolute : p.startsWith "/" = true
  no_dot : "." ∉ Tree.names p
  no_dots : ".." ∉ Tree.names p

variable {p q name : String} {cs : List Char}

theorem place_append_slash (p q : String) : place (p ++ "/" ++ q) = place q ++ place p := by
  simp [place, Tree.names_append_slash]

@[simp] theorem place_empty : place "" = [] := by
  simp [place, Tree.names_eq]

@[simp] theorem place_slash (p : String) : place (p ++ "/") = place p := by
  simpa using place_append_slash p ""

theorem place_name (hne : name ≠ "") (hslash : '/' ∉ name.toList) : place name = [name] := by
  simp [place, Tree.names_eq_singleton hslash, hne]

theorem startsWith_slash_iff : p.startsWith "/" = true ↔ ∃ rest, p.toList = '/' :: rest := by
  have hslash : "/".toList = ['/'] := rfl
  rw [String.startsWith_string_iff, hslash]
  exact exists_congr fun rest => eq_comm

theorem startsWith_slash_append (h : p.startsWith "/" = true) :
    (p ++ q).startsWith "/" = true := by
  rw [String.startsWith_string_iff] at h ⊢
  rw [String.toList_append]
  exact h.trans (List.prefix_append _ _)

theorem startsWith_slash_of_append (h : (p ++ q).startsWith "/" = true) (hp : p ≠ "") :
    p.startsWith "/" = true := by
  rw [startsWith_slash_iff] at h ⊢
  obtain ⟨rest, hrest⟩ := h
  cases hchars : p.toList with
  | nil => exact absurd (by simpa using hchars) hp
  | cons c more =>
    simp only [String.toList_append, hchars, List.cons_append, List.cons.injEq] at hrest
    exact ⟨more, by rw [hrest.1]⟩

namespace IsPlain

theorem ne_empty (h : IsPlain p) : p ≠ "" := by
  rintro rfl
  obtain ⟨rest, hrest⟩ := startsWith_slash_iff.mp h.absolute
  cases hrest

/-- What stands in front of a slash is plain as well, unless it is nothing. -/
theorem above (h : IsPlain (p ++ "/" ++ q)) (hp : p ≠ "") : IsPlain p := by
  obtain ⟨habsolute, hdot, hdots⟩ := h
  rw [Tree.names_append_slash, List.mem_append, not_or] at hdot hdots
  rw [String.append_assoc] at habsolute
  exact ⟨startsWith_slash_of_append habsolute hp, hdot.1, hdots.1⟩

/-- With the slash it is plain in any case. -/
theorem folder (h : IsPlain (p ++ "/" ++ q)) : IsPlain (p ++ "/") := by
  obtain ⟨habsolute, hdot, hdots⟩ := h
  rw [Tree.names_append_slash, List.mem_append, not_or] at hdot hdots
  exact ⟨startsWith_slash_of_append habsolute (by simp), by simp [Tree.names_slash, hdot.1],
    by simp [Tree.names_slash, hdots.1]⟩

end IsPlain

/-! ## Paths from the end -/

/-- The path that is given backwards. -/
def ofBack (cs : List Char) : String := String.ofList cs.reverse

@[simp] theorem ofBack_toList_reverse (p : String) : ofBack p.toList.reverse = p := by
  simp [ofBack]

theorem ofBack_append_slash (as bs : List Char) :
    ofBack (as ++ '/' :: bs) = ofBack bs ++ "/" ++ ofBack as := by
  simp [ofBack, String.append_assoc]

theorem ofBack_slash (cs : List Char) : ofBack ('/' :: cs) = ofBack cs ++ "/" := by
  simp [ofBack]

/-- A name that is joined to a path stands behind one slash, and in front of that the path stands,
with or without a slash of its own. -/
theorem join_eq (hp : p ≠ "") (hname : IsName name) :
    ∃ front, (p = front ∨ p = front ++ "/") ∧ join p name = front ++ "/" ++ name := by
  obtain ⟨front, habove, hfront⟩ := aboveBack_eq_cons hp
  refine ⟨ofBack front, ?path, ?joined⟩
  case path =>
    rw [← ofBack_slash]
    exact hfront.imp (fun hback => by rw [← hback, ofBack_toList_reverse])
      (fun hback => by rw [← hback, ofBack_toList_reverse])
  case joined =>
    rw [← ofBack_toList_reverse (join p name), toList_join hname, habove, ofBack_append_slash,
      ofBack_toList_reverse]

/-- A name that is joined to a plain path makes a plain path, and what stands in front of the name
leads where the path leads. -/
theorem IsPlain.join_spec (h : IsPlain p) (hname : IsName name) :
    ∃ front, join p name = front ++ "/" ++ name ∧ place front = place p ∧
      IsPlain (join p name) := by
  obtain ⟨front, hfront, hjoin⟩ := join_eq h.ne_empty hname
  obtain ⟨habsolute, hdot, hdots⟩ := h
  obtain ⟨hplace, hnames, hstart⟩ : place front = place p ∧
      (∀ n ∈ Tree.names front, n ∈ Tree.names p) ∧ (front ++ "/").startsWith "/" = true := by
    rcases hfront with rfl | rfl
    · exact ⟨rfl, fun n hn => hn, startsWith_slash_append habsolute⟩
    · refine ⟨(place_slash front).symm, fun n hn => ?_, habsolute⟩
      rw [Tree.names_slash]
      exact List.mem_append_left _ hn
  have hwhole : ∀ n ∈ Tree.names (join p name), n ∈ Tree.names p ∨ n = name := by
    intro n hn
    rw [hjoin, Tree.names_append_slash, Tree.names_eq_singleton hname.no_slash, List.mem_append,
      List.mem_singleton] at hn
    exact hn.imp_left (hnames n)
  refine ⟨front, hjoin, hplace, hjoin ▸ startsWith_slash_append hstart, ?dot, ?dots⟩
  case dot => exact fun hmem => (hwhole _ hmem).elim hdot fun heq => hname.ne_dot heq.symm
  case dots => exact fun hmem => (hwhole _ hmem).elim hdots fun heq => hname.ne_dots heq.symm

theorem IsPlain.join (h : IsPlain p) (hname : IsName name) : IsPlain (join p name) := by
  obtain ⟨front, -, -, hplain⟩ := h.join_spec hname
  exact hplain

theorem place_join (h : IsPlain p) (hname : IsName name) :
    place (Path.join p name) = name :: place p := by
  obtain ⟨front, hjoin, hplace, -⟩ := h.join_spec hname
  rw [hjoin, place_append_slash, place_name hname.ne_empty hname.no_slash, hplace]
  rfl

/-! ## Ancestors -/

theorem trimBack_suffix (cs : List Char) : trimBack cs <:+ cs := by
  fun_induction trimBack cs with
  | case1 c rest ih => exact ih.trans (List.suffix_cons '/' (c :: rest))
  | case2 rest ih => exact ih.trans (List.suffix_cons '.' ('/' :: rest))
  | case3 cs => exact List.suffix_refl cs

theorem suffix_of_parentBack? {ds : List Char} (h : parentBack? cs = some ds) : ds <:+ cs := by
  have htrim := trimBack_suffix cs
  unfold parentBack? at h
  split at h
  case h_1 => cases h
  case h_2 => cases h
  case h_3 c rest _ heq =>
    cases h
    rw [heq] at htrim
    exact ((trimBack_suffix _).trans (List.dropWhile_suffix _)).trans
      ((List.suffix_cons c rest).trans htrim)

theorem suffix_of_mem_ancestorsBack {ds : List Char} (h : ds ∈ ancestorsBack cs) : ds <:+ cs := by
  fun_induction ancestorsBack cs with
  | case1 cs hnone => exact List.eq_of_mem_singleton h ▸ List.suffix_refl cs
  | case2 cs above habove hlt ih =>
    rcases List.mem_cons.mp h with rfl | h
    · exact List.suffix_refl _
    · exact (ih h).trans (suffix_of_parentBack? habove)

/-- What is dropped at the end says nothing, and a name ends the rest unless that is the root. -/
theorem IsPlain.trimBack_spec (h : IsPlain (ofBack cs)) :
    IsPlain (ofBack (trimBack cs)) ∧ place (ofBack (trimBack cs)) = place (ofBack cs) ∧
      (trimBack cs = ['/'] ∨ ∃ c rest, trimBack cs = c :: rest ∧ c ≠ '/') := by
  fun_induction trimBack cs with
  | case1 c rest ih =>
    have hback := ofBack_slash (c :: rest)
    have habove : IsPlain (ofBack (c :: rest) ++ "/" ++ "") := by
      rwa [String.append_empty, ← hback]
    rw [hback, place_slash]
    exact ih (habove.above (by simp [ofBack]))
  | case2 rest ih =>
    have hback : ofBack ('.' :: '/' :: rest) = ofBack rest ++ "/" ++ "." :=
      ofBack_append_slash ['.'] rest
    have hdot : "." ∈ Tree.names (ofBack ('.' :: '/' :: rest)) := by
      rw [hback, Tree.names_append_slash, Tree.names_eq_singleton (p := ".") (by decide)]
      simp
    exact absurd hdot h.no_dot
  | case3 cs hslash hdot =>
    refine ⟨h, rfl, ?_⟩
    cases cs with
    | nil => exact absurd rfl h.ne_empty
    | cons c rest =>
      by_cases hc : c = '/'
      case pos =>
        cases rest with
        | nil => exact .inl (by rw [hc])
        | cons d more => exact absurd (by rw [hc]) (hslash d more)
      case neg => exact .inr ⟨c, rest, rfl, hc⟩

/-- A path that ends in a name leads to that name below what stands up to the last slash. -/
theorem IsPlain.dropWhile_spec {c : Char} {rest : List Char} (h : IsPlain (ofBack (c :: rest)))
    (hc : c ≠ '/') :
    IsPlain (ofBack (rest.dropWhile (· != '/'))) ∧
      ∃ name, place (ofBack (c :: rest)) = name :: place (ofBack (rest.dropWhile (· != '/'))) := by
  have hsplit := rest.takeWhile_append_dropWhile (p := (· != '/'))
  have hname : ∀ d ∈ c :: rest.takeWhile (· != '/'), d ≠ '/' := by
    intro d hd
    rcases List.mem_cons.mp hd with rfl | hd
    · exact hc
    · exact bne_iff_ne.mp (List.all_eq_true.mp List.all_takeWhile d hd)
  have hhead := List.head?_dropWhile_not (· != '/') rest
  cases hdrop : rest.dropWhile (· != '/') with
  | nil =>
    -- an absolute path has a slash at its front at least
    rw [hdrop, List.append_nil] at hsplit
    obtain ⟨more, hmore⟩ := startsWith_slash_iff.mp h.absolute
    have hmem : '/' ∈ c :: rest := by
      rw [← List.mem_reverse, ← String.toList_ofList (l := (c :: rest).reverse)]
      exact hmore ▸ List.mem_cons_self
    exact absurd rfl (hname '/' (by rwa [hsplit]))
  | cons d above =>
    rw [hdrop] at hsplit hhead
    obtain rfl : d = '/' := by simpa using hhead
    have hback : ofBack (c :: rest)
        = ofBack above ++ "/" ++ ofBack (c :: rest.takeWhile (· != '/')) := by
      rw [← ofBack_append_slash, List.cons_append, hsplit]
    rw [hback] at h ⊢
    rw [ofBack_slash, place_append_slash, place_slash, place_name]
    · exact ⟨h.folder, _, rfl⟩
    · simp [ofBack]
    · intro hslash
      rw [ofBack, String.toList_ofList, List.mem_reverse] at hslash
      exact hname '/' hslash rfl

/-- Nothing is above the root, and above any other place there is the one without its innermost
name. -/
theorem IsPlain.parentBack?_spec (h : IsPlain (ofBack cs)) :
    parentBack? cs = none ∧ place (ofBack cs) = [] ∨
      ∃ ds name, parentBack? cs = some ds ∧ IsPlain (ofBack ds) ∧
        place (ofBack cs) = name :: place (ofBack ds) := by
  obtain ⟨hplain, hplace, hroot | ⟨c, rest, htrim, hc⟩⟩ := h.trimBack_spec
  case inl =>
    refine .inl ⟨by simp [parentBack?, hroot], ?_⟩
    rw [← hplace, hroot, ofBack_slash, place_slash]
    exact place_empty
  case inr =>
    rw [htrim] at hplain hplace
    obtain ⟨habove, name, hname⟩ := hplain.dropWhile_spec hc
    obtain ⟨hplain', hplace', -⟩ := habove.trimBack_spec
    refine .inr ⟨trimBack (rest.dropWhile (· != '/')), name, ?_, hplain', ?_⟩
    · simp [parentBack?, htrim, hc]
    · rw [← hplace, hname, hplace']

theorem IsPlain.ancestorsBack_spec (h : IsPlain (ofBack cs)) :
    (ancestorsBack cs).map (fun ds => place (ofBack ds)) = (place (ofBack cs)).tails ∧
      ∀ ds ∈ ancestorsBack cs, IsPlain (ofBack ds) := by
  fun_induction ancestorsBack cs with
  | case1 cs hnone =>
    obtain ⟨-, hplace⟩ | ⟨ds, name, hsome, -⟩ := h.parentBack?_spec
    case inl => simpa [hplace] using h
    case inr => exact absurd hsome (by simp [hnone])
  | case2 cs ds hsome hlt ih =>
    obtain ⟨hnone, -⟩ | ⟨ds', name, hsome', habove, hplace⟩ := h.parentBack?_spec
    case inl => exact absurd hnone (by simp [hsome])
    case inr =>
      obtain rfl : ds = ds' := Option.some.inj (hsome.symm.trans hsome')
      obtain ⟨hplaces, hplain⟩ := ih habove
      refine ⟨?_, List.forall_mem_cons.mpr ⟨h, hplain⟩⟩
      rw [List.map_cons, hplaces, hplace, List.tails_cons]

/-- The path and everything above it lead to the place and all places above it up to the root, to
each of them once. -/
theorem map_place_ancestors (h : IsPlain p) : (ancestors p).map place = (place p).tails := by
  rw [← ofBack_toList_reverse p] at h
  have hplaces := h.ancestorsBack_spec.1
  rw [ofBack_toList_reverse] at hplaces
  rw [ancestors, List.map_map]
  exact hplaces

theorem isPlain_of_mem_ancestors (h : IsPlain p) (hq : q ∈ ancestors p) : IsPlain q := by
  rw [← ofBack_toList_reverse p] at h
  obtain ⟨ds, hds, rfl⟩ := List.mem_map.mp hq
  exact h.ancestorsBack_spec.2 ds hds

/-- What is above a path is written as the path is, up to there. -/
theorem prefix_of_mem_ancestors (hq : q ∈ ancestors p) : q.toList <+: p.toList := by
  obtain ⟨ds, hds, rfl⟩ := List.mem_map.mp hq
  rw [String.toList_ofList, ← List.reverse_suffix, List.reverse_reverse]
  exact suffix_of_mem_ancestorsBack hds

end Path
end BlueprintControl
