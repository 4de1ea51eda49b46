import Mathlib.Data.List.DropRight
import RequestParams.Path

/-!
# Paths below a mount

A mount of slashes alone leaves every path as it is. Below any other mount a path counts with a
slash at its start, whether it was written with one or not, and the root counts as nothing
(`joinChars_of_mount`). So two paths come to the same below a mount only if they are two spellings
of one path, with and without that slash (`join_eq_join_iff`).

A mount may itself be below another one. What a joined path adds to the mount above it is what its
parts add (`below_joinChars`), so that mounts may be joined in any order (`join_nested`).
-/

set_option autoImplicit false

namespace RequestParams.Path

/-! ## What a path adds to the mount above it -/

/-- A path with the slash at its start that it may have been written without. -/
def rooted (path : List Char) : List Char :=
  if path.head? = some '/' then path else '/' :: path

/-- What a path adds to the mount above it. The root adds nothing. -/
def below (path : List Char) : List Char := if rooted path = ['/'] then [] else rooted path

theorem rooted_ne_nil (path : List Char) : rooted path ≠ [] := by
  unfold rooted
  split
  · rename_i slash
    intro empty
    rw [empty] at slash
    cases slash
  · exact List.cons_ne_nil _ _

theorem joinChars_of_slashes {base : List Char} (bare : trimSlashes base = []) (path : List Char) :
    joinChars base path = path := by
  unfold joinChars
  rw [bare]

theorem joinChars_of_mount {base : List Char} (mount : trimSlashes base ≠ []) (path : List Char) :
    joinChars base path = trimSlashes base ++ below path := by
  unfold joinChars
  split
  · contradiction
  · split
    · simp [below, rooted]
    · simp [below, rooted]
    · rename_i rest notRoot
      have longer : rest ≠ [] := fun empty => notRoot (by rw [empty])
      simp [below, rooted, longer]
    · rename_i notEmpty notRoot notRooted
      have bare : path.head? ≠ some '/' := by
        cases path with
        | nil => simp
        | cons c rest => exact fun slash => notRooted rest (by rw [Option.some.inj slash])
      have nonempty : path ≠ [] := notEmpty
      simp [below, rooted, bare, nonempty]

theorem rooted_eq_of_below_eq {p q : List Char} (same : below p = below q) :
    rooted p = rooted q := by
  unfold below at same
  split at same
  · rename_i root
    split at same
    · rename_i root'
      rw [root, root']
    · exact absurd same.symm (rooted_ne_nil q)
  · split at same
    · exact absurd same (rooted_ne_nil p)
    · exact same

/-! ## Two spellings of one path -/

/-- The second path is the first with the slash at its start that it lacks. -/
def Respelled (p q : String) : Prop := p.toList.head? ≠ some '/' ∧ q.toList = '/' :: p.toList

instance (p q : String) : Decidable (Respelled p q) := inferInstanceAs (Decidable (_ ∧ _))

theorem Respelled.rooted_eq {p q : String} (h : Respelled p q) :
    rooted p.toList = rooted q.toList := by
  unfold rooted
  rw [if_neg h.1, h.2]
  rfl

theorem rooted_eq_rooted_iff {p q : String} :
    rooted p.toList = rooted q.toList ↔ p = q ∨ Respelled p q ∨ Respelled q p := by
  constructor
  · intro same
    unfold rooted at same
    split at same
    · split at same
      · exact .inl (String.toList_inj.1 same)
      · rename_i lacks
        exact .inr (.inr ⟨lacks, same⟩)
    · rename_i lacks
      split at same
      · exact .inr (.inl ⟨lacks, same.symm⟩)
      · exact .inl (String.toList_inj.1 (List.tail_eq_of_cons_eq same))
  · rintro (rfl | respelled | respelled)
    · rfl
    · exact respelled.rooted_eq
    · exact respelled.rooted_eq.symm

/-! ## Joined paths -/

/-- A mount of slashes alone, or an empty one. -/
def OnlySlashes (base : String) : Prop := ∀ c ∈ base.toList, c = '/'

instance (base : String) : Decidable (OnlySlashes base) := List.decidableBAll _ base.toList

theorem trimSlashes_eq_nil_iff {base : String} :
    trimSlashes base.toList = [] ↔ OnlySlashes base := by
  have trimmed : trimSlashes base.toList = base.toList.rdropWhile (· = '/') := rfl
  rw [trimmed, List.rdropWhile_eq_nil_iff]
  simp [OnlySlashes]

theorem join_of_onlySlashes {base : String} (bare : OnlySlashes base) (path : String) :
    join base path = path := by
  unfold join
  rw [joinChars_of_slashes (trimSlashes_eq_nil_iff.2 bare), String.ofList_toList]

/-- Two paths are the same below a mount: they are one path, or, so far as the mount lets spellings
count, two spellings of it. -/
def Shared (base p q : String) : Prop :=
  p = q ∨ ¬ OnlySlashes base ∧ (Respelled p q ∨ Respelled q p)

instance (base p q : String) : Decidable (Shared base p q) :=
  inferInstanceAs (Decidable (_ ∨ _))

/-- **Which paths come to the same below a mount**: below slashes alone none do, and below any other
mount two spellings of one path. -/
theorem join_eq_join_iff (base p q : String) : join base p = join base q ↔ Shared base p q := by
  by_cases bare : OnlySlashes base
  · rw [join_of_onlySlashes bare, join_of_onlySlashes bare]
    simp [Shared, bare]
  · have mount : trimSlashes base.toList ≠ [] := fun empty => bare (trimSlashes_eq_nil_iff.1 empty)
    have same : join base p = join base q ↔ below p.toList = below q.toList := by
      unfold join
      rw [joinChars_of_mount mount, joinChars_of_mount mount, String.ofList_inj,
        List.append_cancel_left_eq]
    rw [same]
    constructor
    · intro alike
      exact (rooted_eq_rooted_iff.1 (rooted_eq_of_below_eq alike)).imp id fun respelled =>
        ⟨bare, respelled⟩
    · intro alike
      have rooted := rooted_eq_rooted_iff.2 (alike.imp id And.right)
      unfold below
      rw [rooted]

/-! ## Mounts below mounts -/

theorem trimSlashes_append (front back : List Char) :
    trimSlashes (front ++ back)
      = if trimSlashes back = [] then trimSlashes front else front ++ trimSlashes back := by
  unfold trimSlashes
  rw [List.reverse_append, List.dropWhile_append]
  by_cases bare : back.reverse.dropWhile (· = '/') = []
  · simp [bare]
  · simp [bare]

theorem trimSlashes_trimSlashes (path : List Char) :
    trimSlashes (trimSlashes path) = trimSlashes path :=
  List.rdropWhile_idempotent _ path

/-- Where something is left of a path, its start is. -/
theorem head?_trimSlashes {path : List Char} (left : trimSlashes path ≠ []) :
    (trimSlashes path).head? = path.head? := by
  obtain ⟨slashes, split⟩ : trimSlashes path <+: path := List.rdropWhile_prefix _ path
  rw [← List.head?_append_of_ne_nil _ left, split]

theorem rooted_append {path : List Char} (some : path ≠ []) (rest : List Char) :
    rooted (path ++ rest) = rooted path ++ rest := by
  unfold rooted
  rw [List.head?_append_of_ne_nil path some]
  split <;> rfl

theorem trimSlashes_rooted {path : List Char} (left : trimSlashes path ≠ []) :
    trimSlashes (rooted path) = rooted (trimSlashes path) := by
  unfold rooted
  rw [head?_trimSlashes left]
  split
  · rfl
  · rw [← List.singleton_append, trimSlashes_append, if_neg left]
    rfl

/-- A path of more than slashes adds itself to the mount above it. -/
theorem below_eq_rooted {path : List Char} (left : trimSlashes path ≠ []) :
    below path = rooted path := by
  unfold below
  refine if_neg fun root => ?_
  have gone := trimSlashes_rooted left
  rw [root] at gone
  exact rooted_ne_nil _ gone.symm

theorem trimSlashes_below_of_slashes {path : List Char} (bare : trimSlashes path = []) :
    trimSlashes (below path) = [] := by
  unfold below
  split
  · rfl
  · unfold rooted
    split
    · exact bare
    · rw [← List.singleton_append, trimSlashes_append, if_pos bare]
      rfl

theorem trimSlashes_joinChars {base : List Char} (mount : trimSlashes base ≠ [])
    (path : List Char) :
    trimSlashes (joinChars base path) = trimSlashes base ++ trimSlashes (below path) := by
  rw [joinChars_of_mount mount, trimSlashes_append]
  split
  · rename_i bare
    rw [bare, trimSlashes_trimSlashes, List.append_nil]
  · rfl

/-- What a joined path adds to the mount above it is what its parts add. -/
theorem below_joinChars (base path : List Char) :
    below (joinChars base path) = trimSlashes (below base) ++ below path := by
  by_cases bare : trimSlashes base = []
  · rw [joinChars_of_slashes bare, trimSlashes_below_of_slashes bare, List.nil_append]
  · have left : trimSlashes (joinChars base path) ≠ [] := by
      rw [trimSlashes_joinChars bare]
      exact List.append_ne_nil_of_left_ne_nil bare _
    rw [below_eq_rooted left, joinChars_of_mount bare, rooted_append bare, below_eq_rooted bare,
      trimSlashes_rooted bare]

theorem joinChars_joinChars (a b c : List Char) :
    joinChars a (joinChars b c) = joinChars (joinChars a b) c := by
  by_cases bare : trimSlashes a = []
  · rw [joinChars_of_slashes bare, joinChars_of_slashes bare]
  · have outer := trimSlashes_joinChars bare b
    have mount : trimSlashes (joinChars a b) ≠ [] := by
      rw [outer]
      exact List.append_ne_nil_of_left_ne_nil bare _
    rw [joinChars_of_mount bare, joinChars_of_mount mount, below_joinChars, outer,
      List.append_assoc]

theorem join_join (a b c : String) : join a (join b c) = join (join a b) c := by
  unfold join
  rw [String.toList_ofList, String.toList_ofList, joinChars_joinChars]

/-- Of joined paths only slashes are left if there was nothing else in either. -/
theorem onlySlashes_join {a b : String} :
    OnlySlashes (join a b) ↔ OnlySlashes a ∧ OnlySlashes b := by
  by_cases bare : OnlySlashes a
  · rw [join_of_onlySlashes bare]
    simp [bare]
  · have mount : trimSlashes a.toList ≠ [] := fun empty => bare (trimSlashes_eq_nil_iff.1 empty)
    have left : trimSlashes (join a b).toList ≠ [] := by
      unfold join
      rw [String.toList_ofList, trimSlashes_joinChars mount]
      exact List.append_ne_nil_of_left_ne_nil mount _
    rw [← trimSlashes_eq_nil_iff]
    simp [left, bare]

/-- **A route below several mounts has one path**, whether the mounts are joined from the outside in
or from the inside out, whatever slashes they come with. -/
theorem join_nested :
    (∀ a b c, join a (join b c) = join (join a b) c) ∧
      ∀ (mounts : List String) (route : String),
        mounts.foldr join route = join (mounts.foldl join "") route := by
  refine ⟨join_join, fun mounts route => ?_⟩
  induction mounts using List.reverseRecOn generalizing route with
  | nil => exact (join_of_onlySlashes (trimSlashes_eq_nil_iff.1 rfl) route).symm
  | append_singleton mounts last ih =>
    rw [List.foldr_append, List.foldl_append, ih]
    exact join_join _ last route

end RequestParams.Path
