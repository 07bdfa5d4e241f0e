import Mathlib.Data.List.Infix

/-!
# `std::filesystem::path` on POSIX

`ConfigProvider::Init` builds its directories with `operator/=`. On POSIX no path has a
root name, and a path has a root directory exactly when it starts with `/`, so
[fs.path.append] comes down to two cases: an absolute right side replaces the whole
path, and a relative one is appended after a separator, which is added only when the
left side has a filename (`append_of_isAbsolute`, `native_append_of_not_isAbsolute`).

Where a directory lies is a matter of its filenames, not of its pathname: `a/b/..` names
the directory `a`. `normalNames` gives the filenames of `lexically_normal()`
[fs.path.generic], which is where the directory resolves when none of its filenames is a
symbolic link, and `LexicallyWithin` compares two paths by them. Appending a relative path
appends its filenames (`names_append`), so the normal form of a join is the normal form of
the left side, continued over the filenames of the right (`normalNames_append`).
-/

namespace Ilogtail.Cpp

/-- A `std::filesystem::path` on POSIX, by its native pathname. -/
structure Path where
  native : List Char
deriving DecidableEq, Repr

namespace Path

/-- `path(s)`: the path whose native pathname is `s`. -/
def ofString (s : String) : Path := ⟨s.toList⟩

/-- `is_absolute()`: on POSIX, having a root directory, that is starting with `/`. -/
def isAbsolute (p : Path) : Bool := p.native.head? == some '/'

/-- `has_filename()`: the last element is not empty. It is empty for the empty path and for
a path that ends with `/`. -/
def hasFilename (p : Path) : Bool :=
  match p.native.getLast? with
  | none => false
  | some last => last != '/'

/-- `operator/=(q)`, [fs.path.append]: an absolute `q` replaces the path; otherwise
`preferred_separator` is added when the path has a filename, and `q` is appended. -/
def append (p q : Path) : Path :=
  if q.isAbsolute then q
  else ⟨(if p.hasFilename then p.native ++ ['/'] else p.native) ++ q.native⟩

theorem append_of_isAbsolute {q : Path} (p : Path) (absolute : q.isAbsolute) : p.append q = q :=
  if_pos absolute

theorem native_append_of_not_isAbsolute {q : Path} (p : Path) (relative : ¬q.isAbsolute) :
    (p.append q).native = (if p.hasFilename then p.native ++ ['/'] else p.native) ++ q.native := by
  rw [append, if_neg relative]

/-- Appending a relative path with a filename gives a path with a filename. -/
theorem hasFilename_append {q : Path} (p : Path) (relative : ¬q.isAbsolute) (named : q.hasFilename) :
    (p.append q).hasFilename := by
  have nonempty : q.native ≠ [] := fun empty => by simp [hasFilename, empty] at named
  unfold hasFilename at named ⊢
  rw [native_append_of_not_isAbsolute p relative, List.getLast?_append_of_ne_nil _ nonempty]
  exact named

/-- `p.native` splits at a separator into what comes before and after it. -/
theorem splitOnP_append_slash (xs ys : List Char) :
    (xs ++ '/' :: ys).splitOnP (· == '/') = xs.splitOnP (· == '/') ++ ys.splitOnP (· == '/') := by
  induction xs with
  | nil => simp only [List.nil_append, List.splitOnP_cons, List.splitOnP_nil, beq_self_eq_true,
      ite_true, List.singleton_append]
  | cons x xs ih =>
      rw [List.cons_append, List.splitOnP_cons, List.splitOnP_cons, ih]
      split_ifs
      · rfl
      · obtain ⟨first, rest, split⟩ := List.exists_cons_of_ne_nil (List.splitOnP_ne_nil _ xs)
        rw [split]
        rfl

/-- The filenames of the path in order: its elements without the root directory, the
empty filenames that repeated and trailing separators leave, and the dot filenames. -/
def names (p : Path) : List (List Char) :=
  (p.native.splitOnP (· == '/')).filter fun name => name != [] && name != ['.']

/-- One filename of `lexically_normal()`: a dot-dot filename removes the filename before it
when that is not a dot-dot filename, and is dropped at the root directory of an absolute
path; every other filename is kept. -/
def normalStep (absolute : Bool) (normal : List (List Char)) (name : List Char) :
    List (List Char) :=
  if name = ['.', '.'] then
    match normal.getLast? with
    | some last => if last = ['.', '.'] then normal ++ [name] else normal.dropLast
    | none => if absolute then [] else [name]
  else normal ++ [name]

/-- The filenames of `lexically_normal()`. -/
def normalNames (p : Path) : List (List Char) := p.names.foldl (normalStep p.isAbsolute) []

/-- `inner` lies in `outer` once both are lexically normal: both are absolute or both
relative, and the filenames of `outer` begin those of `inner`. -/
def LexicallyWithin (inner outer : Path) : Prop :=
  inner.isAbsolute = outer.isAbsolute ∧ outer.normalNames <+: inner.normalNames

instance (inner outer : Path) : Decidable (inner.LexicallyWithin outer) :=
  inferInstanceAs (Decidable (_ ∧ _))

theorem normalStep_of_ne {name : List Char} (absolute : Bool) (normal : List (List Char))
    (notParent : name ≠ ['.', '.']) : normalStep absolute normal name = normal ++ [name] :=
  if_neg notParent

/-- A dot-dot filename removes the filename before it, unless that is dot-dot too. -/
theorem normalStep_parent {last : List Char} (absolute : Bool) (normal : List (List Char))
    (notParent : last ≠ ['.', '.']) : normalStep absolute (normal ++ [last]) ['.', '.'] = normal := by
  simp only [normalStep, List.getLast?_concat, if_neg notParent, List.dropLast_concat, ite_true]

/-- Filenames with no dot-dot among them stay as they are. -/
theorem foldl_normalStep_of_not_mem {names : List (List Char)} (absolute : Bool)
    (normal : List (List Char)) (noParent : ['.', '.'] ∉ names) :
    names.foldl (normalStep absolute) normal = normal ++ names := by
  induction names generalizing normal with
  | nil => exact (List.append_nil _).symm
  | cons name rest ih =>
      rw [List.mem_cons, not_or] at noParent
      rw [List.foldl_cons, normalStep_of_ne _ _ (Ne.symm noParent.1), ih _ noParent.2,
        List.append_assoc, List.singleton_append]

/-- A path without a filename is empty or ends with a separator. -/
theorem native_of_not_hasFilename {p : Path} (unnamed : ¬p.hasFilename) :
    p.native = [] ∨ ∃ init, p.native = init ++ ['/'] := by
  unfold hasFilename at unnamed
  rcases last : p.native.getLast? with _ | last
  · exact .inl (List.getLast?_eq_none_iff.mp last)
  · rw [last, bne_iff_ne, not_not] at unnamed
    exact .inr ⟨p.native.dropLast, (List.dropLast_append_getLast? _ (unnamed ▸ last)).symm⟩

/-- Appending a relative path appends its filenames. -/
theorem names_append {q : Path} (p : Path) (relative : ¬q.isAbsolute) :
    (p.append q).names = p.names ++ q.names := by
  unfold names
  rw [native_append_of_not_isAbsolute p relative]
  split_ifs with named
  · rw [List.append_assoc, List.singleton_append, splitOnP_append_slash, List.filter_append]
  · rcases native_of_not_hasFilename named with empty | ⟨init, ends⟩
    · rw [empty]
      rfl
    · rw [ends, List.append_assoc, List.singleton_append, splitOnP_append_slash,
        splitOnP_append_slash, List.filter_append, List.filter_append, List.splitOnP_nil,
        List.filter_cons_of_neg (by decide), List.filter_nil, List.append_nil]

/-- Appending a relative path keeps the path absolute or relative. -/
theorem isAbsolute_append {q : Path} (p : Path) (relative : ¬q.isAbsolute) :
    (p.append q).isAbsolute = p.isAbsolute := by
  unfold isAbsolute at relative ⊢
  rw [native_append_of_not_isAbsolute p relative]
  rcases native : p.native with _ | ⟨c, cs⟩
  · rw [hasFilename, native]
    simpa using relative
  · split_ifs <;> rfl

/-- The normal form of a join with a relative path: the normal form of the path, continued
over the filenames appended. -/
theorem normalNames_append {q : Path} (p : Path) (relative : ¬q.isAbsolute) :
    (p.append q).normalNames = q.names.foldl (normalStep p.isAbsolute) p.normalNames := by
  rw [normalNames, normalNames, names_append p relative, isAbsolute_append p relative,
    List.foldl_append]

end Path

end Ilogtail.Cpp
