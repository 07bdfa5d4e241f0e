import Mathlib.Data.List.DropRight

/-!
# Go byte slices

The syslog parser reads a `[]byte` buffer and builds Go strings from slices of it.
Both are sequences of bytes here. An index expression `buff[i]` either yields a byte
or stops the program with a run-time panic; `index` models that choice, so a read
that no bound check guards is visible in the type of the function that makes it.
Reads the code guards by an explicit comparison are written with their bound proof
instead and cannot fail.
-/

namespace Ilogtail.Go

/-- A Go `[]byte` or `string`: a finite sequence of bytes. -/
abbrev Bytes := List UInt8

/-- The bytes of an ASCII string literal, as `[]byte("...")` gives them. -/
def bytesOf (text : String) : Bytes := text.toList.map Char.toUInt8

/-- The run-time panic `index out of range [index] with length length`. -/
structure IndexOutOfRange where
  index : Nat
  length : Nat
deriving DecidableEq, Repr

/-- `buff[i]` as Go evaluates it: the byte at `i`, or the panic when `i ≥ len(buff)`. -/
def index (buff : Bytes) (i : Nat) : Except IndexOutOfRange UInt8 :=
  if h : i < buff.length then .ok (buff.get ⟨i, h⟩) else .error ⟨i, buff.length⟩

/-- `buff[low:high]`. Every slice the parser takes is preceded by a check that
`low ≤ high ≤ len(buff)`, so this is the sub-sequence and never panics. -/
def slice (buff : Bytes) (low high : Nat) : Bytes := (buff.take high).drop low

/-- `bytes.Trim(s, cutset)` for an ASCII `cutset`: `s` without its leading and its
trailing bytes that occur in `cutset`. -/
def trim (s cutset : Bytes) : Bytes :=
  (s.dropWhile (fun b => decide (b ∈ cutset))).rdropWhile (fun b => decide (b ∈ cutset))

theorem index_of_lt {buff : Bytes} {i : Nat} (inBounds : i < buff.length) :
    index buff i = .ok (buff.get ⟨i, inBounds⟩) := by
  simp [index, inBounds]

theorem index_of_le {buff : Bytes} {i : Nat} (outOfBounds : buff.length ≤ i) :
    index buff i = .error ⟨i, buff.length⟩ := by
  simp [index, Nat.not_lt.mpr outOfBounds]

@[simp] theorem slice_length (buff : Bytes) (low high : Nat) :
    (slice buff low high).length = min high buff.length - low := by
  simp [slice]

/-- A slice to the end of the buffer is the buffer without its first `low` bytes. -/
theorem slice_to_length (buff : Bytes) (low : Nat) :
    slice buff low buff.length = buff.drop low := by
  simp [slice]

/-- Trimming never lengthens a slice. -/
theorem trim_length_le (s cutset : Bytes) : (trim s cutset).length ≤ s.length :=
  calc (trim s cutset).length
      ≤ (s.dropWhile (fun b => decide (b ∈ cutset))).length :=
        (List.rdropWhile_prefix _ _).length_le
    _ ≤ s.length := (List.dropWhile_suffix _).length_le

/-- A sequence that neither starts nor ends with a byte of `cutset` is its own trim. -/
theorem trim_eq_self {s cutset : Bytes} (head : ∀ b ∈ s.head?, b ∉ cutset)
    (last : ∀ b ∈ s.getLast?, b ∉ cutset) : trim s cutset = s := by
  cases s with
  | nil => rfl
  | cons first rest =>
      have kept : (first :: rest).dropWhile (fun b => decide (b ∈ cutset)) = first :: rest :=
        List.dropWhile_cons_of_neg (by simpa using head first rfl)
      rw [trim, kept, List.rdropWhile_eq_self_iff]
      intro nonempty
      simpa using last _ (List.getLast?_eq_getLast _ nonempty)

/-- A leading byte of `cutset` is trimmed away. -/
theorem trim_cons_of_mem {b : UInt8} {s cutset : Bytes} (cut : b ∈ cutset) :
    trim (b :: s) cutset = trim s cutset := by
  simp [trim, List.dropWhile_cons_of_pos, cut]

/-- A trailing byte of `cutset` is trimmed away. -/
theorem trim_concat_of_mem {b : UInt8} {s cutset : Bytes} (cut : b ∈ cutset) :
    trim (s ++ [b]) cutset = trim s cutset := by
  unfold trim
  rw [List.dropWhile_append]
  split_ifs with allCut
  · rw [List.dropWhile_cons_of_pos (by simpa using cut), List.isEmpty_iff.mp allCut]
    rfl
  · rw [List.rdropWhile_concat_pos _ _ _ (by simpa using cut)]

/-- `bytes.Trim(" " + s, " ")` is `bytes.Trim(s, " ")`. -/
theorem trim_space_append (s : Bytes) :
    trim (bytesOf " " ++ s) (bytesOf " ") = trim s (bytesOf " ") :=
  trim_cons_of_mem (List.mem_singleton_self _)

/-- `bytes.Trim(s + " ", " ")` is `bytes.Trim(s, " ")`. -/
theorem trim_append_space (s : Bytes) :
    trim (s ++ bytesOf " ") (bytesOf " ") = trim s (bytesOf " ") :=
  trim_concat_of_mem (List.mem_singleton_self _)

/-- What `bytes.Trim` returns does not start with a byte of `cutset`. -/
theorem trim_head_not_mem {s cutset : Bytes} : ∀ b ∈ (trim s cutset).head?, b ∉ cutset := by
  intro b head
  unfold trim at head
  have nonempty : (s.dropWhile (fun b => decide (b ∈ cutset))).rdropWhile
      (fun b => decide (b ∈ cutset)) ≠ [] := fun empty => by simp [empty] at head
  obtain ⟨rest, restEq⟩ := List.rdropWhile_prefix (fun b => decide (b ∈ cutset))
    (s.dropWhile fun b => decide (b ∈ cutset))
  have first := List.head?_dropWhile_not (fun b => decide (b ∈ cutset)) s
  rw [← restEq, List.head?_append_of_ne_nil _ nonempty, Option.mem_def.mp head] at first
  simpa using first

/-- What `bytes.Trim` returns does not end with a byte of `cutset`. -/
theorem trim_getLast_not_mem {s cutset : Bytes} : ∀ b ∈ (trim s cutset).getLast?, b ∉ cutset := by
  intro b last
  have nonempty : trim s cutset ≠ [] := fun empty => by simp [empty] at last
  rw [List.getLast?_eq_getLast _ nonempty, Option.mem_some_iff] at last
  have final : ¬decide ((trim s cutset).getLast nonempty ∈ cutset) = true :=
    List.rdropWhile_last_not (fun b => decide (b ∈ cutset)) _ nonempty
  rw [last] at final
  simpa using final

end Ilogtail.Go
