import GpuArrayBlas.Blas.Resolve
import Mathlib.Tactic.LinearCombination

/-!
# `is_last_2d_contiguous` and the leading dimensions of the batched product

`GpuArray_rgemmBatch_3d` classifies each rank-3 operand by its last two axes
with `is_last_2d_contiguous`: `1` for row-major, `2` for column-major, `0` for
neither, and derives a leading dimension from the class (`batchLd`).

`trailingIn_ldCovers_of_isLast2d` is what the classification gets right, for
every header whose flags tell no lie: in the order of its class and with the
derived leading dimension, element `(r, c)` of every slice sits where the
strides put it, and the leading dimension covers its axis when no two elements
of a slice share an address.  What it gets wrong is the rest.  The class `2` only
checks that the row stride is one element, so two trailing strides of one
element each pass as column-major with a leading dimension of 1
(`isLast2dContiguous_overlapping`).  In the other direction, an axis of extent 1
whose stride is not positive makes the class `0` although the slice is a plain
row-major matrix (the `example` that follows it), which only costs a copy.
-/

set_option autoImplicit false

namespace GpuArrayBlas

/-- `is_last_2d_contiguous(a)`:
```
if (GpuArray_IS_C_CONTIGUOUS(a)) return 1;
if (a->strides[a->nd - 2] <= 0 || a->strides[a->nd - 1] <= 0) return 0;
if (a->strides[a->nd - 2] == size) return 2;
if (a->strides[a->nd - 1] == size) return 1;
return 0;
``` -/
def isLast2dContiguous (a : GpuArray) : Nat :=
  if a.flags.cContiguous then 1
  else if a.stride (a.nd - 2) ≤ 0 ∨ a.stride (a.nd - 1) ≤ 0 then 0
  else if a.stride (a.nd - 2) = a.itemsize then 2
  else if a.stride (a.nd - 1) = a.itemsize then 1
  else 0

/-- The order a class stands for: `2` column-major, any other row-major. -/
def classOrder (c : Nat) : CbOrder := if c = 2 then .fortran else .c

/-- The leading dimension `GpuArray_rgemmBatch_3d` derives for an operand `P`
of class `c`, with `size_t` arithmetic:
```
c == 2: ld = P->dimensions[2] > 1 ? P->strides[2] / elsize : P->dimensions[1];
c == 1: ld = P->dimensions[1] > 1 ? P->strides[1] / elsize : P->dimensions[2];
``` -/
def batchLd (c : Nat) (P : GpuArray) (e : Nat) : Nat :=
  if c = 2 then (if P.dim 2 > 1 then divSU (P.stride 2) e else P.dim 1)
  else if P.dim 1 > 1 then divSU (P.stride 1) e else P.dim 2

/-- The last two axes of `P` are stored in order `o` with leading dimension
`ld`, in elements of `e` bytes: element `(r, c)` of every slice sits
`cbIndex o ld r c` elements after the slice's first. -/
def TrailingIn (P : GpuArray) (e : Nat) (o : CbOrder) (ld : Nat) : Prop :=
  ∀ r < P.dim 1, ∀ c < P.dim 2,
    ((e * cbIndex o ld r c : Nat) : Int) = r * P.stride 1 + c * P.stride 2

instance (P : GpuArray) (e : Nat) (o : CbOrder) (ld : Nat) : Decidable (TrailingIn P e o ld) :=
  inferInstanceAs (Decidable (∀ r < P.dim 1, ∀ c < P.dim 2, _))

/-! ## What the classification gets right -/

/-- A unit stride and a stride of `ld` elements (or an axis that only has
index 0) put `(u, w)` at `u + w * ld`. -/
theorem cast_mul_add_mul {e ld u w : Nat} {su sw : Int} (hu : su = e ∨ u = 0)
    (hw : ((e * ld : Nat) : Int) = sw ∨ w = 0) :
    ((e * (u + w * ld) : Nat) : Int) = u * su + w * sw := by
  rcases hu with rfl | rfl <;> rcases hw with hw | rfl
  · rw [← hw]; push_cast; ring
  · push_cast; ring
  · rw [← hw]; push_cast; ring
  · push_cast; ring

section Classes

variable {P : GpuArray}

/-- Class `1` from a sound `GA_C_CONTIGUOUS`. -/
theorem trailingIn_of_isCContiguous (h3 : P.nd = 3) (hC : P.isCContiguous = true) :
    TrailingIn P P.itemsize .c (batchLd 1 P P.itemsize) := fun r hr c hc => by
  obtain ⟨h2, h1⟩ := GpuArray.isCContiguous_three h3 hC
  have hld : ((P.itemsize * batchLd 1 P P.itemsize : Nat) : Int) = P.stride 1 ∨ r = 0 := by
    rw [batchLd, if_neg (by decide)]
    split_ifs with hd
    · rcases h1 with h1 | h1
      · refine .inl (mul_divSU_of_dvd ?_ (by rw [h1]; exact Int.natCast_nonneg _)
          (P.stride_ssize 1).2)
        rw [h1]
        exact Int.natCast_dvd_natCast.mpr (Nat.dvd_mul_right _ _)
      · omega
    · right; omega
  have hu : P.stride 2 = P.itemsize ∨ c = 0 := h2.imp_right fun h => by omega
  rw [cbIndex, Nat.add_comm, cast_mul_add_mul hu hld]
  ring

/-- Class `2` from the strides: a row stride of one element. -/
theorem trailingIn_fortran (hs1 : P.stride 1 = P.itemsize) (hs2 : 0 < P.stride 2)
    (hd : (P.itemsize : Int) ∣ P.stride 2) :
    TrailingIn P P.itemsize .fortran (batchLd 2 P P.itemsize) := fun r _ c hc => by
  have hld : ((P.itemsize * batchLd 2 P P.itemsize : Nat) : Int) = P.stride 2 ∨ c = 0 := by
    rw [batchLd, if_pos rfl]
    split_ifs with hd2
    · exact .inl (mul_divSU_of_dvd hd hs2.le (P.stride_ssize 2).2)
    · right; omega
  rw [cbIndex, cast_mul_add_mul (.inl hs1) hld]

/-- Class `1` from the strides: a column stride of one element. -/
theorem trailingIn_c (hs2 : P.stride 2 = P.itemsize) (hs1 : 0 < P.stride 1)
    (hd : (P.itemsize : Int) ∣ P.stride 1) :
    TrailingIn P P.itemsize .c (batchLd 1 P P.itemsize) := fun r hr c _ => by
  have hld : ((P.itemsize * batchLd 1 P P.itemsize : Nat) : Int) = P.stride 1 ∨ r = 0 := by
    rw [batchLd, if_neg (by decide)]
    split_ifs with hd1
    · exact .inl (mul_divSU_of_dvd hd hs1.le (P.stride_ssize 1).2)
    · right; omega
  rw [cbIndex, Nat.add_comm, cast_mul_add_mul (.inl hs2) hld]
  ring

/-- Every nonzero class is right about addresses: in the order of its class
and with the derived leading dimension, element `(r, c)` of every slice of a
rank-3 operand whose flags tell no lie sits where the strides put it. -/
theorem trailingIn_of_isLast2d (h3 : P.nd = 3) (hP : P.FlagsSound) (ha : P.flags.aligned = true)
    (hc : isLast2dContiguous P ≠ 0) :
    TrailingIn P P.itemsize (classOrder (isLast2dContiguous P))
      (batchLd (isLast2dContiguous P) P P.itemsize) := by
  have hal := hP.aligned ha
  have hrow : P.nd - 2 = 1 := by omega
  have hcol : P.nd - 1 = 2 := by omega
  unfold isLast2dContiguous at hc ⊢
  rw [hrow, hcol] at hc ⊢
  split_ifs at hc ⊢ with hC hle h2 h1
  · exact trailingIn_of_isCContiguous h3 (hP.c hC)
  · exact absurd rfl hc
  · exact trailingIn_fortran h2 (by omega) (hal.stride 2)
  · exact trailingIn_c h1 (by omega) (hal.stride 1)
  · exact absurd rfl hc

/-- The class is `0`, `1` or `2`. -/
theorem isLast2dContiguous_le_two (P : GpuArray) : isLast2dContiguous P ≤ 2 := by
  unfold isLast2dContiguous
  split_ifs <;> omega

/-- The trailing elements of `P` are at distinct addresses. -/
def TrailingInjective (P : GpuArray) : Prop :=
  ∀ x ∈ cells2 (P.dim 1) (P.dim 2), ∀ y ∈ cells2 (P.dim 1) (P.dim 2),
    (x.1 : Int) * P.stride 1 + x.2 * P.stride 2 = y.1 * P.stride 1 + y.2 * P.stride 2 → x = y

instance (P : GpuArray) : Decidable (TrailingInjective P) :=
  inferInstanceAs (Decidable (∀ x ∈ cells2 (P.dim 1) (P.dim 2), ∀ y ∈ cells2 (P.dim 1) (P.dim 2), _))

/-- Column-major addressing of distinct elements, with a second column, puts
the columns at least a column apart. -/
theorem ldCovers_fortran {e ld : Nat} (ht : TrailingIn P e .fortran ld) (hinj : TrailingInjective P)
    (hw : 1 < P.dim 2) : LdCovers .fortran ld (P.dim 1) (P.dim 2) := by
  by_contra hlt
  simp only [LdCovers, not_le] at hlt
  have h1 := ht ld hlt 0 (by omega)
  have h2 := ht 0 (by omega) 1 hw
  simp only [cbIndex] at h1 h2
  push_cast at h1 h2
  have := hinj (ld, 0) (mem_cells2.mpr ⟨hlt, by omega⟩) (0, 1) (mem_cells2.mpr ⟨by omega, hw⟩)
    (by push_cast; linear_combination h2 - h1)
  simp at this

/-- Row-major addressing of distinct elements, with a second row, puts the
rows at least a row apart. -/
theorem ldCovers_c {e ld : Nat} (ht : TrailingIn P e .c ld) (hinj : TrailingInjective P)
    (hw : 1 < P.dim 1) : LdCovers .c ld (P.dim 1) (P.dim 2) := by
  by_contra hlt
  simp only [LdCovers, not_le] at hlt
  have h1 := ht 0 (by omega) ld hlt
  have h2 := ht 1 hw 0 (by omega)
  simp only [cbIndex] at h1 h2
  push_cast at h1 h2
  have := hinj (0, ld) (mem_cells2.mpr ⟨by omega, hlt⟩) (1, 0) (mem_cells2.mpr ⟨hw, by omega⟩)
    (by push_cast; linear_combination h2 - h1)
  simp at this

/-- What the classification and the leading dimension derived from it get
right: every nonzero class addresses each slice element where the strides put
it, and when no two elements of a slice share an address the leading dimension
covers the axis it spans. -/
theorem trailingIn_ldCovers_of_isLast2d (h3 : P.nd = 3) (hP : P.FlagsSound)
    (ha : P.flags.aligned = true) (hc : isLast2dContiguous P ≠ 0) :
    TrailingIn P P.itemsize (classOrder (isLast2dContiguous P))
      (batchLd (isLast2dContiguous P) P P.itemsize) ∧
    (TrailingInjective P → LdCovers (classOrder (isLast2dContiguous P))
      (batchLd (isLast2dContiguous P) P P.itemsize) (P.dim 1) (P.dim 2)) := by
  have ht := trailingIn_of_isLast2d h3 hP ha hc
  refine ⟨ht, fun hinj => ?_⟩
  have hle := isLast2dContiguous_le_two P
  generalize isLast2dContiguous P = c at ht hc hle ⊢
  obtain rfl | rfl : c = 1 ∨ c = 2 := by omega
  · by_cases hw : 1 < P.dim 1
    · exact ldCovers_c ht hinj hw
    · simp [classOrder, batchLd, LdCovers, hw]
  · by_cases hw : 1 < P.dim 2
    · exact ldCovers_fortran ht hinj hw
    · simp [classOrder, batchLd, LdCovers, hw]

/-- A `1 × 2 × 3` float array packed column-major. -/
def colMajor1x2x3 : GpuArray :=
  ⟨0, 0, 3, [1, 2, 3], [24, 4, 8], ⟨false, true, true⟩, .float, rfl, rfl, by decide⟩

theorem trailingIn_ldCovers_of_isLast2d_colMajor :
    isLast2dContiguous colMajor1x2x3 = 2 ∧ TrailingInjective colMajor1x2x3 ∧
      LdCovers (classOrder (isLast2dContiguous colMajor1x2x3))
        (batchLd (isLast2dContiguous colMajor1x2x3) colMajor1x2x3 colMajor1x2x3.itemsize)
        (colMajor1x2x3.dim 1) (colMajor1x2x3.dim 2) :=
  ⟨by decide, by decide,
    (trailingIn_ldCovers_of_isLast2d rfl (by decide) rfl (by decide)).2 (by decide)⟩

end Classes

/-! ## What the classification gets wrong -/

/-- A `1 × 3 × 3` float array whose trailing strides are both one element, so
that its slice's elements overlap. -/
def overlapping3x3 : GpuArray :=
  ⟨0, 0, 3, [1, 3, 3], [36, 4, 4], ⟨false, false, true⟩, .float, rfl, rfl, by decide⟩

/-- Flags set exactly as the strides earn them, an aligned header, and yet
class `2` with a leading dimension of 1 for a slice of 3 rows: the leading
dimension does not cover the rows, and elements `(1, 0)` and `(0, 1)` of the
slice are one element. -/
theorem isLast2dContiguous_overlapping :
    overlapping3x3.flags.cContiguous = overlapping3x3.isCContiguous ∧
    overlapping3x3.flags.fContiguous = overlapping3x3.isFContiguous ∧ overlapping3x3.IsAligned ∧
    isLast2dContiguous overlapping3x3 = 2 ∧ batchLd 2 overlapping3x3 4 = 1 ∧
    ¬LdCovers .fortran (batchLd 2 overlapping3x3 4) (overlapping3x3.dim 1)
      (overlapping3x3.dim 2) ∧
    overlapping3x3.elem [0, 1, 0] = overlapping3x3.elem [0, 0, 1] := by
  decide

/-- A `2 × 3 × 1` float array whose last axis, of extent 1, has stride 0. -/
def degenerate3x1 : GpuArray :=
  ⟨0, 0, 3, [2, 3, 1], [48, 4, 0], ⟨false, false, true⟩, .float, rfl, rfl, by decide⟩

/-- The other way round, kept as a regression: flags set exactly as the strides
earn them and an aligned header whose slices are plain row-major `3 × 1`
matrices with leading dimension 1, and yet class `0`, since the stride of the
axis of extent 1 is tested although no index ever uses it. -/
example :
    degenerate3x1.flags.cContiguous = degenerate3x1.isCContiguous ∧
    degenerate3x1.flags.fContiguous = degenerate3x1.isFContiguous ∧ degenerate3x1.IsAligned ∧
    isLast2dContiguous degenerate3x1 = 0 ∧ TrailingIn degenerate3x1 4 .c 1 ∧
    LdCovers .c 1 (degenerate3x1.dim 1) (degenerate3x1.dim 2) := by
  decide

end GpuArrayBlas
