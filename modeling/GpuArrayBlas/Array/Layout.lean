import GpuArrayBlas.Array.View
import Mathlib.Tactic.Ring
import Mathlib.Tactic.Linarith
import Mathlib.Data.List.GetD

/-!
# Where the flags put each element

The BLAS layer trusts three things about an operand it does not copy: the
contiguity flags, the alignment flag, and the strides of a copy it made.  This
module turns each into an address formula for headers of rank one, two and
three, so that the correctness modules never unfold `packedFrom` or `elem`:

* `elem_of_isFContiguous` / `elem_of_isCContiguous`: under a sound flag,
  element `(i, j)` of a matrix sits `i + j * dim 0` (resp. `i * dim 1 + j`)
  elements after element zero, also when an axis of extent 1 carries an
  arbitrary stride;
* `PackedCopy.*`: the strides of a fresh copy, and the flag it carries;
* `ssize_divSU_of_nonneg`: the C value of `strides[d] / elsize`, exact for a
  non-negative stride.
-/

set_option autoImplicit false

namespace GpuArrayBlas

/-! ## C's integer conversions -/

theorem sizeT_of_nonneg {x : Int} (h0 : 0 ≤ x) (h1 : x < 2 ^ 64) : (sizeT x : Int) = x := by
  rw [sizeT, Int.emod_eq_of_lt h0 h1, Int.toNat_of_nonneg h0]

theorem ssize_of_lt {u : Nat} (h : u < 2 ^ 63) : ssize u = u := if_pos h

/-- `elsize * (s / elsize)` gives back a non-negative stride that `elsize`
divides. -/
theorem mul_divSU_of_dvd {s : Int} {e : Nat} (hs : (e : Int) ∣ s) (h0 : 0 ≤ s) (h1 : s < 2 ^ 63) :
    ((e * divSU s e : Nat) : Int) = s := by
  have hs' : (sizeT s : Int) = s := sizeT_of_nonneg h0 (by linarith)
  have hd : e ∣ sizeT s := Int.natCast_dvd_natCast.mp (by rw [hs']; exact hs)
  rw [divSU, Nat.mul_div_cancel' hd, hs']

/-- `s / elsize` of a non-negative `ssize_t` stride is the integer quotient,
read back as `ssize_t`. -/
theorem ssize_divSU_of_nonneg {s : Int} (e : Nat) (h0 : 0 ≤ s) (h1 : s < 2 ^ 63) :
    ssize (divSU s e) = s / e := by
  have hs : (sizeT s : Int) = s := sizeT_of_nonneg h0 (by linarith)
  have hlt : divSU s e < 2 ^ 63 := by
    have : sizeT s < 2 ^ 63 := by omega
    exact lt_of_le_of_lt (Nat.div_le_self _ _) this
  rw [ssize_of_lt hlt, divSU, Int.natCast_div, hs]

namespace GpuArray

/-! ## Headers of rank one, two and three -/

theorem stride_ssize (a : GpuArray) (d : Nat) : -2 ^ 63 ≤ a.stride d ∧ a.stride d < 2 ^ 63 := by
  unfold stride
  by_cases hd : d < a.strides.length
  · rw [List.getD_eq_getElem _ _ hd]
    exact a.strides_ssize _ (List.getElem_mem hd)
  · rw [List.getD_eq_default _ _ (by omega)]
    norm_num

theorem strides_eq_one {a : GpuArray} (h : a.nd = 1) : a.strides = [a.stride 0] := by
  obtain ⟨s, hs⟩ := List.length_eq_one.mp (a.strides_length.trans h)
  simp [stride, hs]

theorem strides_eq_two {a : GpuArray} (h : a.nd = 2) : a.strides = [a.stride 0, a.stride 1] := by
  obtain ⟨s, t, hs⟩ := List.length_eq_two.mp (a.strides_length.trans h)
  simp [stride, hs]

theorem strides_eq_three {a : GpuArray} (h : a.nd = 3) :
    a.strides = [a.stride 0, a.stride 1, a.stride 2] := by
  obtain ⟨s, t, u, hs⟩ := List.length_eq_three.mp (a.strides_length.trans h)
  simp [stride, hs]

theorem dimensions_eq_one {a : GpuArray} (h : a.nd = 1) : a.dimensions = [a.dim 0] := by
  obtain ⟨d, hd⟩ := List.length_eq_one.mp (a.dimensions_length.trans h)
  simp [dim, hd]

theorem dimensions_eq_two {a : GpuArray} (h : a.nd = 2) : a.dimensions = [a.dim 0, a.dim 1] := by
  obtain ⟨d, d', hd⟩ := List.length_eq_two.mp (a.dimensions_length.trans h)
  simp [dim, hd]

theorem dimensions_eq_three {a : GpuArray} (h : a.nd = 3) :
    a.dimensions = [a.dim 0, a.dim 1, a.dim 2] := by
  obtain ⟨d, d', d'', hd⟩ := List.length_eq_three.mp (a.dimensions_length.trans h)
  simp [dim, hd]

theorem elem_one {a : GpuArray} (h : a.nd = 1) (i : Nat) :
    a.elem [i] = a.offset + i * a.stride 0 := by
  rw [elem, strides_eq_one h]
  simp

theorem elem_two {a : GpuArray} (h : a.nd = 2) (i j : Nat) :
    a.elem [i, j] = a.offset + i * a.stride 0 + j * a.stride 1 := by
  rw [elem, strides_eq_two h]
  simp [add_assoc]

theorem elem_three {a : GpuArray} (h : a.nd = 3) (b i j : Nat) :
    a.elem [b, i, j] = a.offset + b * a.stride 0 + i * a.stride 1 + j * a.stride 2 := by
  rw [elem, strides_eq_three h]
  simp [add_assoc]

theorem inRange_one {a : GpuArray} (h : a.nd = 1) {i : Nat} : a.InRange [i] ↔ i < a.dim 0 := by
  rw [InRange, dimensions_eq_one h]
  simp

theorem inRange_two {a : GpuArray} (h : a.nd = 2) {i j : Nat} :
    a.InRange [i, j] ↔ i < a.dim 0 ∧ j < a.dim 1 := by
  rw [InRange, dimensions_eq_two h]
  simp

theorem inRange_three {a : GpuArray} (h : a.nd = 3) {b i j : Nat} :
    a.InRange [b, i, j] ↔ b < a.dim 0 ∧ i < a.dim 1 ∧ j < a.dim 2 := by
  rw [InRange, dimensions_eq_three h]
  simp

/-- A logical index has one coordinate per axis. -/
theorem InRange.length {a : GpuArray} {idx : List Nat} (h : a.InRange idx) : idx.length = a.nd :=
  h.length_eq.trans a.dimensions_length

/-- A scalar has one logical element, the empty index, at its offset. -/
theorem inRange_zero {a : GpuArray} (h : a.nd = 0) {idx : List Nat} : a.InRange idx ↔ idx = [] := by
  rw [InRange, List.eq_nil_of_length_eq_zero (a.dimensions_length.trans h)]
  exact List.forall₂_nil_right_iff

theorem elem_nil (a : GpuArray) : a.elem [] = a.offset := by
  simp [elem]

/-! ## Alignment -/

theorem IsAligned.stride {a : GpuArray} (h : a.IsAligned) (d : Nat) :
    (a.itemsize : Int) ∣ a.stride d := by
  unfold GpuArray.stride
  by_cases hd : d < a.strides.length
  · rw [List.getD_eq_getElem _ _ hd]
    exact h.2 _ (List.getElem_mem hd)
  · rw [List.getD_eq_default _ _ (by omega)]
    exact dvd_zero _

/-- Element zero of an aligned header, in elements: the `offset / elsize` that
every kernel call receives. -/
theorem IsAligned.offset_eq {a : GpuArray} (h : a.IsAligned) :
    ((a.itemsize * (a.offset / a.itemsize) : Nat) : Int) = a.offset := by
  rw [Nat.mul_div_cancel' h.1]

/-! ## Contiguity of matrices -/

/-- One axis of a packed walk contributes `size * i` bytes, also when the axis
has extent 1 and an arbitrary stride. -/
theorem mul_stride_of_packed {s : Int} {size d i : Nat} (hs : s = size ∨ d = 1) (hi : i < d) :
    (i : Int) * s = size * i := by
  rcases hs with rfl | rfl
  · ring
  · obtain rfl : i = 0 := by omega
    simp

theorem isFContiguous_two {a : GpuArray} (h : a.nd = 2) :
    a.isFContiguous = true ↔ (a.stride 0 = a.itemsize ∨ a.dim 0 = 1) ∧
      (a.stride 1 = ((a.itemsize * a.dim 0 : Nat) : Int) ∨ a.dim 1 = 1) := by
  rw [isFContiguous, dimensions_eq_two h, strides_eq_two h]
  simp [packedFrom]

theorem isCContiguous_two {a : GpuArray} (h : a.nd = 2) :
    a.isCContiguous = true ↔ (a.stride 1 = a.itemsize ∨ a.dim 1 = 1) ∧
      (a.stride 0 = ((a.itemsize * a.dim 1 : Nat) : Int) ∨ a.dim 0 = 1) := by
  rw [isCContiguous, dimensions_eq_two h, strides_eq_two h]
  simp [packedFrom]

/-- Under a sound `GA_F_CONTIGUOUS`, element `(i, j)` sits `i + j * dim 0`
elements after element zero. -/
theorem elem_of_isFContiguous {a : GpuArray} (h : a.nd = 2) (hF : a.isFContiguous = true)
    {i j : Nat} (hi : i < a.dim 0) (hj : j < a.dim 1) :
    a.elem [i, j] = a.offset + ((a.itemsize * (i + j * a.dim 0) : Nat) : Int) := by
  obtain ⟨h0, h1⟩ := (isFContiguous_two h).mp hF
  rw [elem_two h, mul_stride_of_packed h0 hi, mul_stride_of_packed h1 hj]
  push_cast
  ring

/-- Under a sound `GA_C_CONTIGUOUS`, element `(i, j)` sits `i * dim 1 + j`
elements after element zero. -/
theorem elem_of_isCContiguous {a : GpuArray} (h : a.nd = 2) (hC : a.isCContiguous = true)
    {i j : Nat} (hi : i < a.dim 0) (hj : j < a.dim 1) :
    a.elem [i, j] = a.offset + ((a.itemsize * (i * a.dim 1 + j) : Nat) : Int) := by
  obtain ⟨h1, h0⟩ := (isCContiguous_two h).mp hC
  rw [elem_two h, mul_stride_of_packed h0 hi, mul_stride_of_packed h1 hj]
  push_cast
  ring

/-- The trailing two axes of a rank-3 header under a sound `GA_C_CONTIGUOUS`. -/
theorem isCContiguous_three {a : GpuArray} (h : a.nd = 3) (hC : a.isCContiguous = true) :
    (a.stride 2 = a.itemsize ∨ a.dim 2 = 1) ∧
      (a.stride 1 = ((a.itemsize * a.dim 2 : Nat) : Int) ∨ a.dim 1 = 1) := by
  rw [isCContiguous, dimensions_eq_three h, strides_eq_three h] at hC
  simp only [packedFrom, List.reverse_cons, List.reverse_nil, List.nil_append,
    List.cons_append, Bool.and_eq_true, Bool.or_eq_true, beq_iff_eq] at hC
  exact ⟨hC.1, hC.2.1⟩

end GpuArray

/-! ## Fresh copies -/

theorem packedFrom_packedStrides (size : Nat) (ds : List Nat) :
    GpuArray.packedFrom size ds (packedStrides size ds) = true := by
  induction ds generalizing size with
  | nil => rfl
  | cons d ds ih => simp [GpuArray.packedFrom, packedStrides, ih]

namespace PackedCopy

variable {src v : GpuArray} {order : Order}

theorem itemsize_eq (hc : PackedCopy src order v) : v.itemsize = src.itemsize := by
  rw [GpuArray.itemsize, hc.typecode, GpuArray.itemsize]

theorem dim_eq (hc : PackedCopy src order v) (d : Nat) : v.dim d = src.dim d := by
  rw [GpuArray.dim, hc.dimensions, GpuArray.dim]

/-- A copy in column-major order carries `GA_F_CONTIGUOUS`. -/
theorem fContiguous_true (hc : PackedCopy src .f v) : v.flags.fContiguous = true := by
  have hs : v.strides = packedStrides v.itemsize v.dimensions := hc.packed
  rw [hc.fContiguous, GpuArray.isFContiguous, hs, packedFrom_packedStrides]

/-- The one stride of a packed vector is the element size, in either order. -/
theorem stride_of_nd_one (hc : PackedCopy src order v) (h : src.nd = 1) :
    v.stride 0 = v.itemsize := by
  have hd := GpuArray.dimensions_eq_one (hc.nd.trans h)
  have hp := hc.packed
  cases order <;> simp only [PackedIn, hd] at hp <;>
    first
    | (rcases hp with hp | hp <;> simp [GpuArray.stride, hp, packedStrides])
    | simp [GpuArray.stride, hp, packedStrides]

/-- A row-major copy is packed row-major. -/
theorem isCContiguous_of_c (hc : PackedCopy src .c v) : v.isCContiguous = true := by
  have hp : v.strides = (packedStrides v.itemsize v.dimensions.reverse).reverse := hc.packed
  rw [GpuArray.isCContiguous, hp, List.reverse_reverse]
  exact packedFrom_packedStrides _ _

/-- The batch stride of a row-major copy of rank 3: a whole slice. -/
theorem stride_zero_of_c_three (hc : PackedCopy src .c v) (h : src.nd = 3) :
    v.stride 0 = ((v.itemsize * v.dim 2 * v.dim 1 : Nat) : Int) := by
  have hd := GpuArray.dimensions_eq_three (hc.nd.trans h)
  have hp : v.strides = (packedStrides v.itemsize v.dimensions.reverse).reverse := hc.packed
  rw [hd] at hp
  simp [GpuArray.stride, hp, packedStrides]

end PackedCopy

end GpuArrayBlas
