import GpuArrayBlas.Blas.Ger
import GpuArrayBlas.Blas.Last2d
import GpuArrayBlas.Blas.Spec
import Mathlib.Tactic.LinearCombination

/-!
# `GpuArray_rgemmBatch_3d`

`GpuArray_rgemmBatch_3d(transA, transB, alpha, A, B, beta, C, nocopy)` checks
its rank-3 operands, copies `A` and `B` into row-major temporaries when
`is_last_2d_contiguous` classifies them `0`, takes the call's order and `ldc`
from the class of `C`, flips the transpose flag of every input of the other
order, and calls the strided-batched `gpublas_?gemm3D` with
`strides[0] / elsize` as the distance between slices.  When that kernel returns
`GA_DEVSUP_ERROR` it allocates six host arrays and calls the pointer-array
`gpublas_?gemmBatch` instead.

What is proved here holds for every input.

* `rgemmBatch3d_kernel_correct`: with non-negative batch strides and a `C`
  whose elements are at distinct addresses, the strided-batched call computes
  `C[b] := alpha * op(A[b]) * op(B[b]) + beta * C[b]` for every slice.
* `rgemmBatch3d_negative_batch_stride`: with a negative batch stride the
  quotient `strides[0] / elsize` is taken in `size_t`, and the kernel's slices
  are no longer the operand's.
* `rgemmBatch3d_fallback_sysError`: the allocation test ends in
  `|| C_offsets)`, so when all six allocations succeed the fallback reports
  the `malloc` failure and never calls `gpublas_?gemmBatch`; when only
  `C_offsets` is `NULL` it writes through it (`rgemmBatch3d_fallback_crashes`),
  and that is the only way the call fails to return
  (`rgemmBatch3d_crash_cause`).  Whenever it returns, each host array is freed
  once (`rgemmBatch3d_host_arrays_freed`).  The pointer-array kernel is
  therefore only ever called on an empty batch
  (`rgemmBatch3d_pointer_array_kernel`).
-/

set_option autoImplicit false

namespace GpuArrayBlas

/-- The checks of `GpuArray_rgemmBatch_3d` before any copy, in source order; on
success `batchCount`, `m`, `n` and `k`. -/
def rgemmBatchCheck (transA transB : CbTranspose) (A B C : GpuArray) :
    Except Failure (Nat × Nat × Nat × Nat) :=
  if !A.typecode.isBlas then .error ⟨.invalidError, "Unsupported dtype"⟩
  else if A.nd ≠ 3 ∨ B.nd ≠ 3 ∨ C.nd ≠ 3 then
    .error ⟨.valueError, "Wrong number of dimensions: A->nd = " ++ toString A.nd ++
      " (expected 3), B->nd = " ++ toString B.nd ++ " (expected 3), C->nd = " ++ toString C.nd ++
      " (expected 3)"⟩
  else if B.typecode ≠ A.typecode ∨ C.typecode ≠ A.typecode then
    .error ⟨.valueError, "Inconsistent dtypes"⟩
  else if !A.flags.aligned || !B.flags.aligned || !C.flags.aligned then
    .error ⟨.unalignedError, "Unaligned input"⟩
  else if B.dim 0 ≠ A.dim 0 ∨ C.dim 0 ≠ A.dim 0 then
    .error ⟨.valueError, "Mismatched first dimension"⟩
  else if (transB.opShape (B.dim 1) (B.dim 2)).1 ≠ (transA.opShape (A.dim 1) (A.dim 2)).2 then
    .error ⟨.valueError, "Mismatched shape"⟩
  else if C.dim 1 ≠ (transA.opShape (A.dim 1) (A.dim 2)).1 ∨
      C.dim 2 ≠ (transB.opShape (B.dim 1) (B.dim 2)).2 then
    .error ⟨.valueError, "Mismatched shape"⟩
  else .ok (A.dim 0, (transA.opShape (A.dim 1) (A.dim 2)).1, (transB.opShape (B.dim 1) (B.dim 2)).2,
    (transA.opShape (A.dim 1) (A.dim 2)).2)

/-- The copy blocks of `GpuArray_rgemmBatch_3d`: `A`, then `B`, into row-major
temporaries when their class is `0`. -/
def rgemmBatchBlocks (A B : GpuArray) : List CopyBlock :=
  [⟨.copyA, A, decide (isLast2dContiguous A = 0), .c, "Need copy for A"⟩,
   ⟨.copyB, B, decide (isLast2dContiguous B = 0), .c, "Need copy for B"⟩]

/-- `cA` (or `cB`) after its copy block: the class of the caller's operand, set
to `1` when the block made a copy (`cA = 1;`). -/
def classAfterCopy (X : GpuArray) : Nat :=
  if isLast2dContiguous X = 0 then 1 else isLast2dContiguous X

/-- The order of the call and `ldc`, from the class `cC` of `C`. -/
def batchOrder (cC : Nat) (C : GpuArray) (e : Nat) : Except Failure (CbOrder × Nat) :=
  if cC = 2 then .ok (.fortran, batchLd 2 C e)
  else if cC = 1 then .ok (.c, batchLd 1 C e)
  else .error ⟨.miscError, "Invalid internal result for C"⟩

/-- The leading dimension of an input of class `cX`, and its transpose flag,
flipped when the input's order is not the call's order `o`. -/
def batchOperand (o : CbOrder) (cX : Nat) (Xp : GpuArray) (t : CbTranspose) (e : Nat)
    (msg : String) : Except Failure (Nat × CbTranspose) :=
  if cX = 2 then .ok (batchLd 2 Xp e, if o = .c then t.toggle else t)
  else if cX = 1 then .ok (batchLd 1 Xp e, if o = .fortran then t.toggle else t)
  else .error ⟨.miscError, msg⟩

/-- The checks of `GpuArray_rgemmBatch_3d` after the copy blocks, and the
resolved layout: `C` must be classified, and fixes the order; `A` and `B`
follow. -/
def rgemmBatchResolve (transA transB : CbTranspose) (A B C Ap Bp : GpuArray) (e : Nat) :
    Except Failure GemmLayout :=
  if isLast2dContiguous C = 0 then .error ⟨.valueError, "Noncontiguous last 2d C"⟩
  else
    match batchOrder (isLast2dContiguous C) C e with
    | .error f => .error f
    | .ok (o, ldc) =>
      match batchOperand o (classAfterCopy A) Ap transA e "Invalid internal result for A",
        batchOperand o (classAfterCopy B) Bp transB e "Invalid internal result for B" with
      | .error f, _ => .error f
      | .ok _, .error f => .error f
      | .ok (lda, tA), .ok (ldb, tB) => .ok ⟨o, tA, tB, lda, ldb, ldc⟩

/-- `(P->offset + i * P->strides[0]) / elsize`, in `size_t` arithmetic. -/
def sliceOffset (P : GpuArray) (e i : Nat) : Nat :=
  (P.offset + i * sizeT (P.stride 0)) % 2 ^ 64 / e

/-- The six host arrays, in allocation order. -/
def hostArrays : List HostArray := [.aDatas, .bDatas, .cDatas, .aOffsets, .bOffsets, .cOffsets]

variable {R : Type}

/-- The strided-batched call: the distance between slices is
`strides[0] / elsize`, an `ssize_t` divided by a `size_t`. -/
def rgemmBatchCall3D (r : GemmLayout) (batch m n k : Nat) (alpha beta : R) (e : Nat)
    (Ap Bp C : GpuArray) : Gemm3DCall R :=
  ⟨r.order, r.transA, r.transB, m, n, k, alpha, Ap.data, Ap.offset / e, r.lda,
    ssize (divSU (Ap.stride 0) e), Bp.data, Bp.offset / e, r.ldb, ssize (divSU (Bp.stride 0) e),
    beta, C.data, C.offset / e, r.ldc, ssize (divSU (C.stride 0) e), batch⟩

/-- The pointer-array call of the fallback: the data pointers and per-slice
offsets its loop fills in. -/
def rgemmBatchCallPtrs (r : GemmLayout) (batch m n k : Nat) (alpha beta : R) (e : Nat)
    (Ap Bp C : GpuArray) : GemmBatchCall R :=
  ⟨r.order, r.transA, r.transB, m, n, k, alpha, List.replicate batch Ap.data,
    (List.range batch).map (sliceOffset Ap e), r.lda, List.replicate batch Bp.data,
    (List.range batch).map (sliceOffset Bp e), r.ldb, beta, List.replicate batch C.data,
    (List.range batch).map (sliceOffset C e), r.ldc, batch⟩

/-- The test after the six allocations of the fallback:
```
if (A_datas == NULL || B_datas == NULL || C_datas == NULL ||
    A_offsets == NULL || B_offsets == NULL || C_offsets)
``` -/
def allocFailed (io : Collab R) (bytes : Nat) : Bool :=
  !io.malloc .aDatas bytes || !io.malloc .bDatas bytes || !io.malloc .cDatas bytes ||
    !io.malloc .aOffsets bytes || !io.malloc .bOffsets bytes || io.malloc .cOffsets bytes

/-- The pointer-array fallback: six allocations of `batchCount * 8` bytes, the
test, then `error_sys(ctx->err, "malloc")` and `old_cleanup:`, or the loop that
fills the arrays, which writes through `C_offsets`, then the kernel of
`C->typecode` (`err` is still `GA_DEVSUP_ERROR` when no case matches) and
`old_cleanup:`, which frees all six. -/
def gemmBatchFallback (io : Collab R) (prec : Typecode) (batch : Nat) (k : Kernel R) :
    Ending × List (Call R) :=
  let allocs := hostArrays.map fun s => Call.malloc s (batch * 8) (io.malloc s (batch * 8))
  let frees := hostArrays.map Call.free
  if allocFailed io (batch * 8) then (.returns .sysError, allocs ++ [.error .sysError "malloc"] ++ frees)
  else if 0 < batch then (.crashes, allocs)
  else
    let s := callKernel io .devsupError prec k
    (.returns s.1, allocs ++ s.2 ++ frees)

/-- The strided-batched kernel of `C->typecode`, then the fallback when it
returns `GA_DEVSUP_ERROR`. -/
def batchDispatch (io : Collab R) (prec : Typecode) (batch : Nat) (k3 kb : Kernel R) :
    Ending × List (Call R) :=
  let s := callKernel io .noError prec k3
  if s.1 = .devsupError then
    let fb := gemmBatchFallback io prec batch kb
    (fb.1, s.2 ++ fb.2)
  else (.returns s.1, s.2)

/-- `GpuArray_rgemmBatch_3d(transA, transB, alpha, A, B, beta, C, nocopy)`. -/
def rgemmBatch3d (io : Collab R) (transA transB : CbTranspose) (alpha : R) (A B : GpuArray)
    (beta : R) (C : GpuArray) (nocopy : Bool) : Outcome R :=
  match rgemmBatchCheck transA transB A B C with
  | .error f => f.returned
  | .ok (batch, m, n, k) =>
    finish [.copyA, .copyB] (arbitrate io nocopy (rgemmBatchBlocks A B)) fun held =>
      let Ap := pointer held .copyA A
      let Bp := pointer held .copyB B
      match rgemmBatchResolve transA transB A B C Ap Bp A.typecode.elsize with
      | .error f => f.body
      | .ok r => withSetup io (io.context Ap.data) <| batchDispatch io C.typecode batch
          (.gemm3D (rgemmBatchCall3D r batch m n k alpha beta A.typecode.elsize Ap Bp C))
          (.gemmBatch (rgemmBatchCallPtrs r batch m n k alpha beta A.typecode.elsize Ap Bp C))

/-! ## Checks and resolution -/

/-- What the checks of `GpuArray_rgemmBatch_3d` establish before any copy. -/
structure BatchChecked (transA transB : CbTranspose) (A B C : GpuArray) (batch m n k : Nat) :
    Prop where
  blas : A.typecode.isBlas = true
  ndA : A.nd = 3
  ndB : B.nd = 3
  ndC : C.nd = 3
  typecodeB : B.typecode = A.typecode
  typecodeC : C.typecode = A.typecode
  alignedA : A.flags.aligned = true
  alignedB : B.flags.aligned = true
  alignedC : C.flags.aligned = true
  batchA : A.dim 0 = batch
  batchB : B.dim 0 = batch
  batchC : C.dim 0 = batch
  shapeA : transA.opShape (A.dim 1) (A.dim 2) = (m, k)
  shapeB : transB.opShape (B.dim 1) (B.dim 2) = (k, n)
  rowsC : C.dim 1 = m
  colsC : C.dim 2 = n

theorem rgemmBatchCheck_ok {transA transB : CbTranspose} {A B C : GpuArray} {batch m n k : Nat}
    (h : rgemmBatchCheck transA transB A B C = .ok (batch, m, n, k)) :
    BatchChecked transA transB A B C batch m n k := by
  unfold rgemmBatchCheck at h
  obtain ⟨h1, h⟩ := ite_error_eq_ok h
  obtain ⟨h2, h⟩ := ite_error_eq_ok h
  obtain ⟨h3, h⟩ := ite_error_eq_ok h
  obtain ⟨h4, h⟩ := ite_error_eq_ok h
  obtain ⟨h5, h⟩ := ite_error_eq_ok h
  obtain ⟨h6, h⟩ := ite_error_eq_ok h
  obtain ⟨h7, h⟩ := ite_error_eq_ok h
  simp only [Except.ok.injEq, Prod.mk.injEq] at h
  obtain ⟨rfl, rfl, rfl, rfl⟩ := h
  simp only [Bool.not_eq_eq_eq_not, Bool.not_true, Bool.not_eq_false, ne_eq, not_or,
    Decidable.not_not, Bool.or_eq_true] at h1 h2 h3 h4 h5 h6 h7
  exact ⟨h1, h2.1, h2.2.1, h2.2.2, h3.1, h3.2, h4.1.1, h4.1.2, h4.2, rfl, h5.1, h5.2, rfl,
    Prod.ext h6 rfl, h7.1, h7.2⟩

/-- The converse: operands with every fact the checks establish pass them,
with the shapes they record. -/
theorem rgemmBatchCheck_eq_ok {transA transB : CbTranspose} {A B C : GpuArray} {batch m n k : Nat}
    (h : BatchChecked transA transB A B C batch m n k) :
    rgemmBatchCheck transA transB A B C = .ok (batch, m, n, k) := by
  simp [rgemmBatchCheck, h.blas, h.ndA, h.ndB, h.ndC, h.typecodeB, h.typecodeC, h.alignedA,
    h.alignedB, h.alignedC, h.batchA, h.batchB, h.batchC, h.shapeA, h.shapeB, h.rowsC, h.colsC]

theorem rgemmBatchCheck_code {transA transB : CbTranspose} {A B C : GpuArray} {f : Failure}
    (h : rgemmBatchCheck transA transB A B C = .error f) : f.code ≠ .noError := by
  unfold rgemmBatchCheck at h
  repeat refine code_of_ite_error h nofun fun f h => ?_
  cases h

theorem batchOrder_ok {cC : Nat} {C : GpuArray} {e : Nat} {o : CbOrder} {ldc : Nat}
    (h : batchOrder cC C e = .ok (o, ldc)) : o = classOrder cC ∧ ldc = batchLd cC C e := by
  unfold batchOrder at h
  split_ifs at h with h2 h1 <;> cases h
  · subst h2; exact ⟨rfl, rfl⟩
  · subst h1; exact ⟨rfl, rfl⟩

theorem batchOrder_code {cC : Nat} {C : GpuArray} {e : Nat} {f : Failure}
    (h : batchOrder cC C e = .error f) : f.code ≠ .noError := by
  unfold batchOrder at h
  split_ifs at h
  cases h
  nofun

theorem batchOperand_ok {o : CbOrder} {cX : Nat} {Xp : GpuArray} {t t' : CbTranspose} {e : Nat}
    {msg : String} {ld : Nat} (h : batchOperand o cX Xp t e msg = .ok (ld, t')) :
    ld = batchLd cX Xp e ∧ t' = if o = classOrder cX then t else t.toggle := by
  unfold batchOperand at h
  by_cases h2 : cX = 2
  · rw [if_pos h2] at h
    cases h
    subst h2
    cases o <;> exact ⟨rfl, rfl⟩
  · rw [if_neg h2] at h
    by_cases h1 : cX = 1
    · rw [if_pos h1] at h
      cases h
      subst h1
      cases o <;> exact ⟨rfl, rfl⟩
    · rw [if_neg h1] at h
      cases h

theorem batchOperand_code {o : CbOrder} {cX : Nat} {Xp : GpuArray} {t : CbTranspose} {e : Nat}
    {msg : String} {f : Failure} (h : batchOperand o cX Xp t e msg = .error f) : f.code ≠ .noError := by
  unfold batchOperand at h
  split_ifs at h
  cases h
  nofun

/-- What a successful resolution of `GpuArray_rgemmBatch_3d` read off its
operands: `C` is classified, the order is its class's, and each input has the
leading dimension of its class and a flag flipped exactly when its class's
order is not the call's. -/
theorem rgemmBatchResolve_ok {transA transB : CbTranspose} {A B C Ap Bp : GpuArray} {e : Nat}
    {r : GemmLayout} (h : rgemmBatchResolve transA transB A B C Ap Bp e = .ok r) :
    isLast2dContiguous C ≠ 0 ∧ r.order = classOrder (isLast2dContiguous C) ∧
    r.ldc = batchLd (isLast2dContiguous C) C e ∧
    r.lda = batchLd (classAfterCopy A) Ap e ∧
    r.transA = (if r.order = classOrder (classAfterCopy A) then transA else transA.toggle) ∧
    r.ldb = batchLd (classAfterCopy B) Bp e ∧
    r.transB = (if r.order = classOrder (classAfterCopy B) then transB else transB.toggle) := by
  unfold rgemmBatchResolve at h
  split_ifs at h with hC
  split at h
  · cases h
  · rename_i o ldc ho
    split at h
    · cases h
    · cases h
    · rename_i lda tA ldb tB ha hb
      cases h
      obtain ⟨rfl, rfl⟩ := batchOrder_ok ho
      obtain ⟨rfl, rfl⟩ := batchOperand_ok ha
      obtain ⟨rfl, rfl⟩ := batchOperand_ok hb
      exact ⟨hC, rfl, rfl, rfl, rfl, rfl, rfl⟩

/-- After its copy block an input's class is `1` or `2`: a copy is row-major. -/
theorem classAfterCopy_cases (X : GpuArray) : classAfterCopy X = 1 ∨ classAfterCopy X = 2 := by
  have := isLast2dContiguous_le_two X
  unfold classAfterCopy
  split_ifs <;> omega

theorem batchOrder_ok_of_class {cC : Nat} (C : GpuArray) (e : Nat) (h : cC = 1 ∨ cC = 2) :
    ∃ r, batchOrder cC C e = .ok r := by
  rcases h with rfl | rfl <;> exact ⟨_, rfl⟩

theorem batchOperand_ok_of_class (o : CbOrder) {cX : Nat} (Xp : GpuArray) (t : CbTranspose) (e : Nat)
    (msg : String) (h : cX = 1 ∨ cX = 2) : ∃ r, batchOperand o cX Xp t e msg = .ok r := by
  rcases h with rfl | rfl <;> exact ⟨_, rfl⟩

/-- The converse: a classified `C` resolves, whatever the inputs, since no
input is left of class `0` after its copy block. -/
theorem rgemmBatchResolve_ok_of_classified (transA transB : CbTranspose) (A B : GpuArray)
    {C : GpuArray} (Ap Bp : GpuArray) (e : Nat) (hC : isLast2dContiguous C ≠ 0) :
    ∃ r, rgemmBatchResolve transA transB A B C Ap Bp e = .ok r := by
  have hcC : isLast2dContiguous C = 1 ∨ isLast2dContiguous C = 2 := by
    have := isLast2dContiguous_le_two C
    omega
  obtain ⟨⟨o, ldc⟩, hoC⟩ := batchOrder_ok_of_class C e hcC
  obtain ⟨⟨lda, tA⟩, hoA⟩ := batchOperand_ok_of_class o Ap transA e "Invalid internal result for A"
    (classAfterCopy_cases A)
  obtain ⟨⟨ldb, tB⟩, hoB⟩ := batchOperand_ok_of_class o Bp transB e "Invalid internal result for B"
    (classAfterCopy_cases B)
  exact ⟨⟨o, tA, tB, lda, ldb, ldc⟩, by simp [rgemmBatchResolve, hC, hoC, hoA, hoB]⟩

theorem rgemmBatchResolve_code {transA transB : CbTranspose} {A B C Ap Bp : GpuArray} {e : Nat}
    {f : Failure} (h : rgemmBatchResolve transA transB A B C Ap Bp e = .error f) :
    f.code ≠ .noError := by
  unfold rgemmBatchResolve at h
  split_ifs at h
  · cases h
    nofun
  · split at h
    · cases h
      exact batchOrder_code ‹_›
    · split at h
      · cases h
        exact batchOperand_code ‹_›
      · cases h
        exact batchOperand_code ‹_›
      · cases h

/-! ## The kernel calls -/

/-- The only kernel of the fallback is its own. -/
theorem eq_of_kernel_mem_gemmBatchFallback {io : Collab R} {prec p : Typecode} {batch : Nat}
    {k k' : Kernel R} {st : GaError} (h : Call.kernel p k' st ∈ (gemmBatchFallback io prec batch k).2) :
    p = prec ∧ k' = k := by
  dsimp only [gemmBatchFallback] at h
  by_cases hf : allocFailed io (batch * 8) = true
  · rw [if_pos hf] at h
    simp [hostArrays] at h
  · by_cases hb : 0 < batch
    · rw [if_neg hf, if_pos hb] at h
      simp [hostArrays] at h
    · rw [if_neg hf, if_neg hb] at h
      rcases List.mem_append.mp h with h | h
      · rcases List.mem_append.mp h with h | h
        · simp [hostArrays] at h
        · exact eq_of_kernel_mem_callKernel h
      · simp [hostArrays] at h

/-- The kernels after the setup: the strided-batched one, and the pointer-array
one of the fallback. -/
theorem eq_of_kernel_mem_batchDispatch {io : Collab R} {prec p : Typecode} {batch : Nat}
    {k3 kb k : Kernel R} {st : GaError} (h : Call.kernel p k st ∈ (batchDispatch io prec batch k3 kb).2) :
    p = prec ∧ (k = k3 ∨ k = kb) := by
  simp only [batchDispatch] at h
  split_ifs at h
  · rcases List.mem_append.mp h with h | h
    · exact (eq_of_kernel_mem_callKernel h).imp_right .inl
    · exact (eq_of_kernel_mem_gemmBatchFallback h).imp_right .inr
  · exact (eq_of_kernel_mem_callKernel h).imp_right .inl

/-- The strided-batched kernel of a BLAS typecode always runs; unless it
returns `GA_DEVSUP_ERROR`, its status is the call's. -/
theorem batchDispatch_runs {io : Collab R} {prec : Typecode} {batch : Nat} {k3 kb : Kernel R}
    (hp : prec.isBlas = true) :
    Call.kernel prec k3 (io.kernel prec k3) ∈ (batchDispatch io prec batch k3 kb).2 ∧
      (io.kernel prec k3 ≠ .devsupError → (batchDispatch io prec batch k3 kb).1 =
        .returns (io.kernel prec k3)) := by
  simp only [batchDispatch, callKernel, hp, if_true]
  refine ⟨?_, fun hs => by rw [if_neg hs]⟩
  split_ifs <;> simp

/-- A fallback that returns `GA_NO_ERROR` had an empty batch and ran its kernel,
which returned `GA_NO_ERROR`. -/
theorem gemmBatchFallback_noError {io : Collab R} {prec : Typecode} {batch : Nat} {k : Kernel R}
    (hp : prec.isBlas = true) (h : (gemmBatchFallback io prec batch k).1 = .returns .noError) :
    batch = 0 ∧ Call.kernel prec k .noError ∈ (gemmBatchFallback io prec batch k).2 := by
  dsimp only [gemmBatchFallback] at h ⊢
  by_cases hf : allocFailed io (batch * 8) = true
  · rw [if_pos hf] at h
    cases h
  · by_cases hb : 0 < batch
    · rw [if_neg hf, if_pos hb] at h
      cases h
    · rw [if_neg hf, if_neg hb] at h ⊢
      simp only [callKernel, hp, if_true] at h ⊢
      exact ⟨by omega, by simp [Ending.returns.inj h]⟩

/-- A dispatch of a BLAS typecode that returns `GA_NO_ERROR`: the strided-batched
kernel returned `GA_NO_ERROR`, or it returned `GA_DEVSUP_ERROR` and the fallback,
on an empty batch, ran its kernel, which returned `GA_NO_ERROR`. -/
theorem batchDispatch_noError {io : Collab R} {prec : Typecode} {batch : Nat} {k3 kb : Kernel R}
    (hp : prec.isBlas = true) (h : (batchDispatch io prec batch k3 kb).1 = .returns .noError) :
    Call.kernel prec k3 .noError ∈ (batchDispatch io prec batch k3 kb).2 ∨
      (batch = 0 ∧ Call.kernel prec k3 .devsupError ∈ (batchDispatch io prec batch k3 kb).2 ∧
        Call.kernel prec kb .noError ∈ (batchDispatch io prec batch k3 kb).2) := by
  simp only [batchDispatch, callKernel, hp, if_true] at h ⊢
  by_cases hd : io.kernel prec k3 = .devsupError
  · rw [if_pos hd] at h ⊢
    obtain ⟨h0, hk⟩ := gemmBatchFallback_noError hp h
    exact .inr ⟨h0, by simp [hd], List.mem_append_right _ hk⟩
  · rw [if_neg hd] at h ⊢
    exact .inl (by simp [Ending.returns.inj h])

/-- What must have happened for the trace of `GpuArray_rgemmBatch_3d` to hold a
kernel call: the checks passed, the copy blocks went through and head the
trace, the resolution succeeded on the pointer variables, and the kernel is
one of the calls after the setup. -/
theorem rgemmBatch3d_kernel_inv {io : Collab R} {transA transB : CbTranspose} {alpha beta : R}
    {A B C : GpuArray} {nocopy : Bool} {prec : Typecode} {k : Kernel R} {st : GaError}
    (hk : Event.call (.kernel prec k st) ∈
      (rgemmBatch3d io transA transB alpha A B beta C nocopy).trace) :
    ∃ batch m n kk t held r, rgemmBatchCheck transA transB A B C = .ok (batch, m, n, kk) ∧
      arbitrate io nocopy (rgemmBatchBlocks A B) = .done t held ∧
      t <+: (rgemmBatch3d io transA transB alpha A B beta C nocopy).trace ∧
      rgemmBatchResolve transA transB A B C (pointer held .copyA A) (pointer held .copyB B)
        A.typecode.elsize = .ok r ∧
      Call.kernel prec k st ∈ (withSetup io (io.context (pointer held .copyA A).data)
        (batchDispatch io C.typecode batch
          (.gemm3D (rgemmBatchCall3D r batch m n kk alpha beta A.typecode.elsize
            (pointer held .copyA A) (pointer held .copyB B) C))
          (.gemmBatch (rgemmBatchCallPtrs r batch m n kk alpha beta A.typecode.elsize
            (pointer held .copyA A) (pointer held .copyB B) C)))).2 := by
  cases hc : rgemmBatchCheck transA transB A B C with
  | error f => simp [rgemmBatch3d, hc, Failure.returned, Failure.call] at hk
  | ok x =>
    obtain ⟨batch, m, n, kk⟩ := x
    simp only [rgemmBatch3d, hc] at hk
    obtain ⟨t, held, ha, c, hc', hev⟩ := finish_kernel io nocopy (by simp [rgemmBatchBlocks]) _ _ hk
      (by simp [Event.kernel?])
    cases hev
    have hpre : t <+: (rgemmBatch3d io transA transB alpha A B beta C nocopy).trace := by
      simp only [rgemmBatch3d, hc, ha]
      exact prefix_finish_done t held
    split at hc'
    · simp [Failure.body, Failure.call] at hc'
    · rename_i r hr
      exact ⟨batch, m, n, kk, t, held, r, rfl, ha, hpre, hr, hc'⟩

/-! ## Slices -/

section Slices

variable {mem : Mem R}

/-- A pointer variable after the copy blocks standing for the caller's rank-3
operand `M`, of class `c`: aligned, with a non-negative batch stride, trailing
axes stored as its class says, `M`'s extents and element size, and `M`'s
logical elements. -/
structure SliceStandsFor (mem : Mem R) (M P : GpuArray) (c : Nat) : Prop where
  nd : P.nd = 3
  dim : ∀ d, P.dim d = M.dim d
  itemsize : P.itemsize = M.itemsize
  offset : P.itemsize ∣ P.offset
  stride0 : (P.itemsize : Int) ∣ P.stride 0
  nonneg0 : 0 ≤ P.stride 0
  trailing : TrailingIn P P.itemsize (classOrder c) (batchLd c P P.itemsize)
  read : ∀ b < M.dim 0, ∀ r < M.dim 1, ∀ j < M.dim 2, P.read mem [b, r, j] = M.read mem [b, r, j]

/-- An operand the call does not copy stands for itself, in its own class. -/
theorem SliceStandsFor.self {M : GpuArray} (h3 : M.nd = 3) (hM : M.FlagsSound)
    (ha : M.flags.aligned = true) (h0 : 0 ≤ M.stride 0) (hc : isLast2dContiguous M ≠ 0) :
    SliceStandsFor mem M M (isLast2dContiguous M) :=
  ⟨h3, fun _ => rfl, rfl, (hM.aligned ha).1, (hM.aligned ha).stride 0, h0,
    trailingIn_of_isLast2d h3 hM ha hc, fun _ _ _ _ _ _ => rfl⟩

/-- A row-major copy stands for its source, in class `1`. -/
theorem SliceStandsFor.of_copy {M v : GpuArray} (h3 : M.nd = 3) (hc : PackedCopy M .c v)
    (hs : SameElements mem M v) : SliceStandsFor mem M v 1 := by
  have hs0 := hc.stride_zero_of_c_three h3
  refine ⟨hc.nd.trans h3, hc.dim_eq, hc.itemsize_eq, hc.offset, ?_, ?_,
    trailingIn_of_isCContiguous (hc.nd.trans h3) hc.isCContiguous_of_c,
    fun b hb r hr j hj => hs _ ((GpuArray.inRange_three h3).mpr ⟨hb, hr, hj⟩)⟩
  · rw [hs0, Nat.mul_assoc]
    exact Int.natCast_dvd_natCast.mpr (Nat.dvd_mul_right _ _)
  · rw [hs0]
    exact Int.natCast_nonneg _

/-- After the copy blocks went through, the pointer variable of a block that
copies exactly the operands of class `0`, in row-major order, stands for the
block's operand in the class the call then uses. -/
theorem SliceStandsFor.of_arbitrate {io : Collab R} {nocopy : Bool} {bs : List CopyBlock}
    (hnd : (bs.map CopyBlock.slot).Nodup) {t : List (Event R)} {held : Held}
    (h : arbitrate io nocopy bs = .done t held) {b : CopyBlock} (hb : b ∈ bs) (h3 : b.src.nd = 3)
    (hM : b.src.FlagsSound) (ha : b.src.flags.aligned = true) (h0 : 0 ≤ b.src.stride 0)
    (hneeds : b.needs = decide (isLast2dContiguous b.src = 0)) (horder : b.order = .c)
    (hcopies : CopiesSound mem t) :
    SliceStandsFor mem b.src (pointer held b.slot b.src) (classAfterCopy b.src) := by
  rcases arbitrate_done_pointer io nocopy hnd h hb with ⟨hn, hnone⟩ | ⟨hn, v, hv, hm⟩
  · have hc : isLast2dContiguous b.src ≠ 0 := by
      rwa [hneeds, decide_eq_false_iff_not] at hn
    rw [pointer, hnone, Option.getD_none, classAfterCopy, if_neg hc]
    exact .self h3 hM ha h0 hc
  · have hc : isLast2dContiguous b.src = 0 := by
      rwa [hneeds, decide_eq_true_iff] at hn
    obtain ⟨hcp, hs⟩ := hcopies _ _ _ _ hm
    rw [horder] at hcp
    rw [pointer, hv, Option.getD_some, classAfterCopy, if_pos hc]
    exact .of_copy h3 hcp hs

/-- The kernel's element `(r, j)` of slice `b`, in the operand's own order, is
the operand's element `(b, r, j)`. -/
theorem SliceStandsFor.sliceAddr_eq {M P : GpuArray} {c : Nat} (hP : SliceStandsFor mem M P c)
    (b : Nat) {r j : Nat} (hr : r < M.dim 1) (hj : j < M.dim 2) :
    sliceAddr M.itemsize (classOrder c) (P.offset / M.itemsize)
      (ssize (divSU (P.stride 0) M.itemsize)) (batchLd c P M.itemsize) b r j = P.elem [b, r, j] := by
  rw [← hP.itemsize]
  have h1 : (P.itemsize : Int) * ((P.offset / P.itemsize : Nat) : Int) = P.offset := by
    exact_mod_cast Nat.mul_div_cancel' hP.offset
  have h2 : (P.itemsize : Int) * (P.stride 0 / P.itemsize) = P.stride 0 :=
    Int.mul_ediv_cancel' hP.stride0
  have ht := hP.trailing r (hP.dim 1 ▸ hr) j (hP.dim 2 ▸ hj)
  push_cast at ht
  rw [sliceAddr, ssize_divSU_of_nonneg _ hP.nonneg0 (P.stride_ssize 0).2, GpuArray.elem_three hP.nd]
  linear_combination h1 + (b : Int) * h2 + ht

/-- The kernel, reading slice `b` in the call's order `o` with the flag flipped
exactly when the operand's class has the other order, sees `op` of the
caller's slice `b`. -/
theorem SliceStandsFor.read_slice {M P : GpuArray} {c : Nat} (hP : SliceStandsFor mem M P c)
    {b : Nat} (hb : b < M.dim 0) (o : CbOrder) (t : CbTranspose) {i l : Nat}
    (hi : i < (t.opShape (M.dim 1) (M.dim 2)).1) (hl : l < (t.opShape (M.dim 1) (M.dim 2)).2) :
    opEntry (if o = classOrder c then t else t.toggle)
      (fun r j => mem P.data (sliceAddr M.itemsize o (P.offset / M.itemsize)
        (ssize (divSU (P.stride 0) M.itemsize)) (batchLd c P M.itemsize) b r j)) i l =
      opEntry t (fun r j => M.read mem [b, r, j]) i l :=
  opEntry_stored (fun idx => mem P.data (M.itemsize * (((P.offset / M.itemsize : Nat) : Int) +
      b * ssize (divSU (P.stride 0) M.itemsize) + (idx : Int))))
    (fun r hr j hj => by
      show mem P.data (sliceAddr M.itemsize (classOrder c) (P.offset / M.itemsize)
        (ssize (divSU (P.stride 0) M.itemsize)) (batchLd c P M.itemsize) b r j) = _
      rw [hP.sliceAddr_eq b hr hj]
      exact hP.read b hb r hr j hj) hi hl

end Slices

/-! ## The strided-batched call -/

section Correct

variable [Semiring R]

/-- The strided-batched call `GpuArray_rgemmBatch_3d` makes once its checks
passed, its blocks went through and its layout resolved sets every element of
`C` to the product of the caller's own slices (`gemmBatchSpec`), when the batch
strides are non-negative and the elements of `C` sit at distinct addresses. -/
theorem gemm3DCall_correct (mem : Mem R) {io : Collab R} {transA transB : CbTranspose}
    (alpha beta : R) {A B C : GpuArray} {nocopy : Bool} {batch m n kk : Nat} {t : List (Event R)}
    {held : Held} {r : GemmLayout} (hA : A.FlagsSound) (hB : B.FlagsSound) (hC : C.FlagsSound)
    (hA0 : 0 ≤ A.stride 0) (hB0 : 0 ≤ B.stride 0) (hC0 : 0 ≤ C.stride 0)
    (hCinj : ∀ x ∈ cells3 (C.dim 0) (C.dim 1) (C.dim 2), ∀ y ∈ cells3 (C.dim 0) (C.dim 1) (C.dim 2),
      C.elem [x.1, x.2.1, x.2.2] = C.elem [y.1, y.2.1, y.2.2] → x = y)
    (hc : rgemmBatchCheck transA transB A B C = .ok (batch, m, n, kk))
    (ha : arbitrate io nocopy (rgemmBatchBlocks A B) = .done t held)
    (hr : rgemmBatchResolve transA transB A B C (pointer held .copyA A) (pointer held .copyB B)
      A.typecode.elsize = .ok r)
    (hcopies : CopiesSound mem t) :
    Updates mem ((rgemmBatchCall3D r batch m n kk alpha beta A.typecode.elsize (pointer held .copyA A)
      (pointer held .copyB B) C).run C.itemsize mem) C (gemmBatchSpec mem transA transB alpha A B beta C) := by
  have hok := rgemmBatchCheck_ok hc
  obtain ⟨hcC, hord, hldc, hlda, htA, hldb, htB⟩ := rgemmBatchResolve_ok hr
  have hnd : ((rgemmBatchBlocks A B).map CopyBlock.slot).Nodup := by simp [rgemmBatchBlocks]
  have hAp : SliceStandsFor mem A (pointer held .copyA A) (classAfterCopy A) :=
    SliceStandsFor.of_arbitrate hnd ha (by simp [rgemmBatchBlocks] : ⟨.copyA, A,
      decide (isLast2dContiguous A = 0), .c, "Need copy for A"⟩ ∈ rgemmBatchBlocks A B)
      hok.ndA hA hok.alignedA hA0 rfl rfl hcopies
  have hBp : SliceStandsFor mem B (pointer held .copyB B) (classAfterCopy B) :=
    SliceStandsFor.of_arbitrate hnd ha (by simp [rgemmBatchBlocks] : ⟨.copyB, B,
      decide (isLast2dContiguous B = 0), .c, "Need copy for B"⟩ ∈ rgemmBatchBlocks A B)
      hok.ndB hB hok.alignedB hB0 rfl rfl hcopies
  have hCs : SliceStandsFor mem C C (isLast2dContiguous C) := .self hok.ndC hC hok.alignedC hC0 hcC
  -- every operand is addressed with `A`'s element size, which is its own
  have heB : B.itemsize = A.itemsize := congrArg Typecode.elsize hok.typecodeB
  have heC : C.itemsize = A.itemsize := congrArg Typecode.elsize hok.typecodeC
  have hreadB := fun b (hb : b < B.dim 0) o i l (hi : i < (transB.opShape (B.dim 1) (B.dim 2)).1)
    (hl : l < (transB.opShape (B.dim 1) (B.dim 2)).2) => hBp.read_slice hb o transB hi hl
  have hplaceC := fun b i j (hi : i < C.dim 1) (hj : j < C.dim 2) => hCs.sliceAddr_eq b hi hj
  simp only [GpuArray.typecode_elsize] at hlda hldb hldc ⊢
  rw [heB] at hreadB
  rw [heC, ← hord, ← hldc] at hplaceC
  rw [heC]
  -- `C`'s cells are its logical elements, at distinct places
  have hcells : ∀ x ∈ cells3 batch m n, sliceAddr A.itemsize r.order (C.offset / A.itemsize)
      (ssize (divSU (C.stride 0) A.itemsize)) r.ldc x.1 x.2.1 x.2.2 = C.elem [x.1, x.2.1, x.2.2] :=
    fun x hx => hplaceC x.1 x.2.1 x.2.2 (hok.rowsC ▸ (mem_cells3.mp hx).2.1)
      (hok.colsC ▸ (mem_cells3.mp hx).2.2)
  have hdims : cells3 batch m n = cells3 (C.dim 0) (C.dim 1) (C.dim 2) := by
    rw [hok.batchC, hok.rowsC, hok.colsC]
  have hinj : ∀ x ∈ cells3 batch m n, ∀ y ∈ cells3 batch m n,
      (C.data, sliceAddr A.itemsize r.order (C.offset / A.itemsize)
        (ssize (divSU (C.stride 0) A.itemsize)) r.ldc x.1 x.2.1 x.2.2) =
      (C.data, sliceAddr A.itemsize r.order (C.offset / A.itemsize)
        (ssize (divSU (C.stride 0) A.itemsize)) r.ldc y.1 y.2.1 y.2.2) → x = y :=
    fun x hx y hy hxy => by
      rw [hcells x hx, hcells y hy] at hxy
      rw [hdims] at hx hy
      exact hCinj x hx y hy (Prod.mk.inj hxy).2
  have hk2 : (transA.opShape (A.dim 1) (A.dim 2)).2 = kk := by rw [hok.shapeA]
  refine Updates.of_three hok.ndC (fun b hb i hi j hj => ?_)
    fun buf a hout => writeCells_of_not_placed fun x hx hpx => ?_
  · have hx : (b, i, j) ∈ cells3 batch m n :=
      mem_cells3.mpr ⟨hok.batchC ▸ hb, hok.rowsC ▸ hi, hok.colsC ▸ hj⟩
    rw [← hcells _ hx]
    refine (writeCells_place hinj hx).trans ?_
    simp only [rgemmBatchCall3D, gemmBatchSpec]
    rw [hcells _ hx, hk2]
    congr 2
    refine Finset.sum_congr rfl fun l hl => ?_
    rw [Finset.mem_range] at hl
    have hiA : i < (transA.opShape (A.dim 1) (A.dim 2)).1 := by rw [hok.shapeA]; exact hok.rowsC ▸ hi
    have hlA : l < (transA.opShape (A.dim 1) (A.dim 2)).2 := hk2 ▸ hl
    have hlB : l < (transB.opShape (B.dim 1) (B.dim 2)).1 := by rw [hok.shapeB]; exact hl
    have hjB : j < (transB.opShape (B.dim 1) (B.dim 2)).2 := by rw [hok.shapeB]; exact hok.colsC ▸ hj
    rw [htA, htB, hlda, hldb]
    exact congrArg₂ (· * ·) (hAp.read_slice (hok.batchA ▸ hok.batchC ▸ hb) r.order transA hiA hlA)
      (hreadB b (hok.batchB ▸ hok.batchC ▸ hb) r.order l j hlB hjB)
  · rw [mem_cells3] at hx
    refine hout x.1 (hok.batchC ▸ hx.1) x.2.1 (hok.rowsC ▸ hx.2.1) x.2.2 (hok.colsC ▸ hx.2.2) ?_
    rw [← hpx]
    exact congrArg (Prod.mk C.data) (hcells x (mem_cells3.mpr hx))

/-- `GpuArray_rgemmBatch_3d` calls a correct strided-batched product when the
batch strides are non-negative.  For every behaviour of the collaborators,
every transpose, every `nocopy`, operands whose flags tell no lie, batch axes of
non-negative stride and a `C` whose elements are at distinct addresses:
whenever the call reaches `gpublas_?gemm3D`, the reference strided-batched
product of the call sets every `C[b][i][j]` to
`alpha * Σ op(A[b])[i][l] * op(B[b])[l][j] + beta * C[b][i][j]` over the
caller's own slices and transposes, and it writes nowhere else. -/
theorem rgemmBatch3d_kernel_correct (io : Collab R) (mem : Mem R) (transA transB : CbTranspose)
    (alpha beta : R) (A B C : GpuArray) (nocopy : Bool) (hA : A.FlagsSound) (hB : B.FlagsSound)
    (hC : C.FlagsSound) (hA0 : 0 ≤ A.stride 0) (hB0 : 0 ≤ B.stride 0) (hC0 : 0 ≤ C.stride 0)
    (hCinj : ∀ x ∈ cells3 (C.dim 0) (C.dim 1) (C.dim 2), ∀ y ∈ cells3 (C.dim 0) (C.dim 1) (C.dim 2),
      C.elem [x.1, x.2.1, x.2.2] = C.elem [y.1, y.2.1, y.2.2] → x = y)
    {prec : Typecode} {g : Gemm3DCall R} {st : GaError}
    (hk : Event.call (.kernel prec (.gemm3D g) st) ∈
      (rgemmBatch3d io transA transB alpha A B beta C nocopy).trace)
    (hcopies : CopiesSound mem (rgemmBatch3d io transA transB alpha A B beta C nocopy).trace) :
    (∀ b < C.dim 0, ∀ i < C.dim 1, ∀ j < C.dim 2,
      g.run prec.elsize mem C.data (C.elem [b, i, j]) =
        alpha * ∑ l in Finset.range (transA.opShape (A.dim 1) (A.dim 2)).2,
            opEntry transA (fun r c => A.read mem [b, r, c]) i l *
              opEntry transB (fun r c => B.read mem [b, r, c]) l j +
          beta * C.read mem [b, i, j]) ∧
    (∀ buf a, (∀ b < C.dim 0, ∀ i < C.dim 1, ∀ j < C.dim 2, (buf, a) ≠ (C.data, C.elem [b, i, j])) →
      g.run prec.elsize mem buf a = mem buf a) := by
  obtain ⟨batch, m, n, kk, t, held, r, hc, ha, hpre, hr, hmem⟩ := rgemmBatch3d_kernel_inv hk
  rcases mem_withSetup hmem with h | h
  · cases h
  obtain ⟨rfl, hg | hg⟩ := eq_of_kernel_mem_batchDispatch h
  swap
  · cases hg
  cases hg
  exact (gemm3DCall_correct mem alpha beta hA hB hC hA0 hB0 hC0 hCinj hc ha hr
    (hcopies.of_subset hpre.subset)).three (rgemmBatchCheck_ok hc).ndC

end Correct

/-- Two `1 × 1` float slices, packed, at the start of buffer `d`. -/
def batch2 (d : Nat) : GpuArray :=
  ⟨d, 0, 3, [2, 1, 1], [4, 4, 4], ⟨true, true, true⟩, .float, rfl, rfl, by decide⟩

theorem rgemmBatch3d_kernel_correct_slices :
    Event.call (.kernel .float (.gemm3D (rgemmBatchCall3D ⟨.c, .noTrans, .noTrans, 1, 1, 1⟩ 2 1 1 1
      1 0 4 (batch2 0) (batch2 1) (batch2 2))) .noError) ∈
      (rgemmBatch3d (Collab.succeeding ℤ) .noTrans .noTrans 1 (batch2 0) (batch2 1) 0
        (batch2 2) false).trace ∧
    (rgemmBatchCall3D ⟨.c, .noTrans, .noTrans, 1, 1, 1⟩ 2 1 1 1 (1 : ℤ) 0 4 (batch2 0) (batch2 1)
      (batch2 2)).run 4 (fun _ _ => 1) 2 4 = 1 :=
  ⟨by decide, ((@rgemmBatch3d_kernel_correct ℤ _ (Collab.succeeding ℤ) (fun _ _ => 1) .noTrans
    .noTrans 1 0 (batch2 0) (batch2 1) (batch2 2) false (by decide) (by decide) (by decide)
    (by decide) (by decide) (by decide) (by decide) .float _ .noError (by decide)
    (.of_noCopies (by decide))).1 1 (by decide) 0 (by decide) 0 (by decide)).trans (by decide)⟩

/-- Two `1 × 1` float slices in reverse order: slice 1 comes first in the
buffer, so the batch stride is negative. -/
def reversedBatch2 (d : Nat) : GpuArray :=
  ⟨d, 4, 3, [2, 1, 1], [-4, 4, 4], ⟨false, false, true⟩, .float, rfl, rfl, by decide⟩

/-- A `C` with a reversed batch axis, flags set exactly as its strides earn
them, and all collaborators succeeding: the strided-batched kernel is called
with the slice distance `strides[0] / elsize` computed in `size_t`, `2^62 - 1`
elements instead of `-1`, and leaves `C[1][0][0]` as it was, where the product
asks for `alpha * A[1] * B[1] + beta * C[1] = 2`. -/
theorem rgemmBatch3d_negative_batch_stride :
    (reversedBatch2 2).flags.cContiguous = (reversedBatch2 2).isCContiguous ∧
    (reversedBatch2 2).flags.fContiguous = (reversedBatch2 2).isFContiguous ∧
    Event.call (.kernel .float (.gemm3D (rgemmBatchCall3D ⟨.fortran, .trans, .trans, 1, 1, 1⟩ 2 1 1 1
      2 0 4 (batch2 0) (batch2 1) (reversedBatch2 2))) .noError) ∈
      (rgemmBatch3d (Collab.succeeding ℤ) .noTrans .noTrans 2 (batch2 0) (batch2 1) 0
        (reversedBatch2 2) false).trace ∧
    (rgemmBatchCall3D ⟨.fortran, .trans, .trans, 1, 1, 1⟩ 2 1 1 1 (2 : ℤ) 0 4 (batch2 0) (batch2 1)
      (reversedBatch2 2)).strideC = 2 ^ 62 - 1 ∧
    (rgemmBatchCall3D ⟨.fortran, .trans, .trans, 1, 1, 1⟩ 2 1 1 1 (2 : ℤ) 0 4 (batch2 0) (batch2 1)
      (reversedBatch2 2)).run 4 (fun _ _ => 1) 2 ((reversedBatch2 2).elem [1, 0, 0]) ≠
      2 * ∑ l in Finset.range 1,
          opEntry .noTrans (fun r c => (batch2 0).read (fun _ _ => (1 : ℤ)) [1, r, c]) 0 l *
            opEntry .noTrans (fun r c => (batch2 1).read (fun _ _ => (1 : ℤ)) [1, r, c]) l 0 +
        0 * (reversedBatch2 2).read (fun _ _ => 1) [1, 0, 0] := by
  decide

/-! ## The pointer-array fallback -/

/-- Collaborators under which the strided-batched kernel is unsupported and
every other call succeeds. -/
def gemm3DUnsupported : Collab ℤ :=
  ⟨id, fun _ a _ => (.noError, a), fun _ => .noError,
    fun _ k => match k with
      | .gemm3D _ => .devsupError
      | _ => .noError,
    fun _ _ => true⟩

/-- ... and under which the allocation of `C_offsets` alone returns `NULL`. -/
def gemm3DUnsupportedNullC : Collab ℤ :=
  { gemm3DUnsupported with malloc := fun s _ => s != .cOffsets }

/-- The strided-batched call `GpuArray_rgemmBatch_3d` makes for two packed
`1 × 1` float slices per operand, with `alpha = 1` and `beta = 0`. -/
def batch2Call : Gemm3DCall ℤ :=
  rgemmBatchCall3D ⟨.c, .noTrans, .noTrans, 1, 1, 1⟩ 2 1 1 1 1 0 4 (batch2 0) (batch2 1) (batch2 2)

/-- No slices, packed, at the start of buffer `d`. -/
def batch0 (d : Nat) : GpuArray :=
  ⟨d, 0, 3, [0, 1, 1], [4, 4, 4], ⟨true, true, true⟩, .float, rfl, rfl, by decide⟩

/-- The fallback calls its kernel only with an empty batch and a `NULL`
`C_offsets`: a non-`NULL` `C_offsets` fails the test, and a `NULL` one with a
slice to fill is written through. -/
theorem kernel_mem_gemmBatchFallback {io : Collab R} {prec p : Typecode} {batch : Nat}
    {k k' : Kernel R} {st : GaError} (h : Call.kernel p k' st ∈ (gemmBatchFallback io prec batch k).2) :
    batch = 0 ∧ io.malloc .cOffsets 0 = false := by
  dsimp only [gemmBatchFallback] at h
  by_cases hf : allocFailed io (batch * 8) = true
  · rw [if_pos hf] at h
    simp [hostArrays] at h
  · by_cases hb : 0 < batch
    · rw [if_neg hf, if_pos hb] at h
      simp [hostArrays] at h
    · obtain rfl : batch = 0 := by omega
      simp only [allocFailed, Nat.zero_mul, Bool.or_eq_true, not_or] at hf
      exact ⟨rfl, by simpa using hf.2⟩

/-- After the setup, the pointer-array kernel runs only with an empty batch and
a `NULL` `C_offsets`. -/
theorem gemmBatch_mem_batchDispatch {io : Collab R} {prec p : Typecode} {batch : Nat}
    {g3 : Gemm3DCall R} {kb : Kernel R} {gb : GemmBatchCall R} {st : GaError}
    (h : Call.kernel p (.gemmBatch gb) st ∈ (batchDispatch io prec batch (.gemm3D g3) kb).2) :
    batch = 0 ∧ io.malloc .cOffsets 0 = false := by
  simp only [batchDispatch] at h
  split_ifs at h
  · rcases List.mem_append.mp h with h | h
    · cases (eq_of_kernel_mem_callKernel h).2
    · exact kernel_mem_gemmBatchFallback h
  · cases (eq_of_kernel_mem_callKernel h).2

/-- The pointer-array kernel of `GpuArray_rgemmBatch_3d` runs only with an
empty batch and a `NULL` `C_offsets`. -/
theorem gemmBatch_needs_null {io : Collab R} {transA transB : CbTranspose} {alpha beta : R}
    {A B C : GpuArray} {nocopy : Bool} {prec : Typecode} {gb : GemmBatchCall R} {st : GaError}
    (hk : Event.call (.kernel prec (.gemmBatch gb) st) ∈
      (rgemmBatch3d io transA transB alpha A B beta C nocopy).trace) :
    C.dim 0 = 0 ∧ io.malloc .cOffsets 0 = false := by
  obtain ⟨batch, m, n, kk, t, held, r, hc, -, -, -, hmem⟩ := rgemmBatch3d_kernel_inv hk
  rcases mem_withSetup hmem with h | h
  · cases h
  obtain ⟨h0, hnull⟩ := gemmBatch_mem_batchDispatch h
  exact ⟨(rgemmBatchCheck_ok hc).batchC.trans h0, hnull⟩

/-- `GpuArray_rgemmBatch_3d` calls `gpublas_?gemmBatch` only when its batch is
empty and the allocation of `C_offsets` returned `NULL`: for every other
outcome of the six allocations the fallback fails or crashes. -/
theorem rgemmBatch3d_pointer_array_kernel (io : Collab R) (transA transB : CbTranspose)
    (alpha beta : R) (A B C : GpuArray) (nocopy : Bool) {prec : Typecode} {gb : GemmBatchCall R}
    {st : GaError}
    (hk : Event.call (.kernel prec (.gemmBatch gb) st) ∈
      (rgemmBatch3d io transA transB alpha A B beta C nocopy).trace) :
    C.dim 0 = 0 ∧ io.malloc .cOffsets 0 = false :=
  gemmBatch_needs_null hk

theorem rgemmBatch3d_pointer_array_kernel_empty :
    Event.call (.kernel .float (.gemmBatch (rgemmBatchCallPtrs ⟨.c, .noTrans, .noTrans, 1, 1, 1⟩ 0 1 1 1
      1 0 4 (batch0 0) (batch0 1) (batch0 2))) .noError) ∈
      (rgemmBatch3d gemm3DUnsupportedNullC .noTrans .noTrans 1 (batch0 0) (batch0 1) 0 (batch0 2)
        false).trace ∧
    (batch0 2).dim 0 = 0 :=
  ⟨by decide, (@rgemmBatch3d_pointer_array_kernel ℤ gemm3DUnsupportedNullC .noTrans .noTrans 1 0
    (batch0 0) (batch0 1) (batch0 2) false .float (rgemmBatchCallPtrs ⟨.c, .noTrans, .noTrans, 1, 1, 1⟩
      0 1 1 1 1 0 4 (batch0 0) (batch0 1) (batch0 2)) .noError (by decide)).1⟩

theorem batchDispatch_unsupported {io : Collab R} {prec : Typecode} {batch : Nat} {k3 kb : Kernel R}
    (hb : prec.isBlas = true) (hdev : io.kernel prec k3 = .devsupError)
    (halloc : io.malloc .cOffsets (batch * 8) = true) :
    (batchDispatch io prec batch k3 kb).1 = .returns .sysError := by
  simp [batchDispatch, callKernel, hb, hdev, gemmBatchFallback, allocFailed, halloc]

theorem batchDispatch_null_c_offsets {io : Collab R} {prec : Typecode} {batch : Nat}
    {k3 kb : Kernel R} (hb : prec.isBlas = true) (hdev : io.kernel prec k3 = .devsupError)
    (hfive : ∀ s, s ≠ .cOffsets → io.malloc s (batch * 8) = true)
    (hnull : io.malloc .cOffsets (batch * 8) = false) (hpos : 0 < batch) :
    (batchDispatch io prec batch k3 kb).1 = .crashes := by
  have hf : allocFailed io (batch * 8) = false := by
    simp [allocFailed, hfive _ (by decide : HostArray.aDatas ≠ .cOffsets),
      hfive _ (by decide : HostArray.bDatas ≠ .cOffsets), hfive _ (by decide : HostArray.cDatas ≠ .cOffsets),
      hfive _ (by decide : HostArray.aOffsets ≠ .cOffsets),
      hfive _ (by decide : HostArray.bOffsets ≠ .cOffsets), hnull]
  simp [batchDispatch, callKernel, hb, hdev, gemmBatchFallback, hf, hpos]

/-- The outcome of `GpuArray_rgemmBatch_3d` once the checks, the copy blocks and
the resolution went through. -/
theorem rgemmBatch3d_eq_finish {io : Collab R} {transA transB : CbTranspose} {alpha beta : R}
    {A B C : GpuArray} {nocopy : Bool} {batch m n kk : Nat} {t : List (Event R)} {held : Held}
    {r : GemmLayout} (hc : rgemmBatchCheck transA transB A B C = .ok (batch, m, n, kk))
    (ha : arbitrate io nocopy (rgemmBatchBlocks A B) = .done t held)
    (hr : rgemmBatchResolve transA transB A B C (pointer held .copyA A) (pointer held .copyB B)
      A.typecode.elsize = .ok r) :
    rgemmBatch3d io transA transB alpha A B beta C nocopy =
      finish [.copyA, .copyB] (.done t held) fun _ =>
        withSetup io (io.context (pointer held .copyA A).data) (batchDispatch io C.typecode batch
          (.gemm3D (rgemmBatchCall3D r batch m n kk alpha beta A.typecode.elsize
            (pointer held .copyA A) (pointer held .copyB B) C))
          (.gemmBatch (rgemmBatchCallPtrs r batch m n kk alpha beta A.typecode.elsize
            (pointer held .copyA A) (pointer held .copyB B) C))) := by
  simp only [rgemmBatch3d, hc, ha, finish, hr]

/-- When the strided-batched kernel reports `GA_DEVSUP_ERROR` and the
allocation of `C_offsets` succeeds, `GpuArray_rgemmBatch_3d` returns
`GA_SYS_ERROR` and never calls `gpublas_?gemmBatch`, whatever the other five
allocations return. -/
theorem rgemmBatch3d_fallback_sysError (io : Collab R) (transA transB : CbTranspose)
    (alpha beta : R) (A B C : GpuArray) (nocopy : Bool) {prec : Typecode} {g : Gemm3DCall R}
    {st : GaError}
    (hk : Event.call (.kernel prec (.gemm3D g) st) ∈
      (rgemmBatch3d io transA transB alpha A B beta C nocopy).trace)
    (hdev : io.kernel prec (.gemm3D g) = .devsupError)
    (halloc : io.malloc .cOffsets (C.dim 0 * 8) = true) :
    (rgemmBatch3d io transA transB alpha A B beta C nocopy).ending = .returns .sysError ∧
    ∀ gb st', Event.call (.kernel prec (.gemmBatch gb) st') ∉
      (rgemmBatch3d io transA transB alpha A B beta C nocopy).trace := by
  obtain ⟨batch, m, n, kk, t, held, r, hc, ha, -, hr, hmem⟩ := rgemmBatch3d_kernel_inv hk
  have hok := rgemmBatchCheck_ok hc
  have hs := setup_of_kernel_mem_withSetup hmem
  rcases mem_withSetup hmem with h | h
  · cases h
  obtain ⟨rfl, hg | hg⟩ := eq_of_kernel_mem_batchDispatch h
  swap
  · cases hg
  cases hg
  have hb : C.typecode.isBlas = true := hok.typecodeC ▸ hok.blas
  rw [hok.batchC] at halloc
  refine ⟨?_, fun gb st' hgb => ?_⟩
  · rw [rgemmBatch3d_eq_finish hc ha hr, withSetup_of_noError _ hs,
      finish_done_returns (by rw [batchDispatch_unsupported hb hdev halloc])]
  · obtain ⟨h0, hnull⟩ := gemmBatch_needs_null hgb
    rw [hok.batchC] at h0
    subst h0
    rw [halloc] at hnull
    cases hnull

theorem rgemmBatch3d_fallback_sysError_batch2 :
    Event.call (.kernel .float (.gemm3D batch2Call) .devsupError) ∈
      (rgemmBatch3d gemm3DUnsupported .noTrans .noTrans 1 (batch2 0) (batch2 1) 0 (batch2 2)
        false).trace ∧
    (rgemmBatch3d gemm3DUnsupported .noTrans .noTrans 1 (batch2 0) (batch2 1) 0 (batch2 2)
      false).ending = .returns .sysError :=
  ⟨by decide, (@rgemmBatch3d_fallback_sysError ℤ gemm3DUnsupported .noTrans .noTrans 1 0 (batch2 0)
    (batch2 1) (batch2 2) false .float batch2Call .devsupError (by decide) rfl rfl).1⟩

/-- Every allocation returns non-`NULL` after `GA_DEVSUP_ERROR`: the call
returns `GA_SYS_ERROR`, and the only kernel it ever calls is the
strided-batched one. -/
theorem rgemmBatch3d_fallback_all_allocated :
    (∀ s ∈ hostArrays, gemm3DUnsupported.malloc s 16 = true) ∧
    (rgemmBatch3d gemm3DUnsupported .noTrans .noTrans 1 (batch2 0) (batch2 1) 0 (batch2 2)
      false).ending = .returns .sysError ∧
    ((rgemmBatch3d gemm3DUnsupported .noTrans .noTrans 1 (batch2 0) (batch2 1) 0 (batch2 2)
      false).trace.filterMap Event.kernel?).map Prod.snd =
      [.gemm3D batch2Call] := by
  decide

/-- When the strided-batched kernel reports `GA_DEVSUP_ERROR`, the batch is not
empty, and the allocation of `C_offsets` alone returns `NULL`,
`GpuArray_rgemmBatch_3d` passes the test and its loop writes through
`C_offsets`. -/
theorem rgemmBatch3d_fallback_crashes (io : Collab R) (transA transB : CbTranspose)
    (alpha beta : R) (A B C : GpuArray) (nocopy : Bool) {prec : Typecode} {g : Gemm3DCall R}
    {st : GaError}
    (hk : Event.call (.kernel prec (.gemm3D g) st) ∈
      (rgemmBatch3d io transA transB alpha A B beta C nocopy).trace)
    (hdev : io.kernel prec (.gemm3D g) = .devsupError)
    (hfive : ∀ s, s ≠ .cOffsets → io.malloc s (C.dim 0 * 8) = true)
    (hnull : io.malloc .cOffsets (C.dim 0 * 8) = false) (hpos : 0 < C.dim 0) :
    (rgemmBatch3d io transA transB alpha A B beta C nocopy).ending = .crashes := by
  obtain ⟨batch, m, n, kk, t, held, r, hc, ha, -, hr, hmem⟩ := rgemmBatch3d_kernel_inv hk
  have hok := rgemmBatchCheck_ok hc
  have hs := setup_of_kernel_mem_withSetup hmem
  rcases mem_withSetup hmem with h | h
  · cases h
  obtain ⟨rfl, hg | hg⟩ := eq_of_kernel_mem_batchDispatch h
  swap
  · cases hg
  cases hg
  have hb : C.typecode.isBlas = true := hok.typecodeC ▸ hok.blas
  rw [hok.batchC] at hfive hnull hpos
  rw [rgemmBatch3d_eq_finish hc ha hr, withSetup_of_noError _ hs,
    finish_done_crashes (by rw [batchDispatch_null_c_offsets hb hdev hfive hnull hpos])]

theorem rgemmBatch3d_fallback_crashes_batch2 :
    Event.call (.kernel .float (.gemm3D batch2Call) .devsupError) ∈
      (rgemmBatch3d gemm3DUnsupportedNullC .noTrans .noTrans 1 (batch2 0) (batch2 1) 0 (batch2 2)
        false).trace ∧
    (rgemmBatch3d gemm3DUnsupportedNullC .noTrans .noTrans 1 (batch2 0) (batch2 1) 0 (batch2 2)
      false).ending = .crashes :=
  ⟨by decide, @rgemmBatch3d_fallback_crashes ℤ gemm3DUnsupportedNullC .noTrans .noTrans 1 0 (batch2 0)
    (batch2 1) (batch2 2) false .float batch2Call .devsupError (by decide) rfl
    (fun _ hs => bne_iff_ne.mpr hs) rfl (by decide)⟩

theorem gemmBatchFallback_crashes {io : Collab R} {prec : Typecode} {batch : Nat} {k : Kernel R}
    (h : (gemmBatchFallback io prec batch k).1 = .crashes) :
    allocFailed io (batch * 8) = false ∧ 0 < batch := by
  unfold gemmBatchFallback at h
  dsimp only at h
  split_ifs at h with h1 h2
  exact ⟨by simpa using h1, h2⟩

theorem batchDispatch_crashes {io : Collab R} {prec : Typecode} {batch : Nat} {k3 kb : Kernel R}
    (h : (batchDispatch io prec batch k3 kb).1 = .crashes) :
    prec.isBlas = true ∧ io.kernel prec k3 = .devsupError ∧ allocFailed io (batch * 8) = false ∧
      0 < batch := by
  unfold batchDispatch at h
  dsimp only at h
  split_ifs at h with hd
  have hb : prec.isBlas = true := by
    by_contra hb
    simp [callKernel, hb] at hd
  simp only [callKernel, hb, if_true] at hd
  exact ⟨hb, hd, gemmBatchFallback_crashes h⟩

/-- `GpuArray_rgemmBatch_3d` fails to return only by writing through a `NULL`
`C_offsets`: the strided-batched kernel was called and reported
`GA_DEVSUP_ERROR`, the other five allocations succeeded, `C_offsets` is `NULL`,
and there is a slice to fill. -/
theorem rgemmBatch3d_crash_cause (io : Collab R) (transA transB : CbTranspose) (alpha beta : R)
    (A B C : GpuArray) (nocopy : Bool)
    (h : (rgemmBatch3d io transA transB alpha A B beta C nocopy).ending = .crashes) :
    (∃ prec g, Event.call (.kernel prec (.gemm3D g) .devsupError) ∈
      (rgemmBatch3d io transA transB alpha A B beta C nocopy).trace) ∧
    (∀ s, s ≠ .cOffsets → io.malloc s (C.dim 0 * 8) = true) ∧
    io.malloc .cOffsets (C.dim 0 * 8) = false ∧ 0 < C.dim 0 := by
  revert h
  unfold rgemmBatch3d
  split
  · nofun
  · next batch m n kk hc =>
    intro h
    obtain ⟨t, held, -, hb, htr⟩ := finish_crashes h
    rw [htr]
    revert hb
    dsimp only
    split
    · nofun
    · next r _ =>
      intro hb
      obtain ⟨hs, hd⟩ := withSetup_crashes hb
      obtain ⟨hbl, hdev, hf, hpos⟩ := batchDispatch_crashes hd
      rw [← (rgemmBatchCheck_ok hc).batchC] at hf hpos
      simp only [allocFailed, Bool.or_eq_false_iff, Bool.not_eq_false'] at hf
      obtain ⟨⟨⟨⟨⟨ha1, ha2⟩, ha3⟩, ha4⟩, ha5⟩, ha6⟩ := hf
      refine ⟨⟨C.typecode, rgemmBatchCall3D r batch m n kk alpha beta A.typecode.elsize
        (pointer held .copyA A) (pointer held .copyB B) C, ?_⟩, fun s hs => ?_, ha6, hpos⟩
      · rw [withSetup_of_noError _ hs]
        simp [batchDispatch, callKernel, hbl, hdev]
      · cases s <;> first | assumption | exact absurd rfl hs

theorem rgemmBatch3d_crash_cause_batch2 :
    (rgemmBatch3d gemm3DUnsupportedNullC .noTrans .noTrans 1 (batch2 0) (batch2 1) 0 (batch2 2)
      false).ending = .crashes ∧
    gemm3DUnsupportedNullC.malloc .cOffsets ((batch2 2).dim 0 * 8) = false :=
  ⟨by decide, (rgemmBatch3d_crash_cause gemm3DUnsupportedNullC .noTrans .noTrans 1 0 (batch2 0)
    (batch2 1) (batch2 2) false (by decide)).2.2.1⟩

theorem gemmBatchFallback_hostFreedOnce {io : Collab R} {prec : Typecode} {batch : Nat}
    {k : Kernel R} (h : (gemmBatchFallback io prec batch k).1 ≠ .crashes) :
    HostFreedOnce ((gemmBatchFallback io prec batch k).2.map Event.call) := by
  dsimp only [gemmBatchFallback] at h ⊢
  by_cases hf : allocFailed io (batch * 8) = true
  · rw [if_pos hf]
    rfl
  · by_cases hb : 0 < batch
    · rw [if_neg hf, if_pos hb] at h
      exact absurd rfl h
    · rw [if_neg hf, if_neg hb]
      unfold callKernel
      split <;> rfl

theorem batchDispatch_hostFreedOnce {io : Collab R} {prec : Typecode} {batch : Nat}
    {k3 kb : Kernel R} (h : (batchDispatch io prec batch k3 kb).1 ≠ .crashes) :
    HostFreedOnce ((batchDispatch io prec batch k3 kb).2.map Event.call) := by
  have hk : HostFreedOnce ((callKernel io .noError prec k3).2.map Event.call) := by
    unfold callKernel
    split_ifs <;> rfl
  unfold batchDispatch at h ⊢
  dsimp only at h ⊢
  split_ifs at h ⊢
  · rw [List.map_append]
    exact hk.append (gemmBatchFallback_hostFreedOnce h)
  · exact hk

/-- On every path of `GpuArray_rgemmBatch_3d` that returns, each host array it
allocated is freed exactly once and nothing else is freed. -/
theorem rgemmBatch3d_host_arrays_freed (io : Collab R) (transA transB : CbTranspose)
    (alpha beta : R) (A B C : GpuArray) (nocopy : Bool)
    (h : (rgemmBatch3d io transA transB alpha A B beta C nocopy).ending ≠ .crashes) :
    HostFreedOnce (rgemmBatch3d io transA transB alpha A B beta C nocopy).trace := by
  revert h
  unfold rgemmBatch3d
  split
  · exact fun _ => rfl
  · refine finish_hostFreedOnce io nocopy _ _ fun held hb => ?_
    revert hb
    dsimp only
    split
    · exact fun _ => rfl
    · exact withSetup_hostFreedOnce batchDispatch_hostFreedOnce

theorem rgemmBatch3d_host_arrays_freed_batch2 :
    (rgemmBatch3d gemm3DUnsupported .noTrans .noTrans 1 (batch2 0) (batch2 1) 0 (batch2 2)
      false).ending ≠ .crashes ∧
    HostFreedOnce (rgemmBatch3d gemm3DUnsupported .noTrans .noTrans 1 (batch2 0) (batch2 1) 0
      (batch2 2) false).trace :=
  ⟨by decide, rgemmBatch3d_host_arrays_freed _ _ _ _ _ _ _ _ _ (by decide)⟩

end GpuArrayBlas
