import GpuArrayBlas.Blas.Gemv
import GpuArrayBlas.Blas.Spec

/-!
# `GpuArray_rgemm`

`GpuArray_rgemm(transA, transB, alpha, A, B, beta, C, nocopy)` checks its
operands, copies `A` and `B` into column-major temporaries when they are not one
segment, takes the call's order from `C`, flips the transpose flag of every
operand stored in the other order, and calls `gpublas_?gemm`.

The main result, `rgemm_kernel_correct`, holds for every collaborator
behaviour, every operand tuple and every flag: whenever the entry point calls
its kernel, the three leading dimensions cover the matrices they span, and the
reference `gemm` on the call's arguments sets every logical `C[i][j]` to
`alpha * Σ op(A)[i][l] * op(B)[l][j] + beta * C[i][j]`, with `op` the caller's
own transposes of the caller's own logical matrices, and changes nothing else.
It is assembled from the inversion lemma `rgemm_kernel_inv` (what must have
happened for the trace to hold a kernel call) and `gemmCall_correct` (the
arithmetic of the resolver).
-/

set_option autoImplicit false

namespace GpuArrayBlas

/-- The checks of `GpuArray_rgemm` before any copy, in source order; on
success the extents `m`, `n`, `k` of the product. -/
def rgemmCheck (transA transB : CbTranspose) (A B C : GpuArray) :
    Except Failure (Nat × Nat × Nat) :=
  if !A.typecode.isBlas then .error ⟨.invalidError, "Unsupported dtype"⟩
  else if A.nd ≠ 2 ∨ B.nd ≠ 2 ∨ C.nd ≠ 2 then
    .error ⟨.valueError, "Wrong number of dimensions: A->nd = " ++ toString A.nd ++
      " (expected 2), B->nd = " ++ toString B.nd ++ " (expected 2), C->nd = " ++
      toString C.nd ++ " (expected 2)"⟩
  else if B.typecode ≠ A.typecode ∨ C.typecode ≠ A.typecode then
    .error ⟨.valueError, "Inconsistent dtypes"⟩
  else if !A.flags.aligned || !B.flags.aligned || !C.flags.aligned then
    .error ⟨.unalignedError, "Unaligned inputs"⟩
  else if (transB.opShape (B.dim 0) (B.dim 1)).1 ≠ (transA.opShape (A.dim 0) (A.dim 1)).2 then
    .error ⟨.valueError, "mismatched shapes"⟩
  else if C.dim 0 ≠ (transA.opShape (A.dim 0) (A.dim 1)).1 ∨
      C.dim 1 ≠ (transB.opShape (B.dim 0) (B.dim 1)).2 then
    .error ⟨.valueError, "mismatched shapes"⟩
  else .ok ((transA.opShape (A.dim 0) (A.dim 1)).1, (transB.opShape (B.dim 0) (B.dim 1)).2,
    (transA.opShape (A.dim 0) (A.dim 1)).2)

/-- The copy blocks of `GpuArray_rgemm`: `A`, then `B`, into column-major
temporaries when they are not one segment. -/
def rgemmBlocks (A B : GpuArray) : List CopyBlock :=
  [⟨.copyA, A, !A.isOneSegment, .f, "Need copy for A"⟩,
   ⟨.copyB, B, !B.isOneSegment, .f, "Need copy for B"⟩]

/-- Order, transpose flags and leading dimensions of a `gemm` call. -/
structure GemmLayout where
  order : CbOrder
  transA : CbTranspose
  transB : CbTranspose
  lda : Nat
  ldb : Nat
  ldc : Nat
  deriving DecidableEq, Repr

/-- The checks of `GpuArray_rgemm` after the copy blocks, and the resolved
layout: `C` must be one segment and fixes the order, `A` and `B` follow. -/
def rgemmResolve (transA transB : CbTranspose) (C Ap Bp : GpuArray) : Except Failure GemmLayout :=
  if !C.isOneSegment then .error ⟨.valueError, "Noncontiguous C"⟩
  else
    match orderOf C "Noncontiguous C" with
    | .error f => .error f
    | .ok (o, ldc) =>
      match operandLayout o Ap transA "Noncontiguous A",
        operandLayout o Bp transB "Noncontiguous B" with
      | .error f, _ => .error f
      | .ok _, .error f => .error f
      | .ok (lda, tA), .ok (ldb, tB) => .ok ⟨o, tA, tB, lda, ldb, ldc⟩

variable {R : Type}

/-- The `gemm` call of `GpuArray_rgemm` for a resolved layout. -/
def rgemmCall (r : GemmLayout) (m n k : Nat) (alpha beta : R) (e : Nat) (Ap Bp C : GpuArray) :
    GemmCall R :=
  ⟨r.order, r.transA, r.transB, m, n, k, alpha, Ap.data, Ap.offset / e, r.lda, Bp.data,
    Bp.offset / e, r.ldb, beta, C.data, C.offset / e, r.ldc⟩

/-- `GpuArray_rgemm(transA, transB, alpha, A, B, beta, C, nocopy)`. -/
def rgemm (io : Collab R) (transA transB : CbTranspose) (alpha : R) (A B : GpuArray) (beta : R)
    (C : GpuArray) (nocopy : Bool) : Outcome R :=
  match rgemmCheck transA transB A B C with
  | .error f => f.returned
  | .ok (m, n, k) =>
    finish [.copyA, .copyB] (arbitrate io nocopy (rgemmBlocks A B)) fun held =>
      let Ap := pointer held .copyA A
      let Bp := pointer held .copyB B
      match rgemmResolve transA transB C Ap Bp with
      | .error f => f.body
      | .ok r => dispatch io (io.context Ap.data) Ap.typecode
          (.gemm (rgemmCall r m n k alpha beta A.typecode.elsize Ap Bp C))

/-! ## Checks and resolution -/

/-- What the checks of `GpuArray_rgemm` establish before any copy. -/
structure GemmChecked (transA transB : CbTranspose) (A B C : GpuArray) (m n k : Nat) : Prop where
  blas : A.typecode.isBlas = true
  ndA : A.nd = 2
  ndB : B.nd = 2
  ndC : C.nd = 2
  typecodeB : B.typecode = A.typecode
  typecodeC : C.typecode = A.typecode
  alignedA : A.flags.aligned = true
  alignedB : B.flags.aligned = true
  alignedC : C.flags.aligned = true
  shapeA : transA.opShape (A.dim 0) (A.dim 1) = (m, k)
  shapeB : transB.opShape (B.dim 0) (B.dim 1) = (k, n)
  rowsC : C.dim 0 = m
  colsC : C.dim 1 = n

theorem rgemmCheck_ok {transA transB : CbTranspose} {A B C : GpuArray} {m n k : Nat}
    (h : rgemmCheck transA transB A B C = .ok (m, n, k)) : GemmChecked transA transB A B C m n k := by
  unfold rgemmCheck at h
  obtain ⟨h1, h⟩ := ite_error_eq_ok h
  obtain ⟨h2, h⟩ := ite_error_eq_ok h
  obtain ⟨h3, h⟩ := ite_error_eq_ok h
  obtain ⟨h4, h⟩ := ite_error_eq_ok h
  obtain ⟨h5, h⟩ := ite_error_eq_ok h
  obtain ⟨h6, h⟩ := ite_error_eq_ok h
  simp only [Except.ok.injEq, Prod.mk.injEq] at h
  obtain ⟨rfl, rfl, rfl⟩ := h
  simp only [Bool.not_eq_eq_eq_not, Bool.not_true, Bool.not_eq_false, ne_eq, not_or,
    Decidable.not_not, Bool.or_eq_true] at h1 h2 h3 h4 h5 h6
  exact ⟨h1, h2.1, h2.2.1, h2.2.2, h3.1, h3.2, h4.1.1, h4.1.2, h4.2, rfl,
    Prod.ext h5 rfl, h6.1, h6.2⟩

/-- The converse: operands with every fact the checks establish pass them,
with the shapes they record. -/
theorem rgemmCheck_eq_ok {transA transB : CbTranspose} {A B C : GpuArray} {m n k : Nat}
    (h : GemmChecked transA transB A B C m n k) : rgemmCheck transA transB A B C = .ok (m, n, k) := by
  simp [rgemmCheck, h.blas, h.ndA, h.ndB, h.ndC, h.typecodeB, h.typecodeC, h.alignedA, h.alignedB,
    h.alignedC, h.shapeA, h.shapeB, h.rowsC, h.colsC]

theorem rgemmCheck_code {transA transB : CbTranspose} {A B C : GpuArray} {f : Failure}
    (h : rgemmCheck transA transB A B C = .error f) : f.code ≠ .noError := by
  unfold rgemmCheck at h
  repeat refine code_of_ite_error h nofun fun f h => ?_
  cases h

/-- What a successful resolution of `GpuArray_rgemm` read off its operands. -/
theorem rgemmResolve_ok {transA transB : CbTranspose} {C Ap Bp : GpuArray} {r : GemmLayout}
    (h : rgemmResolve transA transB C Ap Bp = .ok r) :
    orderOf C "Noncontiguous C" = .ok (r.order, r.ldc) ∧
    operandLayout r.order Ap transA "Noncontiguous A" = .ok (r.lda, r.transA) ∧
    operandLayout r.order Bp transB "Noncontiguous B" = .ok (r.ldb, r.transB) := by
  unfold rgemmResolve at h
  split_ifs at h
  split at h
  · cases h
  · rename_i o ldc ho
    split at h
    · cases h
    · cases h
    · rename_i lda tA ldb tB ha hb
      cases h
      exact ⟨ho, ha, hb⟩

/-- The converse: a `C` and pointer variables of one segment resolve. -/
theorem rgemmResolve_ok_of_oneSegment (transA transB : CbTranspose) {C Ap Bp : GpuArray}
    (hC : C.isOneSegment = true) (hA : Ap.isOneSegment = true) (hB : Bp.isOneSegment = true) :
    ∃ r, rgemmResolve transA transB C Ap Bp = .ok r := by
  obtain ⟨⟨o, ldc⟩, hoC⟩ := orderOf_ok_of_oneSegment "Noncontiguous C" hC
  obtain ⟨⟨lda, tA⟩, hoA⟩ := operandLayout_ok_of_oneSegment o transA "Noncontiguous A" hA
  obtain ⟨⟨ldb, tB⟩, hoB⟩ := operandLayout_ok_of_oneSegment o transB "Noncontiguous B" hB
  exact ⟨⟨o, tA, tB, lda, ldb, ldc⟩, by simp [rgemmResolve, hC, hoC, hoA, hoB]⟩

theorem rgemmResolve_code {transA transB : CbTranspose} {C Ap Bp : GpuArray} {f : Failure}
    (h : rgemmResolve transA transB C Ap Bp = .error f) : f.code ≠ .noError := by
  unfold rgemmResolve at h
  split_ifs at h
  · cases h
    nofun
  · split at h
    · cases h
      exact orderOf_code ‹_›
    · split at h
      · cases h
        exact operandLayout_code ‹_›
      · cases h
        exact operandLayout_code ‹_›
      · cases h

/-! ## The arithmetic of the call -/

section Arithmetic

variable [Semiring R]

/-- The `gemm` call built from a successful resolution is valid for BLAS and
computes the product of the caller's matrices into `C`, leaving every other
address alone. -/
theorem gemmCall_correct (mem : Mem R) (alpha beta : R) {transA transB : CbTranspose}
    {A B C Ap Bp : GpuArray} {m n k e : Nat} {r : GemmLayout}
    (hr : rgemmResolve transA transB C Ap Bp = .ok r) (hC : MatrixSound C)
    (hA : StandsFor mem A Ap) (hB : StandsFor mem B Bp)
    (hmk : transA.opShape (A.dim 0) (A.dim 1) = (m, k))
    (hkn : transB.opShape (B.dim 0) (B.dim 1) = (k, n)) (hCm : C.dim 0 = m) (hCn : C.dim 1 = n)
    (heA : A.itemsize = e) (heB : B.itemsize = e) (heC : C.itemsize = e) (he : 0 < e) :
    (rgemmCall r m n k alpha beta e Ap Bp C).LdValid ∧
    (∀ i < m, ∀ j < n, (rgemmCall r m n k alpha beta e Ap Bp C).run e mem C.data (C.elem [i, j]) =
      alpha * ∑ l in Finset.range k,
          opEntry transA (fun r c => A.read mem [r, c]) i l *
            opEntry transB (fun r c => B.read mem [r, c]) l j +
        beta * C.read mem [i, j]) ∧
    (∀ buf a, (∀ i < m, ∀ j < n, (buf, a) ≠ (C.data, C.elem [i, j])) →
      (rgemmCall r m n k alpha beta e Ap Bp C).run e mem buf a = mem buf a) := by
  obtain ⟨hoC, hoA, hoB⟩ := rgemmResolve_ok hr
  obtain ⟨hldc, hplace⟩ := orderOf_place hoC hC
  rw [hCm, hCn] at hldc
  rw [heC] at hplace
  obtain ⟨hlda, hreadA⟩ := hA.operandLayout_read hoA hmk
  obtain ⟨hldb, hreadB⟩ := hB.operandLayout_read hoB hkn
  rw [heA] at hreadA
  rw [heB] at hreadB
  -- the kernel's cells are `C`'s logical elements, at distinct places
  have hcell : ∀ p ∈ cells2 m n,
      matAddr e r.order (C.offset / e) r.ldc p.1 p.2 = C.elem [p.1, p.2] := fun p hp => by
    rw [mem_cells2] at hp
    exact hplace p.1 (hCm ▸ hp.1) p.2 (hCn ▸ hp.2)
  have hinj : ∀ p ∈ cells2 m n, ∀ q ∈ cells2 m n,
      (C.data, matAddr e r.order (C.offset / e) r.ldc p.1 p.2) =
        (C.data, matAddr e r.order (C.offset / e) r.ldc q.1 q.2) → p = q :=
    fun p hp q hq hpq => matAddr_inj he hldc hp hq (Prod.mk.inj hpq).2
  refine ⟨⟨hlda, hldb, hldc⟩, fun i hi j hj => ?_, fun buf a hout => ?_⟩
  · have hij : (i, j) ∈ cells2 m n := mem_cells2.mpr ⟨hi, hj⟩
    rw [← hcell (i, j) hij]
    refine (writeCells_place hinj hij).trans ?_
    simp only [rgemmCall, GemmCall.readA, GemmCall.readB, GpuArray.read]
    rw [hcell (i, j) hij]
    congr 2
    refine Finset.sum_congr rfl fun l hl => ?_
    rw [Finset.mem_range] at hl
    exact congrArg₂ (· * ·) (hreadA i hi l hl) (hreadB l hl j hj)
  · refine writeCells_of_not_placed fun p hp hpa => hout p.1 (mem_cells2.mp hp).1 p.2
      (mem_cells2.mp hp).2 (hpa.symm.trans (congrArg (Prod.mk C.data) (hcell p hp)))

end Arithmetic

/-! ## The kernel call -/

/-- What must have happened for the trace of `GpuArray_rgemm` to hold a kernel
call: the checks passed, the copy blocks went through and their trace heads the
call's, the resolver succeeded on the pointer variables, and the kernel is the
`gemm` built from them at the precision of `Ap`. -/
theorem rgemm_kernel_inv {io : Collab R} {transA transB : CbTranspose} {alpha beta : R}
    {A B C : GpuArray} {nocopy : Bool} {prec : Typecode} {k : Kernel R} {st : GaError}
    (hk : Event.call (.kernel prec k st) ∈ (rgemm io transA transB alpha A B beta C nocopy).trace) :
    ∃ m n kk t held r, rgemmCheck transA transB A B C = .ok (m, n, kk) ∧
      arbitrate io nocopy (rgemmBlocks A B) = .done t held ∧
      t <+: (rgemm io transA transB alpha A B beta C nocopy).trace ∧
      rgemmResolve transA transB C (pointer held .copyA A) (pointer held .copyB B) = .ok r ∧
      prec = (pointer held .copyA A).typecode ∧
      k = .gemm (rgemmCall r m n kk alpha beta A.typecode.elsize (pointer held .copyA A)
        (pointer held .copyB B) C) := by
  cases hc : rgemmCheck transA transB A B C with
  | error f => simp [rgemm, hc, Failure.returned, Failure.call] at hk
  | ok mnk =>
    obtain ⟨m, n, kk⟩ := mnk
    simp only [rgemm, hc] at hk ⊢
    obtain ⟨t, held, ha, c, hc', hev⟩ := finish_kernel io nocopy (by simp [rgemmBlocks]) _ _ hk
      (by simp [Event.kernel?])
    cases hev
    refine ⟨m, n, kk, t, held, ?_⟩
    rw [ha]
    split at hc'
    · simp [Failure.body, Failure.call] at hc'
    · rename_i r hr
      obtain ⟨rfl, rfl⟩ := eq_of_kernel_mem_dispatch hc'
      exact ⟨r, rfl, rfl, prefix_finish_done t held, hr, rfl, rfl⟩

section Correct

variable [Semiring R]

/-- The `gemm` that a call which got through its checks, blocks and resolver
hands to the backend, over copies that hold their sources' elements: its
leading dimensions are valid and its reference meaning `Updates` `C` to what
the product is for. -/
theorem gemmCall_updates (mem : Mem R) {io : Collab R} {transA transB : CbTranspose}
    (alpha beta : R) {A B C : GpuArray} {nocopy : Bool} {m n k : Nat} {t : List (Event R)}
    {held : Held} {r : GemmLayout} (hA : A.FlagsSound) (hB : B.FlagsSound) (hC : C.FlagsSound)
    (hc : rgemmCheck transA transB A B C = .ok (m, n, k))
    (ha : arbitrate io nocopy (rgemmBlocks A B) = .done t held)
    (hr : rgemmResolve transA transB C (pointer held .copyA A) (pointer held .copyB B) = .ok r)
    (hcopies : CopiesSound mem t) :
    (rgemmCall r m n k alpha beta A.typecode.elsize (pointer held .copyA A) (pointer held .copyB B)
      C).LdValid ∧
    Updates mem ((rgemmCall r m n k alpha beta A.typecode.elsize (pointer held .copyA A)
      (pointer held .copyB B) C).run A.itemsize mem) C (gemmSpec mem transA transB alpha A B beta C) := by
  have hok := rgemmCheck_ok hc
  have hnd : ((rgemmBlocks A B).map CopyBlock.slot).Nodup := by simp [rgemmBlocks]
  have hAp : StandsFor mem A (pointer held .copyA A) := StandsFor.of_arbitrate hnd ha
    (List.mem_cons_self _ _) (.of_flagsSound hok.ndA hA hok.alignedA) hcopies
  have hBp : StandsFor mem B (pointer held .copyB B) := StandsFor.of_arbitrate hnd ha
    (List.mem_cons_of_mem _ (List.mem_cons_self _ _)) (.of_flagsSound hok.ndB hB hok.alignedB) hcopies
  obtain ⟨hld, hval, hframe⟩ := gemmCall_correct mem alpha beta hr
    (.of_flagsSound hok.ndC hC hok.alignedC) hAp hBp hok.shapeA hok.shapeB hok.rowsC hok.colsC
    rfl (congrArg Typecode.elsize hok.typecodeB) (congrArg Typecode.elsize hok.typecodeC)
    (Typecode.elsize_pos hok.blas)
  refine ⟨hld, Updates.of_two hok.ndC (fun i hi j hj => ?_) fun buf a hout =>
    hframe buf a fun i hi j hj => hout i (hok.rowsC ▸ hi) j (hok.colsC ▸ hj)⟩
  rw [hok.rowsC] at hi
  rw [hok.colsC] at hj
  simpa only [gemmSpec, hok.shapeA] using hval i hi j hj

/-- `GpuArray_rgemm` calls a correct product.  For every behaviour of the
collaborators, every `nocopy`, every transpose and all operands whose flags tell
no lie: whenever the call reaches its kernel, the leading dimensions cover the
matrices they span, the reference `gemm` of the call sets every logical
`C[i][j]` to `alpha * Σ op(A)[i][l] * op(B)[l][j] + beta * C[i][j]` over the
caller's own matrices and transposes, and it writes nowhere else.  The copies
are read as `GpuArray_copy` documents them: packed, with their source's
elements (`CopiesSound`).  `C`'s elements need no separate distinctness
assumption: the resolver only accepts a one-segment `C`. -/
theorem rgemm_kernel_correct (io : Collab R) (mem : Mem R) (transA transB : CbTranspose)
    (alpha beta : R) (A B C : GpuArray) (nocopy : Bool) (hA : A.FlagsSound) (hB : B.FlagsSound)
    (hC : C.FlagsSound) {prec : Typecode} {g : GemmCall R} {st : GaError}
    (hk : Event.call (.kernel prec (.gemm g) st) ∈
      (rgemm io transA transB alpha A B beta C nocopy).trace)
    (hcopies : CopiesSound mem (rgemm io transA transB alpha A B beta C nocopy).trace) :
    g.LdValid ∧
    (∀ i < C.dim 0, ∀ j < C.dim 1, g.run prec.elsize mem C.data (C.elem [i, j]) =
      alpha * ∑ l in Finset.range (transA.opShape (A.dim 0) (A.dim 1)).2,
          opEntry transA (fun r c => A.read mem [r, c]) i l *
            opEntry transB (fun r c => B.read mem [r, c]) l j +
        beta * C.read mem [i, j]) ∧
    (∀ buf a, (∀ i < C.dim 0, ∀ j < C.dim 1, (buf, a) ≠ (C.data, C.elem [i, j])) →
      g.run prec.elsize mem buf a = mem buf a) := by
  obtain ⟨m, n, kk, t, held, r, hc, ha, hpre, hr, rfl, hg⟩ := rgemm_kernel_inv hk
  cases hg
  have hok := rgemmCheck_ok hc
  have hnd : ((rgemmBlocks A B).map CopyBlock.slot).Nodup := by simp [rgemmBlocks]
  have hAp : StandsFor mem A (pointer held .copyA A) :=
    StandsFor.of_arbitrate hnd ha (by simp [rgemmBlocks] : ⟨.copyA, A, !A.isOneSegment, .f,
      "Need copy for A"⟩ ∈ rgemmBlocks A B) (.of_flagsSound hok.ndA hA hok.alignedA)
      (hcopies.of_subset hpre.subset)
  have hBp : StandsFor mem B (pointer held .copyB B) :=
    StandsFor.of_arbitrate hnd ha (by simp [rgemmBlocks] : ⟨.copyB, B, !B.isOneSegment, .f,
      "Need copy for B"⟩ ∈ rgemmBlocks A B) (.of_flagsSound hok.ndB hB hok.alignedB)
      (hcopies.of_subset hpre.subset)
  obtain ⟨hld, hval, hframe⟩ := gemmCall_correct mem alpha beta hr
    (.of_flagsSound hok.ndC hC hok.alignedC) hAp hBp hok.shapeA hok.shapeB hok.rowsC hok.colsC
    rfl (congrArg Typecode.elsize hok.typecodeB) (congrArg Typecode.elsize hok.typecodeC)
    (Typecode.elsize_pos hok.blas)
  have he : (pointer held .copyA A).typecode.elsize = A.itemsize := hAp.itemsize
  rw [he, hok.rowsC, hok.colsC, hok.shapeA]
  exact ⟨hld, hval, hframe⟩

end Correct

theorem rgemm_kernel_correct_colMajor :
    Event.call (.kernel .float (.gemm (rgemmCall ⟨.fortran, .noTrans, .noTrans, 2, 2, 2⟩ 2 2 2 1 0 4
      (colMajor2x2 0) (colMajor2x2 1) (colMajor2x2 2))) .noError) ∈
      (rgemm (Collab.succeeding ℤ) .noTrans .noTrans 1 (colMajor2x2 0) (colMajor2x2 1) 0
        (colMajor2x2 2) false).trace ∧
    (rgemmCall ⟨.fortran, .noTrans, .noTrans, 2, 2, 2⟩ 2 2 2 (1 : ℤ) 0 4 (colMajor2x2 0)
      (colMajor2x2 1) (colMajor2x2 2)).LdValid :=
  ⟨by decide, (@rgemm_kernel_correct ℤ _ (Collab.succeeding ℤ) (fun _ _ => 0) .noTrans .noTrans 1 0
    (colMajor2x2 0) (colMajor2x2 1) (colMajor2x2 2) false (by decide) (by decide) (by decide) .float _
    .noError (by decide) (.of_noCopies (by decide))).1⟩

end GpuArrayBlas
