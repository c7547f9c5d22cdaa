import GpuArrayBlas.Blas.Batch

/-!
# The five entry points side by side

What the five entry points share is proved once, over the copy blocks and the
`cleanup:` label (`Arbitrate`), and then for each entry point from its shape:
validation, then `finish` over its copy blocks.

* `temporaries_cleared_once`: on every path that returns, each temporary
  `GpuArray_copy` produced is cleared exactly once and nothing else is cleared;
  under `nocopy`, `GpuArray_copy` is never called, and an input that fails one
  of the source's copy tests (a negative vector stride, a matrix that is not
  one segment, a batch operand of class `0`) once validation passed makes the
  call return `GA_COPY_ERROR` before any kernel runs (`CopyDiscipline`); on
  operands that pass every copy test, `nocopy` changes nothing
  (`nocopy_irrelevant_without_copies`).
* `rgemv_rejects` and its siblings: operands that fail what an entry point
  requires of them (`GemvAdmits`, ...) make it return a nonzero status without
  calling a kernel, so the output, which only a kernel writes, is left as it
  was.  What `GpuArray_rdot` requires leaves out equal typecodes
  (`rdot_dtype_mismatch_kernel`).
* `rgemv_noError_ran_kernel` and its siblings: an entry point reports
  `GA_NO_ERROR` only after its kernel ran and returned `GA_NO_ERROR`, so a
  caller that sees success can rely on the kernel's contract
  (`rgemv_kernel_correct`).  Of `GpuArray_copy` this asks only that a copy keep
  its typecode: a pointer variable of another typecode matches no case of the
  switch and leaves the setup's `GA_NO_ERROR` in `err`.
* `rgemv_runs_kernel` and its siblings, the converse: on operands an entry
  point admits, when `GpuArray_copy` hands back packed copies and
  `gpublas_setup` succeeds, the kernel runs and the entry point returns its
  status.  The packed copies are load bearing: a copy whose flags name no order
  is refused after the blocks.  `GpuArray_rgemmBatch_3d` asks only that its
  copies succeed, since it takes every copy to be row-major, and returns the
  kernel's status unless it is `GA_DEVSUP_ERROR`, which goes to the fallback.
* `rgemm_correct` and `rgemmBatch3d_correct` join the two halves for the matrix
  products: on admitted operands, when each copy is packed and holds its
  source's elements, the kernel runs and its reference meaning `Updates` `C` to
  what the product is for (`gemmSpec`, `gemmBatchSpec`).  Conversely, for all
  five entry points (`rdot_noError_correct`, `rgemv_noError_correct`,
  `rgemm_noError_correct`, `rger_noError_correct`,
  `rgemmBatch3d_noError_correct`): whatever the collaborators did, a call that
  reports `GA_NO_ERROR` ran a kernel whose meaning is the update its output is
  for.
-/

set_option autoImplicit false

namespace GpuArrayBlas

variable {R : Type}

/-! ## Temporaries -/

/-- Under `nocopy`, a block that needs a copy ends the blocks with
`GA_COPY_ERROR`. -/
theorem arbitrate_true_returned {io : Collab R} :
    ∀ {bs : List CopyBlock}, (∃ b ∈ bs, b.needs = true) →
      ∃ t, arbitrate io true bs = .returned .copyError t
  | [], ⟨_, hb, _⟩ => nomatch hb
  | b :: bs, ⟨b', hb', hn⟩ => by
    unfold arbitrate
    by_cases hneeds : b.needs = true
    · exact ⟨[.call (.error .copyError b.msg)], by simp [hneeds]⟩
    · rw [if_neg hneeds]
      rcases List.mem_cons.mp hb' with rfl | hb'
      · exact absurd hn hneeds
      · exact arbitrate_true_returned ⟨b', hb', hn⟩

/-- What an entry point does with temporaries on a run `o` with flag `nocopy`;
`needsCopy` says that validation passed and some input needs a copy. -/
structure CopyDiscipline (nocopy : Bool) (needsCopy : Prop) (o : Outcome R) : Prop where
  /-- on every path that returns, the clears are the successful copies -/
  cleanupExact : o.ending ≠ .crashes → CleanupExact o.trace
  /-- `nocopy` never copies -/
  noCopies : nocopy = true → NoCopies o.trace
  /-- `nocopy` refuses an input that needs a copy, before any kernel -/
  copyError : nocopy = true → needsCopy → o.ending = .returns .copyError ∧ NoKernel o.trace

namespace CopyDiscipline

variable {nocopy : Bool} {P Q : Prop} {o : Outcome R}

theorem mono (h : CopyDiscipline nocopy P o) (hQ : Q → P) : CopyDiscipline nocopy Q o :=
  ⟨h.cleanupExact, h.noCopies, fun hn hq => h.copyError hn (hQ hq)⟩

/-- A check that fails ahead of the copy blocks. -/
theorem of_returned (f : Failure) (hP : ¬P) : CopyDiscipline nocopy P (f.returned : Outcome R) := by
  refine ⟨fun _ => rfl, fun _ ev hev => ?_, fun _ h => absurd h hP⟩
  simp only [Failure.returned, List.mem_singleton] at hev
  subst hev
  rfl

/-- The copy blocks and the rest of the call, joined at `cleanup:`. -/
theorem of_finish (io : Collab R) (bs : List CopyBlock) (hnd : (bs.map CopyBlock.slot).Nodup)
    (body : Held → Ending × List (Call R)) :
    CopyDiscipline nocopy (∃ b ∈ bs, b.needs = true)
      (finish (bs.map CopyBlock.slot) (arbitrate io nocopy bs) body) := by
  refine ⟨finish_cleanupExact io nocopy hnd body, fun hn => ?_, fun hn hneeds => ?_⟩
  · subst hn
    exact finish_noCopies io hnd _ body
  · subst hn
    obtain ⟨t, ht⟩ := arbitrate_true_returned hneeds
    have hl := arbitrate_ledger io true bs hnd
    rw [ht] at hl ⊢
    exact ⟨rfl, hl.2.2.2.2⟩

/-- Errors logged ahead of the run, which neither copy, clear nor call a
kernel. -/
theorem afterCalls (fs : List Failure) (h : CopyDiscipline nocopy P o) :
    CopyDiscipline nocopy P (o.afterCalls (fs.map Failure.call)) := by
  have hcalls : ∀ ev ∈ ((fs.map Failure.call).map Event.call : List (Event R)),
      ev.isCopy = false ∧ ev.kernel? = none := fun ev hev => by
    obtain ⟨c, hc, rfl⟩ := List.mem_map.mp hev
    obtain ⟨f, -, rfl⟩ := List.mem_map.mp hc
    exact ⟨rfl, rfl⟩
  refine ⟨fun hc => ?_, fun hn ev hev => ?_, fun hn hP => ?_⟩
  · simpa only [Outcome.afterCalls, CleanupExact, List.filterMap_append, filterMap_cleared_map_call,
      filterMap_produced_map_call, List.nil_append] using h.cleanupExact hc
  · rcases List.mem_append.mp hev with hev | hev
    · exact (hcalls ev hev).1
    · exact h.noCopies hn ev hev
  · obtain ⟨he, hk⟩ := h.copyError hn hP
    refine ⟨he, fun ev hev => ?_⟩
    rcases List.mem_append.mp hev with hev | hev
    · exact (hcalls ev hev).2
    · exact hk ev hev

end CopyDiscipline

section Entries

variable (io : Collab R) (nocopy : Bool)

theorem rdot_copyDiscipline (X Y Z : GpuArray) :
    CopyDiscipline nocopy ((rdotCheck X Y Z).2 = .ok () ∧ (X.stride 0 < 0 ∨ Y.stride 0 < 0))
      (rdot io X Y Z nocopy) := by
  unfold rdot
  refine .afterCalls _ ?_
  split
  · next f hf => exact .of_returned f fun h => by cases hf.symm.trans h.1
  · exact (CopyDiscipline.of_finish io (rdotBlocks X Y) (by simp [rdotBlocks]) _).mono
      fun h => by simpa [rdotBlocks] using h.2

theorem rgemv_copyDiscipline (transA : CbTranspose) (alpha : R) (A X : GpuArray) (beta : R)
    (Y : GpuArray) :
    CopyDiscipline nocopy
      (rgemvCheck transA A X Y = .ok () ∧ (A.isOneSegment = false ∨ X.stride 0 < 0))
      (rgemv io transA alpha A X beta Y nocopy) := by
  unfold rgemv
  split
  · next f hf => exact .of_returned f fun h => by cases hf.symm.trans h.1
  · exact (CopyDiscipline.of_finish io (rgemvBlocks A X) (by simp [rgemvBlocks]) _).mono
      fun h => by simpa [rgemvBlocks] using h.2

theorem rgemm_copyDiscipline (transA transB : CbTranspose) (alpha : R) (A B : GpuArray) (beta : R)
    (C : GpuArray) :
    CopyDiscipline nocopy ((∃ v, rgemmCheck transA transB A B C = .ok v) ∧
        (A.isOneSegment = false ∨ B.isOneSegment = false))
      (rgemm io transA transB alpha A B beta C nocopy) := by
  unfold rgemm
  split
  · next f hf => exact .of_returned f fun ⟨⟨_, hv⟩, _⟩ => by cases hf.symm.trans hv
  · exact (CopyDiscipline.of_finish io (rgemmBlocks A B) (by simp [rgemmBlocks]) _).mono
      fun h => by simpa [rgemmBlocks] using h.2

theorem rger_copyDiscipline (alpha : R) (X Y A : GpuArray) :
    CopyDiscipline nocopy (rgerCheck X Y A = .ok () ∧ (X.stride 0 < 0 ∨ Y.stride 0 < 0))
      (rger io alpha X Y A nocopy) := by
  unfold rger
  split
  · next f hf => exact .of_returned f fun h => by cases hf.symm.trans h.1
  · exact (CopyDiscipline.of_finish io (rgerBlocks X Y) (by simp [rgerBlocks]) _).mono
      fun h => by simpa [rgerBlocks] using h.2

theorem rgemmBatch3d_copyDiscipline (transA transB : CbTranspose) (alpha : R) (A B : GpuArray)
    (beta : R) (C : GpuArray) :
    CopyDiscipline nocopy ((∃ v, rgemmBatchCheck transA transB A B C = .ok v) ∧
        (isLast2dContiguous A = 0 ∨ isLast2dContiguous B = 0))
      (rgemmBatch3d io transA transB alpha A B beta C nocopy) := by
  unfold rgemmBatch3d
  split
  · next f hf => exact .of_returned f fun ⟨⟨_, hv⟩, _⟩ => by cases hf.symm.trans hv
  · exact (CopyDiscipline.of_finish io (rgemmBatchBlocks A B) (by simp [rgemmBatchBlocks]) _).mono
      fun h => by simpa [rgemmBatchBlocks] using h.2

end Entries

/-- Every entry point, for every operand tuple, flag and collaborator: on every
path that returns, each temporary is cleared exactly once and nothing else is;
under `nocopy` nothing is copied, and an input that fails one of the source's
copy tests (`X->strides[0] < 0`, `!GpuArray_ISONESEGMENT(A)`,
`is_last_2d_contiguous(A) == 0`, ...) once validation passed ends the call with
`GA_COPY_ERROR` and no kernel. -/
theorem temporaries_cleared_once (io : Collab R) (nocopy : Bool) :
    (∀ X Y Z : GpuArray, CopyDiscipline nocopy
      ((rdotCheck X Y Z).2 = .ok () ∧ (X.stride 0 < 0 ∨ Y.stride 0 < 0))
      (rdot io X Y Z nocopy)) ∧
    (∀ (transA : CbTranspose) (alpha : R) (A X : GpuArray) (beta : R) (Y : GpuArray),
      CopyDiscipline nocopy
        (rgemvCheck transA A X Y = .ok () ∧ (A.isOneSegment = false ∨ X.stride 0 < 0))
        (rgemv io transA alpha A X beta Y nocopy)) ∧
    (∀ (transA transB : CbTranspose) (alpha : R) (A B : GpuArray) (beta : R) (C : GpuArray),
      CopyDiscipline nocopy ((∃ v, rgemmCheck transA transB A B C = .ok v) ∧
          (A.isOneSegment = false ∨ B.isOneSegment = false))
        (rgemm io transA transB alpha A B beta C nocopy)) ∧
    (∀ (alpha : R) (X Y A : GpuArray),
      CopyDiscipline nocopy (rgerCheck X Y A = .ok () ∧ (X.stride 0 < 0 ∨ Y.stride 0 < 0))
        (rger io alpha X Y A nocopy)) ∧
    (∀ (transA transB : CbTranspose) (alpha : R) (A B : GpuArray) (beta : R) (C : GpuArray),
      CopyDiscipline nocopy ((∃ v, rgemmBatchCheck transA transB A B C = .ok v) ∧
          (isLast2dContiguous A = 0 ∨ isLast2dContiguous B = 0))
        (rgemmBatch3d io transA transB alpha A B beta C nocopy)) :=
  ⟨rdot_copyDiscipline io nocopy, rgemv_copyDiscipline io nocopy, rgemm_copyDiscipline io nocopy,
    rger_copyDiscipline io nocopy, rgemmBatch3d_copyDiscipline io nocopy⟩

/-- On operands that pass every copy test of the source, `nocopy` changes
nothing: all it does is refuse copies (`temporaries_cleared_once`). -/
theorem nocopy_irrelevant_without_copies (io : Collab R) :
    (∀ X Y Z : GpuArray, 0 ≤ X.stride 0 ∧ 0 ≤ Y.stride 0 →
      rdot io X Y Z true = rdot io X Y Z false) ∧
    (∀ (transA : CbTranspose) (alpha : R) (A X : GpuArray) (beta : R) (Y : GpuArray),
      A.isOneSegment = true ∧ 0 ≤ X.stride 0 →
      rgemv io transA alpha A X beta Y true = rgemv io transA alpha A X beta Y false) ∧
    (∀ (transA transB : CbTranspose) (alpha : R) (A B : GpuArray) (beta : R) (C : GpuArray),
      A.isOneSegment = true ∧ B.isOneSegment = true →
      rgemm io transA transB alpha A B beta C true = rgemm io transA transB alpha A B beta C false) ∧
    (∀ (alpha : R) (X Y A : GpuArray), 0 ≤ X.stride 0 ∧ 0 ≤ Y.stride 0 →
      rger io alpha X Y A true = rger io alpha X Y A false) ∧
    (∀ (transA transB : CbTranspose) (alpha : R) (A B : GpuArray) (beta : R) (C : GpuArray),
      isLast2dContiguous A ≠ 0 ∧ isLast2dContiguous B ≠ 0 →
      rgemmBatch3d io transA transB alpha A B beta C true =
        rgemmBatch3d io transA transB alpha A B beta C false) :=
  ⟨fun X Y _ h => by
    simp only [rdot, arbitrate_nocopy_eq io
      (show ∀ b ∈ rdotBlocks X Y, b.needs = false by simpa [rdotBlocks] using h)],
  fun _ _ A X _ _ h => by
    simp only [rgemv, arbitrate_nocopy_eq io
      (show ∀ b ∈ rgemvBlocks A X, b.needs = false by simpa [rgemvBlocks] using h)],
  fun _ _ _ A B _ _ h => by
    simp only [rgemm, arbitrate_nocopy_eq io
      (show ∀ b ∈ rgemmBlocks A B, b.needs = false by simpa [rgemmBlocks] using h)],
  fun _ X Y _ h => by
    simp only [rger, arbitrate_nocopy_eq io
      (show ∀ b ∈ rgerBlocks X Y, b.needs = false by simpa [rgerBlocks] using h)],
  fun _ _ _ A B _ _ h => by
    simp only [rgemmBatch3d, arbitrate_nocopy_eq io
      (show ∀ b ∈ rgemmBatchBlocks A B, b.needs = false by simpa [rgemmBatchBlocks] using h)]⟩

/-! ## Rejection -/

/-- A trace with no kernel call event has no kernel. -/
theorem noKernel_of {t : List (Event R)} (h : ∀ p k st, Event.call (.kernel p k st) ∉ t) :
    NoKernel t := fun ev hev => by
  cases ev with
  | call c =>
    cases c with
    | kernel p k st => exact absurd hev (h p k st)
    | _ => rfl
  | _ => rfl

/-- The copy blocks and a rest of the call that fails with a nonzero status
whenever the blocks go through end the call with a nonzero status. -/
theorem finish_rejects (io : Collab R) (nocopy : Bool) (bs : List CopyBlock)
    (hnd : (bs.map CopyBlock.slot).Nodup) (slots : List Slot) {body : Held → Ending × List (Call R)}
    (h : ∀ t held, arbitrate io nocopy bs = .done t held →
      ∃ s, s ≠ .noError ∧ (body held).1 = .returns s) :
    ∃ s, s ≠ .noError ∧ (finish slots (arbitrate io nocopy bs) body).ending = .returns s := by
  have hl := arbitrate_ledger io nocopy bs hnd
  revert h
  generalize arbitrate io nocopy bs = a at hl ⊢
  intro h
  cases a with
  | returned s t => exact ⟨s, hl.1 ▸ nofun, rfl⟩
  | failed s t held => exact ⟨s, hl.1, rfl⟩
  | done t held =>
    obtain ⟨s, hs, hb⟩ := h t held rfl
    refine ⟨s, hs, ?_⟩
    rw [finish_done_returns (show body held = (.returns s, (body held).2) from Prod.ext hb rfl)]

section Rejects

variable {io : Collab R} {nocopy : Bool}

/-- What `GpuArray_rdot` requires before a kernel may run: the checks of its
validation and, under `nocopy`, vectors of non-negative strides.  Equal
typecodes are not among them. -/
def DotAdmits (X Y Z : GpuArray) (nocopy : Bool) : Prop :=
  DotChecked X Y Z ∧ (nocopy = true → 0 ≤ X.stride 0 ∧ 0 ≤ Y.stride 0)

/-- What `GpuArray_rgemv` requires before a kernel may run: the checks of its
validation, a `Y` of non-negative stride and, under `nocopy`, an `A` of one
segment and an `X` of non-negative stride. -/
def GemvAdmits (transA : CbTranspose) (A X Y : GpuArray) (nocopy : Bool) : Prop :=
  GemvChecked transA A X Y ∧ 0 ≤ Y.stride 0 ∧
    (nocopy = true → A.isOneSegment = true ∧ 0 ≤ X.stride 0)

/-- What `GpuArray_rgemm` requires before a kernel may run: the checks of its
validation, a `C` of one segment and, under `nocopy`, `A` and `B` of one
segment. -/
def GemmAdmits (transA transB : CbTranspose) (A B C : GpuArray) (nocopy : Bool) : Prop :=
  (∃ m n k, GemmChecked transA transB A B C m n k) ∧ C.isOneSegment = true ∧
    (nocopy = true → A.isOneSegment = true ∧ B.isOneSegment = true)

/-- What `GpuArray_rger` requires before a kernel may run: the checks of its
validation, an `A` of one segment and, under `nocopy`, vectors of non-negative
strides. -/
def GerAdmits (X Y A : GpuArray) (nocopy : Bool) : Prop :=
  GerChecked X Y A ∧ A.isOneSegment = true ∧ (nocopy = true → 0 ≤ X.stride 0 ∧ 0 ≤ Y.stride 0)

/-- What `GpuArray_rgemmBatch_3d` requires before a kernel may run: the checks
of its validation, a `C` whose last two axes are classified and, under
`nocopy`, `A` and `B` whose last two axes are. -/
def BatchAdmits (transA transB : CbTranspose) (A B C : GpuArray) (nocopy : Bool) : Prop :=
  (∃ batch m n k, BatchChecked transA transB A B C batch m n k) ∧ isLast2dContiguous C ≠ 0 ∧
    (nocopy = true → isLast2dContiguous A ≠ 0 ∧ isLast2dContiguous B ≠ 0)

theorem dotAdmits_of_done {X Y Z : GpuArray} {t : List (Event R)} {held : Held}
    (hc : (rdotCheck X Y Z).2 = .ok ()) (ha : arbitrate io nocopy (rdotBlocks X Y) = .done t held) :
    DotAdmits X Y Z nocopy := by
  refine ⟨rdotCheck_ok hc, fun hn => ?_⟩
  subst hn
  simpa [rdotBlocks] using arbitrate_true_done ha

theorem gemvAdmits_of_resolved {transA : CbTranspose} {A X Y : GpuArray} {t : List (Event R)}
    {held : Held} {o : CbOrder} {lda : Nat} (hc : rgemvCheck transA A X Y = .ok ())
    (ha : arbitrate io nocopy (rgemvBlocks A X) = .done t held)
    (hr : rgemvResolve (pointer held .copyA A) Y = .ok (o, lda)) :
    GemvAdmits transA A X Y nocopy := by
  refine ⟨rgemvCheck_ok hc, (rgemvResolve_ok hr).1, fun hn => ?_⟩
  subst hn
  simpa [rgemvBlocks] using arbitrate_true_done ha

theorem rgemmResolve_oneSegment {transA transB : CbTranspose} {C Ap Bp : GpuArray} {r : GemmLayout}
    (h : rgemmResolve transA transB C Ap Bp = .ok r) : C.isOneSegment = true := by
  unfold rgemmResolve at h
  split_ifs at h with hC
  simpa using hC

theorem gemmAdmits_of_resolved {transA transB : CbTranspose} {A B C : GpuArray} {m n k : Nat}
    {t : List (Event R)} {held : Held} {r : GemmLayout}
    (hc : rgemmCheck transA transB A B C = .ok (m, n, k))
    (ha : arbitrate io nocopy (rgemmBlocks A B) = .done t held)
    (hr : rgemmResolve transA transB C (pointer held .copyA A) (pointer held .copyB B) = .ok r) :
    GemmAdmits transA transB A B C nocopy := by
  refine ⟨⟨m, n, k, rgemmCheck_ok hc⟩, rgemmResolve_oneSegment hr, fun hn => ?_⟩
  subst hn
  simpa [rgemmBlocks] using arbitrate_true_done ha

theorem rgerResolve_oneSegment {A : GpuArray} {o : CbOrder} {lda : Nat}
    (h : rgerResolve A = .ok (o, lda)) : A.isOneSegment = true := by
  unfold rgerResolve at h
  split_ifs at h with hA
  simpa using hA

theorem gerAdmits_of_resolved {X Y A : GpuArray} {t : List (Event R)} {held : Held} {o : CbOrder}
    {lda : Nat} (hc : rgerCheck X Y A = .ok ()) (ha : arbitrate io nocopy (rgerBlocks X Y) = .done t held)
    (hr : rgerResolve A = .ok (o, lda)) : GerAdmits X Y A nocopy := by
  refine ⟨rgerCheck_ok hc, rgerResolve_oneSegment hr, fun hn => ?_⟩
  subst hn
  simpa [rgerBlocks] using arbitrate_true_done ha

theorem batchAdmits_of_resolved {transA transB : CbTranspose} {A B C : GpuArray}
    {batch m n k : Nat} {t : List (Event R)} {held : Held} {e : Nat} {r : GemmLayout}
    (hc : rgemmBatchCheck transA transB A B C = .ok (batch, m, n, k))
    (ha : arbitrate io nocopy (rgemmBatchBlocks A B) = .done t held)
    (hr : rgemmBatchResolve transA transB A B C (pointer held .copyA A) (pointer held .copyB B) e =
      .ok r) :
    BatchAdmits transA transB A B C nocopy := by
  refine ⟨⟨batch, m, n, k, rgemmBatchCheck_ok hc⟩, (rgemmBatchResolve_ok hr).1, fun hn => ?_⟩
  subst hn
  simpa [rgemmBatchBlocks] using arbitrate_true_done ha

/-- `GpuArray_rdot` on operands it does not admit returns a nonzero status and
calls no kernel. -/
theorem rdot_rejects (io : Collab R) (X Y Z : GpuArray) (nocopy : Bool)
    (h : ¬DotAdmits X Y Z nocopy) :
    NoKernel (rdot io X Y Z nocopy).trace ∧
      ∃ s, s ≠ .noError ∧ (rdot io X Y Z nocopy).ending = .returns s := by
  refine ⟨noKernel_of fun p k st hk => ?_, ?_⟩
  · obtain ⟨t, held, hc, ha, -⟩ := rdot_kernel_inv hk
    exact h (dotAdmits_of_done hc ha)
  · simp only [rdot, Outcome.afterCalls]
    split
    · next f hf => exact ⟨f.code, rdotCheck_code hf, rfl⟩
    · next hc =>
      exact finish_rejects io nocopy (rdotBlocks X Y) (by simp [rdotBlocks]) _
        fun t held ha => absurd (dotAdmits_of_done hc ha) h

theorem rdot_rejects_vector_output :
    NoKernel (rdot (Collab.succeeding ℤ) (floatVector 0) (floatVector 1) (floatVector 2) false).trace ∧
      ∃ s, s ≠ .noError ∧
        (rdot (Collab.succeeding ℤ) (floatVector 0) (floatVector 1) (floatVector 2) false).ending =
          .returns s :=
  rdot_rejects _ _ _ _ _ fun h => absurd h.1.ndZ (by decide)

/-- `GpuArray_rgemv` on operands it does not admit returns a nonzero status and
calls no kernel. -/
theorem rgemv_rejects (io : Collab R) (transA : CbTranspose) (alpha : R) (A X : GpuArray) (beta : R)
    (Y : GpuArray) (nocopy : Bool) (h : ¬GemvAdmits transA A X Y nocopy) :
    NoKernel (rgemv io transA alpha A X beta Y nocopy).trace ∧
      ∃ s, s ≠ .noError ∧ (rgemv io transA alpha A X beta Y nocopy).ending = .returns s := by
  refine ⟨noKernel_of fun p k st hk => ?_, ?_⟩
  · obtain ⟨t, held, o, lda, hc, ha, -, hr, -⟩ := rgemv_kernel_inv hk
    exact h (gemvAdmits_of_resolved hc ha hr)
  · unfold rgemv
    split
    · next f hf => exact ⟨f.code, rgemvCheck_code hf, rfl⟩
    · next hc =>
      refine finish_rejects io nocopy (rgemvBlocks A X) (by simp [rgemvBlocks]) _ fun t held ha => ?_
      dsimp only
      split
      · next f hr => exact ⟨f.code, rgemvResolve_code hr, rfl⟩
      · next hr => exact absurd (gemvAdmits_of_resolved hc ha hr) h

theorem rgemv_rejects_vector_matrix :
    NoKernel (rgemv (Collab.succeeding ℤ) .noTrans 1 (floatVector 0) (floatVector 1) 0 (floatVector 2)
      false).trace ∧
      ∃ s, s ≠ .noError ∧ (rgemv (Collab.succeeding ℤ) .noTrans 1 (floatVector 0) (floatVector 1) 0
        (floatVector 2) false).ending = .returns s :=
  rgemv_rejects _ _ _ _ _ _ _ _ fun h => absurd h.1.ndA (by decide)

/-- `GpuArray_rgemm` on operands it does not admit returns a nonzero status and
calls no kernel. -/
theorem rgemm_rejects (io : Collab R) (transA transB : CbTranspose) (alpha : R) (A B : GpuArray)
    (beta : R) (C : GpuArray) (nocopy : Bool) (h : ¬GemmAdmits transA transB A B C nocopy) :
    NoKernel (rgemm io transA transB alpha A B beta C nocopy).trace ∧
      ∃ s, s ≠ .noError ∧ (rgemm io transA transB alpha A B beta C nocopy).ending = .returns s := by
  refine ⟨noKernel_of fun p k st hk => ?_, ?_⟩
  · obtain ⟨m, n, kk, t, held, r, hc, ha, -, hr, -⟩ := rgemm_kernel_inv hk
    exact h (gemmAdmits_of_resolved hc ha hr)
  · unfold rgemm
    split
    · next f hf => exact ⟨f.code, rgemmCheck_code hf, rfl⟩
    · next hc =>
      refine finish_rejects io nocopy (rgemmBlocks A B) (by simp [rgemmBlocks]) _ fun t held ha => ?_
      dsimp only
      split
      · next f hr => exact ⟨f.code, rgemmResolve_code hr, rfl⟩
      · next hr => exact absurd (gemmAdmits_of_resolved hc ha hr) h

theorem rgemm_rejects_vector_matrix :
    NoKernel (rgemm (Collab.succeeding ℤ) .noTrans .noTrans 1 (floatVector 0) (colMajor2x2 1) 0
      (colMajor2x2 2) false).trace ∧
      ∃ s, s ≠ .noError ∧ (rgemm (Collab.succeeding ℤ) .noTrans .noTrans 1 (floatVector 0)
        (colMajor2x2 1) 0 (colMajor2x2 2) false).ending = .returns s :=
  rgemm_rejects _ _ _ _ _ _ _ _ _ fun ⟨⟨_, _, _, hc⟩, _⟩ => absurd hc.ndA (by decide)

/-- `GpuArray_rger` on operands it does not admit returns a nonzero status and
calls no kernel. -/
theorem rger_rejects (io : Collab R) (alpha : R) (X Y A : GpuArray) (nocopy : Bool)
    (h : ¬GerAdmits X Y A nocopy) :
    NoKernel (rger io alpha X Y A nocopy).trace ∧
      ∃ s, s ≠ .noError ∧ (rger io alpha X Y A nocopy).ending = .returns s := by
  refine ⟨noKernel_of fun p k st hk => ?_, ?_⟩
  · obtain ⟨t, held, o, lda, hc, ha, -, hr, -⟩ := rger_kernel_inv hk
    exact h (gerAdmits_of_resolved hc ha hr)
  · unfold rger
    split
    · next f hf => exact ⟨f.code, rgerCheck_code hf, rfl⟩
    · next hc =>
      refine finish_rejects io nocopy (rgerBlocks X Y) (by simp [rgerBlocks]) _ fun t held ha => ?_
      dsimp only
      split
      · next f hr => exact ⟨f.code, rgerResolve_code hr, rfl⟩
      · next hr => exact absurd (gerAdmits_of_resolved hc ha hr) h

theorem rger_rejects_vector_output :
    NoKernel (rger (Collab.succeeding ℤ) 1 (floatVector 0) (floatVector 1) (floatVector 2)
      false).trace ∧
      ∃ s, s ≠ .noError ∧ (rger (Collab.succeeding ℤ) 1 (floatVector 0) (floatVector 1)
        (floatVector 2) false).ending = .returns s :=
  rger_rejects _ _ _ _ _ _ fun h => absurd h.1.ndA (by decide)

/-- `GpuArray_rgemmBatch_3d` on operands it does not admit returns a nonzero
status and calls no kernel. -/
theorem rgemmBatch3d_rejects (io : Collab R) (transA transB : CbTranspose) (alpha : R)
    (A B : GpuArray) (beta : R) (C : GpuArray) (nocopy : Bool)
    (h : ¬BatchAdmits transA transB A B C nocopy) :
    NoKernel (rgemmBatch3d io transA transB alpha A B beta C nocopy).trace ∧
      ∃ s, s ≠ .noError ∧
        (rgemmBatch3d io transA transB alpha A B beta C nocopy).ending = .returns s := by
  refine ⟨noKernel_of fun p k st hk => ?_, ?_⟩
  · obtain ⟨batch, m, n, kk, t, held, r, hc, ha, -, hr, -⟩ := rgemmBatch3d_kernel_inv hk
    exact h (batchAdmits_of_resolved hc ha hr)
  · unfold rgemmBatch3d
    split
    · next f hf => exact ⟨f.code, rgemmBatchCheck_code hf, rfl⟩
    · next hc =>
      refine finish_rejects io nocopy (rgemmBatchBlocks A B) (by simp [rgemmBatchBlocks]) _
        fun t held ha => ?_
      dsimp only
      split
      · next f hr => exact ⟨f.code, rgemmBatchResolve_code hr, rfl⟩
      · next hr => exact absurd (batchAdmits_of_resolved hc ha hr) h

theorem rgemmBatch3d_rejects_matrix_output :
    NoKernel (rgemmBatch3d (Collab.succeeding ℤ) .noTrans .noTrans 1 (batch2 0) (batch2 1) 0
      (colMajor2x2 2) false).trace ∧
      ∃ s, s ≠ .noError ∧ (rgemmBatch3d (Collab.succeeding ℤ) .noTrans .noTrans 1 (batch2 0)
        (batch2 1) 0 (colMajor2x2 2) false).ending = .returns s :=
  rgemmBatch3d_rejects _ _ _ _ _ _ _ _ _ fun ⟨⟨_, _, _, _, hc⟩, _⟩ => absurd hc.ndC (by decide)

end Rejects

/-! ## Progress -/

/-- Collaborators that all succeed, with `GpuArray_copy` handing back `v`. -/
def Collab.copyingTo (v : GpuArray) : Collab ℤ :=
  { Collab.succeeding ℤ with copy := fun _ _ _ => (.noError, v) }

/-- `GpuArray_rdot` on operands it admits, when `GpuArray_copy` answers its
blocks with packed copies and `gpublas_setup` succeeds, calls the `dot` kernel
of `X`'s typecode and returns its status. -/
theorem rdot_runs_kernel (io : Collab R) (X Y Z : GpuArray) (nocopy : Bool)
    (h : DotAdmits X Y Z nocopy) (hcopy : CopiesPacked io (rdotBlocks X Y))
    (hsetup : ∀ ctx, io.setup ctx = .noError) :
    ∃ g, RunsKernel io X.typecode (.dot g) (rdot io X Y Z nocopy) := by
  obtain ⟨hc, hn⟩ := h
  obtain ⟨t, held, ha, hp⟩ := arbitrate_pointerOf io nocopy (by simp [rdotBlocks]) hcopy
    fun hnc => by simpa [rdotBlocks] using hn hnc
  refine ⟨rdotCall (X.dim 0) X.typecode.elsize (pointer held .copyX X) (pointer held .copyY Y) Z,
    .afterCalls _ ?_⟩
  rw [rdotCheck_eq_ok hc]
  exact runsKernel_finish ha rfl (hp _ (List.mem_cons_self _ _)).typecode (hsetup _) hc.blas

/-- A `float` vector of length 2 walked backwards from byte 4 of buffer `d`. -/
def reversedFloatVector (d : Nat) : GpuArray :=
  ⟨d, 4, 1, [2], [-4], ⟨false, false, true⟩, .float, rfl, rfl, by decide⟩

theorem rdot_runs_kernel_reversed :
    ∃ g, RunsKernel (Collab.copyingTo (floatVector 3)) .float (.dot g)
      (rdot (Collab.copyingTo (floatVector 3)) (reversedFloatVector 0) (floatVector 1) (floatScalar 2)
        false) :=
  rdot_runs_kernel _ _ _ _ _ ⟨rdotCheck_ok rfl, nofun⟩ (by decide) fun _ => rfl

/-- `GpuArray_rgemv` on operands it admits, when `GpuArray_copy` answers its
blocks with packed copies and `gpublas_setup` succeeds, calls the `gemv`
kernel of `A`'s typecode and returns its status. -/
theorem rgemv_runs_kernel (io : Collab R) (transA : CbTranspose) (alpha : R) (A X : GpuArray)
    (beta : R) (Y : GpuArray) (nocopy : Bool) (h : GemvAdmits transA A X Y nocopy)
    (hcopy : CopiesPacked io (rgemvBlocks A X)) (hsetup : ∀ ctx, io.setup ctx = .noError) :
    ∃ g, RunsKernel io A.typecode (.gemv g) (rgemv io transA alpha A X beta Y nocopy) := by
  obtain ⟨hc, hY, hn⟩ := h
  obtain ⟨t, held, ha, hp⟩ := arbitrate_pointerOf io nocopy (by simp [rgemvBlocks]) hcopy
    fun hnc => by simpa [rgemvBlocks] using hn hnc
  have hA := hp _ (List.mem_cons_self _ _)
  obtain ⟨⟨o, lda⟩, hr⟩ := rgemvResolve_ok_of_oneSegment hY (hA.isOneSegment rfl rfl)
  refine ⟨rgemvCall o lda transA (A.dim 0) (A.dim 1) alpha beta A.typecode.elsize
    (pointer held .copyA A) (pointer held .copyX X) Y, ?_⟩
  unfold rgemv
  rw [rgemvCheck_eq_ok hc]
  exact runsKernel_finish ha (by simp only [hr]) hA.typecode (hsetup (io.context A.data)) hc.blas

/-- A column-major `2 × 2` float matrix at the start of buffer `d`, with no
contiguity flag set. -/
def unflagged2x2 (d : Nat) : GpuArray :=
  ⟨d, 0, 2, [2, 2], [4, 8], ⟨false, false, true⟩, .float, rfl, rfl, by decide⟩

theorem rgemv_runs_kernel_copied :
    ∃ g, RunsKernel (Collab.copyingTo (colMajor2x2 3)) .float (.gemv g)
      (rgemv (Collab.copyingTo (colMajor2x2 3)) .noTrans 1 (unflagged2x2 0) (floatVector 1) 0
        (floatVector 2) false) :=
  rgemv_runs_kernel _ _ _ _ _ _ _ _ ⟨rgemvCheck_ok rfl, by decide, nofun⟩ (by decide) fun _ => rfl

/-- The path of `GpuArray_rgemm` through an admitted call: the blocks go
through, the layout resolves, and the `gemm` of that layout runs. -/
theorem rgemm_reaches_kernel {io : Collab R} {transA transB : CbTranspose} (alpha : R)
    {A B : GpuArray} (beta : R) {C : GpuArray} {nocopy : Bool} {m n k : Nat}
    (hc : GemmChecked transA transB A B C m n k) (hC : C.isOneSegment = true)
    (hn : nocopy = true → A.isOneSegment = true ∧ B.isOneSegment = true)
    (hcopy : CopiesPacked io (rgemmBlocks A B)) (hsetup : ∀ ctx, io.setup ctx = .noError) :
    ∃ t held r, arbitrate io nocopy (rgemmBlocks A B) = .done t held ∧
      rgemmResolve transA transB C (pointer held .copyA A) (pointer held .copyB B) = .ok r ∧
      RunsKernel io A.typecode (.gemm (rgemmCall r m n k alpha beta A.typecode.elsize
        (pointer held .copyA A) (pointer held .copyB B) C))
        (rgemm io transA transB alpha A B beta C nocopy) := by
  obtain ⟨t, held, ha, hp⟩ := arbitrate_pointerOf io nocopy (by simp [rgemmBlocks]) hcopy
    fun hnc => by simpa [rgemmBlocks] using hn hnc
  have hA := hp _ (List.mem_cons_self _ _)
  have hB := hp _ (List.mem_cons_of_mem _ (List.mem_cons_self _ _))
  obtain ⟨r, hr⟩ := rgemmResolve_ok_of_oneSegment transA transB hC (hA.isOneSegment rfl rfl)
    (hB.isOneSegment rfl rfl)
  refine ⟨t, held, r, ha, hr, ?_⟩
  unfold rgemm
  rw [rgemmCheck_eq_ok hc]
  exact runsKernel_finish ha (by simp only [hr]) hA.typecode
    (hsetup (io.context (pointer held .copyA A).data)) hc.blas

/-- `GpuArray_rgemm` on operands it admits, when `GpuArray_copy` answers its
blocks with packed copies and `gpublas_setup` succeeds, calls the `gemm`
kernel of `A`'s typecode and returns its status. -/
theorem rgemm_runs_kernel (io : Collab R) (transA transB : CbTranspose) (alpha : R) (A B : GpuArray)
    (beta : R) (C : GpuArray) (nocopy : Bool) (h : GemmAdmits transA transB A B C nocopy)
    (hcopy : CopiesPacked io (rgemmBlocks A B)) (hsetup : ∀ ctx, io.setup ctx = .noError) :
    ∃ g, RunsKernel io A.typecode (.gemm g) (rgemm io transA transB alpha A B beta C nocopy) := by
  obtain ⟨⟨m, n, k, hc⟩, hC, hn⟩ := h
  obtain ⟨_, _, _, _, _, hrun⟩ := rgemm_reaches_kernel alpha beta hc hC hn hcopy hsetup
  exact ⟨_, hrun⟩

theorem rgemm_runs_kernel_colMajor :
    ∃ g, RunsKernel (Collab.succeeding ℤ) .float (.gemm g)
      (rgemm (Collab.succeeding ℤ) .noTrans .noTrans 1 (colMajor2x2 0) (colMajor2x2 1) 0
        (colMajor2x2 2) false) :=
  rgemm_runs_kernel _ _ _ _ _ _ _ _ _ ⟨⟨2, 2, 2, rgemmCheck_ok rfl⟩, rfl, nofun⟩ (by decide)
    fun _ => rfl

/-- `GpuArray_rger` on operands it admits, when `GpuArray_copy` answers its
blocks with packed copies and `gpublas_setup` succeeds, calls the `ger` kernel
of `X`'s typecode and returns its status. -/
theorem rger_runs_kernel (io : Collab R) (alpha : R) (X Y A : GpuArray) (nocopy : Bool)
    (h : GerAdmits X Y A nocopy) (hcopy : CopiesPacked io (rgerBlocks X Y))
    (hsetup : ∀ ctx, io.setup ctx = .noError) :
    ∃ g, RunsKernel io X.typecode (.ger g) (rger io alpha X Y A nocopy) := by
  obtain ⟨hc, hA, hn⟩ := h
  obtain ⟨t, held, ha, hp⟩ := arbitrate_pointerOf io nocopy (by simp [rgerBlocks]) hcopy
    fun hnc => by simpa [rgerBlocks] using hn hnc
  obtain ⟨⟨o, lda⟩, hr⟩ := rgerResolve_ok_of_oneSegment hA
  refine ⟨rgerCall o lda (X.dim 0) (Y.dim 0) alpha X.typecode.elsize (pointer held .copyX X)
    (pointer held .copyY Y) A, ?_⟩
  unfold rger
  rw [rgerCheck_eq_ok hc]
  exact runsKernel_finish ha (by simp only [hr]) (hp _ (List.mem_cons_self _ _)).typecode
    (hsetup (io.context (pointer held .copyX X).data)) hc.blas

theorem rger_runs_kernel_vectors :
    ∃ g, RunsKernel (Collab.succeeding ℤ) .float (.ger g)
      (rger (Collab.succeeding ℤ) 1 (floatVector 0) (floatVector 1) (colMajor2x2 2) false) :=
  rger_runs_kernel _ _ _ _ _ _ ⟨rgerCheck_ok rfl, rfl, nofun⟩ (by decide) fun _ => rfl

/-- The path of `GpuArray_rgemmBatch_3d` through an admitted call: the blocks
go through, the layout resolves, and the strided-batched kernel `g` of that
layout runs; its status is the call's unless it is `GA_DEVSUP_ERROR`. -/
theorem rgemmBatch3d_reaches_kernel {io : Collab R} {transA transB : CbTranspose} (alpha : R)
    {A B : GpuArray} (beta : R) {C : GpuArray} {nocopy : Bool} {batch m n k : Nat}
    (hc : BatchChecked transA transB A B C batch m n k) (hC : isLast2dContiguous C ≠ 0)
    (hn : nocopy = true → isLast2dContiguous A ≠ 0 ∧ isLast2dContiguous B ≠ 0)
    (hcopy : CopiesSucceed io (rgemmBatchBlocks A B)) (hsetup : ∀ ctx, io.setup ctx = .noError) :
    ∃ t held r g, arbitrate io nocopy (rgemmBatchBlocks A B) = .done t held ∧
      rgemmBatchResolve transA transB A B C (pointer held .copyA A) (pointer held .copyB B)
        A.typecode.elsize = .ok r ∧
      g = rgemmBatchCall3D r batch m n k alpha beta A.typecode.elsize (pointer held .copyA A)
        (pointer held .copyB B) C ∧
      Event.call (.kernel C.typecode (.gemm3D g) (io.kernel C.typecode (.gemm3D g))) ∈
        (rgemmBatch3d io transA transB alpha A B beta C nocopy).trace ∧
      (io.kernel C.typecode (.gemm3D g) ≠ .devsupError →
        (rgemmBatch3d io transA transB alpha A B beta C nocopy).ending =
          .returns (io.kernel C.typecode (.gemm3D g))) := by
  obtain ⟨t, held, ha⟩ := arbitrate_done_of_succeed io nocopy hcopy
    fun hnc => by simpa [rgemmBatchBlocks] using hn hnc
  obtain ⟨r, hr⟩ := rgemmBatchResolve_ok_of_classified transA transB A B (pointer held .copyA A)
    (pointer held .copyB B) A.typecode.elsize hC
  have hp : C.typecode.isBlas = true := hc.typecodeC ▸ hc.blas
  unfold rgemmBatch3d
  rw [rgemmBatchCheck_eq_ok hc, ha]
  refine ⟨t, held, r, _, rfl, hr, rfl, call_mem_finish_done ?_, fun hs => ending_finish_done.trans ?_⟩
  · simp only [hr, withSetup_of_noError _ (hsetup _)]
    exact List.mem_cons_of_mem _ (batchDispatch_runs hp).1
  · simp only [hr, withSetup_of_noError _ (hsetup _)]
    exact (batchDispatch_runs hp).2 hs

/-- `GpuArray_rgemmBatch_3d` on operands it admits, when `GpuArray_copy`
succeeds on its blocks and `gpublas_setup` succeeds, calls the strided-batched
kernel of `C`'s typecode; unless that kernel returns `GA_DEVSUP_ERROR`, the call
returns its status.  No more is asked of the copies: the class of a copy is
taken to be `1` whatever it is. -/
theorem rgemmBatch3d_runs_kernel (io : Collab R) (transA transB : CbTranspose) (alpha : R)
    (A B : GpuArray) (beta : R) (C : GpuArray) (nocopy : Bool)
    (h : BatchAdmits transA transB A B C nocopy) (hcopy : CopiesSucceed io (rgemmBatchBlocks A B))
    (hsetup : ∀ ctx, io.setup ctx = .noError) :
    ∃ g, Event.call (.kernel C.typecode (.gemm3D g) (io.kernel C.typecode (.gemm3D g))) ∈
        (rgemmBatch3d io transA transB alpha A B beta C nocopy).trace ∧
      (io.kernel C.typecode (.gemm3D g) ≠ .devsupError →
        (rgemmBatch3d io transA transB alpha A B beta C nocopy).ending =
          .returns (io.kernel C.typecode (.gemm3D g))) := by
  obtain ⟨⟨batch, m, n, k, hc⟩, hC, hn⟩ := h
  obtain ⟨_, _, _, g, _, _, _, hk, hend⟩ := rgemmBatch3d_reaches_kernel alpha beta hc hC hn hcopy hsetup
  exact ⟨g, hk, hend⟩

/-- Two `1 × 1` float slices 8 bytes apart at the start of buffer `d`: their
trailing strides match no class. -/
def spread2 (d : Nat) : GpuArray :=
  ⟨d, 0, 3, [2, 1, 1], [8, 8, 8], ⟨false, false, true⟩, .float, rfl, rfl, by decide⟩

theorem rgemmBatch3d_runs_kernel_spread :
    ∃ g, Event.call (.kernel .float (.gemm3D g) ((Collab.succeeding ℤ).kernel .float (.gemm3D g))) ∈
        (rgemmBatch3d (Collab.succeeding ℤ) .noTrans .noTrans 1 (spread2 0) (batch2 1) 0 (batch2 2)
          false).trace ∧
      ((Collab.succeeding ℤ).kernel .float (.gemm3D g) ≠ .devsupError →
        (rgemmBatch3d (Collab.succeeding ℤ) .noTrans .noTrans 1 (spread2 0) (batch2 1) 0 (batch2 2)
          false).ending = .returns ((Collab.succeeding ℤ).kernel .float (.gemm3D g))) :=
  rgemmBatch3d_runs_kernel _ _ _ _ _ _ _ _ _ ⟨⟨2, 1, 1, 1, rgemmBatchCheck_ok rfl⟩, by decide, nofun⟩
    (by decide) fun _ => rfl

/-! ## Success -/

/-- The path of `GpuArray_rdot` to `GA_NO_ERROR`: the returning checks passed,
the blocks went through, and the `dot` on the pointer variables ran and
returned `GA_NO_ERROR`. -/
theorem rdot_noError_path {io : Collab R} {X Y Z : GpuArray} {nocopy : Bool}
    (hcopies : CopiesKeepTypecode (rdot io X Y Z nocopy).trace)
    (h : (rdot io X Y Z nocopy).ending = .returns .noError) :
    ∃ t held, (rdotCheck X Y Z).2 = .ok () ∧ arbitrate io nocopy (rdotBlocks X Y) = .done t held ∧
      t ⊆ (rdot io X Y Z nocopy).trace ∧
      Event.call (.kernel X.typecode (.dot (rdotCall (X.dim 0) X.typecode.elsize
        (pointer held .copyX X) (pointer held .copyY Y) Z)) .noError) ∈
        (rdot io X Y Z nocopy).trace := by
  revert hcopies h
  simp only [rdot, Outcome.afterCalls]
  split
  · next f hf => exact fun _ h => absurd (Ending.returns.inj h) (rdotCheck_code hf)
  · next hc =>
    intro hcopies h
    have hnd : ((rdotBlocks X Y).map CopyBlock.slot).Nodup := by simp [rdotBlocks]
    obtain ⟨t, held, ha, hb⟩ := finish_noError io nocopy hnd _ h
    rw [ha] at hcopies ⊢
    refine ⟨t, held, hc, rfl, fun ev hev => List.mem_append_right _
      ((prefix_finish_done t held).subset hev), List.mem_append_right _ (call_mem_finish_done ?_)⟩
    have hX := typecode_pointer hnd ha (hcopies.of_subset fun ev hev =>
      List.mem_append_right _ ((prefix_finish_done t held).subset hev)) (List.mem_cons_self _ _)
    exact kernel_mem_dispatch_of_noError hX (rdotCheck_ok hc).blas hb

/-- `GpuArray_rdot` returns `GA_NO_ERROR` only after the `dot` kernel of `X`'s
typecode ran and returned `GA_NO_ERROR`, when its copies keep their typecodes. -/
theorem rdot_noError_ran_kernel (io : Collab R) (X Y Z : GpuArray) (nocopy : Bool)
    (hcopies : CopiesKeepTypecode (rdot io X Y Z nocopy).trace)
    (h : (rdot io X Y Z nocopy).ending = .returns .noError) :
    ∃ g, Event.call (.kernel X.typecode (.dot g) .noError) ∈ (rdot io X Y Z nocopy).trace := by
  obtain ⟨_, _, _, _, _, hk⟩ := rdot_noError_path hcopies h
  exact ⟨_, hk⟩


theorem rdot_noError_ran_kernel_floats :
    (rdot (Collab.succeeding ℤ) (floatVector 0) (floatVector 1) (floatScalar 2) false).ending =
      .returns .noError ∧
    ∃ g, Event.call (.kernel .float (.dot g) .noError) ∈
      (rdot (Collab.succeeding ℤ) (floatVector 0) (floatVector 1) (floatScalar 2) false).trace :=
  ⟨by decide, rdot_noError_ran_kernel _ _ _ _ _ (.of_noCopies (by decide)) (by decide)⟩

/-- The path of `GpuArray_rgemv` to `GA_NO_ERROR`: the checks passed, the
blocks went through, the order and `lda` of `A` resolved, and the `gemv` on the
pointer variables ran and returned `GA_NO_ERROR`. -/
theorem rgemv_noError_path {io : Collab R} {transA : CbTranspose} {alpha : R} {A X : GpuArray}
    {beta : R} {Y : GpuArray} {nocopy : Bool}
    (hcopies : CopiesKeepTypecode (rgemv io transA alpha A X beta Y nocopy).trace)
    (h : (rgemv io transA alpha A X beta Y nocopy).ending = .returns .noError) :
    ∃ t held o lda, rgemvCheck transA A X Y = .ok () ∧
      arbitrate io nocopy (rgemvBlocks A X) = .done t held ∧
      t <+: (rgemv io transA alpha A X beta Y nocopy).trace ∧
      rgemvResolve (pointer held .copyA A) Y = .ok (o, lda) ∧
      Event.call (.kernel A.typecode (.gemv (rgemvCall o lda transA (A.dim 0) (A.dim 1) alpha beta
        A.typecode.elsize (pointer held .copyA A) (pointer held .copyX X) Y)) .noError) ∈
        (rgemv io transA alpha A X beta Y nocopy).trace := by
  revert hcopies h
  unfold rgemv
  split
  · next f hf => exact fun _ h => absurd (Ending.returns.inj h) (rgemvCheck_code hf)
  · next hc =>
    intro hcopies h
    have hnd : ((rgemvBlocks A X).map CopyBlock.slot).Nodup := by simp [rgemvBlocks]
    obtain ⟨t, held, ha, hb⟩ := finish_noError io nocopy hnd _ h
    rw [ha] at hcopies ⊢
    have hA := typecode_pointer hnd ha (hcopies.of_subset (prefix_finish_done t held).subset)
      (List.mem_cons_self _ _)
    dsimp only at hb ⊢
    split at hb
    · next f hr => exact absurd (Ending.returns.inj hb) (rgemvResolve_code hr)
    · next o lda hr =>
      exact ⟨t, held, o, lda, hc, rfl, prefix_finish_done t held, hr, call_mem_finish_done (by
        simp only [hr]
        exact kernel_mem_dispatch_of_noError hA (rgemvCheck_ok hc).blas hb)⟩

/-- `GpuArray_rgemv` returns `GA_NO_ERROR` only after the `gemv` kernel of `A`'s
typecode ran and returned `GA_NO_ERROR`, when its copies keep their typecodes. -/
theorem rgemv_noError_ran_kernel (io : Collab R) (transA : CbTranspose) (alpha : R) (A X : GpuArray)
    (beta : R) (Y : GpuArray) (nocopy : Bool)
    (hcopies : CopiesKeepTypecode (rgemv io transA alpha A X beta Y nocopy).trace)
    (h : (rgemv io transA alpha A X beta Y nocopy).ending = .returns .noError) :
    ∃ g, Event.call (.kernel A.typecode (.gemv g) .noError) ∈
      (rgemv io transA alpha A X beta Y nocopy).trace := by
  obtain ⟨_, _, _, _, _, _, _, _, hk⟩ := rgemv_noError_path hcopies h
  exact ⟨_, hk⟩


theorem rgemv_noError_ran_kernel_colMajor :
    (rgemv (Collab.succeeding ℤ) .noTrans 1 (colMajor2x2 0) (floatVector 1) 0 (floatVector 2)
      false).ending = .returns .noError ∧
    ∃ g, Event.call (.kernel .float (.gemv g) .noError) ∈
      (rgemv (Collab.succeeding ℤ) .noTrans 1 (colMajor2x2 0) (floatVector 1) 0 (floatVector 2)
        false).trace :=
  ⟨by decide, rgemv_noError_ran_kernel _ _ _ _ _ _ _ _ (.of_noCopies (by decide)) (by decide)⟩

/-- A column-major `2 × 2` matrix of a typecode outside BLAS, with 4-byte
elements, at the start of buffer `d`. -/
def otherColMajor2x2 (d : Nat) : GpuArray :=
  ⟨d, 0, 2, [2, 2], [4, 8], ⟨false, true, true⟩, .other 11 4, rfl, rfl, by decide⟩

-- The hypothesis on the copies is needed: a copy of another typecode matches
-- no case of the switch, and the call returns the setup's `GA_NO_ERROR` with
-- no kernel run.
example :
    (rgemv (Collab.copyingTo (otherColMajor2x2 3)) .noTrans 1 (unflagged2x2 0) (floatVector 1) 0
      (floatVector 2) false).ending = .returns .noError ∧
    NoKernel (rgemv (Collab.copyingTo (otherColMajor2x2 3)) .noTrans 1 (unflagged2x2 0)
      (floatVector 1) 0 (floatVector 2) false).trace := by
  decide

/-- The path of `GpuArray_rgemm` to `GA_NO_ERROR`: the checks passed, the
blocks went through, the layout resolved, and the `gemm` of that layout ran and
returned `GA_NO_ERROR`. -/
theorem rgemm_noError_path {io : Collab R} {transA transB : CbTranspose} {alpha : R}
    {A B : GpuArray} {beta : R} {C : GpuArray} {nocopy : Bool}
    (hcopies : CopiesKeepTypecode (rgemm io transA transB alpha A B beta C nocopy).trace)
    (h : (rgemm io transA transB alpha A B beta C nocopy).ending = .returns .noError) :
    ∃ m n k t held r, rgemmCheck transA transB A B C = .ok (m, n, k) ∧
      arbitrate io nocopy (rgemmBlocks A B) = .done t held ∧
      t <+: (rgemm io transA transB alpha A B beta C nocopy).trace ∧
      rgemmResolve transA transB C (pointer held .copyA A) (pointer held .copyB B) = .ok r ∧
      Event.call (.kernel A.typecode (.gemm (rgemmCall r m n k alpha beta A.typecode.elsize
        (pointer held .copyA A) (pointer held .copyB B) C)) .noError) ∈
        (rgemm io transA transB alpha A B beta C nocopy).trace := by
  revert hcopies h
  unfold rgemm
  split
  · next f hf => exact fun _ h => absurd (Ending.returns.inj h) (rgemmCheck_code hf)
  · next m n k hc =>
    intro hcopies h
    have hnd : ((rgemmBlocks A B).map CopyBlock.slot).Nodup := by simp [rgemmBlocks]
    obtain ⟨t, held, ha, hb⟩ := finish_noError io nocopy hnd _ h
    rw [ha] at hcopies ⊢
    have hA := typecode_pointer hnd ha (hcopies.of_subset (prefix_finish_done t held).subset)
      (List.mem_cons_self _ _)
    dsimp only at hb ⊢
    split at hb
    · next f hr => exact absurd (Ending.returns.inj hb) (rgemmResolve_code hr)
    · next r hr =>
      exact ⟨m, n, k, t, held, r, hc, rfl, prefix_finish_done t held, hr, call_mem_finish_done (by
        simp only [hr]
        exact kernel_mem_dispatch_of_noError hA (rgemmCheck_ok hc).blas hb)⟩

/-- `GpuArray_rgemm` returns `GA_NO_ERROR` only after the `gemm` kernel of `A`'s
typecode ran and returned `GA_NO_ERROR`, when its copies keep their typecodes. -/
theorem rgemm_noError_ran_kernel (io : Collab R) (transA transB : CbTranspose) (alpha : R)
    (A B : GpuArray) (beta : R) (C : GpuArray) (nocopy : Bool)
    (hcopies : CopiesKeepTypecode (rgemm io transA transB alpha A B beta C nocopy).trace)
    (h : (rgemm io transA transB alpha A B beta C nocopy).ending = .returns .noError) :
    ∃ g, Event.call (.kernel A.typecode (.gemm g) .noError) ∈
      (rgemm io transA transB alpha A B beta C nocopy).trace := by
  obtain ⟨_, _, _, _, _, _, _, _, _, _, hk⟩ := rgemm_noError_path hcopies h
  exact ⟨_, hk⟩

theorem rgemm_noError_ran_kernel_colMajor :
    (rgemm (Collab.succeeding ℤ) .noTrans .noTrans 1 (colMajor2x2 0) (colMajor2x2 1) 0
      (colMajor2x2 2) false).ending = .returns .noError ∧
    ∃ g, Event.call (.kernel .float (.gemm g) .noError) ∈
      (rgemm (Collab.succeeding ℤ) .noTrans .noTrans 1 (colMajor2x2 0) (colMajor2x2 1) 0
        (colMajor2x2 2) false).trace :=
  ⟨by decide, rgemm_noError_ran_kernel _ _ _ _ _ _ _ _ _ (.of_noCopies (by decide)) (by decide)⟩

/-- The path of `GpuArray_rger` to `GA_NO_ERROR`: the checks passed, the blocks
went through, the order and `lda` of `A` resolved, and the `ger` on the pointer
variables ran and returned `GA_NO_ERROR`. -/
theorem rger_noError_path {io : Collab R} {alpha : R} {X Y A : GpuArray} {nocopy : Bool}
    (hcopies : CopiesKeepTypecode (rger io alpha X Y A nocopy).trace)
    (h : (rger io alpha X Y A nocopy).ending = .returns .noError) :
    ∃ t held o lda, rgerCheck X Y A = .ok () ∧ arbitrate io nocopy (rgerBlocks X Y) = .done t held ∧
      t <+: (rger io alpha X Y A nocopy).trace ∧ rgerResolve A = .ok (o, lda) ∧
      Event.call (.kernel X.typecode (.ger (rgerCall o lda (X.dim 0) (Y.dim 0) alpha
        X.typecode.elsize (pointer held .copyX X) (pointer held .copyY Y) A)) .noError) ∈
        (rger io alpha X Y A nocopy).trace := by
  revert hcopies h
  unfold rger
  split
  · next f hf => exact fun _ h => absurd (Ending.returns.inj h) (rgerCheck_code hf)
  · next hc =>
    intro hcopies h
    have hnd : ((rgerBlocks X Y).map CopyBlock.slot).Nodup := by simp [rgerBlocks]
    obtain ⟨t, held, ha, hb⟩ := finish_noError io nocopy hnd _ h
    rw [ha] at hcopies ⊢
    have hX := typecode_pointer hnd ha (hcopies.of_subset (prefix_finish_done t held).subset)
      (List.mem_cons_self _ _)
    dsimp only at hb ⊢
    split at hb
    · next f hr => exact absurd (Ending.returns.inj hb) (rgerResolve_code hr)
    · next o lda hr =>
      exact ⟨t, held, o, lda, hc, rfl, prefix_finish_done t held, hr,
        call_mem_finish_done (kernel_mem_dispatch_of_noError hX (rgerCheck_ok hc).blas hb)⟩

/-- `GpuArray_rger` returns `GA_NO_ERROR` only after the `ger` kernel of `X`'s
typecode ran and returned `GA_NO_ERROR`, when its copies keep their typecodes. -/
theorem rger_noError_ran_kernel (io : Collab R) (alpha : R) (X Y A : GpuArray) (nocopy : Bool)
    (hcopies : CopiesKeepTypecode (rger io alpha X Y A nocopy).trace)
    (h : (rger io alpha X Y A nocopy).ending = .returns .noError) :
    ∃ g, Event.call (.kernel X.typecode (.ger g) .noError) ∈ (rger io alpha X Y A nocopy).trace := by
  obtain ⟨_, _, _, _, _, _, _, _, hk⟩ := rger_noError_path hcopies h
  exact ⟨_, hk⟩


theorem rger_noError_ran_kernel_vectors :
    (rger (Collab.succeeding ℤ) 1 (floatVector 0) (floatVector 1) (colMajor2x2 2) false).ending =
      .returns .noError ∧
    ∃ g, Event.call (.kernel .float (.ger g) .noError) ∈
      (rger (Collab.succeeding ℤ) 1 (floatVector 0) (floatVector 1) (colMajor2x2 2) false).trace :=
  ⟨by decide, rger_noError_ran_kernel _ _ _ _ _ _ (.of_noCopies (by decide)) (by decide)⟩

/-- The path of `GpuArray_rgemmBatch_3d` to `GA_NO_ERROR`: the checks passed,
the blocks went through and the layout resolved; then either the
strided-batched kernel `g` returned `GA_NO_ERROR`, or the batch is empty, `g`
returned `GA_DEVSUP_ERROR` and the pointer-array kernel `gb` of the fallback
returned `GA_NO_ERROR`. -/
theorem rgemmBatch3d_noError_path {io : Collab R} {transA transB : CbTranspose} {alpha : R}
    {A B : GpuArray} {beta : R} {C : GpuArray} {nocopy : Bool}
    (h : (rgemmBatch3d io transA transB alpha A B beta C nocopy).ending = .returns .noError) :
    ∃ batch m n k t held r g gb, rgemmBatchCheck transA transB A B C = .ok (batch, m, n, k) ∧
      arbitrate io nocopy (rgemmBatchBlocks A B) = .done t held ∧
      t <+: (rgemmBatch3d io transA transB alpha A B beta C nocopy).trace ∧
      rgemmBatchResolve transA transB A B C (pointer held .copyA A) (pointer held .copyB B)
        A.typecode.elsize = .ok r ∧
      g = rgemmBatchCall3D r batch m n k alpha beta A.typecode.elsize (pointer held .copyA A)
        (pointer held .copyB B) C ∧
      gb = rgemmBatchCallPtrs r batch m n k alpha beta A.typecode.elsize (pointer held .copyA A)
        (pointer held .copyB B) C ∧
      (Event.call (.kernel C.typecode (.gemm3D g) .noError) ∈
          (rgemmBatch3d io transA transB alpha A B beta C nocopy).trace ∨
        (batch = 0 ∧ Event.call (.kernel C.typecode (.gemm3D g) .devsupError) ∈
            (rgemmBatch3d io transA transB alpha A B beta C nocopy).trace ∧
          Event.call (.kernel C.typecode (.gemmBatch gb) .noError) ∈
            (rgemmBatch3d io transA transB alpha A B beta C nocopy).trace)) := by
  revert h
  unfold rgemmBatch3d
  split
  · next f hf => exact fun h => absurd (Ending.returns.inj h) (rgemmBatchCheck_code hf)
  · next batch m n k hc =>
    intro h
    have hok := rgemmBatchCheck_ok hc
    obtain ⟨t, held, ha, hb⟩ := finish_noError io nocopy (by simp [rgemmBatchBlocks]) _ h
    rw [ha]
    dsimp only at hb ⊢
    split at hb
    · next f hr => exact absurd (Ending.returns.inj hb) (rgemmBatchResolve_code hr)
    · next r hr =>
      obtain ⟨hs, hd⟩ := withSetup_noError hb
      refine ⟨batch, m, n, k, t, held, r, _, _, hc, rfl, prefix_finish_done t held, hr, rfl, rfl, ?_⟩
      rcases batchDispatch_noError (hok.typecodeC ▸ hok.blas) hd with hk | ⟨h0, hk3, hkb⟩
      · exact .inl (call_mem_finish_done (by
          simp only [hr, withSetup_of_noError _ hs]
          exact List.mem_cons_of_mem _ hk))
      · exact .inr ⟨h0,
          call_mem_finish_done (by
            simp only [hr, withSetup_of_noError _ hs]
            exact List.mem_cons_of_mem _ hk3),
          call_mem_finish_done (by
            simp only [hr, withSetup_of_noError _ hs]
            exact List.mem_cons_of_mem _ hkb)⟩

/-- `GpuArray_rgemmBatch_3d` returns `GA_NO_ERROR` only after the strided-batched
kernel of `C`'s typecode returned `GA_NO_ERROR`, or, on an empty batch, after it
returned `GA_DEVSUP_ERROR` and the pointer-array kernel returned
`GA_NO_ERROR`.  Nothing is asked of the copies: the kernels run on `C`'s
typecode. -/
theorem rgemmBatch3d_noError_ran_kernel (io : Collab R) (transA transB : CbTranspose) (alpha : R)
    (A B : GpuArray) (beta : R) (C : GpuArray) (nocopy : Bool)
    (h : (rgemmBatch3d io transA transB alpha A B beta C nocopy).ending = .returns .noError) :
    (∃ g, Event.call (.kernel C.typecode (.gemm3D g) .noError) ∈
      (rgemmBatch3d io transA transB alpha A B beta C nocopy).trace) ∨
    (C.dim 0 = 0 ∧ ∃ g gb,
      Event.call (.kernel C.typecode (.gemm3D g) .devsupError) ∈
        (rgemmBatch3d io transA transB alpha A B beta C nocopy).trace ∧
      Event.call (.kernel C.typecode (.gemmBatch gb) .noError) ∈
        (rgemmBatch3d io transA transB alpha A B beta C nocopy).trace) := by
  obtain ⟨_, _, _, _, _, _, _, g, gb, hc, _, _, _, _, _, hk⟩ := rgemmBatch3d_noError_path h
  rcases hk with hk | ⟨h0, hk3, hkb⟩
  · exact .inl ⟨g, hk⟩
  · exact .inr ⟨(rgemmBatchCheck_ok hc).batchC.trans h0, g, gb, hk3, hkb⟩

theorem rgemmBatch3d_noError_ran_kernel_batch2 :
    (rgemmBatch3d (Collab.succeeding ℤ) .noTrans .noTrans 1 (batch2 0) (batch2 1) 0 (batch2 2)
      false).ending = .returns .noError ∧
    ((∃ g, Event.call (.kernel .float (.gemm3D g) .noError) ∈
      (rgemmBatch3d (Collab.succeeding ℤ) .noTrans .noTrans 1 (batch2 0) (batch2 1) 0 (batch2 2)
        false).trace) ∨
    ((batch2 2).dim 0 = 0 ∧ ∃ g gb,
      Event.call (.kernel .float (.gemm3D g) .devsupError) ∈
        (rgemmBatch3d (Collab.succeeding ℤ) .noTrans .noTrans 1 (batch2 0) (batch2 1) 0 (batch2 2)
          false).trace ∧
      Event.call (.kernel .float (.gemmBatch gb) .noError) ∈
        (rgemmBatch3d (Collab.succeeding ℤ) .noTrans .noTrans 1 (batch2 0) (batch2 1) 0 (batch2 2)
          false).trace)) :=
  ⟨by decide, rgemmBatch3d_noError_ran_kernel _ _ _ _ _ _ _ _ _ (by decide)⟩


/-! ## The entry points meet their specification -/

/-- A caller of `GpuArray_rdot` that sees `GA_NO_ERROR` holds the dot product.
Whatever the collaborators did, when the operands' flags tell no lie, share one
typecode (which the call itself does not enforce) and every copy holds its
source's elements, the call ran a `dot` of `X`'s typecode that returned
`GA_NO_ERROR`, with non-negative increments, whose reference meaning `Updates`
`Z` to `dotSpec`. -/
theorem rdot_noError_correct [Semiring R] (io : Collab R) (mem : Mem R) (X Y Z : GpuArray)
    (nocopy : Bool) (hX : X.FlagsSound) (hY : Y.FlagsSound) (hZ : Z.FlagsSound)
    (hXY : Y.typecode = X.typecode) (hXZ : Z.typecode = X.typecode)
    (hcopies : CopiesSound mem (rdot io X Y Z nocopy).trace)
    (h : (rdot io X Y Z nocopy).ending = .returns .noError) :
    ∃ d, Event.call (.kernel X.typecode (.dot d) .noError) ∈ (rdot io X Y Z nocopy).trace ∧
      0 ≤ d.incX ∧ 0 ≤ d.incY ∧ Updates mem (d.run X.itemsize mem) Z (dotSpec mem X Y Z) := by
  obtain ⟨t, held, hc, ha, hsub, hk⟩ := rdot_noError_path hcopies.keepTypecode h
  obtain ⟨-, hx, hy, hval, hframe⟩ :=
    dotCall_correct mem hX hY hZ hXY hXZ hc ha (hcopies.of_subset hsub) rfl
  exact ⟨_, hk, hx, hy, Updates.of_zero (rdotCheck_ok hc).ndZ hval hframe⟩

theorem rdot_noError_correct_floats :
    ∃ d, Event.call (.kernel .float (.dot d) .noError) ∈
        (rdot (Collab.succeeding ℤ) (floatVector 0) (floatVector 1) (floatScalar 2) false).trace ∧
      0 ≤ d.incX ∧ 0 ≤ d.incY ∧ Updates (fun _ _ => (0 : ℤ)) (d.run 4 fun _ _ => 0) (floatScalar 2)
        (dotSpec (fun _ _ => 0) (floatVector 0) (floatVector 1) (floatScalar 2)) :=
  rdot_noError_correct (Collab.succeeding ℤ) (fun _ _ => 0) (floatVector 0) (floatVector 1)
    (floatScalar 2) false (by decide) (by decide) (by decide) rfl rfl (.of_noCopies (by decide))
    (by decide)

/-- A caller of `GpuArray_rgemv` that sees `GA_NO_ERROR` holds the product.
Whatever the collaborators did, when the operands' flags tell no lie, `Y`'s
elements are at distinct addresses and every copy holds its source's elements,
the call ran a `gemv` of `A`'s typecode that returned `GA_NO_ERROR`, with a
leading dimension that covers `A` and non-negative increments, whose reference
meaning `Updates` `Y` to `gemvSpec`. -/
theorem rgemv_noError_correct [Semiring R] (io : Collab R) (mem : Mem R) (transA : CbTranspose)
    (alpha : R) (A X : GpuArray) (beta : R) (Y : GpuArray) (nocopy : Bool) (hA : A.FlagsSound)
    (hX : X.FlagsSound) (hY : Y.FlagsSound)
    (hYinj : ∀ i < Y.dim 0, ∀ j < Y.dim 0, Y.elem [i] = Y.elem [j] → i = j)
    (hcopies : CopiesSound mem (rgemv io transA alpha A X beta Y nocopy).trace)
    (h : (rgemv io transA alpha A X beta Y nocopy).ending = .returns .noError) :
    ∃ g, Event.call (.kernel A.typecode (.gemv g) .noError) ∈
        (rgemv io transA alpha A X beta Y nocopy).trace ∧
      LdCovers g.order g.lda g.m g.n ∧ 0 ≤ g.incX ∧ 0 ≤ g.incY ∧
      Updates mem (g.run A.itemsize mem) Y (gemvSpec mem transA alpha A X beta Y) := by
  obtain ⟨t, held, o, lda, hchk, ha, hpre, hr, hk⟩ := rgemv_noError_path hcopies.keepTypecode h
  obtain ⟨-, -, hld, hx, hy, hval, hframe⟩ := gemvCall_correct mem alpha beta hA hX hY hYinj hchk
    ha hr (hcopies.of_subset hpre.subset) rfl
  exact ⟨_, hk, hld, hx, hy, Updates.of_one (rgemvCheck_ok hchk).ndY hval hframe⟩

theorem rgemv_noError_correct_colMajor :
    ∃ g, Event.call (.kernel .float (.gemv g) .noError) ∈
        (rgemv (Collab.succeeding ℤ) .noTrans 1 (colMajor2x2 0) (floatVector 1) 0 (floatVector 2)
          false).trace ∧
      LdCovers g.order g.lda g.m g.n ∧ 0 ≤ g.incX ∧ 0 ≤ g.incY ∧
      Updates (fun _ _ => 0) (g.run 4 fun _ _ => 0) (floatVector 2)
        (gemvSpec (fun _ _ => 0) .noTrans 1 (colMajor2x2 0) (floatVector 1) 0 (floatVector 2)) :=
  rgemv_noError_correct _ _ _ _ _ _ _ _ _ (by decide) (by decide) (by decide) (by decide)
    (.of_noCopies (by decide)) (by decide)


/-- `GpuArray_rgemm` computes `C := alpha * op(A) * op(B) + beta * C`.  On
operands it admits whose flags tell no lie, when every copy `GpuArray_copy`
makes is packed and holds its source's elements and `gpublas_setup` succeeds,
the call runs a `gemm` whose leading dimensions are valid and returns its
status, and the reference meaning of that `gemm` sets `C` to `gemmSpec` over
the caller's own matrices and leaves every other cell alone. -/
theorem rgemm_correct [Semiring R] (io : Collab R) (mem : Mem R) (transA transB : CbTranspose)
    (alpha : R) (A B : GpuArray) (beta : R) (C : GpuArray) (nocopy : Bool) (hA : A.FlagsSound)
    (hB : B.FlagsSound) (hC : C.FlagsSound) (h : GemmAdmits transA transB A B C nocopy)
    (hcopy : CopiesFaithful mem io (rgemmBlocks A B)) (hsetup : ∀ ctx, io.setup ctx = .noError) :
    ∃ g, RunsKernel io A.typecode (.gemm g) (rgemm io transA transB alpha A B beta C nocopy) ∧
      g.LdValid ∧ Updates mem (g.run A.itemsize mem) C (gemmSpec mem transA transB alpha A B beta C) := by
  obtain ⟨⟨m, n, k, hok⟩, hCs, hn⟩ := h
  obtain ⟨t, held, r, ha, hr, hrun⟩ := rgemm_reaches_kernel alpha beta hok hCs hn hcopy.1 hsetup
  have hsound : CopiesSound mem t := by
    have h := hcopy.copiesSound nocopy
    rwa [ha] at h
  exact ⟨_, hrun, gemmCall_updates mem alpha beta hA hB hC (rgemmCheck_eq_ok hok) ha hr hsound⟩

theorem rgemm_correct_copied :
    ∃ g, RunsKernel (Collab.copyingTo (colMajor2x2 3)) .float (.gemm g)
        (rgemm (Collab.copyingTo (colMajor2x2 3)) .noTrans .noTrans 1 (unflagged2x2 0)
          (colMajor2x2 1) 0 (colMajor2x2 2) false) ∧
      g.LdValid ∧ Updates (fun _ _ => 0) (g.run 4 fun _ _ => 0) (colMajor2x2 2)
        (gemmSpec (fun _ _ => 0) .noTrans .noTrans 1 (unflagged2x2 0) (colMajor2x2 1) 0
          (colMajor2x2 2)) :=
  rgemm_correct _ _ _ _ _ _ _ _ _ _ (by decide) (by decide) (by decide)
    ⟨⟨2, 2, 2, rgemmCheck_ok rfl⟩, rfl, nofun⟩ ⟨by decide, fun _ _ _ _ _ => rfl⟩ fun _ => rfl

/-- A caller of `GpuArray_rgemm` that sees `GA_NO_ERROR` holds the product.
Whatever the collaborators did, when the operands' flags tell no lie and every
copy holds its source's elements, the call ran a `gemm` of `A`'s typecode that
returned `GA_NO_ERROR`, whose leading dimensions are valid and whose reference
meaning `Updates` `C` to `gemmSpec`. -/
theorem rgemm_noError_correct [Semiring R] (io : Collab R) (mem : Mem R)
    (transA transB : CbTranspose) (alpha : R) (A B : GpuArray) (beta : R) (C : GpuArray)
    (nocopy : Bool) (hA : A.FlagsSound) (hB : B.FlagsSound) (hC : C.FlagsSound)
    (hcopies : CopiesSound mem (rgemm io transA transB alpha A B beta C nocopy).trace)
    (h : (rgemm io transA transB alpha A B beta C nocopy).ending = .returns .noError) :
    ∃ g, Event.call (.kernel A.typecode (.gemm g) .noError) ∈
        (rgemm io transA transB alpha A B beta C nocopy).trace ∧
      g.LdValid ∧ Updates mem (g.run A.itemsize mem) C (gemmSpec mem transA transB alpha A B beta C) := by
  obtain ⟨m, n, k, t, held, r, hc, ha, hpre, hr, hk⟩ := rgemm_noError_path hcopies.keepTypecode h
  exact ⟨_, hk, gemmCall_updates mem alpha beta hA hB hC hc ha hr (hcopies.of_subset hpre.subset)⟩

theorem rgemm_noError_correct_colMajor :
    ∃ g, Event.call (.kernel .float (.gemm g) .noError) ∈
        (rgemm (Collab.succeeding ℤ) .noTrans .noTrans 1 (colMajor2x2 0) (colMajor2x2 1) 0
          (colMajor2x2 2) false).trace ∧
      g.LdValid ∧ Updates (fun _ _ => 0) (g.run 4 fun _ _ => 0) (colMajor2x2 2)
        (gemmSpec (fun _ _ => 0) .noTrans .noTrans 1 (colMajor2x2 0) (colMajor2x2 1) 0
          (colMajor2x2 2)) :=
  rgemm_noError_correct _ _ _ _ _ _ _ _ _ _ (by decide) (by decide) (by decide)
    (.of_noCopies (by decide)) (by decide)

/-- A caller of `GpuArray_rger` that sees `GA_NO_ERROR` holds the update.
Whatever the collaborators did, when the operands' flags tell no lie and every
copy holds its source's elements, the call ran a `ger` of `X`'s typecode that
returned `GA_NO_ERROR`, with a leading dimension that covers `A` and
non-negative increments, whose reference meaning `Updates` `A` to `gerSpec`. -/
theorem rger_noError_correct [Semiring R] (io : Collab R) (mem : Mem R) (alpha : R)
    (X Y A : GpuArray) (nocopy : Bool) (hX : X.FlagsSound) (hY : Y.FlagsSound) (hA : A.FlagsSound)
    (hcopies : CopiesSound mem (rger io alpha X Y A nocopy).trace)
    (h : (rger io alpha X Y A nocopy).ending = .returns .noError) :
    ∃ g, Event.call (.kernel X.typecode (.ger g) .noError) ∈ (rger io alpha X Y A nocopy).trace ∧
      LdCovers g.order g.lda g.m g.n ∧ 0 ≤ g.incX ∧ 0 ≤ g.incY ∧
      Updates mem (g.run X.itemsize mem) A (gerSpec mem alpha X Y A) := by
  obtain ⟨t, held, o, lda, hchk, ha, hpre, hr, hk⟩ := rger_noError_path hcopies.keepTypecode h
  obtain ⟨-, -, -, hld, hx, hy, hval, hframe⟩ :=
    gerCall_correct mem alpha hX hY hA hchk ha hr (hcopies.of_subset hpre.subset) rfl
  exact ⟨_, hk, hld, hx, hy, Updates.of_two (rgerCheck_ok hchk).ndA hval hframe⟩

theorem rger_noError_correct_vectors :
    ∃ g, Event.call (.kernel .float (.ger g) .noError) ∈
        (rger (Collab.succeeding ℤ) 1 (floatVector 0) (floatVector 1) (colMajor2x2 2) false).trace ∧
      LdCovers g.order g.lda g.m g.n ∧ 0 ≤ g.incX ∧ 0 ≤ g.incY ∧
      Updates (fun _ _ => 0) (g.run 4 fun _ _ => 0) (colMajor2x2 2)
        (gerSpec (fun _ _ => 0) 1 (floatVector 0) (floatVector 1) (colMajor2x2 2)) :=
  rger_noError_correct _ _ _ _ _ _ _ (by decide) (by decide) (by decide)
    (.of_noCopies (by decide)) (by decide)

/-- `GpuArray_rgemmBatch_3d` computes the product slice by slice.  On operands
it admits whose flags tell no lie, with a `C` whose logical elements are
distinct cells and non-negative batch strides, when every copy `GpuArray_copy`
makes is packed and holds its source's elements and `gpublas_setup` succeeds,
the call runs the strided-batched kernel `g` of `C`'s typecode (and returns its
status unless it is `GA_DEVSUP_ERROR`), and the reference meaning of `g` sets
`C` to `gemmBatchSpec` over the caller's own stacks and leaves every other cell
alone. -/
theorem rgemmBatch3d_correct [Semiring R] (io : Collab R) (mem : Mem R)
    (transA transB : CbTranspose) (alpha : R) (A B : GpuArray) (beta : R) (C : GpuArray)
    (nocopy : Bool) (hA : A.FlagsSound) (hB : B.FlagsSound) (hC : C.FlagsSound)
    (hA0 : 0 ≤ A.stride 0) (hB0 : 0 ≤ B.stride 0) (hC0 : 0 ≤ C.stride 0)
    (hCinj : ∀ x ∈ cells3 (C.dim 0) (C.dim 1) (C.dim 2), ∀ y ∈ cells3 (C.dim 0) (C.dim 1) (C.dim 2),
      C.elem [x.1, x.2.1, x.2.2] = C.elem [y.1, y.2.1, y.2.2] → x = y)
    (h : BatchAdmits transA transB A B C nocopy)
    (hcopy : CopiesFaithful mem io (rgemmBatchBlocks A B)) (hsetup : ∀ ctx, io.setup ctx = .noError) :
    ∃ g, Event.call (.kernel C.typecode (.gemm3D g) (io.kernel C.typecode (.gemm3D g))) ∈
        (rgemmBatch3d io transA transB alpha A B beta C nocopy).trace ∧
      (io.kernel C.typecode (.gemm3D g) ≠ .devsupError →
        (rgemmBatch3d io transA transB alpha A B beta C nocopy).ending =
          .returns (io.kernel C.typecode (.gemm3D g))) ∧
      Updates mem (g.run C.itemsize mem) C (gemmBatchSpec mem transA transB alpha A B beta C) := by
  obtain ⟨⟨batch, m, n, k, hok⟩, hCc, hn⟩ := h
  obtain ⟨t, held, r, _, ha, hr, rfl, hk, hend⟩ :=
    rgemmBatch3d_reaches_kernel alpha beta hok hCc hn hcopy.1.succeed hsetup
  have hsound : CopiesSound mem t := by
    have h := hcopy.copiesSound nocopy
    rwa [ha] at h
  exact ⟨_, hk, hend, gemm3DCall_correct mem alpha beta hA hB hC hA0 hB0 hC0 hCinj
    (rgemmBatchCheck_eq_ok hok) ha hr hsound⟩

theorem rgemmBatch3d_correct_copied :
    ∃ g, Event.call (.kernel .float (.gemm3D g)
          ((Collab.copyingTo (batch2 3)).kernel .float (.gemm3D g))) ∈
        (rgemmBatch3d (Collab.copyingTo (batch2 3)) .noTrans .noTrans 1 (spread2 0) (batch2 1) 0
          (batch2 2) false).trace ∧
      ((Collab.copyingTo (batch2 3)).kernel .float (.gemm3D g) ≠ .devsupError →
        (rgemmBatch3d (Collab.copyingTo (batch2 3)) .noTrans .noTrans 1 (spread2 0) (batch2 1) 0
          (batch2 2) false).ending =
          .returns ((Collab.copyingTo (batch2 3)).kernel .float (.gemm3D g))) ∧
      Updates (fun _ _ => 0) (g.run 4 fun _ _ => 0) (batch2 2)
        (gemmBatchSpec (fun _ _ => 0) .noTrans .noTrans 1 (spread2 0) (batch2 1) 0 (batch2 2)) :=
  rgemmBatch3d_correct _ _ _ _ _ _ _ _ _ _ (by decide) (by decide) (by decide) (by decide)
    (by decide) (by decide) (by decide) ⟨⟨2, 1, 1, 1, rgemmBatchCheck_ok rfl⟩, by decide, nofun⟩
    ⟨by decide, fun _ _ _ _ _ => rfl⟩ fun _ => rfl

/-- A caller of `GpuArray_rgemmBatch_3d` that sees `GA_NO_ERROR` holds the
batched product.  Whatever the collaborators did, when the operands' flags tell
no lie, the batch strides are non-negative, `C`'s logical elements are distinct
cells and every copy holds its source's elements, a kernel of `C`'s typecode
returned `GA_NO_ERROR` whose reference meaning `Updates` `C` to
`gemmBatchSpec`: the strided-batched kernel, or, on an empty batch, the
pointer-array kernel of the fallback. -/
theorem rgemmBatch3d_noError_correct [Semiring R] (io : Collab R) (mem : Mem R)
    (transA transB : CbTranspose) (alpha : R) (A B : GpuArray) (beta : R) (C : GpuArray)
    (nocopy : Bool) (hA : A.FlagsSound) (hB : B.FlagsSound) (hC : C.FlagsSound)
    (hA0 : 0 ≤ A.stride 0) (hB0 : 0 ≤ B.stride 0) (hC0 : 0 ≤ C.stride 0)
    (hCinj : ∀ x ∈ cells3 (C.dim 0) (C.dim 1) (C.dim 2), ∀ y ∈ cells3 (C.dim 0) (C.dim 1) (C.dim 2),
      C.elem [x.1, x.2.1, x.2.2] = C.elem [y.1, y.2.1, y.2.2] → x = y)
    (hcopies : CopiesSound mem (rgemmBatch3d io transA transB alpha A B beta C nocopy).trace)
    (h : (rgemmBatch3d io transA transB alpha A B beta C nocopy).ending = .returns .noError) :
    ∃ k, Event.call (.kernel C.typecode k .noError) ∈
        (rgemmBatch3d io transA transB alpha A B beta C nocopy).trace ∧
      Updates mem (k.run C.itemsize mem) C (gemmBatchSpec mem transA transB alpha A B beta C) := by
  obtain ⟨batch, m, n, k, t, held, r, _, _, hc, ha, hpre, hr, rfl, rfl, hk⟩ :=
    rgemmBatch3d_noError_path h
  rcases hk with hk | ⟨rfl, -, hkb⟩
  · exact ⟨_, hk, gemm3DCall_correct mem alpha beta hA hB hC hA0 hB0 hC0 hCinj hc ha hr
      (hcopies.of_subset hpre.subset)⟩
  · -- an empty batch: `C` has no logical element and the fallback's kernel writes nothing
    have h0 : C.dim 0 = 0 := (rgemmBatchCheck_ok hc).batchC
    exact ⟨_, hkb, Updates.of_three (rgemmBatchCheck_ok hc).ndC (fun b hb => absurd hb (by omega))
      fun _ _ _ => rfl⟩

theorem rgemmBatch3d_noError_correct_batch2 :
    ∃ k, Event.call (.kernel .float k .noError) ∈
        (rgemmBatch3d (Collab.succeeding ℤ) .noTrans .noTrans 1 (batch2 0) (batch2 1) 0 (batch2 2)
          false).trace ∧
      Updates (fun _ _ => 0) (k.run 4 fun _ _ => 0) (batch2 2)
        (gemmBatchSpec (fun _ _ => 0) .noTrans .noTrans 1 (batch2 0) (batch2 1) 0 (batch2 2)) :=
  rgemmBatch3d_noError_correct _ _ _ _ _ _ _ _ _ _ (by decide) (by decide) (by decide) (by decide)
    (by decide) (by decide) (by decide) (.of_noCopies (by decide)) (by decide)

end GpuArrayBlas
