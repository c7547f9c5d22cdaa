import GpuArrayBlas.Blas.Arbitrate

/-!
# Orders, leading dimensions and transpose flips

After the copy blocks, the matrix entry points of `gpuarray_array_blas.c` read
the contiguity flags of their operands.  One matrix fixes the call's order
(`C` for `GpuArray_rgemm`, `A` for `GpuArray_rgemv` and `GpuArray_rger`):
`orderOf`.  Every other matrix gets a leading dimension and has its transpose
flag flipped when its own order is not the call's: `operandLayout`.

The point of the flip is that a matrix stored in the "wrong" order is its
transpose stored in the right one.  `operandLayout_read` proves it for every
flag, order and transpose: the kernel, reading the operand with the flipped
flag, the call's order and the derived leading dimension, sees exactly
`op(M)` of the caller's logical matrix, and the leading dimension covers the
matrix it spans.  `orderOf_place` is the same fact for the matrix that fixes
the order, and `vecAddr_of_aligned` for vectors.

Logical elements are read through `GpuArray.read`; a temporary stands for its
source through `SameElements`, which is what the correctness theorems assume of
`GpuArray_copy` (`CopiesSound`).
-/

set_option autoImplicit false

namespace GpuArrayBlas

/-- The order of the call and the leading dimension of the matrix that fixes it:
```
if (M->flags & GA_F_CONTIGUOUS) { o = cb_fortran; ld = M->dimensions[0]; }
else if (M->flags & GA_C_CONTIGUOUS) { o = cb_c; ld = M->dimensions[1]; }
else { err = error_set(ctx->err, GA_VALUE_ERROR, msg); goto cleanup; }
``` -/
def orderOf (M : GpuArray) (msg : String) : Except Failure (CbOrder × Nat) :=
  if M.flags.fContiguous then .ok (.fortran, M.dim 0)
  else if M.flags.cContiguous then .ok (.c, M.dim 1)
  else .error ⟨.valueError, msg⟩

/-- The leading dimension of another matrix operand, and its transpose flag,
flipped when the operand's order is not the call's order `o`:
```
if (M->flags & GA_F_CONTIGUOUS) { ld = M->dimensions[0]; if (o == cb_c) flip(t); }
else if (M->flags & GA_C_CONTIGUOUS) { ld = M->dimensions[1]; if (o == cb_fortran) flip(t); }
else { err = error_set(ctx->err, GA_VALUE_ERROR, msg); goto cleanup; }
``` -/
def operandLayout (o : CbOrder) (M : GpuArray) (t : CbTranspose) (msg : String) :
    Except Failure (Nat × CbTranspose) :=
  if M.flags.fContiguous then .ok (M.dim 0, if o = .c then t.toggle else t)
  else if M.flags.cContiguous then .ok (M.dim 1, if o = .fortran then t.toggle else t)
  else .error ⟨.valueError, msg⟩

/-- An operand of one segment always resolves. -/
theorem orderOf_ok_of_oneSegment {M : GpuArray} (msg : String) (h : M.isOneSegment = true) :
    ∃ r, orderOf M msg = .ok r := by
  unfold orderOf
  by_cases hF : M.flags.fContiguous = true
  · exact ⟨_, if_pos hF⟩
  · have hC : M.flags.cContiguous = true := by simpa [GpuArray.isOneSegment, hF] using h
    exact ⟨_, by rw [if_neg hF, if_pos hC]⟩

theorem operandLayout_ok_of_oneSegment (o : CbOrder) {M : GpuArray} (t : CbTranspose) (msg : String)
    (h : M.isOneSegment = true) : ∃ r, operandLayout o M t msg = .ok r := by
  unfold operandLayout
  by_cases hF : M.flags.fContiguous = true
  · exact ⟨_, if_pos hF⟩
  · have hC : M.flags.cContiguous = true := by simpa [GpuArray.isOneSegment, hF] using h
    exact ⟨_, by rw [if_neg hF, if_pos hC]⟩

theorem orderOf_code {M : GpuArray} {msg : String} {f : Failure} (h : orderOf M msg = .error f) :
    f.code ≠ .noError := by
  unfold orderOf at h
  split_ifs at h
  cases h
  nofun

theorem operandLayout_code {o : CbOrder} {M : GpuArray} {t : CbTranspose} {msg : String}
    {f : Failure} (h : operandLayout o M t msg = .error f) : f.code ≠ .noError := by
  unfold operandLayout at h
  split_ifs at h
  cases h
  nofun

variable {R : Type}

/-- The logical element `idx` of `a`. -/
def GpuArray.read (mem : Mem R) (a : GpuArray) (idx : List Nat) : R := mem a.data (a.elem idx)

/-- The temporary `v` holds the logical elements of `src`. -/
def SameElements (mem : Mem R) (src v : GpuArray) : Prop :=
  ∀ idx, src.InRange idx → v.read mem idx = src.read mem idx

/-- How the correctness theorems read `GpuArray_copy`: in the memory `mem` a
kernel of the call runs on, every successful copy of the trace is a packed copy
that holds its source's logical elements. -/
def CopiesSound (mem : Mem R) (t : List (Event R)) : Prop :=
  ∀ s src o v, Event.copy s src o .noError v ∈ t → PackedCopy src o v ∧ SameElements mem src v

/-- A trace without copies asks nothing of `GpuArray_copy`. -/
theorem CopiesSound.of_noCopies {mem : Mem R} {t : List (Event R)} (h : NoCopies t) :
    CopiesSound mem t :=
  fun _ _ _ _ hm => absurd (h _ hm) (by simp [Event.isCopy])

theorem CopiesSound.of_subset {mem : Mem R} {t t' : List (Event R)} (h : t ⊆ t')
    (hs : CopiesSound mem t') : CopiesSound mem t :=
  fun s src o v hm => hs s src o v (h hm)

/-- `GpuArray_copy` answers every block of `bs` that needs a copy with a packed
copy that holds the block's source's logical elements in `mem`. -/
def CopiesFaithful (mem : Mem R) (io : Collab R) (bs : List CopyBlock) : Prop :=
  CopiesPacked io bs ∧ ∀ b ∈ bs, b.needs = true → SameElements mem b.src (io.copy b.slot b.src b.order).2

/-- A collaborator that answers the blocks faithfully makes every copy of their
trace sound. -/
theorem CopiesFaithful.copiesSound {mem : Mem R} {io : Collab R} {bs : List CopyBlock}
    (h : CopiesFaithful mem io bs) (nocopy : Bool) : CopiesSound mem (arbitrate io nocopy bs).trace :=
  fun _ _ _ v hm => by
    obtain ⟨b, hb, hn, rfl, rfl, rfl, hcopy⟩ := copy_of_mem_arbitrate io nocopy hm
    have hv : (io.copy b.slot b.src b.order).2 = v := by rw [hcopy]
    exact hv ▸ ⟨(h.1 b hb hn).2, h.2 b hb hn⟩

theorem CopiesSound.keepTypecode {mem : Mem R} {t : List (Event R)} (hs : CopiesSound mem t) :
    CopiesKeepTypecode t :=
  fun s src o v hm => (hs s src o v hm).1.typecode

/-- What the resolver relies on in a matrix operand: rank 2, contiguity flags
that tell no lie, and an aligned first element. -/
structure MatrixSound (M : GpuArray) : Prop where
  nd : M.nd = 2
  c : M.flags.cContiguous = true → M.isCContiguous = true
  f : M.flags.fContiguous = true → M.isFContiguous = true
  offset : M.itemsize ∣ M.offset

/-- A caller's matrix that passed the alignment check. -/
theorem MatrixSound.of_flagsSound {M : GpuArray} (h2 : M.nd = 2) (h : M.FlagsSound)
    (ha : M.flags.aligned = true) : MatrixSound M :=
  ⟨h2, h.c, h.f, (h.aligned ha).1⟩

/-- A copy of a matrix, packed in any order. -/
theorem MatrixSound.of_packedCopy {M v : GpuArray} {order : Order} (h2 : M.nd = 2)
    (hc : PackedCopy M order v) : MatrixSound v :=
  ⟨hc.nd.trans h2, fun h => hc.cContiguous ▸ h, fun h => hc.fContiguous ▸ h, hc.offset⟩

/-! ## Transposes -/

namespace CbTranspose

theorem opShape_opShape (t : CbTranspose) (r c : Nat) :
    t.opShape (t.opShape r c).1 (t.opShape r c).2 = (r, c) := by
  cases t <;> rfl

theorem toggle_opShape_opShape (t : CbTranspose) (r c : Nat) :
    t.toggle.opShape (t.opShape r c).1 (t.opShape r c).2 = (c, r) := by
  cases t <;> rfl

end CbTranspose

/-- `op` reads only inside the matrix: two readings that agree there give the
same `op`. -/
theorem opEntry_congr {M N : Nat → Nat → R} {t : CbTranspose} {rows cols i l : Nat}
    (h : ∀ r < rows, ∀ c < cols, M r c = N r c) (hi : i < (t.opShape rows cols).1)
    (hl : l < (t.opShape rows cols).2) : opEntry t M i l = opEntry t N i l := by
  cases t <;> exact h _ ‹_› _ ‹_›

/-- Reading the transpose with the flipped flag gives the same `op`. -/
theorem opEntry_toggle {M N : Nat → Nat → R} {t : CbTranspose} {rows cols i l : Nat}
    (h : ∀ r < rows, ∀ c < cols, M c r = N r c) (hi : i < (t.opShape rows cols).1)
    (hl : l < (t.opShape rows cols).2) : opEntry t.toggle M i l = opEntry t N i l := by
  cases t <;> exact h _ ‹_› _ ‹_›

/-- Storing a matrix in the other order transposes it. -/
theorem cbIndex_other {o o' : CbOrder} (h : o ≠ o') (ld r c : Nat) :
    cbIndex o ld r c = cbIndex o' ld c r := by
  cases o <;> cases o' <;> first | exact absurd rfl h | (simp only [cbIndex]; omega)

/-- The flip of the resolvers, once for every way of storing a matrix: `M`
stored in order `o'` with leading dimension `ld`, read by a kernel in the
call's order `o` with its flag flipped exactly when `o ≠ o'`, is read as
`op(M)`. -/
theorem opEntry_stored (read : Nat → R) {M : Nat → Nat → R} {o o' : CbOrder} {ld rows cols : Nat}
    {t : CbTranspose} (hM : ∀ r < rows, ∀ c < cols, read (cbIndex o' ld r c) = M r c) {i l : Nat}
    (hi : i < (t.opShape rows cols).1) (hl : l < (t.opShape rows cols).2) :
    opEntry (if o = o' then t else t.toggle) (fun r c => read (cbIndex o ld r c)) i l =
      opEntry t M i l := by
  by_cases h : o = o'
  · subst h
    rw [if_pos rfl]
    exact opEntry_congr hM hi hl
  · rw [if_neg h]
    exact opEntry_toggle (fun r hr c hc => by rw [cbIndex_other h]; exact hM r hr c hc) hi hl

/-! ## Where the kernel reads -/

/-- Under a sound `GA_F_CONTIGUOUS` the kernel's column-major element is the
logical one. -/
theorem matAddr_fortran {M : GpuArray} (hM : MatrixSound M) (hF : M.flags.fContiguous = true)
    {r c : Nat} (hr : r < M.dim 0) (hc : c < M.dim 1) :
    matAddr M.itemsize .fortran (M.offset / M.itemsize) (M.dim 0) r c = M.elem [r, c] := by
  rw [GpuArray.elem_of_isFContiguous hM.nd (hM.f hF) hr hc, matAddr, cbIndex, Nat.mul_add,
    Nat.mul_div_cancel' hM.offset]
  push_cast
  rfl

/-- Under a sound `GA_C_CONTIGUOUS` the kernel's row-major element is the
logical one. -/
theorem matAddr_c {M : GpuArray} (hM : MatrixSound M) (hC : M.flags.cContiguous = true)
    {r c : Nat} (hr : r < M.dim 0) (hc : c < M.dim 1) :
    matAddr M.itemsize .c (M.offset / M.itemsize) (M.dim 1) r c = M.elem [r, c] := by
  rw [GpuArray.elem_of_isCContiguous hM.nd (hM.c hC) hr hc, matAddr, cbIndex, Nat.mul_add,
    Nat.mul_div_cancel' hM.offset]
  push_cast
  rfl

/-- The matrix that fixes the order is read in place, and its leading dimension
covers it. -/
theorem orderOf_place {M : GpuArray} {msg : String} {o : CbOrder} {ld : Nat}
    (h : orderOf M msg = .ok (o, ld)) (hM : MatrixSound M) :
    LdCovers o ld (M.dim 0) (M.dim 1) ∧ ∀ r < M.dim 0, ∀ c < M.dim 1,
      matAddr M.itemsize o (M.offset / M.itemsize) ld r c = M.elem [r, c] := by
  unfold orderOf at h
  split_ifs at h with hF hC <;> cases h
  · exact ⟨le_refl _, fun r hr c hc => matAddr_fortran hM hF hr hc⟩
  · exact ⟨le_refl _, fun r hr c hc => matAddr_c hM hC hr hc⟩

/-- The resolver's flip is right: the kernel, reading an operand in the call's
order with the flipped flag and the derived leading dimension, sees `op(M)` of
the caller's matrix; and the leading dimension covers the matrix the kernel
reads. -/
theorem operandLayout_read (mem : Mem R) {o : CbOrder} {M : GpuArray} {t t' : CbTranspose}
    {msg : String} {ld m k : Nat} (h : operandLayout o M t msg = .ok (ld, t'))
    (hM : MatrixSound M) (hmk : t.opShape (M.dim 0) (M.dim 1) = (m, k)) :
    LdCovers o ld (t'.opShape m k).1 (t'.opShape m k).2 ∧
    ∀ i < m, ∀ l < k,
      opEntry t' (fun r c => mem M.data (matAddr M.itemsize o (M.offset / M.itemsize) ld r c)) i l =
        opEntry t (fun r c => M.read mem [r, c]) i l := by
  have hself : t.opShape m k = (M.dim 0, M.dim 1) := by
    simpa only [hmk] using t.opShape_opShape (M.dim 0) (M.dim 1)
  have hflip : t.toggle.opShape m k = (M.dim 1, M.dim 0) := by
    simpa only [hmk] using t.toggle_opShape_opShape (M.dim 0) (M.dim 1)
  have hin : ∀ {i l}, i < m → l < k →
      i < (t.opShape (M.dim 0) (M.dim 1)).1 ∧ l < (t.opShape (M.dim 0) (M.dim 1)).2 :=
    fun hi hl => by rw [hmk]; exact ⟨hi, hl⟩
  -- in the operand's own order the kernel reads the operand itself
  have same : ∀ {o' : CbOrder} {ld' : Nat}, (∀ r < M.dim 0, ∀ c < M.dim 1,
      matAddr M.itemsize o' (M.offset / M.itemsize) ld' r c = M.elem [r, c]) →
      ∀ i < m, ∀ l < k,
        opEntry t (fun r c => mem M.data (matAddr M.itemsize o' (M.offset / M.itemsize) ld' r c))
          i l = opEntry t (fun r c => M.read mem [r, c]) i l :=
    fun hp i hi l hl => opEntry_congr (fun r hr c hc => by rw [hp r hr c hc]; rfl)
      (hin hi hl).1 (hin hi hl).2
  -- in the other order it reads the transpose
  have other : ∀ {o' : CbOrder} {ld' : Nat}, (∀ r < M.dim 0, ∀ c < M.dim 1,
      matAddr M.itemsize o' (M.offset / M.itemsize) ld' c r = M.elem [r, c]) →
      ∀ i < m, ∀ l < k,
        opEntry t.toggle
          (fun r c => mem M.data (matAddr M.itemsize o' (M.offset / M.itemsize) ld' r c))
          i l = opEntry t (fun r c => M.read mem [r, c]) i l :=
    fun hp i hi l hl => opEntry_toggle (fun r hr c hc => by rw [hp r hr c hc]; rfl)
      (hin hi hl).1 (hin hi hl).2
  unfold operandLayout at h
  by_cases hF : M.flags.fContiguous = true
  · rw [if_pos hF] at h
    cases h
    cases o with
    | fortran => exact ⟨by simp [hself, LdCovers], same fun r hr c hc => matAddr_fortran hM hF hr hc⟩
    | c =>
      refine ⟨by simp [hflip, LdCovers], other fun r hr c hc => ?_⟩
      rw [matAddr, cbIndex_swap, ← matAddr, matAddr_fortran hM hF hr hc]
  · rw [if_neg hF] at h
    by_cases hC : M.flags.cContiguous = true
    swap
    · rw [if_neg hC] at h
      cases h
    rw [if_pos hC] at h
    cases h
    cases o with
    | fortran =>
      refine ⟨by simp [hflip, LdCovers], other fun r hr c hc => ?_⟩
      rw [matAddr, ← cbIndex_swap, ← matAddr, matAddr_c hM hC hr hc]
    | c => exact ⟨by simp [hself, LdCovers], same fun r hr c hc => matAddr_c hM hC hr hc⟩

/-! ## Pointer variables -/

/-- A pointer variable after the copy blocks standing for the caller's matrix
`M`: its flags tell no lie, it has `M`'s extents and element size, and it holds
`M`'s logical elements. -/
structure StandsFor (mem : Mem R) (M P : GpuArray) : Prop where
  sound : MatrixSound P
  dim0 : P.dim 0 = M.dim 0
  dim1 : P.dim 1 = M.dim 1
  itemsize : P.itemsize = M.itemsize
  read : ∀ r < M.dim 0, ∀ c < M.dim 1, P.read mem [r, c] = M.read mem [r, c]

theorem StandsFor.self {mem : Mem R} {M : GpuArray} (h : MatrixSound M) : StandsFor mem M M :=
  ⟨h, rfl, rfl, rfl, fun _ _ _ _ => rfl⟩

theorem StandsFor.of_copy {mem : Mem R} {M v : GpuArray} {order : Order} (h2 : M.nd = 2)
    (hc : PackedCopy M order v) (hs : SameElements mem M v) : StandsFor mem M v :=
  ⟨.of_packedCopy h2 hc, hc.dim_eq 0, hc.dim_eq 1, hc.itemsize_eq,
    fun r hr c hc' => hs [r, c] ((GpuArray.inRange_two h2).mpr ⟨hr, hc'⟩)⟩

/-- After the copy blocks went through, the pointer variable of a block stands
for the block's matrix: the caller's own, or the copy the block made. -/
theorem StandsFor.of_arbitrate {io : Collab R} {nocopy : Bool} {bs : List CopyBlock}
    (hnd : (bs.map CopyBlock.slot).Nodup) {t : List (Event R)} {held : Held}
    (h : arbitrate io nocopy bs = .done t held) {b : CopyBlock} (hb : b ∈ bs) {mem : Mem R}
    (hM : MatrixSound b.src) (hcopies : CopiesSound mem t) :
    StandsFor mem b.src (pointer held b.slot b.src) := by
  rcases arbitrate_done_pointer io nocopy hnd h hb with ⟨-, hn⟩ | ⟨-, v, hv, hm⟩
  · simpa only [pointer, hn, Option.getD_none] using StandsFor.self hM
  · obtain ⟨hc, hs⟩ := hcopies _ _ _ _ hm
    simpa only [pointer, hv, Option.getD_some] using StandsFor.of_copy hM.nd hc hs

/-- `operandLayout_read` through a pointer variable: the kernel sees `op` of
the caller's matrix, whether it reads the caller's array or a copy. -/
theorem StandsFor.operandLayout_read {mem : Mem R} {M P : GpuArray} {o : CbOrder}
    {t t' : CbTranspose} {msg : String} {ld m k : Nat} (hP : StandsFor mem M P)
    (h : operandLayout o P t msg = .ok (ld, t'))
    (hmk : t.opShape (M.dim 0) (M.dim 1) = (m, k)) :
    LdCovers o ld (t'.opShape m k).1 (t'.opShape m k).2 ∧
    ∀ i < m, ∀ l < k,
      opEntry t' (fun r c => mem P.data (matAddr M.itemsize o (P.offset / M.itemsize) ld r c)) i l =
        opEntry t (fun r c => M.read mem [r, c]) i l := by
  obtain ⟨hld, hrd⟩ := GpuArrayBlas.operandLayout_read mem h hP.sound (by rw [hP.dim0, hP.dim1, hmk])
  refine ⟨hld, fun i hi l hl => ?_⟩
  rw [← hP.itemsize, hrd i hi l hl]
  exact opEntry_congr hP.read (by rw [hmk]; exact hi) (by rw [hmk]; exact hl)

/-! ## Vectors -/

/-- A vector with a non-negative aligned stride is read in place by a kernel
given `offset / elsize` and `strides[0] / elsize`. -/
theorem vecAddr_of_aligned {e off : Nat} {s : Int} (hoff : e ∣ off) (hs : (e : Int) ∣ s)
    (h0 : 0 ≤ s) (h1 : s < 2 ^ 63) (i : Nat) :
    vecAddr e (off / e) (ssize (divSU s e)) i = off + i * s := by
  rw [vecAddr, ssize_divSU_of_nonneg e h0 h1, mul_add, Int.natCast_div, Int.mul_ediv_cancel'
    (Int.natCast_dvd_natCast.mpr hoff), mul_left_comm, Int.mul_ediv_cancel' hs]

/-- What a kernel relies on in a vector: rank 1 and an aligned offset and
stride. -/
structure VectorSound (V : GpuArray) : Prop where
  nd : V.nd = 1
  offset : V.itemsize ∣ V.offset
  stride : (V.itemsize : Int) ∣ V.stride 0

/-- A caller's vector that passed the alignment check. -/
theorem VectorSound.of_flagsSound {V : GpuArray} (h1 : V.nd = 1) (h : V.FlagsSound)
    (ha : V.flags.aligned = true) : VectorSound V :=
  ⟨h1, (h.aligned ha).1, (h.aligned ha).stride 0⟩

/-- A pointer variable after the copy blocks standing for the caller's vector
`V`: aligned, with a non-negative stride, `V`'s length and element size, and
`V`'s logical elements. -/
structure VecStandsFor (mem : Mem R) (V P : GpuArray) : Prop where
  sound : VectorSound P
  nonneg : 0 ≤ P.stride 0
  dim0 : P.dim 0 = V.dim 0
  itemsize : P.itemsize = V.itemsize
  read : ∀ i < V.dim 0, P.read mem [i] = V.read mem [i]

theorem VecStandsFor.self {mem : Mem R} {V : GpuArray} (h : VectorSound V) (h0 : 0 ≤ V.stride 0) :
    VecStandsFor mem V V :=
  ⟨h, h0, rfl, rfl, fun _ _ => rfl⟩

/-- A packed copy of a vector has the element size as its stride. -/
theorem VecStandsFor.of_copy {mem : Mem R} {V v : GpuArray} {order : Order} (h1 : V.nd = 1)
    (hc : PackedCopy V order v) (hs : SameElements mem V v) : VecStandsFor mem V v := by
  have hst := hc.stride_of_nd_one h1
  refine ⟨⟨hc.nd.trans h1, hc.offset, by rw [hst]⟩, by rw [hst]; exact Int.natCast_nonneg _,
    hc.dim_eq 0, hc.itemsize_eq, fun i hi => hs [i] ((GpuArray.inRange_one h1).mpr hi)⟩

/-- After the copy blocks went through, the pointer variable of a block that
copies exactly the vectors of negative stride stands for the block's vector. -/
theorem VecStandsFor.of_arbitrate {io : Collab R} {nocopy : Bool} {bs : List CopyBlock}
    (hnd : (bs.map CopyBlock.slot).Nodup) {t : List (Event R)} {held : Held}
    (h : arbitrate io nocopy bs = .done t held) {b : CopyBlock} (hb : b ∈ bs) {mem : Mem R}
    (hV : VectorSound b.src) (hneeds : b.needs = decide (b.src.stride 0 < 0))
    (hcopies : CopiesSound mem t) :
    VecStandsFor mem b.src (pointer held b.slot b.src) := by
  rcases arbitrate_done_pointer io nocopy hnd h hb with ⟨hn, hnone⟩ | ⟨-, v, hv, hm⟩
  · have h0 : 0 ≤ b.src.stride 0 := by
      rw [hneeds, decide_eq_false_iff_not] at hn
      omega
    simpa only [pointer, hnone, Option.getD_none] using VecStandsFor.self hV h0
  · obtain ⟨hc, hs⟩ := hcopies _ _ _ _ hm
    simpa only [pointer, hv, Option.getD_some] using VecStandsFor.of_copy hV.nd hc hs

/-- The kernel, given `offset / elsize` and `strides[0] / elsize` of the pointer
variable, finds its element `i` in place ... -/
theorem VecStandsFor.vecAddr_eq {mem : Mem R} {V P : GpuArray} (hP : VecStandsFor mem V P)
    (i : Nat) :
    vecAddr V.itemsize (P.offset / V.itemsize) (ssize (divSU (P.stride 0) V.itemsize)) i =
      P.elem [i] := by
  rw [← hP.itemsize, vecAddr_of_aligned hP.sound.offset hP.sound.stride hP.nonneg
    (P.stride_ssize 0).2 i, GpuArray.elem_one hP.sound.nd]

/-- ... and reads the caller's `V[i]` there. -/
theorem VecStandsFor.vecAddr_read {mem : Mem R} {V P : GpuArray} (hP : VecStandsFor mem V P)
    {i : Nat} (hi : i < V.dim 0) :
    mem P.data (vecAddr V.itemsize (P.offset / V.itemsize) (ssize (divSU (P.stride 0) V.itemsize)) i) =
      V.read mem [i] := by
  rw [hP.vecAddr_eq, ← hP.read i hi, GpuArray.read]

/-- The increment a kernel receives for the pointer variable is the stride in
elements, exactly and non-negative. -/
theorem VecStandsFor.inc_eq {mem : Mem R} {V P : GpuArray} (hP : VecStandsFor mem V P) :
    ssize (divSU (P.stride 0) V.itemsize) * V.itemsize = P.stride 0 ∧
      0 ≤ ssize (divSU (P.stride 0) V.itemsize) := by
  rw [ssize_divSU_of_nonneg _ hP.nonneg (P.stride_ssize 0).2, ← hP.itemsize]
  exact ⟨Int.ediv_mul_cancel hP.sound.stride, Int.ediv_nonneg hP.nonneg (Int.natCast_nonneg _)⟩

end GpuArrayBlas
