import GpuArrayBlas.Blas.Call

/-!
# The copy blocks and the cleanup label, once for all entry points

Every entry point runs its copy blocks through `arbitrate` and joins the rest
of the call at `cleanup:` through `finish`.  This module proves, for any list
of copy blocks with distinct slots and any rest of the call, what the two do
with temporaries:

* `arbitrate_ledger`: the copies a run of blocks made are exactly the
  temporaries the pointer variables hold, it cleared nothing and called no
  kernel, and a `return` out of a block happens only under `nocopy`, before
  any copy;
* `finish_cleanupExact`: on every path that returns, the clears of the trace
  are its successful copies, in order, so each temporary is cleared exactly
  once and nothing else is;
* `finish_kernel`: a kernel call in the trace comes from the rest of the call,
  after every block went through;
* `arbitrate_done_pointer`: after the blocks, each pointer variable is its
  source (which needed no copy) or the copy the collaborator made of it;
* `arbitrate_pointerOf`, the converse: blocks whose copies succeed, and that
  need none under `nocopy`, go through, and when the copies are packed each
  pointer variable is its source or a packed copy of it;
* `finish_hostFreedOnce`: the blocks and the label touch no host array, so a
  call frees the host arrays it allocated whenever its rest of the call does.
-/

set_option autoImplicit false

namespace GpuArrayBlas

variable {R : Type}

namespace Event

/-- The temporary a successful `GpuArray_copy` produced. -/
def produced : Event R → Option (Slot × GpuArray)
  | .copy s _ _ st v => if st = .noError then some (s, v) else none
  | _ => none

/-- The temporary a `GpuArray_clear` released. -/
def cleared : Event R → Option (Slot × GpuArray)
  | .clear s v => some (s, v)
  | _ => none

/-- A call of `GpuArray_copy`. -/
def isCopy : Event R → Bool
  | .copy .. => true
  | _ => false

/-- The backend kernel the event calls, with its precision. -/
def kernel? : Event R → Option (Typecode × Kernel R)
  | .call (.kernel p k _) => some (p, k)
  | _ => none

@[simp] theorem produced_call (c : Call R) : (Event.call c).produced = none := rfl
@[simp] theorem cleared_call (c : Call R) : (Event.call c).cleared = none := rfl
@[simp] theorem isCopy_call (c : Call R) : (Event.call c).isCopy = false := rfl
@[simp] theorem produced_clear (s : Slot) (v : GpuArray) : (Event.clear s v : Event R).produced = none := rfl
@[simp] theorem cleared_clear (s : Slot) (v : GpuArray) :
    (Event.clear s v : Event R).cleared = some (s, v) := rfl
@[simp] theorem isCopy_clear (s : Slot) (v : GpuArray) : (Event.clear s v : Event R).isCopy = false := rfl
@[simp] theorem kernel?_clear (s : Slot) (v : GpuArray) : (Event.clear s v : Event R).kernel? = none := rfl
@[simp] theorem cleared_copy (s : Slot) (src : GpuArray) (o : Order) (st : GaError) (v : GpuArray) :
    (Event.copy s src o st v : Event R).cleared = none := rfl
@[simp] theorem kernel?_copy (s : Slot) (src : GpuArray) (o : Order) (st : GaError) (v : GpuArray) :
    (Event.copy s src o st v : Event R).kernel? = none := rfl
@[simp] theorem produced_copy (s : Slot) (src : GpuArray) (o : Order) (st : GaError) (v : GpuArray) :
    (Event.copy s src o st v : Event R).produced = if st = .noError then some (s, v) else none := rfl

end Event

/-- Every temporary the call produced is cleared exactly once and nothing else
is cleared: the clears of the trace are its successful copies, in order. -/
def CleanupExact (t : List (Event R)) : Prop :=
  t.filterMap Event.cleared = t.filterMap Event.produced

/-- `GpuArray_copy` is never called. -/
def NoCopies (t : List (Event R)) : Prop := ∀ ev ∈ t, ev.isCopy = false

instance (t : List (Event R)) : Decidable (NoCopies t) :=
  inferInstanceAs (Decidable (∀ ev ∈ t, _))

/-- No backend kernel is called. -/
def NoKernel (t : List (Event R)) : Prop := ∀ ev ∈ t, ev.kernel? = none

instance (t : List (Event R)) : Decidable (NoKernel t) :=
  decidable_of_iff (∀ ev ∈ t, ev.kernel?.isNone = true) (by simp [NoKernel])

@[simp] theorem filterMap_produced_map_call (cs : List (Call R)) :
    (cs.map Event.call).filterMap Event.produced = [] := by
  simp [List.filterMap_map, Function.comp_def]

@[simp] theorem filterMap_cleared_map_call (cs : List (Call R)) :
    (cs.map Event.call).filterMap Event.cleared = [] := by
  simp [List.filterMap_map, Function.comp_def]

/-! ## The ledger of a run of copy blocks -/

/-- The temporaries held after the blocks `bs`, in block order. -/
def heldList (bs : List CopyBlock) (held : Held) : List (Slot × GpuArray) :=
  bs.filterMap fun b => (held b.slot).map (Prod.mk b.slot)

theorem heldList_update_of_not_mem {bs : List CopyBlock} {s : Slot} (held : Held)
    (x : Option GpuArray) (h : s ∉ bs.map CopyBlock.slot) :
    heldList bs (Function.update held s x) = heldList bs held := by
  refine List.filterMap_congr fun b hb => ?_
  have hne : b.slot ≠ s := fun he => h (he ▸ List.mem_map_of_mem _ hb)
  rw [Function.update_noteq hne]

/-- What a run of copy blocks `bs` leaves behind, by the way it ended. -/
def Arbitration.Ledger (nocopy : Bool) (bs : List CopyBlock) : Arbitration R → Prop
  | .returned s t => s = .copyError ∧ nocopy = true ∧ NoCopies t ∧
      t.filterMap Event.cleared = [] ∧ NoKernel t
  | .failed s t held => s ≠ .noError ∧ nocopy = false ∧
      t.filterMap Event.produced = heldList bs held ∧ t.filterMap Event.cleared = [] ∧
      (∀ s, s ∉ bs.map CopyBlock.slot → held s = none) ∧ NoKernel t
  | .done t held => (nocopy = true → NoCopies t) ∧
      t.filterMap Event.produced = heldList bs held ∧ t.filterMap Event.cleared = [] ∧
      (∀ s, s ∉ bs.map CopyBlock.slot → held s = none) ∧ NoKernel t

/-- A block that needed no copy extends the ledger of the blocks after it. -/
theorem Arbitration.Ledger.skip {nocopy : Bool} {b : CopyBlock} {bs : List CopyBlock}
    {a : Arbitration R} (hb : b.slot ∉ bs.map CopyBlock.slot) (h : a.Ledger nocopy bs) :
    a.Ledger nocopy (b :: bs) := by
  have hnone : ∀ held : Held, (∀ s, s ∉ bs.map CopyBlock.slot → held s = none) →
      heldList (b :: bs) held = heldList bs held := fun held hh => by
    simp [heldList, hh _ hb]
  have hout : ∀ held : Held, (∀ s, s ∉ bs.map CopyBlock.slot → held s = none) →
      ∀ s, s ∉ (b :: bs).map CopyBlock.slot → held s = none := fun held hh s hs =>
    hh s fun hm => hs (List.mem_cons_of_mem _ hm)
  cases a with
  | returned => exact h
  | failed s t held =>
    obtain ⟨h1, h2, h3, h4, h5, h6⟩ := h
    exact ⟨h1, h2, h3.trans (hnone held h5).symm, h4, hout held h5, h6⟩
  | done t held =>
    obtain ⟨h1, h2, h3, h5, h6⟩ := h
    exact ⟨h1, h2.trans (hnone held h5).symm, h3, hout held h5, h6⟩

/-- A successful copy into a slot no later block uses extends the ledger. -/
theorem Arbitration.Ledger.push {b : CopyBlock} {bs : List CopyBlock} {a : Arbitration R}
    {v : GpuArray} (hb : b.slot ∉ bs.map CopyBlock.slot) (h : a.Ledger false bs) :
    (a.push (.copy b.slot b.src b.order .noError v) b.slot v).Ledger false (b :: bs) := by
  have hlist : ∀ held : Held, heldList (b :: bs) (Function.update held b.slot (some v)) =
      (b.slot, v) :: heldList bs held := fun held => by
    simp only [heldList, List.filterMap_cons, Function.update_same, Option.map_some']
    exact congrArg _ (heldList_update_of_not_mem held _ hb)
  have hout : ∀ held : Held, (∀ s, s ∉ bs.map CopyBlock.slot → held s = none) →
      ∀ s, s ∉ (b :: bs).map CopyBlock.slot → Function.update held b.slot (some v) s = none :=
    fun held hh s hs => by
      simp only [List.map_cons, List.mem_cons, not_or] at hs
      rw [Function.update_noteq hs.1, hh s hs.2]
  have hk : ∀ t : List (Event R), NoKernel t →
      NoKernel (Event.copy b.slot b.src b.order .noError v :: t) := fun t ht ev hev => by
    rcases List.mem_cons.mp hev with rfl | hev
    · rfl
    · exact ht ev hev
  cases a with
  | returned s t => exact absurd h.2.1 Bool.false_ne_true
  | failed s t held =>
    obtain ⟨h1, h2, h3, h4, h5, h6⟩ := h
    exact ⟨h1, h2, by simp [h3, hlist], by simpa using h4, hout held h5, hk t h6⟩
  | done t held =>
    obtain ⟨-, h3, h4, h5, h6⟩ := h
    exact ⟨by simp, by simp [h3, hlist], by simpa using h4, hout held h5, hk t h6⟩

/-- The ledger of every run of copy blocks with distinct slots. -/
theorem arbitrate_ledger (io : Collab R) (nocopy : Bool) :
    ∀ bs : List CopyBlock, (bs.map CopyBlock.slot).Nodup →
      (arbitrate io nocopy bs).Ledger nocopy bs
  | [], _ => by simp [arbitrate, Arbitration.Ledger, NoCopies, NoKernel, heldList]
  | b :: bs, hnd => by
    rw [List.map_cons, List.nodup_cons] at hnd
    have ih := arbitrate_ledger io nocopy bs hnd.2
    unfold arbitrate
    by_cases hneeds : b.needs = true
    · rw [if_pos hneeds]
      cases nocopy with
      | true =>
        refine ⟨rfl, rfl, ?_, rfl, ?_⟩ <;> intro ev hev <;> simp at hev <;> subst hev <;> rfl
      | false =>
        simp only [Bool.false_eq_true, if_false]
        by_cases hst : (io.copy b.slot b.src b.order).1 = .noError
        · rw [if_neg (not_not.mpr hst), hst]
          exact ih.push hnd.1
        · rw [if_pos hst]
          refine ⟨hst, rfl, by simp [hst, heldList], rfl, fun _ _ => rfl, ?_⟩
          intro ev hev
          simp at hev
          subst hev
          rfl
    · rw [if_neg hneeds]
      exact ih.skip hnd.1

/-! ## The cleanup label -/

theorem filterMap_cleared_cleanup (bs : List CopyBlock) (held : Held) :
    (cleanup (bs.map CopyBlock.slot) held : List (Event R)).filterMap Event.cleared =
      heldList bs held := by
  simp only [cleanup, heldList, List.filterMap_map, List.filterMap_filterMap, Function.comp_apply]
  refine List.filterMap_congr fun b _ => ?_
  cases held b.slot <;> rfl

theorem filterMap_produced_cleanup (slots : List Slot) (held : Held) :
    (cleanup slots held : List (Event R)).filterMap Event.produced = [] := by
  simp only [cleanup, List.filterMap_filterMap]
  refine List.filterMap_eq_nil_iff.mpr fun s _ => ?_
  cases held s <;> rfl

/-- The cleanup label only clears. -/
theorem eq_clear_of_mem_cleanup {slots : List Slot} {held : Held} {ev : Event R}
    (hev : ev ∈ cleanup slots held) : ∃ s v, ev = .clear s v := by
  obtain ⟨s, -, hs⟩ := List.mem_filterMap.mp hev
  cases h : held s with
  | none => simp [h] at hs
  | some v =>
    simp only [h, Option.map_some', Option.some.injEq] at hs
    exact ⟨s, v, hs.symm⟩

theorem cleanup_noKernel (slots : List Slot) (held : Held) :
    NoKernel (cleanup slots held : List (Event R)) := fun _ hev => by
  obtain ⟨s, v, rfl⟩ := eq_clear_of_mem_cleanup hev
  rfl

theorem cleanup_noCopies (slots : List Slot) (held : Held) :
    NoCopies (cleanup slots held : List (Event R)) := fun _ hev => by
  obtain ⟨s, v, rfl⟩ := eq_clear_of_mem_cleanup hev
  rfl

theorem filterMap_produced_of_noCopies {t : List (Event R)} (h : NoCopies t) :
    t.filterMap Event.produced = [] :=
  List.filterMap_eq_nil_iff.mpr fun ev hev => by
    cases ev with
    | copy => exact absurd (h _ hev) (by simp [Event.isCopy])
    | clear => rfl
    | call => rfl

theorem noCopies_map_call (cs : List (Call R)) : NoCopies (cs.map Event.call) := fun _ hev => by
  obtain ⟨c, -, rfl⟩ := List.mem_map.mp hev
  rfl

/-- On every path that returns, the clears of the trace are its copies. -/
theorem finish_cleanupExact (io : Collab R) (nocopy : Bool) {bs : List CopyBlock}
    (hnd : (bs.map CopyBlock.slot).Nodup) (body : Held → Ending × List (Call R))
    (hret : (finish (bs.map CopyBlock.slot) (arbitrate io nocopy bs) body).ending ≠ .crashes) :
    CleanupExact (finish (bs.map CopyBlock.slot) (arbitrate io nocopy bs) body).trace := by
  have hl := arbitrate_ledger io nocopy bs hnd
  revert hret
  generalize arbitrate io nocopy bs = a at hl ⊢
  intro hret
  cases a with
  | returned s t =>
    obtain ⟨-, -, hnc, hcl, -⟩ := hl
    simp only [finish, CleanupExact, hcl, filterMap_produced_of_noCopies hnc]
  | failed s t held =>
    obtain ⟨-, -, hpr, hcl, -⟩ := hl
    simp [finish, CleanupExact, hpr, hcl, filterMap_cleared_cleanup, filterMap_produced_cleanup]
  | done t held =>
    obtain ⟨-, hpr, hcl, -⟩ := hl
    obtain ⟨⟨en, calls⟩, hb⟩ : ∃ r, body held = r := ⟨_, rfl⟩
    cases en with
    | crashes => exact absurd (by rw [finish_done_crashes hb]) hret
    | returns s =>
      rw [finish_done_returns hb]
      simp only [CleanupExact, List.filterMap_append, hpr, hcl, filterMap_cleared_map_call,
        filterMap_produced_map_call, filterMap_cleared_cleanup, filterMap_produced_cleanup,
        List.nil_append, List.append_nil]

/-- Under `nocopy` no copy is ever made. -/
theorem finish_noCopies (io : Collab R) {bs : List CopyBlock} (hnd : (bs.map CopyBlock.slot).Nodup)
    (slots : List Slot) (body : Held → Ending × List (Call R)) :
    NoCopies (finish slots (arbitrate io true bs) body).trace := by
  have hl := arbitrate_ledger io true bs hnd
  generalize arbitrate io true bs = a at hl ⊢
  cases a with
  | returned s t => exact hl.2.2.1
  | failed s t held => exact absurd hl.2.1 (by decide)
  | done t held =>
    intro ev hev
    rcases mem_finish_done hev with hin | hin | hin
    · exact hl.1 rfl ev hin
    · exact noCopies_map_call _ ev hin
    · exact cleanup_noCopies slots held ev hin

/-- A kernel call in the trace is a call of the rest of the call, which runs
only after every copy block went through. -/
theorem finish_kernel (io : Collab R) (nocopy : Bool) {bs : List CopyBlock}
    (hnd : (bs.map CopyBlock.slot).Nodup) (slots : List Slot) (body : Held → Ending × List (Call R))
    {ev : Event R} (hev : ev ∈ (finish slots (arbitrate io nocopy bs) body).trace)
    (hk : ev.kernel? ≠ none) :
    ∃ t held, arbitrate io nocopy bs = .done t held ∧ ∃ c ∈ (body held).2, ev = .call c := by
  have hl := arbitrate_ledger io nocopy bs hnd
  generalize arbitrate io nocopy bs = a at hl hev ⊢
  cases a with
  | returned s t => exact absurd (hl.2.2.2.2 ev hev) hk
  | failed s t held =>
    simp only [finish, List.mem_append] at hev
    rcases hev with hev | hev
    · exact absurd (hl.2.2.2.2.2 ev hev) hk
    · exact absurd (cleanup_noKernel slots held ev hev) hk
  | done t held =>
    refine ⟨t, held, rfl, ?_⟩
    rcases mem_finish_done hev with hin | hin | hin
    · exact absurd (hl.2.2.2.2 ev hin) hk
    · obtain ⟨c, hc, rfl⟩ := List.mem_map.mp hin
      exact ⟨c, hc, rfl⟩
    · exact absurd (cleanup_noKernel slots held ev hin) hk

/-! ## Pointers after the copy blocks -/

/-- After the blocks went through, a block's slot holds a temporary exactly
when the block needed a copy, and then the trace has that successful copy. -/
theorem arbitrate_done_pointer (io : Collab R) (nocopy : Bool) :
    ∀ {bs : List CopyBlock}, (bs.map CopyBlock.slot).Nodup →
      ∀ {t : List (Event R)} {held : Held}, arbitrate io nocopy bs = .done t held →
      ∀ {b : CopyBlock}, b ∈ bs →
        (b.needs = false ∧ held b.slot = none) ∨
        (b.needs = true ∧ ∃ v, held b.slot = some v ∧
          Event.copy b.slot b.src b.order .noError v ∈ t)
  | [], _, _, _, _, _, hb => nomatch hb
  | b' :: bs, hnd, t, held, h, b, hb => by
    rw [List.map_cons, List.nodup_cons] at hnd
    have hl := arbitrate_ledger io nocopy bs hnd.2
    unfold arbitrate at h
    by_cases hneeds : b'.needs = true
    · rw [if_pos hneeds] at h
      cases nocopy with
      | true => simp at h
      | false =>
        simp only [Bool.false_eq_true, if_false] at h
        by_cases hst : (io.copy b'.slot b'.src b'.order).1 = .noError
        · rw [if_neg (not_not.mpr hst)] at h
          revert h hl
          generalize hr : arbitrate io false bs = a
          intro hl h
          cases a with
          | returned => simp [Arbitration.push] at h
          | failed => simp [Arbitration.push] at h
          | done t' held' =>
            simp only [Arbitration.push, Arbitration.done.injEq] at h
            obtain ⟨rfl, rfl⟩ := h
            rcases List.mem_cons.mp hb with rfl | hb
            · exact .inr ⟨hneeds, _, Function.update_same _ _ _, by rw [← hst]; simp⟩
            · have hne : b.slot ≠ b'.slot := fun he => hnd.1 (he ▸ List.mem_map_of_mem _ hb)
              rw [Function.update_noteq hne]
              rcases arbitrate_done_pointer io false hnd.2 hr hb with h | ⟨hn, v, hv, hm⟩
              · exact .inl h
              · exact .inr ⟨hn, v, hv, List.mem_cons_of_mem _ hm⟩
        · rw [if_pos hst] at h
          simp at h
    · rw [if_neg hneeds] at h
      rcases List.mem_cons.mp hb with rfl | hb
      · rw [h] at hl
        exact .inl ⟨by simpa using hneeds, hl.2.2.2.1 _ hnd.1⟩
      · exact arbitrate_done_pointer io nocopy hnd.2 h hb

/-- Under `nocopy`, copy blocks that went through needed no copy. -/
theorem arbitrate_true_done {io : Collab R} :
    ∀ {bs : List CopyBlock} {t : List (Event R)} {held : Held},
      arbitrate io true bs = .done t held → ∀ b ∈ bs, b.needs = false
  | [], _, _, _, _, hb => nomatch hb
  | b' :: bs, t, held, h, b, hb => by
    unfold arbitrate at h
    by_cases hneeds : b'.needs = true
    · simp [hneeds] at h
    · rw [if_neg hneeds] at h
      rcases List.mem_cons.mp hb with rfl | hb
      · simpa using hneeds
      · exact arbitrate_true_done h b hb

/-- Blocks that need no copy run alike with and without `nocopy`. -/
theorem arbitrate_nocopy_eq (io : Collab R) :
    ∀ {bs : List CopyBlock}, (∀ b ∈ bs, b.needs = false) → arbitrate io true bs = arbitrate io false bs
  | [], _ => rfl
  | b :: bs, h => by
    simp only [arbitrate, h b (List.mem_cons_self _ _), Bool.false_eq_true, if_false]
    exact arbitrate_nocopy_eq io fun b' hb' => h b' (List.mem_cons_of_mem _ hb')

/-! ## Copies that succeed -/

/-- `GpuArray_copy` succeeds on every block of `bs` that needs a copy. -/
def CopiesSucceed (io : Collab R) (bs : List CopyBlock) : Prop :=
  ∀ b ∈ bs, b.needs = true → (io.copy b.slot b.src b.order).1 = .noError

/-- `GpuArray_copy` answers every block of `bs` that needs a copy with a packed
copy of the block's source. -/
def CopiesPacked (io : Collab R) (bs : List CopyBlock) : Prop :=
  ∀ b ∈ bs, b.needs = true → (io.copy b.slot b.src b.order).1 = .noError ∧
    PackedCopy b.src b.order (io.copy b.slot b.src b.order).2

instance (io : Collab R) (bs : List CopyBlock) : Decidable (CopiesSucceed io bs) :=
  inferInstanceAs (Decidable (∀ b ∈ bs, _))

instance (io : Collab R) (bs : List CopyBlock) : Decidable (CopiesPacked io bs) :=
  inferInstanceAs (Decidable (∀ b ∈ bs, _))

theorem CopiesPacked.succeed {io : Collab R} {bs : List CopyBlock} (h : CopiesPacked io bs) :
    CopiesSucceed io bs :=
  fun b hb hn => (h b hb hn).1

/-- Blocks whose copies succeed, and that need none under `nocopy`, go through. -/
theorem arbitrate_done_of_succeed (io : Collab R) (nocopy : Bool) :
    ∀ {bs : List CopyBlock}, CopiesSucceed io bs → (nocopy = true → ∀ b ∈ bs, b.needs = false) →
      ∃ t held, arbitrate io nocopy bs = .done t held
  | [], _, _ => ⟨[], _, rfl⟩
  | b :: bs, hs, hn => by
    obtain ⟨t, held, h⟩ := arbitrate_done_of_succeed io nocopy
      (fun b' hb' => hs b' (List.mem_cons_of_mem _ hb'))
      fun hc b' hb' => hn hc b' (List.mem_cons_of_mem _ hb')
    unfold arbitrate
    by_cases hneeds : b.needs = true
    · have hc : nocopy = false := by
        cases nocopy
        · rfl
        · simp [hn rfl b (List.mem_cons_self _ _)] at hneeds
      subst hc
      simp only [hneeds, hs b (List.mem_cons_self _ _) hneeds, h, if_true, Bool.false_eq_true,
        if_false, ne_eq, not_true_eq_false, Arbitration.push]
      exact ⟨_, _, rfl⟩
    · exact ⟨t, held, by rw [if_neg hneeds, h]⟩

/-- Every copy in the trace of the blocks is the collaborator's answer to a
block that needed one. -/
theorem copy_of_mem_arbitrate (io : Collab R) (nocopy : Bool) {s : Slot} {src : GpuArray}
    {o : Order} {st : GaError} {v : GpuArray} :
    ∀ {bs : List CopyBlock}, Event.copy s src o st v ∈ (arbitrate io nocopy bs).trace →
      ∃ b ∈ bs, b.needs = true ∧ b.slot = s ∧ b.src = src ∧ b.order = o ∧ io.copy s src o = (st, v)
  | [], h => by simp [arbitrate, Arbitration.trace] at h
  | b :: bs, h => by
    unfold arbitrate at h
    by_cases hneeds : b.needs = true
    · rw [if_pos hneeds] at h
      cases nocopy with
      | true => simp [Arbitration.trace] at h
      | false =>
        simp only [Bool.false_eq_true, if_false] at h
        by_cases hst : (io.copy b.slot b.src b.order).1 = .noError
        · rw [if_neg (not_not.mpr hst), Arbitration.trace_push, List.mem_cons] at h
          rcases h with h | h
          · obtain ⟨rfl, rfl, rfl, rfl, rfl⟩ := Event.copy.inj h
            exact ⟨b, List.mem_cons_self _ _, hneeds, rfl, rfl, rfl, rfl⟩
          · obtain ⟨b', hb', h'⟩ := copy_of_mem_arbitrate io false h
            exact ⟨b', List.mem_cons_of_mem _ hb', h'⟩
        · rw [if_pos hst] at h
          obtain ⟨rfl, rfl, rfl, rfl, rfl⟩ := Event.copy.inj (List.mem_singleton.mp h)
          exact ⟨b, List.mem_cons_self _ _, hneeds, rfl, rfl, rfl, rfl⟩
    · rw [if_neg hneeds] at h
      obtain ⟨b', hb', h'⟩ := copy_of_mem_arbitrate io nocopy h
      exact ⟨b', List.mem_cons_of_mem _ hb', h'⟩

/-- What the pointer variable `P` of block `b` is once the blocks went through:
the block's source, which needed no copy, or a packed copy of it. -/
def PointerOf (b : CopyBlock) (P : GpuArray) : Prop :=
  (b.needs = false ∧ P = b.src) ∨ (b.needs = true ∧ PackedCopy b.src b.order P)

theorem PointerOf.typecode {b : CopyBlock} {P : GpuArray} (h : PointerOf b P) :
    P.typecode = b.src.typecode := by
  rcases h with ⟨-, rfl⟩ | ⟨-, hc⟩
  · rfl
  · exact hc.typecode

/-- The pointer variable of a block that copies into column-major order exactly
when its source is not one segment is one segment. -/
theorem PointerOf.isOneSegment {b : CopyBlock} {P : GpuArray} (h : PointerOf b P)
    (hneeds : b.needs = !b.src.isOneSegment) (ho : b.order = .f) : P.isOneSegment = true := by
  rcases h with ⟨hn, rfl⟩ | ⟨-, hc⟩
  · simpa [hn] using hneeds
  · rw [ho] at hc
    simp [GpuArray.isOneSegment, hc.fContiguous_true]

/-- Blocks with distinct slots whose copies are packed, and that need none
under `nocopy`, go through, and leave each pointer variable its source or a
packed copy of it. -/
theorem arbitrate_pointerOf (io : Collab R) (nocopy : Bool) {bs : List CopyBlock}
    (hnd : (bs.map CopyBlock.slot).Nodup) (hc : CopiesPacked io bs)
    (hn : nocopy = true → ∀ b ∈ bs, b.needs = false) :
    ∃ t held, arbitrate io nocopy bs = .done t held ∧
      ∀ b ∈ bs, PointerOf b (pointer held b.slot b.src) := by
  obtain ⟨t, held, h⟩ := arbitrate_done_of_succeed io nocopy hc.succeed hn
  refine ⟨t, held, h, fun b hb => ?_⟩
  rcases arbitrate_done_pointer io nocopy hnd h hb with ⟨hneeds, hv⟩ | ⟨hneeds, v, hv, hm⟩
  · exact .inl ⟨hneeds, by rw [pointer, hv, Option.getD_none]⟩
  · have hm' : Event.copy b.slot b.src b.order .noError v ∈ (arbitrate io nocopy bs).trace := by
      rw [h]
      exact hm
    obtain ⟨-, -, -, -, -, -, hcopy⟩ := copy_of_mem_arbitrate io nocopy hm'
    refine .inr ⟨hneeds, ?_⟩
    rw [pointer, hv, Option.getD_some]
    simpa only [hcopy] using (hc b hb hneeds).2

/-! ## Calls that report success -/

/-- A call that returns `GA_NO_ERROR` got through its copy blocks, and its rest
of the call returned `GA_NO_ERROR`: blocks that return or fail report a
nonzero status. -/
theorem finish_noError (io : Collab R) (nocopy : Bool) {bs : List CopyBlock}
    (hnd : (bs.map CopyBlock.slot).Nodup) (slots : List Slot) {body : Held → Ending × List (Call R)}
    (h : (finish slots (arbitrate io nocopy bs) body).ending = .returns .noError) :
    ∃ t held, arbitrate io nocopy bs = .done t held ∧ (body held).1 = .returns .noError := by
  have hl := arbitrate_ledger io nocopy bs hnd
  revert h
  generalize arbitrate io nocopy bs = a at hl ⊢
  intro h
  cases a with
  | returned s t =>
    cases h
    cases hl.1
  | failed s t held =>
    cases h
    exact absurd rfl hl.1
  | done t held => exact ⟨t, held, rfl, ending_finish_done.symm.trans h⟩

/-- Every successful copy of the trace `t` keeps its source's typecode. -/
def CopiesKeepTypecode (t : List (Event R)) : Prop :=
  ∀ s src o v, Event.copy s src o .noError v ∈ t → v.typecode = src.typecode

theorem CopiesKeepTypecode.of_noCopies {t : List (Event R)} (h : NoCopies t) :
    CopiesKeepTypecode t :=
  fun _ _ _ _ hm => absurd (h _ hm) (by simp [Event.isCopy])

theorem CopiesKeepTypecode.of_subset {t t' : List (Event R)} (h : t ⊆ t')
    (hk : CopiesKeepTypecode t') : CopiesKeepTypecode t :=
  fun s src o v hm => hk s src o v (h hm)

/-- With copies that keep their typecodes, every pointer variable after the
blocks has its source's typecode. -/
theorem typecode_pointer {io : Collab R} {nocopy : Bool} {bs : List CopyBlock}
    (hnd : (bs.map CopyBlock.slot).Nodup) {t : List (Event R)} {held : Held}
    (h : arbitrate io nocopy bs = .done t held) (hk : CopiesKeepTypecode t) {b : CopyBlock}
    (hb : b ∈ bs) : (pointer held b.slot b.src).typecode = b.src.typecode := by
  rcases arbitrate_done_pointer io nocopy hnd h hb with ⟨-, hn⟩ | ⟨-, v, hv, hm⟩
  · rw [pointer, hn, Option.getD_none]
  · rw [pointer, hv, Option.getD_some]
    exact hk _ _ _ _ hm

/-! ## Host arrays -/

namespace Event

/-- The host array a `malloc` allocates. -/
def hostAlloc : Event R → Option HostArray
  | .call (.malloc s _ _) => some s
  | _ => none

/-- The host array a `free` releases. -/
def hostFree : Event R → Option HostArray
  | .call (.free s) => some s
  | _ => none

/-- Neither allocates nor frees a host array. -/
def HostQuiet (ev : Event R) : Prop := ev.hostAlloc = none ∧ ev.hostFree = none

end Event

/-- Each host array the run allocated is freed once, in allocation order, and
nothing else is freed. -/
def HostFreedOnce (t : List (Event R)) : Prop :=
  t.filterMap Event.hostFree = t.filterMap Event.hostAlloc

theorem HostFreedOnce.append {t t' : List (Event R)} (h : HostFreedOnce t) (h' : HostFreedOnce t') :
    HostFreedOnce (t ++ t') := by
  unfold HostFreedOnce at *
  rw [List.filterMap_append, List.filterMap_append, h, h']

theorem hostFreedOnce_of_quiet {t : List (Event R)} (h : ∀ ev ∈ t, ev.HostQuiet) :
    HostFreedOnce t := by
  unfold HostFreedOnce
  rw [List.filterMap_eq_nil_iff.mpr fun ev hev => (h ev hev).2,
    List.filterMap_eq_nil_iff.mpr fun ev hev => (h ev hev).1]

/-- The copy blocks copy and report `GA_COPY_ERROR`; they touch no host array. -/
theorem arbitrate_hostQuiet (io : Collab R) (nocopy : Bool) :
    ∀ bs : List CopyBlock, ∀ ev ∈ (arbitrate io nocopy bs).trace, ev.HostQuiet
  | [], ev, hev => nomatch hev
  | b :: bs, ev, hev => by
    have ih := arbitrate_hostQuiet io nocopy bs
    unfold arbitrate at hev
    by_cases hneeds : b.needs = true
    · rw [if_pos hneeds] at hev
      cases nocopy with
      | true =>
        simp only [if_true, Arbitration.trace, List.mem_singleton] at hev
        subst hev
        exact ⟨rfl, rfl⟩
      | false =>
        simp only [Bool.false_eq_true, if_false] at hev
        by_cases hst : (io.copy b.slot b.src b.order).1 = .noError
        · rw [if_neg (not_not.mpr hst), Arbitration.trace_push, List.mem_cons] at hev
          rcases hev with rfl | hev
          · exact ⟨rfl, rfl⟩
          · exact ih ev hev
        · rw [if_pos hst] at hev
          simp only [Arbitration.trace, List.mem_singleton] at hev
          subst hev
          exact ⟨rfl, rfl⟩
    · rw [if_neg hneeds] at hev
      exact ih ev hev

theorem cleanup_hostQuiet (slots : List Slot) (held : Held) :
    ∀ ev ∈ (cleanup slots held : List (Event R)), ev.HostQuiet := fun _ hev => by
  obtain ⟨s, v, rfl⟩ := eq_clear_of_mem_cleanup hev
  exact ⟨rfl, rfl⟩

/-- A call that returns frees the host arrays it allocated whenever its rest of
the call does. -/
theorem finish_hostFreedOnce (io : Collab R) (nocopy : Bool) (bs : List CopyBlock) (slots : List Slot)
    {body : Held → Ending × List (Call R)}
    (hbody : ∀ held, (body held).1 ≠ .crashes → HostFreedOnce ((body held).2.map Event.call))
    (h : (finish slots (arbitrate io nocopy bs) body).ending ≠ .crashes) :
    HostFreedOnce (finish slots (arbitrate io nocopy bs) body).trace := by
  have hq := arbitrate_hostQuiet io nocopy bs
  revert h
  generalize arbitrate io nocopy bs = a at hq ⊢
  intro h
  cases a with
  | returned s t => exact hostFreedOnce_of_quiet hq
  | failed s t held =>
    exact (hostFreedOnce_of_quiet hq).append (hostFreedOnce_of_quiet (cleanup_hostQuiet slots held))
  | done t held =>
    obtain ⟨⟨en, calls⟩, hb⟩ : ∃ r, body held = r := ⟨_, rfl⟩
    cases en with
    | crashes => exact absurd (by rw [finish_done_crashes hb]) h
    | returns s =>
      have hc := hbody held (by rw [hb]; nofun)
      rw [hb] at hc
      rw [finish_done_returns hb]
      exact ((hostFreedOnce_of_quiet hq).append hc).append
        (hostFreedOnce_of_quiet (cleanup_hostQuiet slots held))

theorem withSetup_hostFreedOnce {io : Collab R} {ctx : Nat} {rest : Ending × List (Call R)}
    (hrest : rest.1 ≠ .crashes → HostFreedOnce (rest.2.map Event.call))
    (h : (withSetup io ctx rest).1 ≠ .crashes) :
    HostFreedOnce ((withSetup io ctx rest).2.map Event.call) := by
  unfold withSetup at h ⊢
  dsimp only at h ⊢
  split_ifs at h ⊢
  · rfl
  · exact @HostFreedOnce.append R [Event.call (.setup ctx (io.setup ctx))] _ rfl (hrest h)

end GpuArrayBlas
