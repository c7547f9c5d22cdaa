import GpuArrayBlas.Blas.Kernel
import Mathlib.Logic.Function.Basic

/-!
# One call of an entry point: collaborators, events and the cleanup label

Each entry point of `gpuarray_array_blas.c` is a straight run through five
stages: validation (`return error_set(...)` on failure), copy blocks, checks on
the possibly copied operands (`goto cleanup` on failure), backend setup and
kernel, and the `cleanup:` label that clears the temporaries.  This module
fixes what the stages share.

* `Collab` is the behaviour of every collaborator the file calls
  (`GpuArray_copy`, `gpudata_context`, `gpublas_setup`, the kernels, `malloc`).
  The entry points are functions of it, so a statement over every `Collab` is
  a statement over every success and failure of every collaborator.
* `Event` is what an entry point does that is visible from outside, in order.
  Copies and clears of temporaries are events of their own; every other call
  is a `Call`, so a stage that only checks, sets up or calls a kernel returns
  `Call`s and cannot copy or clear by its type.
* `arbitrate` is the copy block every entry point repeats once per input, and
  `finish` the join of the stages with the `cleanup:` label.
-/

set_option autoImplicit false

namespace GpuArrayBlas

/-- Status codes.  `other code` is any status a collaborator may return that
the file never names. -/
inductive GaError where
  | noError
  | valueError
  | invalidError
  | unalignedError
  | copyError
  | miscError
  | devsupError
  | sysError
  | other (code : Nat)
  deriving DecidableEq, Repr

/-- The temporaries `GpuArray copyA, copyB, copyX, copyY` an entry point may
fill. -/
inductive Slot where
  | copyA
  | copyB
  | copyX
  | copyY
  deriving DecidableEq, Repr

/-- The six host arrays of the pointer-array fallback of the batched product. -/
inductive HostArray where
  | aDatas
  | bDatas
  | cDatas
  | aOffsets
  | bOffsets
  | cOffsets
  deriving DecidableEq, Repr

/-- A failed check: the status `error_set` returns and the message it stores
in `ctx->err`. -/
structure Failure where
  code : GaError
  msg : String
  deriving DecidableEq, Repr

/-! Each check of an entry point is a chain `if (cond) return error_set(...);`,
peeled one test at a time by the two lemmas below. -/

theorem ite_error_eq_ok {α : Type} {c : Prop} [Decidable c] {f0 : Failure} {e : Except Failure α}
    {v : α} (h : (if c then .error f0 else e) = .ok v) : ¬c ∧ e = .ok v := by
  split at h
  · cases h
  · exact ⟨‹_›, h⟩

theorem code_of_ite_error {α : Type} {c : Prop} [Decidable c] {f0 f : Failure}
    {e : Except Failure α} (h : (if c then .error f0 else e) = .error f) (h0 : f0.code ≠ .noError)
    (he : ∀ f, e = .error f → f.code ≠ .noError) : f.code ≠ .noError := by
  split at h
  · cases h
    exact h0
  · exact he f h

/-- Calls of an entry point other than copying and clearing temporaries. -/
inductive Call (R : Type) where
  /-- `error_set`, `error_fmt` or `error_sys` on `ctx->err` -/
  | error (code : GaError) (msg : String)
  /-- `gpublas_setup(ctx)` and its status -/
  | setup (ctx : Nat) (status : GaError)
  /-- a backend kernel of precision `prec` and its status -/
  | kernel (prec : Typecode) (k : Kernel R) (status : GaError)
  /-- `malloc(bytes)` for a host array, and whether it returned non-NULL -/
  | malloc (site : HostArray) (bytes : Nat) (nonNull : Bool)
  /-- `free` of a host array -/
  | free (site : HostArray)
  deriving DecidableEq, Repr

/-- What an entry point does, in order. -/
inductive Event (R : Type) where
  /-- `GpuArray_copy(&slot, src, order)`, its status and the header it filled -/
  | copy (slot : Slot) (src : GpuArray) (order : Order) (status : GaError) (result : GpuArray)
  /-- `GpuArray_clear(&slot)` on the temporary `a` -/
  | clear (slot : Slot) (a : GpuArray)
  /-- any other call -/
  | call (c : Call R)
  deriving DecidableEq, Repr

/-- The collaborators.  Each copy is answered per slot and each allocation per
host array, so every combination of outcomes is one `Collab`. -/
structure Collab (R : Type) where
  /-- `gpudata_context` -/
  context : Nat → Nat
  /-- `GpuArray_copy(&slot, src, order)`: its status and the header it fills -/
  copy : Slot → GpuArray → Order → GaError × GpuArray
  /-- `gpublas_setup` -/
  setup : Nat → GaError
  /-- the status a backend kernel returns -/
  kernel : Typecode → Kernel R → GaError
  /-- whether `malloc(bytes)` for a host array returns non-NULL -/
  malloc : HostArray → Nat → Bool

/-- Collaborators that all succeed; `GpuArray_copy` hands its source back. -/
def Collab.succeeding (R : Type) : Collab R :=
  ⟨id, fun _ a _ => (.noError, a), fun _ => .noError, fun _ _ => .noError, fun _ _ => true⟩

/-- How a call ends: it returns a status, or it writes through a NULL host
array and never returns. -/
inductive Ending where
  | returns (status : GaError)
  | crashes
  deriving DecidableEq, Repr

/-- The result of one call of an entry point. -/
structure Outcome (R : Type) where
  ending : Ending
  trace : List (Event R)
  deriving DecidableEq, Repr

variable {R : Type}

/-- `error_set(ctx->err, code, msg)`. -/
def Failure.call (f : Failure) : Call R := .error f.code f.msg

/-- `return error_set(ctx->err, code, msg);` from a check before any copy. -/
def Failure.returned (f : Failure) : Outcome R :=
  ⟨.returns f.code, [.call f.call]⟩

/-- The call `o`, after calls that neither copy nor clear. -/
def Outcome.afterCalls (calls : List (Call R)) (o : Outcome R) : Outcome R :=
  ⟨o.ending, calls.map .call ++ o.trace⟩

/-- The run `o` calls the kernel `k` of typecode `prec`, and returns the status
the kernel returned. -/
def RunsKernel (io : Collab R) (prec : Typecode) (k : Kernel R) (o : Outcome R) : Prop :=
  Event.call (.kernel prec k (io.kernel prec k)) ∈ o.trace ∧ o.ending = .returns (io.kernel prec k)

theorem RunsKernel.afterCalls {io : Collab R} {prec : Typecode} {k : Kernel R} {o : Outcome R}
    (calls : List (Call R)) (h : RunsKernel io prec k o) : RunsKernel io prec k (o.afterCalls calls) :=
  ⟨List.mem_append_right _ h.1, h.2⟩

/-! ## Copy blocks -/

/-- One copy block of an entry point:
```
if (needs) {
  if (nocopy) return error_set(ctx->err, GA_COPY_ERROR, msg);
  else { err = GpuArray_copy(&slot, src, order);
         if (err != GA_NO_ERROR) goto cleanup;
         Xp = &slot; } }
``` -/
structure CopyBlock where
  slot : Slot
  src : GpuArray
  needs : Bool
  order : Order
  msg : String

/-- The temporaries the pointer variables alias after the copy blocks:
`held s = some v` when the block of slot `s` made the copy `v` (`Xp == &s`). -/
abbrev Held := Slot → Option GpuArray

/-- Where a run of copy blocks leaves the call: returned without cleanup, on
its way to `cleanup:` with a status, or through. -/
inductive Arbitration (R : Type) where
  | returned (status : GaError) (trace : List (Event R))
  | failed (status : GaError) (trace : List (Event R)) (held : Held)
  | done (trace : List (Event R)) (held : Held)

/-- A successful copy `v` into slot `s` ahead of the blocks that follow it. -/
def Arbitration.push (ev : Event R) (s : Slot) (v : GpuArray) : Arbitration R → Arbitration R
  | .returned st t => .returned st (ev :: t)
  | .failed st t held => .failed st (ev :: t) (Function.update held s (some v))
  | .done t held => .done (ev :: t) (Function.update held s (some v))

/-- The events of the copy blocks, however they ended. -/
def Arbitration.trace : Arbitration R → List (Event R)
  | .returned _ t => t
  | .failed _ t _ => t
  | .done t _ => t

@[simp] theorem Arbitration.trace_push (ev : Event R) (s : Slot) (v : GpuArray) (a : Arbitration R) :
    (a.push ev s v).trace = ev :: a.trace := by
  cases a <;> rfl

/-- The copy blocks of an entry point, in source order. -/
def arbitrate (io : Collab R) (nocopy : Bool) : List CopyBlock → Arbitration R
  | [] => .done [] fun _ => none
  | b :: bs =>
    if b.needs then
      if nocopy then .returned .copyError [.call (.error .copyError b.msg)]
      else
        let r := io.copy b.slot b.src b.order
        if r.1 ≠ .noError then .failed r.1 [.copy b.slot b.src b.order r.1 r.2] fun _ => none
        else (arbitrate io nocopy bs).push (.copy b.slot b.src b.order r.1 r.2) b.slot r.2
    else arbitrate io nocopy bs

/-- The pointer variable of a copy block after the blocks: the temporary when
the block filled it (`Xp == &copyX`), the caller's array otherwise. -/
def pointer (held : Held) (slot : Slot) (orig : GpuArray) : GpuArray :=
  (held slot).getD orig

/-! ## Setup, dispatch and cleanup -/

/-- `err = gpublas_setup(ctx); if (err != GA_NO_ERROR) goto cleanup;` ahead of
the rest of the call. -/
def withSetup (io : Collab R) (ctx : Nat) (rest : Ending × List (Call R)) :
    Ending × List (Call R) :=
  let st := io.setup ctx
  if st ≠ .noError then (.returns st, [.setup ctx st])
  else (rest.1, .setup ctx st :: rest.2)

/-- `switch (typecode) { case GA_HALF: err = gpublas_h...(...); ... }`: the
kernel of a BLAS typecode; for any other typecode no case matches and `err`
keeps the value `err0` it had. -/
def callKernel (io : Collab R) (err0 : GaError) (prec : Typecode) (k : Kernel R) :
    GaError × List (Call R) :=
  if prec.isBlas then (io.kernel prec k, [.kernel prec k (io.kernel prec k)])
  else (err0, [])

/-- Setup, then the kernel, whose status the entry point returns; `err` holds
the `GA_NO_ERROR` of the setup when no case matches. -/
def dispatch (io : Collab R) (ctx : Nat) (prec : Typecode) (k : Kernel R) :
    Ending × List (Call R) :=
  withSetup io ctx (Prod.map .returns id (callKernel io .noError prec k))

theorem mem_withSetup {io : Collab R} {ctx : Nat} {rest : Ending × List (Call R)} {c : Call R}
    (h : c ∈ (withSetup io ctx rest).2) : c = .setup ctx (io.setup ctx) ∨ c ∈ rest.2 := by
  simp only [withSetup] at h
  split_ifs at h with hs
  · exact .inl (List.mem_singleton.mp h)
  · rcases List.mem_cons.mp h with h | h
    · exact .inl ((not_not.mp hs) ▸ h)
    · exact .inr h

/-- A setup that succeeds goes on with the rest of the call. -/
theorem withSetup_of_noError {io : Collab R} {ctx : Nat} (rest : Ending × List (Call R))
    (h : io.setup ctx = .noError) : withSetup io ctx rest = (rest.1, .setup ctx .noError :: rest.2) := by
  simp [withSetup, h]

theorem withSetup_crashes {io : Collab R} {ctx : Nat} {rest : Ending × List (Call R)}
    (h : (withSetup io ctx rest).1 = .crashes) : io.setup ctx = .noError ∧ rest.1 = .crashes := by
  by_cases hs : io.setup ctx = .noError
  · rw [withSetup_of_noError _ hs] at h
    exact ⟨hs, h⟩
  · simp [withSetup, hs] at h

theorem withSetup_noError {io : Collab R} {ctx : Nat} {rest : Ending × List (Call R)}
    (h : (withSetup io ctx rest).1 = .returns .noError) :
    io.setup ctx = .noError ∧ rest.1 = .returns .noError := by
  by_cases hs : io.setup ctx = .noError
  · rw [withSetup_of_noError _ hs] at h
    exact ⟨hs, h⟩
  · simp [withSetup, hs] at h

/-- A kernel runs after the setup only when the setup succeeded. -/
theorem setup_of_kernel_mem_withSetup {io : Collab R} {ctx : Nat} {rest : Ending × List (Call R)}
    {p : Typecode} {k : Kernel R} {st : GaError} (h : Call.kernel p k st ∈ (withSetup io ctx rest).2) :
    io.setup ctx = .noError := by
  by_contra hs
  simp [withSetup, hs] at h

/-- The only kernel `callKernel` calls is its own. -/
theorem eq_of_kernel_mem_callKernel {io : Collab R} {err0 : GaError} {prec p : Typecode}
    {k k' : Kernel R} {st : GaError} (h : Call.kernel p k' st ∈ (callKernel io err0 prec k).2) :
    p = prec ∧ k' = k := by
  unfold callKernel at h
  split_ifs at h <;> simp_all

theorem eq_of_kernel_mem_dispatch {io : Collab R} {ctx : Nat} {prec p : Typecode}
    {k k' : Kernel R} {st : GaError} (h : Call.kernel p k' st ∈ (dispatch io ctx prec k).2) :
    p = prec ∧ k' = k := by
  rcases mem_withSetup h with h | h
  · cases h
  · exact eq_of_kernel_mem_callKernel h

/-- A setup that succeeds and a BLAS typecode run the kernel, whose status the
call returns. -/
theorem dispatch_of_noError {io : Collab R} {ctx : Nat} {prec : Typecode} (k : Kernel R)
    (hs : io.setup ctx = .noError) (hp : prec.isBlas = true) :
    dispatch io ctx prec k =
      (.returns (io.kernel prec k), [.setup ctx .noError, .kernel prec k (io.kernel prec k)]) := by
  simp [dispatch, withSetup_of_noError _ hs, callKernel, hp]

/-- A dispatch that returns `GA_NO_ERROR` on a BLAS typecode ran its kernel,
which returned `GA_NO_ERROR`. -/
theorem kernel_mem_dispatch_of_noError {io : Collab R} {ctx : Nat} {prec p : Typecode} {k : Kernel R}
    (hprec : prec = p) (hp : p.isBlas = true) (h : (dispatch io ctx prec k).1 = .returns .noError) :
    Call.kernel p k .noError ∈ (dispatch io ctx prec k).2 := by
  subst hprec
  by_cases hs : io.setup ctx = .noError
  · rw [dispatch_of_noError k hs hp] at h ⊢
    simp [Ending.returns.inj h]
  · simp [dispatch, withSetup, hs] at h

/-- A failed check after the copy blocks: `err = error_set(...); goto cleanup;`. -/
def Failure.body (f : Failure) : Ending × List (Call R) :=
  (.returns f.code, [f.call])

/-- The `cleanup:` label: `if (Xp == &copyX) GpuArray_clear(&copyX);` for each
of the entry point's slots in source order. -/
def cleanup (slots : List Slot) (held : Held) : List (Event R) :=
  slots.filterMap fun s => (held s).map (Event.clear s)

/-- The stages after validation: the copy blocks, then the rest of the call
(`body`, given the temporaries), joined at the `cleanup:` label.  A `return`
in a copy block leaves without cleanup; a crash never reaches the label. -/
def finish (slots : List Slot) (arb : Arbitration R)
    (body : Held → Ending × List (Call R)) : Outcome R :=
  match arb with
  | .returned s t => ⟨.returns s, t⟩
  | .failed s t held => ⟨.returns s, t ++ cleanup slots held⟩
  | .done t held =>
    match body held with
    | (.returns s, calls) => ⟨.returns s, t ++ calls.map .call ++ cleanup slots held⟩
    | (.crashes, calls) => ⟨.crashes, t ++ calls.map .call⟩

section Finish

variable {slots : List Slot} {body : Held → Ending × List (Call R)}

@[simp] theorem finish_returned (s : GaError) (t : List (Event R)) :
    finish slots (.returned s t) body = ⟨.returns s, t⟩ := rfl

@[simp] theorem finish_failed (s : GaError) (t : List (Event R)) (held : Held) :
    finish slots (.failed s t held) body = ⟨.returns s, t ++ cleanup slots held⟩ := rfl

theorem finish_done_returns {t : List (Event R)} {held : Held} {s : GaError} {calls : List (Call R)}
    (h : body held = (.returns s, calls)) :
    finish slots (.done t held) body = ⟨.returns s, t ++ calls.map .call ++ cleanup slots held⟩ := by
  simp [finish, h]

theorem finish_done_crashes {t : List (Event R)} {held : Held} {calls : List (Call R)}
    (h : body held = (.crashes, calls)) :
    finish slots (.done t held) body = ⟨.crashes, t ++ calls.map .call⟩ := by
  simp [finish, h]

/-- Every event of a call that got through the copy blocks is one of the
blocks', a call of the rest of the call, or a clear of the `cleanup:` label. -/
theorem mem_finish_done {t : List (Event R)} {held : Held} {ev : Event R}
    (h : ev ∈ (finish slots (.done t held) body).trace) :
    ev ∈ t ∨ ev ∈ (body held).2.map Event.call ∨ ev ∈ (cleanup slots held : List (Event R)) := by
  obtain ⟨⟨en, calls⟩, hb⟩ : ∃ r, body held = r := ⟨_, rfl⟩
  rw [hb]
  cases en
  · rw [finish_done_returns hb] at h
    simp only [List.mem_append] at h
    rcases h with (h | h) | h
    exacts [.inl h, .inr (.inl h), .inr (.inr h)]
  · rw [finish_done_crashes hb] at h
    simp only [List.mem_append] at h
    exact h.imp_right .inl

/-- The calls of the rest of the call are in the trace, whether it returns or
not. -/
theorem call_mem_finish_done {t : List (Event R)} {held : Held} {c : Call R} (hc : c ∈ (body held).2) :
    Event.call c ∈ (finish slots (.done t held) body).trace := by
  obtain ⟨⟨en, calls⟩, hb⟩ : ∃ r, body held = r := ⟨_, rfl⟩
  rw [hb] at hc
  cases en
  · rw [finish_done_returns hb]
    simp [hc]
  · rw [finish_done_crashes hb]
    simp [hc]

/-- After blocks that went through, the call ends as its rest of the call does. -/
theorem ending_finish_done {t : List (Event R)} {held : Held} :
    (finish slots (.done t held) body).ending = (body held).1 := by
  obtain ⟨⟨en, calls⟩, hb⟩ : ∃ r, body held = r := ⟨_, rfl⟩
  cases en
  · rw [finish_done_returns hb, hb]
  · rw [finish_done_crashes hb, hb]

/-- Blocks that went through, then a setup that succeeds and the kernel of a
BLAS typecode: the kernel runs, and its status is the call's. -/
theorem runsKernel_finish {io : Collab R} {arb : Arbitration R} {t : List (Event R)} {held : Held}
    {ctx : Nat} {prec prec' : Typecode} {k : Kernel R} (ha : arb = .done t held)
    (hb : body held = dispatch io ctx prec' k) (hprec : prec' = prec) (hs : io.setup ctx = .noError)
    (hp : prec.isBlas = true) : RunsKernel io prec k (finish slots arb body) := by
  subst ha hprec
  rw [RunsKernel, finish_done_returns (hb.trans (dispatch_of_noError k hs hp))]
  simp

/-- A call that does not return got through the copy blocks, and its rest of
the call did not return. -/
theorem finish_crashes {arb : Arbitration R} (h : (finish slots arb body).ending = .crashes) :
    ∃ t held, arb = .done t held ∧ (body held).1 = .crashes ∧
      (finish slots arb body).trace = t ++ (body held).2.map .call := by
  cases arb with
  | returned => cases h
  | failed => cases h
  | done t held =>
    obtain ⟨⟨en, calls⟩, hb⟩ : ∃ r, body held = r := ⟨_, rfl⟩
    cases en with
    | returns s =>
      rw [finish_done_returns hb] at h
      cases h
    | crashes => exact ⟨t, held, rfl, by rw [hb], by rw [finish_done_crashes hb, hb]⟩

/-- What the copy blocks did stays at the head of the trace. -/
theorem prefix_finish_done (t : List (Event R)) (held : Held) :
    t <+: (finish slots (.done t held) body).trace := by
  obtain ⟨⟨en, calls⟩, hb⟩ : ∃ r, body held = r := ⟨_, rfl⟩
  cases en
  · rw [finish_done_returns hb, List.append_assoc]
    exact List.prefix_append _ _
  · rw [finish_done_crashes hb]
    exact List.prefix_append _ _

end Finish

end GpuArrayBlas
