import Outbox.Transfer

/-!
# Transports that never fail

A transport that never fails and never takes nothing may still take bytes in pieces of any size and
make its caller wait as often as it likes. Writing to it ends with everything taken, since every
reply but a wait takes at least one byte and the replies are finitely many; and it stays such a
transport, because what is left of a script is the end of it.

## Main Definitions

* `Transport.Willing` — a transport that never fails and never takes nothing
-/

namespace Outbox

/-- **A willing transport**: no reply to a write is a failure or takes nothing, and no reply to a
flush is a failure. -/
structure Transport.Willing (t : Transport) : Prop where
  writes : ∀ reply ∈ t.writes, reply ≠ .upTo 0 ∧ ∀ error, reply ≠ .fails error
  flushes : ∀ reply ∈ t.flushes, ∀ error, reply ≠ .fails error

/-! ### What is left of a script -/

theorem script_writeScripted_suffix (script : List Reply) (bytes : Bytes) :
    (writeScripted script bytes).script <:+ script := by
  fun_induction writeScripted script bytes with
  | case1 script => exact List.suffix_rfl
  | case2 bytes _ => exact List.suffix_rfl
  | case3 script bytes _ => exact List.suffix_cons _ _
  | case4 script bytes _ => exact List.suffix_cons _ _
  | case5 limit script bytes _ _ ih => exact ih.trans (List.suffix_cons _ _)
  | case6 script bytes _ ih => exact ih.trans (List.suffix_cons _ _)
  | case7 error script bytes _ _ ih => exact ih.trans (List.suffix_cons _ _)
  | case8 error script bytes _ _ => exact List.suffix_cons _ _

theorem script_flushScripted_suffix (script : List Reply) :
    (flushScripted script).2.1 <:+ script := by
  fun_induction flushScripted script with
  | case1 => exact List.suffix_rfl
  | case2 script calls rest error h ih =>
    rw [h] at ih
    exact ih.trans (List.suffix_cons _ _)
  | case3 error script => exact List.suffix_cons _ _
  | case4 reply script => exact List.suffix_cons _ _

/-! ### Writing and flushing -/

/-- Everything is taken where no reply fails or takes nothing. -/
theorem writeScripted_of_willing {script : List Reply}
    (willing : ∀ reply ∈ script, reply ≠ .upTo 0 ∧ ∀ error, reply ≠ .fails error)
    (bytes : Bytes) :
    (writeScripted script bytes).error = none ∧ (writeScripted script bytes).taken = bytes := by
  fun_induction writeScripted script bytes with
  | case1 script => exact ⟨rfl, rfl⟩
  | case2 bytes _ => exact ⟨rfl, rfl⟩
  | case3 script bytes _ => exact ⟨rfl, rfl⟩
  | case4 script bytes _ => exact absurd rfl (willing _ List.mem_cons_self).1
  | case5 limit script bytes _ _ ih =>
    obtain ⟨noError, taken⟩ := ih fun reply h => willing reply (List.mem_cons_of_mem _ h)
    refine ⟨noError, ?_⟩
    rw [Written.after, taken]
    exact List.take_append_drop limit bytes
  | case6 script bytes _ ih => exact ih fun reply h => willing reply (List.mem_cons_of_mem _ h)
  | case7 error script bytes _ _ ih =>
    exact absurd rfl ((willing _ List.mem_cons_self).2 error)
  | case8 error script bytes _ _ =>
    exact absurd rfl ((willing _ List.mem_cons_self).2 error)

/-- A flush succeeds where no reply fails. -/
theorem flushScripted_of_willing {script : List Reply}
    (willing : ∀ reply ∈ script, ∀ error, reply ≠ .fails error) :
    (flushScripted script).2.2 = none := by
  fun_induction flushScripted script with
  | case1 => rfl
  | case2 script calls rest error h ih =>
    rw [h] at ih
    exact ih fun reply hr => willing reply (List.mem_cons_of_mem _ hr)
  | case3 error script => exact absurd rfl (willing _ List.mem_cons_self error)
  | case4 reply script => rfl

namespace Transport.Willing

variable {t : Transport}

/-- **A willing transport takes everything**, and stays willing. -/
theorem writeAll (willing : t.Willing) (bytes : Bytes) :
    (t.writeAll bytes).1 = none ∧ (t.writeAll bytes).2.taken = t.taken ++ bytes ∧
      (t.writeAll bytes).2.Willing := by
  obtain ⟨noError, taken⟩ := writeScripted_of_willing willing.writes bytes
  refine ⟨noError, ?_, ?_, willing.flushes⟩
  · simp [Transport.writeAll, taken]
  · intro reply h
    exact willing.writes reply ((script_writeScripted_suffix t.writes bytes).subset h)

/-- A willing transport is flushed without failure, and stays willing. -/
theorem flush (willing : t.Willing) :
    t.flush.1 = none ∧ t.flush.2.taken = t.taken ∧ t.flush.2.Willing := by
  refine ⟨flushScripted_of_willing willing.flushes, rfl, willing.writes, ?_⟩
  intro reply h
  exact willing.flushes reply ((script_flushScripted_suffix t.flushes).subset h)

end Transport.Willing

/-! ### Writers -/

/-- **A writer over a willing transport hands over its whole buffer.** -/
theorem Writer.flush_of_willing {w : Writer} (willing : w.transport.Willing) :
    ∃ t : Transport, t.Willing ∧ t.taken = w.transport.taken ++ w.buffer ∧
      w.flush = (.ok (), ⟨t, [], w.body⟩) := by
  by_cases empty : w.buffer = []
  · refine ⟨w.transport, willing, by simp [empty], ?_⟩
    rw [flush, if_pos (by simp [empty]), ← empty]
  · have written := willing.writeAll w.buffer
    rcases hw : w.transport.writeAll w.buffer with ⟨error, t⟩
    rw [hw] at written
    obtain ⟨rfl, taken, stays⟩ := written
    have flushed := stays.flush
    rcases hf : t.flush with ⟨error, t'⟩
    rw [hf] at flushed
    obtain ⟨rfl, sameTaken, staysFlushed⟩ := flushed
    refine ⟨t', staysFlushed, sameTaken.trans taken, ?_⟩
    rw [flush, if_neg (by simpa using empty), hw]
    simp only [hf]

end Outbox
