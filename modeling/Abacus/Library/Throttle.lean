import Mathlib.Algebra.Order.Group.Basic

/-! Throttled registers.
A register takes a time only if the time is at least an interval after the one it holds. Which
times it takes depends on their order, unless the newest of them is at least an interval after all
others that the register would take.
-/
set_option autoImplicit false

namespace Throttle

variable {Time : Type} [AddCommGroup Time] [LinearOrder Time]
  {interval time newest : Time} {last : Option Time} {times : List Time}

def Due (interval : Time) (last : Option Time) (time : Time) : Prop :=
  ∀ previous ∈ last, interval ≤ time - previous

def refresh (interval : Time) (last : Option Time) (time : Time) : Option Time :=
  if last.all fun previous => decide (interval ≤ time - previous) then some time else last

theorem due_iff : (last.all fun previous => decide (interval ≤ time - previous)) = true ↔
    Due interval last time := by
  cases last <;> simp [Due]

theorem refresh_of_due (due : Due interval last time) :
    refresh interval last time = some time := if_pos (due_iff.mpr due)

theorem refresh_of_not_due (early : ¬Due interval last time) :
    refresh interval last time = last := if_neg fun all => early (due_iff.mp all)

/-- The newest of the times that the register would take. -/
theorem exists_newest (some : ∃ time ∈ times, Due interval last time) :
    ∃ newest ∈ times, Due interval last newest ∧
      ∀ time ∈ times, Due interval last time → time ≤ newest := by
  classical
  obtain ⟨first,member,due⟩ := some
  have listed : first ∈ times.filter fun time => Due interval last time :=
    List.mem_filter.mpr ⟨member,decide_eq_true due⟩
  obtain ⟨newest,greatest⟩ : ∃ newest,
      (times.filter fun time => Due interval last time).max? = Option.some newest := by
    apply Option.isSome_iff_exists.mp
    rw [List.isSome_max?_iff]
    exact List.ne_nil_of_mem listed
  obtain ⟨place,above⟩ := List.max?_eq_some_iff.mp greatest
  obtain ⟨stored,newestDue⟩ := List.mem_filter.mp place
  refine ⟨newest,stored,of_decide_eq_true newestDue,?_⟩
  intro time there timeDue
  exact above time (List.mem_filter.mpr ⟨there,decide_eq_true timeDue⟩)

theorem foldl_refresh_idle (idle : ∀ time ∈ times, ¬Due interval last time) :
    times.foldl (refresh interval) last = last := by
  induction times with
  | nil => rfl
  | cons time times ih =>
      rw [List.foldl_cons,refresh_of_not_due (idle time (List.mem_cons_self ..))]
      exact ih fun later member => idle later (List.mem_cons_of_mem _ member)

variable [IsOrderedAddMonoid Time]

theorem due_some {previous : Time} : Due interval (some previous) time ↔
    previous + interval ≤ time := by
  simp only [Due,Option.mem_some_iff,forall_eq']
  rw [le_sub_iff_add_le,add_comm]

/-- What is due after a time that was due is due now. -/
theorem Due.of_later (positive : 0 ≤ interval) (due : Due interval last time) {later : Time}
    (next : Due interval (some time) later) : Due interval last later := by
  intro previous held
  have first := due previous held
  have second := due_some.mp next
  have after : time ≤ later := (le_add_of_nonneg_right positive).trans second
  exact first.trans (sub_le_sub_right after previous)

theorem not_due_self (early : time < newest + interval) :
    ¬Due interval (some newest) time := by
  rw [due_some,not_le]
  exact early

/-- A time that is taken first stays if no other one is an interval later. -/
theorem foldl_refresh_first (due : Due interval last time)
    (close : ∀ later ∈ times, Due interval last later → later < time + interval)
    (positive : 0 < interval) :
    (time :: times).foldl (refresh interval) last = some time := by
  rw [List.foldl_cons,refresh_of_due due]
  apply foldl_refresh_idle
  intro later member next
  have before := close later member (due.of_later positive.le next)
  exact not_due_self before next

/-- The newest time that the register would take is an interval after all others. -/
def Settled (interval : Time) (last : Option Time) (times : List Time) : Prop :=
  ∀ newest ∈ times, Due interval last newest →
    (∀ time ∈ times, Due interval last time → time ≤ newest) →
    ∀ time ∈ times, Due interval last time → time = newest ∨ time + interval ≤ newest

/-- In whatever order, the register ends with the newest time. -/
theorem foldl_refresh_reach (positive : 0 < interval)
    (held : last = some newest ∨ newest ∈ times ∧ Due interval last newest)
    (apart : ∀ time ∈ times, Due interval last time →
      time = newest ∨ time + interval ≤ newest) :
    times.foldl (refresh interval) last = some newest := by
  induction times generalizing last with
  | nil =>
      rcases held with held | ⟨member,-⟩
      · exact held
      · cases member
  | cons time times ih =>
      rw [List.foldl_cons]
      by_cases due : Due interval last time
      · rw [refresh_of_due due]
        have later : ∀ other ∈ times, Due interval (some time) other →
            other = newest ∨ other + interval ≤ newest := fun other member next =>
          apart other (List.mem_cons_of_mem _ member) (due.of_later positive.le next)
        rcases apart time (List.mem_cons_self ..) due with same | before
        · exact ih (.inl (congrArg some same)) later
        · refine ih (.inr ⟨?_,due_some.mpr before⟩) later
          have different : newest ≠ time := by
            rintro rfl
            exact absurd before (not_le.mpr (lt_add_of_pos_right _ positive))
          rcases held with held | ⟨member,-⟩
          · rw [held,due_some] at due
            have back := due.trans ((le_add_of_nonneg_right positive.le).trans before)
            exact absurd back (not_le.mpr (lt_add_of_pos_right _ positive))
          · exact (List.mem_cons.mp member).resolve_left different
      · rw [refresh_of_not_due due]
        refine ih ?_ fun other member => apart other (List.mem_cons_of_mem _ member)
        rcases held with held | ⟨member,newestDue⟩
        · exact .inl held
        · refine .inr ⟨(List.mem_cons.mp member).resolve_left ?_,newestDue⟩
          rintro rfl
          exact due newestDue

/-- A settled register ends with the newest due time, or it keeps its own if none is due. -/
theorem foldl_refresh_settled (positive : 0 < interval) (settled : Settled interval last times) :
    (∃ newest ∈ times, Due interval last newest ∧
      (∀ time ∈ times, Due interval last time → time ≤ newest) ∧
      times.foldl (refresh interval) last = some newest) ∨
    (∀ time ∈ times, ¬Due interval last time) ∧ times.foldl (refresh interval) last = last := by
  by_cases due : ∃ time ∈ times, Due interval last time
  · obtain ⟨newest,member,newestDue,above⟩ := exists_newest due
    have reached := foldl_refresh_reach positive (.inr ⟨member,newestDue⟩)
      (settled newest member newestDue above)
    exact .inl ⟨newest,member,newestDue,above,reached⟩
  · have idle : ∀ time ∈ times, ¬Due interval last time :=
      fun time member next => due ⟨time,member,next⟩
    exact .inr ⟨idle,foldl_refresh_idle idle⟩

theorem foldl_refresh_perm {arranged : List Time} (positive : 0 < interval)
    (settled : Settled interval last times) (perm : arranged.Perm times) :
    arranged.foldl (refresh interval) last = times.foldl (refresh interval) last := by
  rcases foldl_refresh_settled positive settled with ⟨newest,member,due,above,reached⟩ | ⟨idle,kept⟩
  · rw [reached]
    refine foldl_refresh_reach positive (.inr ⟨perm.mem_iff.mpr member,due⟩) ?_
    intro time listed next
    exact settled newest member due above time (perm.mem_iff.mp listed) next
  · rw [kept]
    exact foldl_refresh_idle fun time listed => idle time (perm.mem_iff.mp listed)

end Throttle
