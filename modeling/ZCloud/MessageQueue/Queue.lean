import ZCloud.Common
import ZCloud.Lib.Fifo
import Mathlib.Logic.Function.Iterate

namespace ZCloud

variable {α : Type}

def MSG_QUEUE_MAXLEN : Nat := 3

structure MSG_QueNode (α : Type) where
  pstruNext : Fin (MSG_QUEUE_MAXLEN + 1)
  pu8Msg : Option α

/-- A queue of pointers: four nodes in a ring, each pointing to the one before
it in memory. The nodes from `pstruHead` on and before `pstruTail` hold the
messages. -/
structure MSG_Queue (α : Type) where
  pstruHead : Fin (MSG_QUEUE_MAXLEN + 1)
  pstruTail : Fin (MSG_QUEUE_MAXLEN + 1)
  struQueue : Fin (MSG_QUEUE_MAXLEN + 1) → MSG_QueNode α
  next_eq : ∀ i, (struQueue i).pstruNext = i - 1
  filled : ∀ i, (struQueue i).pu8Msg.isSome =
    decide ((pstruHead - i).val < (pstruHead - pstruTail).val)

private theorem init_next : ∀ i : Fin (MSG_QUEUE_MAXLEN + 1),
    (if i = 0 then Fin.last MSG_QUEUE_MAXLEN else i - 1) = i - 1 := by
  decide

def MSG_InitQueue : MSG_Queue α where
  pstruHead := 0
  pstruTail := 0
  struQueue i := ⟨if i = 0 then Fin.last MSG_QUEUE_MAXLEN else i - 1, none⟩
  next_eq := init_next
  filled _ := (decide_eq_false (Nat.not_lt_zero _)).symm

namespace MSG_Queue

/-- Writes `msg` to the message pointer of node `i`. -/
def setMsg (nodes : Fin (MSG_QUEUE_MAXLEN + 1) → MSG_QueNode α) (i : Fin (MSG_QUEUE_MAXLEN + 1))
    (msg : Option α) : Fin (MSG_QUEUE_MAXLEN + 1) → MSG_QueNode α :=
  fun j => if j = i then { nodes j with pu8Msg := msg } else nodes j

theorem pstruNext_setMsg (nodes : Fin (MSG_QUEUE_MAXLEN + 1) → MSG_QueNode α)
    (i j : Fin (MSG_QUEUE_MAXLEN + 1)) (msg : Option α) :
    (setMsg nodes i msg j).pstruNext = (nodes j).pstruNext := by
  unfold setMsg
  split <;> rfl

theorem pu8Msg_setMsg (nodes : Fin (MSG_QUEUE_MAXLEN + 1) → MSG_QueNode α)
    (i j : Fin (MSG_QUEUE_MAXLEN + 1)) (msg : Option α) :
    (setMsg nodes i msg j).pu8Msg = if j = i then msg else (nodes j).pu8Msg := by
  unfold setMsg
  split <;> rfl

private theorem filled_push : ∀ h t i : Fin (MSG_QUEUE_MAXLEN + 1), t - 1 ≠ h →
    (if i = t then true else decide ((h - i).val < (h - t).val)) =
      decide ((h - i).val < (h - (t - 1)).val) := by
  decide

private theorem filled_pop : ∀ h t i : Fin (MSG_QUEUE_MAXLEN + 1), h ≠ t →
    (if i = h then false else decide ((h - i).val < (h - t).val)) =
      decide ((h - 1 - i).val < (h - 1 - t).val) := by
  decide

end MSG_Queue

open MSG_Queue

def MSG_PushMsg (q : MSG_Queue α) (pu8Msg : α) : ZC_RET × MSG_Queue α :=
  if hfull : (q.struQueue q.pstruTail).pstruNext = q.pstruHead then (ZC_RET_ERROR, q)
  else (ZC_RET_OK,
    { pstruHead := q.pstruHead
      pstruTail := (q.struQueue q.pstruTail).pstruNext
      struQueue := setMsg q.struQueue q.pstruTail (some pu8Msg)
      next_eq := fun i => by rw [pstruNext_setMsg, q.next_eq]
      filled := fun i => by
        rw [q.next_eq] at hfull
        rw [pu8Msg_setMsg, q.next_eq, ← filled_push q.pstruHead q.pstruTail i hfull, ← q.filled]
        split <;> rfl })

def MSG_PopMsg (q : MSG_Queue α) : Option α × MSG_Queue α :=
  if hempty : q.pstruHead = q.pstruTail then (none, q)
  else ((q.struQueue q.pstruHead).pu8Msg,
    { pstruHead := (q.struQueue q.pstruHead).pstruNext
      pstruTail := q.pstruTail
      struQueue := setMsg q.struQueue q.pstruHead none
      next_eq := fun i => by rw [pstruNext_setMsg, q.next_eq]
      filled := fun i => by
        rw [pu8Msg_setMsg, q.next_eq, ← filled_pop q.pstruHead q.pstruTail i hempty, ← q.filled]
        split <;> rfl })

namespace MSG_Queue

/-- How many messages the queue holds. -/
def count (q : MSG_Queue α) : Nat := (q.pstruHead - q.pstruTail).val

/-- The messages in the queue, the oldest first. -/
def toList (q : MSG_Queue α) : List α :=
  (List.range q.count).filterMap fun k =>
    (q.struQueue (q.pstruHead - Fin.ofNat (MSG_QUEUE_MAXLEN + 1) k)).pu8Msg

@[simp]
theorem toList_init : (MSG_InitQueue : MSG_Queue α).toList = [] := rfl

theorem count_eq_zero_iff (q : MSG_Queue α) : q.count = 0 ↔ q.pstruHead = q.pstruTail := by
  have h : ∀ h t : Fin (MSG_QUEUE_MAXLEN + 1), (h - t).val = 0 ↔ h = t := by decide
  exact h _ _

theorem count_eq_max_iff (q : MSG_Queue α) :
    q.count = MSG_QUEUE_MAXLEN ↔ (q.struQueue q.pstruTail).pstruNext = q.pstruHead := by
  have h : ∀ h t : Fin (MSG_QUEUE_MAXLEN + 1), (h - t).val = MSG_QUEUE_MAXLEN ↔ t - 1 = h := by decide
  rw [q.next_eq]
  exact h _ _

/-- A push onto a queue that is not full appends the message. -/
theorem push_of_not_full {q : MSG_Queue α} (hfull : q.count ≠ MSG_QUEUE_MAXLEN) (msg : α) :
    (MSG_PushMsg q msg).1 = ZC_RET_OK ∧ (MSG_PushMsg q msg).2.toList = q.toList ++ [msg] := by
  have hnext : ¬ (q.struQueue q.pstruTail).pstruNext = q.pstruHead :=
    fun h => hfull (q.count_eq_max_iff.mpr h)
  have hcount : ∀ h t : Fin (MSG_QUEUE_MAXLEN + 1), t - 1 ≠ h → (h - (t - 1)).val = (h - t).val + 1 := by
    decide
  have hlast : ∀ h t : Fin (MSG_QUEUE_MAXLEN + 1),
      h - Fin.ofNat (MSG_QUEUE_MAXLEN + 1) (h - t).val = t := by decide
  have hother : ∀ h t : Fin (MSG_QUEUE_MAXLEN + 1), ∀ k < (h - t).val,
      h - Fin.ofNat (MSG_QUEUE_MAXLEN + 1) k ≠ t := by decide
  have hnext' := hnext
  rw [q.next_eq] at hnext'
  unfold MSG_PushMsg
  rw [dif_neg hnext]
  refine ⟨rfl, ?_⟩
  simp only [toList, count, q.next_eq, hcount _ _ hnext', List.range_succ, List.filterMap_append,
    pu8Msg_setMsg]
  congr 1
  · refine List.filterMap_congr fun k hk => ?_
    rw [if_neg (hother _ _ k (List.mem_range.mp hk))]
  · rw [List.filterMap_cons, hlast, if_pos rfl]
    rfl

theorem push_of_full {q : MSG_Queue α} (hfull : q.count = MSG_QUEUE_MAXLEN) (msg : α) :
    MSG_PushMsg q msg = (ZC_RET_ERROR, q) :=
  dif_pos (q.count_eq_max_iff.mp hfull)

theorem length_toList (q : MSG_Queue α) : q.toList.length = q.count := by
  have hused : ∀ h t : Fin (MSG_QUEUE_MAXLEN + 1), ∀ k < (h - t).val,
      decide ((h - (h - Fin.ofNat (MSG_QUEUE_MAXLEN + 1) k)).val < (h - t).val) = true := by decide
  unfold toList
  rw [List.length_filterMap_eq_countP, List.countP_eq_length.mpr, List.length_range]
  intro k hk
  rw [q.filled]
  exact hused _ _ k (List.mem_range.mp hk)

/-- A pop takes the oldest message, if there is one. -/
theorem pop_eq (q : MSG_Queue α) :
    (MSG_PopMsg q).1 = q.toList.head? ∧ (MSG_PopMsg q).2.toList = q.toList.tail := by
  by_cases hempty : q.pstruHead = q.pstruTail
  · have hnil : q.toList = [] := by
      rw [← List.length_eq_zero_iff, length_toList]
      exact q.count_eq_zero_iff.mpr hempty
    unfold MSG_PopMsg
    rw [dif_pos hempty]
    exact ⟨by rw [hnil]; rfl, by rw [hnil]; rfl⟩
  · have hcount : ∀ h t : Fin (MSG_QUEUE_MAXLEN + 1), h ≠ t → (h - t).val = (h - 1 - t).val + 1 := by
      decide
    have hshift : ∀ h t : Fin (MSG_QUEUE_MAXLEN + 1), ∀ k < (h - 1 - t).val,
        h - Fin.ofNat (MSG_QUEUE_MAXLEN + 1) (k + 1) =
          h - 1 - Fin.ofNat (MSG_QUEUE_MAXLEN + 1) k ∧
        h - 1 - Fin.ofNat (MSG_QUEUE_MAXLEN + 1) k ≠ h := by decide
    have hsome : (q.struQueue q.pstruHead).pu8Msg.isSome := by
      have h : ∀ h t : Fin (MSG_QUEUE_MAXLEN + 1), h ≠ t → (h - h).val < (h - t).val := by decide
      rw [q.filled]
      exact decide_eq_true (h _ _ hempty)
    obtain ⟨msg, hmsg⟩ := Option.isSome_iff_exists.mp hsome
    have hlist : q.toList = msg :: (List.range (q.pstruHead - 1 - q.pstruTail).val).filterMap fun k =>
        (q.struQueue (q.pstruHead - 1 - Fin.ofNat (MSG_QUEUE_MAXLEN + 1) k)).pu8Msg := by
      have hzero : q.pstruHead - Fin.ofNat (MSG_QUEUE_MAXLEN + 1) 0 = q.pstruHead := by
        have h : ∀ h : Fin (MSG_QUEUE_MAXLEN + 1), h - Fin.ofNat (MSG_QUEUE_MAXLEN + 1) 0 = h := by decide
        exact h _
      rw [toList, count, hcount _ _ hempty, List.range_succ_eq_map, List.filterMap_cons, hzero, hmsg,
        List.filterMap_map]
      refine congrArg (msg :: ·) (List.filterMap_congr fun k hk => ?_)
      rw [Function.comp_apply, (hshift _ _ k (List.mem_range.mp hk)).1]
    unfold MSG_PopMsg
    rw [dif_neg hempty, hlist, hmsg]
    refine ⟨rfl, ?_⟩
    simp only [toList, count, q.next_eq, pu8Msg_setMsg, List.tail_cons]
    refine List.filterMap_congr fun k hk => ?_
    rw [if_neg (hshift _ _ k (List.mem_range.mp hk)).2]

/-- `MSG_PushMsg` and `MSG_PopMsg` as the operations of a queue. -/
def step : Fifo.Operation α → MSG_Queue α → Fifo.Answer α × MSG_Queue α
  | .push msg, q => (.pushed (decide ((MSG_PushMsg q msg).1 = ZC_RET_OK)), (MSG_PushMsg q msg).2)
  | .pop, q => (.popped (MSG_PopMsg q).1, (MSG_PopMsg q).2)

theorem length_toList_le (q : MSG_Queue α) : q.toList.length ≤ MSG_QUEUE_MAXLEN := by
  rw [length_toList]
  exact Nat.le_of_lt_succ (q.pstruHead - q.pstruTail).isLt

/-- One operation does to the messages what it does to a queue of capacity
`MSG_QUEUE_MAXLEN`. -/
theorem step_refines (operation : Fifo.Operation α) (q : MSG_Queue α) :
    Fifo.step MSG_QUEUE_MAXLEN operation q.toList = ((step operation q).1, (step operation q).2.toList) := by
  have hle := q.length_toList_le
  cases operation with
  | push msg =>
    rw [Fifo.step, step]
    by_cases hfull : q.count = MSG_QUEUE_MAXLEN
    · rw [push_of_full hfull, if_neg (by rw [length_toList]; omega)]
      rfl
    · obtain ⟨hret, hlist⟩ := push_of_not_full hfull msg
      rw [hret, hlist, if_pos (by rw [length_toList] at hle ⊢; omega)]
      rfl
  | pop =>
    obtain ⟨hmsg, hlist⟩ := q.pop_eq
    rw [Fifo.step, step, hmsg, hlist]

theorem pstruNext_init (q : MSG_Queue α) (i : Fin (MSG_QUEUE_MAXLEN + 1)) :
    (q.struQueue i).pstruNext = ((MSG_InitQueue : MSG_Queue α).struQueue i).pstruNext := by
  rw [q.next_eq, MSG_InitQueue.next_eq]

/-- The next-pointers lead from every node to every other one. -/
theorem exists_iterate_next (q : MSG_Queue α) (i j : Fin (MSG_QUEUE_MAXLEN + 1)) :
    ∃ k ≤ MSG_QUEUE_MAXLEN, (fun i => (q.struQueue i).pstruNext)^[k] i = j := by
  have hnext : (fun i => (q.struQueue i).pstruNext) = fun i => i - 1 := funext q.next_eq
  have hcycle : ∀ i j : Fin (MSG_QUEUE_MAXLEN + 1),
      ∃ k < MSG_QUEUE_MAXLEN + 1, (fun i : Fin (MSG_QUEUE_MAXLEN + 1) => i - 1)^[k] i = j := by decide
  obtain ⟨k, hk, hj⟩ := hcycle i j
  exact ⟨k, Nat.le_of_lt_succ hk, hnext ▸ hj⟩

/-- Whatever is pushed and popped after `MSG_InitQueue`, the ring answers as a
first-in first-out queue of capacity `MSG_QUEUE_MAXLEN` and holds what that one
holds; its next-pointers stay the cycle through the four nodes. -/
theorem fifo_of_init (operations : List (Fifo.Operation α)) :
    let q := (Machine.run step operations (MSG_InitQueue : MSG_Queue α)).2
    Machine.run (Fifo.step MSG_QUEUE_MAXLEN) operations [] = ((Machine.run step operations MSG_InitQueue).1, q.toList) ∧
      (∀ msg, (MSG_PushMsg q msg).1 = ZC_RET_OK ↔ q.toList.length < MSG_QUEUE_MAXLEN) ∧
      (∀ msg, (MSG_PushMsg q msg).1 = ZC_RET_OK → (MSG_PushMsg q msg).2.toList = q.toList ++ [msg]) ∧
      (∀ msg, (MSG_PushMsg q msg).1 ≠ ZC_RET_OK → (MSG_PushMsg q msg).2 = q) ∧
      (MSG_PopMsg q).1 = q.toList.head? ∧
      ((MSG_PopMsg q).1 = none ↔ q.toList = []) ∧
      (MSG_PopMsg q).2.toList = q.toList.tail ∧
      (∀ i, (q.struQueue i).pstruNext = ((MSG_InitQueue : MSG_Queue α).struQueue i).pstruNext) ∧
      ∀ i j, ∃ k ≤ MSG_QUEUE_MAXLEN, (fun i => (q.struQueue i).pstruNext)^[k] i = j := by
  intro q
  have hpush (msg : α) : (MSG_PushMsg q msg).1 = ZC_RET_OK ↔ q.count ≠ MSG_QUEUE_MAXLEN := by
    constructor
    · intro hret hfull
      rw [push_of_full hfull] at hret
      cases hret
    · exact fun hfull => (push_of_not_full hfull msg).1
  have hrun := @Machine.run_of_refines _ _ _ _ _ _ _ (fun _ => True) (fun _ => True)
    (fun _ _ _ _ => trivial) (fun operation q _ _ => step_refines operation q) operations (fun _ _ => trivial) (MSG_InitQueue : MSG_Queue α) trivial
  refine ⟨hrun, ?_, ?_, ?_, q.pop_eq.1, ?_, q.pop_eq.2,
    q.pstruNext_init, q.exists_iterate_next⟩
  · intro msg
    have hle := q.length_toList_le
    rw [length_toList] at hle
    rw [hpush, length_toList]
    omega
  · exact fun msg hret => (push_of_not_full ((hpush msg).mp hret) msg).2
  · intro msg hret
    rw [push_of_full (not_not.mp (mt (hpush msg).mpr hret))]
  · rw [q.pop_eq.1, List.head?_eq_none_iff]

end MSG_Queue

end ZCloud
