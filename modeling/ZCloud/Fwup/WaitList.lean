import ZCloud.Lib.Runs
import Mathlib.Data.List.Nodup

open Program

namespace ZCloud

def FWUP_MSG_QUEUE_SIZE : Nat := 4

variable {ρ : Type}

/-- Where `fwup_scheduler` is. `item` is the request that it has in hand, and `next`
what `dl_list_for_each_safe` has read to go on with, where `none` is the end of the list. -/
inductive SchedulerAt (ρ : Type) where
  /-- It waits for a message. -/
  | receiving
  /-- It handles `item`. -/
  | visiting (item : ρ) (next : Option ρ)
  /-- It is at `request_finish`, and `item` is still in the list. -/
  | finishing (item : ρ) (next : Option ρ)
  /-- `item` has been deleted from the list, and is to be completed. -/
  | deleted (item : ρ) (next : Option ρ)
  /-- The loop goes on to `next`. -/
  | moving (next : Option ρ)
deriving DecidableEq

/-- The list of requests and those who work on it. `fwup_msg_queue` counts the
`FWUP_MSG_START_ENGINEER` messages, `senders` the callers of `tls_fwup_request_async`
that are about to send one; `accepted` and `completed` are what has been put in the
list, and what has been completed, the oldest first. -/
structure WaitList (ρ : Type) where
  wait_list : List ρ
  fwup_msg_queue : Nat
  senders : Nat
  scheduler : SchedulerAt ρ
  accepted : List ρ
  completed : List ρ
deriving DecidableEq

/-- The steps of the callers and of the scheduler. -/
inductive ListInput (ρ : Type) where
  /-- `tls_fwup_request_async` puts `request` in the list, under `list_lock`. -/
  | request (request : ρ)
  /-- A caller sends its message. -/
  | send
  | receive
  /-- The request in hand has been handled. -/
  | finish
  /-- It is deleted from the list, under `list_lock`. -/
  | delete
  /-- Its `complete` is called. -/
  | complete
  | moveOn

namespace WaitList

/-- The first round of `dl_list_for_each_safe`. -/
def begin : List ρ → SchedulerAt ρ
  | [] => .receiving
  | item :: rest => .visiting item rest.head?

/-- The next round of `dl_list_for_each_safe`, with what follows `next` in the list by now. -/
def resume [DecidableEq ρ] (wait_list : List ρ) : Option ρ → SchedulerAt ρ
  | none => .receiving
  | some item => .visiting item wait_list[wait_list.idxOf item + 1]?

/-- Whether a step can be taken. A request that is put in the list is a new one. -/
def enabled (s : WaitList ρ) : ListInput ρ → Prop
  | .request request => request ∉ s.accepted
  | .send => 0 < s.senders
  | .receive => s.scheduler = .receiving ∧ 0 < s.fwup_msg_queue
  | .finish => ∃ item next, s.scheduler = .visiting item next
  | .delete => ∃ item next, s.scheduler = .finishing item next
  | .complete => ∃ item next, s.scheduler = .deleted item next
  | .moveOn => ∃ next, s.scheduler = .moving next

def step [DecidableEq ρ] (s : WaitList ρ) : ListInput ρ → WaitList ρ
  | .request request =>
    { s with
      wait_list := s.wait_list ++ [request]
      senders := if s.wait_list = [] then s.senders + 1 else s.senders
      accepted := s.accepted ++ [request] }
  | .send =>
    { s with
      senders := s.senders - 1
      fwup_msg_queue := if s.fwup_msg_queue < FWUP_MSG_QUEUE_SIZE then s.fwup_msg_queue + 1 else s.fwup_msg_queue }
  | .receive => { s with fwup_msg_queue := s.fwup_msg_queue - 1, scheduler := begin s.wait_list }
  | .finish =>
    match s.scheduler with
    | .visiting item next => { s with scheduler := .finishing item next }
    | _ => s
  | .delete =>
    match s.scheduler with
    | .finishing item next => { s with wait_list := s.wait_list.erase item, scheduler := .deleted item next }
    | _ => s
  | .complete =>
    match s.scheduler with
    | .deleted item next => { s with completed := s.completed ++ [item], scheduler := .moving next }
    | _ => s
  | .moveOn =>
    match s.scheduler with
    | .moving next => { s with scheduler := resume s.wait_list next }
    | _ => s

/-- Before the first request. -/
def init : WaitList ρ := ⟨[], 0, 0, .receiving, [], []⟩

/-- The loop of the scheduler has the last request of the list in hand: it has read the
end of the list to go on with, and the request is not deleted yet. -/
def Closing (s : WaitList ρ) : Prop :=
  ∃ item, s.scheduler = .visiting item none ∨ s.scheduler = .finishing item none

/-- No request is put in the list while the loop has the last one in hand. -/
def timely (s : WaitList ρ) : ListInput ρ → Prop
  | .request _ => ¬ s.Closing
  | _ => True

/-- The scheduler is inside its loop and will visit every request of the list. -/
def VisitsAll (s : WaitList ρ) : Prop :=
  match s.scheduler with
  | .receiving => False
  | .visiting item next | .finishing item next => s.wait_list.head? = some item ∧ s.wait_list.tail.head? = next
  | .deleted _ next | .moving next => s.wait_list.head? = next

/-- The request that has been deleted but not completed. -/
def inHand (s : WaitList ρ) : List ρ :=
  match s.scheduler with
  | .deleted item _ => [item]
  | _ => []

/-- The runs from `s` to a state in which `n` steps other than new requests are taken. -/
inductive Serves [DecidableEq ρ] (allowed : WaitList ρ → ListInput ρ → Prop) (s : WaitList ρ) :
    Nat → WaitList ρ → Prop where
  | refl : Serves allowed s 0 s
  | request {n : Nat} {t : WaitList ρ} (request : ρ) (h : Serves allowed s n t) (henabled : t.enabled (.request request))
      (hallowed : allowed t (.request request)) : Serves allowed s n (t.step (.request request))
  | serve {n : Nat} {t : WaitList ρ} {input : ListInput ρ} (h : Serves allowed s n t) (henabled : t.enabled input)
      (hinput : ∀ request, input ≠ .request request) : Serves allowed s (n + 1) (t.step input)

/-- No request is stranded: while there are any, a message is on its way or the scheduler
visits them all; each is completed once, after a bounded number of steps, and until then
there always is a step to take. -/
structure Attends [DecidableEq ρ] (allowed : WaitList ρ → ListInput ρ → Prop) (s : WaitList ρ) : Prop where
  covered : s.wait_list ≠ [] → 0 < s.fwup_msg_queue ∨ 0 < s.senders ∨ s.VisitsAll
  once : s.completed ++ s.inHand ++ s.wait_list = s.accepted ∧ s.accepted.Nodup
  eventually : ∀ request ∈ s.accepted, ∃ bound, ∀ n t, Serves allowed s n t → bound ≤ n → request ∈ t.completed
  live : ∀ request ∈ s.accepted, request ∉ s.completed →
    ∃ input, s.enabled input ∧ ∀ request, input ≠ .request request

/-- How many messages are in the queue or about to be sent: one for a list that nobody
works on. -/
def Announced (s : WaitList ρ) : Prop :=
  s.fwup_msg_queue + s.senders = if s.wait_list = [] then 0 else 1

/-- The loop goes on with the first request of the list, and nothing is announced. -/
def GoesOn (s : WaitList ρ) (next : Option ρ) : Prop :=
  (∃ item rest, next = some item ∧ s.wait_list = item :: rest ∧ s.fwup_msg_queue + s.senders = 0) ∨
    next = none ∧ s.Announced

/-- What holds of the list at each place of the scheduler. -/
def Tended (s : WaitList ρ) : Prop :=
  match s.scheduler with
  | .receiving => s.Announced
  | .visiting item next | .finishing item next =>
    ∃ rest, s.wait_list = item :: rest ∧ next = rest.head? ∧ s.fwup_msg_queue + s.senders = 0
  | .deleted _ next | .moving next => s.GoesOn next

/-- The invariant of the list. -/
structure Sound (s : WaitList ρ) : Prop where
  tended : s.Tended
  accounted : s.completed ++ s.inHand ++ s.wait_list = s.accepted
  nodup : s.accepted.Nodup

variable {s t : WaitList ρ}

theorem init_sound : (init : WaitList ρ).Sound := ⟨rfl, rfl, List.nodup_nil⟩

theorem inHand_of_receiving (hat : s.scheduler = .receiving) : s.inHand = [] := by
  rw [inHand, hat]

theorem inHand_of_visiting {item : ρ} {next : Option ρ} (hat : s.scheduler = .visiting item next) : s.inHand = [] := by
  rw [inHand, hat]

theorem inHand_of_finishing {item : ρ} {next : Option ρ} (hat : s.scheduler = .finishing item next) :
    s.inHand = [] := by
  rw [inHand, hat]

theorem inHand_of_deleted {item : ρ} {next : Option ρ} (hat : s.scheduler = .deleted item next) :
    s.inHand = [item] := by
  rw [inHand, hat]

theorem inHand_of_moving {next : Option ρ} (hat : s.scheduler = .moving next) : s.inHand = [] := by
  rw [inHand, hat]

theorem Sound.covered (h : s.Sound) (hlist : s.wait_list ≠ []) :
    0 < s.fwup_msg_queue ∨ 0 < s.senders ∨ s.VisitsAll := by
  have hannounced : s.Announced → 0 < s.fwup_msg_queue ∨ 0 < s.senders ∨ s.VisitsAll := by
    intro h
    rw [Announced, if_neg hlist] at h
    omega
  have hgoes : ∀ next, s.GoesOn next → s.wait_list.head? = next ∨ s.Announced := by
    rintro next (⟨item, rest, rfl, hrest, -⟩ | ⟨-, h⟩)
    · rw [hrest]
      exact .inl rfl
    · exact .inr h
  have htended := h.tended
  unfold Tended at htended
  cases hat : s.scheduler with
  | receiving =>
    rw [hat] at htended
    exact hannounced htended
  | visiting item next =>
    rw [hat] at htended
    obtain ⟨rest, hrest, rfl, -⟩ := htended
    refine .inr (.inr ?_)
    rw [VisitsAll, hat, hrest]
    exact ⟨rfl, rfl⟩
  | finishing item next =>
    rw [hat] at htended
    obtain ⟨rest, hrest, rfl, -⟩ := htended
    refine .inr (.inr ?_)
    rw [VisitsAll, hat, hrest]
    exact ⟨rfl, rfl⟩
  | deleted item next =>
    rw [hat] at htended
    obtain hnext | h := hgoes next htended
    · refine .inr (.inr ?_)
      rw [VisitsAll, hat]
      exact hnext
    · exact hannounced h
  | moving next =>
    rw [hat] at htended
    obtain hnext | h := hgoes next htended
    · refine .inr (.inr ?_)
      rw [VisitsAll, hat]
      exact hnext
    · exact hannounced h

/-- A request that waits: it is in the list, or in hand. -/
theorem Sound.waits (h : s.Sound) {request : ρ} (hmem : request ∈ s.accepted) (hopen : request ∉ s.completed) :
    request ∈ s.inHand ∨ request ∈ s.wait_list := by
  rw [← h.accounted, List.append_assoc, List.mem_append, List.mem_append] at hmem
  exact hmem.resolve_left hopen

theorem Sound.live (h : s.Sound) {request : ρ} (hmem : request ∈ s.accepted) (hopen : request ∉ s.completed) :
    ∃ input, s.enabled input ∧ ∀ request, input ≠ .request request := by
  cases hat : s.scheduler with
  | receiving =>
    have hlist : request ∈ s.wait_list := by
      have := h.waits hmem hopen
      rw [inHand_of_receiving hat] at this
      exact this.resolve_left List.not_mem_nil
    have htended := h.tended
    rw [Tended, hat] at htended
    change s.Announced at htended
    rw [Announced, if_neg (List.ne_nil_of_mem hlist)] at htended
    by_cases hsender : 0 < s.senders
    · exact ⟨.send, hsender, nofun⟩
    · exact ⟨.receive, ⟨hat, by omega⟩, nofun⟩
  | visiting item next => exact ⟨.finish, ⟨item, next, hat⟩, nofun⟩
  | finishing item next => exact ⟨.delete, ⟨item, next, hat⟩, nofun⟩
  | deleted item next => exact ⟨.complete, ⟨item, next, hat⟩, nofun⟩
  | moving next => exact ⟨.moveOn, ⟨next, hat⟩, nofun⟩

theorem GoesOn.quiet {item : ρ} (h : s.GoesOn (some item)) : s.senders = 0 := by
  obtain ⟨_, _, -, -, hquiet⟩ | ⟨hnone, -⟩ := h
  · omega
  · cases hnone

theorem timely_of_ne {input : ListInput ρ} (hinput : ∀ request, input ≠ .request request) : s.timely input := by
  cases input with
  | request new => exact absurd rfl (hinput new)
  | _ => trivial

variable [DecidableEq ρ]

theorem Announced.request (h : s.Announced) (request : ρ) : (s.step (.request request)).Announced := by
  have hne : s.wait_list ++ [request] ≠ [] := by simp
  unfold Announced at h ⊢
  change s.fwup_msg_queue + (if s.wait_list = [] then s.senders + 1 else s.senders) =
    if s.wait_list ++ [request] = [] then 0 else 1
  rw [if_neg hne]
  split at h
  · rename_i hlist
    rw [if_pos hlist]
    omega
  · rename_i hlist
    rw [if_neg hlist]
    exact h

theorem GoesOn.request {next : Option ρ} (h : s.GoesOn next) (request : ρ) : (s.step (.request request)).GoesOn next := by
  obtain ⟨item, rest, rfl, hlist, hquiet⟩ | ⟨rfl, hannounced⟩ := h
  · refine .inl ⟨item, rest ++ [request], rfl, by simp [step, hlist], ?_⟩
    simp [step, hlist, hquiet]
  · exact .inr ⟨rfl, hannounced.request request⟩

theorem Tended.request (h : s.Tended) (request : ρ) (htimely : ¬ s.Closing) : (s.step (.request request)).Tended := by
  have hsched : (s.step (.request request)).scheduler = s.scheduler := rfl
  have hvisiting : ∀ item next, (s.scheduler = .visiting item next ∨ s.scheduler = .finishing item next) →
      (∃ rest, s.wait_list = item :: rest ∧ next = rest.head? ∧ s.fwup_msg_queue + s.senders = 0) →
      ∃ rest, (s.step (.request request)).wait_list = item :: rest ∧ next = rest.head? ∧
        (s.step (.request request)).fwup_msg_queue + (s.step (.request request)).senders = 0 := by
    rintro item next hat ⟨rest, hlist, rfl, hquiet⟩
    cases rest with
    | nil => exact absurd ⟨item, hat⟩ htimely
    | cons first rest => exact ⟨first :: rest ++ [request], by simp [step, hlist], rfl, by simp [step, hlist, hquiet]⟩
  unfold Tended at h ⊢
  rw [hsched]
  cases hat : s.scheduler with
  | receiving =>
    rw [hat] at h
    exact Announced.request h request
  | visiting item next =>
    rw [hat] at h
    exact hvisiting item next (.inl hat) h
  | finishing item next =>
    rw [hat] at h
    exact hvisiting item next (.inr hat) h
  | deleted item next =>
    rw [hat] at h
    exact GoesOn.request h request
  | moving next =>
    rw [hat] at h
    exact GoesOn.request h request

/-- A message that is sent finds room in the queue. -/
theorem Announced.send (h : s.Announced) (hsender : 0 < s.senders) : (s.step .send).Announced := by
  unfold Announced at h ⊢
  have hroom : s.fwup_msg_queue < FWUP_MSG_QUEUE_SIZE := by
    have hsize : FWUP_MSG_QUEUE_SIZE = 4 := rfl
    split at h <;> omega
  change (if s.fwup_msg_queue < FWUP_MSG_QUEUE_SIZE then s.fwup_msg_queue + 1 else s.fwup_msg_queue) + (s.senders - 1) =
    if s.wait_list = [] then 0 else 1
  rw [if_pos hroom, ← h]
  omega

theorem Tended.send (h : s.Tended) (hsender : 0 < s.senders) : (s.step .send).Tended := by
  have hgoes : ∀ next, s.GoesOn next → (s.step .send).GoesOn next := by
    rintro next (⟨item, rest, rfl, hlist, hquiet⟩ | ⟨rfl, hannounced⟩)
    · omega
    · exact .inr ⟨rfl, hannounced.send hsender⟩
  have hsched : (s.step .send).scheduler = s.scheduler := rfl
  unfold Tended at h ⊢
  rw [hsched]
  cases hat : s.scheduler with
  | receiving =>
    rw [hat] at h
    exact Announced.send h hsender
  | visiting item next =>
    rw [hat] at h
    obtain ⟨rest, -, -, hquiet⟩ := h
    omega
  | finishing item next =>
    rw [hat] at h
    obtain ⟨rest, -, -, hquiet⟩ := h
    omega
  | deleted item next =>
    rw [hat] at h
    exact hgoes next h
  | moving next =>
    rw [hat] at h
    exact hgoes next h

/-- The list that a message announces is begun from its first request. -/
theorem Tended.receive (h : s.Tended) (hat : s.scheduler = .receiving) (hmsg : 0 < s.fwup_msg_queue) :
    ∃ item rest, s.wait_list = item :: rest ∧ (s.step .receive).scheduler = .visiting item rest.head? ∧
      (s.step .receive).Tended := by
  rw [Tended, hat] at h
  change s.fwup_msg_queue + s.senders = if s.wait_list = [] then 0 else 1 at h
  cases hlist : s.wait_list with
  | nil =>
    rw [if_pos hlist] at h
    omega
  | cons item rest =>
    rw [if_neg (by rw [hlist]; exact List.cons_ne_nil _ _)] at h
    have hsched : (s.step .receive).scheduler = .visiting item rest.head? := by
      change begin s.wait_list = _
      rw [hlist]
      rfl
    refine ⟨item, rest, rfl, hsched, ?_⟩
    unfold Tended
    rw [hsched]
    refine ⟨rest, hlist, rfl, ?_⟩
    change s.fwup_msg_queue - 1 + s.senders = 0
    omega

theorem step_finish {item : ρ} {next : Option ρ} (hat : s.scheduler = .visiting item next) :
    s.step .finish = { s with scheduler := .finishing item next } := by
  simp only [step, hat]

theorem step_delete {item : ρ} {next : Option ρ} (hat : s.scheduler = .finishing item next) :
    s.step .delete = { s with wait_list := s.wait_list.erase item, scheduler := .deleted item next } := by
  simp only [step, hat]

theorem step_complete {item : ρ} {next : Option ρ} (hat : s.scheduler = .deleted item next) :
    s.step .complete = { s with completed := s.completed ++ [item], scheduler := .moving next } := by
  simp only [step, hat]

theorem step_moveOn {next : Option ρ} (hat : s.scheduler = .moving next) :
    s.step .moveOn = { s with scheduler := resume s.wait_list next } := by
  simp only [step, hat]

theorem Tended.finish {item : ρ} {next : Option ρ} (h : s.Tended) (hat : s.scheduler = .visiting item next) :
    (s.step .finish).Tended := by
  rw [Tended, hat] at h
  rw [step_finish hat]
  exact h

theorem Tended.delete {item : ρ} {next : Option ρ} (h : s.Tended) (hat : s.scheduler = .finishing item next) :
    (∃ rest, s.wait_list = item :: rest ∧ (s.step .delete).wait_list = rest) ∧ (s.step .delete).Tended := by
  rw [Tended, hat] at h
  obtain ⟨rest, hlist, rfl, hquiet⟩ := h
  rw [step_delete hat]
  have herase : s.wait_list.erase item = rest := by rw [hlist, List.erase_cons_head]
  refine ⟨⟨rest, hlist, herase⟩, ?_⟩
  change GoesOn _ rest.head?
  cases rest with
  | nil => exact .inr ⟨rfl, hquiet.trans (if_pos herase).symm⟩
  | cons first rest => exact .inl ⟨first, rest, rfl, herase, hquiet⟩

theorem Tended.complete {item : ρ} {next : Option ρ} (h : s.Tended) (hat : s.scheduler = .deleted item next) :
    (s.step .complete).Tended := by
  rw [Tended, hat] at h
  rw [step_complete hat]
  exact h

theorem Tended.moveOn {next : Option ρ} (h : s.Tended) (hat : s.scheduler = .moving next) :
    ((∃ item rest, next = some item ∧ s.wait_list = item :: rest ∧
        (s.step .moveOn).scheduler = .visiting item rest.head?) ∨
      next = none ∧ (s.step .moveOn).scheduler = .receiving) ∧ (s.step .moveOn).Tended := by
  rw [Tended, hat] at h
  rw [step_moveOn hat]
  obtain ⟨item, rest, rfl, hlist, hquiet⟩ | ⟨rfl, hannounced⟩ := h
  · have hresume : resume s.wait_list (some item) = .visiting item rest.head? := by
      rw [resume, hlist, List.idxOf_cons_self, List.head?_eq_getElem?]
      rfl
    rw [hresume]
    exact ⟨.inl ⟨item, rest, rfl, hlist, rfl⟩, rest, hlist, rfl, hquiet⟩
  · exact ⟨.inr ⟨rfl, rfl⟩, hannounced⟩

/-- Every step but an untimely request keeps the invariant. -/
theorem Sound.step {input : ListInput ρ} (h : s.Sound) (henabled : s.enabled input) (htimely : s.timely input) :
    (s.step input).Sound := by
  have haccounted := h.accounted
  cases input with
  | request request =>
    refine ⟨h.tended.request request htimely, ?_, ?_⟩
    · change s.completed ++ s.inHand ++ (s.wait_list ++ [request]) = s.accepted ++ [request]
      rw [← List.append_assoc, haccounted]
    · exact List.nodup_append.mpr ⟨h.nodup, List.nodup_singleton _, fun a ha b hb hab => by
        rw [List.mem_singleton.mp hb] at hab
        exact henabled (hab ▸ ha)⟩
  | send => exact ⟨h.tended.send henabled, haccounted, h.nodup⟩
  | receive =>
    obtain ⟨item, rest, -, hsched, htended⟩ := h.tended.receive henabled.1 henabled.2
    refine ⟨htended, ?_, h.nodup⟩
    rw [inHand_of_receiving henabled.1] at haccounted
    rw [inHand_of_visiting hsched]
    exact haccounted
  | finish =>
    obtain ⟨item, next, hat⟩ := henabled
    refine ⟨h.tended.finish hat, ?_, by rw [step_finish hat]; exact h.nodup⟩
    rw [inHand_of_visiting hat] at haccounted
    rw [step_finish hat]
    exact haccounted
  | delete =>
    obtain ⟨item, next, hat⟩ := henabled
    obtain ⟨⟨rest, hlist, hrest⟩, htended⟩ := h.tended.delete hat
    refine ⟨htended, ?_, by rw [step_delete hat]; exact h.nodup⟩
    rw [inHand_of_finishing hat, hlist] at haccounted
    rw [hrest, step_delete hat, ← haccounted]
    change s.completed ++ [item] ++ rest = _
    simp
  | complete =>
    obtain ⟨item, next, hat⟩ := henabled
    refine ⟨h.tended.complete hat, ?_, by rw [step_complete hat]; exact h.nodup⟩
    rw [inHand_of_deleted hat] at haccounted
    rw [step_complete hat, ← haccounted]
    change s.completed ++ [item] ++ [] ++ s.wait_list = _
    simp
  | moveOn =>
    obtain ⟨next, hat⟩ := henabled
    obtain ⟨hsched, htended⟩ := h.tended.moveOn hat
    refine ⟨htended, ?_, by rw [step_moveOn hat]; exact h.nodup⟩
    have hhand : (s.step .moveOn).inHand = [] := by
      obtain ⟨item, rest, -, -, hsched⟩ | ⟨-, hsched⟩ := hsched
      · exact inHand_of_visiting hsched
      · exact inHand_of_receiving hsched
    rw [inHand_of_moving hat] at haccounted
    rw [hhand, step_moveOn hat]
    exact haccounted

/-- How many steps, other than new requests, it takes at most until `request` is completed. -/
def rank (s : WaitList ρ) (request : ρ) : Nat :=
  let visit := 4 * s.wait_list.idxOf request + 4
  match s.scheduler with
  | .receiving => s.senders + 1 + visit
  | .visiting _ _ => visit
  | .finishing _ _ => visit - 1
  | .deleted item next =>
    if request = item then 2 - s.fwup_msg_queue
    else if next = none then s.senders + 3 + visit else 2 + visit
  | .moving next => if next = none then s.senders + 2 + visit else 1 + visit

variable {request : ρ}

/-- A new request does not keep the others waiting. -/
theorem Sound.rank_request (h : s.Sound) (hmem : request ∈ s.accepted) (hopen : request ∉ s.completed) (new : ρ) :
    (s.step (.request new)).rank request = s.rank request := by
  have hlisted : request ∈ s.wait_list →
      (s.step (.request new)).wait_list.idxOf request = s.wait_list.idxOf request ∧
        (s.step (.request new)).senders = s.senders := by
    intro hmem
    exact ⟨List.idxOf_append_of_mem hmem, if_neg (List.ne_nil_of_mem hmem)⟩
  have hsched : (s.step (.request new)).scheduler = s.scheduler := rfl
  have hmsg : (s.step (.request new)).fwup_msg_queue = s.fwup_msg_queue := rfl
  have hwaits := h.waits hmem hopen
  by_cases hlist : request ∈ s.wait_list
  · obtain ⟨hidx, hsenders⟩ := hlisted hlist
    rw [rank, rank, hidx, hsenders, hsched, hmsg]
  · have hhand := hwaits.resolve_right hlist
    cases hat : s.scheduler with
    | deleted item next =>
      rw [inHand_of_deleted hat] at hhand
      obtain rfl := List.mem_singleton.mp hhand
      simp only [rank, hsched, hmsg, hat, ↓reduceIte]
    | receiving => exact absurd (inHand_of_receiving hat ▸ hhand) List.not_mem_nil
    | visiting item next => exact absurd (inHand_of_visiting hat ▸ hhand) List.not_mem_nil
    | finishing item next => exact absurd (inHand_of_finishing hat ▸ hhand) List.not_mem_nil
    | moving next => exact absurd (inHand_of_moving hat ▸ hhand) List.not_mem_nil

private theorem nearer_send (h : s.Sound) (hsender : 0 < s.senders) : (s.step .send).rank request < s.rank request := by
  have hsenders : (s.step .send).senders = s.senders - 1 := rfl
  have hlist : (s.step .send).wait_list = s.wait_list := rfl
  have hsched : (s.step .send).scheduler = s.scheduler := rfl
  have htended := h.tended
  unfold Tended at htended
  cases hat : s.scheduler with
  | receiving =>
    simp only [rank, hsenders, hlist, hsched, hat]
    omega
  | visiting item next =>
    rw [hat] at htended
    obtain ⟨_, -, -, hquiet⟩ := htended
    omega
  | finishing item next =>
    rw [hat] at htended
    obtain ⟨_, -, -, hquiet⟩ := htended
    omega
  | deleted item next =>
    rw [hat] at htended
    cases next with
    | some next =>
      have := GoesOn.quiet htended
      omega
    | none =>
      obtain ⟨_, _, hnone, -⟩ | ⟨-, hannounced⟩ := htended
      · cases hnone
      · have hnone : s.fwup_msg_queue = 0 := by
          rw [Announced] at hannounced
          split at hannounced <;> omega
        have hmsg : (s.step .send).fwup_msg_queue = 1 := by
          change (if s.fwup_msg_queue < FWUP_MSG_QUEUE_SIZE then s.fwup_msg_queue + 1 else s.fwup_msg_queue) = 1
          rw [hnone]
          rfl
        simp only [rank, hsenders, hlist, hsched, hat, hmsg, hnone, ↓reduceIte]
        split <;> omega
  | moving next =>
    rw [hat] at htended
    cases next with
    | some next =>
      have := GoesOn.quiet htended
      omega
    | none =>
      simp only [rank, hsenders, hlist, hsched, hat, ↓reduceIte]
      omega

private theorem nearer_delete (h : s.Sound) (hmem : request ∈ s.accepted) (hopen : request ∉ s.completed) {item : ρ}
    {next : Option ρ} (hat : s.scheduler = .finishing item next) : (s.step .delete).rank request < s.rank request := by
  obtain ⟨⟨rest, hlist, hrest⟩, -⟩ := h.tended.delete hat
  have hwaits := h.waits hmem hopen
  have hsched : (s.step .delete).scheduler = .deleted item next := by rw [step_delete hat]
  have htended := h.tended
  rw [Tended, hat] at htended
  obtain ⟨rest', hlist', rfl, hquiet⟩ := htended
  obtain rfl : rest = rest' := (List.cons.inj (hlist.symm.trans hlist')).2
  rw [inHand_of_finishing hat, hlist, List.mem_cons] at hwaits
  by_cases hitem : request = item
  · subst hitem
    simp only [rank, hsched, hat, hlist, List.idxOf_cons_self, ↓reduceIte]
    omega
  · have hin := (hwaits.resolve_left List.not_mem_nil).resolve_left hitem
    have hnext : rest.head? ≠ none := by
      rw [ne_eq, List.head?_eq_none_iff]
      exact List.ne_nil_of_mem hin
    simp only [rank, hsched, hat, hlist, hrest, hitem, hnext, ↓reduceIte, List.idxOf_cons_ne _ (Ne.symm hitem)]
    omega

/-- Every step of a caller or of the scheduler brings a request nearer to its completion. -/
theorem Sound.nearer (h : s.Sound) {input : ListInput ρ} (hmem : request ∈ s.accepted)
    (hopen : request ∉ s.completed) (henabled : s.enabled input) (hinput : ∀ request, input ≠ .request request) :
    request ∈ (s.step input).completed ∨ (s.step input).rank request < s.rank request := by
  cases input with
  | request new => exact absurd rfl (hinput new)
  | send => exact .inr (nearer_send h henabled)
  | receive =>
    obtain ⟨item, rest, hlist, hsched, -⟩ := h.tended.receive henabled.1 henabled.2
    have hsame : (s.step .receive).wait_list = s.wait_list := rfl
    refine .inr ?_
    simp only [rank, hsched, hsame, henabled.1]
    omega
  | finish =>
    obtain ⟨item, next, hat⟩ := henabled
    refine .inr ?_
    simp only [rank, step_finish hat, hat]
    omega
  | delete =>
    obtain ⟨item, next, hat⟩ := henabled
    exact .inr (nearer_delete h hmem hopen hat)
  | complete =>
    obtain ⟨item, next, hat⟩ := henabled
    by_cases hitem : request = item
    · refine .inl ?_
      rw [step_complete hat, hitem]
      exact List.mem_append_right _ List.mem_cons_self
    · refine .inr ?_
      simp only [rank, step_complete hat, hat, hitem, ↓reduceIte]
      split <;> omega
  | moveOn =>
    obtain ⟨next, hat⟩ := henabled
    have hsame : (s.step .moveOn).wait_list = s.wait_list ∧ (s.step .moveOn).senders = s.senders := by
      rw [step_moveOn hat]
      exact ⟨rfl, rfl⟩
    refine .inr ?_
    obtain ⟨item, rest, rfl, hlist, hsched⟩ | ⟨rfl, hsched⟩ := (h.tended.moveOn hat).1
    · simp only [rank, hsched, hsame, hat, reduceCtorEq, ↓reduceIte]
      omega
    · simp only [rank, hsched, hsame, hat, ↓reduceIte]
      omega

theorem completed_step {input : ListInput ρ} (h : request ∈ s.completed) : request ∈ (s.step input).completed := by
  cases input with
  | complete =>
    simp only [step]
    split
    · exact List.mem_append_left _ h
    · exact h
  | finish =>
    simp only [step]
    split <;> exact h
  | delete =>
    simp only [step]
    split <;> exact h
  | moveOn =>
    simp only [step]
    split <;> exact h
  | _ => exact h

theorem accepted_step {input : ListInput ρ} (h : request ∈ s.accepted) : request ∈ (s.step input).accepted := by
  cases input with
  | request new => exact List.mem_append_left _ h
  | finish =>
    simp only [step]
    split <;> exact h
  | delete =>
    simp only [step]
    split <;> exact h
  | complete =>
    simp only [step]
    split <;> exact h
  | moveOn =>
    simp only [step]
    split <;> exact h
  | _ => exact h

/-- After `n` steps, a request is completed or `n` steps nearer to it. -/
theorem Sound.serves {n : Nat} (h : s.Sound) (hmem : request ∈ s.accepted) (hserves : Serves timely s n t) :
    t.Sound ∧ request ∈ t.accepted ∧ (request ∈ t.completed ∨ t.rank request + n ≤ s.rank request) := by
  induction hserves with
  | refl => exact ⟨h, hmem, .inr (Nat.le_refl _)⟩
  | @request n t new _ henabled hallowed ih =>
    obtain ⟨ht, hmem', hnear⟩ := ih
    refine ⟨ht.step henabled hallowed, accepted_step hmem', ?_⟩
    by_cases hopen : request ∈ t.completed
    · exact .inl (completed_step hopen)
    · rw [ht.rank_request hmem' hopen]
      exact .inr (hnear.resolve_left hopen)
  | @serve n t input _ henabled hinput ih =>
    obtain ⟨ht, hmem', hnear⟩ := ih
    refine ⟨ht.step henabled (timely_of_ne hinput), accepted_step hmem', ?_⟩
    by_cases hopen : request ∈ t.completed
    · exact .inl (completed_step hopen)
    · refine (ht.nearer hmem' hopen henabled hinput).imp_right fun hlt => ?_
      have := hnear.resolve_left hopen
      omega

theorem Sound.attended (h : s.Sound) : s.Attends timely := by
  refine ⟨h.covered, ⟨h.accounted, h.nodup⟩, fun request hmem => ⟨s.rank request + 1, fun n t hserves hn => ?_⟩,
    fun request hmem hopen => h.live hmem hopen⟩
  refine (h.serves hmem hserves).2.2.resolve_right fun hle => ?_
  omega

/-- A step, as a piece of the program. -/
def handle (input : ListInput ρ) : Prog (WaitList ρ) Unit := modify fun s => s.step input

/-- In every interleaving in which no request is put in the list while the scheduler has
the last one in hand, no request is stranded. -/
theorem attends (h : Runs handle (fun s input => s.enabled input ∧ s.timely input) init s) : s.Attends timely := by
  refine (h.invariant (I := Sound) init_sound fun t u input ht hallowed hrun => ?_).attended
  rw [run_modify_eq_ok.mp hrun]
  exact ht.step hallowed.1 hallowed.2

theorem runs_step {allowed : WaitList ρ → ListInput ρ → Prop} (input : ListInput ρ) (h : Runs handle allowed s t)
    (hallowed : allowed t input) : Runs handle allowed s (t.step input) :=
  .step h hallowed rfl

/-- Two requests, of which the second comes before the scheduler. -/
theorem attends_two : ∃ s : WaitList Nat, s.wait_list = [0, 1] ∧ s.Attends timely := by
  have hidle : ∀ s : WaitList Nat, s.scheduler = .receiving → ¬ s.Closing := by
    rintro s hat ⟨item, hvisiting | hfinishing⟩
    · cases hat.symm.trans hvisiting
    · cases hat.symm.trans hfinishing
  have hfirst := @runs_step Nat init init _ (fun s input => s.enabled input ∧ s.timely input) (.request 0) .refl
    ⟨List.not_mem_nil, hidle _ rfl⟩
  refine ⟨_, rfl, attends (runs_step (.request 1) hfirst ⟨?_, hidle _ rfl⟩)⟩
  show 1 ∉ [0]
  decide

/-- A request that comes while the scheduler handles the only other one: the scheduler
goes back to wait for a message, and there is none. -/
theorem stranded_request :
    ¬ ∀ s : WaitList Nat, Runs handle (fun s input => s.enabled input) init s → s.Attends fun _ _ => True := by
  intro h
  have hrun : Runs handle (fun s input => s.enabled input) (init : WaitList Nat)
      ([.request 0, .send, .receive, .request 1, .finish, .delete, .complete, .moveOn].foldl step init) := by
    refine runs_step .moveOn (runs_step .complete (runs_step .delete (runs_step .finish (runs_step (.request 1)
      (runs_step .receive (runs_step .send (runs_step (.request 0) .refl ?_) ?_) ?_) ?_) ?_) ?_) ?_) ?_
    · exact List.not_mem_nil
    · exact Nat.one_pos
    · exact ⟨rfl, Nat.one_pos⟩
    · show 1 ∉ [0]
      decide
    · exact ⟨0, none, rfl⟩
    · exact ⟨0, none, rfl⟩
    · exact ⟨0, none, rfl⟩
    · exact ⟨none, rfl⟩
  obtain hmsg | hsender | hvisits := (h _ hrun).covered (by decide)
  · exact absurd hmsg (by decide)
  · exact absurd hsender (by decide)
  · exact hvisits

end WaitList

end ZCloud
