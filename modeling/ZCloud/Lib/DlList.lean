import Mathlib.Data.List.Chain
import Mathlib.Data.List.Nodup
import Mathlib.Logic.Function.Basic

/-! A circular doubly-linked list. The nodes hold the pointers, and one of them is the
head of the list. -/

namespace DlList

variable {α : Type}

/-- The pointers of the nodes. -/
structure Links (α : Type) where
  next : α → Option α
  prev : α → Option α

namespace Links

variable [DecidableEq α]

def setNext (l : Links α) (x : α) (y : Option α) : Links α := { l with next := Function.update l.next x y }

def setPrev (l : Links α) (x : α) (y : Option α) : Links α := { l with prev := Function.update l.prev x y }

/-- A list of no items. -/
def init (l : Links α) (x : α) : Links α := (l.setNext x (some x)).setPrev x (some x)

/-- Inserts `x` behind `a`. -/
def add (l : Links α) (a x : α) : Option (Links α) := do
  let b ← l.next a
  return (((l.setNext x (some b)).setPrev x (some a)).setPrev b (some x)).setNext a (some x)

/-- Appends `x`. -/
def addTail (l : Links α) (head x : α) : Option (Links α) := do
  let last ← l.prev head
  l.add last x

/-- Takes `x` out of its list. -/
def del (l : Links α) (x : α) : Option (Links α) := do
  let b ← l.next x
  let a ← l.prev x
  return (((l.setPrev b (some a)).setNext a (some b)).setNext x none).setPrev x none

/-- What follows `x`, if that is another node. -/
def first (l : Links α) (x : α) : Option α := if l.next x = some x then none else l.next x

/-- The items from `x` on, up to the head. -/
def collect (l : Links α) (head : α) : (fuel : Nat) → (x : Option α) → List α
  | 0, _ => []
  | _ + 1, none => []
  | fuel + 1, some x => if x = head then [] else x :: l.collect head fuel (l.next x)

end Links

/-- Both pointers between `x` and `y`. -/
def Linked (l : Links α) (x y : α) : Prop := l.next x = some y ∧ l.prev y = some x

/-- The list of `head` has these items. -/
structure IsList (l : Links α) (head : α) (items : List α) : Prop where
  nodup : (head :: items).Nodup
  linked : (head :: items ++ [head]).IsChain (Linked l)

variable {l l' : Links α} {head x y : α} {items : List α}

/-- A chain is kept where its pointers are. -/
theorem isChain_of_pointers {nodes : List α} (h : nodes.IsChain (Linked l)) (hnext : ∀ a ∈ nodes.dropLast, l'.next a = l.next a)
    (hprev : ∀ b ∈ nodes.tail, l'.prev b = l.prev b) : nodes.IsChain (Linked l') := by
  rw [List.isChain_iff_forall_rel_of_append_cons_cons] at h ⊢
  intro a b before after hsplit
  have ha : a ∈ nodes.dropLast := by simp [hsplit]
  have hb : b ∈ nodes.tail := by
    rw [hsplit]
    cases before <;> simp
  exact ⟨(hnext a ha).trans (h hsplit).1, (hprev b hb).trans (h hsplit).2⟩

/-- The neighbours of an item. -/
theorem IsList.neighbours (h : IsList l head items) {p q : List α} (hsplit : items = p ++ x :: q) :
    ∃ front a b back, head :: p = front ++ [a] ∧ q ++ [head] = b :: back ∧ l.prev x = some a ∧ l.next x = some b ∧
      (front ++ [a]).IsChain (Linked l) ∧ (b :: back).IsChain (Linked l) := by
  obtain ⟨front, a, ha⟩ : ∃ front a, head :: p = front ++ [a] :=
    ⟨_, _, (List.dropLast_append_getLast (List.cons_ne_nil head p)).symm⟩
  obtain ⟨b, back, hb⟩ := List.exists_cons_of_ne_nil (show q ++ [head] ≠ [] by simp)
  have hchain := h.linked
  have hnodes : head :: items ++ [head] = front ++ a :: x :: b :: back := by
    rw [hsplit, ← List.cons_append, ha]
    simp [← hb]
  rw [hnodes, List.isChain_append_cons_cons, List.isChain_cons_cons] at hchain
  exact ⟨front, a, b, back, ha, hb, hchain.2.1.2, hchain.2.2.1.1, hchain.1, hchain.2.2.2⟩

/-- An item follows another node of the list. -/
theorem IsList.prev (h : IsList l head items) (hx : x ∈ items) : ∃ y, l.prev x = some y ∧ y ≠ x := by
  obtain ⟨p, q, hsplit⟩ := List.append_of_mem hx
  obtain ⟨front, a, b, back, ha, -, hprev, -⟩ := h.neighbours hsplit
  have hnodup := h.nodup
  rw [hsplit, ← List.cons_append, ha, List.nodup_append] at hnodup
  exact ⟨a, hprev, hnodup.2.2 a (by simp) x List.mem_cons_self⟩

/-- A list is kept where its nodes have their pointers. -/
theorem IsList.congr (h : IsList l head items) (hnext : ∀ y ∈ head :: items, l'.next y = l.next y)
    (hprev : ∀ y ∈ head :: items, l'.prev y = l.prev y) : IsList l' head items where
  nodup := h.nodup
  linked := by
    refine isChain_of_pointers h.linked (fun a ha => hnext a ?_) fun b hb => hprev b ?_
    · rwa [List.dropLast_concat] at ha
    · have hmem : b ∈ items ++ [head] := hb
      simpa [or_comm] using hmem

variable [DecidableEq α]

theorem isList_init (l : Links α) (x : α) : IsList (l.init x) x [] where
  nodup := List.nodup_singleton x
  linked := by simp [Linked, Links.init, Links.setNext, Links.setPrev]

/-- Nodes that are neither in the list nor the one inserted keep their pointers. -/
structure Keeps (l l' : Links α) (nodes : List α) : Prop where
  next : ∀ y ∉ nodes, l'.next y = l.next y
  prev : ∀ y ∉ nodes, l'.prev y = l.prev y

theorem IsList.addTail (h : IsList l head items) (hx : x ∉ head :: items) :
    ∃ l', l.addTail head x = some l' ∧ IsList l' head (items ++ [x]) ∧ Keeps l l' (x :: head :: items) := by
  obtain ⟨front, last, hlast⟩ : ∃ front last, head :: items = front ++ [last] :=
    ⟨_, _, (List.dropLast_append_getLast (List.cons_ne_nil head items)).symm⟩
  have hchain := h.linked
  rw [hlast, List.append_assoc, List.singleton_append, List.isChain_append_cons_cons] at hchain
  obtain ⟨hfront, ⟨hnext, hprev⟩, -⟩ := hchain
  have hnodup := h.nodup
  rw [hlast] at hnodup hx
  have hxlast : x ≠ last := fun heq => hx (by simp [heq])
  have hxhead : x ≠ head := fun heq => hx (by rw [← hlast, heq]; exact List.mem_cons_self)
  have hitems : items = (front ++ [last]).tail := by rw [← hlast]; rfl
  refine ⟨(((l.setNext x (some head)).setPrev x (some last)).setPrev head (some x)).setNext last (some x), ?_, ⟨?_, ?_⟩, ?_⟩
  · simp [Links.addTail, Links.add, hnext, hprev]
  · have happend : head :: (items ++ [x]) = front ++ [last] ++ [x] := by rw [← hlast]; rfl
    rw [happend, List.nodup_append_comm]
    exact List.nodup_cons.mpr ⟨hx, hnodup⟩
  · have happend : head :: (items ++ [x]) ++ [head] = front ++ last :: x :: [head] := by
      rw [← List.cons_append, hlast]
      simp
    rw [happend, List.isChain_append_cons_cons]
    refine ⟨isChain_of_pointers hfront (fun a ha => ?_) (fun b hb => ?_), ?_, ?_⟩
    · have hafront : a ∈ front := by simpa using ha
      have halast : a ≠ last := fun heq => by
        rw [List.nodup_append] at hnodup
        exact hnodup.2.2 a hafront last List.mem_cons_self heq
      have hax : a ≠ x := fun heq => hx (heq ▸ List.mem_append_left _ hafront)
      simp [Links.setNext, Links.setPrev, Function.update_of_ne, halast, hax]
    · rw [← hitems] at hb
      have hbhead : b ≠ head := fun heq => (List.nodup_cons.mp h.nodup).1 (heq ▸ hb)
      have hbx : b ≠ x := fun heq => hx (by rw [← hlast, ← heq]; exact List.mem_cons_of_mem _ hb)
      simp [Links.setNext, Links.setPrev, Function.update_of_ne, hbhead, hbx]
    · constructor
      · simp [Links.setNext, Links.setPrev]
      · simp [Links.setNext, Links.setPrev, Function.update_of_ne, hxhead]
    · refine List.isChain_pair.mpr ⟨?_, ?_⟩
      · simp [Links.setNext, Links.setPrev, Function.update_of_ne, hxlast]
      · simp [Links.setNext, Links.setPrev]
  · have hlastmem : last ∈ head :: items := by simp [hlast]
    constructor
    · intro y hy
      have hyx : y ≠ x := fun heq => hy (by simp [heq])
      have hylast : y ≠ last := fun heq => hy (List.mem_cons_of_mem _ (heq ▸ hlastmem))
      simp [Links.setNext, Links.setPrev, Function.update_of_ne, hyx, hylast]
    · intro y hy
      have hyx : y ≠ x := fun heq => hy (by simp [heq])
      have hyhead : y ≠ head := fun heq => hy (by simp [heq])
      simp [Links.setNext, Links.setPrev, Function.update_of_ne, hyx, hyhead]

/-- An item is followed by another node of the list. -/
theorem IsList.first (h : IsList l head items) (hx : x ∈ items) : ∃ y, l.first x = some y ∧ y ∈ head :: items ∧ y ≠ x := by
  obtain ⟨p, q, hsplit⟩ := List.append_of_mem hx
  obtain ⟨front, a, b, back, -, hb, -, hnext, -, -⟩ := h.neighbours hsplit
  have hnodup := h.nodup
  rw [hsplit, List.nodup_cons, List.nodup_append] at hnodup
  have hmem : b ∈ q ++ [head] := by simp [hb]
  have hne : b ≠ x := by
    rintro rfl
    rcases List.mem_append.mp hmem with hq | hhead
    · exact (List.nodup_cons.mp hnodup.2.2.1).1 hq
    · exact hnodup.1 (by simp [List.mem_singleton.mp hhead])
  refine ⟨b, ?_, ?_, hne⟩
  · rw [Links.first, hnext, if_neg (by simpa using hne)]
  · rw [hsplit]
    rcases List.mem_append.mp hmem with hq | hhead
    · simp [hq]
    · simp [List.mem_singleton.mp hhead]

/-- Deleting an item leaves the others linked. -/
theorem IsList.del (h : IsList l head items) (hx : x ∈ items) :
    ∃ l', l.del x = some l' ∧ IsList l' head (items.erase x) ∧ l'.next x = none ∧ l'.prev x = none ∧ Keeps l l' (head :: items) := by
  obtain ⟨p, q, hsplit⟩ := List.append_of_mem hx
  obtain ⟨front, a, b, back, ha, hb, hprev, hnext, hfront, hback⟩ := h.neighbours hsplit
  have hnodup := h.nodup
  rw [hsplit, ← List.cons_append, ha, List.nodup_append, List.nodup_cons] at hnodup
  obtain ⟨hfrontnodup, ⟨hxq, hqnodup⟩, hapart⟩ := hnodup
  have hheadp : head ∈ front ++ [a] := by simp [← ha]
  have hxp : x ∉ front ++ [a] := fun hmem => hapart x hmem x List.mem_cons_self rfl
  have hpq : ∀ y ∈ front ++ [a], y ∉ q := fun y hy hyq => hapart y hy y (List.mem_cons_of_mem _ hyq) rfl
  have hbacknodup : (b :: back).Nodup := by
    rw [← hb, List.nodup_append_comm]
    exact List.nodup_cons.mpr ⟨hpq head hheadp, hqnodup⟩
  have hxb : x ∉ b :: back := by
    rw [← hb, List.mem_append, List.mem_singleton]
    rintro (hmem | rfl)
    · exact hxq hmem
    · exact hxp hheadp
  have herase : items.erase x = p ++ q := by
    rw [hsplit, List.erase_append_right _ fun hmem => hxp (ha ▸ List.mem_cons_of_mem _ hmem), List.erase_cons_head]
  have hax : a ≠ x := fun heq => hxp (by simp [heq])
  have hbx : b ≠ x := fun heq => hxb (by simp [heq])
  refine ⟨(((l.setPrev b (some a)).setNext a (some b)).setNext x none).setPrev x none, ?_, ?_, ?_, ?_, ?_⟩
  · simp [Links.del, hnext, hprev]
  · rw [herase]
    constructor
    · rw [← List.cons_append, ha, List.nodup_append]
      exact ⟨hfrontnodup, hqnodup, fun y hy z hz heq => hpq y hy (heq ▸ hz)⟩
    · have hnodes : head :: (p ++ q) ++ [head] = front ++ a :: b :: back := by
        rw [← List.cons_append, ha, List.append_assoc, hb]
        simp
      rw [hnodes, List.isChain_append_cons_cons]
      refine ⟨isChain_of_pointers hfront (fun y hy => ?_) (fun y hy => ?_), ⟨?_, ?_⟩,
        isChain_of_pointers hback (fun y hy => ?_) (fun y hy => ?_)⟩
      · have hmem : y ∈ front := by simpa using hy
        have hya : y ≠ a := fun heq => (List.nodup_append.mp hfrontnodup).2.2 y hmem a List.mem_cons_self heq
        have hyx : y ≠ x := fun heq => hxp (heq ▸ List.mem_append_left _ hmem)
        simp [Links.setNext, Links.setPrev, Function.update_of_ne, hya, hyx]
      · rw [← ha] at hy
        have hyp : y ∈ p := hy
        have hyfront : y ∈ front ++ [a] := by rw [← ha]; exact List.mem_cons_of_mem _ hyp
        have hyx : y ≠ x := fun heq => hxp (heq ▸ hyfront)
        have hyb : y ≠ b := by
          rintro rfl
          have hmem : y ∈ q ++ [head] := by simp [hb]
          rcases List.mem_append.mp hmem with hyq | hyhead
          · exact hpq y hyfront hyq
          · have hnodup := h.nodup
            rw [hsplit] at hnodup
            exact (List.nodup_cons.mp hnodup).1 (List.mem_singleton.mp hyhead ▸ List.mem_append_left _ hyp)
        simp [Links.setNext, Links.setPrev, Function.update_of_ne, hyb, hyx]
      · simp [Links.setNext, Links.setPrev, Function.update_of_ne, hax]
      · simp [Links.setNext, Links.setPrev, Function.update_of_ne, hbx]
      · rw [← hb] at hy
        have hyq : y ∈ q := by simpa using hy
        have hya : y ≠ a := fun heq => hpq a (by simp) (heq ▸ hyq)
        have hyx : y ≠ x := fun heq => hxq (heq ▸ hyq)
        simp [Links.setNext, Links.setPrev, Function.update_of_ne, hya, hyx]
      · have hyback : y ∈ back := hy
        have hyb : y ≠ b := fun heq => (List.nodup_cons.mp hbacknodup).1 (heq ▸ hyback)
        have hyx : y ≠ x := fun heq => hxb (heq ▸ List.mem_cons_of_mem _ hyback)
        simp [Links.setNext, Links.setPrev, Function.update_of_ne, hyb, hyx]
  · simp [Links.setNext, Links.setPrev]
  · simp [Links.setNext, Links.setPrev]
  · have hxmem : x ∈ head :: items := List.mem_cons_of_mem _ hx
    have hamem : a ∈ head :: items := by
      rw [hsplit, ← List.cons_append, ha]
      simp
    have hbmem : b ∈ head :: items := by
      have hmem : b ∈ q ++ [head] := by simp [hb]
      rw [hsplit]
      rcases List.mem_append.mp hmem with hbq | hbhead
      · simp [hbq]
      · simp [List.mem_singleton.mp hbhead]
    constructor
    · intro y hy
      have hyx : y ≠ x := fun heq => hy (heq ▸ hxmem)
      have hya : y ≠ a := fun heq => hy (heq ▸ hamem)
      simp [Links.setNext, Links.setPrev, Function.update_of_ne, hyx, hya]
    · intro y hy
      have hyx : y ≠ x := fun heq => hy (heq ▸ hxmem)
      have hyb : y ≠ b := fun heq => hy (heq ▸ hbmem)
      simp [Links.setNext, Links.setPrev, Function.update_of_ne, hyx, hyb]

/-- Going through the list gives its items. -/
theorem IsList.collect (h : IsList l head items) {fuel : Nat} (hfuel : items.length < fuel) :
    l.collect head fuel (l.next head) = items := by
  suffices hfrom : ∀ (p q : List α) (x : α) (fuel : Nat), head :: items = p ++ x :: q → q.length < fuel →
      l.collect head fuel (l.next x) = q from hfrom [] items head fuel rfl hfuel
  intro p q
  have hrel := List.isChain_iff_forall_rel_of_append_cons_cons.mp h.linked
  induction q generalizing p with
  | nil =>
    intro x fuel hsplit hfuel
    have hlink : Linked l x head := @hrel x head p [] (by rw [hsplit]; simp)
    cases fuel with
    | zero => rfl
    | succ fuel => rw [hlink.1, Links.collect, if_pos rfl]
  | cons y q ih =>
    intro x fuel hsplit hfuel
    have hlink : Linked l x y := @hrel x y p (q ++ [head]) (by rw [hsplit]; simp)
    have hyhead : y ≠ head := by
      rintro rfl
      have hnodup := h.nodup
      rw [hsplit] at hnodup
      cases p with
      | nil =>
        rw [List.nil_append, List.cons.injEq] at hsplit
        rw [← hsplit.1] at hnodup
        simp at hnodup
      | cons z p =>
        rw [List.cons_append, List.cons.injEq] at hsplit
        rw [← hsplit.1] at hnodup
        simp at hnodup
    obtain ⟨fuel, rfl⟩ : ∃ k, fuel = k + 1 := ⟨fuel - 1, by rw [List.length_cons] at hfuel; omega⟩
    rw [hlink.1, Links.collect, if_neg hyhead, ih (p ++ [x]) y fuel (by rw [hsplit]; simp) (Nat.lt_of_succ_lt_succ hfuel)]

end DlList
